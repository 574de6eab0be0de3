import StreamPlot.Markup.Token

/-!
# Events

Events are the content of a text in document order: scalars, the starts and ends of
sequences and mappings, and references to nodes that bear a name.
-/

namespace StreamPlot.Markup

/-- What a node may have besides its content. -/
structure NodeProperties where
  /-- The name under which the node can be referred to. -/
  anchor : Option String := none
  /-- The full tag of the node. -/
  tag : Option Tag := none
  deriving DecidableEq, Repr, Inhabited

/-- A piece of content. -/
inductive Event where
  | streamStart
  | streamEnd
  | documentStart
  | documentEnd
  | alias (name : String)
  | scalar (properties : NodeProperties) (text : String) (style : ScalarStyle)
  | sequenceStart (properties : NodeProperties)
  | sequenceEnd
  | mappingStart (properties : NodeProperties)
  | mappingEnd
  deriving DecidableEq, Repr, Inhabited

/-- A piece of content and where it begins. -/
structure LocatedEvent where
  event : Event
  start : Position
  deriving DecidableEq, Repr, Inhabited

end StreamPlot.Markup
