import StreamPlot.Markup.Event.Grammar

/-!
# Documents

A document is the content of the first document of a text, as far as it could be
read. Whoever uses it goes through its pieces in order and meets the mistake that
ended it, if there is one, only where the pieces run out.
-/

namespace StreamPlot.Markup

/-- A piece of the content of a document. -/
inductive Piece where
  | void
  /-- A reference to the node of a number. -/
  | alias (number : Nat)
  | scalar (tag : Option Tag) (text : String) (style : ScalarStyle)
  | sequenceStart (tag : Option Tag)
  | sequenceEnd
  | mappingStart (tag : Option Tag)
  | mappingEnd
  deriving DecidableEq, Repr, Inhabited

/-- A piece of content and where it begins. -/
structure LocatedPiece where
  piece : Piece
  start : Position
  deriving DecidableEq, Repr, Inhabited

/-- What follows a document. -/
inductive Ending where
  | last
  | more
  | broken (mistake : SyntaxError)
  deriving DecidableEq, Repr, Inhabited

/-- The content of a document. -/
structure Document where
  pieces : List LocatedPiece
  /-- For the number of a node the place of its first piece among all pieces. -/
  nodes : List (Nat × Nat)
  ending : Ending
  deriving DecidableEq, Repr, Inhabited

namespace Document

/-- The pieces from the node of a number on. -/
def node (document : Document) (number : Nat) : List LocatedPiece :=
  match document.nodes.lookup number with
  | some place => document.pieces.drop place
  | none => []

end Document

/-- A document on the way through a text, with its pieces in reverse. -/
structure Loading where
  pieces : List LocatedPiece := []
  size : Nat := 0
  /-- For each name the number of the node that bore it last. -/
  names : List (String × Nat) := []
  nodes : List (Nat × Nat) := []
  deriving Inhabited

namespace Loading

def add (loading : Loading) (piece : Piece) (start : Position) : Loading :=
  { loading with pieces := ⟨piece, start⟩ :: loading.pieces, size := loading.size + 1 }

/-- Give the next piece a number under its name. The number is that of the names known so far. -/
def bind (loading : Loading) (anchor : Option String) : Loading :=
  match anchor with
  | none => loading
  | some name =>
      let number := loading.names.length
      { loading with
        names := (name, number) :: loading.names.filter (·.1 != name)
        nodes := (number, loading.size) :: loading.nodes }

def finish (loading : Loading) (ending : Ending) : Document :=
  ⟨loading.pieces.reverse, loading.nodes, ending⟩

end Loading

def endingAfter (grammar : Grammar) : Ending :=
  match grammar.next with
  | .ok (⟨.streamEnd, _⟩, _) => .last
  | _ => .more

/-- Read the first document of a text, in at most `room` events. -/
def loadFrom : (room : Nat) → Loading → Grammar → Document
  | 0, loading, _ => loading.finish .last
  | room + 1, loading, grammar =>
      match grammar.next with
      | .error mistake => loading.finish (.broken mistake)
      | .ok (⟨event, start⟩, grammar) =>
          match event with
          | .streamStart => loadFrom room loading grammar
          | .documentStart => loadFrom room loading grammar
          | .streamEnd => (loading.add .void start).finish .last
          | .documentEnd => loading.finish (endingAfter grammar)
          | .alias name =>
              match loading.names.lookup name with
              | some number => loadFrom room (loading.add (.alias number) start) grammar
              | none => loading.finish (.broken (.unknownAnchor start))
          | .scalar properties text style =>
              loadFrom room
                ((loading.bind properties.anchor).add (.scalar properties.tag text style) start)
                grammar
          | .sequenceStart properties =>
              loadFrom room
                ((loading.bind properties.anchor).add (.sequenceStart properties.tag) start) grammar
          | .sequenceEnd => loadFrom room (loading.add .sequenceEnd start) grammar
          | .mappingStart properties =>
              loadFrom room
                ((loading.bind properties.anchor).add (.mappingStart properties.tag) start) grammar
          | .mappingEnd => loadFrom room (loading.add .mappingEnd start) grammar

/-- The first document of a text. Every token takes a character or is implied by one,
and every event takes a token or is implied by one, which bounds their number. -/
def Document.ofText (text : String) : Document :=
  let characters := text.toList
  match forbiddenOffset? characters with
  | some offset => ⟨[], [], .broken (.forbidden offset)⟩
  | none => loadFrom (16 * (characters.length + 4)) {} (.ofText characters)

end StreamPlot.Markup
