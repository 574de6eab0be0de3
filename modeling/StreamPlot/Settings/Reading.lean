import StreamPlot.Settings
import StreamPlot.Decimal.Shortest
import StreamPlot.Markup.Document
import StreamPlot.Markup.Reading

/-!
# Reading settings

Settings are read from the first document of a text, entry by entry. The first
mistake in order of the text counts: a value of the wrong type where it stands, and
a mistake in the form of the text where the content of the document runs out.
Unknown keys are passed over, and what is not given has its default.
-/

namespace StreamPlot

open Markup

/-! ### Mistakes in the content -/

/-- What was found where something else was expected. -/
inductive Found where
  | unit
  | boolean (value : Bool)
  | integer (value : Int)
  | wideInteger (value : Int)
  | float (value : Float)
  | text (text : String)
  | sequence
  | mapping
  deriving Repr, Inhabited

namespace Found

def words : Found → String
  | unit => "unit value"
  | boolean value => "boolean `" ++ (if value then "true" else "false") ++ "`"
  | integer value => "integer `" ++ value.repr ++ "`"
  | wideInteger value =>
      "integer `" ++ value.repr ++ "` as " ++ if value < 0 then "i128" else "u128"
  | float value =>
      let digits := Decimal.shortestPositional 0 value
      "floating point `" ++ digits
        ++ (if value.isFinite && !digits.toList.contains '.' then ".0" else "") ++ "`"
  | text value => "string " ++ quoted value
  | sequence => "sequence"
  | mapping => "map"

/-- What a reading is, when it is not what was expected. -/
def ofReading : Reading → Found
  | .null => unit
  | .boolean value => boolean value
  | .integer value => integer value
  | .wide value => wideInteger value
  | .float value => float value
  | .text value => text value

end Found

/-- What is wrong with a piece of content. -/
inductive ContentProblem where
  | invalidType (found : Found) (expected : String)
  | invalidValue (found : Found) (expected : String)
  | unknownVariant (name : String) (known : List String)
  | duplicateKey (name : String)
  deriving Repr, Inhabited

namespace ContentProblem

def alternatives (names : List String) : String :=
  let ticked := names.map fun name => "`" ++ name ++ "`"
  match ticked with
  | [first, second] => first ++ " or " ++ second
  | _ => "one of " ++ ", ".intercalate ticked

def words : ContentProblem → String
  | invalidType found expected => "invalid type: " ++ found.words ++ ", expected " ++ expected
  | invalidValue found expected => "invalid value: " ++ found.words ++ ", expected " ++ expected
  | unknownVariant name known =>
      "unknown variant `" ++ name ++ "`, expected " ++ alternatives known
  | duplicateKey name => "duplicate field `" ++ name ++ "`"

end ContentProblem

/-- Where a value stands among the keys. -/
inductive KeyPath where
  | root
  | key (parent : KeyPath) (name : String)
  /-- The value of a key that is not written out. -/
  | unnamed (parent : KeyPath)
  deriving DecidableEq, Repr, Inhabited

namespace KeyPath

/-- The keys down to a value, joined by points. The whole document has none. -/
def text : KeyPath → String
  | root => ""
  | key root name => name
  | key parent name => parent.text ++ "." ++ name
  | unnamed root => "?"
  | unnamed parent => parent.text ++ ".?"

end KeyPath

/-- Why settings cannot be read. -/
inductive ReadError where
  /-- A piece of content is wrong, at a known place or not. -/
  | content (problem : ContentProblem) (place : Option (KeyPath × Position))
  | form (mistake : SyntaxError)
  /-- The text goes on after the first document. -/
  | manyDocuments
  deriving Repr, Inhabited

namespace ReadError

def message : ReadError → String
  | content problem none => problem.words
  | content problem (some (path, place)) =>
      (if path = .root then "" else path.text ++ ": ") ++ problem.words ++ place.suffix
  | form mistake => mistake.message
  | manyDocuments =>
      "deserializing from YAML containing more than one document is not supported"

/-- The line of a mistake, counted from 1, or 0 if it has none. -/
def line : ReadError → Nat
  | content _ none => 0
  | content _ (some (_, place)) => place.line + 1
  | form mistake => mistake.line
  | manyDocuments => 0

/-- Give a place to a mistake that has none. -/
def located (path : KeyPath) (place : Position) : ReadError → ReadError
  | content problem none => content problem (some (path, place))
  | mistake => mistake

/-- The failure that a mistake is to the program. -/
def failure (mistake : ReadError) : Failure :=
  .settingsMalformed mistake.line mistake.message

end ReadError

/-! ### Single values -/

/-- The mistake of a document whose content runs out. -/
def runOut (document : Document) : ReadError :=
  match document.ending with
  | .broken mistake => .form mistake
  | _ => .manyDocuments

/-- The mistake that a piece of content is where something else was expected. -/
def unexpected (piece : Piece) (expected : String) : ContentProblem :=
  match piece with
  | .sequenceStart _ => .invalidType .sequence expected
  | .mappingStart _ => .invalidType .mapping expected
  | .scalar tag text style =>
      let plain : ContentProblem := .invalidType (.ofReading (.ofPlain text)) expected
      let asText : ContentProblem := .invalidType (.text text) expected
      let refuse (wanted : String) : ContentProblem := .invalidValue (.text text) wanted
      match tag with
      | none => if style == .plain then plain else asText
      | some tag =>
          match tag.scalarType? with
          | some .boolean =>
              match boolean? text with
              | some value => .invalidType (.boolean value) expected
              | none => refuse "a boolean"
          | some .integer =>
              match integer? text.toList with
              | some reading => .invalidType (.ofReading reading) expected
              | none => refuse "an integer"
          | some .float =>
              match float? text.toList with
              | some value => .invalidType (.float value) expected
              | none => refuse "a float"
          | some .nothing => if isNullWord text then .invalidType .unit expected else refuse "null"
          | none => if tag.isLocal && style == .plain then plain else asText
  | _ => .invalidType .unit expected

/-- Whether a scalar may be read as something else than a text: it is plain, or it is a
literal block with the tag of what it is to be read as. -/
def isReadable (type : ScalarType) (tag : Option Tag) : ScalarStyle → Bool
  | .plain => true
  | .literal => tag.bind Tag.scalarType? == some type
  | _ => false

/-- A whole number of at most 64 bits. -/
def readWord (expected : String) (piece : Piece) : Except ContentProblem Nat :=
  let read := match piece with
    | .scalar tag text style =>
        if isReadable .integer tag style then naturalUpTo? 18446744073709551615 text.toList
        else none
    | _ => none
  match read with
  | some value => .ok value
  | none => .error (unexpected piece expected)

/-- A whole number of at most 32 bits, which must be plain. -/
def readShortWord (piece : Piece) : Except ContentProblem Nat := do
  let value ← readWord "u32" piece
  if value < 4294967296 then return value
  throw (.invalidValue (.integer value) "u32")

def readBoolean (piece : Piece) : Except ContentProblem Bool :=
  let read := match piece with
    | .scalar tag text style => if isReadable .boolean tag style then boolean? text else none
    | _ => none
  match read with
  | some value => .ok value
  | none => .error (unexpected piece "a boolean")

/-- A text, which any scalar is. -/
def readText (expected : String) : Piece → Except ContentProblem String
  | .scalar _ text _ => .ok text
  | piece => .error (unexpected piece expected)

/-- Read the node that a list of pieces begins with, or the node that it refers to. -/
def readNode (document : Document) (path : KeyPath) (pieces : List LocatedPiece)
    (read : Piece → Except ContentProblem α) : Except ReadError α :=
  let readHere (located : LocatedPiece) : Except ReadError α :=
    (read located.piece).mapError fun problem => .content problem (some (path, located.start))
  match pieces with
  | [] => .error (runOut document)
  | ⟨.alias number, _⟩ :: _ =>
      match document.node number with
      | [] => .error (runOut document)
      | target :: _ => readHere target
  | here :: _ => readHere here

/-- The nothing that must stand behind a tag which names a variant. -/
def readNothing : Piece → Except ContentProblem Unit
  | .scalar _ text style =>
      if style == .plain && (text.isEmpty || isNullWord text) then .ok ()
      else .error (.invalidValue (.text text) "null")
  | piece => .error (unexpected piece "unit")

/-- One of some named variants, by its name or by a tag with nothing behind it. A tag
that names none of them is a mistake without a place of its own. -/
def readVariantHere (name : α → String) (all : List α) (path : KeyPath)
    (located : LocatedPiece) : Except ReadError α :=
  let find (text : String) : Except ContentProblem α :=
    match all.find? fun variant => name variant == text with
    | some variant => .ok variant
    | none => .error (.unknownVariant text (all.map name))
  let place := some (path, located.start)
  let tag := match located.piece with
    | .scalar tag _ _ => tag
    | .sequenceStart tag => tag
    | .mappingStart tag => tag
    | _ => none
  match tag.bind Tag.localName? with
  | some text => do
      let variant ← (find text).mapError fun problem => .content problem none
      (readNothing located.piece).mapError fun problem => .content problem place
      return variant
  | none =>
      match located.piece with
      | .scalar _ text _ => (find text).mapError fun problem => .content problem place
      | piece => .error (.content (unexpected piece "a YAML tag starting with '!'") place)

/-- One of some named variants, at a node or at the node that it refers to. -/
def readVariant (name : α → String) (all : List α) (document : Document) (path : KeyPath)
    (pieces : List LocatedPiece) : Except ReadError α :=
  match pieces with
  | [] => .error (runOut document)
  | ⟨.alias number, start⟩ :: _ =>
      match document.node number with
      | [] => .error (runOut document)
      | target :: _ => (readVariantHere name all path target).mapError (·.located path start)
  | here :: _ => readVariantHere name all path here

/-! ### Mappings -/

/-- How the number of open collections changes at a piece. -/
def depthAfter (depth : Nat) : Piece → Nat
  | .sequenceStart _ => depth + 1
  | .mappingStart _ => depth + 1
  | .sequenceEnd => depth - 1
  | .mappingEnd => depth - 1
  | _ => depth

/-- Divide pieces behind the node that they begin with, inside `depth` of its collections. -/
def splitNode (depth : Nat) : List LocatedPiece → List LocatedPiece × List LocatedPiece
  | [] => ([], [])
  | here :: rest =>
      let depth := depthAfter depth here.piece
      if depth = 0 then ([here], rest)
      else
        let (node, rest) := splitNode depth rest
        (here :: node, rest)

theorem splitNode_length_le (depth : Nat) (pieces : List LocatedPiece) :
    (splitNode depth pieces).2.length ≤ pieces.length := by
  induction pieces generalizing depth with
  | nil => simp [splitNode]
  | cons here rest ih =>
      simp only [splitNode]
      split
      next => simp
      next => exact Nat.le_succ_of_le (ih _)

theorem splitNode_length_lt (depth : Nat) (here : LocatedPiece) (rest : List LocatedPiece) :
    (splitNode depth (here :: rest)).2.length < (here :: rest).length := by
  simp only [splitNode]
  split
  next => simp
  next => exact Nat.lt_succ_of_le (splitNode_length_le _ _)

/-- Whether pieces hold the whole of the node that they begin with, inside `depth` of
its collections. -/
def holdsNode (depth : Nat) : List LocatedPiece → Bool
  | [] => false
  | here :: rest =>
      let depth := depthAfter depth here.piece
      depth == 0 || holdsNode depth rest

/-- A key of a mapping and its value. If the content of the document runs out, the last
entry may be cut short. -/
structure Entry where
  key : List LocatedPiece
  value : List LocatedPiece
  deriving Repr, Inhabited

/-- The entries of a mapping whose start has been passed, and whether its end is there. -/
def entries (pieces : List LocatedPiece) : List Entry × Bool :=
  match _h : pieces with
  | [] => ([], false)
  | ⟨.mappingEnd, _⟩ :: _ => ([], true)
  | here :: rest =>
      let key := splitNode 0 (here :: rest)
      let value := splitNode 0 key.2
      let others := entries value.2
      (⟨key.1, value.1⟩ :: others.1, others.2)
termination_by pieces.length
decreasing_by
  exact Nat.lt_of_le_of_lt (splitNode_length_le _ _) (splitNode_length_lt _ _ _)

/-- Pass over the value of an unknown key. -/
def passValue (document : Document) (value : List LocatedPiece) : Except ReadError Unit :=
  if holdsNode 0 value then .ok () else .error (runOut document)

/-- The path to the value of a key: a key that is not written out leaves no name. -/
def KeyPath.child (path : KeyPath) (key : List LocatedPiece) : KeyPath :=
  match key with
  | ⟨.scalar _ text _, _⟩ :: _ => path.key text
  | _ => path.unnamed

/-- Add the entries of a mapping to what is known, one after the other. -/
def readEntries (document : Document) (path : KeyPath)
    (add : α → (key : String) → KeyPath → List LocatedPiece → Except ReadError α)
    (known : α) (pieces : List LocatedPiece) : Except ReadError α := do
  let (all, ended) := entries pieces
  let known ← all.foldlM (fun known entry => do
    let key ← readNode document path entry.key (readText "field identifier")
    add known key (path.child entry.key) entry.value) known
  if ended then return known
  throw (runOut document)

/-- Read a mapping at a piece and what follows it. No text at all is an empty mapping. -/
def readMappingHere (document : Document) (path : KeyPath) (expected : String)
    (add : α → (key : String) → KeyPath → List LocatedPiece → Except ReadError α)
    (known : α) (here : LocatedPiece) (rest : List LocatedPiece) : Except ReadError α :=
  match here.piece with
  | .void => .ok known
  | .scalar _ "" .plain => .ok known
  | .mappingStart _ =>
      (readEntries document path add known rest).mapError (·.located path here.start)
  | piece => .error (.content (unexpected piece expected) (some (path, here.start)))

/-- Read a mapping at a node, or at the node that it refers to. -/
def readMapping (document : Document) (path : KeyPath) (expected : String)
    (add : α → (key : String) → KeyPath → List LocatedPiece → Except ReadError α)
    (known : α) (pieces : List LocatedPiece) : Except ReadError α :=
  match pieces with
  | [] => .error (runOut document)
  | ⟨.alias number, _⟩ :: _ =>
      match document.node number with
      | [] => .error (runOut document)
      | target :: rest => readMappingHere document path expected add known target rest
  | here :: rest => readMappingHere document path expected add known here rest

/-! ### Settings -/

/-- The settings of the picture that have been read so far. -/
structure DisplayFields where
  tickMs : Option UInt64 := none
  style : Option PlotStyle := none
  marker : Option MarkerKind := none
  recentRecords : Option UInt64 := none
  title : Option String := none
  color : Option String := none
  deriving Repr, Inhabited

namespace DisplayFields

/-- The settings of the picture, with defaults for what was not given. -/
def complete (fields : DisplayFields) : DisplaySettings :=
  let defaults : DisplaySettings := {}
  { tickMs := fields.tickMs.getD defaults.tickMs
    style := fields.style.getD defaults.style
    marker := fields.marker.getD defaults.marker
    recentRecords := fields.recentRecords.getD defaults.recentRecords
    title := fields.title.getD defaults.title
    color := fields.color.getD defaults.color }

end DisplayFields

/-- Refuse a key whose value is known already. -/
def refuseSecond (known : Option α) (key : String) : Except ReadError Unit :=
  if known.isSome then .error (.content (.duplicateKey key) none) else .ok ()

/-- Add an entry of the settings of the picture. -/
def DisplayFields.add (document : Document) (fields : DisplayFields) (key : String)
    (path : KeyPath) (value : List LocatedPiece) : Except ReadError DisplayFields := do
  match key with
  | "tick_ms" =>
      refuseSecond fields.tickMs key
      let word ← readNode document path value (readWord "u64")
      return { fields with tickMs := some (UInt64.ofNat word) }
  | "style" =>
      refuseSecond fields.style key
      return { fields with
        style := some (← readVariant PlotStyle.name PlotStyle.all document path value) }
  | "marker" =>
      refuseSecond fields.marker key
      return { fields with
        marker := some (← readVariant MarkerKind.name MarkerKind.all document path value) }
  | "recent_records" =>
      refuseSecond fields.recentRecords key
      let word ← readNode document path value (readWord "usize")
      return { fields with recentRecords := some (UInt64.ofNat word) }
  | "title" =>
      refuseSecond fields.title key
      return { fields with title := some (← readNode document path value (readText "a string")) }
  | "color" =>
      refuseSecond fields.color key
      return { fields with color := some (← readNode document path value (readText "a string")) }
  | _ =>
      passValue document value
      return fields

/-- The settings that have been read so far. -/
structure SettingsFields where
  version : Option UInt32 := none
  display : Option DisplaySettings := none
  echo : Option Bool := none
  vimKeys : Option Bool := none
  deriving Repr, Inhabited

namespace SettingsFields

/-- The settings, with defaults for what was not given. -/
def complete (fields : SettingsFields) : Settings :=
  let defaults := Settings.default
  { version := fields.version.getD defaults.version
    display := fields.display.getD defaults.display
    echo := fields.echo.getD defaults.echo
    vimKeys := fields.vimKeys.getD defaults.vimKeys }

def add (document : Document) (fields : SettingsFields) (key : String) (path : KeyPath)
    (value : List LocatedPiece) : Except ReadError SettingsFields := do
  match key with
  | "version" =>
      refuseSecond fields.version key
      let word ← readNode document path value readShortWord
      return { fields with version := some (UInt32.ofNat word) }
  | "display" =>
      refuseSecond fields.display key
      let display ← readMapping document path "struct DisplayConfig"
        (DisplayFields.add document) {} value
      return { fields with display := some display.complete }
  | "echo" =>
      refuseSecond fields.echo key
      return { fields with echo := some (← readNode document path value readBoolean) }
  | "vim_keys" =>
      refuseSecond fields.vimKeys key
      return { fields with vimKeys := some (← readNode document path value readBoolean) }
  | _ =>
      passValue document value
      return fields

end SettingsFields

/-- The settings that a document gives. A mistake behind its content comes last. -/
def Settings.ofDocument (document : Document) : Except ReadError Settings := do
  let fields ← readMapping document .root "struct Config"
    (SettingsFields.add document) {} document.pieces
  match document.ending with
  | .last => return fields.complete
  | .more => throw .manyDocuments
  | .broken mistake => throw (.form mistake)

/-- The settings that a text gives, if they can be used. -/
def Settings.parse (text : String) : Except Failure Settings := do
  let settings ← (Settings.ofDocument (.ofText text)).mapError ReadError.failure
  settings.validated

end StreamPlot
