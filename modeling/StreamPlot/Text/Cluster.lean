import StreamPlot.Text.Extend
import StreamPlot.Text.Columns

/-!
# Clusters

A cluster is a sequence of characters that is shown as one symbol. Text is cut
between clusters only.
-/

namespace StreamPlot

/-- What a character does to the boundary with its neighbours. -/
inductive ClusterClass where
  | carriageReturn
  | lineFeed
  | control
  | extend
  | joiner
  | regional
  | spacingMark
  | prepend
  | leading
  | vowel
  | trailing
  | openSyllable
  | closedSyllable
  | other
  deriving DecidableEq, Repr, Inhabited

/-- The code points that stand alone: controls, formats and line separators. -/
def controlRanges : Array (Nat × Nat) := #[
  (0x0, 0x9), (0xB, 0xC), (0xE, 0x1F), (0x7F, 0x9F), (0xAD, 0xAD), (0x61C, 0x61C),
  (0x180E, 0x180E), (0x200B, 0x200B), (0x200E, 0x200F), (0x2028, 0x202E), (0x2060, 0x206F),
  (0xFEFF, 0xFEFF), (0xFFF0, 0xFFFB), (0x13430, 0x1343F), (0x1BCA0, 0x1BCA3),
  (0x1D173, 0x1D17A), (0xE0000, 0xE001F), (0xE0080, 0xE00FF), (0xE01F0, 0xE0FFF)]

/-- The code points that belong to the character after them. -/
def prependRanges : Array (Nat × Nat) := #[
  (0x600, 0x605), (0x6DD, 0x6DD), (0x70F, 0x70F), (0x890, 0x891), (0x8E2, 0x8E2),
  (0xD4E, 0xD4E), (0x110BD, 0x110BD), (0x110CD, 0x110CD), (0x111C2, 0x111C3),
  (0x113D1, 0x113D1), (0x1193F, 0x1193F), (0x11941, 0x11941), (0x11A84, 0x11A89),
  (0x11D46, 0x11D46), (0x11F02, 0x11F02)]

/-- Whether a code point is a vowel of Hangul, or a vowel sign of Kirat Rai, which behaves
like one. -/
def isHangulVowel (code : Nat) : Bool :=
  (0x1160 ≤ code && code ≤ 0x11A7) || (0xD7B0 ≤ code && code ≤ 0xD7C6) || code == 0x16D63
    || (0x16D67 ≤ code && code ≤ 0x16D6A)

/-- Whether a code point is a Hangul final consonant. -/
def isHangulTrailing (code : Nat) : Bool :=
  (0x11A8 ≤ code && code ≤ 0x11FF) || (0xD7CB ≤ code && code ≤ 0xD7FB)

/-- The class of a character. -/
def ClusterClass.of (c : Char) : ClusterClass :=
  let code := c.toNat
  if c == '\r' then carriageReturn
  else if c == '\n' then lineFeed
  else if 0x20 ≤ code && code ≤ 0x7E then other
  else if inRanges controlRanges code then control
  else if code == 0x200D then joiner
  else if isGraphemeExtend c || isSkinTone c then extend
  else if isRegionalIndicator c then regional
  else if isSpacingMark c then spacingMark
  else if inRanges prependRanges code then prepend
  else if (0x1100 ≤ code && code ≤ 0x115F) || (0xA960 ≤ code && code ≤ 0xA97C) then leading
  else if isHangulVowel code then vowel
  else if isHangulTrailing code then trailing
  else if 0xAC00 ≤ code && code ≤ 0xD7A3 then
    if (code - 0xAC00) % 28 == 0 then openSyllable else closedSyllable
  else other

/-- How far a cluster has got that may continue across a boundary. -/
structure ClusterState where
  last : ClusterClass
  /-- Whether an odd number of flag halves stands at the end. -/
  oddRegional : Bool := false
  /-- Whether the end is a pictograph with extensions. -/
  pictograph : Bool := false
  /-- Whether the end is a pictograph with extensions and a joiner. -/
  joinable : Bool := false
  /-- Whether the end is a consonant with extensions. -/
  consonant : Bool := false
  /-- Whether a linker is among those extensions. -/
  linked : Bool := false

namespace ClusterState

/-- The state after a character that begins or continues a cluster. -/
def after (state : Option ClusterState) (c : Char) : ClusterState :=
  let cls := ClusterClass.of c
  let extended := state.any (·.consonant) && (cls == .extend || cls == .joiner)
    && c.toNat != 0x200C
  { last := cls
    oddRegional := cls == .regional && !(state.any (·.oddRegional))
    pictograph := isPictograph c || (cls == .extend && state.any (·.pictograph))
    joinable := cls == .joiner && state.any (·.pictograph)
    consonant := isConjunctConsonant c || extended
    linked := extended && (isConjunctLinker c || state.any (·.linked)) }

/-- Whether the next character belongs to the same cluster. -/
def joins (state : ClusterState) (c : Char) : Bool :=
  let next := ClusterClass.of c
  match state.last, next with
  | .carriageReturn, .lineFeed => true
  | .carriageReturn, _ => false
  | .lineFeed, _ => false
  | .control, _ => false
  | _, .carriageReturn => false
  | _, .lineFeed => false
  | _, .control => false
  | _, .extend => true
  | _, .joiner => true
  | _, .spacingMark => true
  | .prepend, _ => true
  | .leading, .leading => true
  | .leading, .vowel => true
  | .leading, .openSyllable => true
  | .leading, .closedSyllable => true
  | .openSyllable, .vowel => true
  | .openSyllable, .trailing => true
  | .vowel, .vowel => true
  | .vowel, .trailing => true
  | .closedSyllable, .trailing => true
  | .trailing, .trailing => true
  | .regional, .regional => state.oddRegional
  | _, _ =>
      (state.joinable && isPictograph c)
        || (state.linked && isConjunctConsonant c)

end ClusterState

/-- Divide what follows the cluster `current`, which is given in reverse. -/
def clustersFrom (state : ClusterState) (current : List Char) : List Char → List (List Char)
  | [] => [current.reverse]
  | c :: rest =>
      if state.joins c then clustersFrom (.after (some state) c) (c :: current) rest
      else current.reverse :: clustersFrom (.after none c) [c] rest

/-- The clusters of a text, in order. -/
def clusters (text : List Char) : List (List Char) :=
  match text with
  | [] => []
  | c :: rest => clustersFrom (.after none c) [c] rest

/-- A symbol of the screen: the text of a cluster and its columns. -/
structure Symbol where
  text : String
  width : Nat
  deriving DecidableEq, Repr, Inhabited

/-- The symbols of a text. -/
def symbols (text : String) : List Symbol :=
  (clusters text.toList).map fun cluster => ⟨String.ofList cluster, textColumns cluster⟩

/-- The lines of a text, without their ends. -/
def textLines (text : String) : List String :=
  let parts := text.toList.splitBy fun a _ => a != '\n'
  parts.map fun part =>
    let body := if part.getLast? == some '\n' then part.dropLast else part
    let body := if part.getLast? == some '\n' && body.getLast? == some '\r' then body.dropLast
      else body
    String.ofList body

end StreamPlot
