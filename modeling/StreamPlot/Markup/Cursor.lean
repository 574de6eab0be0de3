import StreamPlot.Markup.Problem

/-!
# Reading a text character by character

A cursor is what is left of a text and the place where that begins. Lines end at
a carriage return with or without a line feed, a line feed, a next-line character,
or one of the two Unicode separators; all but the separators become line feeds.
-/

namespace StreamPlot.Markup

def isBlank (c : Char) : Bool := c == ' ' || c == '\t'

def isBreak (c : Char) : Bool :=
  c == '\n' || c == '\r' || c.toNat == 0x85 || c.toNat == 0x2028 || c.toNat == 0x2029

/-- A character of a name: a letter or digit of ASCII, a hyphen or an underscore. -/
def isNameChar (c : Char) : Bool :=
  c.isAlphanum || c == '-' || c == '_'

/-- Whether a character may stand in a text at all. -/
def isAllowed (c : Char) : Bool :=
  let code := c.toNat
  code == 0x9 || code == 0xA || code == 0xD || (0x20 ≤ code && code ≤ 0x7E) || code == 0x85
    || (0xA0 ≤ code && code ≤ 0xD7FF) || (0xE000 ≤ code && code ≤ 0xFFFD)
    || (0x10000 ≤ code && code ≤ 0x10FFFF)

/-- The number of bytes before the first character that may not stand in a text. -/
def forbiddenOffset? (text : List Char) : Option Nat :=
  let good := text.takeWhile isAllowed
  if good.length < text.length then some (good.foldl (fun total c => total + c.utf8Size) 0)
  else none

/-- What is left of a text, and where. -/
structure Cursor where
  rest : List Char
  position : Position := {}
  deriving DecidableEq, Repr, Inhabited

namespace Cursor

/-- The character at a distance from the cursor, unless the text ends before. -/
def peek (cursor : Cursor) (distance : Nat) : Option Char := cursor.rest[distance]?

/-- Whether the character at a distance is the given one. -/
def sees (cursor : Cursor) (distance : Nat) (c : Char) : Bool :=
  cursor.peek distance == some c

/-- Whether the character at a distance satisfies a property. -/
def seesAny (cursor : Cursor) (distance : Nat) (property : Char → Bool) : Bool :=
  (cursor.peek distance).any property

def atEnd (cursor : Cursor) : Bool := cursor.rest.isEmpty

/-- Whether the text ends here or goes on in the next line. -/
def breakOrEnd (cursor : Cursor) (distance : Nat) : Bool :=
  match cursor.peek distance with
  | none => true
  | some c => isBreak c

/-- Whether a blank, a line end or the end of the text stands at a distance. -/
def blankOrEnd (cursor : Cursor) (distance : Nat) : Bool :=
  match cursor.peek distance with
  | none => true
  | some c => isBlank c || isBreak c

def skip (cursor : Cursor) : Cursor :=
  match cursor.rest with
  | [] => cursor
  | c :: rest => ⟨rest, cursor.position.next c.utf8Size⟩

def skipMany : Nat → Cursor → Cursor
  | 0, cursor => cursor
  | count + 1, cursor => skipMany count cursor.skip

/-- Pass a line end, if there is one here. -/
def skipLine (cursor : Cursor) : Cursor :=
  match cursor.rest with
  | '\r' :: '\n' :: rest => ⟨rest, cursor.position.nextLine 2⟩
  | c :: rest => if isBreak c then ⟨rest, cursor.position.nextLine c.utf8Size⟩ else cursor
  | [] => cursor

/-- What the line end at the cursor counts as in the content of a scalar. -/
def breakText (cursor : Cursor) : List Char :=
  match cursor.rest with
  | c :: _ =>
      if c.toNat == 0x2028 || c.toNat == 0x2029 then [c] else if isBreak c then ['\n'] else []
  | [] => []

/-- Pass the characters with a property, none of which ends a line. -/
def skipWhile (property : Char → Bool) (cursor : Cursor) : Cursor :=
  skipMany (cursor.rest.takeWhile property).length cursor

/-- The characters with a property at the cursor, none of which ends a line, and the
cursor behind them. -/
def takeWhile (property : Char → Bool) (cursor : Cursor) : List Char × Cursor :=
  let taken := cursor.rest.takeWhile property
  (taken, skipMany taken.length cursor)

def skipBlanks (cursor : Cursor) : Cursor := cursor.skipWhile isBlank

/-- Pass all that is left of the line, but not its end. -/
def skipToBreak (cursor : Cursor) : Cursor := cursor.skipWhile fun c => !isBreak c

def skipComment (cursor : Cursor) : Cursor :=
  if cursor.sees 0 '#' then cursor.skipToBreak else cursor

/-- Whether three given characters and then a blank or an end stand at the start of
the line. -/
def marksDocument (cursor : Cursor) (c : Char) : Bool :=
  cursor.position.column == 0 && cursor.sees 0 c && cursor.sees 1 c && cursor.sees 2 c
    && cursor.blankOrEnd 3

/-- Whether the start or the end of a document is marked here. -/
def atDocumentMark (cursor : Cursor) : Bool :=
  cursor.marksDocument '-' || cursor.marksDocument '.'

@[simp] theorem skipMany_zero (cursor : Cursor) : skipMany 0 cursor = cursor := rfl

theorem skip_length_le (cursor : Cursor) : cursor.skip.rest.length ≤ cursor.rest.length := by
  unfold skip
  split
  next => exact Nat.le_refl _
  next h => simp [h]

theorem skipMany_length_le (count : Nat) (cursor : Cursor) :
    (skipMany count cursor).rest.length ≤ cursor.rest.length := by
  induction count generalizing cursor with
  | zero => exact Nat.le_refl _
  | succ count ih => exact Nat.le_trans (ih cursor.skip) (skip_length_le cursor)

theorem skipLine_length_le (cursor : Cursor) :
    cursor.skipLine.rest.length ≤ cursor.rest.length := by
  unfold skipLine
  split
  next h => simp [h]; omega
  next h => split <;> simp [h]
  next => exact Nat.le_refl _

/-- Passing a line end that is there leaves less of the text. -/
theorem skipLine_length_lt {cursor : Cursor} {c : Char} {rest : List Char}
    (h : cursor.rest = c :: rest) (hbreak : isBreak c = true) :
    cursor.skipLine.rest.length < cursor.rest.length := by
  unfold skipLine
  split
  next h' => simp only [h', List.length_cons]; omega
  next c' rest' _ h' =>
    rw [h] at h'
    cases h'
    simp [hbreak, h]
  next h' => simp [h] at h'

/-- Passing a character that is there leaves less of the text. -/
theorem skip_length_lt {cursor : Cursor} {c : Char} {rest : List Char}
    (h : cursor.rest = c :: rest) : cursor.skip.rest.length < cursor.rest.length := by
  simp [skip, h]

end Cursor

end StreamPlot.Markup
