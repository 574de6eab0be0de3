/-!
# Positions in a text

A position counts bytes, lines and the characters of a line, each from zero.
It is shown with lines and columns counted from one.
-/

namespace StreamPlot.Markup

/-- A place in a text. -/
structure Position where
  /-- The bytes before it. -/
  offset : Nat := 0
  /-- The lines before its own. -/
  line : Nat := 0
  /-- The characters before it in its line. -/
  column : Nat := 0
  deriving DecidableEq, Repr, Inhabited

namespace Position

/-- The place after a character of some bytes that ends no line. -/
def next (position : Position) (bytes : Nat) : Position :=
  { position with offset := position.offset + bytes, column := position.column + 1 }

/-- The place at the start of the next line, after a line end of some bytes. -/
def nextLine (position : Position) (bytes : Nat) : Position :=
  ⟨position.offset + bytes, position.line + 1, 0⟩

/-- Whether this is the first place of the first line. -/
def isStart (position : Position) : Bool :=
  position.line == 0 && position.column == 0

/-- Whether two places have the same line and column. -/
def sameSpot (a b : Position) : Bool :=
  a.line == b.line && a.column == b.column

/-- A place as text. -/
def text (position : Position) : String :=
  "line " ++ (position.line + 1).repr ++ " column " ++ (position.column + 1).repr

/-- The words that append a place to a message. The start is not worth mentioning. -/
def suffix (position : Position) : String :=
  if position.isStart then "" else " at " ++ position.text

end Position

end StreamPlot.Markup
