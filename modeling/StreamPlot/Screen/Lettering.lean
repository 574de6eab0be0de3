import StreamPlot.Screen.Drawing

/-!
# Writing on a screen

Text is written symbol by symbol and stops before the first that does not fit. A
label, which is plain ASCII, is shifted in its room, or cut where there is too
little of it.
-/

namespace StreamPlot

/-- On which side of its room a label stands. -/
inductive Alignment where
  | left
  | center
  | right
  deriving DecidableEq, Repr, Inhabited

/-- Write the symbols of a piece of a heading, of which `begun` says whether it has
begun, from a column up to `right`. A symbol without a column of its own is added to
the one before; the cells behind a wide symbol are made blank. -/
def headingFrom (row start right : Nat) : (begun : Bool) → (column : Nat) → List Symbol →
    Drawing
  | _, _, [] => []
  | begun, column, symbol :: rest =>
      let next := column + symbol.width
      if next > right then []
      else
        let first : Stroke :=
          if !begun then ⟨column, row, .symbol symbol.text⟩
          else if column == start then ⟨column, row, .mark symbol.text⟩
          else if symbol.width == 0 then ⟨column - 1, row, .mark symbol.text⟩
          else ⟨column, row, .symbol symbol.text⟩
        let hidden : Drawing := (List.range' (column + 1) (symbol.width - 1)).map fun column =>
          ⟨column, row, .clear⟩
        first :: hidden ++ headingFrom row start right true next rest

/-- Write the pieces of a heading one behind the other, but not those without a column. -/
def headingPieces (row right : Nat) : (column : Nat) → List String → Drawing
  | _, [] => []
  | column, piece :: rest =>
      let width := textColumns piece.toList
      if width = 0 then headingPieces row right column rest
      else if column < right then
        headingFrom row column right false column (symbols piece)
          ++ headingPieces row right (column + width) rest
      else []

/-- Write a heading into a part of a row. The lines of its text follow each other. -/
def heading (row column width : Nat) (text : String) : Drawing :=
  let lines := textLines text
  let needed := lines.foldl (fun total line => total + textColumns line.toList) 0
  headingPieces row (column + min needed width) column lines

/-- The symbols of a line that fit into a width, and have a column at all. One that is
wider than the whole width is left out. -/
def fitting (width : Nat) : (used : Nat) → List Symbol → List Symbol
  | _, [] => []
  | used, symbol :: rest =>
      if symbol.width > width then fitting width used rest
      else if used + symbol.width > width then []
      else if symbol.width == 0 then fitting width used rest
      else symbol :: fitting width (used + symbol.width) rest

def writeSymbols (row : Nat) (inks : List Ink) : (column : Nat) → List Symbol → Drawing
  | _, [] => []
  | column, symbol :: rest =>
      (Ink.symbol symbol.text :: inks).map (⟨column, row, ·⟩)
        ++ writeSymbols row inks (column + symbol.width) rest

/-- Write a line into a part of a row, in given colors. -/
def writeLine (row column width : Nat) (inks : List Ink) (line : String) : Drawing :=
  writeSymbols row inks column (fitting width 0 (symbols line))

/-- How far a label of some length is shifted in its room, and how many of its
characters are lost at its left end. -/
def Alignment.place (alignment : Alignment) (length width : Nat) : Nat × Nat :=
  match alignment with
  | left => (0, 0)
  | center => ((width - length) / 2, (length - width) / 2)
  | right => (width - length, length - width)

def label (row column width : Nat) (alignment : Alignment) (text : String) : Drawing :=
  let (shift, lost) := alignment.place text.length width
  let shown := (text.toList.drop lost).take (width - shift)
  shown.mapIdx fun index c => ⟨column + shift + index, row, .symbol (String.singleton c)⟩

end StreamPlot
