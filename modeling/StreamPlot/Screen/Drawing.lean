import StreamPlot.Color
import StreamPlot.Text.Cluster

/-!
# Drawings and screens

A drawing is a list of strokes, each of which changes one cell. A screen is a grid of
cells; painting a drawing on it makes the strokes in order. What a drawing touches can
be read off the list, before anything is painted.
-/

namespace StreamPlot

/-- One cell of a screen. -/
structure Cell where
  /-- What it shows. A symbol of two columns leaves the next cell blank. -/
  symbol : String := " "
  color : Color := .reset
  bold : Bool := false
  deriving DecidableEq, Repr, Inhabited

/-- What a stroke does to a cell. -/
inductive Ink where
  | symbol (text : String)
  /-- Add a mark to the symbol that is shown. -/
  | mark (text : String)
  | color (color : Color)
  | bold
  | clear
  deriving DecidableEq, Repr, Inhabited

/-- A change of one cell. -/
structure Stroke where
  column : Nat
  row : Nat
  ink : Ink
  deriving DecidableEq, Repr, Inhabited

/-- Strokes in the order in which they are made. -/
abbrev Drawing := List Stroke

def Cell.after (cell : Cell) : Ink → Cell
  | .symbol text => { cell with symbol := text }
  | .mark text => { cell with symbol := cell.symbol ++ text }
  | .color color => { cell with color }
  | .bold => { cell with bold := true }
  | .clear => {}

/-- A rectangle of cells. -/
structure Area where
  left : Nat
  top : Nat
  width : Nat
  height : Nat
  deriving DecidableEq, Repr, Inhabited

namespace Area

/-- The first column to the right of an area. -/
def right (area : Area) : Nat := area.left + area.width

/-- The first row below an area. -/
def bottom (area : Area) : Nat := area.top + area.height

def isEmpty (area : Area) : Bool := area.width == 0 || area.height == 0

def Holds (area : Area) (column row : Nat) : Prop :=
  (area.left ≤ column ∧ column < area.right) ∧ area.top ≤ row ∧ row < area.bottom

instance (area : Area) (column row : Nat) : Decidable (area.Holds column row) :=
  inferInstanceAs (Decidable ((_ ∧ _) ∧ _ ∧ _))

/-- The area inside a border of one cell. -/
def inner (area : Area) : Area :=
  ⟨min (area.left + 1) area.right, min (area.top + 1) area.bottom,
    area.width - 2, area.height - 2⟩

/-- The columns of an area, from left to right. -/
def columns (area : Area) : List Nat := List.range' area.left area.width

/-- The rows of an area, from the top. -/
def rows (area : Area) : List Nat := List.range' area.top area.height

/-- The same stroke on every cell of an area. -/
def fill (area : Area) (ink : Ink) : Drawing :=
  area.rows.flatMap fun row => area.columns.map fun column => ⟨column, row, ink⟩

end Area

/-- Whether all strokes of a drawing lie in an area. -/
def Drawing.Within (drawing : Drawing) (area : Area) : Prop :=
  ∀ stroke ∈ drawing, area.Holds stroke.column stroke.row

/-- A grid of cells, row by row. -/
structure Screen where
  width : Nat
  height : Nat
  cells : Array Cell
  deriving Repr, Inhabited

namespace Screen

def blank (width height : Nat) : Screen where
  width := width
  height := height
  cells := Array.replicate (width * height) {}

/-- Make one stroke. Outside the screen there is nothing to change. -/
def stroke (screen : Screen) (stroke : Stroke) : Screen :=
  if stroke.column < screen.width ∧ stroke.row < screen.height then
    { screen with
      cells := screen.cells.modify (stroke.row * screen.width + stroke.column)
        (·.after stroke.ink) }
  else screen

/-- Make the strokes of a drawing in order. -/
def paint (screen : Screen) (drawing : Drawing) : Screen :=
  drawing.foldl stroke screen

/-- The cells of a row, from left to right. -/
def row (screen : Screen) (row : Nat) : List Cell :=
  (screen.cells.extract (row * screen.width) ((row + 1) * screen.width)).toList

def rows (screen : Screen) : List (List Cell) :=
  (List.range screen.height).map screen.row

def text (screen : Screen) : List String :=
  screen.rows.map fun cells => String.join (cells.map Cell.symbol)

def styleText (cell : Cell) : String :=
  cell.color.text ++ if cell.bold then "+bold" else ""

/-- The colors and weights of a row: how many cells in a line have which. -/
def styleRuns (cells : List Cell) : String :=
  let runs := (cells.map styleText).splitBy (· == ·)
  " ".intercalate (runs.map fun run => run.length.repr ++ "*" ++ run.headD "")

def styles (screen : Screen) : List String := screen.rows.map styleRuns

@[simp] theorem stroke_width (screen : Screen) (stroke : Stroke) :
    (screen.stroke stroke).width = screen.width := by
  unfold Screen.stroke; split <;> rfl

@[simp] theorem stroke_height (screen : Screen) (stroke : Stroke) :
    (screen.stroke stroke).height = screen.height := by
  unfold Screen.stroke; split <;> rfl

@[simp] theorem stroke_size (screen : Screen) (stroke : Stroke) :
    (screen.stroke stroke).cells.size = screen.cells.size := by
  unfold Screen.stroke; split <;> simp

end Screen

end StreamPlot
