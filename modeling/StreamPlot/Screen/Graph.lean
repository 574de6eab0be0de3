import StreamPlot.Bounds
import StreamPlot.Settings
import StreamPlot.Screen.Drawing

/-!
# The graph

Points are drawn on a grid of dots, of which a cell holds one or, in braille, two by
four. Two points are joined by the dots of a line that goes one dot at a time along
its longer side.
-/

namespace StreamPlot

/-- A place on the grid of dots, from the top left. -/
structure Dot where
  column : Nat
  row : Nat
  deriving DecidableEq, Repr, Inhabited

namespace MarkerKind

def dotsAcross : MarkerKind → Nat
  | braille => 2
  | dot => 1
  | block => 1

def dotsDown : MarkerKind → Nat
  | braille => 4
  | dot => 1
  | block => 1

/-- The part that a dot has in the pattern of its cell. -/
def bit (kind : MarkerKind) (spot : Dot) : Nat :=
  match kind with
  | braille =>
      let column := spot.column % 2
      match spot.row % 4 with
      | 0 => if column = 0 then 0x01 else 0x08
      | 1 => if column = 0 then 0x02 else 0x10
      | 2 => if column = 0 then 0x04 else 0x20
      | _ => if column = 0 then 0x40 else 0x80
  | dot => 1
  | block => 1

/-- The symbol of a cell with a pattern of dots. -/
def symbol (kind : MarkerKind) (pattern : Nat) : String :=
  match kind with
  | braille => String.singleton (Char.ofNat (0x2800 + pattern))
  | dot => "•"
  | block => "█"

end MarkerKind

/-- The dot at which a point is drawn, on a grid of some columns and rows. A point
outside the window has none, and neither has any point in a window without extent. -/
def dotOf? (window : Window) (columns rows : Nat) (point : Point) : Option Dot :=
  let left := window.x.lo
  let right := window.x.hi
  let bottom := window.y.lo
  let top := window.y.hi
  if point.x < left || point.x > right || point.y < bottom || point.y > top then none
  else
    let width := (right - left).abs
    let height := (top - bottom).abs
    if width == 0.0 || height == 0.0 then none
    else some
      { column := ((point.x - left) * ((columns.toUInt64).toFloat - 1.0) / width).toUInt64.toNat
        row := ((top - point.y) * ((rows.toUInt64).toFloat - 1.0) / height).toUInt64.toNat }

/-- The whole numbers from the lesser to the greater of two, both included. -/
def between (a b : Nat) : List Nat := List.range' (min a b) (max a b - min a b + 1)

/-- The heights of a line that rises or falls by no more than one at each of `count`
steps, for its error so far: whenever the error is positive the height changes. -/
def slopeFrom (length height : Int) (rising : Bool) : (count : Nat) → (error : Int) →
    (across : Nat) → List Nat
  | 0, _, _ => []
  | count + 1, error, across =>
      let (next, error) :=
        if error > 0 then (if rising then across + 1 else across - 1, error - 2 * length)
        else (across, error)
      across :: slopeFrom length height rising count (error + 2 * height) next

/-- The dots of a line along its longer side: pairs of the place along it and the place
across it. The line goes from the lesser place along to the greater. -/
def slope (fromAlong fromAcross toAlong toAcross : Nat) : List (Nat × Nat) :=
  let length : Int := (toAlong : Int) - fromAlong
  let height : Int := ((toAcross : Int) - fromAcross).natAbs
  let count := toAlong - fromAlong + 1
  (List.range' fromAlong count).zip
    (slopeFrom length height (fromAcross < toAcross) count (2 * height - length) fromAcross)

/-- The dots of the line between two dots. -/
def joint (a b : Dot) : List Dot :=
  let across := max a.column b.column - min a.column b.column
  let down := max a.row b.row - min a.row b.row
  if across = 0 then (between a.row b.row).map fun row => ⟨a.column, row⟩
  else if down = 0 then (between a.column b.column).map fun column => ⟨column, a.row⟩
  else if down < across then
    let (first, last) := if a.column > b.column then (b, a) else (a, b)
    (slope first.column first.row last.column last.row).map fun spot => ⟨spot.1, spot.2⟩
  else
    let (first, last) := if a.row > b.row then (b, a) else (a, b)
    (slope first.row first.column last.row last.column).map fun spot => ⟨spot.2, spot.1⟩

/-- The pattern of dots in each cell of a graph, row by row. -/
structure Graph where
  width : Nat
  height : Nat
  marker : MarkerKind
  patterns : Array Nat

namespace Graph

def blank (width height : Nat) (marker : MarkerKind) : Graph where
  width := width
  height := height
  marker := marker
  patterns := Array.replicate (width * height) 0

def columns (graph : Graph) : Nat := graph.width * graph.marker.dotsAcross

def rows (graph : Graph) : Nat := graph.height * graph.marker.dotsDown

def add (graph : Graph) (dot : Dot) : Graph :=
  let column := dot.column / graph.marker.dotsAcross
  let row := dot.row / graph.marker.dotsDown
  let bit := graph.marker.bit dot
  { graph with
    patterns := graph.patterns.modify (row * graph.width + column) fun pattern => pattern ||| bit }

def addAll (graph : Graph) (dots : List Dot) : Graph := dots.foldl add graph

/-- Draw the lines between successive dots. A missing dot leaves a gap. -/
def addJoints : Graph → List (Option Dot) → Graph
  | graph, some a :: some b :: rest => addJoints (graph.addAll (joint a b)) (some b :: rest)
  | graph, _ :: rest => addJoints graph rest
  | graph, [] => graph

/-- Draw some points, and in line style what joins them. -/
def addPoints (graph : Graph) (window : Window) (style : PlotStyle) (points : List Point) :
    Graph :=
  let dots := points.map (dotOf? window graph.columns graph.rows)
  let dotted := graph.addAll (dots.filterMap id)
  match style with
  | .line => dotted.addJoints dots
  | .scatter => dotted

/-- The graph as a drawing, with its top left cell at a place. Cells without dots are
left as they are, and a color that is none does not change theirs. -/
def drawing (graph : Graph) (left top : Nat) (color : Color) : Drawing :=
  (List.range graph.height).flatMap fun row =>
    (List.range graph.width).flatMap fun column =>
      let pattern := graph.patterns.getD (row * graph.width + column) 0
      if pattern = 0 then []
      else
        ⟨left + column, top + row, .symbol (graph.marker.symbol pattern)⟩ ::
          if color = .reset then [] else [⟨left + column, top + row, .color color⟩]

end Graph

end StreamPlot
