import StreamPlot.Decimal.Digits
import StreamPlot.Screen.Graph
import StreamPlot.Screen.Lettering

/-!
# The chart

A chart is a frame with a graph, two axes and their labels inside. From the bottom
come the labels of the horizontal axis and the axis itself, from the left the labels
of the vertical axis and the axis itself, each only if something is left for the graph.
-/

namespace StreamPlot

/-! ## Frames -/

def colored (column row : Nat) (symbol : String) (color : Color) : Drawing :=
  [⟨column, row, .symbol symbol⟩, ⟨column, row, .color color⟩]

/-- The border of an area: its sides, then its corners. -/
def border (area : Area) (color : Color) : Drawing :=
  let last := area.right - 1
  let foot := area.bottom - 1
  let side (column : Nat) : Drawing := area.rows.flatMap fun row => colored column row "│" color
  let edge (row : Nat) : Drawing :=
    area.columns.flatMap fun column => colored column row "─" color
  side area.left ++ edge area.top ++ side last ++ edge foot
    ++ colored last foot "┘" color ++ colored last area.top "┐" color
    ++ colored area.left foot "└" color ++ colored area.left area.top "┌" color

/-- A border with a heading. -/
def frame (area : Area) (title : String) (color : Color) : Drawing :=
  if area.isEmpty then []
  else border area color ++ heading area.top (area.left + 1) (area.width - 2) title

/-! ## Labels -/

/-- A value on an axis of a given length, as text. Narrow axes show two decimals; wide ones
whole numbers, or four digits and a power of ten from ten million on. -/
def tickText (value length : Float) : String :=
  if length < 10.0 then Decimal.fixed 2 value
  else if value.abs ≥ 10000000.0 then Decimal.scientific 3 value
  else Decimal.fixed 0 value

/-- The values that are labelled on an axis. -/
def tickValues (span : Span) : List Float :=
  [span.lo, span.lo + (span.hi - span.lo) / 2.0, span.hi]

/-- An axis is labelled at its low end, its middle and its high end. -/
def axisLabels (span : Span) : List String :=
  (tickValues span).map fun value => tickText value (span.hi - span.lo)

/-! ## Layout -/

/-- Where the parts of a chart are. -/
structure ChartLayout where
  area : Area
  graph : Area
  /-- The row of the labels of the horizontal axis. -/
  labelRow : Option Nat
  axisRow : Option Nat
  axisColumn : Option Nat
  deriving DecidableEq, Repr, Inhabited

/-- The columns to the left of the graph that labels may take: enough for the widest
vertical label, and for the first horizontal one but its last character, which stands
below the axis; and at most a third of the area. -/
def labelColumns (area : Area) (xLabels yLabels : List String) : Nat :=
  let widest := (yLabels.map String.length).foldl max 0
  let first := (xLabels.headD "").length - 1
  min (max widest first) (area.width / 3)

/-- The layout of a chart inside an area with room for at least one cell. -/
def ChartLayout.inside (area : Area) (xLabels yLabels : List String) : ChartLayout :=
  let foot := area.bottom - 1
  let labelRow := if foot > area.top then some foot else none
  let foot := if labelRow.isSome then foot - 1 else foot
  let axisRow := if foot > area.top then some foot else none
  let foot := if axisRow.isSome then foot - 1 else foot
  let column := area.left + labelColumns area xLabels yLabels
  let axisColumn := if column + 1 < area.right then some column else none
  let column := if axisColumn.isSome then column + 1 else column
  { area, labelRow, axisRow, axisColumn
    graph := ⟨column, area.top, area.right - column, foot - area.top + 1⟩ }

namespace ChartLayout

/-- The labels of the horizontal axis, each in its slot below the graph. The first ends
at the graph, the middle one is centered and the last ends with the graph. -/
def xLabels (layout : ChartLayout) (labels : List String) : Drawing :=
  match layout.labelRow, labels with
  | some row, [low, middle, high] =>
      let graph := layout.graph
      let slot := graph.width / 3
      label row layout.area.left (graph.left - layout.area.left) .right low
        ++ label row (graph.left + slot + 1) (slot - 1) .center middle
        ++ label row (graph.right - slot) slot .right high
  | _, _ => []

/-- The labels of the vertical axis, at the low end, the middle and the high end of the graph. -/
def yLabels (layout : ChartLayout) (labels : List String) : Drawing :=
  let graph := layout.graph
  let room := graph.left - layout.area.left - 1
  (labels.mapIdx fun index text =>
    let row := graph.bottom - 1 - index * (graph.height - 1) / 2
    label row layout.area.left room .left text).flatten

def axes (layout : ChartLayout) : Drawing :=
  let graph := layout.graph
  let horizontal := match layout.axisRow with
    | some row => graph.columns.flatMap fun column => colored column row "─" .gray
    | none => []
  let vertical := match layout.axisColumn with
    | some column => graph.rows.flatMap fun row => colored column row "│" .gray
    | none => []
  let corner := match layout.axisRow, layout.axisColumn with
    | some row, some column => colored column row "└" .gray
    | _, _ => []
  horizontal ++ vertical ++ corner

/-- The names of the axes, at the ends of the graph, where it is large enough for them. -/
def names (layout : ChartLayout) (color : Color) : Drawing :=
  let graph := layout.graph
  let x := if graph.width > 1 && graph.height > 2 then
    colored (graph.right - 1) (graph.bottom - 1) "x" color else []
  let y := if graph.width > 2 && graph.height > 2 then
    colored graph.left graph.top "y" color else []
  x ++ y

end ChartLayout

/-- What a chart shows. -/
structure Chart where
  title : String
  marker : MarkerKind
  style : PlotStyle
  color : Color
  window : Window
  points : List Point

/-- The color of the frame of a chart. -/
def Chart.frameColor : Color := .cyan

def Chart.drawing (chart : Chart) (area : Area) : Drawing :=
  frame area chart.title Chart.frameColor ++
    if area.inner.isEmpty then []
    else
      let xLabels := axisLabels chart.window.x
      let yLabels := axisLabels chart.window.y
      let layout := ChartLayout.inside area.inner xLabels yLabels
      let graph := (Graph.blank layout.graph.width layout.graph.height chart.marker).addPoints
        chart.window chart.style chart.points
      layout.xLabels xLabels ++ layout.yLabels yLabels ++ layout.axes
        ++ graph.drawing layout.graph.left layout.graph.top chart.color
        ++ layout.names Chart.frameColor

end StreamPlot
