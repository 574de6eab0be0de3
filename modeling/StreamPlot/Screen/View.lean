import StreamPlot.Viewer
import StreamPlot.Screen.Chart

/-!
# The picture of a session

The screen holds the chart, to its right the newest samples if they are wanted, below
both one line about the state of the session, and over all of it the help if it is
asked for.
-/

namespace StreamPlot

namespace Viewer

/-! ### The status line -/

def streamText (viewer : Viewer) : String :=
  match viewer.stream with
  | .live => if viewer.plot.isEmpty then "waiting for data" else "live"
  | .ended => "stream ended"
  | .failed message => "stream failed: " ++ message

def rangeText (span : Span) : String :=
  Decimal.fixed 0 span.lo ++ ".." ++ Decimal.fixed 0 span.hi

/-- What the status line says, part by part. -/
def statusParts (viewer : Viewer) : List String :=
  let plot := viewer.plot
  let latest := match plot.latest? with
    | some sample => ["latest: " ++ sample.text]
    | none => []
  let ranges := match plot.bounds with
    | .box x y => ["x: " ++ rangeText x, "y: " ++ rangeText y]
    | .empty => []
  ["records: " ++ plot.size.repr] ++ latest ++ ranges ++ [viewer.streamText, "? help"]

def statusText (viewer : Viewer) : String :=
  " " ++ " │ ".intercalate viewer.statusParts

/-- The color of the status line tells the state of the input. -/
def statusColor (viewer : Viewer) : Color :=
  match viewer.stream with
  | .live => .gray
  | .ended => .yellow
  | .failed _ => .red

/-- The status line in an area. Of a text of several lines, the first is shown. -/
def statusDrawing (viewer : Viewer) (area : Area) : Drawing :=
  if area.isEmpty then []
  else
    area.fill (.color viewer.statusColor)
      ++ writeLine area.top area.left area.width [] ((textLines viewer.statusText).headD "")

/-! ### The newest samples -/

/-- The width of the list of the newest samples, with its frame. -/
def recentWidth : Nat := 26

def pointText (point : Point) : String :=
  "(" ++ Decimal.fixed 0 point.x ++ ", " ++ Decimal.fixed 0 point.y ++ ")"

/-- The lines of the list of the newest samples, with its frame `height` rows high. -/
def recentLines (viewer : Viewer) (height : Nat) : List String :=
  let wanted := min viewer.settings.display.recentRecords.toNat (height - 2)
  (viewer.plot.series.takeLast wanted).map pointText

/-- Write lines into an area, one a row, each in its own inks. -/
def paragraph (area : Area) (lines : List (List Ink × String)) : Drawing :=
  if area.isEmpty then []
  else
    ((lines.take area.height).mapIdx fun index line =>
      writeLine (area.top + index) area.left area.width line.1 line.2).flatten

/-- The list of the newest samples in an area. -/
def recentDrawing (viewer : Viewer) (area : Area) : Drawing :=
  frame area " Records " .green
    ++ paragraph area.inner ((viewer.recentLines area.height).map fun line => ([], line))

/-! ### The help -/

/-- The width of the help, where there is room for it. -/
def helpWidth : Nat := 44

/-- The height of the help, where there is room for it. -/
def helpHeight : Nat := 12

def helpLines : List (List Ink × String) :=
  [([], ""),
    ([.color .cyan, .bold], "  frameplot"),
    ([.color .darkGray], "  (u32, u32) frames from stdin"),
    ([], ""),
    ([], "    m, s              Line / scatter"),
    ([], "    ?, F1             Toggle help"),
    ([], "    q, Esc, Ctrl+C    Quit"),
    ([], "")]

/-- The area of the help, in the middle of a screen. -/
def helpArea (width height : Nat) : Area where
  left := (width - helpWidth) / 2
  top := (height - helpHeight) / 2
  width := min helpWidth width
  height := min helpHeight height

def helpDrawing (width height : Nat) : Drawing :=
  let area := helpArea width height
  area.fill .clear ++ frame area " Help " .yellow ++ paragraph area.inner helpLines

/-! ### The whole screen -/

def chart (viewer : Viewer) : Chart where
  title := " " ++ viewer.settings.display.title ++ " "
  marker := viewer.settings.display.marker
  style := viewer.style
  color := viewer.settings.seriesColor
  window := viewer.plot.window
  points := viewer.plot.series.toList

/-- The rows above the status line: all but one, but three as long as there are three. -/
def chartHeight (height : Nat) : Nat := max (min height 3) (height - 1)

/-- The columns of the chart beside the list of the newest samples, which gives way as
long as the chart has less than ten. -/
def chartWidth (width : Nat) : Nat := max (min width 10) (width - recentWidth)

/-- The chart, and beside it the newest samples if they are wanted. -/
def upperDrawing (viewer : Viewer) (width height : Nat) : Drawing :=
  if viewer.showRecent then
    let column := chartWidth width
    viewer.chart.drawing ⟨0, 0, column, height⟩
      ++ viewer.recentDrawing ⟨column, 0, width - column, height⟩
  else viewer.chart.drawing ⟨0, 0, width, height⟩

/-- The whole picture on a screen of some columns and rows. -/
def drawing (viewer : Viewer) (width height : Nat) : Drawing :=
  let above := chartHeight height
  viewer.upperDrawing width above
    ++ viewer.statusDrawing ⟨0, above, width, height - above⟩
    ++ if viewer.showHelp then helpDrawing width height else []

def screen (viewer : Viewer) (width height : Nat) : Screen :=
  (Screen.blank width height).paint (viewer.drawing width height)

end Viewer

end StreamPlot
