import StreamPlot.Bounds

/-!
# The plot

A plot is what has come of the samples seen so far: all their points in order of
arrival, their bounds, and the sample that came last. `Plot.push` is the only way
in which a plot changes.
-/

namespace StreamPlot

/-- The points plotted so far, oldest first. -/
structure Series where
  points : Array Point := #[]
  deriving Inhabited

namespace Series

def push (series : Series) (point : Point) : Series := ⟨series.points.push point⟩

def size (series : Series) : Nat := series.points.size

def isEmpty (series : Series) : Bool := series.points.isEmpty

def toList (series : Series) : List Point := series.points.toList

/-- The horizontal coordinates, oldest first. -/
def xs (series : Series) : List Float := series.toList.map Point.x

/-- The vertical coordinates, oldest first. -/
def ys (series : Series) : List Float := series.toList.map Point.y

def last? (series : Series) : Option Point := series.points.back?

/-- The newest `count` points, oldest first, or all if there are fewer. -/
def takeLast (series : Series) (count : Nat) : List Point :=
  (series.points.extract (series.size - count) series.size).toList

@[simp] theorem toList_push (series : Series) (point : Point) :
    (series.push point).toList = series.toList ++ [point] := by
  simp [push, toList]

theorem size_eq_length (series : Series) : series.size = series.toList.length := rfl

@[simp] theorem size_push (series : Series) (point : Point) :
    (series.push point).size = series.size + 1 := by
  simp [push, size]

/-- The newest points are the end of the list of all points. -/
theorem takeLast_eq (series : Series) (count : Nat) :
    series.takeLast count = series.toList.drop (series.size - count) := by
  simp only [takeLast, toList, size, Array.toList_extract, List.extract_eq_take_drop]
  exact List.take_of_length_le (by simp)

end Series

/-- What has come of the samples seen so far. -/
structure Plot where
  bounds : Bounds := .empty
  series : Series := {}
  latest? : Option Sample := none
  deriving Inhabited

/-- What one more sample makes of a plot. -/
structure PlotUpdate where
  /-- The points with that of the new sample. -/
  series : Series
  window : Window

namespace Plot

def empty : Plot := {}

def push (plot : Plot) (sample : Sample) : Plot where
  bounds := plot.bounds.observe sample.point
  series := plot.series.push sample.point
  latest? := some sample

def pushAll (plot : Plot) (samples : List Sample) : Plot :=
  samples.foldl push plot

def ofList (samples : List Sample) : Plot :=
  empty.pushAll samples

/-- The part of the plane that is shown. -/
def window (plot : Plot) : Window := plot.bounds.window

def size (plot : Plot) : Nat := plot.series.size

def isEmpty (plot : Plot) : Bool := plot.series.isEmpty

/-- Add a sample and tell what has changed. -/
def update (plot : Plot) (sample : Sample) : Plot × PlotUpdate :=
  let pushed := plot.push sample
  (pushed, ⟨pushed.series, pushed.window⟩)

@[simp] theorem size_push (plot : Plot) (sample : Sample) :
    (plot.push sample).size = plot.size + 1 := by
  simp [push, size]

end Plot

end StreamPlot
