import StreamPlot.Sample

/-!
# Bounds and the window around them

Bounds hold the least and the greatest coordinates seen so far and only ever
widen. The window is the part of the plane that is shown: the bounds with a
margin, or the unit square before anything has been seen.
-/

namespace StreamPlot

/-- An interval of coordinates. -/
structure Span where
  lo : Float
  hi : Float
  deriving Repr, Inhabited

namespace Span

def single (value : Float) : Span := ⟨value, value⟩

/-- Widen an interval to hold a value. Comparisons with a value that is not a
number fail, so such a value widens nothing. -/
def widen (span : Span) (value : Float) : Span where
  lo := if value < span.lo then value else span.lo
  hi := if value > span.hi then value else span.hi

/-- The interval shown before anything has been seen. -/
def unit : Span := ⟨0.0, 1.0⟩

end Span

/-- How much of a lower bound the window keeps. -/
def lowerScale : Float := 0.99

/-- How much of an upper bound the window keeps. -/
def upperScale : Float := 1.01

def margin : Float := 1.0

/-- The lower end of a window for the least value seen. -/
def padLower (least : Float) : Float := least * lowerScale - margin

/-- The upper end of a window for the greatest value seen. -/
def padUpper (greatest : Float) : Float := greatest * upperScale + margin

def Span.padded (span : Span) : Span := ⟨padLower span.lo, padUpper span.hi⟩

/-- The part of the plane that is shown. -/
structure Window where
  x : Span
  y : Span
  deriving Repr, Inhabited

def Window.initial : Window := ⟨.unit, .unit⟩

/-- The least and greatest coordinates seen so far. -/
inductive Bounds where
  | empty
  /-- The intervals of all horizontal and of all vertical coordinates. -/
  | box (x y : Span)
  deriving Repr, Inhabited

namespace Bounds

/-- Widen the bounds to hold a point. The first point sets both ends of both intervals. -/
def observe (bounds : Bounds) (point : Point) : Bounds :=
  match bounds with
  | empty => box (.single point.x) (.single point.y)
  | box x y => box (x.widen point.x) (y.widen point.y)

def ofList (points : List Point) : Bounds :=
  points.foldl observe empty

def isEmpty : Bounds → Bool
  | empty => true
  | box _ _ => false

/-- The interval of the horizontal coordinates, if there is any. -/
def x? : Bounds → Option Span
  | empty => none
  | box x _ => some x

/-- The interval of the vertical coordinates, if there is any. -/
def y? : Bounds → Option Span
  | empty => none
  | box _ y => some y

def window : Bounds → Window
  | empty => .initial
  | box x y => ⟨x.padded, y.padded⟩

end Bounds

end StreamPlot
