import StreamPlot.Decimal.Digits

/-!
# The shortest decimal that reads back

A float stands for all reals that round to it, an interval around its exact
value. Its shortest decimal is a decimal inside that interval with the fewest
digits, and of those the one nearest to the exact value.
-/

namespace StreamPlot

/-- The number `digits * 10 ^ power`. -/
structure Scaled where
  digits : Nat
  power : Int
  deriving DecidableEq, Repr, Inhabited

namespace Scaled

/-- Drop the zeros at the end of the digits. -/
def normalize (scaled : Scaled) : Scaled :=
  if _ : scaled.digits ≠ 0 ∧ scaled.digits % 10 = 0 then
    normalize ⟨scaled.digits / 10, scaled.power + 1⟩
  else scaled
termination_by scaled.digits
decreasing_by omega

/-- A decimal without a power of ten and with at least `decimals` decimals. -/
def positional (scaled : Scaled) (decimals : Nat) : String :=
  let text := scaled.digits.repr
  if 0 ≤ scaled.power then
    let whole := if scaled.digits = 0 then text else text ++ Decimal.zeros scaled.power.toNat
    if decimals = 0 then whole else whole ++ "." ++ Decimal.zeros decimals
  else
    let places := (-scaled.power).toNat
    let tail := (scaled.digits % Nat.pow 10 places).repr
    (scaled.digits / Nat.pow 10 places).repr ++ "." ++ Decimal.zeros (places - tail.length) ++ tail

/-- A decimal as one digit, the others as decimals, and a power of ten. -/
def exponential (scaled : Scaled) : String :=
  let text := scaled.digits.repr.toList
  let power := scaled.power + (text.length - 1 : Nat)
  match text with
  | [] => ""
  | [digit] => String.ofList [digit] ++ "e" ++ power.repr
  | digit :: rest => String.ofList (digit :: '.' :: rest) ++ "e" ++ power.repr

end Scaled

namespace Decimal

/-- The reals that round to a float, as multiples of `2 ^ (exponent - 2)`. -/
structure Interval where
  lo : Nat
  hi : Nat
  /-- Whether the ends round to the float too, which they do if its significand is even. -/
  closed : Bool
  exponent : Int

/-- The interval of a positive float. Below a power of two the floats are twice
as dense, so the lower half of its interval is half as wide. -/
def Interval.of (significand : Nat) (exponent : Int) : Interval where
  lo := if significand = Nat.pow 2 52 ∧ exponent ≠ -1074 then 4 * significand - 1
    else 4 * significand - 2
  hi := 4 * significand + 2
  closed := significand % 2 == 0
  exponent := exponent - 2

/-- Whether `digits * 10 ^ power` lies in an interval. -/
def Interval.holds (interval : Interval) (digits : Nat) (power : Int) : Bool :=
  let tens := digits * Nat.pow 10 power.toNat * Nat.pow 2 (-interval.exponent).toNat
  let unit := Nat.pow 10 (-power).toNat * Nat.pow 2 interval.exponent.toNat
  if interval.closed then interval.lo * unit ≤ tens && tens ≤ interval.hi * unit
  else interval.lo * unit < tens && tens < interval.hi * unit

/-- The decimal in an interval that is a multiple of a power of ten and nearest
to the quotient from which the interval comes. Only the two neighbours of the
quotient can be that decimal. -/
def nearestOnGrid (interval : Interval) (numerator denominator : Nat) (power : Int) :
    Option Nat :=
  let (top, bottom) := scaleDown numerator denominator power
  let below := top / bottom
  let nearest := roundHalfUp top bottom
  if interval.holds nearest power then some nearest
  else if interval.holds below power then some below
  else if interval.holds (below + 1) power then some (below + 1)
  else none

/-- The shortest decimal of a positive float. Seventeen digits always suffice,
so the search over the number of digits finds one. -/
def shortestOf (significand : Nat) (exponent : Int) : Scaled :=
  let (numerator, denominator) := Binary.ratio significand exponent
  let interval := Interval.of significand exponent
  let leading := leadingPower numerator denominator
  let found := (List.range 17).findSome? fun (count : Nat) =>
    (nearestOnGrid interval numerator denominator (leading - count)).map
      fun digits => (⟨digits, leading - count⟩ : Scaled)
  match found with
  | some scaled => scaled.normalize
  | none => ⟨0, 0⟩

/-- A float in its shortest digits, without a power of ten and with at least
`decimals` decimals. -/
def shortestPositional (decimals : Nat) (value : Float) : String :=
  match Binary.ofFloat value with
  | .nan => "NaN"
  | .infinite negative => sign negative ++ "inf"
  | .finite negative 0 _ => sign negative ++ (⟨0, 0⟩ : Scaled).positional decimals
  | .finite negative significand exponent =>
      sign negative ++ (shortestOf significand exponent).positional decimals

/-- A float in its shortest digits, always recognisable as a float: with a point,
or with a power of ten if it is below `10 ^ -4` or at least `10 ^ 16`. -/
def shortest (value : Float) : String :=
  match Binary.ofFloat value with
  | .nan => "NaN"
  | .infinite negative => sign negative ++ "inf"
  | .finite negative 0 _ => sign negative ++ "0.0"
  | .finite negative significand exponent =>
      let scaled := shortestOf significand exponent
      let magnitude := scaled.power + (scaled.digits.repr.length - 1 : Nat)
      sign negative ++
        if -4 ≤ magnitude ∧ magnitude < 16 then scaled.positional 1 else scaled.exponential

end Decimal

end StreamPlot
