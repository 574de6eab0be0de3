import StreamPlot.Decimal.Binary

/-!
# Floats in a given number of decimals

Both notations show the exact value of the float rounded to the last place that
is shown, a tie going to the even digit. The sign of zero is shown.
-/

namespace StreamPlot

namespace Decimal

/-- Some zeros. -/
def zeros (count : Nat) : String := String.ofList (List.replicate count '0')

def sign (negative : Bool) : String := if negative then "-" else ""

/-- The number `digits / 10 ^ places` with exactly that many decimals. -/
def withPoint (digits places : Nat) : String :=
  if places = 0 then digits.repr
  else
    let tail := (digits % Nat.pow 10 places).repr
    (digits / Nat.pow 10 places).repr ++ "." ++ zeros (places - tail.length) ++ tail

/-- A float with a fixed number of decimals. -/
def fixed (places : Nat) (value : Float) : String :=
  match Binary.ofFloat value with
  | .nan => "NaN"
  | .infinite negative => sign negative ++ "inf"
  | .finite negative significand exponent =>
      let (numerator, denominator) := Binary.ratio significand exponent
      sign negative ++ withPoint (roundHalfEven (numerator * Nat.pow 10 places) denominator) places

/-- The power of ten of the leading digit of a positive quotient. -/
def leadingPower (numerator denominator : Nat) : Int :=
  if denominator ≤ numerator then ((numerator / denominator).repr.length : Int) - 1
  else
    let guess := denominator.repr.length - numerator.repr.length
    if numerator * Nat.pow 10 guess < denominator then -((guess : Int) + 1) else -(guess : Int)

/-- A quotient divided by a power of ten. -/
def scaleDown (numerator denominator : Nat) (power : Int) : Nat × Nat :=
  (numerator * Nat.pow 10 (-power).toNat, denominator * Nat.pow 10 power.toNat)

/-- A float as one digit, a fixed number of decimals and a power of ten. -/
def scientific (places : Nat) (value : Float) : String :=
  match Binary.ofFloat value with
  | .nan => "NaN"
  | .infinite negative => sign negative ++ "inf"
  | .finite negative 0 _ => sign negative ++ withPoint 0 places ++ "e0"
  | .finite negative significand exponent =>
      let (numerator, denominator) := Binary.ratio significand exponent
      let power := leadingPower numerator denominator
      let (top, bottom) := scaleDown numerator denominator (power - places)
      let digits := roundHalfEven top bottom
      let (shown, power) :=
        if digits < Nat.pow 10 (places + 1) then (digits, power) else (digits / 10, power + 1)
      sign negative ++ withPoint shown places ++ "e" ++ power.repr

end Decimal

end StreamPlot
