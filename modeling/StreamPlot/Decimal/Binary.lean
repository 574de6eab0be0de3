/-!
# The exact value of a float

A float is a sign, a whole significand and a power of two, or one of the values
that are no number. Everything that this program prints of a float is computed
from that exact value in whole-number arithmetic, and so is the word nearest to
a float. Two rules round a quotient to a whole number; they differ only at a tie.
-/

namespace StreamPlot

/-- What a float is, exactly. -/
inductive Binary where
  | nan
  | infinite (negative : Bool)
  /-- The number `significand * 2 ^ exponent`, negated if `negative`. -/
  | finite (negative : Bool) (significand : Nat) (exponent : Int)
  deriving DecidableEq, Repr, Inhabited

namespace Binary

/-- The value of a pattern of 64 bits: a sign, eleven bits of exponent and 52
bits of significand. -/
def ofBits (bits : Nat) : Binary :=
  let negative := bits / Nat.pow 2 63 % 2 == 1
  let exponent : Nat := bits / Nat.pow 2 52 % Nat.pow 2 11
  let fraction := bits % Nat.pow 2 52
  if exponent = 2047 then
    if fraction = 0 then infinite negative else nan
  else if exponent = 0 then finite negative fraction (-1074)
  else finite negative (Nat.pow 2 52 + fraction) ((exponent : Int) - 1075)

def ofFloat (value : Float) : Binary := ofBits value.toBits.toNat

/-- The numerator and the denominator of `significand * 2 ^ exponent`. -/
def ratio (significand : Nat) (exponent : Int) : Nat × Nat :=
  (significand * Nat.pow 2 exponent.toNat, Nat.pow 2 (-exponent).toNat)

end Binary

/-- The whole number nearest to a quotient; a tie goes to the even neighbour. -/
def roundHalfEven (numerator denominator : Nat) : Nat :=
  let quotient := numerator / denominator
  let twice := 2 * (numerator % denominator)
  if twice < denominator then quotient
  else if denominator < twice then quotient + 1
  else if quotient % 2 = 0 then quotient else quotient + 1

/-- The whole number nearest to a quotient; a tie goes up. -/
def roundHalfUp (numerator denominator : Nat) : Nat :=
  (2 * numerator + denominator) / (2 * denominator)

/-- The 32-bit word nearest to a float. A tie goes away from zero; what lies
outside the range of words goes to its nearer end, and no number goes to zero. -/
def roundToWord (value : Float) : UInt32 :=
  match Binary.ofFloat value with
  | .nan => 0
  | .infinite negative => if negative then 0 else 4294967295
  | .finite negative significand exponent =>
      let (numerator, denominator) := Binary.ratio significand exponent
      if negative then 0
      else UInt32.ofNat (min (roundHalfUp numerator denominator) 4294967295)

end StreamPlot
