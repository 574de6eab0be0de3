import StreamPlot.Proofs.Binary.Arithmetic
import StreamPlot.Proofs.Decimal.Reading

/-!
# What the digits of a float say

A float that is shown with a fixed number of decimals, or as one digit, decimals and a power
of ten, is read back to within half a unit of its last digit. In the second form the error is
small in proportion to the float as well, since the digit in front of the point is not zero.
-/

namespace StreamPlot

namespace Decimal

/-! ## Rounding -/

/-- Decimals are rounded as floats are. -/
theorem roundHalfEven_eq (numerator : ℕ) {denominator : ℕ} (hpos : 0 < denominator) :
    (roundHalfEven numerator denominator : ℤ) = nearestWhole (numerator / denominator) := by
  rw [← (Binary.Approximates.of_quotient numerator hpos).roundedMantissa_eq, Nat.cast_inj]
  unfold roundHalfEven Float.Model.UnpackedFloat.accuracyOfFraction
  generalize numerator / denominator = quotient
  generalize numerator % denominator = rest
  dsimp only
  rcases lt_trichotomy (2 * rest) denominator with hbelow | hequal | habove
  · rw [if_pos hbelow, compare_lt_iff_lt.mpr hbelow]
    split <;> rfl
  · have hrest : rest ≠ 0 := by omega
    rw [if_neg hequal.not_lt, if_neg hequal.not_gt, if_neg hrest, compare_eq_iff_eq.mpr hequal]
    change _ = quotient + quotient % 2
    split <;> omega
  · have hrest : rest ≠ 0 := by omega
    rw [if_neg habove.not_gt, if_pos habove, if_neg hrest, compare_gt_iff_gt.mpr habove]
    rfl

theorem abs_roundHalfEven_sub_le (numerator : ℕ) {denominator : ℕ} (hpos : 0 < denominator) :
    |roundHalfEven numerator denominator - (numerator / denominator : ℚ)| ≤ 1 / 2 := by
  have hround := abs_nearestWhole_sub_le (numerator / denominator)
  rwa [← roundHalfEven_eq numerator hpos, Int.cast_natCast] at hround

end Decimal

theorem roundHalfUp_eq_floor (numerator : ℕ) {denominator : ℕ} (hpos : 0 < denominator) :
    roundHalfUp numerator denominator = ⌊(numerator / denominator + 1 / 2 : ℚ)⌋₊ := by
  have hdenominator : (denominator : ℚ) ≠ 0 := Nat.cast_ne_zero.mpr hpos.ne'
  have hquotient : (numerator / denominator + 1 / 2 : ℚ) =
      (2 * numerator + denominator : ℕ) / (2 * denominator : ℕ) := by
    push_cast
    field_simp
  rw [hquotient, Nat.floor_div_eq_div, roundHalfUp]

theorem abs_roundHalfUp_sub_le (numerator : ℕ) {denominator : ℕ} (hpos : 0 < denominator) :
    |roundHalfUp numerator denominator - (numerator / denominator : ℚ)| ≤ 1 / 2 := by
  have hnonneg : (0 : ℚ) ≤ numerator / denominator + 1 / 2 := by positivity
  have hlow := Nat.floor_le hnonneg
  have hhigh := Nat.lt_floor_add_one (numerator / denominator + 1 / 2 : ℚ)
  rw [roundHalfUp_eq_floor numerator hpos, abs_le]
  constructor <;> linarith

/-- A power is a fraction in which one of the two powers is 1. -/
theorem zpow_eq_div {base : ℚ} (hbase : base ≠ 0) (exponent : ℤ) :
    base ^ exponent = base ^ exponent.toNat / base ^ (-exponent).toNat := by
  rw [← zpow_natCast, ← zpow_natCast, ← zpow_sub₀ hbase]
  congr 1
  omega

namespace Binary

variable (significand : ℕ) (exponent : ℤ)

theorem ratio_pos : 0 < (ratio significand exponent).2 := by
  simp [ratio]

theorem ratio_eq : ((ratio significand exponent).1 / (ratio significand exponent).2 : ℚ) =
    significand * 2 ^ exponent := by
  rw [zpow_eq_div two_ne_zero exponent, ratio, ← mul_div_assoc]
  simp

theorem IsNumber.exists_finite {value : Float} {number : ℚ} (h : IsNumber value number) :
    ∃ negative significand exponent, ofFloat value = .finite negative significand exponent ∧
      number = if negative then -(significand * 2 ^ exponent : ℚ)
        else significand * 2 ^ exponent := by
  rw [IsNumber] at h
  cases hparts : ofFloat value with
  | nan => simp [hparts, number?] at h
  | infinite negative => simp [hparts, number?] at h
  | finite negative significand exponent =>
    refine ⟨negative, significand, exponent, rfl, ?_⟩
    rw [hparts, number?, Option.some.injEq] at h
    rw [← h]
    cases negative <;> simp

end Binary

namespace Decimal

open Binary

/-- Rounding to whole units is off by at most half a unit. -/
theorem abs_units_sub_le {digits : ℕ} {quotient magnitude unit : ℚ} (hunit : 0 < unit)
    (hround : |digits - quotient| ≤ 1 / 2) (h : quotient = magnitude / unit) :
    |digits * unit - magnitude| ≤ unit / 2 := by
  calc
    |digits * unit - magnitude| = |digits - quotient| * unit := by
      rw [h, ← abs_of_pos hunit, ← abs_mul, abs_of_pos hunit, sub_mul,
        div_mul_cancel₀ _ hunit.ne']
    _ ≤ 1 / 2 * unit := mul_le_mul_of_nonneg_right hround hunit.le
    _ = unit / 2 := by ring

/-! ## A fixed number of decimals -/

theorem fixed_of_finite {value : Float} {negative : Bool} {significand : ℕ} {exponent : ℤ}
    (h : ofFloat value = .finite negative significand exponent) (places : ℕ) :
    fixed places value = sign negative ++ (withPoint (roundHalfEven
      ((ratio significand exponent).1 * 10 ^ places) (ratio significand exponent).2) places ++
        "") := by
  rw [fixed, h, String.append_empty]
  rfl

/-- A float with a fixed number of decimals is read back to within half of the last one. -/
theorem read?_fixed {value : Float} {number : ℚ} (h : IsNumber value number) (places : ℕ) :
    ∃ reading, read? (fixed places value) = some reading ∧
      reading.unit = 10 ^ (-places : ℤ) ∧ reading.Shows number := by
  obtain ⟨negative, significand, exponent, hparts, rfl⟩ := h.exists_finite
  have hscaled : (((ratio significand exponent).1 * 10 ^ places : ℕ) /
      (ratio significand exponent).2 : ℚ) =
        significand * 2 ^ exponent / 10 ^ (0 - places : ℤ) := by
    rw [zero_sub, zpow_neg, div_inv_eq_mul, ← ratio_eq, zpow_natCast]
    push_cast
    ring
  rw [fixed_of_finite hparts, read?_sign_withPoint negative _ places rfl]
  refine ⟨_, rfl, ?_, ?_⟩
  · simp [Reading.signed]
  · rw [Reading.Shows, Reading.abs_signed_sub]
    have hround := abs_roundHalfEven_sub_le ((ratio significand exponent).1 * 10 ^ places)
      (ratio_pos significand exponent)
    exact abs_units_sub_le (by positivity) hround hscaled

/-- The parts of the float of a word make the word. -/
theorem exists_parts_toFloat (word : UInt32) :
    ∃ significand exponent, ofFloat word.toFloat = .finite false significand exponent ∧
      (significand * 2 ^ exponent : ℚ) = word.toNat := by
  obtain ⟨negative, significand, exponent, hparts, hnumber⟩ := (isNumber_toFloat word).exists_finite
  cases negative with
  | false => exact ⟨significand, exponent, hparts, hnumber.symm⟩
  | true =>
    -- only zero would do, and zero has no sign
    have hmagnitude : (0 : ℚ) ≤ significand * 2 ^ exponent := by positivity
    have hword : (0 : ℚ) ≤ word.toNat := Nat.cast_nonneg _
    rw [if_pos rfl] at hnumber
    have hzero : word = 0 := by
      rw [← UInt32.toNat_inj]
      exact_mod_cast le_antisymm (by linarith) hword
    subst hzero
    exact ⟨0, -1074, by decide +kernel, by simp⟩

/-- Without decimals, the float of a word is shown as the word. -/
theorem fixed_toFloat (word : UInt32) : fixed 0 word.toFloat = word.toNat.repr := by
  obtain ⟨significand, exponent, hparts, hnumber⟩ := exists_parts_toFloat word
  have hround : roundHalfEven (ratio significand exponent).1 (ratio significand exponent).2 =
      word.toNat := by
    have hwhole := roundHalfEven_eq (ratio significand exponent).1 (ratio_pos significand exponent)
    have hexact := nearestWhole_intCast word.toNat
    rw [Int.cast_natCast] at hexact
    rw [ratio_eq, hnumber, hexact, Nat.cast_inj] at hwhole
    exact hwhole
  rw [fixed_of_finite hparts, pow_zero, mul_one, hround]
  simp [sign, withPoint]

/-! ## A power of ten -/

theorem lt_ten_pow_length (number : ℕ) : number < 10 ^ number.repr.length :=
  (Nat.length_repr_le_iff Nat.length_repr_pos).mp le_rfl

theorem ten_pow_length_le {number : ℕ} (hpos : 0 < number) :
    10 ^ (number.repr.length - 1) ≤ number := by
  rcases Nat.lt_or_ge 1 number.repr.length with hlong | hshort
  · have hle := mt (Nat.length_repr_le_iff (n := number) (k := number.repr.length - 1)
      (by omega)).mpr (by omega)
    omega
  · rw [Nat.sub_eq_zero_of_le hshort]
    exact hpos

/-- The first digit of a number stands at a power of ten. -/
structure LeadsAt (number : ℚ) (power : ℤ) : Prop where
  lower : 10 ^ power ≤ number
  upper : number < 10 ^ (power + 1)

section

variable {numerator denominator : ℕ}

theorem leadsAt_of_le (hpos : 0 < denominator) (h : denominator ≤ numerator) :
    LeadsAt (numerator / denominator) (leadingPower numerator denominator) := by
  have hlower := ten_pow_length_le (Nat.div_pos h hpos)
  have hupper := lt_ten_pow_length (numerator / denominator)
  obtain ⟨count, hcount⟩ : ∃ count, (numerator / denominator).repr.length = count + 1 :=
    ⟨_, (Nat.sub_add_cancel Nat.length_repr_pos).symm⟩
  have hscale : (0 : ℚ) < denominator := by exact_mod_cast hpos
  have hpower : leadingPower numerator denominator = count := by
    rw [leadingPower, if_pos h, hcount]
    push_cast
    ring
  rw [hcount, Nat.add_sub_cancel, Nat.le_div_iff_mul_le hpos] at hlower
  rw [hcount, Nat.div_lt_iff_lt_mul hpos] at hupper
  rw [hpower]
  constructor
  · rw [le_div_iff₀ hscale]
    exact_mod_cast hlower
  · rw [div_lt_iff₀ hscale]
    exact_mod_cast hupper

/-- The lengths of two numbers tell their quotient up to a factor of ten. -/
theorem bounds_of_lengths (hpos : 0 < numerator) (hpos' : 0 < denominator) {more : ℕ}
    (h : denominator.repr.length = numerator.repr.length + more) :
    denominator < numerator * 10 ^ (more + 1) ∧ numerator * 10 ^ more < 10 * denominator := by
  obtain ⟨count, hcount⟩ : ∃ count, numerator.repr.length = count + 1 :=
    ⟨_, (Nat.sub_add_cancel Nat.length_repr_pos).symm⟩
  have hlower := ten_pow_length_le hpos
  have hupper := lt_ten_pow_length numerator
  have hlower' := ten_pow_length_le hpos'
  have hupper' := lt_ten_pow_length denominator
  rw [hcount, Nat.add_sub_cancel] at hlower
  rw [hcount] at hupper
  rw [h, hcount] at hlower' hupper'
  constructor
  · calc
      denominator < 10 ^ (count + 1 + more) := hupper'
      _ = 10 ^ count * 10 ^ (more + 1) := by ring
      _ ≤ numerator * 10 ^ (more + 1) := Nat.mul_le_mul_right _ hlower
  · calc
      numerator * 10 ^ more < 10 ^ (count + 1) * 10 ^ more :=
        Nat.mul_lt_mul_of_pos_right hupper (by positivity)
      _ = 10 * 10 ^ (count + 1 + more - 1) := by
        rw [Nat.add_right_comm, Nat.add_sub_cancel]
        ring
      _ ≤ 10 * denominator := Nat.mul_le_mul_left _ hlower'

theorem leadsAt_of_lt (hpos : 0 < numerator) (h : numerator < denominator) :
    LeadsAt (numerator / denominator) (leadingPower numerator denominator) := by
  have hlength : numerator.repr.length ≤ denominator.repr.length :=
    (Nat.length_repr_le_iff Nat.length_repr_pos).mpr (h.trans (lt_ten_pow_length denominator))
  obtain ⟨guess, hguess⟩ := Nat.exists_eq_add_of_le hlength
  obtain ⟨hlow, hhigh⟩ := bounds_of_lengths hpos (hpos.trans h) hguess
  have hscale : (0 : ℚ) < denominator := by exact_mod_cast hpos.trans h
  have hten : (0 : ℚ) < 10 ^ guess := by positivity
  have hsmall : (10 : ℚ) ^ (-guess : ℤ) = 1 / 10 ^ guess := by
    rw [zpow_neg, zpow_natCast, one_div]
  unfold leadingPower
  rw [if_neg (Nat.not_le.mpr h), hguess, Nat.add_sub_cancel_left]
  dsimp only [Nat.pow_eq]
  split
  next hlt =>
    constructor
    · rw [neg_add, zpow_add₀ (by norm_num), hsmall, zpow_neg_one, ← one_div, one_div_mul_one_div,
        ← pow_succ, div_le_div_iff₀ (by positivity) hscale, one_mul]
      exact_mod_cast hlow.le
    · rw [neg_add, neg_add_cancel_right, hsmall, div_lt_div_iff₀ hscale hten, one_mul]
      exact_mod_cast hlt
  next hle =>
    constructor
    · rw [hsmall, div_le_div_iff₀ hten hscale, one_mul]
      exact_mod_cast Nat.not_lt.mp hle
    · rw [zpow_add_one₀ (by norm_num), hsmall, one_div_mul_eq_div, div_lt_div_iff₀ hscale hten]
      exact_mod_cast hhigh

theorem leadsAt_leadingPower (hpos : 0 < numerator) (hpos' : 0 < denominator) :
    LeadsAt (numerator / denominator) (leadingPower numerator denominator) := by
  rcases Nat.lt_or_ge numerator denominator with hlt | hle
  · exact leadsAt_of_lt hpos hlt
  · exact leadsAt_of_le hpos' hle

end

theorem scaleDown_pos {denominator : ℕ} (numerator : ℕ) (hpos : 0 < denominator) (power : ℤ) :
    0 < (scaleDown numerator denominator power).2 := by
  simp [scaleDown, hpos]

theorem scaleDown_eq (numerator denominator : ℕ) (power : ℤ) :
    ((scaleDown numerator denominator power).1 / (scaleDown numerator denominator power).2 : ℚ) =
      numerator / denominator / 10 ^ power := by
  rw [zpow_eq_div (by norm_num) power, div_div_div_eq, scaleDown]
  simp

/-- What is shown of a positive quotient: its digits, the first of them in front of the point,
and the power of ten of that first one. If rounding leads to one digit more, the last digit is
a zero and is dropped. -/
def shownDigits (numerator denominator places : ℕ) : ℕ × ℤ :=
  let power := leadingPower numerator denominator
  let quotient := scaleDown numerator denominator (power - places)
  let digits := roundHalfEven quotient.1 quotient.2
  if digits < 10 ^ (places + 1) then (digits, power) else (digits / 10, power + 1)

theorem scientific_of_finite {value : Float} {negative : Bool} {significand : ℕ} {exponent : ℤ}
    (h : ofFloat value = .finite negative significand exponent) (hpos : 0 < significand)
    (places : ℕ) :
    let shown := shownDigits (ratio significand exponent).1 (ratio significand exponent).2 places
    scientific places value =
      sign negative ++ (withPoint shown.1 places ++ ("e" ++ shown.2.repr)) := by
  intro shown
  obtain ⟨significand, rfl⟩ := Nat.exists_eq_succ_of_ne_zero hpos.ne'
  rw [← String.append_assoc, ← String.append_assoc, scientific, h]
  rfl

/-- Rounding leads at most to the first power of ten that has a digit more. -/
theorem roundHalfEven_le_ten_pow {numerator denominator : ℕ} (hpos : 0 < denominator) {count : ℕ}
    (h : (numerator / denominator : ℚ) ≤ 10 ^ count) :
    roundHalfEven numerator denominator ≤ 10 ^ count := by
  have hmono : nearestWhole (numerator / denominator) ≤ nearestWhole ((10 ^ count : ℕ) : ℤ) :=
    nearestWhole_mono (h.trans_eq (by push_cast; rfl))
  rw [nearestWhole_intCast, ← roundHalfEven_eq numerator hpos] at hmono
  exact_mod_cast hmono

theorem shownDigits_spec {numerator denominator : ℕ} (hpos : 0 < numerator)
    (hpos' : 0 < denominator) (places : ℕ) :
    let shown := shownDigits numerator denominator places
    let unit := (10 : ℚ) ^ (leadingPower numerator denominator - places)
    |shown.1 * 10 ^ (shown.2 - places) - (numerator / denominator : ℚ)| ≤ unit / 2 ∧
      unit ≤ 10 ^ (shown.2 - places) := by
  intro shown unit
  obtain ⟨-, hupper⟩ := leadsAt_leadingPower hpos hpos'
  have hunit : 0 < unit := by positivity
  have hscaled := scaleDown_eq numerator denominator (leadingPower numerator denominator - places)
  have hbottom := scaleDown_pos numerator hpos' (leadingPower numerator denominator - places)
  set power := leadingPower numerator denominator with hpower
  set digits := roundHalfEven (scaleDown numerator denominator (power - places)).1
    (scaleDown numerator denominator (power - places)).2 with hdigits
  have hshown : shown =
      if digits < 10 ^ (places + 1) then (digits, power) else (digits / 10, power + 1) := rfl
  have hround : |digits * unit - (numerator / denominator : ℚ)| ≤ unit / 2 :=
    abs_units_sub_le hunit (abs_roundHalfEven_sub_le _ hbottom) hscaled
  have hmore : digits ≤ 10 ^ (places + 1) := by
    refine roundHalfEven_le_ten_pow hbottom ?_
    rw [hscaled, div_le_iff₀ hunit, ← zpow_natCast, ← zpow_add₀ (by norm_num)]
    refine hupper.le.trans_eq ?_
    congr 1
    push_cast
    ring
  rcases hmore.lt_or_eq with hlt | heq
  · rw [hshown, if_pos hlt]
    exact ⟨hround, le_rfl⟩
  · have hnext : (10 : ℚ) ^ (power + 1 - places) = 10 * unit := by
      rw [add_sub_right_comm, zpow_add_one₀ (by norm_num), mul_comm]
    rw [hshown, if_neg (by omega)]
    dsimp only
    rw [hnext, heq, pow_succ, Nat.mul_div_cancel _ (by norm_num)]
    rw [heq, pow_succ] at hround
    constructor
    · have hsame : ((10 ^ places : ℕ) * (10 * unit) : ℚ) = (10 ^ places * 10 : ℕ) * unit := by
        push_cast
        ring
      rwa [hsame]
    · linarith

/-- A float with a power of ten is read back to within half of the last decimal, and to within
a fixed part of its own magnitude. -/
theorem read?_scientific {value : Float} {number : ℚ} (h : IsNumber value number)
    (hne : number ≠ 0) (places : ℕ) :
    ∃ reading, read? (scientific places value) = some reading ∧ reading.Shows number ∧
      |reading.number - number| ≤ |number| / (2 * 10 ^ places) := by
  obtain ⟨negative, significand, exponent, hparts, rfl⟩ := h.exists_finite
  have hpos : 0 < significand := by
    apply Nat.pos_of_ne_zero
    rintro rfl
    simp at hne
  have hnumerator : 0 < (ratio significand exponent).1 := by simp [ratio, hpos]
  have hbottom := ratio_pos significand exponent
  obtain ⟨hlower, -⟩ := leadsAt_leadingPower hnumerator hbottom
  obtain ⟨hround, hunit⟩ := shownDigits_spec hnumerator hbottom places
  rw [scientific_of_finite hparts hpos]
  set shown := shownDigits (ratio significand exponent).1 (ratio significand exponent).2 places
  rw [ratio_eq] at hlower hround
  rw [read?_sign_withPoint negative _ places (power?_repr shown.2)]
  refine ⟨_, rfl, ?_, ?_⟩
  · rw [Reading.Shows, Reading.abs_signed_sub]
    refine hround.trans ?_
    change _ ≤ 10 ^ (shown.2 - places) / 2
    linarith
  · have habs (magnitude : ℚ) (hnonneg : 0 ≤ magnitude) :
        |if negative then -magnitude else magnitude| = magnitude := by
      cases negative <;> simp [abs_of_nonneg hnonneg]
    rw [Reading.abs_signed_sub, habs _ (by positivity)]
    refine hround.trans ?_
    rw [zpow_sub₀ (by norm_num), zpow_natCast, div_div, mul_comm (_ ^ places)]
    gcongr

example : scientific 3 99999999.0 = "1.000e8" := by decide +kernel

end Decimal

end StreamPlot
