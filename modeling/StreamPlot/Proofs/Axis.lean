import StreamPlot.Proofs.Decimal.Digits
import StreamPlot.Proofs.Plot
import StreamPlot.Screen.Chart

/-!
# What the labels of an axis say

The three labels of an axis are read back as decimals. Each is off by at most half a unit of
its last digit, and they are in order. The margin of the window sees to that: it is at least
a fixed part of every value on the axis, so what rounding does to two neighbouring labels is
less than what lies between the values themselves.
-/

namespace StreamPlot

open Binary Decimal

/-! ## Room for three labels -/

/-- How far rounding leads away from a number of the magnitudes on an axis. -/
def slack : ℚ := 1 / 2 ^ 19

theorem abs_nearest_sub_le_slack {number : ℚ} (h : |number| < 2 ^ 35) :
    |nearest number - number| ≤ slack := by
  have hbound : |nearest number - number| ≤ 2 ^ (-18 : ℤ) / 2 :=
    abs_nearest_sub_le_of_abs_lt (by norm_num) (h.trans_eq (by norm_num))
  exact hbound.trans_eq (by norm_num [slack])

/-- The ends of an interval that has room for three labels. -/
structure Roomy (lo hi : ℚ) : Prop where
  low : -1 ≤ lo
  high : hi ≤ 2 ^ 34
  wide : 1 ≤ hi - lo
  scale : hi ≤ 100 * (hi - lo)

theorem roomy_unit : Roomy 0 1 := by
  constructor <;> norm_num

section

variable (word : UInt32)

theorem neg_one_le_lowerEnd : -1 ≤ lowerEnd word := by
  have hscaled : 0 ≤ nearest (word.toNat * lowerFactor) :=
    nearest_nonneg (mul_nonneg (Nat.cast_nonneg _) lowerFactor_bounds.1.le)
  have hminus : nearest ((-1 : ℤ) : ℚ) = (-1 : ℤ) := nearest_intCast (by norm_num)
  calc
    (-1 : ℚ) = nearest ((-1 : ℤ) : ℚ) := by
      rw [hminus]
      norm_num
    _ ≤ lowerEnd word := nearest_mono (by push_cast; linarith)

/-- Scaling and shifting a word in two rounded steps stays near to the exact result. -/
theorem abs_scaled_shifted_sub_le {scale shift : ℚ} (hscale : |scale| ≤ 2) (hshift : |shift| ≤ 1) :
    |nearest (nearest (word.toNat * scale) + shift) - (word.toNat * scale + shift)| ≤
      2 * slack := by
  obtain ⟨hproduct, hscaled⟩ := abs_scaled_le word hscale
  have hsum : |nearest (word.toNat * scale) + shift| < 2 ^ 35 := by
    calc
      |nearest (word.toNat * scale) + shift| ≤ 2 ^ (33 : ℤ) + 1 :=
        (abs_add_le _ _).trans (add_le_add hscaled hshift)
      _ < 2 ^ 35 := by norm_num
  have hfirst := abs_le.mp (abs_nearest_sub_le_slack (hproduct.trans_lt (by norm_num)))
  have hsecond := abs_le.mp (abs_nearest_sub_le_slack hsum)
  rw [abs_le]
  constructor <;> linarith

theorem abs_lowerEnd_sub_le : |lowerEnd word - (word.toNat * lowerFactor - 1)| ≤ 2 * slack := by
  obtain ⟨hpos, hone⟩ := lowerFactor_bounds
  rw [lowerEnd, sub_eq_add_neg _ (1 : ℚ), sub_eq_add_neg _ (1 : ℚ)]
  exact abs_scaled_shifted_sub_le word (abs_le.mpr ⟨by linarith, by linarith⟩) (by norm_num)

theorem abs_upperEnd_sub_le : |upperEnd word - (word.toNat * upperFactor + 1)| ≤ 2 * slack := by
  obtain ⟨hone, htwo⟩ := upperFactor_bounds
  exact abs_scaled_shifted_sub_le word (abs_le.mpr ⟨by linarith, by linarith⟩) (by norm_num)

end

/-- The margin of the window is more than a hundredth of all that lies inside. -/
theorem roomy_padded {least greatest : UInt32} (h : least ≤ greatest) :
    Roomy (lowerEnd least) (upperEnd greatest) := by
  have hlower := lowerEnd_le least
  have hupper := le_upperEnd greatest
  have hmono := lowerEnd_mono h
  have hle : (least.toNat : ℚ) ≤ greatest.toNat := by exact_mod_cast UInt32.le_iff_toNat_le.mp h
  have hpos : (0 : ℚ) ≤ greatest.toNat := Nat.cast_nonneg _
  have hword : (greatest.toNat : ℚ) ≤ 2 ^ 32 := by exact_mod_cast greatest.toNat_lt.le
  have hlo := abs_le.mp (abs_lowerEnd_sub_le greatest)
  have hhi := abs_le.mp (abs_upperEnd_sub_le greatest)
  have hlow := neg_one_le_lowerEnd least
  unfold slack lowerFactor at hlo
  unfold slack upperFactor at hhi
  -- the two factors lie about a fiftieth of the greatest word apart, and rounding takes away
  -- next to nothing of that
  constructor <;> linarith

/-- The middle of an interval as it is computed, in three rounded steps. -/
def middle (lo hi : ℚ) : ℚ := nearest (lo + nearest (nearest (hi - lo) / 2))

namespace Roomy

variable {lo hi : ℚ}

theorem abs_length_lt (h : Roomy lo hi) : |hi - lo| < 2 ^ 35 := by
  have hhigh := h.high
  have hlow := h.low
  have hwide := h.wide
  rw [abs_lt]
  constructor <;> linarith

theorem abs_length_sub_le (h : Roomy lo hi) : |nearest (hi - lo) - (hi - lo)| ≤ slack :=
  abs_nearest_sub_le_slack h.abs_length_lt

theorem abs_half_lt (h : Roomy lo hi) : |nearest (hi - lo) / 2| < 2 ^ 35 := by
  have hlength := abs_lt.mp h.abs_length_lt
  have hround := abs_le.mp h.abs_length_sub_le
  unfold slack at hround
  rw [abs_lt]
  constructor <;> linarith

theorem abs_sum_lt (h : Roomy lo hi) : |lo + nearest (nearest (hi - lo) / 2)| < 2 ^ 35 := by
  have hlow := h.low
  have hhigh := h.high
  have hwide := h.wide
  have hround := abs_le.mp h.abs_length_sub_le
  have hround' := abs_le.mp (abs_nearest_sub_le_slack h.abs_half_lt)
  unfold slack at hround hround'
  rw [abs_lt]
  constructor <;> linarith

/-- Three roundings stay together within three times what one may do. -/
theorem abs_middle_sub_le (h : Roomy lo hi) : |middle lo hi - (lo + hi) / 2| ≤ 3 * slack := by
  have hlength := abs_le.mp h.abs_length_sub_le
  have hhalf := abs_le.mp (abs_nearest_sub_le_slack h.abs_half_lt)
  have hsum := abs_le.mp (abs_nearest_sub_le_slack h.abs_sum_lt)
  unfold slack at *
  rw [middle, abs_le]
  constructor <;> linarith

end Roomy

/-- How far a label may be off, by the length of the axis and the value that is labelled. -/
def tolerance (length value : ℚ) : ℚ := if length < 10 then 1 / 200 else 1 / 2 + |value| / 2000

/-- Between neighbouring labels lies more than both of them may be off. -/
theorem Roomy.tolerance_lt {lo hi length mid : ℚ} (h : Roomy lo hi)
    (hlength : |length - (hi - lo)| ≤ slack) (hmid : |mid - (lo + hi) / 2| ≤ 3 * slack) :
    tolerance length lo + tolerance length mid < mid - lo ∧
      tolerance length mid + tolerance length hi < hi - mid := by
  have hlow := h.low
  have hwide := h.wide
  have hscale := h.scale
  rw [abs_le] at hlength hmid
  unfold slack at *
  unfold tolerance
  split_ifs with hshort
  · constructor <;> linarith
  · -- no label of a long axis is off by more than a half and a twentieth of the length
    have hlo : |lo| ≤ hi := abs_le.mpr ⟨by linarith, by linarith⟩
    have hmid' : |mid| ≤ hi := abs_le.mpr ⟨by linarith, by linarith⟩
    have hhi : |hi| ≤ hi := abs_le.mpr ⟨by linarith, le_rfl⟩
    constructor <;> linarith

/-! ## Labels -/

theorem isNumber_ten : IsNumber 10.0 10 := by
  have hbits : ofFloat 10.0 = .finite false (5 * 2 ^ 50) (-49) := by decide +kernel
  exact isNumber_of_finite hbits (by norm_num)

theorem isNumber_tenMillion : IsNumber 10000000.0 10000000 := by
  have hbits : ofFloat 10000000.0 = .finite false (10000000 * 2 ^ 29) (-29) := by decide +kernel
  exact isNumber_of_finite hbits (by norm_num)

theorem isNumber_two : IsNumber 2.0 2 := by
  have hbits : ofFloat 2.0 = .finite false (2 ^ 52) (-51) := by decide +kernel
  exact isNumber_of_finite hbits (by norm_num)

/-- A label shows its value, and is off by no more than it may be. -/
theorem read?_tickText {value length : Float} {number size : ℚ} (hvalue : IsNumber value number)
    (hlength : IsNumber length size) (hrange : InRange number) :
    ∃ reading, read? (tickText value length) = some reading ∧ reading.Shows number ∧
      |reading.number - number| ≤ tolerance size number := by
  have hshort := hlength.lt_iff isNumber_ten
  have hlarge := isNumber_tenMillion.le_iff (hvalue.abs hrange)
  unfold tickText tolerance
  split
  next hlt =>
    rw [if_pos (hshort.mp hlt)]
    obtain ⟨reading, hread, hunit, hshows⟩ := read?_fixed hvalue 2
    refine ⟨reading, hread, hshows, ?_⟩
    rw [Reading.Shows, hunit] at hshows
    exact hshows.trans_eq (by norm_num)
  next hle =>
    rw [if_neg (mt hshort.mpr hle)]
    have hnonneg : 0 ≤ |number| / 2000 := by positivity
    split
    next hge =>
      have hmillions := hlarge.mp hge
      have hne : number ≠ 0 := by
        rintro rfl
        norm_num at hmillions
      obtain ⟨reading, hread, hshows, hrelative⟩ := read?_scientific hvalue hne 3
      refine ⟨reading, hread, hshows, ?_⟩
      norm_num at hrelative
      linarith
    next hlt =>
      obtain ⟨reading, hread, hunit, hshows⟩ := read?_fixed hvalue 0
      refine ⟨reading, hread, hshows, ?_⟩
      rw [Reading.Shows, hunit] at hshows
      norm_num at hshows
      linarith

namespace Span

/-- The texts along an axis are three decimals in order, each of which shows the value that it
labels: the low end, the middle as it is computed, and the high end. -/
def Legible (span : Span) : Prop :=
  ∃ low center high : Reading,
    (axisLabels span).map read? = [some low, some center, some high] ∧
      low.number < center.number ∧ center.number < high.number ∧
      ∃ lo mid hi : ℚ,
        IsNumber span.lo lo ∧ IsNumber (span.lo + (span.hi - span.lo) / 2.0) mid ∧
          IsNumber span.hi hi ∧ |mid - (lo + hi) / 2| ≤ 3 * slack ∧
          low.Shows lo ∧ center.Shows mid ∧ high.Shows hi

variable {span : Span} {lo hi : ℚ}

theorem isNumber_length (h : Roomy lo hi) (hlo : IsNumber span.lo lo) (hhi : IsNumber span.hi hi) :
    IsNumber (span.hi - span.lo) (nearest (hi - lo)) :=
  hhi.sub hlo (inRange_of_abs_lt h.abs_length_lt)

theorem isNumber_middle (h : Roomy lo hi) (hlo : IsNumber span.lo lo) (hhi : IsNumber span.hi hi) :
    IsNumber (span.lo + (span.hi - span.lo) / 2.0) (middle lo hi) := by
  have hhalf := (isNumber_length h hlo hhi).div isNumber_two two_ne_zero
    (inRange_of_abs_lt h.abs_half_lt)
  exact hlo.add hhalf (inRange_of_abs_lt h.abs_sum_lt)

theorem legible_of_roomy (h : Roomy lo hi) (hlo : IsNumber span.lo lo)
    (hhi : IsNumber span.hi hi) : span.Legible := by
  have hlength := isNumber_length h hlo hhi
  have hmid := isNumber_middle h hlo hhi
  obtain ⟨hbelow, habove⟩ := h.tolerance_lt h.abs_length_sub_le h.abs_middle_sub_le
  have hlow := h.low
  have hwide := h.wide
  have hhigh := h.high
  have hmiddle := abs_le.mp h.abs_middle_sub_le
  unfold slack at hmiddle
  obtain ⟨low, hread, hshows, hoff⟩ := read?_tickText hlo hlength
    (inRange_of_abs_lt (abs_lt.mpr ⟨by linarith, by linarith⟩))
  obtain ⟨center, hread', hshows', hoff'⟩ := read?_tickText hmid hlength
    (inRange_of_abs_lt (abs_lt.mpr ⟨by linarith, by linarith⟩))
  obtain ⟨high, hread'', hshows'', hoff''⟩ := read?_tickText hhi hlength
    (inRange_of_abs_lt (abs_lt.mpr ⟨by linarith, by linarith⟩))
  rw [abs_le] at hoff hoff' hoff''
  refine ⟨low, center, high, ?_, by linarith, by linarith, lo, _, hi, hlo, hmid, hhi,
    h.abs_middle_sub_le, hshows, hshows', hshows''⟩
  simp [axisLabels, tickValues, hread, hread', hread'']

example : axisLabels ⟨9000000.0, 11000000.0⟩ = ["9000000", "1.000e7", "1.100e7"] := by
  decide +kernel

theorem legible_unit : unit.Legible :=
  legible_of_roomy roomy_unit isNumber_zero isNumber_margin

theorem legible_padded {words : List UInt32} (h : extremes words = some span) :
    span.padded.Legible := by
  obtain ⟨least, hleast, greatest, hgreatest, rfl, hbetween⟩ := exists_of_extremes h
  have hle := (hbetween least hleast).2
  exact legible_of_roomy (roomy_padded hle) (isNumber_padLower least) (isNumber_padUpper greatest)

end Span

/-- Whatever has been seen, the labels of both axes can be read: they are three numbers in
order, each within half a unit of its last digit of the value that it labels. -/
theorem axes_are_legible (samples : List Sample) :
    (Plot.ofList samples).window.x.Legible ∧ (Plot.ofList samples).window.y.Legible := by
  have hplot := Plot.reflects_ofList samples
  rcases eq_or_ne samples [] with rfl | hsamples
  · exact ⟨Span.legible_unit, Span.legible_unit⟩
  · obtain ⟨x, y, hx, hy, hwindow⟩ := hplot.exists_window hsamples
    rw [hwindow]
    exact ⟨Span.legible_padded hx, Span.legible_padded hy⟩

end StreamPlot
