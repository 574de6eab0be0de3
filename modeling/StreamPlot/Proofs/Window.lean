import StreamPlot.Bounds
import StreamPlot.Proofs.Binary.Arithmetic

/-!
# The margin of the window

Both ends of a window are computed in two rounded steps. A rounding that keeps the order and
leaves whole numbers alone cannot spoil the margin: scaling leads to the right side of a
whole number, so does rounding, and the second step adds or takes away 1 from there. Both
steps keep the order as well, so the window of wider bounds is wider.
-/

namespace StreamPlot

/-! ## Rounded ends -/

/-- A rounding keeps the order and leaves small whole numbers alone. -/
structure Rounding (round : ℚ → ℚ) : Prop where
  mono : Monotone round
  whole : ∀ {whole : ℤ}, |whole| < 2 ^ 53 → round whole = whole

namespace Rounding

theorem nearest : Rounding Binary.nearest where
  mono := Binary.nearest_mono
  whole := fun h => Binary.nearest_intCast h.le

variable {round : ℚ → ℚ} {scale : ℚ} {number : ℕ}

theorem natCast (h : Rounding round) (hnumber : number < 2 ^ 53) :
    round number = number := by
  have hwhole : round ((number : ℤ) : ℚ) = ((number : ℤ) : ℚ) :=
    h.whole (by rw [Nat.abs_cast]; exact_mod_cast hnumber)
  exact_mod_cast hwhole

theorem sub_one (h : Rounding round) (hnumber : number < 2 ^ 53) :
    round (number - 1) = number - 1 := by
  have hwhole : round ((number - 1 : ℤ) : ℚ) = ((number - 1 : ℤ) : ℚ) := by
    apply h.whole
    rw [abs_lt]
    omega
  exact_mod_cast hwhole

theorem add_one (h : Rounding round) (hnumber : number + 1 < 2 ^ 53) :
    round (number + 1) = number + 1 := by
  exact_mod_cast h.natCast hnumber

theorem scaled_le (h : Rounding round) (hscale : scale ≤ 1) (hnumber : number < 2 ^ 53) :
    round (number * scale) ≤ number := by
  calc
    round (number * scale) ≤ round number :=
      h.mono (mul_le_of_le_one_right (Nat.cast_nonneg number) hscale)
    _ = number := h.natCast hnumber

theorem le_scaled (h : Rounding round) (hscale : 1 ≤ scale) (hnumber : number < 2 ^ 53) :
    number ≤ round (number * scale) := by
  calc
    (number : ℚ) = round number := (h.natCast hnumber).symm
    _ ≤ round (number * scale) :=
      h.mono (le_mul_of_one_le_right (Nat.cast_nonneg number) hscale)

theorem scaled_mono (h : Rounding round) (hscale : 0 ≤ scale) {small large : ℕ}
    (hle : small ≤ large) : round (small * scale) ≤ round (large * scale) :=
  h.mono (mul_le_mul_of_nonneg_right (Nat.cast_le.mpr hle) hscale)

/-- The lower end of a window is at least 1 below the number that it is computed from. -/
theorem lower_le (h : Rounding round) (hscale : scale ≤ 1) (hnumber : number < 2 ^ 53) :
    round (round (number * scale) - 1) ≤ number - 1 := by
  calc
    round (round (number * scale) - 1) ≤ round (number - 1) :=
      h.mono (sub_le_sub_right (h.scaled_le hscale hnumber) 1)
    _ = number - 1 := h.sub_one hnumber

theorem le_upper (h : Rounding round) (hscale : 1 ≤ scale) (hnumber : number + 1 < 2 ^ 53) :
    number + 1 ≤ round (round (number * scale) + 1) := by
  calc
    (number + 1 : ℚ) = round (number + 1) := (h.add_one hnumber).symm
    _ ≤ round (round (number * scale) + 1) :=
      h.mono (add_le_add_left (h.le_scaled hscale (by omega)) 1)

end Rounding

/-! ## The ends as floats -/

open Binary

/-- The number that is nearest to 0.99 among the floats. -/
def lowerFactor : ℚ := 8917127262193582 / 2 ^ 53

/-- The number that is nearest to 1.01 among the floats. -/
def upperFactor : ℚ := 4548635623644201 / 2 ^ 52

theorem lowerFactor_bounds : 0 < lowerFactor ∧ lowerFactor < 1 := by
  norm_num [lowerFactor]

theorem upperFactor_bounds : 1 < upperFactor ∧ upperFactor < 2 := by
  norm_num [upperFactor]

theorem isNumber_lowerScale : IsNumber lowerScale lowerFactor := by
  have hbits : ofFloat lowerScale = .finite false 8917127262193582 (-53) := by decide +kernel
  exact isNumber_of_finite hbits (by norm_num [lowerFactor])

theorem isNumber_upperScale : IsNumber upperScale upperFactor := by
  have hbits : ofFloat upperScale = .finite false 4548635623644201 (-52) := by decide +kernel
  exact isNumber_of_finite hbits (by norm_num [upperFactor])

theorem isNumber_zero : IsNumber 0.0 0 := by
  have hbits : ofFloat 0.0 = .finite false 0 (-1074) := by decide +kernel
  exact isNumber_of_finite hbits (by norm_num)

theorem isNumber_margin : IsNumber margin 1 := by
  have hbits : ofFloat margin = .finite false (2 ^ 52) (-52) := by decide +kernel
  exact isNumber_of_finite hbits (by norm_num)

/-- The lower end of the window if a word is the least coordinate. -/
def lowerEnd (word : UInt32) : ℚ := nearest (nearest (word.toNat * lowerFactor) - 1)

/-- The upper end of the window if a word is the greatest coordinate. -/
def upperEnd (word : UInt32) : ℚ := nearest (nearest (word.toNat * upperFactor) + 1)

section

variable (word : UInt32)

/-- No scaled word comes near the end of the range, rounded or not. -/
theorem abs_scaled_le {scale : ℚ} (hscale : |scale| ≤ 2) :
    |word.toNat * scale| ≤ 2 ^ (33 : ℤ) ∧ |nearest (word.toNat * scale)| ≤ 2 ^ (33 : ℤ) := by
  have hword : |(word.toNat : ℚ)| ≤ 2 ^ (32 : ℤ) := by
    rw [Nat.abs_cast]
    exact_mod_cast word.toNat_lt.le
  have hproduct : |word.toNat * scale| ≤ 2 ^ (33 : ℤ) := by
    calc
      |word.toNat * scale| = |(word.toNat : ℚ)| * |scale| := abs_mul _ _
      _ ≤ 2 ^ (32 : ℤ) * 2 := mul_le_mul hword hscale (abs_nonneg scale) (two_zpow_pos 32).le
      _ = 2 ^ (33 : ℤ) := by norm_num
  exact ⟨hproduct, abs_nearest_le (by norm_num) hproduct⟩

theorem inRange_of_abs_lt {number : ℚ} (h : |number| < 2 ^ 35) : InRange number := by
  have hbound : (2 : ℚ) ^ (35 : ℤ) ≤ 2 ^ (1023 : ℤ) :=
    zpow_le_zpow_right₀ (by norm_num) (by norm_num)
  exact h.le.trans (le_trans (by norm_num) hbound)

theorem isNumber_padLower : IsNumber (padLower word.toFloat) (lowerEnd word) := by
  have hfactor : |lowerFactor| ≤ 2 := by
    obtain ⟨hpos, hone⟩ := lowerFactor_bounds
    exact abs_le.mpr ⟨by linarith, by linarith⟩
  obtain ⟨hproduct, hscaled⟩ := abs_scaled_le word hfactor
  refine ((isNumber_toFloat word).mul isNumber_lowerScale ?_).sub isNumber_margin ?_
  · exact inRange_of_abs_lt (hproduct.trans_lt (by norm_num))
  · have hdifference := (abs_sub _ _).trans (add_le_add hscaled abs_one.le)
    exact inRange_of_abs_lt (hdifference.trans_lt (by norm_num))

theorem isNumber_padUpper : IsNumber (padUpper word.toFloat) (upperEnd word) := by
  have hfactor : |upperFactor| ≤ 2 := by
    obtain ⟨hone, htwo⟩ := upperFactor_bounds
    exact abs_le.mpr ⟨by linarith, by linarith⟩
  obtain ⟨hproduct, hscaled⟩ := abs_scaled_le word hfactor
  refine ((isNumber_toFloat word).mul isNumber_upperScale ?_).add isNumber_margin ?_
  · exact inRange_of_abs_lt (hproduct.trans_lt (by norm_num))
  · have hsum := (abs_add_le _ _).trans (add_le_add hscaled abs_one.le)
    exact inRange_of_abs_lt (hsum.trans_lt (by norm_num))

theorem lowerEnd_le : lowerEnd word ≤ word.toNat - 1 :=
  Rounding.nearest.lower_le lowerFactor_bounds.2.le (word.toNat_lt.trans (by norm_num))

theorem le_upperEnd : word.toNat + 1 ≤ upperEnd word :=
  Rounding.nearest.le_upper upperFactor_bounds.1.le (by have hword := word.toNat_lt; omega)

end

section

variable {small large : UInt32}

theorem lowerEnd_mono (h : small ≤ large) : lowerEnd small ≤ lowerEnd large :=
  nearest_mono (sub_le_sub_right (Rounding.nearest.scaled_mono lowerFactor_bounds.1.le h) 1)

theorem upperEnd_mono (h : small ≤ large) : upperEnd small ≤ upperEnd large := by
  have hscale : 0 ≤ upperFactor := zero_le_one.trans upperFactor_bounds.1.le
  exact nearest_mono (add_le_add_left (Rounding.nearest.scaled_mono hscale h) 1)

end

end StreamPlot
