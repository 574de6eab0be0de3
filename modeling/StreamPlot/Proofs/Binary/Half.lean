import StreamPlot.Proofs.Binary.Nearest

/-!
# Quotients of floats on either side of a half

Doubling commutes with rounding, since it only moves the spacing. Two floats that differ do so by
more than the last bit of their quotient can hide. So a quotient of two floats is rounded to less
than a half exactly if the double of the first is less than the second.
-/

namespace StreamPlot

namespace Binary

variable {number first second : ℚ}

/-! ## Doubling -/

theorem spacing_two_mul (h : 2 ^ (-1022 : ℤ) ≤ |number|) :
    spacing (2 * number) = spacing number + 1 := by
  have hpos : 0 < |number| := (two_zpow_pos _).trans_le h
  have hdouble : |2 * number| = 2 * |number| := by rw [abs_mul, abs_two]
  have hpos' : 0 < |2 * number| := hdouble ▸ mul_pos two_pos hpos
  have hleast : -1022 ≤ Int.log 2 |number| := (Int.zpow_le_iff_le_log (by norm_num) hpos).mp h
  have hlow : (2 : ℚ) ^ Int.log 2 |number| ≤ |number| := Int.zpow_log_le_self (by norm_num) hpos
  have hhigh : |number| < 2 ^ (Int.log 2 |number| + 1) :=
    Int.lt_zpow_succ_log_self (by norm_num) |number|
  have hlog : Int.log 2 |2 * number| = Int.log 2 |number| + 1 := by
    apply le_antisymm
    · rw [← Int.lt_add_one_iff, ← Int.lt_zpow_iff_log_lt (by norm_num) hpos', Nat.cast_ofNat,
        hdouble, two_zpow_add _ 1]
      linarith
    · rw [← Int.zpow_le_iff_le_log (by norm_num) hpos', Nat.cast_ofNat, hdouble, two_zpow_add _ 1]
      linarith
  rw [spacing, spacing, hlog]
  omega

/-- The double of a number is rounded to the double of what the number is rounded to. -/
theorem nearest_two_mul (h : 2 ^ (-1022 : ℤ) ≤ |number|) :
    nearest (2 * number) = 2 * nearest number := by
  have hquotient : 2 * number / 2 ^ (spacing number + 1) = number / 2 ^ spacing number := by
    rw [two_zpow_add, zpow_one, mul_comm (_ ^ _), mul_div_mul_left _ _ two_ne_zero]
  rw [nearest, spacing_two_mul h, hquotient, nearest, two_zpow_add]
  ring

theorem nearest_two_mul_natCast (count : ℕ) :
    nearest (2 * count) = 2 * nearest count := by
  rcases count.eq_zero_or_pos with rfl | hpos
  · simp
  · apply nearest_two_mul
    rw [Nat.abs_cast]
    calc
      (2 : ℚ) ^ (-1022 : ℤ) ≤ 2 ^ (0 : ℤ) := zpow_le_zpow_right₀ (by norm_num) (by norm_num)
      _ = 1 := zpow_zero 2
      _ ≤ count := by exact_mod_cast hpos

/-! ## Floats -/

/-- What a number is rounded to is a float, which is left alone. -/
theorem nearest_nearest (number : ℚ) : nearest (nearest number) = nearest number := by
  have hpositive (magnitude : ℚ) (h : 0 < magnitude) :
      nearest (nearest magnitude) = nearest magnitude := by
    have hwhole : 0 ≤ nearestWhole (magnitude / 2 ^ spacing magnitude) := by
      have hmono : nearestWhole ((0 : ℤ) : ℚ) ≤ nearestWhole (magnitude / 2 ^ spacing magnitude) :=
        nearestWhole_mono (by rw [Int.cast_zero]; exact (div_pos h (two_zpow_pos _)).le)
      rwa [nearestWhole_intCast] at hmono
    apply nearest_of_float (nearestWhole (magnitude / 2 ^ spacing magnitude)) (spacing magnitude)
      rfl
    · rw [abs_of_nonneg hwhole]
      exact nearestWhole_quotient_le h
    · exact le_max_right _ _
  rcases lt_trichotomy number 0 with hneg | rfl | hpos
  · have hflipped := hpositive (-number) (neg_pos.mpr hneg)
    rwa [nearest_neg, nearest_neg, neg_inj] at hflipped
  · rw [nearest_zero, nearest_zero]
  · exact hpositive number hpos

/-- Floats of different size lie at least the spacing of the smaller one apart. -/
theorem two_zpow_spacing_le_sub (hfirst : nearest first = first) (hsecond : nearest second = second)
    (hpos : 0 < first) (hlt : first < second) : 2 ^ spacing first ≤ second - first := by
  have hpower := two_zpow_pos (spacing first)
  have hle : spacing first ≤ spacing second :=
    spacing_mono hpos.ne' (abs_le_abs_of_nonneg hpos.le hlt.le)
  obtain ⟨shift, hshift⟩ := Int.eq_ofNat_of_zero_le (sub_nonneg.mpr hle)
  have hsum : spacing second = shift + spacing first := by omega
  set low := nearestWhole (first / 2 ^ spacing first)
  set high := nearestWhole (second / 2 ^ spacing second)
  -- both are multiples of the smaller spacing
  have hlow : low * 2 ^ spacing first = first := hfirst
  have hhigh : (high * 2 ^ shift : ℤ) * 2 ^ spacing first = second := by
    calc
      ((high * 2 ^ shift : ℤ) : ℚ) * 2 ^ spacing first =
          high * (2 ^ (shift : ℤ) * 2 ^ spacing first) := by
        push_cast
        rw [zpow_natCast, mul_assoc]
      _ = high * 2 ^ spacing second := by rw [hsum, two_zpow_add]
      _ = second := hsecond
  have hwhole : low < high * 2 ^ shift := by
    rw [← Int.cast_lt (R := ℚ)]
    exact lt_of_mul_lt_mul_right (by rwa [hlow, hhigh]) hpower.le
  have hstep : (low + 1 : ℚ) * 2 ^ spacing first ≤ (high * 2 ^ shift : ℤ) * 2 ^ spacing first :=
    mul_le_mul_of_nonneg_right (by exact_mod_cast hwhole) hpower.le
  rw [hhigh, add_mul, hlow, one_mul] at hstep
  linarith

/-- Floats of different size differ by more than a last bit can hide. -/
theorem div_two_pow_lt_sub (hfirst : nearest first = first) (hsecond : nearest second = second)
    (hpos : 0 < second) (hlt : first < second) : second / 2 ^ 54 < second - first := by
  rcases lt_or_ge first (second / 2) with hfar | hnear
  · linarith only [hpos, hfar]
  · have hfirst_pos : 0 < first := (half_pos hpos).trans_le hnear
    have hgap := two_zpow_spacing_le_sub hfirst hsecond hfirst_pos hlt
    have hmagnitude := abs_lt_of_spacing first
    rw [abs_of_pos hfirst_pos, two_zpow_add] at hmagnitude
    rw [div_lt_iff₀ (by norm_num)]
    norm_num at hmagnitude ⊢
    linarith

/-! ## Quotients -/

/-- Of a quotient of floats, rounding does not hide whether it is less than a half. -/
theorem nearest_div_lt_half_iff (hdouble : nearest (2 * first) = 2 * first)
    (hsecond : nearest second = second) (hnonneg : 0 ≤ first) (hpos : 0 < second) :
    nearest (first / second) < 1 / 2 ↔ 2 * first < second := by
  constructor
  · intro hhalf
    by_contra hge
    have hquotient : 2 ^ (-1 : ℤ) ≤ first / second := by
      rw [le_div_iff₀ hpos]
      norm_num
      linarith
    have hrounded := nearest_mono hquotient
    rw [nearest_two_zpow (by norm_num)] at hrounded
    norm_num at hrounded hhalf
    linarith
  · intro hlt
    have hgap := div_two_pow_lt_sub hdouble hsecond hpos hlt
    have hquotient : first / second < 1 / 2 - 1 / 2 ^ 55 := by
      rw [div_lt_iff₀ hpos]
      norm_num at hgap ⊢
      linarith
    have hsmall : |first / second| < 2 ^ (-54 + 53 : ℤ) := by
      rw [abs_of_nonneg (div_nonneg hnonneg hpos.le)]
      norm_num at hquotient ⊢
      linarith
    have hround := (abs_le.mp (abs_nearest_sub_le_of_abs_lt (by norm_num) hsmall)).2
    norm_num at hround hquotient ⊢
    linarith

end Binary

end StreamPlot
