import StreamPlot.Proofs.Binary.Number

/-!
# Arithmetic on floats

Arithmetic computes an exact significand and shifts it to the right until its last bit is
worth the spacing of the result. Two bits remember what has been shifted out: whether it is
at least a half, and whether anything is left beyond that. They suffice to round, so every
sum, difference, product and quotient of floats is the exact one taken to the nearest float.
-/

namespace StreamPlot

open Float.Model UnpackedFloat

namespace Binary

/-! ## Shifting and rounding -/

/-- A significand with its two bits is what has come of a number that is no whole one. -/
structure Approximates (extended : ExtendedMantissa) (number : ℚ) : Prop where
  lower : extended.mantissa ≤ number
  upper : number < extended.mantissa + 1
  round : extended.roundBit = true ↔ extended.mantissa + 1 / 2 ≤ number
  sticky : extended.stickyBit = true ↔
    number ≠ extended.mantissa ∧ number ≠ extended.mantissa + 1 / 2

namespace Approximates

variable {extended : ExtendedMantissa} {number : ℚ}

theorem of_exact (significand : ℕ) :
    Approximates (ExtendedMantissa.ofMantissaAndAccuracy significand .exact) significand where
  lower := le_rfl
  upper := lt_add_one _
  round := by simp [ExtendedMantissa.ofMantissaAndAccuracy]
  sticky := by simp [ExtendedMantissa.ofMantissaAndAccuracy]

theorem of_inexact (significand : ℕ) {fraction : ℚ} (hpos : 0 < fraction) (hlt : fraction < 1) :
    Approximates (ExtendedMantissa.ofMantissaAndAccuracy significand
      (.inexact (compare fraction (1 / 2)))) (significand + fraction) := by
  rcases lt_trichotomy fraction (1 / 2) with hbelow | rfl | habove
  · rw [compare_lt_iff_lt.mpr hbelow]
    refine ⟨?_, ?_, ⟨nofun, fun hround => ?_⟩, ⟨fun _ => ⟨?_, ?_⟩, fun _ => rfl⟩⟩
    all_goals simp only [ExtendedMantissa.ofMantissaAndAccuracy] at *
    all_goals linarith
  · rw [compare_eq_iff_eq.mpr rfl]
    refine ⟨?_, ?_, ⟨fun _ => le_rfl, fun _ => rfl⟩, ⟨nofun, fun hsticky => absurd rfl hsticky.2⟩⟩
    all_goals simp only [ExtendedMantissa.ofMantissaAndAccuracy]
    all_goals linarith
  · rw [compare_gt_iff_gt.mpr habove]
    refine ⟨?_, ?_, ⟨fun _ => ?_, fun _ => rfl⟩, ⟨fun _ => ⟨?_, ?_⟩, fun _ => rfl⟩⟩
    all_goals simp only [ExtendedMantissa.ofMantissaAndAccuracy]
    all_goals linarith

/-- The remainder of a division says how much has been cut off. -/
theorem of_quotient (numerator : ℕ) {denominator : ℕ} (hpos : 0 < denominator) :
    Approximates (ExtendedMantissa.ofMantissaAndAccuracy (numerator / denominator)
      (accuracyOfFraction (numerator % denominator) denominator))
      (numerator / denominator : ℚ) := by
  have hlt := Nat.mod_lt numerator hpos
  have hscale : (0 : ℚ) < denominator := by exact_mod_cast hpos
  have hparts : (numerator / denominator : ℚ) =
      (numerator / denominator : ℕ) + (numerator % denominator : ℕ) / denominator := by
    have hsplit : (numerator : ℚ) =
        denominator * (numerator / denominator : ℕ) + (numerator % denominator : ℕ) := by
      exact_mod_cast (Nat.div_add_mod numerator denominator).symm
    rw [div_eq_iff hscale.ne', add_mul, div_mul_cancel₀ _ hscale.ne', mul_comm, ← hsplit]
  rw [hparts]
  generalize numerator / denominator = quotient
  generalize numerator % denominator = rest at hlt
  unfold accuracyOfFraction
  rcases rest.eq_zero_or_pos with rfl | hrest
  · simpa using of_exact quotient
  have hcompare : compare (2 * rest) denominator = compare (rest / denominator : ℚ) (1 / 2) := by
    rcases lt_trichotomy (2 * rest) denominator with hbelow | hequal | habove
    · rw [compare_lt_iff_lt.mpr hbelow, eq_comm, compare_lt_iff_lt, div_lt_iff₀ hscale]
      have hcast : (2 * rest : ℚ) < denominator := by exact_mod_cast hbelow
      linarith
    · rw [compare_eq_iff_eq.mpr hequal, eq_comm, compare_eq_iff_eq, div_eq_iff hscale.ne']
      have hcast : (2 * rest : ℚ) = denominator := by exact_mod_cast hequal
      linarith
    · rw [compare_gt_iff_gt.mpr habove, eq_comm, compare_gt_iff_gt, lt_div_iff₀ hscale]
      have hcast : (denominator : ℚ) < 2 * rest := by exact_mod_cast habove
      linarith
  rw [if_neg hrest.ne', hcompare]
  exact of_inexact quotient (div_pos (by exact_mod_cast hrest) hscale)
    ((div_lt_one hscale).mpr (by exact_mod_cast hlt))

theorem floor_eq (h : Approximates extended number) : ⌊number⌋ = extended.mantissa :=
  Int.floor_eq_iff.mpr ⟨by exact_mod_cast h.lower, by exact_mod_cast h.upper⟩

/-- One bit is set if the number is not whole. -/
theorem bits_iff (h : Approximates extended number) :
    (extended.roundBit || extended.stickyBit) = true ↔ number ≠ extended.mantissa := by
  rw [Bool.or_eq_true, h.round, h.sticky]
  constructor
  · rintro (hhalf | ⟨hne, -⟩)
    · intro heq
      linarith
    · exact hne
  · intro hne
    by_cases heq : number = extended.mantissa + 1 / 2
    · exact .inl heq.ge
    · exact .inr ⟨hne, heq⟩

theorem shiftRightOne (h : Approximates extended number) :
    Approximates extended.shiftRightOne (number / 2) := by
  have hbits := h.bits_iff
  have hlower := h.lower
  have hupper := h.upper
  -- the bit that is shifted out becomes the round bit, and both old bits the sticky one
  rcases Nat.even_or_odd' extended.mantissa with ⟨half, heven | hodd⟩
  · have hshift : extended.shiftRightOne =
        ⟨half, false, extended.roundBit || extended.stickyBit⟩ := by
      simp [ExtendedMantissa.shiftRightOne, heven]
    rw [heven] at hbits hlower hupper
    push_cast at hbits hlower hupper
    rw [hshift]
    have hwhole : number / 2 ≠ half ↔ number ≠ 2 * half := by
      rw [Ne, Ne, div_eq_iff two_ne_zero, mul_comm]
    refine ⟨by linarith, by linarith, ⟨nofun, fun hround => by linarith⟩, ?_⟩
    rw [hbits, ← hwhole]
    exact ⟨fun hne => ⟨hne, fun htie => by linarith⟩, And.left⟩
  · have hshift : extended.shiftRightOne =
        ⟨half, true, extended.roundBit || extended.stickyBit⟩ := by
      simp [ExtendedMantissa.shiftRightOne, hodd]
      omega
    rw [hodd] at hbits hlower hupper
    push_cast at hbits hlower hupper
    rw [hshift]
    have htie : number / 2 ≠ half + 1 / 2 ↔ number ≠ 2 * half + 1 := by
      rw [Ne, Ne, div_eq_iff two_ne_zero, add_mul, one_div_mul_cancel two_ne_zero, mul_comm]
    refine ⟨by linarith, by linarith, ⟨fun _ => by linarith, fun _ => rfl⟩, ?_⟩
    rw [hbits, ← htie]
    exact ⟨fun hne => ⟨fun hwhole => by linarith, hne⟩, And.right⟩

theorem shiftRight (h : Approximates extended number) (count : ℕ) :
    Approximates (extended >>> count) (number / 2 ^ count) := by
  change Approximates (count.repeat ExtendedMantissa.shiftRightOne extended) _
  induction count with
  | zero => simpa [Nat.repeat] using h
  | succ count ih =>
    rw [pow_succ, ← div_div]
    exact ih.shiftRightOne

theorem roundedMantissa_eq (h : Approximates extended number) :
    (extended.roundedMantissa : ℤ) = nearestWhole number := by
  obtain ⟨whole, roundBit, stickyBit⟩ := extended
  have hfloor := h.floor_eq
  have hround := h.round
  have hsticky := h.sticky
  dsimp only at hfloor hround hsticky
  unfold nearestWhole
  dsimp only
  rw [hfloor, Int.cast_natCast]
  cases roundBit with
  | false =>
    have hbelow : number - whole < 1 / 2 := by
      have hnot := mt hround.mpr nofun
      linarith
    rw [if_pos hbelow]
    cases stickyBit <;> rfl
  | true =>
    have habove : whole + 1 / 2 ≤ number := hround.mp rfl
    rw [if_neg (by linarith)]
    cases stickyBit with
    | false =>
      have htie : number = whole + 1 / 2 := by
        by_contra hne
        exact absurd (hsticky.mpr ⟨fun heq => by linarith, hne⟩) nofun
      rw [if_neg (by linarith)]
      -- a tie goes to the even neighbour
      change ((whole + whole % 2 : ℕ) : ℤ) = _
      split_ifs <;> omega
    | true =>
      have hmore : 1 / 2 < number - whole := by
        have hne := (hsticky.mp rfl).2
        have hlt := lt_of_le_of_ne habove (Ne.symm hne)
        linarith
      rw [if_pos hmore]
      rfl

end Approximates

/-! ## Rounding a significand -/

theorem mantissa_ofMantissaAndAccuracy (significand : ℕ) (accuracy : Accuracy) :
    (ExtendedMantissa.ofMantissaAndAccuracy significand accuracy).mantissa = significand := by
  cases accuracy with
  | exact => rfl
  | inexact relation => cases relation <;> rfl

/-- A significand is what is left of a magnitude in units of a power of two, and its accuracy
says how much has been cut off. -/
def Truncates (significand : ℕ) (exponent : ℤ) (accuracy : Accuracy) (magnitude : ℚ) : Prop :=
  Approximates (ExtendedMantissa.ofMantissaAndAccuracy significand accuracy)
    (magnitude / 2 ^ exponent)

section

variable {significand : ℕ} {exponent : ℤ} {accuracy : Accuracy} {magnitude : ℚ}

namespace Truncates

theorem of_exact (significand : ℕ) (exponent : ℤ) :
    Truncates significand exponent .exact (significand * 2 ^ exponent) := by
  rw [Truncates, mul_div_cancel_right₀ _ (two_zpow_pos exponent).ne']
  exact .of_exact significand

theorem lower (h : Truncates significand exponent accuracy magnitude) :
    significand * 2 ^ exponent ≤ magnitude := by
  have hlower := Approximates.lower h
  rwa [mantissa_ofMantissaAndAccuracy, le_div_iff₀ (two_zpow_pos exponent)] at hlower

theorem upper (h : Truncates significand exponent accuracy magnitude) :
    magnitude < (significand + 1) * 2 ^ exponent := by
  have hupper := Approximates.upper h
  rwa [mantissa_ofMantissaAndAccuracy, div_lt_iff₀ (two_zpow_pos exponent)] at hupper

theorem log_magnitude (h : Truncates significand exponent accuracy magnitude)
    (hpos : 0 < significand) : Int.log 2 magnitude = significand.log2 + exponent := by
  have hscale := two_zpow_pos exponent
  have hmagnitude := (magnitude_pos exponent hpos).trans_le h.lower
  apply le_antisymm
  · rw [← Int.lt_add_one_iff, ← Int.lt_zpow_iff_log_lt (by norm_num) hmagnitude]
    have hnext : (significand + 1 : ℚ) ≤ (2 ^ (significand.log2 + 1) : ℕ) := by
      exact_mod_cast Nat.lt_log2_self
    calc
      magnitude < (significand + 1) * 2 ^ exponent := h.upper
      _ ≤ (2 ^ (significand.log2 + 1) : ℕ) * 2 ^ exponent :=
        mul_le_mul_of_nonneg_right hnext hscale.le
      _ = ((2 : ℕ) : ℚ) ^ (significand.log2 + exponent + 1) := by
        rw [add_right_comm, Nat.cast_ofNat, two_zpow_add]
        push_cast
        rfl
  · rw [← Int.zpow_le_iff_le_log (by norm_num) hmagnitude]
    calc
      ((2 : ℕ) : ℚ) ^ (significand.log2 + exponent) =
          (2 ^ significand.log2 : ℕ) * 2 ^ exponent := by
        rw [Nat.cast_ofNat, two_zpow_add]
        push_cast
        rfl
      _ ≤ significand * 2 ^ exponent :=
        mul_le_mul_of_nonneg_right (by exact_mod_cast Nat.log2_self_le hpos.ne') hscale.le
      _ ≤ magnitude := h.lower

theorem targetExponent_of_pos (h : Truncates significand exponent accuracy magnitude)
    (hpos : 0 < significand) :
    Format.targetExponent .binary64 (totalExponent significand exponent) = spacing magnitude := by
  rw [spacing, abs_of_pos ((magnitude_pos exponent hpos).trans_le h.lower), h.log_magnitude hpos]
  change max (_ + 1 + exponent - 53) (-1074) = _
  omega

/-- The exponent at which arithmetic rounds is the spacing of the exact result. -/
theorem targetExponent_eq (h : Truncates significand exponent accuracy magnitude)
    (hpos : 0 < magnitude) (hle : exponent ≤ spacing magnitude) :
    Format.targetExponent .binary64 (totalExponent significand exponent) = spacing magnitude := by
  rcases significand.eq_zero_or_pos with rfl | hsignificand
  · -- nothing is left of the magnitude, so it lies below the least spacing
    have hupper : magnitude < 2 ^ exponent := by simpa using h.upper
    have hleast : spacing magnitude = -1074 := by
      by_contra hne
      have hgt : -1074 < spacing magnitude := lt_of_le_of_ne (le_max_right _ _) (Ne.symm hne)
      have hlower := le_abs_of_spacing hpos.ne' hgt
      rw [abs_of_pos hpos] at hlower
      have hpower := (zpow_lt_zpow_iff_right₀ (by norm_num)).mp (hlower.trans_lt hupper)
      omega
    rw [hleast] at hle ⊢
    change max (((0 : ℕ).log2 : ℤ) + 1 + exponent - 53) (-1074) = -1074
    rw [Nat.log2_zero]
    omega
  · exact h.targetExponent_of_pos hsignificand

theorem shift (h : Truncates significand exponent accuracy magnitude) (hpos : 0 < magnitude)
    (hle : exponent ≤ spacing magnitude) :
    ∃ extended, shiftToTargetExponent .binary64 significand exponent accuracy =
        (extended, spacing magnitude) ∧
      Approximates extended (magnitude / 2 ^ spacing magnitude) := by
  obtain ⟨count, hcount⟩ := Int.eq_ofNat_of_zero_le (sub_nonneg.mpr hle)
  have hsum : spacing magnitude = exponent + count := by omega
  refine ⟨ExtendedMantissa.ofMantissaAndAccuracy significand accuracy >>> count, ?_, ?_⟩
  · unfold shiftToTargetExponent shiftToExponent
    rw [h.targetExponent_eq hpos hle, hsum]
    simp
  · rw [hsum, two_zpow_add, zpow_natCast, ← div_div]
    exact h.shiftRight count

end Truncates

theorem le_spacing (hpos : 0 < significand) (h : 2 ^ 52 ≤ significand ∨ exponent ≤ -1074) :
    exponent ≤ spacing (significand * 2 ^ exponent) := by
  rw [spacing, abs_of_pos (magnitude_pos exponent hpos),
    (Truncates.of_exact significand exponent).log_magnitude hpos]
  rcases h with hlong | hleast
  · have hlog := (Nat.le_log2 hpos.ne').mpr hlong
    omega
  · omega

theorem shift_of_lt (hwidth : significand < 2 ^ 53) (hleast : -1074 ≤ exponent) :
    shiftToTargetExponent .binary64 significand exponent .exact =
      (⟨significand, false, false⟩, exponent) := by
  have hlog : significand.log2 < 53 := by
    rcases significand.eq_zero_or_pos with rfl | hpos
    · decide
    · exact (Nat.log2_lt hpos.ne').mpr hwidth
  have htarget : Format.targetExponent .binary64 (totalExponent significand exponent) ≤
      exponent := by
    change max ((significand.log2 : ℤ) + 1 + exponent - 53) (-1074) ≤ exponent
    omega
  unfold shiftToTargetExponent shiftToExponent
  dsimp only
  rw [Int.toNat_of_nonpos (sub_nonpos.mpr htarget)]
  simp [ExtendedMantissa.ofMantissaAndAccuracy, HShiftRight.hShiftRight, Nat.repeat]

/-- A significand that has been rounded up to 54 bits loses the last of them again. -/
theorem shift_of_eq (hleast : -1074 ≤ exponent) :
    shiftToTargetExponent .binary64 (2 ^ 53) exponent .exact =
      (⟨2 ^ 52, false, false⟩, exponent + 1) := by
  have htarget : Format.targetExponent .binary64 (totalExponent (2 ^ 53) exponent) =
      exponent + 1 := by
    change max (((2 ^ 53).log2 : ℤ) + 1 + exponent - 53) (-1074) = exponent + 1
    rw [Nat.log2_two_pow]
    omega
  unfold shiftToTargetExponent shiftToExponent
  dsimp only
  rw [htarget, add_sub_cancel_left]
  rfl

theorem signed_eq_mul (sign : Sign) (significand : ℕ) (exponent : ℤ) :
    signed sign significand exponent = sign.apply 1 * (significand * 2 ^ exponent) := by
  cases sign <;> simp [Sign.apply]

theorem nearest_signed (sign : Sign) {whole : ℕ}
    (h : (whole : ℤ) = nearestWhole (magnitude / 2 ^ spacing magnitude)) :
    nearest (sign.apply 1 * magnitude) = signed sign whole (spacing magnitude) := by
  have hnearest : nearest magnitude = whole * 2 ^ spacing magnitude := by
    rw [nearest, ← h, Int.cast_natCast]
  cases sign with
  | positive => simp [Sign.apply, hnearest]
  | negative => simp [Sign.apply, nearest_neg, hnearest]

/-- Shifting, rounding and shifting again gives the nearest float. -/
theorem denotes_roundWithAccuracy (sign : Sign)
    (h : Truncates significand exponent accuracy magnitude) (hpos : 0 < magnitude)
    (hle : exponent ≤ spacing magnitude) :
    Denotes (roundWithAccuracy .binary64 sign significand exponent accuracy)
      (nearest (sign.apply 1 * magnitude)) := by
  obtain ⟨extended, hshift, happroximates⟩ := h.shift hpos hle
  have hwhole := happroximates.roundedMantissa_eq
  rw [nearest_signed sign hwhole]
  have hleast : -1074 ≤ spacing magnitude := le_max_right _ _
  have hupper : extended.roundedMantissa ≤ 2 ^ 53 := by
    have hquotient := nearestWhole_quotient_le hpos
    rw [← hwhole] at hquotient
    exact_mod_cast hquotient
  have hfull : 2 ^ 52 ≤ extended.roundedMantissa ∨ spacing magnitude = -1074 := by
    rcases hleast.eq_or_lt with heq | hlt
    · exact .inr heq.symm
    · have hquotient := le_nearestWhole_quotient hpos hlt
      rw [← hwhole] at hquotient
      exact .inl (by exact_mod_cast hquotient)
  generalize spacing magnitude = exponent' at *
  unfold roundWithAccuracy
  rw [hshift]
  dsimp only
  -- the second shift acts only if rounding has carried into one more bit
  rcases hupper.lt_or_eq with hlt | heq
  · rw [shift_of_lt hlt hleast]
    dsimp only
    split_ifs with hzero
    · have hnone : signed sign extended.roundedMantissa exponent' = 0 := by
        cases sign <;> simp [hzero]
      rw [hnone]
      exact .zero sign
    · exact .finite sign _ _ _ hlt hleast hfull
  · rw [heq, shift_of_eq hleast]
    dsimp only
    rw [dif_neg (by norm_num)]
    have hcarry : signed sign (2 ^ 53) exponent' = signed sign (2 ^ 52) (exponent' + 1) := by
      cases sign <;> simp [two_zpow_add] <;> ring
    rw [hcarry]
    exact .finite sign _ _ _ (by norm_num) (by omega) (.inl le_rfl)

theorem denotes_roundWithAccuracy_exact (sign : Sign) (hpos : 0 < significand)
    (hle : exponent ≤ spacing (significand * 2 ^ exponent)) :
    Denotes (roundWithAccuracy .binary64 sign significand exponent .exact)
      (nearest (signed sign significand exponent)) := by
  rw [signed_eq_mul]
  exact denotes_roundWithAccuracy sign (.of_exact significand exponent)
    (magnitude_pos exponent hpos) hle

/-- A smaller exponent goes with a greater significand, not with another number. -/
theorem decreaseExponent_eq (target : ℤ) :
    ∃ count : ℕ, decreaseExponent significand exponent target =
        (significand * 2 ^ count, exponent - count) ∧
      exponent - count ≤ target ∧ (target ≤ exponent → exponent - count = target) := by
  refine ⟨(exponent - target).toNat, ?_, by omega, by omega⟩
  rw [← Nat.shiftLeft_eq]
  rfl

theorem signed_decreased (sign : Sign) (count : ℕ) :
    signed sign (significand * 2 ^ count) (exponent - count) =
      signed sign significand exponent := by
  have hscale : (2 : ℚ) ^ exponent = 2 ^ count * 2 ^ (exponent - count) := by
    rw [← zpow_natCast, ← two_zpow_add]
    congr 1
    omega
  cases sign <;> simp [hscale, mul_assoc]

theorem denotes_round (sign : Sign) (hpos : 0 < significand) :
    Denotes (UnpackedFloat.round .binary64 sign significand exponent)
      (nearest (signed sign significand exponent)) := by
  obtain ⟨count, hdecrease, hle, -⟩ := @decreaseExponent_eq significand exponent
    (Format.targetExponent .binary64 (totalExponent significand exponent))
  have htarget := (Truncates.of_exact significand exponent).targetExponent_of_pos hpos
  rw [htarget] at hle hdecrease
  have hvalue := @signed_decreased significand exponent .positive count
  rw [signed_positive, signed_positive] at hvalue
  rw [← hvalue] at hle
  unfold UnpackedFloat.round
  dsimp only
  rw [htarget, hdecrease, ← signed_decreased sign count]
  exact denotes_roundWithAccuracy_exact sign (by positivity) hle

end

theorem denotes_normalize (whole exponent : ℤ) :
    Denotes (UnpackedFloat.normalize .binary64 whole exponent .positive)
      (nearest (whole * 2 ^ exponent)) := by
  unfold UnpackedFloat.normalize
  rcases lt_trichotomy whole 0 with hneg | rfl | hpos
  · obtain ⟨significand, hsignificand⟩ := Int.eq_ofNat_of_zero_le (neg_nonneg.mpr hneg.le)
    have hsigned : (whole * 2 ^ exponent : ℚ) = signed .negative significand exponent := by
      have hcast : (-whole : ℚ) = significand := by exact_mod_cast hsignificand
      rw [signed_negative, ← hcast]
      ring
    rw [compare_lt_iff_lt.mpr hneg, hsigned, hsignificand]
    exact denotes_round .negative (by omega)
  · rw [compare_eq_iff_eq.mpr rfl]
    simpa using Denotes.zero .positive
  · obtain ⟨significand, rfl⟩ := Int.eq_ofNat_of_zero_le hpos.le
    rw [compare_gt_iff_gt.mpr hpos, Int.cast_natCast, ← signed_positive]
    exact denotes_round .positive (by omega)

/-! ## Operations -/

theorem signed_mul (sign sign' : Sign) (significand significand' : ℕ) (exponent exponent' : ℤ) :
    signed sign significand exponent * signed sign' significand' exponent' =
      signed (sign * sign') (significand * significand') (exponent + exponent') := by
  have hsign : (sign * sign').apply (significand * significand' : ℕ) =
      sign.apply significand * sign'.apply significand' := by
    push_cast
    cases sign <;> cases sign'
    · exact (neg_mul_neg _ _).symm
    · exact (neg_mul _ _).symm
    · exact (mul_neg _ _).symm
    · rfl
  rw [signed, signed, signed, hsign, two_zpow_add]
  push_cast
  ring

theorem signed_div (sign sign' : Sign) (significand significand' : ℕ) (exponent exponent' : ℤ) :
    signed sign significand exponent / signed sign' significand' exponent' =
      (sign / sign').apply 1 *
        (significand * 2 ^ exponent / (significand' * 2 ^ exponent')) := by
  have hsign : ((sign / sign').apply 1 : ℚ) = sign.apply 1 / sign'.apply 1 := by
    have hone : (sign / sign').apply 1 * sign'.apply 1 = sign.apply 1 := by
      cases sign <;> cases sign' <;> rfl
    have hne : (sign'.apply 1 : ℚ) ≠ 0 := by
      cases sign' <;> norm_num [Sign.apply]
    rw [eq_div_iff hne]
    exact_mod_cast hone
  rw [signed_eq_mul, signed_eq_mul, hsign, mul_div_mul_comm]

section

variable {significand significand' : ℕ} {exponent exponent' : ℤ}

theorem two_zpow_le_quotient (hpos : 0 < significand) (hpos' : 0 < significand') :
    2 ^ (totalExponent significand exponent - totalExponent significand' exponent' - 1) ≤
      (significand * 2 ^ exponent / (significand' * 2 ^ exponent') : ℚ) := by
  rw [le_div_iff₀ (magnitude_pos exponent' hpos')]
  have hlower : ((2 ^ significand.log2 : ℕ) : ℚ) ≤ significand := by
    exact_mod_cast Nat.log2_self_le hpos.ne'
  have hupper : (significand' : ℚ) ≤ (2 ^ (significand'.log2 + 1) : ℕ) := by
    exact_mod_cast Nat.lt_log2_self.le
  have hexponents : totalExponent significand exponent - totalExponent significand' exponent' - 1 +
      ((significand'.log2 + 1 : ℕ) + exponent') = significand.log2 + exponent := by
    unfold totalExponent
    push_cast
    ring
  calc
    (2 ^ (totalExponent significand exponent - totalExponent significand' exponent' - 1) *
        (significand' * 2 ^ exponent') : ℚ) ≤
        2 ^ (totalExponent significand exponent - totalExponent significand' exponent' - 1) *
          ((2 ^ (significand'.log2 + 1) : ℕ) * 2 ^ exponent') := by gcongr
    _ = (2 ^ significand.log2 : ℕ) * 2 ^ exponent := by
      push_cast
      rw [← zpow_natCast, ← zpow_natCast, ← two_zpow_add, ← two_zpow_add, ← two_zpow_add,
        hexponents]
    _ ≤ significand * 2 ^ exponent := by gcongr

/-- A division computes enough bits to be rounded. -/
theorem divCore_le_spacing (hpos : 0 < significand) (hpos' : 0 < significand') :
    (divCore .binary64 significand exponent significand' exponent').2.1 ≤
      spacing (significand * 2 ^ exponent / (significand' * 2 ^ exponent')) := by
  have hquotient := div_pos (magnitude_pos exponent hpos) (magnitude_pos exponent' hpos')
  have hlog : totalExponent significand exponent - totalExponent significand' exponent' - 1 ≤
      Int.log 2 (significand * 2 ^ exponent / (significand' * 2 ^ exponent') : ℚ) :=
    (Int.zpow_le_iff_le_log (by norm_num) hquotient).mp
      (by exact_mod_cast two_zpow_le_quotient hpos hpos')
  rw [spacing, abs_of_pos hquotient]
  refine (min_le_right _ _).trans ?_
  change max (_ - 53) (-1074) ≤ _
  omega

theorem truncates_divCore (hpos' : 0 < significand') :
    Truncates (divCore .binary64 significand exponent significand' exponent').1
      (divCore .binary64 significand exponent significand' exponent').2.1
      (divCore .binary64 significand exponent significand' exponent').2.2
      (significand * 2 ^ exponent / (significand' * 2 ^ exponent')) := by
  unfold divCore
  dsimp only
  have hle : min (exponent - exponent') (Format.targetExponent .binary64
      (totalExponent significand exponent - totalExponent significand' exponent')) ≤
      exponent - exponent' := min_le_left _ _
  generalize min (exponent - exponent') _ = target at *
  obtain ⟨count, hcount⟩ := Int.eq_ofNat_of_zero_le (sub_nonneg.mpr hle)
  have hscale : (2 : ℚ) ^ exponent = 2 ^ count * 2 ^ target * 2 ^ exponent' := by
    rw [← zpow_natCast, ← two_zpow_add, ← two_zpow_add]
    congr 1
    omega
  have hquotient : (significand * 2 ^ exponent / (significand' * 2 ^ exponent') / 2 ^ target : ℚ) =
      (significand * 2 ^ count : ℕ) / significand' := by
    have htarget := (two_zpow_pos target).ne'
    have hexponent' := (two_zpow_pos exponent').ne'
    rw [hscale]
    push_cast
    field_simp
  rw [hcount, Int.toNat_natCast, Nat.shiftLeft_eq, Truncates, hquotient]
  exact .of_quotient _ hpos'

end

/-- A difference is the sum with the negated float. -/
theorem sub_parts (first second : UnpackedFloat) :
    UnpackedFloat.sub .binary64 first second = UnpackedFloat.add .binary64 first second.neg := by
  have happly (sign : Sign) (whole : ℤ) : (-sign).apply whole = -sign.apply whole := by
    cases sign
    · exact (neg_neg whole).symm
    · rfl
  cases first <;> cases second <;>
    simp only [UnpackedFloat.sub, UnpackedFloat.add, UnpackedFloat.neg, happly, sub_eq_add_neg]

namespace Denotes

variable {first second : UnpackedFloat} {left right : ℚ}

theorem nearest_eq (h : Denotes first left) : nearest left = left := by
  cases h with
  | zero sign => exact nearest_zero
  | finite sign significand exponent hpos hwidth hleast hfull =>
    refine nearest_of_abs_lt (sign.apply significand) exponent rfl ?_ hleast
    cases sign <;> simpa [Sign.apply] using (by exact_mod_cast hwidth : (significand : ℤ) < 2 ^ 53)

theorem mul (hfirst : Denotes first left) (hsecond : Denotes second right) :
    Denotes (UnpackedFloat.mul .binary64 first second) (nearest (left * right)) := by
  cases hfirst with
  | zero sign =>
    rw [zero_mul, nearest_zero]
    cases hsecond <;> exact .zero _
  | finite sign significand exponent hpos hwidth hleast hfull =>
    cases hsecond with
    | zero sign' =>
      rw [mul_zero, nearest_zero]
      exact .zero _
    | finite sign' significand' exponent' hpos' hwidth' hleast' hfull' =>
      have hbits : 2 ^ 52 ≤ significand * significand' ∨ exponent + exponent' ≤ -1074 := by
        rcases hfull with hlong | rfl
        · exact .inl (hlong.trans (Nat.le_mul_of_pos_right _ hpos'))
        · rcases hfull' with hlong' | rfl
          · exact .inl (hlong'.trans (Nat.le_mul_of_pos_left _ hpos))
          · exact .inr (by norm_num)
      rw [signed_mul]
      exact denotes_roundWithAccuracy_exact _ (Nat.mul_pos hpos hpos')
        (le_spacing (Nat.mul_pos hpos hpos') hbits)

theorem neg (h : Denotes first left) : Denotes first.neg (-left) := by
  cases h with
  | zero sign =>
    rw [neg_zero]
    exact .zero _
  | finite sign significand exponent hpos hwidth hleast hfull =>
    have hneg : -signed sign significand exponent = signed (-sign) significand exponent := by
      cases sign
      · rw [signed_negative, neg_neg]
        exact (signed_positive significand exponent).symm
      · rw [signed_positive]
        exact (signed_negative significand exponent).symm
    rw [hneg]
    exact .finite (-sign) significand exponent hpos hwidth hleast hfull

theorem abs (h : Denotes first left) : Denotes first.abs |left| := by
  cases h with
  | zero sign =>
    rw [abs_zero]
    exact .zero _
  | finite sign significand exponent hpos hwidth hleast hfull =>
    rw [abs_signed, ← signed_positive]
    exact .finite .positive significand exponent hpos hwidth hleast hfull

/-- The numerator of a division is lengthened until the quotient has bits enough. -/
theorem div (hfirst : Denotes first left) (hsecond : Denotes second right) (h : right ≠ 0) :
    Denotes (UnpackedFloat.div .binary64 first second) (nearest (left / right)) := by
  cases hsecond with
  | zero sign' => exact absurd rfl h
  | finite sign' significand' exponent' hpos' hwidth' hleast' hfull' =>
    cases hfirst with
    | zero sign =>
      rw [zero_div, nearest_zero]
      exact .zero _
    | finite sign significand exponent hpos hwidth hleast hfull =>
      rw [signed_div]
      exact denotes_roundWithAccuracy _ (truncates_divCore hpos')
        (div_pos (magnitude_pos exponent hpos) (magnitude_pos exponent' hpos'))
        (divCore_le_spacing hpos hpos')

theorem add (hfirst : Denotes first left) (hsecond : Denotes second right) :
    Denotes (UnpackedFloat.add .binary64 first second) (nearest (left + right)) := by
  have hleft := hfirst.nearest_eq
  have hright := hsecond.nearest_eq
  cases hfirst with
  | zero sign =>
    rw [zero_add, hright]
    cases hsecond with
    | zero sign' => cases sign <;> cases sign' <;> exact .zero _
    | finite sign' significand' exponent' hpos' hwidth' hleast' hfull' =>
      exact .finite sign' significand' exponent' hpos' hwidth' hleast' hfull'
  | finite sign significand exponent hpos hwidth hleast hfull =>
    cases hsecond with
    | zero sign' =>
      rw [add_zero, hleft]
      exact .finite sign significand exponent hpos hwidth hleast hfull
    | finite sign' significand' exponent' hpos' hwidth' hleast' hfull' =>
      -- both significands are brought to the smaller exponent, where the sum is exact
      obtain ⟨count, hdecrease, -, hmin⟩ := @decreaseExponent_eq significand exponent
        (min exponent exponent')
      obtain ⟨count', hdecrease', -, hmin'⟩ := @decreaseExponent_eq significand' exponent'
        (min exponent exponent')
      have hexact : signed sign significand exponent + signed sign' significand' exponent' =
          (sign.apply (significand * 2 ^ count : ℕ) +
            sign'.apply (significand' * 2 ^ count' : ℕ) : ℤ) * 2 ^ min exponent exponent' := by
        rw [← signed_decreased sign count, ← signed_decreased sign' count', signed, signed,
          hmin (min_le_left _ _), hmin' (min_le_right _ _)]
        push_cast
        ring
      rw [hexact]
      unfold UnpackedFloat.add
      dsimp only
      rw [hdecrease, hdecrease']
      exact denotes_normalize _ _

theorem sub (hfirst : Denotes first left) (hsecond : Denotes second right) :
    Denotes (UnpackedFloat.sub .binary64 first second) (nearest (left - right)) := by
  rw [sub_parts, sub_eq_add_neg]
  exact hfirst.add hsecond.neg

end Denotes

/-! ## Floats -/

theorem InRange.nearest {number : ℚ} (h : InRange number) : InRange (nearest number) :=
  abs_nearest_le (by norm_num) h

namespace IsNumber

variable {value other : Float} {number number' : ℚ}

theorem mul (h : IsNumber value number) (h' : IsNumber other number')
    (hrange : InRange (number * number')) : IsNumber (value * other) (nearest (number * number')) :=
  ((isNumber_iff.mp h).mul (isNumber_iff.mp h')).isNumber hrange.nearest

theorem add (h : IsNumber value number) (h' : IsNumber other number')
    (hrange : InRange (number + number')) : IsNumber (value + other) (nearest (number + number')) :=
  ((isNumber_iff.mp h).add (isNumber_iff.mp h')).isNumber hrange.nearest

theorem sub (h : IsNumber value number) (h' : IsNumber other number')
    (hrange : InRange (number - number')) : IsNumber (value - other) (nearest (number - number')) :=
  ((isNumber_iff.mp h).sub (isNumber_iff.mp h')).isNumber hrange.nearest

theorem div (h : IsNumber value number) (h' : IsNumber other number') (hne : number' ≠ 0)
    (hrange : InRange (number / number')) : IsNumber (value / other) (nearest (number / number')) :=
  ((isNumber_iff.mp h).div (isNumber_iff.mp h') hne).isNumber hrange.nearest

theorem abs (h : IsNumber value number) (hrange : InRange number) : IsNumber value.abs |number| :=
  (isNumber_iff.mp h).abs.isNumber (by rwa [InRange, abs_abs])

end IsNumber

theorem denotes_ofNat (number : ℕ) :
    Denotes (UnpackedFloat.ofNat .binary64 number) (nearest number) := by
  have hwhole : ((number : ℤ) * 2 ^ (0 : ℤ) : ℚ) = number := by
    rw [zpow_zero, mul_one, Int.cast_natCast]
  rw [← hwhole]
  exact denotes_normalize number 0

theorem inRange_of_lt {number : ℕ} (h : number < 2 ^ 64) : InRange number := by
  have hcast : (number : ℚ) ≤ 2 ^ (64 : ℤ) := by exact_mod_cast h.le
  rw [InRange, Nat.abs_cast]
  exact hcast.trans (zpow_le_zpow_right₀ (by norm_num) (by norm_num))

/-- Every word is a float exactly. -/
theorem isNumber_toFloat (word : UInt32) : IsNumber word.toFloat word.toNat := by
  have hword := word.toNat_lt
  have hnearest : nearest word.toNat = word.toNat := by
    have hwhole : |(word.toNat : ℤ)| ≤ 2 ^ 53 := by
      rw [Nat.abs_cast]
      omega
    exact_mod_cast nearest_intCast hwhole
  have hdenotes := denotes_ofNat word.toNat
  rw [hnearest] at hdenotes
  exact hdenotes.isNumber (inRange_of_lt (by omega))

/-- A long word becomes the float nearest to it. -/
theorem isNumber_toFloat_long (word : UInt64) : IsNumber word.toFloat (nearest word.toNat) :=
  (denotes_ofNat word.toNat).isNumber (inRange_of_lt word.toNat_lt).nearest

/-- Words compare as the floats that they become. -/
theorem toFloat_lt_toFloat_iff (first second : UInt32) :
    first.toFloat < second.toFloat ↔ first < second := by
  rw [(isNumber_toFloat first).lt_iff (isNumber_toFloat second), Nat.cast_lt]
  exact UInt32.lt_iff_toNat_lt.symm

end Binary

end StreamPlot
