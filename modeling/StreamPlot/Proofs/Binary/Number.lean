import Mathlib
import StreamPlot.Decimal.Binary
import StreamPlot.Proofs.Binary.Nearest

/-!
# The numbers that floats are

Arithmetic takes floats apart, computes with significands and exponents, and packs the
result into 64 bits again. `Binary.Denotes` says which number the parts of a float stand
for. Packing such parts and taking them apart again changes nothing, and two floats compare
as the numbers that they are.
-/

namespace StreamPlot

open Float.Model UnpackedFloat

namespace Binary

/-- The number that a float is, if it is one. -/
def number? : Binary → Option ℚ
  | nan => none
  | infinite _ => none
  | finite negative significand exponent =>
      some ((if negative then -1 else 1) * significand * 2 ^ exponent)

/-- The parts into which arithmetic takes a float, as what it is. -/
def ofUnpacked : UnpackedFloat → Binary
  | .notANumber => nan
  | .infinity sign => infinite (sign == .negative)
  | .zero sign => finite (sign == .negative) 0 (-1074)
  | .finite sign significand exponent _ => finite (sign == .negative) significand exponent

/-! ## Taking bits apart -/

section

variable (bits : BitVec 64)

theorem toNat_unpackMantissa : (@unpackMantissa .binary64 bits).toNat = bits.toNat % 2 ^ 52 := by
  simp [unpackMantissa]

theorem toNat_unpackExponent :
    (@unpackExponent .binary64 bits).toNat = bits.toNat / 2 ^ 52 % 2 ^ 11 := by
  simp [unpackExponent, Nat.shiftRight_eq_div_pow]

theorem toNat_unpackSign : (@unpackSign .binary64 bits).toNat = bits.toNat / 2 ^ 63 % 2 := by
  simp [unpackSign, Nat.shiftRight_eq_div_pow]

theorem ofBitVec_beq_negative (sign : BitVec 1) :
    (Sign.ofBitVec sign == .negative) = (sign.toNat == 1) := by
  decide +revert

theorem eq_ones_iff (field : BitVec 11) : field = -1#11 ↔ field.toNat = 2047 :=
  BitVec.toNat_inj.symm

theorem eq_zeros_iff {width : ℕ} (field : BitVec width) :
    field = BitVec.ofNat width 0 ↔ field.toNat = 0 := by
  simp [← BitVec.toNat_inj]

theorem toNat_one_append (field : BitVec 52) : (1#1 ++ field).toNat = 2 ^ 52 + field.toNat := by
  have hadd := Nat.two_pow_add_eq_or_of_lt field.isLt 1
  rw [BitVec.toNat_append]
  simpa using hadd.symm

/-- Arithmetic takes a float apart into what it is. -/
theorem ofUnpacked_unpack :
    ofUnpacked (UnpackedFloat.unpack .binary64 bits) = ofBits bits.toNat := by
  have hsign := ofBitVec_beq_negative (@unpackSign .binary64 bits)
  rw [toNat_unpackSign bits] at hsign
  unfold UnpackedFloat.unpack ofBits
  simp only [eq_ones_iff, eq_zeros_iff, toNat_unpackMantissa, toNat_unpackExponent, Nat.pow_eq]
  -- the last exponent is for what is no number, the first one for short significands
  split_ifs with hlast hwhole hfirst hzero
  · simp only [ofUnpacked, hsign]
  · rfl
  · simp only [ofUnpacked, hsign, hzero]
  · simp only [ofUnpacked, hsign, hfirst]
    rfl
  · simp only [ofUnpacked, hsign, toNat_one_append, toNat_unpackMantissa]
    rfl

end

/-! ## Parts that stand for a number -/

/-- The number that a sign, a significand and an exponent make. -/
def signed (sign : Sign) (significand : ℕ) (exponent : ℤ) : ℚ :=
  (sign.apply significand : ℤ) * 2 ^ exponent

/-- The parts of a float stand for a number: the significand has 53 bits, or fewer if the
exponent is the least one. -/
inductive Denotes : UnpackedFloat → ℚ → Prop
  | zero (sign : Sign) : Denotes (.zero sign) 0
  | finite (sign : Sign) (significand : ℕ) (exponent : ℤ) (hpos : 0 < significand)
      (hwidth : significand < 2 ^ 53) (hleast : -1074 ≤ exponent)
      (hfull : 2 ^ 52 ≤ significand ∨ exponent = -1074) :
      Denotes (.finite sign significand exponent hpos) (signed sign significand exponent)

@[simp] theorem signed_positive (significand : ℕ) (exponent : ℤ) :
    signed .positive significand exponent = significand * 2 ^ exponent := by
  simp [signed, Sign.apply]

@[simp] theorem signed_negative (significand : ℕ) (exponent : ℤ) :
    signed .negative significand exponent = -(significand * 2 ^ exponent) := by
  simp [signed, Sign.apply]

theorem abs_signed (sign : Sign) (significand : ℕ) (exponent : ℤ) :
    |signed sign significand exponent| = significand * 2 ^ exponent := by
  have hpos := two_zpow_pos exponent
  cases sign <;> simp [abs_mul, abs_of_pos hpos]

theorem number?_finite (sign : Sign) (significand : ℕ) (exponent : ℤ) :
    number? (finite (sign == .negative) significand exponent) =
      some (signed sign significand exponent) := by
  cases sign
  · simp [number?]
  · simp [number?, show (Sign.positive == Sign.negative) = false from rfl]

theorem Denotes.number? {parts : UnpackedFloat} {number : ℚ} (h : Denotes parts number) :
    (ofUnpacked parts).number? = some number := by
  cases h with
  | zero sign => simp [ofUnpacked, Binary.number?]
  | finite sign significand exponent => exact number?_finite sign significand exponent

theorem denotes_unpack {bits : BitVec 64} {number : ℚ}
    (h : (ofUnpacked (UnpackedFloat.unpack .binary64 bits)).number? = some number) :
    Denotes (UnpackedFloat.unpack .binary64 bits) number := by
  have hwidth : (@unpackMantissa .binary64 bits).toNat < 2 ^ 52 := BitVec.isLt _
  unfold UnpackedFloat.unpack at h ⊢
  dsimp only at h ⊢
  split_ifs at h ⊢ with hlast hwhole hfirst hzero
  · cases h
  · cases h
  · simp only [ofUnpacked, number?, Nat.cast_zero, mul_zero, zero_mul, Option.some.injEq] at h
    rw [← h]
    exact .zero _
  · rw [ofUnpacked, number?_finite, Option.some.injEq] at h
    rw [← h]
    refine .finite _ _ _ _ (hwidth.trans (by norm_num)) ?_ (.inr ?_)
    all_goals rw [hfirst]; decide
  · rw [ofUnpacked, number?_finite, Option.some.injEq] at h
    rw [← h]
    have hvalue := toNat_one_append (@unpackMantissa .binary64 bits)
    have hfield : 0 < (@unpackExponent .binary64 bits).toNat :=
      Nat.pos_of_ne_zero (mt (eq_zeros_iff _).mpr hfirst)
    refine .finite _ _ _ _ (by omega) ?_ (.inl (by omega))
    norm_num [Format.exponentBias]
    omega

/-! ## Packing -/

section

variable {sign : Sign} {significand : ℕ} {exponent : ℤ} {hpos : 0 < significand}

/-- A significand of 53 bits is packed without the first of them. -/
theorem pack_full (hwidth : significand < 2 ^ 53) (hfull : 2 ^ 52 ≤ significand)
    (hgreatest : exponent ≤ 971) :
    UnpackedFloat.pack .binary64 (.finite sign significand exponent hpos) =
      packComponents .binary64 sign (BitVec.ofNat 11 (exponent + 1075).toNat)
        (BitVec.ofNat 52 significand) := by
  have hlog : significand.log2 = 52 := (Nat.log2_eq_iff hpos.ne').mpr ⟨hfull, hwidth⟩
  have hbias : exponent + (Format.exponentBias .binary64 : ℤ) + (52 : ℕ) = exponent + 1075 := by
    norm_num [Format.exponentBias]
    omega
  unfold UnpackedFloat.pack
  simp only [hbias]
  rw [if_neg (by norm_num; omega), if_pos (by rw [hlog]; rfl)]

/-- A shorter one is packed as it is. -/
theorem pack_short (hshort : significand < 2 ^ 52) :
    UnpackedFloat.pack .binary64 (.finite sign significand (-1074) hpos) =
      packComponents .binary64 sign 0#11 (BitVec.ofNat 52 significand) := by
  have hlog : significand.log2 < 52 := (Nat.log2_lt hpos.ne').mpr hshort
  have hbits : significand.log2 + 1 ≠ Format.mantissaBits .binary64 := by
    change significand.log2 + 1 ≠ 53
    omega
  unfold UnpackedFloat.pack
  dsimp only
  rw [if_neg (by decide), if_neg hbits]

theorem unpack_pack_full (hwidth : significand < 2 ^ 53) (hfull : 2 ^ 52 ≤ significand)
    (hleast : -1074 ≤ exponent) (hgreatest : exponent ≤ 971) :
    UnpackedFloat.unpack .binary64
        (UnpackedFloat.pack .binary64 (.finite sign significand exponent hpos)) =
      .finite sign significand exponent hpos := by
  have hfield : (BitVec.ofNat 11 (exponent + 1075).toNat).toNat = (exponent + 1075).toNat := by
    rw [BitVec.toNat_ofNat, Nat.mod_eq_of_lt (by omega)]
  have hvalue : (1#1 ++ BitVec.ofNat 52 significand).toNat = significand := by
    rw [toNat_one_append, BitVec.toNat_ofNat]
    omega
  rw [pack_full hwidth hfull hgreatest]
  unfold UnpackedFloat.unpack
  simp only [unpackExponent_packComponents, unpackMantissa_packComponents,
    unpackSign_packComponents, Sign.ofBitVec_toBitVec, eq_ones_iff, eq_zeros_iff, hfield]
  -- the exponent field is neither the last nor the first one
  rw [if_neg (by omega), if_neg (by omega)]
  simp only [hvalue]
  congr 1
  norm_num [Format.exponentBias]
  omega

theorem unpack_pack_short (hshort : significand < 2 ^ 52) :
    UnpackedFloat.unpack .binary64
        (UnpackedFloat.pack .binary64 (.finite sign significand (-1074) hpos)) =
      .finite sign significand (-1074) hpos := by
  have hvalue : (BitVec.ofNat 52 significand).toNat = significand := by
    rw [BitVec.toNat_ofNat, Nat.mod_eq_of_lt hshort]
  rw [pack_short hshort]
  unfold UnpackedFloat.unpack
  simp only [unpackExponent_packComponents, unpackMantissa_packComponents,
    unpackSign_packComponents, Sign.ofBitVec_toBitVec, eq_ones_iff, eq_zeros_iff]
  simp only [hvalue, hpos.ne', BitVec.toNat_ofNat]
  rfl

end

/-- The numbers up to a power of two that is itself a float. All that this program adds and
multiplies lies far below. -/
def InRange (number : ℚ) : Prop := |number| ≤ 2 ^ (1023 : ℤ)

/-- Packing the parts of a number of the range loses nothing. -/
theorem Denotes.unpack_pack {parts : UnpackedFloat} {number : ℚ} (h : Denotes parts number)
    (hrange : InRange number) :
    UnpackedFloat.unpack .binary64 (UnpackedFloat.pack .binary64 parts) = parts := by
  cases h with
  | zero sign => exact unpack_packedZero
  | finite sign significand exponent hpos hwidth hleast hfull =>
    rcases Nat.lt_or_ge significand (2 ^ 52) with hshort | hlong
    · obtain rfl := hfull.resolve_left (by omega)
      exact unpack_pack_short hshort
    · refine unpack_pack_full hwidth hlong hleast ?_
      have hpower : (2 : ℚ) ^ (52 + exponent) ≤ 2 ^ (1023 : ℤ) := by
        calc
          (2 : ℚ) ^ (52 + exponent) = (2 ^ 52 : ℕ) * 2 ^ exponent := by
            rw [two_zpow_add]
            norm_num
          _ ≤ significand * 2 ^ exponent :=
            mul_le_mul_of_nonneg_right (by exact_mod_cast hlong) (two_zpow_pos exponent).le
          _ ≤ 2 ^ (1023 : ℤ) := by
            rw [← abs_signed sign]
            exact hrange
      have hle := (zpow_le_zpow_iff_right₀ (by norm_num)).mp hpower
      omega

/-! ## Comparing -/

section

variable {first second : ℕ} {low high : ℤ}

theorem magnitude_pos (exponent : ℤ) (h : 0 < first) : (0 : ℚ) < first * 2 ^ exponent :=
  mul_pos (by exact_mod_cast h) (two_zpow_pos exponent)

/-- Of two magnitudes that floats have, that with the greater exponent is greater. -/
theorem magnitude_lt_of_exponent_lt (hwidth : first < 2 ^ 53) (hleast : -1074 ≤ low)
    (hfull : 2 ^ 52 ≤ second ∨ high = -1074) (h : low < high) :
    (first * 2 ^ low : ℚ) < second * 2 ^ high := by
  have hlong := hfull.resolve_right (by omega)
  calc
    (first * 2 ^ low : ℚ) < (2 ^ 53 : ℕ) * 2 ^ low :=
      mul_lt_mul_of_pos_right (by exact_mod_cast hwidth) (two_zpow_pos low)
    _ = (2 ^ 52 : ℕ) * 2 ^ (low + 1) := by
      rw [two_zpow_add]
      norm_num
      ring
    _ ≤ (2 ^ 52 : ℕ) * 2 ^ high :=
      mul_le_mul_of_nonneg_left (zpow_le_zpow_right₀ (by norm_num) (by omega)) (by positivity)
    _ ≤ second * 2 ^ high :=
      mul_le_mul_of_nonneg_right (by exact_mod_cast hlong) (two_zpow_pos high).le

theorem compare_magnitude (hfirst : first < 2 ^ 53) (hsecond : second < 2 ^ 53)
    (hlow : -1074 ≤ low) (hhigh : -1074 ≤ high) (hfull : 2 ^ 52 ≤ first ∨ low = -1074)
    (hfull' : 2 ^ 52 ≤ second ∨ high = -1074) :
    (compare low high).then (compare first second) =
      compare (first * 2 ^ low : ℚ) (second * 2 ^ high) := by
  rcases lt_trichotomy low high with hlt | rfl | hgt
  · have hmagnitude := magnitude_lt_of_exponent_lt hfirst hlow hfull' hlt
    rw [compare_lt_iff_lt.mpr hlt, compare_lt_iff_lt.mpr hmagnitude]
    rfl
  · have hpos := two_zpow_pos low
    rw [compare_eq_iff_eq.mpr rfl]
    change compare first second = _
    rcases lt_trichotomy first second with hlt | rfl | hgt
    · rw [compare_lt_iff_lt.mpr hlt, eq_comm, compare_lt_iff_lt]
      exact mul_lt_mul_of_pos_right (by exact_mod_cast hlt) hpos
    · rw [compare_eq_iff_eq.mpr rfl, compare_eq_iff_eq.mpr rfl]
    · rw [compare_gt_iff_gt.mpr hgt, eq_comm, compare_gt_iff_gt]
      exact mul_lt_mul_of_pos_right (by exact_mod_cast hgt) hpos
  · have hmagnitude := magnitude_lt_of_exponent_lt hsecond hhigh hfull hgt
    rw [compare_gt_iff_gt.mpr hgt, compare_gt_iff_gt.mpr hmagnitude]
    rfl

end

theorem compare_neg_neg (left right : ℚ) :
    compare (-left) (-right) = (compare left right).swap := by
  rcases lt_trichotomy left right with hlt | rfl | hgt
  · rw [compare_lt_iff_lt.mpr hlt, compare_gt_iff_gt.mpr (neg_lt_neg hlt)]
    rfl
  · rw [compare_eq_iff_eq.mpr rfl, compare_eq_iff_eq.mpr rfl]
    rfl
  · rw [compare_gt_iff_gt.mpr hgt, compare_lt_iff_lt.mpr (neg_lt_neg hgt)]
    rfl

/-- Parts compare as the numbers for which they stand. -/
theorem Denotes.compare_eq {first second : UnpackedFloat} {left right : ℚ}
    (hfirst : Denotes first left) (hsecond : Denotes second right) :
    first.compare second = some (compare left right) := by
  cases hfirst with
  | zero sign =>
    cases hsecond with
    | zero sign' =>
      rw [compare_eq_iff_eq.mpr rfl]
      rfl
    | finite sign' significand' exponent' hpos' =>
      have hmagnitude' := magnitude_pos exponent' hpos'
      cases sign' with
      | positive =>
        rw [signed_positive, compare_lt_iff_lt.mpr hmagnitude']
        rfl
      | negative =>
        rw [signed_negative, compare_gt_iff_gt.mpr (neg_neg_of_pos hmagnitude')]
        rfl
  | finite sign significand exponent hpos hwidth hleast hfull =>
    have hmagnitude := magnitude_pos exponent hpos
    cases hsecond with
    | zero sign' =>
      cases sign with
      | positive =>
        rw [signed_positive, compare_gt_iff_gt.mpr hmagnitude]
        rfl
      | negative =>
        rw [signed_negative, compare_lt_iff_lt.mpr (neg_neg_of_pos hmagnitude)]
        rfl
    | finite sign' significand' exponent' hpos' hwidth' hleast' hfull' =>
      have hmagnitude' := magnitude_pos exponent' hpos'
      have hcompare := compare_magnitude hwidth hwidth' hleast hleast' hfull hfull'
      cases sign <;> cases sign'
      case positive.positive =>
        rw [signed_positive, signed_positive, ← hcompare]
        rfl
      case positive.negative =>
        rw [signed_positive, signed_negative, compare_gt_iff_gt.mpr (by linarith)]
        rfl
      case negative.positive =>
        rw [signed_positive, signed_negative, compare_lt_iff_lt.mpr (by linarith)]
        rfl
      case negative.negative =>
        rw [signed_negative, signed_negative, compare_neg_neg, ← hcompare]
        rfl

/-! ## Floats that are numbers -/

/-- A float is a number, exactly. -/
def IsNumber (value : Float) (number : ℚ) : Prop := (ofFloat value).number? = some number

theorem isNumber_of_finite {value : Float} {significand : ℕ} {exponent : ℤ} {number : ℚ}
    (h : ofFloat value = .finite false significand exponent)
    (hnumber : significand * 2 ^ exponent = number) : IsNumber value number := by
  simpa [IsNumber, h, number?] using hnumber

theorem isNumber_iff {value : Float} {number : ℚ} :
    IsNumber value number ↔ Denotes value.toModel.unpack number := by
  have hparts : ofUnpacked value.toModel.unpack = ofFloat value := ofUnpacked_unpack _
  rw [IsNumber, ← hparts]
  exact ⟨denotes_unpack, Denotes.number?⟩

/-- What arithmetic makes of parts is the number for which they stand. -/
theorem Denotes.isNumber {parts : UnpackedFloat} {number : ℚ} (h : Denotes parts number)
    (hrange : InRange number) : IsNumber ⟨Float.Model.pack parts⟩ number := by
  have hunpack : (Float.Model.pack parts).unpack = parts := h.unpack_pack hrange
  rw [isNumber_iff, hunpack]
  exact h

section

variable {value other : Float} {order : Ordering}

theorem lt_iff_of_compare
    (h : value.toModel.unpack.compare other.toModel.unpack = some order) :
    value < other ↔ order = .lt := by
  change decide (value.toModel.unpack.lt other.toModel.unpack = true) = true ↔ _
  rw [decide_eq_true_iff, UnpackedFloat.lt, h, beq_iff_eq, Option.some.injEq]

theorem le_iff_of_compare
    (h : value.toModel.unpack.compare other.toModel.unpack = some order) :
    value ≤ other ↔ order ≠ .gt := by
  change decide (value.toModel.unpack.le other.toModel.unpack = true) = true ↔ _
  rw [decide_eq_true_iff, UnpackedFloat.le, h, Option.any_some]
  exact Ordering.isLE_iff_ne_gt

end

namespace IsNumber

variable {value other : Float} {number number' : ℚ}

theorem unique (h : IsNumber value number) (h' : IsNumber value number') : number = number' :=
  Option.some.inj (h.symm.trans h')

theorem lt_iff (h : IsNumber value number) (h' : IsNumber other number') :
    value < other ↔ number < number' :=
  (lt_iff_of_compare ((isNumber_iff.mp h).compare_eq (isNumber_iff.mp h'))).trans compare_lt_iff_lt

theorem le_iff (h : IsNumber value number) (h' : IsNumber other number') :
    value ≤ other ↔ number ≤ number' :=
  (le_iff_of_compare ((isNumber_iff.mp h).compare_eq (isNumber_iff.mp h'))).trans compare_le_iff_le

end IsNumber

end Binary

end StreamPlot
