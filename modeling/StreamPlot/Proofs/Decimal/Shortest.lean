import StreamPlot.Decimal.Shortest
import StreamPlot.Proofs.Decimal.Digits

/-!
# The shortest digits of a float

The shortest digits of a float are not its value, but they name it: they are a decimal of the
interval of numbers that round to the float, so reading them and rounding leads back. There is
such a decimal of seventeen digits at most, since half a unit of the last of them is less than
the way to the end of the interval. A word needs no rounding at all: among the whole numbers it
is alone in its interval, so its digits and a zero behind the point are shown.
-/

namespace StreamPlot

open Binary

/-! ## Digits and a power of ten -/

namespace Scaled

/-- The number that digits and a power of ten make. -/
def number (scaled : Scaled) : ℚ := scaled.digits * 10 ^ scaled.power

theorem number_of_nonneg {scaled : Scaled} (h : 0 ≤ scaled.power) :
    scaled.number = (scaled.digits * 10 ^ scaled.power.toNat : ℕ) := by
  obtain ⟨count, hcount⟩ := Int.eq_ofNat_of_zero_le h
  rw [number, hcount, Int.toNat_natCast, zpow_natCast]
  push_cast
  rfl

theorem number_normalize (scaled : Scaled) : scaled.normalize.number = scaled.number := by
  fun_induction normalize scaled with
  | case1 scaled h ih =>
      have hdigits : (scaled.digits : ℚ) = (scaled.digits / 10 : ℕ) * 10 := by
        exact_mod_cast (Nat.div_mul_cancel (Nat.dvd_of_mod_eq_zero h.2)).symm
      rw [ih, number, number, hdigits, zpow_add_one₀ (by norm_num)]
      ring
  | case2 scaled h => rfl

theorem power_le_normalize (scaled : Scaled) : scaled.power ≤ scaled.normalize.power := by
  fun_induction normalize scaled with
  | case1 scaled h ih =>
      dsimp only at ih
      omega
  | case2 scaled h => exact le_rfl

/-! ### Without a power of ten -/

theorem repr_mul_ten_pow {digits : ℕ} (hpos : 0 < digits) (count : ℕ) :
    (digits * 10 ^ count).repr = digits.repr ++ Decimal.zeros count := by
  induction count with
  | zero => simp [Decimal.zeros]
  | succ count ih =>
      rw [← String.toList_inj] at ih ⊢
      have hbase : 10 ≤ digits * 10 ^ (count + 1) := by
        have hten : 10 ^ 1 ≤ 10 ^ (count + 1) := Nat.pow_le_pow_right (by norm_num) (by omega)
        exact hten.trans (Nat.le_mul_of_pos_left _ hpos)
      have hquotient : digits * 10 ^ (count + 1) / 10 = digits * 10 ^ count := by
        rw [pow_succ, ← mul_assoc, Nat.mul_div_cancel _ (by norm_num)]
      have hlast : digits * 10 ^ (count + 1) % 10 = 0 := by
        rw [pow_succ, ← mul_assoc, Nat.mul_mod_left]
      rw [Nat.toList_repr, Nat.toDigits_of_base_le (by norm_num) hbase, hquotient, hlast,
        ← Nat.toList_repr, ih]
      simp [Decimal.zeros, List.replicate_succ', Nat.digitChar]

theorem positional_of_nonneg {scaled : Scaled} (h : 0 ≤ scaled.power) :
    scaled.positional 1 = (scaled.digits * 10 ^ scaled.power.toNat).repr ++ ".0" := by
  unfold positional
  dsimp only
  rw [if_pos h, if_neg one_ne_zero]
  split
  next hzero => rw [hzero, zero_mul]; rfl
  next hne =>
    rw [repr_mul_ten_pow (Nat.pos_of_ne_zero hne), String.append_assoc]
    rfl

/-- A whole number below a power of ten has its first digit below that power. -/
theorem first_lt_of_nonneg {scaled : Scaled} (h : 0 ≤ scaled.power) {bound : ℕ}
    (hpos : 0 < scaled.digits * 10 ^ scaled.power.toNat)
    (hless : scaled.digits * 10 ^ scaled.power.toNat < 10 ^ bound) :
    scaled.power + (scaled.digits.repr.length - 1 : ℕ) < bound := by
  have hlength : 10 ^ (scaled.digits.repr.length - 1 + scaled.power.toNat) < 10 ^ bound := by
    calc
      10 ^ (scaled.digits.repr.length - 1 + scaled.power.toNat) =
          10 ^ (scaled.digits.repr.length - 1) * 10 ^ scaled.power.toNat := pow_add _ _ _
      _ ≤ scaled.digits * 10 ^ scaled.power.toNat :=
        Nat.mul_le_mul_right _ (Decimal.ten_pow_length_le (Nat.pos_of_mul_pos_right hpos))
      _ < 10 ^ bound := hless
  have hlt := (Nat.pow_lt_pow_iff_right (by norm_num)).mp hlength
  omega

/-- A decimal without a power of ten is digits with a point among them. -/
theorem exists_withPoint (scaled : Scaled) :
    ∃ digits places : ℕ, scaled.positional 1 = Decimal.withPoint digits places ∧
      digits * 10 ^ (0 - places : ℤ) = scaled.number := by
  rcases le_or_gt 0 scaled.power with hpower | hpower
  · refine ⟨scaled.digits * 10 ^ scaled.power.toNat * 10, 1, ?_, ?_⟩
    · rw [positional_of_nonneg hpower, Decimal.withPoint, if_neg one_ne_zero]
      simp [Decimal.zeros, String.append_assoc]
      rfl
    · have hunit : (10 : ℚ) ^ (0 - (1 : ℕ) : ℤ) = 1 / 10 := by norm_num
      rw [number_of_nonneg hpower, hunit]
      push_cast
      ring
  · refine ⟨scaled.digits, (-scaled.power).toNat, ?_, ?_⟩
    · rw [positional, Decimal.withPoint, if_neg (by omega), if_neg (by omega)]
    · rw [number]
      congr 2
      omega

/-! ### With a power of ten -/

theorem exists_digit_exponential (scaled : Scaled) :
    ∃ first rest, scaled.exponential.toList = first :: rest ∧ first.isDigit = true := by
  unfold exponential
  cases htext : scaled.digits.repr.toList with
  | nil => exact absurd htext (Decimal.repr_ne_nil _)
  | cons first rest =>
      have hfirst : first.isDigit = true := isDigit_of_mem_repr (htext ▸ List.mem_cons_self)
      cases rest with
      | nil => exact ⟨first, _, by simp; rfl, hfirst⟩
      | cons second rest => exact ⟨first, _, by simp; rfl, hfirst⟩

theorem magnitude?_exponential (scaled : Scaled) :
    ∃ unit, Decimal.magnitude? scaled.exponential.toList = some ⟨scaled.number, unit⟩ := by
  have hdigits : ∀ digit ∈ scaled.digits.repr.toList, digit.isDigit = true :=
    fun _ => isDigit_of_mem_repr
  have hvalue := Decimal.ofDigitChars_repr scaled.digits
  unfold exponential
  cases htext : scaled.digits.repr.toList with
  | nil => exact absurd htext (Decimal.repr_ne_nil _)
  | cons first rest =>
      rw [htext] at hdigits hvalue
      have hfirst : ∀ digit ∈ [first], digit.isDigit = true := by
        simpa using hdigits first List.mem_cons_self
      have hpower := Decimal.power?_repr (scaled.power + ((first :: rest).length - 1 : ℕ))
      refine ⟨10 ^ scaled.power, ?_⟩
      cases rest with
      | nil =>
          have hread := Decimal.magnitude?_whole hfirst (by simp) hpower
          rw [hvalue] at hread
          simpa [number] using hread
      | cons second rest =>
          have hrest : ∀ digit ∈ second :: rest, digit.isDigit = true := by
            intro digit hdigit
            exact hdigits digit (List.mem_cons_of_mem first hdigit)
          have hread := Decimal.magnitude?_decimals hfirst (by simp) hrest (by simp) hpower
          simp only [List.singleton_append, hvalue] at hread
          simpa [number] using hread

/-! ### Reading back -/

theorem read?_positional (scaled : Scaled) (negative : Bool) :
    ∃ unit, Decimal.read? (Decimal.sign negative ++ scaled.positional 1) =
      some (.signed negative ⟨scaled.number, unit⟩) := by
  obtain ⟨digits, places, htext, hnumber⟩ := scaled.exists_withPoint
  have hempty : Decimal.power? "".toList = some 0 := rfl
  have hread := Decimal.read?_sign_withPoint negative digits places hempty
  rw [String.append_empty, ← htext, hnumber] at hread
  exact ⟨_, hread⟩

theorem read?_exponential (scaled : Scaled) (negative : Bool) :
    ∃ unit, Decimal.read? (Decimal.sign negative ++ scaled.exponential) =
      some (.signed negative ⟨scaled.number, unit⟩) := by
  obtain ⟨unit, hread⟩ := scaled.magnitude?_exponential
  refine ⟨unit, ?_⟩
  rw [Decimal.read?_sign negative scaled.exists_digit_exponential, hread, Option.map_some]

end Scaled

/-! ## Intervals -/

/-- The parts of a float: the significand has 53 bits, or fewer if the exponent is the least. -/
structure Binary.IsFloat (significand : ℕ) (exponent : ℤ) : Prop where
  width : significand < 2 ^ 53
  least : -1074 ≤ exponent
  full : 2 ^ 52 ≤ significand ∨ exponent = -1074

theorem Binary.isFloat_of_ofFloat {value : Float} {negative : Bool} {significand : ℕ}
    {exponent : ℤ} (h : ofFloat value = .finite negative significand exponent) :
    IsFloat significand exponent := by
  unfold ofFloat ofBits at h
  simp only [Nat.pow_eq] at h
  split_ifs at h with hlast hwhole hfirst
  · rw [Binary.finite.injEq] at h
    obtain ⟨-, rfl, rfl⟩ := h
    exact ⟨by omega, le_rfl, .inr rfl⟩
  · rw [Binary.finite.injEq] at h
    obtain ⟨-, rfl, rfl⟩ := h
    exact ⟨by omega, by omega, .inl (by omega)⟩

namespace Decimal

namespace Interval

/-- Whether a number lies in an interval, to which its ends may belong. -/
def Contains (interval : Interval) (number : ℚ) : Prop :=
  if interval.closed then
    interval.lo * 2 ^ interval.exponent ≤ number ∧ number ≤ interval.hi * 2 ^ interval.exponent
  else
    interval.lo * 2 ^ interval.exponent < number ∧ number < interval.hi * 2 ^ interval.exponent

theorem holds_iff (interval : Interval) (digits : ℕ) (power : ℤ) :
    interval.holds digits power = true ↔ interval.Contains (digits * 10 ^ power) := by
  let scale : ℚ := 10 ^ (-power).toNat * 2 ^ (-interval.exponent).toNat
  have hscale : 0 < scale := by positivity
  have htens : (digits * 10 ^ power : ℚ) =
      (digits * 10 ^ power.toNat * 2 ^ (-interval.exponent).toNat : ℕ) / scale := by
    rw [zpow_eq_div (by norm_num) power]
    simp only [scale]
    push_cast
    field_simp
  have hunit (bound : ℕ) : (bound * 2 ^ interval.exponent : ℚ) =
      (bound * (10 ^ (-power).toNat * 2 ^ interval.exponent.toNat) : ℕ) / scale := by
    rw [zpow_eq_div two_ne_zero interval.exponent]
    simp only [scale]
    push_cast
    field_simp
  unfold holds Contains
  simp only [htens, hunit, div_le_div_iff_of_pos_right hscale, div_lt_div_iff_of_pos_right hscale,
    Nat.cast_le, Nat.cast_lt, Nat.pow_eq]
  split <;> simp

section

variable {significand : ℕ} {exponent : ℤ} {number : ℚ}

/-- How far the interval of a float reaches down, in units of the spacing there. -/
def reach (significand : ℕ) (exponent : ℤ) : ℚ :=
  if significand = 2 ^ 52 ∧ exponent ≠ -1074 then 1 / 4 else 1 / 2

/-- The interval of a float in units of its spacing. -/
theorem contains_of_iff (hpos : 0 < significand) :
    (of significand exponent).Contains number ↔
      if significand % 2 = 0 then
        significand - reach significand exponent ≤ number / 2 ^ exponent ∧
          number / 2 ^ exponent ≤ significand + 1 / 2
      else
        significand - reach significand exponent < number / 2 ^ exponent ∧
          number / 2 ^ exponent < significand + 1 / 2 := by
  have hunit := two_zpow_pos exponent
  have hquarter : (2 : ℚ) ^ (exponent - 2) = 2 ^ exponent / 4 := by
    rw [zpow_sub₀ two_ne_zero]
    norm_num
  have hlo : ((of significand exponent).lo * 2 ^ (exponent - 2) : ℚ) =
      (significand - reach significand exponent) * 2 ^ exponent := by
    rw [hquarter, of, reach, Nat.pow_eq]
    dsimp only
    split_ifs
    · rw [Nat.cast_sub (by omega)]
      push_cast
      ring
    · rw [Nat.cast_sub (by omega)]
      push_cast
      ring
  have hhi : ((of significand exponent).hi * 2 ^ (exponent - 2) : ℚ) =
      (significand + 1 / 2) * 2 ^ exponent := by
    rw [hquarter, of]
    push_cast
    ring
  rw [le_div_iff₀ hunit, div_le_iff₀ hunit, lt_div_iff₀ hunit, div_lt_iff₀ hunit, ← hlo, ← hhi,
    Contains]
  simp only [of, beq_iff_eq]

theorem reach_le (significand : ℕ) (exponent : ℤ) : reach significand exponent ≤ 1 / 2 := by
  unfold reach
  split_ifs <;> norm_num

theorem bounds_of_contains (hpos : 0 < significand)
    (h : (of significand exponent).Contains number) :
    significand - reach significand exponent ≤ number / 2 ^ exponent ∧
      number / 2 ^ exponent ≤ significand + 1 / 2 ∧
      (|number / 2 ^ exponent - significand| = 1 / 2 → significand % 2 = 0) := by
  rw [contains_of_iff hpos] at h
  split at h
  next heven => exact ⟨h.1, h.2, fun _ => heven⟩
  next hodd =>
    refine ⟨h.1.le, h.2.le, fun htie => ?_⟩
    have hreach := reach_le significand exponent
    have hclose : |number / 2 ^ exponent - significand| < 1 / 2 :=
      abs_lt.mpr ⟨by linarith, by linarith⟩
    exact absurd htie hclose.ne

/-- Below a power of two the spacing is half as wide. What is a quarter of the wider one below
the power at most still rounds to it. -/
theorem nearest_below_power (hexponent : -1074 < exponent)
    (hlow : 2 ^ 52 - 1 / 4 ≤ number / 2 ^ exponent) (hbelow : number / 2 ^ exponent < 2 ^ 52) :
    nearest number = 2 ^ 52 * 2 ^ exponent := by
  have hnumber : 0 < number := by
    rw [← div_pos_iff_of_pos_right (two_zpow_pos exponent)]
    linarith
  have hhalf : (2 : ℚ) ^ exponent = 2 * 2 ^ (exponent - 1) := by
    rw [← zpow_one_add₀ two_ne_zero, add_sub_cancel]
  have hdouble : number / 2 ^ (exponent - 1) = 2 * (number / 2 ^ exponent) := by
    rw [hhalf]
    field_simp
  have hround : nearest number = (2 ^ 53 : ℕ) * 2 ^ (exponent - 1) := by
    refine nearest_of_quotient hnumber (by omega) ?_ (.inl ?_) ?_ fun _ => by norm_num
    · rw [hdouble]
      linarith
    · rw [hdouble]
      linarith
    · rw [hdouble, abs_le]
      push_cast
      constructor <;> linarith
  rw [hround, hhalf]
  push_cast
  ring

/-- Every number in the interval of a float rounds to the float. -/
theorem nearest_of_contains (hpos : 0 < significand) (hfloat : IsFloat significand exponent)
    (h : (of significand exponent).Contains number) :
    nearest number = significand * 2 ^ exponent := by
  obtain ⟨hlow, hhigh, htie⟩ := bounds_of_contains hpos h
  have hreach := reach_le significand exponent
  have hleast : (1 : ℚ) ≤ significand := by exact_mod_cast hpos
  have hwidth : (significand + 1 : ℚ) ≤ 2 ^ 53 := by exact_mod_cast hfloat.width
  by_cases hfull : 2 ^ 52 ≤ number / 2 ^ exponent ∨ exponent = -1074
  · have hnumber : 0 < number := by
      rw [← div_pos_iff_of_pos_right (two_zpow_pos exponent)]
      linarith
    exact nearest_of_quotient hnumber hfloat.least (by linarith) hfull
      (abs_le.mpr ⟨by linarith, by linarith⟩) htie
  · obtain ⟨hbelow, hexponent⟩ := not_or.mp hfull
    rw [not_le] at hbelow
    -- only the least significand of 53 bits has an interval that reaches below them
    obtain rfl : significand = 2 ^ 52 := by
      have hlong := hfloat.full.resolve_right hexponent
      have hsmall : (significand : ℚ) < (2 ^ 52 + 1 : ℕ) := by
        push_cast
        linarith
      rw [Nat.cast_lt] at hsmall
      omega
    rw [reach, if_pos ⟨rfl, hexponent⟩] at hlow
    push_cast at hlow ⊢
    exact nearest_below_power (hfloat.least.lt_of_ne' hexponent) hlow hbelow

/-- What is off by half a part in ten to the sixteenth at most is still in the interval. -/
theorem contains_of_abs_le (hpos : 0 < significand) (hfloat : IsFloat significand exponent)
    (h : |number - significand * 2 ^ exponent| ≤ significand * 2 ^ exponent / 10 ^ 16 / 2) :
    (of significand exponent).Contains number := by
  have hunit := two_zpow_pos exponent
  have hwidth : (significand : ℚ) < 2 ^ 53 := by exact_mod_cast hfloat.width
  have hclose : |number / 2 ^ exponent - significand| ≤ significand / 10 ^ 16 / 2 := by
    have hscaled : number - significand * 2 ^ exponent =
        (number / 2 ^ exponent - significand) * 2 ^ exponent := by
      field_simp
    rw [hscaled, abs_mul, abs_of_pos hunit, mul_div_right_comm, mul_div_right_comm] at h
    exact le_of_mul_le_mul_right h hunit
  have hsmall : (significand : ℚ) / 10 ^ 16 / 2 < 1 / 2 := by
    rw [div_lt_div_iff_of_pos_right two_pos, div_lt_one (by positivity)]
    exact hwidth.trans (by norm_num)
  have hreach : significand / 10 ^ 16 / 2 < reach significand exponent := by
    unfold reach
    split
    next hshort =>
      rw [hshort.1]
      norm_num
    next => exact hsmall
  obtain ⟨hlow, hhigh⟩ := abs_le.mp hclose
  rw [contains_of_iff hpos]
  split
  · constructor <;> linarith
  · constructor <;> linarith

end

end Interval

/-! ## The search -/

section

variable {significand : ℕ} {exponent : ℤ}

theorem holds_of_nearestOnGrid {interval : Interval} {numerator denominator digits : ℕ} {power : ℤ}
    (h : nearestOnGrid interval numerator denominator power = some digits) :
    interval.holds digits power = true := by
  unfold nearestOnGrid at h
  dsimp only at h
  split_ifs at h with hnearest hbelow habove
  · rwa [← Option.some.inj h]
  · rwa [← Option.some.inj h]
  · rwa [← Option.some.inj h]

/-- A search finds the first hit, which is not behind any other. -/
theorem exists_first_findSome? {α : Type} {find : ℕ → Option α} {limit count : ℕ}
    (hcount : count < limit) (h : (find count).isSome = true) :
    ∃ first ≤ count, ∃ found, find first = some found ∧
      (List.range limit).findSome? find = some found := by
  induction limit with
  | zero => omega
  | succ limit ih =>
      rw [List.range_succ, List.findSome?_append]
      rcases Nat.lt_succ_iff_lt_or_eq.mp hcount with hbefore | rfl
      · obtain ⟨first, hfirst, found, hfound, hsearch⟩ := ih hbefore
        exact ⟨first, hfirst, found, hfound, by rw [hsearch, Option.some_or]⟩
      · cases hsearch : (List.range count).findSome? find with
        | some found =>
            obtain ⟨first, hfirst, hfound⟩ := List.exists_of_findSome?_eq_some hsearch
            exact ⟨first, (List.mem_range.mp hfirst).le, found, hfound, rfl⟩
        | none =>
            obtain ⟨found, hfound⟩ := Option.isSome_iff_exists.mp h
            exact ⟨count, le_rfl, found, hfound, by simp [hfound]⟩

/-- The power of ten of the first digit of a float. -/
def leadingOf (significand : ℕ) (exponent : ℤ) : ℤ :=
  leadingPower (ratio significand exponent).1 (ratio significand exponent).2

theorem leadsAt_leadingOf (hpos : 0 < significand) (exponent : ℤ) :
    LeadsAt (significand * 2 ^ exponent) (leadingOf significand exponent) := by
  rw [← ratio_eq]
  exact leadsAt_leadingPower (by simp [ratio, hpos]) (ratio_pos significand exponent)

/-- The digits of the multiple of a power of ten that is nearest to a float. -/
def digitsAt (significand : ℕ) (exponent power : ℤ) : ℕ :=
  let quotient := scaleDown (ratio significand exponent).1 (ratio significand exponent).2 power
  roundHalfUp quotient.1 quotient.2

theorem abs_digitsAt_sub_le (significand : ℕ) (exponent power : ℤ) :
    |digitsAt significand exponent power * 10 ^ power - (significand * 2 ^ exponent : ℚ)| ≤
      10 ^ power / 2 := by
  have hbottom :=
    scaleDown_pos (ratio significand exponent).1 (ratio_pos significand exponent) power
  have hscaled := scaleDown_eq (ratio significand exponent).1 (ratio significand exponent).2 power
  rw [ratio_eq] at hscaled
  exact abs_units_sub_le (by positivity) (abs_roundHalfUp_sub_le _ hbottom) hscaled

/-- Where the nearest multiple of a power of ten is in the interval, the search has ended with a
decimal of no more digits. -/
theorem exists_shortestOf {count : ℕ} (hcount : count < 17)
    (h : (Interval.of significand exponent).Contains
      (digitsAt significand exponent (leadingOf significand exponent - count) *
        10 ^ (leadingOf significand exponent - count))) :
    ∃ first ≤ count, ∃ digits : ℕ,
      (Interval.of significand exponent).Contains
        (digits * 10 ^ (leadingOf significand exponent - first)) ∧
      shortestOf significand exponent =
        Scaled.normalize ⟨digits, leadingOf significand exponent - first⟩ := by
  let grid (count : ℕ) : Option ℕ :=
    nearestOnGrid (.of significand exponent) (ratio significand exponent).1
      (ratio significand exponent).2 (leadingOf significand exponent - count)
  let find (count : ℕ) : Option Scaled :=
    (grid count).map fun digits => ⟨digits, leadingOf significand exponent - count⟩
  have hhit : (find count).isSome = true := by
    rw [← Interval.holds_iff] at h
    have hgrid : grid count = some _ := if_pos h
    simp only [find, hgrid, Option.map_some, Option.isSome_some]
  obtain ⟨first, hfirst, found, hfound, hsearch⟩ := exists_first_findSome? hcount hhit
  obtain ⟨digits, hdigits, rfl⟩ := Option.map_eq_some_iff.mp hfound
  refine ⟨first, hfirst, digits, ?_, ?_⟩
  · rw [← Interval.holds_iff]
    exact holds_of_nearestOnGrid hdigits
  · simp only [find, grid, leadingOf] at hsearch
    simp only [shortestOf, hsearch, leadingOf]

/-- Seventeen digits suffice. -/
theorem contains_digitsAt (hpos : 0 < significand) (hfloat : IsFloat significand exponent) :
    (Interval.of significand exponent).Contains
      (digitsAt significand exponent (leadingOf significand exponent - (16 : ℕ)) *
        10 ^ (leadingOf significand exponent - (16 : ℕ))) := by
  have hlower := (leadsAt_leadingOf hpos exponent).lower
  refine Interval.contains_of_abs_le hpos hfloat ((abs_digitsAt_sub_le _ _ _).trans ?_)
  rw [zpow_sub₀ (by norm_num), zpow_natCast]
  gcongr

/-- The shortest digits of a float are read as a number that rounds to the float. -/
theorem nearest_shortestOf (hpos : 0 < significand) (hfloat : IsFloat significand exponent) :
    nearest (shortestOf significand exponent).number = significand * 2 ^ exponent := by
  obtain ⟨first, -, digits, hcontains, hshortest⟩ :=
    exists_shortestOf (by norm_num) (contains_digitsAt hpos hfloat)
  rw [hshortest, Scaled.number_normalize]
  exact Interval.nearest_of_contains hpos hfloat hcontains

/-! ### Whole numbers -/

section

variable {whole : ℕ} (hwhole : (significand * 2 ^ exponent : ℚ) = whole)

include hwhole

theorem exists_leadingOf_whole (hpos : 0 < significand) (hless : whole < 2 ^ 53) :
    ∃ count : ℕ, count < 17 ∧ leadingOf significand exponent = count := by
  obtain ⟨hlower, hupper⟩ := leadsAt_leadingOf hpos exponent
  have hwhole_pos := magnitude_pos exponent hpos
  rw [hwhole] at hlower hupper hwhole_pos
  have hone : (10 : ℚ) ^ (0 : ℤ) ≤ whole := by exact_mod_cast hwhole_pos
  have hten : (whole : ℚ) < 10 ^ (17 : ℤ) := by exact_mod_cast hless.trans (by norm_num)
  have hnonneg := (zpow_lt_zpow_iff_right₀ (by norm_num)).mp (hone.trans_lt hupper)
  have hbound := (zpow_lt_zpow_iff_right₀ (by norm_num)).mp (hlower.trans_lt hten)
  exact ⟨(leadingOf significand exponent).toNat, by omega, by omega⟩

theorem digitsAt_zero_of_whole : digitsAt significand exponent 0 = whole := by
  have hclose := abs_digitsAt_sub_le significand exponent 0
  rw [hwhole, zpow_zero, mul_one] at hclose
  obtain ⟨hlow, hhigh⟩ := abs_le.mp hclose
  have hbelow : (digitsAt significand exponent 0 : ℚ) < (whole + 1 : ℕ) := by
    push_cast
    linarith
  have habove : (whole : ℚ) < (digitsAt significand exponent 0 + 1 : ℕ) := by
    push_cast
    linarith
  rw [Nat.cast_lt] at hbelow habove
  omega

/-- Of a float that is a whole number, the shortest digits are the number itself, perhaps
without zeros at its end. -/
theorem shortestOf_whole (hpos : 0 < significand) (hfloat : IsFloat significand exponent)
    (hless : whole < 2 ^ 53) :
    let scaled := shortestOf significand exponent
    0 ≤ scaled.power ∧ scaled.digits * 10 ^ scaled.power.toNat = whole := by
  intro scaled
  obtain ⟨count, hcount, hleading⟩ := exists_leadingOf_whole hwhole hpos hless
  -- the float is a multiple of 1, so that the search ends there at the latest
  have hunits : (Interval.of significand exponent).Contains
      (digitsAt significand exponent (leadingOf significand exponent - count) *
        10 ^ (leadingOf significand exponent - count)) := by
    refine Interval.contains_of_abs_le hpos hfloat ?_
    rw [hleading, sub_self, digitsAt_zero_of_whole hwhole, hwhole, zpow_zero, mul_one, sub_self,
      abs_zero]
    positivity
  obtain ⟨first, hfirst, digits, hcontains, hshortest⟩ := exists_shortestOf hcount hunits
  have hgrid : leadingOf significand exponent - first = (count - first : ℕ) := by omega
  rw [hgrid] at hcontains hshortest
  change scaled = _ at hshortest
  have hpower : 0 ≤ scaled.power := by
    have hle := Scaled.power_le_normalize ⟨digits, (count - first : ℕ)⟩
    rw [← hshortest] at hle
    exact (Int.natCast_nonneg _).trans hle
  have hnumber : scaled.number = (digits * 10 ^ (count - first) : ℕ) := by
    rw [hshortest, Scaled.number_normalize, Scaled.number, zpow_natCast]
    push_cast
    rfl
  have hnearest : nearest (digits * 10 ^ (count - first) : ℕ) = whole := by
    have hround := Interval.nearest_of_contains hpos hfloat hcontains
    rw [hwhole, zpow_natCast] at hround
    exact_mod_cast hround
  rw [Scaled.number_of_nonneg hpower, Nat.cast_inj] at hnumber
  exact ⟨hpower, hnumber.trans (eq_of_nearest_natCast hnearest hless)⟩

end

end

/-! ## The text of a float -/

/-- A text names a float if it says a number that rounds to the float. -/
def Names (text : String) (value : Float) : Prop :=
  ∃ reading, read? text = some reading ∧ IsNumber value (nearest reading.number)

theorem shortest_of_finite {value : Float} {negative : Bool} {significand : ℕ} {exponent : ℤ}
    (h : ofFloat value = .finite negative significand exponent) (hpos : 0 < significand) :
    let scaled := shortestOf significand exponent
    let magnitude := scaled.power + (scaled.digits.repr.length - 1 : ℕ)
    shortest value = sign negative ++
      if -4 ≤ magnitude ∧ magnitude < 16 then scaled.positional 1 else scaled.exponential := by
  intro scaled magnitude
  obtain ⟨significand, rfl⟩ := Nat.exists_eq_succ_of_ne_zero hpos.ne'
  rw [shortest, h]
  rfl

/-- The shortest digits of a float name it. -/
theorem names_shortest {value : Float} {number : ℚ} (h : IsNumber value number) :
    Names (shortest value) value := by
  obtain ⟨negative, significand, exponent, hparts, hnumber⟩ := h.exists_finite
  rcases significand.eq_zero_or_pos with rfl | hpos
  · have hzero : shortest value = sign negative ++ (⟨0, 0⟩ : Scaled).positional 1 := by
      rw [shortest, hparts]
      rfl
    obtain ⟨unit, hread⟩ := (⟨0, 0⟩ : Scaled).read?_positional negative
    rw [← hzero] at hread
    refine ⟨_, hread, ?_⟩
    cases negative <;> simpa [Reading.signed, Scaled.number, hnumber] using h
  · have hnearest := nearest_shortestOf hpos (isFloat_of_ofFloat hparts)
    obtain ⟨unit, hread⟩ : ∃ unit, read? (shortest value) =
        some (.signed negative ⟨(shortestOf significand exponent).number, unit⟩) := by
      rw [shortest_of_finite hparts hpos]
      split
      · exact Scaled.read?_positional _ negative
      · exact Scaled.read?_exponential _ negative
    refine ⟨_, hread, ?_⟩
    cases negative with
    | true =>
        rw [if_pos rfl, ← hnearest, ← nearest_neg] at hnumber
        rwa [hnumber] at h
    | false =>
        rw [if_neg Bool.false_ne_true, ← hnearest] at hnumber
        rwa [hnumber] at h

example : shortest 0.1 = "0.1" := by decide +kernel

/-- The float of a word is shown as the word with a zero behind the point. -/
theorem shortest_toFloat (word : UInt32) : shortest word.toFloat = word.toNat.repr ++ ".0" := by
  obtain ⟨significand, exponent, hparts, hword⟩ := exists_parts_toFloat word
  rcases significand.eq_zero_or_pos with rfl | hpos
  · have hzero : word.toNat = 0 := by
      rw [Nat.cast_zero, zero_mul] at hword
      exact_mod_cast hword.symm
    rw [shortest, hparts, hzero]
    rfl
  · have hless : word.toNat < 2 ^ 53 := word.toNat_lt.trans (by norm_num)
    obtain ⟨hpower, hnumber⟩ :=
      shortestOf_whole hword hpos (isFloat_of_ofFloat hparts) hless
    have hword_pos := magnitude_pos exponent hpos
    rw [hword, Nat.cast_pos, ← hnumber] at hword_pos
    have hbelow : word.toNat < 10 ^ 16 := hless.trans (by norm_num)
    rw [← hnumber] at hbelow
    have hshort := Scaled.first_lt_of_nonneg hpower hword_pos hbelow
    rw [shortest_of_finite hparts hpos, if_pos ⟨by omega, hshort⟩,
      Scaled.positional_of_nonneg hpower, hnumber, sign, if_neg Bool.false_ne_true,
      String.empty_append]

end Decimal

end StreamPlot
