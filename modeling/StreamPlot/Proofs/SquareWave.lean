import StreamPlot.Proofs.Binary.Half
import StreamPlot.Proofs.Waveform

/-!
# The two halves of a square wave

A square wave is at its amplitude as long as the phase is below a half. The phase is a quotient of
two rounded numbers, and the rounding of the quotient itself never decides. So up to the longest
period that a float can tell from its neighbours, the halves are those of whole numbers, and the
middle sample of an odd period belongs to the first. Beyond it the two rounded numbers may meet too
early, and the last few samples of a first half are lost; the second half is always 0.
-/

namespace StreamPlot

open Binary

/-! ## Halves of rounded numbers -/

section

variable {place length : ℕ}

/-- Rounding cannot bring the double of a place below a length that it has reached. -/
theorem nearest_le_two_mul_nearest (h : length ≤ 2 * place) :
    nearest length ≤ 2 * nearest place := by
  rw [← nearest_two_mul_natCast]
  exact nearest_mono (by exact_mod_cast h)

/-- A number of 64 bits is rounded by no more than half the spacing of the greatest floats among
them. -/
theorem abs_nearest_natCast_sub_le {number : ℕ} (h : number < 2 ^ 64) :
    |nearest number - number| ≤ 2 ^ 10 := by
  have habs : |(number : ℚ)| < 2 ^ (11 + 53 : ℤ) := by
    rw [Nat.abs_cast]
    exact_mod_cast h
  exact (abs_nearest_sub_le_of_abs_lt (by norm_num) habs).trans_eq (by norm_num)

theorem two_mul_nearest_lt_of_far (hlength : length < 2 ^ 64) (h : 2 * place + 2 ^ 11 < length) :
    2 * nearest place < nearest length := by
  have hplace : 2 * place < 2 ^ 64 := by omega
  have hbelow := abs_le.mp (abs_nearest_natCast_sub_le hplace)
  have habove := abs_le.mp (abs_nearest_natCast_sub_le hlength)
  have hcast : (2 * place + 2 ^ 11 : ℚ) < length := by exact_mod_cast h
  rw [← nearest_two_mul_natCast]
  push_cast at hbelow
  linarith

/-- Where floats can tell a length from its neighbours, rounding keeps the middle in place. -/
theorem two_mul_nearest_lt_iff (hlength : length ≤ 2 ^ 53) :
    2 * nearest place < nearest length ↔ 2 * place < length := by
  have hexact {number : ℕ} (hnumber : number ≤ 2 ^ 53) : nearest number = number := by
    have hwhole : nearest ((number : ℤ) : ℚ) = ((number : ℤ) : ℚ) :=
      nearest_intCast (by rw [Nat.abs_cast]; exact_mod_cast hnumber)
    exact_mod_cast hwhole
  rcases Nat.lt_or_ge (2 * place) length with hlt | hge
  · rw [hexact hlength, hexact (by omega)]
    exact_mod_cast Iff.rfl
  · exact iff_of_false (nearest_le_two_mul_nearest hge).not_gt hge.not_gt

/-- The places before the middle end somewhat earlier where they are rounded, by no more than
`2 ^ 10` of them. -/
theorem exists_rounded_half (hlength : length < 2 ^ 64) :
    ∃ half, half ≤ (length + 1) / 2 ∧ (length + 1) / 2 ≤ half + 2 ^ 10 ∧
      ∀ place : ℕ, 2 * nearest place < nearest length ↔ place < half := by
  have hmiddle : ∃ place : ℕ, nearest length ≤ 2 * nearest place :=
    ⟨(length + 1) / 2, nearest_le_two_mul_nearest (by omega)⟩
  classical
  refine ⟨Nat.find hmiddle, Nat.find_min' hmiddle (nearest_le_two_mul_nearest (by omega)), ?_, ?_⟩
  · have hfar := mt (two_mul_nearest_lt_of_far hlength) (Nat.find_spec hmiddle).not_gt
    omega
  · intro place
    rw [Nat.lt_find_iff]
    constructor
    · intro hbelow before hle
      have hmono : nearest before ≤ nearest place := nearest_mono (Nat.cast_le.mpr hle)
      linarith
    · intro hbefore
      exact not_le.mp (hbefore place le_rfl)

end

/-! ## Halves of a period -/

namespace Waveform

/-- The places in a period at which a square wave should be at its amplitude. -/
def InFirstHalf (index period : UInt64) : Prop := 2 * rest index period < (max period 1).toNat

instance (index period : UInt64) : Decidable (InFirstHalf index period) :=
  inferInstanceAs (Decidable (_ < _))

/-- The samples of a square wave in a period from its start on. -/
def squarePeriod (sine : Float → Float) (start period : UInt64) (amplitude : UInt32) :
    List UInt32 :=
  (List.range (max period 1).toNat).map fun offset =>
    sampleWith sine .square (start + UInt64.ofNat offset) period amplitude

section

variable {index period : UInt64} {amplitude : UInt32} {sine : Float → Float}

theorem phaseNumber_lt_half_iff :
    phaseNumber index period < 1 / 2 ↔
      2 * nearest (rest index period) < nearest (max period 1).toNat := by
  apply nearest_div_lt_half_iff
  · rw [← nearest_two_mul_natCast, nearest_nearest]
  · exact nearest_nearest _
  · exact nearest_nonneg (Nat.cast_nonneg _)
  · exact one_pos.trans_le (Rounding.nearest.one_le_period (period_pos period))

theorem square_eq_of_rounded : sampleWith sine .square index period amplitude =
    if 2 * nearest (rest index period) < nearest (max period 1).toNat then amplitude else 0 := by
  rw [square_eq]
  exact if_congr phaseNumber_lt_half_iff rfl rfl

/-- A sample has the height of its half unless rounding has lost it. -/
theorem square_eq_half_iff :
    (sampleWith sine .square index period amplitude =
        if InFirstHalf index period then amplitude else 0) ↔
      amplitude = 0 ∨ (InFirstHalf index period →
        2 * nearest (rest index period) < nearest (max period 1).toNat) := by
  rw [square_eq_of_rounded]
  by_cases hhalf : InFirstHalf index period
  · rw [if_pos hhalf]
    by_cases hrounded : 2 * nearest (rest index period) < nearest (max period 1).toNat
    · simp [hrounded]
    · simp [hrounded, hhalf, eq_comm]
  · have hrounded := (nearest_le_two_mul_nearest (Nat.not_lt.mp hhalf)).not_gt
    simp [hrounded, hhalf]

/-- An index is as far in its period as it lies behind the start of it. -/
theorem rest_of_start {start : UInt64} (hstart : start % max period 1 = 0) {offset : ℕ}
    (hoffset : offset < (max period 1).toNat) (hroom : start.toNat + offset < 2 ^ 64) :
    rest (start + UInt64.ofNat offset) period = offset := by
  have hlong : offset < UInt64.size := by
    change offset < 2 ^ 64
    omega
  have hzero : start.toNat % (max period 1).toNat = 0 := by
    rw [← UInt64.toNat_mod, hstart]
    rfl
  rw [rest, UInt64.toNat_mod, UInt64.toNat_add, UInt64.toNat_ofNat_of_lt' hlong,
    Nat.mod_eq_of_lt hroom, Nat.add_mod, hzero, Nat.zero_add, Nat.mod_mod,
    Nat.mod_eq_of_lt hoffset]

/-- A period that has room among the indices is cut where the rounded numbers meet. -/
theorem square_of_start {start : UInt64} (hstart : start % max period 1 = 0)
    (hroom : start.toNat + (max period 1).toNat ≤ 2 ^ 64) {half : ℕ}
    (hle : half ≤ (max period 1).toNat)
    (hhalf : ∀ place : ℕ, 2 * nearest place < nearest (max period 1).toNat ↔ place < half) :
    squarePeriod sine start period amplitude =
      List.replicate half amplitude ++ List.replicate ((max period 1).toNat - half) 0 := by
  unfold squarePeriod
  apply List.ext_getElem
  · simp [hle]
  · intro offset hoffset _
    rw [List.length_map, List.length_range] at hoffset
    rw [List.getElem_map, List.getElem_range, square_eq_of_rounded,
      rest_of_start hstart hoffset (by omega), if_congr (hhalf offset) rfl rfl,
      List.getElem_append]
    simp

end

/-- A square wave splits its periods in half as far as floats can tell. A sample has the height of
its half, unless it belongs to the first and its place, doubled, has been rounded to the length of
the period. That happens to none in a period of at most `2 ^ 53` samples. Every period consists of
samples at the amplitude, followed by samples at 0, and the former fall short of the middle by no
more than `2 ^ 10`. -/
theorem square_splits_periods (sine : Float → Float) (period : UInt64) (amplitude : UInt32) :
    (∀ index, sampleWith sine .square index period amplitude =
          (if InFirstHalf index period then amplitude else 0) ↔
        amplitude = 0 ∨ (InFirstHalf index period →
          2 * nearest (rest index period) < nearest (max period 1).toNat)) ∧
      ((max period 1).toNat ≤ 2 ^ 53 → ∀ index,
        sampleWith sine .square index period amplitude =
          if InFirstHalf index period then amplitude else 0) ∧
      ∃ lost ≤ 2 ^ 10, ((max period 1).toNat ≤ 2 ^ 53 → lost = 0) ∧
        ∀ start, start % max period 1 = 0 → start.toNat + (max period 1).toNat ≤ 2 ^ 64 →
          squarePeriod sine start period amplitude =
            List.replicate (((max period 1).toNat + 1) / 2 - lost) amplitude ++
              List.replicate ((max period 1).toNat / 2 + lost) 0 := by
  have hlong : (max period 1).toNat < 2 ^ 64 := UInt64.toNat_lt _
  refine ⟨fun index => square_eq_half_iff, ?_, ?_⟩
  · intro hexact index
    exact square_eq_half_iff.mpr (.inr (two_mul_nearest_lt_iff hexact).mpr)
  · obtain ⟨half, hle, hnear, hhalf⟩ := exists_rounded_half hlong
    refine ⟨((max period 1).toNat + 1) / 2 - half, by omega, ?_, ?_⟩
    · intro hexact
      have hreached : ¬ 2 * half < (max period 1).toNat := by
        rw [← two_mul_nearest_lt_iff hexact, hhalf]
        exact lt_irrefl half
      omega
    · intro start hstart hroom
      rw [square_of_start hstart hroom (by omega) hhalf]
      congr 2 <;> omega

/-- The third of five samples belongs to the first half. -/
theorem square_of_five :
    (max 5 1 : UInt64).toNat ≤ 2 ^ 53 ∧ (10 : UInt64) % max 5 1 = 0 ∧
      (10 : UInt64).toNat + (max 5 1 : UInt64).toNat ≤ 2 ^ 64 ∧
      sampleWith quarterSine .square 12 5 1000 = 1000 ∧
      squarePeriod quarterSine 10 5 1000 = [1000, 1000, 1000, 0, 0] := by
  obtain ⟨-, hexact, lost, -, hlost, hperiod⟩ := square_splits_periods quarterSine 5 1000
  have hshort : (max 5 1 : UInt64).toNat ≤ 2 ^ 53 := by decide
  have hstart : (10 : UInt64) % max 5 1 = 0 := by decide
  have hroom : (10 : UInt64).toNat + (max 5 1 : UInt64).toNat ≤ 2 ^ 64 := by decide
  obtain rfl := hlost hshort
  exact ⟨hshort, hstart, hroom, (hexact hshort 12).trans (if_pos (by decide)),
    hperiod 10 hstart hroom⟩

/-- The middle sample of the shortest period that no float can tell from its neighbours is lost to
the second half. -/
theorem square_loses_middle_of_odd_period :
    InFirstHalf 4503599627370496 9007199254740993 ∧
      sample .square 4503599627370496 9007199254740993 1000 = 0 := by
  decide +kernel

end Waveform

end StreamPlot
