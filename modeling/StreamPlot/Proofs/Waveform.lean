import StreamPlot.Proofs.Decimal.Digits
import StreamPlot.Proofs.Generator
import StreamPlot.Proofs.Window

/-!
# The shape of waveforms

Up to five rounded steps lead from an index to a height. None of them can spoil the shape: a
rounding that keeps the order and leaves 0, a half, 1 and the words alone keeps the phase
between 0 and 1 and the height between 0 and the amplitude, and a later index of the same period
has no smaller phase. This holds as well where the period and the index are too large for a
float, so that a phase can be rounded to 1.
-/

namespace StreamPlot

open Binary

/-! ## Rounding to words -/

/-- A number is rounded to the nearest word, and what is below 0 to 0. -/
theorem toNat_roundToWord {value : Float} {number : ℚ} (h : IsNumber value number) :
    (roundToWord value).toNat = min ⌊number + 1 / 2⌋₊ 4294967295 := by
  obtain ⟨negative, significand, exponent, hparts, rfl⟩ := h.exists_finite
  have hmagnitude : (0 : ℚ) ≤ significand * 2 ^ exponent := by positivity
  rw [roundToWord, hparts]
  cases negative with
  | true =>
    have hfloor : ⌊-(significand * 2 ^ exponent : ℚ) + 1 / 2⌋₊ = 0 := by
      rw [Nat.floor_eq_zero]
      linarith
    rw [if_pos rfl, hfloor]
    rfl
  | false =>
    have hword : min (roundHalfUp (ratio significand exponent).1 (ratio significand exponent).2)
        4294967295 < UInt32.size := by
      rw [min_lt_iff]
      exact .inr (by decide)
    rw [if_neg (by simp), ← ratio_eq, ← roundHalfUp_eq_floor _ (ratio_pos _ _)]
    exact UInt32.toNat_ofNat_of_lt' hword

section

variable {value other : Float} {number number' : ℚ}

theorem roundToWord_mono (h : IsNumber value number) (h' : IsNumber other number')
    (hle : number ≤ number') : roundToWord value ≤ roundToWord other := by
  rw [UInt32.le_iff_toNat_le, toNat_roundToWord h, toNat_roundToWord h']
  exact min_le_min_right _ (Nat.floor_mono (by linarith))

theorem roundToWord_le (h : IsNumber value number) {word : UInt32} (hle : number ≤ word.toNat) :
    roundToWord value ≤ word := by
  have hfloor : ⌊(word.toNat + 1 / 2 : ℚ)⌋₊ = word.toNat := by
    rw [Nat.floor_eq_iff (by positivity)]
    constructor <;> linarith
  rw [UInt32.le_iff_toNat_le, toNat_roundToWord h]
  calc
    min ⌊number + 1 / 2⌋₊ 4294967295 ≤ ⌊number + 1 / 2⌋₊ := min_le_left _ _
    _ ≤ ⌊(word.toNat + 1 / 2 : ℚ)⌋₊ := Nat.floor_mono (by linarith)
    _ = word.toNat := hfloor

end

/-! ## Rounded phases and heights -/

/-- The part of a period that lies before an index, when every step is rounded. -/
def roundedPhase (round : ℚ → ℚ) (rest period : ℕ) : ℚ :=
  round (round rest / round period)

namespace Rounding

variable {round : ℚ → ℚ} (h : Rounding round)

include h

theorem zero : round 0 = 0 := by
  exact_mod_cast h.natCast (by norm_num : 0 < 2 ^ 53)

theorem one : round 1 = 1 := by
  exact_mod_cast h.natCast (by norm_num : 1 < 2 ^ 53)

theorem nonneg {number : ℚ} (hnumber : 0 ≤ number) : 0 ≤ round number := by
  rw [← h.zero]
  exact h.mono hnumber

theorem le_one {number : ℚ} (hnumber : number ≤ 1) : round number ≤ 1 := by
  rw [← h.one]
  exact h.mono hnumber

theorem one_le_period {period : ℕ} (hperiod : 0 < period) : 1 ≤ round period := by
  rw [← h.one]
  exact h.mono (Nat.one_le_cast.mpr hperiod)

variable {rest later period : ℕ}

theorem phase_nonneg : 0 ≤ roundedPhase round rest period :=
  h.nonneg (div_nonneg (h.nonneg (Nat.cast_nonneg rest)) (h.nonneg (Nat.cast_nonneg period)))

theorem phase_le_one (hrest : rest ≤ period) : roundedPhase round rest period ≤ 1 :=
  h.le_one (div_le_one_of_le₀ (h.mono (Nat.cast_le.mpr hrest)) (h.nonneg (Nat.cast_nonneg period)))

theorem phase_mono (hle : rest ≤ later) :
    roundedPhase round rest period ≤ roundedPhase round later period :=
  h.mono (div_le_div_of_nonneg_right (h.mono (Nat.cast_le.mpr hle))
    (h.nonneg (Nat.cast_nonneg period)))

theorem phase_zero (period : ℕ) : roundedPhase round 0 period = 0 := by
  rw [roundedPhase, Nat.cast_zero, h.zero, zero_div, h.zero]

/-- A part of the amplitude is at most the amplitude. -/
theorem height_le {part : ℚ} (hpart : part ≤ 1) (amplitude : UInt32) :
    round (amplitude.toNat * part) ≤ amplitude.toNat := by
  calc
    round (amplitude.toNat * part) ≤ round amplitude.toNat :=
      h.mono (mul_le_of_le_one_right (Nat.cast_nonneg _) hpart)
    _ = amplitude.toNat := h.natCast (amplitude.toNat_lt.trans (by norm_num))

theorem height_mono {part part' : ℚ} (hpart : part ≤ part') (amplitude : UInt32) :
    round (amplitude.toNat * part) ≤ round (amplitude.toNat * part') :=
  h.mono (mul_le_mul_of_nonneg_left hpart (Nat.cast_nonneg _))

end Rounding

/-! ## Phases and heights as floats -/

theorem isNumber_half : IsNumber 0.5 (1 / 2) := by
  have hbits : ofFloat 0.5 = .finite false (2 ^ 52) (-53) := by decide +kernel
  exact isNumber_of_finite hbits (by norm_num)

namespace Waveform

/-- A sine function of floats: every number has a sine, and none is greater than 1 in size. -/
def IsSine (sine : Float → Float) : Prop :=
  ∀ value number, IsNumber value number → ∃ height, IsNumber (sine value) height ∧ |height| ≤ 1

/-- How far an index is in its period. -/
def rest (index period : UInt64) : ℕ := (index % max period 1).toNat

/-- The phase at an index, as a number. -/
def phaseNumber (index period : UInt64) : ℚ :=
  roundedPhase nearest (rest index period) (max period 1).toNat

section

variable (index period : UInt64)

theorem period_pos : 0 < (max period 1).toNat := by
  rw [toNat_max]
  exact lt_max_of_lt_right (by decide)

theorem rest_lt_period : rest index period < (max period 1).toNat := by
  rw [rest, UInt64.toNat_mod]
  exact Nat.mod_lt _ (period_pos period)

theorem phaseNumber_bounds : 0 ≤ phaseNumber index period ∧ phaseNumber index period ≤ 1 :=
  ⟨Rounding.nearest.phase_nonneg, Rounding.nearest.phase_le_one (rest_lt_period index period).le⟩

theorem isNumber_phase : IsNumber (phase index period) (phaseNumber index period) := by
  have hperiod : 1 ≤ nearest (max period 1).toNat :=
    Rounding.nearest.one_le_period (period_pos period)
  have hrest : 0 ≤ nearest (rest index period) := Rounding.nearest.nonneg (Nat.cast_nonneg _)
  have hle : nearest (rest index period) ≤ nearest (max period 1).toNat :=
    nearest_mono (Nat.cast_le.mpr (rest_lt_period index period).le)
  have hquotient : |nearest (rest index period) / nearest (max period 1).toNat| ≤ 1 := by
    rw [abs_of_nonneg (div_nonneg hrest (by linarith))]
    exact div_le_one_of_le₀ hle (by linarith)
  exact (isNumber_toFloat_long _).div (isNumber_toFloat_long _) (by linarith)
    (inRange_of_abs_lt (hquotient.trans_lt (by norm_num)))

/-- A part of the amplitude, as a float. -/
theorem isNumber_height {part : Float} {number : ℚ} (h : IsNumber part number)
    (hnumber : |number| ≤ 1) (amplitude : UInt32) :
    IsNumber (amplitude.toFloat * part) (nearest (amplitude.toNat * number)) :=
  (isNumber_toFloat amplitude).mul h
    (inRange_of_abs_lt ((abs_scaled_le amplitude (hnumber.trans one_le_two)).1.trans_lt
      (by norm_num)))

variable (amplitude : UInt32)

theorem isNumber_sawtooth :
    IsNumber (amplitude.toFloat * phase index period)
      (nearest (amplitude.toNat * phaseNumber index period)) := by
  obtain ⟨hnonneg, hone⟩ := phaseNumber_bounds index period
  exact isNumber_height (isNumber_phase index period) (abs_le.mpr ⟨by linarith, by linarith⟩)
    amplitude

theorem isNumber_turn : ∃ number, IsNumber turn number ∧ |number| ≤ 7 := by
  have hbits : ofFloat turn = .finite false 7074237752028440 (-50) := by decide +kernel
  exact ⟨_, isNumber_of_finite hbits rfl, by norm_num [abs_of_nonneg]⟩

/-- The sine of a phase, halved and lifted by a half, is a part of the amplitude. -/
theorem isNumber_lifted {sine : Float → Float} (h : IsSine sine) :
    ∃ number, IsNumber (0.5 + 0.5 * sine (turn * phase index period)) number ∧ |number| ≤ 1 := by
  obtain ⟨hnonneg, hone⟩ := phaseNumber_bounds index period
  obtain ⟨whole, hwhole, hseven⟩ := isNumber_turn
  have hangle : |whole * phaseNumber index period| ≤ 7 := by
    rw [abs_mul, abs_of_nonneg hnonneg]
    exact (mul_le_of_le_one_right (abs_nonneg whole) hone).trans hseven
  obtain ⟨height, hheight, hunit⟩ := h _ _ (hwhole.mul (isNumber_phase index period)
    (inRange_of_abs_lt (hangle.trans_lt (by norm_num))))
  have hhalved : |1 / 2 * height| ≤ 2 ^ (-1 : ℤ) := by
    rw [abs_mul, abs_of_pos one_half_pos]
    norm_num
    linarith
  have hrounded : |nearest (1 / 2 * height)| ≤ 2 ^ (-1 : ℤ) := abs_nearest_le (by norm_num) hhalved
  have hsum : |1 / 2 + nearest (1 / 2 * height)| ≤ 2 ^ (0 : ℤ) := by
    refine (abs_add_le _ _).trans ?_
    rw [abs_of_pos one_half_pos]
    norm_num at hrounded ⊢
    linarith
  have hproduct := isNumber_half.mul hheight (inRange_of_abs_lt (hhalved.trans_lt (by norm_num)))
  have hlifted := isNumber_half.add hproduct (inRange_of_abs_lt (hsum.trans_lt (by norm_num)))
  exact ⟨_, hlifted, (abs_nearest_le (by norm_num) hsum).trans (by norm_num)⟩

end

/-! ## Shapes -/

section

variable {period : UInt64} {amplitude : UInt32} {index first second : UInt64}

/-- Indices at the same place of a period have the same phase. -/
theorem phase_congr (h : first % max period 1 = second % max period 1) :
    phase first period = phase second period := by
  simp only [phase, h]

theorem phaseNumber_of_start (h : index % max period 1 = 0) : phaseNumber index period = 0 := by
  rw [phaseNumber, rest, h]
  exact Rounding.nearest.phase_zero _

/-- Within a period, a later index has no smaller phase. -/
theorem phaseNumber_mono (hperiod : first / max period 1 = second / max period 1)
    (h : first ≤ second) : phaseNumber first period ≤ phaseNumber second period := by
  have hquotient : first.toNat / (max period 1).toNat = second.toNat / (max period 1).toNat := by
    rw [← UInt64.toNat_div, ← UInt64.toNat_div, hperiod]
  have hfirst := Nat.div_add_mod first.toNat (max period 1).toNat
  have hsecond := Nat.div_add_mod second.toNat (max period 1).toNat
  rw [hquotient] at hfirst
  have hle : first.toNat ≤ second.toNat := UInt64.le_iff_toNat_le.mp h
  apply Rounding.nearest.phase_mono
  rw [rest, rest, UInt64.toNat_mod, UInt64.toNat_mod]
  omega

theorem phase_lt_half_iff : phase index period < 0.5 ↔ phaseNumber index period < 1 / 2 :=
  (isNumber_phase index period).lt_iff isNumber_half

variable {sine : Float → Float}

theorem sine_le_amplitude (h : IsSine sine) :
    sampleWith sine .sine index period amplitude ≤ amplitude := by
  obtain ⟨number, hnumber, hunit⟩ := isNumber_lifted index period h
  exact roundToWord_le (isNumber_height hnumber hunit amplitude)
    (Rounding.nearest.height_le (le_of_abs_le hunit) amplitude)

theorem sawtooth_le_amplitude : sampleWith sine .sawtooth index period amplitude ≤ amplitude :=
  roundToWord_le (isNumber_sawtooth index period amplitude)
    (Rounding.nearest.height_le (phaseNumber_bounds index period).2 amplitude)

theorem sawtooth_mono (h : phaseNumber first period ≤ phaseNumber second period) :
    sampleWith sine .sawtooth first period amplitude ≤
      sampleWith sine .sawtooth second period amplitude :=
  roundToWord_mono (isNumber_sawtooth first period amplitude)
    (isNumber_sawtooth second period amplitude) (Rounding.nearest.height_mono h amplitude)

theorem sawtooth_of_start (h : index % max period 1 = 0) :
    sampleWith sine .sawtooth index period amplitude = 0 := by
  have hzero := isNumber_sawtooth index period amplitude
  rw [phaseNumber_of_start h, mul_zero, nearest_zero] at hzero
  exact UInt32.le_antisymm (roundToWord_le hzero (by simp)) (UInt32.zero_le)

theorem square_eq : sampleWith sine .square index period amplitude =
    if phaseNumber index period < 1 / 2 then amplitude else 0 := by
  rw [← if_congr phase_lt_half_iff rfl rfl]
  rfl

theorem square_antitone (h : phaseNumber first period ≤ phaseNumber second period) :
    sampleWith sine .square second period amplitude ≤
      sampleWith sine .square first period amplitude := by
  rw [square_eq, square_eq]
  split_ifs with hsecond hfirst hfirst
  · exact UInt32.le_refl _
  · exact absurd (h.trans_lt hsecond) hfirst
  · exact UInt32.zero_le
  · exact UInt32.le_refl _

end

/-- Waveforms keep their shape, also where a period or an index is too large for a float. No
height is greater than the amplitude, and a height is told by the place of its index in the
period, but for the ramp. Within a period the sawtooth never falls and the square wave never
rises; at the start of every period the one is 0 and the other is the amplitude, and the square
wave has no other height than the amplitude and 0. The ramp is its index as far as a word can
tell it, and never falls. -/
theorem waveforms_keep_shape (sine : Float → Float) (period : UInt64) (amplitude : UInt32) :
    let height (waveform : Waveform) (index : UInt64) :=
      waveform.sampleWith sine index period amplitude
    (IsSine sine → ∀ index, height .sine index ≤ amplitude) ∧
      (∀ index, height .sawtooth index ≤ amplitude ∧ height .square index ≤ amplitude) ∧
      (∀ first second, first % max period 1 = second % max period 1 →
        height .sine first = height .sine second ∧
          height .sawtooth first = height .sawtooth second ∧
          height .square first = height .square second) ∧
      (∀ first second, first / max period 1 = second / max period 1 → first ≤ second →
        height .sawtooth first ≤ height .sawtooth second ∧
          height .square second ≤ height .square first) ∧
      (∀ index, index % max period 1 = 0 →
        height .sawtooth index = 0 ∧ height .square index = amplitude) ∧
      (∀ index, height .square index = amplitude ∨ height .square index = 0) ∧
      (∀ index, (height .ramp index).toNat = min index.toNat (2 ^ 32 - 1)) ∧
      ∀ first second, first ≤ second → height .ramp first ≤ height .ramp second := by
  intro height
  refine ⟨?_, ?_, ?_, ?_, ?_, ?_, ?_, ?_⟩
  · intro hsine index
    exact sine_le_amplitude hsine
  · intro index
    refine ⟨sawtooth_le_amplitude, ?_⟩
    rw [show height .square index = _ from square_eq]
    split_ifs
    · exact UInt32.le_refl _
    · exact UInt32.zero_le
  · intro first second hrest
    simp only [height, sampleWith, phase_congr hrest, and_self]
  · intro first second hperiod hle
    have hphase := phaseNumber_mono hperiod hle
    exact ⟨sawtooth_mono hphase, square_antitone hphase⟩
  · intro index hstart
    refine ⟨sawtooth_of_start hstart, square_eq.trans (if_pos ?_)⟩
    rw [phaseNumber_of_start hstart]
    exact one_half_pos
  · intro index
    rw [show height .square index = _ from square_eq]
    split_ifs
    · exact .inl rfl
    · exact .inr rfl
  · intro index
    exact toNat_saturate index
  · intro first second hle
    rw [UInt32.le_iff_toNat_le, show (height .ramp first).toNat = _ from toNat_saturate first,
      show (height .ramp second).toNat = _ from toNat_saturate second]
    exact min_le_min_right _ (UInt64.le_iff_toNat_le.mp hle)

/-- The sine function at the first, second and last quarter of a turn. -/
def quarterSine (angle : Float) : Float :=
  if angle < 1.0 then 0.0 else if angle < 4.0 then 1.0 else -1.0

theorem isSine_quarterSine : IsSine quarterSine := by
  have hone : IsNumber (-1.0) (-1) := by
    have hbits : ofFloat (-1.0) = .finite true (2 ^ 52) (-52) := by decide +kernel
    rw [IsNumber, hbits, number?]
    norm_num
  intro value number _
  unfold quarterSine
  split_ifs
  · exact ⟨0, isNumber_zero, by norm_num⟩
  · exact ⟨1, isNumber_margin, by norm_num⟩
  · exact ⟨-1, hone, by norm_num⟩

/-- A quarter of a turn gives no more than the amplitude. The last index of the longest period
has a phase that is rounded to 1, and the sawtooth there is still in order. -/
theorem waveforms_at_the_edge :
    IsSine quarterSine ∧ sampleWith quarterSine .sine 1 4 100 ≤ 100 ∧
      sampleWith quarterSine .sawtooth 18446744073709551614 18446744073709551615 4294967295 ≤
        4294967295 ∧
      (18446744073709551613 : UInt64) / max 18446744073709551615 1 =
        18446744073709551614 / max 18446744073709551615 1 ∧
      sampleWith quarterSine .sawtooth 18446744073709551613 18446744073709551615 4294967295 ≤
        sampleWith quarterSine .sawtooth 18446744073709551614 18446744073709551615 4294967295 := by
  obtain ⟨hsine, -⟩ := waveforms_keep_shape quarterSine 4 100
  obtain ⟨-, hheight, -, hperiod, -⟩ :=
    waveforms_keep_shape quarterSine 18446744073709551615 4294967295
  have hsame : (18446744073709551613 : UInt64) / max 18446744073709551615 1 =
      18446744073709551614 / max 18446744073709551615 1 := by decide
  exact ⟨isSine_quarterSine, hsine isSine_quarterSine 1, (hheight _).1, hsame,
    (hperiod _ _ hsame (by decide)).1⟩

end Waveform

end StreamPlot
