import StreamPlot.Proofs.Binary.Number

/-!
# The order of all floats

Every float has a level, a number or one of the two infinities, unless it is not a number at
all. Floats with a level compare as their levels, so the two zeros are equal; one without a
level is neither below nor above anything. Away from such floats, comparing is comparing in a
linear order.
-/

namespace StreamPlot

open Float.Model UnpackedFloat

namespace Binary

/-- Where a float stands among the numbers and the infinities. -/
abbrev Level := WithBot (WithTop ℚ)

def Level.ofNumber (number : ℚ) : Level := (number : WithTop ℚ)

theorem Level.compare_ofNumber (left right : ℚ) :
    compare (ofNumber left) (ofNumber right) = compare left right := by
  have hlt (small large : ℚ) (h : small < large) : ofNumber small < ofNumber large :=
    WithBot.coe_lt_coe.mpr (WithTop.coe_lt_coe.mpr h)
  rcases lt_trichotomy left right with h | rfl | h
  · rw [compare_lt_iff_lt.mpr h, compare_lt_iff_lt.mpr (hlt left right h)]
  · rw [compare_eq_iff_eq.mpr rfl, compare_eq_iff_eq.mpr rfl]
  · rw [compare_gt_iff_gt.mpr h, compare_gt_iff_gt.mpr (hlt right left h)]

theorem Level.bot_lt (number : ℚ) : ⊥ < ofNumber number := WithBot.bot_lt_coe _

theorem Level.lt_top (number : ℚ) : ofNumber number < ⊤ :=
  WithBot.coe_lt_coe.mpr (WithTop.coe_lt_top number)

/-- The parts of a float stand at a level. -/
inductive Stands : UnpackedFloat → Level → Prop
  | number {parts : UnpackedFloat} {number : ℚ} (h : Denotes parts number) :
      Stands parts (.ofNumber number)
  | positive : Stands (.infinity .positive) ⊤
  | negative : Stands (.infinity .negative) ⊥

/-- Parts compare as the levels at which they stand. -/
theorem Stands.compare_eq {first second : UnpackedFloat} {low high : Level}
    (hfirst : Stands first low) (hsecond : Stands second high) :
    first.compare second = some (compare low high) := by
  have hends : (⊥ : Level) < ⊤ := bot_lt_top
  cases hfirst with
  | number hlow =>
    cases hsecond with
    | number hhigh => rw [Level.compare_ofNumber, hlow.compare_eq hhigh]
    | positive =>
      rw [compare_lt_iff_lt.mpr (Level.lt_top _)]
      cases hlow with
      | zero sign => rfl
      | finite sign => cases sign <;> rfl
    | negative =>
      rw [compare_gt_iff_gt.mpr (Level.bot_lt _)]
      cases hlow with
      | zero sign => rfl
      | finite sign => cases sign <;> rfl
  | positive =>
    cases hsecond with
    | number hhigh =>
      rw [compare_gt_iff_gt.mpr (Level.lt_top _)]
      cases hhigh <;> rfl
    | positive => rw [compare_eq_iff_eq.mpr rfl]; rfl
    | negative => rw [compare_gt_iff_gt.mpr hends]; rfl
  | negative =>
    cases hsecond with
    | number hhigh =>
      rw [compare_lt_iff_lt.mpr (Level.bot_lt _)]
      cases hhigh <;> rfl
    | positive => rw [compare_lt_iff_lt.mpr hends]; rfl
    | negative => rw [compare_eq_iff_eq.mpr rfl]; rfl

theorem compare_notANumber (parts : UnpackedFloat) :
    parts.compare .notANumber = none := by
  cases parts <;> rfl

/-! ## Floats -/

/-- A float stands at a level. -/
def HasLevel (value : Float) (level : Level) : Prop := Stands value.toModel.unpack level

section

variable {value other : Float}

theorem exists_hasLevel (h : value.isNaN = false) : ∃ level, HasLevel value level := by
  change value.toModel.unpack.isNaN = false at h
  have hbits : ofUnpacked value.toModel.unpack = ofFloat value := ofUnpacked_unpack _
  cases hparts : value.toModel.unpack with
  | notANumber => rw [hparts] at h; cases h
  | infinity sign =>
    cases sign with
    | positive => exact ⟨⊤, by rw [HasLevel, hparts]; exact .positive⟩
    | negative => exact ⟨⊥, by rw [HasLevel, hparts]; exact .negative⟩
  | zero sign => exact ⟨.ofNumber 0, by rw [HasLevel, hparts]; exact .number (.zero sign)⟩
  | finite sign significand exponent hpos =>
    have hnumber : IsNumber value (signed sign significand exponent) := by
      rw [IsNumber, ← hbits, hparts]
      exact number?_finite sign significand exponent
    exact ⟨_, .number (isNumber_iff.mp hnumber)⟩

theorem unpack_of_isNaN (h : value.isNaN = true) : value.toModel.unpack = .notANumber := by
  change value.toModel.unpack.isNaN = true at h
  cases hparts : value.toModel.unpack with
  | notANumber => rfl
  | infinity sign => rw [hparts] at h; cases h
  | zero sign => rw [hparts] at h; cases h
  | finite sign significand exponent hpos => rw [hparts] at h; cases h

theorem not_lt_of_isNaN_left (h : value.isNaN = true) : ¬ value < other := by
  change ¬ decide (value.toModel.unpack.lt other.toModel.unpack = true) = true
  simp [unpack_of_isNaN h, UnpackedFloat.lt, UnpackedFloat.compare]

theorem not_lt_of_isNaN_right (h : value.isNaN = true) : ¬ other < value := by
  change ¬ decide (other.toModel.unpack.lt value.toModel.unpack = true) = true
  simp [unpack_of_isNaN h, UnpackedFloat.lt, compare_notANumber]

namespace HasLevel

variable {low high : Level}

theorem lt_iff (h : HasLevel value low) (h' : HasLevel other high) : value < other ↔ low < high :=
  (lt_iff_of_compare (Stands.compare_eq h h')).trans compare_lt_iff_lt

theorem le_iff (h : HasLevel value low) (h' : HasLevel other high) : value ≤ other ↔ low ≤ high :=
  (le_iff_of_compare (Stands.compare_eq h h')).trans compare_le_iff_le

end HasLevel

theorem isNaN_eq_false_of_lt (h : value < other) :
    value.isNaN = false ∧ other.isNaN = false := by
  constructor
  · exact Bool.eq_false_iff.mpr fun hnan => not_lt_of_isNaN_left hnan h
  · exact Bool.eq_false_iff.mpr fun hnan => not_lt_of_isNaN_right hnan h

theorem le_of_not_lt (hvalue : value.isNaN = false) (hother : other.isNaN = false)
    (h : ¬ other < value) : value ≤ other := by
  obtain ⟨low, hlow⟩ := exists_hasLevel hvalue
  obtain ⟨high, hhigh⟩ := exists_hasLevel hother
  rw [hhigh.lt_iff hlow, not_lt] at h
  exact (hlow.le_iff hhigh).mpr h

end

end Binary

end StreamPlot
