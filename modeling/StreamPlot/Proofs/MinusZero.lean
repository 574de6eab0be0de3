import StreamPlot.Proofs.Axis

/-!
# Labels with a needless minus

The window reaches below zero only where the least word is 0 or 1. From 0 it goes down to -1, which
every label shows as it is. From 1 it goes down by a hundredth, and a wide axis has no decimals to
show that: its low end is labelled as a zero with a minus. The middle and the high end are never
negative. So the needless minus appears under a least word of 1 on an axis wide enough, and nowhere
else.
-/

namespace StreamPlot

open Binary Decimal

/-! ## Signs of labels -/

/-- A text that begins with a minus and says zero. -/
def MinusZero (text : String) : Prop :=
  text.toList.head? = some '-' ∧ (read? text).map Reading.number = some 0

instance (text : String) : Decidable (MinusZero text) :=
  inferInstanceAs (Decidable (_ ∧ _))

namespace MinusZero

theorem not_of_digit {text : String}
    (h : ∃ first rest, text.toList = first :: rest ∧ first.isDigit = true) : ¬ MinusZero text := by
  obtain ⟨first, rest, htext, hdigit⟩ := h
  rintro ⟨hminus, -⟩
  rw [htext, List.head?_cons, Option.some.injEq] at hminus
  rw [hminus] at hdigit
  cases hdigit

theorem not_of_read {text : String} {reading : Reading} (h : read? text = some reading)
    (hnumber : reading.number ≠ 0) : ¬ MinusZero text := by
  rintro ⟨-, hzero⟩
  rw [h, Option.map_some, Option.some.injEq] at hzero
  exact hnumber hzero

end MinusZero

section

variable {value length : Float} {number size : ℚ}

/-- A label of a positive number begins with a digit. -/
theorem exists_digit_tickText (h : IsNumber value number) (hpos : 0 < number) (length : Float) :
    ∃ first rest, (tickText value length).toList = first :: rest ∧ first.isDigit = true := by
  obtain ⟨negative, significand, exponent, hparts, hnumber⟩ := h.exists_finite
  have hmagnitude : (0 : ℚ) ≤ significand * 2 ^ exponent := by positivity
  cases negative with
  | true =>
    rw [if_pos rfl] at hnumber
    linarith
  | false =>
    have hsignificand : 0 < significand := by
      apply Nat.pos_of_ne_zero
      rintro rfl
      simp [hnumber] at hpos
    unfold tickText
    split_ifs
    · rw [fixed_of_finite hparts]
      exact exists_digit_withPoint _ _ _
    · rw [scientific_of_finite hparts hsignificand]
      exact exists_digit_withPoint _ _ _
    · rw [fixed_of_finite hparts]
      exact exists_digit_withPoint _ _ _

theorem not_minusZero_of_pos (h : IsNumber value number) (hpos : 0 < number) :
    ¬ MinusZero (tickText value length) :=
  MinusZero.not_of_digit (exists_digit_tickText h hpos length)

/-- A value that is further from zero than its label may be off is not shown as zero. -/
theorem not_minusZero_of_far (hvalue : IsNumber value number) (hlength : IsNumber length size)
    (hrange : InRange number) (hfar : tolerance size number < |number|) :
    ¬ MinusZero (tickText value length) := by
  obtain ⟨reading, hread, -, hoff⟩ := read?_tickText hvalue hlength hrange
  refine MinusZero.not_of_read hread ?_
  intro hzero
  rw [hzero, zero_sub, abs_neg] at hoff
  linarith

end

/-! ## The low end -/

theorem lowerEnd_zero : lowerEnd 0 = -1 := by
  have hle := lowerEnd_le 0
  norm_num at hle
  exact le_antisymm hle (neg_one_le_lowerEnd 0)

theorem abs_lowerEnd_one_add_le : |lowerEnd 1 + 1 / 100| ≤ 1 / 1000 := by
  have hlower := abs_le.mp (abs_lowerEnd_sub_le 1)
  rw [show UInt32.toNat 1 = 1 from rfl] at hlower
  norm_num [slack, lowerFactor] at hlower
  rw [abs_le]
  constructor <;> linarith

theorem lowerEnd_pos {word : UInt32} (h : 2 ≤ word) : 0 < lowerEnd word := by
  have hlower := (abs_le.mp (abs_lowerEnd_sub_le 2)).1
  rw [show UInt32.toNat 2 = 2 from rfl] at hlower
  norm_num [slack, lowerFactor] at hlower
  have hmono := lowerEnd_mono h
  linarith

theorem inRange_lowerEnd (word : UInt32) : InRange (lowerEnd word) := by
  have hlow := neg_one_le_lowerEnd word
  have hle := lowerEnd_le word
  have hword : (word.toNat : ℚ) < 2 ^ 32 := by exact_mod_cast word.toNat_lt
  exact inRange_of_abs_lt (abs_lt.mpr ⟨by linarith, by linarith⟩)

/-- On a wide axis a least word of 1 has no decimals that tell its low end from zero. -/
theorem tickText_one_of_wide {length : Float} (h : ¬ length < 10.0) :
    tickText (padLower (UInt32.toFloat 1)) length = "-0" := by
  have hsmall : ¬ (padLower (UInt32.toFloat 1)).abs ≥ 10000000.0 := by decide +kernel
  rw [tickText, if_neg h, if_neg hsmall]
  decide +kernel

section

variable {least greatest : UInt32}

/-- The length of the axis under which the labels of a window are made. -/
def axisLength (least greatest : UInt32) : Float :=
  padUpper greatest.toFloat - padLower least.toFloat

theorem isNumber_axisLength (h : least ≤ greatest) :
    IsNumber (axisLength least greatest) (nearest (upperEnd greatest - lowerEnd least)) :=
  (isNumber_padUpper greatest).sub (isNumber_padLower least)
    (inRange_of_abs_lt (roomy_padded h).abs_length_lt)

/-- Above a least word of 1, an axis is wide from a greatest word of 9 on. -/
theorem axisLength_lt_ten_iff (h : 1 ≤ greatest) :
    axisLength 1 greatest < 10.0 ↔ greatest < 9 := by
  rw [(isNumber_axisLength h).lt_iff isNumber_ten]
  have hlower := abs_le.mp abs_lowerEnd_one_add_le
  have hround := abs_le.mp (roomy_padded h).abs_length_sub_le
  constructor
  · intro hlength
    by_contra hge
    have hmono := upperEnd_mono (UInt32.not_lt.mp hge)
    have hupper := (abs_le.mp (abs_upperEnd_sub_le 9)).1
    rw [show UInt32.toNat 9 = 9 from rfl] at hupper
    norm_num [slack, upperFactor] at hupper hround
    linarith
  · intro hlt
    have hle : greatest ≤ 8 := by
      rw [UInt32.le_iff_toNat_le]
      exact Nat.lt_succ_iff.mp (UInt32.lt_iff_toNat_lt.mp hlt)
    have hmono := upperEnd_mono hle
    have hupper := (abs_le.mp (abs_upperEnd_sub_le 8)).2
    rw [show UInt32.toNat 8 = 8 from rfl] at hupper
    norm_num [slack, upperFactor] at hupper hround
    linarith

/-- The low end is shown as zero with a minus exactly on a wide axis above a least word of 1. -/
theorem minusZero_low_iff (h : least ≤ greatest) :
    MinusZero (tickText (padLower least.toFloat) (axisLength least greatest)) ↔
      least = 1 ∧ 9 ≤ greatest := by
  have hlow := isNumber_padLower least
  have hlength := isNumber_axisLength h
  have hrange := inRange_lowerEnd least
  have hcases : least = 0 ∨ least = 1 ∨ 2 ≤ least := by
    rw [← UInt32.toNat_inj, ← UInt32.toNat_inj, UInt32.le_iff_toNat_le]
    change least.toNat = 0 ∨ least.toNat = 1 ∨ 2 ≤ least.toNat
    omega
  rcases hcases with rfl | rfl | hpos
  · refine iff_of_false (not_minusZero_of_far hlow hlength hrange ?_) (by simp)
    rw [lowerEnd_zero, tolerance]
    split_ifs <;> norm_num
  · by_cases hwide : 9 ≤ greatest
    · have hlong := mt (axisLength_lt_ten_iff h).mp (UInt32.not_lt.mpr hwide)
      rw [tickText_one_of_wide hlong]
      exact iff_of_true (by decide +kernel) ⟨rfl, hwide⟩
    · have hshort := (axisLength_lt_ten_iff h).mpr (UInt32.not_le.mp hwide)
      have hten := (hlength.lt_iff isNumber_ten).mp hshort
      refine iff_of_false (not_minusZero_of_far hlow hlength hrange ?_) (by simp [hwide])
      have hnear := abs_le.mp abs_lowerEnd_one_add_le
      rw [tolerance, if_pos hten, abs_of_neg (by linarith)]
      linarith
  · refine iff_of_false (not_minusZero_of_pos hlow (lowerEnd_pos hpos)) ?_
    rintro ⟨rfl, -⟩
    exact absurd hpos (by decide)

/-! ## The other labels -/

/-- The middle of a window is above zero, or at it if no word is. -/
theorem not_minusZero_middle (h : least ≤ greatest) :
    ¬ MinusZero (tickText (padLower least.toFloat + axisLength least greatest / 2.0)
      (axisLength least greatest)) := by
  have hroomy := roomy_padded h
  by_cases hzero : greatest = 0
  · subst hzero
    obtain rfl : least = 0 := UInt32.le_antisymm h UInt32.zero_le
    decide +kernel
  · have hmiddle := @Span.isNumber_middle ⟨padLower least.toFloat, padUpper greatest.toFloat⟩ _ _
      hroomy (isNumber_padLower least) (isNumber_padUpper greatest)
    refine not_minusZero_of_pos hmiddle ?_
    have hpos : 0 < greatest.toNat := Nat.pos_of_ne_zero fun h => hzero (UInt32.toNat_inj.mp h)
    have hone : (1 : ℚ) ≤ greatest.toNat := by exact_mod_cast hpos
    have hlow := neg_one_le_lowerEnd least
    have hhigh := le_upperEnd greatest
    have hoff := abs_le.mp hroomy.abs_middle_sub_le
    unfold slack at hoff
    linarith

theorem not_minusZero_high (least greatest : UInt32) :
    ¬ MinusZero (tickText (padUpper greatest.toFloat) (axisLength least greatest)) := by
  have hhigh := le_upperEnd greatest
  have hword : (0 : ℚ) ≤ greatest.toNat := Nat.cast_nonneg _
  exact not_minusZero_of_pos (isNumber_padUpper greatest) (by linarith)

end

/-! ## Axes -/

/-- Words that begin at 1 and go up to 9 at least. -/
def BeginAtOne (words : List UInt32) : Prop :=
  1 ∈ words ∧ (∀ word ∈ words, 1 ≤ word) ∧ ∃ word ∈ words, 9 ≤ word

theorem beginAtOne_iff {words : List UInt32} {least greatest : UInt32} (hleast : least ∈ words)
    (hgreatest : greatest ∈ words)
    (hbetween : ∀ word ∈ words, least ≤ word ∧ word ≤ greatest) :
    BeginAtOne words ↔ least = 1 ∧ 9 ≤ greatest := by
  constructor
  · rintro ⟨hone, hlower, word, hword, hnine⟩
    exact ⟨UInt32.le_antisymm (hbetween 1 hone).1 (hlower least hleast),
      UInt32.le_trans hnine (hbetween word hword).2⟩
  · rintro ⟨rfl, hnine⟩
    exact ⟨hleast, fun word hword => (hbetween word hword).1, greatest, hgreatest, hnine⟩

theorem axisLabels_padded (least greatest : UInt32) :
    axisLabels (Span.padded ⟨least.toFloat, greatest.toFloat⟩) =
      [tickText (padLower least.toFloat) (axisLength least greatest),
        tickText (padLower least.toFloat + axisLength least greatest / 2.0)
          (axisLength least greatest),
        tickText (padUpper greatest.toFloat) (axisLength least greatest)] := rfl

namespace Span

/-- Some label of an axis is a zero with a minus. -/
def ShowsMinusZero (span : Span) : Prop := ∃ label ∈ axisLabels span, MinusZero label

instance (span : Span) : Decidable span.ShowsMinusZero :=
  inferInstanceAs (Decidable (∃ label ∈ _, _))

theorem not_showsMinusZero_unit : ¬ unit.ShowsMinusZero := by
  decide +kernel

variable {span : Span} {words : List UInt32}

/-- Only the low end can be shown as a zero with a minus. -/
theorem showsMinusZero_padded_iff (h : extremes words = some span) :
    span.padded.ShowsMinusZero ↔ BeginAtOne words := by
  obtain ⟨least, hleast, greatest, hgreatest, rfl, hbetween⟩ := exists_of_extremes h
  have hle := (hbetween least hleast).2
  rw [beginAtOne_iff hleast hgreatest hbetween, ← minusZero_low_iff hle, ShowsMinusZero,
    axisLabels_padded]
  simp only [List.mem_cons, List.not_mem_nil, or_false, exists_eq_or_imp, exists_eq_left,
    not_minusZero_middle hle, not_minusZero_high]

theorem eq_of_minusZero_padded (h : extremes words = some span) {label : String}
    (hlabel : label ∈ axisLabels span.padded) (hminus : MinusZero label) : label = "-0" := by
  obtain ⟨least, hleast, greatest, -, rfl, hbetween⟩ := exists_of_extremes h
  have hle := (hbetween least hleast).2
  rw [axisLabels_padded] at hlabel
  simp only [List.mem_cons, List.not_mem_nil, or_false] at hlabel
  rcases hlabel with rfl | rfl | rfl
  · obtain ⟨rfl, hwide⟩ := (minusZero_low_iff hle).mp hminus
    exact tickText_one_of_wide (mt (axisLength_lt_ten_iff hle).mp (UInt32.not_lt.mpr hwide))
  · exact absurd hminus (not_minusZero_middle hle)
  · exact absurd hminus (not_minusZero_high least greatest)

end Span

/-- An axis shows a zero with a minus exactly if the least of its words is 1 and the greatest is at
least 9; then its low end is labelled "-0", and no other label has a needless minus. -/
theorem minus_zero_shows_least_word_one (samples : List Sample) :
    let window := (Plot.ofList samples).window
    (window.x.ShowsMinusZero ↔ BeginAtOne (samples.map Sample.x)) ∧
      (window.y.ShowsMinusZero ↔ BeginAtOne (samples.map Sample.y)) ∧
      ∀ label ∈ axisLabels window.x ++ axisLabels window.y, MinusZero label → label = "-0" := by
  intro window
  rcases eq_or_ne samples [] with rfl | hsamples
  · have hnone : ∀ label ∈ axisLabels Span.unit, ¬ MinusZero label := by
      intro label hlabel hminus
      exact Span.not_showsMinusZero_unit ⟨label, hlabel, hminus⟩
    refine ⟨iff_of_false Span.not_showsMinusZero_unit (by simp [BeginAtOne]),
      iff_of_false Span.not_showsMinusZero_unit (by simp [BeginAtOne]), ?_⟩
    intro label hlabel hminus
    exact absurd hminus (hnone label ((List.mem_append.mp hlabel).elim id id))
  · obtain ⟨x, y, hx, hy, hwindow⟩ := (Plot.reflects_ofList samples).exists_window hsamples
    have hwindow' : window = ⟨x.padded, y.padded⟩ := hwindow
    rw [hwindow']
    refine ⟨Span.showsMinusZero_padded_iff hx, Span.showsMinusZero_padded_iff hy, ?_⟩
    intro label hlabel hminus
    rcases List.mem_append.mp hlabel with hlabel | hlabel
    · exact Span.eq_of_minusZero_padded hx hlabel hminus
    · exact Span.eq_of_minusZero_padded hy hlabel hminus

/-- Words from 1 to 100 are shown on axes that begin at "-0". -/
theorem axes_from_one_to_hundred :
    let window := (Plot.ofList [⟨1, 1⟩, ⟨100, 100⟩]).window
    axisLabels window.x = ["-0", "51", "102"] ∧ MinusZero "-0" ∧ window.x.ShowsMinusZero := by
  decide +kernel

end StreamPlot
