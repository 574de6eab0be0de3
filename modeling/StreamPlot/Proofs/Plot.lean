import StreamPlot.Plot
import StreamPlot.Proofs.Window

/-!
# What a plot shows

A plot keeps its points, the extremes of their coordinates and the last sample apart from
one another. After every sample they agree: the points are those of all samples so far, and
the extremes are the least and the greatest word of each axis among them. The window follows
from the extremes. Every point lies inside it by a margin of at least 1, and one more sample
can only make it wider.
-/

namespace StreamPlot

open Binary

/-! ## Extremes -/

/-- The interval from the least to the greatest of some words. -/
def extremes (words : List UInt32) : Option Span := do
  let least ← words.min?
  let greatest ← words.max?
  return ⟨least.toFloat, greatest.toFloat⟩

/-- The window around words of either axis. -/
def windowAround (xs ys : List UInt32) : Window :=
  match extremes xs, extremes ys with
  | some x, some y => ⟨x.padded, y.padded⟩
  | _, _ => .initial

theorem min_eq_ite (first second : UInt32) :
    min first second = if first ≤ second then first else second := rfl

theorem max_eq_ite (first second : UInt32) :
    max first second = if first ≤ second then second else first := rfl

theorem lawfulOrderMax : Std.LawfulOrderMax UInt32 := by
  refine .of_max_le_iff ?_ ?_
  · intro first second bound
    rw [max_eq_ite]
    split_ifs with hle
    · exact ⟨fun hsecond => ⟨UInt32.le_trans hle hsecond, hsecond⟩, And.right⟩
    · have hlt := UInt32.not_le.mp hle
      exact ⟨fun hfirst => ⟨hfirst, UInt32.le_trans (UInt32.le_of_lt hlt) hfirst⟩, And.left⟩
  · intro first second
    rw [max_eq_ite]
    split_ifs
    · exact .inr rfl
    · exact .inl rfl

/-- Comparing floats finds the same extremes as comparing words. -/
theorem widen_words (least greatest word : UInt32) :
    Span.widen ⟨least.toFloat, greatest.toFloat⟩ word.toFloat =
      ⟨(min least word).toFloat, (max greatest word).toFloat⟩ := by
  have hlower : (if word < least then word else least) = min least word := by
    simp only [min_eq_ite, ← UInt32.not_le, ite_not]
  have hupper : (if greatest < word then word else greatest) = max greatest word := by
    rw [max_eq_ite]
    -- for two equal words the two sides choose differently
    split_ifs with hlt hle hle
    · rfl
    · exact absurd (UInt32.le_of_lt hlt) hle
    · exact UInt32.le_antisymm hle (UInt32.not_lt.mp hlt)
    · rfl
  simp only [Span.widen, gt_iff_lt, toFloat_lt_toFloat_iff, ← hlower, ← hupper,
    apply_ite UInt32.toFloat]

theorem extremes_cons (first : UInt32) (rest : List UInt32) :
    extremes (first :: rest) =
      some ⟨(rest.foldl min first).toFloat, (rest.foldl max first).toFloat⟩ := by
  rw [extremes, List.min?_cons', List.max?_cons']
  rfl

theorem extremes_concat (words : List UInt32) (word : UInt32) :
    extremes (words ++ [word]) =
      some ((extremes words).elim (.single word.toFloat) (·.widen word.toFloat)) := by
  cases words with
  | nil => rfl
  | cons first rest =>
      rw [List.cons_append, extremes_cons, extremes_cons, List.foldl_append, List.foldl_append,
        Option.elim_some, widen_words]
      rfl

theorem extremes_eq_none_iff (words : List UInt32) : extremes words = none ↔ words = [] := by
  cases words with
  | nil => exact ⟨fun _ => rfl, fun _ => rfl⟩
  | cons first rest => simp [extremes_cons]

/-- The extremes are the least and the greatest of the words. -/
theorem exists_of_extremes {words : List UInt32} {span : Span} (h : extremes words = some span) :
    ∃ least ∈ words, ∃ greatest ∈ words, span = ⟨least.toFloat, greatest.toFloat⟩ ∧
      ∀ word ∈ words, least ≤ word ∧ word ≤ greatest := by
  cases hleast : words.min? with
  | none => simp [extremes, hleast] at h
  | some least =>
      cases hgreatest : words.max? with
      | none => simp [extremes, hleast, hgreatest] at h
      | some greatest =>
          simp only [extremes, hleast, hgreatest] at h
          obtain ⟨hmem, hlower⟩ := List.min?_eq_some_iff.mp hleast
          have hlawful := lawfulOrderMax
          obtain ⟨hmem', hupper⟩ := List.max?_eq_some_iff.mp hgreatest
          refine ⟨least, hmem, greatest, hmem', (Option.some.inj h).symm, ?_⟩
          exact fun word hword => ⟨hlower word hword, hupper word hword⟩

/-! ## Runs -/

theorem Bounds.x?_observe (bounds : Bounds) (point : Point) :
    (bounds.observe point).x? = some (bounds.x?.elim (.single point.x) (·.widen point.x)) := by
  cases bounds <;> rfl

theorem Bounds.y?_observe (bounds : Bounds) (point : Point) :
    (bounds.observe point).y? = some (bounds.y?.elim (.single point.y) (·.widen point.y)) := by
  cases bounds <;> rfl

namespace Plot

/-- Add samples one after the other. The second result is what each of them has changed. -/
def updateAll (plot : Plot) : List Sample → Plot × List PlotUpdate
  | [] => (plot, [])
  | sample :: samples =>
      let (updated, update) := plot.update sample
      let (last, updates) := updated.updateAll samples
      (last, update :: updates)

/-- The parts of a plot agree on the samples that have been seen. -/
structure Reflects (plot : Plot) (samples : List Sample) : Prop where
  points : plot.series.toList = samples.map Sample.point
  latest : plot.latest? = samples.getLast?
  x : plot.bounds.x? = extremes (samples.map Sample.x)
  y : plot.bounds.y? = extremes (samples.map Sample.y)

theorem reflects_empty : empty.Reflects [] where
  points := rfl
  latest := rfl
  x := rfl
  y := rfl

namespace Reflects

variable {plot : Plot} {samples : List Sample}

theorem push (h : plot.Reflects samples) (sample : Sample) :
    (plot.push sample).Reflects (samples ++ [sample]) where
  points := by
    rw [Plot.push, Series.toList_push, h.points, List.map_append]
    rfl
  latest := List.getLast?_concat.symm
  x := by
    rw [Plot.push, Bounds.x?_observe, h.x, List.map_append, List.map_singleton, extremes_concat]
    rfl
  y := by
    rw [Plot.push, Bounds.y?_observe, h.y, List.map_append, List.map_singleton, extremes_concat]
    rfl

theorem updateAll (h : plot.Reflects samples) (more : List Sample) :
    (plot.updateAll more).1.Reflects (samples ++ more) := by
  induction more generalizing plot samples with
  | nil => rwa [List.append_nil]
  | cons sample more ih =>
      rw [← List.singleton_append, ← List.append_assoc]
      exact ih (h.push sample)

end Reflects

theorem updateAll_fst (plot : Plot) (samples : List Sample) :
    (plot.updateAll samples).1 = plot.pushAll samples := by
  induction samples generalizing plot with
  | nil => rfl
  | cons sample samples ih => exact ih (plot.push sample)

theorem reflects_ofList (samples : List Sample) : (ofList samples).Reflects samples := by
  have hrun := reflects_empty.updateAll samples
  rwa [updateAll_fst, List.nil_append] at hrun

theorem length_updates (plot : Plot) (samples : List Sample) :
    (plot.updateAll samples).2.length = samples.length := by
  induction samples generalizing plot with
  | nil => rfl
  | cons sample samples ih => exact congrArg (· + 1) (ih (plot.push sample))

/-- What a sample has changed is what the plot of the samples up to it shows. -/
theorem getElem?_updates (plot : Plot) (samples : List Sample) {index : Nat}
    (h : index < samples.length) :
    (plot.updateAll samples).2[index]? =
      some ⟨(plot.updateAll (samples.take (index + 1))).1.series,
        (plot.updateAll (samples.take (index + 1))).1.window⟩ := by
  induction samples generalizing plot index with
  | nil => exact absurd h (Nat.not_lt_zero index)
  | cons sample samples ih =>
      cases index with
      | zero => rfl
      | succ index => exact ih (plot.push sample) (Nat.lt_of_succ_lt_succ h)

theorem Reflects.window_eq {plot : Plot} {samples : List Sample} (h : plot.Reflects samples) :
    plot.window = windowAround (samples.map Sample.x) (samples.map Sample.y) := by
  rw [windowAround, ← h.x, ← h.y, Plot.window]
  cases plot.bounds <;> rfl

end Plot

/-! ## The margin -/

namespace Span

/-- The ends of an interval are numbers, and every word is at least 1 away from both. -/
def Surrounds (span : Span) (words : List UInt32) : Prop :=
  ∃ lo hi : ℚ, IsNumber span.lo lo ∧ IsNumber span.hi hi ∧ 2 ≤ hi - lo ∧
    ∀ word ∈ words, lo ≤ word.toNat - 1 ∧ word.toNat + 1 ≤ hi

/-- One interval reaches on both sides at least as far as another. -/
def Within (inner outer : Span) : Prop := outer.lo ≤ inner.lo ∧ inner.hi ≤ outer.hi

variable {span wider : Span} {words more : List UInt32}

theorem surrounds_padded (h : extremes words = some span) : span.padded.Surrounds words := by
  obtain ⟨least, hleast, greatest, -, rfl, hbetween⟩ := exists_of_extremes h
  have hmargin : ∀ word ∈ words,
      lowerEnd least ≤ word.toNat - 1 ∧ word.toNat + 1 ≤ upperEnd greatest := by
    intro word hword
    obtain ⟨hlower, hupper⟩ := hbetween word hword
    exact ⟨(lowerEnd_mono hlower).trans (lowerEnd_le word),
      (le_upperEnd word).trans (upperEnd_mono hupper)⟩
  refine ⟨_, _, isNumber_padLower least, isNumber_padUpper greatest, ?_, hmargin⟩
  obtain ⟨hlower, hupper⟩ := hmargin least hleast
  linarith

theorem Surrounds.strict (h : span.Surrounds words) {word : UInt32} (hword : word ∈ words) :
    span.lo < word.toFloat ∧ word.toFloat < span.hi := by
  obtain ⟨lo, hi, hlo, hhi, -, hmargin⟩ := h
  obtain ⟨hlower, hupper⟩ := hmargin word hword
  rw [hlo.lt_iff (isNumber_toFloat word), (isNumber_toFloat word).lt_iff hhi]
  exact ⟨by linarith, by linarith⟩

theorem padded_within (h : extremes words = some span)
    (hwider : extremes (words ++ more) = some wider) : span.padded.Within wider.padded := by
  obtain ⟨least, hleast, greatest, hgreatest, rfl, -⟩ := exists_of_extremes h
  obtain ⟨least', -, greatest', -, rfl, hbetween⟩ := exists_of_extremes hwider
  have hlower := (hbetween least (List.mem_append_left more hleast)).1
  have hupper := (hbetween greatest (List.mem_append_left more hgreatest)).2
  constructor
  · exact ((isNumber_padLower least').le_iff (isNumber_padLower least)).mpr (lowerEnd_mono hlower)
  · exact ((isNumber_padUpper greatest).le_iff (isNumber_padUpper greatest')).mpr
      (upperEnd_mono hupper)

theorem not_surrounds_unit (words : List UInt32) : ¬ unit.Surrounds words := by
  rintro ⟨lo, hi, hlo, hhi, hwidth, -⟩
  have hzero : IsNumber unit.lo 0 := isNumber_zero
  have hone : IsNumber unit.hi 1 := isNumber_margin
  rw [hlo.unique hzero, hhi.unique hone] at hwidth
  norm_num at hwidth

end Span

namespace Plot

namespace Reflects

variable {plot : Plot} {samples : List Sample}

theorem size_eq (h : plot.Reflects samples) : plot.size = samples.length := by
  rw [size, Series.size_eq_length, h.points, List.length_map]

theorem isEmpty_iff (h : plot.Reflects samples) : plot.isEmpty = true ↔ samples = [] := by
  rw [isEmpty, Series.isEmpty, ← Array.isEmpty_toList]
  change plot.series.toList.isEmpty = true ↔ _
  rw [h.points, List.isEmpty_iff, List.map_eq_nil_iff]

theorem exists_box (h : plot.Reflects samples) (hsamples : samples ≠ []) :
    ∃ x y, extremes (samples.map Sample.x) = some x ∧ extremes (samples.map Sample.y) = some y ∧
      plot.bounds = .box x y := by
  have hx := h.x
  have hy := h.y
  cases hbounds : plot.bounds with
  | empty =>
      rw [hbounds] at hx
      exact absurd (List.map_eq_nil_iff.mp ((extremes_eq_none_iff _).mp hx.symm)) hsamples
  | box x y =>
      rw [hbounds] at hx hy
      exact ⟨x, y, hx.symm, hy.symm, rfl⟩

theorem exists_window (h : plot.Reflects samples) (hsamples : samples ≠ []) :
    ∃ x y, extremes (samples.map Sample.x) = some x ∧ extremes (samples.map Sample.y) = some y ∧
      plot.window = ⟨x.padded, y.padded⟩ := by
  obtain ⟨x, y, hx, hy, hbounds⟩ := h.exists_box hsamples
  refine ⟨x, y, hx, hy, ?_⟩
  rw [window, hbounds]
  rfl

theorem window_eq_initial_iff (h : plot.Reflects samples) :
    plot.window = .initial ↔ samples = [] := by
  constructor
  · intro hinitial
    by_contra hsamples
    obtain ⟨x, y, hx, -, hwindow⟩ := h.exists_window hsamples
    have hsurrounds := Span.surrounds_padded hx
    have hunit : x.padded = .unit := congrArg Window.x (hwindow.symm.trans hinitial)
    rw [hunit] at hsurrounds
    exact Span.not_surrounds_unit _ hsurrounds
  · rintro rfl
    exact h.window_eq

end Reflects

/-- After every run, the parts of a plot agree with one another and with the samples, and so
does all that has been told on the way. -/
theorem parts_agree (samples : List Sample) :
    let plot := (empty.updateAll samples).1
    let updates := (empty.updateAll samples).2
    plot.series.toList = samples.map Sample.point ∧
      plot.size = samples.length ∧
      plot.series.xs.length = samples.length ∧
      plot.series.ys.length = samples.length ∧
      plot.latest? = samples.getLast? ∧
      (plot.latest? = none ↔ samples = []) ∧
      (plot.isEmpty = true ↔ samples = []) ∧
      (plot.bounds.isEmpty = true ↔ samples = []) ∧
      plot.bounds.x? = extremes (samples.map Sample.x) ∧
      plot.bounds.y? = extremes (samples.map Sample.y) ∧
      (plot.bounds.x? = none ↔ samples = []) ∧
      (plot.bounds.y? = none ↔ samples = []) ∧
      plot.window = windowAround (samples.map Sample.x) (samples.map Sample.y) ∧
      (plot.window = .initial ↔ samples = []) ∧
      updates.length = samples.length ∧
      ∀ index : Fin samples.length, ∃ update, updates[index.val]? = some update ∧
        update.series.toList = (samples.take (index + 1)).map Sample.point ∧
        update.series.size = index + 1 ∧
        update.window = (empty.updateAll (samples.take (index + 1))).1.window := by
  intro plot updates
  have hreflects (samples : List Sample) : (empty.updateAll samples).1.Reflects samples :=
    reflects_empty.updateAll samples
  have hplot : plot.Reflects samples := hreflects samples
  have hx : plot.bounds.x? = none ↔ samples = [] := by
    rw [hplot.x, extremes_eq_none_iff, List.map_eq_nil_iff]
  have hy : plot.bounds.y? = none ↔ samples = [] := by
    rw [hplot.y, extremes_eq_none_iff, List.map_eq_nil_iff]
  have hbounds : plot.bounds.isEmpty = true ↔ plot.bounds.x? = none := by
    cases plot.bounds with
    | empty => exact ⟨fun _ => rfl, fun _ => rfl⟩
    | box x y => exact ⟨nofun, nofun⟩
  have hempty : plot.isEmpty = true ↔ samples = [] := by
    rw [isEmpty, Series.isEmpty, ← Array.isEmpty_toList]
    change plot.series.toList.isEmpty = true ↔ _
    rw [hplot.points, List.isEmpty_iff, List.map_eq_nil_iff]
  refine ⟨hplot.points, ?_, ?_, ?_, hplot.latest, ?_, hempty, hbounds.trans hx, hplot.x, hplot.y,
    hx, hy, hplot.window_eq, hplot.window_eq_initial_iff, length_updates empty samples, ?_⟩
  · rw [size, Series.size_eq_length, hplot.points, List.length_map]
  · rw [Series.xs, List.length_map, hplot.points, List.length_map]
  · rw [Series.ys, List.length_map, hplot.points, List.length_map]
  · rw [hplot.latest, List.getLast?_eq_none_iff]
  · intro index
    have hseen := hreflects (samples.take (index + 1))
    refine ⟨_, getElem?_updates empty samples index.isLt, hseen.points, ?_, rfl⟩
    rw [Series.size_eq_length, hseen.points, List.length_map, List.length_take]
    omega

/-- No point is ever cut off, and the window never shrinks: each point lies inside by a margin
of at least 1, and one more sample only moves the ends outwards. -/
theorem window_surrounds_points (first : Sample) (rest : List Sample) :
    let samples := first :: rest
    let plot := ofList samples
    plot.window.x.Surrounds (samples.map Sample.x) ∧
      plot.window.y.Surrounds (samples.map Sample.y) ∧
      (∀ sample ∈ samples,
        (plot.window.x.lo < sample.point.x ∧ sample.point.x < plot.window.x.hi) ∧
          plot.window.y.lo < sample.point.y ∧ sample.point.y < plot.window.y.hi) ∧
      ∀ next, plot.window.x.Within (plot.push next).window.x ∧
        plot.window.y.Within (plot.push next).window.y := by
  intro samples plot
  have hplot : plot.Reflects samples := reflects_ofList samples
  obtain ⟨x, y, hx, hy, hwindow⟩ := hplot.exists_window (List.cons_ne_nil first rest)
  rw [hwindow]
  have hxs := Span.surrounds_padded hx
  have hys := Span.surrounds_padded hy
  refine ⟨hxs, hys, ?_, ?_⟩
  · intro sample hsample
    exact ⟨hxs.strict (List.mem_map_of_mem hsample), hys.strict (List.mem_map_of_mem hsample)⟩
  · intro next
    obtain ⟨x', y', hx', hy', hwindow'⟩ := (hplot.push next).exists_window (by simp)
    rw [List.map_append] at hx' hy'
    rw [hwindow']
    exact ⟨Span.padded_within hx hx', Span.padded_within hy hy'⟩

/-- The greatest word is shown next to the least one, and a third sample keeps both in view. -/
theorem window_of_outermost_words :
    let samples : List Sample := [⟨0, 7⟩, ⟨4294967295, 0⟩]
    let plot := ofList samples
    (⟨4294967295, 0⟩ : Sample) ∈ samples ∧
      plot.window.x.Surrounds [0, 4294967295] ∧
      plot.window.y.Surrounds [7, 0] ∧
      (4294967295 : UInt32).toFloat < plot.window.x.hi ∧
      plot.window.y.lo < (0 : UInt32).toFloat ∧
      plot.window.y.Within (plot.push ⟨5, 9⟩).window.y := by
  intro samples plot
  have hmem : (⟨4294967295, 0⟩ : Sample) ∈ samples := by decide
  obtain ⟨hx, hy, hinside, hnext⟩ := window_surrounds_points ⟨0, 7⟩ [⟨4294967295, 0⟩]
  obtain ⟨⟨-, hright⟩, hbottom, -⟩ := hinside ⟨4294967295, 0⟩ hmem
  exact ⟨hmem, hx, hy, hright, hbottom, (hnext ⟨5, 9⟩).2⟩

end Plot

end StreamPlot
