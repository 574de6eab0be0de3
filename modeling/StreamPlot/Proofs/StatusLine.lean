import StreamPlot.Screen.View
import StreamPlot.Proofs.Decimal.Digits
import StreamPlot.Proofs.Echo
import StreamPlot.Proofs.Viewer

/-!
# What the status line says

The status line is put together from parts of a viewer that are kept apart: the number of its
points, the newest sample, the bounds and the state of the input. Whatever has happened to the
viewer, all of them speak of the same samples. The newest sample and both ranges are shown as
soon as there is any sample, and the ends of a range are words again, since a word that becomes
a float and is shown without decimals leads back to its own digits.
-/

namespace StreamPlot

/-! ## The parts of the line -/

/-- The least and the greatest of some words. -/
def AreEnds (least greatest : UInt32) (words : List UInt32) : Prop :=
  least ∈ words ∧ greatest ∈ words ∧ ∀ word ∈ words, least ≤ word ∧ word ≤ greatest

namespace Viewer

variable {viewer : Viewer} {samples : List Sample}

/-- The range of some words shows the words themselves. -/
theorem rangeText_of_extremes {words : List UInt32} {span : Span}
    (h : extremes words = some span) :
    ∃ least greatest, AreEnds least greatest words ∧
      rangeText span = least.toNat.repr ++ ".." ++ greatest.toNat.repr := by
  obtain ⟨least, hleast, greatest, hgreatest, rfl, hbetween⟩ := exists_of_extremes h
  refine ⟨least, greatest, ⟨hleast, hgreatest, hbetween⟩, ?_⟩
  rw [rangeText, Decimal.fixed_toFloat, Decimal.fixed_toFloat]

theorem statusParts_of_nil (h : viewer.plot.Reflects []) :
    viewer.statusParts = ["records: 0", viewer.streamText, "? help"] := by
  have hbounds : viewer.plot.bounds = .empty := by
    have hx := h.x
    cases hbox : viewer.plot.bounds with
    | empty => rfl
    | box x y => rw [hbox] at hx; cases hx
  have hlatest : viewer.plot.latest? = none := h.latest
  rw [statusParts, hlatest, hbounds, h.size_eq]
  rfl

theorem statusParts_of_concat {older : List Sample} {latest : Sample}
    (h : viewer.plot.Reflects (older ++ [latest])) :
    ∃ left right bottom top,
      AreEnds left right ((older ++ [latest]).map Sample.x) ∧
      AreEnds bottom top ((older ++ [latest]).map Sample.y) ∧
      viewer.statusParts =
        ["records: " ++ (older.length + 1).repr,
          "latest: (" ++ latest.x.toNat.repr ++ ", " ++ latest.y.toNat.repr ++ ")",
          "x: " ++ left.toNat.repr ++ ".." ++ right.toNat.repr,
          "y: " ++ bottom.toNat.repr ++ ".." ++ top.toNat.repr,
          viewer.streamText, "? help"] := by
  have hlatest : viewer.plot.latest? = some latest := by
    rw [h.latest, List.getLast?_concat]
  have hsize : viewer.plot.size = older.length + 1 := by
    rw [h.size_eq, List.length_append, List.length_singleton]
  obtain ⟨x, y, hx, hy, hbounds⟩ := h.exists_box (by simp)
  obtain ⟨left, right, hxs, hxtext⟩ := rangeText_of_extremes hx
  obtain ⟨bottom, top, hys, hytext⟩ := rangeText_of_extremes hy
  refine ⟨left, right, bottom, top, hxs, hys, ?_⟩
  rw [statusParts, hlatest, hbounds, hsize]
  simp only [hxtext, hytext, latest.text_eq, String.append_assoc, List.cons_append, List.nil_append]
  rfl

/-! ## The state of the input -/

theorem ne_failed (text message : String) (h : ¬ "stream failed: ".toList <+: text.toList) :
    text ≠ "stream failed: " ++ message := by
  rintro rfl
  exact h (by rw [String.toList_append]; exact List.prefix_append _ _)

/-- Each state of the input has a text of its own, and before the first sample an input that is
still live has another one. -/
theorem streamText_eq_iff (h : viewer.plot.Reflects samples) :
    (viewer.streamText = "waiting for data" ↔ viewer.stream = .live ∧ samples = []) ∧
      (viewer.streamText = "live" ↔ viewer.stream = .live ∧ samples ≠ []) ∧
      (viewer.streamText = "stream ended" ↔ viewer.stream = .ended) ∧
      ∀ message, viewer.streamText = "stream failed: " ++ message ↔
        viewer.stream = .failed message := by
  have hwaiting message := ne_failed "waiting for data" message (by decide)
  have hlive message := ne_failed "live" message (by decide)
  have hended message := ne_failed "stream ended" message (by decide)
  unfold streamText
  cases hstream : viewer.stream with
  | live =>
      by_cases hempty : samples = []
      · rw [h.isEmpty_iff.mpr hempty]
        simp [hempty, hwaiting]
      · have hplot : viewer.plot.isEmpty = false := by
          rw [Bool.eq_false_iff]
          exact mt h.isEmpty_iff.mp hempty
        simp [hplot, hempty, hlive]
  | ended => simp [hended]
  | failed message =>
      simp [(hwaiting message).symm, (hlive message).symm, (hended message).symm]

/-! ## The whole line -/

/-- The status line tells the truth about the whole run. Whatever a viewer was given, the line
is one blank and the parts with bars between them: the number of samples that were folded in;
if there was any, the last of them and the least and the greatest word of either axis, as they
are; the state of the input since the last pump; and the way to the help. -/
theorem status_line_tells_run (settings : Settings) (recent : Bool) (calls : List ViewerCall) :
    let viewer := ((Viewer.new settings).withRecent recent).callAll calls
    let samples := calls.flatMap ViewerCall.samples
    let stream := calls.foldl ViewerCall.streamAfter .live
    (match samples.getLast? with
      | none => viewer.statusText = " " ++ " │ ".intercalate
          ["records: 0", viewer.streamText, "? help"]
      | some latest => ∃ left right bottom top,
          AreEnds left right (samples.map Sample.x) ∧
          AreEnds bottom top (samples.map Sample.y) ∧
          viewer.statusText = " " ++ " │ ".intercalate
            ["records: " ++ samples.length.repr,
              "latest: (" ++ latest.x.toNat.repr ++ ", " ++ latest.y.toNat.repr ++ ")",
              "x: " ++ left.toNat.repr ++ ".." ++ right.toNat.repr,
              "y: " ++ bottom.toNat.repr ++ ".." ++ top.toNat.repr,
              viewer.streamText, "? help"]) ∧
      viewer.stream = stream ∧
      (viewer.streamText = "waiting for data" ↔ stream = .live ∧ samples = []) ∧
      (viewer.streamText = "live" ↔ stream = .live ∧ samples ≠ []) ∧
      (viewer.streamText = "stream ended" ↔ stream = .ended) ∧
      ∀ message, viewer.streamText = "stream failed: " ++ message ↔ stream = .failed message := by
  intro viewer samples stream
  have hplot : viewer.plot.Reflects samples := reflects_callAll settings recent calls
  have hstream : viewer.stream = stream :=
    ((Viewer.new settings).withRecent recent).stream_callAll calls
  have htext := streamText_eq_iff hplot
  rw [hstream] at htext
  refine ⟨?_, hstream, htext⟩
  rcases List.eq_nil_or_concat' samples with hnone | ⟨older, latest, hsamples⟩
  · rw [hnone] at hplot ⊢
    exact congrArg (" " ++ " │ ".intercalate ·) (statusParts_of_nil hplot)
  · rw [hsamples] at hplot ⊢
    obtain ⟨left, right, bottom, top, hx, hy, hparts⟩ := statusParts_of_concat hplot
    rw [List.getLast?_concat, List.length_append]
    exact ⟨left, right, bottom, top, hx, hy, congrArg (" " ++ " │ ".intercalate ·) hparts⟩

end Viewer

end StreamPlot
