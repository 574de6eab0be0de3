import StreamPlot.Proofs.Decimal.Digits
import StreamPlot.Proofs.Lettering
import StreamPlot.Proofs.Transcript.Reading
import StreamPlot.Proofs.Viewer

/-!
# The list of the newest samples

The list is made of the points of the plot, the echo of the samples themselves. Both say the
same: a word becomes a float and is shown without decimals, which leads back to its own
digits. So the list holds the lines that the echo of the newest samples would have, as many as
are wanted, have a row and have come. None of them is longer than the list is wide.
-/

namespace StreamPlot

/-! ## The text of a sample -/

namespace Sample

variable (sample : Sample)

/-- A point is shown as the sample that it comes from is written. -/
theorem pointText_point : Viewer.pointText sample.point = sample.text := by
  rw [Viewer.pointText, point, Decimal.fixed_toFloat, Decimal.fixed_toFloat, ← String.toList_inj]
  simp [text, textPieces]

theorem length_repr_le (word : UInt32) : word.toNat.repr.length ≤ 10 :=
  (Nat.length_repr_le_iff (by decide)).mpr (word.toNat_lt.trans (by decide))

theorem length_text_le : sample.text.length ≤ Viewer.recentWidth - 2 := by
  have hx := length_repr_le sample.x
  have hy := length_repr_le sample.y
  rw [← String.length_toList, toList_text]
  simp only [List.length_cons, List.length_append, List.length_nil, String.length_toList,
    Viewer.recentWidth]
  omega

theorem isPlain_text : ∀ c ∈ sample.text.toList, IsPlain c := by
  have hdigits (word : UInt32) : ∀ c ∈ word.toNat.repr.toList, IsPlain c := by
    intro c hc
    exact isPlain_of_isDigit (isDigit_of_mem_repr hc)
  rw [toList_text]
  simp only [List.forall_mem_cons, List.forall_mem_append]
  refine ⟨?_, hdigits sample.x, ?_, ?_, hdigits sample.y, ?_, by simp⟩ <;>
    constructor <;> decide

end Sample

/-! ## The list -/

namespace Viewer

variable {viewer : Viewer} {samples : List Sample}

/-- The list holds the texts of the newest samples. -/
theorem recentLines_eq (h : viewer.plot.Reflects samples) (height : ℕ) :
    ∃ older shown, samples = older ++ shown ∧
      shown.length = min (min viewer.settings.display.recentRecords.toNat (height - 2))
        samples.length ∧
      viewer.recentLines height = shown.map Sample.text := by
  let wanted := min viewer.settings.display.recentRecords.toNat (height - 2)
  let skipped := samples.length - wanted
  refine ⟨samples.take skipped, samples.drop skipped, ?_, ?_, ?_⟩
  · exact (List.take_append_drop skipped samples).symm
  · rw [List.length_drop]
    omega
  · have hsize : viewer.plot.series.size = samples.length := by
      rw [Series.size_eq_length, h.points, List.length_map]
    rw [recentLines, Series.takeLast_eq, hsize, h.points, ← List.map_drop, List.map_map]
    apply List.map_congr_left
    intro sample _
    exact sample.pointText_point

/-- Where the list has its whole width, the text of every sample in it is written in full. -/
theorem recentDrawing_eq {area : Area} {shown : List Sample}
    (hlines : viewer.recentLines area.height = shown.map Sample.text)
    (hwidth : recentWidth ≤ area.width) (hheight : shown.length ≤ area.height - 2) :
    viewer.recentDrawing area = frame area " Records " .green ++
      (shown.mapIdx fun index sample =>
        letters (area.inner.top + index) area.inner.left sample.text.toList).flatten := by
  have hplain : ∀ line ∈ shown.map Sample.text, ∀ c ∈ line.toList, IsPlain c := by
    intro line hline
    obtain ⟨sample, -, rfl⟩ := List.mem_map.mp hline
    exact sample.isPlain_text
  have hroom : ∀ line ∈ shown.map Sample.text, line.length ≤ area.inner.width := by
    intro line hline
    obtain ⟨sample, -, rfl⟩ := List.mem_map.mp hline
    exact sample.length_text_le.trans (Nat.sub_le_sub_right hwidth 2)
  have hrows : (shown.map Sample.text).length ≤ area.inner.height := by
    rwa [List.length_map]
  rw [recentDrawing, hlines, paragraph_plain hplain hroom hrows]
  congr 2
  apply List.ext_getElem (by simp)
  intro index hindex _
  simp

end Viewer

namespace Viewing

theorem settings_run (viewing : Viewing) (steps : List ViewingStep) :
    (viewing.run steps).viewer.settings = viewing.viewer.settings :=
  (congrArg Switches.settings (viewing.switches_run steps)).trans (Switches.settings_actAll _ _)

/-- The list of the newest samples agrees with the echo. A point is shown as the sample that it
comes from is written. Whatever has happened to a viewer, the list holds the texts of the
samples that were folded in last, as many as the settings ask for and as have a row inside the
frame, or all if there are fewer; the newest is the last. These are the lines of the echo
without their ends. None of them has more characters than there are columns inside the frame,
and where the list has its whole width, each is written in full, in a row of its own. -/
theorem recent_list_agrees_with_echo (settings : Settings) (recent : Bool) (source : Source)
    (steps : List ViewingStep) (area : Area) :
    let viewer := ((start settings recent source).run steps).viewer
    let folded := (start settings recent source).folded steps
    (∀ sample : Sample, Viewer.pointText sample.point = sample.text) ∧
      ∃ older shown, folded = older ++ shown ∧
        shown.length =
          min (min settings.display.recentRecords.toNat (area.height - 2)) folded.length ∧
        viewer.recentLines area.height = shown.map Sample.text ∧
        (viewer.recentLines area.height).map (· ++ "\n") = shown.map Sample.echoLine ∧
        (∀ line ∈ viewer.recentLines area.height, line.length ≤ Viewer.recentWidth - 2) ∧
        (Viewer.recentWidth ≤ area.width →
          viewer.recentDrawing area = frame area " Records " .green ++
            (shown.mapIdx fun index sample =>
              letters (area.inner.top + index) area.inner.left sample.text.toList).flatten) := by
  intro viewer folded
  have hsettings : viewer.settings = settings := settings_run _ steps
  have hplot : viewer.plot.Reflects folded := reflects_run_start settings recent source steps
  obtain ⟨older, shown, hfolded, hlength, hlines⟩ := Viewer.recentLines_eq hplot area.height
  rw [hsettings] at hlength
  refine ⟨Sample.pointText_point, older, shown, hfolded, hlength, hlines, ?_, ?_, ?_⟩
  · rw [hlines, List.map_map]
    apply List.map_congr_left
    intro sample _
    exact sample.echoLine_eq_text.symm
  · intro line hline
    rw [hlines] at hline
    obtain ⟨sample, -, rfl⟩ := List.mem_map.mp hline
    exact sample.length_text_le
  · intro hwidth
    exact Viewer.recentDrawing_eq hlines hwidth (by omega)

/-- Four samples have come, of which the last is still on its way. Two of the others have a row
in the list. -/
theorem recent_list_of_two_rows :
    let steps : List ViewingStep :=
      [.ingest ⟨1, 2⟩, .send (.sample ⟨4294967295, 4294967295⟩), .send (.sample ⟨0, 10⟩), .pump,
        .press { key := .char '?' }, .send (.sample ⟨5, 6⟩)]
    let viewer := ((start .default true {}).run steps).viewer
    let area : Area := ⟨10, 0, 26, 4⟩
    viewer.recentLines 4 = ["(4294967295, 4294967295)", "(0, 10)"] ∧
      viewer.recentDrawing area = frame area " Records " .green ++
        (letters 1 11 "(4294967295, 4294967295)".toList ++ letters 2 11 "(0, 10)".toList) := by
  intro steps viewer area
  obtain ⟨-, older, shown, hfolded, hlength, hlines, -, -, hdrawing⟩ :=
    recent_list_agrees_with_echo .default true {} steps area
  have hrun : (start .default true {}).folded steps =
      [⟨1, 2⟩, ⟨4294967295, 4294967295⟩, ⟨0, 10⟩] := by decide
  rw [hrun] at hfolded hlength
  obtain rfl : [⟨4294967295, 4294967295⟩, ⟨0, 10⟩] = shown := by
    have hsplit : [⟨1, 2⟩] ++ [⟨4294967295, 4294967295⟩, ⟨0, 10⟩] = older ++ shown := hfolded
    exact List.append_inj_right' hsplit hlength.symm
  exact ⟨hlines, hdrawing (by decide)⟩

end Viewing

end StreamPlot
