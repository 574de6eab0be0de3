import StreamPlot.Proofs.Echo
import StreamPlot.Proofs.Exit

/-!
# What a headless run echoes

The lines of an echo are one text, which is written up to the first failure, and a run that has
come to its end has told its echo of every whole frame. A writer that refuses nothing takes
every line, so a headless run that may echo to it leaves a transcript of its whole input: one
line for each sample, in order, and nothing else.
-/

namespace StreamPlot

/-- A writer takes something of every offer. -/
def Writer.TakesAll (writer : Writer) : Prop :=
  ∀ taken attempts offered, 0 < offered → (writer.reply taken attempts offered).accepts = true

theorem Writer.unlimited_takesAll : unlimited.TakesAll := by
  intro taken attempts offered hoffered
  cases offered with
  | zero => omega
  | succ offered => rfl

namespace Sink

variable {sink : Sink}

theorem accepts_of_mem_replies (h : sink.writer.TakesAll) (text : List Char) :
    ∀ reply ∈ sink.replies text, reply.accepts = true := by
  fun_induction Sink.replies sink text with
  | case1 => simp
  | case2 sink text htext fault hreply =>
      have haccepts := h sink.text.size sink.attempts text.length
        (List.length_pos_iff.mpr (by simpa using htext))
      rw [hreply] at haccepts
      cases haccepts
  | case3 sink text htext hreply =>
      have haccepts := h sink.text.size sink.attempts text.length
        (List.length_pos_iff.mpr (by simpa using htext))
      rw [hreply] at haccepts
      cases haccepts
  | case4 sink text htext count hreply ih => exact List.forall_mem_cons.mpr ⟨rfl, ih h⟩

/-- A writer that refuses nothing takes whole texts. -/
theorem wrote_of_takesAll (h : sink.writer.TakesAll) (pieces : List String) :
    ∃ next, sink.writeAll pieces = (.ok (), next) ∧ next.writer = sink.writer ∧
      next.text.toList = sink.text.toList ++ pieces.flatMap String.toList := by
  induction pieces generalizing sink with
  | nil => exact ⟨sink, rfl, rfl, by simp⟩
  | cons piece pieces ih =>
      have hwrote := sink.wrote_write piece.toList
      have hresult := hwrote.ok_iff.mpr (accepts_of_mem_replies h piece.toList)
      have htext := hwrote.text_eq hresult
      cases hwrite : sink.write piece.toList with
      | mk result middle =>
          rw [hwrite] at hwrote hresult htext
          obtain rfl : result = .ok () := hresult
          obtain ⟨next, hnext, hwriter, hrest⟩ := ih (hwrote.writer_eq ▸ h)
          refine ⟨next, ?_, hwriter.trans hwrote.writer_eq, ?_⟩
          · rw [writeAll, hwrite]
            exact hnext
          · rw [hrest, htext, List.flatMap_cons, List.append_assoc]

end Sink

namespace Echo

/-- What has become of an echo that some samples were reported to: their lines are one text,
which is written up to the first failure. -/
def after (echo : Echo) (samples : List Sample) : Echo :=
  match echo with
  | on sink =>
      match sink.writeAll (samples.flatMap Sample.echoPieces) with
      | (.ok (), next) => on next
      | (.error _, next) => lost next
  | off => off
  | lost sink => lost sink

theorem after_nil (echo : Echo) : echo.after [] = echo := by
  cases echo <;> rfl

/-- One more sample is one more line at the end of the text. -/
theorem after_concat (echo : Echo) (older : List Sample) (sample : Sample) :
    echo.after (older ++ [sample]) = ((echo.after older).emit sample).2 := by
  unfold after
  cases echo with
  | off => rfl
  | lost sink => rfl
  | on sink =>
      dsimp only
      rw [List.flatMap_append, List.flatMap_singleton, Sink.writeAll_append]
      rcases sink.writeAll (older.flatMap Sample.echoPieces) with ⟨fault | ⟨⟩, next⟩
      · rfl
      · unfold emit
        dsimp only
        rcases next.writeAll sample.echoPieces with ⟨fault | ⟨⟩, last⟩ <;> rfl

/-- A writer that refuses nothing has all lines in the end. -/
theorem contents?_after {sink : Sink} (h : sink.writer.TakesAll) (samples : List Sample) :
    ((on sink).after samples).contents? =
      some (sink.contents ++ String.join (samples.map Sample.echoLine)) := by
  obtain ⟨next, hwrite, -, htext⟩ := Sink.wrote_of_takesAll h (samples.flatMap Sample.echoPieces)
  rw [after, hwrite]
  refine congrArg some (String.toList_inj.mp ?_)
  rw [String.toList_append, Sink.contents, Sink.contents, String.toList_ofList,
    String.toList_ofList, htext, String.toList_join, List.flatMap_map, List.flatMap_assoc]
  simp only [Sample.echoLine, String.toList_join]

end Echo

namespace Reader

theorem exhausted_of_sample {reader : Reader} {sample : Sample}
    (h : reader.next.result = .ok (some sample)) :
    reader.exhausted = reader.next.reader.exhausted := by
  have hsteps : reader.next.reader.steps ≠ [] := by
    rw [steps]
    split <;> simp
  rw [exhausted, exhausted, steps_of_sample h, List.getLast?_cons]
  cases hlast : reader.next.reader.steps.getLast? with
  | none => exact absurd (List.getLast?_eq_none_iff.mp hlast) hsteps
  | some last => rfl

theorem exhausted_of_no_sample {reader : Reader}
    (h : ∀ sample, reader.next.result ≠ .ok (some sample)) :
    reader.exhausted = reader.next.reader := by
  rw [exhausted, steps_of_no_sample h]
  rfl

theorem no_sample_of_short {reader : Reader} (hlive : reader.finished = false)
    (hshort : reader.input.data.length < frameLength) (sample : Sample) :
    reader.next.result ≠ .ok (some sample) := by
  cases hfault : reader.input.fault? with
  | none => simp [next_of_ended hlive hshort hfault]
  | some fault => simp [next_of_failed hlive hshort hfault]

/-- The echo of a reader that has come to its end was told of every whole frame. -/
theorem echo_exhausted {reader : Reader} (hlive : reader.finished = false) {echo : Echo}
    {older : List Sample} (h : reader.echo = echo.after older) :
    reader.exhausted.echo = echo.after (older ++ decodeAll reader.input.data) := by
  induction reader, hlive using frame_induction generalizing older with
  | short reader hlive hshort =>
      rw [exhausted_of_no_sample (no_sample_of_short hlive hshort), echo_next,
        decodeAll_of_lt hshort, List.append_nil, ← h]
      cases hfault : reader.input.fault? with
      | none => rw [next_of_ended hlive hshort hfault]
      | some fault => rw [next_of_failed hlive hshort hfault]
  | frame reader hlive hframe ih =>
      obtain ⟨-, hinput⟩ := reader_next_of_frame hlive hframe
      have hresult := congrArg ReaderStep.result (next_of_frame hlive hframe)
      have hecho : reader.next.reader.echo = echo.after (older ++ [reader.nextSample]) := by
        rw [echo_next, hresult, h, Echo.after_concat]
      rw [exhausted_of_sample hresult, ih hecho, hinput, Input.data_skip hframe,
        decodeAll_of_le hframe, List.append_assoc]
      rfl

end Reader

namespace PlotSurroundings

/-- A headless run that may echo, to an output that refuses nothing, writes one line for each
whole frame of its input. -/
theorem output_plot {surroundings : PlotSurroundings} {command : PlotCommand}
    {settings : Settings} (h : surroundings.RunsHeadless command settings)
    (hecho : settings.echo = true) (houtput : surroundings.output.TakesAll) :
    (plot surroundings).output =
      .text (String.join ((decodeAll surroundings.input.data).map Sample.echoLine)) := by
  let samples := decodeAll surroundings.input.data
  have hstart : (surroundings.reader settings).echo = .on { writer := surroundings.output } := by
    rw [reader, hecho]
    rfl
  have hlast : (surroundings.reader settings).exhausted.echo =
      (Echo.on { writer := surroundings.output }).after ([] ++ samples) :=
    Reader.echo_exhausted rfl (hstart.trans (Echo.after_nil _).symm)
  have hcontents : (surroundings.reader settings).exhausted.echo.contents? =
      some ("" ++ String.join (samples.map Sample.echoLine)) := by
    rw [hlast]
    exact Echo.contents?_after houtput samples
  unfold plot
  simp only [h.command_eq, h.settings_eq, h.headless, if_true]
  change Output.text ((surroundings.reader settings).exhausted.echo.contents?.getD "") = _
  rw [hcontents, String.empty_append]
  rfl

end PlotSurroundings

end StreamPlot
