import StreamPlot.Program.Plotting
import StreamPlot.Proofs.Decimal.Shortest
import StreamPlot.Proofs.Headless
import StreamPlot.Proofs.Plot
import StreamPlot.Proofs.Transcript

/-!
# What a headless run tells the log

Two parts speak in the log of a headless run, and each has a count of its own: the reader
counts what it has read, the plot what was folded in. The lines of a run are told here without
either, from the bytes of the input and from the sink of the echo. `HeadlessRun.Reached` is
what the two parts have in common at every frame: both have come to the end of the same
samples, to which a frame adds one.
-/

namespace StreamPlot

/-! ## The loss of an echo -/

namespace Echo

/-- The failure by which an echo is lost at a sample: all lines of the older samples were
written, and the line of this one could not be. -/
def lossAt (echo : Echo) (older : List Sample) (sample : Sample) : Option Fault :=
  match echo.after older with
  | on sink =>
      match (sink.writeAll sample.echoPieces).1 with
      | .ok () => none
      | .error fault => some fault
  | _ => none

theorem lossAt_eq (echo : Echo) (older : List Sample) (sample : Sample) :
    echo.lossAt older sample = ((echo.after older).emit sample).1 := by
  unfold lossAt emit
  cases echo.after older with
  | off => rfl
  | lost sink => rfl
  | on sink =>
      dsimp only
      rcases sink.writeAll sample.echoPieces with ⟨fault | ⟨⟩, next⟩ <;> rfl

/-- An echo that is lost at a sample is lost for good. -/
theorem after_of_lossAt {echo : Echo} {older : List Sample} {sample : Sample} {fault : Fault}
    (h : echo.lossAt older sample = some fault) (newer : List Sample) :
    ∃ sink, echo.after (older ++ [sample] ++ newer) = lost sink := by
  induction newer using List.reverseRecOn with
  | nil =>
      rw [List.append_nil, after_concat]
      rw [lossAt_eq] at h
      unfold emit at h ⊢
      cases hafter : echo.after older with
      | off => simp [hafter] at h
      | lost sink => simp [hafter] at h
      | on sink =>
          rw [hafter] at h
          dsimp only at h ⊢
          rcases hwrite : sink.writeAll sample.echoPieces with ⟨fault | ⟨⟩, next⟩
          · exact ⟨next, rfl⟩
          · simp [hwrite] at h
  | append_singleton newer last ih =>
      obtain ⟨sink, hlost⟩ := ih
      rw [← List.append_assoc, after_concat, hlost]
      exact ⟨sink, rfl⟩

theorem lossAt_of_lossAt {echo : Echo} {older : List Sample} {sample : Sample} {fault : Fault}
    (h : echo.lossAt older sample = some fault) (newer : List Sample) (later : Sample) :
    echo.lossAt (older ++ [sample] ++ newer) later = none := by
  obtain ⟨sink, hlost⟩ := after_of_lossAt h newer
  rw [lossAt, hlost]

end Echo

/-! ## Lines that look back -/

section

variable {α : Type} (tell : List Sample → Sample → List α)

/-- What is told of each of some samples, behind some older ones: it may depend on all samples
before it. -/
def tellAll (older samples : List Sample) : List α :=
  (samples.zipIdx older.length).flatMap fun (sample, index) =>
    tell ((older ++ samples).take index) sample

theorem tellAll_cons (older : List Sample) (sample : Sample) (rest : List Sample) :
    tellAll tell older (sample :: rest) =
      tell older sample ++ tellAll tell (older ++ [sample]) rest := by
  simp only [tellAll, List.zipIdx_cons, List.flatMap_cons, List.take_left, List.length_append,
    List.length_singleton, List.append_assoc, List.singleton_append]

end

/-- On the way through some samples an echo is lost once at most. -/
theorem Echo.length_losses_le_one (echo : Echo) (older samples : List Sample) :
    (tellAll (fun older sample => (echo.lossAt older sample).toList) older samples).length ≤ 1 := by
  induction samples generalizing older with
  | nil => exact Nat.zero_le 1
  | cons sample rest ih =>
      rw [tellAll_cons]
      cases hloss : echo.lossAt older sample with
      | none => exact ih (older ++ [sample])
      | some fault =>
          have hquiet : tellAll (fun older sample => (echo.lossAt older sample).toList)
              (older ++ [sample]) rest = [] := by
            rw [tellAll, List.flatMap_eq_nil_iff]
            rintro ⟨later, index⟩ hlater
            obtain ⟨newer, hnewer⟩ : ∃ newer,
                (older ++ [sample] ++ rest).take index = older ++ [sample] ++ newer := by
              refine ⟨rest.take (index - (older ++ [sample]).length), ?_⟩
              rw [List.take_append, List.take_of_length_le (List.le_snd_of_mem_zipIdx hlater)]
            simp only [hnewer, Echo.lossAt_of_lossAt hloss, Option.toList_none]
          rw [hquiet]
          exact Nat.le_refl 1

/-- A sink with room for nine bytes is lost at the second line and not once more at the third. -/
example :
    let echo := Echo.on { writer := .limited 9 none }
    tellAll (fun older sample => (echo.lossAt older sample).toList) []
      [⟨1, 2⟩, ⟨30, 4⟩, ⟨5, 6⟩] = [.writeZero] := by
  decide +kernel

/-! ## Texts -/

/-- A line as it stands in the errors: a word in place of the time, the level in its color and
with the room of five characters, the part of the program that speaks, and what it says. -/
def LogEntry.written (line : LogEntry) : String :=
  let level := match line.level with
    | .trace => "\x1b[90m[TRACE]"
    | .debug => "\x1b[36m[DEBUG]"
    | .info => "\x1b[32m[INFO ]"
    | .warn => "\x1b[33m[WARN ]"
    | .error => "\x1b[31m[ERROR]"
  "[+TIMEms] " ++ level ++ "\x1b[0m [" ++ line.component ++ "] " ++ line.message ++ "\n"

theorem LogEntry.line_eq (line : LogEntry) : line.line = line.written := by
  obtain ⟨level, component, message⟩ := line
  cases level <;> rfl

/-- A range as it is told of some words: the least and the greatest of them, if there are any. -/
def wordRange (words : List UInt32) : String :=
  match words.min?, words.max? with
  | some least, some greatest =>
      "Some((" ++ least.toNat.repr ++ ".0, " ++ greatest.toNat.repr ++ ".0))"
  | _, _ => "None"

theorem rangeText_extremes (words : List UInt32) :
    HeadlessNotice.rangeText (extremes words) = wordRange words := by
  unfold extremes wordRange
  cases words.min? with
  | none => rfl
  | some least =>
      cases words.max? with
      | none => rfl
      | some greatest =>
          change "Some((" ++ Decimal.shortest least.toFloat ++ ", " ++
            Decimal.shortest greatest.toFloat ++ "))" = _
          rw [Decimal.shortest_toFloat, Decimal.shortest_toFloat]
          simp [String.append_assoc]

/-! ## The lines of a run -/

namespace HeadlessRun

/-- What a run has told the log so far. -/
def log (run : HeadlessRun) : List LogEntry :=
  run.notices.toList.map HeadlessNotice.entry

/-- The lines about a sample: its number and its text, the loss of the echo if that is the
sample at which it is lost, and the number of points with the window around them. -/
def sampleLines (echo : Echo) (older : List Sample) (sample : Sample) : List LogEntry :=
  let samples := older ++ [sample]
  let window := windowAround (samples.map Sample.x) (samples.map Sample.y)
  [⟨.trace, "reader", "record #" ++ samples.length.repr ++
      " (" ++ sample.x.toNat.repr ++ ", " ++ sample.y.toNat.repr ++ ")"⟩] ++
    (echo.lossAt older sample).toList.map (fun fault =>
      ⟨.warn, "reader", "echo failed, disabling it: " ++ fault.message⟩) ++
    [⟨.trace, "headless", samples.length.repr ++ " points, x [" ++
      Decimal.shortest window.x.lo ++ ", " ++ Decimal.shortest window.x.hi ++ "], y [" ++
      Decimal.shortest window.y.lo ++ ", " ++ Decimal.shortest window.y.hi ++ "]"⟩]

/-- The last account of some samples: their number, their ranges and the window around them. -/
def summaryLine (samples : List Sample) : LogEntry :=
  let xs := samples.map Sample.x
  let ys := samples.map Sample.y
  let window := windowAround xs ys
  ⟨.info, "headless", samples.length.repr ++ " records, x range " ++ wordRange xs ++
    ", y range " ++ wordRange ys ++ ", limits " ++ ("DisplayLimits \x7b x: [" ++
      Decimal.shortest window.x.lo ++ ", " ++ Decimal.shortest window.x.hi ++ "], y: [" ++
      Decimal.shortest window.y.lo ++ ", " ++ Decimal.shortest window.y.hi ++ "] \x7d")⟩

theorem entry_sampleRead (number : Nat) (sample : Sample) :
    (ReaderNotice.sampleRead number sample).entry = ⟨.trace, "reader", "record #" ++ number.repr ++
      " (" ++ sample.x.toNat.repr ++ ", " ++ sample.y.toNat.repr ++ ")"⟩ := by
  have hopen : " (" = " " ++ "(" := rfl
  rw [ReaderNotice.entry, sample.text_eq, hopen]
  simp only [String.append_assoc]

theorem entry_folded (points : Nat) (window : Window) :
    (HeadlessNotice.folded points window).entry = ⟨.trace, "headless",
      points.repr ++ " points, x [" ++
        Decimal.shortest window.x.lo ++ ", " ++ Decimal.shortest window.x.hi ++ "], y [" ++
        Decimal.shortest window.y.lo ++ ", " ++ Decimal.shortest window.y.hi ++ "]"⟩ := by
  have hopen : " points, x [" = " points, x " ++ "[" := rfl
  have hmiddle : "], y [" = "]" ++ ", y " ++ "[" := rfl
  have htext (left right bottom top : String) :
      points.repr ++ " points, x " ++ ("[" ++ left ++ ", " ++ right ++ "]") ++ ", y " ++
          ("[" ++ bottom ++ ", " ++ top ++ "]") =
        points.repr ++ " points, x [" ++ left ++ ", " ++ right ++ "], y [" ++
          bottom ++ ", " ++ top ++ "]" := by
    simp only [hopen, hmiddle, String.append_assoc]
  exact congrArg (LogEntry.mk .trace "headless") (htext _ _ _ _)

theorem windowText_eq (window : Window) : HeadlessNotice.windowText window =
    "DisplayLimits \x7b x: [" ++
      Decimal.shortest window.x.lo ++ ", " ++ Decimal.shortest window.x.hi ++ "], y: [" ++
      Decimal.shortest window.y.lo ++ ", " ++ Decimal.shortest window.y.hi ++ "] \x7d" := by
  have hopen : "DisplayLimits \x7b x: [" = "DisplayLimits \x7b x: " ++ "[" := rfl
  have hmiddle : "], y: [" = "]" ++ ", y: " ++ "[" := rfl
  have hclose : "] \x7d" = "]" ++ " \x7d" := rfl
  have htext (left right bottom top : String) :
      "DisplayLimits \x7b x: " ++ ("[" ++ left ++ ", " ++ right ++ "]") ++ ", y: " ++
          ("[" ++ bottom ++ ", " ++ top ++ "]") ++ " \x7d" =
        "DisplayLimits \x7b x: [" ++ left ++ ", " ++ right ++ "], y: [" ++
          bottom ++ ", " ++ top ++ "] \x7d" := by
    simp only [hopen, hmiddle, hclose, String.append_assoc]
  exact htext _ _ _ _

theorem entry_summary {plot : Plot} {samples : List Sample} (h : plot.Reflects samples) :
    (HeadlessNotice.summary plot.size plot.bounds).entry = summaryLine samples := by
  have hwindow : plot.bounds.window = _ := h.window_eq
  rw [HeadlessNotice.entry, h.size_eq, h.x, h.y, hwindow, rangeText_extremes, rangeText_extremes,
    windowText_eq]
  rfl

/-- The lines about the end of an input behind some samples. A failure leaves no summary. -/
def endLines (input : Input) (samples : List Sample) : List LogEntry :=
  match input.fault? with
  | some fault =>
      [⟨.error, "reader",
        "read failed after " ++ samples.length.repr ++ " records: " ++ fault.message⟩]
  | none =>
      let tail := input.data.length % frameLength
      (if tail = 0 then []
        else [⟨.debug, "reader", "discarding " ++ tail.repr ++ " trailing bytes"⟩]) ++
      [⟨.info, "reader", "end of stream after " ++ samples.length.repr ++ " records"⟩,
        summaryLine samples]

/-- A run and its reader have come to the end of the same samples. -/
structure Reached (echo : Echo) (samples : List Sample) (run : HeadlessRun)
    (reader : Reader) : Prop where
  live : reader.finished = false
  count : reader.count = samples.length
  echo : reader.echo = echo.after samples
  plot : run.plot.Reflects samples
  unfailed : run.fault? = none

namespace Reached

variable {echo : Echo} {older : List Sample} {run : HeadlessRun} {reader : Reader}

theorem start (input : Input) (echo : Echo) :
    Reached echo [] HeadlessRun.start (.ofInput input echo) where
  live := rfl
  count := rfl
  echo := echo.after_nil.symm
  plot := Plot.reflects_empty
  unfailed := rfl

/-- A frame brings both parts behind one more sample. -/
theorem frame (h : Reached echo older run reader)
    (hframe : frameLength ≤ reader.input.data.length) :
    Reached echo (older ++ [reader.nextSample]) (run.step reader.next) reader.next.reader := by
  have hnext := Reader.next_of_frame h.live hframe
  have hresult := congrArg ReaderStep.result hnext
  obtain ⟨hplot, hfault⟩ := run.step_sample hresult
  refine ⟨(Reader.reader_next_of_frame h.live hframe).1, ?_, ?_, ?_, hfault.trans h.unfailed⟩
  · rw [hnext, List.length_append, ← h.count]
    rfl
  · rw [Reader.echo_next, hresult, h.echo, Echo.after_concat]
  · rw [hplot]
    exact h.plot.push _

/-- What a frame adds to the log are the lines about its sample. -/
theorem log_frame (h : Reached echo older run reader)
    (hframe : frameLength ≤ reader.input.data.length) :
    (run.step reader.next).log = run.log ++ sampleLines echo older reader.nextSample := by
  have hnext := Reader.next_of_frame h.live hframe
  have hpushed := h.plot.push reader.nextSample
  have hloss : (reader.behindFrame.report reader.nextSample).2 =
      ((echo.lossAt older reader.nextSample).map ReaderNotice.echoLost).toList := by
    rw [Echo.lossAt_eq, ← h.echo]
    rfl
  have hsize : (run.plot.push reader.nextSample).size = (older ++ [reader.nextSample]).length :=
    hpushed.size_eq
  have hcount : reader.count + 1 = (older ++ [reader.nextSample]).length := by
    rw [h.count, List.length_append, List.length_singleton]
  simp only [log, step, hnext, hloss, hsize, hpushed.window_eq, hcount, sampleLines]
  rw [← entry_sampleRead, ← entry_folded]
  cases echo.lossAt older reader.nextSample with
  | none => simp [HeadlessNotice.entry]
  | some fault => simp [HeadlessNotice.entry, ReaderNotice.entry]

/-- What is added behind the last frame are the lines about the end of the input. -/
theorem log_end (h : Reached echo older run reader)
    (hshort : reader.input.data.length < frameLength) :
    (run.step reader.next).finish.log =
      run.log ++ endLines reader.input older ++ [⟨.trace, "headless", "<- run (TIMEms)"⟩] := by
  have hcount : reader.count = older.length := h.count
  cases hfault : reader.input.fault? with
  | some fault =>
      rw [Reader.next_of_failed h.live hshort hfault]
      simp [log, finish, step, endLines, hfault, hcount, HeadlessNotice.entry, ReaderNotice.entry]
  | none =>
      rw [Reader.next_of_ended h.live hshort hfault]
      have htail : reader.input.data.length % frameLength = reader.input.data.length :=
        Nat.mod_eq_of_lt hshort
      have hempty : reader.input.data.isEmpty = decide (reader.input.data.length = 0) := by
        cases reader.input.data <;> rfl
      simp only [log, finish, step, h.unfailed, endLines, hfault, htail, hempty,
        ← entry_summary h.plot]
      by_cases hzero : reader.input.data.length = 0 <;>
        simp [hzero, hcount, HeadlessNotice.entry, ReaderNotice.entry]

end Reached

theorem endLines_skip {input : Input} (hframe : frameLength ≤ input.data.length)
    (samples : List Sample) :
    endLines (input.skip frameLength) samples = endLines input samples := by
  have htail : (input.data.length - frameLength) % frameLength =
      input.data.length % frameLength :=
    (Nat.mod_eq_sub_mod hframe).symm
  simp only [endLines, Input.fault?_skip hframe, Input.data_skip hframe, List.length_drop, htail]

/-- What a run tells the log from some frame on to the end of its input. -/
theorem Reached.log_steps {echo : Echo} {older : List Sample} {run : HeadlessRun}
    {reader : Reader} (h : Reached echo older run reader) :
    (run.steps reader.steps).finish.log =
      run.log ++ tellAll (sampleLines echo) older (decodeAll reader.input.data) ++
        endLines reader.input (older ++ decodeAll reader.input.data) ++
        [⟨.trace, "headless", "<- run (TIMEms)"⟩] := by
  have hlive := h.live
  -- A frame leads from one common state to the next: what it tells moves from the lines that
  -- are still to come to the log.
  induction reader, hlive using Reader.frame_induction generalizing older run with
  | short reader hlive hshort =>
      rw [Reader.steps_of_no_sample (Reader.no_sample_of_short hlive hshort),
        decodeAll_of_lt hshort, List.append_nil]
      exact (h.log_end hshort).trans (by simp [tellAll])
  | frame reader hlive hframe ih =>
      obtain ⟨-, hinput⟩ := Reader.reader_next_of_frame hlive hframe
      have hresult := congrArg ReaderStep.result (Reader.next_of_frame hlive hframe)
      have hrest := ih (h.frame hframe)
      rw [hinput, Input.data_skip hframe, endLines_skip hframe, h.log_frame hframe] at hrest
      rw [Reader.steps_of_sample hresult, steps_cons, hrest, decodeAll_of_le hframe, tellAll_cons]
      simp only [Reader.nextSample, List.append_assoc, List.singleton_append]

/-- The warnings of a run are the losses of its echo. -/
theorem length_warnings (echo : Echo) (older samples : List Sample) :
    ((tellAll (sampleLines echo) older samples).filter fun line => line.level = .warn).length =
      (tellAll (fun older sample => (echo.lossAt older sample).toList) older samples).length := by
  rw [tellAll, tellAll, List.filter_flatMap, List.length_flatMap, List.length_flatMap]
  refine congrArg List.sum (List.map_congr_left ?_)
  rintro ⟨sample, index⟩ -
  dsimp only [sampleLines]
  cases echo.lossAt ((older ++ samples).take index) sample <;> rfl

theorem warnings_endLines (input : Input) (samples : List Sample) :
    (endLines input samples).filter (fun line => line.level = .warn) = [] := by
  unfold endLines
  cases input.fault? with
  | some fault => rfl
  | none =>
      dsimp only
      split <;> rfl

/-- The log is all that it adds to what a run leaves. -/
theorem ending_logged (run : HeadlessRun) (output : String) :
    run.ending true output =
      { run.ending false output with
        errors := String.join (run.log.map LogEntry.written) ++
          (run.ending false output).errors } := by
  have hlines : run.log.map LogEntry.written = run.log.map LogEntry.line :=
    List.map_congr_left fun line _ => line.line_eq.symm
  rw [hlines]
  simp [ending, Ending.prefaced, logText, log]

theorem report_io (fault : Fault) : (Failure.io fault).report =
    "Error: I/O error: " ++ fault.message ++ "\n\nCaused by:\n    " ++ fault.message ++ "\n" := by
  have hopen : "Error: I/O error: " = "Error: " ++ "I/O error: " := rfl
  have hmiddle : "\n\nCaused by:\n    " = "\n" ++ "\nCaused by:\n    " := rfl
  have htext (message : String) :
      "Error: " ++ ("I/O error: " ++ message) ++ "\n" ++
          ("\nCaused by:\n    " ++ message ++ "\n") =
        "Error: I/O error: " ++ message ++ "\n\nCaused by:\n    " ++ message ++ "\n" := by
    simp only [hopen, hmiddle, String.append_assoc]
  exact htext fault.message

theorem errors_unlogged (run : HeadlessRun) (output : String) :
    (run.ending false output).errors = run.fault?.elim "" fun fault =>
      if fault.kind = .brokenPipe then ""
      else "Error: I/O error: " ++ fault.message ++
        "\n\nCaused by:\n    " ++ fault.message ++ "\n" := by
  simp only [← report_io]
  unfold ending
  cases run.fault? with
  | none => rfl
  | some fault =>
      dsimp only [Option.elim_some]
      split <;> simp [Ending.prefaced, Ending.quiet, Ending.failed, logText]

/-- The ends of every window are numbers, so their texts name them. -/
theorem names_limits (xs ys : List UInt32) :
    let window := windowAround xs ys
    ∀ limit ∈ [window.x.lo, window.x.hi, window.y.lo, window.y.hi],
      Decimal.Names (Decimal.shortest limit) limit := by
  have hunit : ∀ limit ∈ [Span.unit.lo, Span.unit.hi],
      Decimal.Names (Decimal.shortest limit) limit := by
    simp only [List.forall_mem_cons, List.not_mem_nil, false_implies, implies_true, and_true]
    exact ⟨Decimal.names_shortest isNumber_zero, Decimal.names_shortest isNumber_margin⟩
  have hpadded {words : List UInt32} {span : Span} (h : extremes words = some span) :
      ∀ limit ∈ [span.padded.lo, span.padded.hi], Decimal.Names (Decimal.shortest limit) limit := by
    obtain ⟨lo, hi, hlo, hhi, -⟩ := Span.surrounds_padded h
    simp only [List.forall_mem_cons, List.not_mem_nil, false_implies, implies_true, and_true]
    exact ⟨Decimal.names_shortest hlo, Decimal.names_shortest hhi⟩
  unfold windowAround
  cases hx : extremes xs with
  | none => exact List.forall_mem_append.mpr ⟨hunit, hunit⟩
  | some x =>
      cases hy : extremes ys with
      | none => exact List.forall_mem_append.mpr ⟨hunit, hunit⟩
      | some y => exact List.forall_mem_append.mpr ⟨hpadded hx, hpadded hy⟩

/-- The log of a headless run tells the run in full. Behind the entry there are the lines of
every sample in order, each with its number and with what the plot shows at that point, and
between them one warning where the echo is lost, if it is lost at all. Then the failure is told,
or the end with the bytes that are left over and the summary, and the exit is last. A limit in
a line is a decimal that rounds to the limit itself. The log writes nothing unless it is on; if
it is, the lines stand in front of the errors, and everything else is the same in both cases:
the status, the plot and what the echo has written. -/
theorem log_tells_run (input : Input) (echo : Echo) :
    let reader := Reader.ofInput input echo
    let run := HeadlessRun.ofReader reader
    let samples := decodeAll input.data
    let ending := fun logged => run.ending logged (reader.exhausted.echo.contents?.getD "")
    run.log =
        [⟨.trace, "headless", "-> run"⟩] ++
          samples.zipIdx.flatMap (fun (sample, index) =>
            sampleLines echo (samples.take index) sample) ++
          endLines input samples ++
          [⟨.trace, "headless", "<- run (TIMEms)"⟩] ∧
      (run.log.filter fun line => line.level = .warn).length ≤ 1 ∧
      (∀ older : List Sample,
        let window := windowAround (older.map Sample.x) (older.map Sample.y)
        ∀ limit ∈ [window.x.lo, window.x.hi, window.y.lo, window.y.hi],
          Decimal.Names (Decimal.shortest limit) limit) ∧
      ending true =
        { ending false with
          errors := String.join (run.log.map LogEntry.written) ++ (ending false).errors } ∧
      (ending false).errors = input.fault?.elim "" (fun fault =>
        if fault.kind = .brokenPipe then ""
        else "Error: I/O error: " ++ fault.message ++
          "\n\nCaused by:\n    " ++ fault.message ++ "\n") ∧
      run.outcome = input.fault?.elim (.ok (Plot.ofList samples)) (fun fault =>
        .error (.io fault)) ∧
      reader.exhausted.echo = echo.after samples := by
  intro reader run samples ending
  have hlog : run.log = start.log ++ tellAll (sampleLines echo) [] samples ++
      endLines input samples ++ [⟨.trace, "headless", "<- run (TIMEms)"⟩] :=
    (Reached.start input echo).log_steps
  have hecho : reader.exhausted.echo = echo.after ([] ++ samples) :=
    Reader.echo_exhausted rfl echo.after_nil.symm
  refine ⟨hlog, ?_, fun older => names_limits (older.map Sample.x) (older.map Sample.y),
    run.ending_logged _, ?_, outcome_ofReader rfl,
    hecho⟩
  · have hlosses := echo.length_losses_le_one [] samples
    rw [← length_warnings] at hlosses
    rw [hlog, List.filter_append, List.filter_append, List.filter_append, warnings_endLines]
    simpa [log, start, HeadlessNotice.entry] using hlosses
  · have hfault : run.fault? = input.fault? := fault?_ofReader rfl
    rw [← hfault]
    exact run.errors_unlogged _

/-- Two samples and three bytes more, with an echo that has room for nine characters. -/
theorem log_of_two_samples :
    let input : Input := [.data [1, 0, 0, 0, 2, 0, 0, 0], .data [30, 0, 0, 0, 4, 0, 0, 0, 5, 6, 7]]
    let reader := Reader.ofInput input (.on { writer := .limited 9 none })
    let output := reader.exhausted.echo.contents?.getD ""
    let run := HeadlessRun.ofReader reader
    output = "(1, 2)\n(3" ∧ (run.ending false output).errors = "" ∧
      (run.ending true output).errors =
        "[+TIMEms] \x1b[90m[TRACE]\x1b[0m [headless] -> run\n" ++
        "[+TIMEms] \x1b[90m[TRACE]\x1b[0m [reader] record #1 (1, 2)\n" ++
        "[+TIMEms] \x1b[90m[TRACE]\x1b[0m [headless] 1 points, " ++
          "x [-0.010000000000000009, 2.01], y [0.98, 3.02]\n" ++
        "[+TIMEms] \x1b[90m[TRACE]\x1b[0m [reader] record #2 (30, 4)\n" ++
        "[+TIMEms] \x1b[33m[WARN ]\x1b[0m [reader] echo failed, disabling it: " ++
          "failed to write whole buffer\n" ++
        "[+TIMEms] \x1b[90m[TRACE]\x1b[0m [headless] 2 points, " ++
          "x [-0.010000000000000009, 31.3], y [0.98, 5.04]\n" ++
        "[+TIMEms] \x1b[36m[DEBUG]\x1b[0m [reader] discarding 3 trailing bytes\n" ++
        "[+TIMEms] \x1b[32m[INFO ]\x1b[0m [reader] end of stream after 2 records\n" ++
        "[+TIMEms] \x1b[32m[INFO ]\x1b[0m [headless] 2 records, " ++
          "x range Some((1.0, 30.0)), y range Some((2.0, 4.0)), limits " ++
          "DisplayLimits \x7b x: [-0.010000000000000009, 31.3], y: [0.98, 5.04] \x7d\n" ++
        "[+TIMEms] \x1b[90m[TRACE]\x1b[0m [headless] <- run (TIMEms)\n" := by
  intro input reader output run
  obtain ⟨hlog, -, -, hending, herrors, -, hecho⟩ :=
    log_tells_run input (.on { writer := .limited 9 none })
  have hsamples : decodeAll input.data = [⟨1, 2⟩, ⟨30, 4⟩] := by
    rw [decodeAll_of_le (by decide), decodeAll_of_le (by decide), decodeAll_of_lt (by decide)]
    rfl
  rw [hsamples] at hlog hecho
  have hquiet : (run.ending false output).errors = "" := herrors
  refine ⟨?_, hquiet, ?_⟩
  · have hcontents := congrArg (fun last : Echo => last.contents?.getD "") hecho
    exact hcontents.trans (by decide +kernel)
  · have hlines := congrArg Ending.errors hending
    change (run.ending true output).errors =
      String.join (run.log.map LogEntry.written) ++ (run.ending false output).errors at hlines
    rw [hlines, hquiet, hlog]
    decide +kernel

end HeadlessRun

end StreamPlot
