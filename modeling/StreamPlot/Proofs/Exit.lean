import StreamPlot.Program.Plotting
import StreamPlot.Proofs.Headless

/-!
# How a headless run exits

The exit of a headless run is decided by the last answer of its reader. An end gives the
status 0, and so does a signal that comes before the reader has answered to the end. A
failure gives the status 1 and is reported, unless it says that a pipe is closed: that one
passes for an end. The echo has no part in any of this.
-/

namespace StreamPlot

/-! ## Failures of a run -/

namespace HeadlessRun

theorem fault?_of_outcome {run : HeadlessRun} {fault? : Option Fault} {plot : Plot}
    (h : run.outcome = fault?.elim (.ok plot) fun fault => .error (.io fault)) :
    run.fault? = fault? := by
  unfold outcome at h
  cases hrun : run.fault? with
  | none => cases fault? with
    | none => rfl
    | some fault => simp [hrun] at h
  | some fault => cases fault? with
    | none => simp [hrun] at h
    | some other => simpa [hrun] using h

theorem fault?_ofReader {reader : Reader} (hlive : reader.finished = false) :
    (ofReader reader).fault? = reader.input.fault? :=
  fault?_of_outcome (outcome_ofReader hlive)

/-- Samples alone do not end a run. -/
theorem fault?_steps_of_samples (run : HeadlessRun) {answers : List ReaderStep}
    (h : ∀ answer ∈ answers, ∃ sample, answer.result = .ok (some sample)) :
    (run.steps answers).fault? = run.fault? := by
  induction answers generalizing run with
  | nil => rfl
  | cons answer answers ih =>
      obtain ⟨⟨sample, hsample⟩, hrest⟩ := List.forall_mem_cons.mp h
      rw [steps_cons, ih (run.step answer) hrest, (run.step_sample hsample).2]

/-- The exit status of a run that has come to this failure, or to none. -/
def statusOf : Option Fault → Nat
  | none => 0
  | some fault => if fault.kind = .brokenPipe then 0 else 1

theorem status_ending (run : HeadlessRun) (logged : Bool) (output : String) :
    (run.ending logged output).status = statusOf run.fault? := by
  unfold ending
  cases run.fault? with
  | none => rfl
  | some fault =>
      by_cases hkind : fault.kind = .brokenPipe
      · simp [hkind, statusOf, Ending.prefaced, Ending.quiet]
      · simp [hkind, statusOf, Ending.prefaced, Ending.failed]

/-- A failure is reported behind the log, unless a closed pipe is what has failed. -/
theorem errors_ending {run : HeadlessRun} {fault : Fault} (h : run.fault? = some fault)
    (hkind : fault.kind ≠ .brokenPipe) (logged : Bool) (output : String) :
    (run.ending logged output).errors =
      logText logged (run.notices.toList.map HeadlessNotice.entry) ++
        (Failure.io fault).report := by
  simp only [ending, h, if_neg hkind]
  rfl

end HeadlessRun

theorem logText_append (enabled : Bool) (first second : List LogEntry) :
    logText enabled first ++ logText enabled second = logText enabled (first ++ second) := by
  cases enabled with
  | false => rfl
  | true => simp [logText, String.join_append]

/-! ## From the command line to the run -/

namespace PlotSurroundings

/-- The command line asks for a headless run, and there are settings that can be used. -/
structure RunsHeadless (surroundings : PlotSurroundings) (command : PlotCommand)
    (settings : Settings) : Prop where
  command_eq : PlotCommand.read surroundings.arguments = .ok command
  headless : command.headless = true
  settings_eq : Settings.effective surroundings.places command.settingsPath command.override =
    .ok settings

def logged (surroundings : PlotSurroundings) (command : PlotCommand) : Bool :=
  command.debug || logRequested surroundings.logVariable

/-- The reader of a headless run, which echoes to the standard output if it may. -/
def reader (surroundings : PlotSurroundings) (settings : Settings) : Reader :=
  .ofInput surroundings.input
    (if settings.echo then .on { writer := surroundings.output } else .off)

/-- What the reader answers before the run is over: everything, or no more than the
samples if a signal comes behind them. -/
def answers (surroundings : PlotSurroundings) (settings : Settings) : List ReaderStep :=
  let steps := (surroundings.reader settings).steps
  if surroundings.interrupted then steps.filter fun step => step.result.toOption.join.isSome
  else steps

/-- The reader has come to the end of the stream. -/
def Ends (surroundings : PlotSurroundings) (settings : Settings) : Prop :=
  ∃ answer ∈ surroundings.answers settings, answer.result = .ok none

/-- A read has failed for good. -/
def FailsWith (surroundings : PlotSurroundings) (settings : Settings) (fault : Fault) : Prop :=
  ∃ answer ∈ surroundings.answers settings, answer.result = .error fault

def run (surroundings : PlotSurroundings) (settings : Settings) : HeadlessRun :=
  if surroundings.interrupted then .cutShort (surroundings.reader settings)
  else .ofReader (surroundings.reader settings)

section

variable {surroundings : PlotSurroundings} {command : PlotCommand} {settings : Settings}

theorem plot_of_runsHeadless (h : surroundings.RunsHeadless command settings) :
    ∃ output, plot surroundings =
      ((surroundings.run settings).ending (surroundings.logged command) output).prefaced
        (logText (surroundings.logged command) [settingsNotice settings]) := by
  unfold plot
  simp only [h.command_eq, h.settings_eq, h.headless, if_true]
  exact ⟨_, rfl⟩

theorem results_answers (hopen : surroundings.interrupted = false) :
    (surroundings.answers settings).map ReaderStep.result =
      (decodeAll surroundings.input.data).map (fun sample => .ok (some sample)) ++
        [surroundings.input.fault?.elim (.ok none) .error] := by
  have hlive : (surroundings.reader settings).finished = false := rfl
  simp only [answers, hopen, Bool.false_eq_true, if_false]
  exact Reader.results_steps hlive

theorem ends_iff (hopen : surroundings.interrupted = false) :
    surroundings.Ends settings ↔ surroundings.input.fault? = none := by
  have hend : surroundings.Ends settings ↔
      .ok none ∈ (surroundings.answers settings).map ReaderStep.result :=
    List.mem_map.symm
  rw [hend, results_answers hopen]
  cases surroundings.input.fault? <;> simp

theorem failsWith_iff (hopen : surroundings.interrupted = false) (fault : Fault) :
    surroundings.FailsWith settings fault ↔ surroundings.input.fault? = some fault := by
  have hfail : surroundings.FailsWith settings fault ↔
      .error fault ∈ (surroundings.answers settings).map ReaderStep.result :=
    List.mem_map.symm
  rw [hfail, results_answers hopen]
  cases surroundings.input.fault? <;> simp [eq_comm]

/-- Behind a signal the reader answers nothing, so all answers are samples. -/
theorem exists_sample_of_interrupted (h : surroundings.interrupted = true)
    {answer : ReaderStep} (hanswer : answer ∈ surroundings.answers settings) :
    ∃ sample, answer.result = .ok (some sample) := by
  simp only [answers, h, if_true, List.mem_filter] at hanswer
  rcases hresult : answer.result with fault | _ | sample
  · simp [hresult, Except.toOption] at hanswer
  · simp [hresult, Except.toOption] at hanswer
  · exact ⟨sample, rfl⟩

theorem not_ends_of_interrupted (h : surroundings.interrupted = true) :
    ¬ surroundings.Ends settings := by
  rintro ⟨answer, hanswer, hend⟩
  obtain ⟨sample, hsample⟩ := exists_sample_of_interrupted h hanswer
  simp [hend] at hsample

theorem not_failsWith_of_interrupted (h : surroundings.interrupted = true) (fault : Fault) :
    ¬ surroundings.FailsWith settings fault := by
  rintro ⟨answer, hanswer, hfail⟩
  obtain ⟨sample, hsample⟩ := exists_sample_of_interrupted h hanswer
  simp [hfail] at hsample

theorem fault?_run :
    (surroundings.run settings).fault? =
      if surroundings.interrupted then none else surroundings.input.fault? := by
  cases hsignal : surroundings.interrupted with
  | false =>
      simp only [run, hsignal, Bool.false_eq_true, if_false]
      exact HeadlessRun.fault?_ofReader rfl
  | true =>
      simp only [run, hsignal, if_true]
      refine HeadlessRun.fault?_steps_of_samples .start ?_
      intro answer hanswer
      rw [List.mem_filter] at hanswer
      rcases hresult : answer.result with fault | _ | sample
      · simp [hresult] at hanswer
      · simp [hresult] at hanswer
      · exact ⟨sample, rfl⟩

theorem status_plot (h : surroundings.RunsHeadless command settings) :
    (plot surroundings).status =
      HeadlessRun.statusOf
        (if surroundings.interrupted then none else surroundings.input.fault?) := by
  obtain ⟨output, hplot⟩ := plot_of_runsHeadless h
  have hrun : (surroundings.run settings).fault? =
      if surroundings.interrupted then none else surroundings.input.fault? := fault?_run
  rw [hplot, ← hrun]
  exact (surroundings.run settings).status_ending (surroundings.logged command) output

theorem errors_plot (h : surroundings.RunsHeadless command settings) {fault : Fault}
    (hrun : (surroundings.run settings).fault? = some fault)
    (hkind : fault.kind ≠ .brokenPipe) :
    ∃ entries, (plot surroundings).errors =
      logText (surroundings.logged command) entries ++ (Failure.io fault).report := by
  obtain ⟨output, hplot⟩ := plot_of_runsHeadless h
  have herrors := HeadlessRun.errors_ending hrun hkind (surroundings.logged command) output
  refine ⟨settingsNotice settings ::
    (surroundings.run settings).notices.toList.map HeadlessNotice.entry, ?_⟩
  rw [hplot, Ending.prefaced, herrors, ← String.append_assoc, logText_append]
  rfl

theorem RunsHeadless.withOutput (h : surroundings.RunsHeadless command settings)
    (output : Writer) : { surroundings with output }.RunsHeadless command settings :=
  ⟨h.command_eq, h.headless, h.settings_eq⟩

/-- A headless run that no signal ends, and in which no read fails on a closed pipe, exits
with the status 0 exactly if its reader has come to the end of the stream. One that a
signal ends exits with the status 0. A read that fails for another reason than a closed
pipe gives the status 1 and is reported, with nothing but the log in front. What the
standard output takes does not change the status. -/
theorem status_of_headless_run (h : surroundings.RunsHeadless command settings) :
    (surroundings.interrupted = false →
        (∀ fault, surroundings.FailsWith settings fault → fault.kind ≠ .brokenPipe) →
        ((plot surroundings).status = 0 ↔ surroundings.Ends settings)) ∧
      (surroundings.interrupted = true → (plot surroundings).status = 0) ∧
      (∀ fault, surroundings.FailsWith settings fault → fault.kind ≠ .brokenPipe →
        (plot surroundings).status = 1 ∧
          ∃ entries, (plot surroundings).errors =
            logText (surroundings.logged command) entries ++ (Failure.io fault).report) ∧
      (surroundings.interrupted = false →
        (surroundings.Ends settings ↔ surroundings.input.fault? = none) ∧
          ∀ fault, surroundings.FailsWith settings fault ↔
            surroundings.input.fault? = some fault) ∧
      ∀ output, (plot { surroundings with output }).status = (plot surroundings).status := by
  refine ⟨?_, ?_, ?_, ?_, ?_⟩
  · intro hopen hfaults
    rw [status_plot h, hopen, if_neg (by simp), ends_iff hopen]
    cases hfault : surroundings.input.fault? with
    | none => simp [HeadlessRun.statusOf]
    | some fault =>
        have hkind := hfaults fault ((failsWith_iff hopen fault).mpr hfault)
        simp [HeadlessRun.statusOf, hkind]
  · intro hsignal
    rw [status_plot h, hsignal]
    rfl
  · intro fault hfails hkind
    have hopen : surroundings.interrupted = false := by
      rw [Bool.eq_false_iff]
      exact fun hsignal => not_failsWith_of_interrupted hsignal fault hfails
    have hfault := (failsWith_iff hopen fault).mp hfails
    have hrun : (surroundings.run settings).fault? = some fault := by
      rw [fault?_run, hopen, if_neg (by simp), hfault]
    refine ⟨?_, errors_plot h hrun hkind⟩
    rw [status_plot h, hopen, if_neg (by simp), hfault, HeadlessRun.statusOf, if_neg hkind]
  · intro hopen
    exact ⟨ends_iff hopen, failsWith_iff hopen⟩
  · intro output
    rw [status_plot h, status_plot (h.withOutput output)]

end

/-- A headless run over an input, without a settings file and any other wish. -/
def headlessOver (input : Input) (interrupted : Bool) : PlotSurroundings where
  arguments := ["--headless"]
  places := { named := fun _ => .missing }
  input := input
  interrupted := interrupted

theorem runsHeadless_headlessOver (input : Input) (interrupted : Bool) :
    (headlessOver input interrupted).RunsHeadless { headless := true } .default where
  command_eq := by rfl
  headless := rfl
  settings_eq := by
    have hvalid : (Settings.default.overruled {}).invalid? = none := by decide +kernel
    change (Settings.default.overruled {}).validated = _
    rw [Settings.validated, hvalid]
    rfl

/-- A read that is denied within the second frame, while nobody takes the echo. -/
theorem status_of_denied_read :
    let surroundings : PlotSurroundings :=
      { headlessOver [.data [4, 0, 0, 0, 2, 0, 0, 0, 5], .fault ⟨.permissionDenied, "denied"⟩] false
        with output := .closed }
    (plot surroundings).status = 1 ∧
      ∃ entries, (plot surroundings).errors = logText false entries ++
        "Error: I/O error: denied\n\nCaused by:\n    denied\n" := by
  intro surroundings
  have hruns : surroundings.RunsHeadless { headless := true } .default :=
    (runsHeadless_headlessOver _ _).withOutput .closed
  obtain ⟨-, -, hfailed, hanswers, -⟩ := status_of_headless_run hruns
  obtain ⟨-, hfails⟩ := hanswers rfl
  exact hfailed ⟨.permissionDenied, "denied"⟩ ((hfails _).mpr (by decide)) (by decide)

/-- Not every run that exits with the status 0 has come to the end of its stream: a signal
may have ended it while the input was still open. Nor does every failed read give the
status 1: one that fails on a closed pipe gives the status 0. -/
theorem status_zero_before_the_end :
    let signalled := headlessOver [.data [4, 0, 0, 0, 2, 0, 0, 0]] true
    let severed := headlessOver [.data [4, 0, 0, 0, 2, 0, 0, 0], .fault .brokenPipe] false
    (signalled.RunsHeadless { headless := true } .default ∧
        (plot signalled).status = 0 ∧ ¬ signalled.Ends .default) ∧
      (severed.RunsHeadless { headless := true } .default ∧
        (plot severed).status = 0 ∧ severed.FailsWith .default .brokenPipe) := by
  intro signalled severed
  have hsignalled := runsHeadless_headlessOver [.data [4, 0, 0, 0, 2, 0, 0, 0]] true
  have hsevered :=
    runsHeadless_headlessOver [.data [4, 0, 0, 0, 2, 0, 0, 0], .fault .brokenPipe] false
  refine ⟨⟨hsignalled, ?_, not_ends_of_interrupted rfl⟩, hsevered, ?_, ?_⟩
  · exact status_plot hsignalled
  · exact status_plot hsevered
  · exact (failsWith_iff rfl .brokenPipe).mpr rfl

end PlotSurroundings

end StreamPlot
