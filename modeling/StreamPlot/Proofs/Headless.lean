import StreamPlot.Headless
import StreamPlot.Proofs.Reader

/-!
# What a headless run comes to

The outcome of a headless run is told from the bytes of its input: the failure that ends
them, or else the plot of all whole frames.
-/

namespace StreamPlot

namespace HeadlessRun

theorem step_sample (run : HeadlessRun) {answer : ReaderStep} {sample : Sample}
    (h : answer.result = .ok (some sample)) :
    (run.step answer).plot = run.plot.push sample ∧ (run.step answer).fault? = run.fault? := by
  rw [step, h]
  exact ⟨rfl, rfl⟩

theorem step_end (run : HeadlessRun) {answer : ReaderStep} (h : answer.result = .ok none) :
    (run.step answer).plot = run.plot ∧ (run.step answer).fault? = run.fault? := by
  rw [step, h]
  exact ⟨rfl, rfl⟩

theorem step_fault (run : HeadlessRun) {answer : ReaderStep} {fault : Fault}
    (h : answer.result = .error fault) : (run.step answer).fault? = some fault := by
  rw [step, h]

theorem steps_cons (run : HeadlessRun) (answer : ReaderStep) (answers : List ReaderStep) :
    run.steps (answer :: answers) = (run.step answer).steps answers := rfl

theorem outcome_finish (run : HeadlessRun) : run.finish.outcome = run.outcome := rfl

/-- The outcome of a run over samples and the answer that ends them. -/
theorem outcome_steps (run : HeadlessRun) {answers : List ReaderStep} {samples : List Sample}
    {fault? : Option Fault} (hopen : run.fault? = none)
    (h : answers.map ReaderStep.result =
      samples.map (fun sample => .ok (some sample)) ++
        [fault?.elim (.ok none) .error]) :
    (run.steps answers).outcome =
      fault?.elim (.ok (run.plot.pushAll samples)) fun fault => .error (.io fault) := by
  induction samples generalizing run answers with
  | nil =>
      obtain ⟨answer, rfl, hresult⟩ := List.map_eq_singleton_iff.mp h
      rw [steps_cons]
      cases fault? with
      | none =>
          obtain ⟨hplot, hfault⟩ := run.step_end hresult
          change (run.step answer).outcome = _
          rw [outcome, hfault, hopen, hplot]
          rfl
      | some fault =>
          change (run.step answer).outcome = _
          rw [outcome, run.step_fault hresult]
          rfl
  | cons sample samples ih =>
      obtain ⟨answer, rest, rfl, hresult, hrest⟩ := List.map_eq_cons_iff.mp h
      obtain ⟨hplot, hfault⟩ := run.step_sample hresult
      rw [steps_cons, ih (run.step answer) (hfault.trans hopen) hrest, hplot]
      rfl

/-- The outcome of a run over everything that a reader yields. -/
theorem outcome_ofReader {reader : Reader} (hlive : reader.finished = false) :
    (ofReader reader).outcome =
      reader.input.fault?.elim (.ok (Plot.ofList (decodeAll reader.input.data))) fun fault =>
        .error (.io fault) := by
  rw [ofReader, outcome_finish]
  exact outcome_steps start rfl (Reader.results_steps hlive)

end HeadlessRun

end StreamPlot
