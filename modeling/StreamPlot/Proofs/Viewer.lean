import StreamPlot.Proofs.Plot
import StreamPlot.Proofs.Switches

/-!
# What a viewer has folded in

A viewer folds in the samples that it is handed and those that it finds when it looks at its
source; a key adds nothing. Its plot is therefore told by its calls. The steps of a session are
such calls, as far as they are about the viewer and not about the other end of its channel.
-/

namespace StreamPlot

/-! ## Calls -/

/-- A call that a viewer can be given. Each pump has a source of its own, as it stands then. -/
inductive ViewerCall where
  | act (action : Action)
  | ingest (sample : Sample)
  | pump (source : Source)

namespace ViewerCall

/-- The samples that a call folds in. -/
def samples : ViewerCall → List Sample
  | act _ => []
  | ingest sample => [sample]
  | pump source => (source.drainCounted samplesPerTick).2.1

/-- What is known of the input after a call. -/
def streamAfter (stream : StreamStatus) : ViewerCall → StreamStatus
  | act _ => stream
  | ingest _ => stream
  | pump source => (source.drainCounted samplesPerTick).2.2.status

end ViewerCall

namespace Viewer

def call (viewer : Viewer) : ViewerCall → Viewer
  | .act action => viewer.act action
  | .ingest sample => viewer.ingest sample
  | .pump source => (viewer.pump source).1

def callAll (viewer : Viewer) (calls : List ViewerCall) : Viewer :=
  calls.foldl call viewer

theorem callAll_append (viewer : Viewer) (calls more : List ViewerCall) :
    viewer.callAll (calls ++ more) = (viewer.callAll calls).callAll more :=
  List.foldl_append

theorem plot_call (viewer : Viewer) (call : ViewerCall) :
    (viewer.call call).plot = viewer.plot.pushAll call.samples := by
  cases call with
  | act action => exact viewer.plot_act action
  | ingest sample => rfl
  | pump source => rfl

theorem stream_call (viewer : Viewer) (call : ViewerCall) :
    (viewer.call call).stream = call.streamAfter viewer.stream := by
  cases call with
  | act action => exact viewer.stream_act action
  | ingest sample => rfl
  | pump source => rfl

theorem plot_callAll (viewer : Viewer) (calls : List ViewerCall) :
    (viewer.callAll calls).plot = viewer.plot.pushAll (calls.flatMap ViewerCall.samples) := by
  induction calls generalizing viewer with
  | nil => rfl
  | cons call calls ih =>
      have hrest := ih (viewer.call call)
      rw [plot_call] at hrest
      rw [List.flatMap_cons, Plot.pushAll, List.foldl_append]
      exact hrest

theorem stream_callAll (viewer : Viewer) (calls : List ViewerCall) :
    (viewer.callAll calls).stream = calls.foldl ViewerCall.streamAfter viewer.stream := by
  induction calls generalizing viewer with
  | nil => rfl
  | cons call calls ih =>
      have hrest := ih (viewer.call call)
      rw [stream_call] at hrest
      exact hrest

/-- The plot of a new viewer is that of the samples which its calls have folded in. -/
theorem reflects_callAll (settings : Settings) (recent : Bool) (calls : List ViewerCall) :
    (((new settings).withRecent recent).callAll calls).plot.Reflects
      (calls.flatMap ViewerCall.samples) := by
  rw [plot_callAll]
  exact Plot.reflects_ofList _

end Viewer

/-! ## Steps as calls -/

namespace Viewing

/-- The call that a step is, if it is about the viewer. -/
def call? (viewing : Viewing) : ViewingStep → Option ViewerCall
  | .press key => some (.act (key.action viewing.viewer.settings.vimKeys))
  | .act action => some (.act action)
  | .ingest sample => some (.ingest sample)
  | .pump => some (.pump viewing.source)
  | .send _ => none
  | .hangUp => none

/-- The calls that a run is, each with the source as it stands then. -/
def calls (viewing : Viewing) : List ViewingStep → List ViewerCall
  | [] => []
  | step :: steps => (viewing.call? step).toList ++ (viewing.step step).calls steps

theorem viewer_step (viewing : Viewing) (step : ViewingStep) :
    (viewing.step step).viewer = viewing.viewer.callAll (viewing.call? step).toList := by
  cases step <;> rfl

theorem viewer_run (viewing : Viewing) (steps : List ViewingStep) :
    (viewing.run steps).viewer = viewing.viewer.callAll (viewing.calls steps) := by
  induction steps generalizing viewing with
  | nil => rfl
  | cons step steps ih => rw [run_cons, ih, viewer_step, calls, Viewer.callAll_append]

/-- The samples that a run folds in, oldest first. -/
def folded (viewing : Viewing) (steps : List ViewingStep) : List Sample :=
  (viewing.calls steps).flatMap ViewerCall.samples

theorem reflects_run_start (settings : Settings) (recent : Bool) (source : Source)
    (steps : List ViewingStep) :
    ((start settings recent source).run steps).viewer.plot.Reflects
      ((start settings recent source).folded steps) := by
  rw [viewer_run]
  exact Viewer.reflects_callAll settings recent _

end Viewing

end StreamPlot
