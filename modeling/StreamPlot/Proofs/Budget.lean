import Mathlib
import StreamPlot.Proofs.Feed

/-!
# Limits add up

A channel to which nothing more is sent hands over the same samples however the drains are
cut: two drains in a row are one drain with the sum of their limits. So a row of drains, or of
pumps of a viewer, is a single drain, and what that one does at its limit says all about the
row. The event that closes the channel is met only with a limit that is greater than the
number of samples in front of it.
-/

namespace StreamPlot

/-- Whether an event closes a channel. -/
def SourceEvent.closes : SourceEvent → Bool
  | sample _ => false
  | ended => true
  | failed _ => true

/-- A channel that has been emptied is closed if its sender has gone, or if it has held an
event that closes it. -/
theorem isClosed_settled_iff (hungUp : Bool) (events : List SourceEvent) :
    (settled hungUp events).isClosed = true ↔
      hungUp = true ∨ ∃ event ∈ events, event.closes = true := by
  induction events with
  | nil => cases hungUp <;> simp [settled, StreamStatus.isClosed]
  | cons event events ih =>
      cases event with
      | sample sample => simpa [settled, SourceEvent.closes] using ih
      | ended => simp [settled, StreamStatus.isClosed, SourceEvent.closes]
      | failed message => simp [settled, StreamStatus.isClosed, SourceEvent.closes]

section

variable {count : Nat} {events : List SourceEvent}

theorem leading_drop (h : count ≤ (leading events).length) :
    leading (events.drop count) = (leading events).drop count := by
  have hleading := congrArg leading (take_leading_append_drop h)
  rw [leading_append_samples] at hleading
  exact List.append_cancel_left (hleading.trans (List.take_append_drop count _).symm)

theorem settled_drop (h : count ≤ (leading events).length) (hungUp : Bool) :
    settled hungUp (events.drop count) = settled hungUp events := by
  rw [← settled_append_samples hungUp ((leading events).take count),
    take_leading_append_drop h]

end

namespace Source

variable {source : Source}

/-! ## Two drains -/

theorem drainCounted_of_nil (hlive : source.status = .live) (hqueue : source.queue = [])
    (hopen : source.hungUp = false) (limit : Nat) :
    source.drainCounted limit = (0, [], source) := by
  obtain ⟨queue, hungUp, status⟩ := source
  dsimp only at hlive hqueue hopen
  rw [hlive, hqueue, hopen]
  simp [drainCounted, drainOpen, StreamStatus.isClosed]

/-- A limit beyond the samples that count leaves nothing for a later drain. -/
theorem drainCounted_of_passed (hlive : source.status = .live) {first : Nat}
    (hfirst : (leading source.queue).length < first) (second : Nat) :
    (source.drainCounted first).2.2.drainCounted second =
      (0, [], (source.drainCounted first).2.2) := by
  rw [drainCounted_of_live hlive, if_neg (Nat.not_le.mpr hfirst)]
  dsimp only
  by_cases hsettled : settled source.hungUp source.queue = .live
  · refine drainCounted_of_nil hsettled (drop_leading_of_settled_live hsettled) ?_ second
    refine Bool.eq_false_iff.mpr fun hgone => ?_
    have hclosed := (isClosed_settled_iff source.hungUp source.queue).mpr (.inl hgone)
    exact StreamStatus.isClosed_iff.mp hclosed hsettled
  · exact drainCounted_of_isClosed (StreamStatus.isClosed_iff.mpr hsettled) second

/-- Two drains, one after the other, are one drain with the sum of their limits. -/
theorem drainCounted_add (source : Source) (first second : Nat) :
    source.drainCounted (first + second) =
      ((source.drainCounted first).1 + ((source.drainCounted first).2.2.drainCounted second).1,
        (source.drainCounted first).2.1 ++
          ((source.drainCounted first).2.2.drainCounted second).2.1,
        ((source.drainCounted first).2.2.drainCounted second).2.2) := by
  by_cases hlive : source.status = .live
  · rcases Nat.lt_or_ge (leading source.queue).length first with hpassed | hroom
    · have hmore : ¬ first + second ≤ (leading source.queue).length := by omega
      rw [drainCounted_of_passed hlive hpassed, drainCounted_of_live hlive, if_neg hmore,
        drainCounted_of_live hlive, if_neg (Nat.not_le.mpr hpassed)]
      simp only [Nat.add_zero, List.append_nil]
    · -- the first drain stays within the samples, so the second one goes on behind them
      have hleading := leading_drop hroom
      have hsettled := settled_drop hroom source.hungUp
      have hnext : ({ source with queue := source.queue.drop first } : Source).status = .live :=
        hlive
      rw [drainCounted_of_live hlive, drainCounted_of_live hlive, if_pos hroom]
      dsimp only
      rw [drainCounted_of_live hnext]
      dsimp only
      rw [hleading, hsettled, List.length_drop]
      by_cases hmore : first + second ≤ (leading source.queue).length
      · rw [if_pos hmore, if_pos (by omega), List.take_add, List.drop_drop]
      · have hcount : first + ((leading source.queue).length - first) =
            (leading source.queue).length := by omega
        have hdrop : first + ((leading source.queue).length - first + 1) =
            (leading source.queue).length + 1 := by omega
        rw [if_neg hmore, if_neg (by omega), List.take_append_drop, List.drop_drop, hcount,
          hdrop]
  · have hclosed := StreamStatus.isClosed_iff.mpr hlive
    simp only [drainCounted_of_isClosed hclosed, Nat.add_zero, List.append_nil]

theorem drainCounted_zero (source : Source) : source.drainCounted 0 = (0, [], source) := by
  by_cases hlive : source.status = .live
  · rw [drainCounted_of_live hlive, if_pos (Nat.zero_le _)]
    rfl
  · exact drainCounted_of_isClosed (StreamStatus.isClosed_iff.mpr hlive) 0

/-! ## A row of drains -/

/-- A row of drains is one drain with the sum of all limits. -/
theorem run_drains (source : Source) (limits : List Nat) :
    let run := source.run (limits.map .drain)
    ((run.1.map Handover.count).sum, run.1.flatMap Handover.samples, run.2) =
      source.drainCounted limits.sum := by
  induction limits generalizing source with
  | nil => exact (drainCounted_zero source).symm
  | cons limit limits ih =>
      rw [List.sum_cons, drainCounted_add, ← ih, List.map_cons, run_drain]
      rfl

/-- What a single drain does to a channel that holds some events. -/
theorem drainCounted_queue (hungUp : Bool) (events : List SourceEvent) (limit : Nat) :
    let drained := ({ queue := events, hungUp } : Source).drainCounted limit
    drained.1 = min (leading events).length limit ∧
      drained.2.1 = (leading events).take limit ∧
      (drained.2.2.status.isClosed = true ↔
        (hungUp = true ∨ ∃ event ∈ events, event.closes = true) ∧
          (leading events).length < limit) := by
  intro drained
  have hdrained : drained = _ := drainCounted_of_live rfl limit
  rw [hdrained]
  rcases Nat.lt_or_ge (leading events).length limit with hpassed | hroom
  · rw [if_neg (Nat.not_le.mpr hpassed), Nat.min_eq_left (Nat.le_of_lt hpassed),
      List.take_of_length_le (Nat.le_of_lt hpassed), and_iff_left hpassed]
    exact ⟨rfl, rfl, isClosed_settled_iff hungUp events⟩
  · rw [if_pos hroom, Nat.min_eq_right hroom]
    exact ⟨rfl, rfl, nofun, fun hclosed => absurd hclosed.2 (Nat.not_lt.mpr hroom)⟩

end Source

/-! ## A row of pumps -/

/-- What a pump leaves behind. -/
structure Pumped where
  viewer : Viewer
  source : Source
  /-- The number of samples that have been folded in, as the pump has told it. -/
  folded : Nat

namespace Viewer

/-- Pump some times, with nothing sent in between. -/
def pumps (viewer : Viewer) (source : Source) : (count : Nat) → List Pumped
  | 0 => []
  | count + 1 =>
      let (viewer, source, folded, _) := viewer.pump source
      ⟨viewer, source, folded⟩ :: viewer.pumps source count

variable (viewer : Viewer) (source : Source)

theorem pumps_succ (count : Nat) :
    viewer.pumps source (count + 1) =
      ⟨(viewer.pump source).1, (viewer.pump source).2.1, (viewer.pump source).2.2.1⟩ ::
        (viewer.pump source).1.pumps (viewer.pump source).2.1 count := rfl

theorem length_pumps (count : Nat) : (viewer.pumps source count).length = count := by
  induction count generalizing viewer source with
  | zero => rfl
  | succ count ih => rw [pumps_succ, List.length_cons, ih]

/-- What is left of a budget of full portions behind the first of them. -/
theorem portions_succ (count : Nat) :
    (count + 1) * samplesPerTick = samplesPerTick + count * samplesPerTick := by
  rw [Nat.succ_mul, Nat.add_comm]

theorem sum_pumps (count : Nat) :
    ((viewer.pumps source count).map Pumped.folded).sum =
      (source.drainCounted (count * samplesPerTick)).1 := by
  induction count generalizing viewer source with
  | zero => rw [Nat.zero_mul, Source.drainCounted_zero]; rfl
  | succ count ih =>
      rw [portions_succ, Source.drainCounted_add, pumps_succ, List.map_cons, List.sum_cons, ih]
      rfl

/-- Behind each of some pumps a viewer shows what one drain would have handed over, and
knows of the stream what the channel has come to. -/
theorem getElem?_pumps {index count : Nat} (h : index < count) :
    ∃ pumped, (viewer.pumps source count)[index]? = some pumped ∧
      pumped.source = (source.drainCounted ((index + 1) * samplesPerTick)).2.2 ∧
      pumped.viewer.stream = pumped.source.status ∧
      pumped.viewer.plot =
        viewer.plot.pushAll (source.drainCounted ((index + 1) * samplesPerTick)).2.1 := by
  induction count generalizing viewer source index with
  | zero => exact absurd h (Nat.not_lt_zero index)
  | succ count ih =>
      rw [pumps_succ]
      cases index with
      | zero => exact ⟨_, rfl, by rw [Nat.zero_add, Nat.one_mul]; rfl, rfl,
          by rw [Nat.zero_add, Nat.one_mul]; rfl⟩
      | succ index =>
          obtain ⟨pumped, hpumped, hsource, hstream, hplot⟩ :=
            ih (viewer.pump source).1 (viewer.pump source).2.1 (Nat.lt_of_succ_lt_succ h)
          refine ⟨pumped, hpumped, ?_, hstream, ?_⟩
          · rw [hsource, portions_succ (index + 1), Source.drainCounted_add]
            rfl
          · rw [hplot, portions_succ (index + 1), Source.drainCounted_add]
            exact (List.foldl_append).symm

end Viewer

/-- Drains of a channel to which nothing more is sent share one budget, the sum of their
limits: they hand over as many of the samples in front of the closing event as there is
room for, and close the channel only with room for more. How the budget is cut does not
matter. A viewer that pumps some times has the budget of as many full portions, and knows
after each pump what the channel has come to. -/
theorem limits_add_up (hungUp : Bool) (events : List SourceEvent) :
    let source : Source := { queue := events, hungUp }
    let available := leading events
    let closable := hungUp = true ∨ ∃ event ∈ events, event.closes = true
    (∀ limits : List Nat,
      let run := source.run (limits.map .drain)
      (run.1.map Handover.count).sum = min available.length limits.sum ∧
        run.1.flatMap Handover.samples = available.take limits.sum ∧
        (run.2.status.isClosed = true ↔ closable ∧ available.length < limits.sum)) ∧
      (∀ (source : Source) (first second : Nat),
        let (count, samples, next) := source.drainCounted first
        let (more, others, last) := next.drainCounted second
        source.drainCounted (first + second) = (count + more, samples ++ others, last)) ∧
      ∀ (viewer : Viewer) (count : Nat),
        let pumps := viewer.pumps source count
        pumps.length = count ∧
          (pumps.map Pumped.folded).sum = min available.length (count * samplesPerTick) ∧
          ∀ index < count, ∃ pumped, pumps[index]? = some pumped ∧
            pumped.viewer.plot =
              viewer.plot.pushAll (available.take ((index + 1) * samplesPerTick)) ∧
            pumped.viewer.plot.size =
              viewer.plot.size + min available.length ((index + 1) * samplesPerTick) ∧
            pumped.viewer.stream = pumped.source.status ∧
            (pumped.viewer.stream.isClosed = true ↔
              closable ∧ available.length < (index + 1) * samplesPerTick) := by
  intro source available closable
  refine ⟨?_, Source.drainCounted_add, ?_⟩
  · intro limits run
    obtain ⟨hcount, hsamples, hclosed⟩ := Source.drainCounted_queue hungUp events limits.sum
    have hrun := source.run_drains limits
    have hlast : run.2 = (source.drainCounted limits.sum).2.2 := congrArg (·.2.2) hrun
    refine ⟨(congrArg (·.1) hrun).trans hcount, (congrArg (·.2.1) hrun).trans hsamples, ?_⟩
    rw [hlast]
    exact hclosed
  · intro viewer count pumps
    obtain ⟨hcount, -, -⟩ := Source.drainCounted_queue hungUp events (count * samplesPerTick)
    refine ⟨viewer.length_pumps source count, (viewer.sum_pumps source count).trans hcount, ?_⟩
    intro index hindex
    obtain ⟨pumped, hpumped, hsource, hstream, hplot⟩ := viewer.getElem?_pumps source hindex
    obtain ⟨-, hsamples, hclosed⟩ :=
      Source.drainCounted_queue hungUp events ((index + 1) * samplesPerTick)
    rw [hsamples] at hplot
    refine ⟨pumped, hpumped, hplot, ?_, hstream, ?_⟩
    · rw [hplot, Plot.size_pushAll, List.length_take, Nat.min_comm]
    · rw [hstream, hsource]
      exact hclosed

/-- Five samples and an end: a limit of three and one of two leave the end where it is. -/
example :
    let samples : List Sample := [⟨0, 0⟩, ⟨1, 0⟩, ⟨2, 0⟩, ⟨3, 0⟩, ⟨4, 0⟩]
    let source : Source := { queue := samples.map .sample ++ [.ended] }
    let run := source.run [.drain 3, .drain 2]
    run.1.map Handover.count = [3, 2] ∧ run.2.status = .live ∧
      (run.2.drainCounted 1).1 = 0 ∧ (run.2.drainCounted 1).2.2.status = .ended := by
  decide

end StreamPlot
