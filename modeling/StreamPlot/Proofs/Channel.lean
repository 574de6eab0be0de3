import StreamPlot.Source

/-!
# The channel delivers

Sends, the end of the sender and bounded drains may come in any order. What a channel has
handed over is at every moment a prefix of the samples that were sent in front of the
first event that closes it. It is closed by that event, or by the end of a sender that
has sent none, and only when all these samples have been handed over.

`drainCounted_of_live` says all that a drain does. `Source.Delivered` is the invariant:
what was sent is what was handed over and what is still queued, or the channel is closed
and owes nothing.
-/

namespace StreamPlot

theorem StreamStatus.isClosed_iff {status : StreamStatus} :
    status.isClosed = true ↔ status ≠ .live := by
  cases status <;> simp [isClosed]

/-- The samples in front of the first event that is none. -/
def leading : List SourceEvent → List Sample
  | .sample sample :: events => sample :: leading events
  | _ => []

/-- What becomes of a channel with these events once it has been emptied: the first event
that is no sample decides, and where there is none, whether the sender has gone. -/
def settled (hungUp : Bool) : List SourceEvent → StreamStatus
  | [] => if hungUp then .ended else .live
  | .sample _ :: events => settled hungUp events
  | .ended :: _ => .ended
  | .failed message :: _ => .failed message

theorem leading_append_samples (samples : List Sample) (events : List SourceEvent) :
    leading (samples.map .sample ++ events) = samples ++ leading events := by
  induction samples with
  | nil => rfl
  | cons sample samples ih => rw [List.map_cons, List.cons_append, leading, ih, List.cons_append]

theorem settled_append_samples (hungUp : Bool) (samples : List Sample)
    (events : List SourceEvent) :
    settled hungUp (samples.map .sample ++ events) = settled hungUp events := by
  induction samples with
  | nil => rfl
  | cons sample samples ih => rw [List.map_cons, List.cons_append, settled, ih]

/-- The leading samples are the front of the events. -/
theorem take_leading_append_drop {count : Nat} {events : List SourceEvent}
    (h : count ≤ (leading events).length) :
    ((leading events).take count).map .sample ++ events.drop count = events := by
  induction events generalizing count with
  | nil => simp [leading]
  | cons event events ih =>
      cases count with
      | zero => rfl
      | succ count =>
          cases event with
          | sample sample =>
              rw [leading, List.take_succ_cons, List.map_cons, List.drop_succ_cons,
                List.cons_append, ih (by simpa [leading] using h)]
          | ended => simp [leading] at h
          | failed message => simp [leading] at h

/-- A channel that stays open when it has been emptied holds nothing but samples. -/
theorem map_leading_of_settled_live {hungUp : Bool} {events : List SourceEvent}
    (h : settled hungUp events = .live) : (leading events).map .sample = events := by
  induction events with
  | nil => rfl
  | cons event events ih =>
      cases event with
      | sample sample => rw [leading, List.map_cons, ih h]
      | ended => simp [settled] at h
      | failed message => simp [settled] at h

theorem drop_leading_of_settled_live {hungUp : Bool} {events : List SourceEvent}
    (h : settled hungUp events = .live) : events.drop ((leading events).length + 1) = [] := by
  rw [List.drop_eq_nil_iff, ← List.length_map (f := SourceEvent.sample),
    map_leading_of_settled_live h]
  exact Nat.le_succ _

/-- Nothing that comes behind the event that closes a channel counts. -/
theorem append_of_settled {events : List SourceEvent} {status : StreamStatus}
    (hsettled : settled false events = status) (hclosed : status.isClosed = true)
    (hungUp : Bool) (more : List SourceEvent) :
    settled hungUp (events ++ more) = status ∧ leading (events ++ more) = leading events := by
  induction events with
  | nil =>
      rw [← hsettled] at hclosed
      simp [settled, StreamStatus.isClosed] at hclosed
  | cons event events ih =>
      cases event with
      | sample sample =>
          obtain ⟨hstatus, hleading⟩ := ih hsettled
          rw [List.cons_append, settled, leading, leading, hstatus, hleading]
          exact ⟨rfl, rfl⟩
      | ended => exact ⟨hsettled, rfl⟩
      | failed message => exact ⟨hsettled, rfl⟩

theorem leading_prefix_append (events more : List SourceEvent) :
    leading events <+: leading (events ++ more) := by
  induction events with
  | nil => exact List.nil_prefix
  | cons event events ih =>
      cases event with
      | sample sample => exact (List.prefix_cons_inj sample).mpr ih
      | ended => exact List.prefix_rfl
      | failed message => exact List.prefix_rfl

theorem length_leading_le (events : List SourceEvent) :
    (leading events).length ≤ events.length := by
  induction events with
  | nil => exact Nat.le_refl 0
  | cons event events ih =>
      cases event with
      | sample sample => exact Nat.succ_le_succ ih
      | ended => exact Nat.zero_le _
      | failed message => exact Nat.zero_le _

/-- A channel whose sender has gone is closed once it has been emptied. -/
theorem isClosed_settled_true (events : List SourceEvent) :
    (settled true events).isClosed = true := by
  induction events with
  | nil => rfl
  | cons event events ih =>
      cases event with
      | sample sample => exact ih
      | ended => rfl
      | failed message => rfl

inductive ChannelStep where
  | send (event : SourceEvent)
  /-- The sender goes. What is sent after that is lost. -/
  | hangUp
  | drain (limit : Nat)
  deriving DecidableEq, Repr, Inhabited

structure Handover where
  limit : Nat
  /-- The number of samples, as the drain has counted them. -/
  count : Nat
  samples : List Sample
  deriving DecidableEq, Repr, Inhabited

/-- The events that are sent while the sender is there. -/
def sentBy : List ChannelStep → List SourceEvent
  | [] => []
  | .send event :: steps => event :: sentBy steps
  | .hangUp :: _ => []
  | .drain _ :: steps => sentBy steps

namespace Source

/-! ## One send -/

theorem send_of_hungUp {source : Source} (h : source.hungUp = true)
    (events : List SourceEvent) : source.send events = source :=
  if_pos h

theorem send_of_open {source : Source} (h : source.hungUp = false)
    (events : List SourceEvent) :
    source.send events = { source with queue := source.queue ++ events } :=
  if_neg (by simp [h])

theorem status_send (source : Source) (events : List SourceEvent) :
    (source.send events).status = source.status := by
  rw [send]
  split <;> rfl

theorem hungUp_send (source : Source) (events : List SourceEvent) :
    (source.send events).hungUp = source.hungUp := by
  rw [send]
  split <;> rfl

/-! ## One drain -/

theorem hungUp_drainCounted (source : Source) (limit : Nat) :
    (source.drainCounted limit).2.2.hungUp = source.hungUp := by
  rw [drainCounted]
  split <;> rfl

theorem drainOpen_limit (hungUp : Bool) (limit : Nat) (queue : List SourceEvent)
    (handed : Array Sample) :
    drainOpen hungUp limit queue limit handed = (limit, handed, queue, .live) := by
  cases queue with
  | nil => simp [drainOpen]
  | cons event queue => simp [drainOpen]

/-- All that taking from an open channel does: with room for no more samples than are
leading it takes as many as there is room for; otherwise it takes them all, looks at what
comes behind them, and the channel is settled. -/
theorem drainOpen_eq (hungUp : Bool) (limit : Nat) (queue : List SourceEvent) (count : Nat)
    (handed : Array Sample) (hcount : count ≤ limit) :
    drainOpen hungUp limit queue count handed =
      if limit - count ≤ (leading queue).length then
        (limit, (handed.toList ++ (leading queue).take (limit - count)).toArray,
          queue.drop (limit - count), .live)
      else
        (count + (leading queue).length, (handed.toList ++ leading queue).toArray,
          queue.drop ((leading queue).length + 1), settled hungUp queue) := by
  -- The room `limit - count` shrinks with the queue, so what is left to take stays the same.
  induction queue generalizing count handed with
  | nil =>
      rcases Nat.lt_or_eq_of_le hcount with hroom | rfl
      · rw [if_neg (by simp only [leading, List.length_nil]; omega)]
        simp [drainOpen, leading, settled, hroom]
      · rw [drainOpen_limit]
        simp
  | cons event queue ih =>
      rcases Nat.lt_or_eq_of_le hcount with hroom | rfl
      · cases event with
        | sample sample =>
            have hless : limit - count = limit - (count + 1) + 1 := by omega
            have hsum : count + ((leading queue).length + 1) =
                count + 1 + (leading queue).length := by omega
            simp only [drainOpen, hroom, if_true, leading, List.length_cons]
            rw [ih (count + 1) (handed.push sample) hroom, hless, hsum]
            simp only [Nat.add_le_add_iff_right, List.take_succ_cons, List.drop_succ_cons,
              settled, Array.toList_push, List.append_assoc, List.singleton_append]
        | ended =>
            rw [if_neg (by simp only [leading, List.length_nil]; omega)]
            simp [drainOpen, hroom, leading, settled]
        | failed message =>
            rw [if_neg (by simp only [leading, List.length_nil]; omega)]
            simp [drainOpen, hroom, leading, settled]
      · rw [drainOpen_limit]
        simp

theorem drainCounted_of_isClosed {source : Source} (h : source.status.isClosed = true)
    (limit : Nat) : source.drainCounted limit = (0, [], source) :=
  if_pos h

theorem drainCounted_of_live {source : Source} (h : source.status = .live) (limit : Nat) :
    source.drainCounted limit =
      if limit ≤ (leading source.queue).length then
        (limit, (leading source.queue).take limit,
          { source with queue := source.queue.drop limit })
      else
        ((leading source.queue).length, leading source.queue,
          { source with
            queue := source.queue.drop ((leading source.queue).length + 1)
            status := settled source.hungUp source.queue }) := by
  rw [drainCounted, if_neg (by simp [h, StreamStatus.isClosed]),
    drainOpen_eq _ _ _ _ _ (Nat.zero_le _)]
  by_cases hlimit : limit ≤ (leading source.queue).length
  · simp [hlimit, h]
  · simp [hlimit]

theorem count_drainCounted (source : Source) (limit : Nat) :
    (source.drainCounted limit).1 = (source.drainCounted limit).2.1.length ∧
      (source.drainCounted limit).1 ≤ limit := by
  by_cases hstatus : source.status = .live
  · rw [drainCounted_of_live hstatus]
    split
    next hlimit => exact ⟨(List.length_take_of_le hlimit).symm, Nat.le_refl limit⟩
    next hlimit => exact ⟨rfl, Nat.le_of_not_le hlimit⟩
  · rw [drainCounted_of_isClosed (StreamStatus.isClosed_iff.mpr hstatus)]
    exact ⟨rfl, Nat.zero_le limit⟩

/-- Whoever drains a channel again and again after the sender has gone comes to its end. -/
theorem drainCounted_isClosed_or_shorter {source : Source} (h : source.hungUp = true) {limit : Nat}
    (hlimit : 0 < limit) :
    (source.drainCounted limit).2.2.status.isClosed = true ∨
      (source.drainCounted limit).2.2.queue.length < source.queue.length := by
  by_cases hstatus : source.status = .live
  · rw [drainCounted_of_live hstatus]
    split
    next hfull =>
      right
      have hleading := length_leading_le source.queue
      rw [List.length_drop]
      omega
    next =>
      left
      rw [h]
      exact isClosed_settled_true source.queue
  · left
    have hclosed := StreamStatus.isClosed_iff.mpr hstatus
    rwa [drainCounted_of_isClosed hclosed]

/-! ## The account of a channel -/

/-- Of the events that were sent to a channel some samples have been handed over. An open
channel still holds the rest. A closed one has been settled, and has handed over all that
counts. -/
inductive Delivered (sent : List SourceEvent) (handed : List Sample) (source : Source) :
    Prop where
  | live (hstatus : source.status = .live)
      (hsent : handed.map .sample ++ source.queue = sent)
  | closed (hclosed : source.status.isClosed = true)
      (hsettled : settled source.hungUp sent = source.status) (hhanded : leading sent = handed)

namespace Delivered

variable {sent : List SourceEvent} {handed : List Sample} {source : Source}

theorem handed_prefix (h : source.Delivered sent handed) : handed <+: leading sent := by
  cases h with
  | live _ hsent =>
      rw [← hsent, leading_append_samples]
      exact List.prefix_append _ _
  | closed _ _ hhanded => exact hhanded ▸ List.prefix_rfl

theorem send (h : source.Delivered sent handed) (hopen : source.hungUp = false)
    (events : List SourceEvent) : (source.send events).Delivered (sent ++ events) handed := by
  rw [send_of_open hopen]
  cases h with
  | live hstatus hsent => exact .live hstatus (by rw [← hsent, List.append_assoc])
  | closed hclosed hsettled hhanded =>
      rw [hopen] at hsettled
      obtain ⟨hstatus, hleading⟩ := append_of_settled hsettled hclosed source.hungUp events
      exact .closed hclosed hstatus (hleading.trans hhanded)

theorem hangUp (h : source.Delivered sent handed) : source.hangUp.Delivered sent handed := by
  cases h with
  | live hstatus hsent => exact .live hstatus hsent
  | closed hclosed hsettled hhanded =>
      refine .closed hclosed ?_ hhanded
      change settled true sent = source.status
      cases hopen : source.hungUp with
      | true => rw [← hsettled, hopen]
      | false =>
          rw [hopen] at hsettled
          have hstatus := (append_of_settled hsettled hclosed true []).1
          rwa [List.append_nil] at hstatus

/-- What the next drain hands over is what comes next. -/
theorem samples_drainCounted (h : source.Delivered sent handed) (limit : Nat) :
    (source.drainCounted limit).2.1 = ((leading sent).drop handed.length).take limit := by
  cases h with
  | live hstatus hsent =>
      rw [← hsent, leading_append_samples, List.drop_left, drainCounted_of_live hstatus]
      split
      next => rfl
      next hlimit => exact (List.take_of_length_le (Nat.le_of_not_le hlimit)).symm
  | closed hclosed _ hhanded =>
      rw [drainCounted_of_isClosed hclosed, hhanded, List.drop_length, List.take_nil]

theorem drain (h : source.Delivered sent handed) (limit : Nat) :
    (source.drainCounted limit).2.2.Delivered sent
      (handed ++ (source.drainCounted limit).2.1) := by
  cases h with
  | live hstatus hsent =>
      rw [drainCounted_of_live hstatus]
      split
      next hlimit =>
        refine .live hstatus ?_
        rw [List.map_append, List.append_assoc, take_leading_append_drop hlimit, hsent]
      next =>
        by_cases hsettled : settled source.hungUp source.queue = .live
        · refine .live hsettled ?_
          rw [drop_leading_of_settled_live hsettled, List.append_nil, List.map_append,
            map_leading_of_settled_live hsettled, hsent]
        · refine .closed (StreamStatus.isClosed_iff.mpr hsettled) ?_ ?_
          · rw [← hsent, settled_append_samples]
          · rw [← hsent, leading_append_samples]
  | closed hclosed hsettled hhanded =>
      rw [drainCounted_of_isClosed hclosed, List.append_nil]
      exact .closed hclosed hsettled hhanded

end Delivered

/-! ## Runs -/

/-- What comes of the drains among some steps, and the channel after them. -/
def run (source : Source) : List ChannelStep → List Handover × Source
  | [] => ([], source)
  | .send event :: steps => (source.send [event]).run steps
  | .hangUp :: steps => source.hangUp.run steps
  | .drain limit :: steps =>
      let (count, samples, next) := source.drainCounted limit
      let (handovers, last) := next.run steps
      (⟨limit, count, samples⟩ :: handovers, last)

theorem run_drain (source : Source) (limit : Nat) (steps : List ChannelStep) :
    source.run (.drain limit :: steps) =
      (⟨limit, (source.drainCounted limit).1, (source.drainCounted limit).2.1⟩ ::
          ((source.drainCounted limit).2.2.run steps).1,
        ((source.drainCounted limit).2.2.run steps).2) := rfl

theorem Delivered.run_of_hungUp {sent : List SourceEvent} {handed : List Sample}
    {source : Source} (h : source.Delivered sent handed) (hgone : source.hungUp = true)
    (steps : List ChannelStep) :
    (source.run steps).2.hungUp = true ∧
      (source.run steps).2.Delivered sent
        (handed ++ (source.run steps).1.flatMap Handover.samples) := by
  induction steps generalizing handed source with
  | nil => exact ⟨hgone, by simpa [Source.run] using h⟩
  | cons step steps ih =>
      cases step with
      | send event =>
          rw [Source.run, send_of_hungUp hgone]
          exact ih h hgone
      | hangUp => exact ih h.hangUp rfl
      | drain limit =>
          rw [run_drain, List.flatMap_cons, ← List.append_assoc]
          exact ih (h.drain limit) (by rw [hungUp_drainCounted, hgone])

theorem Delivered.run {sent : List SourceEvent} {handed : List Sample} {source : Source}
    (h : source.Delivered sent handed) (hopen : source.hungUp = false)
    (steps : List ChannelStep) :
    (source.run steps).2.hungUp = decide (.hangUp ∈ steps) ∧
      (source.run steps).2.Delivered (sent ++ sentBy steps)
        (handed ++ (source.run steps).1.flatMap Handover.samples) := by
  induction steps generalizing sent handed source with
  | nil => exact ⟨by simpa [Source.run] using hopen, by simpa [Source.run, sentBy] using h⟩
  | cons step steps ih =>
      cases step with
      | send event =>
          obtain ⟨hgone, hrun⟩ := ih (h.send hopen [event]) (by rw [hungUp_send, hopen])
          rw [List.append_assoc] at hrun
          exact ⟨by rw [Source.run, hgone]; simp, hrun⟩
      | hangUp =>
          -- From here on nothing is sent, so the other account takes over.
          obtain ⟨hgone, hrun⟩ := h.hangUp.run_of_hungUp rfl steps
          rw [sentBy, List.append_nil]
          exact ⟨by rw [Source.run, hgone]; simp, hrun⟩
      | drain limit =>
          obtain ⟨hgone, hrun⟩ := ih (h.drain limit) (by rw [hungUp_drainCounted, hopen])
          rw [run_drain, List.flatMap_cons, ← List.append_assoc]
          exact ⟨by rw [hgone]; simp, hrun⟩

theorem count_of_mem_run {source : Source} {steps : List ChannelStep} {handover : Handover}
    (h : handover ∈ (source.run steps).1) :
    handover.count = handover.samples.length ∧ handover.count ≤ handover.limit := by
  induction steps generalizing source with
  | nil => simp [run] at h
  | cons step steps ih =>
      cases step with
      | send event => exact ih h
      | hangUp => exact ih h
      | drain limit =>
          rw [run_drain, List.mem_cons] at h
          rcases h with rfl | h
          · exact source.count_drainCounted limit
          · exact ih h

theorem run_of_isClosed {source : Source} (h : source.status.isClosed = true)
    (steps : List ChannelStep) :
    (source.run steps).2.status = source.status ∧
      ∀ handover ∈ (source.run steps).1, handover.count = 0 ∧ handover.samples = [] := by
  induction steps generalizing source with
  | nil => simp [run]
  | cons step steps ih =>
      cases step with
      | send event =>
          rw [run, ← source.status_send [event]]
          exact ih (by rw [status_send, h])
      | hangUp => exact ih h
      | drain limit =>
          rw [run_drain, drainCounted_of_isClosed h]
          obtain ⟨hstatus, hnothing⟩ := ih h
          refine ⟨hstatus, ?_⟩
          intro handover hmem
          rcases List.mem_cons.mp hmem with rfl | hmem
          · exact ⟨rfl, rfl⟩
          · exact hnothing handover hmem

/-- Whatever is sent to a channel and drained from it, in any order: what has been handed
over is the front of the samples that count, every drain counts what it hands over and
stays within its limit, and the next one would hand over what comes next. The channel is
open, or it has been settled and all samples that count have been handed over. Once it is
closed, nothing more comes of it. -/
theorem run_hands_over_what_was_sent (steps : List ChannelStep) :
    let run := ({} : Source).run steps
    let handed := run.1.flatMap Handover.samples
    handed <+: leading (sentBy steps) ∧
      (∀ handover ∈ run.1,
        handover.count = handover.samples.length ∧ handover.count ≤ handover.limit) ∧
      (∀ limit, (run.2.drainCounted limit).2.1 =
        ((leading (sentBy steps)).drop handed.length).take limit) ∧
      (run.2.status = .live ∨
        run.2.status = settled (decide (.hangUp ∈ steps)) (sentBy steps) ∧
          handed = leading (sentBy steps)) ∧
      (run.2.status.isClosed = true → ∀ more,
        (run.2.run more).2.status = run.2.status ∧
          ∀ handover ∈ (run.2.run more).1, handover.count = 0 ∧ handover.samples = []) := by
  intro run handed
  have hstart : ({} : Source).Delivered [] [] := .live rfl rfl
  obtain ⟨hgone, hrun⟩ := hstart.run rfl steps
  rw [List.nil_append, List.nil_append] at hrun
  refine ⟨hrun.handed_prefix, fun _ => count_of_mem_run, hrun.samples_drainCounted, ?_,
    run_of_isClosed⟩
  cases hrun with
  | live hstatus _ => exact .inl hstatus
  | closed _ hsettled hhanded => exact .inr ⟨by rw [← hgone, hsettled], hhanded.symm⟩

/-- The event that closes a channel waits behind exactly as many samples as were asked
for, and only the first such event counts. -/
example :
    let steps : List ChannelStep :=
      [.send (.sample ⟨1, 2⟩), .send (.failed "gone"), .send .ended, .drain 1]
    (({} : Source).run steps).2.status = .live ∧
      (({} : Source).run (steps ++ [.drain 1])).2.status = .failed "gone" := by
  decide

end Source

end StreamPlot
