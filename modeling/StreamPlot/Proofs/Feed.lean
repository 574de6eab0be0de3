import StreamPlot.Viewer
import StreamPlot.Proofs.Channel
import StreamPlot.Proofs.Headless

/-!
# A viewer comes to what a headless run comes to

A feeder and a viewer stand at the two ends of a channel and take their turns in any
order. What the feeder has sent and what it has still to send are together the events of
its reader, whatever the order, so the account of the channel says how much of them the
viewer has folded in. A viewer that knows its stream to be closed has folded in
everything, and knows what a headless run over the same input would have come to.
-/

namespace StreamPlot

theorem Plot.size_pushAll (plot : Plot) (samples : List Sample) :
    (plot.pushAll samples).size = plot.size + samples.length := by
  induction samples generalizing plot with
  | nil => rfl
  | cons sample samples ih =>
      change ((plot.push sample).pushAll samples).size = _
      rw [ih, size_push, List.length_cons]
      omega

theorem Plot.size_ofList (samples : List Sample) :
    (ofList samples).size = samples.length := by
  rw [ofList, size_pushAll]
  exact Nat.zero_add _

theorem Plot.pushAll_ofList (samples more : List Sample) :
    (ofList samples).pushAll more = ofList (samples ++ more) := by
  simp only [ofList, pushAll, List.foldl_append]

/-! ## What a reader sends -/

/-- How a channel is left by a feeder whose input ends in this way. -/
def StreamStatus.ofFault? : Option Fault → StreamStatus
  | none => .ended
  | some fault => .failed (Failure.io fault).message

namespace Reader

theorem events_eq_ahead (reader : Reader) :
    reader.events = reader.ahead.map SourceEvent.ofItem ++ [.ended] := by
  rw [events, items_eq_ahead]

theorem events_of_some {reader : Reader} {item : Except Fault Sample}
    (h : reader.item? = some item) :
    reader.events = .ofItem item :: reader.next.reader.events := by
  rw [item?_eq_head?, List.head?_eq_some_iff] at h
  obtain ⟨rest, hahead⟩ := h
  rw [events_eq_ahead, events_eq_ahead, ahead_next, hahead]
  rfl

theorem events_of_none {reader : Reader} (h : reader.item? = none) :
    reader.events = [.ended] := by
  rw [item?_eq_head?, List.head?_eq_none_iff] at h
  rw [events_eq_ahead, h]
  rfl

theorem events_of_live {reader : Reader} (hlive : reader.finished = false) :
    reader.events = (decodeAll reader.input.data).map .sample ++
      ((reader.input.fault?.map fun fault => .failed (Failure.io fault).message).toList ++
        [.ended]) := by
  rw [events_eq_ahead, ahead_of_live hlive, List.map_append, List.map_map,
    List.append_assoc]
  cases reader.input.fault? <;> rfl

theorem leading_events {reader : Reader} (hlive : reader.finished = false) :
    leading reader.events = decodeAll reader.input.data := by
  rw [events_of_live hlive, leading_append_samples]
  cases reader.input.fault? <;> exact List.append_nil _

/-- A failure is what closes the channel, although the end is sent behind it. -/
theorem settled_events {reader : Reader} (hlive : reader.finished = false) (hungUp : Bool) :
    settled hungUp reader.events = .ofFault? reader.input.fault? := by
  rw [events_of_live hlive, settled_append_samples]
  cases reader.input.fault? <;> rfl

end Reader

/-! ## A feeder and a viewer -/

namespace Feeder

/-- What a feeder has still to send. -/
def pending (feeder : Feeder) : List SourceEvent :=
  match feeder.phase with
  | .reading => feeder.reader.events
  | .ended => []
  | .gone => []

def isGone (feeder : Feeder) : Bool := decide (feeder.phase = .gone)

/-- What one turn of a feeder does to the channel, and to what is pending. -/
inductive Move (feeder next : Feeder) (source left : Source) : Prop where
  | send (event : SourceEvent) (hopen : feeder.isGone = false) (hstays : next.isGone = false)
      (hpending : feeder.pending = event :: next.pending) (hleft : left = source.send [event])
  | hangUp (hpending : feeder.pending = []) (hempty : next.pending = [])
      (hgoes : next.isGone = true) (hleft : left = source.hangUp)
  | rest (hgone : feeder.isGone = true) (hnext : next = feeder) (hleft : left = source)

theorem move_step (feeder : Feeder) (source : Source) :
    feeder.Move (feeder.step source).1 source (feeder.step source).2 := by
  have hgone : feeder.isGone = decide (feeder.phase = .gone) := rfl
  unfold step
  cases hphase : feeder.phase with
  | reading =>
      rw [hphase] at hgone
      cases hitem : feeder.reader.item? with
      | some item =>
          refine .send (.ofItem item) hgone rfl ?_ rfl
          rw [pending, hphase]
          exact Reader.events_of_some hitem
      | none =>
          refine .send .ended hgone rfl ?_ rfl
          rw [pending, hphase]
          exact Reader.events_of_none hitem
  | ended => exact .hangUp (by rw [pending, hphase]) rfl rfl rfl
  | gone =>
      rw [hphase] at hgone
      exact .rest hgone rfl rfl

theorem pending_of_isGone {feeder : Feeder} (h : feeder.isGone = true) :
    feeder.pending = [] := by
  have hphase : feeder.phase = .gone := of_decide_eq_true h
  rw [pending, hphase]

end Feeder

/-- A feeder and a viewer at the two ends of a channel. -/
structure Feed where
  feeder : Feeder
  source : Source
  viewer : Viewer

inductive FeedTurn where
  | feeder
  | viewer
  deriving DecidableEq, Repr, Inhabited

namespace Feed

def start (reader : Reader) (settings : Settings) : Feed where
  feeder := { reader }
  source := {}
  viewer := .new settings

def step (feed : Feed) : FeedTurn → Feed
  | .feeder =>
      let (feeder, source) := feed.feeder.step feed.source
      { feed with feeder, source }
  | .viewer =>
      let (viewer, source, _) := feed.viewer.pump feed.source
      { feed with viewer, source }

def run (feed : Feed) (turns : List FeedTurn) : Feed :=
  turns.foldl step feed

theorem run_cons (feed : Feed) (turn : FeedTurn) (turns : List FeedTurn) :
    feed.run (turn :: turns) = (feed.step turn).run turns := rfl

theorem run_append (feed : Feed) (turns more : List FeedTurn) :
    feed.run (turns ++ more) = (feed.run turns).run more :=
  List.foldl_append

theorem source_step_viewer (feed : Feed) :
    (feed.step .viewer).source = (feed.source.drainCounted samplesPerTick).2.2 := rfl

theorem stream_step_viewer (feed : Feed) :
    (feed.step .viewer).viewer.stream = (feed.step .viewer).source.status := rfl

theorem plot_step_viewer (feed : Feed) :
    (feed.step .viewer).viewer.plot =
      feed.viewer.plot.pushAll (feed.source.drainCounted samplesPerTick).2.1 := rfl

/-! ## The account of a feed -/

/-- Of some events a feeder has sent the front, and still has the rest to send. The
channel has handed over some samples of that front, and these are what the viewer shows.
What the viewer knows of the stream is what the channel has come to. -/
structure Keeps (events : List SourceEvent) (handed : List Sample) (feed : Feed) : Prop where
  delivered : ∃ sent, sent ++ feed.feeder.pending = events ∧ feed.source.Delivered sent handed
  hungUp_eq : feed.source.hungUp = feed.feeder.isGone
  plot_eq : feed.viewer.plot = .ofList handed
  stream_eq : feed.viewer.stream = feed.source.status

theorem keeps_start (reader : Reader) (settings : Settings) :
    (start reader settings).Keeps reader.events [] where
  delivered := ⟨[], rfl, .live rfl rfl⟩
  hungUp_eq := rfl
  plot_eq := rfl
  stream_eq := rfl

namespace Keeps

variable {events : List SourceEvent} {handed : List Sample} {feed : Feed}

/-- A feeder's turn hands nothing over. -/
theorem feeder (h : feed.Keeps events handed) : (feed.step .feeder).Keeps events handed := by
  obtain ⟨⟨sent, hevents, hdelivered⟩, hhungUp, hplot, hstream⟩ := h
  have hmove : feed.feeder.Move (feed.step .feeder).feeder feed.source
      (feed.step .feeder).source := feed.feeder.move_step feed.source
  cases hmove with
  | send event hopen hstays hpending hleft =>
      rw [hopen] at hhungUp
      rw [hpending] at hevents
      refine ⟨⟨sent ++ [event], ?_, ?_⟩, ?_, hplot, ?_⟩
      · rw [← hevents, List.append_assoc, List.singleton_append]
      · rw [hleft]
        exact hdelivered.send hhungUp [event]
      · rw [hleft, Source.hungUp_send, hstays, hhungUp]
      · rw [hleft, Source.status_send]
        exact hstream
  | hangUp hpending hempty hgoes hleft =>
      rw [hpending, ← hempty] at hevents
      refine ⟨⟨sent, hevents, ?_⟩, ?_, hplot, ?_⟩
      · rw [hleft]
        exact hdelivered.hangUp
      · rw [hleft, hgoes]
        rfl
      · rw [hleft]
        exact hstream
  | rest _ hnext hleft =>
      refine ⟨⟨sent, ?_, ?_⟩, ?_, hplot, ?_⟩
      · rw [hnext, hevents]
      · rwa [hleft]
      · rw [hleft, hnext, hhungUp]
      · rw [hleft]
        exact hstream

/-- A viewer's turn folds in what the channel hands over. -/
theorem viewer (h : feed.Keeps events handed) :
    (feed.step .viewer).Keeps events
      (handed ++ (feed.source.drainCounted samplesPerTick).2.1) := by
  obtain ⟨⟨sent, hevents, hdelivered⟩, hhungUp, hplot, hstream⟩ := h
  refine ⟨⟨sent, hevents, hdelivered.drain samplesPerTick⟩, ?_, ?_, feed.stream_step_viewer⟩
  · rw [source_step_viewer, Source.hungUp_drainCounted]
    exact hhungUp
  · rw [plot_step_viewer, hplot, Plot.pushAll_ofList]

theorem run (h : feed.Keeps events handed) (turns : List FeedTurn) :
    ∃ more, (feed.run turns).Keeps events (handed ++ more) := by
  induction turns generalizing feed handed with
  | nil => exact ⟨[], by rwa [List.append_nil]⟩
  | cons turn turns ih =>
      rw [run_cons]
      cases turn with
      | feeder => exact ih h.feeder
      | viewer =>
          obtain ⟨more, hrun⟩ := ih h.viewer
          rw [List.append_assoc] at hrun
          exact ⟨_, hrun⟩

theorem handed_prefix (h : feed.Keeps events handed) : handed <+: leading events := by
  obtain ⟨sent, hevents, hdelivered⟩ := h.delivered
  rw [← hevents]
  exact hdelivered.handed_prefix.trans (leading_prefix_append sent _)

/-- A viewer that knows the stream to be closed shows all samples that count, and knows
what has closed it. -/
theorem of_isClosed (h : feed.Keeps events handed) (hclosed : feed.viewer.stream.isClosed = true) :
    handed = leading events ∧ feed.viewer.stream = settled true events := by
  obtain ⟨sent, hevents, hdelivered⟩ := h.delivered
  rw [h.stream_eq] at hclosed ⊢
  cases hdelivered with
  | live hstatus _ => simp [hstatus, StreamStatus.isClosed] at hclosed
  | closed _ hsettled hhanded =>
      cases hhungUp : feed.source.hungUp with
      | true =>
          have hpending : feed.feeder.pending = [] :=
            Feeder.pending_of_isGone (h.hungUp_eq.symm.trans hhungUp)
          rw [hpending, List.append_nil] at hevents
          rw [← hevents, ← hsettled, hhungUp, hhanded]
          exact ⟨rfl, rfl⟩
      | false =>
          -- What is still to come stands behind the event that has closed the channel.
          rw [hhungUp] at hsettled
          obtain ⟨hstatus, hleading⟩ :=
            append_of_settled hsettled hclosed true feed.feeder.pending
          rw [← hevents, hleading, hstatus, hhanded]
          exact ⟨rfl, rfl⟩

end Keeps

/-! ## Every feed can be closed -/

/-- A feeder that has its turns sends everything and lets the channel go. -/
theorem exists_isGone (feed : Feed) : ∃ turns, (feed.run turns).feeder.isGone = true := by
  induction hpending : feed.feeder.pending generalizing feed with
  | nil =>
      refine ⟨[.feeder], ?_⟩
      rw [run_cons]
      cases feed.feeder.move_step feed.source with
      | send event _ _ hsends _ => simp [hpending] at hsends
      | hangUp _ _ hgoes _ => exact hgoes
      | rest hgone hnext _ => exact (congrArg Feeder.isGone hnext).trans hgone
  | cons event events ih =>
      cases feed.feeder.move_step feed.source with
      | send sentEvent _ _ hsends _ =>
          rw [hpending, List.cons.injEq] at hsends
          obtain ⟨turns, hgone⟩ := ih (feed.step .feeder) hsends.2.symm
          exact ⟨.feeder :: turns, hgone⟩
      | hangUp hempty _ _ _ => simp [hpending] at hempty
      | rest hgone _ _ => exact ⟨[], hgone⟩

/-- A viewer that has its turns comes to the end of a channel that has been let go. -/
theorem exists_isClosed_of_hungUp {feed : Feed} (h : feed.source.hungUp = true) :
    ∃ turns, (feed.run turns).viewer.stream.isClosed = true := by
  induction hsize : feed.source.queue.length using Nat.strongRecOn generalizing feed with
  | _ size ih =>
      have hpositive : 0 < samplesPerTick := by decide
      rcases Source.drainCounted_isClosed_or_shorter h hpositive with hclosed | hshorter
      · refine ⟨[.viewer], ?_⟩
        change (feed.step .viewer).viewer.stream.isClosed = true
        rwa [stream_step_viewer, source_step_viewer]
      · have hgone : (feed.step .viewer).source.hungUp = true := by
          rw [source_step_viewer, Source.hungUp_drainCounted, h]
        obtain ⟨turns, hclosed⟩ := ih _ (hsize ▸ hshorter) hgone rfl
        exact ⟨.viewer :: turns, hclosed⟩

theorem Keeps.exists_isClosed {events : List SourceEvent} {handed : List Sample} {feed : Feed}
    (h : feed.Keeps events handed) :
    ∃ turns, (feed.run turns).viewer.stream.isClosed = true := by
  obtain ⟨reading, hgone⟩ := feed.exists_isGone
  obtain ⟨_, hkeeps⟩ := h.run reading
  obtain ⟨viewing, hclosed⟩ := exists_isClosed_of_hungUp (hkeeps.hungUp_eq.trans hgone)
  exact ⟨reading ++ viewing, by rwa [run_append]⟩

/-- Feeder and viewer may move in any order. The viewer shows at every moment the first
of the samples in the input. When it knows the stream to be closed it shows all of them,
and the stream has ended, or failed, as a headless run over the same input ends or fails,
with the same plot or the same message. It can always come to know that. -/
theorem viewer_agrees_with_headless (input : Input) (echo other : Echo) (settings : Settings)
    (turns : List FeedTurn) :
    let feed := (start (.ofInput input echo) settings).run turns
    let viewer := feed.viewer
    let samples := decodeAll input.data
    let outcome := (HeadlessRun.ofReader (.ofInput input other)).outcome
    (viewer.plot.size ≤ samples.length ∧
        viewer.plot = .ofList (samples.take viewer.plot.size)) ∧
      (viewer.stream.isClosed = true →
        viewer.plot = .ofList samples ∧
          (∀ plot, outcome = .ok plot ↔ viewer.stream = .ended ∧ viewer.plot = plot) ∧
          ∀ message, (∃ failure, outcome = .error failure ∧ failure.message = message) ↔
            viewer.stream = .failed message) ∧
      ∃ more, (feed.run more).viewer.stream.isClosed = true := by
  intro feed viewer samples outcome
  have hlive : (Reader.ofInput input echo).finished = false := rfl
  obtain ⟨handed, hrun⟩ := (keeps_start (.ofInput input echo) settings).run turns
  have hplot : viewer.plot = .ofList handed := hrun.plot_eq
  have hsize : viewer.plot.size = handed.length := by rw [hplot, Plot.size_ofList]
  have hprefix : handed <+: samples := by
    have hleading := hrun.handed_prefix
    rwa [Reader.leading_events hlive] at hleading
  refine ⟨⟨?_, ?_⟩, ?_, hrun.exists_isClosed⟩
  · rw [hsize]
    exact hprefix.length_le
  · rw [hsize, ← List.prefix_iff_eq_take.mp hprefix, hplot]
  · intro hclosed
    obtain ⟨hhanded, hstream⟩ := hrun.of_isClosed hclosed
    have hall : viewer.plot = .ofList samples := by
      rw [hplot]
      exact congrArg Plot.ofList (hhanded.trans (Reader.leading_events hlive))
    have hsettled : viewer.stream = .ofFault? input.fault? :=
      hstream.trans (Reader.settled_events hlive true)
    have houtcome : outcome = input.fault?.elim (.ok (.ofList samples)) fun fault =>
      .error (.io fault) := HeadlessRun.outcome_ofReader rfl
    refine ⟨hall, ?_, ?_⟩
    · intro plot
      rw [houtcome, hsettled, hall]
      cases input.fault? <;> simp [StreamStatus.ofFault?]
    · intro message
      rw [houtcome, hsettled]
      cases input.fault? <;> simp [StreamStatus.ofFault?]

end Feed

end StreamPlot
