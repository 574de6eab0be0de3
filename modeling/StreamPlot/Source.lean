import StreamPlot.Reader

/-!
# The channel between reader and viewer

The viewer must never wait for its input, so a reader runs beside it and sends
what it reads over a first-in-first-out channel. A source is the viewer's end of
that channel. It takes as many samples as it is asked for, and is closed by the
first event that is no sample; what comes behind that event is never looked at.
-/

namespace StreamPlot

/-- What a reader sends to a viewer. -/
inductive SourceEvent where
  | sample (sample : Sample)
  | ended
  /-- The input has failed, for the reason that is told. -/
  | failed (message : String)
  deriving DecidableEq, Repr, Inhabited

/-- What a viewer knows of its input. -/
inductive StreamStatus where
  | live
  | ended
  | failed (message : String)
  deriving DecidableEq, Repr, Inhabited

def StreamStatus.isClosed : StreamStatus → Bool
  | live => false
  | ended => true
  | failed _ => true

/-- The viewer's end of the channel. -/
structure Source where
  /-- What has been sent and not yet been taken, oldest first. -/
  queue : List SourceEvent := []
  /-- Whether the reader is gone, so that nothing more will be sent. -/
  hungUp : Bool := false
  status : StreamStatus := .live
  deriving Inhabited

namespace Source

/-- Send some events. After the reader is gone nothing can be sent. -/
def send (source : Source) (events : List SourceEvent) : Source :=
  if source.hungUp then source else { source with queue := source.queue ++ events }

def hangUp (source : Source) : Source := { source with hungUp := true }

/-- Take samples from an open channel until `limit` of them are counted, the queue is
empty or an event closes the channel. The result is the count, the samples, the queue
that is left and the status. -/
def drainOpen (hungUp : Bool) (limit : Nat) : (queue : List SourceEvent) → (count : Nat) →
    (handed : Array Sample) → Nat × Array Sample × List SourceEvent × StreamStatus
  | [], count, handed =>
      (count, handed, [], if count < limit && hungUp then .ended else .live)
  | event :: queue, count, handed =>
      if count < limit then
        match event with
        | .sample sample => drainOpen hungUp limit queue (count + 1) (handed.push sample)
        | .ended => (count, handed, queue, .ended)
        | .failed message => (count, handed, queue, .failed message)
      else (count, handed, event :: queue, .live)

/-- Take at most `limit` samples, without waiting for any. The result begins with the
number of samples, as they were counted. -/
def drainCounted (source : Source) (limit : Nat) : Nat × List Sample × Source :=
  if source.status.isClosed then (0, [], source)
  else
    let (count, handed, queue, status) :=
      drainOpen source.hungUp limit source.queue 0 #[]
    (count, handed.toList, { source with queue, status })

/-- The samples of a drain, and the source after it. -/
def drain (source : Source) (limit : Nat) : List Sample × Source :=
  (source.drainCounted limit).2

end Source

/-- The event that reports an item of a reader. -/
def SourceEvent.ofItem : Except Fault Sample → SourceEvent
  | .ok read => sample read
  | .error fault => failed (Failure.io fault).message

/-- How far a feeder is. -/
inductive FeederPhase where
  | reading
  | ended
  | gone
  deriving DecidableEq, Repr, Inhabited

/-- A reader that sends what it reads. -/
structure Feeder where
  reader : Reader
  phase : FeederPhase := .reading

namespace Feeder

/-- Read and send one item, or, when there is none, send the end. After the end, let
the channel go. -/
def step (feeder : Feeder) (source : Source) : Feeder × Source :=
  match feeder.phase with
  | .reading =>
      let reader := feeder.reader.next.reader
      match feeder.reader.item? with
      | some item => ({ feeder with reader }, source.send [.ofItem item])
      | none => ({ reader, phase := .ended }, source.send [.ended])
  | .ended => ({ feeder with phase := .gone }, source.hangUp)
  | .gone => (feeder, source)

end Feeder

/-- All that a reader sends: its items, and then the end. -/
def Reader.events (reader : Reader) : List SourceEvent :=
  reader.items.map SourceEvent.ofItem ++ [.ended]

/-- A source to which a reader has sent everything. -/
def Source.ofReader (reader : Reader) : Source where
  queue := reader.events
  hungUp := true

end StreamPlot
