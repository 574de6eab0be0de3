import StreamPlot.Viewer
import StreamPlot.Terminal

/-!
# Interactive sessions

A session goes in turns. In each it folds in what the reader has sent, draws one
picture and waits, not longer than a tick, for one thing that the terminal has to
say. It ends with the turn in which a key quits or a signal has come, or in which
drawing, waiting or reading fails. Whatever ends it, the terminal is given back once.
-/

namespace StreamPlot

/-- What a terminal has to say. -/
inductive TerminalEvent where
  | press (key : KeyPress)
  /-- Anything else: a key that goes up or repeats, a new size, the mouse. -/
  | other
  deriving DecidableEq, Repr

/-- What a session meets in one turn. -/
structure SessionTurn where
  /-- What the reader has sent since the turn before. -/
  arrivals : List SourceEvent := []
  readerGone : Bool := false
  drawing : Except Fault Unit := .ok ()
  /-- What comes of waiting: a failure, nothing before the tick is over, or something to
  be read, which may fail too. -/
  waiting : Except Fault (Option (Except Fault TerminalEvent)) := .ok none
  /-- Whether a signal has come by the end of the turn. -/
  interrupted : Bool := false

/-- A session on its way. -/
structure Session where
  viewer : Viewer
  source : Source := {}
  /-- The viewer as it was in each picture that has been drawn, oldest first. -/
  pictures : Array Viewer := #[]
  notices : Array ViewerNotice := #[]

namespace Session

/-- Let the reader send and fold in what has come. -/
def receive (session : Session) (turn : SessionTurn) : Session :=
  let sent := session.source.send turn.arrivals
  let (viewer, source, _, notice) :=
    session.viewer.pump (if turn.readerGone then sent.hangUp else sent)
  { session with viewer, source, notices := session.notices ++ notice.toList }

def draw (session : Session) : Session :=
  { session with pictures := session.pictures.push session.viewer }

/-- Heed what the terminal says. Only a key that goes down means anything. -/
def heed (session : Session) : TerminalEvent → Session
  | .press key => { session with viewer := session.viewer.press key }
  | .other => session

/-- End a turn: a signal quits. The result tells whether the session is over. -/
def close (session : Session) (interrupted : Bool) : Session × Bool :=
  let session :=
    if interrupted then
      { session with
        viewer := { session.viewer with shouldQuit := true }
        notices := session.notices.push .interrupted }
    else session
  (session, session.viewer.shouldQuit)

/-- One turn. A result means that the session is over. -/
def turn (session : Session) (turn : SessionTurn) : Session × Option (Except Fault Unit) :=
  let received := session.receive turn
  match turn.drawing with
  | .error fault => (received, some (.error fault))
  | .ok () =>
      let drawn := received.draw
      match turn.waiting with
      | .error fault => (drawn, some (.error fault))
      | .ok (some (.error fault)) => (drawn, some (.error fault))
      | .ok (some (.ok event)) =>
          let (closed, finished) := (drawn.heed event).close turn.interrupted
          (closed, if finished then some (.ok ()) else none)
      | .ok none =>
          let (closed, finished) := drawn.close turn.interrupted
          (closed, if finished then some (.ok ()) else none)

/-- The turns of a session up to the one that ends it. Without a result it still goes on. -/
def turns (session : Session) : List SessionTurn → Session × Option (Except Fault Unit)
  | [] => (session, none)
  | next :: rest =>
      match session.turn next with
      | (session, some result) => (session, some result)
      | (session, none) => session.turns rest

end Session

/-- What has come of a session. -/
structure SessionEnd where
  session : Session
  terminal : Terminal
  result : Option (Except Fault Unit)

/-- A session on a terminal, from taking it over to giving it back. A session that has
not ended has not given it back. -/
def Session.run (session : Session) (terminal : Terminal) (turns : List SessionTurn) :
    SessionEnd :=
  match terminal.ask .enterRawMode with
  | (.error fault, terminal) => ⟨session, terminal, some (.error fault)⟩
  | (.ok (), terminal) =>
      match terminal.ask .enterScreen with
      | (.error fault, terminal) => ⟨session, terminal.restore.2, some (.error fault)⟩
      | (.ok (), terminal) =>
          match session.turns turns with
          | (session, none) => ⟨session, terminal, none⟩
          | (session, some result) =>
              let (restored, terminal) := terminal.restore
              ⟨{ session with
                  notices := session.notices.push (.quit session.viewer.plot.size) },
                terminal, some (firstFault [result, restored])⟩

/-- The turns of a session to which a reader sends all it has before the first picture,
and which is left alone until it has folded that in. -/
def settlingTurns (events : List SourceEvent) : List SessionTurn :=
  { arrivals := events, readerGone := true }
    :: List.replicate (events.length / samplesPerTick + 1) {}

end StreamPlot
