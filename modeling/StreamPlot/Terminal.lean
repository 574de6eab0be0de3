import StreamPlot.Sink

/-!
# Taking the terminal over and giving it back

A session takes the terminal over, and gives it back in three steps: it leaves raw
mode, leaves the screen of the session and shows the cursor. Each step is attempted
whatever became of the ones before; the first failure is the one that is told.
-/

namespace StreamPlot

/-- What a session asks of a terminal apart from pictures and keys. -/
inductive TerminalCall where
  | enterRawMode
  | enterScreen
  | leaveRawMode
  | leaveScreen
  | showCursor
  deriving DecidableEq, Repr, Inhabited

/-- A terminal, with how it answers what it is asked. -/
structure Terminal where
  sink : Sink
  rawMode : Except Fault Unit := .ok ()
  /-- How setting up the screen of a session ends. -/
  screen : Except Fault Unit := .ok ()
  cookedMode : Except Fault Unit := .ok ()
  /-- What it has been asked, oldest first. -/
  calls : List TerminalCall := []

/-- The first failure of some steps that are all attempted. -/
def firstFault : List (Except Fault Unit) → Except Fault Unit
  | [] => .ok ()
  | .ok () :: rest => firstFault rest
  | .error fault :: _ => .error fault

namespace Terminal

/-- The sequence that leaves the screen of a session. -/
def leaveScreenText : String := "\x1b[?1049l"

def showCursorText : String := "\x1b[?25h"

def ask (terminal : Terminal) (call : TerminalCall) : Except Fault Unit × Terminal :=
  let asked := { terminal with calls := terminal.calls ++ [call] }
  match call with
  | .enterRawMode => (terminal.rawMode, asked)
  | .enterScreen => (terminal.screen, asked)
  | .leaveRawMode => (terminal.cookedMode, asked)
  | .leaveScreen =>
      let (result, sink) := terminal.sink.execute leaveScreenText
      (result, { asked with sink })
  | .showCursor =>
      let (result, sink) := terminal.sink.execute showCursorText
      (result, { asked with sink })

/-- Ask some things in order, all of them whatever the answers. -/
def askAll (terminal : Terminal) : List TerminalCall → List (Except Fault Unit) × Terminal
  | [] => ([], terminal)
  | call :: calls =>
      let (result, terminal) := terminal.ask call
      let (results, terminal) := terminal.askAll calls
      (result :: results, terminal)

def restore (terminal : Terminal) : Except Fault Unit × Terminal :=
  let (results, terminal) := terminal.askAll [.leaveRawMode, .leaveScreen, .showCursor]
  (firstFault results, terminal)

end Terminal

end StreamPlot
