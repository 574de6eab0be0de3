import StreamPlot.Source
import StreamPlot.Plot
import StreamPlot.Keys
import StreamPlot.Settings

/-!
# The viewer

A viewer holds a plot that grows with what its source delivers, and a few switches
that the keys turn. Neither touches the other: samples move no switch, and no key
changes the plot.
-/

namespace StreamPlot

/-- The state of an interactive session. -/
structure Viewer where
  settings : Settings
  plot : Plot := .empty
  style : PlotStyle
  showRecent : Bool := false
  showHelp : Bool := false
  shouldQuit : Bool := false
  /-- What is known of the input since the last look at the source. -/
  stream : StreamStatus := .live
  deriving Inhabited

/-- What a viewer tells the log. -/
inductive ViewerNotice where
  | streamEnded
  | streamFailed (message : String)
  | interrupted
  | quit (samples : Nat)
  deriving DecidableEq, Repr, Inhabited

namespace ViewerNotice

/-- A notice as a line of the log. -/
def entry : ViewerNotice → LogEntry
  | streamEnded => ⟨.info, "app", "end of stream"⟩
  | streamFailed message => ⟨.error, "app", "stream failed: " ++ message⟩
  | interrupted => ⟨.info, "app", "interrupted"⟩
  | quit samples => ⟨.info, "app", "quit with " ++ samples.repr ++ " records plotted"⟩

end ViewerNotice

/-- The most samples that are taken between two pictures, so that a fast input cannot
keep the keys waiting. -/
def samplesPerTick : Nat := 100000

namespace Viewer

def new (settings : Settings) : Viewer where
  settings := settings
  style := settings.display.style

/-- Ask for the list of the newest samples, which is never shown if it holds none. -/
def withRecent (viewer : Viewer) (wanted : Bool) : Viewer :=
  { viewer with showRecent := wanted && decide (viewer.settings.display.recentRecords ≠ 0) }

def ingest (viewer : Viewer) (sample : Sample) : Viewer :=
  { viewer with plot := viewer.plot.push sample }

/-- Fold in what the source has delivered, up to the limit. The result holds the
number of samples and what the log is told. -/
def pump (viewer : Viewer) (source : Source) :
    Viewer × Source × Nat × Option ViewerNotice :=
  let (folded, samples, source) := source.drainCounted samplesPerTick
  let notice := if source.status = viewer.stream then none
    else match source.status with
      | .ended => some .streamEnded
      | .failed message => some (.streamFailed message)
      | .live => none
  ({ viewer with plot := viewer.plot.pushAll samples, stream := source.status },
    source, folded, notice)

def act (viewer : Viewer) : Action → Viewer
  | .quit => { viewer with shouldQuit := true }
  | .help => { viewer with showHelp := !viewer.showHelp }
  | .toggleStyle => { viewer with style := viewer.style.toggled }
  | .none => viewer

def press (viewer : Viewer) (press : KeyPress) : Viewer :=
  viewer.act (press.action viewer.settings.vimKeys)

end Viewer

/-- Where the echo of a session goes. -/
inductive EchoTarget where
  | off
  | stdout
  | stderr
  | writer
  deriving DecidableEq, Repr, Inhabited

def EchoTarget.label : EchoTarget → String
  | off => "Off"
  | stdout => "Stdout"
  | stderr => "Stderr"
  | writer => "Writer"

/-- Where the echo of an interactive session goes, and whether the list of the newest
samples takes its place. An echo to the terminal that shows the picture would spoil it. -/
def echoRoute (echo stderrIsTerminal : Bool) : EchoTarget × Bool :=
  if !echo then (.off, false)
  else if stderrIsTerminal then (.off, true)
  else (.stderr, false)

end StreamPlot
