import StreamPlot.Program.Ending
import StreamPlot.Command.Plot
import StreamPlot.Settings.File
import StreamPlot.Headless
import StreamPlot.Session

/-!
# The plotting program

It finds its settings, and then either folds its whole input without a screen or shows
it in a session. Mistakes on the command line come first, then failures of the
settings, then all others.
-/

namespace StreamPlot

/-- What the plotting program finds when it is started. -/
structure PlotSurroundings where
  arguments : List String
  places : SettingsPlaces
  /-- The value of the environment variable for the log. -/
  logVariable : Option String := none
  input : Input := []
  output : Writer := .unlimited
  /-- Whether a signal comes when every whole frame has been read. -/
  interrupted : Bool := false
  /-- Whether the errors go to the terminal that would show the session. -/
  errorsOnTerminal : Bool := false
  terminal : Terminal := { sink := { writer := .unlimited }, rawMode := .error .noTerminal }
  /-- The turns of a session, from what the reader sends. -/
  turns : List SourceEvent → List SessionTurn := settlingTurns

/-- What is told to the log about the settings. -/
def settingsNotice (settings : Settings) : LogEntry :=
  ⟨.debug, "main", "config: " ++ settings.text⟩

/-- The exit of a headless run. A read that fails because the other end of a pipe is
closed ends it like the end of the input. -/
def HeadlessRun.ending (run : HeadlessRun) (logged : Bool) (output : String) : Ending :=
  let log := logText logged (run.notices.toList.map HeadlessNotice.entry)
  let exit := match run.fault? with
    | none => Ending.quiet
    | some fault =>
        if fault.kind = FaultKind.brokenPipe then Ending.quiet else Ending.failed (.io fault)
  { exit.prefaced log with output := .text output }

def plotHeadless (surroundings : PlotSurroundings) (settings : Settings) (logged : Bool) :
    Ending :=
  let echo := if settings.echo then Echo.on { writer := surroundings.output } else Echo.off
  let reader := Reader.ofInput surroundings.input echo
  let run := if surroundings.interrupted then HeadlessRun.cutShort reader
    else HeadlessRun.ofReader reader
  run.ending logged (reader.exhausted.echo.contents?.getD "")

/-- What a reader writes to the errors at one answer: what it tells the log, and the echo
behind the notice of the sample. -/
def ReaderStep.errorText (logged echoed : Bool) (step : ReaderStep) : String :=
  match step.result, step.notices with
  | .ok (some sample), notice :: notices =>
      logText logged [notice.entry] ++ (if echoed then sample.echoLine else "")
        ++ logText logged (notices.map ReaderNotice.entry)
  | _, notices => logText logged (notices.map ReaderNotice.entry)

def plotSession (surroundings : PlotSurroundings) (settings : Settings) (logged : Bool) :
    Ending :=
  let (target, panel) := echoRoute settings.echo surroundings.errorsOnTerminal
  let echoed := target == .stderr
  let reader := Reader.ofInput surroundings.input
    (if echoed then Echo.on { writer := .unlimited } else Echo.off)
  let session : Session := { viewer := (Viewer.new settings).withRecent panel }
  let finished := session.run surroundings.terminal (surroundings.turns reader.events)
  let readerText :=
    if finished.session.pictures.isEmpty then ""
    else String.join (reader.steps.map (ReaderStep.errorText logged echoed))
  let exit := match finished.result with
    | some (.error fault) => Ending.failed (.io fault)
    | _ => Ending.quiet
  { exit.prefaced (readerText ++ logText logged
      (finished.session.notices.toList.map ViewerNotice.entry)) with
    picture := finished.session.pictures.back? }

def plot (surroundings : PlotSurroundings) : Ending :=
  match PlotCommand.read surroundings.arguments with
  | .error stop => (stop.ending PlotOption.interface).written surroundings.output
  | .ok command =>
      let logged := command.debug || logRequested surroundings.logVariable
      match Settings.effective surroundings.places command.settingsPath command.override with
      | .error failure => .failed failure
      | .ok settings =>
          let ending :=
            if command.headless then plotHeadless surroundings settings logged
            else plotSession surroundings settings logged
          ending.prefaced (logText logged [settingsNotice settings])

end StreamPlot
