import StreamPlot.Program.Generating
import StreamPlot.Program.Plotting

/-!
# The programs themselves

One executable holds both programs and is the one that it is called as. All that is
done here is to read, write and look at the clock; what is written is decided
elsewhere. There is no driver for a terminal, so a session always finds none.
-/

namespace StreamPlot.Main

/-- A failed call, as the system reports it. -/
def faultOf : IO.Error → Fault
  | .resourceVanished code details =>
      ⟨.brokenPipe, details ++ " (os error " ++ code.toNat.repr ++ ")"⟩
  | .inappropriateType _ code details =>
      ⟨.isDirectory, details ++ " (os error " ++ code.toNat.repr ++ ")"⟩
  | .interrupted _ code details =>
      ⟨.interrupted, details ++ " (os error " ++ code.toNat.repr ++ ")"⟩
  | error => ⟨.other, error.toString⟩

def contentAt (path : String) : IO FileContent := do
  match ← (IO.FS.readBinFile path).toBaseIO with
  | .ok bytes => return .found bytes
  | .error (.noFileOrDirectory ..) => return .missing
  | .error _ => return .unreadable

/-- The standard place of the settings file, if the user has one. -/
def standardPath? : IO (Option String) := do
  let below (directory : String) := directory ++ "/frameplot/config.yaml"
  match ← IO.getEnv "XDG_CONFIG_HOME" with
  | some directory =>
      if directory.startsWith "/" then return some (below directory)
  | none => pure ()
  return (← IO.getEnv "HOME").map fun home => below (home ++ "/.config")

/-- The places where settings are looked for, when one path may be named. -/
def placesFor (path? : Option String) : IO SettingsPlaces := do
  let named ← match path? with
    | some path => contentAt path
    | none => pure .missing
  match ← standardPath? with
  | some standardPath =>
      return { named := fun _ => named, standardPath, standard := ← contentAt standardPath }
  | none => return { named := fun _ => named }

/-- Write all that is left of a run. -/
def finish (ending : Ending) : IO UInt32 := do
  let output ← IO.getStdout
  let _ ← (do
    match ending.output with
    | .text text => output.putStr text
    | .bytes bytes => output.write ⟨bytes.toArray⟩
    output.flush : IO Unit).toBaseIO
  IO.eprint ending.errors
  return UInt32.ofNat ending.status

/-- The log of a program that was started at a reading of the clock. -/
structure Log where
  enabled : Bool
  start : Nat

def Log.say (log : Log) (entry : LogEntry) : IO Unit := do
  if log.enabled then
    let elapsed := ((← IO.monoMsNow) - log.start).repr
    IO.eprint (entry.lineAt ("".pushn '0' (4 - elapsed.length) ++ elapsed))

/-- The log of a program that starts now. -/
def Log.open (asked : Bool) : IO Log := do
  return {
    enabled := asked || logRequested (← IO.getEnv "FRAMEPLOT_DEBUG")
    start := ← IO.monoMsNow }

/-- What the reads of one frame meet. -/
partial def gatherFrame (stream : IO.FS.Stream) (missing : Nat) : IO Input := do
  match ← (stream.read missing.toUSize).toBaseIO with
  | .error error => return [.fault (faultOf error)]
  | .ok bytes =>
      if bytes.isEmpty then return [.endOfFile]
      else if bytes.size < missing then
        return .data bytes.toList :: (← gatherFrame stream (missing - bytes.size))
      else return [.data bytes.toList]

/-- Echo one sample. The result is the failure of the echo, if it fails. -/
def echoSample (sample : Sample) : IO (Option Fault) := do
  let output ← IO.getStdout
  match ← (do output.putStr sample.echoLine; output.flush : IO Unit).toBaseIO with
  | .ok () => return none
  | .error error => return some (faultOf error)

/-- Tell the log what a run has to say and forget it. -/
def tellNotices (log : Log) (run : HeadlessRun) : IO HeadlessRun := do
  run.notices.forM fun notice => log.say notice.entry
  return { run with notices := #[] }

/-- Fold the input frame by frame, as it comes. -/
partial def foldInput (stream : IO.FS.Stream) (log : Log) (echoed : Bool) (reader : Reader)
    (run : HeadlessRun) : IO HeadlessRun := do
  let step := { reader with input := ← gatherFrame stream frameLength : Reader }.next
  match step.result with
  | .ok (some sample) =>
      let fault ← if echoed then echoSample sample else pure none
      let notices := step.notices ++ (fault.map ReaderNotice.echoLost).toList
      let run ← tellNotices log (run.step { step with notices })
      foldInput stream log (echoed && fault.isNone) step.reader run
  | _ => tellNotices log (run.step step).finish

def runPlot (arguments : List String) : IO UInt32 := do
  match PlotCommand.read arguments with
  | .error stop => finish (stop.ending PlotOption.interface)
  | .ok command =>
      let log ← Log.open command.debug
      let places ← placesFor command.settingsPath
      match Settings.effective places command.settingsPath command.override with
      | .error failure => finish (.failed failure)
      | .ok settings =>
          log.say (settingsNotice settings)
          if command.headless then
            let run ← tellNotices log .start
            let run ← foldInput (← IO.getStdin) log settings.echo (.ofInput [] .off) run
            finish (run.ending false "")
          else finish (plotSession { arguments, places } settings false)

/-- Write the frames of a generator until there are enough of them. -/
partial def writeFrames (output : IO.FS.Stream) (command : GenerateCommand) (start index : Nat) :
    IO Unit := do
  if index < command.limit then
    let elapsed := (← IO.monoMsNow) - start
    let sample := command.generator.sampleAt (UInt64.ofNat index) (UInt64.ofNat elapsed)
    output.write ⟨sample.encode.toArray⟩
    if command.intervalMs ≠ 0 then
      output.flush
      IO.sleep (UInt32.ofNat (min command.intervalMs.toNat 4294967295))
    writeFrames output command start (index + 1)
  else output.flush

def runGenerate (arguments : List String) : IO UInt32 := do
  match GenerateCommand.read arguments with
  | .error stop => finish (stop.ending GenerateOption.interface)
  | .ok command =>
      let log ← Log.open command.debug
      match ← (writeFrames (← IO.getStdout) command (← IO.monoMsNow) 0).toBaseIO with
      | .ok () =>
          log.say (framesWritten command.limit)
          return 0
      | .error error =>
          let fault := faultOf error
          if fault.kind = FaultKind.brokenPipe then return 0
          else
            IO.eprint ("Error: " ++ fault.message ++ "\n")
            return 1

end StreamPlot.Main

/-- Run the program under whose name the executable was called. -/
def main (arguments : List String) : IO UInt32 := do
  let name := (← IO.appPath).fileStem.getD ""
  if name == StreamPlot.GenerateOption.interface.program then StreamPlot.Main.runGenerate arguments
  else StreamPlot.Main.runPlot arguments
