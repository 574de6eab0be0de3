import StreamPlot.Program.Ending
import StreamPlot.Command.Generate
import StreamPlot.Log

/-!
# The generating program

It writes the frames of a generator until it has written as many as it was asked for,
or until nobody reads them any more. Either is a good end.
-/

namespace StreamPlot

/-- What the generating program finds when it is started. -/
structure GenerateSurroundings where
  arguments : List String
  /-- The value of the environment variable for the log. -/
  logVariable : Option String := none
  /-- How many bytes are read before the reader goes, if it does. -/
  room : Option Nat := none

/-- What the generating program tells the log at its end. -/
def framesWritten (count : Nat) : LogEntry :=
  ⟨.info, "gen", "wrote " ++ count.repr ++ " frames"⟩

/-- How many frames a command makes: those it was asked for, but none behind the first
that nobody reads. -/
def GenerateCommand.made (command : GenerateCommand) : (room : Option Nat) → Nat
  | none => command.limit
  | some room => min command.limit (room / frameLength + 1)

/-- Whether all frames that a command asks for are read. -/
def GenerateCommand.fits (command : GenerateCommand) : (room : Option Nat) → Bool
  | none => true
  | some room => frameLength * command.limit ≤ room

/-- Write the frames that a command asks for. The log is told only if all are read. -/
def GenerateCommand.ending (command : GenerateCommand) (logged : Bool) (room : Option Nat) :
    Ending :=
  let frames := command.generator.frames (command.made room)
  { output := .bytes (match room with
      | none => frames
      | some room => frames.take room)
    errors := logText (logged && command.fits room) [framesWritten command.limit] }

def generate (surroundings : GenerateSurroundings) : Ending :=
  match GenerateCommand.read surroundings.arguments with
  | .error stop =>
      (stop.ending GenerateOption.interface).written
        (match surroundings.room with
          | none => .unlimited
          | some room => .limited room (some .brokenPipe))
  | .ok command =>
      command.ending (command.debug || logRequested surroundings.logVariable) surroundings.room

end StreamPlot
