/-!
# What can go wrong

A fault is a failed read or write as the system reports it. A failure is the
reason for which a whole run ends early. Each has one text, given here and
nowhere else.
-/

namespace StreamPlot

/-- The kind of a failed read or write. -/
inductive FaultKind where
  /-- A signal cut the call short; a reader tries again. -/
  | interrupted
  /-- The other end of the pipe is closed. -/
  | brokenPipe
  | permissionDenied
  | wouldBlock
  | timedOut
  | unexpectedEof
  | invalidData
  /-- A writer took no byte of what it was offered. -/
  | writeZero
  /-- A directory stands where a file was expected. -/
  | isDirectory
  /-- Any other kind. -/
  | other
  deriving DecidableEq, Repr, Inhabited

/-- A failed read or write. -/
structure Fault where
  kind : FaultKind
  message : String
  deriving DecidableEq, Repr, Inhabited

namespace Fault

/-- The fault of a writer that takes nothing of what it is offered. -/
def writeZero : Fault := ⟨.writeZero, "failed to write whole buffer"⟩

def brokenPipe : Fault := ⟨.brokenPipe, "Broken pipe (os error 32)"⟩

/-- The fault of reading a directory as if it were a file. -/
def isDirectory : Fault := ⟨.isDirectory, "Is a directory (os error 21)"⟩

/-- The fault of a viewer that has no terminal to draw on. -/
def noTerminal : Fault := ⟨.other, "No such device or address (os error 6)"⟩

end Fault

/-- Why a run ends early. The end of the input and an interrupt are no failures. -/
inductive Failure where
  /-- The input, the echo or the terminal failed. -/
  | io (fault : Fault)
  /-- There is no readable settings file at the path. -/
  | settingsNotFound (path : String)
  /-- The settings file is not what it should be; the line counts from 1, and
  is 0 where none is known. -/
  | settingsMalformed (line : Nat) (message : String)
  /-- A setting has a value that cannot be used. -/
  | settingInvalid (key : String) (message : String)
  deriving DecidableEq, Repr, Inhabited

namespace Failure

/-- The text that tells a failure to the user. -/
def message : Failure → String
  | io fault => "I/O error: " ++ fault.message
  | settingsNotFound path => "configuration file not found: " ++ path
  | settingsMalformed line text =>
      "configuration error at line " ++ line.repr ++ ": " ++ text
  | settingInvalid key text =>
      "invalid configuration value for '" ++ key ++ "': " ++ text

/-- What a program writes before a failure ends it. A fault is told a second time, as the
cause of the failure. -/
def report (failure : Failure) : String :=
  "Error: " ++ failure.message ++ "\n"
    ++ match failure with
      | io fault => "\nCaused by:\n    " ++ fault.message ++ "\n"
      | _ => ""

end Failure

end StreamPlot
