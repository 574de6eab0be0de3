import StreamPlot.CommandLine.Problem
import StreamPlot.Sample
import StreamPlot.Viewer

/-!
# How programs end

What is left of a run when it is over: its exit status, what it wrote to either
output, and the last picture that was shown.
-/

namespace StreamPlot

/-- What a program has written to its standard output. -/
inductive Output where
  | text (text : String)
  | bytes (bytes : List UInt8)
  deriving Inhabited

/-- What is left of a run. -/
structure Ending where
  /-- The exit status: 0 for success, 1 for a failure and 2 for a mistake on the
  command line. -/
  status : Nat := 0
  output : Output := .text ""
  /-- What was written to the standard error output. -/
  errors : String := ""
  /-- The viewer as it was in the last picture. -/
  picture : Option Viewer := none

namespace Ending

/-- The end of a program that has nothing to say. -/
def quiet : Ending := {}

/-- The end of a program that has failed. -/
def failed (failure : Failure) : Ending where
  status := 1
  errors := failure.report

/-- The same end with some text in front of the errors. -/
def prefaced (ending : Ending) (text : String) : Ending :=
  { ending with errors := text ++ ending.errors }

/-- The same end where the standard output takes no more than a writer does. Nobody is
told what it does not take. -/
def written (ending : Ending) (writer : Writer) : Ending :=
  match ending.output with
  | .text text =>
      let (_, sink) := ({ writer : Sink }).write text.toList
      { ending with output := .text sink.contents }
  | .bytes _ => ending

end Ending

/-- The end of a program whose command line does not let it begin. -/
def UsageStop.ending {α : Type} (interface : Interface α) : UsageStop α → Ending
  | .problem mistake => { status := 2, errors := mistake.message interface }
  | .help atLength =>
      { output := .text (if atLength then interface.longHelp else interface.shortHelp) }
  | .version => { output := .text interface.versionText }

end StreamPlot
