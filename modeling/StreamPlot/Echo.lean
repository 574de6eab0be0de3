import StreamPlot.Sample
import StreamPlot.Sink

/-!
# The echo of samples

An echo reports every sample as one line of text. It is for the operator only:
the first line that cannot be written ends the echo for good, and nothing else.
-/

namespace StreamPlot

/-- The pieces in which the echo of a sample is written: its text and a line end. -/
def Sample.echoPieces (sample : Sample) : List String :=
  sample.textPieces ++ ["\n"]

def Sample.echoLine (sample : Sample) : String :=
  String.join sample.echoPieces

/-- Where samples are reported. -/
inductive Echo where
  | off
  /-- To a sink that has taken everything so far. -/
  | on (sink : Sink)
  /-- To a sink that has failed, and therefore nowhere any more. -/
  | lost (sink : Sink)

namespace Echo

/-- Report one sample. The fault is that of the write that ends the echo. -/
def emit (echo : Echo) (sample : Sample) : Option Fault × Echo :=
  match echo with
  | off => (none, off)
  | lost sink => (none, lost sink)
  | on sink =>
      match sink.writeAll sample.echoPieces with
      | (.ok (), next) => (none, on next)
      | (.error fault, next) => (some fault, lost next)

/-- The text that has reached the sink, if there is one. -/
def contents? : Echo → Option String
  | off => none
  | on sink => some sink.contents
  | lost sink => some sink.contents

end Echo

end StreamPlot
