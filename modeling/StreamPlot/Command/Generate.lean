import StreamPlot.CommandLine.Problem
import StreamPlot.Waveform

/-!
# The command that makes samples

What the generating program can be asked for on its command line.
-/

namespace StreamPlot

/-- The options of the generating program. -/
inductive GenerateOption where
  | pattern
  | count
  | intervalMs
  | amplitude
  | period
  | timestamps
  | debug
  | help
  | version
  deriving DecidableEq, Repr, Inhabited

namespace GenerateOption

/-- All options, in the order in which they are listed to the user. -/
def all : List GenerateOption :=
  [pattern, count, intervalMs, amplitude, period, timestamps, debug, help, version]

def form : GenerateOption → OptionForm
  | pattern =>
      { long := "pattern", short := some 'p'
        kind := .valued "PATTERN" (.choice (Waveform.all.map Waveform.name)) }
  | count => { long := "count", short := some 'n', kind := .valued "COUNT" (.number .word) }
  | intervalMs =>
      { long := "interval-ms", short := some 'i'
        kind := .valued "INTERVAL_MS" (.number .word) }
  | amplitude =>
      { long := "amplitude", short := some 'a'
        kind := .valued "AMPLITUDE" (.number .shortWord) }
  | period => { long := "period", kind := .valued "PERIOD" (.number .positive) }
  | timestamps => { long := "timestamps" }
  | debug => { long := "debug" }
  | help => { long := "help", short := some 'h', kind := .help }
  | version => { long := "version", short := some 'V', kind := .version }

def shortHelp : String := "Write synthetic little-endian (u32, u32) frames to stdout

Usage: frameplot-gen [OPTIONS]

Options:
  -p, --pattern <PATTERN>          Waveform for the y component [default: sine] [possible values: ramp, sine, sawtooth, square]
  -n, --count <COUNT>              Number of frames to write (unbounded if omitted)
  -i, --interval-ms <INTERVAL_MS>  Delay between frames in milliseconds [default: 0]
  -a, --amplitude <AMPLITUDE>      Peak y value [default: 1000]
      --period <PERIOD>            Samples per waveform period [default: 100]
      --timestamps                 Use elapsed milliseconds as x instead of the sample index
      --debug                      Enable debug logging to stderr
  -h, --help                       Print help (see more with '--help')
  -V, --version                    Print version
"

def longHelp : String := "Write synthetic little-endian (u32, u32) frames to stdout

Usage: frameplot-gen [OPTIONS]

Options:
  -p, --pattern <PATTERN>
          Waveform for the y component

          Possible values:
          - ramp:     `y = sample index`
          - sine:     Sine wave between 0 and the amplitude
          - sawtooth: Rises linearly to the amplitude, then drops to 0
          - square:   Amplitude for the first half of each period, 0 for the second
         \x20
          [default: sine]

  -n, --count <COUNT>
          Number of frames to write (unbounded if omitted)

  -i, --interval-ms <INTERVAL_MS>
          Delay between frames in milliseconds
         \x20
          [default: 0]

  -a, --amplitude <AMPLITUDE>
          Peak y value
         \x20
          [default: 1000]

      --period <PERIOD>
          Samples per waveform period
         \x20
          [default: 100]

      --timestamps
          Use elapsed milliseconds as x instead of the sample index

      --debug
          Enable debug logging to stderr

  -h, --help
          Print help (see a summary with '-h')

  -V, --version
          Print version
"

def interface : Interface GenerateOption where
  program := "frameplot-gen"
  version := "0.1.0"
  options := all
  form := form
  shortHelp := shortHelp
  longHelp := longHelp

end GenerateOption

/-- What the generating program is asked to do. -/
structure GenerateCommand where
  waveform : Waveform := .sine
  /-- How many samples to make; if it is not said, as many as can be told apart. -/
  count : Option UInt64 := none
  /-- Milliseconds between two samples. -/
  intervalMs : UInt64 := 0
  amplitude : UInt32 := 1000
  period : UInt64 := 100
  /-- Whether the samples tell the time instead of their index. -/
  timestamps : Bool := false
  debug : Bool := false
  deriving DecidableEq, Repr, Inhabited

namespace GenerateCommand

def ofOptions (found : List (FoundOption GenerateOption)) : GenerateCommand where
  waveform := ((findText .pattern found).bind Waveform.ofName?).getD .sine
  count := (findNumber .count found).map UInt64.ofNat
  intervalMs := ((findNumber .intervalMs found).map UInt64.ofNat).getD 0
  amplitude := ((findNumber .amplitude found).map UInt32.ofNat).getD 1000
  period := ((findNumber .period found).map UInt64.ofNat).getD 100
  timestamps := hasOption .timestamps found
  debug := hasOption .debug found

def read (arguments : List String) : Except (UsageStop GenerateOption) GenerateCommand :=
  (GenerateOption.interface.read arguments).map ofOptions

def generator (command : GenerateCommand) : Generator :=
  ({ waveform := command.waveform : Generator }).configureAll
    [.period command.period, .amplitude command.amplitude, .timestamps command.timestamps]

def limit (command : GenerateCommand) : Nat :=
  (command.count.getD 18446744073709551615).toNat

end GenerateCommand

end StreamPlot
