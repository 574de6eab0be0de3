import StreamPlot.CommandLine.Problem
import StreamPlot.Settings

/-!
# The command that plots

What the plotting program can be asked for on its command line.
-/

namespace StreamPlot

/-- The options of the plotting program. -/
inductive PlotOption where
  | headless
  | config
  | tickMs
  | scatter
  | noEcho
  | debug
  | help
  | version
  deriving DecidableEq, Repr, Inhabited

namespace PlotOption

/-- All options, in the order in which they are listed to the user. -/
def all : List PlotOption := [headless, config, tickMs, scatter, noEcho, debug, help, version]

def form : PlotOption → OptionForm
  | headless => { long := "headless" }
  | config => { long := "config", short := some 'c', kind := .valued "CONFIG" .path }
  | tickMs =>
      { long := "tick-ms", short := some 't', kind := .valued "TICK_MS" (.number .positive) }
  | scatter => { long := "scatter" }
  | noEcho => { long := "no-echo" }
  | debug => { long := "debug" }
  | help => { long := "help", short := some 'h', kind := .help }
  | version => { long := "version", short := some 'V', kind := .version }

def helpText : String := "Live plot of little-endian (u32, u32) frames read from stdin

Usage: frameplot [OPTIONS]

Options:
      --headless           Fold the stream without a UI, echoing records to stdout
  -c, --config <CONFIG>    Config file path
  -t, --tick-ms <TICK_MS>  UI tick in milliseconds
      --scatter            Draw unconnected points instead of a line
      --no-echo            Do not echo decoded records
      --debug              Enable debug logging to stderr (also FRAMEPLOT_DEBUG=1)
  -h, --help               Print help
  -V, --version            Print version
"

def interface : Interface PlotOption where
  program := "frameplot"
  version := "0.1.0"
  options := all
  form := form
  shortHelp := helpText
  longHelp := helpText

end PlotOption

/-- What the plotting program is asked to do. -/
structure PlotCommand where
  headless : Bool := false
  settingsPath : Option String := none
  override : SettingsOverride := {}
  debug : Bool := false
  deriving DecidableEq, Repr, Inhabited

namespace PlotCommand

def ofOptions (found : List (FoundOption PlotOption)) : PlotCommand where
  headless := hasOption .headless found
  settingsPath := findText .config found
  override :=
    { tickMs := (findNumber .tickMs found).map UInt64.ofNat
      scatter := hasOption .scatter found
      noEcho := hasOption .noEcho found }
  debug := hasOption .debug found

def read (arguments : List String) : Except (UsageStop PlotOption) PlotCommand :=
  (PlotOption.interface.read arguments).map ofOptions

end PlotCommand

end StreamPlot
