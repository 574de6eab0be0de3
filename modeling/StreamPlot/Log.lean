/-!
# The log

A log line has a level, the part of the program that speaks and a text. What a run
tells the log does not depend on the time, so the reading of the clock is put in when
the line is written. Where no clock is at hand its place holds the word `TIME`.
-/

namespace StreamPlot

/-- How much a log line matters. -/
inductive LogLevel where
  | trace
  | debug
  | info
  | warn
  | error
  deriving DecidableEq, Repr, Inhabited

namespace LogLevel

/-- The name of a level, padded to five characters. -/
def label : LogLevel → String
  | trace => "TRACE"
  | debug => "DEBUG"
  | info => "INFO "
  | warn => "WARN "
  | error => "ERROR"

/-- The terminal sequence that switches to the color of a level. -/
def color : LogLevel → String
  | trace => "\x1b[90m"
  | debug => "\x1b[36m"
  | info => "\x1b[32m"
  | warn => "\x1b[33m"
  | error => "\x1b[31m"

end LogLevel

/-- One line of the log. -/
structure LogEntry where
  level : LogLevel
  component : String
  message : String
  deriving DecidableEq, Repr, Inhabited

namespace LogEntry

/-- A log line as it is written, with a reading of the clock in milliseconds. -/
def lineAt (clock : String) (entry : LogEntry) : String :=
  "[+" ++ clock ++ "ms] " ++ entry.level.color ++ "[" ++ entry.level.label ++ "]\x1b[0m ["
    ++ entry.component ++ "] " ++ entry.message ++ "\n"

/-- A log line without a reading of the clock. -/
def line (entry : LogEntry) : String :=
  entry.lineAt "TIME"

end LogEntry

/-- What is written of some log lines: nothing unless the log is on. -/
def logText (enabled : Bool) (entries : List LogEntry) : String :=
  if enabled then String.join (entries.map LogEntry.line) else ""

/-- Whether the value of the environment variable for the log switches it on:
any text but the empty one, `0` and, in any case of letters, `false`. -/
def logRequested (value : Option String) : Bool :=
  match value with
  | none => false
  | some text => !(text == "" || text == "0" || text.toLower == "false")

end StreamPlot
