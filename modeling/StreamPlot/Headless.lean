import StreamPlot.Reader
import StreamPlot.Plot
import StreamPlot.Decimal.Shortest

/-!
# Runs without a screen

A headless run folds a whole input into a plot. Its only output is the echo; what it
has to say goes to the log. The log is a by-product: the plot, the echo and the
outcome of a run are computed without it.
-/

namespace StreamPlot

/-- What a headless run tells the log. -/
inductive HeadlessNotice where
  | entered
  | reader (notice : ReaderNotice)
  /-- A sample was folded in, which makes that many points in that window. -/
  | folded (points : Nat) (window : Window)
  | summary (samples : Nat) (bounds : Bounds)
  | left
  | interrupted

namespace HeadlessNotice

def intervalText (span : Span) : String :=
  "[" ++ Decimal.shortest span.lo ++ ", " ++ Decimal.shortest span.hi ++ "]"

def rangeText : Option Span → String
  | none => "None"
  | some span => "Some((" ++ Decimal.shortest span.lo ++ ", " ++ Decimal.shortest span.hi ++ "))"

/-- A window with the names of its parts. -/
def windowText (window : Window) : String :=
  "DisplayLimits \x7b x: " ++ intervalText window.x ++ ", y: " ++ intervalText window.y ++ " \x7d"

/-- A notice as a line of the log. -/
def entry : HeadlessNotice → LogEntry
  | entered => ⟨.trace, "headless", "-> run"⟩
  | reader notice => notice.entry
  | folded points window =>
      ⟨.trace, "headless", points.repr ++ " points, x " ++ intervalText window.x ++ ", y "
        ++ intervalText window.y⟩
  | summary samples bounds =>
      ⟨.info, "headless", samples.repr ++ " records, x range " ++ rangeText bounds.x?
        ++ ", y range " ++ rangeText bounds.y? ++ ", limits " ++ windowText bounds.window⟩
  | left => ⟨.trace, "headless", "<- run (TIMEms)"⟩
  | interrupted => ⟨.info, "headless", "interrupted, exiting"⟩

end HeadlessNotice

/-- A headless run on its way through an input. -/
structure HeadlessRun where
  plot : Plot := .empty
  /-- The failure that has ended it, if one has. -/
  fault? : Option Fault := none
  notices : Array HeadlessNotice := #[]

namespace HeadlessRun

def step (run : HeadlessRun) (answer : ReaderStep) : HeadlessRun :=
  let notices := run.notices ++ answer.notices.map HeadlessNotice.reader
  match answer.result with
  | .ok (some sample) =>
      let plot := run.plot.push sample
      { run with plot, notices := notices.push (.folded plot.size plot.window) }
  | .ok none => { run with notices }
  | .error fault => { run with fault? := some fault, notices }

/-- A run at the start of its input. -/
def start : HeadlessRun := { notices := #[.entered] }

/-- Fold in some answers of the reader, in order. -/
def steps (run : HeadlessRun) (answers : List ReaderStep) : HeadlessRun :=
  answers.foldl step run

/-- Close the account: the summary, unless the input failed. -/
def finish (run : HeadlessRun) : HeadlessRun :=
  let notices := match run.fault? with
    | none => run.notices.push (.summary run.plot.size run.plot.bounds)
    | some _ => run.notices
  { run with notices := notices.push .left }

/-- A run over everything that a reader yields. -/
def ofReader (reader : Reader) : HeadlessRun :=
  (start.steps reader.steps).finish

/-- A run that a signal ends when the last whole frame has been folded in and the input
is still open. The account is not closed. -/
def cutShort (reader : Reader) : HeadlessRun :=
  let run := start.steps (reader.steps.filter fun step =>
    match step.result with
    | .ok (some _) => true
    | _ => false)
  { run with notices := run.notices.push .interrupted }

/-- The plot of the whole input, or the failure that ended it. -/
def outcome (run : HeadlessRun) : Except Failure Plot :=
  match run.fault? with
  | none => .ok run.plot
  | some fault => .error (.io fault)

end HeadlessRun

end StreamPlot
