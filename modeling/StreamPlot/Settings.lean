import StreamPlot.Color
import StreamPlot.Fault

/-!
# Settings

The settings of a session, their defaults, and what makes them usable. The
settings that a program runs with are the defaults, overruled by a file,
overruled by the command line.
-/

namespace StreamPlot

/-- How points are joined. -/
inductive PlotStyle where
  /-- By lines, in order of arrival. -/
  | line
  | scatter
  deriving DecidableEq, Repr, Inhabited

namespace PlotStyle

def toggled : PlotStyle → PlotStyle
  | line => scatter
  | scatter => line

/-- The name of a style in a settings file. -/
def name : PlotStyle → String
  | line => "line"
  | scatter => "scatter"

/-- The name of a style in the log. -/
def label : PlotStyle → String
  | line => "Line"
  | scatter => "Scatter"

def all : List PlotStyle := [line, scatter]

end PlotStyle

/-- The symbol that marks a point. -/
inductive MarkerKind where
  /-- Dots of a braille cell, two across and four down. -/
  | braille
  | dot
  | block
  deriving DecidableEq, Repr, Inhabited

namespace MarkerKind

/-- The name of a marker in a settings file. -/
def name : MarkerKind → String
  | braille => "braille"
  | dot => "dot"
  | block => "block"

/-- The name of a marker in the log. -/
def label : MarkerKind → String
  | braille => "Braille"
  | dot => "Dot"
  | block => "Block"

def all : List MarkerKind := [braille, dot, block]

end MarkerKind

/-- The settings of the picture. -/
structure DisplaySettings where
  /-- Milliseconds between two pictures. -/
  tickMs : UInt64 := 100
  style : PlotStyle := .line
  marker : MarkerKind := .braille
  /-- How many of the newest samples are listed; none hides the list. -/
  recentRecords : UInt64 := 8
  title : String := "frameplot"
  /-- The name of the color of the points. -/
  color : String := "cyan"
  deriving DecidableEq, Repr, Inhabited

/-- The settings of a session. -/
structure Settings where
  version : UInt32 := 1
  display : DisplaySettings := {}
  echo : Bool := true
  vimKeys : Bool := true
  deriving DecidableEq, Repr, Inhabited

namespace Settings

/-- The settings where no file and no argument says otherwise. -/
def default : Settings := {}

/-- Why settings cannot be used, if so. The tick is looked at first. -/
def invalid? (settings : Settings) : Option Failure :=
  if settings.display.tickMs = 0 then some (.settingInvalid "display.tick_ms" "must be positive")
  else if (Color.parse? settings.display.color).isNone then
    some (.settingInvalid "display.color" ("unknown color '" ++ settings.display.color ++ "'"))
  else none

/-- Settings that can be used, or why they cannot. -/
def validated (settings : Settings) : Except Failure Settings :=
  match settings.invalid? with
  | some failure => .error failure
  | none => .ok settings

/-- The color of the points. Cyan stands in for a name that is no color, which
validated settings do not have. -/
def seriesColor (settings : Settings) : Color :=
  (Color.parse? settings.display.color).getD .cyan

/-- The time between two pictures, as whole seconds and nanoseconds. -/
def tickInterval (settings : Settings) : Nat × Nat :=
  let milliseconds := settings.display.tickMs.toNat
  (milliseconds / 1000, milliseconds % 1000 * 1000000)

def text (settings : Settings) : String :=
  let display := settings.display
  let flag (value : Bool) := if value then "true" else "false"
  "Config \x7b version: " ++ settings.version.toNat.repr
    ++ ", display: DisplayConfig \x7b tick_ms: " ++ display.tickMs.toNat.repr
    ++ ", style: " ++ display.style.label
    ++ ", marker: " ++ display.marker.label
    ++ ", recent_records: " ++ display.recentRecords.toNat.repr
    ++ ", title: " ++ quoted display.title
    ++ ", color: " ++ quoted display.color
    ++ " \x7d, echo: " ++ flag settings.echo
    ++ ", vim_keys: " ++ flag settings.vimKeys ++ " \x7d"

end Settings

/-- What a command line says about the settings. -/
structure SettingsOverride where
  /-- The time between two pictures, which the command line accepts if it is not zero. -/
  tickMs : Option UInt64 := none
  scatter : Bool := false
  noEcho : Bool := false
  deriving DecidableEq, Repr, Inhabited

def Settings.overruled (settings : Settings) (override : SettingsOverride) : Settings where
  version := settings.version
  display :=
    { settings.display with
      tickMs := override.tickMs.getD settings.display.tickMs
      style := if override.scatter then .scatter else settings.display.style }
  echo := if override.noEcho then false else settings.echo
  vimKeys := settings.vimKeys

end StreamPlot
