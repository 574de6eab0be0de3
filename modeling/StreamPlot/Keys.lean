/-!
# Keys and what they do

With the control key, only `c` and `q` do anything. Without it, the letters of the
help text do what it says; `Q` quits if the settings say so. Shift and the other
modifiers change nothing, since a shifted letter is a letter of its own.
-/

namespace StreamPlot

/-- A key of the keyboard. -/
inductive Key where
  | char (c : Char)
  | escape
  | function (number : Nat)
  | other (name : String)
  deriving DecidableEq, Repr, Inhabited

/-- A press of a key. -/
structure KeyPress where
  key : Key
  control : Bool := false
  deriving DecidableEq, Repr, Inhabited

/-- What a key press asks for. -/
inductive Action where
  | quit
  | help
  | toggleStyle
  | none
  deriving DecidableEq, Repr, Inhabited

namespace Action

def label : Action → String
  | quit => "Quit"
  | help => "Help"
  | toggleStyle => "ToggleStyle"
  | none => "None"

def all : List Action := [quit, help, toggleStyle, none]

end Action

def KeyPress.action (press : KeyPress) (vimKeys : Bool) : Action :=
  if press.control then
    match press.key with
    | .char 'c' => .quit
    | .char 'q' => .quit
    | _ => .none
  else
    match press.key with
    | .char 'q' => .quit
    | .escape => .quit
    | .char 'Q' => if vimKeys then .quit else .none
    | .char '?' => .help
    | .function 1 => .help
    | .char 'm' => .toggleStyle
    | .char 's' => .toggleStyle
    | _ => .none

end StreamPlot
