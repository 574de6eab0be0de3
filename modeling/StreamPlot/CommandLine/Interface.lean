import StreamPlot.CommandLine.Value

/-!
# Interfaces of programs

The options that a program knows, what each of them takes, and the texts with which
a program explains itself. The type of the options is a program's own.
-/

namespace StreamPlot

/-- What comes with an option. -/
inductive OptionKind where
  | flag
  /-- A value, which the user is told about under the name of the placeholder. -/
  | valued (placeholder : String) (kind : ValueKind)
  /-- Nothing; it asks for an explanation of the options. -/
  | help
  /-- Nothing; it asks for the version of the program. -/
  | version
  deriving DecidableEq, Repr

/-- Whether an option tells the program what to do, and does not ask it about itself. -/
def OptionKind.isInstruction : OptionKind → Bool
  | flag => true
  | valued _ _ => true
  | help => false
  | version => false

/-- How an option is written on a command line. -/
structure OptionForm where
  /-- Its name, which follows two dashes. -/
  long : String
  /-- The letter that can follow a single dash instead. -/
  short : Option Char := none
  kind : OptionKind := .flag
  deriving DecidableEq, Repr

/-- The interface of a program with options of type `α`. -/
structure Interface (α : Type) where
  program : String
  version : String
  options : List α
  form : α → OptionForm
  shortHelp : String
  longHelp : String

namespace Interface

variable {α : Type}

def ofLong? (interface : Interface α) (name : String) : Option α :=
  interface.options.find? fun option => (interface.form option).long == name

def ofShort? (interface : Interface α) (letter : Char) : Option α :=
  interface.options.find? fun option => (interface.form option).short == some letter

/-- The option whose name is most similar to what was written, if one is similar at all. -/
def similar? (interface : Interface α) (name : String) : Option α :=
  (mostSimilar? name (interface.options.map fun option => (interface.form option).long)).bind
    interface.ofLong?

/-- An option as the user is told about it, with a placeholder for its value. -/
def optionText (interface : Interface α) (option : α) : String :=
  let form := interface.form option
  match form.kind with
  | .valued placeholder _ => "--" ++ form.long ++ " <" ++ placeholder ++ ">"
  | _ => "--" ++ form.long

/-- How the program is used: with the options that are given, or with any. -/
def usage (interface : Interface α) : List α → String
  | [] => "Usage: " ++ interface.program ++ " [OPTIONS]"
  | options =>
      "Usage: " ++ interface.program
        ++ String.join (options.map fun option => " " ++ interface.optionText option)

/-- How the program is used with an option that follows others: those are told as a choice
of all instructions, among which the option may be itself. -/
def usageAfterOthers (interface : Interface α) (option : α) : String :=
  let isInstruction (option : α) : Bool := (interface.form option).kind.isInstruction
  let choice := (interface.options.filter isInstruction).map interface.optionText
  "Usage: " ++ interface.program
    ++ (if isInstruction option then "" else " " ++ interface.optionText option)
    ++ " <" ++ "|".intercalate choice ++ ">"

/-- The version of the program, as it is told. -/
def versionText (interface : Interface α) : String :=
  interface.program ++ " " ++ interface.version ++ "\n"

end Interface

end StreamPlot
