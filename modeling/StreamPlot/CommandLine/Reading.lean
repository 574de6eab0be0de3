import StreamPlot.CommandLine.Interface

/-!
# Reading a command line

Arguments are read from left to right. An option that takes a value waits for it
until the next argument, unless the value is attached; an argument that begins with
a dash is never the value of the option before. The value is looked at when the next
option is met or the arguments end, and so the first mistake that shows is not
always the first that was made.

Programs take options only. Every other argument is a mistake.
-/

namespace StreamPlot

/-- What is wrong with a command line. -/
inductive UsageProblem (α : Type) where
  /-- An argument is no option and no value. One option may have been meant, and the
  usage is told with some options. -/
  | unexpected (argument : String) (meant : Option α) (used : List α)
  | repeated (option : α)
  /-- The value of an option cannot be used. -/
  | badValue (option : α) (value : String) (problem : ValueProblem)
  /-- An option has a value and takes none. Other options may have been read before. -/
  | superfluous (option : α) (value : String) (afterOthers : Bool)
  deriving DecidableEq, Repr

/-- Why the reading of a command line stops before its end. -/
inductive UsageStop (α : Type) where
  | problem (problem : UsageProblem α)
  /-- The user asks for an explanation, at length or in short. -/
  | help (atLength : Bool)
  | version
  deriving DecidableEq, Repr

/-- An option with its value. -/
structure FoundOption (α : Type) where
  option : α
  value : OptionValue
  deriving DecidableEq, Repr

/-- An option that waits for its value, or whose value has not been looked at. -/
structure PendingOption (α : Type) where
  option : α
  value : Option String
  deriving DecidableEq, Repr

/-- What is known of a command line on the way through it. -/
structure UsageProgress (α : Type) where
  /-- The options that have been met, with their values, in order. -/
  found : List (FoundOption α) := []
  pending : Option (PendingOption α) := none
  deriving DecidableEq, Repr

namespace UsageProgress

variable {α : Type} [DecidableEq α]

def has (progress : UsageProgress α) (option : α) : Bool :=
  progress.found.any fun found => found.option == option

/-- Take an option with its value. None can be given twice. -/
def accept (interface : Interface α) (progress : UsageProgress α) (option : α)
    (value : Option String) : Except (UsageStop α) (UsageProgress α) :=
  match (interface.form option).kind, value with
  | .valued _ _, none => .error (.problem (.badValue option "" .missing))
  | .valued _ kind, some value =>
      if progress.has option then .error (.problem (.repeated option))
      else
        match kind.readValue value with
        | .error problem => .error (.problem (.badValue option value problem))
        | .ok value => .ok { progress with found := progress.found ++ [⟨option, value⟩] }
  | _, _ =>
      if progress.has option then .error (.problem (.repeated option))
      else .ok { progress with found := progress.found ++ [⟨option, .present⟩] }

/-- Look at the option that is pending, if one is. -/
def settle (interface : Interface α) (progress : UsageProgress α) :
    Except (UsageStop α) (UsageProgress α) :=
  match progress.pending with
  | none => .ok progress
  | some pending => accept interface { progress with pending := none } pending.option pending.value

/-- The options with which the usage is told after a mistake: those that have been met,
also the one whose value has not been looked at. -/
def used (progress : UsageProgress α) : List α :=
  let found := progress.found.map FoundOption.option
  match progress.pending with
  | some ⟨option, some _⟩ =>
      if found.contains option then found.erase option else found ++ [option]
  | _ => found

/-- The options with which the usage is told if one more belongs to them. -/
def usedWith (progress : UsageProgress α) (option : α) : List α :=
  if progress.used.contains option then progress.used else progress.used ++ [option]

/-- Meet an option that has its value with it, or takes none. -/
def meet (interface : Interface α) (progress : UsageProgress α) (option : α)
    (value : Option String) (long : Bool) : Except (UsageStop α) (UsageProgress α) :=
  match settle interface progress with
  | .error stop => .error stop
  | .ok progress =>
      match (interface.form option).kind with
      | .help => .error (.help long)
      | .version => .error .version
      | _ => accept interface progress option value

/-- Meet an option that waits for its value. -/
def await (interface : Interface α) (progress : UsageProgress α) (option : α) :
    Except (UsageStop α) (UsageProgress α) :=
  match settle interface progress with
  | .error stop => .error stop
  | .ok progress => .ok { progress with pending := some ⟨option, none⟩ }

/-- Read what follows two dashes: a name, and perhaps a value behind an equals sign. -/
def readLong (interface : Interface α) (progress : UsageProgress α) (text : List Char) :
    Except (UsageStop α) (UsageProgress α) :=
  let name := String.ofList (text.takeWhile (· != '='))
  let attached := match text.dropWhile (· != '=') with
    | [] => none
    | _ :: value => some (String.ofList value)
  match interface.ofLong? name with
  | none =>
      let meant := interface.similar? name
      let used := match meant with
        | some option => progress.usedWith option
        | none => progress.used
      .error (.problem (.unexpected ("--" ++ name) meant used))
  | some option =>
      match (interface.form option).kind, attached with
      | .valued _ _, none => progress.await interface option
      | .valued _ _, some value => progress.meet interface option (some value) true
      | _, some value =>
          .error (.problem (.superfluous option value !progress.found.isEmpty))
      | _, none => progress.meet interface option none true

/-- Read what follows a single dash: letters of options, the last of which may have
its value right behind it, with or without an equals sign. -/
def readShort (interface : Interface α) (progress : UsageProgress α) :
    List Char → Except (UsageStop α) (UsageProgress α)
  | [] => .ok progress
  | letter :: rest =>
      match interface.ofShort? letter with
      | none =>
          .error (.problem (.unexpected (String.ofList ['-', letter]) none []))
      | some option =>
          match (interface.form option).kind, rest with
          | .valued _ _, [] => progress.await interface option
          | .valued _ _, '=' :: value =>
              progress.meet interface option (some (String.ofList value)) false
          | .valued _ _, value =>
              progress.meet interface option (some (String.ofList value)) false
          | _, _ =>
              match progress.meet interface option none false with
              | .error stop => .error stop
              | .ok progress => readShort interface progress rest

/-- Read one argument in front of the end of the options. -/
def readArgument (interface : Interface α) (progress : UsageProgress α) (argument : String) :
    Except (UsageStop α) (UsageProgress α) :=
  match argument.toList with
  | '-' :: '-' :: text => progress.readLong interface text
  | '-' :: letter :: rest => progress.readShort interface (letter :: rest)
  | _ =>
      match progress.pending with
      | some ⟨option, none⟩ => .ok { progress with pending := some ⟨option, some argument⟩ }
      | _ => .error (.problem (.unexpected argument none []))

/-- Read all arguments. Two dashes alone end the options, and nothing can follow them. -/
def readAll (interface : Interface α) (progress : UsageProgress α) :
    List String → Except (UsageStop α) (UsageProgress α)
  | [] => settle interface progress
  | ["--"] => settle interface progress
  | "--" :: argument :: _ => .error (.problem (.unexpected argument none []))
  | argument :: rest =>
      match progress.readArgument interface argument with
      | .error stop => .error stop
      | .ok progress => progress.readAll interface rest

end UsageProgress

namespace Interface

variable {α : Type} [DecidableEq α]

/-- The options of a command line, each at most once, with their values. -/
def read (interface : Interface α) (arguments : List String) :
    Except (UsageStop α) (List (FoundOption α)) :=
  (UsageProgress.readAll interface {} arguments).map UsageProgress.found

end Interface

/-- The value of an option among those found. -/
def findOption {α : Type} [DecidableEq α] (option : α) :
    List (FoundOption α) → Option OptionValue
  | [] => none
  | found :: rest => if found.option = option then some found.value else findOption option rest

def hasOption {α : Type} [DecidableEq α] (option : α) (found : List (FoundOption α)) : Bool :=
  (findOption option found).isSome

/-- The text that is the value of an option. -/
def findText {α : Type} [DecidableEq α] (option : α) (found : List (FoundOption α)) :
    Option String :=
  match findOption option found with
  | some (.text text) => some text
  | _ => none

/-- The number that is the value of an option. -/
def findNumber {α : Type} [DecidableEq α] (option : α) (found : List (FoundOption α)) :
    Option Nat :=
  match findOption option found with
  | some (.number number) => some number.toNat
  | _ => none

end StreamPlot
