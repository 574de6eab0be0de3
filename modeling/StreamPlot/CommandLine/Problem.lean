import StreamPlot.CommandLine.Reading

/-!
# What a user is told about a command line

Every mistake on a command line has one text, which names the option or the argument,
says what is wrong and where help is to be found.
-/

namespace StreamPlot

/-- Why a value cannot be used, behind the name of its option. -/
def ValueProblem.reason : ValueProblem → String
  | missing => ""
  | noDigits => ": cannot parse integer from empty string"
  | notADigit => ": invalid digit found in string"
  | tooLarge => ": number too large to fit in target type"
  | tooSmall => ": number too small to fit in target type"
  | outside number range => ": " ++ number.repr ++ " is not in " ++ range.text
  | notAChoice _ => ""

/-- The names that a value can be, on a line of their own. -/
def ValueKind.choicesText : ValueKind → String
  | path => ""
  | number _ => ""
  | choice names => "\n  [possible values: " ++ ", ".intercalate names ++ "]"

/-- A hint at what may have been meant. -/
def similarTip (what : String) (name : String) : String :=
  "\n\n  tip: a similar " ++ what ++ " exists: '" ++ name ++ "'"

namespace UsageProblem

variable {α : Type}

/-- The names that the value of an option can be. -/
def choices (interface : Interface α) (option : α) : String :=
  match (interface.form option).kind with
  | .valued _ kind => kind.choicesText
  | _ => ""

/-- What is wrong, with a hint if there is one and the usage where it helps. -/
def text (interface : Interface α) : UsageProblem α → String
  | unexpected argument meant used =>
      "unexpected argument '" ++ argument ++ "' found"
        ++ (match meant with
          | some option => similarTip "argument" ("--" ++ (interface.form option).long)
          | none => "")
        ++ "\n\n" ++ interface.usage used
  | repeated option =>
      "the argument '" ++ interface.optionText option ++ "' cannot be used multiple times\n\n"
        ++ interface.usage []
  | badValue option _ .missing =>
      "a value is required for '" ++ interface.optionText option ++ "' but none was supplied"
        ++ choices interface option
  | badValue option value (.notAChoice similar) =>
      "invalid value '" ++ value ++ "' for '" ++ interface.optionText option ++ "'"
        ++ choices interface option
        ++ (match similar with
          | some name => similarTip "value" name
          | none => "")
  | badValue option value problem =>
      "invalid value '" ++ value ++ "' for '" ++ interface.optionText option ++ "'"
        ++ problem.reason
  | superfluous option value afterOthers =>
      "unexpected value '" ++ value ++ "' for '" ++ interface.optionText option
        ++ "' found; no more were expected\n\n"
        ++ if afterOthers then interface.usageAfterOthers option else interface.usage [option]

def message (interface : Interface α) (problem : UsageProblem α) : String :=
  "error: " ++ problem.text interface ++ "\n\nFor more information, try '--help'.\n"

end UsageProblem

end StreamPlot
