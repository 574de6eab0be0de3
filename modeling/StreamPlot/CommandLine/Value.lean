import StreamPlot.CommandLine.Similarity

/-!
# Values of options

What the value of an option may be, how it is read, and what can be wrong with it.
-/

namespace StreamPlot

/-- The numbers that an option takes. A number is first read as a word, and then
compared with the numbers that make sense. -/
structure NumberRange where
  lowest : Int
  highest : Int
  least : Int
  greatest : Int
  /-- The numbers that make sense, as they are told to the user. -/
  text : String
  deriving DecidableEq, Repr

namespace NumberRange

def word : NumberRange := ⟨0, 18446744073709551615, 0, 18446744073709551615, ""⟩

/-- All words of 64 bits but zero. -/
def positive : NumberRange :=
  ⟨0, 18446744073709551615, 1, 18446744073709551615, "1..18446744073709551615"⟩

/-- The words of 32 bits, among the signed ones of 64 bits. -/
def shortWord : NumberRange :=
  ⟨-9223372036854775808, 9223372036854775807, 0, 4294967295, "0..=4294967295"⟩

end NumberRange

/-- What the value of an option must be. -/
inductive ValueKind where
  | path
  | number (range : NumberRange)
  | choice (names : List String)
  deriving DecidableEq, Repr

/-- The value of an option. -/
inductive OptionValue where
  | present
  | text (text : String)
  | number (number : Int)
  deriving DecidableEq, Repr, Inhabited

/-- What is wrong with the value of an option. -/
inductive ValueProblem where
  | missing
  /-- There is no digit where a number should be. -/
  | noDigits
  | notADigit
  /-- The number is beyond the greatest that is read. -/
  | tooLarge
  /-- The number is below the least that is read. -/
  | tooSmall
  | outside (number : Int) (range : NumberRange)
  /-- It is none of the names. One of them may be similar. -/
  | notAChoice (similar : Option String)
  deriving DecidableEq, Repr

/-- Read on in the digits of a number, and stop at the first that is none or that
makes the number greater than `greatest`. -/
def readDigits (greatest : Nat) (sofar : Nat) : List Char → Except ValueProblem Nat
  | [] => .ok sofar
  | digit :: rest =>
      if !digit.isDigit then .error .notADigit
      else
        let next := 10 * sofar + (digit.toNat - '0'.toNat)
        if greatest < next then .error .tooLarge else readDigits greatest next rest

/-- Read a whole number with an optional sign. A minus sign is only known where
negative numbers are read. -/
def NumberRange.readSigned (range : NumberRange) (text : String) : Except ValueProblem Int :=
  match text.toList with
  | [] => .error .noDigits
  | ['+'] => .error .notADigit
  | ['-'] => .error .notADigit
  | '+' :: digits => (readDigits range.highest.toNat 0 digits).map Int.ofNat
  | '-' :: digits =>
      if range.lowest < 0 then
        match readDigits range.lowest.natAbs 0 digits with
        | .ok number => .ok (-(number : Int))
        | .error .tooLarge => .error .tooSmall
        | .error problem => .error problem
      else .error .notADigit
  | digits => (readDigits range.highest.toNat 0 digits).map Int.ofNat

def NumberRange.readNumber (range : NumberRange) (text : String) : Except ValueProblem Int :=
  match range.readSigned text with
  | .error problem => .error problem
  | .ok number =>
      if range.least ≤ number ∧ number ≤ range.greatest then .ok number
      else .error (.outside number range)

def ValueKind.readValue (kind : ValueKind) (text : String) : Except ValueProblem OptionValue :=
  match kind with
  | .path => if text.isEmpty then .error .missing else .ok (.text text)
  | .number range => (range.readNumber text).map .number
  | .choice names =>
      if names.contains text then .ok (.text text)
      else if text.isEmpty then .error .missing
      else .error (.notAChoice (mostSimilar? text names))

/-- A number that has been read makes sense. -/
theorem NumberRange.mem_of_readNumber {range : NumberRange} {text : String} {number : Int}
    (h : range.readNumber text = .ok number) :
    range.least ≤ number ∧ number ≤ range.greatest := by
  unfold NumberRange.readNumber at h
  split at h
  next => simp at h
  next read _ =>
    split at h
    next hin =>
      cases h
      exact hin
    next => simp at h

end StreamPlot
