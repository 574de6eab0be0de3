import StreamPlot.Markup.Token

/-!
# What a plain scalar means

A plain scalar without a tag is read as the first of these that it has the form of:
nothing, a truth value, a whole number, a float, a text. Whole numbers may be written
to base ten without needless zeros, or to base 2, 8 or 16 behind a mark.
-/

namespace StreamPlot.Markup

/-- What a scalar means. -/
inductive Reading where
  | null
  | boolean (value : Bool)
  /-- A whole number of at most 64 bits. -/
  | integer (value : Int)
  /-- A whole number of at most 128 bits. -/
  | wide (value : Int)
  | float (value : Float)
  | text (text : String)
  deriving Repr, Inhabited

/-- The value of a digit to base 10 or 16. -/
def digitValue (c : Char) : Nat :=
  if c.isDigit then c.toNat - 48 else c.toLower.toNat - 87

/-- Whether a character is a digit to a base of at most 16. -/
def isDigitTo (base : Nat) (c : Char) : Bool :=
  (c.isDigit || (c.toLower ≥ 'a' && c.toLower ≤ 'f')) && digitValue c < base

/-- The number that digits to a base denote. -/
def digits? (base : Nat) (text : List Char) : Option Nat :=
  if text.isEmpty || !text.all (isDigitTo base) then none
  else some (text.foldl (fun value c => base * value + digitValue c) 0)

/-- The marks of the bases other than ten. -/
def bases : List (List Char × Nat) :=
  [(['0', 'x'], 16), (['0', 'o'], 8), (['0', 'b'], 2)]

/-- The number that follows a mark of its base. -/
def markedDigits? (text : List Char) : Option Nat :=
  bases.findSome? fun (mark, base) =>
    if mark.isPrefixOf text then digits? base (text.drop mark.length) else none

/-- Whether a text is digits with a needless zero in front, perhaps after a sign. -/
def hasNeedlessZero (text : List Char) : Bool :=
  let digits := match text with
    | '+' :: rest => rest
    | '-' :: rest => rest
    | _ => text
  digits.length > 1 && digits.head? == some '0' && digits.all Char.isDigit

/-- The size of a whole number with a minus sign. -/
def negated? (text : List Char) : Option Nat :=
  match text with
  | '-' :: digits =>
      match markedDigits? digits with
      | some value => some value
      | none => if hasNeedlessZero text then none else digits? 10 digits
  | _ => none

/-- A whole number without a sign or with a plus sign, no greater than a limit. -/
def naturalUpTo? (limit : Nat) (text : List Char) : Option Nat :=
  let digits := if text.head? == some '+' then text.drop 1 else text
  match (markedDigits? digits).filter (· ≤ limit) with
  | some value => some value
  | none =>
      if hasNeedlessZero text then none else (digits? 10 digits).filter (· ≤ limit)

/-- A whole number with a minus sign whose size is no greater than a limit. -/
def negatedUpTo? (limit : Nat) (text : List Char) : Option Nat :=
  (negated? text).filter (· ≤ limit)

/-- A whole number of at most 128 bits, of any form. -/
def integer? (text : List Char) : Option Reading :=
  match naturalUpTo? 18446744073709551615 text with
  | some value => some (.integer value)
  | none =>
      match negatedUpTo? 9223372036854775808 text with
      | some value => some (.integer (-(value : Int)))
      | none =>
          match naturalUpTo? (Nat.pow 2 128 - 1) text with
          | some value => some (.wide value)
          | none => (negatedUpTo? (Nat.pow 2 127) text).map fun value => .wide (-(value : Int))

/-- The power of ten that a text ends with, if it has no other end: nothing, or a
letter and a whole number with or without a sign. -/
def exponent? (text : List Char) : Option Int :=
  match text with
  | [] => some 0
  | mark :: rest =>
      if mark == 'e' || mark == 'E' then
        match rest with
        | '-' :: digits => (digits? 10 digits).map fun value => -(value : Int)
        | '+' :: digits => (digits? 10 digits).map fun value => (value : Int)
        | digits => (digits? 10 digits).map fun value => (value : Int)
      else none

/-- The float nearest to `digits * 10 ^ power`, unless it is out of range. -/
def floatOf? (digits : Nat) (power : Int) : Option Float :=
  let magnitude := power + digits.repr.length
  if digits = 0 || magnitude < -400 then some 0.0
  else if magnitude > 400 then none
  else
    let value := Float.ofScientific digits (power < 0) power.natAbs
    if value.isFinite then some value else none

def decimal? (text : List Char) : Option Float :=
  let whole := text.takeWhile Char.isDigit
  let rest := text.dropWhile Char.isDigit
  let (fraction, rest) := match rest with
    | '.' :: rest => (rest.takeWhile Char.isDigit, rest.dropWhile Char.isDigit)
    | _ => ([], rest)
  let digits := whole ++ fraction
  match digits? 10 digits, exponent? rest with
  | some value, some power => floatOf? value (power - fraction.length)
  | _, _ => none

/-- A float: a decimal fraction, or a word for a value that is no number. -/
def float? (text : List Char) : Option Float :=
  let word := String.ofList text
  let unsigned := if text.head? == some '+' then text.drop 1 else text
  if text.head? == some '+' && (unsigned.head? == some '+' || unsigned.head? == some '-') then none
  else if [".inf", ".Inf", ".INF"].contains (String.ofList unsigned) then some (1.0 / 0.0)
  else if ["-.inf", "-.Inf", "-.INF"].contains word then some (-1.0 / 0.0)
  else if [".nan", ".NaN", ".NAN"].contains word then some (0.0 / 0.0)
  else
    match unsigned with
    | '-' :: rest => (decimal? rest).map fun value => -value
    | _ => decimal? unsigned

def boolean? (text : String) : Option Bool :=
  if ["true", "True", "TRUE"].contains text then some true
  else if ["false", "False", "FALSE"].contains text then some false
  else none

/-- Whether a text is a word for nothing. -/
def isNullWord (text : String) : Bool :=
  ["null", "Null", "NULL", "~"].contains text

/-- What a plain scalar without a tag means. -/
def Reading.ofPlain (text : String) : Reading :=
  let characters := text.toList
  if text.isEmpty || isNullWord text then null
  else
    match boolean? text with
    | some value => boolean value
    | none =>
        match integer? characters with
        | some reading => reading
        | none =>
            match if hasNeedlessZero characters then none else float? characters with
            | some value => float value
            | none => .text text

end StreamPlot.Markup
