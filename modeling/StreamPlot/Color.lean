import StreamPlot.Text.Quoted

/-!
# Colors

A color is one of the sixteen that every terminal has, an entry of a palette, or
a mixture of red, green and blue. Its name may be written in any case, with
spaces, hyphens and underscores anywhere, and in some older spellings.
-/

namespace StreamPlot

/-- A color of the terminal. -/
inductive Color where
  | reset
  | black
  | red
  | green
  | yellow
  | blue
  | magenta
  | cyan
  | gray
  | darkGray
  | lightRed
  | lightGreen
  | lightYellow
  | lightBlue
  | lightMagenta
  | lightCyan
  | white
  | indexed (index : UInt8)
  | rgb (r g b : UInt8)
  deriving DecidableEq, Repr, Inhabited

namespace Color

/-- The colors that have a name, under the name itself. -/
def named : List (String × Color) :=
  [("reset", reset), ("black", black), ("red", red), ("green", green), ("yellow", yellow),
    ("blue", blue), ("magenta", magenta), ("cyan", cyan), ("gray", gray),
    ("darkgray", darkGray), ("lightred", lightRed), ("lightgreen", lightGreen),
    ("lightyellow", lightYellow), ("lightblue", lightBlue), ("lightmagenta", lightMagenta),
    ("lightcyan", lightCyan), ("white", white)]

/-- Older spellings and the ones that stand for them, in the order in which they are replaced. -/
def spellings : List (String × String) :=
  [("bright", "light"), ("grey", "gray"), ("silver", "gray"), ("lightblack", "darkgray"),
    ("lightwhite", "white"), ("lightgray", "white")]

/-- A character in lower case, as far as names of colors can tell: the letters of
ASCII, and the sign for kelvin, which is a capital `K`. -/
def foldCase (c : Char) : Char :=
  if c.toNat == 0x212A then 'k' else c.toLower

/-- Replace every occurrence of a text, from the left. -/
def replaceAll (old new : List Char) (text : List Char) : List Char :=
  match text with
  | [] => []
  | c :: rest =>
      if _ : old.length ≠ 0 ∧ old.isPrefixOf (c :: rest) then
        new ++ replaceAll old new ((c :: rest).drop old.length)
      else c :: replaceAll old new rest
termination_by text.length
decreasing_by
  · simp; omega
  · simp

/-- A name of a color in its plain spelling. -/
def plainName (text : String) : String :=
  let letters := (text.toList.map foldCase).filter fun c => !(c == ' ' || c == '-' || c == '_')
  String.ofList
    (spellings.foldl (fun name change => replaceAll change.1.toList change.2.toList name) letters)

/-- A byte in decimal digits, perhaps after a plus sign. -/
def byte? (text : List Char) : Option UInt8 :=
  let digits := if text.head? == some '+' then text.drop 1 else text
  if digits.isEmpty || !digits.all Char.isDigit then none
  else
    let value := digits.foldl (fun value c => min 256 (10 * value + (c.toNat - 48))) 0
    if value < 256 then some (UInt8.ofNat value) else none

/-- The value of a digit to base 16. -/
def hexDigit? (c : Char) : Option Nat :=
  if '0' ≤ c ∧ c ≤ '9' then some (c.toNat - 48)
  else if 'a' ≤ c ∧ c ≤ 'f' then some (c.toNat - 87)
  else if 'A' ≤ c ∧ c ≤ 'F' then some (c.toNat - 55)
  else none

/-- A byte in two characters to base 16, the first of which may be a plus sign. -/
def hexByte? (high low : Char) : Option UInt8 := do
  let low ← hexDigit? low
  if high == '+' then return UInt8.ofNat low
  let high ← hexDigit? high
  return UInt8.ofNat (16 * high + low)

/-- A mixture, as `#` and six digits to base 16. -/
def rgb? : List Char → Option Color
  | ['#', r1, r0, g1, g0, b1, b0] => do
      return rgb (← hexByte? r1 r0) (← hexByte? g1 g0) (← hexByte? b1 b0)
  | _ => none

def parse? (text : String) : Option Color :=
  match named.lookup (plainName text) with
  | some color => some color
  | none => ((byte? text.toList).map indexed).orElse fun _ => rgb? text.toList

/-- A byte as two digits to base 16, in capitals. -/
def hexText (byte : UInt8) : String :=
  let text := (hexadecimal byte.toNat).toUpper
  if text.length < 2 then "0" ++ text else text

def text : Color → String
  | reset => "Reset"
  | black => "Black"
  | red => "Red"
  | green => "Green"
  | yellow => "Yellow"
  | blue => "Blue"
  | magenta => "Magenta"
  | cyan => "Cyan"
  | gray => "Gray"
  | darkGray => "DarkGray"
  | lightRed => "LightRed"
  | lightGreen => "LightGreen"
  | lightYellow => "LightYellow"
  | lightBlue => "LightBlue"
  | lightMagenta => "LightMagenta"
  | lightCyan => "LightCyan"
  | white => "White"
  | indexed index => index.toNat.repr
  | rgb r g b => "#" ++ hexText r ++ hexText g ++ hexText b

end Color

end StreamPlot
