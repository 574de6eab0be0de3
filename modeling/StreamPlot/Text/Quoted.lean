import StreamPlot.Text.Printable
import StreamPlot.Text.Extend

/-!
# Quoted text

Text that is shown to the user as a value stands in double quotes. What could be
mistaken for a part of the surroundings is escaped: quotes, backslashes, and all
characters that have no picture or attach themselves to their neighbour.
-/

namespace StreamPlot

/-- The digits of a number to base 16, in lower case. -/
def hexadecimal (value : Nat) : String :=
  String.ofList (Nat.toDigits 16 value)

/-- Whether a character would be shown as a part of the one before it. The halfwidth sound
marks of Japanese stand in a cell of their own. -/
def attaches (c : Char) : Bool :=
  isGraphemeExtend c && c.toNat != 0xFF9E && c.toNat != 0xFF9F

/-- One character inside quotes. -/
def quotedChar (c : Char) : String :=
  if c == '\x00' then "\\0"
  else if c == '\t' then "\\t"
  else if c == '\r' then "\\r"
  else if c == '\n' then "\\n"
  else if c == '\x22' then "\\\x22"
  else if c == '\\' then "\\\\"
  else if attaches c || !isPrintable c then "\\u\x7b" ++ hexadecimal c.toNat ++ "\x7d"
  else String.singleton c

/-- A text in quotes. -/
def quoted (text : String) : String :=
  "\x22" ++ String.join (text.toList.map quotedChar) ++ "\x22"

end StreamPlot
