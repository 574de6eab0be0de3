import StreamPlot.Markup.Token

/-!
# Anchors, tags and directives

An anchor or alias is a name. A tag is a handle, which stands for the start of an
address, and the rest of the address; or it is a whole address. A directive, in a
line of its own, tells the version of the language or what a handle stands for.
-/

namespace StreamPlot.Markup

/-- Read the name after the sign of an anchor or alias. -/
def scanName (context : Context) (cursor : Cursor) :
    Except SyntaxError (String × Cursor) :=
  let start := cursor.position
  let (name, cursor) := cursor.skip.takeWhile isNameChar
  let ends := cursor.blankOrEnd 0 || cursor.seesAny 0 fun c =>
    c == '?' || c == ':' || c == ',' || c == ']' || c == '\x7d' || c == '%' || c == '@'
      || c == '\x60'
  if name.isEmpty || !ends then .error (.inside .nameMalformed cursor.position context start)
  else .ok (String.ofList name, cursor)

/-! ### Tags -/

/-- Read a handle: an exclamation mark, perhaps a name and a second mark. In a
directive a name without the second mark is refused. -/
def scanHandle (directive : Bool) (start : Position) (cursor : Cursor) :
    Except SyntaxError (String × Cursor) :=
  if !cursor.sees 0 '!' then
    .error (.inside .tagOpen cursor.position
      (if directive then .tagDirectiveHandle else .tagScan) start)
  else
    let (name, cursor) := cursor.skip.takeWhile isNameChar
    let handle := '!' :: name
    if cursor.sees 0 '!' then .ok (String.ofList (handle ++ ['!']), cursor.skip)
    else if directive && !name.isEmpty then
      .error (.inside .tagOpen cursor.position .tagDirectiveValue start)
    else .ok (String.ofList handle, cursor)

/-- A character that may stand in an address. A tag in angle brackets and the
address of a directive may also hold commas and brackets. -/
def isAddressChar (full : Bool) (c : Char) : Bool :=
  isNameChar c || ";/?:@&=+$.%!~*\x27()".toList.contains c
    || (full && (c == ',' || c == '[' || c == ']'))

/-- The value of a digit to base 16, or nothing. -/
def hexDigitValue? (c : Option Char) : Option Nat :=
  match c with
  | none => none
  | some c =>
      if '0' ≤ c ∧ c ≤ '9' then some (c.toNat - 48)
      else if 'a' ≤ c ∧ c ≤ 'f' then some (c.toNat - 87)
      else if 'A' ≤ c ∧ c ≤ 'F' then some (c.toNat - 55)
      else none

/-- The octet that is escaped at the cursor by a percent sign and two digits. -/
def escapedOctet? (cursor : Cursor) : Option Nat := do
  guard (cursor.sees 0 '%')
  let high ← hexDigitValue? (cursor.peek 1)
  let low ← hexDigitValue? (cursor.peek 2)
  return 16 * high + low

/-- The number of octets in the code of a character whose first octet is given. -/
def octetLength? (octet : Nat) : Option Nat :=
  if octet < 0x80 then some 1
  else if octet / 0x20 == 6 then some 2
  else if octet / 0x10 == 14 then some 3
  else if octet / 0x8 == 30 then some 4
  else none

/-- Read the further octets of an escaped character, as many as are missing, in front of
the reversed `octets`. -/
def scanTrailingOctets (context : Context) (start : Position) :
    (missing : Nat) → (octets : List UInt8) → Cursor →
      Except SyntaxError (List UInt8 × Cursor)
  | 0, octets, cursor => .ok (octets, cursor)
  | missing + 1, octets, cursor =>
      match escapedOctet? cursor with
      | none => .error (.inside .escapedOctet cursor.position context start)
      | some octet =>
          if octet / 0x40 == 2 then
            scanTrailingOctets context start missing (UInt8.ofNat octet :: octets)
              (Cursor.skipMany 3 cursor)
          else .error (.inside .trailingOctet cursor.position context start)

/-- Read a character that is escaped octet by octet, in front of the reversed `octets`. -/
def scanAddressEscape (context : Context) (start : Position) (octets : List UInt8)
    (cursor : Cursor) : Except SyntaxError (List UInt8 × Cursor) :=
  match escapedOctet? cursor with
  | none => .error (.inside .escapedOctet cursor.position context start)
  | some octet =>
      match octetLength? octet with
      | none => .error (.inside .leadingOctet cursor.position context start)
      | some length =>
          scanTrailingOctets context start (length - 1) (UInt8.ofNat octet :: octets)
            (Cursor.skipMany 3 cursor)

/-- Read the characters of an address, at most `room` of them. The octets are reversed. -/
def scanAddressFrom (full : Bool) (context : Context) (start : Position) :
    (room : Nat) → List UInt8 → Cursor → Except SyntaxError (List UInt8 × Cursor)
  | 0, octets, cursor => .ok (octets, cursor)
  | room + 1, octets, cursor =>
      match cursor.peek 0 with
      | none => .ok (octets, cursor)
      | some c =>
          if !isAddressChar full c then .ok (octets, cursor)
          else if c == '%' then
            match scanAddressEscape context start octets cursor with
            | .error mistake => .error mistake
            | .ok (octets, next) => scanAddressFrom full context start room octets next
          else scanAddressFrom full context start room (UInt8.ofNat c.toNat :: octets) cursor.skip

/-- Read an address, of which `head` has been read as a handle. -/
def scanAddress (full directive : Bool) (head : String) (start : Position) (cursor : Cursor) :
    Except SyntaxError (Tag × Cursor) := do
  let context := if directive then Context.tagDirectiveAddress else .tagAddress
  let (octets, next) ←
    scanAddressFrom full context start cursor.rest.length [] cursor
  if head.isEmpty && octets.isEmpty then
    throw (.inside .tagAddress next.position context start)
  return (.ofOctets ((Tag.ofText head).octets.drop 1 ++ octets.reverse), next)

/-- Whether a handle has both its marks. -/
def isNamedHandle (handle : String) : Bool :=
  handle.length > 1 && handle.toList.getLast? == some '!'

/-- Read a tag. -/
def scanTag (inFlow : Bool) (cursor : Cursor) :
    Except SyntaxError (TokenKind × Cursor) := do
  let start := cursor.position
  let (kind, next) ←
    if cursor.sees 1 '<' then do
      let (address, next) ← scanAddress true false "" start cursor.skip.skip
      if !next.sees 0 '>' then throw (.inside .tagClose next.position .tagScan start)
      pure (TokenKind.tag "" address, next.skip)
    else do
      let (handle, next) ← scanHandle false start cursor
      if isNamedHandle handle then
        let (rest, next) ← scanAddress false false "" start next
        pure (TokenKind.tag handle rest, next)
      else
        let (rest, next) ← scanAddress false false handle start next
        pure (if rest.isEmpty then TokenKind.tag "" .plainMark else .tag "!" rest, next)
  if next.blankOrEnd 0 || (inFlow && next.sees 0 ',') then return (kind, next)
  throw (.inside .blankOrBreakMissing next.position .tagScan start)

/-! ### Directives -/

/-- Read a number of a version, of at most nine digits. -/
def scanVersionNumber (start : Position) (cursor : Cursor) :
    Except SyntaxError (Nat × Cursor) :=
  let (digits, next) := cursor.takeWhile Char.isDigit
  if digits.length > 9 then
    .error (.inside .versionTooLong (Cursor.skipMany 9 cursor).position .versionDirective start)
  else if digits.isEmpty then
    .error (.inside .versionMissing next.position .versionDirective start)
  else .ok (digits.foldl (fun value c => 10 * value + (c.toNat - 48)) 0, next)

/-- Read the value of a version directive. -/
def scanVersion (start : Position) (cursor : Cursor) :
    Except SyntaxError (TokenKind × Cursor) := do
  let (major, cursor) ← scanVersionNumber start cursor.skipBlanks
  if !cursor.sees 0 '.' then
    throw (.inside .versionSeparator cursor.position .versionDirective start)
  let (minor, cursor) ← scanVersionNumber start cursor.skip
  return (.versionDirective major minor, cursor)

/-- Read the value of a directive that gives a handle its meaning. -/
def scanTagMeaning (start : Position) (cursor : Cursor) :
    Except SyntaxError (TokenKind × Cursor) := do
  let (handle, cursor) ← scanHandle true start cursor.skipBlanks
  if !cursor.seesAny 0 isBlank then
    throw (.inside .blankMissing cursor.position .tagDirectiveScan start)
  let (address, cursor) ← scanAddress true true "" start cursor.skipBlanks
  if !cursor.blankOrEnd 0 then
    throw (.inside .blankOrBreakMissing cursor.position .tagDirectiveScan start)
  return (.tagDirective handle address, cursor)

/-- Read a directive and the rest of its line. -/
def scanDirective (cursor : Cursor) : Except SyntaxError (Token × Cursor) := do
  let start := cursor.position
  let (name, cursor) := cursor.skip.takeWhile isNameChar
  if name.isEmpty then
    throw (.inside .directiveNameMissing cursor.position .directive start)
  if !cursor.blankOrEnd 0 then
    throw (.inside .directiveNameMalformed cursor.position .directive start)
  let (kind, cursor) ←
    if name == "YAML".toList then scanVersion start cursor
    else if name == "TAG".toList then scanTagMeaning start cursor
    else throw (.inside .directiveUnknown cursor.position .directive start)
  let stop := cursor.position
  let cursor := cursor.skipBlanks.skipComment
  if !cursor.breakOrEnd 0 then
    throw (.inside .directiveTrailing cursor.position .directive start)
  return (⟨kind, start, stop⟩, cursor.skipLine)

end StreamPlot.Markup
