import StreamPlot.Markup.Token

/-!
# Scalars

A scalar is a text in one of five styles. Blanks and line ends inside it are held
back until it is known that more text follows; then one line end becomes a space
and several lose the first, while blanks around line ends are dropped.
-/

namespace StreamPlot.Markup

/-- Blanks and line ends that are held back until more text follows. -/
structure Gap where
  /-- The blanks before any line end. -/
  blanks : List Char := []
  /-- What the first line end counts as. It is empty if that end was escaped. -/
  firstBreak : List Char := []
  /-- What the other line ends count as. -/
  moreBreaks : List Char := []
  /-- Whether there was a line end. -/
  broken : Bool := false
  deriving DecidableEq, Repr, Inhabited

namespace Gap

/-- Nothing held back. -/
def none : Gap := {}

def isNone (gap : Gap) : Bool := gap.blanks.isEmpty && !gap.broken

/-- Hold back a blank. Blanks at the start of a line do not count. -/
def addBlank (gap : Gap) (c : Char) : Gap :=
  if gap.broken then gap else { gap with blanks := gap.blanks ++ [c] }

/-- Hold back a line end. Blanks before it do not count. -/
def addBreak (gap : Gap) (text : List Char) : Gap :=
  if gap.broken then { gap with moreBreaks := gap.moreBreaks ++ text }
  else { firstBreak := text, broken := true }

/-- What was held back, as it counts before more text. -/
def text (gap : Gap) : List Char :=
  if !gap.broken then gap.blanks
  else if gap.firstBreak.head? == some '\n' then
    if gap.moreBreaks.isEmpty then [' '] else gap.moreBreaks
  else gap.firstBreak ++ gap.moreBreaks

end Gap

/-- A scalar that has been read, and the cursor behind it. -/
structure ScannedScalar where
  text : String
  cursor : Cursor
  /-- Where the last character of the scalar ends. -/
  stop : Position
  /-- Whether the cursor stands in a line below the scalar. -/
  broken : Bool := false

/-! ### Plain scalars -/

/-- Whether a plain scalar ends before the next character: at a colon before a blank
and, inside brackets, at a comma or bracket. -/
def endsPlain (inFlow : Bool) (cursor : Cursor) : Bool :=
  (cursor.sees 0 ':' && cursor.blankOrEnd 1)
    || (inFlow && cursor.seesAny 0 fun c =>
      c == ',' || c == '[' || c == ']' || c == '\x7b' || c == '\x7d')

/-- Whether a colon stands before an indicator, which is refused inside brackets. -/
def ambiguousColon (inFlow : Bool) (cursor : Cursor) : Bool :=
  inFlow && cursor.sees 0 ':' && cursor.seesAny 1 fun c =>
    c == ',' || c == '?' || c == '[' || c == ']' || c == '\x7b' || c == '\x7d'

/-- What is known of a plain scalar on the way through it. The text is in reverse. -/
structure PlainScan where
  text : List Char := []
  gap : Gap := .none
  stop : Position

/-- Read on through a plain scalar that began at `start`. Outside brackets, a line
that is indented less than `indent` does not belong to it. -/
def scanPlainFrom (inFlow : Bool) (indent : Nat) (start : Position) (scan : PlainScan)
    (cursor : Cursor) : Except SyntaxError (PlainScan × Cursor) :=
  match _h : cursor.rest with
  | [] => .ok (scan, cursor)
  | c :: _ =>
      if isBlank c then
        if scan.gap.broken && cursor.position.column < indent && c == '\t' then
          .error (.inside .tabInIndent cursor.position .plainScalar start)
        else
          scanPlainFrom inFlow indent start { scan with gap := scan.gap.addBlank c } cursor.skip
      else if _hbreak : isBreak c = true then
        scanPlainFrom inFlow indent start
          { scan with gap := scan.gap.addBreak cursor.breakText } cursor.skipLine
      else if !scan.gap.isNone && !inFlow && cursor.position.column < indent then
        .ok (scan, cursor)
      else if cursor.atDocumentMark || (c == '#' && !scan.gap.isNone) then .ok (scan, cursor)
      else if ambiguousColon inFlow cursor then
        .error (.inside .colonInFlow cursor.position .plainScalar start)
      else if endsPlain inFlow cursor then .ok (scan, cursor)
      else
        scanPlainFrom inFlow indent start
          { text := c :: scan.gap.text.reverseAux scan.text
            gap := .none
            stop := cursor.skip.position } cursor.skip
termination_by cursor.rest.length
decreasing_by
  · exact Cursor.skip_length_lt _h
  · exact Cursor.skipLine_length_lt _h _hbreak
  · exact Cursor.skip_length_lt _h

/-- Read a plain scalar. -/
def scanPlain (inFlow : Bool) (indent : Nat) (cursor : Cursor) :
    Except SyntaxError ScannedScalar := do
  let start := cursor.position
  let (scan, cursor) ← scanPlainFrom inFlow indent start { stop := start } cursor
  return ⟨String.ofList scan.text.reverse, cursor, scan.stop, scan.gap.broken⟩

/-! ### Quoted scalars -/

/-- The value of digits to base 16. -/
def hexValue? (digits : List Char) : Option Nat :=
  digits.foldl (fun value c =>
    value.bind fun value =>
      if '0' ≤ c ∧ c ≤ '9' then some (16 * value + (c.toNat - 48))
      else if 'a' ≤ c ∧ c ≤ 'f' then some (16 * value + (c.toNat - 87))
      else if 'A' ≤ c ∧ c ≤ 'F' then some (16 * value + (c.toNat - 55))
      else none) (some 0)

/-- What the character after a backslash stands for by itself. -/
def namedEscape? (c : Char) : Option Char :=
  if c == '0' then some '\x00'
  else if c == 'a' then some '\x07'
  else if c == 'b' then some '\x08'
  else if c == 't' || c == '\t' then some '\t'
  else if c == 'n' then some '\n'
  else if c == 'v' then some '\x0b'
  else if c == 'f' then some '\x0c'
  else if c == 'r' then some '\r'
  else if c == 'e' then some '\x1b'
  else if c == ' ' || c == '\x22' || c == '/' || c == '\\' then some c
  else if c == 'N' then some (Char.ofNat 0x85)
  else if c == '_' then some (Char.ofNat 0xA0)
  else if c == 'L' then some (Char.ofNat 0x2028)
  else if c == 'P' then some (Char.ofNat 0x2029)
  else none

/-- How many digits to base 16 follow the character after a backslash. -/
def escapeLength? (c : Char) : Option Nat :=
  if c == 'x' then some 2 else if c == 'u' then some 4 else if c == 'U' then some 8 else none

/-- Read the escape at the cursor, which stands at its backslash. -/
def scanEscape (start : Position) (cursor : Cursor) : Except SyntaxError (Char × Cursor) :=
  let refuse (problem : Problem) (place : Position) : Except SyntaxError (Char × Cursor) :=
    .error (.inside problem place .quotedEscape start)
  match cursor.peek 1 with
  | none => refuse .unknownEscape cursor.position
  | some c =>
      match namedEscape? c, escapeLength? c with
      | some value, _ => .ok (value, cursor.skip.skip)
      | none, none => refuse .unknownEscape cursor.position
      | none, some length =>
          let digits := cursor.skip.skip
          let code := (digits.rest.take length)
          match if code.length < length then none else hexValue? code with
          | none => refuse .escapeDigits digits.position
          | some value =>
              if (0xD800 ≤ value && value ≤ 0xDFFF) || value > 0x10FFFF then
                refuse .escapeRange digits.position
              else .ok (Char.ofNat value, Cursor.skipMany length digits)

/-- Reading an escape leaves less of the text. -/
theorem scanEscape_length_lt {start : Position} {cursor next : Cursor} {c value : Char}
    {rest : List Char} (h : cursor.rest = c :: rest)
    (hscan : scanEscape start cursor = .ok (value, next)) :
    next.rest.length < cursor.rest.length := by
  have hskip : cursor.skip.skip.rest.length < cursor.rest.length :=
    Nat.lt_of_le_of_lt (Cursor.skip_length_le _) (Cursor.skip_length_lt h)
  unfold scanEscape at hscan
  dsimp only at hscan
  split at hscan
  next => cases hscan
  next =>
    split at hscan
    next => cases hscan; exact hskip
    next => cases hscan
    next =>
      split at hscan
      next => cases hscan
      next =>
        split at hscan
        next => cases hscan
        next =>
          cases hscan
          exact Nat.lt_of_le_of_lt (Cursor.skipMany_length_le _ _) hskip

/-- Read on through a quoted scalar that began at `start`. The text is in reverse. -/
def scanQuotedFrom (single : Bool) (start : Position) (text : List Char) (gap : Gap)
    (cursor : Cursor) : Except SyntaxError (List Char × Cursor) :=
  match _h : cursor.rest with
  | [] => .error (.inside .unexpectedEnd cursor.position .quotedScan start)
  | c :: _ =>
      if isBlank c then
        scanQuotedFrom single start text (gap.addBlank c) cursor.skip
      else if _hbreak : isBreak c = true then
        scanQuotedFrom single start text (gap.addBreak cursor.breakText) cursor.skipLine
      else if cursor.atDocumentMark then
        .error (.inside .documentMarker cursor.position .quotedScan start)
      else
        let text := gap.text.reverseAux text
        if single && c == '\x27' then
          if cursor.sees 1 '\x27' then
            scanQuotedFrom single start ('\x27' :: text) .none cursor.skip.skip
          else .ok (text, cursor.skip)
        else if !single && c == '\x22' then .ok (text, cursor.skip)
        else if !single && c == '\\' then
          if cursor.seesAny 1 isBreak then
            scanQuotedFrom single start text { broken := true } cursor.skip.skipLine
          else
            match _hescape : scanEscape start cursor with
            | .error mistake => .error mistake
            | .ok (value, next) => scanQuotedFrom single start (value :: text) .none next
        else scanQuotedFrom single start (c :: text) .none cursor.skip
termination_by cursor.rest.length
decreasing_by
  · exact Cursor.skip_length_lt _h
  · exact Cursor.skipLine_length_lt _h _hbreak
  · exact Nat.lt_of_le_of_lt (Cursor.skip_length_le _) (Cursor.skip_length_lt _h)
  · exact Nat.lt_of_le_of_lt (Cursor.skipLine_length_le _) (Cursor.skip_length_lt _h)
  · exact scanEscape_length_lt _h _hescape
  · exact Cursor.skip_length_lt _h

/-- Read a quoted scalar. -/
def scanQuoted (single : Bool) (cursor : Cursor) : Except SyntaxError ScannedScalar := do
  let start := cursor.position
  let (text, cursor) ← scanQuotedFrom single start [] .none cursor.skip
  return { text := String.ofList text.reverse, cursor, stop := cursor.position }

/-! ### Block scalars -/

/-- What becomes of the line ends at the end of a block scalar. -/
inductive Chomping where
  /-- All are dropped. -/
  | strip
  /-- One is kept. -/
  | clip
  /-- All are kept. -/
  | keep
  deriving DecidableEq, Repr, Inhabited

/-- The chomping that a character asks for. -/
def chomping? (cursor : Cursor) : Option Chomping :=
  if cursor.sees 0 '+' then some .keep else if cursor.sees 0 '-' then some .strip else none

/-- The digit at the cursor, which tells the indentation of a block scalar. -/
def scanIndentDigit (start : Position) (cursor : Cursor) :
    Except SyntaxError (Option Nat × Cursor) :=
  match cursor.peek 0 with
  | some c =>
      if c == '0' then .error (.inside .zeroIndent cursor.position .blockScalar start)
      else if c.isDigit then .ok (some (c.toNat - 48), cursor.skip)
      else .ok (none, cursor)
  | none => .ok (none, cursor)

/-- The header of a block scalar: a chomping and an indentation, in either order. -/
def scanBlockHeader (start : Position) (cursor : Cursor) :
    Except SyntaxError (Chomping × Option Nat × Cursor) := do
  match chomping? cursor with
  | some chomping =>
      let (increment, cursor) ← scanIndentDigit start cursor.skip
      return (chomping, increment, cursor)
  | none =>
      let (increment, cursor) ← scanIndentDigit start cursor
      match increment, chomping? cursor with
      | some _, some chomping => return (chomping, increment, cursor.skip)
      | _, _ => return (.clip, increment, cursor)

/-- The empty lines at the cursor. -/
structure BlockBreaks where
  /-- What their ends count as. -/
  text : List Char := []
  /-- The greatest indentation seen. -/
  widest : Nat := 0
  stop : Position

/-- Pass the empty lines at the cursor. As long as the indentation of the scalar is
not known, `indent` is none. -/
def scanBlockBreaks (start : Position) (indent : Option Nat) (breaks : BlockBreaks)
    (cursor : Cursor) : Except SyntaxError (BlockBreaks × Cursor) :=
  let column := cursor.position.column
  let shallow := match indent with
    | none => true
    | some indent => column < indent
  match _h : cursor.rest with
  | [] => .ok ({ breaks with widest := max breaks.widest column }, cursor)
  | c :: _ =>
      if shallow && c == ' ' then scanBlockBreaks start indent breaks cursor.skip
      else if shallow && c == '\t' then
        .error (.inside .tabForIndent cursor.position .blockScalar start)
      else
        let breaks := { breaks with widest := max breaks.widest column }
        if _hbreak : isBreak c = true then
          scanBlockBreaks start indent
            { breaks with
              text := breaks.text ++ cursor.breakText
              stop := cursor.skipLine.position } cursor.skipLine
        else .ok (breaks, cursor)
termination_by cursor.rest.length
decreasing_by
  · exact Cursor.skip_length_lt _h
  · exact Cursor.skipLine_length_lt _h _hbreak

/-- What is known of a block scalar on the way through it. -/
structure BlockScan where
  text : List Char := []
  /-- What the end of the last line counts as. -/
  lineBreak : List Char := []
  /-- What the ends of the empty lines after it count as. -/
  breaks : BlockBreaks
  /-- Whether the last line began with a blank, which keeps its line ends. -/
  indented : Bool := false

/-- The text of a block scalar before its next line. -/
def BlockScan.joined (folded indented : Bool) (scan : BlockScan) : List Char :=
  let joint :=
    if folded && scan.lineBreak.head? == some '\n' && !scan.indented && !indented then
      if scan.breaks.text.isEmpty then [' '] else []
    else scan.lineBreak
  scan.text ++ joint ++ scan.breaks.text

/-- Read the lines of a block scalar, at most `lines` of them. Each takes at least
one character, so there are no more lines than characters. -/
def scanBlockLines (folded : Bool) (indent : Nat) (start : Position) :
    (lines : Nat) → BlockScan → Cursor → Except SyntaxError (BlockScan × Cursor)
  | 0, scan, cursor => .ok (scan, cursor)
  | lines + 1, scan, cursor => do
      if cursor.position.column == indent && !cursor.atEnd then
        let indented := cursor.seesAny 0 isBlank
        let (line, cursor) := cursor.takeWhile fun c => !isBreak c
        let next := cursor.skipLine
        let (breaks, ending) ←
          scanBlockBreaks start (some indent) { stop := next.position } next
        scanBlockLines folded indent start lines
          { text := scan.joined folded indented ++ line
            lineBreak := cursor.breakText
            breaks
            indented } ending
      else return (scan, cursor)

/-- Read a block scalar that stands in a block indented by `parent`, or by less than
nothing at the top. -/
def scanBlock (folded : Bool) (parent : Int) (cursor : Cursor) :
    Except SyntaxError ScannedScalar := do
  let start := cursor.position
  let (chomping, increment, cursor) ← scanBlockHeader start cursor.skip
  let cursor := cursor.skipBlanks.skipComment
  if !cursor.breakOrEnd 0 then
    throw (.inside .commentOrBreak cursor.position .blockScalar start)
  let cursor := cursor.skipLine
  let known := increment.map fun increment => (max parent 0).toNat + increment
  let (breaks, cursor) ← scanBlockBreaks start known { stop := cursor.position } cursor
  let indent := match known with
    | some indent => indent
    | none => max (max breaks.widest (parent + 1).toNat) 1
  let (scan, cursor) ←
    scanBlockLines folded indent start (cursor.rest.length + 1) { breaks } cursor
  let ending := match chomping with
    | .strip => []
    | .clip => scan.lineBreak
    | .keep => scan.lineBreak ++ scan.breaks.text
  return { text := String.ofList (scan.text ++ ending), cursor, stop := scan.breaks.stop }

end StreamPlot.Markup
