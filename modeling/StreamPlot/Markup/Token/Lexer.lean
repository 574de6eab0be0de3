import StreamPlot.Markup.Token.Scalar
import StreamPlot.Markup.Token.Property

/-!
# From text to tokens

A lexer reads tokens on demand. The mark that a mapping or a key begins can stand
before tokens that have been read already, since only the colon behind a key tells
that it is one. Each level of brackets therefore remembers where a key might have
begun, and tokens are held in a queue as long as the first of them might be one.
-/

namespace StreamPlot.Markup

/-- A place where a key might have begun. -/
structure KeyCandidate where
  /-- The number of the token that would be the key, counted from the start of the text. -/
  token : Nat
  place : Position
  /-- Whether anything but a key there would be a mistake. -/
  required : Bool
  deriving DecidableEq, Repr, Inhabited

/-- A text that is read token by token. -/
structure Lexer where
  cursor : Cursor
  /-- The tokens that have been read and not yet been taken, oldest first. -/
  queue : List Token := []
  /-- How many tokens have been taken. -/
  taken : Nat := 0
  /-- The column of the innermost block, or -1 outside all blocks. -/
  indent : Int := -1
  /-- The columns of the blocks around it. -/
  outer : List Int := []
  /-- For each open bracket, innermost first, and last for the blocks around all of
  them, where a key might have begun. -/
  candidates : List (Option KeyCandidate) := [none]
  /-- Whether a key may begin here. -/
  keyAllowed : Bool := true
  started : Bool := false
  deriving Repr, Inhabited

namespace Lexer

/-- A lexer at the start of a text. -/
def ofText (text : List Char) : Lexer where
  cursor := { rest := text }

def position (lexer : Lexer) : Position := lexer.cursor.position

/-- Whether the text is inside brackets. -/
def inFlow (lexer : Lexer) : Bool := lexer.candidates.length > 1

/-- Add a token at the end of the queue. -/
def emit (lexer : Lexer) (kind : TokenKind) (start stop : Position) : Lexer :=
  { lexer with queue := lexer.queue ++ [⟨kind, start, stop⟩] }

/-- Put a token before the one of a given number. -/
def insert (lexer : Lexer) (number : Nat) (token : Token) : Lexer :=
  let (before, behind) := lexer.queue.splitAt (number - lexer.taken)
  { lexer with queue := before ++ token :: behind }

/-! ### Keys -/

/-- Give up the candidates that cannot be keys any more: a key stands in one line
and has no more than 1024 characters. -/
def dropStale (lexer : Lexer) : Except SyntaxError Lexer := do
  let place := lexer.position
  let stale (candidate : KeyCandidate) : Bool :=
    candidate.place.line < place.line || candidate.place.offset + 1024 < place.offset
  match lexer.candidates.reverse.findSome? fun candidate =>
      candidate.filter fun candidate => candidate.required && stale candidate with
  | some candidate => throw (.inside .expectedKeyColon place .simpleKey candidate.place)
  | none =>
      return { lexer with
        candidates := lexer.candidates.map fun candidate => candidate.filter (!stale ·) }

/-- Give up the candidate of the innermost level. -/
def dropCandidate (lexer : Lexer) : Except SyntaxError Lexer :=
  match lexer.candidates with
  | some candidate :: rest =>
      if candidate.required then
        .error (.inside .expectedKeyColon lexer.position .simpleKey candidate.place)
      else .ok { lexer with candidates := none :: rest }
  | _ => .ok lexer

/-- Remember that a key might begin with the next token. -/
def saveCandidate (lexer : Lexer) : Except SyntaxError Lexer := do
  if !lexer.keyAllowed then return lexer
  let candidate : KeyCandidate :=
    { token := lexer.taken + lexer.queue.length
      place := lexer.position
      required := !lexer.inFlow && lexer.indent == lexer.position.column }
  let lexer ← lexer.dropCandidate
  return { lexer with candidates := some candidate :: lexer.candidates.drop 1 }

/-! ### Blocks -/

/-- Begin a block if the text is further in than the innermost one. Its first token
stands before the token of the given number, or behind all if there is none. -/
def openBlock (lexer : Lexer) (column : Nat) (number : Option Nat) (kind : TokenKind)
    (place : Position) : Lexer :=
  if lexer.inFlow || lexer.indent ≥ column then lexer
  else
    let opened := { lexer with indent := column, outer := lexer.indent :: lexer.outer }
    match number with
    | some number => opened.insert number ⟨kind, place, place⟩
    | none => opened.emit kind place place

/-- Close blocks from the innermost outwards, as long as they are further in than a column. -/
def closeBlocksFrom (column : Int) : (outer : List Int) → Lexer → Lexer
  | [], lexer => lexer
  | indent :: outer, lexer =>
      if lexer.indent > column then
        closeBlocksFrom column outer
          { lexer.emit .blockEnd lexer.position lexer.position with indent, outer }
      else lexer

/-- Close the blocks that are further in than a column. -/
def closeBlocks (lexer : Lexer) (column : Int) : Lexer :=
  if lexer.inFlow then lexer else closeBlocksFrom column lexer.outer lexer

/-! ### The kinds of tokens -/

/-- Add the token that is made of the next `length` characters. -/
def emitSign (lexer : Lexer) (kind : TokenKind) (length : Nat) : Lexer :=
  let cursor := Cursor.skipMany length lexer.cursor
  { lexer with cursor }.emit kind lexer.position cursor.position

/-- Add the token of a scalar. -/
def emitScalar (lexer : Lexer) (scanned : ScannedScalar) (style : ScalarStyle) : Lexer :=
  { lexer with cursor := scanned.cursor }.emit
    (.scalar scanned.text style) lexer.position scanned.stop

/-- The end of the text, which counts as the start of a line. -/
def lexEnd (lexer : Lexer) : Except SyntaxError Lexer := do
  let place := lexer.position
  let place := if place.column == 0 then place else ⟨place.offset, place.line + 1, 0⟩
  let lexer := { lexer with cursor := { lexer.cursor with position := place } }
  let lexer ← (lexer.closeBlocks (-1)).dropCandidate
  return { lexer with keyAllowed := false }.emit .streamEnd place place

/-- A directive. -/
def lexDirective (lexer : Lexer) : Except SyntaxError Lexer := do
  let lexer ← (lexer.closeBlocks (-1)).dropCandidate
  let (token, cursor) ← scanDirective lexer.cursor
  return { lexer with keyAllowed := false, cursor, queue := lexer.queue ++ [token] }

/-- The mark of the start or the end of a document. -/
def lexDocumentMark (kind : TokenKind) (lexer : Lexer) : Except SyntaxError Lexer := do
  let lexer ← (lexer.closeBlocks (-1)).dropCandidate
  return { lexer with keyAllowed := false }.emitSign kind 3

/-- An opening bracket. -/
def lexOpening (kind : TokenKind) (lexer : Lexer) : Except SyntaxError Lexer := do
  let lexer ← lexer.saveCandidate
  return { lexer with candidates := none :: lexer.candidates, keyAllowed := true }.emitSign kind 1

/-- A closing bracket. -/
def lexClosing (kind : TokenKind) (lexer : Lexer) : Except SyntaxError Lexer := do
  let lexer ← lexer.dropCandidate
  let candidates := if lexer.inFlow then lexer.candidates.drop 1 else lexer.candidates
  return { lexer with candidates, keyAllowed := false }.emitSign kind 1

/-- A comma between brackets. -/
def lexComma (lexer : Lexer) : Except SyntaxError Lexer := do
  let lexer ← lexer.dropCandidate
  return { lexer with keyAllowed := true }.emitSign .flowEntry 1

/-- The dash of an entry of a block sequence. -/
def lexDash (lexer : Lexer) : Except SyntaxError Lexer := do
  let place := lexer.position
  if !lexer.inFlow && !lexer.keyAllowed then throw (.bare .entryNotAllowed place)
  let lexer ← (lexer.openBlock place.column none .blockSequenceStart place).dropCandidate
  return { lexer with keyAllowed := true }.emitSign .blockEntry 1

/-- The question mark of a key. -/
def lexKey (lexer : Lexer) : Except SyntaxError Lexer := do
  let place := lexer.position
  if !lexer.inFlow && !lexer.keyAllowed then throw (.bare .keyNotAllowed place)
  let lexer ← (lexer.openBlock place.column none .blockMappingStart place).dropCandidate
  return { lexer with keyAllowed := !lexer.inFlow }.emitSign .key 1

/-- The colon of a value. If a key might have begun before it, it did. -/
def lexValue (lexer : Lexer) : Except SyntaxError Lexer := do
  let place := lexer.position
  match lexer.candidates with
  | some candidate :: rest =>
      let lexer := lexer.insert candidate.token ⟨.key, candidate.place, candidate.place⟩
      let lexer := lexer.openBlock candidate.place.column (some candidate.token)
        .blockMappingStart candidate.place
      return { lexer with candidates := none :: rest, keyAllowed := false }.emitSign .value 1
  | _ =>
      if !lexer.inFlow && !lexer.keyAllowed then throw (.bare .valueNotAllowed place)
      let lexer := lexer.openBlock place.column none .blockMappingStart place
      return { lexer with keyAllowed := !lexer.inFlow }.emitSign .value 1

/-- An anchor or an alias. -/
def lexName (context : Context) (kind : String → TokenKind) (lexer : Lexer) :
    Except SyntaxError Lexer := do
  let lexer ← lexer.saveCandidate
  let (name, cursor) ← scanName context lexer.cursor
  return { lexer with keyAllowed := false, cursor }.emit (kind name) lexer.position cursor.position

/-- A tag. -/
def lexTag (lexer : Lexer) : Except SyntaxError Lexer := do
  let lexer ← lexer.saveCandidate
  let (kind, cursor) ← scanTag lexer.inFlow lexer.cursor
  return { lexer with keyAllowed := false, cursor }.emit kind lexer.position cursor.position

/-- A block scalar. -/
def lexBlockScalar (style : ScalarStyle) (lexer : Lexer) : Except SyntaxError Lexer := do
  let lexer ← lexer.dropCandidate
  let scanned ← scanBlock (style == .folded) lexer.indent lexer.cursor
  return { lexer with keyAllowed := true }.emitScalar scanned style

/-- A quoted scalar. -/
def lexQuoted (style : ScalarStyle) (lexer : Lexer) : Except SyntaxError Lexer := do
  let lexer ← lexer.saveCandidate
  let scanned ← scanQuoted (style == .singleQuoted) lexer.cursor
  return { lexer with keyAllowed := false }.emitScalar scanned style

/-- A plain scalar. If it ends above the cursor, a key may begin there. -/
def lexPlain (lexer : Lexer) : Except SyntaxError Lexer := do
  let lexer ← lexer.saveCandidate
  let scanned ← scanPlain lexer.inFlow (lexer.indent + 1).toNat lexer.cursor
  return { lexer with keyAllowed := scanned.broken }.emitScalar scanned .plain

/-! ### The next token -/

/-- Pass blanks, comments and line ends up to the next token, in at most `room` steps.
A tab may stand before a token only where no key may begin, and a byte order mark only
at the start of a line. -/
def skipToToken : (room : Nat) → Lexer → Lexer
  | 0, lexer => lexer
  | room + 1, lexer =>
      let tabs := lexer.inFlow || !lexer.keyAllowed
      let cursor := lexer.cursor
      let cursor := if cursor.position.column == 0 && cursor.seesAny 0 (·.toNat == 0xFEFF)
        then cursor.skip else cursor
      let cursor := cursor.skipWhile fun c => c == ' ' || (tabs && c == '\t')
      let cursor := cursor.skipComment
      if cursor.seesAny 0 isBreak then
        skipToToken room { lexer with
          cursor := cursor.skipLine
          keyAllowed := lexer.keyAllowed || !lexer.inFlow }
      else { lexer with cursor }

/-- A character that begins a token of its own kind and therefore no plain scalar. -/
def isIndicator (c : Char) : Bool :=
  "-?:,[]\x7b\x7d#&*!|>\x27\x22%@\x60".toList.contains c

/-- Whether a plain scalar may begin at the cursor: not with an indicator, but with a
dash before anything but a blank, and outside brackets with a question mark or colon
before anything but a blank. -/
def beginsPlain (lexer : Lexer) : Bool :=
  let cursor := lexer.cursor
  (!cursor.blankOrEnd 0 && !cursor.seesAny 0 isIndicator)
    || (cursor.sees 0 '-' && !cursor.seesAny 1 isBlank)
    || (!lexer.inFlow && (cursor.sees 0 '?' || cursor.sees 0 ':') && !cursor.blankOrEnd 1)

/-- Read the next token into the queue, with the marks of blocks that it implies. -/
def lexNext (lexer : Lexer) : Except SyntaxError Lexer := do
  if !lexer.started then
    return { lexer with started := true }.emit .streamStart lexer.position lexer.position
  let lexer ← (lexer.skipToToken (lexer.cursor.rest.length + 1)).dropStale
  let lexer := lexer.closeBlocks lexer.position.column
  let cursor := lexer.cursor
  let spaced := cursor.blankOrEnd 1
  match cursor.peek 0 with
  | none => lexer.lexEnd
  | some c =>
      if c == '%' && cursor.position.column == 0 then lexer.lexDirective
      else if cursor.marksDocument '-' then lexer.lexDocumentMark .documentStart
      else if cursor.marksDocument '.' then lexer.lexDocumentMark .documentEnd
      else if c == '[' then lexer.lexOpening .flowSequenceStart
      else if c == '\x7b' then lexer.lexOpening .flowMappingStart
      else if c == ']' then lexer.lexClosing .flowSequenceEnd
      else if c == '\x7d' then lexer.lexClosing .flowMappingEnd
      else if c == ',' then lexer.lexComma
      else if c == '-' && spaced then lexer.lexDash
      else if c == '?' && (lexer.inFlow || spaced) then lexer.lexKey
      else if c == ':' && (lexer.inFlow || spaced) then lexer.lexValue
      else if c == '*' then lexer.lexName .alias .alias
      else if c == '&' then lexer.lexName .anchor .anchor
      else if c == '!' then lexer.lexTag
      else if c == '|' && !lexer.inFlow then lexer.lexBlockScalar .literal
      else if c == '>' && !lexer.inFlow then lexer.lexBlockScalar .folded
      else if c == '\x27' then lexer.lexQuoted .singleQuoted
      else if c == '\x22' then lexer.lexQuoted .doubleQuoted
      else if lexer.beginsPlain then lexer.lexPlain
      else throw (.inside .noToken cursor.position .nextToken cursor.position)

/-- Whether more must be read before the first token of the queue can be taken: there
is none, or it might turn out to be a key. -/
def needsMore (lexer : Lexer) : Bool :=
  lexer.queue.isEmpty || lexer.candidates.any fun candidate =>
    candidate.any fun candidate => candidate.token == lexer.taken

/-- Read tokens until the first of the queue can be taken, at most `room` of them. Each
but the first and the last takes a character, so there are at most two more than characters. -/
def fill : (room : Nat) → Lexer → Except SyntaxError Lexer
  | 0, lexer => .ok lexer
  | room + 1, lexer => do
      let lexer ← if lexer.queue.isEmpty then .ok lexer else lexer.dropStale
      if lexer.needsMore then
        let lexer ← lexer.lexNext
        fill room lexer
      else return lexer

/-- Make sure of the first token of the queue. -/
def ready (lexer : Lexer) : Except SyntaxError Lexer :=
  lexer.fill (lexer.cursor.rest.length + 4)

/-- Take the first token of the queue. -/
def take (lexer : Lexer) : Lexer :=
  { lexer with queue := lexer.queue.drop 1, taken := lexer.taken + 1 }

end Lexer

end StreamPlot.Markup
