import StreamPlot.Markup.Token.Lexer
import StreamPlot.Markup.Event

/-!
# From tokens to events

The grammar is a stack of expectations. The topmost one decides what the next token
may be; it is answered by exactly one event and replaced by what may follow.
-/

namespace StreamPlot.Markup

/-- What may come next. -/
inductive Expectation where
  | streamStart
  /-- The first document, whose start needs no mark. -/
  | firstDocument
  | nextDocument
  | documentContent
  | documentEnd
  | blockNode
  | blockSequenceFirst
  | blockSequenceEntry
  /-- An entry of a sequence that is indented no more than the key before it. -/
  | indentlessEntry
  | blockMappingFirst
  | blockMappingKey
  | blockMappingValue
  | flowSequenceFirst
  | flowSequenceEntry
  /-- The key, value and end of a single pair between the brackets of a sequence. -/
  | flowPairKey
  | flowPairValue
  | flowPairEnd
  | flowMappingFirst
  | flowMappingKey
  | flowMappingValue
  /-- The value of a key without a colon. -/
  | flowMappingNoValue
  | nothing
  deriving DecidableEq, Repr, Inhabited

/-- A text that is read event by event. -/
structure Grammar where
  lexer : Lexer
  expecting : Expectation := .streamStart
  /-- What is expected after the current node, innermost first. -/
  pending : List Expectation := []
  /-- Where the open collections begin, innermost first. -/
  openings : List Position := []
  /-- What the handles of tags stand for. -/
  handles : List (String × Tag) := []
  deriving Inhabited

/-- An event and the rest of the text. -/
abbrev Produced := LocatedEvent × Grammar

namespace Grammar

/-- A grammar at the start of a text. -/
def ofText (text : List Char) : Grammar where
  lexer := .ofText text

/-- The next token, which stays where it is. -/
def peek (grammar : Grammar) : Except SyntaxError (Token × Grammar) := do
  let lexer ← grammar.lexer.ready
  match lexer.queue with
  | token :: _ => return (token, { grammar with lexer })
  | [] => return (⟨.streamEnd, lexer.position, lexer.position⟩, { grammar with lexer })

/-- Pass the next token. -/
def pass (grammar : Grammar) : Grammar :=
  { grammar with lexer := grammar.lexer.take }

/-- Expect something else next. -/
def expect (grammar : Grammar) (expecting : Expectation) : Grammar :=
  { grammar with expecting }

/-- Expect something after the current node. -/
def after (grammar : Grammar) (expectation : Expectation) : Grammar :=
  { grammar with pending := expectation :: grammar.pending }

/-- Go on with what is expected after the current node. -/
def resume (grammar : Grammar) : Grammar :=
  { grammar with
    expecting := grammar.pending.headD .nothing
    pending := grammar.pending.drop 1 }

/-- Remember where a collection begins. -/
def opened (grammar : Grammar) (place : Position) : Grammar :=
  { grammar with openings := place :: grammar.openings }

/-- Forget where the innermost collection begins. -/
def closed (grammar : Grammar) : Grammar :=
  { grammar with openings := grammar.openings.drop 1 }

/-- A mistake inside the innermost collection. -/
def refuse (grammar : Grammar) (problem : Problem) (context : Context) (token : Token) :
    Except SyntaxError Produced :=
  .error (.inside problem token.start context (grammar.openings.headD {}))

/-- Answer with an event. -/
def produce (grammar : Grammar) (event : Event) (start : Position) :
    Except SyntaxError Produced :=
  .ok (⟨event, start⟩, grammar)

/-- Answer with the node of no text. -/
def produceEmpty (grammar : Grammar) (place : Position) : Except SyntaxError Produced :=
  grammar.produce (.scalar {} "" .plain) place

/-- Answer with the end of the innermost collection, whose last token is next. -/
def produceEnd (grammar : Grammar) (event : Event) (token : Token) :
    Except SyntaxError Produced :=
  grammar.resume.closed.pass.produce event token.start

/-! ### Nodes -/

/-- The properties at the head of a node, where the node begins and where a tag stands. -/
structure Head where
  anchor : Option String := none
  /-- The handle and the rest of the tag, and its place. -/
  tag : Option (String × Tag × Position) := none
  start : Position

/-- Read the properties of a node: an anchor, a tag, or both in either order. -/
def readHead (token : Token) (grammar : Grammar) :
    Except SyntaxError (Head × Token × Grammar) := do
  match token.kind with
  | .anchor name =>
      let (next, grammar) ← grammar.pass.peek
      match next.kind with
      | .tag handle rest =>
          let (content, grammar) ← grammar.pass.peek
          return (⟨some name, some (handle, rest, next.start), token.start⟩, content, grammar)
      | _ => return (⟨some name, none, token.start⟩, next, grammar)
  | .tag handle rest =>
      let (next, grammar) ← grammar.pass.peek
      match next.kind with
      | .anchor name =>
          let (content, grammar) ← grammar.pass.peek
          return (⟨some name, some (handle, rest, token.start), token.start⟩, content, grammar)
      | _ => return (⟨none, some (handle, rest, token.start), token.start⟩, next, grammar)
  | _ => return (⟨none, none, token.start⟩, token, grammar)

/-- The full tag of a node. -/
def resolveTag (grammar : Grammar) (head : Head) : Except SyntaxError (Option Tag) :=
  match head.tag with
  | none => .ok none
  | some (handle, rest, place) =>
      if handle.isEmpty then .ok (some rest)
      else
        match grammar.handles.lookup handle with
        | some address => .ok (some (address.append rest))
        | none => .error (.inside .undefinedHandle place .node head.start)

/-- Answer with the node that begins with a token. -/
def produceNode (block indentless : Bool) (token : Token) (grammar : Grammar) :
    Except SyntaxError Produced := do
  match token.kind with
  | .alias name => grammar.resume.pass.produce (.alias name) token.start
  | _ =>
      let (head, token, grammar) ← grammar.readHead token
      let tag ← grammar.resolveTag head
      let properties : NodeProperties := ⟨head.anchor, tag⟩
      let isBlock := block
      match token.kind with
      | .scalar text style =>
          grammar.resume.pass.produce (.scalar properties text style) head.start
      | .flowSequenceStart =>
          (grammar.expect .flowSequenceFirst).produce (.sequenceStart properties) head.start
      | .flowMappingStart =>
          (grammar.expect .flowMappingFirst).produce (.mappingStart properties) head.start
      | kind =>
          if indentless && kind == .blockEntry then
            (grammar.expect .indentlessEntry).produce (.sequenceStart properties) head.start
          else if isBlock && kind == .blockSequenceStart then
            (grammar.expect .blockSequenceFirst).produce (.sequenceStart properties) head.start
          else if isBlock && kind == .blockMappingStart then
            (grammar.expect .blockMappingFirst).produce (.mappingStart properties) head.start
          else if head.anchor.isSome || head.tag.isSome then
            grammar.resume.produce (.scalar properties "" .plain) head.start
          else
            throw (.inside .nodeMissing token.start
              (if block then .blockNode else .flowNode) head.start)

/-! ### Documents -/

/-- Read the directives before a document, in at most `room` steps. -/
def readDirectives : (room : Nat) → (versioned : Bool) → Grammar →
    Except SyntaxError Grammar
  | 0, _, grammar => .ok grammar
  | room + 1, versioned, grammar => do
      let (token, grammar) ← grammar.peek
      match token.kind with
      | .versionDirective major minor =>
          if versioned then throw (.bare .duplicateVersion token.start)
          if major != 1 || (minor != 1 && minor != 2) then
            throw (.bare .incompatibleVersion token.start)
          readDirectives room true grammar.pass
      | .tagDirective handle address =>
          if (grammar.handles.lookup handle).isSome then
            throw (.bare .duplicateTagDirective token.start)
          readDirectives room versioned
            { grammar.pass with handles := grammar.handles ++ [(handle, address)] }
      | _ => return grammar

/-- The handles that always have a meaning. -/
def standardHandles : List (String × Tag) :=
  [("!", .plainMark), ("!!", .standard)]

/-- The handles of a document: those that its directives tell, and where they say
nothing the standard ones. -/
def withStandardHandles (grammar : Grammar) : Grammar :=
  { grammar with
    handles := grammar.handles ++ standardHandles.filter fun handle =>
      (grammar.handles.lookup handle.1).isNone }

/-- Pass the marks of ends of documents, at most `room` of them. -/
def passDocumentEnds : (room : Nat) → Grammar → Except SyntaxError Grammar
  | 0, grammar => .ok grammar
  | room + 1, grammar => do
      let (token, grammar) ← grammar.peek
      match token.kind with
      | .documentEnd => passDocumentEnds room grammar.pass
      | _ => return grammar

/-- A bound for the number of tokens that are left. -/
def bound (grammar : Grammar) : Nat :=
  4 * grammar.lexer.cursor.rest.length + grammar.lexer.queue.length + 8

/-- Answer with the start of a document or the end of the text. -/
def produceDocument (first : Bool) (grammar : Grammar) : Except SyntaxError Produced := do
  let grammar ← if first then pure grammar else passDocumentEnds grammar.bound grammar
  let (token, grammar) ← grammar.peek
  match token.kind with
  | .streamEnd => (grammar.expect .nothing).pass.produce .streamEnd token.start
  | kind =>
      let marked := match kind with
        | .versionDirective _ _ => true
        | .tagDirective _ _ => true
        | .documentStart => true
        | _ => false
      if first && !marked then
        let grammar := grammar.withStandardHandles
        ((grammar.after .documentEnd).expect .blockNode).produce .documentStart token.start
      else
        let grammar ← readDirectives grammar.bound false grammar
        let grammar := grammar.withStandardHandles
        let (mark, grammar) ← grammar.peek
        if mark.kind != .documentStart then throw (.bare .documentStart mark.start)
        ((grammar.after .documentEnd).expect .documentContent).pass.produce .documentStart
          token.start

/-- Answer with the content of a document whose start is marked. -/
def produceContent (grammar : Grammar) : Except SyntaxError Produced := do
  let (token, grammar) ← grammar.peek
  let missing := match token.kind with
    | .versionDirective _ _ => true
    | .tagDirective _ _ => true
    | .documentStart => true
    | .documentEnd => true
    | .streamEnd => true
    | _ => false
  if missing then grammar.resume.produceEmpty token.start
  else produceNode true false token grammar

/-- Answer with the end of a document, whether it is marked or not. -/
def produceDocumentEnd (grammar : Grammar) : Except SyntaxError Produced := do
  let (token, grammar) ← grammar.peek
  let grammar := if token.kind == .documentEnd then grammar.pass else grammar
  ({ grammar with handles := [] }.expect .nextDocument).produce .documentEnd token.start

/-! ### Block collections -/

/-- Answer with the node after a sign, or with the node of no text if one of the
given kinds of tokens comes next. -/
def produceAfter (block indentless : Bool) (stops : TokenKind → Bool) (follow : Expectation)
    (empty : Token → Position) (grammar : Grammar) : Except SyntaxError Produced := do
  let (token, grammar) ← grammar.peek
  if stops token.kind then (grammar.expect follow).produceEmpty (empty token)
  else produceNode block indentless token (grammar.after follow)

/-- Remember where a collection begins and pass the token that begins it. -/
def enter (grammar : Grammar) : Except SyntaxError Grammar := do
  let (token, grammar) ← grammar.peek
  return (grammar.opened token.start).pass

/-- Answer with an entry of a block sequence, or with its end. -/
def produceBlockEntry (grammar : Grammar) : Except SyntaxError Produced := do
  let (token, grammar) ← grammar.peek
  match token.kind with
  | .blockEntry =>
      grammar.pass.produceAfter true false
        (fun kind => kind == .blockEntry || kind == .blockEnd)
        .blockSequenceEntry (fun _ => token.stop)
  | .blockEnd => grammar.produceEnd .sequenceEnd token
  | _ => grammar.refuse .dashMissing .blockCollection token

/-- Answer with an entry of a sequence without indentation of its own, or with its end. -/
def produceIndentlessEntry (grammar : Grammar) : Except SyntaxError Produced := do
  let (token, grammar) ← grammar.peek
  match token.kind with
  | .blockEntry =>
      grammar.pass.produceAfter true false
        (fun kind => kind == .blockEntry || kind == .key || kind == .value || kind == .blockEnd)
        .indentlessEntry (fun _ => token.stop)
  | _ => grammar.resume.produce .sequenceEnd token.start

/-- Whether a token stands where the content of a key or value would. -/
def stopsBlockPart (kind : TokenKind) : Bool :=
  kind == .key || kind == .value || kind == .blockEnd

/-- Answer with a key of a block mapping, or with its end. -/
def produceBlockKey (grammar : Grammar) : Except SyntaxError Produced := do
  let (token, grammar) ← grammar.peek
  match token.kind with
  | .key =>
      grammar.pass.produceAfter true true stopsBlockPart .blockMappingValue (fun _ => token.stop)
  | .blockEnd => grammar.produceEnd .mappingEnd token
  | _ => grammar.refuse .keyMissing .blockMapping token

/-- Answer with a value of a block mapping. -/
def produceBlockValue (grammar : Grammar) : Except SyntaxError Produced := do
  let (token, grammar) ← grammar.peek
  match token.kind with
  | .value =>
      grammar.pass.produceAfter true true stopsBlockPart .blockMappingKey (fun _ => token.stop)
  | _ => (grammar.expect .blockMappingKey).produceEmpty token.start

/-! ### Flow collections -/

/-- Pass the comma before an entry that is not the first. -/
def passComma (first : Bool) (problem : Problem) (context : Context) (grammar : Grammar)
    (token : Token) : Except SyntaxError (Token × Grammar) :=
  if first then .ok (token, grammar)
  else if token.kind == .flowEntry then grammar.pass.peek
  else .error (.inside problem token.start context (grammar.openings.headD {}))

/-- Answer with an entry of a flow sequence, or with its end. -/
def produceFlowEntry (first : Bool) (grammar : Grammar) : Except SyntaxError Produced := do
  let (token, grammar) ← grammar.peek
  if token.kind == .flowSequenceEnd then grammar.produceEnd .sequenceEnd token
  else
    let (token, grammar) ← passComma first .sequenceComma .flowSequence grammar token
    match token.kind with
    | .key => (grammar.expect .flowPairKey).pass.produce (.mappingStart {}) token.start
    | .flowSequenceEnd => grammar.produceEnd .sequenceEnd token
    | _ => produceNode false false token (grammar.after .flowSequenceEntry)

/-- Answer with the key of a pair in a flow sequence. A token that cannot begin a key
is passed. -/
def producePairKey (grammar : Grammar) : Except SyntaxError Produced := do
  let (token, grammar) ← grammar.peek
  if token.kind == .value || token.kind == .flowEntry || token.kind == .flowSequenceEnd then
    (grammar.expect .flowPairValue).pass.produceEmpty token.stop
  else produceNode false false token (grammar.after .flowPairValue)

/-- Answer with the value of a pair in a flow sequence. -/
def producePairValue (grammar : Grammar) : Except SyntaxError Produced := do
  let (token, grammar) ← grammar.peek
  match token.kind with
  | .value =>
      grammar.pass.produceAfter false false
        (fun kind => kind == .flowEntry || kind == .flowSequenceEnd)
        .flowPairEnd Token.start
  | _ => (grammar.expect .flowPairEnd).produceEmpty token.start

/-- Answer with the end of a pair in a flow sequence. -/
def producePairEnd (grammar : Grammar) : Except SyntaxError Produced := do
  let (token, grammar) ← grammar.peek
  (grammar.expect .flowSequenceEntry).produce .mappingEnd token.start

/-- Answer with a key of a flow mapping, or with its end. -/
def produceFlowKey (first : Bool) (grammar : Grammar) : Except SyntaxError Produced := do
  let (token, grammar) ← grammar.peek
  if token.kind == .flowMappingEnd then grammar.produceEnd .mappingEnd token
  else
    let (token, grammar) ← passComma first .mappingComma .flowMapping grammar token
    match token.kind with
    | .key =>
        grammar.pass.produceAfter false false
          (fun kind => kind == .value || kind == .flowEntry || kind == .flowMappingEnd)
          .flowMappingValue Token.start
    | .flowMappingEnd => grammar.produceEnd .mappingEnd token
    | _ => produceNode false false token (grammar.after .flowMappingNoValue)

/-- Answer with a value of a flow mapping. -/
def produceFlowValue (grammar : Grammar) : Except SyntaxError Produced := do
  let (token, grammar) ← grammar.peek
  match token.kind with
  | .value =>
      grammar.pass.produceAfter false false
        (fun kind => kind == .flowEntry || kind == .flowMappingEnd)
        .flowMappingKey Token.start
  | _ => (grammar.expect .flowMappingKey).produceEmpty token.start

/-- Answer with the value of a key that has none. -/
def produceNoValue (grammar : Grammar) : Except SyntaxError Produced := do
  let (token, grammar) ← grammar.peek
  (grammar.expect .flowMappingKey).produceEmpty token.start

/-- The next event. -/
def next (grammar : Grammar) : Except SyntaxError Produced := do
  match grammar.expecting with
  | .streamStart =>
      let (token, grammar) ← grammar.peek
      (grammar.expect .firstDocument).pass.produce .streamStart token.start
  | .firstDocument => grammar.produceDocument true
  | .nextDocument => grammar.produceDocument false
  | .documentContent => grammar.produceContent
  | .documentEnd => grammar.produceDocumentEnd
  | .blockNode =>
      let (token, grammar) ← grammar.peek
      produceNode true false token grammar
  | .blockSequenceFirst => (← grammar.enter).produceBlockEntry
  | .blockSequenceEntry => grammar.produceBlockEntry
  | .indentlessEntry => grammar.produceIndentlessEntry
  | .blockMappingFirst => (← grammar.enter).produceBlockKey
  | .blockMappingKey => grammar.produceBlockKey
  | .blockMappingValue => grammar.produceBlockValue
  | .flowSequenceFirst => (← grammar.enter).produceFlowEntry true
  | .flowSequenceEntry => grammar.produceFlowEntry false
  | .flowPairKey => grammar.producePairKey
  | .flowPairValue => grammar.producePairValue
  | .flowPairEnd => grammar.producePairEnd
  | .flowMappingFirst => (← grammar.enter).produceFlowKey true
  | .flowMappingKey => grammar.produceFlowKey false
  | .flowMappingValue => grammar.produceFlowValue
  | .flowMappingNoValue => grammar.produceNoValue
  | .nothing => grammar.produce .streamEnd grammar.lexer.position

end Grammar

end StreamPlot.Markup
