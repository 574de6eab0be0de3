import StreamPlot.Markup.Position

/-!
# Mistakes in the form of a text

A mistake has a problem, the place where it shows, and often the construction in
which it stands. `SyntaxError.message` puts them into words.
-/

namespace StreamPlot.Markup

/-- What is wrong. -/
inductive Problem where
  | expectedKeyColon
  | valueNotAllowed
  | keyNotAllowed
  | entryNotAllowed
  | noToken
  | directiveNameMissing
  | directiveNameMalformed
  | directiveUnknown
  | directiveTrailing
  | versionSeparator
  | versionTooLong
  | versionMissing
  | blankMissing
  | blankOrBreakMissing
  | nameMalformed
  | tagOpen
  | tagClose
  | tagAddress
  | escapedOctet
  | leadingOctet
  | trailingOctet
  | zeroIndent
  | commentOrBreak
  | tabForIndent
  | documentMarker
  | unexpectedEnd
  | unknownEscape
  | escapeDigits
  | escapeRange
  | colonInFlow
  | tabInIndent
  | documentStart
  | duplicateVersion
  | incompatibleVersion
  | duplicateTagDirective
  | undefinedHandle
  | nodeMissing
  | dashMissing
  | keyMissing
  | sequenceComma
  | mappingComma
  deriving DecidableEq, Repr, Inhabited

namespace Problem

def text : Problem → String
  | expectedKeyColon => "could not find expected ':'"
  | valueNotAllowed => "mapping values are not allowed in this context"
  | keyNotAllowed => "mapping keys are not allowed in this context"
  | entryNotAllowed => "block sequence entries are not allowed in this context"
  | noToken => "found character that cannot start any token"
  | directiveNameMissing => "could not find expected directive name"
  | directiveNameMalformed => "found unexpected non-alphabetical character"
  | directiveUnknown => "found unknown directive name"
  | directiveTrailing => "did not find expected comment or line break"
  | versionSeparator => "did not find expected digit or '.' character"
  | versionTooLong => "found extremely long version number"
  | versionMissing => "did not find expected version number"
  | blankMissing => "did not find expected whitespace"
  | blankOrBreakMissing => "did not find expected whitespace or line break"
  | nameMalformed => "did not find expected alphabetic or numeric character"
  | tagOpen => "did not find expected '!'"
  | tagClose => "did not find the expected '>'"
  | tagAddress => "did not find expected tag URI"
  | escapedOctet => "did not find URI escaped octet"
  | leadingOctet => "found an incorrect leading UTF-8 octet"
  | trailingOctet => "found an incorrect trailing UTF-8 octet"
  | zeroIndent => "found an indentation indicator equal to 0"
  | commentOrBreak => "did not find expected comment or line break"
  | tabForIndent => "found a tab character where an indentation space is expected"
  | documentMarker => "found unexpected document indicator"
  | unexpectedEnd => "found unexpected end of stream"
  | unknownEscape => "found unknown escape character"
  | escapeDigits => "did not find expected hexadecimal number"
  | escapeRange => "found invalid Unicode character escape code"
  | colonInFlow => "found unexpected ':'"
  | tabInIndent => "found a tab character that violates indentation"
  | documentStart => "did not find expected <document start>"
  | duplicateVersion => "found duplicate %YAML directive"
  | incompatibleVersion => "found incompatible YAML document"
  | duplicateTagDirective => "found duplicate %TAG directive"
  | undefinedHandle => "found undefined tag handle"
  | nodeMissing => "did not find expected node content"
  | dashMissing => "did not find expected '-' indicator"
  | keyMissing => "did not find expected key"
  | sequenceComma => "did not find expected ',' or ']'"
  | mappingComma => "did not find expected ',' or '\x7d'"

end Problem

/-- The construction in which a mistake stands. -/
inductive Context where
  | simpleKey
  | nextToken
  | directive
  | versionDirective
  | tagDirectiveScan
  | tagDirectiveHandle
  | tagDirectiveAddress
  | tagDirectiveValue
  | anchor
  | alias
  | tagScan
  | tagAddress
  | blockScalar
  | quotedScan
  | quotedEscape
  | plainScalar
  | node
  | blockNode
  | flowNode
  | blockCollection
  | blockMapping
  | flowSequence
  | flowMapping
  deriving DecidableEq, Repr, Inhabited

namespace Context

def text : Context → String
  | simpleKey => "while scanning a simple key"
  | nextToken => "while scanning for the next token"
  | directive => "while scanning a directive"
  | versionDirective => "while scanning a %YAML directive"
  | tagDirectiveScan => "while scanning a %TAG directive"
  | tagDirectiveHandle => "while scanning a tag directive"
  | tagDirectiveAddress => "while parsing a %TAG directive"
  | tagDirectiveValue => "while parsing a tag directive"
  | anchor => "while scanning an anchor"
  | .alias => "while scanning an alias"
  | tagScan => "while scanning a tag"
  | tagAddress => "while parsing a tag"
  | blockScalar => "while scanning a block scalar"
  | quotedScan => "while scanning a quoted scalar"
  | quotedEscape => "while parsing a quoted scalar"
  | plainScalar => "while scanning a plain scalar"
  | node => "while parsing a node"
  | blockNode => "while parsing a block node"
  | flowNode => "while parsing a flow node"
  | blockCollection => "while parsing a block collection"
  | blockMapping => "while parsing a block mapping"
  | flowSequence => "while parsing a flow sequence"
  | flowMapping => "while parsing a flow mapping"

end Context

/-- A mistake in the form of a text. -/
inductive SyntaxError where
  /-- A problem at a place, perhaps in a construction that began at another. -/
  | problem (problem : Problem) (place : Position) (context : Option (Context × Position))
  /-- A character that may not stand in a text, after so many bytes. -/
  | forbidden (offset : Nat)
  /-- An alias of a name that nothing bears. -/
  | unknownAnchor (place : Position)
  deriving DecidableEq, Repr, Inhabited

namespace SyntaxError

def bare (what : Problem) (place : Position) : SyntaxError := problem what place none

def inside (what : Problem) (place : Position) (context : Context) (start : Position) :
    SyntaxError :=
  problem what place (some (context, start))

/-- The line of a mistake, counted from 1. -/
def line : SyntaxError → Nat
  | problem _ place _ => place.line + 1
  | forbidden _ => 1
  | unknownAnchor place => place.line + 1

/-- A mistake in words. The start of a construction is not worth mentioning if it
is the place of the problem or the first place of the text. -/
def message : SyntaxError → String
  | problem what place none => what.text ++ place.suffix
  | problem what place (some (context, start)) =>
      what.text ++ place.suffix ++ ", " ++ context.text
        ++ if start.sameSpot place then "" else start.suffix
  | forbidden offset =>
      "control characters are not allowed"
        ++ if offset = 0 then "" else " at position " ++ offset.repr
  | unknownAnchor place => "unknown anchor" ++ place.suffix

end SyntaxError

end StreamPlot.Markup
