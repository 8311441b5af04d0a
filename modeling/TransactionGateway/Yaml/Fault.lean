/-! # Faults of a text

Why a text is no YAML document, and where that shows.

* **Positions.** Lines and columns are counted from zero and told from one (`Position.label`). The
  beginning of a text is not told at all.
* **Problems.** A problem is what was found, or what was missing. Most of them come up in an
  activity, which began at a position of its own; it is told after the problem, with its position
  where that is another one.
* **Controls.** A character that no text may hold is told by the octets before it. -/

namespace TransactionGateway.Yaml

/-- A line and a column. -/
structure Position where
  line : Nat := 0
  column : Nat := 0
deriving DecidableEq, Repr

/-- What a position adds to a message. -/
def Position.label (p : Position) : String :=
  if p = {} then ""
  else " at line " ++ toString (p.line + 1) ++ " column " ++ toString (p.column + 1)

/-- What is found where it may not stand, or missing where it has to. -/
inductive Problem where
  | strayCharacter
  | noColon
  | strayEntry
  | strayKey
  | strayValue
  | unknownDirective
  | unnamedDirective
  | strayDirectiveCharacter
  | noLineEnd
  | noVersionPoint
  | longVersion
  | noVersion
  | noBlank
  | noBlankOrBreak
  | noExclamationMark
  | noUri
  | noEscapedOctet
  | badLeadingOctet
  | badTrailingOctet
  | noTagEnd
  | noName
  | zeroIndentation
  | tabInIndentation
  | strayDocumentMark
  | endOfText
  | unknownEscape
  | noHexadecimal
  | badCodePoint
  | strayColon
  | tabInMargin
  | noDocumentStart
  | secondVersion
  | otherVersion
  | secondHandle
  | unknownHandle
  | noContent
  | noEntry
  | noKey
  | noSequenceEnd
  | noMappingEnd
deriving DecidableEq, Repr

/-- The wording of a problem. -/
def Problem.text : Problem → String
  | strayCharacter => "found character that cannot start any token"
  | noColon => "could not find expected ':'"
  | strayEntry => "block sequence entries are not allowed in this context"
  | strayKey => "mapping keys are not allowed in this context"
  | strayValue => "mapping values are not allowed in this context"
  | unknownDirective => "found unknown directive name"
  | unnamedDirective => "could not find expected directive name"
  | strayDirectiveCharacter => "found unexpected non-alphabetical character"
  | noLineEnd => "did not find expected comment or line break"
  | noVersionPoint => "did not find expected digit or '.' character"
  | longVersion => "found extremely long version number"
  | noVersion => "did not find expected version number"
  | noBlank => "did not find expected whitespace"
  | noBlankOrBreak => "did not find expected whitespace or line break"
  | noExclamationMark => "did not find expected '!'"
  | noUri => "did not find expected tag URI"
  | noEscapedOctet => "did not find URI escaped octet"
  | badLeadingOctet => "found an incorrect leading UTF-8 octet"
  | badTrailingOctet => "found an incorrect trailing UTF-8 octet"
  | noTagEnd => "did not find the expected '>'"
  | noName => "did not find expected alphabetic or numeric character"
  | zeroIndentation => "found an indentation indicator equal to 0"
  | tabInIndentation => "found a tab character where an indentation space is expected"
  | strayDocumentMark => "found unexpected document indicator"
  | endOfText => "found unexpected end of stream"
  | unknownEscape => "found unknown escape character"
  | noHexadecimal => "did not find expected hexdecimal number"
  | badCodePoint => "found invalid Unicode character escape code"
  | strayColon => "found unexpected ':'"
  | tabInMargin => "found a tab character that violates indentation"
  | noDocumentStart => "did not find expected <document start>"
  | secondVersion => "found duplicate %YAML directive"
  | otherVersion => "found incompatible YAML document"
  | secondHandle => "found duplicate %TAG directive"
  | unknownHandle => "found undefined tag handle"
  | noContent => "did not find expected node content"
  | noEntry => "did not find expected '-' indicator"
  | noKey => "did not find expected key"
  | noSequenceEnd => "did not find expected ',' or ']'"
  | noMappingEnd => "did not find expected ',' or '\x7d'"

/-- What is being read when a problem comes up. -/
inductive Activity where
  | nextToken
  | possibleKey
  | directive
  | versionDirective
  | tagDirective
  | directiveHandle
  | directiveHandleEnd
  | directiveUri
  | tag
  | tagUri
  | anchor
  | reference
  | blockScalar
  | quotedScalar
  | quotedEscape
  | plainScalar
  | node
  | blockNode
  | flowNode
  | blockSequence
  | blockMapping
  | flowSequence
  | flowMapping
deriving DecidableEq, Repr

/-- The wording of an activity. -/
def Activity.text : Activity → String
  | nextToken => "while scanning for the next token"
  | possibleKey => "while scanning a simple key"
  | directive => "while scanning a directive"
  | versionDirective => "while scanning a %YAML directive"
  | tagDirective => "while scanning a %TAG directive"
  | directiveHandle => "while scanning a tag directive"
  | directiveHandleEnd => "while parsing a tag directive"
  | directiveUri => "while parsing a %TAG directive"
  | tag => "while scanning a tag"
  | tagUri => "while parsing a tag"
  | anchor => "while scanning an anchor"
  | reference => "while scanning an alias"
  | blockScalar => "while scanning a block scalar"
  | quotedScalar => "while scanning a quoted scalar"
  | quotedEscape => "while parsing a quoted scalar"
  | plainScalar => "while scanning a plain scalar"
  | node => "while parsing a node"
  | blockNode => "while parsing a block node"
  | flowNode => "while parsing a flow node"
  | blockSequence => "while parsing a block collection"
  | blockMapping => "while parsing a block mapping"
  | flowSequence => "while parsing a flow sequence"
  | flowMapping => "while parsing a flow mapping"

/-- The faults of a text. -/
inductive Fault where
  | control (offset : Nat)
  | unknownAnchor (position : Position)
  | problem (p : Problem) (position : Position) (during : Option (Activity × Position))
deriving DecidableEq, Repr

/-- The wording of a fault. -/
def Fault.text : Fault → String
  | control offset =>
    "control characters are not allowed"
      ++ (if offset = 0 then "" else " at position " ++ toString offset)
  | unknownAnchor position => "unknown anchor" ++ position.label
  | problem p position none => p.text ++ position.label
  | problem p position (some (activity, since)) =>
    p.text ++ position.label ++ ", " ++ activity.text
      ++ (if since = position then "" else since.label)

/-- Where a reader of a part of the text gives up, and why. A reader that succeeds leaves the text
behind what it has read. -/
structure Stop where
  problem : Problem
  activity : Activity
  rest : List Char
deriving DecidableEq, Repr

/-- The reader gives up. -/
def stop {α : Type} (problem : Problem) (activity : Activity) (rest : List Char) :
    Except Stop α :=
  .error ⟨problem, activity, rest⟩

end TransactionGateway.Yaml
