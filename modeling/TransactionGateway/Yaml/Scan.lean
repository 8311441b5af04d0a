import TransactionGateway.Yaml.Scalar.Block
import TransactionGateway.Yaml.Scalar.Plain
import TransactionGateway.Yaml.Token

/-! # From text to tokens

One token after another is taken off the text; block collections are opened and closed by the
indentation of what comes next.

* **Margins.** Every open block collection has a margin, one more than the column of its entries. A
  token further to the right than a collection's entries belongs to that collection; one to the left
  of them closes it.
* **Possible keys.** That a scalar, an alias or a flow collection is a key shows only at the colon
  behind it. So where a key may stand its place among the tokens is kept; a colon in the same line,
  at most 1024 octets on, puts the token of a key there. A token at the very column of a block
  mapping's entries has to turn out a key.
* **Where keys may stand.** In a block at the beginning of a line and after an indicator, not after
  a value's colon in the same line; in a flow collection after a bracket or a separator.
* **Waiting.** Tokens wait until it is known that no key has to be put before the first of them, and
  no longer (`ready`). So a fault ends the run of tokens only when it comes up in the text that the
  tokens before it depend on.
* **End.** The end of the text and the marks of documents close all block collections. -/

namespace TransactionGateway.Yaml

/-- The rest of a text, and where it begins; `octets` are those before it in its line. -/
structure Cursor where
  rest : List Char
  line : Nat := 0
  column : Nat := 0
  octets : Nat := 0
deriving DecidableEq, Repr

namespace Cursor

/-- The position of a cursor. -/
def position (k : Cursor) : Position := ⟨k.line, k.column⟩

/-- The cursor behind the next character. -/
def next (k : Cursor) : Cursor :=
  match k.rest with
  | [] => k
  | c :: r =>
    if isBreak c then ⟨r, k.line + 1, 0, 0⟩
    else ⟨r, k.line, k.column + 1, k.octets + c.utf8Size⟩

/-- The cursor some characters on. -/
def skip : Nat → Cursor → Cursor
  | 0, k => k
  | n + 1, k => skip n k.next

/-- The cursor where a given rest of the text begins. -/
def reach (rest : List Char) (k : Cursor) : Cursor := k.skip (k.rest.length - rest.length)

/-- The cursor at the beginning of a line, the next one unless the cursor is there. -/
def atLineStart (k : Cursor) : Cursor :=
  if k.column = 0 then k else { k with line := k.line + 1, column := 0, octets := 0 }

@[simp] theorem reach_rest (k : Cursor) : k.reach k.rest = k := by
  simp [reach, skip]

end Cursor

/-- A place among the tokens where a key may begin, and where that is in the text. -/
structure PossibleKey where
  place : Nat
  position : Position
  octets : Nat
  required : Bool
deriving DecidableEq, Repr

/-- The state of taking tokens off a text: `waiting` are the tokens that wait, and `handed` is the
number of those before them; `margins` are those of the open block collections, the innermost
first; `levels` are the possible keys around the open flow collections, the innermost first. -/
structure Scan where
  cursor : Cursor
  waiting : List PlacedToken := []
  handed : Nat := 0
  margins : List Nat := []
  keyAllowed : Bool := true
  possible : Option PossibleKey := none
  levels : List (Option PossibleKey) := []
deriving DecidableEq, Repr

namespace Scan

/-- A flow collection is open. -/
def inFlow (s : Scan) : Bool := !s.levels.isEmpty

/-- The margin of the innermost block collection. -/
def margin (s : Scan) : Nat := s.margins.headD 0

/-- The position that the text has been taken to. -/
def position (s : Scan) : Position := s.cursor.position

/-- The place of the next token. -/
def place (s : Scan) : Nat := s.handed + s.waiting.length

/-- One more token taken, which began at a position. -/
def emit (start : Position) (t : Token) (s : Scan) : Scan :=
  { s with waiting := s.waiting ++ [⟨t, start, s.position⟩] }

/-- A token of no extent put at a place among those that wait. -/
def emitAt (place : Nat) (p : Position) (t : Token) (s : Scan) : Scan :=
  let before := place - s.handed
  { s with waiting := s.waiting.take before ++ ⟨t, p, p⟩ :: s.waiting.drop before }

/-- The text taken as far as a given rest. -/
def reach (rest : List Char) (s : Scan) : Scan := { s with cursor := s.cursor.reach rest }

/-- One character taken. -/
def next (s : Scan) : Scan := { s with cursor := s.cursor.next }

/-- Whether a key may come next. -/
def allowKey (keyAllowed : Bool) (s : Scan) : Scan := { s with keyAllowed }

/-! ### Faults -/

/-- A problem in something that began at a position. -/
def fail {α : Type} (p : Problem) (activity : Activity) (since : Position) (s : Scan) :
    Except Fault α :=
  .error (.problem p s.position (some (activity, since)))

/-- What may not stand here. -/
def misplaced {α : Type} (p : Problem) (s : Scan) : Except Fault α :=
  .error (.problem p s.position none)

/-- What a reader makes of the text to come, in something that began at a position. -/
def taking {α : Type} (since : Position) (s : Scan) : Except Stop α → Except Fault α
  | .ok a => .ok a
  | .error e => (s.reach e.rest).fail e.problem e.activity since

/-! ### Between tokens -/

/-- The text after blanks, comments and line breaks, and whether a key may stand there. A byte order
mark at the beginning of a line is one of the blanks. -/
def afterGap (inFlow : Bool) :
    (keyAllowed inComment atLineStart : Bool) → List Char → List Char × Bool
  | keyAllowed, _, _, [] => ([], keyAllowed)
  | keyAllowed, inComment, atLineStart, c :: r =>
    if isBreak c then afterGap inFlow (keyAllowed || !inFlow) false true r
    else if inComment then afterGap inFlow keyAllowed true false r
    else if c = ' ' || (c = '\t' && (inFlow || !keyAllowed)) || (c = '\ufeff' && atLineStart) then
      afterGap inFlow keyAllowed false false r
    else if c = '#' then afterGap inFlow keyAllowed true false r
    else (c :: r, keyAllowed)

/-- Blanks, comments and line breaks passed. -/
def passGap (s : Scan) : Scan :=
  let (rest, keyAllowed) :=
    afterGap s.inFlow s.keyAllowed false (s.cursor.column == 0) s.cursor.rest
  (s.reach rest).allowKey keyAllowed

/-- The possible key is out of reach. -/
def isStale (k : Cursor) (key : PossibleKey) : Bool :=
  key.position.line < k.line || key.octets + 1024 < k.octets

/-- A possible key given up, unless it has to be a key. -/
def giveUp (key : PossibleKey) (s : Scan) : Except Fault (Option PossibleKey) :=
  if key.required then s.fail .noColon .possibleKey key.position else .ok none

/-- A possible key given up when it is out of reach. -/
def expire (s : Scan) : Option PossibleKey → Except Fault (Option PossibleKey)
  | none => .ok none
  | some key => if isStale s.cursor key then s.giveUp key else .ok (some key)

/-- All possible keys that are out of reach given up. -/
def expireKeys (s : Scan) : Except Fault Scan := do
  let possible ← s.expire s.possible
  let levels ← s.levels.mapM s.expire
  return { s with possible, levels }

/-- The block collections with a margin beyond the given one closed. -/
def closeTo (margin : Nat) (s : Scan) : Scan :=
  if s.inFlow then s
  else
    let closed := s.margins.takeWhile (margin < ·)
    { s with
      waiting := s.waiting ++ List.replicate closed.length ⟨.blockEnd, s.position, s.position⟩
      margins := s.margins.drop closed.length }

/-! ### Possible keys and block collections -/

/-- The possible key given up. -/
def dropKey (s : Scan) : Except Fault Scan :=
  match s.possible with
  | none => .ok s
  | some key => do
    let possible ← s.giveUp key
    return { s with possible }

/-- A possible key kept, if one may stand here. -/
def keepKey (s : Scan) : Except Fault Scan :=
  if s.keyAllowed then do
    let required := !s.inFlow && s.margin == s.cursor.column + 1
    let s' ← s.dropKey
    return { s' with possible := some ⟨s.place, s.position, s.cursor.octets, required⟩ }
  else .ok s

/-- A block collection opened at a place for entries at the column of a position, unless one is open
for them. -/
def openAt (p : Position) (place : Nat) (start : Token) (s : Scan) : Scan :=
  if !s.inFlow && s.margin ≤ p.column then
    { s.emitAt place p start with margins := (p.column + 1) :: s.margins }
  else s

/-- A block collection opened for entries here; the problem is what comes up where they may not
stand. -/
def openHere (start : Token) (p : Problem) (s : Scan) : Except Fault Scan :=
  if s.inFlow then .ok s
  else if s.keyAllowed then .ok (s.openAt s.position s.place start)
  else s.misplaced p

/-! ### Tokens -/

/-- A token of one character. -/
def takeSign (t : Token) (keyAllowed : Bool) (s : Scan) : Scan :=
  (s.next.allowKey keyAllowed).emit s.position t

/-- A directive. -/
def takeDirective (s : Scan) : Except Fault Scan := do
  let s ← (s.closeTo 0).dropKey
  let (d, rest) ← s.next.taking s.position (Directive.read s.next.cursor.rest)
  return ((s.reach rest).allowKey false).emit s.position (.directive d)

/-- The mark of a document's start or end. -/
def takeMark (t : Token) (s : Scan) : Except Fault Scan := do
  let s ← (s.closeTo 0).dropKey
  return (s.next.next.next.allowKey false).emit s.position t

/-- The opening bracket of a flow collection. -/
def takeOpening (t : Token) (s : Scan) : Except Fault Scan := do
  let s ← s.keepKey
  return { s with possible := none, levels := s.possible :: s.levels }.takeSign t true

/-- The closing bracket of a flow collection. -/
def takeClosing (t : Token) (s : Scan) : Except Fault Scan := do
  let s ← s.dropKey
  let s :=
    match s.levels with
    | [] => s
    | possible :: levels => { s with possible, levels }
  return s.takeSign t false

/-- The separator of a flow collection. -/
def takeSeparator (s : Scan) : Except Fault Scan := do
  let s ← s.dropKey
  return s.takeSign .separator true

/-- The indicator of a block sequence's entry. -/
def takeEntry (s : Scan) : Except Fault Scan := do
  let s ← s.openHere .sequenceStart .strayEntry
  let s ← s.dropKey
  return s.takeSign .entry true

/-- The indicator of a key. -/
def takeKey (s : Scan) : Except Fault Scan := do
  let s ← s.openHere .mappingStart .strayKey
  let s ← s.dropKey
  return s.takeSign .key (!s.inFlow)

/-- The indicator of a value. -/
def takeValue (s : Scan) : Except Fault Scan :=
  match s.possible with
  | some key =>
    let s := (s.emitAt key.place key.position .key).openAt key.position key.place .mappingStart
    .ok ({ s with possible := none }.takeSign .value false)
  | none => do
    let s ← s.openHere .mappingStart .strayValue
    return s.takeSign .value (!s.inFlow)

/-- An alias or an anchor. -/
def takeName (t : List Char → Token) (activity : Activity) (s : Scan) : Except Fault Scan := do
  let s ← s.keepKey
  let (name, rest) ← s.next.taking s.position (anchorName activity s.next.cursor.rest)
  return ((s.reach rest).allowKey false).emit s.position (t name)

/-- A tag. -/
def takeTag (s : Scan) : Except Fault Scan := do
  let s ← s.keepKey
  let (t, rest) ← s.taking s.position (Tag.read s.inFlow s.cursor.rest)
  return ((s.reach rest).allowKey false).emit s.position (.tag t)

/-- A block scalar. -/
def takeBlock (folded : Bool) (s : Scan) : Except Fault Scan := do
  let s ← s.dropKey
  let (text, rest) ← s.next.taking s.position (Block.read folded s.margin s.next.cursor.rest)
  return ((s.reach rest).allowKey true).emit s.position
    (.scalar text (if folded then .folded else .literal))

/-- A quoted scalar. -/
def takeQuoted (read : List Char → Except Stop (List Char × List Char)) (style : Style)
    (s : Scan) : Except Fault Scan := do
  let s ← s.keepKey
  let (text, rest) ← s.next.taking s.position (read s.next.cursor.rest)
  return ((s.reach rest).allowKey false).emit s.position (.scalar text style)

/-- A plain scalar. -/
def takePlain (s : Scan) : Except Fault Scan := do
  let s ← s.keepKey
  let p ← s.taking s.position (Plain.read s.inFlow s.margin s.cursor.rest)
  return ((s.reach p.rest).allowKey p.endsLine).emit s.position (.scalar p.text .plain)

/-- The end of the text, which is at the beginning of a line. -/
def takeEnd (s : Scan) : Except Fault Scan := do
  let s ← ({ s with cursor := s.cursor.atLineStart }.closeTo 0).dropKey
  return (s.allowKey false).emit s.position .textEnd

/-- The token at the beginning of the text to come. -/
def takeToken (s : Scan) : Except Fault Scan :=
  match s.cursor.rest with
  | [] => s.takeEnd
  | c :: r =>
    let atLineStart := s.cursor.column == 0
    if atLineStart && c = '%' then s.takeDirective
    else if atLineStart && startMarkAhead (c :: r) then s.takeMark .documentStart
    else if atLineStart && endMarkAhead (c :: r) then s.takeMark .documentEnd
    else if c = '[' then s.takeOpening .flowSequenceStart
    else if c = '{' then s.takeOpening .flowMappingStart
    else if c = ']' then s.takeClosing .flowSequenceEnd
    else if c = '}' then s.takeClosing .flowMappingEnd
    else if c = ',' then s.takeSeparator
    else if c = '-' && blankAhead r then s.takeEntry
    else if c = '?' && (s.inFlow || blankAhead r) then s.takeKey
    else if c = ':' && (s.inFlow || blankAhead r) then s.takeValue
    else if c = '*' then s.takeName .reference .reference
    else if c = '&' then s.takeName .anchor .anchor
    else if c = '!' then s.takeTag
    else if c = '|' && !s.inFlow then s.takeBlock false
    else if c = '>' && !s.inFlow then s.takeBlock true
    else if c = '\'' then s.takeQuoted Quoted.readSingle .singleQuoted
    else if c = '"' then s.takeQuoted Quoted.readDouble .doubleQuoted
    else if Plain.mayBegin s.inFlow (c :: r) then s.takePlain
    else s.fail .strayCharacter .nextToken s.position

/-- One more token taken, and those that make structure explicit before it. -/
def take (s : Scan) : Except Fault Scan := do
  let s ← s.passGap.expireKeys
  (s.closeTo (s.cursor.column + 1)).takeToken

/-! ### Runs of tokens -/

/-- A key may yet have to be put before the tokens that wait. -/
def mayPrecede (s : Scan) : Bool :=
  (s.possible :: s.levels).any fun key? => key?.any (·.place == s.handed)

/-- The state once the first token that waits is known, in at most the given number of rounds. -/
def ready : Nat → Scan → Except Fault Scan
  | 0, s => .ok s
  | n + 1, s =>
    if s.waiting.isEmpty then do
      let s ← s.take
      ready n s
    else do
      let s ← s.expireKeys
      if s.mayPrecede then
        let s ← s.take
        ready n s
      else return s

/-- The tokens of the rest of a text, less than the given number; each is known in at most so many
rounds. -/
def run (rounds : Nat) : Nat → Scan → TokenRun
  | 0, s => ⟨[], .ok s.position⟩
  | n + 1, s =>
    match s.ready rounds with
    | .error f => .faulty f
    | .ok s =>
      match s.waiting with
      | [] => ⟨[], .ok s.position⟩
      | t :: waiting =>
        if t.token = .textEnd then ⟨[], .ok t.start⟩
        else (run rounds n { s with waiting, handed := s.handed + 1 }).cons t

/-- The state before the first token of a text. -/
def start (text : List Char) : Scan := { cursor := { rest := text } }

/-- The rounds after which the first token that waits is known in any case: every round takes a
character at least, or the end. -/
def enoughRounds (text : List Char) : Nat := text.length + 2

/-- More than the tokens of a text: a character has its own token at most, with one each for the
start and the end of a collection and for a key. -/
def enoughTokens (text : List Char) : Nat := 4 * text.length + 4

end Scan

/-- The tokens of a text. -/
def TokenRun.ofText (text : String) : TokenRun :=
  match unreadableOffset? text.toList with
  | some offset => .faulty (.control offset)
  | none =>
    let text := withPlainBreaks text.toList
    (Scan.start text).run (Scan.enoughRounds text) (Scan.enoughTokens text)

end TransactionGateway.Yaml
