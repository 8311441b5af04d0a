/-! # Characters of a YAML text

* **Readable.** A text holds printable characters, tabs and line breaks only; with any other
  character it is no YAML text.
* **Breaks.** Carriage returns, alone or before a line feed, and next-line characters are the same
  as line feeds (`withPlainBreaks`). The separators of lines and of paragraphs are breaks too, and
  stay what they are.
* **Ahead.** What stands next in a text: a blank, a break or the end (`blankAhead`, `breakAhead`),
  or the mark of a document's start or end. -/

namespace TransactionGateway.Yaml

/-- A character that a YAML text may hold. -/
def isReadable (c : Char) : Bool :=
  let n := c.toNat
  n == 0x09 || n == 0x0A || n == 0x0D || (0x20 ≤ n && n ≤ 0x7E) || n == 0x85
    || (0xA0 ≤ n && n ≤ 0xD7FF) || (0xE000 ≤ n && n ≤ 0xFFFD) || 0x10000 ≤ n

/-- The text with line feeds for carriage returns and next-line characters. -/
def withPlainBreaks : List Char → List Char
  | '\r' :: '\n' :: s => '\n' :: withPlainBreaks s
  | c :: s => (if c = '\r' ∨ c = '\u0085' then '\n' else c) :: withPlainBreaks s
  | [] => []

/-- A blank inside a line. -/
def isBlank (c : Char) : Bool := c == ' ' || c == '\t'

/-- A line break. -/
def isBreak (c : Char) : Bool := c == '\n' || c == '\u2028' || c == '\u2029'

/-- A character of names. -/
def isNameChar (c : Char) : Bool := c.isAlphanum || c == '_' || c == '-'

/-- A line break or the end comes next. -/
def breakAhead : List Char → Bool
  | [] => true
  | c :: _ => isBreak c

/-- A blank, a line break or the end comes next. -/
def blankAhead : List Char → Bool
  | [] => true
  | c :: _ => isBlank c || isBreak c

/-- One of some characters comes next. -/
def oneAhead (cs : List Char) : List Char → Bool
  | [] => false
  | c :: _ => cs.contains c

/-- The mark of a document's start comes next. -/
def startMarkAhead : List Char → Bool
  | '-' :: '-' :: '-' :: s => blankAhead s
  | _ => false

/-- The mark of a document's end comes next. -/
def endMarkAhead : List Char → Bool
  | '.' :: '.' :: '.' :: s => blankAhead s
  | _ => false

/-- The mark of a document's start or end comes next. -/
def documentMarkAhead (s : List Char) : Bool := startMarkAhead s || endMarkAhead s

/-- The text after the blanks that come next. -/
def dropBlanks (s : List Char) : List Char := s.dropWhile isBlank

/-- The text after blanks and a comment. -/
def dropComment (s : List Char) : List Char :=
  let s := dropBlanks s
  if s.head? = some '#' then s.dropWhile (!isBreak ·) else s

/-- The octets before the first character that a text may not hold. -/
def unreadableOffset? (s : List Char) : Option Nat :=
  if s.all isReadable then none
  else some (((s.takeWhile isReadable).map Char.utf8Size).foldl (· + ·) 0)

theorem unreadableOffset?_eq_none_iff {s : List Char} :
    unreadableOffset? s = none ↔ ∀ c ∈ s, isReadable c = true := by
  simp [unreadableOffset?]

end TransactionGateway.Yaml
