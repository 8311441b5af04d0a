import TransactionGateway.Yaml.Character
import TransactionGateway.Yaml.Fault

/-! # Block scalars

Scalars written as indented lines below a header.

* **Header.** `|` keeps the line breaks and `>` folds them. A sign says what becomes of the breaks
  at the end, a digit how far the lines are indented beyond what is around them, in either order.
* **Indentation.** Without a digit it is that of the first line that holds more than spaces, but not
  less than that of a longer line of spaces before it, and at least the margin and one.
* **Folding.** A line feed between two lines that do not begin with a blank stands for a blank, or
  for nothing when more breaks follow it.
* **End.** The scalar ends at a line of another indentation. Of its last breaks none, the first or
  all are kept. -/

namespace TransactionGateway.Yaml.Block

/-- What becomes of the line breaks at the end. -/
inductive Chomping where
  | strip
  | clip
  | keep
deriving DecidableEq, Repr

/-- The header of a block scalar. -/
structure Header where
  folded : Bool
  chomping : Chomping := .clip
  further : Option Nat := none
deriving DecidableEq, Repr

/-- The chomping that a sign demands. -/
def chomping? (c : Char) : Option Chomping :=
  if c = '+' then some .keep else if c = '-' then some .strip else none

/-- The value of a digit; `none` for any other character. -/
def digit? (c : Char) : Option Nat := if c.isDigit then some (c.toNat - '0'.toNat) else none

/-- A header with the sign that comes next, if one does, and the text after it. -/
def withSign (h : Header) : List Char → Header × List Char
  | [] => (h, [])
  | c :: r =>
    match chomping? c with
    | some chomping => ({ h with chomping }, r)
    | none => (h, c :: r)

/-- A header with the digit that comes next, if one does, and the text after it. No zero may. -/
def withDigit (h : Header) : List Char → Except Stop (Header × List Char)
  | [] => .ok (h, [])
  | c :: r =>
    match digit? c with
    | some 0 => stop .zeroIndentation .blockScalar (c :: r)
    | some n => .ok ({ h with further := some n }, r)
    | none => .ok (h, c :: r)

/-- The header after its indicator, and the text below it. -/
def readHeader (folded : Bool) (s : List Char) : Except Stop (Header × List Char) := do
  let (h, s) ←
    if oneAhead ['+', '-'] s then
      let (h, s) := withSign { folded } s
      withDigit h s
    else do
      let (h, s) ← withDigit { folded } s
      pure (if h.further.isSome then withSign h s else (h, s))
  let s := dropComment s
  if breakAhead s then return (h, s.drop 1) else stop .noLineEnd .blockScalar s

/-- The longest indentation of the lines of spaces and the line after them, `longest` so far and
`column` in the current line. No tab may stand among the spaces. -/
def longestIndent : (longest column : Nat) → List Char → Except Stop Nat
  | longest, column, [] => .ok (max longest column)
  | longest, column, c :: r =>
    if c = ' ' then longestIndent longest (column + 1) r
    else if c = '\t' then stop .tabInIndentation .blockScalar (c :: r)
    else if isBreak c then longestIndent (max longest column) 0 r
    else .ok (max longest column)

/-- The indentation of a block scalar's lines. -/
def indentOf (margin : Nat) (h : Header) (s : List Char) : Except Stop Nat :=
  match h.further with
  | some n => .ok (margin - 1 + n)
  | none => (longestIndent 0 0 s).map fun longest => max longest (max margin 1)

/-- The line breaks since the last line with content, and whether that line began with a blank. -/
structure Breaks where
  first : Option Char := none
  more : List Char := []
  afterBlank : Bool := false
deriving DecidableEq, Repr

namespace Breaks

/-- The breaks with one more. -/
def add (b : Breaks) (c : Char) : Breaks := { b with more := b.more ++ [c] }

/-- What the breaks stand for before a line. -/
def text (folded beforeBlank : Bool) (b : Breaks) : List Char :=
  if folded && b.first == some '\n' && !b.afterBlank && !beforeBlank then
    if b.more = [] then [' '] else b.more
  else b.first.toList ++ b.more

/-- What the breaks stand for at the end. -/
def tail (chomping : Chomping) (b : Breaks) : List Char :=
  match chomping with
  | .strip => []
  | .clip => b.first.toList
  | .keep => b.first.toList ++ b.more

end Breaks

/-- The place in a block scalar: in the indentation of a line, after some breaks, or in the content
of a line that began with a blank or not. -/
inductive Place where
  | indentation (column : Nat) (breaks : Breaks)
  | content (afterBlank : Bool)
deriving DecidableEq, Repr

/-- The end of a block scalar before a text. -/
def finished (h : Header) (p : Place) (rest : List Char) : List Char × List Char :=
  match p with
  | .indentation _ breaks => (breaks.tail h.chomping, rest)
  | .content _ => ([], rest)

/-- The rest of a block scalar from a place on, and the text below it. -/
def lines (h : Header) (indent : Nat) : Place → List Char → Except Stop (List Char × List Char)
  | p, [] => .ok (finished h p [])
  | .content afterBlank, c :: r =>
    if isBreak c then lines h indent (.indentation 0 { first := some c, afterBlank }) r
    else (lines h indent (.content afterBlank) r).map fun (t, rest) => (c :: t, rest)
  | .indentation column breaks, c :: r =>
    if column < indent ∧ c = ' ' then lines h indent (.indentation (column + 1) breaks) r
    else if column < indent ∧ c = '\t' then
      stop .tabInIndentation .blockScalar (c :: r)
    else if isBreak c then lines h indent (.indentation 0 (breaks.add c)) r
    else if column = indent then
      (lines h indent (.content (isBlank c)) r).map fun (t, rest) =>
        (breaks.text h.folded (isBlank c) ++ c :: t, rest)
    else .ok (finished h (.indentation column breaks) (c :: r))

/-- The block scalar whose indicator comes before a text. -/
def read (folded : Bool) (margin : Nat) (s : List Char) : Except Stop (List Char × List Char) := do
  let (h, s) ← readHeader folded s
  let indent ← indentOf margin h s
  lines h indent (.indentation 0 {}) s

end TransactionGateway.Yaml.Block
