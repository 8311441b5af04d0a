import TransactionGateway.Yaml.Character

/-! # Gaps in a scalar

The blanks and line breaks between the words of a scalar that may go on over several lines.

* **Inside a line.** Blanks are kept as they are.
* **Across lines.** Blanks around line breaks are dropped. A single line feed stands for a blank; of
  several breaks the first, if it is a line feed, only joins the lines and the others are kept. A
  separator of lines or paragraphs is kept even as the first break.
* **Escaped break.** A line break after a backslash joins the lines without a blank. -/

namespace TransactionGateway.Yaml

/-- The blanks and breaks since the last word. -/
inductive Gap where
  | blanks (kept : List Char)
  | lines (first : Option Char) (more : List Char) (column : Nat)
deriving DecidableEq, Repr

namespace Gap

/-- No blank and no break since the last word. -/
def empty : Gap := .blanks []

/-- The gap after an escaped line break. -/
def escapedBreak : Gap := .lines none [] 0

/-- The gap with one more blank. -/
def withBlank (c : Char) : Gap → Gap
  | blanks kept => blanks (kept ++ [c])
  | lines first more column => lines first more (column + 1)

/-- The gap with one more line break. -/
def withBreak (c : Char) : Gap → Gap
  | blanks _ => lines (some c) [] 0
  | lines first more _ => lines first (more ++ [c]) 0

/-- What the gap stands for between two words. -/
def text : Gap → List Char
  | blanks kept => kept
  | lines none more _ => more
  | lines (some c) more _ =>
    if c = '\n' then (if more = [] then [' '] else more) else c :: more

/-- The gap holds a line break. -/
def isBroken : Gap → Bool
  | blanks _ => false
  | lines _ _ _ => true

/-- The gap holds nothing. -/
def isEmpty : Gap → Bool
  | blanks kept => kept.isEmpty
  | lines _ _ _ => false

/-- The gap ends at the beginning of a line. -/
def endsAtLineStart : Gap → Bool
  | blanks _ => false
  | lines _ _ column => column == 0

/-- The gap ends on a later line, left of a margin. -/
def endsBefore (margin : Nat) : Gap → Bool
  | blanks _ => false
  | lines _ _ column => column < margin

end Gap

end TransactionGateway.Yaml
