import TransactionGateway.Yaml.Fault
import TransactionGateway.Yaml.Scalar.Gap

/-! # Plain scalars

Scalars without quotes, which end where the text around them goes on.

* **End in a line.** A colon before a blank, a hash after a blank, and inside brackets a comma or
  another bracket.
* **End at a line.** A line left of the margin, and the mark of a document's start or end.
* **Refused.** A tab left of the margin, and inside brackets a colon before a comma, a question mark
  or a bracket. -/

namespace TransactionGateway.Yaml

/-- A plain scalar that has been read. -/
structure Plain where
  text : List Char
  endsLine : Bool
  rest : List Char
deriving DecidableEq, Repr

namespace Plain

/-- The separators and brackets of flow collections. -/
def flowMarks : List Char := [',', '[', ']', '{', '}']

/-- A plain scalar may begin here. -/
def mayBegin (inFlow : Bool) : List Char → Bool
  | [] => false
  | '-' :: r => !blankAhead r
  | c :: r =>
    if c = '?' || c = ':' then !inFlow && !blankAhead r
    else !(isBlank c || isBreak c
      || [',', '[', ']', '{', '}', '#', '&', '*', '!', '|', '>', '\'', '"', '%', '@',
        '\x60'].contains c)

/-- The scalar ends before this text, which follows a gap. -/
def endsAfterGap (inFlow : Bool) (margin : Nat) (g : Gap) (s : List Char) : Bool :=
  !g.isEmpty && (s.head? == some '#' || (!inFlow && g.endsBefore margin)
    || (g.endsAtLineStart && documentMarkAhead s))

/-- The scalar ends before this text by an indicator. -/
def endsWord (inFlow : Bool) : List Char → Bool
  | [] => true
  | c :: r => (c == ':' && blankAhead r) || (inFlow && flowMarks.contains c)

/-- The colon at the beginning of this text is misplaced inside brackets. -/
def isBadColon (inFlow : Bool) : List Char → Bool
  | ':' :: r => inFlow && oneAhead ('?' :: flowMarks) r
  | _ => false

/-- The scalar that goes on with this text after a gap. -/
def continued (inFlow : Bool) (margin : Nat) : Gap → List Char → Except Stop Plain
  | g, [] => .ok ⟨[], g.isBroken, []⟩
  | g, c :: r =>
    if isBreak c then continued inFlow margin (g.withBreak c) r
    else if isBlank c then
      if c == '\t' && g.endsBefore margin then stop .tabInMargin .plainScalar (c :: r)
      else continued inFlow margin (g.withBlank c) r
    else if endsAfterGap inFlow margin g (c :: r) then .ok ⟨[], g.isBroken, c :: r⟩
    else if isBadColon inFlow (c :: r) then stop .strayColon .plainScalar (c :: r)
    else if endsWord inFlow (c :: r) then .ok ⟨[], g.isBroken, c :: r⟩
    else (continued inFlow margin .empty r).map fun p => { p with text := g.text ++ c :: p.text }

/-- The plain scalar at the beginning of a text. -/
def read (inFlow : Bool) (margin : Nat) (s : List Char) : Except Stop Plain :=
  continued inFlow margin .empty s

end Plain

end TransactionGateway.Yaml
