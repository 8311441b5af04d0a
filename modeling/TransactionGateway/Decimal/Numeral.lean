import TransactionGateway.Decimal.Binary64

/-! # Decimal notation

Reading a number written with a point and an exponent.

* **Form.** An optional sign, digits with at most one point among or beside them, then possibly `e`
  or `E` and a whole exponent with an optional sign. There is at least one digit beside the point.
* **Value.** `read` gives the nearest double-precision number; notation whose value is not finite
  is refused. -/

namespace TransactionGateway.Decimal

/-- The digit's value. -/
def digit? (c : Char) : Option Nat := if c.isDigit then some (c.toNat - '0'.toNat) else none

/-- The number written by digits alone. -/
def ofDigits (s : List Char) : Nat := s.foldl (fun n c => n * 10 + (digit? c).getD 0) 0

/-- The sign and the text after it. -/
def cutSign : List Char → Bool × List Char
  | '-' :: s => (true, s)
  | '+' :: s => (false, s)
  | s => (false, s)

/-- The exponent written after the digits: nothing, or a mark and a whole number. -/
def readExponent : List Char → Option Int
  | [] => some 0
  | c :: s =>
    if c = 'e' ∨ c = 'E' then
      let (negative, digits) := cutSign s
      if digits ≠ [] ∧ digits.all Char.isDigit then
        let n : Int := ofDigits digits
        some (if negative then -n else n)
      else none
    else none

/-- The double-precision number nearest to the notation. -/
def read (s : List Char) : Option Binary64 :=
  let (negative, s) := cutSign s
  let whole := s.takeWhile Char.isDigit
  let s := s.dropWhile Char.isDigit
  let (fraction, s) :=
    match s with
    | '.' :: s => (s.takeWhile Char.isDigit, s.dropWhile Char.isDigit)
    | s => ([], s)
  if whole = [] ∧ fraction = [] then none
  else
    match readExponent s with
    | none => none
    | some e => Binary64.ofDecimal negative (ofDigits (whole ++ fraction)) (e - fraction.length)

end TransactionGateway.Decimal
