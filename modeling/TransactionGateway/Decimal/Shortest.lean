import TransactionGateway.Decimal.Binary64

/-! # Shortest decimal text

The shortest decimal text from which a double-precision number can be read back.

* **Interval.** The decimals that read back as `m · 2^q` lie between the midpoints to the two
  neighbouring numbers, the midpoints included when `m` is even. The lower midpoint is nearer when
  `m` is the least significand of its exponent.
* **Digits.** For one digit, two digits and so on, the two decimals of that many digits next to the
  number are tried; the first count with one inside the interval wins, of two the nearer, and of two
  that are equally near the one further from zero.
* **Layout.** The digits are written out in full around a point, with `.0` after a whole number. -/

namespace TransactionGateway.Decimal

/-- A quantity `num / den`. -/
structure Ratio where
  num : Nat
  den : Nat

/-- A significand in units of a quarter of `2^q`, as a quotient. -/
def quarterUnits (n : Nat) (q : Int) : Ratio :=
  if 2 ≤ q then ⟨n * Nat.pow 2 (q - 2).toNat, 1⟩ else ⟨n, Nat.pow 2 (2 - q).toNat⟩

/-- The quotient that is `digits · 10^power`. -/
def decimalRatio (digits : Nat) (power : Int) : Ratio :=
  if 0 ≤ power then ⟨digits * Nat.pow 10 power.toNat, 1⟩ else ⟨digits, Nat.pow 10 (-power).toNat⟩

namespace Ratio

/-- Comparison of two quotients by their cross products. -/
def compare (x y : Ratio) : Ordering := Ord.compare (x.num * y.den) (y.num * x.den)

/-- Distance of two quotients, over the product of their denominators. -/
def distance (x y : Ratio) : Ratio :=
  let a := x.num * y.den
  let b := y.num * x.den
  ⟨if a ≤ b then b - a else a - b, x.den * y.den⟩

end Ratio

namespace Binary64

/-- The midpoint to the next smaller number. -/
def lowerMidpoint (x : Binary64) : Ratio :=
  let gap := if x.significand = leastSignificand ∧ leastExponent < x.exponent then 1 else 2
  quarterUnits (4 * x.significand - gap) x.exponent

/-- The midpoint to the next greater number. -/
def upperMidpoint (x : Binary64) : Ratio := quarterUnits (4 * x.significand + 2) x.exponent

/-- The magnitude as a quotient. -/
def magnitude (x : Binary64) : Ratio := quarterUnits (4 * x.significand) x.exponent

/-- The decimal reads back as the number. -/
def readsBack (x : Binary64) (r : Ratio) : Bool :=
  let low := x.lowerMidpoint.compare r
  let high := r.compare x.upperMidpoint
  if x.significand % 2 = 0 then low != .gt && high != .gt else low == .lt && high == .lt

/-- The greatest power of ten that is no greater than the magnitude. -/
def decimalMagnitude (x : Binary64) : Int :=
  let r := x.magnitude
  let guess : Int := (Nat.toDigits 10 r.num).length - (Nat.toDigits 10 r.den).length
  if (decimalRatio 1 guess).compare r == .gt then guess - 1 else guess

/-- The decimal of `count` digits that reads back and is nearest to the number, the greater of two
such, as digits and a power of ten. -/
def withDigits? (x : Binary64) (count : Nat) : Option (Nat × Int) :=
  let power := x.decimalMagnitude + 1 - count
  let r := x.magnitude
  let unit := decimalRatio 1 power
  let below := (r.num * unit.den) / (r.den * unit.num)
  let down := decimalRatio below power
  let up := decimalRatio (below + 1) power
  match x.readsBack down, x.readsBack up with
  | true, true =>
    if (r.distance down).compare (r.distance up) == .lt then some (below, power)
    else some (below + 1, power)
  | true, false => some (below, power)
  | false, true => some (below + 1, power)
  | false, false => none

/-- The shortest decimal that reads back: digits and a power of ten. -/
def shortest (x : Binary64) : Nat × Int :=
  if x.significand = 0 then (0, 0)
  else ((List.range' 1 17).findSome? x.withDigits?).getD (0, 0)

end Binary64

/-- Digits without their trailing zeros, as long as the power of ten is negative. -/
def dropZeros : Nat → Nat × Int → Nat × Int
  | 0, d => d
  | fuel + 1, (digits, power) =>
    if power < 0 ∧ digits % 10 = 0 ∧ digits ≠ 0 then dropZeros fuel (digits / 10, power + 1)
    else (digits, power)

/-- A decimal written out around its point. -/
def layOut (digits : Nat) (power : Int) : List Char :=
  let (digits, power) := dropZeros 20 (digits, power)
  let ds := Nat.toDigits 10 digits
  if 0 ≤ power then ds ++ List.replicate power.toNat '0' ++ ['.', '0']
  else
    let places := (-power).toNat
    if places < ds.length then ds.take (ds.length - places) ++ '.' :: ds.drop (ds.length - places)
    else '0' :: '.' :: List.replicate (places - ds.length) '0' ++ ds

/-- The shortest text of a number, with its sign and a point. -/
def Binary64.text (x : Binary64) : String :=
  let (digits, power) := x.shortest
  String.ofList ((if x.negative then ['-'] else []) ++ layOut digits power)

end TransactionGateway.Decimal
