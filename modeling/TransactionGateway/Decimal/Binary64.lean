/-! # Double-precision numbers

The finite numbers of the binary64 format, as exact multiples of powers of two.

* **Value.** `⟨s, m, q⟩` stands for `m · 2^q`, negated when `s` is true. A number is kept with
  `2^52 ≤ m < 2^53`, or with `q = -1074` when it is smaller than that allows.
* **Rounding.** `nearest` takes a quotient of naturals to the nearest such number, a tie to the even
  significand; a quotient that would round beyond the largest number has no finite value. -/

namespace TransactionGateway.Decimal

/-- A finite double-precision number. -/
structure Binary64 where
  negative : Bool
  significand : Nat
  exponent : Int
deriving DecidableEq, Repr

namespace Binary64

/-- The least exponent. -/
def leastExponent : Int := -1074

/-- The greatest exponent. -/
def greatestExponent : Int := 971

/-- The least significand of a number that is not too small for 53 binary digits. -/
def leastSignificand : Nat := 0x10000000000000

/-- The first number beyond the significands. -/
def significandEnd : Nat := 0x20000000000000

/-- Zero with a sign. -/
def zero (negative : Bool) : Binary64 := ⟨negative, 0, leastExponent⟩

/-- The quotient rounded to the nearest natural, a tie to the even one. -/
def divideEven (a b : Nat) : Nat :=
  let d := a / b
  let r := 2 * (a % b)
  if r < b then d else if b < r then d + 1 else d + d % 2

/-- Numerator and denominator of `num / den` in units of `2^q`. -/
def inUnits (num den : Nat) (q : Int) : Nat × Nat :=
  if 0 ≤ q then (num, den * Nat.pow 2 q.toNat) else (num * Nat.pow 2 (-q).toNat, den)

/-- The exponent at which the quotient has 53 binary digits, or the least one. -/
def exponentOf (num den : Nat) : Int :=
  let q := max leastExponent ((num.log2 : Int) - (den.log2 : Int) - 53)
  let (a, b) := inUnits num den q
  if significandEnd ≤ a / b then q + 1 else q

/-- The number nearest to a positive or zero quotient, if it is finite. -/
def nearest (negative : Bool) (num den : Nat) : Option Binary64 :=
  if num = 0 then some (zero negative)
  else
    let q := exponentOf num den
    let (a, b) := inUnits num den q
    let m := divideEven a b
    let (m, q) := if m = significandEnd then (leastSignificand, q + 1) else (m, q)
    if q ≤ greatestExponent then some ⟨negative, m, q⟩ else none

/-- The number nearest to `digits · 10^power`, if it is finite. Numbers far outside the range are
settled by their count of digits. -/
def ofDecimal (negative : Bool) (digits : Nat) (power : Int) : Option Binary64 :=
  let size : Int := (Nat.toDigits 10 digits).length + power
  if digits = 0 then some (zero negative)
  else if size < -330 then some (zero negative)
  else if 310 < size then none
  else if 0 ≤ power then nearest negative (digits * Nat.pow 10 power.toNat) 1
  else nearest negative digits (Nat.pow 10 (-power).toNat)

example : ofDecimal false 15 (-1) = some ⟨false, 0x18000000000000, -52⟩ := by decide +kernel

end Binary64

end TransactionGateway.Decimal
