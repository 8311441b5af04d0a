/-! # Numerals

Reading whole numbers and truth values from text.

* **Bound.** `readNatural radix bound` reads digits from the left and refuses the text at the first
  fault: a character that is no digit of the radix, or a value that has grown beyond `bound`. A
  leading `+` is allowed when a digit follows it.
* **Sign.** `readInteger` reads a leading `-` too, with a bound on each side of zero.
* **Truth.** `readBool` knows the words `true` and `false` alone. -/

namespace TransactionGateway.Text

/-- The reasons for which a text is no number or no truth value. -/
inductive NumeralError where
  | empty
  | invalidDigit
  | tooLarge
  | tooSmall
  | notTruthValue
deriving DecidableEq, Repr

namespace NumeralError

/-- The wording of a refusal. -/
def text : NumeralError → String
  | empty => "cannot parse integer from empty string"
  | invalidDigit => "invalid digit found in string"
  | tooLarge => "number too large to fit in target type"
  | tooSmall => "number too small to fit in target type"
  | notTruthValue => "provided string was not `true` or `false`"

end NumeralError

/-- The value of a digit in the given radix (at most 36, letters of either case). -/
def digitValue? (radix : Nat) (c : Char) : Option Nat :=
  let n := c.toNat
  let v :=
    if '0'.toNat ≤ n ∧ n ≤ '9'.toNat then some (n - '0'.toNat)
    else if 'a'.toNat ≤ n ∧ n ≤ 'z'.toNat then some (n - 'a'.toNat + 10)
    else if 'A'.toNat ≤ n ∧ n ≤ 'Z'.toNat then some (n - 'A'.toNat + 10)
    else none
  v.filter (· < radix)

/-- The value of the digits `s` written after a number `acc`. -/
def readDigits (radix bound : Nat) (overflow : NumeralError) (acc : Nat) :
    List Char → Except NumeralError Nat
  | [] => .ok acc
  | c :: s =>
    match digitValue? radix c with
    | none => .error .invalidDigit
    | some d =>
      let v := acc * radix + d
      if v ≤ bound then readDigits radix bound overflow v s else .error overflow

/-- A natural number of at most `bound`. -/
def readNatural (radix bound : Nat) : List Char → Except NumeralError Nat
  | [] => .error .empty
  | ['+'] => .error .invalidDigit
  | '+' :: s => readDigits radix bound .tooLarge 0 s
  | s => readDigits radix bound .tooLarge 0 s

/-- An integer of at most `above` and at least `-below`. -/
def readInteger (radix above below : Nat) : List Char → Except NumeralError Int
  | [] => .error .empty
  | ['-'] => .error .invalidDigit
  | '-' :: s => (readDigits radix below .tooSmall 0 s).map fun n => -(n : Int)
  | s => (readNatural radix above s).map Int.ofNat

/-- A truth value. -/
def readBool (s : List Char) : Except NumeralError Bool :=
  if s = "true".toList then .ok true
  else if s = "false".toList then .ok false
  else .error .notTruthValue

theorem readDigits_le {radix bound acc n : Nat} {e : NumeralError} {s : List Char}
    (hacc : acc ≤ bound) (h : readDigits radix bound e acc s = .ok n) : n ≤ bound := by
  induction s generalizing acc with
  | nil => simp [readDigits] at h; omega
  | cons c s ih =>
    simp only [readDigits] at h
    split at h
    · cases h
    · split at h
      · next hv => exact ih hv h
      · cases h

theorem readNatural_le {radix bound n : Nat} {s : List Char}
    (h : readNatural radix bound s = .ok n) : n ≤ bound := by
  unfold readNatural at h
  split at h
  · cases h
  · cases h
  · exact readDigits_le (Nat.zero_le _) h
  · exact readDigits_le (Nat.zero_le _) h

/-- The largest number of 32 bits. -/
def largest32 : Nat := 0xFFFFFFFF

/-- The largest number of 64 bits. -/
def largest64 : Nat := 0xFFFFFFFFFFFFFFFF

/-- The largest number of 128 bits. -/
def largest128 : Nat := 0xFFFFFFFFFFFFFFFFFFFFFFFFFFFFFFFF

/-- A natural number that fits 32 bits. -/
def readWord32 (s : List Char) : Except NumeralError UInt32 :=
  match h : readNatural 10 largest32 s with
  | .ok n =>
    .ok (UInt32.ofNatLT n (by
      have := readNatural_le h
      simp only [largest32, UInt32.size] at *
      omega))
  | .error e => .error e

/-- A natural number that fits 64 bits. -/
def readWord64 (s : List Char) : Except NumeralError UInt64 :=
  match h : readNatural 10 largest64 s with
  | .ok n =>
    .ok (UInt64.ofNatLT n (by
      have := readNatural_le h
      simp only [largest64, UInt64.size] at *
      omega))
  | .error e => .error e

end TransactionGateway.Text
