import TransactionGateway.Settings.Document

/-! # Numerals read back

The decimal digits of a number are read as that number, by every reader of whole numbers and up to
its bound.

* **Digits.** They are the number's value, however far it goes (`readDigits_eq`), so a reader
  refuses them exactly when the number is beyond its bound (`readNatural_toDigits`).
* **Canonical.** The first digit is no zero unless it is the only one (`head?_toDigits`). So the
  digits name no radix and are not padded, and a document's reader takes them as they are
  (`natural?_toDigits`).
* **Words.** A word of 32 bits is read from the same numbers whether the reader is bounded by it or
  by a word of 64 bits (`readWord32_toDigits`). -/

namespace TransactionGateway.Text

/-! ### Digits -/

theorem digitValue?_of_isDigit {c : Char} (h : c.isDigit = true) :
    digitValue? 10 c = some (c.toNat - '0'.toNat) := by
  have hbounds : '0'.toNat ≤ c.toNat ∧ c.toNat ≤ '9'.toNat := by
    simpa [Char.isDigit, UInt32.le_iff_toNat_le] using h
  simp only [digitValue?, if_pos hbounds, Option.filter_some, decide_eq_true_eq]
  have : c.toNat ≤ 57 := hbounds.2
  rw [if_pos]
  show c.toNat - 48 < 10
  omega

theorem le_ofDigitChars (s : List Char) (acc : Nat) : acc ≤ Nat.ofDigitChars 10 s acc := by
  induction s generalizing acc with
  | nil => simp
  | cons c s ih =>
    rw [Nat.ofDigitChars_cons]
    have := ih (10 * acc + (c.toNat - '0'.toNat))
    omega

theorem digitValue?_of_not_isDigit {c : Char} (h : c.isDigit = false) :
    digitValue? 10 c = none := by
  have hbounds : ¬('0'.toNat ≤ c.toNat ∧ c.toNat ≤ '9'.toNat) := by
    simpa [Char.isDigit, UInt32.le_iff_toNat_le] using h
  simp only [digitValue?, if_neg hbounds]
  -- A letter stands for ten or more.
  split
  · simp
  · split <;> simp

/-- Digits ahead of other text are read as the number that they spell, if that is within the
bound. -/
theorem readDigits_append {bound : Nat} {e : NumeralError} {s : List Char}
    (hs : ∀ c ∈ s, c.isDigit = true) {acc : Nat} (hacc : acc ≤ bound) (rest : List Char) :
    readDigits 10 bound e acc (s ++ rest)
      = if Nat.ofDigitChars 10 s acc ≤ bound then
          readDigits 10 bound e (Nat.ofDigitChars 10 s acc) rest
        else .error e := by
  induction s generalizing acc with
  | nil => simp [hacc]
  | cons c s ih =>
    rw [List.cons_append, readDigits, digitValue?_of_isDigit (hs c (by simp)),
      Nat.ofDigitChars_cons, Nat.mul_comm acc 10]
    simp only
    split
    · next hle => exact ih (fun d hd => hs d (by simp [hd])) hle
    · next hgt =>
      have := le_ofDigitChars s (10 * acc + (c.toNat - '0'.toNat))
      rw [if_neg (by omega)]

theorem readDigits_eq {bound : Nat} {e : NumeralError} {s : List Char}
    (hs : ∀ c ∈ s, c.isDigit = true) {acc : Nat} (hacc : acc ≤ bound) :
    readDigits 10 bound e acc s
      = if Nat.ofDigitChars 10 s acc ≤ bound then .ok (Nat.ofDigitChars 10 s acc)
        else .error e := by
  simpa [readDigits] using readDigits_append (e := e) hs hacc []

theorem isDigit_toDigits {c : Char} {n : Nat} (h : c ∈ Nat.toDigits 10 n) : c.isDigit = true :=
  Nat.isDigit_of_mem_toDigits (by decide) (by decide) h

theorem head?_toDigits {n : Nat} (hn : 0 < n) : (Nat.toDigits 10 n).head? ≠ some '0' := by
  induction n using Nat.strongRecOn with
  | _ n ih =>
    by_cases h : n < 10
    · rw [Nat.toDigits_of_lt_base h]
      have hdigit : ∀ d < 10, 0 < d → [d.digitChar].head? ≠ some '0' := by decide
      exact hdigit n h hn
    · rw [Nat.toDigits_of_base_le (by decide) (by omega), List.head?_append]
      have hne : Nat.toDigits 10 (n / 10) ≠ [] := Nat.toDigits_ne_nil
      rw [List.head?_eq_some_head hne, Option.some_or, ← List.head?_eq_some_head hne]
      exact ih (n / 10) (by omega) (by omega)

/-- The first digit, and those after it. -/
theorem exists_toDigits (n : Nat) :
    ∃ c r, Nat.toDigits 10 n = c :: r ∧ c.isDigit = true ∧ (∀ d ∈ r, d.isDigit = true)
      ∧ (c = '0' → r = []) := by
  obtain ⟨c, r, h⟩ := List.exists_cons_of_ne_nil (Nat.toDigits_ne_nil (n := n) (b := 10))
  refine ⟨c, r, h, isDigit_toDigits (n := n) (by simp [h]),
    fun d hd => isDigit_toDigits (n := n) (by simp [h, hd]), ?_⟩
  rintro rfl
  by_cases hn : n = 0
  · subst hn
    simpa [Nat.toDigits_zero] using h
  · exact absurd (by rw [h]; rfl) (head?_toDigits (Nat.pos_of_ne_zero hn))

theorem ne_of_isDigit {c d : Char} (hc : c.isDigit = true) (hd : d.isDigit = false) : c ≠ d := by
  rintro rfl
  simp [hc] at hd

theorem readNatural_of_ne_plus {c : Char} (hc : c ≠ '+') (bound : Nat) (r : List Char) :
    readNatural 10 bound (c :: r) = readDigits 10 bound .tooLarge 0 (c :: r) := by
  unfold readNatural
  split <;> simp_all

theorem readNatural_of_plus (bound : Nat) {r : List Char} (hr : r ≠ []) :
    readNatural 10 bound ('+' :: r) = readDigits 10 bound .tooLarge 0 r := by
  unfold readNatural
  split <;> simp_all

theorem readNatural_of_isDigit {c : Char} (hc : c.isDigit = true) (bound : Nat) (r : List Char) :
    readNatural 10 bound (c :: r) = readDigits 10 bound .tooLarge 0 (c :: r) :=
  readNatural_of_ne_plus (ne_of_isDigit hc rfl) bound r

theorem readNatural_toDigits (bound n : Nat) :
    readNatural 10 bound (Nat.toDigits 10 n) = if n ≤ bound then .ok n else .error .tooLarge := by
  obtain ⟨c, r, h, hc, -, -⟩ := exists_toDigits n
  rw [h, readNatural_of_isDigit hc, ← h,
    readDigits_eq (fun d hd => isDigit_toDigits hd) (Nat.zero_le bound),
    Nat.ofDigitChars_ten_toDigits]

end TransactionGateway.Text

namespace TransactionGateway.Yaml.Meaning

open TransactionGateway.Text

theorem radix?_toDigits (n : Nat) : radix? (Nat.toDigits 10 n) = none := by
  obtain ⟨c, r, h, -, -, hzero⟩ := exists_toDigits n
  rw [h]
  by_cases hc : c = '0'
  · rw [hc, hzero hc]
    rfl
  · unfold radix?
    split <;> simp_all

theorem isZeroPadded_toDigits (n : Nat) : isZeroPadded (Nat.toDigits 10 n) = false := by
  obtain ⟨c, r, h, hc, -, hzero⟩ := exists_toDigits n
  have hplus : c ≠ '+' := ne_of_isDigit hc rfl
  have hminus : c ≠ '-' := ne_of_isDigit hc rfl
  rw [h]
  by_cases hc0 : c = '0'
  · rw [hc0, hzero hc0]
    rfl
  · unfold isZeroPadded
    simp [hplus, hminus, hc0]

theorem natural?_toDigits (bound n : Nat) :
    natural? bound (Nat.toDigits 10 n) = if n ≤ bound then some n else none := by
  have hradix := radix?_toDigits n
  have hpadded := isZeroPadded_toDigits n
  have hread := readNatural_toDigits bound n
  obtain ⟨c, r, h, hc, -, -⟩ := exists_toDigits n
  have hplus : c ≠ '+' := ne_of_isDigit hc rfl
  have hminus : c ≠ '-' := ne_of_isDigit hc rfl
  have hsigned : isSigned (c :: r) = false := by simp [isSigned, oneAhead, hplus, hminus]
  rw [h] at hradix hpadded hread ⊢
  unfold natural?
  simp only [List.cons.injEq, hplus, false_and, imp_self, implies_true, hradix, hsigned, hpadded,
    hread, Bool.or_self, Bool.false_eq_true, if_false]
  split <;> rfl

end TransactionGateway.Yaml.Meaning

namespace TransactionGateway

open Text

/-- The word of 32 bits with a value, if there is one. -/
def word32? (n : Nat) : Option UInt32 := if n ≤ largest32 then some (UInt32.ofNat n) else none

/-- The word of 64 bits with a value, if there is one. -/
def word64? (n : Nat) : Option UInt64 := if n ≤ largest64 then some (UInt64.ofNat n) else none

theorem readWord32_toOption (s : List Char) :
    (readWord32 s).toOption = (readNatural 10 largest32 s).toOption.map UInt32.ofNat := by
  unfold readWord32
  split
  · next n h => simp [h, Except.toOption, UInt32.ofNatLT_eq_ofNat]
  · next e h => simp [h, Except.toOption]

theorem readWord64_toOption (s : List Char) :
    (readWord64 s).toOption = (readNatural 10 largest64 s).toOption.map UInt64.ofNat := by
  unfold readWord64
  split
  · next n h => simp [h, Except.toOption, UInt64.ofNatLT_eq_ofNat]
  · next e h => simp [h, Except.toOption]

theorem readWord32_toDigits (n : Nat) : (readWord32 (Nat.toDigits 10 n)).toOption = word32? n := by
  rw [readWord32_toOption, readNatural_toDigits, word32?]
  split <;> rfl

theorem readWord64_toDigits (n : Nat) : (readWord64 (Nat.toDigits 10 n)).toOption = word64? n := by
  rw [readWord64_toOption, readNatural_toDigits, word64?]
  split <;> rfl

end TransactionGateway
