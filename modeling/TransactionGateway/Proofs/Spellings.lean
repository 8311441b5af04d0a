import Mathlib.Data.List.DropRight
import TransactionGateway.Proofs.Numerals
import TransactionGateway.Text.Blank

/-! # Spellings of numbers and truth values

What a text means when it is set as a limit, said without the functions that read it.

* **Padding.** A text is padded when there are blanks before and after it and none at its own ends
  (`Padded`). Trimming finds the text that is padded (`trim_eq_iff`).
* **Numbers.** A number is spelled by its decimal digits, behind as many zeros as one likes and at
  most one plus sign (`Spells`). A reader with a bound accepts the numbers within it
  (`readNatural_eq_ok_iff`).
* **Refusals.** All other texts are misspelled, each in one way (`Misspells`): there is nothing to
  read, a character is no digit, or the number is beyond the bound. The fault that stands first in
  the text counts (`readNatural_eq_error_iff`).
* **Readers.** A reader of a type agrees with a meaning of texts (`Meaning.ReadBy`). The limits of a
  pool have three such readers: words of 32 and 64 bits and truth values. -/

namespace TransactionGateway.Text

/-! ### Padding -/

/-- The text `raw` is `s` between blanks, and the ends of `s` are not blank themselves. -/
structure Padded (s raw : List Char) : Prop where
  between : ∃ before after,
    allBlank before = true ∧ allBlank after = true ∧ raw = before ++ s ++ after
  first : ∀ c ∈ s.head?, isBlank c = false
  last : ∀ c ∈ s.getLast?, isBlank c = false

theorem trimStart_append {before : List Char} (h : allBlank before = true) (s : List Char) :
    trimStart (before ++ s) = trimStart s :=
  List.dropWhile_append_of_pos (List.all_eq_true.mp h)

theorem trimEnd_append {after : List Char} (h : allBlank after = true) (s : List Char) :
    trimEnd (s ++ after) = trimEnd s := by
  have hafter : ∀ c ∈ after.reverse, isBlank c = true := by simpa [allBlank] using h
  rw [trimEnd, List.reverse_append, List.dropWhile_append_of_pos hafter, trimEnd]

theorem trimEnd_of_last {s : List Char} (h : ∀ c ∈ s.getLast?, isBlank c = false) :
    trimEnd s = s := by
  refine List.rdropWhile_eq_self_iff.mpr fun hne => ?_
  simp [h _ (List.getLast?_eq_some_getLast hne)]

theorem Padded.trim_eq {s raw : List Char} (h : Padded s raw) : trim raw = s := by
  obtain ⟨⟨before, after, hbefore, hafter, rfl⟩, hfirst, hlast⟩ := h
  rw [trim, List.append_assoc, trimStart_append hbefore]
  cases s with
  | nil =>
    have hnone : trimStart after = [] := (trimStart_eq_nil_iff after).mpr hafter
    rw [List.nil_append, hnone]
    rfl
  | cons c s =>
    have hkept : trimStart (c :: s ++ after) = c :: s ++ after := by
      simp [trimStart, hfirst c rfl]
    rw [hkept, trimEnd_append hafter, trimEnd_of_last hlast]

theorem padded_trim (raw : List Char) : Padded (trim raw) raw where
  between := by
    refine ⟨raw.takeWhile isBlank, (trimStart raw).rtakeWhile isBlank, List.all_takeWhile, ?_, ?_⟩
    · exact List.all_eq_true.mpr fun c hc => List.mem_rtakeWhile_imp hc
    · calc raw = raw.takeWhile isBlank ++ trimStart raw := List.takeWhile_append_dropWhile.symm
        _ = raw.takeWhile isBlank ++ (trim raw ++ (trimStart raw).rtakeWhile isBlank) := by
          rw [trim]
          exact congrArg _ (List.rdropWhile_append_rtakeWhile).symm
        _ = _ := (List.append_assoc _ _ _).symm
  first c hc := by
    obtain ⟨after, hafter⟩ := List.rdropWhile_prefix isBlank (trimStart raw)
    have hahead : (raw.dropWhile isBlank).head? = some c := by
      rw [← show trim raw ++ after = raw.dropWhile isBlank from hafter, List.head?_append, hc]
      rfl
    simpa [hahead] using List.head?_dropWhile_not isBlank raw
  last c hc := by
    have hne : trim raw ≠ [] := by
      intro h
      simp [h] at hc
    rw [List.getLast?_eq_some_getLast hne, Option.mem_some_iff] at hc
    rw [← hc]
    exact Bool.eq_false_iff.mpr (List.rdropWhile_last_not isBlank (trimStart raw) hne)

theorem trim_eq_iff {raw s : List Char} : trim raw = s ↔ Padded s raw :=
  ⟨fun h => h ▸ padded_trim raw, Padded.trim_eq⟩

theorem trim_of_not_blank {s : List Char} (h : ∀ c ∈ s, isBlank c = false) : trim s = s :=
  Padded.trim_eq
    { between := ⟨[], [], rfl, rfl, by simp⟩
      first := fun c hc => h c (List.mem_of_head? hc)
      last := fun c hc => h c (List.mem_of_getLast? hc) }

theorem Padded.allBlank_eq_false {s raw : List Char} (h : Padded s raw) (hs : s ≠ []) :
    allBlank s = false := by
  obtain ⟨c, s, rfl⟩ := List.exists_cons_of_ne_nil hs
  simp [allBlank, h.first c rfl]

/-! ### Numbers -/

/-- The number of a text: that of its digits, at least one, behind at most one plus sign. -/
inductive Spells : List Char → Nat → Prop
  | digits {s : List Char} (hne : s ≠ []) (h : ∀ c ∈ s, c.isDigit = true) :
    Spells s (Nat.ofDigitChars 10 s 0)
  | signed {s : List Char} (hne : s ≠ []) (h : ∀ c ∈ s, c.isDigit = true) :
    Spells ('+' :: s) (Nat.ofDigitChars 10 s 0)

example : Spells "+007".toList 7 :=
  .signed (s := ['0', '0', '7']) (by decide) (List.all_eq_true.mp rfl)

/-- The fault that stands first in a text that spells no number of at most `bound`. -/
inductive Misspells (bound : Nat) : List Char → NumeralError → Prop
  | empty : Misspells bound [] .empty
  | unsigned {c : Char} {rest : List Char} (hc : c.isDigit = false) (hplus : c ≠ '+') :
    Misspells bound (c :: rest) .invalidDigit
  | signed {rest : List Char} (hrest : ∀ c ∈ rest.head?, c.isDigit = false) :
    Misspells bound ('+' :: rest) .invalidDigit
  | later {s : List Char} {n : Nat} {c : Char} {rest : List Char} (h : Spells s n) (hn : n ≤ bound)
    (hc : c.isDigit = false) : Misspells bound (s ++ c :: rest) .invalidDigit
  | large {s : List Char} {n : Nat} {rest : List Char} (h : Spells s n) (hn : bound < n) :
    Misspells bound (s ++ rest) .tooLarge

theorem readNatural_append {bound n : Nat} {s : List Char} (h : Spells s n) (rest : List Char) :
    readNatural 10 bound (s ++ rest)
      = if n ≤ bound then readDigits 10 bound .tooLarge n rest else .error .tooLarge := by
  cases h with
  | digits hne h =>
    obtain ⟨c, s, rfl⟩ := List.exists_cons_of_ne_nil hne
    rw [List.cons_append, readNatural_of_isDigit (h c (by simp)), ← List.cons_append,
      readDigits_append h (Nat.zero_le bound)]
  | @signed s hne h =>
    rw [List.cons_append, readNatural_of_plus _ (by simp [hne]),
      readDigits_append h (Nat.zero_le bound)]

theorem readNatural_of_spells {bound n : Nat} {s : List Char} (h : Spells s n) (hn : n ≤ bound) :
    readNatural 10 bound s = .ok n := by
  rw [← List.append_nil s, readNatural_append h, if_pos hn, readDigits]

theorem readDigits_of_not_isDigit {c : Char} (hc : c.isDigit = false) (bound acc : Nat)
    (e : NumeralError) (rest : List Char) :
    readDigits 10 bound e acc (c :: rest) = .error .invalidDigit := by
  rw [readDigits, digitValue?_of_not_isDigit hc]

theorem readNatural_of_misspells {bound : Nat} {s : List Char} {e : NumeralError}
    (h : Misspells bound s e) : readNatural 10 bound s = .error e := by
  cases h with
  | empty => rfl
  | unsigned hc hplus =>
    rw [readNatural_of_ne_plus hplus, readDigits_of_not_isDigit hc]
  | @signed rest hrest =>
    cases rest with
    | nil => rfl
    | cons c rest =>
      rw [readNatural_of_plus _ (by simp), readDigits_of_not_isDigit (hrest c rfl)]
  | later h hn hc => rw [readNatural_append h, if_pos hn, readDigits_of_not_isDigit hc]
  | large h hn => rw [readNatural_append h, if_neg (by omega)]

/-- The digits at the beginning of a text that begins with one. -/
theorem exists_digits {c : Char} (hc : c.isDigit = true) (s : List Char) :
    ∃ digits rest, c :: s = digits ++ rest ∧ digits ≠ [] ∧ (∀ d ∈ digits, d.isDigit = true)
      ∧ ∀ d ∈ rest.head?, d.isDigit = false := by
  refine ⟨(c :: s).takeWhile Char.isDigit, (c :: s).dropWhile Char.isDigit,
    List.takeWhile_append_dropWhile.symm, by simp [hc], List.all_eq_true.mp List.all_takeWhile, ?_⟩
  intro d hd
  simpa [show ((c :: s).dropWhile Char.isDigit).head? = some d from hd]
    using List.head?_dropWhile_not Char.isDigit (c :: s)

theorem spells_or_misspells_append (bound : Nat) {s rest : List Char} {n : Nat} (h : Spells s n)
    (hrest : ∀ c ∈ rest.head?, c.isDigit = false) :
    (∃ m, Spells (s ++ rest) m ∧ m ≤ bound) ∨ ∃ e, Misspells bound (s ++ rest) e := by
  by_cases hn : n ≤ bound
  · cases rest with
    | nil => exact .inl ⟨n, by rwa [List.append_nil], hn⟩
    | cons c rest => exact .inr ⟨_, .later h hn (hrest c rfl)⟩
  · exact .inr ⟨_, .large h (by omega)⟩

theorem spells_or_misspells (bound : Nat) (s : List Char) :
    (∃ n, Spells s n ∧ n ≤ bound) ∨ ∃ e, Misspells bound s e := by
  cases s with
  | nil => exact .inr ⟨_, .empty⟩
  | cons c s =>
    by_cases hc : c.isDigit = true
    · obtain ⟨digits, rest, hs, hne, hdigits, hrest⟩ := exists_digits hc s
      rw [hs]
      exact spells_or_misspells_append bound (.digits hne hdigits) hrest
    rw [Bool.not_eq_true] at hc
    by_cases hplus : c = '+'
    · subst hplus
      cases s with
      | nil => exact .inr ⟨_, .signed (by simp)⟩
      | cons d s =>
        by_cases hd : d.isDigit = true
        · obtain ⟨digits, rest, hs, hne, hdigits, hrest⟩ := exists_digits hd s
          rw [hs]
          exact spells_or_misspells_append bound (.signed hne hdigits) hrest
        · exact .inr ⟨_, .signed (by simpa using hd)⟩
    · exact .inr ⟨_, .unsigned hc hplus⟩

/-- A reader with a bound accepts the spellings of the numbers within it, as these numbers. -/
theorem readNatural_eq_ok_iff {bound n : Nat} {s : List Char} :
    readNatural 10 bound s = .ok n ↔ Spells s n ∧ n ≤ bound := by
  refine ⟨fun h => ?_, fun ⟨h, hn⟩ => readNatural_of_spells h hn⟩
  obtain ⟨m, hs, hm⟩ | ⟨e, hs⟩ := spells_or_misspells bound s
  · rw [readNatural_of_spells hs hm, Except.ok.injEq] at h
    exact h ▸ ⟨hs, hm⟩
  · rw [readNatural_of_misspells hs] at h
    cases h

/-- It refuses every other text, for the fault that stands first. -/
theorem readNatural_eq_error_iff {bound : Nat} {s : List Char} {e : NumeralError} :
    readNatural 10 bound s = .error e ↔ Misspells bound s e := by
  refine ⟨fun h => ?_, readNatural_of_misspells⟩
  obtain ⟨m, hs, hm⟩ | ⟨e', hs⟩ := spells_or_misspells bound s
  · rw [readNatural_of_spells hs hm] at h
    cases h
  · rw [readNatural_of_misspells hs, Except.error.injEq] at h
    exact h ▸ hs

/-! ### Meanings -/

/-- What texts mean as values of a type, and the faults of the texts that mean nothing. -/
structure Meaning (α : Type) where
  means : List Char → α → Prop
  faulty : List Char → NumeralError → Prop

namespace Meaning

/-- Numbers of at most `bound`, as values of a type that has just these. -/
def number {α : Type} (value : α → Nat) (bound : Nat) : Meaning α :=
  ⟨fun s a => Spells s (value a), Misspells bound⟩

/-- Words of 32 bits. -/
def word32 : Meaning UInt32 := number UInt32.toNat largest32

/-- Words of 64 bits. -/
def word64 : Meaning UInt64 := number UInt64.toNat largest64

/-- Truth values, by their names. -/
def truth : Meaning Bool where
  means s b := s = if b then "true".toList else "false".toList
  faulty s e := s ≠ "true".toList ∧ s ≠ "false".toList ∧ e = .notTruthValue

/-- A reader finds the meaning of every text that has one, and the fault of every other. -/
structure ReadBy {α : Type} (m : Meaning α) (read : List Char → Except NumeralError α) : Prop where
  ok_iff : ∀ s a, read s = .ok a ↔ m.means s a
  error_iff : ∀ s e, read s = .error e ↔ m.faulty s e

theorem readBy_number {α : Type} {value : α → Nat} {bound : Nat}
    {read : List Char → Except NumeralError α} (hvalue : ∀ a, value a ≤ bound)
    (hok : ∀ s a, read s = .ok a ↔ readNatural 10 bound s = .ok (value a))
    (herror : ∀ s e, read s = .error e ↔ readNatural 10 bound s = .error e) :
    (number value bound).ReadBy read where
  ok_iff s a := by rw [hok, readNatural_eq_ok_iff, and_iff_left (hvalue a), number]
  error_iff s e := by rw [herror, readNatural_eq_error_iff, number]

theorem readBy_readWord32 : word32.ReadBy readWord32 := by
  refine readBy_number (fun w => Nat.le_of_lt_succ w.toNat_lt) (fun s w => ?_) fun s e => ?_
  · unfold readWord32
    split
    · next n h =>
      have hvalue : readNatural 10 largest32 s = .ok w.toNat ↔ n = w.toNat := by
        rw [h, Except.ok.injEq]
      rw [hvalue, Except.ok.injEq, ← UInt32.toNat_inj, UInt32.toNat_ofNatLT]
    · next h => simp [h]
  · unfold readWord32
    split <;> next h => simp [h]

theorem readBy_readWord64 : word64.ReadBy readWord64 := by
  refine readBy_number (fun w => Nat.le_of_lt_succ w.toNat_lt) (fun s w => ?_) fun s e => ?_
  · unfold readWord64
    split
    · next n h =>
      have hvalue : readNatural 10 largest64 s = .ok w.toNat ↔ n = w.toNat := by
        rw [h, Except.ok.injEq]
      rw [hvalue, Except.ok.injEq, ← UInt64.toNat_inj, UInt64.toNat_ofNatLT]
    · next h => simp [h]
  · unfold readWord64
    split <;> next h => simp [h]

theorem readBy_readBool : truth.ReadBy readBool := by
  refine ⟨fun s b => ?_, fun s e => ?_⟩
  · unfold readBool truth
    split
    · next ht => cases b <;> simp [ht]
    · next ht =>
      split
      · next hf => cases b <;> simp [hf]
      · next hf =>
        cases b with
        | false => simpa using hf
        | true => simpa using ht
  · unfold readBool truth
    split
    · next ht => simp [ht]
    · next ht =>
      split
      · next hf => simp [hf]
      · next hf =>
        exact ⟨fun h => ⟨ht, hf, (Except.error.inj h).symm⟩, fun h => congrArg _ h.2.2.symm⟩

end Meaning

end TransactionGateway.Text
