import TransactionGateway.Yaml.Scalar.Printer

/-! # Characters of scalars

* **Kept.** A character is kept when a text may hold it and does not replace it (`IsKept`); so a text
  of kept characters is read as it stands. All that the printer shows is kept.
* **Blanks and breaks.** A blank is no break; the only blank that is shown is the space. -/

namespace TransactionGateway.Yaml

/-- A character that a text may hold and keeps as it is. -/
def IsKept (c : Char) : Prop := isReadable c = true ∧ c ≠ '\r' ∧ c ≠ '\u0085'

instance : DecidablePred IsKept := fun c =>
  inferInstanceAs (Decidable (isReadable c = true ∧ c ≠ '\r' ∧ c ≠ '\u0085'))

/-- A text of characters that are all kept. -/
def AllKept (s : List Char) : Prop := ∀ c ∈ s, IsKept c

instance : DecidablePred AllKept := fun s => List.decidableBAll IsKept s

@[simp] theorem allKept_nil : AllKept [] := by simp [AllKept]

@[simp] theorem allKept_cons {c : Char} {s : List Char} :
    AllKept (c :: s) ↔ IsKept c ∧ AllKept s := by simp [AllKept]

@[simp] theorem allKept_append {s t : List Char} :
    AllKept (s ++ t) ↔ AllKept s ∧ AllKept t := by
  simp [AllKept, or_imp, forall_and]

theorem withPlainBreaks_of_kept {s : List Char} (h : AllKept s) :
    withPlainBreaks s = s := by
  induction s using withPlainBreaks.induct with
  | case1 s _ => exact absurd rfl (h '\r' (by simp)).2.1
  | case2 c s hs ih =>
    obtain ⟨-, hr, hn⟩ := h c (by simp)
    rw [withPlainBreaks.eq_2 _ _ hs, ih fun d hd => h d (by simp [hd])]
    simp [hr, hn]
  | case3 => rfl

theorem ne_of_isBreak {c d : Char} (h : isBreak c = true) (hd : isBreak d = false) : c ≠ d := by
  rintro rfl
  simp [h] at hd

theorem toNat_valid (c : Char) :
    c.toNat < 0xD800 ∨ 0xDFFF < c.toNat ∧ c.toNat < 0x110000 := c.valid

/-- Only blanks of a line. -/
def AllBlank (s : List Char) : Prop := ∀ c ∈ s, isBlank c = true

theorem allBlank_nil : AllBlank [] := by simp [AllBlank]

theorem allBlank_space : AllBlank [' '] := by simp [AllBlank, isBlank]

theorem not_isBreak_of_isBlank {c : Char} (h : isBlank c = true) : isBreak c = false := by
  rcases (by simpa [isBlank] using h : c = ' ' ∨ c = '\t') with rfl | rfl <;> rfl

theorem AllBlank.unbroken {s : List Char} (h : AllBlank s) : s.any isBreak = false :=
  List.any_eq_false.mpr fun c hc => by simp [not_isBreak_of_isBlank (h c hc)]

/-- Content comes next, or the end. -/
def ContentAhead (s : List Char) : Prop := ∀ c ∈ s.head?, isBlank c = false ∧ isBreak c = false

namespace Printer

theorem isKept_of_isShown {c : Char} (h : isShown c = true) : IsKept c := by
  have hvalid := toNat_valid c
  refine ⟨?_, ?_, ?_⟩
  · simp only [isShown, Bool.or_eq_true, Bool.and_eq_true, decide_eq_true_eq, beq_iff_eq,
      bne_iff_ne] at h
    simp only [isReadable, Bool.or_eq_true, Bool.and_eq_true, decide_eq_true_eq, beq_iff_eq]
    omega
  · rintro rfl; exact absurd h (by decide)
  · rintro rfl; exact absurd h (by decide)

theorem hasPair_cons (p q : Char → Bool) (c : Char) (s : List Char) :
    hasPair p q (c :: s) = (p c && s.head?.any q || hasPair p q s) := by
  cases s <;> simp [hasPair]

theorem not_tab_of_isShown {c : Char} (h : isShown c = true) : c ≠ '\t' := by
  rintro rfl; exact absurd h (by decide)

theorem eq_space_of_isBlank {c : Char} (h : isShown c = true) (hb : isBlank c = true) :
    c = ' ' := by
  simpa [isBlank, not_tab_of_isShown h] using hb

theorem allKept_of_isAllShown {s : List Char} (h : isAllShown s = true) : AllKept s :=
  fun c hc => isKept_of_isShown (List.all_eq_true.mp h c hc)

end Printer

end TransactionGateway.Yaml
