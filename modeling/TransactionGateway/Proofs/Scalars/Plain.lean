import TransactionGateway.Proofs.Scalars.Characters
import TransactionGateway.Yaml.Scalar.Plain

/-! # Plain scalars read back

* **Going on.** A text goes on a plain scalar as long as it holds no break, no hash behind a blank
  and no colon before one (`extendsTo`). Of the text behind it only the next character counts.
* **Reading.** A text that stands as a plain scalar in a line is read to its end, where nothing of
  it is left (`Stands.read_append`); a gap inside the line is part of it (`continued_append`).
* **Ends.** A colon before a blank ends a plain scalar, and so does a line when the next one with
  content is left of the margin (`endsAt_colon`, `endsAt_line`).
* **Written.** A text that fits the plain style goes on to its own end (`Fits.goesOn`). -/

namespace TransactionGateway.Yaml

namespace Plain

variable {inFlow : Bool} {margin : Nat}

/-- A text that goes on a plain scalar to its own end, after a gap inside the line or none. -/
structure GoesOn (afterBlank : Bool) (s : List Char) : Prop where
  shown : Printer.isAllShown s = true
  unbroken : s.any isBreak = false
  noSpaceLast : s.getLast?.any Printer.isSpace = false
  noIndicator : Printer.holdsIndicator afterBlank s = false

theorem GoesOn.head {afterBlank : Bool} {c : Char} {s : List Char}
    (h : GoesOn afterBlank (c :: s)) :
    Printer.isShown c = true ∧ isBreak c = false ∧ ¬(afterBlank = true ∧ c = '#')
      ∧ ¬(c = ':' ∧ blankAhead s = true) := by
  obtain ⟨shown, unbroken, -, indicator⟩ := h
  simp only [Printer.isAllShown, List.all_cons, Bool.and_eq_true] at shown
  simp only [List.any_cons, Bool.or_eq_false_iff] at unbroken
  simp only [Printer.holdsIndicator, Bool.or_eq_false_iff] at indicator
  simp_all

theorem GoesOn.tail {afterBlank : Bool} {c : Char} {s : List Char}
    (h : GoesOn afterBlank (c :: s)) (hs : s ≠ []) : GoesOn (isBlank c) s := by
  have hc := h.head.2.1
  obtain ⟨shown, unbroken, last, indicator⟩ := h
  rw [Printer.holdsIndicator, hc, Bool.or_false, Bool.or_eq_false_iff] at indicator
  simp only [Printer.isAllShown, List.all_cons, Bool.and_eq_true] at shown
  simp only [List.any_cons, Bool.or_eq_false_iff] at unbroken
  obtain ⟨d, s, rfl⟩ := List.exists_cons_of_ne_nil hs
  exact ⟨by simpa [Printer.isAllShown] using shown.2, unbroken.2, by simpa using last, indicator.2⟩

/-- A text goes on a plain scalar up to another text, after a blank or not: it holds no break, no
hash behind a blank, and no colon before one. -/
def extendsTo (after : List Char) : (afterBlank : Bool) → List Char → Bool
  | _, [] => true
  | afterBlank, c :: s =>
    !isBreak c && !(afterBlank && c == '#') && !(c == ':' && blankAhead (s ++ after))
      && extendsTo after (isBlank c) s

theorem blankAhead_append (s after : List Char) :
    blankAhead (s ++ after) = if s = [] then blankAhead after else blankAhead s := by
  cases s <;> rfl

theorem extendsTo_cons {after : List Char} {afterBlank : Bool} {c : Char} {s : List Char} :
    extendsTo after afterBlank (c :: s) = true ↔
      isBreak c = false ∧ ¬(afterBlank = true ∧ c = '#')
        ∧ ¬(c = ':' ∧ blankAhead (s ++ after) = true) ∧ extendsTo after (isBlank c) s = true := by
  simp only [extendsTo, Bool.and_eq_true, Bool.not_eq_true', ← Bool.not_eq_true, beq_iff_eq,
    and_assoc]

theorem unbroken_of_extendsTo {after : List Char} {afterBlank : Bool} {s : List Char}
    (h : extendsTo after afterBlank s = true) : s.any isBreak = false := by
  induction s generalizing afterBlank with
  | nil => rfl
  | cons c s ih =>
    obtain ⟨hbreak, -, -, hs⟩ := extendsTo_cons.mp h
    rw [List.any_cons, hbreak, ih hs, Bool.or_false]

/-- All that counts of the text behind is whether a blank comes next. -/
theorem extendsTo_congr {after after' : List Char} (h : blankAhead after = blankAhead after')
    (afterBlank : Bool) (s : List Char) :
    extendsTo after afterBlank s = extendsTo after' afterBlank s := by
  induction s generalizing afterBlank with
  | nil => rfl
  | cons c s ih => rw [extendsTo, extendsTo, ih, blankAhead_append, blankAhead_append, h]

/-- A text that goes on to its own end does so before any other text. -/
theorem GoesOn.extendsTo {afterBlank : Bool} {s : List Char} (h : GoesOn afterBlank s)
    (after : List Char) : extendsTo after afterBlank s = true := by
  induction s generalizing afterBlank with
  | nil => rfl
  | cons c s ih =>
    obtain ⟨-, hbreak, hhash, hcolon⟩ := h.head
    have hcolon' : ¬(c = ':' ∧ blankAhead (s ++ after) = true) := by
      rw [blankAhead_append]
      split
      · next hs => exact fun hc => hcolon ⟨hc.1, by rw [hs]; rfl⟩
      · exact hcolon
    have htail : Plain.extendsTo after (isBlank c) s = true := by
      by_cases hs : s = []
      · rw [hs, Plain.extendsTo]
      · exact ih (h.tail hs)
    exact extendsTo_cons.mpr ⟨hbreak, hhash, hcolon', htail⟩

theorem GoesOn.last {afterBlank : Bool} {s : List Char} (h : GoesOn afterBlank s) :
    s.getLast?.any isBlank = false := by
  cases hlast : s.getLast? with
  | none => rfl
  | some c =>
    have hshown := List.all_eq_true.mp h.shown c (List.mem_of_getLast? hlast)
    have hspace := h.noSpaceLast
    rw [hlast, Option.any_some] at hspace
    rw [Option.any_some]
    cases hb : isBlank c with
    | false => rfl
    | true => simp [Printer.eq_space_of_isBlank hshown hb, Printer.isSpace] at hspace

/-- Nothing more of a scalar stands at the beginning of a text, which is left as `rest`. -/
def EndsAt (margin : Nat) (endsLine : Bool) (s rest : List Char) : Prop :=
  continued false margin .empty s = .ok ⟨[], endsLine, rest⟩

theorem continued_append {endsLine : Bool} {after rest : List Char}
    (hafter : EndsAt margin endsLine after rest) (s kept : List Char)
    (hs : extendsTo after (!kept.isEmpty) s = true) (hlast : s.getLast?.any isBlank = false)
    (hne : s ≠ []) :
    continued false margin (.blanks kept) (s ++ after) = .ok ⟨kept ++ s, endsLine, rest⟩ := by
  induction s generalizing kept with
  | nil => exact absurd rfl hne
  | cons c s ih =>
    obtain ⟨hbreak, hhash, hcolon, htail⟩ := extendsTo_cons.mp hs
    have hlast' : s ≠ [] → s.getLast?.any isBlank = false := fun hs' => by
      obtain ⟨d, s, rfl⟩ := List.exists_cons_of_ne_nil hs'
      simpa using hlast
    rw [List.cons_append, continued, hbreak]
    simp only [Bool.false_eq_true, if_false]
    by_cases hblank : isBlank c = true
    · -- A blank is not the last character, so the gap goes on to the next one.
      have hs' : s ≠ [] := by
        rintro rfl
        simp [hblank] at hlast
      have htab : ¬(c == '\t' && (Gap.blanks kept).endsBefore margin) = true := by
        simp [Gap.endsBefore]
      have := ih (kept ++ [c]) (by cases kept <;> simpa [hblank] using htail) (hlast' hs') hs'
      rw [if_pos hblank, if_neg htab, Gap.withBlank, this]
      simp
    · have hgap : endsAfterGap false margin (.blanks kept) (c :: (s ++ after)) = false := by
        simp [endsAfterGap, Gap.isEmpty, Gap.endsBefore, Gap.endsAtLineStart] at hhash ⊢
        exact hhash
      have hword : endsWord false (c :: (s ++ after)) = false := by
        simpa [endsWord] using hcolon
      have hbad : isBadColon false (c :: (s ++ after)) = false := by
        unfold isBadColon; split <;> simp
      simp only [hblank, hgap, hword, hbad, Bool.false_eq_true, if_false]
      by_cases hs' : s = []
      · subst hs'
        rw [List.nil_append, hafter]
        simp [Except.map, Gap.text]
      · have := ih [] (by simpa [hblank] using htail) (hlast' hs') hs'
        rw [Gap.empty, this]
        simp [Except.map, Gap.text]

/-- A text stands as a plain scalar in a line, before another text. -/
structure Stands (s after : List Char) : Prop where
  ne_nil : s ≠ []
  begins : mayBegin false (s ++ after) = true
  unmarked : s.head? ≠ some '\ufeff'
  goesOn : extendsTo after false s = true
  last : s.getLast?.any isBlank = false

instance (s after : List Char) : Decidable (Stands s after) :=
  decidable_of_iff (s ≠ [] ∧ mayBegin false (s ++ after) = true ∧ s.head? ≠ some '\ufeff'
      ∧ extendsTo after false s = true ∧ s.getLast?.any isBlank = false)
    ⟨fun ⟨h₁, h₂, h₃, h₄, h₅⟩ => ⟨h₁, h₂, h₃, h₄, h₅⟩,
      fun ⟨h₁, h₂, h₃, h₄, h₅⟩ => ⟨h₁, h₂, h₃, h₄, h₅⟩⟩

theorem mayBegin_congr {after after' : List Char} (h : blankAhead after = blankAhead after')
    (c : Char) (s : List Char) :
    mayBegin inFlow (c :: (s ++ after)) = mayBegin inFlow (c :: (s ++ after')) := by
  have hbehind : blankAhead (s ++ after) = blankAhead (s ++ after') := by
    rw [blankAhead_append, blankAhead_append, h]
  by_cases hdash : c = '-'
  · rw [hdash, mayBegin, mayBegin, hbehind]
  · rw [mayBegin.eq_3 _ _ _ (by simpa using hdash), mayBegin.eq_3 _ _ _ (by simpa using hdash),
      hbehind]

/-- All that counts of the text behind is whether a blank comes next. -/
theorem Stands.congr {s after after' : List Char} (hs : Stands s after)
    (h : blankAhead after = blankAhead after') : Stands s after' where
  ne_nil := hs.ne_nil
  begins := by
    obtain ⟨c, r, rfl⟩ := List.exists_cons_of_ne_nil hs.ne_nil
    exact (mayBegin_congr h c r).symm.trans hs.begins
  unmarked := hs.unmarked
  goesOn := (extendsTo_congr h false s).symm.trans hs.goesOn
  last := hs.last

/-- A text that stands as a plain scalar is read to its end. -/
theorem Stands.read_append {endsLine : Bool} {s after rest : List Char} (h : Stands s after)
    (hafter : EndsAt margin endsLine after rest) :
    read false margin (s ++ after) = .ok ⟨s, endsLine, rest⟩ :=
  continued_append hafter s [] h.goesOn h.last h.ne_nil

/-- A text that fits the plain style begins a scalar and goes on to its own end. -/
structure Fits (s : List Char) : Prop where
  fits : Printer.fitsPlain s = true
  ne_nil : s ≠ []

theorem Fits.head {c : Char} {s : List Char} (h : Fits (c :: s)) :
    Printer.isShown c = true ∧ isBlank c = false ∧ isBreak c = false
      ∧ Printer.beginsWithIndicator (c :: s) = false := by
  have hfits := h.fits
  simp only [Printer.fitsPlain, Printer.isAllShown, Bool.and_eq_true, List.all_cons,
    List.any_cons, Bool.not_eq_true', Bool.or_eq_false_iff, List.head?_cons, Option.any_some]
    at hfits
  obtain ⟨⟨⟨⟨⟨⟨hshown, -⟩, hbreak, -⟩, hspace⟩, -⟩, hbegins⟩, -⟩ := hfits
  refine ⟨hshown, ?_, hbreak, hbegins⟩
  cases hb : isBlank c with
  | false => rfl
  | true => simp [Printer.eq_space_of_isBlank hshown hb, Printer.isSpace] at hspace

theorem Fits.goesOn {s : List Char} (h : Fits s) : GoesOn false s := by
  obtain ⟨c, s, rfl⟩ := List.exists_cons_of_ne_nil h.ne_nil
  obtain ⟨-, hblank, hbreak, hbegins⟩ := h.head
  have hfits := h.fits
  simp only [Printer.fitsPlain, Bool.and_eq_true, Bool.not_eq_true', List.drop_one,
    List.tail_cons] at hfits
  obtain ⟨⟨⟨⟨⟨hshown, hunbroken⟩, -⟩, hlast⟩, -⟩, hholds⟩ := hfits
  refine ⟨hshown, hunbroken, hlast, ?_⟩
  have hcolon : (c == ':' && blankAhead s) = false := by
    simp only [Printer.beginsWithIndicator, Bool.or_eq_false_iff] at hbegins
    simpa using fun hc : c = ':' => by simpa [hc] using hbegins.1.1.2
  simpa [Printer.holdsIndicator, hblank, hbreak, hcolon] using hholds

/-- Blanks in a line, behind which a colon or the end comes. -/
theorem continued_blanks (margin : Nat) {pad : List Char} (hpad : AllBlank pad)
    (kept s : List Char) :
    continued false margin (.blanks kept) (pad ++ s)
      = continued false margin (.blanks (kept ++ pad)) s := by
  induction pad generalizing kept with
  | nil => simp
  | cons c pad ih =>
    have hc := hpad c (by simp)
    have htab : ¬(c == '\t' && (Gap.blanks kept).endsBefore margin) = true := by
      simp [Gap.endsBefore]
    rw [List.cons_append, continued, if_neg (by simp [not_isBreak_of_isBlank hc]), if_pos hc,
      if_neg htab, Gap.withBlank, ih fun d hd => hpad d (by simp [hd])]
    simp

theorem endsAt_colon {pad s : List Char} (hpad : AllBlank pad)
    (h : blankAhead s = true) : EndsAt margin false (pad ++ ':' :: s) (':' :: s) := by
  rw [EndsAt, Gap.empty, continued_blanks margin hpad]
  simp [continued, isBreak, isBlank, endsAfterGap, Gap.endsBefore, Gap.endsAtLineStart, isBadColon,
    endsWord, h, Gap.isBroken]

theorem continued_spaces (margin : Nat) (first : Option Char) (more s : List Char)
    (k column : Nat) :
    continued false margin (.lines first more column) (List.replicate k ' ' ++ s)
      = continued false margin (.lines first more (column + k)) s := by
  induction k generalizing column with
  | zero => rfl
  | succ k ih =>
    have := ih (column + 1)
    rw [Nat.add_assoc, Nat.add_comm 1 k] at this
    simpa [List.replicate_succ, continued, isBreak, isBlank, Gap.withBlank] using this

theorem continued_indentation (first : Option Char) (more : List Char) {rest : List Char}
    (hrest : ContentAhead rest) (k column : Nat) (hk : column + k < margin) :
    continued false margin (.lines first more column) (List.replicate k ' ' ++ rest)
      = .ok ⟨[], true, rest⟩ := by
  rw [continued_spaces]
  cases rest with
  | nil => simp [continued, Gap.isBroken]
  | cons c r =>
    obtain ⟨hblank, hbreak⟩ := hrest c rfl
    simp [continued, hblank, hbreak, endsAfterGap, Gap.isEmpty, Gap.endsBefore, Gap.isBroken, hk]

/-- A line ends a scalar when the next one with content is left of the margin. -/
theorem endsAt_line {k : Nat} {rest : List Char} (hrest : ContentAhead rest) (hk : k < margin) :
    EndsAt margin true ('\n' :: (List.replicate k ' ' ++ rest)) rest := by
  simp only [EndsAt, continued, isBreak, beq_self_eq_true, Bool.true_or, if_true]
  exact continued_indentation _ _ hrest k 0 (by omega)

end Plain

end TransactionGateway.Yaml
