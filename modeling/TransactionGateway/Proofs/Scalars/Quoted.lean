import Mathlib.Algebra.Group.Nat.Defs
import TransactionGateway.Proofs.Scalars.Characters
import TransactionGateway.Yaml.Scalar.Quoted

/-! # Quoted scalars read back

* **Single quotes.** They give back the breaks that they fold, since every line after a break is
  indented and no space stands beside a break (`ReadsBack`). A text without breaks only has its
  quotes doubled (`single_doubled`).
* **Double quotes.** They hold no break at all, and each escape is that of its character
  (`escaped_eq`).
* **Kept.** What is written between the quotes is kept. -/

namespace TransactionGateway.Yaml

/-! ### Single quotes -/

namespace Gap

/-- The gap after a written break: what it stands for grows by every further break. -/
def IsOpen : Gap → Prop
  | blanks _ => False
  | lines first more column => column = 0 ∧ (first = some '\n' → more ≠ [])

theorem IsOpen.withBreak {g : Gap} (h : g.IsOpen) (c : Char) :
    (g.withBreak c).IsOpen ∧ (g.withBreak c).text = g.text ++ [c] := by
  obtain _ | ⟨first, more, column⟩ := g
  · exact h.elim
  · obtain ⟨-, hmore⟩ := h
    refine ⟨⟨rfl, by simp⟩, ?_⟩
    cases first with
    | none => simp [Gap.withBreak, text]
    | some d => by_cases hd : d = '\n' <;> simp_all [Gap.withBreak, text]

end Gap

namespace Quoted

open Printer

/-- The text behind a closing quote does not make that quote a written one. -/
def Closes (rest : List Char) : Prop := rest.head? ≠ some '\''

theorem single_close {rest : List Char} (h : Closes rest) (g : Gap) :
    single g ('\'' :: rest) = .ok (g.text, rest) := by
  rw [single.eq_def]
  cases rest with
  | nil => rfl
  | cons c r =>
    have hc : c ≠ '\'' := fun h' => h (by simp [h'])
    simp only [if_true]
    split
    · next heq => simp_all
    · rfl

theorem single_blank {c : Char} (h : isBlank c = true) (g : Gap) (s : List Char) :
    single g (c :: s) = single (g.withBlank c) s := by
  have hquote : c ≠ '\'' := by
    rintro rfl
    simp [isBlank] at h
  rw [single.eq_def]
  simp [hquote, not_isBreak_of_isBlank h, h]

theorem single_break {c : Char} (h : isBreak c = true) (g : Gap) (s : List Char) :
    single g (c :: s) = single (g.withBreak c) s := by
  rw [single.eq_def]; simp [ne_of_isBreak h (d := '\'') rfl, h]

/-- The indentation of a line, in a gap that ends at its beginning. -/
theorem single_indentation {g : Gap} (h : g.IsOpen) (s : List Char) :
    ∃ g' : Gap, g'.endsAtLineStart = false ∧ g'.text = g.text
      ∧ single g (indentation ++ s) = single g' s := by
  obtain _ | ⟨first, more, column⟩ := g
  · exact h.elim
  · exact ⟨.lines first more (column + 1 + 1), rfl, by cases first <;> rfl, by
      rw [indentation, List.cons_append, List.cons_append, List.nil_append, single_blank rfl,
        single_blank rfl]
      rfl⟩

/-- The first break of a gap, as it is written, leaves a gap that stands for it. -/
theorem single_firstBreak {c : Char} (h : isBreak c = true) (s : List Char) :
    ∃ g : Gap, g.IsOpen ∧ g.text = [c]
      ∧ single (.blanks []) ((if c = '\n' then ['\n'] else []) ++ c :: s) = single g s := by
  by_cases hc : c = '\n'
  · subst hc
    refine ⟨.lines (some '\n') ['\n'] 0, ⟨rfl, by simp⟩, by simp [Gap.text], ?_⟩
    rw [if_pos rfl, List.singleton_append, single_break h, single_break h]
    rfl
  · refine ⟨.lines (some c) [] 0, ⟨rfl, by simp [hc]⟩, by simp [Gap.text, hc], ?_⟩
    rw [if_neg hc, List.nil_append, single_break h]
    rfl

/-- One character that is neither a blank nor a break. -/
theorem single_char {g : Gap} {c : Char} (hg : g.endsAtLineStart = false)
    (hblank : isBlank c = false) (hbreak : isBreak c = false) (s : List Char) :
    single g ((if c = '\'' then ['\'', '\''] else [c]) ++ s)
      = after (g.text ++ [c]) (single .empty s) := by
  by_cases hc : c = '\''
  · subst hc
    rw [single.eq_def]; simp
  · rw [single.eq_def]; simp [hc, hblank, hbreak, hg]

theorem after_ok (t u rest : List Char) : after t (.ok (u, rest)) = .ok (t ++ u, rest) := rfl

/-- A text in single quotes is read to its own end after a gap that goes with it: a gap that ends
with a break, which no space follows, or a gap inside a line, which no break follows if it holds a
space. -/
structure ReadsBack (rest s : List Char) : Prop where
  afterBreak : ∀ g : Gap, g.IsOpen → s.head?.any isSpace = false →
    single g (singleBody true s ++ '\'' :: rest) = .ok (g.text ++ s, rest)
  inLine : ∀ kept : List Char, (kept ≠ [] → s.head?.any isBreak = false) →
    single (.blanks kept) (singleBody false s ++ '\'' :: rest) = .ok (kept ++ s, rest)

namespace ReadsBack

variable {c : Char} {rest s : List Char}

theorem nil (hrest : Closes rest) : ReadsBack rest [] where
  afterBreak g hg _ := by
    obtain ⟨g', -, htext, hg'⟩ := single_indentation hg ('\'' :: rest)
    simp only [singleBody, if_true]
    rw [hg', single_close hrest, htext, List.append_nil]
  inLine kept _ := by simp [singleBody, single_close hrest, Gap.text]

theorem cons_break (h : ReadsBack rest s) (hbreak : isBreak c = true)
    (hnext : s.head?.any isSpace = false) : ReadsBack rest (c :: s) where
  afterBreak g hg _ := by
    obtain ⟨hopen, htext⟩ := hg.withBreak c
    simp only [singleBody, hbreak, if_true, Bool.not_true, Bool.false_eq_true, and_false,
      if_false, List.nil_append, List.cons_append]
    rw [single_break hbreak, h.afterBreak _ hopen hnext, htext, List.append_assoc,
      List.singleton_append]
  inLine kept hkept := by
    obtain rfl : kept = [] := by simpa [hbreak] using mt hkept
    obtain ⟨g, hopen, htext, hg⟩ := single_firstBreak hbreak (singleBody true s ++ '\'' :: rest)
    simp only [singleBody, hbreak, if_true, Bool.not_false, and_true, List.append_assoc,
      List.cons_append]
    rw [hg, h.afterBreak g hopen hnext, htext]
    rfl

theorem cons_char (h : ReadsBack rest s) (hshown : isShown c = true) (hbreak : isBreak c = false)
    (hnext : isSpace c = true → s.head?.any isBreak = false) : ReadsBack rest (c :: s) where
  afterBreak g hg hspace := by
    have hblank : isBlank c = false := by
      cases hb : isBlank c with
      | false => rfl
      | true => simp [eq_space_of_isBlank hshown hb, isSpace] at hspace
    obtain ⟨g', hstart, htext, hg'⟩ :=
      single_indentation hg ((if c = '\'' then ['\'', '\''] else [c])
        ++ (singleBody false s ++ '\'' :: rest))
    simp only [singleBody, hbreak, Bool.false_eq_true, if_true, if_false, List.append_assoc]
    rw [hg', single_char hstart hblank hbreak, Gap.empty, h.inLine [] (by simp), htext, after_ok]
    simp
  inLine kept _ := by
    simp only [singleBody, hbreak, Bool.false_eq_true, if_false, List.nil_append,
      List.append_assoc]
    cases hblank : isBlank c with
    | true =>
      obtain rfl := eq_space_of_isBlank hshown hblank
      rw [if_neg (by decide), List.singleton_append, single_blank rfl, Gap.withBlank,
        h.inLine _ fun _ => hnext rfl]
      simp
    | false =>
      rw [single_char rfl hblank hbreak, Gap.empty, h.inLine [] (by simp), after_ok]
      simp [Gap.text]

theorem of_fits (hrest : Closes rest) (hs : fitsSingle s = true) : ReadsBack rest s := by
  simp only [fitsSingle, Bool.and_eq_true, Bool.not_eq_true'] at hs
  obtain ⟨⟨hshown, hsb⟩, hbs⟩ := hs
  induction s with
  | nil => exact .nil hrest
  | cons c s ih =>
    simp only [isAllShown, List.all_cons, Bool.and_eq_true] at hshown
    rw [hasPair_cons, Bool.or_eq_false_iff, Bool.and_eq_false_iff] at hsb hbs
    have hbehind := ih hbs.2 hshown.2 hsb.2
    cases hbreak : isBreak c with
    | true => exact hbehind.cons_break hbreak (by simpa [hbreak] using hbs.1)
    | false =>
      exact hbehind.cons_char hshown.1 hbreak fun hspace => by simpa [hspace] using hsb.1

end ReadsBack

/-- A text with every single quote written twice. -/
def doubled (s : List Char) : List Char :=
  s.flatMap fun c => if c = '\'' then ['\'', '\''] else [c]

/-- A text in one line is read back from single quotes, after a gap inside the line. -/
theorem single_doubled {rest s : List Char} (hrest : Closes rest) (hs : s.any isBreak = false)
    (kept : List Char) :
    single (.blanks kept) (doubled s ++ '\'' :: rest) = .ok (kept ++ s, rest) := by
  induction s generalizing kept with
  | nil => simp [doubled, single_close hrest, Gap.text]
  | cons c s ih =>
    rw [List.any_cons, Bool.or_eq_false_iff] at hs
    rw [doubled, List.flatMap_cons, ← doubled, List.append_assoc]
    cases hblank : isBlank c with
    | true =>
      have hquote : c ≠ '\'' := by
        rintro rfl
        simp [isBlank] at hblank
      rw [if_neg hquote, List.singleton_append, single_blank hblank, Gap.withBlank, ih hs.2]
      simp
    | false =>
      rw [single_char rfl hblank hs.1, Gap.empty, ih hs.2 [], after_ok]
      simp [Gap.text]

/-! ### Double quotes -/

theorem hexValue?_digitChar : ∀ d < 16, hexValue? d.digitChar.toUpper = some d := by decide

theorem hexNumber?_append_singleton {s : List Char} {c : Char} {n d : Nat}
    (hs : hexNumber? s = some n) (hc : hexValue? c = some d) :
    hexNumber? (s ++ [c]) = some (n * 16 + d) := by
  rw [hexNumber?] at hs ⊢
  simp [List.foldlM_append, hs, hc]

theorem hexNumber?_toDigits (n : Nat) :
    hexNumber? ((Nat.toDigits 16 n).map Char.toUpper) = some n := by
  induction n using Nat.strongRecOn with
  | _ n ih =>
    by_cases hn : n < 16
    · rw [Nat.toDigits_of_lt_base hn]
      simp [hexNumber?, hexValue?_digitChar n hn]
    · rw [Nat.toDigits_of_base_le (by decide) (by omega), List.map_append, List.map_singleton,
        hexNumber?_append_singleton (ih (n / 16) (by omega))
          (hexValue?_digitChar (n % 16) (Nat.mod_lt n (by decide)))]
      congr 1
      omega

theorem hexNumber?_zeros (k : Nat) (s : List Char) :
    hexNumber? (List.replicate k '0' ++ s) = hexNumber? s := by
  induction k with
  | zero => rfl
  | succ k ih =>
    have hzero : hexValue? '0' = some 0 := rfl
    simpa [hexNumber?, List.replicate_succ, hzero] using ih

theorem hexNumber?_hexDigits (count n : Nat) : hexNumber? (hexDigits count n) = some n := by
  rw [hexDigits, hexNumber?_zeros, hexNumber?_toDigits]

theorem length_hexDigits {count n : Nat} (hcount : 0 < count) (hn : n < 16 ^ count) :
    (hexDigits count n).length = count := by
  have := (Nat.length_toDigits_le_iff (by decide) hcount).mpr hn
  simp only [hexDigits, List.length_append, List.length_replicate, List.length_map]
  omega

theorem charOf?_toNat (c : Char) : charOf? c.toNat = some c := by
  have h : c.toNat.isValidChar := c.valid
  rw [charOf?, dif_pos h]
  congr 1

theorem hexChar_hexDigits {count : Nat} {c : Char} (hcount : 0 < count)
    (hc : c.toNat < 16 ^ count) (s : List Char) :
    hexChar count (hexDigits count c.toNat ++ s) = .ok c := by
  have hlength := length_hexDigits hcount hc
  simp [hexChar, List.take_left' hlength, hlength, hexNumber?_hexDigits, charOf?_toNat]

/-- What comes after the backslash of an escape is read as the character escaped. -/
def Escapes (c : Char) (e : List Char) : Prop :=
  breakAhead e = false ∧ ∀ s, escape (e ++ s) = .ok (c, e.length)

theorem escapes_letter {c letter : Char} (h : (c, letter) ∈ escapeLetters) :
    Escapes c [letter] := by
  have hall : ∀ p ∈ escapeLetters, isBreak p.2 = false ∧ escapeDigits? p.2 = none
      ∧ escapes.lookup p.2 = some p.1 := by decide
  obtain ⟨hbreak, hdigits, hlookup⟩ := hall _ h
  exact ⟨hbreak, fun s => by simp [escape, hdigits, hlookup]⟩

theorem escapes_digits {c letter : Char} {count : Nat} (hletter : escapeDigits? letter = some count)
    (hbreak : isBreak letter = false) (hcount : 0 < count) (hc : c.toNat < 16 ^ count) :
    Escapes c (letter :: hexDigits count c.toNat) := by
  refine ⟨hbreak, fun s => ?_⟩
  simp [escape, hletter, hexChar_hexDigits hcount hc, Except.map, length_hexDigits hcount hc]

theorem escaped_eq (c : Char) : ∃ e, escaped c = '\\' :: e ∧ Escapes c e := by
  have hvalid := toNat_valid c
  unfold escaped
  split
  · next letter h =>
    obtain ⟨before, behind, heq, -⟩ := List.lookup_eq_some_iff.mp h
    exact ⟨_, rfl, escapes_letter (by simp [heq])⟩
  · split
    · exact ⟨_, rfl, escapes_digits rfl rfl (by decide) (by omega)⟩
    · split
      · exact ⟨_, rfl, escapes_digits rfl rfl (by decide) (by omega)⟩
      · exact ⟨_, rfl, escapes_digits rfl rfl (by decide) (by omega)⟩

theorem double_skip (e : List Char) (g : Gap) (s : List Char) :
    double e.length g (e ++ s) = double 0 g s := by
  induction e with
  | nil => rfl
  | cons c e ih => exact ih

theorem double_escape {c : Char} {e : List Char} (h : Escapes c e) (kept s : List Char) :
    double 0 (.blanks kept) ('\\' :: (e ++ s)) = after (kept ++ [c]) (double 0 .empty s) := by
  obtain ⟨hbreak, hread⟩ := h
  have hbreak' : (!(e ++ s).isEmpty && breakAhead (e ++ s)) = false := by
    cases e <;> simp_all [breakAhead]
  have hskip := double_skip e .empty s
  rw [double]
  simp [isBreak, isBlank, Gap.endsAtLineStart, hbreak', hread, hskip, Gap.text]

/-- The body of a double-quoted scalar of one line, and the text that it stands for. -/
inductive DoubleBody : (body text : List Char) → Prop
  | nil : DoubleBody [] []
  | char {c : Char} {body text : List Char} (hquote : c ≠ '"') (hslash : c ≠ '\\')
    (hbreak : isBreak c = false) (h : DoubleBody body text) : DoubleBody (c :: body) (c :: text)
  | escape {c : Char} {e body text : List Char} (he : Escapes c e) (h : DoubleBody body text) :
    DoubleBody ('\\' :: (e ++ body)) (c :: text)

theorem DoubleBody.double_append {body text : List Char} (h : DoubleBody body text)
    (rest kept : List Char) :
    double 0 (.blanks kept) (body ++ '"' :: rest) = .ok (kept ++ text, rest) := by
  induction h generalizing kept with
  | nil => simp [double, Gap.text]
  | @char c body text hquote hslash hbreak _ ih =>
    cases hblank : isBlank c with
    | true =>
      have := ih (kept ++ [c])
      simpa [double, hquote, hbreak, hblank, Gap.withBlank] using this
    | false =>
      have := ih []
      simp [double, hquote, hslash, hbreak, hblank, Gap.endsAtLineStart, Gap.text, Gap.empty,
        this, after_ok]
  | escape he _ ih =>
    rw [List.cons_append, List.append_assoc, double_escape he, Gap.empty, ih [], after_ok]
    simp

/-- A text as it is written between double quotes. -/
theorem doubleBody_flatMap (s : List Char) : DoubleBody (s.flatMap doubleChar) s := by
  induction s with
  | nil => exact .nil
  | cons c s ih =>
    rw [List.flatMap_cons, doubleChar]
    split
    · next h =>
      simp only [Bool.and_eq_true, bne_iff_ne, Bool.not_eq_true'] at h
      exact .char h.1.2 h.2 h.1.1.2 ih
    · obtain ⟨e, he, hescape⟩ := escaped_eq c
      rw [he]
      exact .escape hescape ih

end Quoted

/-! ### The written characters -/

namespace Printer

theorem allKept_singleBody {s : List Char} (h : AllKept s) (afterBreak : Bool) :
    AllKept (singleBody afterBreak s) := by
  have hindentation : AllKept indentation := by decide
  induction s generalizing afterBreak with
  | nil => cases afterBreak <;> simp [singleBody, hindentation]
  | cons c s ih =>
    rw [allKept_cons] at h
    have hline : IsKept '\n' := by decide
    have hquote : IsKept '\'' := by decide
    rw [singleBody]
    split <;> split <;> (try split) <;>
      simp [h.1, ih h.2, hindentation, hline, hquote]

theorem allKept_digits (n : Nat) : AllKept ((Nat.toDigits 16 n).map Char.toUpper) := by
  have hdigit : ∀ d < 16, IsKept d.digitChar.toUpper := by decide
  induction n using Nat.strongRecOn with
  | _ n ih =>
    by_cases hn : n < 16
    · rw [Nat.toDigits_of_lt_base hn]
      simp [hdigit n hn]
    · rw [Nat.toDigits_of_base_le (by decide) (by omega), List.map_append, List.map_singleton,
        allKept_append]
      exact ⟨ih (n / 16) (by omega), by simp [hdigit (n % 16) (Nat.mod_lt n (by decide))]⟩

theorem allKept_hexDigits (count n : Nat) : AllKept (hexDigits count n) := by
  rw [hexDigits, allKept_append]
  refine ⟨fun c hc => ?_, allKept_digits n⟩
  obtain ⟨-, rfl⟩ := List.mem_replicate.mp hc
  decide

theorem allKept_doubleChar (c : Char) : AllKept (doubleChar c) := by
  have hslash : IsKept '\\' := by decide
  have hletters : ∀ p ∈ escapeLetters, IsKept p.2 := by decide
  rw [doubleChar]
  split
  · next h => simpa using isKept_of_isShown (by simp at h; exact h.1.1.1)
  · unfold escaped
    split
    · next letter h =>
      obtain ⟨before, behind, heq, -⟩ := List.lookup_eq_some_iff.mp h
      simpa [hslash] using hletters (c, letter) (by simp [heq])
    · split
      · simp [hslash, allKept_hexDigits]; decide
      · split <;> simp [hslash, allKept_hexDigits] <;> decide

end Printer

end TransactionGateway.Yaml
