import TransactionGateway.Proofs.Scalars.Characters
import TransactionGateway.Yaml.Scalar.Block

/-! # Literal scalars read back

* **Indentation.** The indentation of the lines is what the reader finds or is told
  (`indentOf_literal`).
* **Last breaks.** The sign of the header says what becomes of the breaks at the end
  (`chompingSign_eq`).
* **Reading.** So the lines give the text back (`lines_literal`), whatever follows them
  (`read_literal`). -/

namespace TransactionGateway.Yaml

namespace Block

open Printer

variable {h : Header} {rest : List Char}

/-- The sign of a header for what becomes of the last breaks. -/
def Chomping.sign : Chomping → List Char
  | strip => ['-']
  | clip => []
  | keep => ['+']

theorem readHeader_literal (hinted : Bool) (chomping : Chomping) (s : List Char) :
    readHeader false ((if hinted then ['2'] else []) ++ chomping.sign ++ '\n' :: s)
      = .ok (⟨false, chomping, if hinted then some 2 else none⟩, s) := by
  cases hinted <;> cases chomping <;> rfl

theorem lines_end (hrest : ContentAhead rest) (b : Breaks) :
    lines h 2 (.indentation 0 b) rest = .ok (b.tail h.chomping, rest) := by
  cases rest with
  | nil => rfl
  | cons c r =>
    obtain ⟨hblank, hbreak⟩ := hrest c rfl
    simp only [isBlank, Bool.or_eq_false_iff, beq_eq_false_iff_ne] at hblank
    simp [lines, hblank, hbreak, finished]

theorem lines_breaks (hrest : ContentAhead rest) {bs : List Char}
    (hbs : ∀ c ∈ bs, isBreak c = true) (b : Breaks) :
    lines h 2 (.indentation 0 b) (bs ++ rest)
      = .ok (Breaks.tail h.chomping { b with more := b.more ++ bs }, rest) := by
  induction bs generalizing b with
  | nil => simpa using lines_end hrest b
  | cons c bs ih =>
    have hc := hbs c (by simp)
    have hspace : c ≠ ' ' := ne_of_isBreak hc rfl
    have htab : c ≠ '\t' := ne_of_isBreak hc rfl
    have := ih (fun d hd => hbs d (by simp [hd])) (b.add c)
    simpa [lines, hspace, htab, hc, Breaks.add] using this

/-- The lines of a text as far as its last character that is no break. -/
theorem lines_literalBody (hfolded : h.folded = false) {after t : List Char}
    (hafter : ∀ afterBlank, lines h 2 (.content afterBlank) after = .ok (t, rest))
    (s : List Char) (hlast : s.getLast?.any isBreak = false) :
    (s ≠ [] → ∀ b : Breaks, lines h 2 (.indentation 0 b) (literalBody true s ++ after)
      = .ok (b.first.toList ++ b.more ++ (s ++ t), rest))
    ∧ ∀ afterBlank, lines h 2 (.content afterBlank) (literalBody false s ++ after)
      = .ok (s ++ t, rest) := by
  induction s with
  | nil => exact ⟨fun hne => absurd rfl hne, fun afterBlank => hafter afterBlank⟩
  | cons c s ih =>
    cases hbreak : isBreak c with
    | true =>
      have hs : s ≠ [] := by rintro rfl; simp [hbreak] at hlast
      obtain ⟨d, r, rfl⟩ := List.exists_cons_of_ne_nil hs
      obtain ⟨ihBreaks, -⟩ := ih (by simpa using hlast)
      have hspace : c ≠ ' ' := ne_of_isBreak hbreak rfl
      have htab : c ≠ '\t' := ne_of_isBreak hbreak rfl
      constructor
      · intro _ b
        have := ihBreaks hs (b.add c)
        rw [literalBody, if_pos hbreak]
        simpa [lines, hspace, htab, hbreak, Breaks.add] using this
      · intro afterBlank
        have := ihBreaks hs { first := some c, afterBlank }
        rw [literalBody, if_pos hbreak]
        simpa [lines, hbreak] using this
    | false =>
      have hlast' : s.getLast?.any isBreak = false := by
        cases s with
        | nil => rfl
        | cons d r => simpa using hlast
      obtain ⟨-, ihContent⟩ := ih hlast'
      constructor
      · intro _ b
        have := ihContent (isBlank c)
        rw [literalBody, if_neg (by simp [hbreak])]
        simp [indentation, lines, hbreak, this, Except.map, Breaks.text, hfolded]
      · intro afterBlank
        have := ihContent afterBlank
        rw [literalBody, if_neg (by simp [hbreak])]
        simp [lines, hbreak, this, Except.map]

/-- A text falls into its last breaks and what stands before them. -/
theorem exists_lastBreaks (s : List Char) :
    ∃ u bs, s = u ++ bs ∧ (∀ c ∈ bs, isBreak c = true) ∧ u.getLast?.any isBreak = false := by
  refine ⟨(s.reverse.dropWhile isBreak).reverse, (s.reverse.takeWhile isBreak).reverse, ?_, ?_, ?_⟩
  · rw [← List.reverse_append, List.takeWhile_append_dropWhile, List.reverse_reverse]
  · intro c hc
    exact List.all_eq_true.mp List.all_takeWhile c (by simpa using hc)
  · have := List.head?_dropWhile_not isBreak s.reverse
    rw [List.getLast?_reverse]
    cases hd : (s.reverse.dropWhile isBreak).head? with
    | none => rfl
    | some c => simpa [hd] using this

theorem literalBody_append_breaks {bs : List Char} (hbs : ∀ c ∈ bs, isBreak c = true)
    (u : List Char) (afterBreak : Bool) :
    literalBody afterBreak (u ++ bs) = literalBody afterBreak u ++ bs := by
  induction u generalizing afterBreak with
  | nil =>
    induction bs generalizing afterBreak with
    | nil => rfl
    | cons c bs ih =>
      have := ih (fun d hd => hbs d (by simp [hd])) true
      simpa [literalBody, hbs c (by simp)] using this
  | cons c u ih => by_cases hc : isBreak c <;> simp [literalBody, hc, ih]

/-- The chomping that keeps a text with the given last breaks. -/
def chompingFor (u bs : List Char) : Chomping :=
  if bs = [] then .strip else if u ≠ [] ∧ bs.length = 1 then .clip else .keep

theorem chompingSign_eq {u bs : List Char} (hbs : ∀ c ∈ bs, isBreak c = true)
    (hu : u.getLast?.any isBreak = false) :
    chompingSign (u ++ bs) = (chompingFor u bs).sign := by
  rw [← List.head?_reverse] at hu
  rcases bs.eq_nil_or_concat with rfl | ⟨l, e, rfl⟩
  · rw [List.append_nil, chompingSign]
    cases hr : u.reverse with
    | nil => rfl
    | cons c r => simp_all [chompingFor, Chomping.sign]
  · have he : isBreak e = true := hbs e (by simp)
    rw [chompingSign, List.concat_eq_append, List.reverse_append, List.reverse_append,
      List.reverse_singleton, List.singleton_append, List.cons_append]
    rcases l.eq_nil_or_concat with rfl | ⟨l, d, rfl⟩
    · cases hr : u.reverse with
      | nil => simp_all [chompingFor, Chomping.sign]
      | cons c r =>
        have hne : u ≠ [] := by rintro rfl; simp at hr
        simp_all [chompingFor, Chomping.sign, breakAhead]
    · have hd : isBreak d = true := hbs d (by simp)
      simp [chompingFor, Chomping.sign, breakAhead, he, hd]

theorem indentOf_literal {s rest : List Char} (hs : isAllShown s = true) (hne : s ≠ [])
    (chomping : Chomping) :
    indentOf 1
      ⟨false, chomping, if s.head?.any fun c => isSpace c || isBreak c then some 2 else none⟩
      (literalBody true s ++ rest) = .ok 2 := by
  obtain ⟨c, s, rfl⟩ := List.exists_cons_of_ne_nil hne
  simp only [isAllShown, List.all_cons, Bool.and_eq_true] at hs
  by_cases hc : (isSpace c || isBreak c) = true
  · simp [indentOf, hc]
  · simp only [Bool.or_eq_true, not_or, Bool.not_eq_true, isSpace, beq_eq_false_iff_ne] at hc
    have htab := not_tab_of_isShown hs.1
    simp [indentOf, isSpace, hc, literalBody, indentation, longestIndent, htab, Except.map]

/-- What follows a text written literally: its last line ends, if no break of its own does that. -/
def lastLine (s : List Char) : List Char := if s.getLast?.any isBreak then [] else ['\n']

/-- The lines of a text end with a break. -/
theorem exists_lastBreak (s : List Char) :
    ∃ u c, literalBody true s ++ lastLine s = u ++ [c] ∧ isBreak c = true := by
  cases hlast : s.getLast?.any isBreak with
  | false => exact ⟨literalBody true s, '\n', by simp [lastLine, hlast], rfl⟩
  | true =>
    obtain ⟨c, hc, hbreak⟩ := (Option.any_eq_true _ _).mp hlast
    obtain ⟨u, rfl⟩ := List.getLast?_eq_some_iff.mp hc
    refine ⟨literalBody true u, c, ?_, hbreak⟩
    rw [literalBody_append_breaks (by simpa using hbreak), lastLine, if_pos hlast,
      List.append_nil]

/-- A text without breaks at its end: the break behind its last line is not its own. -/
theorem lines_stripped {u : List Char} (hu : u.getLast?.any isBreak = false) (hne : u ≠ [])
    (hfolded : h.folded = false) (hstrip : h.chomping = .strip) (hrest : ContentAhead rest) :
    lines h 2 (.indentation 0 {}) (literalBody true u ++ '\n' :: rest) = .ok (u, rest) := by
  have hafter : ∀ afterBlank,
      lines h 2 (.content afterBlank) ('\n' :: rest) = .ok ([], rest) := fun afterBlank => by
    have := lines_end (h := h) hrest { first := some '\n', afterBlank }
    simpa [lines, isBreak, hstrip, Breaks.tail] using this
  simpa using (lines_literalBody hfolded hafter u hu).1 hne {}

/-- A text with breaks at its end, which are its own. -/
theorem lines_kept {u bs : List Char} {c : Char} (hbs : ∀ d ∈ c :: bs, isBreak d = true)
    (hu : u.getLast?.any isBreak = false) (hfolded : h.folded = false)
    (hchomping : h.chomping = chompingFor u (c :: bs)) (hrest : ContentAhead rest) :
    lines h 2 (.indentation 0 {}) (literalBody true u ++ (c :: bs ++ rest))
      = .ok (u ++ c :: bs, rest) := by
  by_cases hunil : u = []
  · subst hunil
    have hkeep : h.chomping = .keep := by simp [hchomping, chompingFor]
    simpa [literalBody, hkeep, Breaks.tail] using lines_breaks (h := h) hrest hbs {}
  · have htail : ∀ afterBlank,
        Breaks.tail h.chomping { first := some c, more := bs, afterBlank } = c :: bs :=
      fun afterBlank => by cases bs <;> simp [hchomping, chompingFor, hunil, Breaks.tail]
    have hafter : ∀ afterBlank,
        lines h 2 (.content afterBlank) (c :: bs ++ rest) = .ok (c :: bs, rest) :=
      fun afterBlank => by
        have := lines_breaks (h := h) hrest (fun d hd => hbs d (List.mem_cons_of_mem _ hd))
          { first := some c, afterBlank }
        simpa [lines, hbs c (by simp), htail afterBlank] using this
    simpa using (lines_literalBody hfolded hafter u hu).1 hunil {}

theorem lines_literal {u bs : List Char} (hbs : ∀ c ∈ bs, isBreak c = true)
    (hu : u.getLast?.any isBreak = false) (hne : u ++ bs ≠ []) (hfolded : h.folded = false)
    (hchomping : h.chomping = chompingFor u bs) (hrest : ContentAhead rest) :
    lines h 2 (.indentation 0 {}) (literalBody true (u ++ bs) ++ (lastLine (u ++ bs) ++ rest))
      = .ok (u ++ bs, rest) := by
  rw [literalBody_append_breaks hbs, List.append_assoc]
  cases bs with
  | nil =>
    rw [List.append_nil] at hne ⊢
    rw [lastLine, hu]
    exact lines_stripped hu hne hfolded hchomping hrest
  | cons c bs =>
    have hend : (u ++ c :: bs).getLast?.any isBreak = true := by
      rw [List.getLast?_append, List.getLast?_eq_some_getLast (by simp), Option.some_or,
        Option.any_some]
      exact hbs _ (List.getLast_mem _)
    rw [lastLine, if_pos hend, List.nil_append]
    exact lines_kept hbs hu hfolded hchomping hrest

theorem read_literal {s : List Char} (hs : isAllShown s = true) (hne : s ≠ [])
    (hrest : ContentAhead rest) :
    read false 1 ((literalHeader s).tail ++ '\n' :: (literalBody true s ++ (lastLine s ++ rest)))
      = .ok (s, rest) := by
  obtain ⟨u, bs, rfl, hbs, hu⟩ := exists_lastBreaks s
  have hread : ∀ body, readHeader false ((literalHeader (u ++ bs)).tail ++ '\n' :: body)
      = .ok (⟨false, chompingFor u bs,
          if (u ++ bs).head?.any fun c => isSpace c || isBreak c then some 2 else none⟩, body) := by
    intro body
    rw [literalHeader, List.cons_append, List.tail_cons, chompingSign_eq hbs hu,
      readHeader_literal]
  rw [read, hread]
  simp only [bind, Except.bind, indentOf_literal hs hne]
  exact lines_literal hbs hu hne rfl rfl hrest

end Block

namespace Printer

theorem allKept_literalBody {s : List Char} (h : AllKept s) (afterBreak : Bool) :
    AllKept (literalBody afterBreak s) := by
  have hindentation : AllKept indentation := by decide
  induction s generalizing afterBreak with
  | nil => simp [literalBody]
  | cons c s ih =>
    rw [allKept_cons] at h
    rw [literalBody]
    split
    · simp [h.1, ih h.2]
    · split <;> simp [h.1, ih h.2, hindentation]

end Printer

end TransactionGateway.Yaml
