import TransactionGateway.Proofs.Lines

/-! # The layout of entries

How an entry of a block mapping may be laid out in its line, and what follows it there.

* **Comments.** A comment goes from a hash to the end of its line. Behind other text it needs a
  blank before it.
* **Line ends.** A line ends with blanks and a comment, and behind its break there may be empty
  lines and lines of comments, before the next line with content begins at its column or the text
  ends (`LineEnd`).
* **Values.** The value of a key is left out, or it is a plain or a quoted scalar of one line,
  behind blanks (`Inline`).
* **Keys.** A key is a plain scalar of at most 1024 octets, with the blanks before its colon
  (`KeyText`).
* **Reading.** Whatever a scalar takes of the line end behind it, the text goes on in the same place
  (`exists_endsAt`, `exists_yields_inline`). -/

namespace TransactionGateway.Yaml

/-! ### Line ends -/

/-- A comment up to the end of its line, or none. -/
def IsComment (s : List Char) : Prop := s = [] ∨ ∃ t, s = '#' :: t ∧ t.any isBreak = false

theorem isComment_nil : IsComment [] := .inl rfl

/-- Where a text goes on: with content at a column, or not at all. -/
inductive Next where
  | column (k : Nat)
  | finish

/-- Line breaks up to the next line with content, with empty lines and lines of comments between
them. At the end of the text there may be none. -/
inductive Breaks : Next → List Char → Prop
  | finish : Breaks .finish []
  | column {c : Char} (hc : isBreak c = true) (k : Nat) : Breaks (.column k) (c :: spaces k)
  | line {next : Next} {c : Char} {comment s : List Char} (hc : isBreak c = true) (k : Nat)
    (hcomment : IsComment comment) (hs : Breaks next s) :
    Breaks next (c :: (spaces k ++ (comment ++ s)))

/-- The end of a line behind a key or a value. -/
inductive LineEnd (next : Next) : List Char → Prop
  | of {blanks comment s : List Char} (hblanks : AllBlank blanks) (hcomment : IsComment comment)
    (hpadded : comment ≠ [] → blanks ≠ []) (hs : Breaks next s) :
    LineEnd next (blanks ++ (comment ++ s))

theorem LineEnd.line (k : Nat) : LineEnd (.column k) ('\n' :: spaces k) :=
  .of allBlank_nil isComment_nil (by simp) (.column rfl k)

theorem LineEnd.lastLine : LineEnd .finish ['\n'] :=
  .of allBlank_nil isComment_nil (by simp) (.line (c := '\n') rfl 0 isComment_nil .finish)

theorem Breaks.columnBehind {k : Nat} {s : List Char} (h : Breaks (.column k) s) (column : Nat) :
    columnBehind column s = k := by
  generalize hnext : Next.column k = next at h
  induction h generalizing column with
  | finish => cases hnext
  | column hc j =>
    cases hnext
    exact columnBehind_line hc [] k column
  | @line _ c comment s hc j hcomment hs ih =>
    rw [← List.singleton_append, columnBehind_append, columnBehind_append, columnBehind_append]
    exact ih _ hnext

theorem LineEnd.columnBehind {k : Nat} {s : List Char} (h : LineEnd (.column k) s) (column : Nat) :
    columnBehind column s = k := by
  obtain ⟨-, -, -, hs⟩ := h
  rw [columnBehind_append, columnBehind_append, hs.columnBehind]

/-- A blank, a break or the end comes at once. -/
theorem LineEnd.blankAhead {next : Next} {s rest : List Char} (h : LineEnd next s)
    (hfinish : next = .finish → rest = []) : blankAhead (s ++ rest) = true := by
  obtain @⟨blanks, comment, s, hblanks, hcomment, hpadded, hs⟩ := h
  cases blanks with
  | cons c blanks => simp [Yaml.blankAhead, hblanks c (by simp)]
  | nil =>
    obtain rfl : comment = [] := Classical.byContradiction fun hne => hpadded hne rfl
    cases hs with
    | finish => simp [hfinish rfl, Yaml.blankAhead]
    | column hc => simp [Yaml.blankAhead, hc]
    | line hc => simp [Yaml.blankAhead, hc]

/-! ### Gaps -/

section Gaps

variable {next : Next} {keyAllowed : Bool} {s rest : List Char}

theorem exists_afterGap_comment (hs : IsComment s) (keyAllowed : Bool) (t : List Char)
    (atLineStart : Bool) :
    ∃ inComment atLineStart', Scan.afterGap false keyAllowed false atLineStart (s ++ t)
      = Scan.afterGap false keyAllowed inComment atLineStart' t := by
  have hinside : ∀ {u : List Char} (_ : u.any isBreak = false) (atLineStart : Bool),
      ∃ atLineStart', Scan.afterGap false keyAllowed true atLineStart (u ++ t)
        = Scan.afterGap false keyAllowed true atLineStart' t := by
    intro u hu atLineStart
    induction u generalizing atLineStart with
    | nil => exact ⟨atLineStart, rfl⟩
    | cons c u ih =>
      rw [List.any_cons, Bool.or_eq_false_iff] at hu
      obtain ⟨atLineStart', ih⟩ := ih hu.2 false
      exact ⟨atLineStart', by simpa [Scan.afterGap, hu.1] using ih⟩
  obtain rfl | ⟨u, rfl, hu⟩ := hs
  · exact ⟨false, atLineStart, rfl⟩
  · obtain ⟨atLineStart', h⟩ := hinside hu false
    exact ⟨true, atLineStart', by simpa [Scan.afterGap, isBreak] using h⟩

/-- Breaks are passed, and a key may stand behind them. -/
theorem exists_afterGap_breaks (hs : Breaks next s) (hrest : LineAhead rest)
    (hfinish : next = .finish → rest = []) (keyAllowed : Bool) :
    ∃ keyAllowed', (∀ k, next = .column k → keyAllowed' = true) ∧ ∀ inComment atLineStart,
      Scan.afterGap false keyAllowed inComment atLineStart (s ++ rest) = (rest, keyAllowed') := by
  induction hs generalizing keyAllowed with
  | finish => exact ⟨keyAllowed, by simp, fun _ _ => by rw [hfinish rfl]; rfl⟩
  | column hc k =>
    refine ⟨true, fun _ _ => rfl, fun inComment atLineStart => ?_⟩
    have hspaces := Ahead.afterGap_spaces hrest true k true
    simpa [Scan.afterGap, hc] using hspaces
  | @line next c comment s hc k hcomment hs ih =>
    obtain ⟨keyAllowed', hcolumn, hbehind⟩ := ih hfinish true
    refine ⟨keyAllowed', hcolumn, fun inComment atLineStart => ?_⟩
    obtain ⟨atLineStart₁, h₁⟩ := Ahead.exists_afterGap_blanks true
      (fun d hd => .inl (List.eq_of_mem_replicate hd)) (comment ++ (s ++ rest)) true
    obtain ⟨inComment₂, atLineStart₂, h₂⟩ :=
      exists_afterGap_comment hcomment true (s ++ rest) atLineStart₁
    have hgap := h₁.trans (h₂.trans (hbehind inComment₂ atLineStart₂))
    simpa [Scan.afterGap, hc] using hgap

/-- A text up to its rest is passed, so that a key may stand there if a line begins. -/
def Passes (next : Next) (keyAllowed : Bool) (s rest : List Char) : Prop :=
  ∃ keyAllowed', (∀ k, next = .column k → keyAllowed' = true) ∧
    ∀ atLineStart, Scan.afterGap false keyAllowed false atLineStart s = (rest, keyAllowed')

theorem passes_comment {comment : List Char} (hcomment : IsComment comment) (hs : Breaks next s)
    (hrest : LineAhead rest) (hfinish : next = .finish → rest = []) (keyAllowed : Bool) :
    Passes next keyAllowed (comment ++ (s ++ rest)) rest := by
  obtain ⟨keyAllowed', hcolumn, hbreaks⟩ := exists_afterGap_breaks hs hrest hfinish keyAllowed
  refine ⟨keyAllowed', hcolumn, fun atLineStart => ?_⟩
  obtain ⟨inComment, atLineStart', h⟩ :=
    exists_afterGap_comment hcomment keyAllowed (s ++ rest) atLineStart
  rw [h, hbreaks]

/-- What stands behind a break is passed just as well at the beginning of a text. -/
theorem Breaks.passes_behind {c : Char} (h : Breaks next (c :: s)) (hrest : LineAhead rest)
    (hfinish : next = .finish → rest = []) : Passes next true (s ++ rest) rest := by
  cases h with
  | column _ k => exact ⟨true, fun _ _ => rfl, Ahead.afterGap_spaces hrest true k⟩
  | @line _ _ comment s _ k hcomment hs =>
    obtain ⟨keyAllowed', hcolumn, hpassed⟩ := passes_comment hcomment hs hrest hfinish true
    refine ⟨keyAllowed', hcolumn, fun atLineStart => ?_⟩
    obtain ⟨atLineStart', h⟩ := Ahead.exists_afterGap_blanks true
      (fun d hd => .inl (List.eq_of_mem_replicate hd)) (comment ++ (s ++ rest)) atLineStart
    rw [List.append_assoc, List.append_assoc, h, hpassed]

theorem LineEnd.passes (h : LineEnd next s) (hrest : LineAhead rest)
    (hfinish : next = .finish → rest = []) : Passes next false (s ++ rest) rest := by
  obtain @⟨blanks, comment, s, hblanks, hcomment, -, hs⟩ := h
  obtain ⟨keyAllowed', hcolumn, hpassed⟩ := passes_comment hcomment hs hrest hfinish false
  refine ⟨keyAllowed', hcolumn, fun atLineStart => ?_⟩
  obtain ⟨atLineStart', h⟩ := Ahead.exists_afterGap_blanks false (s := blanks)
    (fun c hc => by simpa [isBlank] using hblanks c hc) (comment ++ (s ++ rest)) atLineStart
  rw [List.append_assoc, List.append_assoc, h, hpassed]

/-! ### Plain scalars before a line end -/

namespace Plain

variable {margin : Nat}

theorem exists_continued_breaks (hs : Breaks next s) (hrest : LineAhead rest)
    (hfinish : next = .finish → rest = []) (hmargin : ∀ k, next = .column k → k < margin)
    (g : Gap) :
    ∃ endsLine consumed left, s = consumed ++ left
      ∧ continued false margin g (s ++ rest) = .ok ⟨[], endsLine, left ++ rest⟩
      ∧ Passes next endsLine (left ++ rest) rest := by
  induction hs generalizing g with
  | finish =>
    obtain rfl := hfinish rfl
    exact ⟨g.isBroken, [], [], rfl, by simp [continued], g.isBroken, by simp, fun _ => rfl⟩
  | @column c hc k =>
    obtain ⟨first, more, hg⟩ : ∃ first more, g.withBreak c = .lines first more 0 := by
      cases g <;> exact ⟨_, _, rfl⟩
    refine ⟨true, c :: spaces k, [], (List.append_nil _).symm, ?_, true, fun _ _ => rfl, ?_⟩
    · have := continued_indentation first more hrest.content k 0 (by simpa using hmargin k rfl)
      simpa [continued, hc, hg] using this
    · exact Ahead.afterGap_spaces hrest true 0
  | @line next c comment s hc k hcomment hs ih =>
    obtain ⟨first, more, hg⟩ : ∃ first more, g.withBreak c = .lines first more 0 := by
      cases g <;> exact ⟨_, _, rfl⟩
    have hline : continued false margin g (c :: (spaces k ++ (comment ++ s)) ++ rest)
        = continued false margin (.lines first more k) (comment ++ (s ++ rest)) := by
      have := continued_spaces margin first more (comment ++ (s ++ rest)) k 0
      simpa [continued, hc, hg] using this
    obtain rfl | ⟨t, rfl, ht⟩ := hcomment
    · obtain ⟨endsLine, consumed, left, rfl, hcontinued, hpasses⟩ :=
        ih hfinish hmargin (.lines first more k)
      refine ⟨endsLine, c :: (spaces k ++ consumed), left, by simp, ?_, hpasses⟩
      rw [hline]
      exact hcontinued
    · refine ⟨true, c :: spaces k, '#' :: t ++ s, by simp, ?_, ?_⟩
      · rw [hline]
        simp [continued, isBreak, isBlank, endsAfterGap, Gap.isEmpty, Gap.isBroken]
      · simpa using passes_comment (.inr ⟨t, rfl, ht⟩) hs hrest hfinish true

/-- A scalar ends at the end of its line, of which it may take a part. -/
theorem exists_endsAt (h : LineEnd next s) (hrest : LineAhead rest)
    (hfinish : next = .finish → rest = []) (hmargin : ∀ k, next = .column k → k < margin) :
    ∃ endsLine consumed left, s = consumed ++ left
      ∧ EndsAt margin endsLine (s ++ rest) (left ++ rest)
      ∧ Passes next endsLine (left ++ rest) rest := by
  obtain @⟨blanks, comment, s, hblanks, hcomment, hpadded, hs⟩ := h
  have hgap : ∀ rest, continued false margin .empty (blanks ++ (comment ++ s) ++ rest)
      = continued false margin (.blanks blanks) (comment ++ (s ++ rest)) := by
    intro rest
    simpa [Gap.empty] using continued_blanks margin hblanks [] (comment ++ (s ++ rest))
  obtain rfl | ⟨t, rfl, ht⟩ := hcomment
  · obtain ⟨endsLine, consumed, left, rfl, hcontinued, hpasses⟩ :=
      exists_continued_breaks hs hrest hfinish hmargin (.blanks blanks)
    refine ⟨endsLine, blanks ++ consumed, left, by simp, ?_, hpasses⟩
    rw [EndsAt, hgap]
    exact hcontinued
  · refine ⟨false, blanks, '#' :: t ++ s, by simp, ?_, ?_⟩
    · have hne : blanks.isEmpty = false := by simpa using hpadded (by simp)
      rw [EndsAt, hgap]
      simp [continued, isBreak, isBlank, endsAfterGap, Gap.isEmpty, Gap.isBroken, hne]
    · simpa using passes_comment (.inr ⟨t, rfl, ht⟩) hs hrest hfinish false

end Plain

end Gaps

/-! ### Values -/

/-- The value of a key in the rest of its line, and the scalar that it is. -/
inductive Inline : (written text : List Char) → Style → Prop
  | missing : Inline [] [] .plain
  | plain {blanks s : List Char} (hblanks : AllBlank blanks) (hne : blanks ≠ [])
    (hs : Plain.Stands s []) : Inline (blanks ++ s) s .plain
  | single {blanks s : List Char} (hblanks : AllBlank blanks) (hne : blanks ≠ [])
    (hs : s.any isBreak = false) :
    Inline (blanks ++ '\'' :: (Quoted.doubled s ++ ['\''])) s .singleQuoted
  | double {blanks body s : List Char} (hblanks : AllBlank blanks) (hne : blanks ≠ [])
    (hs : Quoted.DoubleBody body s) : Inline (blanks ++ '"' :: (body ++ ['"'])) s .doubleQuoted

/-- The tokens of a scalar; none of one that is left out. -/
def scalarTokens (text : List Char) (style : Style) : List Token :=
  if text = [] ∧ style = .plain then [] else [.scalar text style]

namespace Ahead

variable {next : Next} {e rest : List Char} {column : Nat} {margins : List Nat}

theorem exists_yields_lineEnd (he : LineEnd next e) (hrest : LineAhead rest)
    (hfinish : next = .finish → rest = []) (column : Nat) (margins : List Nat) :
    ∃ keyAllowed, (∀ k, next = .column k → keyAllowed = true) ∧
      Yields ⟨e ++ rest, column, margins, false⟩ []
        ⟨rest, columnBehind column e, margins, keyAllowed⟩ := by
  obtain ⟨keyAllowed, hcolumn, hpassed⟩ := he.passes hrest hfinish
  exact ⟨keyAllowed, hcolumn, yields_gap hrest (hpassed _) margins⟩

/-- The line may end behind what has been taken in it. -/
theorem Yields.exists_lineEnd {a : Ahead} {ts : List Token} {w : List Char}
    (h : a.Yields ts ⟨e ++ rest, columnBehind column w, margins, false⟩) (he : LineEnd next e)
    (hrest : LineAhead rest) (hfinish : next = .finish → rest = []) :
    ∃ keyAllowed, (∀ k, next = .column k → keyAllowed = true) ∧
      a.Yields ts ⟨rest, columnBehind column (w ++ e), margins, keyAllowed⟩ := by
  obtain ⟨keyAllowed, hcolumn, hgap⟩ :=
    exists_yields_lineEnd he hrest hfinish (columnBehind column w) margins
  refine ⟨keyAllowed, hcolumn, ?_⟩
  rw [columnBehind_append]
  simpa using h.trans hgap

/-- A value in its line, up to where the text goes on. -/
theorem exists_yields_inline {w text : List Char} {style : Style} (hw : Inline w text style)
    (he : LineEnd next e) (hrest : LineAhead rest) (hfinish : next = .finish → rest = [])
    (hmargin : margins.headD 0 ≤ column) (hnext : ∀ k, next = .column k → k < margins.headD 0) :
    ∃ keyAllowed, (∀ k, next = .column k → keyAllowed = true) ∧
      Yields ⟨w ++ (e ++ rest), column, margins, false⟩ (scalarTokens text style)
        ⟨rest, columnBehind column (w ++ e), margins, keyAllowed⟩ := by
  cases hw with
  | missing => exact exists_yields_lineEnd he hrest hfinish column margins
  | @plain blanks _ hblanks hne hs =>
    obtain ⟨endsLine, consumed, left, rfl, hend, keyAllowed, hcolumn, hpassed⟩ :=
      Plain.exists_endsAt he hrest hfinish hnext
    have hstands : Plain.Stands text (consumed ++ left ++ rest) :=
      hs.congr (he.blankAhead hfinish).symm
    have hscalar := yields_plain hblanks hne hstands hmargin (List.append_assoc _ _ _) hend
    have hgap := yields_gap hrest
      (hpassed (columnBehind column (blanks ++ (text ++ consumed)) == 0)) margins
    refine ⟨keyAllowed, hcolumn, ?_⟩
    have hboth := hscalar.trans hgap
    rw [← columnBehind_append] at hboth
    simpa [scalarTokens, hs.ne_nil] using hboth
  | @single blanks _ hblanks _ hs =>
    have hclose : Quoted.Closes (e ++ rest) := fun hquote => by
      obtain ⟨r, hr⟩ : ∃ r, e ++ rest = '\'' :: r := List.head?_eq_some_iff.mp hquote
      have := he.blankAhead hfinish
      rw [hr] at this
      cases this
    have hread : Quoted.readSingle ((Quoted.doubled text ++ ['\'']) ++ (e ++ rest))
        = .ok (text, e ++ rest) := by
      simpa [Quoted.readSingle, Gap.empty] using Quoted.single_doubled hclose hs []
    simpa [scalarTokens] using
      (yields_single hblanks hmargin hread).exists_lineEnd he hrest hfinish
  | @double blanks body _ hblanks _ hs =>
    have hread : Quoted.readDouble ((body ++ ['"']) ++ (e ++ rest)) = .ok (text, e ++ rest) := by
      simpa [Quoted.readDouble, Gap.empty] using hs.double_append (e ++ rest) []
    simpa [scalarTokens] using
      (yields_double hblanks hmargin hread).exists_lineEnd he hrest hfinish

end Ahead

/-! ### Keys -/

/-- A plain key at a column, with the blanks before its colon, of a limited number of octets. -/
structure KeyText (limit column : Nat) (key pad : List Char) : Prop where
  stands : Plain.Stands key (pad ++ [':'])
  blank : AllBlank pad
  short : octetCount (key ++ pad) ≤ limit
  unmarked : column = 0 → documentMarkAhead (key ++ (pad ++ [':'])) = false

instance (limit column : Nat) (key pad : List Char) : Decidable (KeyText limit column key pad) :=
  decidable_of_iff (Plain.Stands key (pad ++ [':']) ∧ pad.all isBlank = true
      ∧ octetCount (key ++ pad) ≤ limit
      ∧ (column = 0 → documentMarkAhead (key ++ (pad ++ [':'])) = false))
    ⟨fun ⟨h₁, h₂, h₃, h₄⟩ => ⟨h₁, List.all_eq_true.mp h₂, h₃, h₄⟩,
      fun ⟨h₁, h₂, h₃, h₄⟩ => ⟨h₁, List.all_eq_true.mpr h₂, h₃, h₄⟩⟩

/-- Behind a character of no mark nothing counts for a mark at the beginning. -/
theorem documentMarkAhead_append {c : Char} (hc : c ≠ '-' ∧ c ≠ '.') (s rest : List Char) :
    documentMarkAhead (s ++ c :: rest) = documentMarkAhead (s ++ [c]) := by
  match s with
  | [] => simp [documentMarkAhead, startMarkAhead, endMarkAhead, hc]
  | [a] => simp [documentMarkAhead, startMarkAhead, endMarkAhead, hc]
  | [a, b] => simp [documentMarkAhead, startMarkAhead, endMarkAhead, hc]
  | a :: b :: d :: s =>
    have hbehind : blankAhead (s ++ c :: rest) = blankAhead (s ++ [c]) := by cases s <;> rfl
    simp only [documentMarkAhead, List.cons_append]
    congr 1
    · unfold startMarkAhead
      split
      · next h => cases h; simp [hbehind]
      · next h =>
        split
        · next h' => cases h'; exact absurd rfl (h _)
        · rfl
    · unfold endMarkAhead
      split
      · next h => cases h; simp [hbehind]
      · next h =>
        split
        · next h' => cases h'; exact absurd rfl (h _)
        · rfl

namespace KeyText

variable {limit column : Nat} {key pad rest : List Char}

theorem stands_append (h : KeyText limit column key pad) (rest : List Char) :
    Plain.Stands key (pad ++ ':' :: rest) :=
  h.stands.congr (by rw [Plain.blankAhead_append, Plain.blankAhead_append]; rfl)

theorem lineAhead (h : KeyText limit column key pad) (rest : List Char) :
    LineAhead (key ++ (pad ++ ':' :: rest)) := LineAhead.of_stands (h.stands_append rest)

/-- A key with its colon; it closes the block collections further to the right. -/
theorem yields (h : KeyText 1024 column key pad) (hrest : blankAhead rest = true)
    {deep outer : List Nat} (hdeep : ∀ m ∈ deep, column + 1 < m)
    (houter : outer.headD 0 ≤ column + 1) :
    Ahead.Yields ⟨key ++ (pad ++ ':' :: rest), column, deep ++ outer, true⟩
      (List.replicate deep.length .blockEnd
        ++ (Ahead.opening outer column ++ [.key, .scalar key .plain, .value]))
      ⟨rest, column + (key ++ pad).length + 1, Ahead.opened outer column, false⟩ := by
  refine Ahead.yields_key (h.stands_append rest) h.blank h.short hrest (fun h0 => ?_) hdeep houter
  have hmark := documentMarkAhead_append (c := ':') (by decide) (key ++ pad) rest
  rw [List.append_assoc, List.append_assoc] at hmark
  rw [hmark, h.unmarked h0]

end KeyText

/-! ### Marks of a document -/

/-- The marks of a document's start and end, and their tokens. -/
inductive IsMark : List Char → Token → Prop
  | start : IsMark ['-', '-', '-'] .documentStart
  | finish : IsMark ['.', '.', '.'] .documentEnd

theorem IsMark.lineAhead {mark : List Char} {token : Token} (h : IsMark mark token)
    (rest : List Char) : LineAhead (mark ++ rest) := by
  cases h <;> simp [LineAhead, isBlank, isBreak]

/-- A mark at the beginning of a line closes all block collections. -/
theorem Ahead.yields_mark {mark : List Char} {token : Token} (h : IsMark mark token)
    {rest : List Char} (hrest : blankAhead rest = true) {margins : List Nat}
    (hmargins : ∀ m ∈ margins, 0 < m) (keyAllowed : Bool) :
    Yields ⟨mark ++ rest, 0, margins, keyAllowed⟩
      (List.replicate margins.length .blockEnd ++ [token]) ⟨rest, 3, [], false⟩ where
  fewer := by cases h <;> simp [size] <;> omega
  tokens line octets handed := by
    let s := (⟨mark ++ rest, 0, margins, keyAllowed⟩ : Ahead).state line octets handed
    obtain ⟨ends, hends, hclose⟩ := Scan.exists_closeTo_closeTo (s := s) rfl hmargins 1 s.cursor
    let last : PlacedToken := ⟨token, ⟨line, 0⟩, ⟨line, 3⟩⟩
    let t : Scan := { s with
      cursor := ⟨rest, line, 3, octets + 3⟩, waiting := ends ++ [last], margins := []
      keyAllowed := false }
    have htake : s.take = .ok t := by
      have hgap : s.passGap = s := passGap_rest (h.lineAhead rest) line octets handed
      have hcursor : (s.closeTo 1).cursor = s.cursor := by
        unfold Scan.closeTo
        split <;> rfl
      have htoken : (s.closeTo 1).takeToken = (s.closeTo 1).takeMark token := by
        rw [Scan.takeToken, hcursor]
        cases h <;> simp [s, state, startMarkAhead, endMarkAhead, hrest]
      rw [Scan.take, hgap, (settled_state _ _ _ _ : s.Settled).expireKeys]
      show (s.closeTo 1).takeToken = _
      have hsame : { s.closeTo 1 with cursor := s.cursor } = s.closeTo 1 := by rw [← hcursor]
      rw [hsame] at hclose
      rw [htoken, Scan.takeMark, hclose]
      cases h <;> rfl
    have htext : ∀ u ∈ ends ++ [last], u.token ≠ .textEnd := by
      intro u hu
      obtain hu | hu := List.mem_append.mp hu
      · exact Scan.ne_textEnd_of_ends hends u hu
      · obtain rfl := List.mem_singleton.mp hu
        cases h <;> simp [last]
    have hrun : s.SameRun t := Scan.sameRun_take rfl htake ⟨rfl, rfl⟩ (by simp [t])
    have hyields := hrun.yields
      (Scan.Settled.yields ⟨rfl, rfl⟩ (ends ++ [last]) [] (by simp [t]) htext)
    rw [List.map_append, hends] at hyields
    exact ⟨line, octets + 3, _, hyields⟩

end TransactionGateway.Yaml
