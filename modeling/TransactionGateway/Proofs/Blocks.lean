import TransactionGateway.Proofs.Layout
import TransactionGateway.Proofs.Outline

/-! # Block mappings

Texts of block mappings with whatever layout, and the tokens that they are taken as.

* **Blocks.** The entries of a block mapping begin at one column, each with a plain key. What stands
  behind a key's colon is a matter of its own (`BlockText`); here it is a scalar in the line
  (`ScalarText`), or else the entries of a section, which begin further to the right
  (`ContentText`).
* **Documents.** A text is a block mapping from its first key on. Empty lines and comments may come
  before it, and the marks of the document around it (`MappingText`).
* **Leads.** Behind a value the text goes on in another line, and block collections further to the
  right may still be open. Their ends are taken with the next key (`Ahead.Leads`).
* **Tokens.** If values lead on with their tokens, so do the entries that they belong to
  (`BlockText.leads`). -/

namespace TransactionGateway.Yaml

/-! ### Texts -/

/-- The text of a block mapping with entries at a column, from its first key to where the text goes
on, and the entries. What may stand behind a key's colon is told by `Value`. -/
inductive BlockText {γ : Type} (limit : Nat) (Value : Nat → Next → List Char → γ → Prop)
    (column : Nat) (next : Next) : List Char → List (String × γ) → Prop
  | last {key pad s : List Char} {x : γ} (hkey : KeyText limit column key pad)
    (hvalue : Value column next s x) :
    BlockText limit Value column next (key ++ (pad ++ ':' :: s)) [(String.ofList key, x)]
  | cons {key pad s t : List Char} {x : γ} {xs : List (String × γ)}
    (hkey : KeyText limit column key pad) (hvalue : Value column (.column column) s x)
    (hothers : BlockText limit Value column next t xs) :
    BlockText limit Value column next (key ++ (pad ++ ':' :: (s ++ t)))
      ((String.ofList key, x) :: xs)

/-- A scalar and its style. -/
structure Scalar where
  text : String
  style : Style
deriving DecidableEq, Repr

/-- What an entry holds: a scalar, or a section of scalars with keys of their own. -/
inductive Content where
  | scalar (x : Scalar)
  | entries (xs : List (String × Scalar))
deriving DecidableEq, Repr

/-- The text of a scalar behind a colon, up to where the text goes on. -/
inductive ScalarText (column : Nat) (next : Next) : List Char → Scalar → Prop
  | of {w text e : List Char} {style : Style} (hw : Inline w text style) (he : LineEnd next e) :
    ScalarText column next (w ++ e) ⟨String.ofList text, style⟩

/-- A plain scalar one blank behind its colon. -/
theorem ScalarText.plain {column : Nat} {next : Next} {text e : List Char}
    (h : Plain.Stands text []) (he : LineEnd next e) :
    ScalarText column next (' ' :: (text ++ e)) ⟨String.ofList text, .plain⟩ :=
  .of (.plain allBlank_space (by simp) h) he

/-- The text of what an entry holds, behind its colon. -/
inductive ContentText (limit column : Nat) (next : Next) : List Char → Content → Prop
  | scalar {s : List Char} {x : Scalar} (h : ScalarText column next s x) :
    ContentText limit column next s (.scalar x)
  | entries {e s : List Char} {indent : Nat} {xs : List (String × Scalar)}
    (he : LineEnd (.column indent) e) (hindent : column < indent)
    (h : BlockText limit ScalarText indent next s xs) :
    ContentText limit column next (e ++ s) (.entries xs)

/-- Empty lines and comments at the beginning of a text, up to a column. A byte order mark before
them takes up a column, as anything else in its line does. -/
inductive Beginning (column : Nat) : List Char → Prop
  | bare {s : List Char} (h : Breaks (.column column) ('\n' :: s)) : Beginning column s
  | byteOrder {s : List Char} {k : Nat} (h : Breaks (.column k) ('\n' :: s))
    (hcolumn : columnBehind 1 s = column) : Beginning column ('\ufeff' :: s)

/-- What comes before the first key at a column: the beginning of the text, and maybe the mark of
the document's start. -/
inductive Opening (column : Nat) : List Char → Prop
  | bare {s : List Char} (h : Beginning column s) : Opening column s
  | marked {s e : List Char} (h : Beginning 0 s) (he : LineEnd (.column column) e) :
    Opening column (s ++ (['-', '-', '-'] ++ e))

theorem Opening.atOnce : Opening 0 [] := .bare (.bare (.column rfl 0))

/-- What comes after the last entry: nothing, or the mark of the document's end. -/
inductive Closing : Next → List Char → Prop
  | bare : Closing .finish []
  | marked {e : List Char} (he : LineEnd .finish e) : Closing (.column 0) (['.', '.', '.'] ++ e)

/-- The text of a document that is a block mapping, whose keys are within a limit. -/
inductive MappingText (limit : Nat) : List Char → List (String × Content) → Prop
  | of {o s e : List Char} {column : Nat} {next : Next} {xs : List (String × Content)}
    (ho : Opening column o) (h : BlockText limit (ContentText limit) column next s xs)
    (he : Closing next e) : MappingText limit (o ++ (s ++ e)) xs

/-- A text that can be read spells a block mapping out, whatever characters its line breaks are. -/
structure SpellsOut (limit : Nat) (t : String) (xs : List (String × Content)) : Prop where
  readable : ∀ c ∈ t.toList, isReadable c = true
  text : MappingText limit (withPlainBreaks t.toList) xs

theorem SpellsOut.of_text {limit : Nat} {t : String} {s : List Char} (ht : t.toList = s)
    (hs : (s.all isReadable && withPlainBreaks s == s) = true) {xs : List (String × Content)}
    (h : MappingText limit s xs) : SpellsOut limit t xs := by
  simp only [Bool.and_eq_true, List.all_eq_true, beq_iff_eq] at hs
  exact ⟨by rw [ht]; exact hs.1, by rw [ht, hs.2]; exact h⟩

/-! ### Tokens -/

namespace Scalar

/-- The tokens of a scalar. -/
def tokens (x : Scalar) : List Token := scalarTokens x.text.toList x.style

end Scalar

namespace Content

/-- The tokens of what an entry holds. -/
def tokens : Content → List Token
  | scalar x => x.tokens
  | entries xs => mappingTokens Scalar.tokens xs

end Content

/-- From a place tokens are taken up to where the text goes on, save for the ends of block
collections further to the right than a column, which are still open there. -/
def Ahead.Leads (a : Ahead) (ts : List Token) (next : Next) (rest : List Char) (column : Nat)
    (margins : List Nat) : Prop :=
  ∃ deep k keyAllowed us, (∀ m ∈ deep, column + 1 < m)
    ∧ (∀ j, next = .column j → k = j ∧ keyAllowed = true)
    ∧ a.Yields us ⟨rest, k, deep ++ margins, keyAllowed⟩
    ∧ us ++ List.replicate deep.length .blockEnd = ts

theorem Ahead.Yields.leads {a b : Ahead} {ts us : List Token} {next : Next} {rest : List Char}
    {column : Nat} {margins : List Nat} (h : a.Yields ts b)
    (hb : b.Leads us next rest column margins) : a.Leads (ts ++ us) next rest column margins := by
  obtain ⟨deep, k, keyAllowed, us', hdeep, hnext, hyields, rfl⟩ := hb
  exact ⟨deep, k, keyAllowed, ts ++ us', hdeep, hnext, h.trans hyields, List.append_assoc _ _ _⟩

/-- Values lead on with their tokens, wherever they stand behind a key. -/
structure LeadsOn {γ : Type} (Value : Nat → Next → List Char → γ → Prop)
    (tokens : γ → List Token) : Prop where
  blankAhead {column : Nat} {next : Next} {s : List Char} {x : γ} (h : Value column next s x)
    (rest : List Char) (hfinish : next = .finish → rest = []) :
    blankAhead (s ++ rest) = true
  leads {column : Nat} {next : Next} {s rest : List Char} {x : γ} (h : Value column next s x)
    (hrest : LineAhead rest) (hfinish : next = .finish → rest = [])
    (hnext : ∀ k, next = .column k → k ≤ column) {margins : List Nat}
    (hmargin : margins.headD 0 = column + 1) {k : Nat} (hk : column < k) :
    Ahead.Leads ⟨s ++ rest, k, margins, false⟩ (tokens x) next rest column margins

namespace BlockText

variable {γ : Type} {Value : Nat → Next → List Char → γ → Prop} {tokens : γ → List Token}
  {limit column : Nat} {next : Next} {s rest : List Char} {xs : List (String × γ)}

theorem lineAhead (h : BlockText limit Value column next s xs) (rest : List Char) :
    LineAhead (s ++ rest) := by
  cases h with
  | last hkey => simpa using hkey.lineAhead _
  | cons hkey => simpa using hkey.lineAhead _

/-- The entries of a block mapping lead on if their values do. -/
theorem leads (hvalues : LeadsOn Value tokens) (h : BlockText 1024 Value column next s xs)
    (hrest : LineAhead rest) (hfinish : next = .finish → rest = [])
    (hnext : ∀ k, next = .column k → k ≤ column) {deep outer : List Nat}
    (hdeep : ∀ m ∈ deep, column + 1 < m) (houter : outer.headD 0 ≤ column + 1) :
    Ahead.Leads ⟨s ++ rest, column, deep ++ outer, true⟩
      (List.replicate deep.length .blockEnd
        ++ (Ahead.opening outer column ++ xs.flatMap (entryTokens tokens)))
      next rest column (Ahead.opened outer column) := by
  induction h generalizing deep outer with
  | @last key pad s x hkey hvalue =>
    have hyields := hkey.yields (hvalues.blankAhead hvalue rest hfinish) hdeep houter
    have hleads := hvalues.leads hvalue hrest hfinish hnext (Ahead.headD_opened houter)
      (k := column + (key ++ pad).length + 1) (by omega)
    simpa [entryTokens] using hyields.leads hleads
  | @cons key pad s t x xs hkey hvalue hothers ih =>
    have hahead := hothers.lineAhead rest
    have hblank := hvalues.blankAhead hvalue (t ++ rest) (by simp)
    have hyields := hkey.yields hblank hdeep houter
    obtain ⟨deep', k, keyAllowed, us, hdeep', hreached, hfirst, htokens⟩ := hvalues.leads hvalue
      hahead (by simp) (by simp) (Ahead.headD_opened houter)
      (k := column + (key ++ pad).length + 1) (by omega)
    obtain ⟨rfl, rfl⟩ := hreached column rfl
    have hbehind := ih hdeep' (Nat.le_of_eq (Ahead.headD_opened houter))
    rw [Ahead.opening_opened houter, Ahead.opened_opened houter] at hbehind
    have hall := hyields.leads (hfirst.leads hbehind)
    simpa [entryTokens, ← htokens] using hall

/-- The entries of a block mapping that is opened for them. -/
theorem leads_opened (hvalues : LeadsOn Value tokens) (h : BlockText 1024 Value column next s xs)
    (hrest : LineAhead rest) (hfinish : next = .finish → rest = [])
    (hnext : ∀ k, next = .column k → k ≤ column) {margins : List Nat}
    (hmargin : margins.headD 0 ≤ column) :
    Ahead.Leads ⟨s ++ rest, column, margins, true⟩
      (.mappingStart :: xs.flatMap (entryTokens tokens)) next rest column
      ((column + 1) :: margins) := by
  have hnone : ∀ m ∈ ([] : List Nat), column + 1 < m := by simp
  have hleads := h.leads hvalues hrest hfinish hnext hnone (Nat.le_succ_of_le hmargin)
  rwa [Ahead.opening_of_le hmargin, Ahead.opened_of_le hmargin] at hleads

end BlockText

/-- A scalar leads on from behind its colon. -/
theorem leadsOn_scalarText : LeadsOn ScalarText Scalar.tokens where
  blankAhead h rest hfinish := by
    obtain ⟨hw, he⟩ := h
    rw [List.append_assoc]
    cases hw with
    | missing => exact he.blankAhead hfinish
    | plain hblanks hne | single hblanks hne | double hblanks hne =>
      obtain ⟨c, blanks, rfl⟩ := List.exists_cons_of_ne_nil hne
      simp [blankAhead, hblanks c (by simp)]
  leads {column next s rest x} h hrest hfinish hnext margins hmargin k hk := by
    obtain @⟨w, text, e, style, hw, he⟩ := h
    have hinside : margins.headD 0 ≤ k := by omega
    have hbeyond : ∀ j, next = .column j → j < margins.headD 0 := fun j hj => by
      rw [hmargin]
      exact Nat.lt_succ_of_le (hnext j hj)
    obtain ⟨keyAllowed, hcolumn, hyields⟩ :=
      Ahead.exists_yields_inline hw he hrest hfinish hinside hbeyond
    refine ⟨[], columnBehind k (w ++ e), keyAllowed, scalarTokens text style, by simp, ?_, ?_, ?_⟩
    · rintro j rfl
      exact ⟨by rw [columnBehind_append, he.columnBehind], hcolumn j rfl⟩
    · rw [List.append_assoc]
      exact hyields
    · simp [Scalar.tokens]

/-- So does a section, whose lines follow the one of its key. -/
theorem leadsOn_contentText : LeadsOn (ContentText 1024) Content.tokens where
  blankAhead h rest hfinish := by
    cases h with
    | scalar h => exact leadsOn_scalarText.blankAhead h rest hfinish
    | entries he =>
      rw [List.append_assoc]
      exact he.blankAhead (by simp)
  leads {column next s rest x} h hrest hfinish hnext margins hmargin k hk := by
    cases h with
    | scalar h => exact leadsOn_scalarText.leads h hrest hfinish hnext hmargin hk
    | @entries e s indent xs he hindent h =>
      obtain ⟨keyAllowed, hcolumn, hline⟩ := Ahead.exists_yields_lineEnd he (h.lineAhead rest)
        (by simp) k margins
      obtain rfl := hcolumn indent rfl
      rw [he.columnBehind] at hline
      have hinner : margins.headD 0 ≤ indent := by omega
      obtain ⟨deep, j, keyAllowed', us, hdeep, hreached, hyields, htokens⟩ :=
        h.leads_opened leadsOn_scalarText hrest hfinish (fun j hj => Nat.le_trans (hnext j hj)
          (Nat.le_of_lt hindent)) hinner
      refine ⟨deep ++ [indent + 1], j, keyAllowed', us, ?_, hreached, ?_, ?_⟩
      · simp only [List.mem_append, List.mem_singleton]
        rintro m (hm | rfl)
        · have := hdeep m hm
          omega
        · omega
      · simpa using hline.trans hyields
      · rw [List.length_append, List.length_singleton, List.replicate_succ', ← List.append_assoc,
          htokens]
        simp [Content.tokens, mappingTokens]

theorem Beginning.yields {column : Nat} {s rest : List Char} (h : Beginning column s)
    (hrest : LineAhead rest) :
    Ahead.Yields ⟨s ++ rest, 0, [], true⟩ [] ⟨rest, column, [], true⟩ := by
  cases h with
  | bare h =>
    obtain ⟨keyAllowed, hcolumn, hpassed⟩ := h.passes_behind hrest (by simp)
    obtain rfl := hcolumn column rfl
    have hgap : Scan.afterGap false true false (0 == 0) (s ++ rest) = (rest, true) := hpassed _
    have hreached : columnBehind 0 s = column := by
      simpa [columnBehind, isBreak] using h.columnBehind 0
    simpa [hreached] using Ahead.yields_gap hrest hgap []
  | @byteOrder s k h hreached =>
    obtain ⟨keyAllowed, hcolumn, hpassed⟩ := h.passes_behind hrest (by simp)
    obtain rfl := hcolumn k rfl
    have hgap : Scan.afterGap false true false (0 == 0) ('\ufeff' :: s ++ rest) = (rest, true) := by
      simpa [Scan.afterGap, isBreak] using hpassed false
    have hbehind : columnBehind 0 ('\ufeff' :: s) = column := by
      simpa [columnBehind, isBreak] using hreached
    simpa [hbehind] using Ahead.yields_gap hrest hgap []

/-- The lines before the first key are passed, with the token of a mark if there is one. -/
theorem Opening.exists_yields {column : Nat} {o rest : List Char} (h : Opening column o)
    (hrest : LineAhead rest) : ∃ ts, (ts = [] ∨ ts = [.documentStart])
      ∧ Ahead.Yields ⟨o ++ rest, 0, [], true⟩ ts ⟨rest, column, [], true⟩ := by
  cases h with
  | bare h => exact ⟨[], .inl rfl, h.yields hrest⟩
  | @marked s e h he =>
    have hblank : blankAhead (e ++ rest) = true := he.blankAhead (by simp)
    have hnone : ∀ m ∈ ([] : List Nat), 0 < m := by simp
    have hmark := Ahead.yields_mark .start hblank hnone true
    obtain ⟨keyAllowed, hcolumn, hline⟩ := Ahead.exists_yields_lineEnd he hrest (by simp) 3 []
    obtain rfl := hcolumn column rfl
    rw [he.columnBehind] at hline
    refine ⟨[.documentStart], .inr rfl, ?_⟩
    have hall := (h.yields (IsMark.start.lineAhead (e ++ rest))).trans (hmark.trans hline)
    simpa using hall

/-- Behind the last entry every block collection is closed, at the mark of the document's end or at
the end of the text. -/
theorem Closing.exists_yields {next : Next} {e : List Char} (h : Closing next e) {column : Nat}
    {margins : List Nat} {keyAllowed : Bool} (hmargins : ∀ m ∈ margins, 0 < m)
    (hnext : ∀ j, next = .column j → column = j ∧ keyAllowed = true) :
    ∃ ts closing column' margins' keyAllowed', (∀ t ∈ closing, t = .documentEnd)
      ∧ (∀ m ∈ margins', 0 < m)
      ∧ Ahead.Yields ⟨e, column, margins, keyAllowed⟩ ts ⟨[], column', margins', keyAllowed'⟩
      ∧ ts ++ List.replicate margins'.length .blockEnd
        = List.replicate margins.length .blockEnd ++ closing := by
  cases h with
  | bare =>
    have hgap : Scan.afterGap false keyAllowed false (column == 0) ([] ++ []) = ([], keyAllowed) :=
      rfl
    exact ⟨[], [], _, margins, keyAllowed, by simp, hmargins,
      Ahead.yields_gap lineAhead_nil hgap margins, by simp⟩
  | @marked e he =>
    obtain ⟨rfl, rfl⟩ := hnext 0 rfl
    have hblank : blankAhead (e ++ []) = true := he.blankAhead (fun _ => rfl)
    have hmark := Ahead.yields_mark .finish hblank hmargins true
    obtain ⟨keyAllowed, -, hline⟩ :=
      Ahead.exists_yields_lineEnd he lineAhead_nil (fun _ => rfl) 3 []
    rw [List.append_nil] at hmark hline
    exact ⟨_, [.documentEnd], _, [], keyAllowed, by simp, by simp, hmark.trans hline, by simp⟩

theorem Closing.lineAhead {next : Next} {e : List Char} (h : Closing next e) : LineAhead e := by
  cases h with
  | bare => exact lineAhead_nil
  | marked => exact IsMark.finish.lineAhead _

/-- The tokens of a text that is a block mapping. -/
theorem SpellsOut.exists_ofText {t : String} {xs : List (String × Content)}
    (h : SpellsOut 1024 t xs) :
    ∃ (placed : List PlacedToken) (p : Position) (opening closing : List Token),
      (opening = [] ∨ opening = [.documentStart]) ∧ (∀ t ∈ closing, t = .documentEnd)
      ∧ TokenRun.ofText t = ⟨placed, .ok p⟩
      ∧ placed.map (·.token) = opening ++ (mappingTokens Content.tokens xs ++ closing) := by
  obtain ⟨hreadable, htext⟩ := h
  generalize hs : withPlainBreaks t.toList = s at htext
  obtain @⟨o, s, e, column, next, xs, ho, h, he⟩ := htext
  have hne : o ++ (s ++ e) ≠ [] := by
    cases h with
    | last hkey => simp
    | cons hkey => simp
  have houter : ([] : List Nat).headD 0 ≤ column := Nat.zero_le column
  obtain ⟨opening, hopening, hstart⟩ := ho.exists_yields (h.lineAhead e)
  obtain ⟨deep, k, keyAllowed, us, hdeep, hreached, hyields, htokens⟩ :=
    h.leads_opened leadsOn_contentText he.lineAhead (by rintro rfl; cases he; rfl)
      (by rintro k rfl; cases he; exact Nat.zero_le _) houter
  have hmargins : ∀ m ∈ deep ++ [column + 1], 0 < m := by
    simp only [List.mem_append, List.mem_singleton]
    rintro m (hm | rfl)
    · exact Nat.zero_lt_of_lt (hdeep m hm)
    · exact Nat.succ_pos _
  obtain ⟨ends, closing, column', margins', keyAllowed', hclosing, hmargins', hclose, hends⟩ :=
    he.exists_yields hmargins hreached
  obtain ⟨placed, p, hrun, hplaced⟩ := TokenRun.exists_ofText hreadable hs hne hmargins'
    (hstart.trans (hyields.trans hclose))
  refine ⟨placed, p, opening, closing, hopening, hclosing, hrun, ?_⟩
  calc placed.map (·.token)
      = opening ++ (us ++ (ends ++ List.replicate margins'.length .blockEnd)) := by
        rw [hplaced]
        simp
    _ = opening ++ ((us ++ List.replicate deep.length .blockEnd) ++ ([.blockEnd] ++ closing)) := by
        rw [hends, List.length_append, List.length_singleton, List.replicate_succ']
        simp
    _ = opening ++ (mappingTokens Content.tokens xs ++ closing) := by
        rw [htokens]
        simp [mappingTokens]

/-! ### Nodes -/

/-- A node that shows a scalar. -/
def Scalar.Shown (x : Scalar) (y : Node) : Prop := y.IsScalar x.text.toList x.style

/-- A node that shows what an entry holds. -/
def Content.Shown : Content → Node → Prop
  | scalar x => x.Shown
  | entries xs => MappingShown Scalar.Shown xs

namespace Assembly

theorem assembles_scalars : Assembles Scalar.tokens Scalar.Shown := by
  intro x us hus finish
  by_cases hmissing : x.text.toList = [] ∧ x.style = .plain
  · rw [Scalar.tokens, scalarTokens, if_pos hmissing, List.map_eq_nil_iff] at hus
    subst hus
    refine ⟨.missing finish, ⟨finish, by rw [hmissing.1, hmissing.2]; rfl⟩, ?_⟩
    intro n t _ ht rest c
    rw [valuePart, List.nil_append, ask_having, if_pos ht]
  · rw [Scalar.tokens, scalarTokens, if_neg hmissing] at hus
    exact assembles_scalar (fun x : Scalar => x.text.toList) Scalar.style hus finish

theorem assembles_contents : Assembles Content.tokens Content.Shown := by
  rintro (x | xs) us hus
  · exact assembles_scalars hus
  · exact assembles_mapping assembles_scalars hus

end Assembly

/-- The document of a text that is a block mapping. -/
theorem SpellsOut.exists_document {t : String} {xs : List (String × Content)}
    (h : SpellsOut 1024 t xs) :
    ∃ start ps, List.Forall₂ (EntryShown Content.Shown) xs ps
      ∧ Document.ofText t = { root := some (.mapping { start } ps) } := by
  obtain ⟨placed, p, opening, closing, hopening, hclosing, hrun, hplaced⟩ := h.exists_ofText
  obtain ⟨start, ps, hps, hdocument⟩ :=
    TokenRun.exists_document Assembly.assembles_contents hopening hclosing hplaced p
  exact ⟨start, ps, hps, by rw [Document.ofText, hrun, hdocument]⟩

end TransactionGateway.Yaml
