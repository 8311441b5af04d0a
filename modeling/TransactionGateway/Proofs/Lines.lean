import TransactionGateway.Proofs.Scanning

/-! # Lines of a block mapping as tokens

The lines of a block mapping are taken as its tokens, line by line.

* **Places.** Between two tokens a state is told by what is ahead, the column, the margins of the
  open block collections and whether a key may stand there (`Ahead`); the line, the octets and the
  tokens handed out do not matter. From one place to another tokens are taken (`Ahead.Yields`), with
  fewer of them to come at each place, so a run is long enough for the whole text.
* **Values.** A written text is read as a scalar whatever line follows (`Ahead.ReadsAs`): plainly,
  in quotes of either kind, or literally. A literal text is read so at the left margin alone, where
  the line that ends it begins.
* **Entries.** A plain key of at most 1024 octets and such a value are an entry (`Entry.IsRead`).
  The first entry at a column opens a block mapping (`opening`), and the others belong to it
  (`yields_entries`); a section is the value of a key and further to the right (`yields_section`).
* **End.** At the end of the text every open collection is closed, so a text that is taken to its
  end has the tokens taken and these ends (`TokenRun.exists_ofText`). -/

namespace TransactionGateway.Yaml

/-! ### Places between tokens -/

/-- What the text goes on with between two tokens: at a column, inside block collections with some
margins, and where a key may stand or not. -/
structure Ahead where
  text : List Char
  column : Nat
  margins : List Nat
  keyAllowed : Bool

/-- The text goes on with what is no part of a gap, or is at its end. -/
def LineAhead (s : List Char) : Prop :=
  ∀ c ∈ s.head?, isBlank c = false ∧ isBreak c = false ∧ c ≠ '#' ∧ c ≠ '\ufeff'

theorem lineAhead_nil : LineAhead [] := by simp [LineAhead]

theorem LineAhead.content {s : List Char} (h : LineAhead s) : ContentAhead s :=
  fun c hc => ⟨(h c hc).1, (h c hc).2.1⟩

theorem LineAhead.of_stands {s after : List Char} (h : Plain.Stands s after) :
    LineAhead (s ++ after) := by
  obtain ⟨c, r, rfl⟩ := List.exists_cons_of_ne_nil h.ne_nil
  have hbegin := h.begins
  rw [List.cons_append] at hbegin
  obtain ⟨-, hblank, hbreak, hspecial⟩ := Plain.mayBegin_cons hbegin
  rintro d hd
  obtain rfl : c = d := by simpa using hd
  refine ⟨hblank, hbreak, ?_, ?_⟩
  · rintro rfl
    simp at hspecial
  · rintro rfl
    exact h.unmarked rfl

theorem LineAhead.of_fits {s : List Char} (h : Plain.Fits s) (after : List Char) :
    LineAhead (s ++ after) := .of_stands (h.stands after)

/-- The spaces that indent a line. -/
abbrev spaces (k : Nat) : List Char := List.replicate k ' '

namespace Ahead

/-- The state at a place. -/
def state (a : Ahead) (line octets handed : Nat) : Scan :=
  { cursor := ⟨a.text, line, a.column, octets⟩, handed, margins := a.margins,
    keyAllowed := a.keyAllowed }

theorem settled_state (a : Ahead) (line octets handed : Nat) :
    (a.state line octets handed).Settled := ⟨rfl, rfl⟩

/-- A bound for the tokens still to come and the ends of the collections that are open. -/
def size (a : Ahead) : Nat := 4 * a.text.length + a.margins.length

/-- From one place to another these tokens are taken, in whatever line and after whatever tokens. -/
structure Yields (a : Ahead) (ts : List Token) (b : Ahead) : Prop where
  fewer : ts.length + b.size ≤ a.size
  tokens : ∀ line octets handed, ∃ line' octets' handed',
    (a.state line octets handed).Yields ts (b.state line' octets' handed')

theorem Yields.trans {a b c : Ahead} {ts us : List Token} (ha : a.Yields ts b)
    (hb : b.Yields us c) : a.Yields (ts ++ us) c where
  fewer := by
    have := ha.fewer
    have := hb.fewer
    rw [List.length_append]
    omega
  tokens line octets handed := by
    obtain ⟨_, _, _, h⟩ := ha.tokens line octets handed
    obtain ⟨_, _, _, h'⟩ := hb.tokens _ _ _
    exact ⟨_, _, _, h.trans h'⟩

/-- A state in which one token waits. -/
def withToken (a : Ahead) (t : PlacedToken) (line octets handed : Nat) : Scan :=
  { a.state line octets handed with waiting := [t] }

/-- The token of the text before a rest, taken at a place. -/
theorem exists_emit (consumed rest : List Char) (column : Nat) (margins : List Nat)
    (keyAllowed keyAllowed' : Bool) (token : Token) (line octets handed : Nat) :
    ∃ line' octets' start finish,
      ((((⟨consumed ++ rest, column, margins, keyAllowed⟩ : Ahead).state line octets handed).reach
          rest).allowKey keyAllowed').emit ⟨line, column⟩ token
        = withToken ⟨rest, columnBehind column consumed, margins, keyAllowed'⟩
            ⟨token, start, finish⟩ line' octets' handed := by
  obtain ⟨line', octets', hskip⟩ := Cursor.exists_skip consumed rest line column octets
  refine ⟨line', octets', ⟨line, column⟩, ⟨line', columnBehind column consumed⟩, ?_⟩
  rw [← Cursor.reach_append] at hskip
  simp [Scan.reach, state, hskip, Scan.allowKey, Scan.emit, withToken, Scan.position,
    Cursor.position]

/-! ### Gaps -/

theorem afterGap_rest {rest : List Char} (hrest : LineAhead rest) (keyAllowed atLineStart : Bool) :
    Scan.afterGap false keyAllowed false atLineStart rest = (rest, keyAllowed) := by
  cases rest with
  | nil => rfl
  | cons c r =>
    obtain ⟨hblank, hbreak, hhash, hmark⟩ := hrest c rfl
    simp only [isBlank, Bool.or_eq_false_iff, beq_eq_false_iff_ne] at hblank
    simp [Scan.afterGap, hblank, hbreak, hhash, hmark]

/-- Blanks are passed; a tab only where no key may stand. -/
theorem exists_afterGap_blanks (keyAllowed : Bool) {s : List Char}
    (hs : ∀ c ∈ s, c = ' ' ∨ c = '\t' ∧ keyAllowed = false) (t : List Char) (atLineStart : Bool) :
    ∃ atLineStart', Scan.afterGap false keyAllowed false atLineStart (s ++ t)
      = Scan.afterGap false keyAllowed false atLineStart' t := by
  induction s generalizing atLineStart with
  | nil => exact ⟨atLineStart, rfl⟩
  | cons c s ih =>
    obtain ⟨atLineStart', ih⟩ := ih (fun d hd => hs d (by simp [hd])) false
    refine ⟨atLineStart', ?_⟩
    obtain rfl | ⟨rfl, rfl⟩ := hs c (by simp)
    · simpa [Scan.afterGap, isBreak] using ih
    · simpa [Scan.afterGap, isBreak] using ih

theorem afterGap_spaces {rest : List Char} (hrest : LineAhead rest) (keyAllowed : Bool) (k : Nat)
    (atLineStart : Bool) :
    Scan.afterGap false keyAllowed false atLineStart (spaces k ++ rest) = (rest, keyAllowed) := by
  obtain ⟨atLineStart', h⟩ := exists_afterGap_blanks keyAllowed
    (fun c hc => .inl (List.eq_of_mem_replicate hc)) rest atLineStart
  rw [h, afterGap_rest hrest]

theorem afterGap_blanks {blanks rest : List Char} (hblanks : AllBlank blanks)
    (hrest : LineAhead rest) (atLineStart : Bool) :
    Scan.afterGap false false false atLineStart (blanks ++ rest) = (rest, false) := by
  obtain ⟨atLineStart', h⟩ := exists_afterGap_blanks false
    (fun c hc => by simpa [isBlank] using hblanks c hc) rest atLineStart
  rw [h, afterGap_rest hrest]

theorem exists_passGap {gap rest : List Char} {column : Nat} {keyAllowed keyAllowed' : Bool}
    (h : Scan.afterGap false keyAllowed false (column == 0) (gap ++ rest) = (rest, keyAllowed'))
    (margins : List Nat) (line octets handed : Nat) :
    ∃ line' octets',
      ((⟨gap ++ rest, column, margins, keyAllowed⟩ : Ahead).state line octets handed).passGap
        = (⟨rest, columnBehind column gap, margins, keyAllowed'⟩ : Ahead).state line' octets'
            handed := by
  obtain ⟨line', octets', hskip⟩ := Cursor.exists_skip gap rest line column octets
  rw [← Cursor.reach_append] at hskip
  refine ⟨line', octets', ?_⟩
  simp only [Scan.passGap, Scan.inFlow, state, List.isEmpty_nil, Bool.not_true, h, Scan.reach,
    Scan.allowKey, hskip]

theorem passGap_of_lineAhead {t : Scan} (h : LineAhead t.cursor.rest) (ht : t.levels = []) :
    t.passGap = t := by
  have hgap := afterGap_rest h t.keyAllowed (t.cursor.column == 0)
  obtain ⟨⟩ := t
  cases ht
  simp_all [Scan.passGap, Scan.inFlow, Scan.reach, Scan.allowKey]

theorem passGap_rest {a : Ahead} (h : LineAhead a.text) (line octets handed : Nat) :
    (a.state line octets handed).passGap = a.state line octets handed := passGap_of_lineAhead h rfl

/-- A gap between two tokens. -/
theorem yields_gap {gap rest : List Char} (hrest : LineAhead rest) {column : Nat}
    {keyAllowed keyAllowed' : Bool}
    (h : Scan.afterGap false keyAllowed false (column == 0) (gap ++ rest) = (rest, keyAllowed'))
    (margins : List Nat) :
    Yields ⟨gap ++ rest, column, margins, keyAllowed⟩ []
      ⟨rest, columnBehind column gap, margins, keyAllowed'⟩ where
  fewer := by simp only [size, List.length_append, List.length_nil]; omega
  tokens line octets handed := by
    obtain ⟨line', octets', hgap⟩ := exists_passGap h margins line octets handed
    exact ⟨line', octets', handed,
      (Scan.sameRun_of_passGap rfl rfl (hgap.trans (passGap_rest hrest _ _ _).symm)).done⟩

/-- The end of a line and the indentation of the next one. -/
theorem yields_line {rest : List Char} (hrest : LineAhead rest) (k column : Nat)
    (margins : List Nat) (keyAllowed : Bool) :
    Yields ⟨'\n' :: (spaces k ++ rest), column, margins, keyAllowed⟩ []
      ⟨rest, k, margins, true⟩ := by
  have hcolumn := columnBehind_line (c := '\n') rfl [] k column
  have hpassed : Scan.afterGap false keyAllowed false (column == 0) ('\n' :: spaces k ++ rest)
      = (rest, true) := by
    simpa [Scan.afterGap, isBreak] using afterGap_spaces hrest true k true
  have hyields := yields_gap hrest hpassed margins
  rw [List.nil_append] at hcolumn
  rwa [hcolumn] at hyields

/-! ### Values -/

/-- A token taken at a place, with no key to come before it. -/
theorem yields_of_take {a b : Ahead} {token : Token} (hsize : b.size + 1 ≤ a.size)
    (htoken : token ≠ .textEnd)
    (h : ∀ line octets handed, ∃ line' octets' start finish,
      (a.state line octets handed).take
        = .ok (b.withToken ⟨token, start, finish⟩ line' octets' handed)) :
    a.Yields [token] b where
  fewer := by simpa [Nat.add_comm] using hsize
  tokens line octets handed := by
    obtain ⟨line', octets', start, finish, htake⟩ := h line octets handed
    refine ⟨line', octets', handed + 1, ?_⟩
    refine (Scan.sameRun_take rfl htake ⟨rfl, rfl⟩ (by simp [withToken])).yields ?_
    exact Scan.Settled.yields ⟨rfl, rfl⟩ [⟨token, start, finish⟩] [] rfl (by simpa using htoken)

/-! ### Keys -/

/-- The start of a block mapping for entries at a column, unless one is open for them. -/
def opening (margins : List Nat) (column : Nat) : List Token :=
  if margins.headD 0 ≤ column then [.mappingStart] else []

/-- The margins once a block mapping is open for entries at a column. -/
def opened (margins : List Nat) (column : Nat) : List Nat :=
  if margins.headD 0 ≤ column then (column + 1) :: margins else margins

/-- The state in which a plain key with blanks behind it waits for its colon, after the ends of the
block collections that it has closed. -/
def keyState (key pad r : List Char) (column : Nat) (deep outer : List Nat)
    (line octets handed : Nat) : Scan where
  cursor := ⟨':' :: r, line, column + (key ++ pad).length, octets + octetCount (key ++ pad)⟩
  waiting := List.replicate deep.length ⟨.blockEnd, ⟨line, column⟩, ⟨line, column⟩⟩
    ++ [⟨.scalar key .plain, ⟨line, column⟩, ⟨line, column + (key ++ pad).length⟩⟩]
  handed := handed
  margins := outer
  keyAllowed := false
  possible := some ⟨handed + deep.length, ⟨line, column⟩, octets, outer.headD 0 == column + 1⟩

/-- The state behind a key and its colon. -/
def valueState (key pad r : List Char) (column : Nat) (margins : List Nat)
    (line octets handed : Nat) : Scan where
  cursor := ⟨r, line, column + (key ++ pad).length + 1, octets + octetCount (key ++ pad) + 1⟩
  waiting := (opening margins column).map (⟨·, ⟨line, column⟩, ⟨line, column⟩⟩)
    ++ [⟨.key, ⟨line, column⟩, ⟨line, column⟩⟩,
      ⟨.scalar key .plain, ⟨line, column⟩, ⟨line, column + (key ++ pad).length⟩⟩,
      ⟨.value, ⟨line, column + (key ++ pad).length⟩, ⟨line, column + (key ++ pad).length + 1⟩⟩]
  handed := handed
  margins := opened margins column
  keyAllowed := false

section Key

variable {key pad r : List Char} {column : Nat} {deep outer : List Nat}

/-- A plain text where a key may stand, before a colon. The block collections further to the right
are closed. -/
theorem take_key (hkey : Plain.Stands key (pad ++ ':' :: r)) (hpad : AllBlank pad)
    (hr : blankAhead r = true)
    (hmark : column = 0 → documentMarkAhead (key ++ (pad ++ ':' :: r)) = false)
    (hdeep : ∀ m ∈ deep, column + 1 < m) (houter : outer.headD 0 ≤ column + 1)
    (line octets handed : Nat) :
    ((⟨key ++ (pad ++ ':' :: r), column, deep ++ outer, true⟩ : Ahead).state line octets
        handed).take = .ok (keyState key pad r column deep outer line octets handed) := by
  let s :=
    (⟨key ++ (pad ++ ':' :: r), column, deep ++ outer, true⟩ : Ahead).state line octets handed
  let t : Scan := { s with
    waiting := List.replicate deep.length ⟨.blockEnd, ⟨line, column⟩, ⟨line, column⟩⟩
    margins := outer }
  have hclose : s.closeTo (column + 1) = t := Scan.closeTo_append rfl rfl hdeep houter
  have htoken : s.take = t.takeToken := by
    have hgap : s.passGap = s := passGap_rest (LineAhead.of_stands hkey) line octets handed
    rw [Scan.take, hgap, (settled_state _ _ _ _ : s.Settled).expireKeys]
    exact congrArg Scan.takeToken hclose
  have hread : Plain.read false (outer.headD 0) (key ++ (pad ++ ':' :: r))
      = .ok ⟨key, false, ':' :: r⟩ := hkey.read_append (Plain.endsAt_colon hpad hr)
  have hunbroken : (key ++ pad).any isBreak = false := by
    rw [List.any_append, Plain.unbroken_of_extendsTo hkey.goesOn, hpad.unbroken, Bool.false_or]
  have hskip := Cursor.skip_unbroken hunbroken (':' :: r) line column octets
  rw [← Cursor.reach_append, List.append_assoc] at hskip
  rw [htoken, Scan.takeToken_plain rfl hkey hmark rfl, Scan.takePlain,
    Scan.keepKey_of_allowed rfl ⟨rfl, rfl⟩]
  simp only [t, s, state, Scan.margin, Scan.inFlow, List.isEmpty_nil, Bool.not_true, bind,
    Except.bind, hread, Scan.taking, Scan.reach, hskip, pure, Except.pure]
  simp [keyState, Scan.allowKey, Scan.emit, Scan.place, Scan.position, Cursor.position]

theorem fresh_keyState (hshort : octetCount (key ++ pad) ≤ 1024) (line octets handed : Nat) :
    (keyState key pad r column deep outer line octets handed).Fresh where
  levels := rfl
  possible := by
    have hstale : ¬(line < line ∨ octets + 1024 < octets + octetCount (key ++ pad)) := by omega
    have hfresh : Scan.isStale
        ⟨':' :: r, line, column + (key ++ pad).length, octets + octetCount (key ++ pad)⟩
        ⟨handed + deep.length, ⟨line, column⟩, octets, outer.headD 0 == column + 1⟩ = false := by
      simpa [Scan.isStale] using hstale
    simp only [Scan.expire, keyState, hfresh]
    rfl

theorem take_colon (hshort : octetCount (key ++ pad) ≤ 1024) (hr : blankAhead r = true)
    (houter : outer.headD 0 ≤ column + 1) (line octets handed : Nat) :
    (keyState key pad r column [] outer line octets handed).take
      = .ok (valueState key pad r column outer line octets handed) := by
  let s := keyState key pad r column [] outer line octets handed
  have hgap : s.passGap = s :=
    passGap_of_lineAhead (by simp [LineAhead, s, keyState, isBlank, isBreak]) rfl
  have hclose : s.closeTo (column + (key ++ pad).length + 1) = s :=
    Scan.closeTo_of_le rfl (Nat.le_trans houter (by omega))
  have htoken : s.takeToken = s.takeValue := by
    simp [s, Scan.takeToken, keyState, startMarkAhead, endMarkAhead, hr]
  have htake : s.take = s.takeValue := by
    rw [Scan.take, hgap, (fresh_keyState hshort line octets handed : s.Fresh).expireKeys]
    exact (congrArg Scan.takeToken hclose).trans htoken
  rw [htake]
  by_cases hopen : outer.headD 0 ≤ column
  all_goals
    simp only [s, Scan.takeValue, keyState, Scan.emitAt, Scan.openAt, Scan.inFlow, Scan.margin,
      Scan.takeSign, Scan.next, Scan.allowKey, Scan.emit, Scan.position, Cursor.position,
      valueState, opening, opened, List.length_nil, Nat.add_zero, List.replicate_zero,
      List.nil_append, Nat.sub_self, hopen]
    rfl

theorem ready_keyState (hshort : octetCount (key ++ pad) ≤ 1024) (hr : blankAhead r = true)
    (houter : outer.headD 0 ≤ column + 1) (line octets handed rounds : Nat) :
    (keyState key pad r column [] outer line octets handed).ready (rounds + 1)
      = .ok (valueState key pad r column outer line octets handed) :=
  (fresh_keyState hshort line octets handed).ready_of_take (by simp [keyState])
    (by simp [Scan.mayPrecede, keyState]) (take_colon hshort hr houter line octets handed)
    ⟨rfl, rfl⟩ (by simp [valueState]) rounds

/-- The key itself, once the ends before it have been handed out. -/
theorem yields_keyState (hshort : octetCount (key ++ pad) ≤ 1024) (hr : blankAhead r = true)
    (houter : outer.headD 0 ≤ column + 1) (line octets handed : Nat) :
    (keyState key pad r column [] outer line octets handed).Yields
      (opening outer column ++ [.key, .scalar key .plain, .value])
      ((⟨r, column + (key ++ pad).length + 1, opened outer column, false⟩ : Ahead).state line
        (octets + octetCount (key ++ pad) + 1) (handed + ((opening outer column).length + 3))) := by
  let u := valueState key pad r column outer line octets handed
  have hvalue : (keyState key pad r column [] outer line octets handed).SameRun u :=
    Scan.sameRun_of_ready fun rounds => by
      rw [ready_keyState hshort hr houter, Scan.Settled.ready ⟨rfl, rfl⟩ (by simp [u, valueState])]
  have hopening : ∀ t ∈ opening outer column, t ≠ .textEnd := by
    unfold opening
    split <;> simp
  have hend : ∀ t ∈ u.waiting, t.token ≠ .textEnd := by
    simp only [u, valueState, List.mem_append, List.mem_map, List.mem_cons, List.not_mem_nil,
      or_false]
    rintro t (⟨u, hu, rfl⟩ | rfl | rfl | rfl)
    · exact hopening u hu
    · simp
    · simp
    · simp
  have hyields := hvalue.yields (Scan.Settled.yields ⟨rfl, rfl⟩ _ [] (List.append_nil _).symm hend)
  simpa [u, valueState, state, Function.comp_def] using hyields

/-- The ends of the block collections that a key closes come before it. -/
theorem yields_ends (hshort : octetCount (key ++ pad) ≤ 1024) (line octets handed : Nat) :
    (keyState key pad r column deep outer line octets handed).Yields
      (List.replicate deep.length .blockEnd)
      (keyState key pad r column [] outer line octets (handed + deep.length)) := by
  have hplace : ∀ k, (keyState key pad r column deep outer line octets handed).possible = some k →
      handed + (List.replicate deep.length (⟨.blockEnd, ⟨line, column⟩, ⟨line, column⟩⟩ :
        PlacedToken)).length ≤ k.place := by
    intro k hk
    obtain rfl := Option.some.inj hk
    exact Nat.add_le_add_left (Nat.le_of_eq List.length_replicate) _
  have hyields := (fresh_keyState hshort line octets handed).yields _ _ rfl hplace (by simp)
  rw [List.map_replicate, List.length_replicate] at hyields
  exact hyields

theorem sameRun_keyState (hkey : Plain.Stands key (pad ++ ':' :: r))
    (hpad : AllBlank pad) (hshort : octetCount (key ++ pad) ≤ 1024)
    (hr : blankAhead r = true)
    (hmark : column = 0 → documentMarkAhead (key ++ (pad ++ ':' :: r)) = false)
    (hdeep : ∀ m ∈ deep, column + 1 < m) (houter : outer.headD 0 ≤ column + 1)
    (line octets handed : Nat) :
    ((⟨key ++ (pad ++ ':' :: r), column, deep ++ outer, true⟩ : Ahead).state line octets
      handed).SameRun (keyState key pad r column deep outer line octets handed) := by
  refine Scan.sameRun_take_of_ready rfl
    (take_key hkey hpad hr hmark hdeep houter line octets handed) fun rounds => ?_
  cases deep with
  | nil =>
    rw [ready_keyState hshort hr houter, ready_keyState hshort hr houter]
  | cons m deep =>
    -- The key is not the first token that waits.
    have hfresh : (keyState key pad r column (m :: deep) outer line octets handed).Fresh :=
      fresh_keyState hshort line octets handed
    have hready := hfresh.ready (by simp [keyState]) (by simp [keyState])
    rw [hready, hready]

/-- A key and its colon. -/
theorem yields_key (hkey : Plain.Stands key (pad ++ ':' :: r)) (hpad : AllBlank pad)
    (hshort : octetCount (key ++ pad) ≤ 1024) (hr : blankAhead r = true)
    (hmark : column = 0 → documentMarkAhead (key ++ (pad ++ ':' :: r)) = false)
    (hdeep : ∀ m ∈ deep, column + 1 < m) (houter : outer.headD 0 ≤ column + 1) :
    Yields ⟨key ++ (pad ++ ':' :: r), column, deep ++ outer, true⟩
      (List.replicate deep.length .blockEnd
        ++ (opening outer column ++ [.key, .scalar key .plain, .value]))
      ⟨r, column + (key ++ pad).length + 1, opened outer column, false⟩ where
  fewer := by
    have hlength := List.length_pos_iff.mpr hkey.ne_nil
    simp only [size, opening, opened]
    split <;> simp <;> omega
  tokens line octets handed :=
    ⟨_, _, _, (sameRun_keyState hkey hpad hshort hr hmark hdeep houter line octets handed).yields
      ((yields_ends hshort line octets handed).trans (yields_keyState hshort hr houter _ _ _))⟩

/-- A key that fits the plain style, in a block mapping that is open or opened here. -/
theorem yields_key_fits (hkey : Plain.Fits key) (hshort : octetCount key ≤ 1024)
    (hr : blankAhead r = true) (houter : outer.headD 0 ≤ column + 1) :
    Yields ⟨key ++ ':' :: r, column, outer, true⟩
      (opening outer column ++ [.key, .scalar key .plain, .value])
      ⟨r, column + key.length + 1, opened outer column, false⟩ := by
  have hnone : ∀ m ∈ ([] : List Nat), column + 1 < m := by simp
  have hyields := yields_key (hkey.stands (':' :: r)) allBlank_nil (by simpa using hshort) hr
    (fun _ => hkey.no_mark (by simp)) hnone houter
  simpa using hyields

end Key

/-- A text behind the colon of a key, in its line or from there on, that is read as one scalar,
whatever line comes after it. -/
def ReadsAs (margin : Nat) (written text : List Char) (style : Style) : Prop :=
  ∀ (column k : Nat) (margins : List Nat) (rest : List Char), margins.headD 0 = margin →
    margin ≤ column → k < margin → LineAhead rest →
    Yields ⟨' ' :: (written ++ (spaces k ++ rest)), column, margins, false⟩ [.scalar text style]
      ⟨rest, k, margins, true⟩

/-- The place behind the blanks that follow a colon. -/
theorem exists_take_value {blanks written rest : List Char} (hblanks : AllBlank blanks)
    (hwritten : LineAhead (written ++ rest)) {column : Nat} {margins : List Nat}
    (hmargin : margins.headD 0 ≤ column) (line octets handed : Nat) :
    ∃ line' octets',
      ((⟨blanks ++ (written ++ rest), column, margins, false⟩ : Ahead).state line octets
          handed).take
        = ((⟨written ++ rest, columnBehind column blanks, margins, false⟩ : Ahead).state line'
            octets' handed).takeToken := by
  obtain ⟨line', octets', hgap⟩ := exists_passGap (afterGap_blanks hblanks hwritten (column == 0))
    margins line octets handed
  refine ⟨line', octets', Scan.take_of_settled hgap ⟨rfl, rfl⟩ (Nat.le_trans hmargin ?_)⟩
  rw [columnBehind_unbroken hblanks.unbroken]
  simp [state]
  omega

/-- A plain scalar behind a colon, read up to where it ends. -/
theorem yields_plain {blanks s after rest : List Char} (hblanks : AllBlank blanks)
    (hne : blanks ≠ []) (hs : Plain.Stands s after) {column : Nat} {margins : List Nat}
    (hmargin : margins.headD 0 ≤ column) {endsLine : Bool} {consumed : List Char}
    (hafter : after = consumed ++ rest)
    (hend : Plain.EndsAt (margins.headD 0) endsLine after rest) :
    Yields ⟨blanks ++ (s ++ after), column, margins, false⟩ [.scalar s .plain]
      ⟨rest, columnBehind column (blanks ++ (s ++ consumed)), margins, endsLine⟩ := by
  refine yields_of_take ?_ (by simp) fun line octets handed => ?_
  · have := List.length_pos_iff.mpr hne
    simp [size, hafter]
    omega
  · obtain ⟨line₁, octets₁, htake⟩ :=
      exists_take_value hblanks (LineAhead.of_stands hs) hmargin line octets handed
    have hread := hs.read_append hend
    have hcolumn := columnBehind_unbroken hblanks.unbroken column
    have hlength := List.length_pos_iff.mpr hne
    obtain ⟨line', octets', start, finish, hemit⟩ := exists_emit (s ++ consumed) rest
      (columnBehind column blanks) margins false endsLine (.scalar s .plain) line₁ octets₁ handed
    refine ⟨line', octets', start, finish, ?_⟩
    let t := (⟨s ++ after, columnBehind column blanks, margins, false⟩ : Ahead).state line₁ octets₁
      handed
    have hmark : t.cursor.column = 0 → documentMarkAhead (s ++ after) = false := fun h0 => by
      simp only [t, state, hcolumn] at h0
      omega
    have hplain : t.takePlain = .ok (((t.reach rest).allowKey endsLine).emit t.position
        (.scalar s .plain)) := Scan.takePlain_of_read rfl rfl rfl ⟨rfl, rfl⟩ hread
    rw [htake, Scan.takeToken_plain rfl hs hmark rfl, hplain, columnBehind_append, ← hemit]
    simp only [t, hafter, List.append_assoc]
    rfl

theorem readsAs_plain {s : List Char} (hs : Plain.Fits s) (margin : Nat) :
    ReadsAs margin (s ++ ['\n']) s .plain := by
  intro column k margins rest hmargins hcolumn hk hrest
  have hend := Plain.endsAt_line hrest.content (hmargins.symm ▸ hk)
  have hafter : '\n' :: (spaces k ++ rest) = ('\n' :: spaces k) ++ rest := rfl
  have hyields :=
    yields_plain allBlank_space (by simp) (hs.stands _) (hmargins ▸ hcolumn) hafter hend
  have hbehind := columnBehind_line (c := '\n') rfl (' ' :: s) k column
  simp only [List.append_assoc, List.cons_append, List.nil_append] at hyields hbehind ⊢
  rwa [hbehind] at hyields

/-- A scalar behind a colon and a sign of its own, read to a rest. -/
theorem yields_enclosed {blanks : List Char} {sign : Char} {body text rest : List Char}
    {style : Style} {column : Nat} {margins : List Nat} {keyAllowed : Bool}
    (hblanks : AllBlank blanks) (hsign : LineAhead [sign]) (hmargin : margins.headD 0 ≤ column)
    (htake : ∀ t : Scan, t.cursor.rest = sign :: (body ++ rest) → t.margin = margins.headD 0 →
      t.keyAllowed = false → t.Settled → t.takeToken = .ok (((t.reach rest).allowKey
        keyAllowed).emit t.position (.scalar text style))) :
    Yields ⟨blanks ++ sign :: (body ++ rest), column, margins, false⟩ [.scalar text style]
      ⟨rest, columnBehind column (blanks ++ sign :: body), margins, keyAllowed⟩ := by
  refine yields_of_take (by simp [size]; omega) (by simp) fun line octets handed => ?_
  have hahead : LineAhead ((sign :: body) ++ rest) := by simpa [LineAhead] using hsign
  obtain ⟨line₁, octets₁, htaken⟩ := exists_take_value hblanks hahead hmargin line octets handed
  obtain ⟨line', octets', start, finish, hemit⟩ := exists_emit (sign :: body) rest
    (columnBehind column blanks) margins false keyAllowed (.scalar text style) line₁ octets₁ handed
  refine ⟨line', octets', start, finish, ?_⟩
  rw [List.cons_append] at htaken
  rw [htaken, htake _ rfl rfl rfl ⟨rfl, rfl⟩, columnBehind_append]
  exact congrArg Except.ok hemit

theorem yields_single {blanks body text rest : List Char} (hblanks : AllBlank blanks)
    {column : Nat} {margins : List Nat} (hmargin : margins.headD 0 ≤ column)
    (hread : Quoted.readSingle (body ++ rest) = .ok (text, rest)) :
    Yields ⟨blanks ++ '\'' :: (body ++ rest), column, margins, false⟩ [.scalar text .singleQuoted]
      ⟨rest, columnBehind column (blanks ++ '\'' :: body), margins, false⟩ :=
  yields_enclosed hblanks (by simp [LineAhead, isBlank, isBreak]) hmargin fun t ht _ hkey _ => by
    rw [← Scan.takeQuoted_of_read ht hkey hread]
    simp [Scan.takeToken, ht, startMarkAhead, endMarkAhead]

theorem yields_double {blanks body text rest : List Char} (hblanks : AllBlank blanks)
    {column : Nat} {margins : List Nat} (hmargin : margins.headD 0 ≤ column)
    (hread : Quoted.readDouble (body ++ rest) = .ok (text, rest)) :
    Yields ⟨blanks ++ '"' :: (body ++ rest), column, margins, false⟩ [.scalar text .doubleQuoted]
      ⟨rest, columnBehind column (blanks ++ '"' :: body), margins, false⟩ :=
  yields_enclosed hblanks (by simp [LineAhead, isBlank, isBreak]) hmargin fun t ht _ hkey _ => by
    rw [← Scan.takeQuoted_of_read ht hkey hread]
    simp [Scan.takeToken, ht, startMarkAhead, endMarkAhead]

theorem readsAs_single {s : List Char} (hs : Printer.fitsSingle s = true) (margin : Nat) :
    ReadsAs margin ('\'' :: Printer.singleBody false s ++ ['\'', '\n']) s .singleQuoted := by
  intro column k margins rest hmargins hcolumn hk hrest
  have hclose : Quoted.Closes ('\n' :: (spaces k ++ rest)) := by simp [Quoted.Closes]
  have hread : Quoted.readSingle ((Printer.singleBody false s ++ ['\''])
      ++ '\n' :: (spaces k ++ rest)) = .ok (s, '\n' :: (spaces k ++ rest)) := by
    simpa [Quoted.readSingle, Gap.empty] using
      (Quoted.ReadsBack.of_fits hclose hs).inLine [] (by simp)
  have htoken := yields_single allBlank_space (hmargins ▸ hcolumn) hread
  simpa using htoken.trans (yields_line hrest k _ margins false)

theorem readsAs_double (s : List Char) (margin : Nat) :
    ReadsAs margin ('"' :: s.flatMap Printer.doubleChar ++ ['"', '\n']) s .doubleQuoted := by
  intro column k margins rest hmargins hcolumn hk hrest
  have hread : Quoted.readDouble ((s.flatMap Printer.doubleChar ++ ['"'])
      ++ '\n' :: (spaces k ++ rest)) = .ok (s, '\n' :: (spaces k ++ rest)) := by
    simpa [Quoted.readDouble, Gap.empty] using
      (Quoted.doubleBody_flatMap s).double_append ('\n' :: (spaces k ++ rest)) []
  have htoken := yields_double allBlank_space (hmargins ▸ hcolumn) hread
  simpa using htoken.trans (yields_line hrest k _ margins false)

theorem readsAs_literal {s : List Char} (hs : Printer.isAllShown s = true) (hne : s ≠ []) :
    ReadsAs 1 (Printer.literalHeader s ++ '\n' :: (Printer.literalBody true s ++ Block.lastLine s))
      s .literal := by
  intro column k margins rest hmargins hcolumn hk hrest
  obtain rfl : k = 0 := by omega
  have hread := Block.read_literal hs hne hrest.content
  obtain ⟨header, hheader⟩ : ∃ header, Printer.literalHeader s = '|' :: header :=
    ⟨_, List.cons_append⟩
  rw [hheader, List.tail_cons] at hread
  obtain ⟨u, c, hlast, hc⟩ := Block.exists_lastBreak s
  have htoken : Yields ⟨' ' :: '|' :: ((header ++ '\n' :: (Printer.literalBody true s
      ++ Block.lastLine s)) ++ rest), column, margins, false⟩ [.scalar s .literal]
      ⟨rest, _, margins, true⟩ :=
    yields_enclosed allBlank_space (by simp [LineAhead, isBlank, isBreak]) (hmargins ▸ hcolumn)
      fun t ht hmargin _ hsettled => by
        rw [← Scan.takeBlock_of_read ht (hmargin.trans hmargins) hsettled (by simpa using hread)]
        simp [Scan.takeToken, ht, startMarkAhead, endMarkAhead, Scan.inFlow, hsettled.levels]
  have hcolumn : columnBehind column ([' '] ++ '|' :: (header ++ '\n' :: (u ++ [c]))) = 0 := by
    simpa using columnBehind_line hc (' ' :: '|' :: (header ++ '\n' :: u)) 0 column
  rw [hlast, hcolumn, ← hlast] at htoken
  simpa [hheader] using htoken

end Ahead

/-! ### Entries -/

/-- An entry of a block mapping: a plain key, and a written value, which is read as a scalar. -/
structure Entry where
  key : List Char
  written : List Char
  text : List Char
  style : Style

namespace Entry

/-- The entry is read in a block mapping with a margin. -/
structure IsRead (margin : Nat) (e : Entry) : Prop where
  key : Plain.Fits e.key
  short : octetCount e.key ≤ 1024
  value : Ahead.ReadsAs margin e.written e.text e.style

/-- The line of an entry, or its lines, from the key on. -/
def line (e : Entry) : List Char := e.key ++ ':' :: ' ' :: e.written

/-- The tokens of an entry. -/
def tokens (e : Entry) : List Token :=
  [.key, .scalar e.key .plain, .value, .scalar e.text e.style]

/-- The lines of entries at a column. -/
def lines (column : Nat) (es : List Entry) : List Char :=
  es.flatMap fun e => spaces column ++ e.line

theorem IsRead.lineAhead {margin : Nat} {e : Entry} (h : e.IsRead margin) (after : List Char) :
    LineAhead (e.line ++ after) := by
  rw [line, List.append_assoc]
  exact LineAhead.of_fits h.key _

end Entry

namespace Ahead

variable {margins : List Nat} {column k : Nat} {rest : List Char}

theorem opening_of_le (h : margins.headD 0 ≤ column) : opening margins column = [.mappingStart] :=
  if_pos h

theorem opened_of_le (h : margins.headD 0 ≤ column) :
    opened margins column = (column + 1) :: margins := if_pos h

theorem headD_opened (h : margins.headD 0 ≤ column + 1) :
    (opened margins column).headD 0 = column + 1 := by
  unfold opened
  split
  · rfl
  · omega

theorem opening_opened (h : margins.headD 0 ≤ column + 1) :
    opening (opened margins column) column = [] := by
  rw [opening, headD_opened h, if_neg (by omega)]

theorem opened_opened (h : margins.headD 0 ≤ column + 1) :
    opened (opened margins column) column = opened margins column := by
  rw [opened, headD_opened h, if_neg (by omega)]

/-- One entry, up to the next line with content, which is no further to the right. -/
theorem yields_entry {e : Entry} (he : e.IsRead (column + 1))
    (hmargin : margins.headD 0 ≤ column + 1) (hk : k ≤ column) (hrest : LineAhead rest) :
    Yields ⟨e.line ++ (spaces k ++ rest), column, margins, true⟩
      (opening margins column ++ e.tokens) ⟨rest, k, opened margins column, true⟩ := by
  have hkey := yields_key_fits (r := ' ' :: (e.written ++ (spaces k ++ rest))) he.key he.short rfl
    hmargin
  have hvalue := he.value (column + e.key.length + 1) k (opened margins column) rest
    (headD_opened hmargin) (by omega) (by omega) hrest
  simpa [Entry.line, Entry.tokens] using hkey.trans hvalue

/-- The entries of a block mapping, the first of which opens it. -/
theorem yields_entries {e : Entry} {es : List Entry} (hes : ∀ d ∈ e :: es, d.IsRead (column + 1))
    (hmargin : margins.headD 0 ≤ column + 1) (hk : k ≤ column) (hrest : LineAhead rest) :
    Yields ⟨e.line ++ (Entry.lines column es ++ (spaces k ++ rest)), column, margins, true⟩
      (opening margins column ++ (e :: es).flatMap Entry.tokens)
      ⟨rest, k, opened margins column, true⟩ := by
  induction es generalizing e margins with
  | nil => simpa [Entry.lines] using yields_entry (hes e (by simp)) hmargin hk hrest
  | cons d es ih =>
    have hd := (hes d (by simp)).lineAhead (Entry.lines column es ++ (spaces k ++ rest))
    have hfirst := yields_entry (hes e (by simp)) hmargin (Nat.le_refl column) hd
    have hothers := ih (e := d) (fun c hc => hes c (List.mem_cons_of_mem _ hc))
      (Nat.le_of_eq (headD_opened hmargin))
    rw [opening_opened hmargin, opened_opened hmargin, List.nil_append] at hothers
    simpa [Entry.lines] using hfirst.trans hothers

/-- The value of a key that is a block mapping of its own, further to the right. -/
theorem yields_section {key : List Char} {e : Entry} {es : List Entry} {indent : Nat}
    (hkey : Plain.Fits key) (hshort : octetCount key ≤ 1024)
    (hes : ∀ d ∈ e :: es, d.IsRead (indent + 1)) (hmargin : margins.headD 0 ≤ column + 1)
    (hindent : column < indent) (hk : k ≤ indent) (hrest : LineAhead rest) :
    Yields ⟨key ++ ':' :: '\n' :: (Entry.lines indent (e :: es) ++ (spaces k ++ rest)), column,
        margins, true⟩
      (opening margins column ++ ([.key, .scalar key .plain, .value] ++ (.mappingStart ::
        (e :: es).flatMap Entry.tokens)))
      ⟨rest, k, (indent + 1) :: opened margins column, true⟩ := by
  have hinner : (opened margins column).headD 0 ≤ indent := by rw [headD_opened hmargin]; omega
  have hfirst := (hes e (by simp)).lineAhead (Entry.lines indent es ++ (spaces k ++ rest))
  have hkey' := yields_key_fits (r := '\n' :: (spaces indent ++ (e.line ++ (Entry.lines indent es
    ++ (spaces k ++ rest))))) hkey hshort rfl hmargin
  have hline := yields_line hfirst indent (column + key.length + 1) (opened margins column) false
  have hentries := yields_entries hes (Nat.le_succ_of_le hinner) hk hrest
  rw [opening_of_le hinner, opened_of_le hinner] at hentries
  simpa [Entry.lines] using hkey'.trans (hline.trans hentries)

/-! ### The end -/

theorem exists_run_end (hmargins : ∀ m ∈ margins, 0 < m) (column : Nat) (keyAllowed : Bool)
    (line octets handed : Nat) {rounds : Nat} (hrounds : 3 ≤ rounds) :
    ∃ (placed : List PlacedToken) (p : Position),
      placed.map (·.token) = List.replicate margins.length .blockEnd
      ∧ ∀ n, ((⟨[], column, margins, keyAllowed⟩ : Ahead).state line octets handed).run rounds
          (margins.length + n + 1) = ⟨placed, .ok p⟩ := by
  let s := (⟨[], column, margins, keyAllowed⟩ : Ahead).state line octets handed
  obtain ⟨ends, hends, hclose⟩ :=
    Scan.exists_closeTo_closeTo (s := s) rfl hmargins (column + 1) s.cursor.atLineStart
  let last : PlacedToken := ⟨.textEnd, s.cursor.atLineStart.position, s.cursor.atLineStart.position⟩
  let t : Scan := { s with
    cursor := s.cursor.atLineStart, waiting := ends ++ [last], margins := [], keyAllowed := false }
  have htake : s.take = .ok t := by
    have hgap : s.passGap = s := passGap_rest lineAhead_nil line octets handed
    have hcursor : (s.closeTo (column + 1)).cursor = s.cursor := by
      unfold Scan.closeTo
      split <;> rfl
    have htoken : (s.closeTo (column + 1)).takeToken = (s.closeTo (column + 1)).takeEnd := by
      rw [Scan.takeToken, hcursor]
      rfl
    rw [Scan.take, hgap, (settled_state _ _ _ _ : s.Settled).expireKeys]
    show (s.closeTo (column + 1)).takeToken = _
    rw [htoken, Scan.takeEnd, hcursor, hclose]
    rfl
  have hrun : s.SameRun t := Scan.sameRun_take rfl htake ⟨rfl, rfl⟩ (by simp [t])
  have hyields := hrun.yields
    (Scan.Settled.yields ⟨rfl, rfl⟩ ends [last] rfl (Scan.ne_textEnd_of_ends hends))
  obtain ⟨placed, htokens, hplaced⟩ := hyields rounds hrounds
  refine ⟨placed, last.start, htokens.trans hends, fun n => ?_⟩
  have hn := hplaced n
  rw [hends, List.length_replicate] at hn
  show s.run rounds (s.margins.length + n + 1) = _
  rw [hn, Scan.run, Scan.Settled.ready ⟨rfl, rfl⟩ (by simp [last])]
  simpa [last] using TokenRun.foldr_cons placed [] (.ok last.start)

end Ahead

/-- A text that is taken to its end has these tokens, and the ends of the block collections that are
open there. -/
theorem TokenRun.exists_ofText {t : String} (ht : ∀ c ∈ t.toList, isReadable c = true)
    {s : List Char} (hs : withPlainBreaks t.toList = s) (hne : s ≠ []) {ts : List Token}
    {column : Nat} {margins : List Nat} {keyAllowed : Bool} (hmargins : ∀ m ∈ margins, 0 < m)
    (h : Ahead.Yields ⟨s, 0, [], true⟩ ts ⟨[], column, margins, keyAllowed⟩) :
    ∃ (placed : List PlacedToken) (p : Position),
      TokenRun.ofText t = ⟨placed, .ok p⟩
      ∧ placed.map (·.token) = ts ++ List.replicate margins.length .blockEnd := by
  obtain ⟨line, octets, handed, hyields⟩ := h.tokens 0 0 0
  have hlength := List.length_pos_iff.mpr hne
  have hrounds : 3 ≤ Scan.enoughRounds s := by rw [Scan.enoughRounds]; omega
  obtain ⟨placed, htokens, hrun⟩ := hyields _ hrounds
  obtain ⟨ends, p, hends, hend⟩ :=
    Ahead.exists_run_end hmargins column keyAllowed line octets handed hrounds
  obtain ⟨n, hn⟩ : ∃ n, Scan.enoughTokens s = ts.length + (margins.length + n) + 1 := by
    have hfewer := h.fewer
    simp only [Ahead.size, List.length_nil] at hfewer
    refine ⟨Scan.enoughTokens s - (ts.length + margins.length + 1), ?_⟩
    simp only [Scan.enoughTokens]
    omega
  refine ⟨placed ++ ends, p, ?_, by rw [List.map_append, htokens, hends]⟩
  calc TokenRun.ofText t
      = (Scan.start s).run (Scan.enoughRounds s) (Scan.enoughTokens s) := by
        simp [TokenRun.ofText, unreadableOffset?_eq_none_iff.mpr ht, hs]
    _ = placed.foldr TokenRun.cons ⟨ends, .ok p⟩ := by
        rw [hn, ← hend n]
        exact hrun (margins.length + n)
    _ = ⟨placed ++ ends, .ok p⟩ := TokenRun.foldr_cons placed ends _

theorem TokenRun.exists_ofText_of_kept {s : List Char} (hs : AllKept s) (hne : s ≠ [])
    {ts : List Token} {margins : List Nat} (hmargins : ∀ m ∈ margins, 0 < m)
    (h : Ahead.Yields ⟨s, 0, [], true⟩ ts ⟨[], 0, margins, true⟩) :
    ∃ (placed : List PlacedToken) (p : Position),
      TokenRun.ofText (String.ofList s) = ⟨placed, .ok p⟩
      ∧ placed.map (·.token) = ts ++ List.replicate margins.length .blockEnd := by
  have hlist : (String.ofList s).toList = s := String.toList_ofList
  exact exists_ofText (fun c hc => (hs c (hlist ▸ hc)).1)
    (by rw [hlist, withPlainBreaks_of_kept hs]) hne hmargins h

end TransactionGateway.Yaml
