import TransactionGateway.Proofs.Scalars.Styles
import TransactionGateway.Yaml.Scan

/-! # Tokens taken one by one

What the states of a scan have to do with one another, so that a text can be followed from token to
token.

* **Cursors.** A cursor moves over a text to the column behind it (`columnBehind`), whatever line it
  is in; inside a line its octets can be told too.
* **Runs.** From one state to another certain tokens are taken (`Scan.Yields`), and this goes
  together (`Yields.trans`). The rounds that a token may take are enough, and a run may have any
  number of further tokens before it.
* **Settled.** In a state without a possible key and outside flow collections a waiting token is
  handed out as it is, as are those before the place of a possible key (`Fresh.yields`). The token
  at that place waits for the next one, which may turn it into a key (`Fresh.ready_of_take`).
* **Signs.** A text that stands as a plain scalar begins with none, so it is taken as one
  (`takeToken_plain`). -/

namespace TransactionGateway.Yaml

/-! ### Cursors -/

/-- The octets of a text. -/
def octetCount : List Char → Nat
  | [] => 0
  | c :: s => c.utf8Size + octetCount s

/-- The column behind a text that begins at a column. -/
def columnBehind : Nat → List Char → Nat
  | column, [] => column
  | column, c :: s => columnBehind (if isBreak c then 0 else column + 1) s

theorem columnBehind_unbroken {s : List Char} (h : s.any isBreak = false) (column : Nat) :
    columnBehind column s = column + s.length := by
  induction s generalizing column with
  | nil => rfl
  | cons c s ih =>
    simp only [List.any_cons, Bool.or_eq_false_iff] at h
    rw [columnBehind, h.1, ih h.2, List.length_cons]
    simp only [Bool.false_eq_true, if_false]
    omega

theorem columnBehind_line {c : Char} (hc : isBreak c = true) (s : List Char) (k column : Nat) :
    columnBehind column (s ++ c :: List.replicate k ' ') = k := by
  induction s generalizing column with
  | nil =>
    have hspaces : (List.replicate k ' ').any isBreak = false := by
      simp [List.any_replicate, isBreak]
    simp [columnBehind, hc, columnBehind_unbroken hspaces]
  | cons d s ih => exact ih _

theorem columnBehind_append (s t : List Char) (column : Nat) :
    columnBehind column (s ++ t) = columnBehind (columnBehind column s) t := by
  induction s generalizing column with
  | nil => rfl
  | cons c s ih => exact ih _

namespace Cursor

theorem skip_unbroken {s : List Char} (h : s.any isBreak = false) (rest : List Char)
    (line column octets : Nat) :
    skip s.length ⟨s ++ rest, line, column, octets⟩
      = ⟨rest, line, column + s.length, octets + octetCount s⟩ := by
  induction s generalizing column octets with
  | nil => rfl
  | cons c s ih =>
    simp only [List.any_cons, Bool.or_eq_false_iff] at h
    rw [List.length_cons, skip, List.cons_append, next]
    simp only [h.1, Bool.false_eq_true, if_false]
    rw [ih h.2, octetCount]
    congr 1 <;> omega

theorem exists_skip (s rest : List Char) (line column octets : Nat) :
    ∃ line' octets', skip s.length ⟨s ++ rest, line, column, octets⟩
      = ⟨rest, line', columnBehind column s, octets'⟩ := by
  induction s generalizing line column octets with
  | nil => exact ⟨line, octets, rfl⟩
  | cons c s ih =>
    cases hc : isBreak c with
    | true => simpa [skip, next, columnBehind, hc] using ih (line + 1) 0 0
    | false =>
      simpa [skip, next, columnBehind, hc] using ih line (column + 1) (octets + c.utf8Size)

theorem reach_append (s rest : List Char) (line column octets : Nat) :
    reach rest ⟨s ++ rest, line, column, octets⟩
      = skip s.length ⟨s ++ rest, line, column, octets⟩ := by
  rw [reach, List.length_append, Nat.add_sub_cancel]

end Cursor

theorem TokenRun.foldr_cons (before tokens : List PlacedToken) (ending : Except Fault Position) :
    before.foldr TokenRun.cons ⟨tokens, ending⟩ = ⟨before ++ tokens, ending⟩ := by
  induction before with
  | nil => rfl
  | cons t before ih => rw [List.foldr_cons, ih, cons, List.cons_append]

namespace Scan

/-! ### Runs of states -/

/-- Two states from which the tokens are the same. -/
def SameRun (s t : Scan) : Prop :=
  ∀ rounds n, 3 ≤ rounds → s.run rounds (n + 1) = t.run rounds (n + 1)

/-- From one state to another these tokens are taken. -/
def Yields (s : Scan) (ts : List Token) (t : Scan) : Prop :=
  ∀ rounds, 3 ≤ rounds → ∃ placed : List PlacedToken, placed.map (·.token) = ts
    ∧ ∀ n, s.run rounds (ts.length + n + 1)
        = placed.foldr TokenRun.cons (t.run rounds (n + 1))

theorem SameRun.yields {s t u : Scan} {ts : List Token} (h : s.SameRun t) (ht : t.Yields ts u) :
    s.Yields ts u := by
  intro rounds hrounds
  obtain ⟨placed, htokens, hrun⟩ := ht rounds hrounds
  exact ⟨placed, htokens, fun n => (h rounds _ hrounds).trans (hrun n)⟩

theorem SameRun.done {s t : Scan} (h : s.SameRun t) : s.Yields [] t :=
  fun rounds hrounds => ⟨[], rfl, fun n => by simpa using h rounds n hrounds⟩

theorem Yields.trans {s t u : Scan} {ts us : List Token} (hs : s.Yields ts t)
    (ht : t.Yields us u) : s.Yields (ts ++ us) u := by
  intro rounds hrounds
  obtain ⟨placed, rfl, hrun⟩ := hs rounds hrounds
  obtain ⟨placed', rfl, hrun'⟩ := ht rounds hrounds
  refine ⟨placed ++ placed', by simp, fun n => ?_⟩
  have := hrun ((placed'.map (·.token)).length + n)
  rw [List.length_append, Nat.add_assoc _ _ n, this, hrun' n, List.foldr_append]

/-- Outside flow collections a possible key, if there is one, is within reach. -/
structure Fresh (s : Scan) : Prop where
  levels : s.levels = []
  possible : s.expire s.possible = .ok s.possible

theorem Fresh.expireKeys {s : Scan} (h : s.Fresh) : s.expireKeys = .ok s := by
  obtain ⟨hl, hp⟩ := h
  obtain ⟨⟩ := s
  cases hl
  rw [Scan.expireKeys, hp]
  rfl

/-- A token is handed out when no key may yet have to be put before it. -/
theorem Fresh.ready {s : Scan} (h : s.Fresh) (hwaiting : s.waiting ≠ [])
    (hplace : ∀ key, s.possible = some key → key.place ≠ s.handed) (rounds : Nat) :
    s.ready rounds = .ok s := by
  cases rounds with
  | zero => rfl
  | succ rounds =>
    have hempty : s.waiting.isEmpty = false := by simpa using hwaiting
    have hprecede : s.mayPrecede = false := by
      cases hp : s.possible with
      | none => simp [mayPrecede, h.levels, hp]
      | some key => simpa [mayPrecede, h.levels, hp] using hplace key hp
    simp [Scan.ready, hempty, h.expireKeys, hprecede, bind, Except.bind, pure, Except.pure]

/-- The tokens that wait before the place of a possible key are taken as they are. -/
theorem Fresh.yields {s : Scan} (h : s.Fresh) (before behind : List PlacedToken)
    (hwaiting : s.waiting = before ++ behind)
    (hplace : ∀ key, s.possible = some key → s.handed + before.length ≤ key.place)
    (hend : ∀ t ∈ before, t.token ≠ .textEnd) :
    s.Yields (before.map (·.token))
      { s with waiting := behind, handed := s.handed + before.length } := by
  induction before generalizing s with
  | nil =>
    obtain rfl : s.waiting = behind := hwaiting
    exact SameRun.done fun _ _ _ => rfl
  | cons t before ih =>
    intro rounds hrounds
    let next : Scan := { s with waiting := before ++ behind, handed := s.handed + 1 }
    have hnext : next.Fresh := ⟨h.levels, h.possible⟩
    have hbehind : ∀ key, next.possible = some key → next.handed + before.length ≤ key.place := by
      intro key hkey
      have := hplace key hkey
      rw [List.length_cons] at this
      show s.handed + 1 + before.length ≤ key.place
      omega
    obtain ⟨placed, htokens, hrun⟩ :=
      ih hnext rfl hbehind (fun u hu => hend u (List.mem_cons_of_mem _ hu)) rounds hrounds
    refine ⟨t :: placed, by simp [htokens], fun n => ?_⟩
    have hready := h.ready (by simp [hwaiting]) (fun key hkey => by
      have := hplace key hkey
      rw [List.length_cons] at this
      omega) rounds
    have hstep : s.run rounds ((before.map (·.token)).length + n + 1 + 1)
        = (next.run rounds ((before.map (·.token)).length + n + 1)).cons t := by
      rw [run]
      simp [hready, hwaiting, hend t (by simp), next]
    rw [List.map_cons, List.length_cons, Nat.add_right_comm _ 1 n, hstep, hrun n,
      List.length_cons, List.foldr_cons, Nat.add_comm before.length 1, ← Nat.add_assoc]

/-- No key may yet have to be put before a token. -/
structure Settled (s : Scan) : Prop where
  possible : s.possible = none
  levels : s.levels = []

theorem Settled.fresh {s : Scan} (h : s.Settled) : s.Fresh := ⟨h.levels, by rw [h.possible]; rfl⟩

theorem Settled.expireKeys {s : Scan} (h : s.Settled) : s.expireKeys = .ok s := h.fresh.expireKeys

theorem Settled.ready {s : Scan} (h : s.Settled) (hwaiting : s.waiting ≠ []) (rounds : Nat) :
    s.ready rounds = .ok s := h.fresh.ready hwaiting (by simp [h.possible]) rounds

/-- The tokens that wait in a settled state are taken as they are. -/
theorem Settled.yields {s : Scan} (h : s.Settled) (before behind : List PlacedToken)
    (hwaiting : s.waiting = before ++ behind) (hend : ∀ t ∈ before, t.token ≠ .textEnd) :
    s.Yields (before.map (·.token))
      { s with waiting := behind, handed := s.handed + before.length } :=
  h.fresh.yields before behind hwaiting (by simp [h.possible]) hend

theorem sameRun_of_ready {s t : Scan} (h : ∀ rounds, s.ready (rounds + 3) = t.ready (rounds + 3)) :
    s.SameRun t := by
  intro rounds n hrounds
  obtain ⟨rounds, rfl⟩ := Nat.exists_eq_add_of_le' hrounds
  rw [run, run, h rounds]

/-- Between two tokens it does not matter whether a gap has been passed. -/
theorem sameRun_of_passGap {s t : Scan} (hs : s.waiting = []) (ht : t.waiting = [])
    (h : s.passGap = t.passGap) : s.SameRun t :=
  sameRun_of_ready fun rounds => by simp [Scan.ready, hs, ht, take, h]

/-- Where nothing waits a round takes more of the text. -/
theorem sameRun_take_of_ready {s t : Scan} (hs : s.waiting = []) (hst : s.take = .ok t)
    (ht : ∀ rounds, t.ready (rounds + 2) = t.ready (rounds + 3)) : s.SameRun t :=
  sameRun_of_ready fun rounds => by
    rw [← ht rounds, Scan.ready]
    simp [hs, hst, bind, Except.bind]

theorem sameRun_take {s t : Scan} (hs : s.waiting = []) (hst : s.take = .ok t) (ht : t.Settled)
    (hne : t.waiting ≠ []) : s.SameRun t :=
  sameRun_take_of_ready hs hst fun rounds => by rw [ht.ready hne, ht.ready hne]

/-- A token that may turn out a key waits for the next one. -/
theorem Fresh.ready_of_take {t u : Scan} (ht : t.Fresh) (hwaiting : t.waiting ≠ [])
    (hkey : t.mayPrecede = true) (htu : t.take = .ok u) (hu : u.Settled) (hne : u.waiting ≠ [])
    (rounds : Nat) : t.ready (rounds + 1) = .ok u := by
  have hempty : t.waiting.isEmpty = false := by simpa using hwaiting
  rw [Scan.ready]
  simp [hempty, ht.expireKeys, hkey, htu, bind, Except.bind, hu.ready hne]

/-- The block collections further to the right than a margin are closed. -/
theorem closeTo_append {s : Scan} {margin : Nat} {deep outer : List Nat} (hs : s.levels = [])
    (hmargins : s.margins = deep ++ outer) (hdeep : ∀ m ∈ deep, margin < m)
    (houter : outer.headD 0 ≤ margin) :
    s.closeTo margin
      = { s with
          waiting := s.waiting
            ++ List.replicate deep.length ⟨.blockEnd, s.position, s.position⟩
          margins := outer } := by
  have hflow : s.inFlow = false := by simp [inFlow, hs]
  have hclosed : s.margins.takeWhile (margin < ·) = deep := by
    have hrest : outer.takeWhile (margin < ·) = [] := by
      cases outer with
      | nil => rfl
      | cons m ms => exact List.takeWhile_cons_of_neg (by simpa using houter)
    rw [hmargins, List.takeWhile_append_of_pos (by simpa using hdeep), hrest, List.append_nil]
  rw [hmargins] at hclosed
  simp only [closeTo, hflow, Bool.false_eq_true, if_false, hmargins, hclosed, List.drop_left]

/-- Without flow collections and beyond the margins nothing is closed before a token. -/
theorem closeTo_of_le {s : Scan} {column : Nat} (hs : s.levels = []) (h : s.margin ≤ column) :
    s.closeTo column = s := by
  have hmargins : s.margins = [] ++ s.margins := rfl
  rw [closeTo_append hs hmargins (by simp) h]
  simp

/-- All block collections closed, those further to the right than a margin first. -/
theorem exists_closeTo_closeTo {s : Scan} (hs : s.levels = []) (h : ∀ m ∈ s.margins, 0 < m)
    (margin : Nat) (k : Cursor) :
    ∃ ends : List PlacedToken,
      ends.map (·.token) = List.replicate s.margins.length .blockEnd
      ∧ { s.closeTo margin with cursor := k }.closeTo 0
        = { s with cursor := k, waiting := s.waiting ++ ends, margins := [] } := by
  let deep := s.margins.takeWhile (margin < ·)
  let outer := s.margins.dropWhile (margin < ·)
  have hmargins : s.margins = deep ++ outer := List.takeWhile_append_dropWhile.symm
  have houter : outer.headD 0 ≤ margin := by
    have := List.head?_dropWhile_not (margin < ·) s.margins
    cases ho : outer with
    | nil => exact Nat.zero_le _
    | cons m ms => simpa [outer, ho] using this
  have hfirst := closeTo_append hs hmargins
    (fun m hm => by simpa using List.all_eq_true.mp List.all_takeWhile m hm) houter
  have hlast : ∀ m ∈ outer, 0 < m := fun m hm => h m (by rw [hmargins]; simp [hm])
  refine ⟨List.replicate deep.length ⟨.blockEnd, s.position, s.position⟩
    ++ List.replicate outer.length ⟨.blockEnd, k.position, k.position⟩, ?_, ?_⟩
  · rw [List.map_append, List.map_replicate, List.map_replicate, List.replicate_append_replicate,
      ← List.length_append, ← hmargins]
  · rw [hfirst, ← List.append_assoc]
    exact closeTo_append hs (List.append_nil outer).symm hlast (Nat.le_refl 0)

theorem ne_textEnd_of_ends {ends : List PlacedToken} {n : Nat}
    (h : ends.map (·.token) = List.replicate n .blockEnd) : ∀ u ∈ ends, u.token ≠ .textEnd := by
  intro u hu
  have hmem : u.token ∈ List.replicate n Token.blockEnd := h ▸ List.mem_map_of_mem hu
  rw [List.eq_of_mem_replicate hmem]
  simp

theorem take_of_settled {s t : Scan} (hgap : s.passGap = t) (ht : t.Settled)
    (hmargin : t.margin ≤ t.cursor.column + 1) : s.take = t.takeToken := by
  simp [take, hgap, ht.expireKeys, closeTo_of_le ht.levels hmargin, bind, Except.bind]

end Scan

/-! ### Plain tokens -/

theorem not_tripled_append {x : Char} {s after : List Char} (hne : s ≠ [])
    (hs : [x, x, x].isPrefixOf s = false) (hafter : ∀ c ∈ after.head?, c ≠ x) :
    [x, x, x].isPrefixOf (s ++ after) = false := by
  have hhead : ∀ {l}, (x :: l).isPrefixOf after = false := by
    intro l
    cases after with
    | nil => rfl
    | cons c r => simp [List.isPrefixOf, (hafter c rfl).symm]
  match s with
  | [a] => simp [List.isPrefixOf, hhead]
  | [a, b] => simp [List.isPrefixOf, hhead]
  | a :: b :: c :: r => simpa [List.isPrefixOf] using hs

theorem documentMarkAhead_eq_false {s : List Char} (hstart : ['-', '-', '-'].isPrefixOf s = false)
    (hend : ['.', '.', '.'].isPrefixOf s = false) : documentMarkAhead s = false := by
  rw [documentMarkAhead, Bool.or_eq_false_iff]
  constructor
  · unfold startMarkAhead; split
    · simp at hstart
    · rfl
  · unfold endMarkAhead; split
    · simp at hend
    · rfl

namespace Plain

variable {c : Char} {s after : List Char}

theorem Fits.no_mark (h : Fits s) (hafter : ∀ c ∈ after.head?, c ≠ '-' ∧ c ≠ '.') :
    documentMarkAhead (s ++ after) = false := by
  obtain ⟨c, r, rfl⟩ := List.exists_cons_of_ne_nil h.ne_nil
  have hbegins := h.head.2.2.2
  simp only [Printer.beginsWithIndicator, Bool.or_eq_false_iff] at hbegins
  exact documentMarkAhead_eq_false
    (not_tripled_append h.ne_nil hbegins.1.2 fun d hd => (hafter d hd).1)
    (not_tripled_append h.ne_nil hbegins.2 fun d hd => (hafter d hd).2)

/-- A plain scalar begins with no indicator, save with one that no blank follows. -/
theorem mayBegin_cons {c : Char} {r : List Char} (h : mayBegin false (c :: r) = true) :
    (c = '-' ∨ c = '?' ∨ c = ':' → blankAhead r = false) ∧ isBlank c = false ∧ isBreak c = false
      ∧ c ∉ [',', '[', ']', '{', '}', '#', '&', '*', '!', '|', '>', '\'', '"', '%', '@',
        '\x60'] := by
  unfold mayBegin at h
  split at h
  · next heq => cases heq
  · next heq =>
    cases heq
    exact ⟨fun _ => by simpa using h, rfl, rfl, by decide⟩
  · next hdash heq =>
    cases heq
    split at h
    · next hc =>
      have hc' : c = '?' ∨ c = ':' := by simpa using hc
      refine ⟨fun _ => by simpa using h, ?_⟩
      obtain rfl | rfl := hc'
      · exact ⟨rfl, rfl, by decide⟩
      · exact ⟨rfl, rfl, by decide⟩
    · next hc =>
      have hc' : ¬(c = '?' ∨ c = ':') := by simpa using hc
      refine ⟨fun hsign => ?_, by simpa [and_assoc] using h⟩
      obtain rfl | hsign := hsign
      · exact absurd rfl hdash
      · exact absurd hsign hc'

/-- An indicator at the beginning is one only before a blank. -/
theorem Fits.not_indicator (h : Fits (c :: s)) (after : List Char) :
    ¬(c = '-' ∧ blankAhead (s ++ after) = true) ∧ ¬(c = '?' ∧ blankAhead (s ++ after) = true)
      ∧ ¬(c = ':' ∧ blankAhead (s ++ after) = true) := by
  have hbegins := h.head.2.2.2
  simp only [Printer.beginsWithIndicator, Bool.or_eq_false_iff] at hbegins
  have hsigns := hbegins.1.1.2
  cases s with
  | nil => simp_all [blankAhead]
  | cons d r =>
    simp only [List.cons_append, blankAhead] at hsigns ⊢
    refine ⟨?_, ?_, ?_⟩ <;> rintro ⟨rfl, hblank⟩ <;> simp [hblank] at hsigns

theorem Fits.not_special (h : Fits (c :: s)) :
    c ∉ [',', '[', ']', '{', '}', '#', '&', '*', '!', '|', '>', '\'', '"', '%', '@', '\x60'] := by
  have hbegins := h.head.2.2.2
  simp only [Printer.beginsWithIndicator, Bool.or_eq_false_iff] at hbegins
  simpa using hbegins.1.1.1

theorem Fits.mayBegin (h : Fits (c :: s)) (after : List Char) :
    mayBegin false (c :: (s ++ after)) = true := by
  obtain ⟨-, hblank, hbreak, -⟩ := h.head
  obtain ⟨hdash, hquestion, hcolon⟩ := h.not_indicator after
  have hspecial := h.not_special
  unfold Plain.mayBegin
  split
  · next heq => cases heq
  · next heq => cases heq; simpa using hdash
  · next heq =>
    cases heq
    split
    · next hc =>
      have hc' : c = '?' ∨ c = ':' := by simpa using hc
      rcases hc' with rfl | rfl
      · simpa using hquestion
      · simpa using hcolon
    · simpa [hblank, hbreak] using hspecial

theorem Fits.stands (h : Fits s) (after : List Char) : Stands s after where
  ne_nil := h.ne_nil
  begins := by
    obtain ⟨c, r, rfl⟩ := List.exists_cons_of_ne_nil h.ne_nil
    exact h.mayBegin after
  unmarked hmark := by
    have hshown := List.all_eq_true.mp h.goesOn.shown _ (List.mem_of_mem_head? hmark)
    exact absurd hshown (by decide)
  goesOn := h.goesOn.extendsTo after
  last := h.goesOn.last

end Plain

/-- A text that stands as a plain scalar begins no other token. -/
theorem Scan.takeToken_plain {t : Scan} {s after : List Char} (ht : t.levels = [])
    (hs : Plain.Stands s after)
    (hmark : t.cursor.column = 0 → documentMarkAhead (s ++ after) = false)
    (hrest : t.cursor.rest = s ++ after) : t.takeToken = t.takePlain := by
  obtain ⟨c, r, rfl⟩ := List.exists_cons_of_ne_nil hs.ne_nil
  have hbegin := hs.begins
  rw [List.cons_append] at hrest hmark hbegin
  obtain ⟨hsign, -, -, hspecial⟩ := Plain.mayBegin_cons hbegin
  have hflow : t.inFlow = false := by simp [inFlow, ht]
  have hstart : (t.cursor.column == 0 && startMarkAhead (c :: (r ++ after))) = false := by
    simpa using fun h0 => (Bool.or_eq_false_iff.mp (hmark h0)).1
  have hend : (t.cursor.column == 0 && endMarkAhead (c :: (r ++ after))) = false := by
    simpa using fun h0 => (Bool.or_eq_false_iff.mp (hmark h0)).2
  have hdash : ¬(c = '-' ∧ blankAhead (r ++ after) = true) := fun h => by
    simp [hsign (.inl h.1)] at h
  have hquestion : ¬(c = '?' ∧ blankAhead (r ++ after) = true) := fun h => by
    simp [hsign (.inr (.inl h.1))] at h
  have hcolon : ¬(c = ':' ∧ blankAhead (r ++ after) = true) := fun h => by
    simp [hsign (.inr (.inr h.1))] at h
  simp only [List.mem_cons, not_or, List.not_mem_nil] at hspecial
  rw [takeToken, hrest]
  simp only [hstart, hend, hflow, hbegin, Bool.false_or]
  simp [hspecial]
  rw [if_neg hdash, if_neg hquestion, if_neg hcolon]

namespace Scan

theorem keepKey_of_not_allowed {t : Scan} (h : t.keyAllowed = false) : t.keepKey = .ok t := by
  simp [keepKey, h]

theorem keepKey_of_allowed {t : Scan} (h : t.keyAllowed = true) (ht : t.Settled) :
    t.keepKey = .ok { t with possible := some ⟨t.place, t.position, t.cursor.octets,
      t.margin == t.cursor.column + 1⟩ } := by
  simp [keepKey, h, dropKey, ht.possible, inFlow, ht.levels, bind, Except.bind, pure, Except.pure]

theorem takePlain_of_read {t : Scan} {s text rest : List Char} {margin : Nat} {endsLine : Bool}
    (hs : t.cursor.rest = s) (hmargin : t.margin = margin) (hkey : t.keyAllowed = false)
    (ht : t.Settled) (hread : Plain.read false margin s = .ok ⟨text, endsLine, rest⟩) :
    t.takePlain
      = .ok (((t.reach rest).allowKey endsLine).emit t.position (.scalar text .plain)) := by
  simp [takePlain, keepKey_of_not_allowed hkey, inFlow, ht.levels, hs, hmargin, hread, taking,
    bind, Except.bind, pure, Except.pure]

/-- The text behind a sign. -/
theorem next_rest {t : Scan} {c : Char} {s : List Char} (h : t.cursor.rest = c :: s) :
    t.next.cursor.rest = s := by
  simp only [next, Cursor.next, h]
  split <;> rfl

theorem takeQuoted_of_read {t : Scan} {c : Char} {s text rest : List Char} {style : Style}
    {read : List Char → Except Stop (List Char × List Char)} (hs : t.cursor.rest = c :: s)
    (hkey : t.keyAllowed = false) (hread : read s = .ok (text, rest)) :
    t.takeQuoted read style
      = .ok (((t.reach rest).allowKey false).emit t.position (.scalar text style)) := by
  simp [takeQuoted, keepKey_of_not_allowed hkey, next_rest hs, hread, taking, bind, Except.bind,
    pure, Except.pure]

theorem takeBlock_of_read {t : Scan} {c : Char} {s text rest : List Char} {margin : Nat}
    (hs : t.cursor.rest = c :: s) (hmargin : t.margin = margin) (ht : t.Settled)
    (hread : Block.read false margin s = .ok (text, rest)) :
    t.takeBlock false
      = .ok (((t.reach rest).allowKey true).emit t.position (.scalar text .literal)) := by
  have hmargin' : t.next.margin = margin := hmargin
  simp [takeBlock, dropKey, ht.possible, next_rest hs, hmargin, hread, taking, bind, Except.bind,
    pure, Except.pure]

end Scan

end TransactionGateway.Yaml
