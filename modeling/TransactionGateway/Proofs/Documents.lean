import TransactionGateway.Proofs.Numerals
import TransactionGateway.Proofs.Outline
import TransactionGateway.Settings.Printer

/-! # Settings documents

What the settings of a document are, once its lines have become entries.

* **Scalars.** A number is read from the plain digits of one that fits its width, wherever the
  scalar stands (`readWord32_toOption`, `Steady`), and a truth value from its word.
* **Fields.** Entries of different keys are read one by one, each changing its own part
  (`readFields_toOption`). The first one that cannot be read leaves no settings.
* **Text.** A document has the connection string first, and a section of the limits if there are any
  (`documentText`); settings are written so (`toYaml_eq_documentText`).
* **Settings.** Such a document gives its connection string and the limits that its entries change,
  one after another, from their defaults (`exists_spelledOut`). -/

namespace TransactionGateway

open Text Yaml

/-- The keys of the limits in a document. -/
def PoolLimits.keys : List String := (PoolLimits.entries {}).map (·.1)

theorem toOption_bind {ε α β : Type} (x : Except ε α) (f : α → Except ε β) :
    (x >>= f).toOption = x.toOption.bind fun a => (f a).toOption := by
  cases x <;> rfl

namespace Yaml.Document

variable (d : Document) {place : String} {start : Position} {s : String} {style : Style}

/-! ### Scalars -/

/-- The whole number that a scalar without a label is read as. -/
def number? (s : String) (style : Style) : Option Nat :=
  if style = .plain then Meaning.natural? largest64 s.toList else none

/-- The truth value that a scalar without a label is read as. -/
def truth? (s : String) (style : Style) : Option Bool :=
  if style = .plain then Meaning.boolean? s.toList else none

theorem isOpenTo_unlabelled (demand : Demand) :
    isOpenTo demand { start } style = decide (style = .plain) := by
  cases style <;> rfl

theorem target_scalar (label : Label) :
    d.target (.scalar label s style) = .scalar label s style := rfl

theorem readNumber_toOption (expected : String) :
    (d.readNumber expected place (.scalar { start } s style)).toOption = number? s style := by
  simp only [readNumber, target_scalar, isOpenTo_unlabelled, number?]
  cases Meaning.natural? largest64 s.toList <;> by_cases h : style = .plain <;> simp [h] <;> rfl

theorem readWord32_toOption :
    (d.readWord32 place (.scalar { start } s style)).toOption = (number? s style).bind word32? := by
  rw [readWord32, toOption_bind, readNumber_toOption]
  congr 1
  funext n
  rw [word32?]
  split <;> rfl

theorem readWord64_toOption :
    (d.readWord64 place (.scalar { start } s style)).toOption
      = (number? s style).map UInt64.ofNat := by
  rw [readWord64, toOption_bind, readNumber_toOption]
  cases number? s style <;> rfl

theorem readTruth_toOption :
    (d.readTruth place (.scalar { start } s style)).toOption = truth? s style := by
  simp only [readTruth, target_scalar, isOpenTo_unlabelled, truth?]
  cases Meaning.boolean? s.toList <;> by_cases h : style = .plain <;> simp [h] <;> rfl

theorem number?_toString (n : Nat) :
    number? (toString n) .plain = if n ≤ largest64 then some n else none := by
  rw [number?, if_pos rfl, Nat.toString_eq_repr, Nat.toList_repr, Meaning.natural?_toDigits]

theorem truth?_toString (b : Bool) : truth? (toString b) .plain = some b := by
  cases b <;> rfl

/-! ### Fields -/

variable {σ : Type}

/-- What the entry of a scalar changes, if it can be read. -/
def change? (fields : Fields σ) (e : Entry) : Option (σ → σ) :=
  match fields (String.ofList e.key) with
  | none => some id
  | some read => (read "" (.scalar {} (String.ofList e.text) e.style)).toOption

/-- An entry whose value is a plain line. -/
def plainEntry (key text : String) : Entry := ⟨key.toList, plainLine text, text.toList, .plain⟩

/-- A state with what a key and its text change, if the text can be read as a plain scalar. -/
def changed? (fields : Fields σ) (s : σ) (p : String × String) : Option σ :=
  (change? fields (plainEntry p.1 p.2)).map (· s)

/-- The readers make the same of a scalar wherever it stands. -/
def Steady (fields : Fields σ) : Prop :=
  ∀ name read, fields name = some read → ∀ place start s style,
    (read place (.scalar { start } s style)).toOption = (read "" (.scalar {} s style)).toOption

/-- The first entry that has a known key. -/
theorem readFields_known {fields : Fields σ} {key : String} {read : Reader (σ → σ)}
    (hread : fields key = some read) {seen : List String} (hseen : key ∉ seen) (label : Label)
    (style : Style) (v : Node) (ps : List (Node × Node)) (s : σ) :
    d.readFields fields place start ((.scalar label key style, v) :: ps) seen s
      = (read (placeUnder place (.scalar label key style)) v).bind fun change =>
          d.readFields fields place start ps (key :: seen) (change s) := by
  have hnew : seen.contains key = false := by simpa using hseen
  have hname : d.readText "field identifier" place (.scalar label key style) = .ok key := rfl
  rw [readFields, hname]
  simp only [bind, Except.bind, hread, hnew, Bool.false_eq_true, if_false]

/-- Entries of different keys are read one by one. -/
theorem readFields_toOption {fields : Fields σ} (hfields : Steady fields) {es : List Entry}
    {ps : List (Node × Node)} (hps : List.Forall₂ Entry.Shown es ps) {seen : List String}
    (hdifferent : (es.map fun e => String.ofList e.key).Nodup)
    (hseen : ∀ e ∈ es, String.ofList e.key ∉ seen) (s : σ) :
    (d.readFields fields place start ps seen s).toOption
      = es.foldlM (fun s e => (change? fields e).map (· s)) s := by
  induction hps generalizing seen s with
  | nil => rfl
  | @cons e p es ps hp _ ih =>
    obtain ⟨⟨kstart, hkey⟩, ⟨vstart, hvalue⟩⟩ := hp
    obtain ⟨k, v⟩ := p
    obtain rfl : k = _ := hkey
    obtain rfl : v = _ := hvalue
    rw [List.map_cons, List.nodup_cons] at hdifferent
    have hothers := fun e' he' => hseen e' (List.mem_cons_of_mem e he')
    rw [List.foldlM_cons, change?]
    cases hread : fields (String.ofList e.key) with
    | none =>
      have hname : d.readText "field identifier" place (.scalar { start := kstart }
          (String.ofList e.key) .plain) = .ok (String.ofList e.key) := rfl
      rw [readFields, hname]
      simp only [bind, Except.bind, hread]
      exact ih hdifferent.2 hothers s
    | some read =>
      have hseen' : ∀ e' ∈ es, String.ofList e'.key ∉ String.ofList e.key :: seen := by
        intro e' he'
        rw [List.mem_cons, not_or]
        exact ⟨fun h => hdifferent.1 (h ▸ List.mem_map_of_mem he'), hothers e' he'⟩
      rw [d.readFields_known hread (hseen e (by simp))]
      simp only [← hfields _ _ hread (placeUnder place (.scalar { start := kstart } (String.ofList
        e.key) .plain)) vstart]
      cases read _ (.scalar { start := vstart } (String.ofList e.text) e.style) with
      | error flaw => rfl
      | ok change => exact ih hdifferent.2 hseen' (change s)

theorem change?_plainEntry {fields : Fields σ} {key : String} {read : Reader (σ → σ)}
    (h : fields key = some read) (text : String) :
    change? fields (plainEntry key text) = (read "" (.scalar {} text .plain)).toOption := by
  simp [change?, plainEntry, h]

theorem change?_word32 {fields : Fields σ} {key : String} {update : UInt32 → σ → σ}
    (h : fields key = some fun place x => do
      let v ← d.readWord32 place x
      return update v) (n : Nat) :
    change? fields (plainEntry key (toString n)) = (word32? n).map update := by
  rw [change?_plainEntry h, toOption_bind, readWord32_toOption, number?_toString]
  by_cases h64 : n ≤ largest64
  · rw [if_pos h64, Option.bind_some]
    cases word32? n <;> rfl
  · have h32 : ¬n ≤ largest32 := fun h => h64 (Nat.le_trans h (by decide))
    rw [if_neg h64, word32?, if_neg h32]
    rfl

theorem change?_word64 {fields : Fields σ} {key : String} {update : UInt64 → σ → σ}
    (h : fields key = some fun place x => do
      let v ← d.readWord64 place x
      return update v) (n : Nat) :
    change? fields (plainEntry key (toString n)) = (word64? n).map update := by
  rw [change?_plainEntry h, toOption_bind, readWord64_toOption, number?_toString, word64?]
  by_cases h64 : n ≤ largest64
  · rw [if_pos h64, if_pos h64]
    rfl
  · rw [if_neg h64, if_neg h64]
    rfl

theorem change?_truth {fields : Fields σ} {key : String} {update : Bool → σ → σ}
    (h : fields key = some fun place x => do
      let b ← d.readTruth place x
      return update b) (b : Bool) :
    change? fields (plainEntry key (toString b)) = some (update b) := by
  rw [change?_plainEntry h, toOption_bind, readTruth_toOption, truth?_toString]
  rfl

theorem steady_limitFields : Steady d.limitFields := by
  intro name read h place start s style
  unfold limitFields at h
  split at h <;> cases h <;>
    simp only [toOption_bind, readWord32_toOption, readWord64_toOption, readTruth_toOption]

end Yaml.Document

/-! ### Documents -/

/-- The text of a document with a connection string, as it is written, and entries of limits. -/
def documentText (url : List Char) (limits : List (String × String)) : String :=
  String.ofList (Printer.entry "database_url" url
    ++ if limits = [] then []
      else "pool:\n".toList ++ limits.flatMap fun (key, text) =>
        Printer.indentation ++ Printer.entry key (plainLine text))

theorem Settings.toYaml_eq_documentText (s : Settings) :
    s.toYaml = documentText (Printer.value s.databaseUrl.toList) s.pool.entries := by
  rw [documentText, if_neg (by simp [PoolLimits.entries]), toYaml, PoolLimits.lines]
  simp

example : documentText (plainLine "db://host") [("min_idle", "2"), ("test_on_check_out", "false")]
    = "database_url: db://host\npool:\n  min_idle: 2\n  test_on_check_out: false\n" := by
  decide

/-- A key and a text that each fit a plain line. -/
structure IsPlainPair (p : String × String) : Prop where
  key : Plain.Fits p.1.toList
  short : octetCount p.1.toList ≤ 1024
  text : Plain.Fits p.2.toList

theorem IsPlainPair.isRead {p : String × String} (h : IsPlainPair p) (margin : Nat) :
    (Document.plainEntry p.1 p.2).IsRead margin :=
  ⟨h.key, h.short, Ahead.readsAs_plain h.text margin⟩

/-- The entry of a connection string. -/
def urlEntry (url text : List Char) (style : Style) : Entry :=
  ⟨"database_url".toList, url, text, style⟩

theorem fits_of_checked {s : List Char} (h : (Printer.fitsPlain s && !s.isEmpty) = true) :
    Plain.Fits s := by
  simp only [Bool.and_eq_true, Bool.not_eq_true', List.isEmpty_eq_false_iff] at h
  exact ⟨h.1, h.2⟩

theorem isRead_urlEntry {url text : List Char} {style : Style}
    (h : Ahead.ReadsAs 1 url text style) : (urlEntry url text style).IsRead 1 :=
  ⟨fits_of_checked (s := "database_url".toList) (by decide),
    show octetCount "database_url".toList ≤ 1024 by decide, h⟩

theorem Yaml.Plain.Fits.allKept {s : List Char} (h : Plain.Fits s) : AllKept s :=
  Printer.allKept_of_isAllShown h.goesOn.shown

theorem allKept_lines (column : Nat) {es : List Entry} (h : ∀ e ∈ es, AllKept e.line) :
    AllKept (Entry.lines column es) := by
  intro c hc
  obtain ⟨e, he, hc⟩ := List.mem_flatMap.mp hc
  rcases List.mem_append.mp hc with hc | hc
  · rw [List.mem_replicate] at hc
    rw [hc.2]
    decide
  · exact h e he c hc

theorem IsPlainPair.allKept {p : String × String} (h : IsPlainPair p) :
    AllKept (Document.plainEntry p.1 p.2).line := by
  have hmarks : AllKept [':', ' ', '\n'] := by decide
  have := h.key.allKept
  have := h.text.allKept
  simp_all [Entry.line, Document.plainEntry, plainLine]

theorem line_urlEntry (url text : List Char) (style : Style) :
    (urlEntry url text style).line = "database_url: ".toList ++ url := rfl

theorem allKept_urlEntry {url text : List Char} {style : Style} (h : AllKept url) :
    AllKept (urlEntry url text style).line := by
  have hkey : AllKept "database_url: ".toList := by decide
  rw [line_urlEntry, allKept_append]
  exact ⟨hkey, h⟩

theorem documentText_nil (url text : List Char) (style : Style) :
    documentText url [] = String.ofList (Entry.lines 0 [urlEntry url text style]) := by
  rw [documentText, if_pos rfl, Entry.lines, List.flatMap_singleton, List.append_nil]
  rfl

/-- The lines of a document as those of its entries. -/
theorem documentText_cons (url text : List Char) (style : Style) (p : String × String)
    (limits : List (String × String)) :
    documentText url (p :: limits)
      = String.ofList (Entry.lines 0 [urlEntry url text style] ++ ("pool".toList ++ ':' :: '\n' ::
          Entry.lines 2 ((p :: limits).map fun p => Document.plainEntry p.1 p.2))) := by
  rw [documentText, if_neg (by simp), Entry.lines, List.flatMap_singleton, Entry.lines,
    List.flatMap_map]
  rfl

/-! ### Settings -/

/-- A document that is a mapping and nothing else. -/
structure IsMapping (d : Document) (start : Position) (ps : List (Node × Node)) : Prop where
  root : d.root = some (.mapping { start } ps)
  fault : d.fault = none
  single : d.isFollowed = false

/-- The settings, once the fields of a document have been read. -/
theorem IsMapping.readSettings {d : Document} {start : Position} {ps : List (Node × Node)}
    (h : IsMapping d start ps) :
    d.readSettings = (d.readFields d.settingsFields "" start ps [] (none, {})).bind
      fun s => match s.1 with
        | some databaseUrl => .ok { databaseUrl, pool := s.2 }
        | none => .error (.mismatch "" start (.missingField "database_url")) := by
  have hentries : d.readEntries "struct Settings" "" (.mapping { start } ps) = .ok (ps, start) :=
    rfl
  rw [Document.readSettings, Document.readRoot, h.root, h.fault, h.single]
  simp only [bind, Except.bind, hentries]
  cases d.readFields d.settingsFields "" start ps [] (none, {}) with
  | error flaw => rfl
  | ok s =>
    obtain ⟨url?, pool⟩ := s
    cases url? <;> rfl

/-- The connection string is the first entry. -/
theorem readFields_url {url text : List Char} {style : Style} {p : Node × Node}
    (hp : (urlEntry url text style).Shown p) (d : Document) (start : Position)
    (ps : List (Node × Node)) :
    d.readFields d.settingsFields "" start (p :: ps) [] (none, {})
      = d.readFields d.settingsFields "" start ps ["database_url"]
          (some (String.ofList text), {}) := by
  obtain ⟨⟨kstart, hkey⟩, ⟨vstart, hvalue⟩⟩ := hp
  obtain ⟨k, v⟩ := p
  obtain rfl : k = .scalar { start := kstart } "database_url" .plain := hkey
  obtain rfl : v = _ := hvalue
  rw [d.readFields_known rfl (by simp)]
  rfl

/-- The limits are the last entry. -/
theorem readFields_pool {k : Node} (hk : k.IsScalar "pool".toList .plain) (d : Document)
    (start start' : Position) (qs : List (Node × Node)) (url? : Option String) :
    d.readFields d.settingsFields "" start [(k, .mapping { start := start' } qs)] ["database_url"]
        (url?, {})
      = (d.readFields d.limitFields "pool" start' qs [] {}).map fun pool => (url?, pool) := by
  obtain ⟨kstart, hk⟩ := hk
  obtain rfl : k = .scalar { start := kstart } "pool" .plain := hk
  rw [d.readFields_known rfl (by simp)]
  have hlimits : d.readLimits (Document.placeUnder "" (.scalar { start := kstart } "pool" .plain))
      (.mapping { start := start' } qs) = d.readFields d.limitFields "pool" start' qs [] {} := rfl
  simp only [bind, Except.bind, hlimits]
  cases d.readFields d.limitFields "pool" start' qs [] {} <;> rfl

/-- The limits that the entries of a mapping spell out. -/
theorem readFields_limits (d : Document) (start : Position) {limits : List (String × String)}
    {qs : List (Node × Node)}
    (hqs : List.Forall₂ Entry.Shown (limits.map fun p => Document.plainEntry p.1 p.2) qs)
    (hdifferent : (limits.map (·.1)).Nodup) :
    (d.readFields d.limitFields "pool" start qs [] {}).toOption
      = limits.foldlM (Document.changed? d.limitFields) {} := by
  rw [d.readFields_toOption d.steady_limitFields hqs _ (by simp), List.foldlM_map]
  · rfl
  · simpa [Function.comp_def, Document.plainEntry] using hdifferent

theorem isRead_urlEntries {url text : List Char} {style : Style}
    (h : Ahead.ReadsAs 1 url text style) : ∀ e ∈ [urlEntry url text style], e.IsRead 1 := by
  simpa using isRead_urlEntry h

theorem allKept_urlEntries {url text : List Char} {style : Style} (h : AllKept url) :
    AllKept (Entry.lines 0 [urlEntry url text style]) :=
  allKept_lines 0 (by simpa using allKept_urlEntry h)

/-- A document without limits. -/
theorem exists_isMapping_nil {url text : List Char} {style : Style}
    (hurl : Ahead.ReadsAs 1 url text style) (hkept : AllKept url) :
    ∃ start p, (urlEntry url text style).Shown p
      ∧ IsMapping (Document.ofText (documentText url [])) start [p] := by
  obtain ⟨start, ps, hps, hdocument⟩ :=
    Entry.exists_ofText_lines (isRead_urlEntries hurl) (allKept_urlEntries hkept)
  obtain ⟨p, rfl, hp⟩ : ∃ p, ps = [p] ∧ (urlEntry url text style).Shown p := by
    cases hps with
    | cons hp hrest => cases hrest; exact ⟨_, rfl, hp⟩
  refine ⟨start, p, hp, ?_⟩
  rw [documentText_nil url text style, hdocument]
  exact ⟨rfl, rfl, rfl⟩

/-- A document with a section of limits. -/
theorem exists_isMapping_cons {url text : List Char} {style : Style}
    (hurl : Ahead.ReadsAs 1 url text style) (hkept : AllKept url) {p : String × String}
    {limits : List (String × String)} (hlimits : ∀ q ∈ p :: limits, IsPlainPair q) :
    ∃ start start' r k qs, (urlEntry url text style).Shown r ∧ k.IsScalar "pool".toList .plain
      ∧ List.Forall₂ Entry.Shown ((p :: limits).map fun q => Document.plainEntry q.1 q.2) qs
      ∧ IsMapping (Document.ofText (documentText url (p :: limits))) start
          [r, (k, .mapping { start := start' } qs)] := by
  have hds : ∀ e ∈ (p :: limits).map fun q => Document.plainEntry q.1 q.2,
      e.IsRead 3 ∧ AllKept e.line := by
    intro e he
    obtain ⟨q, hq, rfl⟩ := List.mem_map.mp he
    exact ⟨(hlimits q hq).isRead 3, (hlimits q hq).allKept⟩
  have hsecond : AllKept ("pool".toList ++ ':' :: '\n' ::
      Entry.lines 2 ((p :: limits).map fun q => Document.plainEntry q.1 q.2)) := by
    rw [allKept_append, allKept_cons, allKept_cons]
    exact ⟨by decide, by decide, by decide, allKept_lines 2 fun e he => (hds e he).2⟩
  obtain ⟨start, start', k, ps, qs, hk, hps, hqs, hdocument⟩ := Entry.exists_ofText_section
    (isRead_urlEntries hurl) (fits_of_checked (s := "pool".toList) (by decide)) (by decide)
    (fun e he => (hds e he).1) (allKept_append.mpr ⟨allKept_urlEntries hkept, hsecond⟩)
  obtain ⟨r, rfl, hr⟩ : ∃ r, ps = [r] ∧ (urlEntry url text style).Shown r := by
    cases hps with
    | cons hr hrest => cases hrest; exact ⟨_, rfl, hr⟩
  refine ⟨start, start', r, k, qs, hr, hk, hqs, ?_⟩
  rw [documentText_cons url text style, List.map_cons, hdocument]
  exact ⟨rfl, rfl, rfl⟩

theorem Settings.spelledOut_toOption (t : String) :
    (spelledOut t).toOption = (Document.ofText t).readSettings.toOption := by
  rw [spelledOut]
  cases (Document.ofText t).readSettings <;> rfl

/-- A document gives its connection string and, of the limits, the entries read one by one. -/
theorem exists_spelledOut {url text : List Char} {style : Style}
    (hurl : Ahead.ReadsAs 1 url text style) (hkept : AllKept url) {limits : List (String × String)}
    (hlimits : ∀ p ∈ limits, IsPlainPair p) (hdifferent : (limits.map (·.1)).Nodup) :
    ∃ d : Document, (Settings.spelledOut (documentText url limits)).toOption
      = (limits.foldlM (Document.changed? d.limitFields) {}).map fun pool =>
          { databaseUrl := String.ofList text, pool } := by
  refine ⟨Document.ofText (documentText url limits), ?_⟩
  rw [Settings.spelledOut_toOption]
  cases limits with
  | nil =>
    obtain ⟨start, p, hp, hmapping⟩ := exists_isMapping_nil hurl hkept
    rw [hmapping.readSettings, readFields_url hp]
    rfl
  | cons p limits =>
    obtain ⟨start, start', r, k, qs, hr, hk, hqs, hmapping⟩ :=
      exists_isMapping_cons hurl hkept hlimits
    rw [hmapping.readSettings, readFields_url hr, readFields_pool hk,
      ← readFields_limits (Document.ofText (documentText url (p :: limits))) start' hqs hdifferent]
    generalize Document.readFields _ _ "pool" start' qs [] ({} : PoolLimits) = pool
    cases pool <;> rfl

end TransactionGateway
