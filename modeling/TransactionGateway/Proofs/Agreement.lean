import TransactionGateway.Proofs.Documents
import TransactionGateway.Proofs.Spellings
import TransactionGateway.Settings.Lookup

/-! # Variables and documents agree

The same connection string and the same limits give the same settings, whether they are found in
variables or in a document.

* **Simple texts.** Texts of letters, digits and a few marks (`IsSimple`) stand in a plain line as
  they are, and have no padding. Addresses of a scheme, a host, a port and a path are simple, and so
  are numerals and truth values.
* **Choices.** Each limit is chosen, a number of any size, or left out (`LimitChoice`). A choice is
  written as variables and as entries of a document, each limit under the name that it has there.
* **Limits.** Both readers come to the chosen limits beside the defaults of the others, and refuse
  them when a number is beyond its width (`limits?`). In variables that is said of one override
  (`override_toOption`), in a document of one entry (`foldlM_entry`).
* **Settings.** Validation is the same behind both, so the settings are the same too. -/

namespace TransactionGateway

open Text Yaml

/-! ### Simple texts -/

/-- A character of addresses, numerals and words: a letter, a digit or one of a few marks. -/
def isSimpleChar (c : Char) : Bool := c.isAlphanum || [':', '/', '.', '_', '-'].contains c

/-- A text of such characters that starts with a letter or a digit and does not end with a
colon. -/
structure IsSimple (s : List Char) : Prop where
  head : s.head?.any Char.isAlphanum = true
  all : s.all isSimpleChar = true
  last : s.getLast? ≠ some ':'

theorem toNat_of_isAlphanum {c : Char} (h : c.isAlphanum = true) :
    0x30 ≤ c.toNat ∧ c.toNat ≤ 0x7A := by
  change ((decide ('A'.val ≤ c.val ∧ c.val ≤ 'Z'.val) || (decide ('a'.val ≤ c.val)
    && decide (c.val ≤ 'z'.val))) || (decide ('0'.val ≤ c.val) && decide (c.val ≤ '9'.val)))
      = true at h
  simp only [UInt32.le_iff_toNat_le, Bool.or_eq_true, Bool.and_eq_true, decide_eq_true_eq] at h
  change ((0x41 ≤ c.toNat ∧ c.toNat ≤ 0x5A) ∨ (0x61 ≤ c.toNat ∧ c.toNat ≤ 0x7A))
    ∨ (0x30 ≤ c.toNat ∧ c.toNat ≤ 0x39) at h
  omega

theorem toNat_of_isSimpleChar {c : Char} (h : isSimpleChar c = true) :
    0x2D ≤ c.toNat ∧ c.toNat ≤ 0x7A := by
  have hmarks : [':', '/', '.', '_', '-'].all
      (fun d => decide (0x2D ≤ d.toNat ∧ d.toNat ≤ 0x7A)) = true := by decide
  simp only [isSimpleChar, Bool.or_eq_true, List.contains_eq_mem, decide_eq_true_eq] at h
  obtain h | h := h
  · have := toNat_of_isAlphanum h
    omega
  · exact of_decide_eq_true (List.all_eq_true.mp hmarks c h)

theorem ne_of_isSimpleChar {c d : Char} (h : isSimpleChar c = true) (hd : isSimpleChar d = false) :
    c ≠ d := by
  rintro rfl
  simp [h] at hd

theorem isBlank_of_isSimpleChar {c : Char} (h : isSimpleChar c = true) :
    Text.isBlank c = false := by
  have := toNat_of_isSimpleChar h
  simp only [Text.isBlank, Bool.or_eq_false_iff, Bool.and_eq_false_iff, decide_eq_false_iff_not,
    beq_eq_false_iff_ne]
  omega

theorem isBlank_isBreak_of_isSimpleChar {c : Char} (h : isSimpleChar c = true) :
    Yaml.isBlank c = false ∧ isBreak c = false := by
  simp [Yaml.isBlank, isBreak, ne_of_isSimpleChar h (d := ' ') rfl,
    ne_of_isSimpleChar h (d := '\t') rfl, ne_of_isSimpleChar h (d := '\n') rfl,
    ne_of_isSimpleChar h (d := '\u2028') rfl, ne_of_isSimpleChar h (d := '\u2029') rfl]

theorem isShown_of_isSimpleChar {c : Char} (h : isSimpleChar c = true) :
    Printer.isShown c = true := by
  have := toNat_of_isSimpleChar h
  simp only [Printer.isShown, Bool.or_eq_true, Bool.and_eq_true, decide_eq_true_eq]
  omega

theorem holdsIndicator_simple {s : List Char} (h : s.all isSimpleChar = true)
    (hlast : s.getLast? ≠ some ':') : Printer.holdsIndicator false s = false := by
  induction s with
  | nil => rfl
  | cons c s ih =>
    rw [List.all_cons, Bool.and_eq_true] at h
    obtain ⟨hblank, hbreak⟩ := isBlank_isBreak_of_isSimpleChar h.1
    rw [Printer.holdsIndicator, hblank, hbreak]
    cases s with
    | nil =>
      have hcolon : c ≠ ':' := by simpa using hlast
      simp [hcolon, Printer.holdsIndicator]
    | cons d s =>
      obtain ⟨hblank', hbreak'⟩ := isBlank_isBreak_of_isSimpleChar (c := d) (by simp_all)
      rw [List.getLast?_cons_cons] at hlast
      simp [blankAhead, hblank', hbreak', ih h.2 hlast]

theorem beginsWithIndicator_alphanum {c : Char} (h : c.isAlphanum = true) (s : List Char) :
    Printer.beginsWithIndicator (c :: s) = false := by
  have hother : ∀ {d : Char}, d.isAlphanum = false → c ≠ d := by
    rintro d hd rfl
    simp [h] at hd
  have hhyphen : ('-' == c) = false := beq_false_of_ne (Ne.symm (hother rfl))
  have hdot : ('.' == c) = false := beq_false_of_ne (Ne.symm (hother rfl))
  simp [Printer.beginsWithIndicator, hother, List.isPrefixOf, hhyphen, hdot]

namespace IsSimple

variable {s : List Char} (h : IsSimple s)
include h

theorem trim_eq : trim s = s :=
  trim_of_not_blank fun c hc => isBlank_of_isSimpleChar (List.all_eq_true.mp h.all c hc)

theorem fits : Plain.Fits s := by
  obtain ⟨hhead, hall, hlast⟩ := h
  have hshown : Printer.isAllShown s = true := List.all_eq_true.mpr fun c hc =>
    isShown_of_isSimpleChar (List.all_eq_true.mp hall c hc)
  have hunbroken : s.any isBreak = false := List.any_eq_false.mpr fun c hc => by
    simp [isBlank_isBreak_of_isSimpleChar (List.all_eq_true.mp hall c hc)]
  have hspace : ∀ c ∈ s, Printer.isSpace c = false := fun c hc => by
    simpa [Printer.isSpace] using
      ne_of_isSimpleChar (d := ' ') (List.all_eq_true.mp hall c hc) rfl
  cases s with
  | nil => simp at hhead
  | cons c s =>
    have hend : (c :: s).getLast?.any Printer.isSpace = false := by
      rw [List.getLast?_eq_getLast_of_ne_nil (by simp)]
      exact hspace _ (List.getLast_mem _)
    have hinside : Printer.holdsIndicator false s = false := by
      refine holdsIndicator_simple (by simp_all) fun hs => hlast ?_
      rw [List.getLast?_cons, hs]
      rfl
    refine ⟨?_, by simp⟩
    have hbegins := beginsWithIndicator_alphanum (c := c) (by simpa using hhead) s
    rw [Printer.fitsPlain, hshown, hunbroken, hend, hbegins]
    simp [hinside, hspace c]

end IsSimple

theorem isSimple_toString_nat (n : Nat) : IsSimple (toString n).toList := by
  rw [Nat.toString_eq_repr, Nat.toList_repr]
  have hdigit : ∀ c ∈ Nat.toDigits 10 n, c.isDigit = true := fun c hc => isDigit_toDigits hc
  obtain ⟨c, r, h, hc, -, -⟩ := exists_toDigits n
  refine ⟨by simp [h, Char.isAlphanum, hc], List.all_eq_true.mpr fun d hd => ?_, fun hlast => ?_⟩
  · simp [isSimpleChar, Char.isAlphanum, hdigit d hd]
  · exact absurd (hdigit ':' (List.mem_of_getLast? hlast)) (by decide)

theorem isSimple_toString_bool (b : Bool) : IsSimple (toString b).toList := by
  cases b <;> exact ⟨by decide, by decide, by decide⟩

/-! ### Chosen limits -/

/-- A choice of limits: numbers of any size and a truth value, each of which may be left out. -/
structure LimitChoice where
  maxConnections : Option Nat := none
  minIdle : Option Nat := none
  connectionTimeoutSecs : Option Nat := none
  idleTimeoutSecs : Option Nat := none
  maxLifetimeSecs : Option Nat := none
  testOnCheckOut : Option Bool := none

namespace LimitChoice

variable (c : LimitChoice)

/-- The keys of the limits in a document, their variables, and the texts of those that are
chosen. -/
def table : List (String × String × Option String) :=
  [("max_connections", Variable.maxConnections, c.maxConnections.map toString),
    ("min_idle", Variable.minIdle, c.minIdle.map toString),
    ("connection_timeout_secs", Variable.connectionTimeoutSecs,
      c.connectionTimeoutSecs.map toString),
    ("idle_timeout_secs", Variable.idleTimeoutSecs, c.idleTimeoutSecs.map toString),
    ("max_lifetime_secs", Variable.maxLifetimeSecs, c.maxLifetimeSecs.map toString),
    ("test_on_check_out", Variable.testOnCheckOut, c.testOnCheckOut.map toString)]

/-- The entry of a limit in a document, if it is chosen. -/
def entry? : String × String × Option String → Option (String × String)
  | (key, _, text?) => text?.map fun text => (key, text)

/-- The entries of a document with the chosen limits. -/
def entries : List (String × String) := c.table.filterMap entry?

/-- Variables with a connection string and the chosen limits. -/
def asVariables (url : String) (others : Variables) : Variables := fun name =>
  if name = Variable.databaseUrl then some url
  else ((c.table.map (·.2)).lookup name).getD (others name)

/-- The chosen limits beside the defaults of the others, when every number fits its width. -/
def limits? : Option PoolLimits := do
  let defaults : PoolLimits := {}
  let maxConnections ← c.maxConnections.elim (some defaults.maxConnections) word32?
  let minIdle ← c.minIdle.elim (some defaults.minIdle) word32?
  let connectionTimeoutSecs ←
    c.connectionTimeoutSecs.elim (some defaults.connectionTimeoutSecs) word64?
  let idleTimeoutSecs ← c.idleTimeoutSecs.elim (some defaults.idleTimeoutSecs) word64?
  let maxLifetimeSecs ← c.maxLifetimeSecs.elim (some defaults.maxLifetimeSecs) word64?
  let testOnCheckOut ← c.testOnCheckOut.elim (some defaults.testOnCheckOut) some
  return { maxConnections, minIdle, connectionTimeoutSecs, idleTimeoutSecs, maxLifetimeSecs,
           testOnCheckOut }

/-! ### In variables -/

/-- An override whose text, if there is one, is that of a value. -/
theorem override_toOption {α β : Type} [ToString α] {read : List Char → Except NumeralError β}
    {value? : α → Option β} (hsimple : ∀ a : α, IsSimple (toString a).toList)
    (hread : ∀ a : α, (read (toString a).toList).toOption = value? a) (vars : Variables)
    (name : String) (a? : Option α) (h : vars name = a?.map toString) (default : β) :
    (override read vars name default).toOption = a?.elim (some default) value? := by
  rw [override, h]
  cases a? with
  | none => rfl
  | some a =>
    rw [Option.map_some, Option.elim_some, ← hread]
    simp only [(hsimple a).trim_eq]
    cases read (toString a).toList <;> rfl

theorem readWord32_toString (n : Nat) : (readWord32 (toString n).toList).toOption = word32? n := by
  rw [Nat.toString_eq_repr, Nat.toList_repr, readWord32_toDigits]

theorem readWord64_toString (n : Nat) : (readWord64 (toString n).toList).toOption = word64? n := by
  rw [Nat.toString_eq_repr, Nat.toList_repr, readWord64_toDigits]

theorem readBool_toString (b : Bool) : (readBool (toString b).toList).toOption = some b := by
  cases b <;> rfl

theorem ofVariables_asVariables (url : String) (others : Variables) :
    (PoolLimits.ofVariables (c.asVariables url others)).toOption = c.limits? := by
  have h32 := override_toOption isSimple_toString_nat readWord32_toString
    (c.asVariables url others)
  have h64 := override_toOption isSimple_toString_nat readWord64_toString
    (c.asVariables url others)
  have htruth := override_toOption isSimple_toString_bool readBool_toString
    (c.asVariables url others)
  simp only [PoolLimits.ofVariables, toOption_bind, limits?,
    h32 Variable.maxConnections c.maxConnections rfl, h32 Variable.minIdle c.minIdle rfl,
    h64 Variable.connectionTimeoutSecs c.connectionTimeoutSecs rfl,
    h64 Variable.idleTimeoutSecs c.idleTimeoutSecs rfl,
    h64 Variable.maxLifetimeSecs c.maxLifetimeSecs rfl,
    htruth Variable.testOnCheckOut c.testOnCheckOut rfl]
  rfl

/-! ### In a document -/

/-- A field whose text, if there is one, is that of a value, and which was at its default. -/
theorem foldlM_entry {α β σ : Type} [ToString α] {fields : Document.Fields σ} {key : String}
    {update : β → σ → σ} {value? : α → Option β}
    (hchange : ∀ a : α, Document.change? fields (Document.plainEntry key (toString a))
      = (value? a).map update)
    (a? : Option α) {default : β} {s : σ} (hdefault : update default s = s) (name : String)
    (rows : List (String × String × Option String)) :
    (((key, name, a?.map toString) :: rows).filterMap entry?).foldlM (Document.changed? fields) s
      = (a?.elim (some default) value?).bind fun b =>
          (rows.filterMap entry?).foldlM (Document.changed? fields) (update b s) := by
  cases a? with
  | none => rw [Option.elim_none, Option.bind_some, hdefault]; rfl
  | some a =>
    have hentry : entry? (key, name, (some a).map toString) = some (key, toString a) := rfl
    rw [List.filterMap_cons_some hentry, List.foldlM_cons, Document.changed?, hchange,
      Option.elim_some]
    cases value? a <;> rfl

theorem foldlM_entries (d : Document) :
    c.entries.foldlM (Document.changed? d.limitFields) {} = c.limits? := by
  rw [entries, table, foldlM_entry (d.change?_word32 rfl) _ rfl, limits?]
  refine Option.bind_congr fun maxConnections _ => ?_
  rw [foldlM_entry (d.change?_word32 rfl) _ rfl]
  refine Option.bind_congr fun minIdle _ => ?_
  rw [foldlM_entry (d.change?_word64 rfl) _ rfl]
  refine Option.bind_congr fun connectionTimeoutSecs _ => ?_
  rw [foldlM_entry (d.change?_word64 rfl) _ rfl]
  refine Option.bind_congr fun idleTimeoutSecs _ => ?_
  rw [foldlM_entry (d.change?_word64 rfl) _ rfl]
  refine Option.bind_congr fun maxLifetimeSecs _ => ?_
  have htruth : ∀ b : Bool, Document.change? d.limitFields
      (Document.plainEntry "test_on_check_out" (toString b))
      = (some b).map fun testOnCheckOut limits => { limits with testOnCheckOut } :=
    d.change?_truth rfl
  rw [foldlM_entry htruth _ rfl]
  rfl

theorem sublist_entries (rows : List (String × String × Option String)) :
    ((rows.filterMap entry?).map (·.1)).Sublist (rows.map (·.1)) := by
  induction rows with
  | nil => exact List.Sublist.refl []
  | cons row rows ih =>
    obtain ⟨key, name, text?⟩ := row
    cases text? with
    | none => exact ih.cons key
    | some text => exact ih.cons_cons key

theorem sublist_keys : (c.entries.map (·.1)).Sublist PoolLimits.keys := sublist_entries c.table

theorem nodup_entries : (c.entries.map (·.1)).Nodup :=
  c.sublist_keys.nodup (by decide)

theorem isSimple_of_chosen {α : Type} [ToString α] (h : ∀ a : α, IsSimple (toString a).toList)
    (a? : Option α) (text : String) (htext : a?.map toString = some text) :
    IsSimple text.toList := by
  obtain ⟨a, -, rfl⟩ := Option.map_eq_some_iff.mp htext
  exact h a

theorem isSimple_of_mem {p : String × String} (hp : p ∈ c.entries) : IsSimple p.2.toList := by
  have hnat := isSimple_of_chosen isSimple_toString_nat
  have hrows : ∀ row ∈ c.table, ∀ text, row.2.2 = some text → IsSimple text.toList := by
    simp only [table, List.forall_mem_cons]
    exact ⟨hnat _, hnat _, hnat _, hnat _, hnat _, isSimple_of_chosen isSimple_toString_bool _,
      by simp⟩
  obtain ⟨row, hrow, hentry⟩ := List.mem_filterMap.mp hp
  obtain ⟨text, htext, rfl⟩ := Option.map_eq_some_iff.mp hentry
  exact hrows row hrow text htext

theorem isPlainPair_of_mem {p : String × String} (hp : p ∈ c.entries) : IsPlainPair p := by
  have hkeys : ∀ key ∈ PoolLimits.keys, (Printer.fitsPlain key.toList && !key.toList.isEmpty) = true
      ∧ octetCount key.toList ≤ 1024 := by decide
  obtain ⟨hfits, hshort⟩ := hkeys p.1 (c.sublist_keys.subset (List.mem_map_of_mem hp))
  exact ⟨fits_of_checked hfits, hshort, (c.isSimple_of_mem hp).fits⟩

end LimitChoice

/-! ### Agreement -/

theorem placeholder?_of_isSimple {url : String} (h : IsSimple url.toList) :
    placeholder? url = none := by
  rw [placeholder?_eq_none_iff]
  intro name hname
  have hhead := h.head
  rw [← h.trim_eq, hname] at hhead
  simp at hhead

theorem Settings.ofVariables_toOption {url : String} (hurl : IsSimple url.toList) (c : LimitChoice)
    (others : Variables) :
    (ofVariables (c.asVariables url others)).toOption
      = c.limits?.bind fun pool => (validated { databaseUrl := url, pool }).toOption := by
  have hget : urlOf (c.asVariables url others) = .ok url := by
    have hset : c.asVariables url others Variable.databaseUrl = some url := rfl
    rw [urlOf, hset]
    simp only [hurl.trim_eq, if_neg hurl.fits.ne_nil, trimmed, String.ofList_toList]
  rw [ofVariables, hget, ← c.ofVariables_asVariables url others, ← toOption_bind]
  rfl

theorem Settings.ofYaml_toOption {url : String} (hurl : IsSimple url.toList) (c : LimitChoice)
    (vars : Variables) :
    (ofYaml vars (documentText (plainLine url) c.entries)).toOption
      = c.limits?.bind fun pool => (validated { databaseUrl := url, pool }).toOption := by
  have hkept : AllKept (plainLine url) := by
    rw [plainLine, allKept_append]
    exact ⟨hurl.fits.allKept, by decide⟩
  obtain ⟨d, hd⟩ := exists_spelledOut (Ahead.readsAs_plain hurl.fits 1) hkept
    (fun p hp => c.isPlainPair_of_mem hp) c.nodup_entries
  rw [ofYaml, toOption_bind, plainLine, hd, c.foldlM_entries d]
  cases c.limits? with
  | none => rfl
  | some pool =>
    simp only [Option.map_some, Option.bind_some, String.ofList_toList, resolved,
      placeholder?_of_isSimple hurl]
    rfl

/-- Variables and a document that hold the same connection string and the same chosen limits give
the same settings, or neither gives any, whatever the other variables of either side are. -/
theorem Settings.ofVariables_agrees {url : String} (hurl : IsSimple url.toList) (c : LimitChoice)
    (others vars : Variables) :
    (ofVariables (c.asVariables url others)).toOption
      = (ofYaml vars (documentText (plainLine url) c.entries)).toOption := by
  rw [ofVariables_toOption hurl, ofYaml_toOption hurl]

/-- Few connections: the default number of idle ones still fits. -/
def fewConnections : LimitChoice := { maxConnections := some 5, testOnCheckOut := some false }

theorem Settings.fewConnections_agree :
    IsSimple "postgres://db-1.example:5432/app_2".toList
      ∧ (ofVariables (fewConnections.asVariables "postgres://db-1.example:5432/app_2"
          fun _ => none)).toOption
        = some { databaseUrl := "postgres://db-1.example:5432/app_2"
                 pool := { maxConnections := 5, testOnCheckOut := false } }
      ∧ (ofVariables (fewConnections.asVariables "postgres://db-1.example:5432/app_2"
          fun _ => none)).toOption
        = (ofYaml (fun _ => none) (documentText (plainLine "postgres://db-1.example:5432/app_2")
            fewConnections.entries)).toOption := by
  have hurl : IsSimple "postgres://db-1.example:5432/app_2".toList :=
    ⟨by decide, by decide, by decide⟩
  exact ⟨hurl, by decide, ofVariables_agrees hurl fewConnections _ _⟩

end TransactionGateway
