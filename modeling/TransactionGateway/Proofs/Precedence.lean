import TransactionGateway.Settings.Source

/-! # Precedence of definitions

Which values settings are read from, when there is a file of definitions beside the environment.

* **Bindings.** A file is a list of lines, and what counts of it are the bindings up to its first
  faulty line (`bindings`). A line is read in the environment as it is by then, since its value may
  mention variables.
* **Table.** A variable that has a value keeps it; any other has the first value bound to its name,
  or none (`table`). The environment that the lines leave behind, one after another, is that with
  all the bindings put beside it at once (`beside`, `defineLines_spec`).
* **Nulls.** Definitions can be carried out unless a variable would get a value with a null
  (`Settable`); then everything ends.
* **Settings.** Settings are those of the table (`ofEnvironment_of_settable`). A line that binds a
  name which has a value by then may be left out, and so may all that is behind a faulty line
  (`ofEnvironment_bound_line`, `ofEnvironment_faulty_line`). -/

namespace TransactionGateway

open Text

namespace Environment

variable {e e' : Environment}

/-! ### Alike environments -/

/-- Every name has the same entry in both. -/
def Alike (e e' : Environment) : Prop := ∀ name, e.entries.lookup name = e'.entries.lookup name

theorem Alike.value?_eq (h : e.Alike e') : e.value? = e'.value? := by
  funext name
  simp only [value?, stored?, h _]

theorem Alike.lineOf_eq (h : e.Alike e') (line : Octets) : e.lineOf line = e'.lineOf line := by
  have hexpansion : e.expansion = e'.expansion := by
    funext name
    rw [expansion, expansion, h.value?_eq]
  rw [lineOf, lineOf, hexpansion]

/-! ### Names of bindings -/

/-- A name that finds the whole value of its variable. -/
structure IsName (name : String) : Prop where
  ne_empty : name ≠ ""
  closed : '=' ∉ name.toList

namespace Line

theorem isName_of_name? {s name rest : List Char} (h : name? s = some (name, rest)) :
    IsName (String.ofList name) := by
  unfold name? at h
  split at h
  · next hfirst =>
    cases h
    obtain ⟨c, s, rfl⟩ : ∃ c r, s = c :: r := by
      cases s with
      | nil => simp at hfirst
      | cons c r => exact ⟨c, r, rfl⟩
    have hc : isNameChar c = true := by
      simp only [List.head?_cons, Option.any_some, Bool.or_eq_true, beq_iff_eq] at hfirst
      rcases hfirst with halpha | rfl
      · simp [isNameChar, Char.isAlphanum, halpha]
      · rfl
    refine ⟨by simp [hc], ?_⟩
    rw [String.toList_ofList]
    exact fun hmem => absurd (List.all_eq_true.mp List.all_takeWhile _ hmem) (by decide)
  · cases h

theorem isName_of_parts? {s name rest : List Char} (h : parts? s = some (name, rest)) :
    IsName (String.ofList name) := by
  unfold parts? at h
  obtain ⟨⟨first, behind⟩, hfirst, h⟩ := Option.bind_eq_some_iff.mp h
  dsimp only at h
  split at h
  · cases h
    exact isName_of_name? hfirst
  · split at h
    · obtain ⟨⟨second, behind'⟩, hsecond, h⟩ := Option.bind_eq_some_iff.mp h
      dsimp only at h
      split at h
      · cases h
        exact isName_of_name? hsecond
      · cases h
    · cases h

theorem isName_of_read {expand : List Char → List Char} {s name value : List Char}
    (h : read expand s = .binding name value) : IsName (String.ofList name) := by
  unfold read at h
  dsimp only at h
  split at h
  · cases h
  · split at h
    · cases h
    · next hparts =>
      split at h
      · cases h
        exact isName_of_parts? hparts
      · split at h
        · cases h
          exact isName_of_parts? hparts
        · cases h

end Line

theorem isName_of_lineOf {line : Octets} {name value : List Char}
    (h : e.lineOf line = .binding name value) : IsName (String.ofList name) := by
  unfold lineOf at h
  split at h
  · exact Line.isName_of_read h
  · cases h

/-! ### Bindings beside an environment -/

/-- The values of names: that of the variable, or else the first one bound to it. -/
def table (e : Environment) (bs : List (String × String)) : Variables :=
  fun name => (e.value? name).or (bs.lookup name)

/-- The environment with bindings beside it, for those of its variables that have no value. -/
def beside (e : Environment) (bs : List (String × String)) : Environment :=
  ⟨(bs.filter fun b => (e.value? b.1).isNone).map (fun b => (b.1, octetsOf b.2.toList))
    ++ e.entries⟩

/-- The value is the first one bound to a variable that has none. -/
def Defines (e : Environment) (bs : List (String × String)) (name value : String) : Prop :=
  e.value? name = none ∧ bs.lookup name = some value

/-- No variable would get a value with a null. -/
def Settable (e : Environment) (bs : List (String × String)) : Prop :=
  ∀ name value, e.Defines bs name value → '\x00' ∉ value.toList

theorem lookup_filter_map {β γ : Type} (p : String → Bool) (f : β → γ) (bs : List (String × β))
    (name : String) :
    ((bs.filter fun b => p b.1).map fun b => (b.1, f b.2)).lookup name
      = if p name then (bs.lookup name).map f else none := by
  induction bs with
  | nil => simp
  | cons b bs ih =>
    obtain ⟨n, v⟩ := b
    by_cases hn : name = n
    · subst hn
      by_cases hp : p name <;> simp [hp, ih]
    · have hne : (name == n) = false := beq_false_of_ne hn
      by_cases hp : p n <;> simp [List.lookup_cons, hp, hne, ih]

theorem lookup_beside (e : Environment) (bs : List (String × String)) (name : String) :
    (e.beside bs).entries.lookup name
      = if (e.value? name).isNone then
          ((bs.lookup name).map fun value => octetsOf value.toList).or (e.entries.lookup name)
        else e.entries.lookup name := by
  have hbound := lookup_filter_map (fun n => (e.value? n).isNone)
    (fun value : String => octetsOf value.toList) bs name
  rw [beside, List.lookup_append, hbound]
  split <;> simp

theorem value?_eq_of_isName {name : String} (h : IsName name) (e : Environment) :
    e.value? name = (e.entries.lookup name).bind textOf? := by
  rw [value?, stored?_of_notMem e h.ne_empty h.closed]

theorem value?_beside {name : String} (h : IsName name) (e : Environment)
    (bs : List (String × String)) : (e.beside bs).value? name = e.table bs name := by
  rw [value?_eq_of_isName h, lookup_beside, table]
  cases hvalue : e.value? name with
  | some value => simpa [value?_eq_of_isName h] using hvalue
  | none =>
    rw [value?_eq_of_isName h] at hvalue
    cases bs.lookup name with
    | none => simpa using hvalue
    | some value => simp [textOf?_octetsOf]

theorem alike_beside_nil (e : Environment) : e.Alike (e.beside []) := fun name => by
  rw [lookup_beside]
  simp

theorem settable_nil (e : Environment) : e.Settable [] := fun name value hdefines => by
  simp [Defines] at hdefines

theorem settable_of_forall {bs : List (String × String)} (h : ∀ b ∈ bs, '\x00' ∉ b.2.toList) :
    e.Settable bs := by
  intro name value hdefines
  obtain ⟨before, after, hbs, -⟩ := List.lookup_eq_some_iff.mp hdefines.2
  exact h (name, value) (by simp [hbs])

theorem Settable.of_append {bs more : List (String × String)} (h : e.Settable (bs ++ more)) :
    e.Settable bs := by
  intro name value hdefines
  refine h name value ⟨hdefines.1, ?_⟩
  rw [List.lookup_append, hdefines.2, Option.some_or]

/-- A binding of a name that has a value already changes nothing. -/
theorem alike_beside_bound {bs : List (String × String)} {name : String}
    (h : (e.table bs name).isSome) (value : String) :
    (e.beside bs).Alike (e.beside (bs ++ [(name, value)])) := by
  intro n
  rw [lookup_beside, lookup_beside, List.lookup_append]
  by_cases hn : n = name
  · subst hn
    cases hvalue : e.value? n with
    | some v => simp
    | none =>
      obtain ⟨v, hv⟩ := Option.isSome_iff_exists.mp h
      rw [table, hvalue, Option.none_or] at hv
      simp [hv]
  · have hne : (n == name) = false := beq_false_of_ne hn
    simp [List.lookup_cons, hne]

/-- One more binding, of a name that has no value. -/
theorem alike_beside_set {bs : List (String × String)} {name : String}
    (h : e.table bs name = none) (value : String) :
    ((e.beside bs).set name value).Alike (e.beside (bs ++ [(name, value)])) := by
  rw [table, Option.or_eq_none_iff] at h
  intro n
  rw [lookup_beside, List.lookup_append, set, List.lookup_cons]
  by_cases hn : n = name
  · subst hn
    simp [h.1, h.2]
  · have hne : (n == name) = false := beq_false_of_ne hn
    simp [lookup_beside, List.lookup_cons, hne]

theorem Alike.set (h : e.Alike e') (name value : String) :
    (e.set name value).Alike (e'.set name value) := by
  intro n
  simp only [Environment.set, List.lookup_cons, h n]

/-! ### Lines -/

/-- The bindings of lines up to the first faulty one, behind those of the lines before them. -/
def bindings (e : Environment) (before : List (String × String)) :
    List Octets → List (String × String)
  | [] => before
  | line :: rest =>
    match (e.beside before).lineOf line with
    | .nothing => e.bindings before rest
    | .faulty => before
    | .binding name value =>
      e.bindings (before ++ [(String.ofList name, String.ofList value)]) rest

theorem exists_bindings_eq (e : Environment) (before : List (String × String))
    (lines : List Octets) : ∃ more, e.bindings before lines = before ++ more := by
  induction lines generalizing before with
  | nil => exact ⟨[], by simp [bindings]⟩
  | cons line rest ih =>
    unfold bindings
    split
    · exact ih before
    · exact ⟨[], by simp⟩
    · next name value _ =>
      obtain ⟨more, hmore⟩ := ih (before ++ [(String.ofList name, String.ofList value)])
      exact ⟨_ :: more, by rw [hmore, List.append_assoc, List.singleton_append]⟩

/-- A further binding defines something only if it is the first one of a variable without a
value. -/
theorem Defines.of_append_singleton {before : List (String × String)} {name value n v : String}
    (h : e.Defines (before ++ [(name, value)]) n v) :
    e.Defines before n v ∨ n = name ∧ v = value ∧ e.table before name = none := by
  obtain ⟨hnone, hlookup⟩ := h
  rw [List.lookup_append, Option.or_eq_some_iff] at hlookup
  obtain hold | ⟨hold, hnew⟩ := hlookup
  · exact .inl ⟨hnone, hold⟩
  · by_cases hn : n = name
    · subst hn
      simp only [List.lookup_cons_self, Option.some.injEq] at hnew
      exact .inr ⟨rfl, hnew.symm, by rw [table, hnone, hold]; rfl⟩
    · simp [List.lookup_cons, beq_false_of_ne hn] at hnew

theorem defines_append_singleton {before : List (String × String)} {name : String}
    (h : e.table before name = none) (value : String) :
    e.Defines (before ++ [(name, value)]) name value := by
  rw [table, Option.or_eq_none_iff] at h
  refine ⟨h.1, ?_⟩
  rw [List.lookup_append, h.2]
  simp

/-- What one binding does: it is put beside the others, unless it cannot be set. -/
theorem define_spec {before : List (String × String)} (he : e'.Alike (e.beside before))
    (hbefore : e.Settable before) {name : String} (hname : IsName name) (value : String) :
    (∃ e'', e'.define name value = some e'' ∧ e''.Alike (e.beside (before ++ [(name, value)]))
      ∧ e.Settable (before ++ [(name, value)]))
    ∨ e'.define name value = none ∧ ¬ e.Settable (before ++ [(name, value)]) := by
  have hvalue : e'.value? name = e.table before name := by
    rw [he.value?_eq, value?_beside hname]
  cases htable : e.table before name with
  | some v =>
    have hset : (e'.value? name).isSome := by rw [hvalue, htable]; rfl
    refine .inl ⟨e', define_of_isSome hset value, ?_, fun n v' h => ?_⟩
    · exact fun n => (he n).trans (alike_beside_bound (by rw [htable]; rfl) value n)
    · obtain hold | ⟨-, -, hnone⟩ := h.of_append_singleton
      · exact hbefore n v' hold
      · rw [htable] at hnone
        cases hnone
  | none =>
    have hunset : ¬ (e'.value? name).isSome := by rw [hvalue, htable]; simp
    by_cases hnull : '\x00' ∈ value.toList
    · exact .inr ⟨by simp [define, hunset, hnull],
        fun h => h name value (defines_append_singleton htable value) hnull⟩
    · refine .inl ⟨e'.set name value, by simp [define, hunset, hnull], ?_, fun n v' h => ?_⟩
      · exact fun n => (he.set name value n).trans (alike_beside_set htable value n)
      · obtain hold | ⟨-, rfl, -⟩ := h.of_append_singleton
        · exact hbefore n v' hold
        · exact hnull

/-- What lines do, one after another, is what their bindings do at once. -/
theorem defineLines_spec {before : List (String × String)} (he : e'.Alike (e.beside before))
    (hbefore : e.Settable before) (lines : List Octets) :
    (∃ e'', e'.defineLines lines = some e'' ∧ e''.Alike (e.beside (e.bindings before lines))
      ∧ e.Settable (e.bindings before lines))
    ∨ e'.defineLines lines = none ∧ ¬ e.Settable (e.bindings before lines) := by
  induction lines generalizing before e' with
  | nil => exact .inl ⟨e', rfl, he, hbefore⟩
  | cons line rest ih =>
    rw [defineLines, bindings, he.lineOf_eq]
    cases hline : (e.beside before).lineOf line with
    | nothing => exact ih he hbefore
    | faulty => exact .inl ⟨e', rfl, he, hbefore⟩
    | binding name value =>
      dsimp only
      obtain ⟨e'', hdefine, he'', hafter⟩ | ⟨hdefine, hafter⟩ :=
        define_spec he hbefore (isName_of_lineOf hline) (String.ofList value)
      · rw [hdefine]
        exact ih he'' hafter
      · obtain ⟨more, hmore⟩ :=
          exists_bindings_eq e (before ++ [(String.ofList name, String.ofList value)]) rest
        rw [hdefine]
        exact .inr ⟨rfl, fun h => hafter (hmore ▸ h).of_append⟩

/-- Lines are carried out up to the end of the reading, if that is among them, and otherwise those
behind them are carried out in what they leave. -/
theorem defineLines_append (before : List Octets) (e : Environment) :
    (∀ rest, e.defineLines (before ++ rest) = e.defineLines before)
    ∨ ∃ e', e.defineLines before = some e'
      ∧ ∀ rest, e.defineLines (before ++ rest) = e'.defineLines rest := by
  induction before generalizing e with
  | nil => exact .inr ⟨e, rfl, fun _ => rfl⟩
  | cons line before ih =>
    simp only [List.cons_append, defineLines]
    cases e.lineOf line with
    | nothing => exact ih e
    | faulty => exact .inl fun _ => rfl
    | binding name value =>
      dsimp only
      cases e.define (String.ofList name) (String.ofList value) with
      | none => exact .inl fun _ => rfl
      | some e' => exact ih e'

/-- The same, with what the lines leave: their bindings beside the environment. -/
theorem defineLines_append_alike (before : List Octets) (e : Environment) :
    (∀ rest, e.defineLines (before ++ rest) = e.defineLines before)
    ∨ ∃ e' : Environment, e'.Alike (e.beside (e.bindings [] before))
      ∧ ∀ rest, e.defineLines (before ++ rest) = e'.defineLines rest := by
  obtain hstop | ⟨e', he', hgoes⟩ := defineLines_append before e
  · exact .inl hstop
  · obtain ⟨e'', he'', halike, -⟩ | ⟨hnone, -⟩ :=
      defineLines_spec (alike_beside_nil e) (settable_nil e) before
    · obtain rfl : e'' = e' := Option.some.inj (he''.symm.trans he')
      exact .inr ⟨e'', halike, hgoes⟩
    · rw [he'] at hnone
      cases hnone

/-- A line that binds a name which has a value changes nothing. -/
theorem defineLines_bound {line : Octets} {name value : List Char}
    (hline : e.lineOf line = .binding name value)
    (hbound : (e.value? (String.ofList name)).isSome) (rest : List Octets) :
    e.defineLines (line :: rest) = e.defineLines rest := by
  rw [defineLines, hline]
  dsimp only
  rw [define_of_isSome hbound]
  rfl

/-- Nothing behind a faulty line is read. -/
theorem defineLines_faulty {line : Octets} (hline : e.lineOf line = .faulty)
    (rest : List Octets) : e.defineLines (line :: rest) = some e := by
  rw [defineLines, hline]

theorem withDefinitions_join {lines : List Octets} (h : ∀ l ∈ lines, (10 : UInt8) ∉ l)
    (e : Environment) : e.withDefinitions (some (join 10 lines)) = e.defineLines lines := by
  cases lines with
  | nil =>
    have hempty : textOf? [] = some "" := textOf?_octetsOf []
    have hblank : e.lineOf [] = .nothing := by rw [lineOf, hempty]; rfl
    show e.defineLines [[]] = some e
    rw [defineLines, hblank, defineLines]
  | cons line rest => rw [withDefinitions, pieces_join (by simp) h]

end Environment

open Environment

/-- The variables that settings are read from. -/
def Variable.names : List String :=
  [databaseUrl, maxConnections, minIdle, connectionTimeoutSecs, idleTimeoutSecs, maxLifetimeSecs,
    testOnCheckOut]

theorem Variable.isName_of_mem {key : String} (h : key ∈ names) : IsName key := by
  have hall : ∀ key ∈ names, key ≠ "" ∧ '=' ∉ key.toList := by decide
  exact ⟨(hall key h).1, (hall key h).2⟩

/-- Settings depend on their own variables only. -/
theorem Settings.ofVariables_congr {vars vars' : Variables}
    (h : ∀ key ∈ Variable.names, vars key = vars' key) : ofVariables vars = ofVariables vars' := by
  simp only [Variable.names, List.forall_mem_cons] at h
  obtain ⟨hurl, hmax, hidle, hconnection, hidleTimeout, hlifetime, htest, -⟩ := h
  simp only [ofVariables, urlOf, PoolLimits.ofVariables, override, hurl, hmax, hidle, hconnection,
    hidleTimeout, hlifetime, htest]

namespace Host

/-- What the file of definitions binds. -/
def bindings (h : Host) : List (String × String) :=
  match h.definitions with
  | none => []
  | some content => h.environment.bindings [] (pieces 10 content)

/-- The host with a file of definitions that has these lines. -/
def withLines (lines : List Octets) (h : Host) : Host :=
  { h with definitions := some (join 10 lines) }

theorem withDefinitions_spec (h : Host) :
    (∃ e, h.environment.withDefinitions h.definitions = some e
      ∧ e.Alike (h.environment.beside h.bindings) ∧ h.environment.Settable h.bindings)
    ∨ h.environment.withDefinitions h.definitions = none
      ∧ ¬ h.environment.Settable h.bindings := by
  unfold bindings
  cases h.definitions with
  | none => exact .inl ⟨_, rfl, alike_beside_nil _, settable_nil _⟩
  | some content =>
    exact defineLines_spec (alike_beside_nil _) (settable_nil _) (pieces 10 content)

end Host

namespace Settings

theorem ofEnvironment_of_some {h : Host} {e : Environment}
    (he : h.environment.withDefinitions h.definitions = some e) :
    ofEnvironment h = outcome (ofVariables e.value?) := by
  rw [ofEnvironment, Host.defined, he]
  rfl

theorem ofEnvironment_of_none {h : Host}
    (he : h.environment.withDefinitions h.definitions = none) : ofEnvironment h = .panic := by
  rw [ofEnvironment, Host.defined, he]
  rfl

theorem ofEnvironment_congr {h h' : Host}
    (he : h.environment.withDefinitions h.definitions
      = h'.environment.withDefinitions h'.definitions) : ofEnvironment h = ofEnvironment h' := by
  cases hdefined : h'.environment.withDefinitions h'.definitions with
  | none => rw [ofEnvironment_of_none hdefined, ofEnvironment_of_none (he.trans hdefined)]
  | some e => rw [ofEnvironment_of_some hdefined, ofEnvironment_of_some (he.trans hdefined)]

/-- Settings depend on what the lines of a file do. -/
theorem ofEnvironment_of_lines {h : Host} {lines lines' : List Octets}
    (hlines : ∀ l ∈ lines, (10 : UInt8) ∉ l) (hlines' : ∀ l ∈ lines', (10 : UInt8) ∉ l)
    (he : h.environment.defineLines lines = h.environment.defineLines lines') :
    ofEnvironment (h.withLines lines) = ofEnvironment (h.withLines lines') := by
  refine ofEnvironment_congr ?_
  show h.environment.withDefinitions (some (join 10 lines))
    = h.environment.withDefinitions (some (join 10 lines'))
  rw [withDefinitions_join hlines, withDefinitions_join hlines', he]

theorem ofVariables_alike {e e' : Environment} {bs : List (String × String)}
    (h : e'.Alike (e.beside bs)) : ofVariables e'.value? = ofVariables (e.table bs) :=
  ofVariables_congr fun key hkey => by
    rw [h.value?_eq, value?_beside (Variable.isName_of_mem hkey)]

theorem ofEnvironment_of_settable {h : Host} (hset : h.environment.Settable h.bindings) :
    ofEnvironment h = outcome (ofVariables (h.environment.table h.bindings)) := by
  obtain ⟨e, he, halike, -⟩ | ⟨-, hunset⟩ := h.withDefinitions_spec
  · rw [ofEnvironment_of_some he, ofVariables_alike halike]
  · exact absurd hset hunset

theorem ofEnvironment_of_not_settable {h : Host} (hunset : ¬ h.environment.Settable h.bindings) :
    ofEnvironment h = .panic := by
  obtain ⟨-, -, -, hset⟩ | ⟨he, -⟩ := h.withDefinitions_spec
  · exact absurd hset hunset
  · exact ofEnvironment_of_none he

/-- Bindings of variables that have a value already are not looked at. -/
theorem ofVariables_table {e : Environment} {bs : List (String × String)}
    (hkept : ∀ key ∈ Variable.names, (bs.lookup key).isSome → (e.value? key).isSome) :
    ofVariables (e.table bs) = ofVariables e.value? := by
  refine ofVariables_congr fun key hkey => ?_
  rw [table]
  cases hvalue : e.value? key with
  | some value => rfl
  | none =>
    cases hbound : bs.lookup key with
    | none => rfl
    | some value => simpa [hvalue] using hkept key hkey (by rw [hbound]; rfl)

section Lines

variable {h : Host} {before : List Octets} {line : Octets} {after : List Octets}
  (hlines : ∀ l ∈ before ++ line :: after, (10 : UInt8) ∉ l)
include hlines

/-- A line that binds a name which has a value by then may be left out. -/
theorem ofEnvironment_bound_line {name value : List Char}
    (hline : (h.environment.beside (h.environment.bindings [] before)).lineOf line
      = .binding name value)
    (hbound : (h.environment.table (h.environment.bindings [] before)
      (String.ofList name)).isSome) :
    ofEnvironment (h.withLines (before ++ line :: after))
      = ofEnvironment (h.withLines (before ++ after)) := by
  have hothers : ∀ l ∈ before ++ after, (10 : UInt8) ∉ l := fun l hl => hlines l (by
    rw [List.mem_append] at hl ⊢
    exact hl.imp_right (List.mem_cons_of_mem line))
  refine ofEnvironment_of_lines hlines hothers ?_
  obtain hstop | ⟨e, halike, hgoes⟩ := defineLines_append_alike before h.environment
  · rw [hstop, hstop]
  · have hset : (e.value? (String.ofList name)).isSome := by
      rw [halike.value?_eq, value?_beside (isName_of_lineOf hline)]
      exact hbound
    rw [hgoes, hgoes, defineLines_bound (halike.lineOf_eq line ▸ hline) hset]

/-- Nothing behind a faulty line counts. -/
theorem ofEnvironment_faulty_line
    (hline : (h.environment.beside (h.environment.bindings [] before)).lineOf line = .faulty) :
    ofEnvironment (h.withLines (before ++ line :: after)) = ofEnvironment (h.withLines before) := by
  refine ofEnvironment_of_lines hlines (fun l hl => hlines l (by simp [hl])) ?_
  obtain hstop | ⟨e, halike, hgoes⟩ := defineLines_append_alike before h.environment
  · exact hstop _
  · have hleft : h.environment.defineLines before = some e := by
      rw [← List.append_nil before, hgoes, defineLines]
    rw [hgoes, defineLines_faulty (halike.lineOf_eq line ▸ hline), hleft]

end Lines

/-- The settings of an environment with a file of definitions are those of one table: a variable
that has a value keeps it, and any other has the first value bound to it before the first faulty
line.

* The table is not reached just when a variable would get a value with a null.
* Bindings of variables that have a value change nothing.
* Nor does a line that binds a name which has a value by then, or any line behind a faulty one. -/
theorem ofEnvironment_table (h : Host) :
    (h.environment.Settable h.bindings →
      ofEnvironment h = outcome (ofVariables (h.environment.table h.bindings)))
    ∧ (¬ h.environment.Settable h.bindings → ofEnvironment h = .panic)
    ∧ (h.environment.Settable h.bindings →
      (∀ key ∈ Variable.names, (h.bindings.lookup key).isSome →
        (h.environment.value? key).isSome) →
      ofEnvironment h = outcome (ofVariables h.environment.value?))
    ∧ ∀ before line after, (∀ l ∈ before ++ line :: after, (10 : UInt8) ∉ l) →
      (∀ name value,
        (h.environment.beside (h.environment.bindings [] before)).lineOf line
          = .binding name value →
        (h.environment.table (h.environment.bindings [] before) (String.ofList name)).isSome →
        ofEnvironment (h.withLines (before ++ line :: after))
          = ofEnvironment (h.withLines (before ++ after)))
      ∧ ((h.environment.beside (h.environment.bindings [] before)).lineOf line = .faulty →
        ofEnvironment (h.withLines (before ++ line :: after))
          = ofEnvironment (h.withLines before)) := by
  refine ⟨ofEnvironment_of_settable, ofEnvironment_of_not_settable, fun hset hkept => ?_,
    fun before line after hlines => ⟨fun name value hline hbound => ?_, fun hline => ?_⟩⟩
  · rw [ofEnvironment_of_settable hset, ofVariables_table hkept]
  · exact ofEnvironment_bound_line hlines hline hbound
  · exact ofEnvironment_faulty_line hlines hline

/-- A host whose file binds the URL that is set already, one size twice, and another size behind a
fault. -/
def Host.overlapping : Host where
  environment := ⟨[("DATABASE_URL", octetsOf "mysql://a".toList)]⟩
  definitions := some (octetsOf ("DATABASE_URL=mysql://b\nDATABASE_MIN_IDLE=2\n"
    ++ "DATABASE_MIN_IDLE=3\n?\nDATABASE_MAX_CONNECTIONS=9").toList)
  readText _ := .error .notUtf8

theorem ofEnvironment_table_overlapping :
    ofEnvironment Host.overlapping = .ok { databaseUrl := "mysql://a", pool := { minIdle := 2 } }
    ∧ ofEnvironment (Host.overlapping.withLines [octetsOf "DATABASE_MIN_IDLE=\x00".toList])
      = .panic
    ∧ ofEnvironment (Host.overlapping.withLines [octetsOf "DATABASE_URL=mysql://b".toList])
      = .ok { databaseUrl := "mysql://a" }
    ∧ ofEnvironment (Host.overlapping.withLines
        [octetsOf "DATABASE_MIN_IDLE=2".toList, octetsOf "DATABASE_MIN_IDLE=3".toList])
      = ofEnvironment (Host.overlapping.withLines [octetsOf "DATABASE_MIN_IDLE=2".toList])
    ∧ ofEnvironment (Host.overlapping.withLines
        [octetsOf "?".toList, octetsOf "DATABASE_MIN_IDLE=3".toList])
      = ofEnvironment (Host.overlapping.withLines []) := by
  refine ⟨?_, ?_, ?_, ?_, ?_⟩
  · have hbound : Host.overlapping.bindings = [("DATABASE_URL", "mysql://b"),
        ("DATABASE_MIN_IDLE", "2"), ("DATABASE_MIN_IDLE", "3")] := by decide +kernel
    rw [(ofEnvironment_table Host.overlapping).1 (settable_of_forall (by rw [hbound]; decide))]
    decide +kernel
  · exact (ofEnvironment_table _).2.1 fun hset =>
      hset "DATABASE_MIN_IDLE" "\x00" ⟨by decide +kernel, by decide +kernel⟩ (by decide)
  · have hbound : (Host.overlapping.withLines [octetsOf "DATABASE_URL=mysql://b".toList]).bindings
        = [("DATABASE_URL", "mysql://b")] := by decide +kernel
    rw [(ofEnvironment_table _).2.2.1 (settable_of_forall (by rw [hbound]; decide))
      (by rw [hbound]; decide +kernel)]
    decide +kernel
  · exact ((ofEnvironment_table Host.overlapping).2.2.2 [octetsOf "DATABASE_MIN_IDLE=2".toList]
      (octetsOf "DATABASE_MIN_IDLE=3".toList) [] (by decide +kernel)).1 "DATABASE_MIN_IDLE".toList
      "3".toList (by decide +kernel) (by decide +kernel)
  · exact ((ofEnvironment_table Host.overlapping).2.2.2 [] (octetsOf "?".toList)
      [octetsOf "DATABASE_MIN_IDLE=3".toList] (by decide +kernel)).2 (by decide +kernel)

end Settings

end TransactionGateway
