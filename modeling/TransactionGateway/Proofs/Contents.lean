import TransactionGateway.Proofs.Blocks
import TransactionGateway.Proofs.Documents

/-! # Settings of block mappings

The settings that a text spells out when it is a block mapping, in whatever layout.

* **Changes.** The value of a known key changes a part of a state, if it can be read (`Changes`).
  Entries are collected one after another (`collect`): unknown keys are passed over, and a known key
  stands at most once.
* **Limits.** A scalar is read as a number or as a truth value, whatever its key (`limitChanges`).
* **Settings.** The connection string is the text of a scalar, and the limits are those of a
  section, or the defaults when there is nothing behind the key (`settingsChanges`). There are
  settings if there is a connection string (`Settings.ofContents`).
* **Documents.** Where the readers of fields agree with changes (`Agrees`), a mapping is read as its
  entries are collected (`readFields_eq_collect`). So a text that is a block mapping spells out the
  settings of its contents (`spelledOut_mapping`). -/

namespace TransactionGateway

open Text

namespace Yaml

/-! ### Entries one after another -/

section Collect

variable {γ σ : Type}

/-- What the value of a known key changes, if it can be read. -/
abbrev Changes (γ σ : Type) := String → Option (γ → Option (σ → σ))

/-- A state with what entries change one after another, the keys of those before them apart. -/
def collect (changes : Changes γ σ) : List (String × γ) → (seen : List String) → σ → Option σ
  | [], _, s => some s
  | (key, x) :: rest, seen, s =>
    match changes key with
    | none => collect changes rest seen s
    | some change? =>
      if key ∈ seen then none
      else (change? x).bind fun change => collect changes rest (key :: seen) (change s)

/-- Readers of fields make of a node what changes make of the value that it shows. -/
def Agrees (fields : Document.Fields σ) (changes : Changes γ σ) (Shown : γ → Node → Prop) : Prop :=
  ∀ key, Option.Rel (fun read change? => ∀ place x y, Shown x y →
    (read place y).toOption = change? x) (fields key) (changes key)

/-- A mapping is read as its entries are collected. -/
theorem Document.readFields_eq_collect (d : Document) {fields : Document.Fields σ}
    {changes : Changes γ σ} {Shown : γ → Node → Prop} (hfields : Agrees fields changes Shown)
    (huncut : ∀ {x y}, Shown x y → y.cut? = none) {xs : List (String × γ)}
    {ps : List (Node × Node)} (hps : List.Forall₂ (EntryShown Shown) xs ps) (place : String)
    (start : Position) (seen : List String) (s : σ) :
    (d.readFields fields place start ps seen s).toOption = collect changes xs seen s := by
  induction hps generalizing seen s with
  | nil => rfl
  | @cons x p xs ps hp _ ih =>
    obtain ⟨⟨kstart, hkey⟩, hvalue⟩ := hp
    obtain ⟨k, v⟩ := p
    obtain ⟨key, x⟩ := x
    obtain rfl : k = _ := hkey
    rw [String.ofList_toList]
    have hname : d.readText "field identifier" place (.scalar { start := kstart } key .plain)
        = .ok key := rfl
    have hrel := hfields key
    rw [readFields, hname, collect]
    simp only [bind, Except.bind]
    cases hread : fields key <;> cases hchange : changes key <;> rw [hread, hchange] at hrel <;>
      cases hrel
    · have hpassed : passOver v = .ok () := by rw [passOver, huncut hvalue]
      simp only [hpassed]
      exact ih seen s
    · next read change? h =>
      by_cases hseen : key ∈ seen
      · simp [hseen, throw, throwThe, MonadExceptOf.throw, Except.toOption]
      · simp only [List.contains_eq_mem, hseen, decide_false, Bool.false_eq_true, if_false]
        rw [← h _ _ _ hvalue]
        cases read _ v with
        | error flaw => rfl
        | ok change => exact ih (key :: seen) (change s)

end Collect

/-! ### Limits -/

namespace Scalar

/-- The word of 32 bits that a scalar is read as. -/
def word32? (x : Scalar) : Option UInt32 :=
  (Document.number? x.text x.style).bind TransactionGateway.word32?

/-- The word of 64 bits that a scalar is read as. -/
def word64? (x : Scalar) : Option UInt64 := (Document.number? x.text x.style).map UInt64.ofNat

/-- The truth value that a scalar is read as. -/
def truth? (x : Scalar) : Option Bool := Document.truth? x.text x.style

namespace Shown

variable {x : Scalar} {y : Node} (h : x.Shown y) (d : Document) (place : String)
include h

theorem cut?_eq : y.cut? = none := by
  obtain ⟨start, rfl⟩ := h
  rfl

theorem readText_eq (expected : String) : d.readText expected place y = .ok x.text := by
  obtain ⟨start, rfl⟩ := h
  rw [String.ofList_toList]
  rfl

theorem readWord32_toOption : (d.readWord32 place y).toOption = x.word32? := by
  obtain ⟨start, rfl⟩ := h
  rw [Document.readWord32_toOption, String.ofList_toList, word32?]

theorem readWord64_toOption : (d.readWord64 place y).toOption = x.word64? := by
  obtain ⟨start, rfl⟩ := h
  rw [Document.readWord64_toOption, String.ofList_toList, word64?]

theorem readTruth_toOption : (d.readTruth place y).toOption = x.truth? := by
  obtain ⟨start, rfl⟩ := h
  rw [Document.readTruth_toOption, String.ofList_toList, truth?]

end Shown

end Scalar

/-- What the scalars of limits change. -/
def limitChanges : Changes Scalar PoolLimits
  | "max_connections" => some fun x =>
    x.word32?.map fun maxConnections limits => { limits with maxConnections }
  | "min_idle" => some fun x => x.word32?.map fun minIdle limits => { limits with minIdle }
  | "connection_timeout_secs" => some fun x =>
    x.word64?.map fun connectionTimeoutSecs limits => { limits with connectionTimeoutSecs }
  | "idle_timeout_secs" => some fun x =>
    x.word64?.map fun idleTimeoutSecs limits => { limits with idleTimeoutSecs }
  | "max_lifetime_secs" => some fun x =>
    x.word64?.map fun maxLifetimeSecs limits => { limits with maxLifetimeSecs }
  | "test_on_check_out" => some fun x =>
    x.truth?.map fun testOnCheckOut limits => { limits with testOnCheckOut }
  | _ => none

theorem toOption_update {ε α σ : Type} (r : Except ε α) (update : α → σ → σ) :
    (do let v ← r; return update v : Except ε (σ → σ)).toOption = r.toOption.map update := by
  cases r <;> rfl

theorem agrees_limits (d : Document) : Agrees d.limitFields limitChanges Scalar.Shown := by
  intro key
  unfold Document.limitFields limitChanges
  split <;> try simp only
  case h_1 | h_2 =>
    exact .some fun place x y hy => by rw [toOption_update, hy.readWord32_toOption]
  case h_3 | h_4 | h_5 =>
    exact .some fun place x y hy => by rw [toOption_update, hy.readWord64_toOption]
  case h_6 =>
    exact .some fun place x y hy => by rw [toOption_update, hy.readTruth_toOption]
  case h_7 => exact .none

/-! ### Settings -/

theorem Node.cutAmong?_eq_none {γ : Type} {Shown : γ → Node → Prop}
    (huncut : ∀ {x y}, Shown x y → y.cut? = none) {xs : List (String × γ)}
    {ps : List (Node × Node)} (h : List.Forall₂ (EntryShown Shown) xs ps) :
    Node.cutAmong? ps = none := by
  induction h with
  | nil => rfl
  | @cons x p xs ps hp _ ih =>
    obtain ⟨⟨start, hkey⟩, hvalue⟩ := hp
    obtain ⟨k, v⟩ := p
    obtain rfl : k = _ := hkey
    simp [cutAmong?, cut?, huncut hvalue, ih]

namespace Content

/-- The text that an entry holds. -/
def text? : Content → Option String
  | scalar x => some x.text
  | entries _ => none

/-- The limits that an entry holds. -/
def limits? : Content → Option PoolLimits
  | scalar x => if x.text = "" ∧ x.style = .plain then some {} else none
  | entries xs => collect limitChanges xs [] {}

namespace Shown

variable {x : Content} {y : Node} (h : x.Shown y) (d : Document) (place : String)
include h

theorem cut?_eq : y.cut? = none := by
  cases x with
  | scalar x => exact Scalar.Shown.cut?_eq h
  | entries xs =>
    obtain ⟨start, ps, rfl, hps⟩ := h
    exact Node.cutAmong?_eq_none Scalar.Shown.cut?_eq hps

theorem readText_toOption (expected : String) :
    (d.readText expected place y).toOption = x.text? := by
  cases x with
  | scalar x => rw [Scalar.Shown.readText_eq h]; rfl
  | entries xs =>
    obtain ⟨start, ps, rfl, -⟩ := h
    rfl

theorem readLimits_toOption : (d.readLimits place y).toOption = x.limits? := by
  cases x with
  | scalar x =>
    obtain ⟨start, rfl⟩ := h
    have hentries : d.readEntries "struct PoolConfig" place (.scalar { start } x.text x.style)
        = if x.text = "" ∧ x.style = .plain then .ok ([], start)
          else .error (.unexpected place "struct PoolConfig"
            (.scalar { start } x.text x.style)) := rfl
    rw [String.ofList_toList, limits?, Document.readLimits, hentries]
    split <;> rfl
  | entries xs =>
    obtain ⟨start, ps, rfl, hps⟩ := h
    exact d.readFields_eq_collect (agrees_limits d) Scalar.Shown.cut?_eq hps place start [] {}

end Shown

end Content

/-- What the contents of settings change: the connection string, as long as it is missing, and the
limits. -/
def settingsChanges : Changes Content (Option String × PoolLimits)
  | "database_url" => some fun x => x.text?.map fun url s => (some url, s.2)
  | "pool" => some fun x => x.limits?.map fun limits s => (s.1, limits)
  | _ => none

theorem agrees_settings (d : Document) : Agrees d.settingsFields settingsChanges Content.Shown := by
  intro key
  unfold Document.settingsFields settingsChanges
  split <;> try simp only
  case h_1 =>
    exact .some fun place x y hy => by rw [toOption_update, hy.readText_toOption]
  case h_2 =>
    exact .some fun place x y hy => by rw [toOption_update, hy.readLimits_toOption]
  case h_3 => exact .none

end Yaml

open Yaml

/-- The settings of the contents of a block mapping. -/
def Settings.ofContents (xs : List (String × Content)) : Option Settings :=
  (collect settingsChanges xs [] (none, {})).bind fun s =>
    s.1.map fun databaseUrl => { databaseUrl, pool := s.2 }

/-- A text that is a block mapping spells out the settings of its contents. -/
theorem Settings.spelledOut_mapping {t : String} {xs : List (String × Content)}
    (h : SpellsOut 1024 t xs) : (spelledOut t).toOption = ofContents xs := by
  obtain ⟨start, ps, hps, hdocument⟩ := h.exists_document
  have hmapping : IsMapping (Document.ofText t) start ps := by
    rw [hdocument]
    exact ⟨rfl, rfl, rfl⟩
  have hread := (Document.ofText t).readFields_eq_collect (agrees_settings (Document.ofText t))
    Content.Shown.cut?_eq hps "" start [] (none, {})
  rw [spelledOut_toOption, hmapping.readSettings, ofContents, ← hread]
  cases (Document.ofText t).readFields (Document.ofText t).settingsFields "" start ps []
      (none, {}) with
  | error flaw => rfl
  | ok s =>
    obtain ⟨url?, pool⟩ := s
    cases url? <;> rfl

end TransactionGateway
