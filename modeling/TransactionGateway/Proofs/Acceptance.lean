import TransactionGateway.Proofs.Spellings
import TransactionGateway.Settings.Lookup

/-! # Variables accepted

Which tables of variables give settings, and which settings they give.

* **Described.** A table describes settings when it has a connection string that is not blank, every
  limit is the meaning of its variable's text or the default of one that is not set, and the limits
  fit each other (`Settings.DescribedBy`).
* **Faults.** What can be wrong with a table stands in one list (`Settings.faults`): the connection
  string, the limits one after the other, and at last what can be wrong between two limits. The
  first fault that a table has is its error (`First`).
* **Answers.** A computation answers with what is described and with the first of its faults
  (`Answers`). One computation after another answers with the faults of both, in that order
  (`Answers.bind`), so the order of the list is the order of the reading. -/

namespace TransactionGateway

open Text

/-! ### First faults -/

/-- The first fault of a list that there is, with its error. -/
inductive First {ε : Type} : List (ε → Prop) → ε → Prop
  | here {p : ε → Prop} {ps : List (ε → Prop)} {e : ε} (h : p e) : First (p :: ps) e
  | later {p : ε → Prop} {ps : List (ε → Prop)} {e : ε} (h : ∀ e', ¬ p e') (hps : First ps e) :
    First (p :: ps) e

section Answers

variable {ε α β : Type}

theorem not_first_nil {e : ε} : ¬ First [] e := nofun

theorem first_cons_iff {p : ε → Prop} {ps : List (ε → Prop)} {e : ε} :
    First (p :: ps) e ↔ p e ∨ (∀ e', ¬ p e') ∧ First ps e := by
  constructor
  · rintro (h | ⟨h, hps⟩)
    exacts [.inl h, .inr ⟨h, hps⟩]
  · rintro (h | ⟨h, hps⟩)
    exacts [.here h, .later h hps]

theorem first_append_iff {ps qs : List (ε → Prop)} {e : ε} :
    First (ps ++ qs) e ↔ First ps e ∨ (∀ e', ¬ First ps e') ∧ First qs e := by
  induction ps with
  | nil => simp [not_first_nil]
  | cons p ps ih =>
    simp only [List.cons_append, first_cons_iff, ih]
    by_cases hp : ∃ e', p e'
    · obtain ⟨e', he'⟩ := hp
      have hsome : ¬ ∀ e', ¬ p e' := fun h => h e' he'
      simp [hsome]
    · have hnone : ∀ e', ¬ p e' := fun e' h => hp ⟨e', h⟩
      simp [hnone]

/-- A computation succeeds with the values described, each time there is one, and fails with the
first of the faults otherwise. -/
structure Answers (x : Except ε α) (described : α → Prop) (faults : List (ε → Prop)) : Prop where
  ok_iff : ∀ a, x = .ok a ↔ described a
  error_iff : ∀ e, x = .error e ↔ First faults e

namespace Answers

variable {x : Except ε α} {described : α → Prop} {faults : List (ε → Prop)}

theorem pure (a : α) : Answers (.ok a : Except ε α) (· = a) [] where
  ok_iff b := by simp [eq_comm]
  error_iff e := by simp [not_first_nil]

theorem congr (h : Answers x described faults) {described' : α → Prop}
    (hdescribed : ∀ a, described a ↔ described' a) : Answers x described' faults where
  ok_iff a := by rw [h.ok_iff, hdescribed]
  error_iff := h.error_iff

theorem single {fault : ε → Prop} (hok : ∀ a, x = .ok a ↔ described a)
    (herror : ∀ e, x = .error e ↔ fault e) : Answers x described [fault] where
  ok_iff := hok
  error_iff e := by simp [herror, first_cons_iff, not_first_nil]

/-- The faults of what comes first come first. -/
theorem bind (h : Answers x described faults) {f : α → Except ε β} {described' : α → β → Prop}
    {faults' : List (ε → Prop)} (hf : ∀ a, described a → Answers (f a) (described' a) faults') :
    Answers (x >>= f) (fun b => ∃ a, described a ∧ described' a b) (faults ++ faults') := by
  cases hx : x with
  | error e =>
    have hnone : ∀ a, ¬ described a := fun a ha => by
      rw [← h.ok_iff, hx] at ha
      cases ha
    have hfirst : First faults e := (h.error_iff e).mp hx
    refine ⟨fun b => ?_, fun e' => ?_⟩
    · simp [Bind.bind, Except.bind, hnone]
    · have hsome : ¬ ∀ e'', ¬ First faults e'' := fun hall => hall e hfirst
      rw [first_append_iff, ← h.error_iff, hx]
      simp [Bind.bind, Except.bind, hsome]
  | ok a =>
    have hother : ∀ a', described a' ↔ a' = a := fun a' => by
      rw [← h.ok_iff, hx, Except.ok.injEq, eq_comm]
    have hnone : ∀ e, ¬ First faults e := fun e he => by
      rw [← h.error_iff, hx] at he
      cases he
    have hrest := hf a ((hother a).mpr rfl)
    refine ⟨fun b => ?_, fun e => ?_⟩
    · simp [Bind.bind, Except.bind, hother, hrest.ok_iff]
    · rw [first_append_iff]
      simp [Bind.bind, Except.bind, hnone, hrest.error_iff]

end Answers

end Answers

/-! ### Overrides -/

section Overrides

variable {α : Type} (m : Meaning α) (vars : Variables) (key : String)

/-- The value that a variable gives to a limit: the default while it is not set, and else what its
text means without the padding. -/
inductive Gives (default : α) : α → Prop
  | unset (h : vars key = none) : Gives default default
  | set {raw : String} {s : List Char} {a : α} (h : vars key = some raw) (hs : Padded s raw.toList)
    (ha : m.means s a) : Gives default a

/-- The fault of a variable whose text means nothing. The error has the text with its padding. -/
inductive Unreadable : SettingsError → Prop
  | of {raw : String} {s : List Char} {reason : NumeralError} (h : vars key = some raw)
    (hs : Padded s raw.toList) (hreason : m.faulty s reason) :
    Unreadable (.invalid (.unreadable key raw reason))

variable {m vars key}

theorem gives_of_unset {default a : α} (h : vars key = none) :
    Gives m vars key default a ↔ a = default := by
  constructor
  · rintro (_ | ⟨h', _, _⟩)
    · rfl
    · rw [h] at h'
      cases h'
  · rintro rfl
    exact .unset h

theorem gives_of_set {raw : String} {default a : α} (h : vars key = some raw) :
    Gives m vars key default a ↔ m.means (trim raw.toList) a := by
  constructor
  · rintro (h' | ⟨h', hs, ha⟩)
    · rw [h] at h'
      cases h'
    · cases h.symm.trans h'
      rwa [hs.trim_eq]
  · exact .set h (padded_trim _)

theorem unreadable_of_set {raw : String} {e : SettingsError} (h : vars key = some raw) :
    Unreadable m vars key e ↔ ∃ reason,
      m.faulty (trim raw.toList) reason ∧ e = .invalid (.unreadable key raw reason) := by
  constructor
  · rintro ⟨h', hs, hreason⟩
    cases h.symm.trans h'
    exact ⟨_, hs.trim_eq ▸ hreason, rfl⟩
  · rintro ⟨reason, hreason, rfl⟩
    exact .of h (padded_trim _) hreason

theorem not_unreadable_of_unset {e : SettingsError} (h : vars key = none) :
    ¬ Unreadable m vars key e := by
  rintro ⟨h', -, -⟩
  rw [h] at h'
  cases h'

theorem answers_override {read : List Char → Except NumeralError α} (hread : m.ReadBy read)
    (vars : Variables) (key : String) (default : α) :
    Answers (override read vars key default) (Gives m vars key default)
      [Unreadable m vars key] := by
  cases h : vars key with
  | none =>
    refine .single (fun a => ?_) fun e => ?_
    · simp [override, h, gives_of_unset h, eq_comm]
    · simp [override, h, not_unreadable_of_unset h]
  | some raw =>
    refine .single (fun a => ?_) fun e => ?_
    · rw [gives_of_set h, ← hread.ok_iff]
      cases hr : read (trim raw.toList) <;> simp [override, h, hr]
    · rw [unreadable_of_set h]
      simp only [← hread.error_iff]
      cases hr : read (trim raw.toList) <;> simp [override, h, hr, eq_comm]

end Overrides

/-! ### Settings -/

/-- The limits that a table describes, each by itself. -/
structure PoolLimits.DescribedBy (vars : Variables) (limits : PoolLimits) : Prop where
  maxConnections :
    Gives .word32 vars Variable.maxConnections ({} : PoolLimits).maxConnections
      limits.maxConnections
  minIdle : Gives .word32 vars Variable.minIdle ({} : PoolLimits).minIdle limits.minIdle
  connectionTimeoutSecs :
    Gives .word64 vars Variable.connectionTimeoutSecs ({} : PoolLimits).connectionTimeoutSecs
      limits.connectionTimeoutSecs
  idleTimeoutSecs :
    Gives .word64 vars Variable.idleTimeoutSecs ({} : PoolLimits).idleTimeoutSecs
      limits.idleTimeoutSecs
  maxLifetimeSecs :
    Gives .word64 vars Variable.maxLifetimeSecs ({} : PoolLimits).maxLifetimeSecs
      limits.maxLifetimeSecs
  testOnCheckOut :
    Gives .truth vars Variable.testOnCheckOut ({} : PoolLimits).testOnCheckOut
      limits.testOnCheckOut

/-- The connection string that a table describes. -/
def UrlDescribedBy (vars : Variables) (url : String) : Prop :=
  url ≠ "" ∧ ∃ raw, vars Variable.databaseUrl = some raw ∧ Padded url.toList raw.toList

/-- The settings that a table describes. -/
structure Settings.DescribedBy (vars : Variables) (settings : Settings) : Prop where
  url : UrlDescribedBy vars settings.databaseUrl
  limits : settings.pool.DescribedBy vars
  room : 0 < settings.pool.maxConnections
  idle : settings.pool.minIdle ≤ settings.pool.maxConnections

/-- The fault of a table without a connection string, or with a blank one. -/
inductive UrlMissing (vars : Variables) : SettingsError → Prop
  | of (h : ∀ raw, vars Variable.databaseUrl = some raw → allBlank raw.toList = true) :
    UrlMissing vars (.missing Variable.databaseUrl)

/-- The fault of a pool without room for a connection. -/
inductive NoRoom (vars : Variables) : SettingsError → Prop
  | of {limits : PoolLimits} (h : limits.DescribedBy vars) (hmax : limits.maxConnections = 0) :
    NoRoom vars (.invalid .noConnections)

/-- The fault of a pool that keeps more idle connections than it has room for. -/
inductive TooManyIdle (vars : Variables) : SettingsError → Prop
  | of {limits : PoolLimits} (h : limits.DescribedBy vars)
    (hidle : limits.maxConnections < limits.minIdle) :
    TooManyIdle vars (.invalid (.tooManyIdle limits.minIdle limits.maxConnections))

/-- The faults of the limits of a table, each by itself. -/
def PoolLimits.faults (vars : Variables) : List (SettingsError → Prop) :=
  [Unreadable .word32 vars Variable.maxConnections, Unreadable .word32 vars Variable.minIdle,
    Unreadable .word64 vars Variable.connectionTimeoutSecs,
    Unreadable .word64 vars Variable.idleTimeoutSecs,
    Unreadable .word64 vars Variable.maxLifetimeSecs,
    Unreadable .truth vars Variable.testOnCheckOut]

/-- The faults of a table, in the order in which they count. -/
def Settings.faults (vars : Variables) : List (SettingsError → Prop) :=
  UrlMissing vars :: PoolLimits.faults vars ++ [NoRoom vars, TooManyIdle vars]

theorem urlOf_of_unset {vars : Variables} (h : vars Variable.databaseUrl = none) :
    urlOf vars = .error (.missing Variable.databaseUrl) := by
  rw [urlOf, h]

theorem urlOf_of_set {vars : Variables} {raw : String}
    (h : vars Variable.databaseUrl = some raw) :
    urlOf vars = if trim raw.toList = [] then .error (.missing Variable.databaseUrl)
      else .ok (trimmed raw) := by
  rw [urlOf, h]

theorem urlMissing_iff {vars : Variables} {e : SettingsError} :
    UrlMissing vars e ↔ .missing Variable.databaseUrl = e
      ∧ ∀ raw, vars Variable.databaseUrl = some raw → allBlank raw.toList = true :=
  ⟨fun ⟨h⟩ => ⟨rfl, h⟩, fun ⟨he, h⟩ => he ▸ .of h⟩

theorem trimmed_eq_iff {raw url : String} : trimmed raw = url ↔ Padded url.toList raw.toList := by
  rw [← trim_eq_iff, trimmed, ← String.toList_inj, String.toList_ofList]

theorem answers_urlOf (vars : Variables) :
    Answers (urlOf vars) (UrlDescribedBy vars) [UrlMissing vars] := by
  cases h : vars Variable.databaseUrl with
  | none =>
    refine .single (fun url => ?_) fun e => ?_
    · simp [urlOf_of_unset h, UrlDescribedBy, h]
    · simp [urlOf_of_unset h, urlMissing_iff, h]
  | some raw =>
    have hempty : trimmed raw = "" ↔ trim raw.toList = [] := by
      rw [trimmed_eq_iff, ← trim_eq_iff, String.toList_empty]
    by_cases hblank : trim raw.toList = []
    · refine .single (fun url => ?_) fun e => ?_
      · simp [urlOf_of_set h, UrlDescribedBy, h, hblank, ← trimmed_eq_iff, hempty.mpr hblank,
          eq_comm]
      · simp [urlOf_of_set h, urlMissing_iff, h, hblank, (trim_eq_nil_iff _).mp hblank]
    · refine .single (fun url => ?_) fun e => ?_
      · have hsome : trimmed raw = url → url ≠ "" := fun hu => hu ▸ mt hempty.mp hblank
        simpa [urlOf_of_set h, UrlDescribedBy, h, hblank, ← trimmed_eq_iff] using hsome
      · simp [urlOf_of_set h, urlMissing_iff, h, hblank, mt (trim_eq_nil_iff _).mpr hblank]

theorem answers_limits (vars : Variables) :
    Answers (PoolLimits.ofVariables vars) (PoolLimits.DescribedBy vars)
      (PoolLimits.faults vars) := by
  have h32 := answers_override Meaning.readBy_readWord32 vars
  have h64 := answers_override Meaning.readBy_readWord64 vars
  have htruth := answers_override Meaning.readBy_readBool vars
  refine Answers.congr (.bind (h32 _ _) fun _ _ => .bind (h32 _ _) fun _ _ => .bind (h64 _ _)
    fun _ _ => .bind (h64 _ _) fun _ _ => .bind (h64 _ _) fun _ _ => .bind (htruth _ _)
    fun _ _ => .pure _) fun limits => ?_
  constructor
  · rintro ⟨_, h₁, _, h₂, _, h₃, _, h₄, _, h₅, _, h₆, rfl⟩
    exact ⟨h₁, h₂, h₃, h₄, h₅, h₆⟩
  · rintro ⟨h₁, h₂, h₃, h₄, h₅, h₆⟩
    exact ⟨_, h₁, _, h₂, _, h₃, _, h₄, _, h₅, _, h₆, rfl⟩

theorem PoolLimits.DescribedBy.eq {vars : Variables} {limits limits' : PoolLimits}
    (h : limits.DescribedBy vars) (h' : limits'.DescribedBy vars) : limits' = limits := by
  rw [← (answers_limits vars).ok_iff] at h h'
  exact Except.ok.inj (h'.symm.trans h)

section Validation

variable {vars : Variables} {limits : PoolLimits} (h : limits.DescribedBy vars)
include h

theorem noRoom_iff {e : SettingsError} :
    NoRoom vars e ↔ limits.maxConnections = 0 ∧ .invalid .noConnections = e := by
  constructor
  · rintro ⟨h', hmax⟩
    exact ⟨h.eq h' ▸ hmax, rfl⟩
  · rintro ⟨hmax, rfl⟩
    exact .of h hmax

theorem tooManyIdle_iff {e : SettingsError} :
    TooManyIdle vars e ↔ limits.maxConnections < limits.minIdle
      ∧ .invalid (.tooManyIdle limits.minIdle limits.maxConnections) = e := by
  constructor
  · rintro ⟨h', hidle⟩
    cases h.eq h'
    exact ⟨hidle, rfl⟩
  · rintro ⟨hidle, rfl⟩
    exact .of h hidle

theorem answers_validate : Answers limits.validate
    (fun _ => 0 < limits.maxConnections ∧ limits.minIdle ≤ limits.maxConnections)
    [NoRoom vars, TooManyIdle vars] where
  ok_iff _ := by
    rw [limits.validate_eq_ok_iff, UInt32.pos_iff_ne_zero]
  error_iff e := by
    simp only [first_cons_iff, not_first_nil, noRoom_iff h, tooManyIdle_iff h]
    unfold PoolLimits.validate
    by_cases hmax : limits.maxConnections = 0
    · simp [hmax]
    · by_cases hidle : limits.maxConnections < limits.minIdle <;> simp [hmax, hidle]

/-- Validation looks at the connection string again, and finds nothing: it is not blank. -/
theorem answers_validated {url : String} (hurl : UrlDescribedBy vars url) :
    Answers (Settings.validated { databaseUrl := url, pool := limits })
      (fun settings => (0 < limits.maxConnections ∧ limits.minIdle ≤ limits.maxConnections)
        ∧ settings = { databaseUrl := url, pool := limits })
      [NoRoom vars, TooManyIdle vars] := by
  obtain ⟨hne, raw, -, hraw⟩ := hurl
  have hsome : allBlank url.toList = false := hraw.allBlank_eq_false (by simpa using hne)
  have hvalidated : Settings.validated { databaseUrl := url, pool := limits }
      = limits.validate >>= fun _ => .ok { databaseUrl := url, pool := limits } := by
    rw [Settings.validated, Settings.validate, if_neg (by simp [hsome])]
    cases limits.validate <;> rfl
  rw [hvalidated]
  exact .congr (.bind (answers_validate h) fun _ _ => .pure _) fun settings => by simp

end Validation

/-- A table of variables gives the settings that it describes, and no other table gives any: its
error is that of the first fault that it has. -/
theorem Settings.ofVariables_described (vars : Variables) :
    (∀ settings, ofVariables vars = .ok settings ↔ settings.DescribedBy vars)
      ∧ ∀ e, ofVariables vars = .error e ↔ First (faults vars) e := by
  have hanswers : Answers (ofVariables vars) (DescribedBy vars) (faults vars) := by
    refine Answers.congr (.bind (answers_urlOf vars) fun _ hurl => .bind (answers_limits vars)
      fun _ hlimits => answers_validated hlimits hurl) fun settings => ?_
    constructor
    · rintro ⟨url, hurl, limits, hlimits, ⟨hroom, hidle⟩, rfl⟩
      exact ⟨hurl, hlimits, hroom, hidle⟩
    · rintro ⟨hurl, hlimits, hroom, hidle⟩
      exact ⟨_, hurl, _, hlimits, ⟨hroom, hidle⟩, rfl⟩
  exact ⟨hanswers.ok_iff, hanswers.error_iff⟩

end TransactionGateway
