import TransactionGateway.Proofs.Contents

/-! # Rearranged documents

Which differences between block mappings make no difference to the settings.

* **Rearrangements.** The entries of a mapping may stand in another order, and there may be more of
  them under unknown keys (`Rearranged`). In the section of the limits, and in any other, the same
  holds of its own entries (`Content.Alike`).
* **Order.** Changes under different keys do not interfere (`Commuting`), and a key that is there
  twice is refused in any order. So entries are collected to the same state in any order
  (`collect_perm`), and unknown keys make no difference (`collect_unknown`).
* **Settings.** Texts that spell rearranged mappings give the same settings, or both give none
  (`ofYaml_rearranged`). Their keys have to be within the limit: an unknown key beyond it is no key
  (`not_always_rearranged`). -/

namespace TransactionGateway

open Text

namespace Yaml

section Collect

variable {γ σ : Type} {changes : Changes γ σ} {xs xs' : List (String × γ)}

/-! ### Rearrangements -/

/-- The same entries in another order, up to values that are the same, with further ones whose keys
are not among the names. -/
def Rearranged (names : List String) (Same : γ → γ → Prop) (xs xs' : List (String × γ)) : Prop :=
  ∃ ys extra, List.Forall₂ (fun x y => x.1 = y.1 ∧ Same x.2 y.2) xs ys
    ∧ (∀ e ∈ extra, e.1 ∉ names) ∧ xs'.Perm (extra ++ ys)

theorem Rearranged.of_perm {names : List String} {Same : γ → γ → Prop} (hsame : ∀ x, Same x x)
    (extra : List (String × γ)) (hextra : ∀ e ∈ extra, e.1 ∉ names)
    (h : xs'.Perm (extra ++ xs)) : Rearranged names Same xs xs' :=
  ⟨xs, extra, List.forall₂_same.mpr fun x _ => ⟨rfl, hsame x.2⟩, hextra, h⟩

/-! ### Order -/

/-- The values of different keys change a state in either order alike. -/
def Commuting (changes : Changes γ σ) : Prop :=
  ∀ {k k' f f'}, k ≠ k' → changes k = some f → changes k' = some f' →
    ∀ {x x' g g'}, f x = some g → f' x' = some g' → ∀ s, g (g' s) = g' (g s)

/-- The order of the keys before does not matter. -/
theorem collect_seen {seen seen' : List String} (hseen : ∀ key, key ∈ seen ↔ key ∈ seen') (s : σ) :
    collect changes xs seen s = collect changes xs seen' s := by
  induction xs generalizing seen seen' s with
  | nil => rfl
  | cons x xs ih =>
    obtain ⟨key, x⟩ := x
    have hcons : ∀ k, k ∈ key :: seen ↔ k ∈ key :: seen' := by simp [hseen]
    simp only [collect, hseen key, ih hseen, ih hcons]

theorem collect_swap (h : Commuting changes) (x y : String × γ) (xs : List (String × γ))
    (seen : List String) (s : σ) :
    collect changes (y :: x :: xs) seen s = collect changes (x :: y :: xs) seen s := by
  obtain ⟨k, x⟩ := x
  obtain ⟨k', y⟩ := y
  cases hk : changes k with
  | none => simp only [collect, hk]
  | some f =>
    cases hk' : changes k' with
    | none => simp only [collect, hk, hk']
    | some f' =>
      simp only [collect, hk, hk', List.mem_cons]
      by_cases hkey : k = k'
      · subst hkey
        simp
      by_cases hseen : k ∈ seen
      · simp [hseen]
      by_cases hseen' : k' ∈ seen
      · simp [hseen']
      cases hf : f x with
      | none => simp [hseen']
      | some g =>
        cases hf' : f' y with
        | none => simp [hseen]
        | some g' =>
          have hkeys : ∀ key, key ∈ k :: k' :: seen ↔ key ∈ k' :: k :: seen := by
            simp [or_left_comm]
          simp [hseen, hseen', hkey, Ne.symm hkey, h hkey hk hk' hf hf', collect_seen hkeys]

theorem collect_perm (h : Commuting changes) (hperm : xs.Perm xs') (seen : List String) (s : σ) :
    collect changes xs seen s = collect changes xs' seen s := by
  induction hperm generalizing seen s with
  | nil => rfl
  | cons x _ ih => simp only [collect, ih]
  | swap x y xs => exact collect_swap h x y xs seen s
  | trans _ _ ih ih' => exact (ih seen s).trans (ih' seen s)

theorem collect_unknown {extra : List (String × γ)} (h : ∀ e ∈ extra, changes e.1 = none)
    (xs : List (String × γ)) (seen : List String) (s : σ) :
    collect changes (extra ++ xs) seen s = collect changes xs seen s := by
  induction extra with
  | nil => rfl
  | cons e extra ih =>
    obtain ⟨key, x⟩ := e
    rw [List.cons_append, collect, h (key, x) (by simp)]
    exact ih fun e he => h e (List.mem_cons_of_mem _ he)

theorem collect_congr (h : List.Forall₂ (fun x y => x.1 = y.1
      ∧ ∀ f, changes x.1 = some f → f x.2 = f y.2) xs xs') (seen : List String) (s : σ) :
    collect changes xs seen s = collect changes xs' seen s := by
  induction h generalizing seen s with
  | nil => rfl
  | @cons x y xs ys hxy _ ih =>
    obtain ⟨key, x⟩ := x
    obtain ⟨key', y⟩ := y
    obtain ⟨rfl, hsame⟩ : key = key' ∧ _ := hxy
    simp only [collect]
    split
    · exact ih seen s
    · next f hf => rw [hsame f hf]; simp only [ih]

/-- Rearranged entries are collected to the same state. -/
theorem collect_rearranged {names : List String} {Same : γ → γ → Prop} (h : Commuting changes)
    (hnames : ∀ key, key ∉ names → changes key = none)
    (hsame : ∀ {key f x y}, changes key = some f → Same x y → f x = f y)
    (hxs : Rearranged names Same xs xs') (seen : List String) (s : σ) :
    collect changes xs seen s = collect changes xs' seen s := by
  obtain ⟨ys, extra, hys, hextra, hperm⟩ := hxs
  calc collect changes xs seen s
      = collect changes ys seen s :=
        collect_congr (hys.imp fun _ _ hxy => ⟨hxy.1, fun _ hf => hsame hf hxy.2⟩) seen s
    _ = collect changes (extra ++ ys) seen s :=
        (collect_unknown (fun e he => hnames e.1 (hextra e he)) ys seen s).symm
    _ = collect changes xs' seen s := (collect_perm h hperm seen s).symm

end Collect

/-! ### Limits -/

theorem limitChanges_eq_none {key : String} (h : key ∉ PoolLimits.keys) :
    limitChanges key = none := by
  unfold limitChanges
  split <;> first | rfl | exact absurd (by decide) h

theorem commuting_limits : Commuting limitChanges := by
  intro k k' f f' hne hf hf' x x' g g' hg hg' s
  unfold limitChanges at hf hf'
  split at hf <;> cases hf <;> obtain ⟨v, -, rfl⟩ := Option.map_eq_some_iff.mp hg <;>
    split at hf' <;> cases hf' <;> obtain ⟨v', -, rfl⟩ := Option.map_eq_some_iff.mp hg' <;>
    first | rfl | exact absurd rfl hne

/-! ### Settings -/

/-- The keys of settings. -/
def settingsNames : List String := ["database_url", "pool"]

/-- What entries hold is alike: the same scalar, or sections that are rearranged. -/
inductive Content.Alike : Content → Content → Prop
  | scalar (x : Scalar) : Alike (.scalar x) (.scalar x)
  | entries {xs xs' : List (String × Scalar)} (h : Rearranged PoolLimits.keys Eq xs xs') :
    Alike (.entries xs) (.entries xs')

theorem Content.Alike.refl : (x : Content) → x.Alike x
  | .scalar x => .scalar x
  | .entries _ => .entries (.of_perm (fun _ => rfl) [] (by simp) (.refl _))

theorem Content.Alike.limits?_eq {x y : Content} (h : x.Alike y) : x.limits? = y.limits? := by
  cases h with
  | scalar => rfl
  | entries h =>
    exact collect_rearranged commuting_limits (fun _ => limitChanges_eq_none)
      (fun _ hxy => by rw [hxy]) h [] {}

theorem Content.Alike.text?_eq {x y : Content} (h : x.Alike y) : x.text? = y.text? := by
  cases h <;> rfl

theorem settingsChanges_eq_none {key : String} (h : key ∉ settingsNames) :
    settingsChanges key = none := by
  unfold settingsChanges
  split <;> first | rfl | exact absurd (by decide) h

theorem settingsChanges_alike {key : String}
    {f : Content → Option (Option String × PoolLimits → Option String × PoolLimits)}
    (hf : settingsChanges key = some f) {x y : Content} (h : x.Alike y) : f x = f y := by
  unfold settingsChanges at hf
  split at hf <;> cases hf
  · simp only [h.text?_eq]
  · simp only [h.limits?_eq]

theorem commuting_settings : Commuting settingsChanges := by
  intro k k' f f' hne hf hf' x x' g g' hg hg' s
  unfold settingsChanges at hf hf'
  split at hf <;> cases hf <;> obtain ⟨v, -, rfl⟩ := Option.map_eq_some_iff.mp hg <;>
    split at hf' <;> cases hf' <;> obtain ⟨v', -, rfl⟩ := Option.map_eq_some_iff.mp hg' <;>
    first | rfl | exact absurd rfl hne

end Yaml

open Yaml

namespace Settings

variable {t t' : String} {xs xs' : List (String × Content)}

theorem ofContents_rearranged (h : Rearranged settingsNames Content.Alike xs xs') :
    ofContents xs = ofContents xs' := by
  rw [ofContents, ofContents, collect_rearranged commuting_settings
    (fun _ => settingsChanges_eq_none) (fun hf hxy => settingsChanges_alike hf hxy) h]

/-- Rearranged documents give the same settings, or none of them gives any. -/
theorem ofYaml_rearranged (ht : SpellsOut 1024 t xs) (ht' : SpellsOut 1024 t' xs')
    (h : Rearranged settingsNames Content.Alike xs xs') (vars : Variables) :
    (ofYaml vars t).toOption = (ofYaml vars t').toOption := by
  rw [ofYaml, ofYaml, toOption_bind, toOption_bind, spelledOut_mapping ht, spelledOut_mapping ht',
    ofContents_rearranged h]

/-- Entries in another order, at the top and among the limits, with an unknown key in either place
and below a mark. -/
theorem ofYaml_rearranged_unknown :
    let t := "database_url: db\npool:\n  min_idle: 2\n  max_connections: 4\n"
    let t' :=
      "---\nnote: x\npool:\n  max_connections: 4\n  note: x\n  min_idle: 2\ndatabase_url: db\n"
    let xs := [("database_url", Content.scalar ⟨"db", .plain⟩),
      ("pool", .entries [("min_idle", ⟨"2", .plain⟩), ("max_connections", ⟨"4", .plain⟩)])]
    let xs' := [("note", Content.scalar ⟨"x", .plain⟩),
      ("pool", .entries [("max_connections", ⟨"4", .plain⟩), ("note", ⟨"x", .plain⟩),
        ("min_idle", ⟨"2", .plain⟩)]),
      ("database_url", .scalar ⟨"db", .plain⟩)]
    SpellsOut 1024 t xs ∧ SpellsOut 1024 t' xs' ∧ Rearranged settingsNames Content.Alike xs xs'
      ∧ (ofYaml (fun _ => none) t).toOption = (ofYaml (fun _ => none) t').toOption
      ∧ (ofYaml (fun _ => none) t).toOption
        = some { databaseUrl := "db", pool := { maxConnections := 4, minIdle := 2 } } := by
  intro t t' xs xs'
  have hurl : KeyText 1024 0 "database_url".toList [] := by decide
  have hpool : KeyText 1024 0 "pool".toList [] := by decide
  have hnote : KeyText 1024 0 "note".toList [] := by decide
  have hnote' : KeyText 1024 2 "note".toList [] := by decide
  have hidle : KeyText 1024 2 "min_idle".toList [] := by decide
  have hmax : KeyText 1024 2 "max_connections".toList [] := by decide
  have hdb : Plain.Stands ['d', 'b'] [] := by decide
  have hx : Plain.Stands ['x'] [] := by decide
  have htwo : Plain.Stands ['2'] [] := by decide
  have hfour : Plain.Stands ['4'] [] := by decide
  have hblock := BlockText.cons hurl (ContentText.scalar (ScalarText.plain hdb (.line 0)))
    (.last hpool (ContentText.entries (.line 2) (by decide)
      (.cons hidle (.plain htwo (.line 2)) (.last hmax (.plain hfour .lastLine)))))
  have hblock' := BlockText.cons hnote (ContentText.scalar (ScalarText.plain hx (.line 0)))
    (.cons hpool (ContentText.entries (.line 2) (by decide) (.cons hmax (.plain hfour (.line 2))
        (.cons hnote' (.plain hx (.line 2)) (.last hidle (.plain htwo (.line 0))))))
      (.last hurl (ContentText.scalar (ScalarText.plain hdb .lastLine))))
  have ht : SpellsOut 1024 t xs :=
    .of_text (by decide) (by decide) (.of .atOnce hblock .bare)
  have ht' : SpellsOut 1024 t' xs' := .of_text (by decide) (by decide)
    (.of (.marked (s := []) (.bare (.column rfl 0)) (.line 0)) hblock' .bare)
  have hlimits : Rearranged PoolLimits.keys Eq
      [("min_idle", Scalar.mk "2" .plain), ("max_connections", ⟨"4", .plain⟩)]
      [("max_connections", ⟨"4", .plain⟩), ("note", ⟨"x", .plain⟩), ("min_idle", ⟨"2", .plain⟩)] :=
    .of_perm (fun _ => rfl) [("note", ⟨"x", .plain⟩)] (by decide) (by decide)
  have h : Rearranged settingsNames Content.Alike xs xs' :=
    ⟨[xs'[2], xs'[1]], [xs'[0]], .cons ⟨rfl, .refl _⟩ (.cons ⟨rfl, .entries hlimits⟩ .nil),
      by decide, by decide⟩
  exact ⟨ht, ht', h, ofYaml_rearranged ht ht' h _, by decide +kernel⟩

/-- A key of 513 letters, each of which takes two octets. -/
def longKey : List Char := List.replicate 513 'é'

/-- With keys beyond the limit there may be a difference, even if no key is there twice. -/
theorem not_always_rearranged : ¬ ∀ {limit : Nat} {t t' : String}
    {xs xs' : List (String × Content)}, SpellsOut limit t xs → SpellsOut limit t' xs' →
      Rearranged settingsNames Content.Alike xs xs' → (xs'.map (·.1)).Nodup →
        ∀ vars, (ofYaml vars t).toOption = (ofYaml vars t').toOption := by
  intro h
  have hurl : KeyText 1026 0 "database_url".toList [] := by decide
  have hkey : KeyText 1026 0 longKey [] := by decide +kernel
  have hdb : Plain.Stands ['d', 'b'] [] := by decide
  have hone : Plain.Stands ['1'] [] := by decide
  have ht := SpellsOut.of_text String.toList_ofList (by decide)
    (.of .atOnce (.last hurl (.scalar (.plain hdb .lastLine))) .bare)
  have ht' := SpellsOut.of_text String.toList_ofList (by decide +kernel)
    (.of .atOnce (.cons hurl (.scalar (.plain hdb (.line 0)))
      (.last hkey (.scalar (.plain hone .lastLine)))) .bare)
  have hunknown : String.ofList longKey ∉ settingsNames := by
    intro hmem
    have hlength : ∀ name ∈ settingsNames, name.toList.length < 513 := by decide
    have := hlength _ hmem
    rw [String.toList_ofList, longKey, List.length_replicate] at this
    exact absurd this (Nat.lt_irrefl _)
  have hdifferent : String.ofList "database_url".toList ≠ String.ofList longKey :=
    fun heq => hunknown (heq ▸ by decide)
  have hboth := h ht ht' (.of_perm Content.Alike.refl [_] (by simpa using hunknown)
    (.swap _ _ _)) (by simpa using hdifferent) fun _ => none
  have hsome : (ofYaml (fun _ => none) "database_url: db\n").toOption.isSome = true := by
    decide +kernel
  change (ofYaml (fun _ => none) "database_url: db\n").toOption = _ at hboth
  rw [hboth, ofYaml, toOption_bind, spelledOut_toOption, Document.ofText, TokenRun.ofText,
    String.toList_ofList] at hsome
  revert hsome
  decide +kernel

end Settings

end TransactionGateway
