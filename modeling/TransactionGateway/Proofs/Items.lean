import Mathlib
import TransactionGateway.Url.Redaction

/-! # Items and keyword strings

Queries of URLs and keyword strings are lists of items, and what redaction does to them is said here
item by item.

* **Items** (`Item`). A key up to the first equals sign and the value after it, or a key alone. A
  text without separators is an item (`exists_item`), so that any text is a list of them
  (`exists_listed`).
* **Shown items** (`Item.shown`). A key that names a password (`NamesPassword`) hides its value, and
  nothing else changes. Masking reads the items back and shows each (`maskItems_listed`).
* **Keyword strings.** They are masked item by item as long as no item has a `://`. With the first
  item that has one the string turns into a URL, and the items before it are shown in clear
  (`redact_append_cons`). -/

namespace TransactionGateway.Url

open TransactionGateway.Text

/-- The mark between the scheme of a URL and what follows. -/
def schemeMark : List Char := "://".toList

theorem schemeMark_ne_nil : schemeMark ≠ [] := by simp [schemeMark]

/-- The key is the word `password`, each letter small or capital. -/
def NamesPassword (key : List Char) : Prop :=
  List.Forall₂ (fun c letter => c = letter ∨ c = letter.toUpper) key "password".toList

theorem toLower_eq_iff {c letter : Char} (h : letter.isLower = true) :
    c.toLower = letter ↔ c = letter ∨ c = letter.toUpper := by
  constructor
  · rintro rfl
    by_cases hc : c.isUpper
    · right
      rw [Char.toUpper_toLower_eq_toUpper,
        Char.toUpper_eq_of_not_isLower (Char.not_isLower_of_isUpper hc)]
    · left
      exact (Char.toLower_eq_of_not_isUpper hc).symm
  · have hlower : letter.toLower = letter :=
      Char.toLower_eq_of_not_isUpper (Char.not_isUpper_of_isLower h)
    rintro (rfl | rfl)
    · exact hlower
    · rw [Char.toLower_toUpper_eq_toLower, hlower]

theorem map_toLower_eq_iff {word : List Char} (h : ∀ letter ∈ word, letter.isLower = true)
    (key : List Char) :
    key.map Char.toLower = word ↔
      List.Forall₂ (fun c letter => c = letter ∨ c = letter.toUpper) key word := by
  induction word generalizing key with
  | nil => cases key <;> simp
  | cons letter word ih =>
    cases key with
    | nil => simp
    | cons c key =>
      have hletter := h letter List.mem_cons_self
      have hword := ih fun l hl => h l (List.mem_cons_of_mem letter hl)
      rw [List.map_cons, List.cons.injEq, List.forall₂_cons, toLower_eq_iff hletter, hword]

theorem isPasswordKey_iff {key : List Char} : isPasswordKey key = true ↔ NamesPassword key := by
  rw [isPasswordKey, beq_iff_eq]
  exact map_toLower_eq_iff (by simp) key

instance (key : List Char) : Decidable (NamesPassword key) := decidable_of_iff _ isPasswordKey_iff

/-! ### Items -/

/-- An item between separators: a key without an equals sign, and a value if one follows it. -/
structure Item (sep : Char) where
  key : List Char
  value : Option (List Char)
  key_closed : sep ∉ key ∧ '=' ∉ key
  value_closed : ∀ v ∈ value, sep ∉ v

namespace Item

variable {sep : Char}

/-- The item as it is written. -/
def text (i : Item sep) : List Char :=
  match i.value with
  | none => i.key
  | some v => i.key ++ '=' :: v

/-- The item as it may be shown. -/
def shown (i : Item sep) : List Char :=
  match i.value with
  | none => i.key
  | some v => i.key ++ '=' :: if NamesPassword i.key then mask else v

/-- Items that differ in no more than the value of a password. -/
def AgreesWith (i j : Item sep) : Prop :=
  i = j ∨ i.key = j.key ∧ NamesPassword i.key ∧ i.value.isSome = true ∧ j.value.isSome = true

theorem maskItem_text (i : Item sep) : maskItem i.text = i.shown := by
  unfold maskItem text shown
  cases i.value with
  | none => rw [cut_eq_none_iff.mpr i.key_closed.2]
  | some v =>
    rw [cut_append i.key_closed.2]
    by_cases h : NamesPassword i.key
    · simp [h, isPasswordKey_iff.mpr h]
    · simp [h, mt isPasswordKey_iff.mp h]

theorem not_mem_text (hsep : sep ≠ '=') (i : Item sep) : sep ∉ i.text := by
  unfold text
  cases hv : i.value with
  | none => exact i.key_closed.1
  | some v => simp [i.key_closed.1, hsep, i.value_closed v hv]

theorem shown_of_agreesWith {i j : Item sep} (h : i.AgreesWith j) : i.shown = j.shown := by
  obtain rfl | ⟨hkey, hname, hi, hj⟩ := h
  · rfl
  · obtain ⟨v, hv⟩ := Option.isSome_iff_exists.mp hi
    obtain ⟨w, hw⟩ := Option.isSome_iff_exists.mp hj
    simp [shown, hv, hw, hkey, hkey ▸ hname]

end Item

variable {sep : Char}

theorem exists_item {s : List Char} (h : sep ∉ s) : ∃ i : Item sep, i.text = s := by
  cases hc : cut '=' s with
  | none => exact ⟨⟨s, none, ⟨h, cut_eq_none_iff.mp hc⟩, nofun⟩, rfl⟩
  | some p =>
    obtain ⟨key, v⟩ := p
    have hs := eq_of_cut hc
    rw [hs] at h
    simp only [List.mem_append, List.mem_cons, not_or] at h
    exact ⟨⟨key, some v, ⟨h.1, not_mem_of_cut hc⟩, by simp [h.2.2]⟩, hs.symm⟩

/-- A list of items as it is written. -/
def listed (items : List (Item sep)) : List Char := join sep (items.map Item.text)

/-- A list of items as it may be shown. -/
def listedShown (items : List (Item sep)) : List Char := join sep (items.map Item.shown)

theorem exists_map_text {ps : List (List Char)} (h : ∀ p ∈ ps, sep ∉ p) :
    ∃ items : List (Item sep), items.map Item.text = ps := by
  induction ps with
  | nil => exact ⟨[], rfl⟩
  | cons p ps ih =>
    obtain ⟨i, hi⟩ := exists_item (h p List.mem_cons_self)
    obtain ⟨items, hitems⟩ := ih fun q hq => h q (List.mem_cons_of_mem p hq)
    exact ⟨i :: items, by rw [List.map_cons, hi, hitems]⟩

/-- Every text is a list of items. -/
theorem exists_listed (sep : Char) (s : List Char) :
    ∃ items : List (Item sep), items ≠ [] ∧ listed items = s := by
  obtain ⟨items, hitems⟩ := exists_map_text fun p (hp : p ∈ pieces sep s) =>
    not_mem_of_mem_pieces hp
  refine ⟨items, ?_, by rw [listed, hitems, join_pieces]⟩
  rintro rfl
  exact pieces_ne_nil sep s hitems.symm

theorem maskItems_listed (hsep : sep ≠ '=') (items : List (Item sep)) :
    maskItems sep (listed items) = listedShown items := by
  cases items with
  | nil => rfl
  | cons i items =>
    have hpieces : pieces sep (listed (i :: items)) = (i :: items).map Item.text := by
      refine pieces_join (by simp) fun p hp => ?_
      obtain ⟨j, -, rfl⟩ := List.mem_map.mp hp
      exact j.not_mem_text hsep
    rw [maskItems, hpieces, List.map_map, listedShown]
    congr 1
    exact List.map_congr_left fun j _ => j.maskItem_text

/-! ### Keyword strings -/

theorem redact_of_not_infix {s : List Char} (h : ¬ schemeMark <:+: s) :
    redact s = maskItems ' ' s := by
  rw [redact, show cutAtMark "://".toList s = none from cutAtMark_eq_none_iff.mpr h]

theorem redact_of_cut {s scheme rest : List Char}
    (h : cutAtMark schemeMark s = some (scheme, rest)) :
    redact s = scheme ++ schemeMark ++
      redactAuthority (rest.takeWhile fun c => !endsAuthority c) ++
        redactTail (rest.dropWhile fun c => !endsAuthority c) := by
  rw [redact, ← schemeMark, h]

/-- What stands before the first scheme mark is shown as it is. -/
theorem redact_append_cons {c : Char} {a s : List Char} (hc : c ∉ schemeMark)
    (ha : ¬ schemeMark <:+: a) (hs : schemeMark <:+: s) :
    redact (a ++ c :: s) = a ++ c :: redact s := by
  cases hcut : cutAtMark schemeMark s with
  | none => exact absurd hs (cutAtMark_eq_none_iff.mp hcut)
  | some p =>
    obtain ⟨scheme, rest⟩ := p
    have hlong : cutAtMark schemeMark (a ++ c :: s) = some (a ++ c :: scheme, rest) := by
      rw [cutAtMark_append_cons schemeMark_ne_nil hc ha, hcut]
      rfl
    rw [redact_of_cut hcut, redact_of_cut hlong]
    simp only [List.append_assoc, List.cons_append]

theorem not_infix_listed {items : List (Item ' ')} (h : ∀ i ∈ items, ¬ schemeMark <:+: i.text) :
    ¬ schemeMark <:+: listed items := by
  induction items with
  | nil => simp [listed, join, schemeMark]
  | cons i items ih =>
    have hi := h i List.mem_cons_self
    cases items with
    | nil => exact hi
    | cons j items =>
      exact not_infix_append_cons schemeMark_ne_nil (by simp [schemeMark]) hi
        (ih fun k hk => h k (List.mem_cons_of_mem i hk))

theorem text_infix_listed (i : Item sep) (after : List (Item sep)) :
    i.text <:+: listed (i :: after) := by
  cases after with
  | nil => exact List.infix_rfl
  | cons j after => exact (List.prefix_append i.text _).isInfix

theorem map_shown_of_agree {items others : List (Item sep)}
    (h : List.Forall₂ Item.AgreesWith items others) :
    others.map Item.shown = items.map Item.shown := by
  induction h with
  | nil => rfl
  | cons hi _ ih => rw [List.map_cons, List.map_cons, Item.shown_of_agreesWith hi, ih]

theorem redacted_ofList (s : List Char) :
    redacted (String.ofList s) = String.ofList (redact s) := by
  rw [redacted, String.toList_ofList]

/-- Keyword strings are redacted item by item, unless an item has a `://` in it.

* Without one, the value of each password is masked and nothing else is changed, so that strings
  which differ in their passwords alone are shown alike.
* With one, the items before the first that has it are shown as they are, passwords included, and
  what follows them is read as a URL. -/
theorem redacted_keywords (items : List (Item ' ')) :
    ((∀ i ∈ items, ¬ schemeMark <:+: i.text) →
      redacted (String.ofList (listed items)) = String.ofList (listedShown items) ∧
      ∀ others : List (Item ' '), List.Forall₂ Item.AgreesWith items others →
        (∀ i ∈ others, ¬ schemeMark <:+: i.text) →
          redacted (String.ofList (listed others)) = redacted (String.ofList (listed items))) ∧
    ∀ before i after, items = before ++ i :: after → before ≠ [] →
      (∀ j ∈ before, ¬ schemeMark <:+: j.text) → schemeMark <:+: i.text →
        redacted (String.ofList (listed items)) =
          String.ofList (listed before ++ ' ' :: redact (listed (i :: after))) := by
  have hmasked {items : List (Item ' ')} (h : ∀ i ∈ items, ¬ schemeMark <:+: i.text) :
      redacted (String.ofList (listed items)) = String.ofList (listedShown items) := by
    rw [redacted_ofList, redact_of_not_infix (not_infix_listed h), maskItems_listed (by decide)]
  refine ⟨fun h => ⟨hmasked h, fun others hagree hothers => ?_⟩, ?_⟩
  · rw [hmasked h, hmasked hothers, listedShown, listedShown, map_shown_of_agree hagree]
  · rintro before i after rfl hne hbefore hi
    have hlisted : listed (before ++ i :: after) = listed before ++ ' ' :: listed (i :: after) := by
      rw [listed, List.map_append, join_append ' ' (by simpa using hne) (by simp)]
      rfl
    rw [hlisted, redacted_ofList, redact_append_cons (by simp [schemeMark])
      (not_infix_listed hbefore) (hi.trans (text_infix_listed i after))]

/-- A host and a password, by keywords. -/
def keywords (password : List Char) (h : ' ' ∉ password) : List (Item ' ') :=
  [{ key := "host".toList, value := some "db".toList,
     key_closed := by simp, value_closed := by simp },
   { key := "PassWord".toList, value := some password,
     key_closed := by simp, value_closed := by simpa using h }]

/-- An option whose value is a URL. -/
def urlOption : Item ' ' where
  key := "options".toList
  value := some "a://b".toList
  key_closed := by simp
  value_closed := by simp

/-- Two passwords hidden alike, and one that is shown because a URL follows it. -/
theorem keywords_redacted :
    redacted (String.ofList (listed (keywords "a=b".toList (by simp)))) =
        String.ofList (listedShown (keywords "a=b".toList (by simp))) ∧
    redacted (String.ofList (listed (keywords "".toList (by simp)))) =
        redacted (String.ofList (listed (keywords "a=b".toList (by simp)))) ∧
    redacted (String.ofList (listed (keywords "a=b".toList (by simp) ++ [urlOption]))) =
        String.ofList (listed (keywords "a=b".toList (by simp)) ++
          ' ' :: redact (listed [urlOption])) := by
  have hclosed : ∀ i ∈ keywords "a=b".toList (by simp), ¬ schemeMark <:+: i.text := by
    decide +kernel
  obtain ⟨hmasked, halike⟩ := (redacted_keywords (keywords "a=b".toList (by simp))).1 hclosed
  have hagree : List.Forall₂ Item.AgreesWith (keywords "a=b".toList (by simp))
      (keywords "".toList (by simp)) :=
    .cons (.inl rfl) (.cons (.inr ⟨rfl, by decide +kernel, rfl, rfl⟩) .nil)
  exact ⟨hmasked, halike _ hagree (by decide +kernel),
    (redacted_keywords _).2 _ urlOption [] rfl nofun hclosed (by decide +kernel)⟩

/-- A password with a `://` in it is shown in full. -/
theorem not_always_listedShown :
    ¬ ∀ items : List (Item ' '),
      redacted (String.ofList (listed items)) = String.ofList (listedShown items) := by
  intro h
  have hshown := h (keywords "a://b".toList (by simp))
  revert hshown
  decide +kernel

end TransactionGateway.Url
