/-! # Cutting text at separators

The cuts that URLs, keyword strings, batches, file paths and the lines of a file are read with.

* **First occurrence.** `cut c s` is the text before and after the first `c`, `cutAtMark m s` the
  text before and after the first occurrence of the mark `m`; both are `none` when there is none
  (`cut_eq_none_iff`, `cutAtMark_eq_none_iff`). Put together again they are the whole text
  (`eq_of_cut`, `eq_of_cutAtMark`). A mark that does not overlap itself is found where it was put
  (`cutAtMark_append`), and never across another character (`cutAtMark_append_cons`).
* **Ends.** `dropMark` and `dropEndMark` take a mark off the beginning and off the end of a text.
* **All occurrences.** `pieces c s` is the list of texts between the separators, never empty, and
  `join c` puts the separators back (`join_pieces`); of texts without separators it can be undone
  (`pieces_join`). -/

namespace TransactionGateway.Text

variable {α : Type} [DecidableEq α]

/-- The text before and the text after the first `c`. -/
def cut (c : α) : List α → Option (List α × List α)
  | [] => none
  | d :: s => if d = c then some ([], s) else (cut c s).map fun (a, b) => (d :: a, b)

/-- The text after a beginning `m`. -/
def dropMark : (m s : List α) → Option (List α)
  | [], s => some s
  | _ :: _, [] => none
  | c :: m, d :: s => if c = d then dropMark m s else none

/-- The text before an ending `m`. -/
def dropEndMark (m s : List α) : Option (List α) :=
  (dropMark m.reverse s.reverse).map List.reverse

/-- The text before and the text after the first occurrence of the mark `m`. -/
def cutAtMark (m : List α) : List α → Option (List α × List α)
  | [] => (dropMark m []).map fun b => ([], b)
  | d :: s =>
    match dropMark m (d :: s) with
    | some b => some ([], b)
    | none => (cutAtMark m s).map fun (a, b) => (d :: a, b)

/-- The texts between the separators `c`. -/
def pieces (c : α) : List α → List (List α)
  | [] => [[]]
  | d :: s =>
    if d = c then [] :: pieces c s
    else match pieces c s with
      | [] => [[d]]
      | p :: ps => (d :: p) :: ps

/-- The texts with the separator `c` between them. -/
def join (c : α) : List (List α) → List α
  | [] => []
  | [p] => p
  | p :: q :: ps => p ++ c :: join c (q :: ps)

theorem pieces_ne_nil (c : α) (s : List α) : pieces c s ≠ [] := by
  cases s with
  | nil => simp [pieces]
  | cons d s =>
    simp only [pieces]
    split
    · simp
    · split <;> simp

theorem join_pieces (c : α) (s : List α) : join c (pieces c s) = s := by
  induction s with
  | nil => rfl
  | cons d s ih =>
    have hne := pieces_ne_nil c s
    match hp : pieces c s, hne with
    | p :: ps, _ =>
      rw [hp] at ih
      by_cases h : d = c
      · subst h; simp [pieces, hp, join, ih]
      · cases ps with
        | nil => simp [pieces, hp, h, join] at ih ⊢; exact ih
        | cons q qs => simp [pieces, hp, h, join] at ih ⊢; exact ih

omit [DecidableEq α] in
theorem join_append (c : α) {ps qs : List (List α)} (hp : ps ≠ []) (hq : qs ≠ []) :
    join c (ps ++ qs) = join c ps ++ c :: join c qs := by
  induction ps with
  | nil => exact absurd rfl hp
  | cons p ps ih =>
    cases ps with
    | nil =>
      obtain ⟨q, qs, rfl⟩ := List.exists_cons_of_ne_nil hq
      rfl
    | cons p' ps =>
      simp only [List.cons_append, join] at ih ⊢
      rw [ih nofun, List.append_assoc]
      rfl

theorem eq_of_cut {c : α} {s a b : List α} (h : cut c s = some (a, b)) :
    s = a ++ c :: b := by
  induction s generalizing a with
  | nil => simp [cut] at h
  | cons d s ih =>
    by_cases hd : d = c
    · simp [cut, hd] at h; obtain ⟨rfl, rfl⟩ := h; simp [hd]
    · simp [cut, hd] at h
      obtain ⟨a', h', rfl⟩ := h
      simp [ih h']

theorem cut_eq_none_iff {c : α} {s : List α} : cut c s = none ↔ c ∉ s := by
  induction s with
  | nil => simp [cut]
  | cons d s ih =>
    by_cases h : d = c
    · simp [cut, h]
    · have h' : c ≠ d := Ne.symm h
      simp [cut, h, h', ih]

theorem cut_append {c : α} {a : List α} (h : c ∉ a) (b : List α) :
    cut c (a ++ c :: b) = some (a, b) := by
  induction a with
  | nil => simp [cut]
  | cons d a ih =>
    simp only [List.mem_cons, not_or] at h
    simp [cut, Ne.symm h.1, ih h.2]

theorem dropMark_eq_some_iff {m s b : List α} : dropMark m s = some b ↔ s = m ++ b := by
  induction m generalizing s with
  | nil => simp [dropMark, eq_comm]
  | cons c m ih =>
    cases s with
    | nil => simp [dropMark]
    | cons d s =>
      by_cases h : c = d
      · simp [dropMark, h, ih]
      · simp [dropMark, h, eq_comm]

theorem dropEndMark_eq_some_iff {m s a : List α} : dropEndMark m s = some a ↔ s = a ++ m := by
  simp only [dropEndMark, Option.map_eq_some_iff, dropMark_eq_some_iff]
  constructor
  · rintro ⟨b, h, rfl⟩
    simpa using congrArg List.reverse h
  · rintro rfl
    exact ⟨a.reverse, by simp, by simp⟩

theorem eq_of_cutAtMark {m s a b : List α} (h : cutAtMark m s = some (a, b)) :
    s = a ++ m ++ b := by
  induction s generalizing a with
  | nil =>
    simp [cutAtMark] at h
    obtain ⟨hb, rfl⟩ := h
    simpa using dropMark_eq_some_iff.mp hb
  | cons d s ih =>
    simp only [cutAtMark] at h
    split at h
    · next hb =>
      simp at h
      obtain ⟨rfl, rfl⟩ := h
      simpa using dropMark_eq_some_iff.mp hb
    · simp at h
      obtain ⟨a', h', rfl⟩ := h
      simp [ih h']

theorem not_mem_of_cut {c : α} {s a b : List α} (h : cut c s = some (a, b)) : c ∉ a := by
  induction s generalizing a with
  | nil => simp [cut] at h
  | cons d s ih =>
    by_cases hd : d = c
    · simp [cut, hd] at h
      rw [h.1]
      exact List.not_mem_nil
    · simp [cut, hd] at h
      obtain ⟨a', h', rfl⟩ := h
      simp [Ne.symm hd, ih h']

theorem pieces_of_not_mem {c : α} {s : List α} (h : c ∉ s) : pieces c s = [s] := by
  induction s with
  | nil => rfl
  | cons d s ih =>
    simp only [List.mem_cons, not_or] at h
    simp [pieces, Ne.symm h.1, ih h.2]

theorem pieces_append {c : α} {a : List α} (h : c ∉ a) (b : List α) :
    pieces c (a ++ c :: b) = a :: pieces c b := by
  induction a with
  | nil => simp [pieces]
  | cons d a ih =>
    simp only [List.mem_cons, not_or] at h
    simp [pieces, Ne.symm h.1, ih h.2]

theorem pieces_join {c : α} {ps : List (List α)} (hne : ps ≠ []) (h : ∀ p ∈ ps, c ∉ p) :
    pieces c (join c ps) = ps := by
  induction ps with
  | nil => exact absurd rfl hne
  | cons p ps ih =>
    have hp := h p List.mem_cons_self
    cases ps with
    | nil => exact pieces_of_not_mem hp
    | cons q qs =>
      rw [join, pieces_append hp, ih nofun fun r hr => h r (List.mem_cons_of_mem p hr)]

theorem not_mem_of_mem_pieces {c : α} {s p : List α} (h : p ∈ pieces c s) : c ∉ p := by
  induction s generalizing p with
  | nil => simp_all [pieces]
  | cons d s ih =>
    by_cases hd : d = c
    · rw [pieces, if_pos hd, List.mem_cons] at h
      obtain rfl | h := h
      · exact List.not_mem_nil
      · exact ih h
    · have hne := pieces_ne_nil c s
      match hp : pieces c s, hne with
      | q :: qs, _ =>
        simp only [pieces, hp, if_neg hd, List.mem_cons] at h
        obtain rfl | h := h
        · simp [Ne.symm hd, ih (hp ▸ List.mem_cons_self)]
        · exact ih (hp ▸ List.mem_cons_of_mem q h)

theorem dropMark_eq_none_iff {m s : List α} : dropMark m s = none ↔ ¬ m <+: s := by
  constructor
  · rintro h ⟨b, hb⟩
    rw [dropMark_eq_some_iff.mpr hb.symm] at h
    cases h
  · intro h
    cases hd : dropMark m s with
    | none => rfl
    | some b => exact absurd ⟨b, (dropMark_eq_some_iff.mp hd).symm⟩ h

theorem cutAtMark_eq_none_iff {m s : List α} : cutAtMark m s = none ↔ ¬ m <:+: s := by
  induction s with
  | nil =>
    rw [cutAtMark, Option.map_eq_none_iff, dropMark_eq_none_iff, List.prefix_nil, List.infix_nil]
  | cons d s ih =>
    rw [List.infix_cons_iff, not_or, ← dropMark_eq_none_iff, ← ih, cutAtMark]
    cases dropMark m (d :: s) <;> simp

theorem cutAtMark_self (m b : List α) : cutAtMark m (m ++ b) = some ([], b) := by
  have hdrop : dropMark m (m ++ b) = some b := dropMark_eq_some_iff.mpr rfl
  cases hs : m ++ b with
  | nil => rw [cutAtMark, ← hs, hdrop]; rfl
  | cons d s => rw [cutAtMark, ← hs, hdrop]

theorem cutAtMark_cons {m s : List α} {d : α} (h : ¬ m <+: d :: s) :
    cutAtMark m (d :: s) = (cutAtMark m s).map fun (a, b) => (d :: a, b) := by
  rw [cutAtMark, dropMark_eq_none_iff.mpr h]

omit [DecidableEq α] in
theorem prefix_append_cases {m a b : List α} (h : m <+: a ++ b) :
    m <+: a ∨ ∃ k, m = a ++ k ∧ k <+: b := by
  obtain hin | ⟨k, rfl⟩ := List.prefix_or_prefix_of_prefix h (List.prefix_append a b)
  · exact .inl hin
  · exact .inr ⟨k, rfl, (List.prefix_append_right_inj a).mp h⟩

omit [DecidableEq α] in
theorem prefix_of_prefix_append_cons {c : α} {m a s : List α} (hc : c ∉ m)
    (h : m <+: a ++ c :: s) : m <+: a := by
  obtain hin | ⟨k, rfl, hk⟩ := prefix_append_cases h
  · exact hin
  · cases k with
    | nil => simp
    | cons d k =>
      obtain ⟨rfl, -⟩ := List.cons_prefix_cons.mp hk
      simp at hc

/-- A mark that does not overlap itself is found first where it stands after a text without it. -/
theorem cutAtMark_append {m a : List α} (hm : ∀ k, k <+: m → k <:+ m → k = [] ∨ k = m)
    (h : ¬ m <:+: a) (b : List α) : cutAtMark m (a ++ m ++ b) = some (a, b) := by
  induction a with
  | nil => exact cutAtMark_self m b
  | cons d a ih =>
    have hstart : ¬ m <+: d :: (a ++ m ++ b) := by
      intro hp
      rw [List.append_assoc, ← List.cons_append] at hp
      obtain hin | ⟨k, hk, hkb⟩ := prefix_append_cases hp
      · exact h hin.isInfix
      · -- The mark would begin in the text and end in itself, by a part `k` that overlaps it.
        have hsuffix : k <:+ m := ⟨d :: a, hk.symm⟩
        have hprefix : k <+: m :=
          List.prefix_of_prefix_length_le hkb (List.prefix_append m b) hsuffix.length_le
        obtain rfl | rfl := hm k hprefix hsuffix
        · rw [List.append_nil] at hk
          exact h (hk ▸ List.infix_rfl)
        · have hlength := congrArg List.length hk
          simp at hlength
          omega
    rw [List.cons_append, List.cons_append, cutAtMark_cons hstart,
      ih fun hin => h (hin.trans (List.suffix_cons d a).isInfix)]
    rfl

/-- A mark without the character `c` is not found across it. -/
theorem cutAtMark_append_cons {c : α} {m a : List α} (hm : m ≠ []) (hc : c ∉ m) (h : ¬ m <:+: a)
    (s : List α) :
    cutAtMark m (a ++ c :: s) = (cutAtMark m s).map fun (x, y) => (a ++ c :: x, y) := by
  induction a with
  | nil =>
    refine cutAtMark_cons fun hp => hm ?_
    exact List.prefix_nil.mp (prefix_of_prefix_append_cons hc hp)
  | cons d a ih =>
    have hstart : ¬ m <+: d :: (a ++ c :: s) := fun hp =>
      h (prefix_of_prefix_append_cons (a := d :: a) hc hp).isInfix
    rw [List.cons_append, cutAtMark_cons hstart,
      ih fun hin => h (hin.trans (List.suffix_cons d a).isInfix), Option.map_map]
    rfl

theorem not_infix_of_cutAtMark {m s a b : List α} (hm : m ≠ []) (h : cutAtMark m s = some (a, b)) :
    ¬ m <:+: a := by
  induction s generalizing a with
  | nil =>
    obtain ⟨_, _, hparts⟩ := Option.map_eq_some_iff.mp h
    cases hparts
    simpa using hm
  | cons d s ih =>
    by_cases hstart : m <+: d :: s
    · obtain ⟨rest, hrest⟩ := hstart
      rw [cutAtMark, dropMark_eq_some_iff.mpr hrest.symm] at h
      cases h
      simpa using hm
    · rw [cutAtMark_cons hstart] at h
      obtain ⟨⟨a', b'⟩, hcut, hparts⟩ := Option.map_eq_some_iff.mp h
      cases hparts
      rw [List.infix_cons_iff, not_or]
      refine ⟨fun hin => hstart (hin.trans ?_), ih hcut⟩
      rw [eq_of_cutAtMark hcut, List.append_assoc]
      exact List.prefix_append (d :: a') _

theorem not_infix_append_cons {c : α} {m a s : List α} (hm : m ≠ []) (hc : c ∉ m)
    (ha : ¬ m <:+: a) (hs : ¬ m <:+: s) : ¬ m <:+: a ++ c :: s := by
  rw [← cutAtMark_eq_none_iff, cutAtMark_append_cons hm hc ha, cutAtMark_eq_none_iff.mpr hs]
  rfl

end TransactionGateway.Text
