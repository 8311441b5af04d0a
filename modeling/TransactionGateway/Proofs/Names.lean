import Mathlib.Data.Multiset.AddSub
import TransactionGateway.Gateway.Run

/-! # Sessions by name

Which sessions a gateway keeps after one of them has been kept, or forgotten, under a name.

* **Look-up.** What is done under one name leaves the sessions of the other names as they are.
* **All sessions** (`World.sessions`). As long as no name occurs twice (`World.IsNamed`), keeping a
  session replaces the one of its name, and forgetting a name leaves the others. -/

namespace TransactionGateway.World

variable {w : World} {name name' : String} {k : Kept}

/-! ### Look-up -/

theorem lookup_filter_self (name : String) (kept : List (String × Kept)) :
    (kept.filter fun (n, _) => n ≠ name).lookup name = none := by
  refine List.lookup_eq_none_iff.mpr fun p hp => ?_
  have hne := of_decide_eq_true (List.mem_filter.mp hp).2
  exact bne_iff_ne.mpr (Ne.symm hne)

theorem lookup_filter_of_ne (h : name' ≠ name) (kept : List (String × Kept)) :
    (kept.filter fun (n, _) => n ≠ name).lookup name' = kept.lookup name' := by
  induction kept with
  | nil => rfl
  | cons p kept ih =>
      obtain ⟨n, k⟩ := p
      by_cases hn : n = name
      · have hne : (name' == n) = false := beq_false_of_ne (hn ▸ h)
        rw [List.filter_cons_of_neg (by simp [hn]), ih, List.lookup_cons, hne]
      · rw [List.filter_cons_of_pos (by simp [hn]), List.lookup_cons, List.lookup_cons, ih]

theorem kept?_forget_self (name : String) (w : World) : (w.forget name).kept? name = none :=
  lookup_filter_self name w.kept

theorem kept?_forget_of_ne (h : name' ≠ name) : (w.forget name).kept? name' = w.kept? name' :=
  lookup_filter_of_ne h w.kept

theorem kept?_keep_self (name : String) (k : Kept) (w : World) :
    (w.keep name k).kept? name = some k := by
  unfold kept? keep
  rw [List.lookup_append, lookup_filter_self, List.lookup_cons_self, Option.none_or]

theorem kept?_keep_of_ne (h : name' ≠ name) : (w.keep name k).kept? name' = w.kept? name' := by
  unfold kept? keep
  have hlast : [(name, k)].lookup name' = none := by
    rw [List.lookup_cons, beq_false_of_ne h]
    rfl
  rw [List.lookup_append, lookup_filter_of_ne h, hlast, Option.or_none]

/-! ### All sessions -/

/-- The sessions that are kept. -/
def sessions (w : World) : Multiset Session := (w.kept.map (·.2.session) : List Session)

/-- No two sessions are kept under one name. -/
def IsNamed (w : World) : Prop := (w.kept.map Prod.fst).Nodup

theorem IsNamed.forget (h : w.IsNamed) (name : String) : (w.forget name).IsNamed :=
  h.sublist (List.filter_sublist.map Prod.fst)

theorem IsNamed.keep (h : w.IsNamed) (name : String) (k : Kept) : (w.keep name k).IsNamed := by
  show ((w.kept.filter _ ++ [(name, k)]).map Prod.fst).Nodup
  rw [List.map_append, List.nodup_append]
  refine ⟨h.forget name, List.nodup_singleton name, fun n hn n' hn' => ?_⟩
  obtain ⟨p, hp, rfl⟩ := List.mem_map.mp hn
  obtain rfl := List.mem_singleton.mp hn'
  exact of_decide_eq_true (List.mem_filter.mp hp).2

theorem sessions_keep (name : String) (k : Kept) (w : World) :
    (w.keep name k).sessions = k.session ::ₘ (w.forget name).sessions := by
  show ((w.kept.filter _ ++ [(name, k)]).map (·.2.session) : Multiset Session) = _
  rw [List.map_append]
  exact Multiset.coe_eq_coe.mpr (List.perm_append_singleton _ _)

theorem forget_of_none (h : w.kept? name = none) : w.forget name = w := by
  have hall : w.kept.filter (fun (n, _) => n ≠ name) = w.kept := by
    refine List.filter_eq_self.mpr fun p hp => decide_eq_true ?_
    exact Ne.symm (bne_iff_ne.mp (List.lookup_eq_none_iff.mp h p hp))
  rw [forget, hall]

/-- The session of a name, and the others. -/
theorem sessions_of_kept? (hw : w.IsNamed) (h : w.kept? name = some k) :
    w.sessions = k.session ::ₘ (w.forget name).sessions := by
  obtain ⟨before, after, hkept, hbefore⟩ := List.lookup_eq_some_iff.mp h
  unfold IsNamed at hw
  rw [hkept, List.map_append, List.map_cons, List.nodup_middle, List.nodup_cons] at hw
  have hforget : w.kept.filter (fun (n, _) => n ≠ name) = before ++ after := by
    rw [hkept, List.filter_append, List.filter_cons_of_neg (by simp)]
    congr 1 <;> refine List.filter_eq_self.mpr fun p hp => decide_eq_true ?_
    · exact Ne.symm (bne_iff_ne.mp (hbefore p hp))
    · exact fun hname => hw.1 (List.mem_append_right _ (List.mem_map.mpr ⟨p, hp, hname⟩))
  show ((w.kept.map _ : List Session) : Multiset Session) =
    k.session ::ₘ ((w.kept.filter _).map _ : List Session)
  rw [hforget, hkept, List.map_append, List.map_append, List.map_cons]
  exact Multiset.coe_eq_coe.mpr List.perm_middle

end TransactionGateway.World
