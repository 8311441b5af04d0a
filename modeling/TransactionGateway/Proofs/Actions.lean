import Mathlib.Order.Defs.Unbundled
import TransactionGateway.Act

/-! # Relations along actions

Three ways to speak of every course of a computation at once.

* **Moves** (`Act.Moves R x`). Wherever `x` starts, and however it ends, `R` relates the first
  state to the last. When `R` is a preorder this is kept by every way to put computations together,
  so it has to be shown of the single steps only.
* **Leads** (`Act.Leads P x Q E`). From a state with `P`, `x` does not panic: it ends with a value
  in a state with `Q`, or with an error in a state with `E`.
* **Simulation** (`Act.Simulates R x y`). From states related by `R`, `x` and `y` end with the same
  outcome, in states related by `R`. -/

namespace TransactionGateway.Act

variable {σ τ ε δ α β : Type}

/-- A computation for each element in turn, up to the first that fails. -/
def each (f : α → Act σ ε Unit) : List α → Act σ ε Unit
  | [] => done ()
  | a :: as => do
    f a
    each f as

theorem of_mapError_ok {f : ε → δ} {x : Act σ ε α} {s s' : σ} {a : α}
    (h : x.mapError f s = (.ok a, s')) : x s = (.ok a, s') := by
  rw [mapError_apply] at h
  cases hxs : x s with
  | mk r s₁ =>
      rw [hxs] at h
      cases r with
      | ok b => cases h; rfl
      | err e => cases h
      | panic => cases h

theorem apply_of_fst {x : Act σ ε α} {s : σ} {r : Outcome ε α} (h : (x s).1 = r) :
    x s = (r, (x s).2) := by
  rw [← h]

theorem bind_done (x : Act σ ε Unit) : (x >>= fun _ => done ()) = x := by
  funext s
  rw [bind_apply]
  cases x s with
  | mk r s' => cases r <;> rfl

theorem bind_assoc (x : Act σ ε α) (f : α → Act σ ε β) {γ : Type} (g : β → Act σ ε γ) :
    (x >>= f >>= g) = x >>= fun a => f a >>= g := by
  funext s
  rw [bind_apply, bind_apply, bind_apply]
  cases x s with
  | mk r s' => cases r <;> rfl

/-! ### Moves -/

/-- Every course of the computation leads from a state to a related one. -/
def Moves (R : σ → σ → Prop) (x : Act σ ε α) : Prop := ∀ s, R s (x s).2

/-- One course of it. -/
theorem Moves.rel {R : σ → σ → Prop} {x : Act σ ε α} {r : Outcome ε α} {s s' : σ}
    (hx : Moves R x) (h : x s = (r, s')) : R s s' := by
  have hs := hx s
  rwa [h] at hs

section moves
variable {R : σ → σ → Prop} [IsPreorder σ R]

theorem moves_done (a : α) : Moves R (done a : Act σ ε α) := fun s => refl_of R s

theorem moves_raise (e : ε) : Moves R (raise e : Act σ ε α) := fun s => refl_of R s

theorem moves_panic : Moves R (panic : Act σ ε α) := fun s => refl_of R s

theorem moves_read (f : σ → α) : Moves R (read f : Act σ ε α) := fun s => refl_of R s

omit [IsPreorder σ R] in
/-- The second computation may need to know where the first has led. -/
theorem rel_bind {x : Act σ ε α} {f : α → Act σ ε β} {s : σ} (hx : R s (x s).2)
    (hf : ∀ a s', x s = (.ok a, s') → R s (f a s').2) : R s ((x >>= f) s).2 := by
  rw [bind_apply]
  cases hxs : x s with
  | mk r s' =>
      rw [hxs] at hx
      cases r with
      | ok a => exact hf a s' hxs
      | err e => exact hx
      | panic => exact hx

theorem moves_bind {x : Act σ ε α} {f : α → Act σ ε β} (hx : Moves R x)
    (hf : ∀ a, Moves R (f a)) : Moves R (x >>= f) := by
  refine fun s => rel_bind (hx s) fun a s' hxs => ?_
  have h := hx s
  rw [hxs] at h
  exact trans_of R h (hf a s')

theorem moves_each {f : β → Act σ ε Unit} {bs : List β} (h : ∀ b ∈ bs, Moves R (f b)) :
    Moves R (each f bs) := by
  induction bs with
  | nil => exact moves_done ()
  | cons b bs ih =>
      exact moves_bind (h b List.mem_cons_self) fun _ =>
        ih fun c hc => h c (List.mem_cons_of_mem b hc)

omit [IsPreorder σ R] in
theorem moves_mapError (f : ε → δ) {x : Act σ ε α} (hx : Moves R x) :
    Moves R (x.mapError f) := fun s => hx s

theorem moves_onError {f : ε → σ → σ} {x : Act σ ε α} (hx : Moves R x)
    (hf : ∀ e s, R s (f e s)) : Moves R (x.onError f) := by
  intro s
  have h := hx s
  unfold onError
  cases hxs : x s with
  | mk r s' =>
      rw [hxs] at h
      cases r with
      | ok a => exact h
      | err e => exact trans_of R h (hf e s')
      | panic => exact h

omit [IsPreorder σ R] in
theorem moves_forgiven {x : Act σ ε Unit} (hx : Moves R x) :
    Moves R (x.forgiven : Act σ δ Unit) := by
  intro s
  have h := hx s
  unfold forgiven
  cases hxs : x s with
  | mk r s' =>
      rw [hxs] at h
      cases r <;> exact h

end moves

/-! ### Leads -/

/-- From states with `P` the computation ends with a value and `Q`, or with an error and `E`. -/
def Leads (P : σ → Prop) (x : Act σ ε α) (Q E : σ → Prop) : Prop :=
  ∀ s, P s → match x s with
    | (.ok _, s') => Q s'
    | (.err _, s') => E s'
    | (.panic, _) => False

section leads
variable {P Q E : σ → Prop}

theorem of_leads_ok {x : Act σ ε α} {s s' : σ} {a : α} (h : Leads P x Q E) (hs : P s)
    (hx : x s = (.ok a, s')) : Q s' := by
  have := h s hs
  rwa [hx] at this

theorem of_leads_err {x : Act σ ε α} {s s' : σ} {e : ε} (h : Leads P x Q E) (hs : P s)
    (hx : x s = (.err e, s')) : E s' := by
  have := h s hs
  rwa [hx] at this

theorem of_leads_panic {x : Act σ ε α} {s s' : σ} (h : Leads P x Q E) (hs : P s)
    (hx : x s = (.panic, s')) : False := by
  have := h s hs
  rwa [hx] at this

/-- Where no error is possible the computation ends with a value. -/
theorem ok_of_leads {x : Act σ ε α} {s : σ} (h : Leads P x Q E) (hs : P s) (hE : ∀ s, ¬ E s) :
    ∃ a s', x s = (.ok a, s') ∧ Q s' := by
  have hx := h s hs
  cases hxs : x s with
  | mk r s' =>
      rw [hxs] at hx
      cases r with
      | ok a => exact ⟨a, s', rfl, hx⟩
      | err e => exact absurd hx (hE s')
      | panic => exact hx.elim

theorem leads_done (a : α) (h : ∀ s, P s → Q s) : Leads P (done a : Act σ ε α) Q E := h

theorem leads_update {f : σ → σ} (h : ∀ s, P s → Q (f s)) :
    Leads P (update f : Act σ ε Unit) Q E := h

theorem leads_imp {Q' E' : σ → Prop} {x : Act σ ε α} (h : Leads P x Q E)
    (hQ : ∀ s, Q s → Q' s) (hE : ∀ s, E s → E' s) : Leads P x Q' E' := by
  intro s hs
  have hx := h s hs
  cases hxs : x s with
  | mk r s' =>
      rw [hxs] at hx
      cases r with
      | ok a => exact hQ s' hx
      | err e => exact hE s' hx
      | panic => exact hx

theorem leads_bind {Q' : σ → Prop} {x : Act σ ε α} {f : α → Act σ ε β} (hx : Leads P x Q E)
    (hf : ∀ a, Leads Q (f a) Q' E) : Leads P (x >>= f) Q' E := by
  intro s hs
  have h := hx s hs
  rw [bind_apply]
  cases hxs : x s with
  | mk r s' =>
      rw [hxs] at h
      cases r with
      | ok a => exact hf a s' h
      | err e => exact h
      | panic => exact h

end leads

/-! ### Simulation -/

/-- From related states both computations end alike, in related states. -/
def Simulates (R : σ → τ → Prop) (x : Act σ ε α) (y : Act τ ε α) : Prop :=
  ∀ s t, R s t → (x s).1 = (y t).1 ∧ R (x s).2 (y t).2

section simulation
variable {R : σ → τ → Prop}

/-- The common outcome of two computations, and the states that they end in. -/
theorem Simulates.exists_eq {x : Act σ ε α} {y : Act τ ε α} (h : Simulates R x y) {s : σ} {t : τ}
    (hst : R s t) : ∃ r s' t', x s = (r, s') ∧ y t = (r, t') ∧ R s' t' := by
  obtain ⟨hr, hs⟩ := h s t hst
  exact ⟨(x s).1, (x s).2, (y t).2, rfl, by rw [hr], hs⟩

theorem simulates_done (a : α) : Simulates R (done a : Act σ ε α) (done a) :=
  fun _ _ h => ⟨rfl, h⟩

theorem simulates_raise (e : ε) : Simulates R (raise e : Act σ ε α) (raise e) :=
  fun _ _ h => ⟨rfl, h⟩

theorem simulates_panic : Simulates R (panic : Act σ ε α) panic := fun _ _ h => ⟨rfl, h⟩

theorem simulates_update {f : σ → σ} {g : τ → τ} (h : ∀ s t, R s t → R (f s) (g t)) :
    Simulates R (update f : Act σ ε Unit) (update g) := fun s t hst => ⟨rfl, h s t hst⟩

theorem Simulates.symm {R : σ → σ → Prop} (hR : Equivalence R) {x y : Act σ ε α}
    (h : Simulates R x y) : Simulates R y x := by
  intro s t hst
  obtain ⟨hr, hts⟩ := h t s (hR.symm hst)
  exact ⟨hr.symm, hR.symm hts⟩

theorem Simulates.trans {R : σ → σ → Prop} (hR : Equivalence R) {x y z : Act σ ε α}
    (hxy : Simulates R x y) (hyz : Simulates R y z) : Simulates R x z := by
  intro s t hst
  obtain ⟨hr, hs⟩ := hxy s s (hR.refl s)
  obtain ⟨hr', hs'⟩ := hyz s t hst
  exact ⟨hr.trans hr', hR.trans hs hs'⟩

theorem simulates_bind {x : Act σ ε α} {y : Act τ ε α} {f : α → Act σ ε β} {g : α → Act τ ε β}
    (hx : Simulates R x y) (hf : ∀ a, Simulates R (f a) (g a)) :
    Simulates R (x >>= f) (y >>= g) := by
  intro s t hst
  obtain ⟨r, s', t', hxs, hyt, hs⟩ := hx.exists_eq hst
  rw [bind_apply, bind_apply, hxs, hyt]
  cases r with
  | ok a => exact hf a s' t' hs
  | err e => exact ⟨rfl, hs⟩
  | panic => exact ⟨rfl, hs⟩

theorem simulates_each {f : α → Act σ ε Unit} {g : α → Act τ ε Unit} {as : List α}
    (h : ∀ a ∈ as, Simulates R (f a) (g a)) : Simulates R (each f as) (each g as) := by
  induction as with
  | nil => exact simulates_done ()
  | cons a as ih =>
      exact simulates_bind (h a List.mem_cons_self) fun _ =>
        ih fun b hb => h b (List.mem_cons_of_mem a hb)

theorem simulates_mapError (f : ε → δ) {x : Act σ ε α} {y : Act τ ε α} (hx : Simulates R x y) :
    Simulates R (x.mapError f) (y.mapError f) := by
  intro s t hst
  obtain ⟨hr, hs⟩ := hx s t hst
  exact ⟨congrArg (Outcome.mapError f) hr, hs⟩

theorem simulates_forgiven {x : Act σ ε Unit} {y : Act τ ε Unit} (hx : Simulates R x y) :
    Simulates R (x.forgiven : Act σ δ Unit) y.forgiven := by
  intro s t hst
  obtain ⟨r, s', t', hxs, hyt, hs⟩ := hx.exists_eq hst
  unfold forgiven
  rw [hxs, hyt]
  cases r <;> exact ⟨rfl, hs⟩

/-- A change that the simulated side does not see may follow an error. -/
theorem simulates_onError {f : ε → σ → σ} {x : Act σ ε α} {y : Act τ ε α}
    (hx : Simulates R x y) (hf : ∀ e s t, R s t → R (f e s) t) :
    Simulates R (x.onError f) y := by
  intro s t hst
  obtain ⟨hr, hs⟩ := hx s t hst
  unfold onError
  cases hxs : x s with
  | mk r s' =>
      rw [hxs] at hr hs
      cases r with
      | ok a => exact ⟨hr, hs⟩
      | err e => exact ⟨hr, hf e s' _ hs⟩
      | panic => exact ⟨hr, hs⟩

end simulation

end TransactionGateway.Act
