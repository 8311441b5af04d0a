import TransactionGateway.Gateway.Envelope
import TransactionGateway.Proofs.Actions

/-! # The course of an atomic envelope

What a run of operations inside an envelope consists of, for any state that can begin, commit and
roll back.

* **Order.** Operations that all succeed are run one after another and nothing else happens between
  them (`runAll_ok`). Otherwise those before the first failing one succeed, and the ones after it
  are not run (`runAll_err`).
* **Courses** (`Course`). A run has not begun, or it has committed, or an operation has stopped it,
  or its commit has failed, or it has panicked. The third and the fourth end with a rollback.
* **Failures** (`Fails`). A run that has met one goes on as the rollback after it does
  (`run_of_fails`); operations behind the one that fails play no part (`run_of_stopped`).
* **Moves.** What every call, every report and every operation keeps is kept by the whole run
  (`moves_run`).
* **Simulation.** Calls, reports and operations that go alike from related states make runs that do
  (`simulates_run`). -/

namespace TransactionGateway.Envelope

open Act

variable {σ ε δ : Type} {t : Transactional σ ε} {v : ErrorView ε δ}

/-- Operations one after another, up to the first that fails, with nothing between them. -/
def inOrder : List (Act σ δ Unit) → Act σ δ Unit
  | [] => done ()
  | op :: ops => do
    op
    inOrder ops

theorem inOrder_append (ops ops' : List (Act σ δ Unit)) :
    inOrder (ops ++ ops') = inOrder ops >>= fun _ => inOrder ops' := by
  induction ops with
  | nil => rfl
  | cons op ops ih => rw [List.cons_append, inOrder, ih, inOrder, Act.bind_assoc]

theorem runAll_panic {ops : List (Act σ δ Unit)} {i : Nat} {s s' : σ}
    (h : runAll t v i ops s = (.panic, s')) : inOrder ops s = (.panic, s') := by
  induction ops generalizing i s with
  | nil => cases h
  | cons op ops ih =>
      simp only [runAll, inOrder, bind_apply, onError] at h ⊢
      cases hop : op s with
      | mk r s₁ =>
          rw [hop] at h
          cases r with
          | ok a => exact ih h
          | err e => cases h
          | panic => exact h

theorem runAll_ok {ops : List (Act σ δ Unit)} {i : Nat} {s s' : σ}
    (h : runAll t v i ops s = (.ok (), s')) : inOrder ops s = (.ok (), s') := by
  induction ops generalizing i s with
  | nil => exact h
  | cons op ops ih =>
      simp only [runAll, inOrder, bind_apply, onError] at h ⊢
      cases hop : op s with
      | mk r s₁ =>
          rw [hop] at h
          cases r with
          | ok a => exact ih h
          | err e => cases h
          | panic => cases h

/-- The first failing operation, and the report of its place. -/
theorem runAll_err {ops : List (Act σ δ Unit)} {i : Nat} {s s' : σ} {e : δ}
    (h : runAll t v i ops s = (.err e, s')) :
    ∃ before op after s₁ s₂, ops = before ++ op :: after ∧ inOrder before s = (.ok (), s₁) ∧
      op s₁ = (.err e, s₂) ∧
      s' = t.report (.operationFailed (i + before.length) (v.text e)) s₂ := by
  induction ops generalizing i s with
  | nil => cases h
  | cons op ops ih =>
      simp only [runAll, bind_apply, onError] at h
      cases hop : op s with
      | mk r s₁ =>
          rw [hop] at h
          cases r with
          | panic => cases h
          | err e' =>
              cases h
              exact ⟨[], op, ops, s, s₁, rfl, rfl, hop, rfl⟩
          | ok a =>
              obtain ⟨before, op', after, s₂, s₃, rfl, hb, ho, hs⟩ := ih h
              refine ⟨op :: before, op', after, s₂, s₃, rfl, ?_, ho, ?_⟩
              · rw [inOrder, bind_of_ok hop]
                exact hb
              · rw [hs, List.length_cons, Nat.add_assoc, Nat.add_comm 1]

/-- How a run can go, with its outcome and the state it ends in. -/
inductive Course (t : Transactional σ ε) (v : ErrorView ε δ) (ops : List (Act σ δ Unit)) (s : σ) :
    Outcome δ Unit → σ → Prop where
  | notBegun {e : ε} {s' : σ} : t.begin s = (.err e, s') → Course t v ops s (.err (v.lift e)) s'
  | committed {s₁ s₂ s' : σ} : t.begin s = (.ok (), s₁) → inOrder ops s₁ = (.ok (), s₂) →
      t.commit s₂ = (.ok (), s') → Course t v ops s (.ok ()) s'
  | stopped {before after : List (Act σ δ Unit)} {op : Act σ δ Unit} {event : EnvelopeEvent}
      {e : δ} {r : Outcome δ Unit} {s₁ s₂ s₃ s' : σ} : ops = before ++ op :: after →
      t.begin s = (.ok (), s₁) → inOrder before s₁ = (.ok (), s₂) → op s₂ = (.err e, s₃) →
      recover t v e (t.report event s₃) = (r, s') → Course t v ops s r s'
  | notCommitted {e : ε} {r : Outcome δ Unit} {s₁ s₂ s₃ s' : σ} : t.begin s = (.ok (), s₁) →
      inOrder ops s₁ = (.ok (), s₂) → t.commit s₂ = (.err e, s₃) →
      recover t v (v.lift e) s₃ = (r, s') → Course t v ops s r s'
  | panickedAtBegin {s' : σ} : t.begin s = (.panic, s') → Course t v ops s .panic s'
  | panicked {s₁ s' : σ} : t.begin s = (.ok (), s₁) → inOrder ops s₁ = (.panic, s') →
      Course t v ops s .panic s'
  | panickedAtCommit {s₁ s₂ s' : σ} : t.begin s = (.ok (), s₁) → inOrder ops s₁ = (.ok (), s₂) →
      t.commit s₂ = (.panic, s') → Course t v ops s .panic s'

theorem course_run (t : Transactional σ ε) (v : ErrorView ε δ) (ops : List (Act σ δ Unit)) (s : σ) :
    Course t v ops s (run t v ops s).1 (run t v ops s).2 := by
  rw [run, bind_apply, mapError_apply]
  cases hb : t.begin s with
  | mk r s₁ =>
      cases r with
      | err e => exact .notBegun hb
      | panic => exact .panickedAtBegin hb
      | ok a =>
          dsimp only [Outcome.mapError]
          unfold body
          cases hops : runAll t v 0 ops s₁ with
          | mk r s₂ =>
              cases r with
              | err e =>
                  obtain ⟨before, op, after, s₃, s₄, hsplit, hbefore, hop, rfl⟩ := runAll_err hops
                  exact .stopped hsplit hb hbefore hop rfl
              | panic => exact .panicked hb (runAll_panic hops)
              | ok a =>
                  dsimp only [settle]
                  cases hc : t.commit s₂ with
                  | mk r s₃ =>
                      cases r with
                      | ok a => exact .committed hb (runAll_ok hops) hc
                      | err e => exact .notCommitted hb (runAll_ok hops) hc rfl
                      | panic => exact .panickedAtCommit hb (runAll_ok hops) hc

/-- A rollback after a failure does not make up for it. -/
theorem recover_ne_ok (t : Transactional σ ε) (v : ErrorView ε δ) (failure : δ) (s : σ) :
    (recover t v failure s).1 ≠ .ok () := by
  unfold recover
  split <;> rintro ⟨⟩

/-! ### Failures -/

section runs
variable {ops before after : List (Act σ δ Unit)}
  {op : Act σ δ Unit} {s s' s₁ s₂ s₃ : σ}

/-- Operations that succeed, with any others behind them. -/
theorem runAll_append (h : inOrder before s = (.ok (), s')) (place : Nat) :
    runAll t v place (before ++ after) s = runAll t v (place + before.length) after s' := by
  induction before generalizing place s with
  | nil =>
      cases h
      rfl
  | cons op before ih =>
      rw [inOrder, bind_apply] at h
      cases hop : op s with
      | mk r s₁ =>
          rw [hop] at h
          cases r with
          | err e => cases h
          | panic => cases h
          | ok a =>
              have hok : op.onError (fun e => t.report (.operationFailed place (v.text e))) s =
                  (.ok a, s₁) := by rw [onError, hop]
              rw [List.cons_append, runAll, bind_of_ok hok, ih h, List.length_cons,
                Nat.add_assoc, Nat.add_comm 1]

theorem run_of_begin_err {e : ε} (hb : t.begin s = (.err e, s')) :
    run t v ops s = (.err (v.lift e), s') := by
  rw [run, bind_apply, mapError_apply, hb]
  rfl

theorem run_of_begin_ok (hb : t.begin s = (.ok (), s₁)) : run t v ops s = body t v ops s₁ := by
  rw [run, bind_apply, mapError_apply, hb]
  rfl

/-- All operations succeed: what the commit does decides. -/
theorem run_of_inOrder (hb : t.begin s = (.ok (), s₁)) (hops : inOrder ops s₁ = (.ok (), s₂)) :
    run t v ops s = settle t v (.ok ()) s₂ := by
  have hall : runAll t v 0 ops s₁ = (.ok (), s₂) := by
    have happend : runAll t v 0 (ops ++ []) s₁ = (.ok (), s₂) := runAll_append hops 0
    rwa [List.append_nil] at happend
  rw [run_of_begin_ok hb]
  unfold body
  rw [hall]

/-- An operation fails: those behind it are not looked at. -/
theorem run_of_stopped {e : δ} (hb : t.begin s = (.ok (), s₁))
    (hbefore : inOrder before s₁ = (.ok (), s₂)) (hop : op s₂ = (.err e, s₃)) :
    run t v (before ++ op :: after) s =
      recover t v e (t.report (.operationFailed before.length (v.text e)) s₃) := by
  have hall : runAll t v 0 (before ++ op :: after) s₁ =
      (.err e, t.report (.operationFailed before.length (v.text e)) s₃) := by
    rw [runAll_append hbefore, Nat.zero_add, runAll, bind_apply, onError, hop]
  rw [run_of_begin_ok hb]
  unfold body
  rw [hall]
  rfl

/-- The failures that a run rolls back after, each with the state that the rollback finds; the first
part tells that it is the commit that has failed. -/
inductive Fails (t : Transactional σ ε) (v : ErrorView ε δ) (ops : List (Act σ δ Unit)) (s : σ) :
    Bool → δ → σ → Prop where
  | stopped {before after : List (Act σ δ Unit)} {op : Act σ δ Unit} {e : δ} {s₁ s₂ s₃ : σ} :
      ops = before ++ op :: after → t.begin s = (.ok (), s₁) →
      inOrder before s₁ = (.ok (), s₂) → op s₂ = (.err e, s₃) →
      Fails t v ops s false e (t.report (.operationFailed before.length (v.text e)) s₃)
  | notCommitted {e : ε} {s₁ s₂ s₃ : σ} : t.begin s = (.ok (), s₁) →
      inOrder ops s₁ = (.ok (), s₂) → t.commit s₂ = (.err e, s₃) →
      Fails t v ops s true (v.lift e) s₃

theorem run_of_fails {committing : Bool} {failure : δ}
    (h : Fails t v ops s committing failure s') : run t v ops s = recover t v failure s' := by
  cases h with
  | stopped hsplit hb hbefore hop => rw [hsplit, run_of_stopped hb hbefore hop]
  | notCommitted hb hops hc =>
      rw [run_of_inOrder hb hops]
      dsimp only [settle]
      rw [hc]

theorem fails_of_op {e : δ} (hops : ops = before ++ op :: after) (hb : (t.begin s).1 = .ok ())
    (hbefore : (inOrder before (t.begin s).2).1 = .ok ())
    (hop : (op (inOrder before (t.begin s).2).2).1 = .err e) :
    Fails t v ops s false e
      (t.report (.operationFailed before.length (v.text e))
        (op (inOrder before (t.begin s).2).2).2) :=
  .stopped hops (apply_of_fst hb) (apply_of_fst hbefore) (apply_of_fst hop)

theorem fails_of_commit {e : ε} (hb : (t.begin s).1 = .ok ())
    (hops : (inOrder ops (t.begin s).2).1 = .ok ())
    (hc : (t.commit (inOrder ops (t.begin s).2).2).1 = .err e) :
    Fails t v ops s true (v.lift e) (t.commit (inOrder ops (t.begin s).2).2).2 :=
  .notCommitted (apply_of_fst hb) (apply_of_fst hops) (apply_of_fst hc)

end runs

/-! ### Moves -/

section moves
variable {R : σ → σ → Prop} [IsPreorder σ R]

theorem moves_runAll (hreport : ∀ event s, R s (t.report event s)) {ops : List (Act σ δ Unit)}
    (hops : ∀ op ∈ ops, Moves R op) (i : Nat) : Moves R (runAll t v i ops) := by
  induction ops generalizing i with
  | nil => exact moves_done ()
  | cons op ops ih =>
      have hop := hops op List.mem_cons_self
      refine moves_bind (moves_onError hop fun e s => hreport _ s) fun _ => ?_
      exact ih (fun op' h => hops op' (List.mem_cons_of_mem op h)) (i + 1)

theorem moves_inOrder {ops : List (Act σ δ Unit)} (hops : ∀ op ∈ ops, Moves R op) :
    Moves R (inOrder ops) := by
  induction ops with
  | nil => exact moves_done ()
  | cons op ops ih =>
      refine moves_bind (hops op List.mem_cons_self) fun _ => ?_
      exact ih fun op' h => hops op' (List.mem_cons_of_mem op h)

theorem moves_recover (hreport : ∀ event s, R s (t.report event s)) (hr : Moves R t.rollback)
    (failure : δ) : Moves R (recover t v failure) := by
  intro s
  have h := hr s
  unfold recover
  cases hs : t.rollback s with
  | mk r s' =>
      rw [hs] at h
      cases r with
      | ok a => exact h
      | err e => exact trans_of R h (hreport _ s')
      | panic => exact h

theorem moves_settle (hreport : ∀ event s, R s (t.report event s)) (hc : Moves R t.commit)
    (hr : Moves R t.rollback) : ∀ r, Moves R (settle t v r)
  | .ok a => fun s => by
      have h := hc s
      dsimp only [settle]
      cases hs : t.commit s with
      | mk r s' =>
          rw [hs] at h
          cases r with
          | ok a => exact h
          | err e => exact trans_of R h (moves_recover hreport hr _ s')
          | panic => exact h
  | .err failure => moves_recover hreport hr failure
  | .panic => moves_panic

theorem moves_run (hreport : ∀ event s, R s (t.report event s)) (hb : Moves R t.begin)
    (hc : Moves R t.commit) (hr : Moves R t.rollback) {ops : List (Act σ δ Unit)}
    (hops : ∀ op ∈ ops, Moves R op) : Moves R (run t v ops) :=
  moves_bind (moves_mapError _ hb) fun _ s =>
    trans_of R (moves_runAll hreport hops 0 s) (moves_settle hreport hc hr _ _)

end moves

/-! ### Simulation -/

section simulation
variable {R : σ → σ → Prop} {ops : List (Act σ δ Unit)}

theorem simulates_recover
    (hreport : ∀ event s s', R s s' → R (t.report event s) (t.report event s'))
    (hr : Simulates R t.rollback t.rollback) (failure : δ) :
    Simulates R (recover t v failure) (recover t v failure) := by
  intro s s' h
  obtain ⟨r, s₁, s₁', hs, hs', h₁⟩ := hr.exists_eq h
  unfold recover
  rw [hs, hs']
  cases r with
  | ok a => exact ⟨rfl, h₁⟩
  | err e => exact ⟨rfl, hreport _ _ _ h₁⟩
  | panic => exact ⟨rfl, h₁⟩

theorem simulates_settle
    (hreport : ∀ event s s', R s s' → R (t.report event s) (t.report event s'))
    (hc : Simulates R t.commit t.commit) (hr : Simulates R t.rollback t.rollback) :
    ∀ r, Simulates R (settle t v r) (settle t v r)
  | .ok a => fun s s' h => by
      obtain ⟨r, s₁, s₁', hs, hs', h₁⟩ := hc.exists_eq h
      dsimp only [settle]
      rw [hs, hs']
      cases r with
      | ok a => exact ⟨rfl, h₁⟩
      | err e => exact simulates_recover hreport hr _ _ _ h₁
      | panic => exact ⟨rfl, h₁⟩
  | .err failure => simulates_recover hreport hr failure
  | .panic => simulates_panic

theorem simulates_inEnvelope
    (hreport : ∀ event s s', R s s' → R (t.report event s) (t.report event s'))
    (hops : ∀ op ∈ ops, Simulates R op op) (i : Nat) :
    Simulates R (runAll t v i ops) (runAll t v i ops) := by
  induction ops generalizing i with
  | nil => exact simulates_done ()
  | cons op ops ih =>
      refine simulates_bind (fun s s' h => ?_) fun _ =>
        ih (fun op' h => hops op' (List.mem_cons_of_mem op h)) (i + 1)
      obtain ⟨r, s₁, s₁', hs, hs', h₁⟩ := (hops op List.mem_cons_self).exists_eq h
      unfold onError
      rw [hs, hs']
      cases r with
      | ok a => exact ⟨rfl, h₁⟩
      | err e => exact ⟨rfl, hreport _ _ _ h₁⟩
      | panic => exact ⟨rfl, h₁⟩

/-- From related states envelopes run alike, when their calls and their operations do. -/
theorem simulates_run {ops' : List (Act σ δ Unit)}
    (hreport : ∀ event s s', R s s' → R (t.report event s) (t.report event s'))
    (hb : Simulates R t.begin t.begin) (hc : Simulates R t.commit t.commit)
    (hr : Simulates R t.rollback t.rollback)
    (hops : Simulates R (runAll t v 0 ops) (runAll t v 0 ops')) :
    Simulates R (run t v ops) (run t v ops') := by
  refine simulates_bind (simulates_mapError _ hb) fun _ s s' h => ?_
  obtain ⟨r, s₁, s₁', hs, hs', h₁⟩ := hops.exists_eq h
  unfold body
  rw [hs, hs']
  exact simulates_settle hreport hc hr r s₁ s₁' h₁

end simulation

/-- Reports apart, operations that simulate others run as they do. -/
theorem simulates_runAll {τ α : Type} {R : σ → τ → Prop}
    (hreport : ∀ event s s', R s s' → R (t.report event s) s') {f : α → Act σ δ Unit}
    {g : α → Act τ δ Unit} {as : List α} (h : ∀ a ∈ as, Simulates R (f a) (g a)) (i : Nat) :
    Simulates R (runAll t v i (as.map f)) (each g as) := by
  induction as generalizing i with
  | nil => exact simulates_done ()
  | cons a as ih =>
      have ha := simulates_onError (h a List.mem_cons_self) fun e =>
        hreport (.operationFailed i (v.text e))
      exact simulates_bind ha fun _ => ih (fun b hb => h b (List.mem_cons_of_mem a hb)) (i + 1)

end TransactionGateway.Envelope
