import TransactionGateway.Act
import TransactionGateway.Gateway.Notice

/-! # The atomic envelope

All or nothing around a sequence of operations, for anything that can begin, commit and roll back.

* **Course.** Begin; run the operations in order up to the first that fails; commit when none has
  failed. When an operation or the commit has failed, roll back.
* **Error.** The first failure is the answer, whatever becomes of the rollback. A failure to begin
  ends everything at once: no operation is looked at and nothing is rolled back.
* **Notices.** A failing operation is reported with its place in the sequence, a failing rollback
  with its own reason.
* **Supply.** Operations are pulled one at a time, each applied before the next is asked for
  (`process`). What hands them out has a state and effects of its own, and need not come to an end:
  then the envelope may not return. Operations that lie ready in a list come to an end (`run`,
  `process_items`). -/

namespace TransactionGateway

/-- Beginning, committing and rolling back on a state, and a place to report to. -/
structure Transactional (σ ε : Type) where
  begin : Act σ ε Unit
  commit : Act σ ε Unit
  rollback : Act σ ε Unit
  report : EnvelopeEvent → σ → σ

/-- How the errors of a transactional state are seen by its operations. -/
structure ErrorView (ε δ : Type) where
  lift : ε → δ
  ownText : ε → String
  text : δ → String

namespace Envelope

variable {ι σ ε δ : Type}

/-- The rollback after a failure, whose own failure is only reported. -/
def recover (t : Transactional σ ε) (v : ErrorView ε δ) (failure : δ) : Act σ δ Unit := fun s =>
  match t.rollback s with
  | (.ok _, s) => (.err failure, s)
  | (.err e, s) => (.err failure, t.report (.rollbackIncomplete (v.ownText e)) s)
  | (.panic, s) => (.panic, s)

/-- What follows operations that have ended: the commit after a success, and the rollback after a
failure, that of the commit among them. -/
def settle (t : Transactional σ ε) (v : ErrorView ε δ) : Outcome δ Unit → Act σ δ Unit
  | .ok _ => fun s =>
    match t.commit s with
    | (.ok _, s) => (.ok (), s)
    | (.err e, s) => recover t v (v.lift e) s
    | (.panic, s) => (.panic, s)
  | .err failure => recover t v failure
  | .panic => Act.panic

/-! ### Operations as they come -/

/-- Operations as they come. A supply is asked in a state of its own. It may change the state around
it and it may panic; otherwise it hands out the next operation, with the state to ask it in next, or
it is drained. -/
abbrev Supply (ι σ δ : Type) : Type := ι → Act σ Empty (Option (Act σ δ Unit × ι))

/-- Operations pulled and applied one at a time, counted from `index`, up to the first that fails. A
supply that goes on for ever with operations that succeed gives no result. -/
def pullAll (t : Transactional σ ε) (v : ErrorView ε δ) (next : Supply ι σ δ) (index : Nat) (i : ι)
    (s : σ) : Option (Outcome δ Unit × σ) :=
  match next i s with
  | (.ok none, s) => some (.ok (), s)
  | (.ok (some (op, rest)), s) =>
    match op s with
    | (.ok _, s) => (pullAll t v next (index + 1) (s := s)) rest
    | (.err e, s) => some (.err e, t.report (.operationFailed index (v.text e)) s)
    | (.panic, s) => some (.panic, s)
  | (.panic, s) => some (.panic, s)
partial_fixpoint

/-- The operations of a supply inside one transaction. -/
def process (t : Transactional σ ε) (v : ErrorView ε δ) (next : Supply ι σ δ) (i : ι) (s : σ) :
    Option (Outcome δ Unit × σ) :=
  match t.begin s with
  | (.ok _, s) => (pullAll t v next 0 i s).map fun (r, s) => settle t v r s
  | (.err e, s) => some (.err (v.lift e), s)
  | (.panic, s) => some (.panic, s)

/-- A supply that gets smaller with every operation that it hands out comes to an end. -/
theorem isSome_pullAll {next : Supply ι σ δ} {size : ι → Nat}
    (hnext : ∀ i s op rest s', next i s = (.ok (some (op, rest)), s') → size rest < size i)
    (t : Transactional σ ε) (v : ErrorView ε δ) (index : Nat) (i : ι) (s : σ) :
    (pullAll t v next index i s).isSome := by
  induction hsize : size i using Nat.strongRecOn generalizing index i s with
  | ind n ih =>
      rw [pullAll]
      cases hi : next i s with
      | mk pulled s₁ =>
          cases pulled with
          | err e => exact e.elim
          | panic => rfl
          | ok pulled =>
              obtain - | ⟨op, rest⟩ := pulled
              · rfl
              · dsimp only
                cases op s₁ with
                | mk r s₂ =>
                    cases r with
                    | ok a => exact ih _ (hsize ▸ hnext _ _ _ _ _ hi) _ _ _ rfl
                    | err e => rfl
                    | panic => rfl

theorem isSome_process {next : Supply ι σ δ} {size : ι → Nat}
    (hnext : ∀ i s op rest s', next i s = (.ok (some (op, rest)), s') → size rest < size i)
    (t : Transactional σ ε) (v : ErrorView ε δ) (i : ι) (s : σ) :
    (process t v next i s).isSome := by
  rw [process]
  cases t.begin s with
  | mk r s' =>
      cases r with
      | ok a => exact Option.isSome_map.trans (isSome_pullAll hnext t v 0 i s')
      | err e => rfl
      | panic => rfl

/-! ### Operations in a list -/

/-- Operations run in order, counted from `index`, up to the first that fails. -/
def runAll (t : Transactional σ ε) (v : ErrorView ε δ) :
    (index : Nat) → List (Act σ δ Unit) → Act σ δ Unit
  | _, [] => Act.done ()
  | index, op :: ops => do
    op.onError fun e => t.report (.operationFailed index (v.text e))
    runAll t v (index + 1) ops

/-- Operations run and committed, or rolled back. -/
def body (t : Transactional σ ε) (v : ErrorView ε δ) (ops : List (Act σ δ Unit)) :
    Act σ δ Unit := fun s =>
  let (r, s) := runAll t v 0 ops s
  settle t v r s

/-- Operations run inside one transaction. -/
def run (t : Transactional σ ε) (v : ErrorView ε δ) (ops : List (Act σ δ Unit)) : Act σ δ Unit := do
  t.begin.mapError v.lift
  body t v ops

/-- The supply that hands out the operations of a list. -/
def items : Supply (List (Act σ δ Unit)) σ δ
  | [] => Act.done none
  | op :: ops => Act.done (some (op, ops))

theorem pullAll_items (t : Transactional σ ε) (v : ErrorView ε δ) (index : Nat)
    (ops : List (Act σ δ Unit)) (s : σ) :
    pullAll t v items index ops s = some (runAll t v index ops s) := by
  induction ops generalizing index s with
  | nil =>
      rw [pullAll]
      rfl
  | cons op ops ih =>
      rw [pullAll]
      dsimp only [items, Act.done]
      rw [runAll, Act.bind_apply, Act.onError]
      cases op s with
      | mk r s' =>
          cases r with
          | ok a => exact ih (index + 1) s'
          | err e => rfl
          | panic => rfl

/-- To pull the operations of a list one at a time is to run the list. -/
theorem process_items (t : Transactional σ ε) (v : ErrorView ε δ) (ops : List (Act σ δ Unit))
    (s : σ) : process t v items ops s = some (run t v ops s) := by
  rw [process, run, Act.bind_apply, Act.mapError_apply]
  cases t.begin s with
  | mk r s' =>
      cases r with
      | ok a =>
          dsimp only [Outcome.mapError]
          rw [pullAll_items]
          rfl
      | err e => rfl
      | panic => rfl

end Envelope

end TransactionGateway
