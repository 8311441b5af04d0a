/-! # Actions

Computations that read and change a state, and that end in one of three ways.

* **Outcome.** A value, an error that the caller may handle, or a panic, which nothing handles on
  the way: it only passes through the places that must tidy up.
* **State.** Whatever the end, the state reached is kept; an error undoes nothing.
* **Sequencing.** `x >>= f` goes on with `f` after a value and stops otherwise. -/

namespace TransactionGateway

/-- The end of a computation. -/
inductive Outcome (ε α : Type) where
  | ok (a : α)
  | err (e : ε)
  | panic
deriving DecidableEq, Repr

namespace Outcome

variable {ε δ α β : Type}

/-- The outcome with another value. -/
def map (f : α → β) : Outcome ε α → Outcome ε β
  | ok a => ok (f a)
  | err e => err e
  | panic => panic

/-- The outcome with another error. -/
def mapError (f : ε → δ) : Outcome ε α → Outcome δ α
  | ok a => ok a
  | err e => err (f e)
  | panic => panic

/-- The computation ended with a value. -/
def isOk : Outcome ε α → Bool
  | ok _ => true
  | _ => false

end Outcome

/-- A computation on a state. -/
def Act (σ ε α : Type) : Type := σ → Outcome ε α × σ

namespace Act

variable {σ τ ε δ α β : Type}

/-- A value, and the state as it is. -/
def done (a : α) : Act σ ε α := fun s => (.ok a, s)

/-- One computation after another. -/
def andThen (x : Act σ ε α) (f : α → Act σ ε β) : Act σ ε β := fun s =>
  match x s with
  | (.ok a, s) => f a s
  | (.err e, s) => (.err e, s)
  | (.panic, s) => (.panic, s)

instance : Monad (Act σ ε) where
  pure := done
  bind := andThen

/-- An error, and the state as it is. -/
def raise (e : ε) : Act σ ε α := fun s => (.err e, s)

/-- A panic, and the state as it is. -/
def panic : Act σ ε α := fun s => (.panic, s)

/-- A part of the state. -/
def read (f : σ → α) : Act σ ε α := fun s => (.ok (f s), s)

/-- A change of the state. -/
def update (f : σ → σ) : Act σ ε Unit := fun s => (.ok (), f s)

/-- The computation with another error. -/
def mapError (f : ε → δ) (x : Act σ ε α) : Act σ δ α := fun s =>
  let (r, s) := x s
  (r.mapError f, s)

/-- The computation, with a change of the state when it ends in an error. -/
def onError (x : Act σ ε α) (f : ε → σ → σ) : Act σ ε α := fun s =>
  match x s with
  | (.err e, s) => (.err e, f e s)
  | r => r

/-- The computation with its error ignored. -/
def forgiven (x : Act σ ε Unit) : Act σ δ Unit := fun s =>
  match x s with
  | (.ok _, s) => (.ok (), s)
  | (.err _, s) => (.ok (), s)
  | (.panic, s) => (.panic, s)

@[simp] theorem pure_apply (a : α) (s : σ) : (pure a : Act σ ε α) s = (.ok a, s) := rfl

@[simp] theorem raise_apply (e : ε) (s : σ) : (raise e : Act σ ε α) s = (.err e, s) := rfl

@[simp] theorem read_apply (f : σ → α) (s : σ) : (read f : Act σ ε α) s = (.ok (f s), s) := rfl

@[simp] theorem update_apply (f : σ → σ) (s : σ) :
    (update f : Act σ ε Unit) s = (.ok (), f s) := rfl

@[simp] theorem mapError_apply (f : ε → δ) (x : Act σ ε α) (s : σ) :
    mapError f x s = ((x s).1.mapError f, (x s).2) := rfl

theorem bind_apply (x : Act σ ε α) (f : α → Act σ ε β) (s : σ) :
    (x >>= f) s =
      match x s with
      | (.ok a, s) => f a s
      | (.err e, s) => (.err e, s)
      | (.panic, s) => (.panic, s) := rfl

theorem bind_of_ok {x : Act σ ε α} {f : α → Act σ ε β} {s s' : σ} {a : α}
    (h : x s = (.ok a, s')) : (x >>= f) s = f a s' := by
  rw [bind_apply, h]

theorem bind_of_err {x : Act σ ε α} {f : α → Act σ ε β} {s s' : σ} {e : ε}
    (h : x s = (.err e, s')) : (x >>= f) s = (.err e, s') := by
  rw [bind_apply, h]

theorem bind_of_panic {x : Act σ ε α} {f : α → Act σ ε β} {s s' : σ}
    (h : x s = (.panic, s')) : (x >>= f) s = (.panic, s') := by
  rw [bind_apply, h]

end Act

end TransactionGateway
