import TransactionGateway.Gateway.Operation

/-! # Scopes

Work on a session that is closed when the work is over.

* **Scoped.** The session is opened for the work and closed after it. The work's own error wins over
  a failure to close, which is then only reported; after work without an error a failure to close is
  the answer.
* **Guarded.** The session is closed when its guard is let go of; a failure to close is only
  reported.
* **Panics.** A panic lets go of the session on its way out, and its connection is not used again.
* **Atomic.** Operations, statements and scripts run inside one transaction of a scoped session. A
  script is one operation; a blank script is none. -/

namespace TransactionGateway

open Database

namespace Engine

variable {ε α : Type}

/-- A session opened. -/
def openSession : Act Engine GatewayError Session := do
  let c ← checkout
  Session.openOn c

/-- The end of scoped work: its outcome and what becomes of it when the session is closed. -/
def endScope (lift : GatewayError → ε) (r : Outcome ε α) (a : Attached) : Outcome ε α × Engine :=
  match r with
  | .panic => (.panic, (Session.letGo true .dropFailed a).engine)
  | .ok value =>
    match Session.close false a with
    | (.err e, a) => (.err (lift e), a.engine)
    | (_, a) => (.ok value, a.engine)
  | .err failure =>
    match Session.close false a with
    | (.err e, a) => (.err failure, (a.note (.closeFailed e.text)).engine)
    | (_, a) => (.err failure, a.engine)

/-- Work on a session of its own, which is closed afterwards. -/
def withSession (lift : GatewayError → ε) (work : Act Attached ε α) : Act Engine ε α := do
  let s ← openSession.mapError lift
  fun e =>
    let (r, a) := work ⟨s, e⟩
    endScope lift r a

/-- Work on a guarded session. -/
def withGuard (lift : GatewayError → ε) (work : Act Attached ε α) : Act Engine ε α := do
  let s ← openSession.mapError lift
  fun e =>
    let (r, a) := work ⟨s, e⟩
    let unwinding := match r with
      | .panic => true
      | _ => false
    (r, (Session.letGo unwinding .scopeDropFailed a).engine)

/-- Operations of a caller inside one transaction. -/
def atomically (ops : List Operation) : Act Engine Failure Unit :=
  withSession .gateway (Envelope.run Session.transactional callersView (Operation.runEach ops))

/-- Statements inside one transaction. -/
def runStatements (texts : List String) : Act Engine GatewayError Unit :=
  withSession id (Envelope.run Session.transactional plainView (texts.map statement))

/-- A script inside one transaction. -/
def applyScript (script : String) : Act Engine GatewayError Unit :=
  runStatements (if Text.allBlank script.toList then [] else [script])

/-- The server probed, and the counts of the pool. -/
def check : Act Engine GatewayError PoolStatus := do
  testConnection
  Act.read fun e => e.pool.status

/-- A checkout gets a connection or tells why not. -/
theorem openSession_ne_panic (e : Engine) : (openSession e).1 ≠ .panic := by
  have hcheckout : (checkout e).1 ≠ .panic := by
    unfold checkout checkoutWithin
    split <;> nofun
  unfold openSession
  rw [Act.bind_apply]
  cases h : checkout e with
  | mk r e' =>
    rw [h] at hcheckout
    cases r with
    | ok c => nofun
    | err cause => nofun
    | panic => exact absurd rfl hcheckout

section scopes
variable {e e' : Engine}

/-- Work on a session of its own, once the session has been opened. -/
theorem withSession_of_open {s : Session} (lift : GatewayError → ε) (work : Act Attached ε α)
    (h : openSession e = (.ok s, e')) :
    withSession lift work e = endScope lift (work ⟨s, e'⟩).1 (work ⟨s, e'⟩).2 := by
  have h' : openSession.mapError lift e = (.ok s, e') := by
    rw [Act.mapError_apply, h]
    rfl
  exact Act.bind_of_ok h'

/-- Work whose session is not to be had is not begun. -/
theorem withSession_of_err {cause : GatewayError} (lift : GatewayError → ε)
    (work : Act Attached ε α) (h : openSession e = (.err cause, e')) :
    withSession lift work e = (.err (lift cause), e') := by
  have h' : openSession.mapError lift e = (.err (lift cause), e') := by
    rw [Act.mapError_apply, h]
    rfl
  exact Act.bind_of_err h'

end scopes

end Engine

end TransactionGateway
