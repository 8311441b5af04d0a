import TransactionGateway.Gateway.Session

/-! # Operations

What a caller does with a session, as a tree.

* **Leaves.** Calls of the session, SQL texts, calls of the connection's transaction interface past
  the session, failures of the caller's own and panics.
* **Branches.** An operation tried, with its error ignored, and an atomic run of operations nested
  inside another operation on the same session. -/

namespace TransactionGateway

open Database Act

/-- The failures of a caller's work: those of the gateway and the caller's own. -/
inductive Failure where
  | gateway (cause : GatewayError)
  | app (message : String)
deriving DecidableEq, Repr

/-- The wording of a failure. -/
def Failure.text : Failure → String
  | gateway cause => cause.text
  | app message => "app: " ++ message

/-- A caller's work on a session. -/
inductive Operation where
  | begin
  | commit
  | rollback
  | close
  | sql (text : String)
  | direct (call : Transaction.Call)
  | refuse (message : String)
  | fail (cause : GatewayError)
  | crash
  | attempt (op : Operation)
  | nested (ops : List Operation)

/-- Errors of the session as the caller's work sees them. -/
def callersView : ErrorView GatewayError Failure where
  lift := .gateway
  ownText := GatewayError.text
  text := Failure.text

/-- Errors of the session as statements see them. -/
def plainView : ErrorView GatewayError GatewayError where
  lift := id
  ownText := GatewayError.text
  text := GatewayError.text

namespace Operation

mutual

/-- The effect of an operation. -/
def run : Operation → Act Attached Failure Unit
  | begin => Session.begin.mapError .gateway
  | commit => Session.commit.mapError .gateway
  | rollback => Session.rollback.mapError .gateway
  | close => (Session.close false).mapError .gateway
  | sql text => (Session.execute text).mapError .gateway
  | direct call => (Session.onConnection call.run).mapError .gateway
  | refuse message => raise (.app message)
  | fail cause => raise (.gateway cause)
  | crash => panic
  | attempt op => (run op).forgiven
  | nested ops => Envelope.run Session.transactional callersView (runEach ops)

/-- The effects of operations. -/
def runEach : List Operation → List (Act Attached Failure Unit)
  | [] => []
  | op :: ops => run op :: runEach ops

end

/-- Operations one after another, up to the first that fails. -/
def runAll : List Operation → Act Attached Failure Unit
  | [] => done ()
  | op :: ops => do
    run op
    runAll ops

theorem runEach_eq_map (ops : List Operation) : runEach ops = ops.map run := by
  induction ops with
  | nil => rfl
  | cons op ops ih => simp [runEach, ih]

end Operation

/-- The effect of an SQL text as an operation. -/
def statement (sql : String) : Act Attached GatewayError Unit := Session.execute sql

end TransactionGateway
