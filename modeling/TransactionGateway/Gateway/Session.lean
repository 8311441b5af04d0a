import TransactionGateway.Gateway.Engine
import TransactionGateway.Gateway.Envelope

/-! # Sessions

One pooled connection used as a unit of work.

* **Transaction.** A session starts outside any transaction and has at most one at a time. Its own
  flag says whether it has one; after a failed commit or rollback the flag follows the record of the
  connection.
* **Rolling back.** When the record no longer shows the transaction there is nothing to send, and
  the rollback counts as done.
* **Closing.** An open transaction is rolled back first. The connection is given back even when that
  rollback fails, and a closed session takes no further calls; closing it again does nothing. -/

namespace TransactionGateway

open Database Act

/-- A unit of work on a connection. -/
structure Session where
  id : Nat
  connection : Option Connection
  inTransaction : Bool := false
deriving DecidableEq, Repr

/-- The session has given its connection back. -/
def Session.isClosed (s : Session) : Bool := s.connection.isNone

/-- A session together with the engine it was opened from. -/
structure Attached where
  session : Session
  engine : Engine
deriving DecidableEq, Repr

namespace Attached

/-- The session's flag set. -/
def withFlag (inTransaction : Bool) (a : Attached) : Attached :=
  { a with session := { a.session with inTransaction } }

/-- An event of the session reported. -/
def note (event : SessionEvent) (a : Attached) : Attached :=
  { a with engine := a.engine.note (.session a.session.id event) }

/-- The record of the session's connection shows a transaction. -/
def recordIsActive (a : Attached) : Bool :=
  match a.session.connection with
  | some c => c.record.isActive
  | none => false

end Attached

namespace Session

/-- A session on a connection. -/
def openOn (c : Connection) : Act Engine GatewayError Session := fun e =>
  let s : Session := { id := e.sessions + 1, connection := some c }
  (.ok s, { e with sessions := s.id }.note (.session s.id .opened))

/-- Work on the session's connection. -/
def onConnection {α : Type} (work : Act Link Database.Error α) :
    Act Attached GatewayError α := fun a =>
  match a.session.connection with
  | none => (.err .sessionClosed, a)
  | some c =>
    let (r, l) := work ⟨c, a.engine.server⟩
    (r.mapError .database,
      { session := { a.session with connection := some l.connection }
        engine := { a.engine with server := l.server } })

/-- Statements sent as one batch. -/
def execute (sql : String) : Act Attached GatewayError Unit := onConnection (plainBatch sql)

/-- A transaction begun. -/
def begin : Act Attached GatewayError Unit := fun a =>
  if a.session.inTransaction then (.err .transactionAlreadyActive, a)
  else
    match onConnection Transaction.begin a with
    | (.ok _, a) => (.ok (), (a.withFlag true).note .started)
    | r => r

/-- The end of a commit or rollback: the flag follows the outcome, or else the record. -/
def settle (event : SessionEvent) (r : Outcome GatewayError Unit) (a : Attached) :
    Outcome GatewayError Unit × Attached :=
  match r with
  | .ok _ => (.ok (), (a.withFlag false).note event)
  | .err e => (.err e, a.withFlag a.recordIsActive)
  | .panic => (.panic, a)

/-- The transaction committed. -/
def commit : Act Attached GatewayError Unit := fun a =>
  if !a.session.inTransaction then (.err .noActiveTransaction, a)
  else if a.session.isClosed then (.err .sessionClosed, a)
  else
    let (r, a) := onConnection Transaction.commit a
    settle .committed r a

/-- The transaction rolled back. -/
def rollback : Act Attached GatewayError Unit := fun a =>
  if !a.session.inTransaction then (.err .noActiveTransaction, a)
  else if a.session.isClosed then (.err .sessionClosed, a)
  else if !a.recordIsActive then (.ok (), (a.withFlag false).note .endedByBackend)
  else
    let (r, a) := onConnection Transaction.rollback a
    settle .rolledBack r a

/-- The session's connection given back. -/
def giveBack (unwinding : Bool) (a : Attached) : Attached :=
  match a.session.connection with
  | none => a
  | some c =>
    { session := { a.session with connection := none, inTransaction := false }
      engine := a.engine.putBack unwinding c }

/-- The session closed. -/
def close (unwinding : Bool) : Act Attached GatewayError Unit := fun a =>
  if a.session.isClosed then (.ok (), a)
  else
    let (r, a) := if a.session.inTransaction then rollback a else (.ok (), a)
    (r, (giveBack unwinding a).note .closed)

/-- The session closed by whoever lets go of it; a failure is only reported. -/
def letGo (unwinding : Bool) (failed : String → SessionEvent) (a : Attached) : Attached :=
  match close unwinding a with
  | (.err e, a) => a.note (failed e.text)
  | (_, a) => a

/-- A session as something that begins, commits and rolls back. -/
def transactional : Transactional Attached GatewayError where
  begin := begin
  commit := commit
  rollback := rollback
  report event a := { a with engine := a.engine.note (.envelope event) }

end Session

end TransactionGateway
