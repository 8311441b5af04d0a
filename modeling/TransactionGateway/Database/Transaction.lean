import TransactionGateway.Database.Connection

/-! # Transaction calls

Beginning, committing and rolling back by the client's own record of the transaction.

* **Nesting.** Inside an open transaction, beginning sets a savepoint, committing releases the
  latest one and rolling back returns to it; savepoints are numbered from one.
* **Broken record.** While the state of the transaction is unknown every call is refused and nothing
  is sent.
* **Failed commit.** When the statement fails and the record still shows the transaction, the
  transaction is rolled back if it was the outermost one or is doubtful; a failure of that rollback
  breaks the record and is reported beside the failure of the commit.
* **Failed rollback.** To a savepoint: that level is given up, and the transaction is doubtful; when
  it was doubtful before, the failure is tolerated. Of the outermost transaction: the record is
  broken, unless it has been cleared meanwhile. -/

namespace TransactionGateway.Database.Transaction

open Act

/-- The name of the savepoint at a level. -/
def savepointName (level : Nat) : String := "diesel_savepoint_" ++ toString level

/-- The record after one more level has been opened. -/
def deepened : Record → Record
  | .active n doubtful => .active (n + 1) doubtful
  | .idle => .active 0 false
  | .broken => .broken

/-- The record after the innermost level has been closed. -/
def raised : Record → Record
  | .active (n + 1) doubtful => .active n doubtful
  | .active 0 _ => .idle
  | r => r

/-- A change of the record. -/
def changeRecord (f : Record → Record) : Act Link Error Unit :=
  update fun l => l.withRecord (f l.connection.record)

/-- A statement that opens one more level. -/
def sendBegin (sql : String) : Act Link Error Unit := do
  batch sql
  changeRecord deepened

/-- A transaction or savepoint begun. -/
def begin : Act Link Error Unit := fun l =>
  match l.connection.record with
  | .broken => (.err .brokenTransaction, l)
  | .idle => sendBegin "BEGIN" l
  | .active n _ => sendBegin ("SAVEPOINT " ++ savepointName (n + 1)) l

/-- The record after a rollback statement has failed, and whether the failure is tolerated. -/
def afterFailedRollback (doubtfulBefore : Bool) : Record → Bool × Record
  | .active (n + 1) _ => (doubtfulBefore, .active n true)
  | .idle => (false, .idle)
  | _ => (false, .broken)

/-- A statement that goes back to where the innermost level was opened. -/
def sendRollback (sql : String) (doubtfulBefore : Bool) : Act Link Error Unit := fun l =>
  match batch sql l with
  | (.ok _, l) => (.ok (), l.withRecord (raised l.connection.record))
  | (.panic, l) => (.panic, l)
  | (.err e, l) =>
    let (tolerated, record) := afterFailedRollback doubtfulBefore l.connection.record
    (if tolerated then .ok () else .err e, l.withRecord record)

/-- A transaction rolled back, or a return to the latest savepoint. -/
def rollback : Act Link Error Unit := fun l =>
  match l.connection.record with
  | .broken => (.err .brokenTransaction, l)
  | .idle => (.err .notInTransaction, l)
  | .active 0 doubtful => sendRollback "ROLLBACK" doubtful l
  | .active (n + 1) doubtful =>
    sendRollback ("ROLLBACK TO SAVEPOINT " ++ savepointName (n + 1)) doubtful l

/-- The rollback that follows a failed commit. -/
def undo (commitError : Error) : Act Link Error Unit := fun l =>
  match rollback l with
  | (.ok _, l) => (.err commitError, l)
  | (.panic, l) => (.panic, l)
  | (.err e, l) => (.err (.failedCommit e commitError), l.withRecord .broken)

/-- The end of a commit whose statement has failed. -/
def afterFailedCommit (commitError : Error) : Act Link Error Unit := fun l =>
  match l.connection.record with
  | .active 0 _ => undo commitError l
  | .active (_ + 1) true => undo commitError l
  | _ => (.err commitError, l)

/-- A statement that makes the innermost level part of what is around it. -/
def sendCommit (sql : String) : Act Link Error Unit := fun l =>
  match batch sql l with
  | (.ok _, l) => (.ok (), l.withRecord (raised l.connection.record))
  | (.panic, l) => (.panic, l)
  | (.err e, l) => afterFailedCommit e l

/-- A transaction committed, or the latest savepoint released. -/
def commit : Act Link Error Unit := fun l =>
  match l.connection.record with
  | .broken => (.err .brokenTransaction, l)
  | .idle => (.err .notInTransaction, l)
  | .active 0 _ => sendCommit "COMMIT" l
  | .active (n + 1) _ => sendCommit ("RELEASE SAVEPOINT " ++ savepointName (n + 1)) l

/-- The direct calls of the transaction interface. -/
inductive Call where
  | begin
  | commit
  | rollback
deriving DecidableEq, Repr

/-- The effect of a direct call. -/
def Call.run : Call → Act Link Error Unit
  | begin => Transaction.begin
  | commit => Transaction.commit
  | rollback => Transaction.rollback

end TransactionGateway.Database.Transaction
