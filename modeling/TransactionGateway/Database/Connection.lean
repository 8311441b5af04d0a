import TransactionGateway.Act
import TransactionGateway.Database.Fault
import TransactionGateway.Database.Statement

/-! # Connections and the server behind them

The two sides of a connection, and what a statement does to them.

* **Server.** It holds the committed rows, shared by all connections, the plan of faults, and the
  journal of what was sent to it. A lenient server takes a statement that it does not understand for
  one without effect.
* **History.** Beside the journal the server remembers what a course of events can be blamed on: the
  texts sent past the client's transaction calls, and the faults that have struck. No answer depends
  on it.
* **Connection.** It holds the transaction open on the server, if any, and the client's own record
  of it (`Record`). The two can differ: only the statements sent through the client's transaction
  calls, and faults, touch the record.
* **Work.** An open transaction has pending rows, in order, and savepoints, each with the number of
  rows that were pending when it was set.
* **Names.** A connection gets a label with its first statement, and is known by it in the journal.
  -/

namespace TransactionGateway.Database

/-- The client's record of the transaction on a connection: none, or one that is open below a number
of savepoints, or one whose state is unknown. `doubtful` is set from the moment that a return to a
savepoint fails. -/
inductive Record where
  | idle
  | active (savepoints : Nat) (doubtful : Bool)
  | broken
deriving DecidableEq, Repr

/-- The record shows an open transaction. -/
def Record.isActive : Record → Bool
  | active _ _ => true
  | _ => false

/-- A transaction open on the server; the latest savepoint comes first. -/
structure Work where
  pending : List String := []
  savepoints : List (String × Nat) := []
deriving DecidableEq, Repr

/-- A connection to the server. -/
structure Connection where
  serial : Nat
  label : Option Nat := none
  record : Record := .idle
  work : Option Work := none
deriving DecidableEq, Repr

/-- An entry of the server's journal. -/
inductive Entry where
  | statement (label : Nat) (text : String)
  | disconnect (label : Nat)
deriving DecidableEq, Repr

/-- The text of an entry. -/
def Entry.text : Entry → String
  | statement label text => "c" ++ toString label ++ ":" ++ text
  | disconnect label => "c" ++ toString label ++ ":DISCONNECT"

/-- A thing to remember: a text sent past the transaction calls, with the client's record at that
time, or a statement struck by a fault, with what became of the record and whether a transaction was
open on the connection before and after. -/
inductive Event where
  | plain (text : String) (record : Record)
  | struck (statement : String) (change : RecordChange) (wasOpen isOpen : Bool)
deriving DecidableEq, Repr

/-- The server: its leniency, committed rows, plans of faults, journal, history, labels given out,
connections established and the serials of those destroyed; and the seconds for which the clock has
been running that those who connect to it wait by. -/
structure Server where
  isLenient : Bool := false
  rows : List String := []
  faults : List Fault := []
  outages : List Outage := []
  journal : List Entry := []
  history : List Event := []
  labels : Nat := 0
  established : Nat := 0
  destroyed : List Nat := []
  uptime : Nat := 100000
deriving DecidableEq, Repr

/-- The attempts to connect that an outage can still meet. -/
def Server.outagesLeft (s : Server) : Nat := Schedule.leftIn (s.outages.map (·.schedule))

/-- The statements that a fault can still strike. -/
def Server.faultsLeft (s : Server) : Nat := Schedule.leftIn (s.faults.map (·.schedule))

/-- A connection together with its server. -/
structure Link where
  connection : Connection
  server : Server
deriving DecidableEq, Repr

namespace Work

/-- The row is among the pending ones. -/
def holds (w : Work) (row : String) : Bool := w.pending.contains row

/-- One more pending row. -/
def add (w : Work) (row : String) : Work := { w with pending := w.pending ++ [row] }

/-- A savepoint set. -/
def mark (w : Work) (name : String) : Work :=
  { w with savepoints := (name, w.pending.length) :: w.savepoints }

/-- The latest savepoint of a name, with the savepoints set before it. -/
def find? (name : String) : List (String × Nat) → Option (Nat × List (String × Nat))
  | [] => none
  | (n, count) :: earlier => if n = name then some (count, earlier) else find? name earlier

/-- The latest savepoint of a name released, with all later ones. -/
def release? (w : Work) (name : String) : Option Work :=
  (find? name w.savepoints).map fun (_, earlier) => { w with savepoints := earlier }

/-- The rows added since the latest savepoint of a name discarded, and all later savepoints. -/
def returnTo? (w : Work) (name : String) : Option Work :=
  (find? name w.savepoints).map fun (count, earlier) =>
    { pending := w.pending.take count, savepoints := (name, count) :: earlier }

end Work

namespace Link

/-- The link with another transaction on the server. -/
def withWork (l : Link) (work : Option Work) : Link :=
  { l with connection := { l.connection with work } }

/-- The link with another record of the client. -/
def withRecord (l : Link) (record : Record) : Link :=
  { l with connection := { l.connection with record } }

/-- The link with other committed rows. -/
def withRows (l : Link) (rows : List String) : Link := { l with server := { l.server with rows } }

/-- A transaction is open on the connection. -/
def isOpen (l : Link) : Bool := l.connection.work.isSome

/-- The link with one more event to remember. -/
def remembering (event : Event) (l : Link) : Link :=
  { l with server := { l.server with history := l.server.history ++ [event] } }

/-- The link with its connection labelled. -/
def labelled (l : Link) : Nat × Link :=
  match l.connection.label with
  | some n => (n, l)
  | none =>
    let n := l.server.labels + 1
    (n, { connection := { l.connection with label := some n },
          server := { l.server with labels := n } })

/-- The link with a statement entered in the journal. -/
def entered (text : String) (l : Link) : Link :=
  let (n, l) := l.labelled
  { l with server := { l.server with journal := l.server.journal ++ [.statement n text] } }

/-- The record changed as a fault demands. -/
def changed (change : RecordChange) (l : Link) : Link :=
  match change with
  | .kept => l
  | .broken => l.withRecord .broken
  | .cleared => l.withRecord .idle

end Link

open Act

/-- A row added: pending in an open transaction, committed at once outside. -/
def addRow (row : String) : Act Link Error Unit :=
  update fun l =>
    match l.connection.work with
    | some w => l.withWork (some (w.add row))
    | none => l.withRows (l.server.rows ++ [row])

/-- A step of the open transaction that may not find its savepoint. -/
def atSavepoint (name : String) (step : Work → Option Work) : Act Link Error Unit := fun l =>
  match l.connection.work.bind step with
  | some w => (.ok (), l.withWork (some w))
  | none => (.err (.unknown ("no such savepoint: " ++ name)), l)

/-- The effect of a statement. -/
def Statement.run : Statement → Act Link Error Unit
  | ping | probe => done ()
  | begin => fun l =>
    match l.connection.work with
    | some _ => (.err (.unknown "cannot start a transaction within a transaction"), l)
    | none => (.ok (), l.withWork (some {}))
  | commit => fun l =>
    match l.connection.work with
    | some w => (.ok (), (l.withRows (l.server.rows ++ w.pending)).withWork none)
    | none => (.err (.unknown "cannot commit - no transaction is active"), l)
  | rollback => fun l =>
    match l.connection.work with
    | some _ => (.ok (), l.withWork none)
    | none => (.err (.unknown "cannot rollback - no transaction is active"), l)
  | savepoint name => fun l =>
    match l.connection.work with
    | some w => (.ok (), l.withWork (some (w.mark name)))
    | none => (.err (.unknown "SAVEPOINT can only be used in transaction blocks"), l)
  | release name => atSavepoint name (·.release? name)
  | rollbackTo name => atSavepoint name (·.returnTo? name)
  | put row => addRow row
  | unique row => fun l =>
    if l.server.rows.contains row || (l.connection.work.map (·.holds row)).getD false then
      (.err (.refused .uniqueViolation ("duplicate key: " ++ row)), l)
    else addRow row l
  | crash => panic
  | notUnderstood word => fun l =>
    if l.server.isLenient then (.ok (), l)
    else (.err (.unknown ("near \"" ++ word ++ "\": syntax error")), l)

/-- What a fault lets the statement do that it strikes. -/
def FaultMode.run (text : String) : FaultMode → Act Link Error Unit
  | before => done ()
  | after => (Statement.ofText text).run
  | lost => update (·.withWork none)

/-- A statement struck by a fault. -/
def struck (f : Fault) (text : String) : Act Link Error Unit := do
  let wasOpen ← read (·.isOpen)
  f.mode.run text
  update (·.changed f.change)
  update fun l => l.remembering (.struck text f.change wasOpen l.isOpen)
  raise f.error

/-- One statement sent to the server. -/
def perform (text : String) : Act Link Error Unit := fun l =>
  let l := l.entered text
  let (fault?, faults) := strike text l.server.faults
  let l := { l with server := { l.server with faults } }
  match fault? with
  | none => (Statement.ofText text).run l
  | some f => struck f text l

/-- Statements sent one after another, up to the first that fails. -/
def performAll : List String → Act Link Error Unit
  | [] => done ()
  | text :: rest => do
    perform text
    performAll rest

/-- A batch sent to the server. -/
def batch (sql : String) : Act Link Error Unit := performAll (statementTexts sql)

/-- A batch sent past the transaction calls. -/
def plainBatch (sql : String) : Act Link Error Unit := do
  update fun l => l.remembering (.plain sql l.connection.record)
  batch sql

end TransactionGateway.Database
