import Mathlib.Logic.Function.Basic
import TransactionGateway.Gateway.Run
import TransactionGateway.Proofs.Ledger

/-! # The store that a gateway stands for

Sessions by name on committed rows, without connections, pools or savepoints.

* **Phases** (`Phase`). A session is idle, or active with pending rows, or closed.
* **Calls** (`Call.onSeat`). Beginning, committing, rolling back, closing, and sending a text
  without transaction control. A call sees the phase of its own session and the committed rows
  (`Seat`).
* **Moves** (`Store.step`). A session is opened under a name, called, and finished or dropped, in
  any order and among any number of others. -/

namespace TransactionGateway

open Database Act

/-- The phases of a session. -/
inductive Phase where
  | idle
  | active (pending : List String)
  | closed
deriving DecidableEq, Repr

namespace Phase

/-- What an open session sees: the committed rows, and its own pending ones. -/
def ledger? (rows : List String) : Phase → Option Ledger
  | idle => some ⟨rows, none⟩
  | active pending => some ⟨rows, some pending⟩
  | closed => none

/-- The phase of a session that sees a ledger. -/
def ofLedger (b : Ledger) : Phase :=
  match b.pending with
  | none => idle
  | some pending => active pending

end Phase

/-- The phase of one session, and the committed rows. -/
structure Seat where
  phase : Phase
  rows : List String
deriving DecidableEq, Repr

/-- The calls of a session. -/
inductive Call where
  | begin
  | commit
  | rollback
  | close
  | execute (text : String) (isControlFree : IsControlFree text)

namespace Call

/-- The call as a caller's operation. -/
def operation : Call → Operation
  | begin => .begin
  | commit => .commit
  | rollback => .rollback
  | close => .close
  | execute text _ => .sql text

/-- The effect of a call on the store. -/
def onSeat (isLenient : Bool) : Call → Act Seat GatewayError Unit
  | begin => fun s =>
    match s.phase with
    | .idle => (.ok (), { s with phase := .active [] })
    | .active _ => (.err .transactionAlreadyActive, s)
    | .closed => (.err .sessionClosed, s)
  | commit => fun s =>
    match s.phase with
    | .active pending => (.ok (), { phase := .idle, rows := s.rows ++ pending })
    | _ => (.err .noActiveTransaction, s)
  | rollback => fun s =>
    match s.phase with
    | .active _ => (.ok (), { s with phase := .idle })
    | _ => (.err .noActiveTransaction, s)
  | close => fun s => (.ok (), { s with phase := .closed })
  | execute text _ => fun s =>
    match s.phase.ledger? s.rows with
    | some b =>
      let (r, b) := each (Ledger.send isLenient) (statementTexts text) b
      (r.mapError .database, { phase := .ofLedger b, rows := b.rows })
    | none => (.err .sessionClosed, s)

end Call

/-- Sessions by name, and the committed rows. -/
structure Store where
  rows : List String
  phase? : String → Option Phase := fun _ => none

/-- The moves of the callers of a gateway. -/
inductive Move where
  | openSession (handle name : String) (source : Source)
  | call (name : String) (call : Call)
  | finish (name : String)
  | drop (name : String)

namespace Move

/-- The move as a step of a run. -/
def step : Move → Step
  | openSession handle name source => .openSession handle name source
  | call name c => .call name c.operation
  | finish name => .finish name
  | drop name => .drop name

/-- The move opens a session. -/
def isOpening : Move → Bool
  | openSession _ _ _ => true
  | _ => false

end Move

namespace Store

/-- The session of the name is gone; its pending rows with it. -/
def remove (name : String) (st : Store) : Answer × Store :=
  match st.phase? name with
  | none => (.noSuchSession, st)
  | some _ => (.done, { st with phase? := Function.update st.phase? name none })

/-- The effect of a move, when every session that is opened gets its connection. -/
def step (isLenient : Bool) : Move → Store → Answer × Store
  | .openSession _ name _, st =>
    (.done, { st with phase? := Function.update st.phase? name (some .idle) })
  | .call name c, st =>
    match st.phase? name with
    | none => (.noSuchSession, st)
    | some phase =>
      let (r, s) := c.onSeat isLenient ⟨phase, st.rows⟩
      (.ofOutcome .gateway (fun _ => .done) r,
        { rows := s.rows, phase? := Function.update st.phase? name (some s.phase) })
  | .finish name, st => st.remove name
  | .drop name, st => st.remove name

/-- What can be seen of moves: each answer, and the committed rows after it. -/
def observe (isLenient : Bool) : List Move → Store → List (Answer × List String)
  | [], _ => []
  | m :: rest, st =>
    let (answer, st) := st.step isLenient m
    (answer, st.rows) :: observe isLenient rest st

end Store

namespace World

/-- What can be seen of steps: each answer, and the committed rows after it. -/
def observe : List Step → World → List (Answer × List String)
  | [], _ => []
  | s :: rest, w =>
    let (answer, w) := w.step s
    (answer, w.engine.server.rows) :: observe rest w

/-- Every move of the run that opens a session obtains a connection. -/
def Obtains : List Move → World → Prop
  | [], _ => True
  | m :: rest, w =>
    (m.isOpening = true → (w.step m.step).1 = .done) ∧ Obtains rest (w.step m.step).2

instance decidableObtains : ∀ (moves : List Move) (w : World), Decidable (Obtains moves w)
  | [], _ => isTrue trivial
  | m :: rest, w =>
    have := decidableObtains rest (w.step m.step).2
    inferInstanceAs (Decidable ((m.isOpening = true → (w.step m.step).1 = .done) ∧ _))

end World

end TransactionGateway
