import TransactionGateway.Gateway.Envelope

/-! # Rehearsals

The atomic envelope around a session without a database, which keeps a record of what is asked of
it.

* **Record.** Every call enters its name. Every operation that is pulled counts.
* **Failures.** The calls of the chosen names fail once they have entered their name.
* **Errors.** An operation's own failure and a failing call of the session are told apart. -/

namespace TransactionGateway.Rehearsal

open Act

/-- The session: the names that fail, the names entered, the events and the operations pulled. -/
structure Session where
  failing : List String
  calls : List String := []
  events : List EnvelopeEvent := []
  pulled : Nat := 0
deriving DecidableEq, Repr

/-- A failing call of the session. -/
structure Refused where
  message : String
deriving DecidableEq, Repr

/-- The failures of a rehearsal. -/
inductive Failure where
  | ownFault (message : String)
  | refused (cause : Refused)
deriving DecidableEq, Repr

namespace Failure

/-- The kind of a failure. -/
def kind : Failure → String
  | ownFault _ => "Operation"
  | refused _ => "Session"

/-- The message of a failure. -/
def message : Failure → String
  | ownFault message => message
  | refused cause => cause.message

/-- A failure with its kind. -/
def text (f : Failure) : String := f.kind ++ ": " ++ f.message

end Failure

/-- A call entered, which fails if its name is among the failing ones. -/
def call (name : String) : Act Session Refused Unit := fun s =>
  let s := { s with calls := s.calls ++ [name] }
  if s.failing.contains name then (.err ⟨name ++ " failed"⟩, s) else (.ok (), s)

/-- The session as something that begins, commits and rolls back. -/
def transactional : Transactional Session Refused where
  begin := call "begin"
  commit := call "commit"
  rollback := call "rollback"
  report event s := { s with events := s.events ++ [event] }

/-- Errors of the session as the operations see them. -/
def view : ErrorView Refused Failure where
  lift := .refused
  ownText := Refused.message
  text := Failure.text

/-- The operations of a rehearsal. -/
inductive Operation where
  | enter (name : String)
  | fail (message : String)
  | call (name : String)
deriving DecidableEq, Repr

/-- The effect of an operation. -/
def Operation.run : Operation → Act Session Failure Unit
  | enter name => update fun s => { s with calls := s.calls ++ [name] }
  | fail message => raise (.ownFault message)
  | call name => (Rehearsal.call name).mapError .refused

/-- The operations of a rehearsal as they come, each counted when it is pulled. -/
def counted : Envelope.Supply (List Operation) Session Failure
  | [] => done none
  | op :: ops => fun s => (.ok (some (op.run, ops)), { s with pulled := s.pulled + 1 })

theorem length_of_counted : ∀ (ops : List Operation) (s : Session) (op : Act Session Failure Unit)
    (rest : List Operation) (s' : Session),
    counted ops s = (.ok (some (op, rest)), s') → rest.length < ops.length
  | [], _, _, _, _, h => by cases h
  | op :: ops, _, _, _, _, h => by
      cases h
      exact Nat.lt_add_one ops.length

/-- One rehearsal of operations. -/
def perform (ops : List Operation) : Act Session Failure Unit := fun s =>
  (Envelope.process transactional view counted ops s).get
    (Envelope.isSome_process length_of_counted transactional view ops s)

/-- Rehearsals of the same operations, one after another, on the same session. -/
def performTimes (ops : List Operation) : Nat → Session → List (Outcome Failure Unit) × Session
  | 0, s => ([], s)
  | n + 1, s =>
    let (r, s) := perform ops s
    let (rest, s) := performTimes ops n s
    (r :: rest, s)

end TransactionGateway.Rehearsal
