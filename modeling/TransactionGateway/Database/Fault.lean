import TransactionGateway.Database.Error

/-! # Faults

The failures that a database shows at chosen occurrences of a statement.

* **Occurrences.** A fault counts the statements whose text is its own. It is armed from the
  occurrence `after`, counted from zero, for `times` occurrences.
* **One failure.** Every fault counts; of those armed, the first in the plan strikes.
* **Effect.** A fault that strikes lets the statement take effect, or loses the open transaction, or
  does neither; then it may change what the client records about the transaction; then the
  statement fails with the fault's error.
* **Outages.** Establishing a connection fails at chosen attempts in the same way. -/

namespace TransactionGateway.Database

/-- What becomes of the statement that a fault strikes. -/
inductive FaultMode where
  | before
  | after
  | lost
deriving DecidableEq, Repr

/-- What becomes of the client's record of the transaction. -/
inductive RecordChange where
  | kept
  | broken
  | cleared
deriving DecidableEq, Repr

/-- The occurrences at which something happens, and those seen so far. -/
structure Schedule where
  after : Nat := 0
  times : Nat := 1
  seen : Nat := 0
deriving DecidableEq, Repr

namespace Schedule

/-- The next occurrence is among the chosen ones. -/
def isArmed (s : Schedule) : Bool := s.after ≤ s.seen && s.seen < s.after + s.times

/-- One more occurrence seen. -/
def tick (s : Schedule) : Schedule := { s with seen := s.seen + 1 }

/-- The occurrences to come, up to the last of the chosen ones. -/
def left (s : Schedule) : Nat := s.after + s.times - s.seen

/-- The occurrences to come of all the schedules of a plan. -/
def leftIn : List Schedule → Nat
  | [] => 0
  | s :: rest => s.left + leftIn rest

end Schedule

/-- A planned failure of a statement. -/
structure Fault where
  statement : String
  schedule : Schedule
  mode : FaultMode
  change : RecordChange
  error : Error
deriving DecidableEq, Repr

/-- A planned failure of establishing a connection. -/
structure Outage where
  schedule : Schedule
  error : ConnectError
deriving DecidableEq, Repr

/-- A fault after one more statement. -/
def Fault.see (text : String) (f : Fault) : Fault :=
  if f.statement = text then { f with schedule := f.schedule.tick } else f

/-- The fault strikes the next statement of this text. -/
def Fault.strikes (text : String) (f : Fault) : Bool :=
  f.statement == text && f.schedule.isArmed

/-- The fault that strikes a statement, and the plan after it. -/
def strike (text : String) (plan : List Fault) : Option Fault × List Fault :=
  (plan.find? (·.strikes text), plan.map (·.see text))

/-- The outage that meets an attempt to connect, and the plan after it. -/
def meet (plan : List Outage) : Option Outage × List Outage :=
  (plan.find? (·.schedule.isArmed), plan.map fun o => { o with schedule := o.schedule.tick })

@[simp] theorem strike_nil (text : String) : strike text [] = (none, []) := rfl

@[simp] theorem meet_nil : meet [] = (none, []) := rfl

end TransactionGateway.Database
