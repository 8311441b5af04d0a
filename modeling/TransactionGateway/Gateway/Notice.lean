/-! # Notices

The events that a gateway reports while it works.

* **Level.** Life and transactions of a session are reported for debugging; the creation and the
  shutdown of a gateway, and the name of a script, for information; failures that no caller is told
  of as warnings.
* **Session.** An event of one session carries its number; sessions are numbered from one in the
  order in which they are opened. -/

namespace TransactionGateway

/-- The weight of a notice. -/
inductive Level where
  | debug
  | info
  | warn
deriving DecidableEq, Repr

/-- The name of a level. -/
def Level.name : Level → String
  | debug => "DEBUG"
  | info => "INFO"
  | warn => "WARN"

/-- The events of one session. -/
inductive SessionEvent where
  | opened
  | started
  | committed
  | endedByBackend
  | rolledBack
  | closed
  | dropFailed (reason : String)
  | scopeDropFailed (reason : String)
  | closeFailed (reason : String)
deriving DecidableEq, Repr

/-- The events of an atomic run of operations. -/
inductive EnvelopeEvent where
  | operationFailed (index : Nat) (reason : String)
  | rollbackIncomplete (reason : String)
deriving DecidableEq, Repr

/-- The events of a gateway. -/
inductive Notice where
  | created (url : String) (maxConnections minIdle : UInt32)
  | shutDown (url : String) (connections idle : Nat)
  | applying (file : String)
  | session (id : Nat) (event : SessionEvent)
  | envelope (event : EnvelopeEvent)
deriving DecidableEq, Repr

namespace SessionEvent

/-- The weight of an event. -/
def level : SessionEvent → Level
  | dropFailed _ | scopeDropFailed _ | closeFailed _ => .warn
  | _ => .debug

/-- The wording of an event. -/
def text : SessionEvent → String
  | opened => "Session opened"
  | started => "Transaction started"
  | committed => "Transaction committed"
  | endedByBackend => "Transaction already ended by backend"
  | rolledBack => "Transaction rolled back"
  | closed => "Session closed"
  | dropFailed reason => "Failed to close session cleanly: " ++ reason
  | scopeDropFailed reason => "Failed to close scoped session: " ++ reason
  | closeFailed reason => "Failed to close session: " ++ reason

end SessionEvent

namespace EnvelopeEvent

/-- The weight of an event. -/
def level : EnvelopeEvent → Level
  | operationFailed _ _ => .debug
  | rollbackIncomplete _ => .warn

/-- The wording of an event. -/
def text : EnvelopeEvent → String
  | operationFailed index reason => "Operation " ++ toString index ++ " failed: " ++ reason
  | rollbackIncomplete reason => "Rollback after failure did not complete: " ++ reason

/-- An event with its level. -/
def line (e : EnvelopeEvent) : String := e.level.name ++ " " ++ e.text

end EnvelopeEvent

namespace Notice

/-- The weight of a notice. -/
def level : Notice → Level
  | created _ _ _ | shutDown _ _ _ | applying _ => .info
  | session _ event => event.level
  | envelope event => event.level

/-- The wording of a notice. -/
def text : Notice → String
  | created url maxConnections minIdle =>
    "Engine created for " ++ url ++ " (max_connections=" ++ toString maxConnections
      ++ ", min_idle=" ++ toString minIdle ++ ")"
  | shutDown url connections idle =>
    "Shutting down gateway for " ++ url ++ " (" ++ toString connections ++ " connections, "
      ++ toString idle ++ " idle)"
  | applying file => "Applying " ++ file
  | session _ event => event.text
  | envelope event => event.text

/-- A notice with its level and the session that it is about. -/
def line (n : Notice) : String :=
  match n with
  | session id _ => n.level.name ++ " [s" ++ toString id ++ "] " ++ n.text
  | _ => n.level.name ++ " " ++ n.text

end Notice

end TransactionGateway
