import TransactionGateway.Database.Error
import TransactionGateway.Settings.Error

/-! # Errors of a gateway

Why a gateway, a session or a transaction did not do what it was asked.

* **From below.** The pool, the database, the connecting and the settings each have errors of their
  own, which are carried unchanged.
* **Of a session.** A closed session takes no calls; a session has at most one transaction, and
  commits or rolls back none that is not there. -/

namespace TransactionGateway

open TransactionGateway.Text

/-- The errors of a gateway. -/
inductive GatewayError where
  | pool (message : String)
  | database (cause : Database.Error)
  | connecting (cause : Database.ConnectError)
  | sessionClosed
  | transactionAlreadyActive
  | noActiveTransaction
  | settings (cause : SettingsError)
deriving DecidableEq, Repr

namespace GatewayError

/-- The wording of an error. -/
def text : GatewayError → String
  | pool message => "Connection pool error: " ++ message
  | database cause => "Database error: " ++ cause.text
  | connecting cause => "Connection error: " ++ cause.text
  | sessionClosed => "Session is closed"
  | transactionAlreadyActive => "A transaction is already active on this session"
  | noActiveTransaction => "No active transaction on this session"
  | settings cause => "Configuration error: " ++ cause.text

/-- An error with its fields. -/
def debug : GatewayError → String
  | pool message => "Pool(" ++ quoted message ++ ")"
  | database cause => "Database(" ++ cause.debug ++ ")"
  | connecting cause => "Connection(" ++ cause.debug ++ ")"
  | sessionClosed => "SessionClosed"
  | transactionAlreadyActive => "TransactionAlreadyActive"
  | noActiveTransaction => "NoActiveTransaction"
  | settings cause => "Config(" ++ cause.debug ++ ")"

/-- The wordings of the causes below an error, the nearest first. -/
def sources : GatewayError → List String
  | database cause => [cause.text]
  | connecting cause => [cause.text]
  | settings cause => cause.text :: cause.sources
  | _ => []

end GatewayError

end TransactionGateway
