import TransactionGateway.Text.Quoted

/-! # Errors of the database

What a database answers when it does not do what it is told, and what the client itself answers
when it cannot even ask.

* **Refusals.** The database refuses a statement for a reason of one of eleven kinds.
* **Transactions.** The client refuses to begin, commit or roll back when its own record of the
  transaction does not allow it.
* **Failed commit.** When a commit fails and the rollback that follows it fails as well, one error
  carries both.
* **Connecting.** A connection can fail to be established at all; its wording is that of the cause
  inside. -/

namespace TransactionGateway.Database

open TransactionGateway.Text

/-- The kinds of refusals. -/
inductive Refusal where
  | uniqueViolation
  | foreignKeyViolation
  | unableToSendCommand
  | serializationFailure
  | readOnlyTransaction
  | restrictViolation
  | notNullViolation
  | checkViolation
  | exclusionViolation
  | closedConnection
  | unknown
deriving DecidableEq, Repr

/-- The name of a kind of refusal. -/
def Refusal.name : Refusal → String
  | uniqueViolation => "UniqueViolation"
  | foreignKeyViolation => "ForeignKeyViolation"
  | unableToSendCommand => "UnableToSendCommand"
  | serializationFailure => "SerializationFailure"
  | readOnlyTransaction => "ReadOnlyTransaction"
  | restrictViolation => "RestrictViolation"
  | notNullViolation => "NotNullViolation"
  | checkViolation => "CheckViolation"
  | exclusionViolation => "ExclusionViolation"
  | closedConnection => "ClosedConnection"
  | unknown => "Unknown"

/-- All kinds of refusals. -/
def Refusal.all : List Refusal :=
  [uniqueViolation, foreignKeyViolation, unableToSendCommand, serializationFailure,
    readOnlyTransaction, restrictViolation, notNullViolation, checkViolation, exclusionViolation,
    closedConnection, unknown]

/-- The errors of a database. -/
inductive Error where
  | refused (kind : Refusal) (message : String)
  | notFound
  | rollbackRequested
  | alreadyInTransaction
  | notInTransaction
  | brokenTransaction
  | queryBuilding (message : String)
  | deserialization (message : String)
  | serialization (message : String)
  | nullInText (text : String)
  | failedCommit (rollback commit : Error)
deriving DecidableEq, Repr

/-- A refusal of no particular kind. -/
abbrev Error.unknown (message : String) : Error := .refused .unknown message

/-- The place of the first null among the bytes. -/
def nullPosition (text : String) : Nat :=
  (text.toUTF8.toList.findIdx? (· == 0)).getD text.utf8ByteSize

/-- The wording of a null inside a text. -/
def nullText (text : String) : String :=
  "nul byte found in provided data at position: " ++ toString (nullPosition text)

/-- A null inside a text, with the place and the bytes. -/
def nullDebug (text : String) : String :=
  "InvalidCString(NulError(" ++ toString (nullPosition text) ++ ", ["
    ++ ", ".intercalate (text.toUTF8.toList.map fun b => toString b.toNat) ++ "]))"

namespace Error

/-- The wording of an error. -/
def text : Error → String
  | refused _ message => message
  | notFound => "Record not found"
  | rollbackRequested => "You have asked diesel to rollback the transaction"
  | alreadyInTransaction => "Cannot perform this operation while a transaction is open"
  | notInTransaction => "Cannot perform this operation outside of a transaction"
  | brokenTransaction => "The transaction manager is broken"
  | queryBuilding message => message
  | deserialization message => message
  | serialization message => message
  | nullInText t => nullText t
  | failedCommit rollback commit =>
    "Transaction rollback failed: " ++ rollback.text
      ++ " (rollback attempted because of failure to commit: " ++ commit.text ++ ")"

/-- An error with its fields. -/
def debug : Error → String
  | refused kind message => "DatabaseError(" ++ kind.name ++ ", " ++ quoted message ++ ")"
  | notFound => "NotFound"
  | rollbackRequested => "RollbackTransaction"
  | alreadyInTransaction => "AlreadyInTransaction"
  | notInTransaction => "NotInTransaction"
  | brokenTransaction => "BrokenTransactionManager"
  | queryBuilding message => "QueryBuilderError(" ++ quoted message ++ ")"
  | deserialization message => "DeserializationError(" ++ quoted message ++ ")"
  | serialization message => "SerializationError(" ++ quoted message ++ ")"
  | nullInText t => nullDebug t
  | failedCommit rollback commit =>
    "RollbackErrorOnCommit \x7b rollback_error: " ++ rollback.debug ++ ", commit_error: "
      ++ commit.debug ++ " \x7d"

end Error

/-- The errors of establishing a connection. -/
inductive ConnectError where
  | nullInText (text : String)
  | unreachable (message : String)
  | invalidUrl (message : String)
  | setupFailed (cause : Error)
deriving DecidableEq, Repr

namespace ConnectError

/-- The wording of an error. -/
def text : ConnectError → String
  | nullInText t => nullText t
  | unreachable message => message
  | invalidUrl message => message
  | setupFailed cause => cause.text

/-- An error with its fields. -/
def debug : ConnectError → String
  | nullInText t => nullDebug t
  | unreachable message => "BadConnection(" ++ quoted message ++ ")"
  | invalidUrl message => "InvalidConnectionUrl(" ++ quoted message ++ ")"
  | setupFailed cause => "CouldntSetupConfiguration(" ++ cause.debug ++ ")"

end ConnectError

end TransactionGateway.Database
