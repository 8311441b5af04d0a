import TransactionGateway.Text.Cut

/-! # Statements

What a database understands, and how it finds statements in a text.

* **Batch.** A text is cut at every `;`; each part loses the spaces, tabs and line ends around it,
  and an empty part is skipped.
* **Word.** The word of a statement is its text up to the first space; what follows that space is
  its argument, and a statement without a space has the empty argument.
* **Reading.** The transaction statements are known by their exact text or beginning, the rows by
  their word. Any other text is a statement that the database does not understand. -/

namespace TransactionGateway.Database

open TransactionGateway.Text

/-- The statements of the database. -/
inductive Statement where
  | ping
  | probe
  | begin
  | commit
  | rollback
  | savepoint (name : String)
  | release (name : String)
  | rollbackTo (name : String)
  | put (row : String)
  | unique (row : String)
  | crash
  | notUnderstood (word : String)
deriving DecidableEq, Repr

/-- A character that a statement may stand between. -/
def isPadding (c : Char) : Bool := c == ' ' || c == '\t' || c == '\r' || c == '\n'

/-- A part of a batch without its padding. -/
def strip (s : List Char) : List Char :=
  ((s.dropWhile isPadding).reverse.dropWhile isPadding).reverse

/-- The texts of the statements of a batch. -/
def statementTexts (batch : String) : List String :=
  (((pieces ';' batch.toList).map strip).filter (· ≠ [])).map String.ofList

namespace Statement

/-- The word and the argument of a statement. -/
def cutWord (s : List Char) : List Char × List Char := (cut ' ' s).getD (s, [])

/-- The statement written by a text. -/
def ofText (text : String) : Statement :=
  let s := text.toList
  let (word, argument) := cutWord s
  let known : Option Statement :=
    if text = "PING" then some ping
    else if text = "SELECT 1" then some probe
    else if text = "BEGIN" then some begin
    else if text = "COMMIT" then some commit
    else if text = "ROLLBACK" then some rollback
    else if word = "PUT".toList then some (put (String.ofList argument))
    else if word = "UNIQUE".toList then some (unique (String.ofList argument))
    else if word = "PANIC".toList then some crash
    else none
  let named (mark : String) (make : String → Statement) : Option Statement :=
    match dropMark mark.toList s with
    | some (c :: name) => some (make (String.ofList (c :: name)))
    | _ => none
  (known <|> named "SAVEPOINT " savepoint <|> named "RELEASE SAVEPOINT " release
    <|> named "ROLLBACK TO SAVEPOINT " rollbackTo).getD (notUnderstood (String.ofList word))

/-- The statement begins, ends or marks a transaction. -/
def isTransactionControl : Statement → Bool
  | begin | commit | rollback | savepoint _ | release _ | rollbackTo _ => true
  | _ => false

example : ofText "PUT  two" = put " two" ∧ ofText "SAVEPOINT" = notUnderstood "SAVEPOINT" := by
  decide

end Statement

end TransactionGateway.Database
