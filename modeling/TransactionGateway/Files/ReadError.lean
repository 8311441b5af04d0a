import TransactionGateway.Files.SystemError
import TransactionGateway.Text.Quoted

/-! # Failures of reading a file

* **Causes.** The system refuses to open or read the file, its bytes are no UTF-8 text, its name
  holds a null, or the failure is described by a message of its own.
* **Wording.** `text` is what a person reads, `debug` the form with every field. -/

namespace TransactionGateway.Files

open TransactionGateway.Text

/-- The causes for which a file cannot be read as text. -/
inductive ReadError where
  | system (code : Nat)
  | notUtf8
  | nullInName
  | other (message : String)
deriving DecidableEq, Repr

namespace ReadError

/-- The wording of a failure. -/
def text : ReadError → String
  | system code => systemMessage code ++ " (os error " ++ toString code ++ ")"
  | notUtf8 => "stream did not contain valid UTF-8"
  | nullInName => "file name contained an unexpected NUL byte"
  | other message => message

/-- A failure with its fields. -/
def debug : ReadError → String
  | system code =>
    "Os \x7b code: " ++ toString code ++ ", kind: " ++ systemKind code ++ ", message: "
      ++ quoted (systemMessage code) ++ " \x7d"
  | notUtf8 =>
    "Error \x7b kind: InvalidData, message: " ++ quoted notUtf8.text ++ " \x7d"
  | nullInName =>
    "Error \x7b kind: InvalidInput, message: " ++ quoted nullInName.text ++ " \x7d"
  | other message => "Custom \x7b kind: Other, error: " ++ quoted message ++ " \x7d"

end ReadError

end TransactionGateway.Files
