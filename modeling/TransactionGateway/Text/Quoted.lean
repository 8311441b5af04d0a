import TransactionGateway.Text.Unseen

/-! # Quoted text

How a text is shown inside a message when it must be told apart from the words around it.

* **Marks.** The text stands between quotation marks; a quotation mark or a backslash inside it is
  written after a backslash, a line break, a return, a tab and a null as a letter after one.
* **Numbers.** Any other character that cannot be shown as itself is written `\u`, then its number
  in lower-case hexadecimal digits between braces. -/

namespace TransactionGateway.Text

/-- The number in hexadecimal digits of lower case, without leading zeros. -/
def hexDigits (n : Nat) : List Char := Nat.toDigits 16 n

/-- A character inside quotation marks. -/
def quoteChar (c : Char) : List Char :=
  if c = '\x00' then ['\\', '0']
  else if c = '\t' then ['\\', 't']
  else if c = '\r' then ['\\', 'r']
  else if c = '\n' then ['\\', 'n']
  else if c = '"' then ['\\', '"']
  else if c = '\\' then ['\\', '\\']
  else if isUnseen c then ['\\', 'u', '\x7b'] ++ hexDigits c.toNat ++ ['\x7d']
  else [c]

/-- A text between quotation marks. -/
def quoted (s : String) : String := String.ofList ('"' :: s.toList.flatMap quoteChar ++ ['"'])

end TransactionGateway.Text
