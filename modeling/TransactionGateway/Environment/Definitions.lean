import TransactionGateway.Environment.Basic
import TransactionGateway.Environment.Line
import TransactionGateway.Text.Cut

/-! # Files of definitions

The file `.env`, which defines variables that the environment lacks.

* **Where.** It is the nearest one: in the working directory, or else in the nearest directory above
  that has one.
* **How far.** Its lines take effect one after another, so a value may mention what earlier lines
  define. A faulty line, or one that stores no text, ends the reading; what the lines before it have
  defined stays.
* **Precedence.** Variables that have a value keep it, so the first binding of a name counts. -/

namespace TransactionGateway.Environment

open TransactionGateway.Text

/-- The value that a name between substitution marks stands for. -/
def expansion (e : Environment) (name : List Char) : List Char :=
  ((e.value? (String.ofList name)).getD "").toList

/-- What a stored line says. -/
def lineOf (e : Environment) (line : Octets) : Line :=
  match textOf? line with
  | some s => Line.read e.expansion s.toList
  | none => .faulty

/-- The environment after lines of definitions; `none` when a value cannot be set. -/
def defineLines : List Octets → Environment → Option Environment
  | [], e => some e
  | line :: rest, e =>
    match e.lineOf line with
    | .nothing => defineLines rest e
    | .faulty => some e
    | .binding name value => do
      let e ← e.define (String.ofList name) (String.ofList value)
      defineLines rest e

/-- The name of the file of definitions. -/
def definitionsName : String := ".env"

/-- The environment with the definitions of a file, if there is one; `none` when a value cannot be
set. -/
def withDefinitions (e : Environment) : Option Octets → Option Environment
  | none => some e
  | some content => e.defineLines (pieces 10 content)

end TransactionGateway.Environment
