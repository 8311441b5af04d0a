import TransactionGateway.Settings.Lookup
import TransactionGateway.Text.Cut
import TransactionGateway.Text.Octets

/-! # The environment

The variables of a process.

* **Entries.** The process keeps a variable as the text `NAME=VALUE`, and a look-up of a name finds
  the entry that begins with that name and `=`. So a name that holds a `=` itself finds the end of a
  value: with `A` set to `B=C`, the name `A=B` finds `C`. Without a `=` it finds the whole value of
  its variable (`stored?_of_notMem`). The empty name finds nothing.
* **Values.** A value is a list of octets. One that stores no text counts as absent, and can be set
  anew.
* **Setting.** A variable is defined only if it has no value yet (`define_of_isSome`). A value with a
  null cannot be set at all. -/

namespace TransactionGateway

open TransactionGateway.Text

/-- The variables of a process with their values. -/
structure Environment where
  entries : List (String × Octets) := []
deriving DecidableEq, Repr

namespace Environment

/-- The stored value that a name finds. -/
def stored? (e : Environment) (name : String) : Option Octets :=
  if name = "" then none
  else
    match cut '=' name.toList with
    | none => e.entries.lookup name
    | some (start, more) =>
      (e.entries.lookup (String.ofList start)).bind (dropMark (octetsOf (more ++ ['='])))

/-- The value that a name finds. -/
def value? (e : Environment) : Variables := fun name => (e.stored? name).bind textOf?

/-- The environment with another value for a variable. -/
def set (name value : String) (e : Environment) : Environment :=
  ⟨(name, octetsOf value.toList) :: e.entries⟩

/-- The environment with a value for a variable that has none; `none` when it cannot be set. -/
def define (name value : String) (e : Environment) : Option Environment :=
  if (e.value? name).isSome then some e
  else if value.toList.contains '\x00' then none
  else some (e.set name value)

theorem stored?_of_notMem (e : Environment) {name : String} (h : name ≠ "")
    (h' : '=' ∉ name.toList) : e.stored? name = e.entries.lookup name := by
  rw [stored?, if_neg h, cut_eq_none_iff.mpr h']

theorem define_of_isSome {e : Environment} {name : String} (h : (e.value? name).isSome)
    (value : String) : e.define name value = some e := if_pos h

end Environment

end TransactionGateway
