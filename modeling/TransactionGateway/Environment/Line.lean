import TransactionGateway.Text.Alphanumeric
import TransactionGateway.Text.Blank

/-! # Lines of definitions

The lines of a file that defines variables.

* **Binding.** A name, `=` and a value, with blanks around each; the word `export` may come first. A
  blank line and a comment, which begins with `#`, bind nothing. Any other line is faulty.
* **Value.** It ends at the first blank outside quotes; only a comment may follow. Single quotes
  keep everything as it is. Elsewhere a backslash comes before a quote, a dollar, a blank, another
  backslash, or the letter of a line break.
* **Substitution.** Outside single quotes `$name` and `${name}` stand for the value of a variable,
  or for nothing. The bare name is made of letters and numbers alone; the character behind it is
  taken as it is, whatever it means elsewhere. -/

namespace TransactionGateway.Environment

open TransactionGateway.Text

/-- What a line says. -/
inductive Line where
  | nothing
  | binding (name value : List Char)
  | faulty
deriving DecidableEq, Repr

namespace Line

/-- The place in a value: outside a substitution, in a bare name, or in a name between braces. -/
inductive Substitution where
  | none
  | bare (name : List Char)
  | braced (name : List Char)
deriving DecidableEq, Repr

/-- The state of reading a value. -/
inductive Place where
  | behind
  | escaped (inDouble : Bool)
  | single
  | open (inDouble : Bool) (substitution : Substitution)
deriving DecidableEq, Repr

/-- The character that stands for itself, or for a line break, behind a backslash. -/
def unescape? (c : Char) : Option Char :=
  if ['\\', '\'', '"', '$', ' '].contains c then some c
  else if c = 'n' then some '\n'
  else none

/-- What a value has at its end, if it may end there. -/
def atEnd (expand : List Char → List Char) : Place → Option (List Char)
  | .behind => some []
  | .escaped false => some []
  | .open false .none => some []
  | .open false (.bare name) => some (expand name)
  | _ => none

/-- The rest of a value from a place on. -/
def valueFrom (expand : List Char → List Char) : Place → List Char → Option (List Char)
  | p, [] => atEnd expand p
  | .behind, c :: r =>
    if c = ' ' ∨ c = '\t' then valueFrom expand .behind r
    else if c = '#' then some []
    else none
  | .escaped inDouble, c :: r => do
    let d ← unescape? c
    let v ← valueFrom expand (.open inDouble .none) r
    return d :: v
  | .single, c :: r =>
    if c = '\'' then valueFrom expand (.open false .none) r
    else (valueFrom expand .single r).map (c :: ·)
  | .open inDouble (.bare name), c :: r =>
    if isAlphanumeric c then valueFrom expand (.open inDouble (.bare (name ++ [c]))) r
    else if c = '\x7b' ∧ name = [] then valueFrom expand (.open inDouble (.braced [])) r
    else if c = '$' then
      (valueFrom expand (.open inDouble (.bare [])) r).map (expand name ++ ·)
    else (valueFrom expand (.open inDouble .none) r).map fun v => expand name ++ c :: v
  | .open inDouble (.braced name), c :: r =>
    if c = '\x7d' then (valueFrom expand (.open inDouble .none) r).map (expand name ++ ·)
    else valueFrom expand (.open inDouble (.braced (name ++ [c]))) r
  | .open inDouble .none, c :: r =>
    if c = '$' then valueFrom expand (.open inDouble (.bare [])) r
    else if c = '\\' then valueFrom expand (.escaped inDouble) r
    else if c = '"' then valueFrom expand (.open (!inDouble) .none) r
    else if !inDouble ∧ c = '\'' then valueFrom expand .single r
    else if !inDouble ∧ (c = ' ' ∨ c = '\t') then valueFrom expand .behind r
    else (valueFrom expand (.open inDouble .none) r).map (c :: ·)

/-- The value that a text spells out. -/
def value? (expand : List Char → List Char) (s : List Char) : Option (List Char) :=
  valueFrom expand (.open false .none) s

/-- A character of names, the first of which is no digit and no dot. -/
def isNameChar (c : Char) : Bool := c.isAlphanum || c == '_' || c == '.'

/-- The name at the beginning of a text, and the text behind it and behind blanks. -/
def name? (s : List Char) : Option (List Char × List Char) :=
  if s.head?.any (fun c => c.isAlpha || c == '_') then
    some (s.takeWhile isNameChar, trimStart (s.dropWhile isNameChar))
  else none

/-- The name that a line binds and the text of its value. -/
def parts? (s : List Char) : Option (List Char × List Char) := do
  let (name, s) ← name? s
  match s with
  | '=' :: s => return (name, trimStart s)
  | s =>
    if name = "export".toList then
      let (name, s) ← name? s
      match s with
      | '=' :: s => return (name, trimStart s)
      | _ => none
    else none

/-- A line, with the values of variables. -/
def read (expand : List Char → List Char) (s : List Char) : Line :=
  let s := trim s
  if s = [] ∨ s.head? = some '#' then nothing
  else
    match parts? s with
    | none => faulty
    | some (name, s) =>
      if s = [] ∨ s.head? = some '#' then binding name []
      else
        match value? expand s with
        | some v => binding name v
        | none => faulty

end Line

end TransactionGateway.Environment
