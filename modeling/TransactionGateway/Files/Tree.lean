import TransactionGateway.Files.ReadError
import TransactionGateway.Text.Cut
import TransactionGateway.Text.Octets

/-! # File trees

Files and directories below a root, seen from a working directory.

* **Paths.** The names in a path are separated by `/`. `.` and an empty name stay where they are,
  `..` goes up, and the root is its own parent. A path that begins with `/` begins at the root,
  any other at the working directory.
* **Going on.** A path goes on from a directory only. An unknown name, a file on the way and a name
  or path of too many octets are refused with the system's codes; so is reading a directory.
* **Directories.** Whatever has something below it is a directory, as are the root and the working
  directory. -/

namespace TransactionGateway.Files

open TransactionGateway.Text

/-- What has a name in a tree. -/
inductive Entry where
  | file (content : Octets)
  | directory
deriving DecidableEq, Repr

/-- A file tree: entries by their names from the root on, and the working directory. -/
structure Tree where
  entries : List (List String × Entry)
  here : List String
deriving DecidableEq, Repr

/-- The codes of the refusals. -/
def notFound : Nat := 2
def notADirectory : Nat := 20
def isADirectory : Nat := 21
def nameTooLong : Nat := 36

/-- The octets that a name may have. -/
def longestName : Nat := 255

/-- The octets that a path may have. -/
def longestPath : Nat := 4095

namespace Tree

/-- The names lie strictly above others. -/
def isAbove (above below : List String) : Bool := above.isPrefixOf below && above != below

/-- What lies at the end of some names from the root on. -/
def at? (t : Tree) (names : List String) : Option Entry :=
  match t.entries.lookup names with
  | some e => some e
  | none =>
    if names.isPrefixOf t.here || t.entries.any (fun e => isAbove names e.1) then some .directory
    else none

/-- What lies at the end of a path's names, from a directory on; the refusal otherwise. -/
def walk (t : Tree) : (directory names : List String) → Except ReadError Entry
  | _, [] => .ok .directory
  | dir, name :: rest =>
    if name = "" ∨ name = "." then walk t dir rest
    else if name = ".." then walk t dir.dropLast rest
    else if longestName < name.utf8ByteSize then .error (.system nameTooLong)
    else
      match t.at? (dir ++ [name]), rest with
      | none, _ => .error (.system notFound)
      | some .directory, _ => walk t (dir ++ [name]) rest
      | some (.file content), [] => .ok (.file content)
      | some (.file _), _ :: _ => .error (.system notADirectory)

/-- The names in a path. -/
def namesOf (path : String) : List String := (pieces '/' path.toList).map String.ofList

/-- What lies at the end of a path. -/
def find (t : Tree) (path : String) : Except ReadError Entry :=
  if path.toList.contains '\x00' then .error .nullInName
  else if path = "" then .error (.system notFound)
  else if longestPath < path.utf8ByteSize then .error (.system nameTooLong)
  else t.walk (if path.toList.head? = some '/' then [] else t.here) (namesOf path)

/-- The text of a file. -/
def readText (t : Tree) (path : String) : Except ReadError String := do
  match ← t.find path with
  | .directory => throw (.system isADirectory)
  | .file content =>
    match textOf? content with
    | some s => return s
    | none => throw .notUtf8

/-- The names from the root on that a path stands for, from a directory on. -/
def placeFrom : (directory names : List String) → List String
  | dir, [] => dir
  | dir, name :: rest =>
    if name = "" ∨ name = "." then placeFrom dir rest
    else if name = ".." then placeFrom dir.dropLast rest
    else placeFrom (dir ++ [name]) rest

/-- The tree with one more entry, at a path from the working directory on. -/
def withEntry (path : String) (e : Entry) (t : Tree) : Tree :=
  { t with entries := (placeFrom t.here (namesOf path), e) :: t.entries }

/-- The files of a name in some directories. -/
def filesNamed (t : Tree) (name : String) (directories : List (List String)) : List Octets :=
  directories.filterMap fun dir =>
    match t.at? (dir ++ [name]) with
    | some (.file content) => some content
    | _ => none

/-- A directory and those above it, the nearest first. -/
def upward (dir : List String) : List (List String) :=
  (List.range (dir.length + 1)).map fun n => dir.take (dir.length - n)

/-- The nearest file of a name, in the working directory or above it. -/
def nearest? (t : Tree) (name : String) : Option Octets := (t.filesNamed name (upward t.here)).head?

end Tree

end TransactionGateway.Files
