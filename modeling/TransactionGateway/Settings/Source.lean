import TransactionGateway.Act
import TransactionGateway.Environment.Definitions
import TransactionGateway.Files.Tree
import TransactionGateway.Settings.Document

/-! # Where settings come from

* **Host.** What a process finds around it: its variables, the nearest file of definitions and the
  texts of files.
* **Environment.** Settings come from the variables, with those that the definitions add.
* **File.** Settings come from the text of a document, whose placeholder is a variable of the
  process alone.
* **Panic.** A definition whose value cannot be set ends everything. -/

namespace TransactionGateway

/-- What a process finds around it. -/
structure Host where
  environment : Environment
  definitions : Option Text.Octets
  readText : String → Except Files.ReadError String

namespace Host

/-- What a process finds in a file tree. -/
def ofTree (files : Files.Tree) (environment : Environment) : Host where
  environment := environment
  definitions := files.nearest? Environment.definitionsName
  readText := files.readText

/-- The host once its definitions have taken effect; `none` when a value cannot be set. -/
def defined (h : Host) : Option Host :=
  (h.environment.withDefinitions h.definitions).map fun environment => { h with environment }

end Host

namespace Settings

/-- A result as the end of a computation. -/
def outcome : Except SettingsError Settings → Outcome SettingsError Settings
  | .ok s => .ok s
  | .error e => .err e

/-- The settings of the environment. -/
def ofEnvironment (h : Host) : Outcome SettingsError Settings :=
  match h.defined with
  | none => .panic
  | some h => outcome (ofVariables h.environment.value?)

/-- The settings of a file. -/
def ofFile (h : Host) (path : String) : Except SettingsError Settings :=
  match h.readText path with
  | .ok text => ofYaml h.environment.value? text
  | .error cause => .error (.unreadableFile path cause)

end Settings

end TransactionGateway
