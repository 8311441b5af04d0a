import TransactionGateway.Files.ReadError
import TransactionGateway.Settings.Basic
import TransactionGateway.Text.Numeral
import TransactionGateway.Text.Quoted
import TransactionGateway.Yaml.Fault

/-! # Errors of settings

The causes for which settings cannot be had, and their wording.

* **Missing.** A required variable is not set.
* **Invalid.** A value is set but does not fit, by itself or beside another one (`Flaw`).
* **Unreadable file.** The settings file cannot be read as text.
* **Document.** The text of a settings file is no single document, or the document does not have
  the shape of settings (`DocumentFlaw`). -/

namespace TransactionGateway

open TransactionGateway.Text

/-- The ways in which a setting does not fit. -/
inductive Flaw where
  | noConnections
  | tooManyIdle (minIdle maxConnections : UInt32)
  | emptyUrl
  | unreadable (key raw : String) (reason : NumeralError)
  | described (message : String)
deriving DecidableEq, Repr

/-- The wording of a flaw. -/
def Flaw.text : Flaw → String
  | noConnections => "max_connections must be greater than 0"
  | tooManyIdle minIdle maxConnections =>
    "min_idle (" ++ toString minIdle ++ ") exceeds max_connections (" ++ toString maxConnections
      ++ ")"
  | emptyUrl => "database_url is empty"
  | unreadable key raw reason => key ++ "=" ++ quoted raw ++ ": " ++ reason.text
  | described message => message

/-- What a document holds where something else was expected. -/
inductive Found where
  | unit
  | boolean (b : Bool)
  | integer (i : Int)
  | float (shown : String)
  | string (s : String)
  | sequence
  | map
deriving DecidableEq, Repr

/-- The wording of what was found. -/
def Found.text : Found → String
  | unit => "unit value"
  | boolean b => "boolean `" ++ toString b ++ "`"
  | integer i => "integer `" ++ toString i ++ "`"
  | float shown => "floating point `" ++ shown ++ "`"
  | string s => "string " ++ quoted s
  | sequence => "sequence"
  | map => "map"

/-- The ways in which a value in a document is not what settings need there. -/
inductive Mismatch where
  | missingField (name : String)
  | duplicateField (name : String)
  | wrongType (found : Found) (expected : String)
  | wrongValue (found : Found) (expected : String)
deriving DecidableEq, Repr

/-- The wording of a mismatch. -/
def Mismatch.text : Mismatch → String
  | missingField name => "missing field \x60" ++ name ++ "\x60"
  | duplicateField name => "duplicate field \x60" ++ name ++ "\x60"
  | wrongType found expected => "invalid type: " ++ found.text ++ ", expected " ++ expected
  | wrongValue found expected => "invalid value: " ++ found.text ++ ", expected " ++ expected

/-- The ways in which a text is no settings document. A mismatch has a place, which is the path of
keys to the value at fault, empty for the document itself, and the position where that begins. -/
inductive DocumentFlaw where
  | mismatch (place : String) (position : Yaml.Position) (cause : Mismatch)
  | broken (fault : Yaml.Fault)
  | followed
  | described (message : String)
deriving DecidableEq, Repr

/-- A message after the place it is about. -/
def atPlace (place message : String) : String :=
  if place.isEmpty then message else place ++ ": " ++ message

/-- The wording of a flaw of a document. -/
def DocumentFlaw.text : DocumentFlaw → String
  | mismatch place position cause => atPlace place cause.text ++ position.label
  | broken fault => fault.text
  | followed => "deserializing from YAML containing more than one document is not supported"
  | described message => message

/-- The causes for which settings cannot be had. -/
inductive SettingsError where
  | missing (key : String)
  | invalid (flaw : Flaw)
  | unreadableFile (path : String) (cause : Files.ReadError)
  | document (flaw : DocumentFlaw)
deriving DecidableEq, Repr

namespace SettingsError

/-- The wording of an error. -/
def text : SettingsError → String
  | missing key => key ++ " must be set"
  | invalid flaw => "Invalid setting: " ++ flaw.text
  | unreadableFile path cause => "Failed to read config file " ++ path ++ ": " ++ cause.text
  | document flaw => "Failed to parse YAML: " ++ flaw.text

/-- An error with its fields. -/
def debug : SettingsError → String
  | missing key => "Missing(" ++ quoted key ++ ")"
  | invalid flaw => "Invalid(" ++ quoted flaw.text ++ ")"
  | unreadableFile path cause =>
    "Io \x7b path: " ++ quoted path ++ ", source: " ++ cause.debug ++ " \x7d"
  | document flaw => "Parse(" ++ quoted flaw.text ++ ")"

/-- The wordings of the error's own causes. -/
def sources : SettingsError → List String
  | unreadableFile _ cause => [cause.text]
  | _ => []

end SettingsError

end TransactionGateway
