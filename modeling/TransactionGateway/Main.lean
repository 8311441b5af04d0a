import TransactionGateway.CommandLine.Program

/-! # The command line

The outer layer of the program: it collects what the host offers, runs the program and prints the
report; its notices go where the errors go, and only when they are asked for. -/

namespace TransactionGateway.CommandLine

open Text

/-- The refusal that a failure of the system stands for. -/
def readErrorOf : IO.Error → Files.ReadError
  | .noFileOrDirectory _ code _ | .inappropriateType _ code _ | .permissionDenied _ code _
  | .resourceExhausted _ code _ | .invalidArgument _ code _ => .system code.toNat
  | e => .other (toString e)

/-- The octets of a file. -/
def readOctets (path : String) : IO (Except Files.ReadError Octets) := do
  match ← (IO.FS.readBinFile path).toBaseIO with
  | .ok content => return .ok content.toList
  | .error e => return .error (readErrorOf e)

/-- The text of a file. -/
def readFileText (path : String) : IO (Except Files.ReadError String) := do
  match ← readOctets path with
  | .error e => return .error e
  | .ok content =>
    match textOf? content with
    | some s => return .ok s
    | none => return .error .notUtf8

/-- The variables of the process. -/
def readEnvironment : IO Environment := do
  match ← readOctets "/proc/self/environ" with
  | .error _ => return {}
  | .ok content =>
    let entries := (pieces 0 content).filterMap fun entry => do
      let (name, value) ← cut ('='.toNat.toUInt8) entry
      let name ← textOf? name
      return (name, value)
    return { entries }

/-- The first file of definitions at some paths. -/
def readDefinitions : List String → IO (Option Octets)
  | [] => return none
  | path :: rest => do
    match ← readOctets path with
    | .ok content => return some content
    | .error _ => readDefinitions rest

/-- The paths of the files of definitions in the working directory and above it. -/
def definitionsPaths (directory : String) : List String :=
  (Files.Tree.upward (Files.Tree.namesOf directory)).map fun names =>
    "/".intercalate (names ++ [Environment.definitionsName])

/-- The files that a request reads. -/
def Request.files : Request → List String
  | task options (.apply file) => options.config.toList ++ [file]
  | task options .check => options.config.toList
  | _ => []

/-- The host, with the texts of some files. -/
def readHost (files : List String) : IO Host := do
  let texts ← files.mapM fun path => do return (path, ← readFileText path)
  return {
    environment := ← readEnvironment
    definitions := ← readDefinitions (definitionsPaths (← IO.currentDir).toString)
    readText := fun path => (texts.lookup path).getD (.error (.system Files.notFound)) }

/-- The notices of a run are asked for. -/
def Request.isVerbose : Request → Bool
  | task options _ => options.verbose
  | _ => false

/-- A run of the program on the host. -/
def runOnHost (arguments : List String) : IO UInt32 := do
  let request := request? arguments
  let host ← readHost ((request.map Request.files).getD [])
  let report := run host freshServer arguments
  if request.any Request.isVerbose then
    for n in report.notices do
      IO.eprintln n.line
  IO.print report.output
  IO.eprint report.errors
  return report.code.toUInt32

end TransactionGateway.CommandLine

/-- The entry of the program. -/
def main (arguments : List String) : IO UInt32 :=
  TransactionGateway.CommandLine.runOnHost arguments
