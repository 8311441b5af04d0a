import TransactionGateway.CommandLine.Help
import TransactionGateway.Gateway.Run
import TransactionGateway.Settings.Source

/-! # The program

What the command line does, as a function of its arguments, its host and the database.

* **Settings.** They come from the file of the option, or else from the environment; the definitions
  of the host take effect in either case.
* **Check.** The database is probed and the pool is counted.
* **Apply.** The script is read before anything is connected; one of nothing but blanks is refused.
* **Codes.** 0 after success, 1 after an error, which is printed, 2 after a fault of usage, and 101
  after a panic. -/

namespace TransactionGateway.CommandLine

open Database

/-- What a run of the program leaves behind. -/
structure Report where
  code : Nat
  output : String := ""
  errors : String := ""
  notices : List Notice := []
deriving DecidableEq, Repr

/-- The errors of a task, in the words in which they are printed. -/
abbrev Task.Result := Outcome String String × List Notice

/-- The settings of a task. -/
def settingsOf (host : Host) (o : Options) : Outcome SettingsError Settings :=
  match o.config with
  | none => Settings.ofEnvironment host
  | some path =>
    match host.defined with
    | none => .panic
    | some host => Settings.outcome (Settings.ofFile host path)

/-- Work on a gateway that is connected for it and shut down after it. -/
def withGateway {α : Type} (settings : Settings) (server : Server)
    (work : Act Engine GatewayError α) (line : Engine → α → String) : Task.Result :=
  match World.connect settings "main" server with
  | (.ok _, w) =>
    let (answer, e) := work w.engine
    let shown := answer.map (line e)
    let e := if shown.isOk then e.noteShutDown else e
    (shown.mapError GatewayError.text, e.notices)
  | (.err e, w) => (.err e.text, w.engine.notices)
  | (.panic, w) => (.panic, w.engine.notices)

/-- The lines that tell of a successful probe. -/
def checkedText (e : Engine) (s : PoolStatus) : String :=
  "✅ Connected to " ++ e.pool.url ++ "\n   pool: " ++ toString s.connections ++ " connections ("
    ++ toString s.idle ++ " idle, max " ++ toString s.max ++ ")\n"

/-- The line that tells of an applied script. -/
def appliedText (file : String) : String := "✅ Applied " ++ file ++ "\n"

/-- The script of a file announced and applied. -/
def applyFile (file script : String) : Act Engine GatewayError Unit := do
  Act.update (Engine.note (.applying file))
  Engine.applyScript script

/-- A task done with its settings. -/
def Task.perform (host : Host) (server : Server) (settings : Settings) : Task → Task.Result
  | check => withGateway settings server Engine.check checkedText
  | apply file =>
    match host.readText file with
    | .error cause => (.err ("Failed to read " ++ file ++ ": " ++ cause.text), [])
    | .ok script =>
      if Text.allBlank script.toList then (.err ("No statements found in " ++ file), [])
      else withGateway settings server (applyFile file script) fun _ _ => appliedText file

/-- The report of a task. -/
def Report.ofResult : Task.Result → Report
  | (.ok output, notices) => { code := 0, output, notices }
  | (.err message, notices) => { code := 1, errors := "Error: " ++ message ++ "\n", notices }
  | (.panic, notices) => { code := 101, notices }

/-- What is printed after a fault of usage. -/
def usageText : String :=
  "error: the arguments are not understood\n\nFor more information, try '--help'.\n"

/-- A request answered. -/
def Request.answer (host : Host) (server : Server) : Request → Report
  | page p => { code := 0, output := p.text }
  | version => { code := 0, output := versionLine }
  | task options t =>
    match settingsOf host options with
    | .ok settings => .ofResult (t.perform host server settings)
    | .err e => .ofResult (.err e.text, [])
    | .panic => .ofResult (.panic, [])

/-- A run of the program. -/
def run (host : Host) (server : Server) (arguments : List String) : Report :=
  match request? arguments with
  | none => { code := 2, errors := usageText }
  | some request => request.answer host server

/-- The database that the program works on: empty, and lenient. -/
def freshServer : Server := { isLenient := true }

end TransactionGateway.CommandLine
