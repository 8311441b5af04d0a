/-! # Command-line arguments

* **Commands.** `check` takes no argument, `apply` the name of a script. `help` names the page that
  is asked for.
* **Options.** `-c` or `--config` with a file, and `-v` or `--verbose`, stand before or after the
  command, once in either place; a file named after the command counts more. Short options may share
  a hyphen. A value follows in the next argument, after `=`, or right behind a short option.
* **Pages.** `-h` or `--help` asks for the page of the command it follows, `-V` or `--version`,
  before any command, for the version. They win over whatever comes after them.
* **Values.** No value is empty, and none that follows in an argument of its own looks like an
  option. After `--` every argument is taken as it is.
* **Held values.** A value in an argument of its own is held until the next option or argument, or
  the end, shows that it is complete, and only then looked at. A command is not one of them: the
  page that is asked for behind a command wins over a held value that is none.
* **Refused.** Anything else is a fault of usage. -/

namespace TransactionGateway.CommandLine

/-- The pages of help. -/
inductive Page where
  | program
  | check
  | apply
  | help
deriving DecidableEq, Repr

/-- The options. -/
structure Options where
  config : Option String := none
  verbose : Bool := false
deriving DecidableEq, Repr

/-- The commands that do something. -/
inductive Task where
  | check
  | apply (file : String)
deriving DecidableEq, Repr

/-- What is asked for. -/
inductive Request where
  | page (p : Page)
  | version
  | task (options : Options) (t : Task)
deriving DecidableEq, Repr

/-- What has been read of the arguments before or after the command. -/
structure Reading where
  options : Options := {}
  file : Option String := none
deriving DecidableEq, Repr

/-- How a run of arguments ends: with a page or the version, at a command, or at the last
argument. What has been read before a command is `none` when a held value turns out to be none. -/
inductive Ending where
  | asks (r : Request)
  | command (name : String) (rest : List String) (before : Option Reading)
  | last (r : Reading)
deriving DecidableEq, Repr

namespace Reading

/-- The reading with a settings file; only the first, and no empty one, is taken. -/
def withConfig (value : String) (r : Reading) : Option Reading :=
  if r.options.config.isSome || value.isEmpty then none
  else some { r with options := { r.options with config := some value } }

/-- The reading with a settings file that has been held, if there is one. -/
def withHeld (held : Option String) (r : Reading) : Option Reading :=
  match held with
  | none => some r
  | some value => r.withConfig value

/-- The reading with the option to report more; only the first is taken. -/
def withVerbose (r : Reading) : Option Reading :=
  if r.options.verbose then none else some { r with options := { r.options with verbose := true } }

/-- The reading with an argument that is no option. -/
def withArgument (level : Page) (value : String) (r : Reading) : Option Reading :=
  if level = .apply && r.file.isNone && !value.isEmpty then some { r with file := some value }
  else none

/-- The reading with arguments that are no options. -/
def withArguments (level : Page) : List String → Reading → Option Reading
  | [], r => some r
  | value :: rest, r => do
    let r ← r.withArgument level value
    withArguments level rest r

end Reading

/-- The argument looks like an option. -/
def isOptionLike (s : String) : Bool :=
  match s.toList with
  | '-' :: _ :: _ => true
  | _ => false

/-- The commands that may stand at a level. -/
def commandsAt : Page → List String
  | .program => ["check", "apply", "help"]
  | _ => []

/-- What a step of reading leaves: the reading goes on, with a file still to come or without, or
something is asked for. -/
inductive Progress where
  | goesOn (r : Reading)
  | wantsConfig (r : Reading)
  | asks (r : Request)
deriving DecidableEq, Repr

/-- A value behind its option in the same argument. -/
def attached : List Char → String
  | '=' :: s => String.ofList s
  | s => String.ofList s

/-- The short options that share a hyphen. -/
def readShort (level : Page) : List Char → Reading → Option Progress
  | [], r => some (.goesOn r)
  | 'c' :: [], r => some (.wantsConfig r)
  | 'c' :: s, r => (r.withConfig (attached s)).map .goesOn
  | 'v' :: s, r => do
    let r ← r.withVerbose
    readShort level s r
  | 'h' :: _, _ => some (.asks (.page level))
  | 'V' :: _, _ => if level = .program then some (.asks .version) else none
  | _, _ => none

/-- A long option, the hyphens before it taken off. -/
def readLong (level : Page) (s : List Char) (r : Reading) : Option Progress :=
  let name := String.ofList (s.takeWhile (· ≠ '='))
  match name, s.dropWhile (· ≠ '=') with
  | "config", [] => some (.wantsConfig r)
  | "config", _ :: value => (r.withConfig (String.ofList value)).map .goesOn
  | "verbose", [] => r.withVerbose.map .goesOn
  | "help", [] => some (.asks (.page level))
  | "version", [] => if level = .program then some (.asks .version) else none
  | _, _ => none

/-- An argument that looks like an option. -/
def readOption (level : Page) (s : String) (r : Reading) : Option Progress :=
  match s.toList with
  | '-' :: '-' :: s => readLong level s r
  | '-' :: s => readShort level s r
  | _ => none

/-- Arguments read up to the end of the level, `wanting` a settings file or not, with the one that
is `held`. -/
def readLevel (level : Page) :
    (wanting : Bool) → (held : Option String) → List String → Reading → Option Ending
  | false, held, [], r => (r.withHeld held).map .last
  | true, _, [], _ => none
  | true, _, value :: rest, r =>
    if isOptionLike value then none else readLevel level false (some value) rest r
  | false, held, value :: rest, r =>
    if (commandsAt level).contains value then some (.command value rest (r.withHeld held))
    else do
      let r ← r.withHeld held
      if value = "--" then (r.withArguments level rest).map .last
      else if isOptionLike value then
        match ← readOption level value r with
        | .goesOn r => readLevel level false none rest r
        | .wantsConfig r => readLevel level true none rest r
        | .asks request => some (.asks request)
      else
        let r ← r.withArgument level value
        readLevel level false none rest r

/-- The page that the arguments of `help` name. -/
def pageNamed : List String → Option Page
  | [] => some .program
  | ["check"] => some .check
  | ["apply"] => some .apply
  | ["help"] => some .help
  | _ => none

/-- The options before and after a command together. -/
def Options.together (before after : Options) : Options :=
  { config := after.config <|> before.config, verbose := before.verbose || after.verbose }

/-- The arguments after a command. -/
def readCommand (level : Page) (task : Option String → Option Task) (rest : List String)
    (before : Option Reading) : Option Request := do
  match ← readLevel level false none rest {} with
  | .asks r => some r
  | .command _ _ _ => none
  | .last after =>
    let before ← before
    (task after.file).map (.task (before.options.together after.options))

/-- What arguments ask for; `none` is a fault of usage. -/
def request? (arguments : List String) : Option Request := do
  match ← readLevel .program false none arguments {} with
  | .asks r => some r
  | .command "check" rest before => readCommand .check (fun _ => some .check) rest before
  | .command "apply" rest before => readCommand .apply (·.map .apply) rest before
  | .command "help" rest _ => (pageNamed rest).map .page
  | _ => none

end TransactionGateway.CommandLine
