import TransactionGateway.CommandLine.Arguments

/-! # Pages of help

The pages that the command line prints about itself. -/

namespace TransactionGateway.CommandLine

/-- The name and the version of the program. -/
def versionLine : String := "sessiongate 0.1.0\n"

/-- The options of every command. -/
def commonOptions : String :=
  "Options:\n"
    ++ "  -c, --config <CONFIG>  YAML settings file (defaults to the environment)\n"
    ++ "  -v, --verbose          Enable debug logging\n"
    ++ "  -h, --help             Print help\n"

/-- The text of a page. -/
def Page.text : Page → String
  | program =>
    "Database session gateway utilities\n\n"
      ++ "Usage: sessiongate [OPTIONS] <COMMAND>\n\n"
      ++ "Commands:\n"
      ++ "  check  Connect and run a connectivity probe\n"
      ++ "  apply  Apply a SQL script in a single transaction\n"
      ++ "  help   Print this message or the help of the given subcommand(s)\n\n"
      ++ commonOptions
      ++ "  -V, --version          Print version\n"
  | check =>
    "Connect and run a connectivity probe\n\n"
      ++ "Usage: sessiongate check [OPTIONS]\n\n"
      ++ commonOptions
  | apply =>
    "Apply a SQL script in a single transaction\n\n"
      ++ "Usage: sessiongate apply [OPTIONS] <FILE>\n\n"
      ++ "Arguments:\n"
      ++ "  <FILE>  Script file; statements are separated by \x60;\x60\n\n"
      ++ commonOptions
  | help =>
    "Print this message or the help of the given subcommand(s)\n\n"
      ++ "Usage: sessiongate help [COMMAND]...\n\n"
      ++ "Arguments:\n"
      ++ "  [COMMAND]...  Print help for the subcommand(s)\n"

end TransactionGateway.CommandLine
