import TransactionGateway.Settings.Basic
import TransactionGateway.Yaml.Scalar.Printer

/-! # Settings as a document

The text of a YAML document that spells settings out: a block mapping with the connection string
and an indented mapping of the limits, each entry with its value. -/

namespace TransactionGateway

open Yaml.Printer

/-- A value of a single plain line. -/
def plainLine (s : String) : List Char := s.toList ++ ['\n']

/-- The entries of the limits. -/
def PoolLimits.entries (limits : PoolLimits) : List (String × String) :=
  [("max_connections", toString limits.maxConnections),
    ("min_idle", toString limits.minIdle),
    ("connection_timeout_secs", toString limits.connectionTimeoutSecs),
    ("idle_timeout_secs", toString limits.idleTimeoutSecs),
    ("max_lifetime_secs", toString limits.maxLifetimeSecs),
    ("test_on_check_out", toString limits.testOnCheckOut)]

/-- The lines of the limits. -/
def PoolLimits.lines (limits : PoolLimits) : List Char :=
  limits.entries.flatMap fun (key, text) => indentation ++ entry key (plainLine text)

/-- The text of a document with the settings. -/
def Settings.toYaml (s : Settings) : String :=
  String.ofList
    (entry "database_url" (value s.databaseUrl.toList) ++ "pool:\n".toList ++ s.pool.lines)

end TransactionGateway
