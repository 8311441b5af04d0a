import TransactionGateway.Settings.Validation

/-! # Settings from variables

Settings read from a table of variables, such as the process environment.

* **Connection string.** `DATABASE_URL`, without its padding; a blank one counts as not set.
* **Overrides.** Each limit has a variable. Its text, without padding, replaces the default; a text
  that is no number of the limit's width, or no truth value, is refused with the text as it stands
  in the table.
* **Order.** The connection string first, the limits in the order of `PoolLimits`, validation last;
  the first fault is the answer. -/

namespace TransactionGateway

open TransactionGateway.Text

/-- A table of variables. -/
abbrev Variables := String → Option String

namespace Variable

def databaseUrl : String := "DATABASE_URL"
def maxConnections : String := "DATABASE_MAX_CONNECTIONS"
def minIdle : String := "DATABASE_MIN_IDLE"
def connectionTimeoutSecs : String := "DATABASE_CONNECTION_TIMEOUT_SECS"
def idleTimeoutSecs : String := "DATABASE_IDLE_TIMEOUT_SECS"
def maxLifetimeSecs : String := "DATABASE_MAX_LIFETIME_SECS"
def testOnCheckOut : String := "DATABASE_TEST_ON_CHECK_OUT"

end Variable

/-- The value of an override, or the default when the variable is not set. -/
def override {α : Type} (read : List Char → Except NumeralError α) (vars : Variables) (key : String)
    (default : α) : Except SettingsError α :=
  match vars key with
  | none => .ok default
  | some raw =>
    match read (trim raw.toList) with
    | .ok a => .ok a
    | .error reason => .error (.invalid (.unreadable key raw reason))

/-- The connection string of a table. -/
def urlOf (vars : Variables) : Except SettingsError String :=
  match vars Variable.databaseUrl with
  | none => .error (.missing Variable.databaseUrl)
  | some raw =>
    if trim raw.toList = [] then .error (.missing Variable.databaseUrl) else .ok (trimmed raw)

/-- The limits of a table, each overridden or at its default. -/
def PoolLimits.ofVariables (vars : Variables) : Except SettingsError PoolLimits := do
  let defaults : PoolLimits := {}
  let maxConnections ←
    override readWord32 vars Variable.maxConnections defaults.maxConnections
  let minIdle ← override readWord32 vars Variable.minIdle defaults.minIdle
  let connectionTimeoutSecs ←
    override readWord64 vars Variable.connectionTimeoutSecs defaults.connectionTimeoutSecs
  let idleTimeoutSecs ← override readWord64 vars Variable.idleTimeoutSecs defaults.idleTimeoutSecs
  let maxLifetimeSecs ← override readWord64 vars Variable.maxLifetimeSecs defaults.maxLifetimeSecs
  let testOnCheckOut ← override readBool vars Variable.testOnCheckOut defaults.testOnCheckOut
  return { maxConnections, minIdle, connectionTimeoutSecs, idleTimeoutSecs, maxLifetimeSecs,
           testOnCheckOut }

/-- The settings of a table. -/
def Settings.ofVariables (vars : Variables) : Except SettingsError Settings := do
  let databaseUrl ← urlOf vars
  let pool ← PoolLimits.ofVariables vars
  Settings.validated { databaseUrl, pool }

end TransactionGateway
