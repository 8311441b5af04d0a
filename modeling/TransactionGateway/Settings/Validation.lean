import TransactionGateway.Settings.Error
import TransactionGateway.Text.Blank

/-! # Validation of settings

* **Limits.** A pool has room for a connection, and never keeps more idle ones than it has room for.
* **Connection string.** It is not blank. It is looked at before the limits are. -/

namespace TransactionGateway

/-- The first flaw of the limits. -/
def PoolLimits.validate (limits : PoolLimits) : Except SettingsError Unit :=
  if limits.maxConnections = 0 then .error (.invalid .noConnections)
  else if limits.maxConnections < limits.minIdle then
    .error (.invalid (.tooManyIdle limits.minIdle limits.maxConnections))
  else .ok ()

/-- The first flaw of the settings. -/
def Settings.validate (settings : Settings) : Except SettingsError Unit :=
  if Text.allBlank settings.databaseUrl.toList then .error (.invalid .emptyUrl)
  else settings.pool.validate

/-- The settings, if they have no flaw. -/
def Settings.validated (settings : Settings) : Except SettingsError Settings :=
  settings.validate.map fun _ => settings

theorem PoolLimits.validate_eq_ok_iff (limits : PoolLimits) :
    limits.validate = .ok () ↔
      limits.maxConnections ≠ 0 ∧ limits.minIdle ≤ limits.maxConnections := by
  unfold validate
  by_cases h : limits.maxConnections = 0
  · simp [h]
  · by_cases h' : limits.maxConnections < limits.minIdle
    · simp [h, h']
    · simp [h, h', UInt32.not_lt.mp h']

theorem Settings.validate_eq_ok_iff (settings : Settings) :
    settings.validate = .ok () ↔
      Text.allBlank settings.databaseUrl.toList = false ∧ settings.pool.validate = .ok () := by
  unfold validate
  by_cases h : Text.allBlank settings.databaseUrl.toList <;> simp [h]

end TransactionGateway
