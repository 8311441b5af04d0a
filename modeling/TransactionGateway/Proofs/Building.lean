import TransactionGateway.Gateway.Run

/-! # Building a pool from validated settings

What validation of the settings is worth when a pool is built from them.

* **What a pool asks for** (`isBuildable_iff`). Room for a connection, no more idle connections than
  there is room for, and times by which it can wait (`PoolLimits.IsTimely`). Validation answers for
  the counts and does not look at the times.
* **Panics.** Once a pool can be built, connecting succeeds or fails with an error. So it panics on
  settings that validation accepts just if their times are not such as a pool can wait by
  (`connectChecked_panics_iff`). -/

namespace TransactionGateway

open Database

/-- A pool can wait by these times: none is zero, and a clock that has been running for some seconds
reaches to the end of a checkout. -/
structure PoolLimits.IsTimely (uptime : Nat) (limits : PoolLimits) : Prop where
  connection : limits.connectionTimeoutSecs ≠ 0
  idle : limits.idleTimeoutSecs ≠ 0
  lifetime : limits.maxLifetimeSecs ≠ 0
  reached : uptime + limits.connectionTimeoutSecs.toNat ≤ lastSecond

theorem PoolLimits.isBuildable_iff (uptime : Nat) (limits : PoolLimits) :
    limits.isBuildable uptime = true ↔ limits.validate = .ok () ∧ limits.IsTimely uptime := by
  rw [PoolLimits.validate_eq_ok_iff]
  simp only [isBuildable, Bool.and_eq_true, bne_iff_ne, decide_eq_true_eq]
  constructor
  · rintro ⟨⟨⟨⟨⟨hroom, hidle⟩, hconnection⟩, hwait⟩, hlifetime⟩, hreached⟩
    exact ⟨⟨hroom, hidle⟩, hconnection, hwait, hlifetime, hreached⟩
  · rintro ⟨⟨hroom, hidle⟩, htimely⟩
    exact ⟨⟨⟨⟨⟨hroom, hidle⟩, htimely.connection⟩, htimely.idle⟩, htimely.lifetime⟩,
      htimely.reached⟩

theorem Engine.fillFirst_ne_panic (e : Engine) : e.fillFirst.1 ≠ .panic := by
  unfold fillFirst
  dsimp only
  split <;> nofun

theorem Engine.build_panics_iff (url : String) (limits : PoolLimits) (server : Server) :
    (Engine.build url limits server).1 = .panic ↔ limits.isBuildable server.uptime = false := by
  unfold Engine.build
  cases hbuildable : limits.isBuildable server.uptime with
  | true => simpa using Engine.fillFirst_ne_panic _
  | false => simp

namespace World

theorem connectUnchecked_fst (settings : Settings) (handle : String) (server : Server) :
    (connectUnchecked settings handle server).1 =
      (Engine.build settings.databaseUrl settings.pool server).1 := by
  unfold connectUnchecked
  split <;> next h => rw [h]

/-- A check that answers for the limits leaves their times as the only cause of a panic. -/
theorem connectChecked_panics_iff {check : Except SettingsError Unit} {settings : Settings}
    (hcheck : check = .ok () → settings.pool.validate = .ok ()) (handle : String)
    (server : Server) :
    (connectChecked check settings handle server).1 = .panic ↔
      check = .ok () ∧ ¬ settings.pool.IsTimely server.uptime := by
  cases check with
  | error e => simp [connectChecked]
  | ok u =>
    have hvalid := hcheck rfl
    rw [connectChecked, connectUnchecked_fst, Engine.build_panics_iff, ← Bool.not_eq_true,
      PoolLimits.isBuildable_iff]
    simp [hvalid]

end World

/-- Connecting panics just on settings that validation accepts although a pool cannot wait by their
times, whether all the settings are validated or the limits alone. Otherwise it succeeds or fails
with an error. -/
theorem connect_panics_iff (settings : Settings) (handle : String) (server : Server) :
    ((World.connect settings handle server).1 = .panic ↔
      settings.validate = .ok () ∧ ¬ settings.pool.IsTimely server.uptime) ∧
    ((World.connectLimits settings handle server).1 = .panic ↔
      settings.pool.validate = .ok () ∧ ¬ settings.pool.IsTimely server.uptime) :=
  ⟨World.connectChecked_panics_iff (fun h => (settings.validate_eq_ok_iff.mp h).2) handle server,
    World.connectChecked_panics_iff id handle server⟩

/-- Settings that validation accepts do not suffice to build a pool. -/
theorem not_always_built :
    ¬ ∀ (settings : Settings) (handle : String) (server : Server),
      settings.validate = .ok () → (World.connect settings handle server).1 ≠ .panic := by
  intro h
  have hbuilt := h { databaseUrl := "db", pool := { idleTimeoutSecs := 0 } } "g" {} rfl
  revert hbuilt
  decide +kernel

end TransactionGateway
