/-! # Settings

What a gateway is built from: the connection string and the limits of its pool.

* **Limits.** Counts of connections are 32-bit words, times are whole seconds in 64-bit words. Each
  limit has a default, so settings are complete as soon as there is a connection string. -/

namespace TransactionGateway

/-- The limits of a connection pool. -/
structure PoolLimits where
  maxConnections : UInt32 := 15
  minIdle : UInt32 := 5
  connectionTimeoutSecs : UInt64 := 30
  idleTimeoutSecs : UInt64 := 600
  maxLifetimeSecs : UInt64 := 1800
  testOnCheckOut : Bool := true
deriving DecidableEq, Repr

/-- The settings of a gateway. -/
structure Settings where
  databaseUrl : String
  pool : PoolLimits := {}
deriving DecidableEq, Repr

end TransactionGateway
