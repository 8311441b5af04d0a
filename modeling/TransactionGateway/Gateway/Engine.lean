import TransactionGateway.Database.Transaction
import TransactionGateway.Gateway.Error
import TransactionGateway.Gateway.Notice
import TransactionGateway.Gateway.Pool
import TransactionGateway.Settings.Validation
import TransactionGateway.Url.Redaction

/-! # The engine

The part of a gateway that all its clones and sessions share: the server, the pool of connections
and the notices.

* **Checkout.** It takes the topmost idle connection; when connections are tested, one that fails
  its test is destroyed and the next is tried. Without an idle connection it starts an attempt to
  establish one and waits for that or any other attempt, as long as the time allowed lasts. The last
  failure is kept until it has been reported or an attempt succeeds.
* **Return.** A returned connection becomes the topmost idle one. It is destroyed instead while a
  panic unwinds, and when its record shows an open or a broken transaction.
* **Replacement.** The pool is filled up to its least number of idle connections when it is built
  and after every step. -/

namespace TransactionGateway

open Database

/-- What the clones and sessions of a gateway share. -/
structure Engine where
  server : Server
  pool : Pool
  notices : List Notice := []
  sessions : Nat := 0
deriving DecidableEq, Repr

namespace Engine

/-- The engine with one more notice. -/
def note (n : Notice) (e : Engine) : Engine := { e with notices := e.notices ++ [n] }

/-- The engine with the notice that a gateway is shut down. -/
def noteShutDown (e : Engine) : Engine :=
  e.note (.shutDown e.pool.url e.pool.status.connections e.pool.status.idle)

/-- The engine with another stack of idle connections. -/
def withIdle (e : Engine) (idle : List Connection) : Engine :=
  { e with pool := { e.pool with idle } }

/-- The engine with another failure to report. -/
def withLastError (e : Engine) (lastError : Option String) : Engine :=
  { e with pool := { e.pool with lastError } }

/-- The engine with another pool. -/
def withPool (e : Engine) (change : Pool → Pool) : Engine := { e with pool := change e.pool }

/-- A connection destroyed: it leaves the pool, and the server is told if it ever heard of it. -/
def destroy (c : Connection) (e : Engine) : Engine :=
  let farewell : List Entry := (c.label.map fun n => [.disconnect n]).getD []
  { e with
    server := { e.server with
      journal := e.server.journal ++ farewell
      destroyed := e.server.destroyed ++ [c.serial] }
    pool := { e.pool with size := e.pool.size - 1 } }

/-- A returned connection may serve again. -/
def isReusable (unwinding : Bool) (c : Connection) : Bool := !unwinding && c.record == .idle

/-- A connection destroyed, and attempts started to establish what the pool lacks then. -/
def discard (c : Connection) (e : Engine) : Engine := (e.destroy c).withPool (·.withAttempts)

/-- A connection given back to the pool. -/
def putBack (unwinding : Bool) (c : Connection) (e : Engine) : Engine :=
  if isReusable unwinding c then e.withIdle (c :: e.pool.idle) else e.discard c

/-- An attempt made; the connection that it establishes becomes the topmost idle one. -/
def tryAttempt (a : Attempt) (e : Engine) : Bool × Engine :=
  let (outage?, outages) := meet e.server.outages
  let e := { e with server := { e.server with outages } }
  match outage? with
  | some o =>
    let again := a.again e.pool.clock (e.pool.checkoutMillis / 2)
    (false,
      { e with pool := { e.pool with
          attempts := e.pool.attempts ++ [again], lastError := some o.error.text } })
  | none =>
    let c : Connection := { serial := e.server.established }
    (true,
      { e with
        server := { e.server with established := e.server.established + 1 }
        pool := { e.pool with
          idle := c :: e.pool.idle, size := e.pool.size + 1, lastError := none } })

/-- The next attempt made that is due before a time; whether it succeeds, and `none` when there is
no such attempt. -/
def tryNext (deadline : Nat) (e : Engine) : Option (Bool × Engine) :=
  (e.pool.nextWithin? deadline).map fun (a, attempts) =>
    (e.withPool fun p => ({ p with attempts }).atTime a.due).tryAttempt a

/-- The attempts after which a wait must have come to its end: each of those under way succeeds
once, and fails as often as an outage meets it. -/
def attemptsLeft (e : Engine) : Nat := e.pool.attempts.length + e.server.outagesLeft + 1

/-- A wait for an attempt that succeeds, up to a time and for a number of attempts. -/
def awaitConnection (deadline : Nat) : (attempts : Nat) → Engine → Bool × Engine
  | 0, e => (false, e)
  | n + 1, e =>
    match e.tryNext deadline with
    | none => (false, e.withPool (·.atTime deadline))
    | some (true, e) => (true, e)
    | some (false, e) => awaitConnection deadline n e

/-- A wait for a condition on the pool, up to a time and for a number of attempts. -/
def awaitUntil (isMet : Pool → Bool) (deadline : Nat) : (attempts : Nat) → Engine → Bool × Engine
  | 0, e => (isMet e.pool, e)
  | n + 1, e =>
    if isMet e.pool then (true, e)
    else
      match e.tryNext deadline with
      | none => (false, e.withPool (·.atTime deadline))
      | some (_, e) => awaitUntil isMet deadline n e

/-- A wait for an attempt that succeeds, up to a time. -/
def awaitSuccess (deadline : Nat) (e : Engine) : Bool × Engine :=
  e.awaitConnection deadline e.attemptsLeft

/-- A wait for a condition on the pool, up to a time. -/
def awaitPool (isMet : Pool → Bool) (deadline : Nat) (e : Engine) : Bool × Engine :=
  e.awaitUntil isMet deadline e.attemptsLeft

/-- A connection tested, if the pool tests connections: its error, if it fails. -/
def test (c : Connection) (e : Engine) : Option Error × Connection × Engine :=
  if e.pool.limits.testOnCheckOut then
    let (r, l) := batch "PING" ⟨c, e.server⟩
    let e := { e with server := l.server }
    match r with
    | .err error => (some error, l.connection, e)
    | _ => (none, l.connection, e)
  else (none, c, e)

/-- The topmost idle connection that passes its test; those above it are destroyed. -/
def takeIdle : List Connection → Engine → Option Connection × Engine
  | [], e => (none, e.withIdle [])
  | c :: rest, e =>
    match ((e.withIdle rest).withPool (·.withAttempts)).test c with
    | (none, c, e) => (some c, e)
    | (some error, c, e) => takeIdle rest ((e.withLastError (some error.text)).discard c)

/-- The rounds after which a connection must have been taken: one that establishes it, and one for
every test that a fault can still strike and for the one that none strikes. -/
def roundsLeft (e : Engine) : Nat := e.server.faultsLeft + 2

/-- A connection taken up to a time, or established and taken, in a number of rounds. -/
def obtainIn (deadline : Nat) : (rounds : Nat) → Engine → Option Connection × Engine
  | 0, e => (none, e)
  | rounds + 1, e =>
    match e.takeIdle e.pool.idle with
    | (some c, e) => (some c, e)
    | (none, e) =>
      match (e.withPool (·.withAttempt)).awaitSuccess deadline with
      | (true, e) => obtainIn deadline rounds e
      | (false, e) => (none, e)

/-- A connection taken up to a time, or established and taken. -/
def obtain (deadline : Nat) (e : Engine) : Option Connection × Engine :=
  e.obtainIn deadline e.roundsLeft

/-- The report of a checkout that got no connection in time. -/
def timeoutText (e : Engine) : String :=
  "timed out waiting for connection" ++ ((e.pool.lastError.map (": " ++ ·)).getD "")

/-- A connection checked out within a time. -/
def checkoutWithin (millis : Nat) : Act Engine GatewayError Connection := fun e =>
  match e.obtain (e.pool.clock + millis) with
  | (some c, e) => (.ok c, e)
  | (none, e) => (.err (.pool e.timeoutText), e.withLastError none)

/-- A connection checked out within the time that the pool allows. -/
def checkout : Act Engine GatewayError Connection := fun e =>
  checkoutWithin e.pool.checkoutMillis e

/-- The pool once the attempts have been waited for that fill it. -/
def replenish (e : Engine) : Engine :=
  (e.awaitPool Pool.isFilled (e.pool.clock + e.pool.checkoutMillis)).2

/-- The pool of a new engine filled for the first time. -/
def fillFirst (e : Engine) : Outcome GatewayError Unit × Engine :=
  let limits := e.pool.limits
  let e := e.withPool (·.withAttempts)
  match e.awaitPool (·.size = limits.minIdle.toNat) e.pool.checkoutMillis with
  | (true, e) => (.ok (), e.note (.created e.pool.url limits.maxConnections limits.minIdle))
  | (false, e) => (.err (.pool e.timeoutText), e)

/-- An engine built on a server. -/
def build (url : String) (limits : PoolLimits) (server : Server) :
    Outcome GatewayError Unit × Engine :=
  let e : Engine := { server, pool := { limits, url := Url.redacted url } }
  if limits.isBuildable server.uptime then e.fillFirst else (.panic, e)

/-- The server probed over a connection of its own. -/
def testConnection : Act Engine GatewayError Unit := do
  let c ← checkout
  fun e =>
    let (r, l) := batch "SELECT 1" ⟨c, e.server⟩
    (r.mapError .database,
      putBack (r == Outcome.panic) l.connection { e with server := l.server })

/-- Every idle connection destroyed, the lowest of the stack first. -/
def tearDown (e : Engine) : Engine :=
  e.pool.idle.reverse.foldl (fun e c => e.destroy c) (e.withIdle [])

end Engine

end TransactionGateway
