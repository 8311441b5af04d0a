import TransactionGateway.Database.Connection
import TransactionGateway.Settings.Basic

/-! # Pools of connections

What a pool knows: its limits, its idle connections, the attempts to establish more, and the time.

* **Idle connections** form a stack, the topmost first.
* **Attempts.** A connection is established by an attempt, which keeps the place of its connection
  until it succeeds (`hasRoom`). One that fails is made again after a delay, twice the one before,
  from 400 milliseconds up to half of the time allowed for a checkout. Attempts go on whether or not
  anyone waits for them.
* **Time** passes only while something waits: up to the next attempt that is due before the end of
  the wait (`nextWithin?`), or else to that end.
* **Panics.** A pool without room for a connection, with less room than idle connections to keep,
  with a time of zero, or with a checkout time beyond the reach of the clock, cannot be built. -/

namespace TransactionGateway

open Database

/-- An attempt to establish a connection: when it is due, and how long it has been put off; in
milliseconds. -/
structure Attempt where
  due : Nat
  delay : Nat := 0
deriving DecidableEq, Repr

/-- A pool of connections. -/
structure Pool where
  limits : PoolLimits
  url : String
  idle : List Connection := []
  size : Nat := 0
  attempts : List Attempt := []
  clock : Nat := 0
  lastError : Option String := none
deriving DecidableEq, Repr

/-- Counts of a pool's connections. -/
structure PoolStatus where
  connections : Nat
  idle : Nat
  max : Nat
deriving DecidableEq, Repr

/-- The last second that a clock can show. -/
def lastSecond : Nat := 0x7FFFFFFFFFFFFFFF

/-- A pool with these limits can be built by a clock that has been running for some seconds. -/
def PoolLimits.isBuildable (uptime : Nat) (limits : PoolLimits) : Bool :=
  limits.maxConnections != 0 && limits.minIdle ≤ limits.maxConnections
    && limits.connectionTimeoutSecs != 0 && limits.idleTimeoutSecs != 0
    && limits.maxLifetimeSecs != 0
    && uptime + limits.connectionTimeoutSecs.toNat ≤ lastSecond

/-- The attempt after one that has failed at some time, put off no longer than the longest delay. -/
def Attempt.again (now longest : Nat) (a : Attempt) : Attempt :=
  let delay := min longest (2 * max 200 a.delay)
  { due := now + delay, delay }

namespace Pool

/-- The counts of the pool. -/
def status (p : Pool) : PoolStatus := ⟨p.size, p.idle.length, p.limits.maxConnections.toNat⟩

/-- The time allowed for a checkout, in milliseconds. -/
def checkoutMillis (p : Pool) : Nat := p.limits.connectionTimeoutSecs.toNat * 1000

/-- There is room for one more connection besides those being established. -/
def hasRoom (p : Pool) : Bool := p.size + p.attempts.length < p.limits.maxConnections.toNat

/-- The pool with one more attempt, due at once, if there is room. -/
def withAttempt (p : Pool) : Pool :=
  if p.hasRoom then { p with attempts := p.attempts ++ [{ due := p.clock }] } else p

/-- The idle connections that the pool lacks. -/
def lack (p : Pool) : Nat := p.limits.minIdle.toNat - p.idle.length

/-- The pool with an attempt for each idle connection that it lacks, as long as there is room. -/
def withAttempts (p : Pool) : Pool := p.lack.repeat withAttempt p

/-- The pool lacks no idle connection, or has no room for it. -/
def isFilled (p : Pool) : Bool := p.lack = 0 || p.limits.maxConnections.toNat ≤ p.size

/-- The attempt that is due first, before a time or already, and the others. -/
def nextWithin? (deadline : Nat) (p : Pool) : Option (Attempt × List Attempt) := do
  let first ← p.attempts.foldl
    (fun (best : Option Attempt) a =>
      match best with
      | some b => if b.due ≤ a.due then some b else some a
      | none => some a) none
  if first.due < deadline || first.due ≤ p.clock then some (first, p.attempts.erase first)
  else none

/-- The pool at a time, unless it is later there. -/
def atTime (time : Nat) (p : Pool) : Pool := { p with clock := max p.clock time }

theorem length_attempts_withAttempt (p : Pool) (h : p.hasRoom = true) :
    p.withAttempt.attempts.length = p.attempts.length + 1 := by
  simp [withAttempt, h]

theorem withAttempt_of_full (p : Pool) (h : p.hasRoom = false) : p.withAttempt = p := by
  simp [withAttempt, h]

end Pool

end TransactionGateway
