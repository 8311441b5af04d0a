import Mathlib.Data.Multiset.Range
import TransactionGateway.Proofs.Books
import TransactionGateway.Proofs.Sessions
import TransactionGateway.Proofs.Upkeep

/-! # Accounts of connections

Where the connections of a pool are, told by their serials.

* **Places** (`Engine.Accounted held e`). The connections that somebody holds, those idle in the
  pool and those destroyed are together all that were ever established, each of them once. The size
  of the pool counts the held and the idle ones, and stays below its limit even when every attempt
  to connect succeeds.
* **Pool.** A checkout moves a connection from the idle ones to the held ones; one that is given
  back or destroyed moves out of them. Nothing else moves an old connection.
* **Sessions** (`Attached.Accounted`). A session holds the connection that it works on, under one
  serial throughout, until it is closed. However often it is closed, the connection goes back once
  (`Closing.returned_runAll`). -/

namespace TransactionGateway

open Database Act

/-- The serials of connections. -/
def serials (cs : List Connection) : Multiset Nat := (cs.map (·.serial) : List Nat)

@[simp] theorem serials_nil : serials [] = 0 := rfl

@[simp] theorem serials_cons (c : Connection) (cs : List Connection) :
    serials (c :: cs) = c.serial ::ₘ serials cs := rfl

@[simp] theorem serials_reverse (cs : List Connection) : serials cs.reverse = serials cs := by
  rw [serials, List.map_reverse, Multiset.coe_reverse]
  rfl

@[simp] theorem card_serials (cs : List Connection) : (serials cs).card = cs.length := by
  rw [serials, Multiset.coe_card, List.length_map]

namespace Engine

/-- The serials of the connections that nobody holds: those idle in the pool, and those
destroyed. -/
def returned (e : Engine) : Multiset Nat :=
  serials e.pool.idle + (e.server.destroyed : Multiset Nat)

/-- Every connection ever established is held, idle or destroyed, and the pool has counted it. -/
structure Accounted (held : Multiset Nat) (e : Engine) : Prop where
  places : e.returned + held = Multiset.range e.server.established
  size : e.pool.size = e.pool.idle.length + held.card
  room : e.pool.size + e.pool.attempts.length ≤ e.pool.limits.maxConnections.toNat

variable {e e' : Engine} {c : Connection} {held : Multiset Nat}

/-- A change of the pool that moves no connection and starts no attempt without room for it. -/
theorem Accounted.withPool (h : e.Accounted held) {change : Pool → Pool}
    (hidle : (change e.pool).idle = e.pool.idle) (hsize : (change e.pool).size = e.pool.size)
    (hroom : (change e.pool).size + (change e.pool).attempts.length ≤
      (change e.pool).limits.maxConnections.toNat) : (e.withPool change).Accounted held := by
  refine ⟨?_, ?_, hroom⟩
  · show (serials (change e.pool).idle + _) + held = _
    rw [hidle]
    exact h.places
  · show (change e.pool).size = (change e.pool).idle.length + _
    rw [hsize, hidle]
    exact h.size

/-! ### Attempts -/

/-- An attempt needs room, so that the pool stays below its limit when the attempt succeeds. -/
theorem withAttempt_frame (p : Pool) :
    p.withAttempt.size = p.size ∧ p.withAttempt.limits = p.limits ∧
      (p.size + p.attempts.length ≤ p.limits.maxConnections.toNat →
        p.size + p.withAttempt.attempts.length ≤ p.limits.maxConnections.toNat) := by
  unfold Pool.withAttempt
  split
  · next hroom =>
      simp only [Pool.hasRoom, decide_eq_true_eq] at hroom
      refine ⟨rfl, rfl, fun _ => ?_⟩
      rw [List.length_append, List.length_singleton]
      omega
  · exact ⟨rfl, rfl, id⟩

theorem accounted_withAttempt (h : e.Accounted held) :
    (e.withPool (·.withAttempt)).Accounted held := by
  obtain ⟨hsize, hlimits, hroom⟩ := withAttempt_frame e.pool
  exact h.withPool (idle_withAttempt _) hsize (by rw [hsize, hlimits]; exact hroom h.room)

/-- The search for the earliest attempt ends at a member of the list, or where it began. -/
theorem mem_of_foldl_earliest (as : List Attempt) (best : Option Attempt) {x : Attempt} :
    as.foldl (fun (best : Option Attempt) a =>
      match best with
      | some b => if b.due ≤ a.due then some b else some a
      | none => some a) best = some x → x ∈ as ∨ best = some x := by
  induction as generalizing best with
  | nil => exact .inr
  | cons a as ih =>
      intro hx
      rcases ih _ hx with hx | hx
      · exact .inl (List.mem_cons_of_mem a hx)
      · cases best with
        | none => cases hx; exact .inl List.mem_cons_self
        | some b =>
            dsimp only at hx
            split at hx
            · exact .inr hx
            · cases hx; exact .inl List.mem_cons_self

/-- The attempt that is made next is one of those waiting. -/
theorem length_of_nextWithin? {p : Pool} {deadline : Nat} {a : Attempt} {rest : List Attempt}
    (h : p.nextWithin? deadline = some (a, rest)) : rest.length + 1 = p.attempts.length := by
  simp only [Pool.nextWithin?, Option.bind_eq_bind, Option.bind_eq_some_iff] at h
  obtain ⟨first, hfirst, h⟩ := h
  split at h
  · cases h
    have ha : a ∈ p.attempts :=
      (mem_of_foldl_earliest p.attempts none hfirst).resolve_right (by simp)
    have hpos := List.length_pos_of_mem ha
    rw [List.length_erase_of_mem ha]
    omega
  · cases h

/-- An attempt that has been taken off the list: there is room for its connection. -/
theorem accounted_tryAttempt (a : Attempt) (h : e.Accounted held)
    (hroom : e.pool.size + e.pool.attempts.length < e.pool.limits.maxConnections.toNat) :
    (e.tryAttempt a).2.Accounted held := by
  unfold tryAttempt
  cases meet e.server.outages with
  | mk outage? outages =>
      cases outage? with
      | some o =>
          refine ⟨h.places, h.size, ?_⟩
          show e.pool.size + (e.pool.attempts ++ [_]).length ≤
            e.pool.limits.maxConnections.toNat
          rw [List.length_append, List.length_singleton]
          omega
      | none =>
          refine ⟨?_, ?_, ?_⟩
          · show ((e.server.established ::ₘ serials e.pool.idle) + _) + held =
              Multiset.range (e.server.established + 1)
            rw [Multiset.range_succ, ← h.places, Multiset.cons_add, Multiset.cons_add]
            rfl
          · show e.pool.size + 1 = (_ :: e.pool.idle).length + held.card
            rw [h.size, List.length_cons]
            omega
          · show e.pool.size + 1 + e.pool.attempts.length ≤ e.pool.limits.maxConnections.toNat
            omega

theorem accounted_tryNext {deadline : Nat} {r : Bool} (h : e.Accounted held)
    (hnext : e.tryNext deadline = some (r, e')) : e'.Accounted held := by
  unfold tryNext at hnext
  obtain ⟨⟨a, rest⟩, hfirst, hnext⟩ := Option.map_eq_some_iff.mp hnext
  have hroom : e.pool.size + rest.length < e.pool.limits.maxConnections.toNat := by
    have hlength := length_of_nextWithin? hfirst
    have hroom := h.room
    omega
  have htaken : (e.withPool fun p => ({ p with attempts := rest } : Pool).atTime a.due).Accounted
      held := h.withPool rfl rfl (Nat.le_of_lt hroom)
  have htry := accounted_tryAttempt a htaken hroom
  rw [show tryAttempt a _ = (r, e') from hnext] at htry
  exact htry

theorem accounted_atTime (h : e.Accounted held) (time : Nat) :
    (e.withPool (·.atTime time)).Accounted held := h.withPool rfl rfl h.room

/-- The accounts stay in order, whoever holds connections. -/
def KeepsAccounts (e e' : Engine) : Prop := ∀ held, e.Accounted held → e'.Accounted held

instance : IsPreorder Engine KeepsAccounts where
  refl _ := fun _ h => h
  trans _ _ _ h h' := fun held he => h' held (h held he)

theorem waiting_accounts : Waiting KeepsAccounts where
  started _ _ := accounted_withAttempt
  made hnext _ h := accounted_tryNext h hnext
  passed time _ _ h := accounted_atTime h time

theorem accounted_withAttempts (h : e.Accounted held) :
    (e.withPool (·.withAttempts)).Accounted held := waiting_accounts.withAttempts e held h

theorem accounted_replenish (h : e.Accounted held) : e.replenish.Accounted held :=
  waiting_accounts.awaitPool _ _ e held h

/-! ### Destruction and return -/

/-- A connection destroyed is no longer held. -/
theorem accounted_destroy (h : e.Accounted (c.serial ::ₘ held)) :
    (e.destroy c).Accounted held := by
  have hsize := h.size
  have hroom := h.room
  rw [Multiset.card_cons] at hsize
  refine ⟨?_, ?_, ?_⟩
  · show (serials e.pool.idle + ((e.server.destroyed ++ [c.serial] : List Nat) : Multiset Nat))
      + held = _
    rw [← Multiset.coe_add, Multiset.coe_singleton, ← Multiset.add_assoc, Multiset.add_assoc,
      Multiset.singleton_add]
    exact h.places
  · show e.pool.size - 1 = e.pool.idle.length + held.card
    omega
  · show e.pool.size - 1 + e.pool.attempts.length ≤ e.pool.limits.maxConnections.toNat
    omega

theorem accounted_discard (h : e.Accounted (c.serial ::ₘ held)) : (e.discard c).Accounted held :=
  accounted_withAttempts (accounted_destroy h)

/-- A connection on top of the idle ones is no longer held. -/
theorem accounted_withIdle_cons (h : e.Accounted (c.serial ::ₘ held)) :
    (e.withIdle (c :: e.pool.idle)).Accounted held := by
  have hplaces := h.places
  have hsize := h.size
  rw [Multiset.add_cons] at hplaces
  rw [Multiset.card_cons] at hsize
  refine ⟨?_, ?_, h.room⟩
  · show (serials (c :: e.pool.idle) + _) + held = _
    rw [serials_cons, Multiset.cons_add, Multiset.cons_add]
    exact hplaces
  · show e.pool.size = (c :: e.pool.idle).length + held.card
    rw [List.length_cons]
    omega

/-- The topmost idle connection taken is held. -/
theorem accounted_withIdle_tail {rest : List Connection} (h : e.Accounted held)
    (hidle : e.pool.idle = c :: rest) : (e.withIdle rest).Accounted (c.serial ::ₘ held) := by
  have hplaces := h.places
  have hsize := h.size
  rw [returned, hidle, serials_cons, Multiset.cons_add, Multiset.cons_add] at hplaces
  rw [hidle, List.length_cons] at hsize
  refine ⟨?_, ?_, h.room⟩
  · rw [Multiset.add_cons]
    exact hplaces
  · show e.pool.size = rest.length + _
    rw [Multiset.card_cons]
    omega

theorem accounted_putBack (unwinding : Bool) (h : e.Accounted (c.serial ::ₘ held)) :
    (e.putBack unwinding c).Accounted held := by
  unfold putBack
  split
  · exact accounted_withIdle_cons h
  · exact accounted_discard h

theorem accounted_tearDown (h : e.Accounted held) : e.tearDown.Accounted held := by
  -- The stack is emptied first; the connections taken off it are held until their turn comes.
  have hdestroy (cs : List Connection) : ∀ e : Engine, e.Accounted (serials cs + held) →
      (cs.foldl (fun e c => e.destroy c) e).Accounted held := by
    induction cs with
    | nil => exact fun e he => by rwa [serials_nil, Multiset.zero_add] at he
    | cons c cs ih =>
        intro e he
        rw [serials_cons, Multiset.cons_add] at he
        exact ih _ (accounted_destroy he)
  refine hdestroy e.pool.idle.reverse (e.withIdle []) ⟨?_, ?_, h.room⟩
  · show (serials [] + (e.server.destroyed : Multiset Nat)) + _ = _
    rw [serials_nil, Multiset.zero_add, serials_reverse, ← Multiset.add_assoc,
      Multiset.add_comm (e.server.destroyed : Multiset Nat)]
    exact h.places
  · show e.pool.size = 0 + _
    rw [Multiset.card_add, card_serials, List.length_reverse, Nat.zero_add]
    exact h.size

/-! ### Checkout -/

/-- What a server counts is all that the accounts see of it. -/
theorem Accounted.withServer {server : Server} {c' : Connection}
    (h : e.Accounted (c.serial ::ₘ held)) (hb : Link.SameBooks ⟨c, e.server⟩ ⟨c', server⟩) :
    ({ e with server } : Engine).Accounted (c'.serial ::ₘ held) := by
  obtain ⟨hserial, hestablished, hdestroyed⟩ := hb
  refine ⟨?_, ?_, h.room⟩
  · show (serials e.pool.idle + (server.destroyed : Multiset Nat)) + _ =
      Multiset.range server.established
    rw [hdestroyed, hestablished, hserial]
    exact h.places
  · rw [hserial]
    exact h.size

/-- A connection is held while it is tested. -/
theorem accounted_test {error? : Option Error} {c' : Connection}
    (h : e.Accounted (c.serial ::ₘ held)) (htest : e.test c = (error?, c', e')) :
    e'.Accounted (c'.serial ::ₘ held) := by
  have hb := Link.routine_sameBooks.batch "PING" ⟨c, e.server⟩
  unfold test at htest
  split at htest
  · cases hbatch : batch "PING" ⟨c, e.server⟩ with
    | mk r l =>
        rw [hbatch] at hb htest
        cases r <;> cases htest <;> exact h.withServer hb
  · cases htest
    exact h

/-- The connections that fail their test are destroyed; the one that is checked out is held by
whoever has asked for it. -/
theorem handsOut_accounts (held : Multiset Nat) :
    HandsOut (Accounted held) fun c => Accounted (c.serial ::ₘ held) where
  taken h hidle := accounted_withAttempts (accounted_withIdle_tail h hidle)
  passed h htest := accounted_test h htest
  failed h htest := by
    have htested := accounted_test h htest
    exact accounted_discard ⟨htested.places, htested.size, htested.room⟩
  waited deadline h := waiting_accounts.waited deadline _ held h
  inVain h := ⟨h.places, h.size, h.room⟩

/-- A probe gives the connection back that it has checked out. -/
theorem accounted_testConnection (h : e.Accounted held) :
    (testConnection e).2.Accounted held := by
  have hc := (handsOut_accounts held).checkoutWithin e.pool.checkoutMillis h
  cases hcheckout : checkoutWithin e.pool.checkoutMillis e with
  | mk r e₁ =>
      rw [hcheckout] at hc
      cases r with
      | ok c =>
          rw [show testConnection e = _ from bind_of_ok hcheckout]
          have hbooks := Link.routine_sameBooks.batch "SELECT 1" ⟨c, e₁.server⟩
          exact accounted_putBack _ (hc.withServer hbooks)
      | err error =>
          rw [show testConnection e = _ from bind_of_err hcheckout]
          exact hc
      | panic =>
          rw [show testConnection e = _ from bind_of_panic hcheckout]
          exact hc

/-! ### A new engine -/

/-- A server whose connections have all been destroyed: nobody holds one of a new engine's. -/
theorem accounted_build (url : String) (limits : PoolLimits) {server : Server}
    (hserver : (server.destroyed : Multiset Nat) = Multiset.range server.established) :
    (build url limits server).2.Accounted 0 := by
  have hnew : Accounted 0 { server, pool := { limits, url := Url.redacted url } } := by
    refine ⟨?_, rfl, Nat.zero_le _⟩
    show (serials [] + (server.destroyed : Multiset Nat)) + 0 = _
    rw [serials_nil, Multiset.zero_add, Multiset.add_zero]
    exact hserver
  unfold build
  split
  · exact waiting_accounts.fillFirst (fun _ _ _ h => ⟨h.places, h.size, h.room⟩) _ _ hnew
  · exact hnew

end Engine

/-! ### Sessions -/

/-- The serial of the connection that the session holds. -/
def Session.held (s : Session) : Multiset Nat := serials s.connection.toList

/-- The accounts are in order when, besides others, the session holds its connection. -/
def Attached.Accounted (held : Multiset Nat) (a : Attached) : Prop :=
  a.engine.Accounted (a.session.held + held)

/-- The accounts stay in order, whatever others hold. -/
def Attached.KeepsAccounts (a a' : Attached) : Prop :=
  ∀ held, a.Accounted held → a'.Accounted held

instance : IsPreorder Attached Attached.KeepsAccounts where
  refl _ := fun _ h => h
  trans _ _ _ h h' := fun held ha => h' held (h held ha)

namespace Session

theorem held_of_some {s : Session} {c : Connection} (h : s.connection = some c) :
    s.held = {c.serial} := by
  rw [held, h]
  rfl

theorem held_of_none {s : Session} (h : s.connection = none) : s.held = 0 := by
  rw [held, h]
  rfl

theorem steady_accounts : Steady Attached.KeepsAccounts :=
  ⟨fun _ _ _ h => h, fun _ _ _ h => ⟨h.places, h.size, h.room⟩⟩

theorem accounts_onConnection {α : Type} {work : Act Link Database.Error α}
    (h : Moves Link.SameBooks work) : Moves Attached.KeepsAccounts (onConnection work) := by
  intro a held ha
  cases hc : a.session.connection with
  | none =>
      rw [onConnection_of_closed work hc]
      exact ha
  | some c =>
      rw [onConnection_of_open work hc]
      unfold Attached.Accounted at ha ⊢
      rw [held_of_some hc, Multiset.singleton_add] at ha
      rw [held_of_some rfl, Multiset.singleton_add]
      exact ha.withServer (h ⟨c, a.engine.server⟩)

theorem accounts_rollback : Moves Attached.KeepsAccounts rollback :=
  steady_accounts.moves_rollback (accounts_onConnection Link.routine_sameBooks.rollback)

theorem accounts_giveBack (unwinding : Bool) (a : Attached) :
    a.KeepsAccounts (giveBack unwinding a) := by
  intro held ha
  unfold giveBack
  split
  · exact ha
  · next c hc =>
      unfold Attached.Accounted at ha ⊢
      rw [held_of_some hc, Multiset.singleton_add] at ha
      rw [held_of_none rfl, Multiset.zero_add]
      exact Engine.accounted_putBack unwinding ha

theorem accounts_close (unwinding : Bool) : Moves Attached.KeepsAccounts (close unwinding) :=
  steady_accounts.moves_close accounts_rollback accounts_giveBack unwinding

theorem accounts_letGo (unwinding : Bool) (failed : String → SessionEvent) (a : Attached) :
    a.KeepsAccounts (letGo unwinding failed a) :=
  steady_accounts.letGo (accounts_close unwinding) failed a

/-- Everything that a caller can do with a session. -/
theorem accounts_calls : Respected Attached.KeepsAccounts where
  begin := steady_accounts.moves_begin (accounts_onConnection Link.routine_sameBooks.begin)
  commit := steady_accounts.moves_commit (accounts_onConnection Link.routine_sameBooks.commit)
  rollback := accounts_rollback
  close := accounts_close false
  execute sql := accounts_onConnection (Link.routine_sameBooks.plainBatch sql)
  direct call := accounts_onConnection (Link.routine_sameBooks.call call)
  note := steady_accounts.notice

end Session

/-! ### Giving back once -/

/-- Nobody but the session holds the connection, and it is the same as before. -/
structure Attached.SameReturns (a a' : Attached) : Prop where
  held : a'.session.held = a.session.held
  returned : a'.engine.returned = a.engine.returned

instance : IsPreorder Attached Attached.SameReturns where
  refl _ := ⟨rfl, rfl⟩
  trans _ _ _ h h' := ⟨h'.held.trans h.held, h'.returned.trans h.returned⟩

/-- The ways in which a session is closed: by a call, or by letting go of it. -/
inductive Closing where
  | call (unwinding : Bool)
  | letGo (unwinding : Bool) (failed : String → SessionEvent)

/-- The session closed in some way. -/
def Closing.run : Closing → Attached → Attached
  | call unwinding, a => (Session.close unwinding a).2
  | letGo unwinding failed, a => Session.letGo unwinding failed a

/-- The session closed in several ways, one after another. -/
def Closing.runAll (closings : List Closing) (a : Attached) : Attached :=
  closings.foldl (fun a closing => closing.run a) a

namespace Session

theorem sameReturns_rollback : Moves Attached.SameReturns rollback := by
  have hsteady : Steady Attached.SameReturns := ⟨fun _ _ => ⟨rfl, rfl⟩, fun _ _ => ⟨rfl, rfl⟩⟩
  refine hsteady.moves_rollback fun a => ?_
  cases hc : a.session.connection with
  | none =>
      rw [onConnection_of_closed _ hc]
      exact refl_of Attached.SameReturns a
  | some c =>
      obtain ⟨hserial, -, hdestroyed⟩ := Link.routine_sameBooks.rollback ⟨c, a.engine.server⟩
      rw [onConnection_of_open _ hc]
      refine ⟨?_, ?_⟩
      · rw [held_of_some hc, held_of_some rfl]
        exact congrArg _ hserial
      · exact congrArg (serials a.engine.pool.idle + ((·) : List Nat → Multiset Nat) ·) hdestroyed

theorem returned_putBack (unwinding : Bool) (c : Connection) (e : Engine) :
    (e.putBack unwinding c).returned = c.serial ::ₘ e.returned := by
  unfold Engine.putBack
  split
  · show serials (c :: e.pool.idle) + _ = _
    rw [serials_cons, Multiset.cons_add]
    rfl
  · show serials ((e.destroy c).pool.withAttempts).idle +
      ((e.server.destroyed ++ [c.serial] : List Nat) : Multiset Nat) = _
    rw [Engine.idle_withAttempts, ← Multiset.coe_add, ← Multiset.add_assoc, Multiset.coe_singleton,
      Multiset.add_comm, Multiset.singleton_add]
    rfl

theorem returned_giveBack (unwinding : Bool) (a : Attached) :
    (giveBack unwinding a).engine.returned = a.session.held + a.engine.returned := by
  unfold giveBack
  split
  · next hc => rw [held_of_none hc, Multiset.zero_add]
  · next c hc =>
      rw [held_of_some hc, Multiset.singleton_add]
      exact returned_putBack unwinding c a.engine

/-- Whether or not the rollback succeeds that closing begins with. -/
theorem returned_close (unwinding : Bool) (a : Attached) :
    (close unwinding a).2.engine.returned = a.session.held + a.engine.returned := by
  cases hc : a.session.connection with
  | none => rw [close_of_closed hc, held_of_none hc, Multiset.zero_add]
  | some c =>
      have hrolled : a.SameReturns
          (if a.session.inTransaction then rollback a else (.ok (), a)).2 := by
        split
        · exact sameReturns_rollback a
        · exact refl_of Attached.SameReturns a
      have hopen : a.session.isClosed = false := by rw [isClosed, hc]; rfl
      rw [← hrolled.held, ← hrolled.returned, ← returned_giveBack unwinding, close, hopen]
      rfl

theorem returned_letGo (unwinding : Bool) (failed : String → SessionEvent) (a : Attached) :
    (letGo unwinding failed a).engine.returned = a.session.held + a.engine.returned := by
  rw [← returned_close unwinding a]
  unfold letGo
  cases close unwinding a with
  | mk r a' => cases r <;> rfl

end Session

namespace Closing

theorem closed_run (closing : Closing) (a : Attached) :
    (closing.run a).session.connection = none := by
  cases closing with
  | call unwinding => exact Session.closed_of_close unwinding a
  | letGo unwinding failed => exact Session.closed_of_letGo unwinding failed a

theorem returned_run (closing : Closing) (a : Attached) :
    (closing.run a).engine.returned = a.session.held + a.engine.returned := by
  cases closing with
  | call unwinding => exact Session.returned_close unwinding a
  | letGo unwinding failed => exact Session.returned_letGo unwinding failed a

theorem runAll_of_closed {a : Attached} (h : a.session.connection = none)
    (closings : List Closing) : runAll closings a = a := by
  have hrun (closing : Closing) : closing.run a = a := by
    cases closing with
    | call unwinding => exact congrArg Prod.snd (Session.close_of_closed h unwinding)
    | letGo unwinding failed => exact Session.letGo_of_closed h unwinding failed
  induction closings with
  | nil => rfl
  | cons closing closings ih => rw [runAll, List.foldl_cons, hrun, ← runAll, ih]

/-- The first closing gives the connection back, and the others find nothing to give back. -/
theorem returned_runAll {closings : List Closing} (h : closings ≠ []) (a : Attached) :
    (runAll closings a).session.connection = none ∧
      (runAll closings a).engine.returned = a.session.held + a.engine.returned := by
  cases closings with
  | nil => exact absurd rfl h
  | cons closing closings =>
      rw [runAll, List.foldl_cons, ← runAll, runAll_of_closed (closing.closed_run a)]
      exact ⟨closing.closed_run a, closing.returned_run a⟩

end Closing

end TransactionGateway
