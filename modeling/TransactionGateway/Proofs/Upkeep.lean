import TransactionGateway.Gateway.Run
import TransactionGateway.Proofs.Actions
import TransactionGateway.Proofs.Sending

/-! # The upkeep of a pool

What taking a connection out of the pool, filling the pool up and tearing it down leave alone.

* **Upkeep** (`Engine.Upkeep e e'`). The committed rows stay as they are, an empty plan of faults
  stays empty, and a tidy pool stays tidy.
* **Tidy pools** (`Engine.Tidy`). No idle connection has an open transaction, neither on the server
  nor in the client's record. So no connection that a tidy pool hands out has one
  (`clean_of_checkoutWithin`).
* **Waiting** (`Engine.Waiting`). What every attempt respects, and the passing of time, is respected
  by all waiting.
* **Checkouts** (`Engine.HandsOut`). What every step of a checkout keeps of the engine, and of the
  connection that it takes, holds at its end.
* **Tests.** A connection whose test is struck by a fault is destroyed and not handed out, so what
  faults do to a test cannot be seen afterwards. -/

namespace TransactionGateway

open Database Act

/-- No transaction is open on the connection, neither on the server nor in the client's record. -/
def Database.Connection.IsClean (c : Connection) : Prop := c.record = .idle ∧ c.work = none

namespace Engine

/-- Every idle connection is clean. -/
def Tidy (e : Engine) : Prop := ∀ c ∈ e.pool.idle, c.IsClean

/-- What the upkeep of the pool leaves alone. -/
structure Upkeep (e e' : Engine) : Prop where
  rows : e'.server.rows = e.server.rows
  isLenient : e'.server.isLenient = e.server.isLenient
  faults : e.server.faults = [] → e'.server.faults = []
  history : e.server.history <+: e'.server.history
  tidy : e.Tidy → e'.Tidy

instance : IsPreorder Engine Upkeep where
  refl _ := ⟨rfl, rfl, id, List.prefix_rfl, id⟩
  trans _ _ _ h h' := ⟨h'.rows.trans h.rows, h'.isLenient.trans h.isLenient, h'.faults ∘ h.faults,
    h.history.trans h'.history, h'.tidy ∘ h.tidy⟩

variable {e e' : Engine} {c : Connection}

/-- A change of the pool that leaves no connection idle that was not idle before. -/
theorem upkeep_withPool (change : Pool → Pool)
    (h : ∀ c ∈ (change e.pool).idle, c ∈ e.pool.idle) : Upkeep e (e.withPool change) :=
  ⟨rfl, rfl, id, List.prefix_rfl, fun he c hc => he c (h c hc)⟩

theorem upkeep_note (n : Notice) : Upkeep e (e.note n) := ⟨rfl, rfl, id, List.prefix_rfl, id⟩

/-! ### Attempts -/

theorem idle_withAttempt (p : Pool) : p.withAttempt.idle = p.idle := by
  unfold Pool.withAttempt
  split <;> rfl

theorem idle_withAttempts (p : Pool) : p.withAttempts.idle = p.idle := by
  have h (n : Nat) : (n.repeat Pool.withAttempt p).idle = p.idle := by
    induction n with
    | zero => rfl
    | succ n ih => rw [Nat.repeat, idle_withAttempt, ih]
  exact h p.lack

/-- An attempt adds at most a new connection to the idle ones. -/
theorem upkeep_tryAttempt (a : Attempt) : Upkeep e (e.tryAttempt a).2 := by
  unfold tryAttempt
  cases meet e.server.outages with
  | mk outage? outages =>
      cases outage? with
      | some o => exact ⟨rfl, rfl, id, List.prefix_rfl, id⟩
      | none =>
          refine ⟨rfl, rfl, id, List.prefix_rfl, fun he c hc => ?_⟩
          rcases List.mem_cons.mp hc with rfl | hc
          · exact ⟨rfl, rfl⟩
          · exact he c hc

theorem upkeep_tryNext {deadline : Nat} {r : Bool} (h : e.tryNext deadline = some (r, e')) :
    Upkeep e e' := by
  unfold tryNext at h
  obtain ⟨⟨a, attempts⟩, -, h⟩ := Option.map_eq_some_iff.mp h
  have ht := upkeep_tryAttempt
    (e := e.withPool fun p => ({ p with attempts } : Pool).atTime a.due) a
  rw [show tryAttempt a _ = (r, e') from h] at ht
  exact trans_of Upkeep (upkeep_withPool _ fun c hc => hc) ht

/-- Attempts that are started and made, and time that passes, all respect the relation. -/
structure Waiting (R : Engine → Engine → Prop) : Prop where
  started : ∀ e, R e (e.withPool (·.withAttempt))
  made : ∀ {e deadline r e'}, e.tryNext deadline = some (r, e') → R e e'
  passed : ∀ time e, R e (e.withPool (·.atTime time))

namespace Waiting

variable {R : Engine → Engine → Prop} [IsPreorder Engine R]

theorem withAttempts (h : Waiting R) (e : Engine) : R e (e.withPool (·.withAttempts)) := by
  have hrepeat (n : Nat) : R e (e.withPool (n.repeat Pool.withAttempt)) := by
    induction n with
    | zero => exact refl_of R e
    | succ n ih => exact trans_of R ih (h.started _)
  exact hrepeat e.pool.lack

theorem awaitConnection (h : Waiting R) (deadline n : Nat) (e : Engine) :
    R e (e.awaitConnection deadline n).2 := by
  induction n generalizing e with
  | zero => exact refl_of R e
  | succ n ih =>
      unfold Engine.awaitConnection
      cases hnext : e.tryNext deadline with
      | none => exact h.passed deadline e
      | some p =>
          obtain ⟨r, e'⟩ := p
          cases r with
          | true => exact h.made hnext
          | false => exact trans_of R (h.made hnext) (ih e')

theorem awaitUntil (h : Waiting R) (isMet : Pool → Bool) (deadline n : Nat) (e : Engine) :
    R e (e.awaitUntil isMet deadline n).2 := by
  induction n generalizing e with
  | zero => exact refl_of R e
  | succ n ih =>
      unfold Engine.awaitUntil
      split
      · exact refl_of R e
      · cases hnext : e.tryNext deadline with
        | none => exact h.passed deadline e
        | some p => exact trans_of R (h.made hnext) (ih p.2)

theorem awaitSuccess (h : Waiting R) (deadline : Nat) (e : Engine) :
    R e (e.awaitSuccess deadline).2 := h.awaitConnection deadline _ e

theorem awaitPool (h : Waiting R) (isMet : Pool → Bool) (deadline : Nat) (e : Engine) :
    R e (e.awaitPool isMet deadline).2 := h.awaitUntil isMet deadline _ e

/-- One more attempt started and waited for. -/
theorem waited (h : Waiting R) (deadline : Nat) (e : Engine) :
    R e ((e.withPool (·.withAttempt)).awaitSuccess deadline).2 :=
  trans_of R (h.started e) (h.awaitSuccess deadline _)

/-- The first filling waits, and leaves a notice when it succeeds. -/
theorem fillFirst (h : Waiting R) (hnote : ∀ n e, R e (e.note n)) (e : Engine) :
    R e e.fillFirst.2 := by
  have hw := trans_of R (h.withAttempts e)
    (h.awaitPool (·.size = e.pool.limits.minIdle.toNat)
      (e.withPool (·.withAttempts)).pool.checkoutMillis (e.withPool (·.withAttempts)))
  unfold Engine.fillFirst
  dsimp only
  split
  · next ha =>
      rw [ha] at hw
      exact trans_of R hw (hnote _ _)
  · next ha =>
      rw [ha] at hw
      exact hw

end Waiting

theorem waiting_upkeep : Waiting Upkeep where
  started _ := upkeep_withPool _ fun c hc => by rwa [idle_withAttempt] at hc
  made := upkeep_tryNext
  passed _ _ := upkeep_withPool _ fun c hc => hc

theorem upkeep_replenish : Upkeep e e.replenish := waiting_upkeep.awaitPool _ _ e

/-! ### Destruction and return -/

theorem upkeep_destroy (c : Connection) : Upkeep e (e.destroy c) :=
  ⟨rfl, rfl, id, List.prefix_rfl, id⟩

theorem upkeep_discard (c : Connection) : Upkeep e (e.discard c) :=
  trans_of Upkeep (upkeep_destroy c) (waiting_upkeep.withAttempts _)

/-- A returned connection is idle afterwards only when its record is. -/
theorem upkeep_putBack (unwinding : Bool) (h : c.record = .idle → c.work = none) :
    Upkeep e (e.putBack unwinding c) := by
  unfold putBack
  split
  · next hr =>
      refine ⟨rfl, rfl, id, List.prefix_rfl, fun he d hd => ?_⟩
      have hi : c.record = .idle := by
        simp only [isReusable, Bool.and_eq_true, beq_iff_eq] at hr
        exact hr.2
      rcases List.mem_cons.mp hd with rfl | hd
      · exact ⟨hi, h hi⟩
      · exact he d hd
  · exact upkeep_discard c

theorem upkeep_tearDown : Upkeep e e.tearDown := by
  have h (cs : List Connection) : ∀ e : Engine, Upkeep e (cs.foldl (fun e c => e.destroy c) e) := by
    induction cs with
    | nil => exact fun e => refl_of Upkeep e
    | cons c cs ih => exact fun e => trans_of Upkeep (upkeep_destroy c) (ih _)
  have hnil : Upkeep e (e.withIdle []) :=
    ⟨rfl, rfl, id, List.prefix_rfl, fun _ _ hc => nomatch hc⟩
  exact trans_of Upkeep hnil (h _ _)

theorem idle_tearDown (e : Engine) : e.tearDown.pool.idle = [] := by
  have hdestroy (cs : List Connection) (e : Engine) :
      (cs.foldl (fun e c => e.destroy c) e).pool.idle = e.pool.idle := by
    induction cs generalizing e with
    | nil => rfl
    | cons c cs ih => exact ih (e.destroy c)
  exact hdestroy _ _

/-! ### A new engine -/

theorem upkeep_build (url : String) (limits : PoolLimits) (server : Server) :
    Upkeep { server, pool := { limits, url := Url.redacted url } } (build url limits server).2 := by
  unfold build
  split
  · exact waiting_upkeep.fillFirst (fun n _ => upkeep_note n) _
  · exact refl_of Upkeep _

/-! ### Checkout -/

theorem pool_test {error? : Option Error} {c' : Connection} (h : e.test c = (error?, c', e')) :
    e'.pool = e.pool := by
  unfold test at h
  split at h
  · cases hbatch : batch "PING" ⟨c, e.server⟩ with
    | mk r l =>
        rw [hbatch] at h
        cases r <;> cases h <;> rfl
  · cases h
    rfl

/-- What holds of an engine all through a checkout, and of a connection together with the engine
that hands it out. -/
structure HandsOut (P : Engine → Prop) (H : Connection → Engine → Prop) : Prop where
  taken : ∀ {e c rest}, P e → e.pool.idle = c :: rest →
    H c ((e.withIdle rest).withPool (·.withAttempts))
  passed : ∀ {e c c' e'}, H c e → e.test c = (none, c', e') → H c' e'
  failed : ∀ {e c error c' e'}, H c e → e.test c = (some error, c', e') →
    P ((e'.withLastError (some error.text)).discard c')
  waited : ∀ {e} deadline, P e → P ((e.withPool (·.withAttempt)).awaitSuccess deadline).2
  inVain : ∀ {e}, P e → P (e.withLastError none)

namespace HandsOut

variable {P : Engine → Prop} {H : Connection → Engine → Prop}

/-- Along the stack: the connections that fail their test go, the first that passes is handed
out. -/
theorem takeIdle (h : HandsOut P H) {idle : List Connection} (he : P e)
    (hidle : e.pool.idle = idle) :
    match e.takeIdle idle with
    | (some c, e') => H c e'
    | (none, e') => P e' := by
  -- For every engine: a failed test has changed it before the rest of the stack is searched.
  induction idle generalizing e with
  | nil =>
      have hnil : e.withIdle [] = e := by rw [withIdle, ← hidle]
      rw [Engine.takeIdle, hnil]
      exact he
  | cons c rest ih =>
      have htaken := h.taken he hidle
      unfold Engine.takeIdle
      cases ht : ((e.withIdle rest).withPool (·.withAttempts)).test c with
      | mk error? p =>
          obtain ⟨c', e'⟩ := p
          cases error? with
          | none => exact h.passed htaken ht
          | some error =>
              have hrest : e'.pool.idle = rest := by
                rw [pool_test ht]
                exact idle_withAttempts _
              exact ih (h.failed htaken ht) ((idle_withAttempts _).trans hrest)

theorem obtainIn (h : HandsOut P H) (deadline rounds : Nat) (he : P e) :
    match e.obtainIn deadline rounds with
    | (some c, e') => H c e'
    | (none, e') => P e' := by
  induction rounds generalizing e with
  | zero => exact he
  | succ rounds ih =>
      have htake := h.takeIdle he rfl
      unfold Engine.obtainIn
      cases ht : e.takeIdle e.pool.idle with
      | mk c? e₁ =>
          rw [ht] at htake
          cases c? with
          | some c => exact htake
          | none =>
              have hwait := h.waited deadline htake
              dsimp only
              cases haw : (e₁.withPool (·.withAttempt)).awaitSuccess deadline with
              | mk r e₂ =>
                  rw [haw] at hwait
                  cases r with
                  | true => exact ih hwait
                  | false => exact hwait

theorem checkoutWithin (h : HandsOut P H) (millis : Nat) (he : P e) :
    match Engine.checkoutWithin millis e with
    | (.ok c, e') => H c e'
    | (_, e') => P e' := by
  have hobtain := h.obtainIn (e.pool.clock + millis) e.roundsLeft he
  unfold Engine.checkoutWithin Engine.obtain
  cases ho : e.obtainIn (e.pool.clock + millis) e.roundsLeft with
  | mk c? e₁ =>
      rw [ho] at hobtain
      cases c? with
      | some c => exact hobtain
      | none => exact h.inVain hobtain

theorem connection {millis : Nat} (h : HandsOut P H) (he : P e)
    (hc : Engine.checkoutWithin millis e = (.ok c, e')) : H c e' := by
  have hcheckout := h.checkoutWithin millis he
  rw [hc] at hcheckout
  exact hcheckout

/-- What holds of the engine together with a connection handed out may be more than what holds of
it otherwise. -/
theorem engine (h : HandsOut P H) (hout : ∀ {c e}, H c e → P e) (millis : Nat) (he : P e) :
    P (Engine.checkoutWithin millis e).2 := by
  have hcheckout := h.checkoutWithin millis he
  cases hc : Engine.checkoutWithin millis e with
  | mk r e' =>
      rw [hc] at hcheckout
      cases r with
      | ok c => exact hout hcheckout
      | err cause => exact hcheckout
      | panic => exact hcheckout

end HandsOut

/-- A test leaves the rows alone, and a connection that passes it as it was. -/
theorem upkeep_test {error? : Option Error} {c' : Connection} (h : e.test c = (error?, c', e')) :
    Upkeep e e' ∧ (error? = none → c'.record = c.record ∧ c'.work = c.work) := by
  unfold test at h
  split at h
  · rw [batch_ping] at h
    have hs := sent_perform "PING" ⟨c, e.server⟩
    have hrows := @perform_rows "PING" ⟨c, e.server⟩ (by decide) (.inl (by decide))
    have hpanic := @perform_ne_panic "PING" (by decide) ⟨c, e.server⟩
    cases hp : perform "PING" ⟨c, e.server⟩ with
    | mk r l =>
        rw [hp] at hs hrows hpanic h
        have hu : Upkeep e { e with server := l.server } :=
          ⟨hrows, hs.isLenient, fun hf => by rw [hs.faults, hf]; rfl, hs.history, id⟩
        cases r with
        | panic => exact absurd rfl hpanic
        | err error =>
            cases h
            exact ⟨hu, nofun⟩
        | ok a =>
            cases h
            refine ⟨hu, fun _ => ?_⟩
            have hl : (Link.received "PING" ⟨c, e.server⟩) = l :=
              congrArg Prod.snd (perform_ok hp)
            rw [← hl]
            exact ⟨Link.received_record _ _, Link.received_work _ _⟩
  · cases h
    exact ⟨refl_of Upkeep e, fun _ => ⟨rfl, rfl⟩⟩

/-- Through a checkout there is upkeep, and a tidy pool hands out clean connections only. -/
theorem handsOut_upkeep (e₀ : Engine) :
    HandsOut (Upkeep e₀) fun c e => Upkeep e₀ e ∧ (e₀.Tidy → c.IsClean) where
  taken {e c rest} h hidle := by
    have hrest : Upkeep e (e.withIdle rest) :=
      ⟨rfl, rfl, id, List.prefix_rfl, fun he d hd => he d (hidle ▸ List.mem_cons_of_mem c hd)⟩
    exact ⟨trans_of Upkeep h (trans_of Upkeep hrest (waiting_upkeep.withAttempts _)),
      fun he₀ => h.tidy he₀ c (hidle ▸ List.mem_cons_self)⟩
  passed h htest := by
    obtain ⟨hupkeep, hsame⟩ := upkeep_test htest
    refine ⟨trans_of Upkeep h.1 hupkeep, fun he₀ => ?_⟩
    have hclean := h.2 he₀
    exact ⟨(hsame rfl).1.trans hclean.1, (hsame rfl).2.trans hclean.2⟩
  failed h htest := by
    obtain ⟨hupkeep, -⟩ := upkeep_test htest
    refine trans_of Upkeep (trans_of Upkeep h.1 hupkeep) (trans_of Upkeep ?_ (upkeep_discard _))
    exact ⟨rfl, rfl, id, List.prefix_rfl, id⟩
  waited deadline h := trans_of Upkeep h (waiting_upkeep.waited deadline _)
  inVain {e} h := by
    have hforgotten : Upkeep e (e.withLastError none) := ⟨rfl, rfl, id, List.prefix_rfl, id⟩
    exact trans_of Upkeep h hforgotten

theorem upkeep_checkoutWithin (millis : Nat) : Moves Upkeep (checkoutWithin millis) :=
  fun e => (handsOut_upkeep e).engine (·.1) millis (refl_of Upkeep e)

/-- A tidy pool hands out clean connections only. -/
theorem clean_of_checkoutWithin {millis : Nat} (he : e.Tidy)
    (h : checkoutWithin millis e = (.ok c, e')) : c.IsClean :=
  ((handsOut_upkeep e).connection (refl_of Upkeep e) h).2 he

/-! ### Opening a session -/

theorem upkeep_openOn (c : Connection) : Moves Upkeep (Session.openOn c) :=
  fun _ => ⟨rfl, rfl, id, List.prefix_rfl, id⟩

theorem upkeep_openSession : Moves Upkeep openSession :=
  moves_bind (fun e => upkeep_checkoutWithin _ e) upkeep_openOn

theorem upkeep_open (millis : Nat) : Moves Upkeep (checkoutWithin millis >>= Session.openOn) :=
  moves_bind (upkeep_checkoutWithin millis) upkeep_openOn

end Engine

/-- The session is outside any transaction, by its flag and on both sides of its connection. -/
def Session.IsOutside (s : Session) : Prop :=
  s.inTransaction = false ∧ ∃ c, s.connection = some c ∧ c.IsClean

namespace Engine

/-- A session opened from a tidy pool starts outside any transaction. -/
theorem outside_of_open {e e' : Engine} {millis : Nat} {s : Session} (he : e.Tidy)
    (h : (checkoutWithin millis >>= Session.openOn : Act Engine GatewayError Session) e =
      (.ok s, e')) : s.IsOutside := by
  rw [bind_apply] at h
  split at h
  · next c e₁ hc =>
      cases h
      exact ⟨rfl, c, rfl, clean_of_checkoutWithin he hc⟩
  · cases h
  · cases h

theorem checkout_eq (e : Engine) : checkout e = checkoutWithin e.pool.checkoutMillis e := rfl

theorem openSession_eq (e : Engine) : openSession e =
    (checkoutWithin e.pool.checkoutMillis >>= Session.openOn :
      Act Engine GatewayError Session) e := by
  unfold openSession
  rw [bind_apply, bind_apply, checkout_eq]

end Engine

/-- Every source opens a session on a connection checked out within some time. -/
theorem open_of_source (source : Source) (e : Engine) :
    ∃ millis, (source.checkout >>= Session.openOn : Act Engine GatewayError Session) e =
      (Engine.checkoutWithin millis >>= Session.openOn : Act Engine GatewayError Session) e := by
  have h : ∃ millis, source.checkout e = Engine.checkoutWithin millis e := by
    cases source with
    | plain => exact ⟨_, rfl⟩
    | guard => exact ⟨_, rfl⟩
    | timed millis => exact ⟨millis, rfl⟩
  obtain ⟨millis, h⟩ := h
  refine ⟨millis, ?_⟩
  rw [bind_apply, bind_apply, h]

section connected
variable {check : Except SettingsError Unit} {settings : Settings} {handle : String}
  {server : Server} {w : World}

/-- A gateway that has been connected has a new engine and a single handle. -/
theorem World.eq_of_connected
    (h : World.connectChecked check settings handle server = (.ok (), w)) :
    w = { engine := (Engine.build settings.databaseUrl settings.pool server).2,
          handles := [handle] } := by
  cases check with
  | error e => cases h
  | ok u =>
      simp only [World.connectChecked, World.connectUnchecked] at h
      cases hb : Engine.build settings.databaseUrl settings.pool server with
      | mk r e =>
          rw [hb] at h
          cases r with
          | ok a => cases h; rfl
          | err e => cases h
          | panic => cases h

/-- The engine comes out of the upkeep of a new one. -/
theorem World.connected (h : World.connectChecked check settings handle server = (.ok (), w)) :
    w.handles = [handle] ∧ w.kept = [] ∧ Engine.Upkeep
      { server, pool := { limits := settings.pool, url := Url.redacted settings.databaseUrl } }
      w.engine := by
  rw [World.eq_of_connected h]
  exact ⟨rfl, rfl, Engine.upkeep_build settings.databaseUrl settings.pool server⟩

end connected

end TransactionGateway
