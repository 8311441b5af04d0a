import TransactionGateway.Proofs.SingleTransaction
import TransactionGateway.Proofs.Traffic

/-! # What a pool hands out

The connections on which sessions are opened, in every run of a gateway.

* **Offers** (`Engine.Offers`). No idle connection of a pool shows a transaction in its record: a
  new one does not, and one that does so when it is returned is destroyed. It does not matter what
  the faults have done to the record meanwhile, nor whether it is right.
* **Opened sessions** (`isIdle_of_run`). So a session is in no transaction when it is opened,
  neither by its flag nor by the record, whatever other sessions have done before, even past their
  transaction calls. From then on it has at most one at a time (`atMostOne_of_run`). -/

namespace TransactionGateway

open Database Act

namespace Engine

/-- No idle connection shows a transaction in its record. -/
def Offers (e : Engine) : Prop := ∀ c ∈ e.pool.idle, c.record = .idle

/-- This is kept. -/
def KeepsOffers (e e' : Engine) : Prop := e.Offers → e'.Offers

instance : IsPreorder Engine KeepsOffers where
  refl _ := id
  trans _ _ _ h h' := h' ∘ h

variable {e e' : Engine} {c : Connection}

/-- No connection is idle that was not idle before. -/
theorem offers_of_subset (h : ∀ c ∈ e'.pool.idle, c ∈ e.pool.idle) : e.KeepsOffers e' :=
  fun he c hc => he c (h c hc)

theorem offers_cons (hc : c.record = .idle) (h : e'.pool.idle = c :: e.pool.idle) :
    e.KeepsOffers e' := by
  intro he d hd
  rw [h] at hd
  rcases List.mem_cons.mp hd with rfl | hd
  · exact hc
  · exact he d hd

/-! ### Upkeep -/

theorem offers_tryAttempt (a : Attempt) : e.KeepsOffers (e.tryAttempt a).2 := by
  unfold tryAttempt
  cases meet e.server.outages with
  | mk outage? outages =>
      cases outage? with
      | some o => exact offers_of_subset fun c hc => hc
      | none => exact offers_cons (c := { serial := e.server.established }) rfl rfl

theorem waiting_offers : Waiting KeepsOffers where
  started e := offers_of_subset fun c hc => (idle_withAttempt e.pool) ▸ hc
  made {e _ _ _} h := by
    unfold tryNext at h
    obtain ⟨⟨a, attempts⟩, -, h⟩ := Option.map_eq_some_iff.mp h
    have ht := offers_tryAttempt
      (e := e.withPool fun p => ({ p with attempts } : Pool).atTime a.due) a
    rwa [show tryAttempt a _ = _ from h] at ht
  passed _ _ := offers_of_subset fun c hc => hc

theorem offers_discard (c : Connection) : e.KeepsOffers (e.discard c) :=
  waiting_offers.withAttempts (e.destroy c)

/-- A connection is returned to the idle ones only when its record shows no transaction. -/
theorem offers_putBack (unwinding : Bool) (c : Connection) :
    e.KeepsOffers (e.putBack unwinding c) := by
  unfold putBack
  split
  · next hr =>
      simp only [isReusable, Bool.and_eq_true, beq_iff_eq] at hr
      exact offers_cons hr.2 rfl
  · exact offers_discard c

theorem offers_build (url : String) (limits : PoolLimits) (server : Server) :
    (build url limits server).2.Offers := by
  unfold build
  split
  · exact waiting_offers.fillFirst (fun _ _ => id) _ nofun
  · exact nofun

/-! ### Checkout -/

theorem handsOut_offers : HandsOut Offers fun c e => e.Offers ∧ c.record = .idle where
  taken {_ c _} h hidle :=
    ⟨waiting_offers.withAttempts _ fun d hd => h d (hidle ▸ List.mem_cons_of_mem c hd),
      h c (hidle ▸ List.mem_cons_self)⟩
  passed h htest :=
    ⟨offers_of_subset (fun _ hd => pool_test htest ▸ hd) h.1,
      ((upkeep_test htest).2 rfl).1.trans h.2⟩
  failed h htest :=
    offers_discard _ (offers_of_subset (fun _ hd => pool_test htest ▸ hd) h.1)
  waited deadline h := waiting_offers.waited deadline _ h
  inVain h := h

theorem offers_checkoutWithin (millis : Nat) : Moves KeepsOffers (checkoutWithin millis) :=
  fun _ he => handsOut_offers.engine (·.1) millis he

theorem offers_testConnection : Moves KeepsOffers testConnection := by
  intro e he
  have hcheckout := offers_checkoutWithin e.pool.checkoutMillis e he
  refine rel_bind (R := KeepsOffers) (fun _ => hcheckout) (fun c e₁ hc _ => ?_) he
  rw [show checkoutWithin e.pool.checkoutMillis e = (.ok c, e₁) from hc] at hcheckout
  exact offers_putBack _ _ hcheckout

/-- A session that is opened from such a pool is in no transaction. -/
theorem isIdle_of_open {millis : Nat} {s : Session} (he : e.Offers)
    (h : (checkoutWithin millis >>= Session.openOn : Act Engine GatewayError Session) e =
      (.ok s, e')) : (Attached.mk s e').IsIdle ∧ e'.Offers := by
  rw [bind_apply] at h
  split at h
  · next c e₁ hc =>
      obtain ⟨hoffers, hrecord⟩ := handsOut_offers.connection he hc
      refine ⟨Session.isIdle_openOn hrecord h, ?_⟩
      cases h
      exact hoffers
  · cases h
  · cases h

end Engine

/-! ### Sessions at work -/

/-- Whatever the session does, the pool goes on to offer idle records only. -/
def Attached.KeepsOffers (a a' : Attached) : Prop := a.engine.KeepsOffers a'.engine

instance : IsPreorder Attached Attached.KeepsOffers where
  refl _ := id
  trans _ _ _ h h' := h' ∘ h

namespace Session

theorem offers_of_pool {a a' : Attached} (h : a.SamePool a') : a.KeepsOffers a' :=
  Engine.offers_of_subset fun _ hc => (show a'.engine.pool = a.engine.pool from h) ▸ hc

theorem steady_offers : Steady Attached.KeepsOffers where
  flag _ a := refl_of Engine.KeepsOffers a.engine
  notice _ a := refl_of Engine.KeepsOffers a.engine

theorem offers_giveBack (unwinding : Bool) (a : Attached) :
    a.KeepsOffers (giveBack unwinding a) := by
  unfold giveBack
  split
  · exact refl_of Attached.KeepsOffers a
  · exact Engine.offers_putBack unwinding _

theorem offers_close (unwinding : Bool) : Moves Attached.KeepsOffers (close unwinding) :=
  steady_offers.moves_close (fun a => offers_of_pool (pool_rollback a)) offers_giveBack unwinding

theorem offers_calls : Respected Attached.KeepsOffers where
  begin a := offers_of_pool (pool_begin a)
  commit a := offers_of_pool (pool_commit a)
  rollback a := offers_of_pool (pool_rollback a)
  close := offers_close false
  execute _ a := offers_of_pool (pool_onConnection _ a)
  direct _ a := offers_of_pool (pool_onConnection _ a)
  note := steady_offers.notice

end Session

/-! ### Runs -/

namespace Traffic

variable {t t' : Traffic}

theorem offers_use (hu : Use t t') (h : t.engine.Offers) : t'.engine.Offers := by
  cases hu with
  | opened ss ho => exact (Engine.isIdle_of_open h ho).2
  | @notOpened millis e r e' ss ho hr =>
      have hcheckout := Engine.offers_checkoutWithin millis e h
      rw [bind_apply] at ho
      split at ho
      · next c e₁ hc => cases ho; exact absurd rfl (hr _)
      · next hc => rw [hc] at hcheckout; cases ho; exact hcheckout
      · next hc => rw [hc] at hcheckout; cases ho; exact hcheckout
  | worked op a ss => exact Operation.moves_run Session.offers_calls op a h
  | droppedAt unwinding failed a ss =>
      exact Session.steady_offers.letGo (Session.offers_close unwinding) failed a h
  | probed e ss => exact Engine.offers_testConnection e h
  | noted n e ss => exact h
  | replenished e ss => exact Engine.waiting_offers.awaitPool _ _ e h

theorem offers_change (hc : Change t t') (h : t.engine.Offers) : t'.engine.Offers := by
  cases hc with
  | used hu => exact offers_use hu h
  | tornDown e hs =>
      intro c hc
      rw [Engine.idle_tearDown] at hc
      cases hc

theorem offers_reaches (hr : t.Reaches t') (h : t.engine.Offers) : t'.engine.Offers :=
  hr.keeps offers_change h

end Traffic

/-- In every state of a gateway in use, after a step or amidst it, whatever faults strike and
whatever panics: a session that is opened is in no transaction, neither by its flag nor by the
record of its connection. -/
theorem isIdle_of_run {check : Except SettingsError Unit} {settings : Settings} {handle : String}
    {server : Server} {w : World} {steps : List Step} {t : Traffic} {millis : Nat} {s : Session}
    {e' : Engine} (hconnect : World.connectChecked check settings handle server = (.ok (), w))
    (hreaches : (World.run steps w).2.traffic.Reaches t)
    (hopen : (Engine.checkoutWithin millis >>= Session.openOn : Act Engine GatewayError Session)
      t.engine = (.ok s, e')) : (Attached.mk s e').IsIdle := by
  have hoffers : w.engine.Offers := by
    rw [World.eq_of_connected hconnect]
    exact Engine.offers_build _ _ _
  have hnamed := World.isNamed_connected hconnect
  have hrun := Traffic.offers_reaches (World.reaches_run hnamed steps).1 hoffers
  exact (Engine.isIdle_of_open (Traffic.offers_reaches hreaches hrun) hopen).1

/-- So every session of a gateway has at most one transaction all its life, as long as nobody calls
its connection's transaction interface past it: what it is opened on is in none. -/
theorem atMostOne_of_run {check : Except SettingsError Unit} {settings : Settings} {handle : String}
    {server : Server} {w : World} {steps : List Step} {t : Traffic} {millis : Nat} {s : Session}
    {e' : Engine} {a : Attached}
    (hconnect : World.connectChecked check settings handle server = (.ok (), w))
    (hreaches : (World.run steps w).2.traffic.Reaches t)
    (hopen : (Engine.checkoutWithin millis >>= Session.openOn : Act Engine GatewayError Session)
      t.engine = (.ok s, e'))
    (hlife : (Attached.mk s e').Reaches False a) : a.AtMostOne := by
  have hidle := isIdle_of_run hconnect hreaches hopen
  exact (Session.lasting_isSingle.reaches hlife (Session.isSingle_of_isIdle hidle)).atMostOne

end TransactionGateway
