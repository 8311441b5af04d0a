import TransactionGateway.Proofs.Histories
import TransactionGateway.Proofs.Traffic

/-! # No transaction leaks

In every run with a proper history, no connection comes back to the pool inside a transaction.

* **Invariant.** Every idle connection is clean, and the record of every connection that a session
  holds is true. A connection comes back only with a record that shows no transaction, and then
  none is open.
* **Steps.** The calls of a session sustain the invariant for the session and its engine
  (`sustained_calls`), and so does every change of the traffic on an engine, for all the sessions in
  use (`Traffic.sustained_change`). -/

namespace TransactionGateway

open Database Act

/-- The record of the session's connection is true. -/
def Session.IsTrue (s : Session) : Prop := ∀ c, s.connection = some c → c.IsTrue

theorem Session.IsOutside.isTrue {s : Session} (h : s.IsOutside) : s.IsTrue := by
  obtain ⟨-, c, hc, hclean⟩ := h
  intro c' hc' _
  obtain rfl : c = c' := Option.some.inj (hc.symm.trans hc')
  exact hclean.2

/-- Tidiness of the pool is sustained. -/
def Engine.Sustained : Engine → Engine → Prop := Sustains (·.server.history) Engine.Tidy

theorem Engine.Upkeep.sustained {e e' : Engine} (h : e.Upkeep e') : e.Sustained e' :=
  ⟨h.history, fun _ => h.tidy⟩

namespace Attached

/-- The truth of the session's record is sustained together with the tidiness of the pool. -/
def Sustained : Attached → Attached → Prop :=
  Sustains (·.engine.server.history) fun a => a.session.IsTrue ∧ a.engine.Tidy

instance : IsPreorder Attached Sustained :=
  inferInstanceAs (IsPreorder Attached
    (Sustains (·.engine.server.history) fun a => a.session.IsTrue ∧ a.engine.Tidy))

end Attached

/-! ### Calls of a session -/

theorem Engine.history_putBack (unwinding : Bool) (c : Connection) (e : Engine) :
    (e.putBack unwinding c).server.history = e.server.history := by
  unfold putBack
  split <;> rfl

namespace Session

theorem steady_sustained : Steady Attached.Sustained :=
  ⟨fun _ _ => ⟨List.prefix_rfl, fun _ h => h⟩, fun _ _ => ⟨List.prefix_rfl, fun _ h => h⟩⟩

theorem sustained_onConnection {work : Act Link Database.Error Unit}
    (h : Moves Link.Sustained work) : Moves Attached.Sustained (onConnection work) := by
  intro a
  cases hc : a.session.connection with
  | none =>
      rw [onConnection_of_closed work hc]
      exact refl_of Attached.Sustained a
  | some c =>
      have hw := h ⟨c, a.engine.server⟩
      rw [onConnection_of_open work hc]
      refine ⟨hw.grows, fun hp ⟨hs, he⟩ => ⟨?_, he⟩⟩
      rintro c' hc'
      obtain rfl : _ = c' := Option.some.inj hc'
      exact hw.sustains hp (hs c hc)

theorem sustained_rollback : Moves Attached.Sustained rollback :=
  steady_sustained.moves_rollback (sustained_onConnection Transaction.sustained_rollback)

theorem sustained_giveBack (unwinding : Bool) (a : Attached) :
    a.Sustained (giveBack unwinding a) := by
  unfold giveBack
  split
  · exact refl_of Attached.Sustained a
  · next c hc =>
      have hgrows : a.engine.server.history <+:
          (a.engine.putBack unwinding c).server.history := by
        rw [Engine.history_putBack]
      refine ⟨hgrows, fun _ ⟨hs, he⟩ => ⟨nofun, ?_⟩⟩
      exact (Engine.upkeep_putBack unwinding (hs c hc)).tidy he

theorem sustained_close (unwinding : Bool) : Moves Attached.Sustained (close unwinding) :=
  steady_sustained.moves_close sustained_rollback sustained_giveBack unwinding

theorem sustained_letGo (unwinding : Bool) (failed : String → SessionEvent) (a : Attached) :
    a.Sustained (letGo unwinding failed a) :=
  steady_sustained.letGo (sustained_close unwinding) failed a

/-- Everything that a caller can do with a session. -/
theorem sustained_calls : Respected Attached.Sustained where
  begin := steady_sustained.moves_begin (sustained_onConnection Transaction.sustained_begin)
  commit := steady_sustained.moves_commit (sustained_onConnection Transaction.sustained_commit)
  rollback := sustained_rollback
  close := sustained_close false
  execute sql := sustained_onConnection (Link.sustained_plainBatch sql)
  direct call := sustained_onConnection (Transaction.sustained_call call)
  note := steady_sustained.notice

end Session

/-! ### The engine -/

namespace Engine

/-- A probe sends no `BEGIN`, so that it is no matter what becomes of its connection. -/
theorem sustained_testConnection : Moves Engine.Sustained testConnection := by
  intro e
  have hu := upkeep_checkoutWithin e.pool.checkoutMillis e
  refine rel_bind hu.sustained fun c e₁ hc => ?_
  rw [show checkoutWithin e.pool.checkoutMillis e = (.ok c, e₁) from hc] at hu
  have hprobe : Link.Sustained ⟨c, e₁.server⟩ (batch "SELECT 1" ⟨c, e₁.server⟩).2 :=
    Link.sustained_performAll fun _ => by decide
  revert hprobe
  obtain ⟨r, l⟩ := batch "SELECT 1" ⟨c, e₁.server⟩
  intro hprobe
  have hgrows := hu.history.trans hprobe.grows
  refine ⟨?_, fun hp he => ?_⟩
  · rw [history_putBack]
    exact hgrows
  · rw [history_putBack] at hp
    have hc' : l.connection.IsTrue :=
      hprobe.sustains hp fun _ => (clean_of_checkoutWithin he hc).2
    exact (upkeep_putBack _ hc').tidy (hu.tidy he)

end Engine

/-! ### Runs -/

namespace Traffic

/-- Tidiness of the pool and the truth of all records are sustained. -/
def Sustained : Traffic → Traffic → Prop :=
  Sustains (·.engine.server.history) fun t => t.engine.Tidy ∧ ∀ s ∈ t.sessions, s.IsTrue

instance : IsPreorder Traffic Sustained :=
  inferInstanceAs (IsPreorder Traffic
    (Sustains (·.engine.server.history) fun t => t.engine.Tidy ∧ ∀ s ∈ t.sessions, s.IsTrue))

variable {t t' : Traffic}

theorem sustained_engine {e e' : Engine} (h : e.Sustained e') (ss : Multiset Session) :
    Sustained ⟨e, ss⟩ ⟨e', ss⟩ :=
  ⟨h.grows, fun hp ht => ⟨h.sustains hp ht.1, ht.2⟩⟩

theorem sustained_use (hu : Use t t') : t.Sustained t' := by
  cases hu with
  | @opened millis e s e' ss ho =>
      have hopen := Engine.upkeep_open millis e
      rw [ho] at hopen
      -- The invariant says nothing of the new session: its record is true because it has come
      -- out of a tidy pool.
      refine ⟨hopen.history, fun _ ht => ⟨hopen.tidy ht.1, fun s' hs' => ?_⟩⟩
      obtain rfl | hs' := Multiset.mem_cons.mp hs'
      · exact (Engine.outside_of_open ht.1 ho).isTrue
      · exact ht.2 s' hs'
  | @notOpened millis e r e' ss ho _ =>
      have hopen := Engine.upkeep_open millis e
      rw [ho] at hopen
      exact sustained_engine hopen.sustained ss
  | worked op a ss =>
      have hworked := Operation.moves_run Session.sustained_calls op a
      refine ⟨hworked.grows, fun hp ht => ?_⟩
      obtain ⟨hsession, hothers⟩ := Multiset.forall_mem_cons.mp ht.2
      obtain ⟨hsession', htidy⟩ := hworked.sustains hp ⟨hsession, ht.1⟩
      exact ⟨htidy, Multiset.forall_mem_cons.mpr ⟨hsession', hothers⟩⟩
  | droppedAt unwinding failed a ss =>
      have hdropped := Session.sustained_letGo unwinding failed a
      refine ⟨hdropped.grows, fun hp ht => ?_⟩
      obtain ⟨hsession, hothers⟩ := Multiset.forall_mem_cons.mp ht.2
      exact ⟨(hdropped.sustains hp ⟨hsession, ht.1⟩).2, hothers⟩
  | probed e ss => exact sustained_engine (Engine.sustained_testConnection e) ss
  | noted n e ss => exact ⟨List.prefix_rfl, fun _ ht => ht⟩
  | replenished e ss => exact sustained_engine Engine.upkeep_replenish.sustained ss

theorem sustained_change (hc : Change t t') : t.Sustained t' := by
  cases hc with
  | used hu => exact sustained_use hu
  | @tornDown e ss hs => exact sustained_engine Engine.upkeep_tearDown.sustained ss

theorem sustained_reaches (hr : t.Reaches t') : t.Sustained t' :=
  hr.keeps (P := t.Sustained) (fun hc ht => trans_of Sustained ht (sustained_change hc))
    (refl_of Sustained t)

end Traffic

/-- After every run of a gateway that has been connected, if the history is proper: every idle
connection is outside any transaction, by the client's record and on the server, and so is every
session that is opened then. -/
theorem no_transaction_leaks {check : Except SettingsError Unit} {settings : Settings}
    {handle : String} {server : Server} {w₀ w : World} {steps : List Step} {answers : List Answer}
    (hconnect : World.connectChecked check settings handle server = (.ok (), w₀))
    (hrun : World.run steps w₀ = (answers, w)) (hproper : Proper w.engine.server.history) :
    (∀ c ∈ w.engine.pool.idle, c.record = .idle ∧ c.work = none) ∧
      ∀ (source : Source) (s : Session) (e : Engine),
        (source.checkout >>= Session.openOn : Act Engine GatewayError Session) w.engine =
          (.ok s, e) → s.IsOutside := by
  obtain ⟨-, hkept, hu⟩ := World.connected hconnect
  have htidy₀ : w₀.engine.Tidy := hu.tidy fun _ hc => nomatch hc
  have hnone : ∀ s ∈ w₀.sessions, s.IsTrue := by
    rw [World.sessions, hkept]
    nofun
  have hreaches := (World.reaches_run (World.isNamed_connected hconnect) steps).1
  rw [hrun] at hreaches
  have htidy : w.engine.Tidy :=
    ((Traffic.sustained_reaches hreaches).sustains hproper ⟨htidy₀, hnone⟩).1
  refine ⟨htidy, fun source s e hopen => ?_⟩
  obtain ⟨millis, hm⟩ := open_of_source source w.engine
  rw [hm] at hopen
  exact Engine.outside_of_open htidy hopen

/-- A server that loses the transaction at the first rollback, whereupon the record is cleared. -/
def Database.Server.lossy : Server where
  faults :=
    [{ statement := "ROLLBACK", schedule := {}, mode := .lost, change := .cleared,
       error := .unknown "lost" }]

/-- A gateway on the lossy server. -/
def World.lossy : World :=
  (World.connectChecked (.ok ()) { databaseUrl := "db", pool := { minIdle := 1 } } "g" .lossy).2

/-- A session whose text ends the transaction and begins another, whose rollback fails, and a scope
that panics below two levels. -/
def lossySteps : List Step :=
  [.openSession "g" "a" .plain, .call "a" .begin, .call "a" (.sql "PUT x; COMMIT; BEGIN"),
    .call "a" .rollback, .drop "a", .scope "g" [.begin, .direct .begin, .crash]]

theorem lossy_no_leaks :
    World.connectChecked (.ok ()) { databaseUrl := "db", pool := { minIdle := 1 } } "g" .lossy =
      (.ok (), World.lossy) ∧
    Proper (World.run lossySteps World.lossy).2.engine.server.history ∧
    (∀ c ∈ (World.run lossySteps World.lossy).2.engine.pool.idle,
      c.record = .idle ∧ c.work = none) ∧
    ∀ (source : Source) (s : Session) (e : Engine),
      (source.checkout >>= Session.openOn : Act Engine GatewayError Session)
        (World.run lossySteps World.lossy).2.engine = (.ok s, e) → s.IsOutside := by
  have hconnect : World.connectChecked (.ok ())
      { databaseUrl := "db", pool := { minIdle := 1 } } "g" .lossy = (.ok (), World.lossy) := by
    decide +kernel
  have hproper : Proper (World.run lossySteps World.lossy).2.engine.server.history := by
    decide +kernel
  exact ⟨hconnect, hproper, no_transaction_leaks hconnect (Prod.eta _).symm hproper⟩

end TransactionGateway
