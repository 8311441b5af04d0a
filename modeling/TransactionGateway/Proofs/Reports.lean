import TransactionGateway.Proofs.Names
import TransactionGateway.Proofs.Parallels

/-! # Reports are not read

What a gateway has reported so far makes no difference to what it does.

* **Pool.** Taking a connection out of the pool and filling it up do the same with any notices
  before them, and add none (`Engine.reporting`).
* **Work** (`Engine.Alike`). From engines that differ in their notices alone, sessions and scopes do
  the same, and lead to engines that differ in their notices alone.
* **Steps** (`World.alike_take`). So do the steps of two gateways in use, as long as the handles
  that they need are there in both. -/

namespace TransactionGateway

open Database Act

namespace Engine

variable {ε α : Type} {e e' : Engine}

/-- The engine with other notices. -/
def reporting (notices : List Notice) (e : Engine) : Engine := { e with notices }

/-! ### The pool -/

section pool
variable (notices : List Notice) (e : Engine)

theorem tryNext_reporting (deadline : Nat) : (e.reporting notices).tryNext deadline =
    (e.tryNext deadline).map fun (r, e) => (r, e.reporting notices) := by
  have htried (a : Attempt) (e : Engine) : (e.reporting notices).tryAttempt a =
      ((e.tryAttempt a).1, (e.tryAttempt a).2.reporting notices) := by
    unfold tryAttempt
    rw [show (e.reporting notices).server.outages = e.server.outages from rfl]
    cases meet e.server.outages with
    | mk outage? outages => cases outage? <;> rfl
  unfold tryNext
  rw [Option.map_map]
  congr 1
  funext ⟨a, attempts⟩
  exact htried a (e.withPool fun p => ({ p with attempts } : Pool).atTime a.due)

theorem awaitConnection_reporting (deadline n : Nat) :
    (e.reporting notices).awaitConnection deadline n =
      ((e.awaitConnection deadline n).1, (e.awaitConnection deadline n).2.reporting notices) := by
  induction n generalizing e with
  | zero => rfl
  | succ n ih =>
      unfold awaitConnection
      rw [tryNext_reporting]
      cases e.tryNext deadline with
      | none => rfl
      | some p =>
          obtain ⟨r, e'⟩ := p
          cases r with
          | true => rfl
          | false => exact ih e'

theorem awaitUntil_reporting (isMet : Pool → Bool) (deadline n : Nat) :
    (e.reporting notices).awaitUntil isMet deadline n =
      ((e.awaitUntil isMet deadline n).1, (e.awaitUntil isMet deadline n).2.reporting notices) := by
  induction n generalizing e with
  | zero => rfl
  | succ n ih =>
      unfold awaitUntil
      rw [show (e.reporting notices).pool = e.pool from rfl]
      split
      · rfl
      · rw [tryNext_reporting]
        cases e.tryNext deadline with
        | none => rfl
        | some p => exact ih p.2

theorem awaitSuccess_reporting (deadline : Nat) : (e.reporting notices).awaitSuccess deadline =
    ((e.awaitSuccess deadline).1, (e.awaitSuccess deadline).2.reporting notices) :=
  awaitConnection_reporting notices e deadline e.attemptsLeft

theorem test_reporting (c : Connection) : (e.reporting notices).test c =
    ((e.test c).1, (e.test c).2.1, (e.test c).2.2.reporting notices) := by
  unfold test
  rw [show (e.reporting notices).server = e.server from rfl,
    show (e.reporting notices).pool = e.pool from rfl]
  split
  · dsimp only
    split <;> rfl
  · rfl

theorem takeIdle_reporting (idle : List Connection) : (e.reporting notices).takeIdle idle =
    ((e.takeIdle idle).1, (e.takeIdle idle).2.reporting notices) := by
  induction idle generalizing e with
  | nil => rfl
  | cons c rest ih =>
      unfold takeIdle
      rw [show ((e.reporting notices).withIdle rest).withPool (·.withAttempts) =
        ((e.withIdle rest).withPool (·.withAttempts)).reporting notices from rfl, test_reporting]
      cases ((e.withIdle rest).withPool (·.withAttempts)).test c with
      | mk error? p =>
          cases error? with
          | none => rfl
          | some error => exact ih ((p.2.withLastError (some error.text)).discard p.1)

theorem obtainIn_reporting (deadline rounds : Nat) :
    (e.reporting notices).obtainIn deadline rounds =
      ((e.obtainIn deadline rounds).1, (e.obtainIn deadline rounds).2.reporting notices) := by
  induction rounds generalizing e with
  | zero => rfl
  | succ rounds ih =>
      unfold obtainIn
      rw [takeIdle_reporting, show (e.reporting notices).pool = e.pool from rfl]
      cases e.takeIdle e.pool.idle with
      | mk c? e₁ =>
          cases c? with
          | some c => rfl
          | none =>
              dsimp only
              rw [show (e₁.reporting notices).withPool (·.withAttempt) =
                (e₁.withPool (·.withAttempt)).reporting notices from rfl,
                awaitSuccess_reporting]
              cases (e₁.withPool (·.withAttempt)).awaitSuccess deadline with
              | mk r e₂ =>
                  cases r with
                  | true => exact ih e₂
                  | false => rfl

theorem obtain_reporting (deadline : Nat) : (e.reporting notices).obtain deadline =
    ((e.obtain deadline).1, (e.obtain deadline).2.reporting notices) :=
  obtainIn_reporting notices e deadline e.roundsLeft

theorem checkoutWithin_reporting (millis : Nat) : checkoutWithin millis (e.reporting notices) =
    ((checkoutWithin millis e).1, (checkoutWithin millis e).2.reporting notices) := by
  unfold checkoutWithin
  rw [obtain_reporting, show (e.reporting notices).pool = e.pool from rfl]
  cases e.obtain (e.pool.clock + millis) with
  | mk c? e₁ => cases c? <;> rfl

theorem replenish_reporting : (e.reporting notices).replenish = e.replenish.reporting notices :=
  congrArg Prod.snd (awaitUntil_reporting notices e _ _ _)

end pool

/-- The engines differ at most in what they have reported. -/
def Alike (e e' : Engine) : Prop := ∃ notices, e' = e.reporting notices

theorem alike_note (h : e.Alike e') (n n' : Notice) : (e.note n).Alike (e'.note n') := by
  obtain ⟨notices, rfl⟩ := h
  exact ⟨_, rfl⟩

theorem alike_note_left (e : Engine) (n : Notice) : (e.note n).Alike e := ⟨e.notices, rfl⟩

theorem alike_replenish (h : e.Alike e') : e.replenish.Alike e'.replenish := by
  obtain ⟨notices, rfl⟩ := h
  exact ⟨notices, replenish_reporting notices e⟩

theorem alike_putBack (h : e.Alike e') (unwinding : Bool) (c : Connection) :
    (e.putBack unwinding c).Alike (e'.putBack unwinding c) := by
  obtain ⟨notices, rfl⟩ := h
  refine ⟨notices, ?_⟩
  unfold putBack
  split <;> rfl

theorem alike_checkoutWithin (millis : Nat) :
    Simulates Alike (checkoutWithin millis) (checkoutWithin millis) := by
  rintro e _ ⟨notices, rfl⟩
  rw [checkoutWithin_reporting]
  exact ⟨rfl, notices, rfl⟩

theorem alike_checkout : Simulates Alike checkout checkout := by
  rintro e _ ⟨notices, rfl⟩
  exact alike_checkoutWithin e.pool.checkoutMillis e _ ⟨notices, rfl⟩

theorem alike_openOn (c : Connection) : Simulates Alike (Session.openOn c) (Session.openOn c) := by
  rintro e _ ⟨notices, rfl⟩
  exact ⟨rfl, _, rfl⟩

theorem alike_openSession : Simulates Alike openSession openSession :=
  simulates_bind alike_checkout alike_openOn

theorem alike_open (source : Source) :
    Simulates Alike (source.checkout >>= Session.openOn) (source.checkout >>= Session.openOn) := by
  refine simulates_bind ?_ alike_openOn
  cases source with
  | plain => exact alike_checkout
  | guard => exact alike_checkout
  | timed millis => exact alike_checkoutWithin millis

theorem alike_testConnection : Simulates Alike testConnection testConnection := by
  refine simulates_bind alike_checkout fun c => ?_
  rintro e _ ⟨notices, rfl⟩
  exact ⟨rfl, alike_putBack ⟨notices, rfl⟩ _ _⟩

end Engine

/-! ### Sessions -/

/-- The sessions are the same, and their engines differ at most in what they have reported. -/
def Attached.Alike (a a' : Attached) : Prop := a'.session = a.session ∧ a.engine.Alike a'.engine

namespace Session

variable {a a' : Attached}

theorem alike_onConnection {α : Type} (work : Act Link Database.Error α) :
    Simulates Attached.Alike (onConnection work) (onConnection work) := by
  rintro ⟨s, e⟩ ⟨s', e'⟩ ⟨hs, notices, he⟩
  obtain rfl : s' = s := hs
  obtain rfl : e' = e.reporting notices := he
  cases hc : s'.connection with
  | none =>
      rw [onConnection_of_closed work hc, onConnection_of_closed work hc]
      exact ⟨rfl, rfl, notices, rfl⟩
  | some c =>
      rw [onConnection_of_open work hc, onConnection_of_open work hc]
      exact ⟨rfl, rfl, notices, rfl⟩

/-- No session reads what has been reported. -/
theorem unseen_alike : Unseen Engine.Alike where
  note h := Engine.alike_note h
  putBack h := Engine.alike_putBack h
  direct call := alike_onConnection call.run

theorem alike_close (unwinding : Bool) :
    Simulates Attached.Alike (close unwinding) (close unwinding) :=
  unseen_alike.simulates_close unwinding

theorem alike_letGo (h : a.Alike a') (unwinding : Bool) (failed : String → SessionEvent) :
    (letGo unwinding failed a).Alike (letGo unwinding failed a') :=
  unseen_alike.letGo h unwinding failed

end Session

/-- Operations in an envelope, when each is alike from sessions that are alike. -/
theorem Envelope.alike_run {δ : Type} (v : ErrorView GatewayError δ)
    {ops : List (Act Attached δ Unit)} (h : ∀ op ∈ ops, Simulates Attached.Alike op op) :
    Simulates Attached.Alike (run Session.transactional v ops)
      (run Session.transactional v ops) :=
  Session.unseen_alike.simulates_run v <| simulates_inEnvelope
    (fun _ _ _ ha => Session.unseen_alike.report ha _ _) h 0

namespace Operation

mutual

theorem alike_run : ∀ op : Operation, Simulates Attached.Alike op.run op.run
  | begin => simulates_mapError _ Session.unseen_alike.simulates_begin
  | commit => simulates_mapError _ Session.unseen_alike.simulates_commit
  | rollback => simulates_mapError _ Session.unseen_alike.simulates_rollback
  | close => simulates_mapError _ (Session.alike_close false)
  | sql _ => simulates_mapError _ (Session.alike_onConnection _)
  | direct _ => simulates_mapError _ (Session.alike_onConnection _)
  | refuse _ => simulates_raise _
  | fail _ => simulates_raise _
  | crash => simulates_panic
  | attempt op => simulates_forgiven (alike_run op)
  | nested ops => Envelope.alike_run _ (alike_runEach ops)

theorem alike_runEach : ∀ ops : List Operation, ∀ x ∈ runEach ops, Simulates Attached.Alike x x
  | [], _, hx => nomatch hx
  | op :: ops, x, hx => by
      rcases List.mem_cons.mp hx with rfl | hx
      · exact alike_run op
      · exact alike_runEach ops x hx

end

theorem alike_runAll (ops : List Operation) :
    Simulates Attached.Alike (runAll ops) (runAll ops) := by
  induction ops with
  | nil => exact simulates_done ()
  | cons op ops ih => exact simulates_bind (alike_run op) fun _ => ih

end Operation

/-! ### Scopes -/

namespace Engine

variable {ε α : Type}

/-- Work that opens a session first. -/
theorem alike_scope (lift : GatewayError → ε) {work : Session → Act Engine ε α}
    (h : ∀ s, Simulates Alike (work s) (work s)) :
    Simulates Alike (openSession.mapError lift >>= work) (openSession.mapError lift >>= work) :=
  simulates_bind (simulates_mapError _ alike_openSession) h

theorem alike_withSession (lift : GatewayError → ε) {work : Act Attached ε α}
    (h : Simulates Attached.Alike work work) :
    Simulates Alike (withSession lift work) (withSession lift work) :=
  alike_scope lift (Session.unseen_alike.simulates_scoped lift h)

theorem alike_withGuard (lift : GatewayError → ε) {work : Act Attached ε α}
    (h : Simulates Attached.Alike work work) :
    Simulates Alike (withGuard lift work) (withGuard lift work) := by
  refine alike_scope lift fun s e e' he => ?_
  obtain ⟨hr, hd⟩ := h ⟨s, e⟩ ⟨s, e'⟩ ⟨rfl, he⟩
  dsimp only
  rw [← hr]
  exact ⟨rfl, (Session.alike_letGo hd _ _).2⟩

theorem alike_runStatements (texts : List String) :
    Simulates Alike (runStatements texts) (runStatements texts) := by
  refine alike_withSession _ (Envelope.alike_run _ fun op hop => ?_)
  obtain ⟨text, -, rfl⟩ := List.mem_map.mp hop
  exact Session.alike_onConnection _

theorem alike_check : Simulates Alike check check :=
  simulates_bind alike_testConnection fun _ => by
    rintro e _ ⟨notices, rfl⟩
    exact ⟨rfl, notices, rfl⟩

end Engine

/-! ### Steps -/

namespace World

/-- The gateways keep the same sessions, their engines differ at most in what they have reported,
and the handles of the first are handles of the second. -/
structure Alike (w v : World) : Prop where
  engine : w.engine.Alike v.engine
  kept : v.kept = w.kept
  handles : w.handles ⊆ v.handles

variable {w v : World}

theorem Alike.kept? (h : w.Alike v) (name : String) : v.kept? name = w.kept? name := by
  rw [World.kept?, World.kept?, h.kept]

theorem Alike.forget (h : w.Alike v) (name : String) : (w.forget name).Alike (v.forget name) :=
  ⟨h.engine, by rw [World.forget, World.forget, h.kept], h.handles⟩

theorem Alike.keep (h : w.Alike v) (name : String) (k : Kept) :
    (w.keep name k).Alike (v.keep name k) :=
  ⟨h.engine, by rw [World.keep, World.keep, h.kept], h.handles⟩

theorem Alike.withEngine (h : w.Alike v) {e e' : Engine} (he : e.Alike e') :
    (w.withEngine e).Alike (v.withEngine e') := ⟨he, h.kept, h.handles⟩

theorem alike_release (k : Kept) {e e' : Engine} (h : e.Alike e') :
    (release k e).Alike (release k e') := by
  have hsame : Attached.Alike ⟨k.session, e⟩ ⟨k.session, e'⟩ := ⟨rfl, h⟩
  exact (Session.alike_letGo hsame false _).2

theorem Alike.letGo (h : w.Alike v) (name : String) : (w.letGo name).Alike (v.letGo name) := by
  unfold World.letGo
  rw [h.kept? name]
  cases w.kept? name with
  | none => exact h
  | some k => exact (h.forget name).withEngine (alike_release k h.engine)

theorem Alike.mem (h : w.Alike v) {handle : String} (hw : w.handles.contains handle = true) :
    v.handles.contains handle = true := by
  rw [List.contains_iff_mem] at hw ⊢
  exact h.handles hw

theorem alike_onKept {ε : Type} (h : w.Alike v) (lift : ε → Failure) (name : String)
    {work : Act Attached ε Unit} (hwork : Simulates Attached.Alike work work) :
    (v.onKept lift name work).1 = (w.onKept lift name work).1 ∧
      (w.onKept lift name work).2.Alike (v.onKept lift name work).2 := by
  unfold onKept
  rw [h.kept? name]
  cases w.kept? name with
  | none => exact ⟨rfl, h⟩
  | some k =>
      obtain ⟨hr, hd⟩ := hwork ⟨k.session, w.engine⟩ ⟨k.session, v.engine⟩ ⟨rfl, h.engine⟩
      dsimp only
      rw [hr, hd.1]
      exact ⟨rfl, (h.keep name _).withEngine hd.2⟩

theorem alike_finish (h : w.Alike v) (name : String) :
    (v.finish name).1 = (w.finish name).1 ∧ (w.finish name).2.Alike (v.finish name).2 := by
  unfold finish
  rw [h.kept? name]
  cases w.kept? name with
  | none => exact ⟨rfl, h⟩
  | some k =>
      obtain ⟨hr, hd⟩ :=
        Session.alike_close false ⟨k.session, w.engine⟩ ⟨k.session, v.engine⟩ ⟨rfl, h.engine⟩
      dsimp only
      split
      · rw [hr]
        exact ⟨rfl, (h.forget name).withEngine hd.2⟩
      · exact ⟨rfl, h.letGo name⟩

theorem alike_onEngine {ε α : Type} (h : w.Alike v) (lift : ε → Failure) (value : α → Answer)
    {handle : String} {work : Act Engine ε α} (hwork : Simulates Engine.Alike work work)
    (hneeded : (w.onEngine lift value handle work).1 ≠ .noSuchGateway) :
    (v.onEngine lift value handle work).1 = (w.onEngine lift value handle work).1 ∧
      (w.onEngine lift value handle work).2.Alike (v.onEngine lift value handle work).2 := by
  obtain ⟨hr, hd⟩ := hwork _ _ h.engine
  unfold onEngine at hneeded ⊢
  by_cases hw : w.handles.contains handle = true
  · rw [if_pos hw, if_pos (h.mem hw)]
    dsimp only
    rw [hr]
    exact ⟨rfl, h.withEngine hd⟩
  · rw [if_neg hw] at hneeded
    exact absurd rfl hneeded

theorem alike_openAs (h : w.Alike v) {handle name : String} {source : Source}
    (hneeded : (w.openAs handle name source).1 ≠ .noSuchGateway) :
    (v.openAs handle name source).1 = (w.openAs handle name source).1 ∧
      (w.openAs handle name source).2.Alike (v.openAs handle name source).2 := by
  obtain ⟨hr, hd⟩ := Engine.alike_open source _ _ h.engine
  unfold openAs at hneeded ⊢
  by_cases hw : w.handles.contains handle = true
  · rw [if_pos hw, if_pos (h.mem hw)]
    cases hopen : (source.checkout >>= Session.openOn : Act Engine GatewayError Session)
        w.engine with
    | mk r e =>
        cases hopen' : (source.checkout >>= Session.openOn : Act Engine GatewayError Session)
            v.engine with
        | mk r' e' =>
            rw [hopen, hopen'] at hr hd
            obtain rfl : r = r' := hr
            cases r with
            | ok s => exact ⟨rfl, ((h.withEngine hd).letGo name).keep name _⟩
            | err failure => exact ⟨rfl, h.withEngine hd⟩
            | panic => exact ⟨rfl, h.withEngine hd⟩
  · rw [if_neg hw] at hneeded
    exact absurd rfl hneeded

/-- A step that finds the handle it needs does the same on both gateways. -/
theorem alike_take (h : w.Alike v) (s : Step) (hneeded : (w.take s).1 ≠ .noSuchGateway) :
    (v.take s).1 = (w.take s).1 ∧ (w.take s).2.Alike (v.take s).2 := by
  cases s with
  | openSession handle name source => exact alike_openAs h hneeded
  | call name op => exact alike_onKept h id name (Operation.alike_run op)
  | process name ops => exact alike_onKept h id name (Operation.alike_run (.nested ops))
  | finish name => exact alike_finish h name
  | drop name =>
      simp only [take, h.kept? name]
      cases w.kept? name with
      | none => exact ⟨rfl, h⟩
      | some k => exact ⟨rfl, h.letGo name⟩
  | identify name =>
      simp only [take, h.kept? name]
      cases w.kept? name <;> exact ⟨rfl, h⟩
  | atomically handle ops =>
      exact alike_onEngine h _ _
        (Engine.alike_withSession _ (Operation.alike_run (.nested ops))) hneeded
  | statements handle texts => exact alike_onEngine h _ _ (Engine.alike_runStatements texts) hneeded
  | scope handle ops =>
      exact alike_onEngine h _ _ (Engine.alike_withSession _ (Operation.alike_runAll ops)) hneeded
  | guardedScope handle ops =>
      refine alike_onEngine h _ _ (Engine.alike_withGuard _ ?_) hneeded
      refine simulates_bind (Operation.alike_runAll ops) fun _ a a' ha => ?_
      exact ⟨congrArg (fun s : Session => Outcome.ok s.inTransaction) ha.1.symm, ha⟩
  | applyScript handle script => exact alike_onEngine h _ _ (Engine.alike_runStatements _) hneeded
  | check handle => exact alike_onEngine h _ _ Engine.alike_check hneeded
  | testConnection handle => exact alike_onEngine h _ _ Engine.alike_testConnection hneeded
  | describe handle =>
      obtain ⟨notices, hengine⟩ := h.engine
      simp only [take] at hneeded ⊢
      by_cases hw : w.handles.contains handle = true
      · rw [if_pos hw, if_pos (h.mem hw), description, hengine]
        exact ⟨rfl, h⟩
      · rw [if_neg hw] at hneeded
        exact absurd rfl hneeded
  | clone handle copy =>
      simp only [take] at hneeded ⊢
      by_cases hw : w.handles.contains handle = true
      · rw [if_pos hw, if_pos (h.mem hw)]
        refine ⟨rfl, h.engine, h.kept, List.append_subset.mpr ⟨?_, List.subset_append_right _ _⟩⟩
        exact List.subset_append_of_subset_left _ (List.filter_subset _ h.handles)
      · rw [if_neg hw] at hneeded
        exact absurd rfl hneeded
  | shutDown handle =>
      simp only [take] at hneeded ⊢
      by_cases hw : w.handles.contains handle = true
      · rw [if_pos hw, if_pos (h.mem hw)]
        exact ⟨rfl, Engine.alike_note h.engine _ _, h.kept, List.filter_subset _ h.handles⟩
      · rw [if_neg hw] at hneeded
        exact absurd rfl hneeded

end World

end TransactionGateway
