import Mathlib.Data.Multiset.Bind
import Mathlib.Logic.Relation
import TransactionGateway.Proofs.Accounts
import TransactionGateway.Proofs.Names

/-! # Traffic on an engine

All that can happen on an engine in use, one thing at a time, and where its connections are
meanwhile.

* **Uses** (`Traffic.Use`). A session is opened or not, works, or is let go of; the server is
  probed; the pool is filled up. Sessions work in any order, those kept under names as well as those
  of the scopes under way.
* **Changes** (`Traffic.Change`). Besides its uses, the pool is torn down when all sessions are
  closed. That comes only at the end of a step.
* **Runs.** Every step of a gateway is a course of such changes, and touches no kept session but the
  one that it is about (`World.follows_step`).
* **Accounts** (`Traffic.Accounted`). Every change keeps the accounts of the connections in order,
  whatever the sessions do and whatever faults strike. -/

namespace TransactionGateway

open Database Act

/-- An engine, and the sessions in use on it. -/
structure Traffic where
  engine : Engine
  sessions : Multiset Session

/-- The session among others. -/
def Attached.among (ss : Multiset Session) (a : Attached) : Traffic := ⟨a.engine, a.session ::ₘ ss⟩

namespace Traffic

/-- One thing that happens while the pool is kept alive. -/
inductive Use : Traffic → Traffic → Prop where
  | opened {millis : Nat} {e : Engine} {s : Session} {e' : Engine} (ss : Multiset Session) :
      (Engine.checkoutWithin millis >>= Session.openOn) e = (.ok s, e') →
        Use ⟨e, ss⟩ ((Attached.mk s e').among ss)
  | notOpened {millis : Nat} {e : Engine} {r : Outcome GatewayError Session} {e' : Engine}
      (ss : Multiset Session) : (Engine.checkoutWithin millis >>= Session.openOn) e = (r, e') →
        (∀ s, r ≠ .ok s) → Use ⟨e, ss⟩ ⟨e', ss⟩
  | worked (op : Operation) (a : Attached) (ss : Multiset Session) :
      Use (a.among ss) ((op.run a).2.among ss)
  | droppedAt (unwinding : Bool) (failed : String → SessionEvent) (a : Attached)
      (ss : Multiset Session) :
      Use (a.among ss) ⟨(Session.letGo unwinding failed a).engine, ss⟩
  | probed (e : Engine) (ss : Multiset Session) : Use ⟨e, ss⟩ ⟨(Engine.testConnection e).2, ss⟩
  | noted (n : Notice) (e : Engine) (ss : Multiset Session) : Use ⟨e, ss⟩ ⟨e.note n, ss⟩
  | replenished (e : Engine) (ss : Multiset Session) : Use ⟨e, ss⟩ ⟨e.replenish, ss⟩

/-- Any number of uses, one after another. -/
def Serves : Traffic → Traffic → Prop := Relation.ReflTransGen Use

instance : IsPreorder Traffic Serves :=
  inferInstanceAs (IsPreorder Traffic (Relation.ReflTransGen Use))

theorem Use.serves {t t' : Traffic} (h : Use t t') : t.Serves t' := .single h

/-- One thing that happens. -/
inductive Change : Traffic → Traffic → Prop where
  | used {t t' : Traffic} : Use t t' → Change t t'
  | tornDown (e : Engine) {ss : Multiset Session} : (∀ s ∈ ss, s.isClosed = true) →
      Change ⟨e, ss⟩ ⟨e.tearDown, ss⟩

/-- Any number of things that happen, one after another. -/
def Reaches : Traffic → Traffic → Prop := Relation.ReflTransGen Change

instance : IsPreorder Traffic Reaches :=
  inferInstanceAs (IsPreorder Traffic (Relation.ReflTransGen Change))

theorem Change.reaches {t t' : Traffic} (h : Change t t') : t.Reaches t' := .single h

theorem Serves.reaches {t t' : Traffic} (h : t.Serves t') : t.Reaches t' :=
  Relation.ReflTransGen.mono (fun _ _ => Change.used) _ _ h

/-- What every change keeps is kept by any number of them. -/
theorem Reaches.keeps {P : Traffic → Prop} (hchange : ∀ {t t'}, Change t t' → P t → P t')
    {t t' : Traffic} (h : t.Reaches t') : P t → P t' := by
  intro ht
  induction h with
  | refl => exact ht
  | tail _ hlast ih => exact hchange hlast ih

end Traffic

/-! ### Sessions at work -/

/-- The session and its engine get there, whatever the other sessions in use are. -/
def Attached.Gets (a a' : Attached) : Prop := ∀ ss, (a.among ss).Serves (a'.among ss)

instance : IsPreorder Attached Attached.Gets where
  refl a := fun ss => refl_of Traffic.Serves (a.among ss)
  trans _ _ _ h h' := fun ss => trans_of Traffic.Serves (h ss) (h' ss)

namespace Session

theorem gets_note (n : Notice) (a : Attached) : a.Gets { a with engine := a.engine.note n } :=
  fun ss => (Traffic.Use.noted n a.engine (a.session ::ₘ ss)).serves

/-- Everything that a caller can do with a session. -/
theorem gets_calls : Respected Attached.Gets where
  begin := fun a ss => (Traffic.Use.worked .begin a ss).serves
  commit := fun a ss => (Traffic.Use.worked .commit a ss).serves
  rollback := fun a ss => (Traffic.Use.worked .rollback a ss).serves
  close := fun a ss => (Traffic.Use.worked .close a ss).serves
  execute sql := fun a ss => (Traffic.Use.worked (.sql sql) a ss).serves
  direct call := fun a ss => (Traffic.Use.worked (.direct call) a ss).serves
  note := gets_note

end Session

/-- A closed session is let go of without a further effect. -/
theorem Attached.serves_of_closed {a : Attached} (h : a.session.connection = none)
    (ss : Multiset Session) : (a.among ss).Serves ⟨a.engine, ss⟩ := by
  have hdrop := Traffic.Use.droppedAt false .dropFailed a ss
  rw [Session.letGo_of_closed h] at hdrop
  exact hdrop.serves

/-! ### Scopes -/

/-- The engine gets there, whatever sessions are in use. -/
def Engine.Gets (e e' : Engine) : Prop := ∀ ss, Traffic.Serves ⟨e, ss⟩ ⟨e', ss⟩

instance : IsPreorder Engine Engine.Gets where
  refl _ := fun _ => refl_of Traffic.Serves _
  trans _ _ _ h h' := fun ss => trans_of Traffic.Serves (h ss) (h' ss)

namespace Engine

variable {ε α : Type} {e e' : Engine}

/-- Work that opens a session and is over when the session has been let go of. -/
theorem gets_scope (lift : GatewayError → ε) {work : Session → Act Engine ε α}
    (h : ∀ s e ss, ((Attached.mk s e).among ss).Serves ⟨(work s e).2, ss⟩) :
    Moves Engine.Gets (openSession.mapError lift >>= work) := by
  intro e ss
  have hchange := openSession_eq e
  cases hopen : openSession e with
  | mk r e₁ =>
      rw [hopen] at hchange
      have hlifted : openSession.mapError lift e = (r.mapError lift, e₁) := by
        rw [mapError_apply, hopen]
      cases r with
      | ok s =>
          rw [bind_of_ok hlifted]
          exact trans_of Traffic.Serves (Traffic.Use.opened ss hchange.symm).serves (h s e₁ ss)
      | err failure =>
          rw [bind_of_err hlifted]
          exact (Traffic.Use.notOpened ss hchange.symm nofun).serves
      | panic =>
          rw [bind_of_panic hlifted]
          exact (Traffic.Use.notOpened ss hchange.symm nofun).serves

theorem serves_endScope (lift : GatewayError → ε) (r : Outcome ε α) (a : Attached)
    (ss : Multiset Session) : (a.among ss).Serves ⟨(endScope lift r a).2, ss⟩ := by
  have hclosed := Session.closed_of_close false a
  have hclose := Session.gets_calls.close a ss
  unfold endScope
  cases r with
  | panic => exact (Traffic.Use.droppedAt true .dropFailed a ss).serves
  | ok value =>
      cases hc : Session.close false a with
      | mk r a' =>
          rw [hc] at hclosed hclose
          have hover := trans_of Traffic.Serves hclose (a'.serves_of_closed hclosed ss)
          cases r <;> exact hover
  | err failure =>
      cases hc : Session.close false a with
      | mk r a' =>
          rw [hc] at hclosed hclose
          have hover := trans_of Traffic.Serves hclose (a'.serves_of_closed hclosed ss)
          cases r with
          | ok b => exact hover
          | panic => exact hover
          | err error =>
              exact trans_of Traffic.Serves hover (Traffic.Use.noted _ a'.engine ss).serves

theorem gets_withSession (lift : GatewayError → ε) {work : Act Attached ε α}
    (h : Moves Attached.Gets work) : Moves Engine.Gets (withSession lift work) :=
  gets_scope lift fun s e ss =>
    trans_of Traffic.Serves (h ⟨s, e⟩ ss) (serves_endScope lift _ _ ss)

theorem gets_withGuard (lift : GatewayError → ε) {work : Act Attached ε α}
    (h : Moves Attached.Gets work) : Moves Engine.Gets (withGuard lift work) :=
  gets_scope lift fun s e ss =>
    trans_of Traffic.Serves (h ⟨s, e⟩ ss) (Traffic.Use.droppedAt _ _ _ ss).serves

theorem gets_testConnection : Moves Engine.Gets testConnection :=
  fun e ss => (Traffic.Use.probed e ss).serves

end Engine

/-! ### Steps -/

/-- The kept session that a step is about. -/
def Step.subject : Step → Option String
  | .openSession _ name _ | .call name _ | .process name _ | .finish name | .drop name
  | .identify name => some name
  | _ => none

namespace World

variable {R : Traffic → Traffic → Prop} {w w' : World} {e : Engine} {name : String} {k : Kept}
  {subject : Option String}

/-- The engine of the gateway, and the sessions that it keeps. -/
def traffic (w : World) : Traffic := ⟨w.engine, w.sessions⟩

/-- A course of changes that touches no kept session but the one it is about. -/
structure Follows (R : Traffic → Traffic → Prop) (subject : Option String) (w w' : World) :
    Prop where
  course : R w.traffic w'.traffic
  isNamed : w'.IsNamed
  others : ∀ name, subject ≠ some name → w'.kept? name = w.kept? name

theorem follows_refl [IsPreorder Traffic R] (h : w.IsNamed) : w.Follows R subject w :=
  ⟨refl_of R _, h, fun _ _ => rfl⟩

theorem Follows.trans [IsPreorder Traffic R] {w'' : World} (h : w.Follows R subject w')
    (h' : w'.Follows R subject w'') : w.Follows R subject w'' :=
  ⟨trans_of R h.course h'.course, h'.isNamed,
    fun name hne => (h'.others name hne).trans (h.others name hne)⟩

theorem Follows.reaches (h : w.Follows Traffic.Serves subject w') :
    w.Follows Traffic.Reaches subject w' := ⟨h.course.reaches, h.isNamed, h.others⟩

theorem follows_withEngine (hw : w.IsNamed) (h : w.engine.Gets e) :
    w.Follows Traffic.Serves subject (w.withEngine e) :=
  ⟨h w.sessions, hw, fun _ _ => rfl⟩

theorem traffic_of_kept? (hw : w.IsNamed) (hk : w.kept? name = some k) :
    w.traffic = (Attached.mk k.session w.engine).among (w.forget name).sessions := by
  rw [traffic, sessions_of_kept? hw hk]
  rfl

/-- Work on a kept session, which stays kept. -/
theorem follows_keep (hw : w.IsNamed) (hk : w.kept? name = some k) {a : Attached}
    (h : (Attached.mk k.session w.engine).Gets a) (isGuarded : Bool) :
    w.Follows Traffic.Serves (some name)
      ((w.keep name ⟨a.session, isGuarded⟩).withEngine a.engine) := by
  refine ⟨?_, hw.keep name _,
    fun name' hne => kept?_keep_of_ne fun heq => hne (congrArg some heq.symm)⟩
  have hkeep : ((w.keep name ⟨a.session, isGuarded⟩).withEngine a.engine).traffic =
      a.among (w.forget name).sessions := by
    show Traffic.mk a.engine (w.keep name _).sessions = _
    rw [sessions_keep]
    rfl
  rw [traffic_of_kept? hw hk, hkeep]
  exact h _

/-- Work on a kept session that ends with letting go of it. -/
theorem follows_forget (hw : w.IsNamed) (hk : w.kept? name = some k)
    (h : ∀ ss, ((Attached.mk k.session w.engine).among ss).Serves ⟨e, ss⟩) :
    w.Follows Traffic.Serves (some name) ((w.forget name).withEngine e) := by
  refine ⟨?_, hw.forget name,
    fun name' hne => kept?_forget_of_ne fun heq => hne (congrArg some heq.symm)⟩
  rw [traffic_of_kept? hw hk]
  exact h _

theorem follows_letGo (hw : w.IsNamed) (name : String) :
    w.Follows Traffic.Serves (some name) (w.letGo name) := by
  unfold letGo
  cases hk : w.kept? name with
  | none => exact follows_refl hw
  | some k =>
      exact follows_forget hw hk fun ss => (Traffic.Use.droppedAt false _ _ ss).serves

theorem follows_onKept {ε : Type} (hw : w.IsNamed) (lift : ε → Failure) (name : String)
    {work : Act Attached ε Unit} (h : Moves Attached.Gets work) :
    w.Follows Traffic.Serves (some name) (w.onKept lift name work).2 := by
  unfold onKept
  cases hk : w.kept? name with
  | none => exact follows_refl hw
  | some k => exact follows_keep hw hk (h ⟨k.session, w.engine⟩) k.isGuarded

theorem follows_finish (hw : w.IsNamed) (name : String) :
    w.Follows Traffic.Serves (some name) (w.finish name).2 := by
  unfold finish
  cases hk : w.kept? name with
  | none => exact follows_refl hw
  | some k =>
      dsimp only
      split
      · refine follows_forget hw hk fun ss => ?_
        exact trans_of Traffic.Serves (Session.gets_calls.close ⟨k.session, w.engine⟩ ss)
          (Attached.serves_of_closed (Session.closed_of_close false _) ss)
      · exact follows_letGo hw name

theorem follows_onEngine {ε α : Type} (hw : w.IsNamed) (lift : ε → Failure) (value : α → Answer)
    (handle : String) {work : Act Engine ε α} (h : Moves Engine.Gets work) :
    w.Follows Traffic.Serves subject (w.onEngine lift value handle work).2 := by
  unfold onEngine
  split
  · exact follows_withEngine hw (h w.engine)
  · exact follows_refl hw

/-- A session in use takes a name over from the one that has it, which is let go of. -/
theorem serves_takeOver (hw : w.IsNamed) (name : String) (s : Session) (isGuarded : Bool) :
    ((Attached.mk s w.engine).among w.sessions).Serves
      ((w.letGo name).keep name ⟨s, isGuarded⟩).traffic := by
  have hkeep : ((w.letGo name).keep name ⟨s, isGuarded⟩).traffic =
      (Attached.mk s (w.letGo name).engine).among (w.forget name).sessions := by
    have hforget : (w.letGo name).forget name =
        (w.forget name).withEngine (w.letGo name).engine := by
      unfold letGo
      cases hk : w.kept? name with
      | none => rfl
      | some k =>
          show ((w.forget name).withEngine _).forget name = _
          exact congrArg (withEngine _) (forget_of_none (kept?_forget_self name w))
    show Traffic.mk (w.letGo name).engine _ = _
    rw [sessions_keep, hforget]
    rfl
  rw [hkeep]
  unfold letGo
  cases hk : w.kept? name with
  | none =>
      rw [forget_of_none hk]
      exact refl_of Traffic.Serves _
  | some k =>
      have hdrop := Traffic.Use.droppedAt false
        (if k.isGuarded then SessionEvent.scopeDropFailed else .dropFailed)
        ⟨k.session, w.engine⟩ (s ::ₘ (w.forget name).sessions)
      unfold Attached.among at hdrop ⊢
      rw [sessions_of_kept? hw hk, Multiset.cons_swap]
      exact hdrop.serves

/-- The session is opened first, then the session that had its name is let go of. -/
theorem follows_openAs (hw : w.IsNamed) (handle name : String) (source : Source) :
    w.Follows Traffic.Serves (some name) (w.openAs handle name source).2 := by
  unfold openAs
  split
  · obtain ⟨millis, hm⟩ := open_of_source source w.engine
    rw [hm]
    cases ho : (Engine.checkoutWithin millis >>= Session.openOn :
        Act Engine GatewayError Session) w.engine with
    | mk r e =>
        cases r with
        | err failure =>
            exact follows_withEngine hw fun ss => (Traffic.Use.notOpened ss ho nofun).serves
        | panic =>
            exact follows_withEngine hw fun ss => (Traffic.Use.notOpened ss ho nofun).serves
        | ok s =>
            have hw' : (w.withEngine e).IsNamed := hw
            refine ⟨trans_of Traffic.Serves (Traffic.Use.opened w.sessions ho).serves
              (serves_takeOver hw' name s _), (follows_letGo hw' name).isNamed.keep name _,
              fun name' hne => ?_⟩
            rw [kept?_keep_of_ne fun heq => hne (congrArg some heq.symm)]
            exact (follows_letGo hw' name).others name' hne
  · exact follows_refl hw

theorem follows_take (hw : w.IsNamed) (s : Step) :
    w.Follows Traffic.Serves s.subject (w.take s).2 := by
  have hops (ops : List Operation) : Moves Attached.Gets
      (Envelope.run Session.transactional callersView (Operation.runEach ops)) :=
    Operation.moves_run Session.gets_calls (.nested ops)
  have hstatements (texts : List String) : Moves Attached.Gets
      (Envelope.run Session.transactional plainView (texts.map statement)) := by
    refine Envelope.moves_run (fun _ => Session.gets_note _) Session.gets_calls.begin
      Session.gets_calls.commit Session.gets_calls.rollback fun op hop => ?_
    obtain ⟨text, -, rfl⟩ := List.mem_map.mp hop
    exact Session.gets_calls.execute text
  cases s with
  | openSession handle name source => exact follows_openAs hw handle name source
  | call name op => exact follows_onKept hw id name (Operation.moves_run Session.gets_calls op)
  | process name ops => exact follows_onKept hw id name (hops ops)
  | finish name => exact follows_finish hw name
  | drop name =>
      simp only [take]
      split
      · exact follows_refl hw
      · exact follows_letGo hw name
  | identify name =>
      simp only [take]
      split <;> exact follows_refl hw
  | atomically handle ops =>
      exact follows_onEngine hw _ _ handle (Engine.gets_withSession _ (hops ops))
  | statements handle texts =>
      exact follows_onEngine hw _ _ handle (Engine.gets_withSession _ (hstatements texts))
  | scope handle ops =>
      exact follows_onEngine hw _ _ handle
        (Engine.gets_withSession _ (Operation.moves_runAll Session.gets_calls ops))
  | guardedScope handle ops =>
      refine follows_onEngine hw _ _ handle (Engine.gets_withGuard _ ?_)
      exact moves_bind (Operation.moves_runAll Session.gets_calls ops) fun _ => moves_read _
  | applyScript handle script =>
      exact follows_onEngine hw _ _ handle (Engine.gets_withSession _ (hstatements _))
  | check handle =>
      exact follows_onEngine hw _ _ handle
        (moves_bind Engine.gets_testConnection fun _ => moves_read _)
  | testConnection handle => exact follows_onEngine hw _ _ handle Engine.gets_testConnection
  | describe handle =>
      simp only [take]
      split <;> exact follows_refl hw
  | clone handle copy =>
      simp only [take]
      split
      · exact ⟨refl_of Traffic.Serves _, hw, fun _ _ => rfl⟩
      · exact follows_refl hw
  | shutDown handle =>
      simp only [take]
      split
      · exact ⟨(Traffic.Use.noted _ w.engine w.sessions).serves, hw, fun _ _ => rfl⟩
      · exact follows_refl hw

/-- What keeps the pool alive is a handle, or a session that is not closed. -/
theorem isClosed_of_not_isAlive (h : ¬ w.isAlive = true) : ∀ s ∈ w.sessions, s.isClosed = true := by
  intro s hs
  obtain ⟨p, hp, rfl⟩ := List.mem_map.mp (Multiset.mem_coe.mp hs)
  simp only [isAlive, Bool.or_eq_true, List.any_eq_true, not_or, not_exists, not_and] at h
  simpa using h.2 p hp

theorem follows_settle (hw : w.IsNamed) : w.Follows Traffic.Reaches subject w.settle := by
  unfold settle
  split
  · exact (follows_withEngine hw fun ss => (Traffic.Use.replenished _ ss).serves).reaches
  · next h =>
      refine ⟨?_, hw, fun _ _ => rfl⟩
      exact (Traffic.Change.tornDown w.engine (isClosed_of_not_isAlive h)).reaches

theorem follows_step (hw : w.IsNamed) (s : Step) :
    w.Follows Traffic.Reaches s.subject (w.step s).2 :=
  have htake := follows_take hw s
  htake.reaches.trans (follows_settle htake.isNamed)

theorem reaches_run (hw : w.IsNamed) (steps : List Step) :
    w.traffic.Reaches (run steps w).2.traffic ∧ (run steps w).2.IsNamed := by
  induction steps generalizing w with
  | nil => exact ⟨refl_of Traffic.Reaches _, hw⟩
  | cons s steps ih =>
      have hstep := follows_step hw s
      obtain ⟨hreaches, hnamed⟩ := ih hstep.isNamed
      exact ⟨trans_of Traffic.Reaches hstep.course hreaches, hnamed⟩

end World

/-! ### Accounts -/

/-- A session that is opened holds the connection that has been checked out for it. -/
theorem Engine.accounted_open {e e' : Engine} {held : Multiset Nat} {millis : Nat}
    {r : Outcome GatewayError Session} (h : e.Accounted held)
    (ho : (checkoutWithin millis >>= Session.openOn : Act Engine GatewayError Session) e =
      (r, e')) :
    match r with
    | .ok s => (Attached.mk s e').Accounted held
    | _ => e'.Accounted held := by
  have hcheckout := (handsOut_accounts held).checkoutWithin millis h
  cases hc : checkoutWithin millis e with
  | mk r₁ e₁ =>
      rw [hc] at hcheckout
      cases r₁ with
      | ok c =>
          rw [bind_of_ok hc] at ho
          cases ho
          exact ⟨hcheckout.places, hcheckout.size, hcheckout.room⟩
      | err failure =>
          rw [bind_of_err hc] at ho
          cases ho
          exact hcheckout
      | panic =>
          rw [bind_of_panic hc] at ho
          cases ho
          exact hcheckout

namespace Traffic

/-- The serials of the connections that the sessions in use hold. -/
def held (t : Traffic) : Multiset Nat := t.sessions.bind Session.held

/-- The number of sessions in use that are not closed. -/
def openSessions (t : Traffic) : Nat := t.sessions.countP (·.isClosed = false)

/-- The accounts are in order when the sessions in use hold their connections. -/
def Accounted (t : Traffic) : Prop := t.engine.Accounted t.held

variable {t t' : Traffic}

theorem held_among (a : Attached) (ss : Multiset Session) :
    (a.among ss).held = a.session.held + held ⟨a.engine, ss⟩ := Multiset.cons_bind _ _ _

theorem accounted_among {a : Attached} {ss : Multiset Session} :
    (a.among ss).Accounted ↔ a.Accounted (held ⟨a.engine, ss⟩) := by
  unfold Accounted
  rw [held_among]
  rfl

theorem accounted_use (hu : Use t t') (h : t.Accounted) : t'.Accounted := by
  cases hu with
  | opened ss ho => exact accounted_among.mpr (Engine.accounted_open h ho)
  | @notOpened _ _ r _ _ ho hr =>
      have hopen := Engine.accounted_open h ho
      cases r with
      | ok s => exact absurd rfl (hr s)
      | err failure => exact hopen
      | panic => exact hopen
  | worked op a ss =>
      exact accounted_among.mpr
        (Operation.moves_run Session.accounts_calls op a _ (accounted_among.mp h))
  | droppedAt unwinding failed a ss =>
      have hdrop := Session.accounts_letGo unwinding failed a _ (accounted_among.mp h)
      unfold Attached.Accounted at hdrop
      rw [Session.held_of_none (Session.closed_of_letGo unwinding failed a),
        Multiset.zero_add] at hdrop
      exact hdrop
  | probed e ss => exact Engine.accounted_testConnection h
  | noted n e ss => exact ⟨h.places, h.size, h.room⟩
  | replenished e ss => exact Engine.accounted_replenish h

theorem accounted_change (hc : Change t t') (h : t.Accounted) : t'.Accounted := by
  cases hc with
  | used hu => exact accounted_use hu h
  | tornDown e hs => exact Engine.accounted_tearDown h

theorem accounted_reaches (hr : t.Reaches t') (h : t.Accounted) : t'.Accounted :=
  hr.keeps accounted_change h

/-- A session holds one connection until it is closed, and none afterwards. -/
theorem card_held (t : Traffic) : t.held.card = t.openSessions := by
  obtain ⟨e, ss⟩ := t
  induction ss using Multiset.induction_on with
  | empty => rfl
  | cons s ss ih =>
      have hs : s.held.card = if s.isClosed = false then 1 else 0 := by
        unfold Session.held Session.isClosed
        cases s.connection <;> rfl
      show (Multiset.bind (s ::ₘ ss) Session.held).card = Multiset.countP _ (s ::ₘ ss)
      rw [Multiset.cons_bind, Multiset.card_add, Multiset.countP_cons, hs, Nat.add_comm]
      exact congrArg (· + _) ih

theorem Accounted.nodup_held (h : t.Accounted) : t.held.Nodup := by
  have hall : (t.engine.returned + t.held).Nodup := h.places ▸ Multiset.nodup_range _
  exact Multiset.nodup_of_le (Multiset.le_add_left _ _) hall

theorem Accounted.connections (h : t.Accounted) :
    t.engine.pool.status.connections = t.engine.pool.status.idle + t.openSessions := by
  rw [← card_held]
  exact h.size

theorem Accounted.connections_le (h : t.Accounted) :
    t.engine.pool.status.connections ≤ t.engine.pool.status.max :=
  Nat.le_trans (Nat.le_add_right _ _) h.room

end Traffic

namespace World

variable {w : World} {name name' : String} {k k' : Kept} {c c' : Connection}

/-- Sessions kept under two names hold two connections. -/
theorem eq_of_serial (hw : w.IsNamed) (h : w.traffic.Accounted) (hk : w.kept? name = some k)
    (hk' : w.kept? name' = some k') (hc : k.session.connection = some c)
    (hc' : k'.session.connection = some c') (hserial : c.serial = c'.serial) : name = name' := by
  by_contra hne
  have hother : (w.forget name).kept? name' = some k' :=
    (kept?_forget_of_ne fun heq => hne heq.symm).trans hk'
  have hnodup := h.nodup_held
  -- The serial would be held once for each of the names.
  rw [traffic_of_kept? hw hk, Traffic.held_among, Session.held_of_some hc,
    sessions_of_kept? (hw.forget name) hother, Traffic.held, Multiset.cons_bind,
    Session.held_of_some hc', Multiset.singleton_add, Multiset.singleton_add, hserial,
    Multiset.nodup_cons] at hnodup
  exact hnodup.1 (Multiset.mem_cons_self c'.serial _)

theorem isNamed_connected {check : Except SettingsError Unit} {settings : Settings}
    {handle : String} {server : Server}
    (h : connectChecked check settings handle server = (.ok (), w)) : w.IsNamed := by
  rw [eq_of_connected h]
  exact List.nodup_nil

theorem accounted_connected {check : Except SettingsError Unit} {settings : Settings}
    {handle : String} {server : Server}
    (hserver : (server.destroyed : Multiset Nat) = Multiset.range server.established)
    (h : connectChecked check settings handle server = (.ok (), w)) :
    w.IsNamed ∧ w.traffic.Accounted := by
  refine ⟨isNamed_connected h, ?_⟩
  rw [eq_of_connected h]
  exact Engine.accounted_build settings.databaseUrl settings.pool hserver

end World

/-- The books on the connections of an engine in use. -/
structure Traffic.Booked (t : Traffic) : Prop where
  /-- Every connection ever established is idle, destroyed, or held by exactly one session. -/
  places : serials t.engine.pool.idle + (t.engine.server.destroyed : Multiset Nat) + t.held =
    Multiset.range t.engine.server.established
  /-- The pool counts the idle ones and as many more as sessions are open. -/
  counted : t.engine.pool.status.connections = t.engine.pool.status.idle + t.openSessions
  /-- It counts no more than it may have. -/
  bounded : t.engine.pool.status.connections ≤ t.engine.pool.status.max
  /-- When no session is open all that it counts are idle. -/
  settled : t.openSessions = 0 → t.engine.pool.status.idle = t.engine.pool.status.connections

/-- What can be relied on about the connections of a gateway in use. -/
structure World.KeepsBooks (w : World) : Prop where
  /-- The books are right after every change from here on, in the middle of a step as well. -/
  booked : ∀ t, w.traffic.Reaches t → t.Booked
  /-- No two of the sessions kept by name share a connection. -/
  separate : ∀ name name' k k' c c', w.kept? name = some k → w.kept? name' = some k' →
    k.session.connection = some c → k'.session.connection = some c' →
    c.serial = c'.serial → name = name'
  /-- A step about one kept session leaves every other one as it is. -/
  untouched : ∀ s name, s.subject ≠ some name → (w.step s).2.kept? name = w.kept? name
  /-- However often a session in use is closed, by calls or by letting go of it, its connection goes
  back once. -/
  returned : ∀ a ss closings, w.traffic.Reaches (a.among ss) → closings ≠ [] →
    (Closing.runAll closings a).session.connection = none ∧
    (Closing.runAll closings a).engine.returned = a.session.held + a.engine.returned

theorem Traffic.Accounted.booked {t : Traffic} (h : t.Accounted) : t.Booked where
  places := h.places
  counted := h.connections
  bounded := h.connections_le
  settled hnone := by rw [h.connections, hnone, Nat.add_zero]

/-- The connections of a gateway in use are accounted for in every state, after a step or amidst it,
whatever faults strike and whatever panics. -/
theorem connections_accounted {check : Except SettingsError Unit} {settings : Settings}
    {handle : String} {server : Server} {w₀ w : World} {steps : List Step} {answers : List Answer}
    (hserver : (server.destroyed : Multiset Nat) = Multiset.range server.established)
    (hconnect : World.connectChecked check settings handle server = (.ok (), w₀))
    (hrun : World.run steps w₀ = (answers, w)) : w.KeepsBooks := by
  obtain ⟨hnamed₀, haccounted₀⟩ := World.accounted_connected hserver hconnect
  obtain ⟨hreaches, hnamed⟩ := World.reaches_run hnamed₀ steps
  rw [hrun] at hreaches hnamed
  have haccounted := Traffic.accounted_reaches hreaches haccounted₀
  exact {
    booked := fun _ ht => (Traffic.accounted_reaches ht haccounted).booked
    separate := fun _ _ _ _ _ _ => World.eq_of_serial hnamed haccounted
    untouched := fun s => (World.follows_step hnamed s).others
    returned := fun a _ _ _ h => Closing.returned_runAll h a }

/-- A server that two attempts to connect do not reach, and where rolling back fails twice. -/
def Database.Server.faltering : Server where
  faults :=
    [{ statement := "ROLLBACK", schedule := { times := 2 }, mode := .before, change := .kept,
       error := .unknown "refused" }]
  outages := [{ schedule := { after := 1, times := 2 }, error := .unreachable "down" }]

/-- A gateway on the faltering server. -/
def World.faltering : World :=
  (World.connectChecked (.ok ()) { databaseUrl := "db", pool := { minIdle := 1 } } "g"
    .faltering).2

/-- One session whose closing fails, another that is closed time and again, a third that is still
open, and between them a scope that panics. -/
def falteringSteps : List Step :=
  [.openSession "g" "a" .plain, .openSession "g" "b" .guard, .openSession "g" "c" .plain,
    .call "a" .begin, .call "a" (.sql "PUT x"), .call "b" .begin, .call "a" .close,
    .scope "g" [.begin, .crash], .call "b" .close, .finish "b", .drop "a", .drop "a"]

theorem faltering_accounted :
    World.connectChecked (.ok ()) { databaseUrl := "db", pool := { minIdle := 1 } } "g"
      .faltering = (.ok (), World.faltering) ∧
    (World.run falteringSteps World.faltering).2.KeepsBooks ∧
    (World.run falteringSteps World.faltering).2.engine.pool.status = ⟨3, 2, 15⟩ := by
  have hconnect : World.connectChecked (.ok ())
      { databaseUrl := "db", pool := { minIdle := 1 } } "g" .faltering =
        (.ok (), World.faltering) := by
    decide +kernel
  exact ⟨hconnect, connections_accounted rfl hconnect (Prod.eta _).symm, by decide +kernel⟩

end TransactionGateway
