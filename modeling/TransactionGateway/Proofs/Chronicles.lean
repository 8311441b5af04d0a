import TransactionGateway.Proofs.NoLeak
import TransactionGateway.Proofs.Pending
import TransactionGateway.Proofs.SingleTransaction

/-! # Chronicles of a session

What a session has done since its transaction was begun, whatever faults strike.

* **Chronicles** (`Attached.Chronicle`). The calls of a session in order, each with the session as
  the call has found it; in between anything may happen elsewhere on the engine. The statements
  leave the transaction alone, and the connection's transaction interface is called by the session
  only.
* **Since the begin** (`SinceBegin`). The part of a chronicle that follows the begin which has
  succeeded last.
* **Invariant** (`Attached.Within`). While the flag is set there is such a begin. If the server
  still has a transaction open then it is that one: its rows are what the statements since then have
  added, and it has been there all the time. A call that finds it there commits nothing. -/

namespace TransactionGateway

open Database Act

/-! ### Calls on a link -/

namespace Database.Transaction

variable {l l' : Link}

/-- A begin that succeeds where the record shows no transaction opens one, which is empty. -/
theorem work_of_begin_ok (h : l.connection.record.isActive = false)
    (hbegin : begin l = (.ok (), l')) :
    l'.connection.work = some {} ∧ l'.server.rows = l.server.rows ∧
      l'.connection.record ≠ .idle := by
  obtain ⟨-, -, hrec | hrefused⟩ := refused_of_inactive h
  · simp only [begin, hrec, sendBegin, batch_begin, bind_apply] at hbegin
    have hrows := @perform_rows "BEGIN" l (by decide) (.inl (by decide))
    cases hb : perform "BEGIN" l with
    | mk r l₁ =>
        rw [hb] at hbegin hrows
        cases r with
        | err e => cases hbegin
        | panic => cases hbegin
        | ok a =>
            cases hbegin
            refine ⟨(work_of_begin hb).2, hrows, ?_⟩
            show deepened l₁.connection.record ≠ .idle
            rw [record_of_perform_ok hb, hrec]
            rintro ⟨⟩
  · rw [hrefused] at hbegin
    cases hbegin

/-- A commit that succeeds has found a transaction open, and has committed its rows. -/
theorem rows_of_commit_ok (h : l.connection.record.IsShallow) (hcommit : commit l = (.ok (), l')) :
    ∃ w, l.connection.work = some w ∧ l'.server.rows = l.server.rows ++ w.pending := by
  obtain hinactive | ⟨doubtful, hrec⟩ := eq_of_isShallow h
  · obtain ⟨⟨e, -, hrefused⟩, -, -⟩ := refused_of_inactive hinactive
    rw [hrefused] at hcommit
    cases hcommit
  · simp only [commit, hrec, sendCommit, batch_commit] at hcommit
    have hshallow : (perform "COMMIT" l).2.connection.record.IsShallow :=
      Link.isShallow_of_perform h
    cases hb : perform "COMMIT" l with
    | mk r l₁ =>
        rw [hb] at hcommit hshallow
        cases r with
        | panic => cases hcommit
        | err e =>
            exact (of_leads_ok (Link.leads_afterFailedCommit e) ⟨rfl, hshallow⟩ hcommit).elim
        | ok a =>
            cases hcommit
            obtain ⟨-, w, hw, hrows⟩ := rows_of_commit hb
            exact ⟨w, hw, hrows⟩

/-- A rollback that succeeds has found a transaction open, and has ended it without its rows. -/
theorem work_of_rollback_ok (h : l.connection.record.IsShallow)
    (hrollback : rollback l = (.ok (), l')) :
    l.isOpen = true ∧ l'.connection.work = none ∧ l'.server.rows = l.server.rows := by
  obtain hinactive | ⟨doubtful, hrec⟩ := eq_of_isShallow h
  · obtain ⟨-, ⟨e, -, hrefused⟩, -⟩ := refused_of_inactive hinactive
    rw [hrefused] at hrollback
    cases hrollback
  · obtain ⟨record, -, hrun⟩ := rollback_of_active hrec
    have hrows := @perform_rows "ROLLBACK" l (by decide) (.inl (by decide))
    rw [hrun] at hrollback
    cases hb : perform "ROLLBACK" l with
    | mk r l₁ =>
        rw [hb] at hrollback hrows
        obtain ⟨rfl, rfl⟩ := Prod.mk.inj hrollback
        have hwork := perform_ok hb
        rw [run_rollback, Link.received_work] at hwork
        have hnone := work_of_rollback hb
        refine ⟨?_, hnone, hrows⟩
        cases hw : l.connection.work with
        | none => rw [hw] at hwork; cases hwork
        | some w => rw [Link.isOpen, hw]; rfl

end Database.Transaction

/-! ### Chronicles -/

/-- The calls of a session. -/
inductive Session.Call where
  | begin
  | commit
  | rollback
  | close (unwinding : Bool)
  | execute (sql : String)
deriving DecidableEq, Repr

namespace Session.Call

/-- The effect of a call. -/
def run : Call → Act Attached GatewayError Unit
  | begin => Session.begin
  | commit => Session.commit
  | rollback => Session.rollback
  | close unwinding => Session.close unwinding
  | execute sql => Session.execute sql

/-- No statement that the caller sends begins, ends or marks a transaction. -/
def IsControlFree : Call → Prop
  | execute sql => Database.IsControlFree sql
  | _ => True

instance : DecidablePred IsControlFree
  | begin | commit | rollback | close _ => inferInstanceAs (Decidable True)
  | execute sql => inferInstanceAs (Decidable (Database.IsControlFree sql))

end Session.Call

/-- A transaction is open on the server, on the session's connection. -/
def Attached.IsUnderway (a : Attached) : Prop := a.On (·.isOpen = true)

instance : DecidablePred Attached.IsUnderway := fun a =>
  inferInstanceAs (Decidable (a.On (·.isOpen = true)))

/-- A call of a session, and the session as the call has found it. -/
structure Deed where
  call : Session.Call
  found : Attached

namespace Deed

/-- The outcome of the call. -/
def outcome (d : Deed) : Outcome GatewayError Unit := (d.call.run d.found).1

/-- The session as the call has left it. -/
def left (d : Deed) : Attached := (d.call.run d.found).2

/-- The statements of the caller that have been sent, each with its answer. -/
def said (d : Deed) : List (String × Outcome Database.Error Unit) :=
  match d.call, d.found.session.connection with
  | .execute sql, some c =>
    answers (statementTexts sql)
      (Link.remembering (.plain sql c.record) ⟨c, d.found.engine.server⟩)
  | _, _ => []

/-- When a call with statements is answered with success, all of them have been. -/
theorem said_of_ok {d : Deed} {sql : String} (hcall : d.call = .execute sql)
    (hok : d.outcome = .ok ()) :
    d.said = (statementTexts sql).map fun text => (text, .ok ()) := by
  obtain ⟨call, a⟩ := d
  subst hcall
  have hrun : (Session.execute sql a).1 = .ok () := hok
  cases hc : a.session.connection with
  | none =>
      rw [show Session.execute sql a = _ from Session.onConnection_of_closed (plainBatch sql) hc]
        at hrun
      cases hrun
  | some c =>
      rw [Session.execute, Session.onConnection_of_open _ hc] at hrun
      have hbatch := of_mapError_ok (x := plainBatch sql) (s := ⟨c, a.engine.server⟩)
        (Prod.ext hrun rfl)
      rw [said, hc]
      exact answers_of_ok (congrArg Prod.fst hbatch)

/-- A begin that has succeeded. -/
def HasBegun (d : Deed) : Prop := d.call = .begin ∧ d.outcome = .ok ()

/-- The call has left the committed rows as they were. -/
def CommitsNothing (d : Deed) : Prop :=
  d.left.engine.server.rows = d.found.engine.server.rows

instance : DecidablePred CommitsNothing := fun d =>
  inferInstanceAs (Decidable (d.left.engine.server.rows = d.found.engine.server.rows))

end Deed

/-- A course of calls of a session, which anything may interrupt that happens elsewhere on the
engine and adds to the server's history. -/
inductive Attached.Chronicle (a₀ : Attached) : List Deed → Attached → Prop where
  | start : Chronicle a₀ [] a₀
  | called {log : List Deed} {a : Attached} {call : Session.Call} : call.IsControlFree →
      Chronicle a₀ log a → Chronicle a₀ (log ++ [⟨call, a⟩]) (call.run a).2
  | elsewhere {log : List Deed} {a : Attached} {e : Engine} :
      a.engine.server.history <+: e.server.history →
        Chronicle a₀ log a → Chronicle a₀ log { a with engine := e }

/-- The begin that has succeeded last, and what has been done since then. -/
def SinceBegin (log : List Deed) (begun : Deed) (since : List Deed) : Prop :=
  (∃ before, log = before ++ begun :: since) ∧ begun.HasBegun ∧ ∀ d ∈ since, ¬ d.HasBegun

theorem SinceBegin.append {log since : List Deed} {begun d : Deed}
    (h : SinceBegin log begun since) (hd : ¬ d.HasBegun) :
    SinceBegin (log ++ [d]) begun (since ++ [d]) := by
  obtain ⟨⟨before, rfl⟩, hbegun, hsince⟩ := h
  exact ⟨⟨before, by rw [List.append_assoc, List.cons_append]⟩, hbegun,
    List.forall_mem_append.mpr ⟨hsince, List.forall_mem_singleton.mpr hd⟩⟩

/-- There is only one begin that has succeeded last. -/
theorem SinceBegin.unique {log since since' : List Deed} {begun begun' : Deed}
    (h : SinceBegin log begun since) (h' : SinceBegin log begun' since') :
    begun = begun' ∧ since = since' := by
  obtain ⟨⟨before, rfl⟩, hbegun, hsince⟩ := h
  obtain ⟨⟨before', hlog⟩, hbegun', hsince'⟩ := h'
  -- Whichever of the two came later would be among what has been done since the other.
  rcases List.append_eq_append_iff.mp hlog with ⟨between, -, htail⟩ | ⟨between, -, htail⟩
  · cases between with
    | nil => exact List.cons.inj htail
    | cons d between =>
        obtain ⟨-, rfl⟩ := List.cons.inj htail
        exact absurd hbegun' (hsince begun' (List.mem_append_right _ List.mem_cons_self))
  · cases between with
    | nil => exact (List.cons.inj htail).imp Eq.symm Eq.symm
    | cons d between =>
        obtain ⟨-, rfl⟩ := List.cons.inj htail
        exact absurd hbegun (hsince' begun (List.mem_append_right _ List.mem_cons_self))

namespace Session

/-- Calls made one after another, each whatever has become of those before. -/
def deeds : List Call → Attached → List Deed × Attached
  | [], a => ([], a)
  | call :: calls, a =>
    let (log, a') := deeds calls (call.run a).2
    (⟨call, a⟩ :: log, a')

/-- They carry any chronicle on. -/
theorem chronicle_append {calls : List Call} (h : ∀ call ∈ calls, call.IsControlFree)
    {a₀ a : Attached} {log : List Deed} (hlog : a₀.Chronicle log a) :
    a₀.Chronicle (log ++ (deeds calls a).1) (deeds calls a).2 := by
  induction calls generalizing log a with
  | nil => exact (List.append_nil log).symm ▸ hlog
  | cons call calls ih =>
      have hcall := Attached.Chronicle.called (h call List.mem_cons_self) hlog
      have hrest := ih (fun call' h' => h call' (List.mem_cons_of_mem call h')) hcall
      rwa [List.append_assoc] at hrest

theorem chronicle_deeds {calls : List Call} (h : ∀ call ∈ calls, call.IsControlFree)
    (a : Attached) : a.Chronicle (deeds calls a).1 (deeds calls a).2 :=
  chronicle_append h .start

theorem call_mem_of_deeds {calls : List Call} {a : Attached} {d : Deed}
    (hd : d ∈ (deeds calls a).1) : d.call ∈ calls := by
  induction calls generalizing a with
  | nil => cases hd
  | cons call calls ih =>
      rcases List.mem_cons.mp hd with rfl | hd
      · exact List.mem_cons_self
      · exact List.mem_cons_of_mem call (ih hd)

/-- A begin that succeeds, and then other calls. -/
theorem sinceBegin_deeds {calls : List Call} {a : Attached} (hbegin : (begin a).1 = .ok ())
    (hcalls : .begin ∉ calls) :
    SinceBegin (deeds (.begin :: calls) a).1 ⟨.begin, a⟩ (deeds calls (begin a).2).1 :=
  ⟨⟨[], rfl⟩, ⟨rfl, hbegin⟩, fun _ hd hbegun => hcalls (hbegun.1 ▸ call_mem_of_deeds hd)⟩

end Session

/-! ### The invariant -/

/-- The session is open, in a transaction that `begun` has begun, and `since` is what has been done
since then. -/
structure Attached.Within (begun : Deed) (since : List Deed) (a : Attached) : Prop where
  isOpen : a.session.connection ≠ none
  held : ∀ w, a.On (·.connection.work = some w) →
    Tallies (since.flatMap Deed.said) w.pending ∧ ∀ d ∈ since, d.found.IsUnderway
  begins : begun.CommitsNothing
  commits : ∀ d ∈ since, d.found.IsUnderway → d.CommitsNothing
  isTrue : Candid a.engine.server.history → a.On (·.connection.IsTrue)

/-- The chronicle accounts for the session: its flag is set only within a transaction that has been
begun. -/
structure Attached.Follows (log : List Deed) (a : Attached) : Prop where
  isSingle : a.IsSingle
  within : a.session.inTransaction = true →
    ∃ begun since, SinceBegin log begun since ∧ a.Within begun since

namespace Attached

variable {a a' : Attached} {begun d : Deed} {since log : List Deed} {call : Session.Call}

theorem isUnderway_of_work {w : Work} (h : a.On (·.connection.work = some w)) : a.IsUnderway := by
  obtain ⟨c, hc, hw⟩ := h
  exact ⟨c, hc, Option.isSome_of_eq_some hw⟩

/-- One more call that leaves the session in its transaction: whatever is pending then was pending
before, or has been added by the call. -/
theorem Within.append (h : d.found.Within begun since) (hopen : a'.session.connection ≠ none)
    (hadds : ∀ w', a'.On (·.connection.work = some w') → ∃ w part,
      d.found.On (·.connection.work = some w) ∧ Tallies d.said part ∧
        w'.pending = w.pending ++ part)
    (hcommits : d.found.IsUnderway → d.CommitsNothing)
    (htrue : Candid a'.engine.server.history → a'.On (·.connection.IsTrue)) :
    a'.Within begun (since ++ [d]) where
  isOpen := hopen
  held w' hw' := by
    obtain ⟨w, part, hw, hpart, hpending⟩ := hadds w' hw'
    obtain ⟨htallies, hunderway⟩ := h.held w hw
    refine ⟨?_, List.forall_mem_append.mpr ⟨hunderway, List.forall_mem_singleton.mpr ?_⟩⟩
    · rw [List.flatMap_append, List.flatMap_singleton, hpending]
      exact htallies.append hpart
    · exact isUnderway_of_work hw
  begins := h.begins
  commits := List.forall_mem_append.mpr ⟨h.commits, List.forall_mem_singleton.mpr hcommits⟩
  isTrue := htrue

/-- A begin amidst a transaction is refused. -/
theorem follows_begin_again (h : a.Follows log) (hflag : a.session.inTransaction = true) :
    (Session.begin a).2.Follows (log ++ [⟨.begin, a⟩]) := by
  have hrefused := Session.begin_of_active hflag
  obtain ⟨begun, since, hsince, hwithin⟩ := h.within hflag
  have hnot : ¬ Deed.HasBegun ⟨.begin, a⟩ := by
    rintro ⟨-, hok : (Session.begin a).1 = .ok ()⟩
    rw [hrefused] at hok
    cases hok
  have hsame : (Session.begin a).2 = a := by rw [hrefused]
  rw [hsame]
  refine ⟨h.isSingle, fun _ => ⟨begun, since ++ [⟨.begin, a⟩], hsince.append hnot, ?_⟩⟩
  refine Within.append (d := ⟨.begin, a⟩) hwithin hwithin.isOpen (fun w hw => ?_) (fun _ => ?_)
    hwithin.isTrue
  · exact ⟨w, [], hw, .nil, (List.append_nil _).symm⟩
  · exact congrArg (·.engine.server.rows) hsame

/-- A begin outside of any transaction: when it succeeds nothing has been done since. -/
theorem follows_begin_anew (h : a.Follows log) (hflag : a.session.inTransaction = false) :
    (Session.begin a).2.Follows (log ++ [⟨.begin, a⟩]) := by
  refine ⟨Session.lasting_isSingle.begin a h.isSingle, fun hflag' => ?_⟩
  obtain ⟨-, hok⟩ | ⟨hsame, -⟩ := Session.flag_of_begin a
  · obtain ⟨c, l, hc, hwork, hleft⟩ := Session.link_of_begin_ok hok
    have hinactive : c.record.isActive = false := by
      rw [← Session.recordIsActive_of_open hc]
      exact (Session.isIdle_of_isSingle h.isSingle hflag).record
    obtain ⟨hempty, hrows, hrecord⟩ := Transaction.work_of_begin_ok hinactive hwork
    refine ⟨⟨.begin, a⟩, [], ⟨⟨log, rfl⟩, ⟨rfl, hok⟩, List.forall_mem_nil _⟩, ?_⟩
    rw [hleft]
    refine ⟨Option.some_ne_none _, fun w hw => ⟨?_, List.forall_mem_nil _⟩, ?_,
      List.forall_mem_nil _, fun _ => ?_⟩
    · obtain rfl : ({} : Work) = w :=
        Option.some.inj (hempty.symm.trans ((on_iff rfl).mp hw))
      exact .nil
    · show (Session.begin a).2.engine.server.rows = _
      rw [hleft]
      exact hrows
    · exact (on_iff rfl).mpr fun hidle => absurd hidle hrecord
  · exact absurd ((hsame.trans hflag).symm.trans hflag') Bool.false_ne_true

/-- Statements of the caller, inside a transaction or outside of any. -/
theorem follows_execute {sql : String} (h : a.Follows log) (hsql : IsControlFree sql) :
    (Session.execute sql a).2.Follows (log ++ [⟨.execute sql, a⟩]) := by
  refine ⟨Session.lasting_isSingle.execute sql a h.isSingle, fun hflag' => ?_⟩
  cases hc : a.session.connection with
  | none =>
      have hrefused := Session.onConnection_of_closed (plainBatch sql) hc
      rw [show (Session.execute sql a) = _ from hrefused] at hflag'
      exact absurd ((h.isSingle.closed hc).symm.trans hflag') Bool.false_ne_true
  | some c =>
      -- The batch starts where the text has been remembered.
      obtain ⟨l₁, hl₁⟩ : ∃ l₁, l₁ = Link.remembering (.plain sql c.record) ⟨c, a.engine.server⟩ :=
        ⟨_, rfl⟩
      have hleft : (Session.execute sql a).2 =
          a.withLink (performAll (statementTexts sql) l₁).2 := by
        rw [hl₁, Session.execute, Session.onConnection_of_open _ hc]
        rfl
      have hwork : l₁.connection.work = c.work := by rw [hl₁]; rfl
      have hrows : l₁.server.rows = a.engine.server.rows := by rw [hl₁]; rfl
      have hsaid : Deed.said ⟨.execute sql, a⟩ = answers (statementTexts sql) l₁ := by
        rw [hl₁, Deed.said, hc]
      rw [hleft] at hflag' ⊢
      obtain ⟨begun, since, hsince, hwithin⟩ := h.within hflag'
      have hnot : ¬ Deed.HasBegun ⟨.execute sql, a⟩ := by
        rintro ⟨hcall, -⟩
        cases hcall
      refine ⟨begun, since ++ [⟨.execute sql, a⟩], hsince.append hnot, ?_⟩
      refine Within.append (d := ⟨.execute sql, a⟩) hwithin (Option.some_ne_none _)
        (fun w' hw' => ?_) (fun hunderway => ?_) (fun hcandid => ?_)
      · replace hw' := (on_iff rfl).mp hw'
        cases hw : c.work with
        | none =>
            have hnone := work_of_performAll_of_none hsql (hwork.trans hw)
            cases hnone.symm.trans hw'
        | some w =>
            obtain ⟨part, hpart, hpending⟩ :=
              (tallies_of_performAll hsql (hwork.trans hw)).2 w' hw'
            exact ⟨w, part, (on_iff hc).mpr hw, hsaid ▸ hpart, hpending⟩
      · obtain ⟨w, hw⟩ := Option.isSome_iff_exists.mp ((on_iff hc).mp hunderway)
        show (Session.execute sql a).2.engine.server.rows = a.engine.server.rows
        rw [hleft, ← hrows]
        exact (tallies_of_performAll hsql (hwork.trans hw)).1
      · have hgrows : a.engine.server.history <+:
            (performAll (statementTexts sql) l₁).2.server.history := by
          refine List.IsPrefix.trans ?_ (Link.grows_performAll _ l₁)
          rw [hl₁]
          exact List.prefix_append _ _
        have htrue := (on_iff hc).mp (hwithin.isTrue (hcandid.of_prefix hgrows))
        refine (on_iff rfl).mpr (isTrue_of_performAll hsql hcandid ?_)
        rw [hl₁]
        exact htrue

theorem follows_called (h : a.Follows log) (hcall : call.IsControlFree) :
    (call.run a).2.Follows (log ++ [⟨call, a⟩]) := by
  have hsingle := Session.lasting_isSingle
  -- After a commit, a rollback or closing the flag is not set, and nothing has to be shown.
  have hended {a' : Attached} (hsingle : a'.IsSingle) (hflag : a'.session.inTransaction = false) :
      a'.Follows (log ++ [⟨call, a⟩]) :=
    ⟨hsingle, fun hflag' => absurd (hflag.symm.trans hflag') Bool.false_ne_true⟩
  cases call with
  | begin =>
      cases hflag : a.session.inTransaction with
      | true => exact follows_begin_again h hflag
      | false => exact follows_begin_anew h hflag
  | commit => exact hended (hsingle.commit a h.isSingle) (Session.flag_of_commit h.isSingle)
  | rollback => exact hended (hsingle.rollback a h.isSingle) (Session.flag_of_rollback h.isSingle)
  | close unwinding =>
      have hclosed := hsingle.close unwinding a h.isSingle
      exact hended hclosed (hclosed.closed (Session.closed_of_close unwinding a))
  | execute sql => exact follows_execute h hcall

/-- Every chronicle accounts for its session. -/
theorem Chronicle.follows {a₀ : Attached} (hlog : a₀.Chronicle log a) (h : a₀.Follows []) :
    a.Follows log := by
  induction hlog with
  | start => exact h
  | called hcall _ ih => exact follows_called ih hcall
  | elsewhere hgrows _ ih =>
      refine ⟨Session.lasting_isSingle.elsewhere _ _ ih.isSingle, fun hflag => ?_⟩
      obtain ⟨begun, since, hsince, hwithin⟩ := ih.within hflag
      exact ⟨begun, since, hsince, hwithin.isOpen, hwithin.held, hwithin.begins, hwithin.commits,
        fun hcandid => hwithin.isTrue (hcandid.of_prefix hgrows)⟩

/-- A session that is in no transaction has begun none. -/
theorem follows_of_isIdle (h : a.IsIdle) : a.Follows [] :=
  ⟨Session.isSingle_of_isIdle h, fun hflag => absurd (h.flag.symm.trans hflag) Bool.false_ne_true⟩

end Attached

end TransactionGateway
