import TransactionGateway.Proofs.Accounts
import TransactionGateway.Proofs.AllOrNothing
import TransactionGateway.Proofs.Reports
import TransactionGateway.Proofs.Savepoints
import TransactionGateway.Proofs.SingleTransaction

/-! # Ways out of a session

How a session is left, and what is told of it.

* **Ways** (`Exit`). A session is closed by a call, finished with its guard, let go of with or
  without a guard, in a panic or not, or left at the end of scoped work. Each way closes it up to
  three times over (`Exit.closings`), since whoever lets go of a session at last closes it as well.
* **Once.** Whatever the state of the session, the first of these closes it and the others find
  nothing to do (`Exit.once`). So its closing is reported once, and so is the failure of the
  rollback that it begins with: as the answer, or as one warning.
* **Dues** (`Attached.dues`). Nothing that a caller does with a session changes how often it has
  been and will be reported closed. So scoped work leaves exactly one such report behind it. -/

namespace TransactionGateway

open Database Act

/-! ### What is reported -/

namespace Engine

/-- How often a session has been reported closed. -/
def closings (id : Nat) (e : Engine) : Nat := e.notices.count (.session id .closed)

/-- The warnings that have been reported. -/
def warnings (e : Engine) : List Notice := e.notices.filter fun n => n.level = .warn

variable {n : Notice}

theorem closings_note {id : Nat} (h : n ≠ .session id .closed) (e : Engine) :
    (e.note n).closings id = e.closings id := by
  simp [closings, note, h]

theorem warnings_note (h : n.level ≠ .warn) (e : Engine) : (e.note n).warnings = e.warnings := by
  simp [warnings, note, h]

theorem warnings_note_warning (h : n.level = .warn) (e : Engine) :
    (e.note n).warnings = e.warnings ++ [n] := by
  simp [warnings, note, h]

theorem notices_putBack (unwinding : Bool) (c : Connection) (e : Engine) :
    (e.putBack unwinding c).notices = e.notices := by
  unfold putBack
  split <;> rfl

/-- A session is open when it has been opened, which is reported, and nothing else. -/
theorem open_of_openSession {e e₁ : Engine} {s : Session} (h : openSession e = (.ok s, e₁)) :
    s.isClosed = false ∧ e₁.notices = e.notices ++ [.session s.id .opened] := by
  have hcheckout : (checkout e).2.notices = e.notices :=
    congrArg (fun p => p.2.notices) (checkoutWithin_reporting e.notices e e.pool.checkoutMillis)
  unfold openSession at h
  rw [bind_apply] at h
  cases hc : checkout e with
  | mk r e' =>
      rw [hc] at h hcheckout
      cases r with
      | ok c =>
          cases h
          exact ⟨rfl, congrArg (· ++ _) hcheckout⟩
      | err cause => cases h
      | panic => cases h

end Engine

/-! ### One closing -/

namespace Attached

/-- The same session goes on, and is neither reported closed nor warned about. -/
structure GoesOn (a a' : Attached) : Prop where
  id : a'.session.id = a.session.id
  isClosed : a'.session.isClosed = a.session.isClosed
  closings : ∀ id, a'.engine.closings id = a.engine.closings id
  warnings : a'.engine.warnings = a.engine.warnings

instance : IsPreorder Attached GoesOn where
  refl _ := ⟨rfl, rfl, fun _ => rfl, rfl⟩
  trans _ _ _ h h' := ⟨h'.id.trans h.id, h'.isClosed.trans h.isClosed,
    fun id => (h'.closings id).trans (h.closings id), h'.warnings.trans h.warnings⟩

theorem goesOn_note {event : SessionEvent} (hclosed : event ≠ .closed)
    (hlevel : event.level ≠ .warn) (a : Attached) : a.GoesOn (a.note event) where
  id := rfl
  isClosed := rfl
  closings _ := Engine.closings_note (fun h => hclosed (Notice.session.inj h).2) _
  warnings := Engine.warnings_note (n := .session a.session.id event) hlevel _

theorem indifferent_goesOn : Session.Indifferent GoesOn where
  flag _ _ := ⟨rfl, rfl, fun _ => rfl, rfl⟩
  started := goesOn_note nofun nofun
  committed := goesOn_note nofun nofun
  rolledBack := goesOn_note nofun nofun
  endedByBackend := goesOn_note nofun nofun

theorem goesOn_onConnection {α : Type} (work : Act Link Database.Error α) :
    Moves GoesOn (Session.onConnection work) := by
  intro a
  cases hc : a.session.connection with
  | none =>
      rw [Session.onConnection_of_closed work hc]
      exact refl_of GoesOn a
  | some c =>
      rw [Session.onConnection_of_open work hc]
      refine ⟨rfl, ?_, fun _ => rfl, rfl⟩
      rw [Session.isClosed, Session.isClosed, hc]
      rfl

theorem goesOn_rollback : Moves GoesOn Session.rollback :=
  indifferent_goesOn.moves_rollback (goesOn_onConnection _)

/-- The failure of the rollback that the session is closed with, if there is one. -/
def closingFailure (a : Attached) : Option GatewayError :=
  if a.session.isClosed || !a.session.inTransaction then none
  else
    match (Session.rollback a).1 with
    | .err cause => some cause
    | _ => none

/-- How often the session is still to be reported closed. -/
def due (a : Attached) : Nat := if a.session.isClosed then 0 else 1

/-- The session is closed now, which is reported if it was not closed before, and this is warned
of. -/
structure Closes (warned : List Notice) (a a' : Attached) : Prop where
  id : a'.session.id = a.session.id
  isClosed : a'.session.isClosed = true
  closings : a'.engine.closings a.session.id = a.engine.closings a.session.id + a.due
  warnings : a'.engine.warnings = a.engine.warnings ++ warned

variable {warned : List Notice} {a a₁ a' : Attached}

theorem GoesOn.closes (h : a.GoesOn a₁) (h' : a₁.Closes warned a') : a.Closes warned a' where
  id := h'.id.trans h.id
  isClosed := h'.isClosed
  closings := by rw [← h.id, h'.closings, h.closings, due, due, h.isClosed]
  warnings := by rw [h'.warnings, h.warnings]

/-- A warning of the session is no report of its closing. -/
theorem Closes.warn {event : SessionEvent} (h : a.Closes [] a') (hlevel : event.level = .warn) :
    a.Closes [.session a.session.id event] (a'.note event) where
  id := h.id
  isClosed := h.isClosed
  closings := by
    have hne : Notice.session a'.session.id event ≠ .session a.session.id .closed := by
      rintro hsame
      rw [(Notice.session.inj hsame).2] at hlevel
      cases hlevel
    exact (Engine.closings_note hne _).trans h.closings
  warnings := by
    rw [← h.id, ← List.append_nil a.engine.warnings, ← h.warnings]
    exact Engine.warnings_note_warning (n := .session a'.session.id event) hlevel _

end Attached

/-- The answer of a call that may have failed. -/
def Outcome.ofFailure {ε : Type} : Option ε → Outcome ε Unit
  | none => .ok ()
  | some e => .err e

namespace Session

theorem settle_ne_panic {r : Outcome GatewayError Unit} (h : r ≠ .panic) (event : SessionEvent)
    (a : Attached) : (settle event r a).1 ≠ .panic := by
  cases r with
  | ok u => simp [settle]
  | err e => simp [settle]
  | panic => exact absurd rfl h

theorem rollback_ne_panic (a : Attached) : (rollback a).1 ≠ .panic := by
  cases hflag : a.session.inTransaction with
  | false => simp [rollback_of_inactive hflag]
  | true =>
      cases hc : a.session.connection with
      | none => simp [rollback, hflag, isClosed, hc]
      | some c =>
          cases hactive : a.recordIsActive with
          | false => simp [rollback_of_ended hflag hc hactive]
          | true =>
              have hp := (Transaction.rollback_spec ⟨c, a.engine.server⟩).1
              rw [rollback_of_active hflag hc hactive, onConnection_of_open _ hc]
              refine settle_ne_panic ?_ _ _
              cases hr : (Transaction.rollback ⟨c, a.engine.server⟩).1 with
              | ok u => simp [Outcome.mapError]
              | err e => simp [Outcome.mapError]
              | panic => exact absurd hr hp

theorem closes_giveBack (unwinding : Bool) {a : Attached} (hopen : a.session.isClosed = false) :
    a.Closes [] ((giveBack unwinding a).note .closed) := by
  cases hc : a.session.connection with
  | none =>
      rw [isClosed, hc] at hopen
      cases hopen
  | some c =>
      have hnotices := Engine.notices_putBack unwinding c a.engine
      have hgiven : giveBack unwinding a =
          { session := { a.session with connection := none, inTransaction := false }
            engine := a.engine.putBack unwinding c } := by
        unfold giveBack
        rw [hc]
      rw [hgiven]
      refine ⟨rfl, rfl, ?_, ?_⟩
      · simp [Attached.due, hopen, Engine.closings, Attached.note, Engine.note, hnotices]
      · simp [Engine.warnings, Attached.note, Engine.note, hnotices, Notice.level,
          SessionEvent.level]

/-- Closing answers with the failure of its rollback, and the session is closed all the same. -/
theorem close_spec (unwinding : Bool) (a : Attached) :
    (close unwinding a).1 = .ofFailure a.closingFailure ∧ a.Closes [] (close unwinding a).2 := by
  cases hclosed : a.session.isClosed with
  | true =>
      have hc : a.session.connection = none := Option.isNone_iff_eq_none.mp hclosed
      rw [close_of_closed hc]
      refine ⟨by simp [Attached.closingFailure, hclosed, Outcome.ofFailure], rfl, hclosed, ?_, ?_⟩
      · simp [Attached.due, hclosed]
      · exact (List.append_nil _).symm
  | false =>
      have hrolled : a.GoesOn (if a.session.inTransaction then rollback a else (.ok (), a)).2 := by
        split
        · exact Attached.goesOn_rollback a
        · exact refl_of Attached.GoesOn a
      have hclose : close unwinding a =
          ((if a.session.inTransaction then rollback a else (.ok (), a)).1,
            (giveBack unwinding
              (if a.session.inTransaction then rollback a else (.ok (), a)).2).note .closed) := by
        unfold close
        rw [hclosed]
        rfl
      rw [hclose]
      refine ⟨?_, hrolled.closes (closes_giveBack unwinding (hrolled.isClosed.trans hclosed))⟩
      have hp := rollback_ne_panic a
      cases hflag : a.session.inTransaction with
      | false => simp [Attached.closingFailure, hflag, Outcome.ofFailure]
      | true =>
          simp only [Attached.closingFailure, hclosed, hflag, if_true]
          cases hr : (rollback a).1 with
          | ok u => rfl
          | err e => rfl
          | panic => exact absurd hr hp

/-- Letting go of a session closes it and warns of a failure. -/
theorem closes_letGo {warning : String → SessionEvent}
    (hlevel : ∀ reason, (warning reason).level = .warn) (unwinding : Bool) (a : Attached) :
    a.Closes (a.closingFailure.toList.map fun cause => .session a.session.id (warning cause.text))
      (letGo unwinding warning a) := by
  obtain ⟨hanswer, hcloses⟩ := close_spec unwinding a
  unfold letGo
  cases hclose : close unwinding a with
  | mk r a' =>
      rw [hclose] at hanswer hcloses
      obtain rfl : r = _ := hanswer
      cases a.closingFailure with
      | none => exact hcloses
      | some cause => exact hcloses.warn (hlevel cause.text)

end Session

/-! ### What a caller does -/

namespace Attached

variable {warned : List Notice} {a a' : Attached}

/-- One thing that a caller can do with a session, or that happens elsewhere on its engine
meanwhile. Only the session itself reports that it is closed. -/
inductive Handles : Attached → Attached → Prop where
  | began (a : Attached) : Handles a (Session.begin a).2
  | committed (a : Attached) : Handles a (Session.commit a).2
  | rolledBack (a : Attached) : Handles a (Session.rollback a).2
  | closed (a : Attached) : Handles a (Session.close false a).2
  | connected {α : Type} (work : Act Link Database.Error α) (a : Attached) :
      Handles a (Session.onConnection work a).2
  | elsewhere {e : Engine} {a : Attached} :
      e.closings a.session.id = a.engine.closings a.session.id → Handles a { a with engine := e }

/-- Any number of these, one after another. -/
def Handled : Attached → Attached → Prop := Relation.ReflTransGen Handles

instance : IsPreorder Attached Handled :=
  inferInstanceAs (IsPreorder Attached (Relation.ReflTransGen Handles))

/-- How often the session has been reported closed, or is still to be. -/
def dues (a : Attached) : Nat := a.engine.closings a.session.id + a.due

/-- The session is the same, and is to be reported closed as often as before. -/
structure SameDues (a a' : Attached) : Prop where
  id : a'.session.id = a.session.id
  dues : a'.dues = a.dues

instance : IsPreorder Attached SameDues where
  refl _ := ⟨rfl, rfl⟩
  trans _ _ _ h h' := ⟨h'.id.trans h.id, h'.dues.trans h.dues⟩

theorem GoesOn.sameDues (h : a.GoesOn a') : a.SameDues a' := by
  refine ⟨h.id, ?_⟩
  rw [dues, dues, h.id, h.closings, due, due, h.isClosed]

theorem Closes.sameDues (h : a.Closes warned a') : a.SameDues a' := by
  refine ⟨h.id, ?_⟩
  rw [dues, dues, h.id, h.closings, due.eq_def a', h.isClosed]
  rfl

theorem Handles.sameDues (h : Handles a a') : a.SameDues a' := by
  cases h with
  | began => exact (indifferent_goesOn.moves_begin (goesOn_onConnection _) a).sameDues
  | committed => exact (indifferent_goesOn.moves_commit (goesOn_onConnection _) a).sameDues
  | rolledBack => exact (goesOn_rollback a).sameDues
  | closed => exact (Session.close_spec false a).2.sameDues
  | connected work => exact (goesOn_onConnection work a).sameDues
  | elsewhere hsame => exact ⟨rfl, congrArg (· + a.due) hsame⟩

theorem Handled.sameDues (h : Handled a a') : a.SameDues a' := by
  induction h with
  | refl => exact refl_of SameDues a
  | tail _ hstep ih => exact trans_of SameDues ih hstep.sameDues

end Attached

/-- Every operation of a caller consists of these. -/
theorem Session.handled_calls : RespectedByCalls Attached.Handled where
  begin a := .single (.began a)
  commit a := .single (.committed a)
  rollback a := .single (.rolledBack a)
  close a := .single (.closed a)
  execute sql a := .single (.connected (plainBatch sql) a)
  report event a := by
    have hother : Notice.envelope event ≠ .session a.session.id .closed := nofun
    exact .single (.elsewhere (Engine.closings_note hother a.engine))

theorem Operation.handled_runAll (ops : List Operation) :
    Moves Attached.Handled (runAll ops) :=
  moves_runAll_of_run (fun op => moves_run_of_calls Session.handled_calls op
    fun call _ a => .single (.connected call.run a)) ops

/-! ### All ways out -/

namespace Closing

variable {a : Attached}

/-- The failure that a closing tells its caller of. -/
def told : Closing → Attached → List GatewayError
  | call unwinding, a =>
    match (Session.close unwinding a).1 with
    | .err cause => [cause]
    | _ => []
  | letGo _ _, _ => []

/-- The failures that several closings tell of, one after another. -/
def toldAll : List Closing → Attached → List GatewayError
  | [], _ => []
  | closing :: closings, a => closing.told a ++ toldAll closings (closing.run a)

theorem toldAll_of_closed (h : a.session.connection = none) (closings : List Closing) :
    toldAll closings a = [] := by
  induction closings with
  | nil => rfl
  | cons closing closings ih =>
      have hrun : closing.run a = a := runAll_of_closed h [closing]
      have htold : closing.told a = [] := by
        cases closing with
        | call unwinding => rw [told, Session.close_of_closed h]
        | letGo unwinding failed => rfl
      rw [toldAll, hrun, htold, ih, List.nil_append]

/-- After the first closing the others have no effect. -/
theorem runAll_cons (closing : Closing) (closings : List Closing) (a : Attached) :
    runAll (closing :: closings) a = closing.run a := by
  rw [runAll, List.foldl_cons, ← runAll, runAll_of_closed (closing.closed_run a)]

theorem toldAll_cons (closing : Closing) (closings : List Closing) (a : Attached) :
    toldAll (closing :: closings) a = closing.told a := by
  rw [toldAll, toldAll_of_closed (closing.closed_run a), List.append_nil]

theorem told_call (unwinding : Bool) (a : Attached) :
    (call unwinding).told a = a.closingFailure.toList := by
  rw [told, (Session.close_spec unwinding a).1]
  cases a.closingFailure <;> rfl

end Closing

/-- The ways in which a session is left. -/
inductive Exit where
  /-- Closed by a call, and let go of later. -/
  | closed (unwinding : Bool)
  /-- Finished together with its guard. -/
  | finished
  /-- Let go of, with its guard if it has one. -/
  | dropped (isGuarded unwinding : Bool)
  /-- Closed after scoped work that has failed. -/
  | failed
deriving DecidableEq, Repr

namespace Exit

/-- The end of scoped work. -/
def ofWork {ε α : Type} : Outcome ε α → Exit
  | .ok _ => closed false
  | .err _ => failed
  | .panic => dropped false true

/-- The closings on the way. A guard closes its session when it is let go of, and so does the
session itself, whether or not it has been closed before. -/
def closings : Exit → List Closing
  | closed unwinding => [.call unwinding, .letGo unwinding .dropFailed]
  | finished => [.call false, .letGo false .scopeDropFailed, .letGo false .dropFailed]
  | dropped false unwinding => [.letGo unwinding .dropFailed]
  | dropped true unwinding =>
    [.letGo unwinding .scopeDropFailed, .letGo unwinding .dropFailed]
  | failed => [.letGo false .closeFailed, .letGo false .dropFailed]

/-- What is reported of a failure, unless it is the answer. -/
def warning? : Exit → Option (String → SessionEvent)
  | closed _ | finished => none
  | dropped false _ => some .dropFailed
  | dropped true _ => some .scopeDropFailed
  | failed => some .closeFailed

/-- The session left in this way. -/
def run (exit : Exit) (a : Attached) : Attached := Closing.runAll exit.closings a

/-- The failures that are answers on the way. -/
def told (exit : Exit) (a : Attached) : List GatewayError := Closing.toldAll exit.closings a

section first
variable {exit : Exit} {unwinding : Bool} {warning : String → SessionEvent} {rest : List Closing}

theorem run_of_call (h : exit.closings = .call unwinding :: rest) (a : Attached) :
    exit.run a = (Session.close unwinding a).2 := by
  rw [run, h, Closing.runAll_cons]
  rfl

theorem run_of_letGo (h : exit.closings = .letGo unwinding warning :: rest) (a : Attached) :
    exit.run a = Session.letGo unwinding warning a := by
  rw [run, h, Closing.runAll_cons]
  rfl

end first

/-- The session is closed, which is reported unless it was closed before. The failure to roll it
back, if there is one, is told or warned of, but not both. -/
structure Once (exit : Exit) (a : Attached) : Prop where
  closes : a.Closes (match exit.warning? with
    | none => []
    | some warning =>
      a.closingFailure.toList.map fun cause => .session a.session.id (warning cause.text))
    (exit.run a)
  told : exit.told a = match exit.warning? with
    | none => a.closingFailure.toList
    | some _ => []

section once
variable {exit : Exit} {unwinding : Bool} {rest : List Closing}

theorem once_of_call (h : exit.closings = .call unwinding :: rest) (hw : exit.warning? = none)
    (a : Attached) : exit.Once a where
  closes := by
    rw [run_of_call h, hw]
    exact (Session.close_spec unwinding a).2
  told := by rw [told, h, Closing.toldAll_cons, Closing.told_call, hw]

theorem once_of_letGo {warning : String → SessionEvent}
    (h : exit.closings = .letGo unwinding warning :: rest) (hw : exit.warning? = some warning)
    (hlevel : ∀ reason, (warning reason).level = .warn) (a : Attached) : exit.Once a where
  closes := by
    rw [run_of_letGo h, hw]
    exact Session.closes_letGo hlevel unwinding a
  told := by
    rw [told, h, Closing.toldAll_cons, hw]
    rfl

end once

/-- Every way out of a session closes it once, and tells of a failure once. -/
theorem once (exit : Exit) (a : Attached) : exit.Once a := by
  cases exit with
  | closed unwinding => exact once_of_call rfl rfl a
  | finished => exact once_of_call rfl rfl a
  | dropped isGuarded unwinding =>
      cases isGuarded with
      | false => exact once_of_letGo rfl rfl (fun _ => rfl) a
      | true => exact once_of_letGo rfl rfl (fun _ => rfl) a
  | failed => exact once_of_letGo rfl rfl (fun _ => rfl) a

end Exit

/-! ### Scopes and guards -/

/-- The outcome of scoped work, when closing its session has failed or not. -/
def Outcome.closedWith {ε α : Type} (lift : GatewayError → ε) (failure : Option GatewayError) :
    Outcome ε α → Outcome ε α
  | .ok value =>
    match failure with
    | none => .ok value
    | some cause => .err (lift cause)
  | .err own => .err own
  | .panic => .panic

namespace Engine

variable {ε α : Type}

theorem endScope_eq (lift : GatewayError → ε) (r : Outcome ε α) (a : Attached) :
    endScope lift r a =
      (r.closedWith lift a.closingFailure, ((Exit.ofWork r).run a).engine) := by
  have hanswer := (Session.close_spec false a).1
  cases r with
  | panic =>
      have hrun : (Exit.ofWork (.panic : Outcome ε α)).run a =
          Session.letGo true .dropFailed a := Exit.run_of_letGo rfl a
      rw [hrun]
      rfl
  | ok value =>
      have hrun : (Exit.ofWork (.ok value : Outcome ε α)).run a = (Session.close false a).2 :=
        Exit.run_of_call rfl a
      rw [hrun, endScope]
      cases hclose : Session.close false a with
      | mk r a' =>
          rw [hclose] at hanswer
          obtain rfl : r = _ := hanswer
          cases a.closingFailure <;> rfl
  | err own =>
      have hrun : (Exit.ofWork (.err own : Outcome ε α)).run a =
          Session.letGo false .closeFailed a := Exit.run_of_letGo rfl a
      rw [hrun, endScope, Session.letGo]
      cases hclose : Session.close false a with
      | mk r a' =>
          rw [hclose] at hanswer
          obtain rfl : r = _ := hanswer
          cases a.closingFailure <;> rfl

/-- Whatever a caller has done with a session, it has been reported closed once when it is left. -/
theorem closings_of_scope {work : Act Attached ε α} {e e₁ : Engine} {s : Session}
    (hwork : Moves Attached.Handled work) (hopen : openSession e = (.ok s, e₁)) (exit : Exit) :
    (work ⟨s, e₁⟩).2.session.id = s.id ∧
      (exit.run (work ⟨s, e₁⟩).2).engine.closings s.id = e.closings s.id + 1 := by
  obtain ⟨hid, hdues⟩ := (hwork ⟨s, e₁⟩).sameDues
  obtain ⟨hopened, hnotices⟩ := open_of_openSession hopen
  have hfirst : e₁.closings s.id = e.closings s.id := by
    simp [closings, hnotices]
  have hleft := (exit.once (work ⟨s, e₁⟩).2).closes.closings
  -- The dues are the same all the time: one closing at first, and none when the session is left.
  refine ⟨hid, ?_⟩
  calc (exit.run (work ⟨s, e₁⟩).2).engine.closings s.id
      = (work ⟨s, e₁⟩).2.dues := by rw [← hid]; exact hleft
    _ = (Attached.mk s e₁).dues := hdues
    _ = e.closings s.id + 1 := by simp [Attached.dues, Attached.due, hopened, hfirst]

theorem withGuard_eq {lift : GatewayError → ε} {work : Act Attached ε α} {e e₁ : Engine}
    {s : Session} {unwinding : Bool} (hopen : openSession e = (.ok s, e₁))
    (hpanic : unwinding = true ↔ (work ⟨s, e₁⟩).1 = .panic) :
    withGuard lift work e = ((work ⟨s, e₁⟩).1,
      ((Exit.dropped true unwinding).run (work ⟨s, e₁⟩).2).engine) := by
  have hopen' : openSession.mapError lift e = (.ok s, e₁) := by
    rw [mapError_apply, hopen]
    rfl
  have hdropped : (Exit.dropped true unwinding).run (work ⟨s, e₁⟩).2 =
      Session.letGo unwinding .scopeDropFailed (work ⟨s, e₁⟩).2 := Exit.run_of_letGo rfl _
  refine (bind_of_ok hopen').trans ?_
  rw [hdropped]
  dsimp only
  cases hwork : work ⟨s, e₁⟩ with
  | mk r a =>
      rw [hwork] at hpanic
      cases r with
      | ok value =>
          obtain rfl : unwinding = false := Bool.eq_false_iff.mpr fun h => nomatch hpanic.mp h
          rfl
      | err own =>
          obtain rfl : unwinding = false := Bool.eq_false_iff.mpr fun h => nomatch hpanic.mp h
          rfl
      | panic =>
          obtain rfl : unwinding = true := hpanic.mpr rfl
          rfl

end Engine

namespace World

theorem release_eq (k : Kept) (e : Engine) :
    release k e = ((Exit.dropped k.isGuarded false).run ⟨k.session, e⟩).engine := by
  unfold release
  cases k.isGuarded with
  | false => exact (congrArg Attached.engine (Exit.run_of_letGo rfl _)).symm
  | true => exact (congrArg Attached.engine (Exit.run_of_letGo rfl _)).symm

theorem finish_eq {name : String} {w : World} {k : Kept} (hk : w.kept? name = some k)
    (hguarded : k.isGuarded = true) :
    w.finish name = (.ofOutcome .gateway (fun _ => .done)
        (.ofFailure (Attached.mk k.session w.engine).closingFailure),
      (w.forget name).withEngine (Exit.finished.run ⟨k.session, w.engine⟩).engine) := by
  have hanswer := (Session.close_spec false ⟨k.session, w.engine⟩).1
  have hrun : Exit.finished.run ⟨k.session, w.engine⟩ =
      (Session.close false ⟨k.session, w.engine⟩).2 := Exit.run_of_call rfl _
  simp only [finish, hk, hguarded, if_true]
  rw [hrun, hanswer]

end World

/-- How scoped and guarded work leaves the session that has been opened for it. -/
structure Engine.LeavesOnce {ε α : Type} (lift : GatewayError → ε) (work : Act Attached ε α)
    (e : Engine) : Prop where
  opened : (openSession e).1 ≠ .panic
  /-- Without a session the work is not done. -/
  refused : ∀ cause e₁, openSession e = (.err cause, e₁) →
    withSession lift work e = (.err (lift cause), e₁)
  /-- Its own error wins over a failure to close, its value does not, and its session is reported
  closed once. -/
  ofScope : ∀ s e₁ r a, openSession e = (.ok s, e₁) → work ⟨s, e₁⟩ = (r, a) →
    withSession lift work e =
      (r.closedWith lift a.closingFailure, ((Exit.ofWork r).run a).engine) ∧
    a.session.id = s.id ∧
    ((Exit.ofWork r).run a).engine.closings s.id = e.closings s.id + 1
  /-- A guard leaves the outcome of the work as it is. -/
  ofGuard : ∀ s e₁ r a unwinding, openSession e = (.ok s, e₁) → work ⟨s, e₁⟩ = (r, a) →
    (unwinding = true ↔ r = .panic) →
    withGuard lift work e = (r, ((Exit.dropped true unwinding).run a).engine)
  /-- However a session is left, it is closed once and a failure is told once. -/
  once : ∀ (exit : Exit) (a : Attached), exit.Once a
  /-- A kept session that is let go of is left by one of the exits. -/
  released : ∀ k e, World.release k e =
    ((Exit.dropped k.isGuarded false).run ⟨k.session, e⟩).engine
  /-- A guarded session that is finished is left by one of the exits, and tells of its failure. -/
  finished : ∀ name (w : World) k, w.kept? name = some k → k.isGuarded = true →
    w.finish name = (.ofOutcome .gateway (fun _ => .done)
        (.ofFailure (Attached.mk k.session w.engine).closingFailure),
      (w.forget name).withEngine (Exit.finished.run ⟨k.session, w.engine⟩).engine)

/-- Every way out of scoped and guarded work leaves the session once, whatever the work has done
with it and however it has ended. -/
theorem Engine.every_exit_once {ε α : Type} (lift : GatewayError → ε) {work : Act Attached ε α}
    (hwork : Moves Attached.Handled work) (e : Engine) : LeavesOnce lift work e where
  opened := openSession_ne_panic e
  refused _ _ := withSession_of_err lift work
  ofScope s e₁ r a hopen hrun := by
    have hclosings := closings_of_scope hwork hopen (Exit.ofWork r)
    have hscope := withSession_of_open lift work hopen
    rw [hrun] at hclosings hscope
    exact ⟨hscope.trans (endScope_eq lift r a), hclosings⟩
  ofGuard s e₁ r a unwinding hopen hrun hpanic := by
    have hguard := @withGuard_eq ε α lift work e e₁ s unwinding hopen
    rw [hrun] at hguard
    exact hguard hpanic
  once := Exit.once
  released := World.release_eq
  finished _ _ _ := World.finish_eq

/-- Work that fails in its transaction, on a session whose rollback then fails as well. -/
theorem lateCommit_every_exit_once :
    Moves Attached.Handled (Operation.runAll [.begin, .sql "PUT a", .refuse "x"]) ∧
    ∃ s e₁ r a, Engine.openSession Engine.lateCommit = (.ok s, e₁) ∧
      Operation.runAll [.begin, .sql "PUT a", .refuse "x"] ⟨s, e₁⟩ = (r, a) ∧
      Engine.withSession .gateway (Operation.runAll [.begin, .sql "PUT a", .refuse "x"])
          Engine.lateCommit =
        (r.closedWith .gateway a.closingFailure, ((Exit.ofWork r).run a).engine) ∧
      a.session.id = s.id ∧
      ((Exit.ofWork r).run a).engine.closings s.id = Engine.lateCommit.closings s.id + 1 ∧
      (Exit.ofWork r).Once a ∧
      a.closingFailure = some (.database (.unknown "lost")) ∧
      r.closedWith Failure.gateway a.closingFailure = .err (.app "x") ∧
      ((Exit.ofWork r).run a).engine.warnings =
        [.session 1 (.closeFailed "Database error: lost")] := by
  have hopen : Engine.openSession Engine.lateCommit =
      (.ok ⟨1, some { serial := 0, label := some 1 }, false⟩,
        (Engine.openSession Engine.lateCommit).2) := by decide
  have hwork := Operation.handled_runAll [.begin, .sql "PUT a", .refuse "x"]
  have hleaves := Engine.every_exit_once Failure.gateway hwork Engine.lateCommit
  obtain ⟨hresult, hid, hclosings⟩ := hleaves.ofScope _ _ _ _ hopen (Prod.mk.eta).symm
  exact ⟨hwork, _, _, _, _, hopen, (Prod.mk.eta).symm, hresult, hid, hclosings, hleaves.once _ _,
    by decide +kernel, by decide +kernel, by decide +kernel⟩

end TransactionGateway
