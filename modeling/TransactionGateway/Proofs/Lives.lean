import Mathlib.Logic.Relation
import TransactionGateway.Proofs.Sessions
import TransactionGateway.Proofs.Envelope

/-! # The life of a session

What can happen to a session from the time when it is opened, and what is left of it when it is
closed.

* **Uses** (`Attached.Use`). Operations of a caller, tried and nested ones included, and lists of
  statements run on the session, and it is let go of. Meanwhile anything may happen elsewhere on its
  engine. A session that has ended in a panic goes on as the panic has left it.
* **Lasting properties** (`Attached.Lasting`). What every call keeps, and does not depend on the
  engine, holds all the life of a session.
* **Closed sessions** (`Operation.onClosed`). A closed session shows no transaction, whatever has
  happened to it. What is asked of it changes nothing and is refused, but not always for the same
  reason: a commit or rollback looks at the flag first. -/

namespace TransactionGateway

open Database Act

namespace Attached

/-- One thing that happens to a session, or elsewhere on its engine; direct calls of the
connection's transaction interface only where they are allowed. -/
inductive Use (direct : Prop) : Attached → Attached → Prop where
  | ran {op : Operation} (a : Attached) : (∀ call ∈ op.directCalls, direct) →
      Use direct a (op.run a).2
  | processed (texts : List String) (a : Attached) :
      Use direct a (Envelope.run Session.transactional plainView (texts.map statement) a).2
  | letGo (unwinding : Bool) (failed : String → SessionEvent) (a : Attached) :
      Use direct a (Session.letGo unwinding failed a)
  | elsewhere (e : Engine) (a : Attached) : Use direct a { a with engine := e }

/-- Any number of uses, one after another. -/
def Reaches (direct : Prop) : Attached → Attached → Prop := Relation.ReflTransGen (Use direct)

/-- A property that every call keeps, wherever the engine has got to meanwhile. -/
structure Lasting (direct : Prop) (P : Attached → Prop) : Prop where
  begin : ∀ a, P a → P (Session.begin a).2
  commit : ∀ a, P a → P (Session.commit a).2
  rollback : ∀ a, P a → P (Session.rollback a).2
  close : ∀ unwinding a, P a → P (Session.close unwinding a).2
  execute : ∀ sql a, P a → P (Session.execute sql a).2
  called : direct → ∀ call : Transaction.Call, ∀ a, P a → P (Session.onConnection call.run a).2
  elsewhere : ∀ e a, P a → P { a with engine := e }

/-- The property is handed on. -/
def Hands (P : Attached → Prop) (a a' : Attached) : Prop := P a → P a'

instance (P : Attached → Prop) : IsPreorder Attached (Hands P) where
  refl _ := id
  trans _ _ _ h h' := h' ∘ h

variable {direct : Prop} {P : Attached → Prop} {a a' : Attached}

theorem Lasting.respected (h : Lasting direct P) : RespectedByCalls (Hands P) :=
  ⟨h.begin, h.commit, h.rollback, h.close false, h.execute, fun _ _ => h.elsewhere _ _⟩

theorem Lasting.use (h : Lasting direct P) (hu : Use direct a a') (ha : P a) : P a' := by
  cases hu with
  | @ran op _ hdirect =>
      exact Operation.moves_run_of_calls h.respected op
        (fun call hc => h.called (hdirect call hc) call) a ha
  | processed texts =>
      have hr := h.respected
      refine Envelope.moves_run hr.report hr.begin hr.commit hr.rollback (fun op hop => ?_) a ha
      obtain ⟨text, -, rfl⟩ := List.mem_map.mp hop
      exact hr.execute text
  | letGo unwinding failed =>
      have hclose := h.close unwinding a ha
      unfold Session.letGo
      cases hc : Session.close unwinding a with
      | mk r a' =>
          rw [hc] at hclose
          cases r with
          | ok b => exact hclose
          | err e => exact h.elsewhere _ a' hclose
          | panic => exact hclose
  | elsewhere e => exact h.elsewhere e a ha

theorem Lasting.reaches (h : Lasting direct P) (hr : Reaches direct a a') (ha : P a) : P a' := by
  induction hr with
  | refl => exact ha
  | tail _ hu ih => exact h.use hu ih

end Attached

namespace Operation

/-- Operations run one after another, each whatever has become of those before, with their
outcomes. -/
def runEvery : List Operation → Attached → List (Outcome Failure Unit) × Attached
  | [], a => ([], a)
  | op :: ops, a =>
    let (r, a) := op.run a
    let (rs, a) := runEvery ops a
    (r :: rs, a)

theorem reaches_run {direct : Prop} {op : Operation} (h : ∀ call ∈ op.directCalls, direct) :
    Moves (Attached.Reaches direct) op.run := fun a => .single (.ran a h)

theorem reaches_of_mem {direct : Prop} {ops : List Operation}
    (h : ∀ call ∈ directCallsEach ops, direct) :
    ∀ x ∈ ops.map run, Moves (Attached.Reaches direct) x := by
  induction ops with
  | nil => exact nofun
  | cons op ops ih =>
      intro x hx
      rcases List.mem_cons.mp hx with rfl | hx
      · exact reaches_run fun call hc => h call (List.mem_append_left _ hc)
      · exact ih (fun call hc => h call (List.mem_append_right _ hc)) x hx

theorem reaches_runEvery {direct : Prop} {ops : List Operation}
    (h : ∀ call ∈ directCallsEach ops, direct) (a : Attached) :
    a.Reaches direct (runEvery ops a).2 := by
  induction ops generalizing a with
  | nil => exact .refl
  | cons op ops ih =>
      have hop : ∀ call ∈ op.directCalls, direct :=
        fun call hc => h call (List.mem_append_left _ hc)
      exact (reaches_run hop a).trans (ih (fun call hc => h call (List.mem_append_right _ hc)) _)

end Operation

/-- An engine that has had no session yet. -/
def Engine.unused (server : Server) : Engine := { server, pool := { limits := {}, url := "db" } }

/-- The first session of an engine, opened on a connection that has not been used. -/
def Attached.opened (server : Server) : Attached where
  session := { id := 1, connection := some { serial := 0 } }
  engine := (Session.openOn { serial := 0 } (Engine.unused server)).2

theorem opened_openOn (server : Server) :
    Session.openOn { serial := 0 } (Engine.unused server) =
      (.ok (Attached.opened server).session, (Attached.opened server).engine) := rfl

/-- The same session after operations, whatever has become of each. -/
def Attached.after (ops : List Operation) (server : Server) : Attached :=
  (Operation.runEvery ops (.opened server)).2

/-! ### Closed sessions -/

/-- When it is closed, the session shows no transaction. -/
def Attached.IsQuiet (a : Attached) : Prop :=
  a.session.connection = none → a.session.inTransaction = false

namespace Session

/-- The session is not closed by this. -/
def StaysOpen (a a' : Attached) : Prop :=
  a.session.connection ≠ none → a'.session.connection ≠ none

instance : IsPreorder Attached StaysOpen where
  refl _ := fun h => h
  trans _ _ _ h h' := h' ∘ h

theorem steady_staysOpen : Steady StaysOpen := ⟨fun _ _ h => h, fun _ _ h => h⟩

theorem staysOpen_onConnection {α : Type} (work : Act Link Database.Error α) :
    Moves StaysOpen (onConnection work) := by
  intro a h
  cases hc : a.session.connection with
  | none => exact absurd hc h
  | some c =>
      rw [onConnection_of_open work hc]
      nofun

/-- Only closing turns an open session into a closed one, and it clears the flag. -/
theorem lasting_isQuiet (direct : Prop) : Attached.Lasting direct Attached.IsQuiet := by
  -- A call either finds the session open and leaves it so, or finds it closed and does nothing.
  have hcall {x : Act Attached GatewayError Unit} (hopen : Moves StaysOpen x)
      (hclosed : ∀ a : Attached, a.session.connection = none →
        a.session.inTransaction = false → (x a).2 = a) (a : Attached) (h : a.IsQuiet) :
      (x a).2.IsQuiet := by
    cases hc : a.session.connection with
    | none =>
        rw [hclosed a hc (h hc)]
        exact h
    | some c => exact fun hnone => absurd hnone (hopen a (hc ▸ nofun))
  have hwork {x : Act Link Database.Error Unit} (a : Attached) (h : a.IsQuiet) :
      (onConnection x a).2.IsQuiet :=
    hcall (staysOpen_onConnection x) (fun a hc _ => by rw [onConnection_of_closed x hc]) a h
  have hrollback := hcall (steady_staysOpen.moves_rollback (staysOpen_onConnection _))
    fun a _ hflag => by rw [rollback_of_inactive hflag]
  exact
    { begin := hcall (steady_staysOpen.moves_begin (staysOpen_onConnection _))
        fun a hc hflag => by rw [begin_of_closed hflag hc]
      commit := hcall (steady_staysOpen.moves_commit (staysOpen_onConnection _))
        fun a _ hflag => by rw [commit_of_inactive hflag]
      rollback := hrollback
      close := fun unwinding a h => by
        have hgive (a : Attached) (h : a.IsQuiet) : (giveBack unwinding a).IsQuiet := by
          unfold giveBack
          split
          · exact h
          · exact fun _ => rfl
        have hrolled : (if a.session.inTransaction then rollback a else (.ok (), a)).2.IsQuiet := by
          split
          · exact hrollback a h
          · exact h
        unfold close
        split
        · exact h
        · exact hgive _ hrolled
      execute := fun sql a h => hwork a h
      called := fun _ call a h => hwork a h
      elsewhere := fun _ _ h => h }

end Session

namespace Operation

/-- The outcome of an operation on a closed session. -/
def onClosed : Operation → Outcome Failure Unit
  | begin | sql _ | direct _ | nested _ => .err (.gateway .sessionClosed)
  | commit | rollback => .err (.gateway .noActiveTransaction)
  | close => .ok ()
  | refuse message => .err (.app message)
  | fail cause => .err (.gateway cause)
  | crash => .panic
  | attempt op =>
    match onClosed op with
    | .panic => .panic
    | _ => .ok ()

variable {a : Attached}

theorem run_of_closed (hc : a.session.connection = none) (hflag : a.session.inTransaction = false) :
    ∀ op : Operation, op.run a = (op.onClosed, a)
  | begin => by rw [run, mapError_apply, Session.begin_of_closed hflag hc]; rfl
  | commit => by rw [run, mapError_apply, Session.commit_of_inactive hflag]; rfl
  | rollback => by rw [run, mapError_apply, Session.rollback_of_inactive hflag]; rfl
  | close => by rw [run, mapError_apply, Session.close_of_closed hc]; rfl
  | sql text => by
      rw [run, mapError_apply, Session.execute, Session.onConnection_of_closed _ hc]; rfl
  | direct call => by rw [run, mapError_apply, Session.onConnection_of_closed _ hc]; rfl
  | refuse message => rfl
  | fail cause => rfl
  | crash => rfl
  | attempt op => by
      rw [run, forgiven, run_of_closed hc hflag op, onClosed]
      cases op.onClosed <;> rfl
  | nested ops => by
      rw [run, Envelope.run_of_begin_err (Session.begin_of_closed hflag hc)]; rfl

theorem runEvery_of_closed (hc : a.session.connection = none)
    (hflag : a.session.inTransaction = false) (ops : List Operation) :
    runEvery ops a = (ops.map onClosed, a) := by
  induction ops with
  | nil => rfl
  | cons op ops ih =>
      rw [runEvery, run_of_closed hc hflag]
      dsimp only
      rw [ih, List.map_cons]

end Operation

/-- Once a session is closed, whatever has been done with it before, nothing that is asked of it
changes anything: not the session, not the pool, not the server.

* Operations are answered one by one, each by the same answer wherever it stands.
* All work on the connection is refused because the session is closed, and so is every envelope.
* Closing succeeds, and letting go of the session does nothing. -/
theorem closed_session_unchanged {c : Connection} {e e' : Engine} {s : Session} {a : Attached}
    (hopen : Session.openOn c e = (.ok s, e')) (hreach : (Attached.mk s e').Reaches True a)
    (hclosed : a.session.isClosed = true) :
    (∀ ops, Operation.runEvery ops a = (ops.map Operation.onClosed, a)) ∧
    (∀ (α : Type) (work : Act Link Database.Error α),
      Session.onConnection work a = (.err .sessionClosed, a)) ∧
    (∀ (δ : Type) (v : ErrorView GatewayError δ) (ops : List (Act Attached δ Unit)),
      Envelope.run Session.transactional v ops a = (.err (v.lift .sessionClosed), a)) ∧
    ∀ unwinding failed, Session.close unwinding a = (.ok (), a) ∧
      Session.letGo unwinding failed a = a := by
  have hquiet₀ : (Attached.mk s e').IsQuiet := by
    cases hopen
    exact fun _ => rfl
  have hnone : a.session.connection = none := Option.isNone_iff_eq_none.mp hclosed
  have hflag := (Session.lasting_isQuiet True).reaches hreach hquiet₀ hnone
  refine ⟨Operation.runEvery_of_closed hnone hflag,
    fun α work => Session.onConnection_of_closed work hnone, fun δ v ops => ?_,
    fun unwinding failed => ⟨Session.close_of_closed hnone unwinding,
      Session.letGo_of_closed hnone unwinding failed⟩⟩
  exact Envelope.run_of_begin_err (Session.begin_of_closed hflag hnone)

/-- A server that refuses to roll back. -/
def Database.Server.unyielding : Server where
  faults :=
    [{ statement := "ROLLBACK", schedule := {}, mode := .before, change := .broken,
       error := .unknown "refused" }]

/-- Closed amidst two levels of a transaction, by a call whose rollback has failed. -/
theorem unyielding_closed_unchanged :
    (Attached.after [.begin, .direct .begin, .close] .unyielding).session.isClosed = true ∧
    ∀ ops, Operation.runEvery ops (.after [.begin, .direct .begin, .close] .unyielding) =
      (ops.map Operation.onClosed, .after [.begin, .direct .begin, .close] .unyielding) := by
  have hclosed :
      (Attached.after [.begin, .direct .begin, .close] .unyielding).session.isClosed = true := by
    decide +kernel
  have hreach : (Attached.opened .unyielding).Reaches True
      (.after [.begin, .direct .begin, .close] .unyielding) :=
    Operation.reaches_runEvery (fun _ _ => trivial) _
  exact ⟨hclosed, (closed_session_unchanged (opened_openOn _) hreach hclosed).1⟩

/-- Not every call on a closed session is refused because the session is closed. -/
theorem not_always_sessionClosed :
    ¬ ∀ (c : Connection) (e e' : Engine) (s : Session) (a : Attached),
      Session.openOn c e = (.ok s, e') → (Attached.mk s e').Reaches True a →
        a.session.isClosed = true → (Session.commit a).1 = .err .sessionClosed := by
  intro h
  have hcommit := h _ _ _ _ (.after [.begin, .close] {}) (opened_openOn {})
    (Operation.reaches_runEvery (fun _ _ => trivial) _) (by decide +kernel)
  revert hcommit
  decide +kernel

end TransactionGateway
