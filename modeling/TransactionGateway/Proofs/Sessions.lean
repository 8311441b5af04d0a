import TransactionGateway.Gateway.Operation
import TransactionGateway.Proofs.Envelope

/-! # Calls of a session

How what is known of a connection carries over to the session that holds it, and what is known of
the calls of a session to all that a caller can do with it.

* **Links.** `Attached.On P a` says that the session is open and that `P` holds of its connection
  and the server. A call that works on the connection leads where the work itself leads
  (`leads_onConnection`).
* **Parts** (`Indifferent`, `Steady`). Besides the work on its connection a call only sets the flag
  and reports. So what the work, flags and notices respect is respected by the call, and closing
  also gives the connection back.
* **Operations.** A relation that every call respects is respected by every operation of a caller,
  tried and nested ones included (`Operation.moves_run`). -/

namespace TransactionGateway

open Database Act

namespace Attached

/-- The session with another link. -/
def withLink (l : Link) (a : Attached) : Attached :=
  { session := { a.session with connection := some l.connection }
    engine := { a.engine with server := l.server } }

/-- The session is open, and its link has the property. -/
def On (P : Link → Prop) (a : Attached) : Prop :=
  ∃ c, a.session.connection = some c ∧ P ⟨c, a.engine.server⟩

theorem On.isClosed {P : Link → Prop} {a : Attached} (h : a.On P) :
    a.session.isClosed = false := by
  obtain ⟨c, hc, -⟩ := h
  rw [Session.isClosed, hc]
  rfl

theorem on_iff {P : Link → Prop} {a : Attached} {c : Connection}
    (hc : a.session.connection = some c) : a.On P ↔ P ⟨c, a.engine.server⟩ := by
  refine ⟨fun ⟨c', hc', hP⟩ => ?_, fun hP => ⟨c, hc, hP⟩⟩
  obtain rfl := Option.some.inj (hc.symm.trans hc')
  exact hP

instance (P : Link → Prop) [DecidablePred P] : DecidablePred (On P) := fun a =>
  match hc : a.session.connection with
  | none => isFalse fun ⟨_, hc', _⟩ => nomatch hc.symm.trans hc'
  | some _ => decidable_of_iff _ (on_iff hc).symm

theorem not_on_false (a : Attached) : ¬ a.On fun _ => False := fun ⟨_, _, h⟩ => h

theorem on_withLink {P : Link → Prop} {l : Link} (h : P l) (a : Attached) : (a.withLink l).On P :=
  ⟨l.connection, rfl, h⟩

/-- The session is open, and its flag and its link are so. -/
structure At (inTransaction : Bool) (P : Link → Prop) (a : Attached) : Prop where
  flag : a.session.inTransaction = inTransaction
  on : a.On P

end Attached

namespace Session

variable {α : Type}

theorem onConnection_of_open (work : Act Link Database.Error α) {a : Attached} {c : Connection}
    (h : a.session.connection = some c) :
    onConnection work a = ((work ⟨c, a.engine.server⟩).1.mapError .database,
      a.withLink (work ⟨c, a.engine.server⟩).2) := by
  unfold onConnection
  rw [h]
  rfl

/-! ### Refusals -/

theorem onConnection_of_closed (work : Act Link Database.Error α) {a : Attached}
    (h : a.session.connection = none) : onConnection work a = (.err .sessionClosed, a) := by
  unfold onConnection
  rw [h]

theorem begin_of_active {a : Attached} (h : a.session.inTransaction = true) :
    begin a = (.err .transactionAlreadyActive, a) := by
  unfold begin
  rw [h]
  rfl

theorem begin_of_closed {a : Attached} (hflag : a.session.inTransaction = false)
    (h : a.session.connection = none) : begin a = (.err .sessionClosed, a) := by
  unfold begin
  rw [hflag, onConnection_of_closed _ h]
  rfl

theorem commit_of_inactive {a : Attached} (h : a.session.inTransaction = false) :
    commit a = (.err .noActiveTransaction, a) := by
  unfold commit
  rw [h]
  rfl

theorem rollback_of_inactive {a : Attached} (h : a.session.inTransaction = false) :
    rollback a = (.err .noActiveTransaction, a) := by
  unfold rollback
  rw [h]
  rfl

theorem close_of_closed {a : Attached} (h : a.session.connection = none) (unwinding : Bool) :
    close unwinding a = (.ok (), a) := by
  unfold close isClosed
  rw [h]
  rfl

theorem letGo_of_closed {a : Attached} (h : a.session.connection = none) (unwinding : Bool)
    (failed : String → SessionEvent) : letGo unwinding failed a = a := by
  unfold letGo
  rw [close_of_closed h]

/-- However closing ends, the session has given its connection back, and shows no transaction. -/
theorem closed_of_close (unwinding : Bool) (a : Attached) :
    (close unwinding a).2.session.connection = none := by
  unfold close isClosed
  cases hc : a.session.connection with
  | none => exact hc
  | some c =>
      show (giveBack unwinding _).session.connection = none
      unfold giveBack
      split
      · assumption
      · rfl

theorem closed_of_letGo (unwinding : Bool) (failed : String → SessionEvent) (a : Attached) :
    (letGo unwinding failed a).session.connection = none := by
  have hclosed := closed_of_close unwinding a
  unfold letGo
  cases hclose : close unwinding a with
  | mk r a' =>
      rw [hclose] at hclosed
      cases r <;> exact hclosed

/-! ### What calls are made of -/

/-- Neither a flag nor an event of a transaction is seen by the relation. -/
structure Indifferent (R : Attached → Attached → Prop) : Prop where
  flag : ∀ flag a, R a (a.withFlag flag)
  started : ∀ a, R a (a.note .started)
  committed : ∀ a, R a (a.note .committed)
  rolledBack : ∀ a, R a (a.note .rolledBack)
  endedByBackend : ∀ a, R a (a.note .endedByBackend)

/-- Neither a flag nor a notice is seen by the relation. -/
structure Steady (R : Attached → Attached → Prop) : Prop where
  flag : ∀ flag a, R a (a.withFlag flag)
  notice : ∀ n a, R a { a with engine := a.engine.note n }

section moves
variable {R : Attached → Attached → Prop} [IsPreorder Attached R]

theorem Indifferent.settle (h : Indifferent R) {event : SessionEvent}
    (hevent : ∀ a, R a (a.note event)) (r : Outcome GatewayError Unit) (a : Attached) :
    R a (settle event r a).2 := by
  cases r with
  | ok b => exact trans_of R (h.flag false a) (hevent _)
  | err e => exact h.flag _ a
  | panic => exact refl_of R a

theorem Indifferent.moves_begin (h : Indifferent R)
    (hw : Moves R (onConnection Transaction.begin)) : Moves R begin := by
  intro a
  have hwork := hw a
  unfold begin
  split
  · exact refl_of R a
  · cases hb : onConnection Transaction.begin a with
    | mk r a' =>
        rw [hb] at hwork
        cases r with
        | err e => exact hwork
        | panic => exact hwork
        | ok b => exact trans_of R hwork (trans_of R (h.flag true a') (h.started _))

theorem Indifferent.moves_commit (h : Indifferent R)
    (hw : Moves R (onConnection Transaction.commit)) : Moves R commit := by
  intro a
  unfold commit
  split
  · exact refl_of R a
  · split
    · exact refl_of R a
    · exact trans_of R (hw a) (h.settle h.committed _ _)

theorem Indifferent.moves_rollback (h : Indifferent R)
    (hw : Moves R (onConnection Transaction.rollback)) : Moves R rollback := by
  intro a
  unfold rollback
  split
  · exact refl_of R a
  · split
    · exact refl_of R a
    · split
      · exact trans_of R (h.flag false a) (h.endedByBackend _)
      · exact trans_of R (hw a) (h.settle h.rolledBack _ _)

omit [IsPreorder Attached R] in
theorem Steady.note (h : Steady R) (event : SessionEvent) (a : Attached) : R a (a.note event) :=
  h.notice _ a

omit [IsPreorder Attached R] in
theorem Steady.indifferent (h : Steady R) : Indifferent R :=
  ⟨h.flag, h.note _, h.note _, h.note _, h.note _⟩

theorem Steady.moves_begin (h : Steady R) (hw : Moves R (onConnection Transaction.begin)) :
    Moves R begin := h.indifferent.moves_begin hw

theorem Steady.moves_commit (h : Steady R) (hw : Moves R (onConnection Transaction.commit)) :
    Moves R commit := h.indifferent.moves_commit hw

theorem Steady.moves_rollback (h : Steady R) (hw : Moves R (onConnection Transaction.rollback)) :
    Moves R rollback := h.indifferent.moves_rollback hw

theorem Steady.moves_close (h : Steady R) (hr : Moves R rollback)
    (hg : ∀ unwinding a, R a (giveBack unwinding a)) (unwinding : Bool) :
    Moves R (close unwinding) := by
  intro a
  unfold close
  split
  · exact refl_of R a
  · have hrolled : R a (if a.session.inTransaction then rollback a else (.ok (), a)).2 := by
      split
      · exact hr a
      · exact refl_of R a
    exact trans_of R hrolled (trans_of R (hg unwinding _) (h.note .closed _))

theorem Steady.letGo (h : Steady R) {unwinding : Bool} (hc : Moves R (close unwinding))
    (failed : String → SessionEvent) (a : Attached) : R a (letGo unwinding failed a) := by
  have hclosed := hc a
  unfold Session.letGo
  cases hclose : close unwinding a with
  | mk r a' =>
      rw [hclose] at hclosed
      cases r with
      | err e => exact trans_of R hclosed (h.note _ _)
      | ok b => exact hclosed
      | panic => exact hclosed

end moves

end Session

/-! ### The pool -/

/-- The pool is left alone. -/
def Attached.SamePool (a a' : Attached) : Prop := a'.engine.pool = a.engine.pool

instance : IsPreorder Attached Attached.SamePool where
  refl _ := rfl
  trans _ _ _ h h' := Eq.trans h' h

namespace Session

variable {α : Type}

theorem steady_pool : Steady Attached.SamePool := ⟨fun _ _ => rfl, fun _ _ => rfl⟩

theorem pool_onConnection (work : Act Link Database.Error α) :
    Moves Attached.SamePool (onConnection work) := by
  intro a
  unfold onConnection
  split <;> rfl

theorem pool_begin : Moves Attached.SamePool begin := steady_pool.moves_begin (pool_onConnection _)

theorem pool_commit : Moves Attached.SamePool commit :=
  steady_pool.moves_commit (pool_onConnection _)

theorem pool_rollback : Moves Attached.SamePool rollback :=
  steady_pool.moves_rollback (pool_onConnection _)

/-! ### Where calls lead -/

section leads
variable {P Q E : Link → Prop} {R : Attached → Prop} {inTransaction : Bool}

theorem leads_onConnection {work : Act Link Database.Error α} (h : Leads P work Q E) :
    Leads (Attached.At inTransaction P) (onConnection work) (Attached.At inTransaction Q)
      (Attached.At inTransaction E) := by
  intro a ha
  obtain ⟨hflag, c, hc, hp⟩ := ha
  have hw := h _ hp
  rw [onConnection_of_open work hc]
  cases hwork : work ⟨c, a.engine.server⟩ with
  | mk r l =>
      rw [hwork] at hw
      cases r with
      | ok b => exact ⟨hflag, Attached.on_withLink hw a⟩
      | err e => exact ⟨hflag, Attached.on_withLink hw a⟩
      | panic => exact hw

/-- After a commit or rollback that succeeds the session shows no transaction. -/
theorem leads_settle {work : Act Link Database.Error Unit} (event : SessionEvent)
    (h : Leads P work Q E) :
    Leads (Attached.At inTransaction P)
      (fun a => settle event (onConnection work a).1 (onConnection work a).2)
      (Attached.At false Q) (Attached.On E) := by
  intro a ha
  have hw := leads_onConnection h a ha
  dsimp only
  cases hwork : onConnection work a with
  | mk r a' =>
      rw [hwork] at hw
      cases r with
      | ok b => exact ⟨rfl, hw.on⟩
      | err e => exact hw.on
      | panic => exact hw

theorem leads_begin (h : Leads P Transaction.begin Q E) :
    Leads (Attached.At false P) begin (Attached.At true Q) (Attached.At false E) := by
  intro a ha
  have hw := leads_onConnection h a ha
  simp only [begin, ha.flag, Bool.false_eq_true, if_false]
  cases hwork : onConnection Transaction.begin a with
  | mk r a' =>
      rw [hwork] at hw
      cases r with
      | ok b => exact ⟨rfl, hw.on⟩
      | err e => exact hw
      | panic => exact hw

theorem leads_commit (h : Leads P Transaction.commit Q E) :
    Leads (Attached.At true P) commit (Attached.At false Q) (Attached.On E) := by
  intro a ha
  have hw := leads_settle .committed h a ha
  simpa only [commit, ha.flag, ha.on.isClosed, Bool.not_true, Bool.false_eq_true, if_false]
    using hw

theorem leads_rollback_of_active (hactive : ∀ l, P l → l.connection.record.isActive = true)
    (h : Leads P Transaction.rollback Q E) :
    Leads (Attached.At true P) rollback (Attached.At false Q) (Attached.On E) := by
  intro a ha
  have hw := leads_settle .rolledBack h a ha
  obtain ⟨hflag, c, hc, hp⟩ := ha
  have hrec : a.recordIsActive = true := by
    unfold Attached.recordIsActive
    rw [hc]
    exact hactive _ hp
  have hopen : a.session.isClosed = false := Attached.On.isClosed ⟨c, hc, hp⟩
  simpa only [rollback, hflag, hopen, hrec, Bool.not_true, Bool.false_eq_true, if_false] using hw

/-- When the record shows no transaction nothing is sent, and the rollback has succeeded. -/
theorem leads_rollback (hP : ∀ l, P l → Q l ∧ E l) (h : Leads P Transaction.rollback Q E) :
    Leads (Attached.On P) rollback (Attached.On Q) (Attached.On E) := by
  intro a ha
  obtain ⟨c, hc, hp⟩ := ha
  have hon : a.On P := ⟨c, hc, hp⟩
  unfold rollback
  cases hflag : a.session.inTransaction with
  | false => exact ⟨c, hc, (hP _ hp).2⟩
  | true =>
      have hw := leads_imp (leads_settle .rolledBack h) (fun _ h => h.on)
        (fun _ h => h) a ⟨hflag, hon⟩
      simp only [hon.isClosed, Bool.not_true, Bool.false_eq_true, if_false]
      cases a.recordIsActive with
      | false => exact ⟨c, hc, (hP _ hp).1⟩
      | true =>
          simp only [Bool.not_true, Bool.false_eq_true, if_false]
          exact hw

end leads

theorem simulates_onConnection {τ : Type} {R : Link → τ → Prop} {inTransaction : Bool}
    {work : Act Link Database.Error α} {y : Act τ Database.Error α} (h : Simulates R work y) :
    Simulates (fun a t => Attached.At inTransaction (R · t) a) (onConnection work)
      (y.mapError .database) := by
  intro a t ha
  obtain ⟨hflag, c, hc, hl⟩ := ha
  obtain ⟨hr, hl'⟩ := h _ _ hl
  rw [onConnection_of_open work hc, mapError_apply, hr]
  exact ⟨rfl, hflag, Attached.on_withLink hl' a⟩

end Session

/-! ### Operations -/

/-- Every call of a session, and every report of an envelope, respects the relation. -/
structure RespectedByCalls (R : Attached → Attached → Prop) : Prop where
  begin : Moves R Session.begin
  commit : Moves R Session.commit
  rollback : Moves R Session.rollback
  close : Moves R (Session.close false)
  execute : ∀ sql, Moves R (Session.execute sql)
  report : ∀ event a, R a (Session.transactional.report event a)

/-- So does every call of the connection's transaction interface, and every notice. -/
structure Respected (R : Attached → Attached → Prop) : Prop extends RespectedByCalls R where
  direct : ∀ call : Transaction.Call, Moves R (Session.onConnection call.run)
  note : ∀ n a, R a { a with engine := a.engine.note n }
  report := fun _ a => note _ a

namespace Operation

mutual

/-- The calls of the connection's transaction interface, past the session. -/
def directCalls : Operation → List Transaction.Call
  | direct call => [call]
  | attempt op => directCalls op
  | nested ops => directCallsEach ops
  | _ => []

/-- Those of any of the operations. -/
def directCallsEach : List Operation → List Transaction.Call
  | [] => []
  | op :: ops => directCalls op ++ directCallsEach ops

end

variable {R : Attached → Attached → Prop}

mutual

/-- A relation that not every direct call respects is respected by operations without those. -/
theorem moves_run_of_calls [IsPreorder Attached R] (h : RespectedByCalls R) :
    ∀ op : Operation, (∀ call ∈ op.directCalls, Moves R (Session.onConnection call.run)) →
      Moves R op.run
  | begin, _ => moves_mapError _ h.begin
  | commit, _ => moves_mapError _ h.commit
  | rollback, _ => moves_mapError _ h.rollback
  | close, _ => moves_mapError _ h.close
  | sql text, _ => moves_mapError _ (h.execute text)
  | direct call, hd => moves_mapError _ (hd call List.mem_cons_self)
  | refuse _, _ => moves_raise _
  | fail _, _ => moves_raise _
  | crash, _ => moves_panic
  | attempt op, hd => moves_forgiven (moves_run_of_calls h op hd)
  | nested ops, hd =>
      Envelope.moves_run h.report h.begin h.commit h.rollback (moves_runEach_of_calls h ops hd)

theorem moves_runEach_of_calls [IsPreorder Attached R] (h : RespectedByCalls R) :
    ∀ ops : List Operation,
      (∀ call ∈ directCallsEach ops, Moves R (Session.onConnection call.run)) →
        ∀ x ∈ runEach ops, Moves R x
  | [], _, _, hx => nomatch hx
  | op :: ops, hd, x, hx => by
      rcases List.mem_cons.mp hx with rfl | hx
      · exact moves_run_of_calls h op fun call hc => hd call (List.mem_append_left _ hc)
      · exact moves_runEach_of_calls h ops (fun call hc => hd call (List.mem_append_right _ hc))
          x hx

end

theorem moves_run [IsPreorder Attached R] (h : Respected R) (op : Operation) : Moves R op.run :=
  moves_run_of_calls h.toRespectedByCalls op fun call _ => h.direct call

theorem moves_runAll_of_run [IsPreorder Attached R] (h : ∀ op : Operation, Moves R op.run)
    (ops : List Operation) : Moves R (runAll ops) := by
  induction ops with
  | nil => exact moves_done ()
  | cons op ops ih => exact moves_bind (h op) fun _ => ih

theorem moves_runAll [IsPreorder Attached R] (h : Respected R) (ops : List Operation) :
    Moves R (runAll ops) := moves_runAll_of_run (moves_run h) ops

end Operation

end TransactionGateway
