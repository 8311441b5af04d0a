import TransactionGateway.Proofs.SingleTransaction

/-! # What an atomic run hands back

The session after an atomic run of operations that has ended in one way or the other, and what the
run reports about its rollback.

* **Flag** (`handed_back_idle`). Whatever the operations do with the session, short of calling the
  connection's transaction interface past it, and whatever faults strike, the session is in no
  transaction afterwards, so that closing it sends nothing. For that it has to be in none by the
  record when the run starts, and not by the flag alone.
* **Bystanders** (`Attached.Abides`). Operations that leave the transaction of the run alone.
* **Alarms** (`Attached.alarms`). After a failing operation a rollback is reported incomplete only
  when the record has still shown the transaction. A failing commit has cleared the flag by itself,
  so that the rollback after it is refused and always reported (`alarm_of_rollback`). -/

namespace TransactionGateway

open Database Act

variable {δ : Type} {v : ErrorView GatewayError δ} {ops : List (Act Attached δ Unit)}
  {a a' : Attached}

/-! ### Closing -/

/-- A connection that is given back sends nothing; at most it is destroyed. -/
theorem Engine.journal_putBack (unwinding : Bool) (c : Connection) (e : Engine) :
    ∃ farewell, (e.putBack unwinding c).server.journal = e.server.journal ++ farewell ∧
      ∀ entry ∈ farewell, ∃ label, entry = .disconnect label := by
  unfold putBack
  split
  · exact ⟨[], (List.append_nil _).symm, nofun⟩
  · refine ⟨_, rfl, fun entry hentry => ?_⟩
    cases hlabel : c.label with
    | none => rw [hlabel] at hentry; cases hentry
    | some n => rw [hlabel] at hentry; exact ⟨n, List.mem_singleton.mp hentry⟩

/-- Outside of a transaction closing succeeds and sends nothing. -/
theorem Session.close_of_idle (unwinding : Bool) (h : a.session.inTransaction = false) :
    (close unwinding a).1 = .ok () ∧
    ∃ farewell,
      (close unwinding a).2.engine.server.journal = a.engine.server.journal ++ farewell ∧
      ∀ entry ∈ farewell, ∃ label, entry = .disconnect label := by
  cases hc : a.session.connection with
  | none =>
      rw [close_of_closed hc]
      exact ⟨rfl, [], (List.append_nil _).symm, nofun⟩
  | some c =>
      have hclose : close unwinding a = (.ok (), (giveBack unwinding a).note .closed) := by
        simp [close, isClosed, hc, h]
      have hgiven : (giveBack unwinding a).engine = a.engine.putBack unwinding c := by
        rw [giveBack, hc]
      rw [hclose]
      refine ⟨rfl, ?_⟩
      show ∃ farewell, (giveBack unwinding a).engine.server.journal = _ ∧ _
      rw [hgiven]
      exact a.engine.journal_putBack unwinding c

/-! ### The flag -/

namespace Session

theorem flag_of_recover {failure : δ} {r : Outcome δ Unit} (h : a.IsSingle)
    (hrecover : Envelope.recover transactional v failure a = (r, a')) :
    a'.session.inTransaction = false := by
  have hflag := flag_of_rollback h
  unfold Envelope.recover at hrecover
  rw [show transactional.rollback a = rollback a from rfl] at hrecover
  cases hrollback : rollback a with
  | mk r₁ a₁ =>
      rw [hrollback] at hflag hrecover
      cases r₁ <;> cases hrecover <;> exact hflag

/-- A run of operations that keep the session single leaves its flag cleared, unless it panics. -/
theorem flag_of_run {r : Outcome δ Unit} (h : a.IsIdle)
    (hops : ∀ op ∈ ops, Moves (Attached.Hands Attached.IsSingle) op)
    (hrun : Envelope.run transactional v ops a = (r, a')) (hpanic : r ≠ .panic) :
    a'.session.inTransaction = false := by
  have hcalls := lasting_isSingle.respected
  have hsingle := isSingle_of_isIdle h
  have hcourse := Envelope.course_run transactional v ops a
  rw [hrun] at hcourse
  cases hcourse with
  | panickedAtBegin | panicked | panickedAtCommit => exact absurd rfl hpanic
  | notBegun hb =>
      replace hb : begin a = _ := hb
      rcases flag_of_begin a with ⟨-, hok⟩ | ⟨hflag, -⟩
      · rw [hb] at hok
        cases hok
      · rw [hb] at hflag
        exact hflag.trans h.flag
  | committed hb hin hc =>
      have h₂ := (Envelope.moves_inOrder hops).rel hin (hcalls.begin.rel hb hsingle)
      have hflag := flag_of_commit h₂
      rwa [show commit _ = _ from hc] at hflag
  | @stopped before after op _ _ _ _ a₂ a₃ _ hsplit hb hin hop hrecover =>
      subst hsplit
      have hbefore : Moves (Attached.Hands Attached.IsSingle) (Envelope.inOrder before) :=
        Envelope.moves_inOrder fun op hmem => hops op (List.mem_append_left _ hmem)
      have h₂ := hbefore.rel hin (hcalls.begin.rel hb hsingle)
      have h₃ := (hops op (List.mem_append_right _ List.mem_cons_self)).rel hop h₂
      exact flag_of_recover (hcalls.report _ a₃ h₃) hrecover
  | notCommitted hb hin hc hrecover =>
      have h₂ := (Envelope.moves_inOrder hops).rel hin (hcalls.begin.rel hb hsingle)
      exact flag_of_recover (hcalls.commit.rel hc h₂) hrecover

end Session

/-- An atomic run on a session that is in no transaction, neither by its flag nor by the record. The
operations may do with the session whatever they like, commits and rollbacks, closing it, statements
of any kind and runs of their own included, except to call the connection's transaction interface
past it; and faults may strike every statement. When the run ends, with or without an error, the
session is in no transaction, and closing it then succeeds and sends nothing. -/
theorem handed_back_idle {r : Outcome δ Unit} (h : a.IsIdle)
    (hops : ∀ op ∈ ops, Moves (Attached.Reaches False) op)
    (hrun : Envelope.run Session.transactional v ops a = (r, a')) (hpanic : r ≠ .panic) :
    a'.IsIdle ∧ ∀ unwinding, (Session.close unwinding a').1 = .ok () ∧
      ∃ farewell, (Session.close unwinding a').2.engine.server.journal =
          a'.engine.server.journal ++ farewell ∧
        ∀ entry ∈ farewell, ∃ label, entry = .disconnect label := by
  have hcalls := Session.lasting_isSingle.respected
  have hkept : ∀ op ∈ ops, Moves (Attached.Hands Attached.IsSingle) op :=
    fun op hop a => Session.lasting_isSingle.reaches (hops op hop a)
  have hmoves : Moves (Attached.Hands Attached.IsSingle)
      (Envelope.run Session.transactional v ops) :=
    Envelope.moves_run hcalls.report hcalls.begin hcalls.commit hcalls.rollback hkept
  have hflag := Session.flag_of_run h hkept hrun hpanic
  have hsingle := hmoves.rel hrun (Session.isSingle_of_isIdle h)
  exact ⟨Session.isIdle_of_isSingle hsingle hflag, fun unwinding =>
    Session.close_of_idle unwinding hflag⟩

/-- Operations that make free with the session, up to one that fails. -/
def unrulyOperations : List Operation :=
  [.sql "PUT a", .commit, .begin, .attempt (.sql "ROLLBACK"), .attempt (.nested [.sql "PUT b"]),
    .refuse "x"]

/-- What becomes of them in an atomic run. -/
def unruly : Outcome Failure Unit × Attached :=
  Envelope.run Session.transactional callersView (unrulyOperations.map Operation.run)
    (.opened .hasty)

theorem unruly_handed_back : unruly.1 = .err (.app "x") ∧ unruly.2.IsIdle ∧
    (Session.close false unruly.2).1 = .ok () := by
  have hfailed : unruly.1 = .err (.app "x") := by decide +kernel
  have hidle := Session.isIdle_openOn rfl (opened_openOn .hasty)
  obtain ⟨hback, hclosed⟩ := handed_back_idle hidle (Operation.reaches_of_mem (by decide))
    (Prod.eta unruly).symm (by rw [hfailed]; nofun)
  exact ⟨hfailed, hback, (hclosed false).1⟩

/-- A server that once refuses to return to a savepoint. -/
def Database.Server.unreturning : Server where
  faults :=
    [{ statement := "ROLLBACK TO SAVEPOINT diesel_savepoint_1", schedule := {}, mode := .before,
       change := .kept, error := .unknown "refused" }]

/-- When the connection's transaction interface has been called before, the flag alone does not tell
that a session is in no transaction. -/
theorem not_always_handedBack :
    ¬ ∀ (ops : List (Act Attached Failure Unit)) (a : Attached),
      a.session.inTransaction = false → (∀ op ∈ ops, Moves (Attached.Reaches False) op) →
      (Envelope.run Session.transactional callersView ops a).1 ≠ .panic →
        (Envelope.run Session.transactional callersView ops a).2.session.inTransaction = false := by
  intro h
  have hback := h ([Operation.refuse "x"].map Operation.run)
    (.after [.direct .begin] .unreturning) (by decide +kernel)
    (Operation.reaches_of_mem (by decide)) (by decide +kernel)
  exact absurd hback (by decide +kernel)

/-! ### Alarms -/

/-- The reasons given for the rollbacks that have not completed. -/
def Attached.alarms (a : Attached) : List String :=
  a.engine.notices.filterMap fun
    | .envelope (.rollbackIncomplete reason) => some reason
    | _ => none

/-- No alarm is raised. -/
def Attached.SameAlarms (a a' : Attached) : Prop := a'.alarms = a.alarms

instance : IsPreorder Attached Attached.SameAlarms where
  refl _ := rfl
  trans _ _ _ h h' := Eq.trans h' h

/-- What an envelope has to report of its rollback. -/
def complaints (v : ErrorView GatewayError δ) : Outcome GatewayError Unit → List String
  | .err e => [v.ownText e]
  | _ => []

namespace Session

theorem alarms_note (event : SessionEvent) (a : Attached) : (a.note event).alarms = a.alarms := by
  simp [Attached.alarms, Attached.note, Engine.note]

theorem alarms_report (event : EnvelopeEvent) (a : Attached) :
    (transactional.report event a).alarms = a.alarms ++
      match event with
      | .rollbackIncomplete reason => [reason]
      | .operationFailed _ _ => [] := by
  cases event <;> simp [Attached.alarms, transactional, Engine.note]

theorem alarms_onConnection {α : Type} (work : Act Link Database.Error α) (a : Attached) :
    (onConnection work a).2.alarms = a.alarms := by
  unfold onConnection
  split <;> rfl

theorem indifferent_alarms : Indifferent Attached.SameAlarms :=
  ⟨fun _ _ => rfl, alarms_note _, alarms_note _, alarms_note _, alarms_note _⟩

theorem alarms_begin (a : Attached) : (begin a).2.alarms = a.alarms :=
  indifferent_alarms.moves_begin (alarms_onConnection _) a

theorem alarms_commit (a : Attached) : (commit a).2.alarms = a.alarms :=
  indifferent_alarms.moves_commit (alarms_onConnection _) a

theorem alarms_rollback (a : Attached) : (rollback a).2.alarms = a.alarms :=
  indifferent_alarms.moves_rollback (alarms_onConnection _) a

/-- The failure is answered, whatever becomes of the rollback, which alone may raise an alarm. -/
theorem alarms_of_recover (failure : δ) (h : a.IsSingle) :
    (Envelope.recover transactional v failure a).1 = .err failure ∧
      (Envelope.recover transactional v failure a).2.alarms =
        a.alarms ++ complaints v (rollback a).1 := by
  have halarms := alarms_rollback a
  have hpanic := ne_panic_of_goes (goes_rollback h)
  unfold Envelope.recover
  rw [show transactional.rollback a = rollback a from rfl]
  cases hrollback : rollback a with
  | mk r a₁ =>
      rw [hrollback] at halarms hpanic
      cases r with
      | ok u => exact ⟨rfl, halarms.trans (List.append_nil _).symm⟩
      | err e => exact ⟨rfl, (alarms_report _ a₁).trans (congrArg (· ++ _) halarms)⟩
      | panic => exact absurd rfl hpanic

end Session

/-! ### Bystanders -/

/-- A single session is in a transaction by its flag, and these alarms have been raised. -/
structure Attached.Holding (alarms : List String) (a : Attached) : Prop where
  isSingle : a.IsSingle
  flag : a.session.inTransaction = true
  alarms : a.alarms = alarms

/-- A transaction that a single session is in is left to it, and no alarm is raised. -/
def Attached.Abides (a a' : Attached) : Prop := ∀ alarms, a.Holding alarms → a'.Holding alarms

instance : IsPreorder Attached Attached.Abides where
  refl _ _ := id
  trans _ _ _ h h' alarms := h' alarms ∘ h alarms

/-- To report a failing operation is no alarm. -/
theorem Attached.Holding.reported {alarms : List String} (h : a.Holding alarms) (index : Nat)
    (reason : String) :
    (Session.transactional.report (.operationFailed index reason) a).Holding alarms where
  isSingle := Session.lasting_isSingle.elsewhere _ _ h.isSingle
  flag := h.flag
  alarms := by rw [Session.alarms_report, List.append_nil, h.alarms]

namespace Operation

/-- The operation neither begins nor ends a transaction inside another one: what it may try to begin
there is refused. -/
def IsBystander : Operation → Bool
  | begin | nested _ => true
  | sql _ | refuse _ | fail _ | crash => true
  | commit | rollback | close | direct _ => false
  | attempt op => op.IsBystander

theorem abides_run : ∀ op : Operation, op.IsBystander = true → Moves Attached.Abides op.run
  | begin, _ => moves_mapError _ fun a alarms h => by
      rw [Session.begin_of_active h.flag]
      exact h
  | nested ops, _ => fun a alarms h => by
      rw [run, Envelope.run_of_begin_err (Session.begin_of_active h.flag)]
      exact h
  | sql text, _ => moves_mapError _ fun a alarms h =>
      ⟨Session.isSingle_execute text h.isSingle, (Session.flag_onConnection _ a).trans h.flag,
        (Session.alarms_onConnection _ a).trans h.alarms⟩
  | refuse _, _ => moves_raise _
  | fail _, _ => moves_raise _
  | crash, _ => moves_panic
  | attempt op, h => moves_forgiven (abides_run op h)
  | commit, h | rollback, h | close, h | direct _, h => nomatch h

theorem abides_of_mem {ops : List Operation} (h : ∀ op ∈ ops, op.IsBystander = true) :
    ∀ x ∈ ops.map run, Moves Attached.Abides x := by
  intro x hx
  obtain ⟨op, hop, rfl⟩ := List.mem_map.mp hx
  exact abides_run op (h op hop)

end Operation

/-! ### The alarm -/

/-- A begin that succeeds, and operations that leave its transaction alone. -/
theorem Session.holding_of_inOrder {r : Outcome δ Unit} {a₁ a₂ : Attached} (h : a.IsSingle)
    (hops : ∀ op ∈ ops, Moves Attached.Abides op) (hb : begin a = (.ok (), a₁))
    (hin : Envelope.inOrder ops a₁ = (r, a₂)) : a₂.Holding a.alarms := by
  have hsingle := lasting_isSingle.begin a h
  have halarms := alarms_begin a
  have hflag := flag_of_begin a
  rw [hb] at hsingle halarms hflag
  obtain ⟨hflag, -⟩ | ⟨-, hne⟩ := hflag
  · exact (Envelope.moves_inOrder hops).rel hin _ ⟨hsingle, hflag, halarms⟩
  · exact absurd rfl hne

/-- An atomic run on an idle session, with operations that leave its transaction alone, whatever
faults strike. When an operation or the commit has failed, that failure is the answer, and an alarm
is raised just when the rollback fails that follows:

* After an operation that has failed, the rollback succeeds when the record shows no transaction any
  more, so that there is no false alarm.
* After a commit that has failed, the record never shows a transaction any more, and the rollback is
  refused all the same: the alarm is always raised, and always false.

Otherwise there is no alarm. -/
theorem alarm_of_rollback (h : a.IsIdle) (hops : ∀ op ∈ ops, Moves Attached.Abides op) :
    (∀ committing failure a₁,
      Envelope.Fails Session.transactional v ops a committing failure a₁ →
        (Envelope.run Session.transactional v ops a).1 = .err failure ∧
        (Envelope.run Session.transactional v ops a).2.alarms =
          a.alarms ++ complaints v (Session.rollback a₁).1 ∧
        (committing = false → a₁.recordIsActive = false → (Session.rollback a₁).1 = .ok ()) ∧
        (committing = true → a₁.recordIsActive = false ∧
          (Session.rollback a₁).1 = .err .noActiveTransaction)) ∧
    ((∀ committing failure a₁,
      ¬ Envelope.Fails Session.transactional v ops a committing failure a₁) →
        (Envelope.run Session.transactional v ops a).2.alarms = a.alarms) := by
  have hsingle := Session.isSingle_of_isIdle h
  refine ⟨fun committing failure a₁ hfails => ?_, fun hnone => ?_⟩
  · rw [Envelope.run_of_fails hfails]
    cases hfails with
    | @stopped before after op _ _ a₂ a₃ hsplit hb hin hop =>
        subst hsplit
        have h₂ := Session.holding_of_inOrder hsingle
          (fun op hmem => hops op (List.mem_append_left _ hmem)) hb hin
        have h₃ := (hops op (List.mem_append_right _ List.mem_cons_self)).rel hop _ h₂
        have h₁ := h₃.reported before.length (v.text failure)
        obtain ⟨hanswer, halarms⟩ := Session.alarms_of_recover (v := v) failure h₁.isSingle
        refine ⟨hanswer, h₁.alarms ▸ halarms, fun _ hinactive => ?_, nofun⟩
        obtain ⟨c, hc⟩ := Session.exists_connection h₁.isSingle h₁.flag
        rw [Session.rollback_of_ended h₁.flag hc hinactive]
    | @notCommitted e _ a₂ a₁ hb hin hc =>
        have h₂ := Session.holding_of_inOrder hsingle hops hb hin
        have h₁ := Session.lasting_isSingle.commit a₂ h₂.isSingle
        have hflag := Session.flag_of_commit h₂.isSingle
        have hkept := Session.alarms_commit a₂
        rw [show Session.commit a₂ = _ from hc] at h₁ hflag hkept
        obtain ⟨hanswer, halarms⟩ := Session.alarms_of_recover (v := v) (v.lift e) h₁
        refine ⟨hanswer, (hkept.trans h₂.alarms) ▸ halarms, nofun, fun _ => ?_⟩
        rw [Session.rollback_of_inactive hflag]
        exact ⟨(Session.isIdle_of_isSingle h₁ hflag).record, rfl⟩
  · have hcourse := Envelope.course_run Session.transactional v ops a
    generalize hrun : Envelope.run Session.transactional v ops a = run at hcourse ⊢
    obtain ⟨r, a'⟩ := run
    cases hcourse with
    | notBegun hb | panickedAtBegin hb =>
        have halarms := Session.alarms_begin a
        rwa [show Session.begin a = _ from hb] at halarms
    | panicked hb hin => exact (Session.holding_of_inOrder hsingle hops hb hin).alarms
    | @committed _ a₂ _ hb hin hc | @panickedAtCommit _ a₂ _ hb hin hc =>
        have halarms := Session.alarms_commit a₂
        rw [show Session.commit a₂ = _ from hc] at halarms
        exact halarms.trans (Session.holding_of_inOrder hsingle hops hb hin).alarms
    | stopped hsplit hb hin hop => exact absurd (.stopped hsplit hb hin hop) (hnone _ _ _)
    | notCommitted hb hin hc => exact absurd (.notCommitted hb hin hc) (hnone _ _ _)

/-- An operation, and another one that fails. -/
def brokenOff : List (Act Attached Failure Unit) :=
  [Operation.sql "PUT a", .refuse "x"].map Operation.run

theorem hasty_alarm :
    (Envelope.run Session.transactional callersView brokenOff (.opened .hasty)).1 =
      .err (.app "x") ∧
    ∃ a₁, a₁.recordIsActive = true ∧ (Session.rollback a₁).1 ≠ .ok () ∧
      (Envelope.run Session.transactional callersView brokenOff (.opened .hasty)).2.alarms =
        complaints callersView (Session.rollback a₁).1 := by
  have hfails := @Envelope.fails_of_op Attached GatewayError Failure Session.transactional
    callersView brokenOff [(Operation.sql "PUT a").run] [] (Operation.refuse "x").run
    (.opened .hasty) (.app "x") rfl (by decide +kernel) (by decide +kernel) (by decide +kernel)
  obtain ⟨hanswer, halarms, -⟩ :=
    (alarm_of_rollback (Session.isIdle_openOn rfl (opened_openOn .hasty))
      (Operation.abides_of_mem (by decide))).1 _ _ _ hfails
  have hbefore : (Attached.opened .hasty).alarms = [] := by decide
  rw [hbefore, List.nil_append] at halarms
  exact ⟨hanswer, _, by decide +kernel, by decide +kernel, halarms⟩

/-- A server that gives a transaction up when it is to be committed, of which the client knows. -/
def Database.Server.resigning : Server where
  faults :=
    [{ statement := "COMMIT", schedule := {}, mode := .lost, change := .cleared,
       error := .refused .serializationFailure "could not serialize" }]

/-- A commit that fails is enough for a false alarm. -/
theorem not_never_falseAlarm :
    ¬ ∀ (ops : List (Act Attached Failure Unit)) (a : Attached), a.IsIdle →
      (∀ op ∈ ops, Moves Attached.Abides op) →
      ∀ committing failure a₁,
        Envelope.Fails Session.transactional callersView ops a committing failure a₁ →
        (Envelope.run Session.transactional callersView ops a).2.alarms ≠ a.alarms →
          a₁.recordIsActive = true := by
  intro h
  have hfails := @Envelope.fails_of_commit Attached GatewayError Failure Session.transactional
    callersView ([Operation.sql "PUT a"].map Operation.run) (.opened .resigning)
    (.database (.refused .serializationFailure "could not serialize"))
    (by decide +kernel) (by decide +kernel) (by decide +kernel)
  have hactive := h _ _ (Session.isIdle_openOn rfl (opened_openOn .resigning))
    (Operation.abides_of_mem (by decide)) _ _ _ hfails (by decide +kernel)
  exact absurd hactive (by decide +kernel)

end TransactionGateway
