import TransactionGateway.Proofs.AllOrNothing
import TransactionGateway.Proofs.AtomicTrees
import TransactionGateway.Proofs.Batches
import TransactionGateway.Proofs.Books
import TransactionGateway.Proofs.Ledger
import TransactionGateway.Proofs.Savepoints
import TransactionGateway.Proofs.SingleTransaction

/-! # Failed scripts

What a script that fails leaves behind when there are no faults.

* **Own endings.** A script is sent as it stands, so it can hold a `COMMIT` or a `ROLLBACK` of its
  own. Where one of these is carried out, the script has ended the transaction that was begun for it
  (`Link.EndsItself`). Otherwise its statements leave the committed rows as they are
  (`rows_plainBatch`).
* **Clean-up.** Nothing but the operations of a run that fails changes the committed rows: neither
  the commit that fails nor the rollback nor the close of the session (`rows_of_failed_run`).
* **Rows.** So a failed script leaves nothing behind, unless it has ended its transaction itself
  (`rows_of_failed_script`); and then it can (`not_always_leftAlone`). -/

namespace TransactionGateway

open Database Act

/-! ### Statements in an open transaction -/

namespace Database

/-- One of the statements of the text is `COMMIT` or `ROLLBACK`, and all up to it are carried
out. -/
def Link.EndsItself (sql : String) (l : Link) : Prop :=
  ∃ before text after, statementTexts sql = before ++ text :: after ∧
    (Statement.ofText text = .commit ∨ Statement.ofText text = .rollback) ∧
    (performAll (before ++ [text]) l).1 = .ok ()

theorem isOpen_run {s : Statement} {l : Link} (hopen : l.isOpen = true) (hc : s ≠ .commit)
    (hr : s ≠ .rollback) : (s.run l).2.isOpen = true := by
  unfold Link.isOpen at hopen
  obtain ⟨w, hw⟩ := Option.isSome_iff_exists.mp hopen
  cases s <;> simp_all only [Statement.run, atSavepoint, addRow, done, update, Act.panic] <;>
    repeat' split
  all_goals simp_all [Link.isOpen, Link.withWork]

section statement
variable {text : String} {l : Link} (hopen : l.isOpen = true) (hf : l.server.faults = [])
include hopen hf

theorem perform_within (hc : Statement.ofText text ≠ .commit)
    (hr : Statement.ofText text ≠ .rollback) :
    (perform text l).2.isOpen = true ∧ (perform text l).2.server.rows = l.server.rows := by
  refine ⟨?_, perform_rows hc (.inr hopen)⟩
  rw [perform_of_no_faults hf]
  refine isOpen_run ?_ hc hr
  rwa [Link.isOpen, Link.received_work]

theorem perform_ending (h : Statement.ofText text = .commit ∨ Statement.ofText text = .rollback) :
    (perform text l).1 = .ok () := by
  obtain ⟨w, hw⟩ := Option.isSome_iff_exists.mp hopen
  rw [perform_of_no_faults hf]
  rcases h with h | h <;> simp [h, Statement.run, hw]

end statement

/-- Texts sent to an open transaction leave the rows, up to the first that ends it. -/
theorem rows_performAll (texts : List String) {l : Link} (hopen : l.isOpen = true)
    (hf : l.server.faults = []) :
    (performAll texts l).2.server.rows = l.server.rows ∨
      ∃ before text after, texts = before ++ text :: after ∧
        (Statement.ofText text = .commit ∨ Statement.ofText text = .rollback) ∧
        (performAll (before ++ [text]) l).1 = .ok () := by
  induction texts generalizing l with
  | nil => exact .inl rfl
  | cons text rest ih =>
      by_cases hend : Statement.ofText text = .commit ∨ Statement.ofText text = .rollback
      · refine .inr ⟨[], text, rest, rfl, hend, ?_⟩
        rw [List.nil_append, performAll_singleton]
        exact perform_ending hopen hf hend
      · obtain ⟨hc, hr⟩ := not_or.mp hend
        obtain ⟨hopen', hrows⟩ := perform_within hopen hf hc hr
        have hf' := (Link.routine_samePlans.statement text l).faults hf
        cases hp : perform text l with
        | mk r l' =>
            rw [hp] at hopen' hrows hf'
            cases r with
            | err e => exact .inl (by rw [performAll, bind_of_err hp]; exact hrows)
            | panic => exact .inl (by rw [performAll, bind_apply, hp]; exact hrows)
            | ok u =>
                have hnext (texts : List String) :
                    performAll (text :: texts) l = performAll texts l' := by
                  rw [performAll, bind_of_ok hp]
                rw [hnext]
                rcases ih hopen' hf' with hrest | ⟨before, t, after, rfl, hend, hok⟩
                · exact .inl (hrest.trans hrows)
                · exact .inr ⟨text :: before, t, after, rfl, hend, by rwa [← hnext] at hok⟩

/-- A batch sent to an open transaction leaves the rows, or ends the transaction. -/
theorem rows_plainBatch (sql : String) {l : Link} (hopen : l.isOpen = true)
    (hf : l.server.faults = []) :
    (plainBatch sql l).2.server.rows = l.server.rows ∨ l.EndsItself sql := by
  let event := Event.plain sql l.connection.record
  rcases rows_performAll (l := l.remembering event) (statementTexts sql) hopen hf with
    hrows | ⟨before, text, after, hsplit, hend, hok⟩
  · exact .inl hrows
  · have hlike := Link.like_remembering (Link.like_equivalence.refl l) event
    have hsame := (like_performAll (before ++ [text]) _ _ hlike).1
    exact .inr ⟨before, text, after, hsplit, hend, hsame ▸ hok⟩

end Database

/-! ### What comes before and after -/

/-- The committed rows are left as they are. -/
def Attached.SameRows (a a' : Attached) : Prop := a'.engine.server.rows = a.engine.server.rows

instance : IsPreorder Attached Attached.SameRows where
  refl _ := rfl
  trans _ _ _ h h' := Eq.trans h' h

/-- An empty plan of faults stays empty. -/
def Attached.StaysFaultless (a a' : Attached) : Prop :=
  a.engine.server.faults = [] → a'.engine.server.faults = []

instance : IsPreorder Attached Attached.StaysFaultless where
  refl _ := id
  trans _ _ _ h h' := h' ∘ h

namespace Session

theorem faultless_onConnection {α : Type} {work : Act Link Database.Error α}
    (h : Moves Link.SamePlans work) : Moves Attached.StaysFaultless (onConnection work) := by
  intro a
  unfold onConnection
  split
  · exact refl_of Attached.StaysFaultless a
  · exact fun hf => (h _).faults hf

theorem faultless_begin : Moves Attached.StaysFaultless begin :=
  Steady.moves_begin ⟨fun _ _ hf => hf, fun _ _ hf => hf⟩
    (faultless_onConnection Link.routine_samePlans.begin)

theorem faultless_execute (sql : String) : Moves Attached.StaysFaultless (execute sql) :=
  faultless_onConnection (Link.routine_samePlans.plainBatch sql)

theorem rows_onConnection {α : Type} {work : Act Link Database.Error α}
    (h : ∀ l, (work l).2.server.rows = l.server.rows) :
    Moves Attached.SameRows (onConnection work) := by
  intro a
  unfold onConnection
  split
  · rfl
  · exact h _

theorem steady_rows : Steady Attached.SameRows := ⟨fun _ _ => rfl, fun _ _ => rfl⟩

theorem rows_begin : Moves Attached.SameRows begin :=
  steady_rows.moves_begin (rows_onConnection fun l => (Transaction.begin_spec l).2.1)

theorem rows_rollback : Moves Attached.SameRows rollback :=
  steady_rows.moves_rollback (rows_onConnection fun l => (Transaction.rollback_spec l).2)

theorem rows_close (unwinding : Bool) : Moves Attached.SameRows (close unwinding) :=
  steady_rows.moves_close rows_rollback rows_giveBack unwinding

/-- A commit is refused, or it is that of the connection. -/
theorem commit_answers {a a' : Attached} {r : Outcome GatewayError Unit}
    (h : commit a = (r, a')) : (∃ e, r = .err e ∧ a' = a) ∨
      ∃ c, a.session.connection = some c ∧
        settle .committed ((Transaction.commit ⟨c, a.engine.server⟩).1.mapError .database)
          (a.withLink (Transaction.commit ⟨c, a.engine.server⟩).2) = (r, a') := by
  cases hflag : a.session.inTransaction with
  | false =>
      rw [commit_of_inactive hflag] at h
      cases h
      exact .inl ⟨_, rfl, rfl⟩
  | true =>
      cases hc : a.session.connection with
      | none =>
          simp only [commit, hflag, isClosed, hc] at h
          cases h
          exact .inl ⟨_, rfl, rfl⟩
      | some c =>
          rw [commit_of_active hflag hc, onConnection_of_open _ hc] at h
          exact .inr ⟨c, rfl, h⟩

theorem rows_of_failed_commit {a a' : Attached} {e : GatewayError}
    (hf : a.engine.server.faults = []) (h : commit a = (.err e, a')) : a.SameRows a' := by
  rcases commit_answers h with ⟨-, -, rfl⟩ | ⟨c, -, h⟩
  · rfl
  · have hspec := (Transaction.commit_spec ⟨c, a.engine.server⟩).2 hf
    cases hwork : Transaction.commit ⟨c, a.engine.server⟩ with
    | mk r l =>
        rw [hwork] at h hspec
        cases r with
        | ok u => cases h
        | panic => cases h
        | err cause =>
            cases h
            exact hspec nofun

theorem flag_of_commit_ok {a a' : Attached} (h : commit a = (.ok (), a')) :
    a'.session.inTransaction = false := by
  rcases commit_answers h with ⟨e, hr, -⟩ | ⟨c, -, h⟩
  · cases hr
  · cases hwork : Transaction.commit ⟨c, a.engine.server⟩ with
    | mk r l =>
        rw [hwork] at h
        cases r with
        | ok u =>
            cases h
            rfl
        | panic => cases h
        | err cause => cases h

end Session

/-- What becomes of a session when its scope ends leaves the rows. -/
theorem Engine.rows_endScope {ε α : Type} (lift : GatewayError → ε) (r : Outcome ε α)
    (a : Attached) : (endScope lift r a).2.server.rows = a.engine.server.rows := by
  have hclose := Session.rows_close false a
  unfold endScope
  cases r with
  | panic => exact Session.steady_rows.letGo (Session.rows_close true) .dropFailed a
  | ok value =>
      cases h : Session.close false a with
      | mk r a' =>
          rw [h] at hclose
          cases r <;> exact hclose
  | err failure =>
      cases h : Session.close false a with
      | mk r a' =>
          rw [h] at hclose
          cases r <;> exact hclose

/-! ### The whole run -/

section run
variable {ops : List (Act Attached GatewayError Unit)} {a a' : Attached}

theorem flag_of_run_ok (h : Envelope.run Session.transactional plainView ops a = (.ok (), a')) :
    a'.session.inTransaction = false := by
  have hcourse := Envelope.course_run Session.transactional plainView ops a
  rw [h] at hcourse
  cases hcourse with
  | committed _ _ hcommit => exact Session.flag_of_commit_ok hcommit
  | stopped _ _ _ _ hr => exact absurd (congrArg Prod.fst hr) (Envelope.recover_ne_ok _ _ _ _)
  | notCommitted _ _ _ hr => exact absurd (congrArg Prod.fst hr) (Envelope.recover_ne_ok _ _ _ _)

/-- When a run fails without faults, nothing but its operations has changed the rows. -/
theorem rows_of_failed_run {failure : GatewayError}
    (hops : ∀ op ∈ ops, Moves Attached.StaysFaultless op) (hf : a.engine.server.faults = [])
    (h : Envelope.run Session.transactional plainView ops a = (.err failure, a')) :
    a.SameRows a' ∨ ∃ before after a₁, ops = before ++ after ∧ Session.begin a = (.ok (), a₁) ∧
      a'.engine.server.rows = (Envelope.inOrder before a₁).2.engine.server.rows := by
  have hrecover (failure : GatewayError) : Moves Attached.SameRows
      (Envelope.recover Session.transactional plainView failure) :=
    Envelope.moves_recover (fun _ => Session.steady_rows.notice _) Session.rows_rollback failure
  -- Only a course whose answer is an error is left, and all but the first end with a rollback.
  have hcourse := Envelope.course_run Session.transactional plainView ops a
  rw [h] at hcourse
  cases hcourse with
  | notBegun hb => exact .inl (Session.rows_begin.rel hb)
  | @stopped before after op event cause _ a₁ a₂ a₃ _ hsplit hb hbefore hop hr =>
      refine .inr ⟨before ++ [op], after, a₁, by simpa using hsplit, hb, ?_⟩
      rw [Envelope.inOrder_append, bind_of_ok hbefore, Envelope.inOrder, bind_of_err hop]
      show a₃.SameRows a'
      exact trans_of Attached.SameRows (Session.steady_rows.notice _ a₃) ((hrecover _).rel hr)
  | @notCommitted cause _ a₁ a₂ a₃ _ hb hinOrder hcommit hr =>
      refine .inr ⟨ops, [], a₁, by simp, hb, ?_⟩
      have hf₂ := (Envelope.moves_inOrder hops).rel hinOrder (Session.faultless_begin.rel hb hf)
      rw [hinOrder]
      exact trans_of Attached.SameRows (Session.rows_of_failed_commit hf₂ hcommit)
        ((hrecover _).rel hr)

/-- So it is when the run has a session of its own. -/
theorem Engine.rows_of_failed_session {e e' : Engine} {cause : GatewayError}
    (hops : ∀ op ∈ ops, Moves Attached.StaysFaultless op) (hf : e.server.faults = [])
    (h : withSession id (Envelope.run Session.transactional plainView ops) e = (.err cause, e')) :
    e'.server.rows = e.server.rows ∨ ∃ s e₁ before after a₁, openSession e = (.ok s, e₁) ∧
      ops = before ++ after ∧ Session.begin ⟨s, e₁⟩ = (.ok (), a₁) ∧
      e'.server.rows = (Envelope.inOrder before a₁).2.engine.server.rows := by
  have hu := upkeep_openSession e
  cases hopen : openSession e with
  | mk r e₁ =>
      rw [hopen] at hu
      cases r with
      | panic => exact absurd (congrArg Prod.fst hopen) (openSession_ne_panic e)
      | err refusal =>
          rw [withSession_of_err _ _ hopen] at h
          cases h
          exact .inl hu.rows
      | ok s =>
          rw [withSession_of_open _ _ hopen] at h
          cases hrun : Envelope.run Session.transactional plainView ops ⟨s, e₁⟩ with
          | mk r a =>
              rw [hrun] at h
              have hend := rows_endScope id r a
              rw [h] at hend
              cases r with
              | panic => cases h
              | ok u =>
                  rw [endScope_of_outside id u (flag_of_run_ok hrun)] at h
                  cases h
              | err failure =>
                  rcases rows_of_failed_run hops (hu.faults hf) hrun with
                    hrows | ⟨before, after, a₁, hsplit, hb, hrows⟩
                  · exact .inl ((hend.trans hrows).trans hu.rows)
                  · exact .inr ⟨s, e₁, before, after, a₁, rfl, hsplit, hb, hend.trans hrows⟩

end run

/-- A script sent to the transaction begun for it leaves the rows, or ends the transaction. -/
theorem rows_execute_of_begin {a a₁ : Attached} (script : String)
    (hf : a.engine.server.faults = []) (hb : Session.begin a = (.ok (), a₁)) :
    a.SameRows (Session.execute script a₁).2 ∨ a₁.On (Link.EndsItself script) := by
  obtain ⟨c, l, hc, hbegin, hlink⟩ := Session.link_of_begin_ok (congrArg Prod.fst hb)
  obtain ⟨-, hrows, hopen⟩ := Transaction.begin_spec ⟨c, a.engine.server⟩
  have hf' := (Link.routine_samePlans.begin ⟨c, a.engine.server⟩).faults hf
  rw [hbegin] at hrows hopen hf'
  rw [hb] at hlink
  obtain rfl : a₁ = _ := hlink
  rw [Session.execute, Session.onConnection_of_open (c := l.connection) _ rfl]
  rcases rows_plainBatch script (hopen rfl) hf' with hkept | hends
  · exact .inl (hkept.trans hrows)
  · exact .inr ⟨l.connection, rfl, hends⟩

/-- Without faults a script that fails leaves the committed rows as they were, unless it has ended
its transaction itself. It then leaves what its statements have committed up to the failing one. -/
theorem Engine.rows_of_failed_script {script : String} {e e' : Engine} {cause : GatewayError}
    (hf : e.server.faults = []) (h : applyScript script e = (.err cause, e')) :
    e'.server.rows = e.server.rows ∨ ∃ s e₁ a₁, openSession e = (.ok s, e₁) ∧
      Session.begin ⟨s, e₁⟩ = (.ok (), a₁) ∧ a₁.On (Link.EndsItself script) ∧
      e'.server.rows = (Session.execute script a₁).2.engine.server.rows := by
  obtain ⟨ops, hops, hscript⟩ : ∃ ops, (ops = [] ∨ ops = [statement script]) ∧
      applyScript script = withSession id (Envelope.run Session.transactional plainView ops) := by
    unfold applyScript runStatements
    split
    · exact ⟨[], .inl rfl, rfl⟩
    · exact ⟨[statement script], .inr rfl, rfl⟩
  have hfaultless : ∀ op ∈ ops, Moves Attached.StaysFaultless op := by
    rcases hops with rfl | rfl
    · nofun
    · rintro op hop
      obtain rfl := List.mem_singleton.mp hop
      exact Session.faultless_execute script
  rw [hscript] at h
  rcases rows_of_failed_session hfaultless hf h with
    hrows | ⟨s, e₁, before, after, a₁, hopen, hsplit, hb, hrows⟩
  · exact .inl hrows
  have hu := upkeep_openSession e
  rw [hopen] at hu
  have hbegun : a₁.engine.server.rows = e.server.rows := (Session.rows_begin.rel hb).trans hu.rows
  cases before with
  | nil => exact .inl (hrows.trans hbegun)
  | cons op rest =>
      -- Only the script itself can have been run.
      rcases hops with rfl | rfl
      · cases hsplit
      · obtain ⟨rfl, hrest⟩ := List.cons.inj hsplit
        obtain ⟨rfl, -⟩ := List.append_eq_nil_iff.mp hrest.symm
        rw [show Envelope.inOrder [statement script] = Session.execute script from bind_done _]
          at hrows
        rcases rows_execute_of_begin script (hu.faults hf) hb with hkept | hends
        · exact .inl (hrows.trans (Eq.trans hkept hu.rows))
        · exact .inr ⟨s, e₁, a₁, hopen, hb, hends, hrows⟩

/-- A script that commits its first statement itself and then fails. -/
theorem ownCommit_rows_of_failed :
    Engine.calm.server.faults = [] ∧
    Engine.applyScript "PUT a; COMMIT; BAD" Engine.calm =
      (.err (.database (.unknown "near \"BAD\": syntax error")),
        (Engine.applyScript "PUT a; COMMIT; BAD" Engine.calm).2) ∧
    ((Engine.applyScript "PUT a; COMMIT; BAD" Engine.calm).2.server.rows =
        Engine.calm.server.rows ∨
      ∃ s e₁ a₁, Engine.openSession Engine.calm = (.ok s, e₁) ∧
        Session.begin ⟨s, e₁⟩ = (.ok (), a₁) ∧
        a₁.On (Link.EndsItself "PUT a; COMMIT; BAD") ∧
        (Engine.applyScript "PUT a; COMMIT; BAD" Engine.calm).2.server.rows =
          (Session.execute "PUT a; COMMIT; BAD" a₁).2.engine.server.rows) ∧
    (Engine.applyScript "PUT a; COMMIT; BAD" Engine.calm).2.server.rows = ["old", "a"] := by
  have hfailed : Engine.applyScript "PUT a; COMMIT; BAD" Engine.calm =
      (.err (.database (.unknown "near \"BAD\": syntax error")),
        (Engine.applyScript "PUT a; COMMIT; BAD" Engine.calm).2) :=
    apply_of_fst (by decide +kernel)
  exact ⟨rfl, hfailed, Engine.rows_of_failed_script rfl hfailed, by decide +kernel⟩

/-- So a script that fails can leave something behind. -/
theorem not_always_leftAlone :
    ¬ ∀ (script : String) (e e' : Engine) (cause : GatewayError), e.server.faults = [] →
      Engine.applyScript script e = (.err cause, e') → e'.server.rows = e.server.rows := by
  intro h
  have hfailed : (Engine.applyScript "PUT a; COMMIT; BAD" Engine.calm).1 =
      .err (.database (.unknown "near \"BAD\": syntax error")) := by
    decide +kernel
  have hrows : (Engine.applyScript "PUT a; COMMIT; BAD" Engine.calm).2.server.rows =
      ["old", "a"] := by
    decide +kernel
  have hkept := h "PUT a; COMMIT; BAD" Engine.calm _ _ rfl (apply_of_fst hfailed)
  exact absurd (hrows.symm.trans hkept) (by decide)

end TransactionGateway
