import TransactionGateway.Proofs.Sessions
import TransactionGateway.Proofs.Upkeep

/-! # All or nothing

Statements run inside one transaction leave the committed rows as they were, or add all their rows,
whatever the plan of faults.

* **Statements.** The texts hold no transaction control and nothing that panics (`IsOrdinary`); the
  rows they add are `rowsOf`.
* **Endings** (`Ending`). The run has committed, or it has not begun, or a statement has stopped
  it, or the commit has failed. The error is that of the call that failed first; that of a commit
  may carry the error of the rollback which the commit itself has tried. Only a commit that fails
  after `COMMIT` has taken effect (`CommitUnreported`) leaves the rows behind.
* **Invariant.** Up to the commit the rows of the statements are pending on an open transaction of
  depth one (`Link.Holds`). From the first failure on, the committed rows stay as they are, since
  no call that follows can send `COMMIT` (`Link.Keeps`). -/

namespace TransactionGateway

open Database Act

/-- The rows that a batch adds when all its statements succeed. -/
def rowsOf (sql : String) : List String :=
  (statementTexts sql).flatMap fun text => (Statement.ofText text).rows

/-! ### On one link -/

/-- The record shows no savepoint. -/
def Database.Record.IsShallow : Record → Prop
  | .active (_ + 1) _ => False
  | _ => True

namespace Database.Link

variable {rows pending : List String}

/-- No transaction is open, and these rows are committed. -/
def Rests (rows : List String) (l : Link) : Prop := l.server.rows = rows ∧ l.connection.IsClean

/-- An outermost transaction is open on both sides, with these rows committed and these pending. -/
def Holds (rows pending : List String) (l : Link) : Prop :=
  l.server.rows = rows ∧ l.connection.record = .active 0 false ∧
    ∃ w, l.connection.work = some w ∧ w.pending = pending

/-- These rows are committed, and no transaction call can send anything but `ROLLBACK`. -/
def Keeps (rows : List String) (l : Link) : Prop :=
  l.server.rows = rows ∧ l.connection.record.IsShallow

theorem keeps_of_perform {text : String} {l : Link} (hs : Statement.ofText text ≠ .commit)
    (h : (Statement.ofText text).rows = [] ∨ l.isOpen = true) (hl : l.Keeps rows) :
    (perform text l).2.Keeps rows := by
  refine ⟨(perform_rows hs h).trans hl.1, ?_⟩
  rcases perform_record text l with hr | ⟨-, hr | hr⟩ <;> rw [hr]
  · exact hl.2
  · trivial
  · trivial

theorem Holds.keeps {l : Link} (h : l.Holds rows pending) : l.Keeps rows :=
  ⟨h.1, by rw [h.2.1]; trivial⟩

theorem leads_perform {text : String}
    (h : (Statement.ofText text).isTransactionControl = false ∧ Statement.ofText text ≠ .crash) :
    Leads (Holds rows pending) (perform text)
      (Holds rows (pending ++ (Statement.ofText text).rows)) (Keeps rows) := by
  intro l hl
  obtain ⟨hrows, hrec, w, hw, rfl⟩ := hl
  have hne : Statement.ofText text ≠ .commit := fun hc => by rw [hc] at h; cases h.1
  have hopen : l.isOpen = true := by rw [isOpen, hw]; rfl
  have hk := keeps_of_perform hne (.inr hopen) (Holds.keeps ⟨hrows, hrec, w, hw, rfl⟩)
  have hp := perform_ne_panic h.2 l
  cases hperf : perform text l with
  | mk r l' =>
      rw [hperf] at hk hp
      cases r with
      | ok a =>
          obtain ⟨h₁, h₂⟩ := perform_ok_of_open h.1 hw hperf
          exact ⟨hk.1, h₁.trans hrec, _, h₂, rfl⟩
      | err e => exact hk
      | panic => exact hp rfl

theorem leads_performAll {texts : List String}
    (h : ∀ text ∈ texts, (Statement.ofText text).isTransactionControl = false ∧
      Statement.ofText text ≠ .crash) :
    Leads (Holds rows pending) (performAll texts)
      (Holds rows (pending ++ texts.flatMap fun text => (Statement.ofText text).rows))
      (Keeps rows) := by
  induction texts generalizing pending with
  | nil => exact leads_done () fun l hl => by rwa [List.flatMap_nil, List.append_nil]
  | cons text texts ih =>
      rw [List.flatMap_cons, ← List.append_assoc]
      exact leads_bind (leads_perform (h text List.mem_cons_self)) fun _ =>
        ih fun text' h' => h text' (List.mem_cons_of_mem text h')

theorem leads_plainBatch {sql : String} (h : IsOrdinary sql) :
    Leads (Holds rows pending) (plainBatch sql) (Holds rows (pending ++ rowsOf sql))
      (Keeps rows) :=
  leads_bind (leads_update fun _ hl => hl) fun _ => leads_performAll h

/-- A transaction begun on a clean connection is open on both sides, or the rows are as before. -/
theorem leads_begin : Leads (Rests rows) Transaction.begin (Holds rows []) (Keeps rows) := by
  intro l hl
  obtain ⟨hrows, hrec, hwork⟩ := hl
  have hk : l.Keeps rows := ⟨hrows, by rw [hrec]; trivial⟩
  have hk' := @keeps_of_perform rows "BEGIN" l (by decide) (.inl (by decide)) hk
  have hp := @perform_ne_panic "BEGIN" (by decide) l
  simp only [Transaction.begin, hrec, Transaction.sendBegin, batch_begin, bind_apply]
  cases hb : perform "BEGIN" l with
  | mk r l' =>
      rw [hb] at hk' hp
      cases r with
      | err e => exact hk'
      | panic => exact hp rfl
      | ok a =>
          have hr := record_of_perform_ok hb
          refine ⟨hk'.1, ?_, {}, (work_of_begin hb).2, rfl⟩
          show Transaction.deepened l'.connection.record = _
          rw [hr, hrec]
          rfl

theorem isShallow_raised {r : Record} (h : r.IsShallow) : (Transaction.raised r).IsShallow := by
  match r, h with
  | .active 0 _, _ => trivial
  | .idle, _ => trivial
  | .broken, _ => trivial

theorem isShallow_afterFailedRollback {r : Record} (h : r.IsShallow) (doubtful : Bool) :
    (Transaction.afterFailedRollback doubtful r).2.IsShallow := by
  match r, h with
  | .active 0 _, _ => trivial
  | .idle, _ => trivial
  | .broken, _ => trivial

theorem leads_rollback : Leads (Keeps rows) Transaction.rollback (Keeps rows) (Keeps rows) := by
  intro l hl
  have hs := hl.2
  unfold Transaction.rollback
  cases hrec : l.connection.record with
  | broken => exact hl
  | idle => exact hl
  | active n doubtful =>
      rw [hrec] at hs
      -- A shallow record has no savepoint to go back to, so that `ROLLBACK` itself is sent.
      obtain rfl : n = 0 := by
        cases n with
        | zero => rfl
        | succ n => exact hs.elim
      have hk := @keeps_of_perform rows "ROLLBACK" l (by decide) (.inl (by decide)) hl
      have hp := @perform_ne_panic "ROLLBACK" (by decide) l
      simp only [Transaction.sendRollback, batch_rollback]
      cases hb : perform "ROLLBACK" l with
      | mk r l' =>
          rw [hb] at hk hp
          cases r with
          | ok a => exact ⟨hk.1, isShallow_raised hk.2⟩
          | panic => exact hp rfl
          | err e =>
              have hs' := isShallow_afterFailedRollback hk.2 doubtful
              dsimp only
              cases (Transaction.afterFailedRollback doubtful l'.connection.record).1 with
              | true => exact ⟨hk.1, hs'⟩
              | false => exact ⟨hk.1, hs'⟩

theorem leads_undo (e : Error) :
    Leads (Keeps rows) (Transaction.undo e) (fun _ => False) (Keeps rows) := by
  intro l hl
  have hr := leads_rollback l hl
  unfold Transaction.undo
  cases hroll : Transaction.rollback l with
  | mk r l' =>
      rw [hroll] at hr
      cases r with
      | ok a => exact hr
      | err e' => exact ⟨hr.1, trivial⟩
      | panic => exact hr

theorem leads_afterFailedCommit (e : Error) :
    Leads (Keeps rows) (Transaction.afterFailedCommit e) (fun _ => False) (Keeps rows) := by
  intro l hl
  have h : Transaction.afterFailedCommit e l = Transaction.undo e l ∨
      Transaction.afterFailedCommit e l = (.err e, l) := by
    unfold Transaction.afterFailedCommit
    split
    · exact .inl rfl
    · exact .inl rfl
    · exact .inr rfl
  rcases h with h | h <;> rw [h]
  · exact leads_undo e l hl
  · exact hl

/-- The next `COMMIT` takes effect, and is reported as failed. -/
def CommitUnreported (l : Link) : Prop :=
  ∃ f, (strike "COMMIT" l.server.faults).1 = some f ∧ f.mode = .after

theorem isShallow_of_perform {text : String} {l : Link} (h : l.connection.record.IsShallow) :
    (perform text l).2.connection.record.IsShallow := by
  rcases perform_record text l with hr | ⟨-, hr | hr⟩ <;> rw [hr]
  · exact h
  · trivial
  · trivial

theorem leads_commit :
    Leads (fun l => l.Holds rows pending ∧ ¬ l.CommitUnreported) Transaction.commit
      (Keeps (rows ++ pending)) (Keeps rows) := by
  intro l ⟨hl, hreported⟩
  obtain ⟨hrows, hrec, w, hw, rfl⟩ := hl
  have hs : (perform "COMMIT" l).2.connection.record.IsShallow :=
    isShallow_of_perform (by rw [hrec]; trivial)
  have hp := @perform_ne_panic "COMMIT" (by decide) l
  simp only [Transaction.commit, hrec, Transaction.sendCommit, batch_commit]
  cases hc : perform "COMMIT" l with
  | mk r l' =>
      rw [hc] at hs hp
      cases r with
      | panic => exact hp rfl
      | ok a =>
          obtain ⟨-, w', hw', hrows'⟩ := rows_of_commit hc
          obtain rfl : w = w' := Option.some.inj (hw.symm.trans hw')
          exact ⟨hrows'.trans (by rw [hrows]), isShallow_raised hs⟩
      | err e =>
          rcases rows_of_failed_commit hc with hrows' | ⟨hun, -⟩
          · exact leads_imp (leads_afterFailedCommit e) (fun _ => False.elim) (fun _ h => h) l'
              ⟨hrows'.trans hrows, hs⟩
          · exact absurd hun hreported

theorem leads_commit_unreported :
    Leads (fun l => l.Holds rows pending ∧ l.CommitUnreported) Transaction.commit
      (fun _ => False) (Keeps (rows ++ pending)) := by
  intro l ⟨hl, f, hstrike, hmode⟩
  obtain ⟨hrows, hrec, w, hw, rfl⟩ := hl
  have hs : (perform "COMMIT" l).2.connection.record.IsShallow :=
    isShallow_of_perform (by rw [hrec]; trivial)
  obtain ⟨e, l', hc, hrows'⟩ := rows_of_unreported_commit hstrike hmode hw
  simp only [Transaction.commit, hrec, Transaction.sendCommit, batch_commit]
  rw [hc] at hs ⊢
  exact leads_afterFailedCommit e l' ⟨hrows'.trans (by rw [hrows]), hs⟩

end Database.Link

/-! ### On a session -/

section session
variable {rows pending : List String}

theorem leads_execute {sql : String} (h : IsOrdinary sql) :
    Leads (Attached.At true (Link.Holds rows pending)) (Session.execute sql)
      (Attached.At true (Link.Holds rows (pending ++ rowsOf sql)))
      (Attached.At true (Link.Keeps rows)) :=
  Session.leads_onConnection (Link.leads_plainBatch h)

theorem leads_inOrder {texts : List String} (h : ∀ text ∈ texts, IsOrdinary text) :
    Leads (Attached.At true (Link.Holds rows pending)) (Envelope.inOrder (texts.map statement))
      (Attached.At true (Link.Holds rows (pending ++ texts.flatMap rowsOf)))
      (Attached.At true (Link.Keeps rows)) := by
  induction texts generalizing pending with
  | nil => exact leads_done () fun a ha => by rwa [List.flatMap_nil, List.append_nil]
  | cons text texts ih =>
      rw [List.flatMap_cons, ← List.append_assoc]
      exact leads_bind (leads_execute (h text List.mem_cons_self)) fun _ =>
        ih fun text' h' => h text' (List.mem_cons_of_mem text h')

theorem leads_sessionRollback :
    Leads (Attached.On (Link.Keeps rows)) Session.rollback (Attached.On (Link.Keeps rows))
      (Attached.On (Link.Keeps rows)) :=
  Session.leads_rollback (fun _ h => ⟨h, h⟩) Link.leads_rollback

theorem rows_giveBack (unwinding : Bool) (a : Attached) :
    (Session.giveBack unwinding a).engine.server.rows = a.engine.server.rows := by
  unfold Session.giveBack
  split
  · rfl
  · unfold Engine.putBack
    split <;> rfl

/-- Closing leaves the rows as they are, and does not fail outside of a transaction. -/
theorem leads_close (unwinding : Bool) :
    Leads (Attached.On (Link.Keeps rows)) (Session.close unwinding)
      (fun a => a.engine.server.rows = rows) (fun a => a.engine.server.rows = rows) := by
  intro a ha
  have hr := leads_sessionRollback a ha
  simp only [Session.close, ha.isClosed, Bool.false_eq_true, if_false]
  cases a.session.inTransaction with
  | false =>
      obtain ⟨c, hc, hk⟩ := ha
      exact (rows_giveBack unwinding a).trans hk.1
  | true =>
      simp only [if_true]
      cases hroll : Session.rollback a with
      | mk r a' =>
          rw [hroll] at hr
          cases r with
          | ok b =>
              obtain ⟨c, hc, hk⟩ := hr
              exact (rows_giveBack unwinding a').trans hk.1
          | err e =>
              obtain ⟨c, hc, hk⟩ := hr
              exact (rows_giveBack unwinding a').trans hk.1
          | panic => exact hr

theorem close_of_outside {unwinding : Bool} {a : Attached} (h : a.session.inTransaction = false) :
    (Session.close unwinding a).1 = .ok () := by
  unfold Session.close
  split
  · rfl
  · rw [h]
    rfl

theorem endScope_err {ε α : Type} (lift : GatewayError → ε) (failure : ε) {a : Attached}
    (ha : a.On (Link.Keeps rows)) :
    (Engine.endScope lift (.err failure : Outcome ε α) a).1 = .err failure ∧
      (Engine.endScope lift (.err failure : Outcome ε α) a).2.server.rows = rows := by
  have hc := leads_close false a ha
  unfold Engine.endScope
  cases hclose : Session.close false a with
  | mk r a' =>
      rw [hclose] at hc
      cases r with
      | ok b => exact ⟨rfl, hc⟩
      | err e => exact ⟨rfl, hc⟩
      | panic => exact hc.elim

/-- Outside of a transaction there is nothing that closing could fail with. -/
theorem endScope_of_outside {ε α : Type} (lift : GatewayError → ε) (value : α) {a : Attached}
    (h : a.session.inTransaction = false) :
    Engine.endScope lift (.ok value) a = (.ok value, (Session.close false a).2.engine) := by
  unfold Engine.endScope
  rw [apply_of_fst (@close_of_outside false a h)]

theorem endScope_ok {ε α : Type} (lift : GatewayError → ε) (value : α) {a : Attached}
    (ha : a.At false (Link.Keeps rows)) :
    (Engine.endScope lift (.ok value) a).1 = .ok value ∧
      (Engine.endScope lift (.ok value) a).2.server.rows = rows := by
  have hc := leads_close false a ha.on
  rw [apply_of_fst (@close_of_outside false a ha.flag)] at hc
  rw [endScope_of_outside lift value ha.flag]
  exact ⟨rfl, hc⟩

theorem on_report {P : Link → Prop} {a : Attached} (event : EnvelopeEvent) (h : a.On P) :
    (Session.transactional.report event a).On P := h

theorem recover_keeps {failure : GatewayError} {r : Outcome GatewayError Unit} {a a' : Attached}
    (ha : a.On (Link.Keeps rows))
    (h : Envelope.recover Session.transactional plainView failure a = (r, a')) :
    r = .err failure ∧ a'.On (Link.Keeps rows) := by
  have hr := leads_sessionRollback a ha
  unfold Envelope.recover at h
  rw [show Session.transactional.rollback = Session.rollback from rfl] at h
  cases hroll : Session.rollback a with
  | mk r₁ a₁ =>
      rw [hroll] at hr h
      cases r₁ with
      | ok b =>
          cases h
          exact ⟨rfl, hr⟩
      | err e =>
          cases h
          exact ⟨rfl, hr⟩
      | panic => exact hr.elim

end session

/-! ### The whole run -/

/-- The next `COMMIT` of the session takes effect, and is reported as failed. -/
def Attached.CommitUnreported (a : Attached) : Prop := a.On Link.CommitUnreported

/-- How statements run inside one transaction of a session end: the answer, and whether their rows
are kept. -/
inductive Ending (texts : List String) (a : Attached) :
    Outcome GatewayError Unit → Bool → Prop where
  | committed {a₁ a₂ a₃ : Attached} : Session.begin a = (.ok (), a₁) →
      Envelope.inOrder (texts.map statement) a₁ = (.ok (), a₂) →
      Session.commit a₂ = (.ok (), a₃) → Ending texts a (.ok ()) true
  | notBegun {e : GatewayError} {a₁ : Attached} : Session.begin a = (.err e, a₁) →
      Ending texts a (.err e) false
  | stopped {before after : List String} {text : String} {e : GatewayError}
      {a₁ a₂ a₃ : Attached} : texts = before ++ text :: after → Session.begin a = (.ok (), a₁) →
      Envelope.inOrder (before.map statement) a₁ = (.ok (), a₂) →
      statement text a₂ = (.err e, a₃) → Ending texts a (.err e) false
  | notCommitted {e : GatewayError} {a₁ a₂ a₃ : Attached} : Session.begin a = (.ok (), a₁) →
      Envelope.inOrder (texts.map statement) a₁ = (.ok (), a₂) →
      Session.commit a₂ = (.err e, a₃) → ¬ a₂.CommitUnreported → Ending texts a (.err e) false
  | committedUnreported {e : GatewayError} {a₁ a₂ a₃ : Attached} :
      Session.begin a = (.ok (), a₁) →
      Envelope.inOrder (texts.map statement) a₁ = (.ok (), a₂) →
      Session.commit a₂ = (.err e, a₃) → a₂.CommitUnreported → Ending texts a (.err e) true

section run
variable {rows pending : List String} {texts : List String} {a a' : Attached} {e : GatewayError}

theorem rows_of_commit_err (ha : a.At true (Link.Holds rows pending))
    (h : Session.commit a = (.err e, a')) :
    a.CommitUnreported ∧ a'.On (Link.Keeps (rows ++ pending)) ∨
      ¬ a.CommitUnreported ∧ a'.On (Link.Keeps rows) := by
  obtain ⟨hflag, c, hc, hl⟩ := ha
  by_cases hun : Link.CommitUnreported ⟨c, a.engine.server⟩
  · exact .inl ⟨⟨c, hc, hun⟩, of_leads_err (Session.leads_commit Link.leads_commit_unreported)
      ⟨hflag, c, hc, hl, hun⟩ h⟩
  · refine .inr ⟨?_, of_leads_err (Session.leads_commit Link.leads_commit)
      ⟨hflag, c, hc, hl, hun⟩ h⟩
    rintro ⟨c', hc', hun'⟩
    obtain rfl : c = c' := Option.some.inj (hc.symm.trans hc')
    exact hun hun'

/-- A commit that succeeds was not one that is reported as failed. -/
theorem at_of_commit_ok (ha : a.At true (Link.Holds rows pending))
    (h : Session.commit a = (.ok (), a')) : a'.At false (Link.Keeps (rows ++ pending)) := by
  obtain ⟨hflag, c, hc, hl⟩ := ha
  by_cases hun : Link.CommitUnreported ⟨c, a.engine.server⟩
  · exact (of_leads_ok (Session.leads_commit Link.leads_commit_unreported)
      ⟨hflag, c, hc, hl, hun⟩ h).on.elim fun _ h => h.2.elim
  · exact of_leads_ok (Session.leads_commit Link.leads_commit) ⟨hflag, c, hc, hl, hun⟩ h

theorem commit_ne_panic (ha : a.At true (Link.Holds rows pending)) :
    Session.commit a ≠ (.panic, a') := by
  obtain ⟨hflag, c, hc, hl⟩ := ha
  intro h
  by_cases hun : Link.CommitUnreported ⟨c, a.engine.server⟩
  · exact of_leads_panic (Session.leads_commit Link.leads_commit_unreported)
      ⟨hflag, c, hc, hl, hun⟩ h
  · exact of_leads_panic (Session.leads_commit Link.leads_commit) ⟨hflag, c, hc, hl, hun⟩ h

/-- The run inside the envelope. After a success the session is out of its transaction. -/
theorem ending_of_run {r : Outcome GatewayError Unit} (ht : ∀ text ∈ texts, IsOrdinary text)
    (ha : a.At false (Link.Rests rows))
    (hr : Envelope.run Session.transactional plainView (texts.map statement) a = (r, a')) :
    ∃ kept, Ending texts a r kept ∧
      a'.On (Link.Keeps (if kept then rows ++ texts.flatMap rowsOf else rows)) ∧
      (r = .ok () → a'.session.inTransaction = false) := by
  have hbegin := Session.leads_begin (@Link.leads_begin rows)
  have hcourse := Envelope.course_run Session.transactional plainView (texts.map statement) a
  rw [hr] at hcourse
  -- Neither ordinary texts nor the transaction calls panic, which excludes three of the courses.
  cases hcourse with
  | notBegun hb => exact ⟨false, .notBegun hb, (of_leads_err hbegin ha hb).on, nofun⟩
  | panickedAtBegin hb => exact (of_leads_panic hbegin ha hb).elim
  | panicked hb hops =>
      exact (of_leads_panic (leads_inOrder ht) (of_leads_ok hbegin ha hb) hops).elim
  | panickedAtCommit hb hops hc =>
      have h₂ := of_leads_ok (leads_inOrder ht) (of_leads_ok hbegin ha hb) hops
      exact (commit_ne_panic h₂ hc).elim
  | committed hb hops hc =>
      have h₂ := of_leads_ok (leads_inOrder ht) (of_leads_ok hbegin ha hb) hops
      have h₃ := at_of_commit_ok h₂ hc
      exact ⟨true, .committed hb hops hc, h₃.on, fun _ => h₃.flag⟩
  | notCommitted hb hops hc hrecover =>
      have h₂ := of_leads_ok (leads_inOrder ht) (of_leads_ok hbegin ha hb) hops
      rcases rows_of_commit_err h₂ hc with ⟨hun, h₃⟩ | ⟨hun, h₃⟩
      · obtain ⟨rfl, hk⟩ := recover_keeps h₃ hrecover
        exact ⟨true, .committedUnreported hb hops hc hun, hk, nofun⟩
      · obtain ⟨rfl, hk⟩ := recover_keeps h₃ hrecover
        exact ⟨false, .notCommitted hb hops hc hun, hk, nofun⟩
  | stopped hsplit hb hops hop hrecover =>
      obtain ⟨before, rest, rfl, rfl, hrest⟩ := List.map_eq_append_iff.mp hsplit
      obtain ⟨text, after, rfl, rfl, rfl⟩ := List.map_eq_cons_iff.mp hrest
      have hbefore : ∀ text' ∈ before, IsOrdinary text' := fun text' h' =>
        ht text' (List.mem_append_left _ h')
      have htext : IsOrdinary text := ht text (List.mem_append_right _ List.mem_cons_self)
      have h₂ := of_leads_ok (leads_inOrder hbefore) (of_leads_ok hbegin ha hb) hops
      have h₃ := of_leads_err (leads_execute htext) h₂ hop
      obtain ⟨rfl, hk⟩ := recover_keeps (on_report _ h₃.on) hrecover
      exact ⟨false, .stopped rfl hb hops hop, hk, nofun⟩

end run

/-- Statements run inside one transaction of a session that starts outside any, whatever the plan of
faults: the committed rows stay as they were, or all rows of the statements follow them in order.
The answer is that of the first call that fails; the rows are kept when there is none, or when it is
a `COMMIT` that takes effect all the same. -/
theorem runStatements_all_or_nothing {texts : List String} {e e₁ : Engine} {s : Session}
    (hopen : Engine.openSession e = (.ok s, e₁)) (hs : s.IsOutside)
    (ht : ∀ text ∈ texts, IsOrdinary text) :
    ∃ kept, Ending texts ⟨s, e₁⟩ (Engine.runStatements texts e).1 kept ∧
      (Engine.runStatements texts e).2.server.rows =
        if kept then e.server.rows ++ texts.flatMap rowsOf else e.server.rows := by
  have hrows : e₁.server.rows = e.server.rows := by
    have h := Engine.upkeep_openSession e
    rw [hopen] at h
    exact h.rows
  obtain ⟨hflag, c, hc, hclean⟩ := hs
  have ha : Attached.At false (Link.Rests e₁.server.rows) ⟨s, e₁⟩ := ⟨hflag, c, hc, rfl, hclean⟩
  unfold Engine.runStatements
  rw [Engine.withSession_of_open _ _ hopen, ← hrows]
  cases hr : Envelope.run Session.transactional plainView (texts.map statement) ⟨s, e₁⟩ with
  | mk r a =>
      obtain ⟨kept, hending, hkeeps, hout⟩ := ending_of_run ht ha hr
      refine ⟨kept, ?_⟩
      cases r with
      | ok value =>
          obtain ⟨h₁, h₂⟩ := endScope_ok id value ⟨hout rfl, hkeeps⟩
          rw [h₁]
          exact ⟨hending, h₂⟩
      | err failure =>
          obtain ⟨h₁, h₂⟩ := @endScope_err _ GatewayError Unit id failure a hkeeps
          rw [h₁]
          exact ⟨hending, h₂⟩
      | panic => cases hending

/-- An engine whose first `COMMIT` takes effect and is reported as failed, and whose first
`ROLLBACK` loses the transaction and breaks the record. -/
def Engine.lateCommit : Engine where
  server :=
    { rows := ["old"]
      faults :=
        [{ statement := "COMMIT", schedule := {}, mode := .after, change := .kept,
           error := .unknown "late" },
         { statement := "ROLLBACK", schedule := {}, mode := .lost, change := .broken,
           error := .unknown "lost" }] }
  pool := { limits := { minIdle := 0 }, url := "db", idle := [{ serial := 0 }], size := 1 }

theorem lateCommit_all_or_nothing :
    Engine.openSession Engine.lateCommit =
      (.ok ⟨1, some { serial := 0, label := some 1 }, false⟩,
        (Engine.openSession Engine.lateCommit).2) ∧
    Session.IsOutside ⟨1, some { serial := 0, label := some 1 }, false⟩ ∧
    (∀ text ∈ ["PUT a", "UNIQUE b; PUT c"], IsOrdinary text) ∧
    (∃ kept, Ending ["PUT a", "UNIQUE b; PUT c"]
        ⟨⟨1, some { serial := 0, label := some 1 }, false⟩,
          (Engine.openSession Engine.lateCommit).2⟩
        (Engine.runStatements ["PUT a", "UNIQUE b; PUT c"] Engine.lateCommit).1 kept ∧
      (Engine.runStatements ["PUT a", "UNIQUE b; PUT c"] Engine.lateCommit).2.server.rows =
        if kept then Engine.lateCommit.server.rows ++
          ["PUT a", "UNIQUE b; PUT c"].flatMap rowsOf
        else Engine.lateCommit.server.rows) ∧
    (Engine.runStatements ["PUT a", "UNIQUE b; PUT c"] Engine.lateCommit).2.server.rows =
      ["old", "a", "b", "c"] := by
  have hopen : Engine.openSession Engine.lateCommit =
      (.ok ⟨1, some { serial := 0, label := some 1 }, false⟩,
        (Engine.openSession Engine.lateCommit).2) := by decide
  have hs : Session.IsOutside ⟨1, some { serial := 0, label := some 1 }, false⟩ :=
    ⟨rfl, _, rfl, rfl, rfl⟩
  have ht : ∀ text ∈ ["PUT a", "UNIQUE b; PUT c"], IsOrdinary text := by decide
  exact ⟨hopen, hs, ht, runStatements_all_or_nothing hopen hs ht, by decide +kernel⟩

end TransactionGateway
