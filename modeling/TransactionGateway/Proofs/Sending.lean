import TransactionGateway.Database.Connection
import TransactionGateway.Proofs.Actions

/-! # Sending a statement

What one statement can change, whatever the plan of faults.

* **Frame.** A statement changes at most the rows and the transaction of its own connection
  (`run_frame`); on its way it is entered in the journal under the connection's name and counted by
  every fault (`Link.received`).
* **Faults.** A statement that succeeds has not been struck (`perform_ok`). One that is struck
  leaves the client's record as it was, broken or idle (`perform_record`).
* **Rows.** Besides `COMMIT`, only a row written outside of any transaction changes what has been
  committed (`perform_rows`). Inside a transaction the rows of a statement that succeeds are added
  to the pending ones (`perform_ok_of_open`). -/

namespace TransactionGateway.Database

open Act

/-! ### Texts -/

/-- No statement of the batch begins, ends or marks a transaction. -/
def IsControlFree (sql : String) : Prop :=
  ∀ text ∈ statementTexts sql, (Statement.ofText text).isTransactionControl = false

instance (sql : String) : Decidable (IsControlFree sql) :=
  inferInstanceAs (Decidable (∀ text ∈ statementTexts sql, _))

/-- Nor does any panic. -/
def IsOrdinary (sql : String) : Prop :=
  ∀ text ∈ statementTexts sql,
    (Statement.ofText text).isTransactionControl = false ∧ Statement.ofText text ≠ .crash

instance (sql : String) : Decidable (IsOrdinary sql) :=
  inferInstanceAs (Decidable (∀ text ∈ statementTexts sql, _))

/-! ### Naming and entering -/

namespace Link

/-- The name under which the connection is known in the journal, or will be. -/
def name (l : Link) : Nat := l.connection.label.getD (l.server.labels + 1)

/-- The link as a statement meets it: entered in the journal, and counted by every fault. -/
def received (text : String) (l : Link) : Link :=
  let l := l.entered text
  { l with server := { l.server with faults := l.server.faults.map (·.see text) } }

variable (text : String) (l : Link)

theorem entered_eq : l.entered text =
    { connection := { l.connection with label := some l.name }
      server := { l.server with
        labels := if l.connection.label.isSome then l.server.labels else l.server.labels + 1
        journal := l.server.journal ++ [.statement l.name text] } } := by
  unfold entered labelled name
  cases hl : l.connection.label with
  | none => rfl
  | some n =>
      obtain ⟨⟨serial, label, record, work⟩, server⟩ := l
      obtain rfl : label = some n := hl
      rfl

@[simp] theorem entered_faults : (l.entered text).server.faults = l.server.faults := by
  rw [entered_eq]

@[simp] theorem received_record : (l.received text).connection.record = l.connection.record := by
  unfold received
  rw [entered_eq]

@[simp] theorem received_work : (l.received text).connection.work = l.connection.work := by
  unfold received
  rw [entered_eq]

@[simp] theorem received_rows : (l.received text).server.rows = l.server.rows := by
  unfold received
  rw [entered_eq]

@[simp] theorem received_isLenient :
    (l.received text).server.isLenient = l.server.isLenient := by
  unfold received
  rw [entered_eq]

@[simp] theorem received_history : (l.received text).server.history = l.server.history := by
  unfold received
  rw [entered_eq]

@[simp] theorem received_faults :
    (l.received text).server.faults = l.server.faults.map (·.see text) := by
  unfold received
  rw [entered_eq]

@[simp] theorem received_journal :
    (l.received text).server.journal = l.server.journal ++ [.statement l.name text] := by
  unfold received
  rw [entered_eq]

end Link

/-- A statement is carried out as it stands, or struck by the first fault that is armed for it. -/
theorem perform_eq (text : String) (l : Link) : perform text l =
    match (strike text l.server.faults).1 with
    | none => (Statement.ofText text).run (l.received text)
    | some f => struck f text (l.received text) := by
  rw [← Link.entered_faults text l]
  rfl

/-! ### What a statement leaves alone -/

theorem run_frame (s : Statement) (l : Link) :
    ∃ work rows, (s.run l).2 = (l.withWork work).withRows rows := by
  have same : ∃ work rows, l = (l.withWork work).withRows rows :=
    ⟨l.connection.work, l.server.rows, rfl⟩
  cases s <;>
    simp only [Statement.run, atSavepoint, addRow, done, update, Act.panic] <;>
    repeat' split
  all_goals first
    | exact same
    | exact ⟨_, _, rfl⟩

theorem run_record (s : Statement) (l : Link) :
    (s.run l).2.connection.record = l.connection.record := by
  obtain ⟨work, rows, h⟩ := run_frame s l
  rw [h]
  rfl

/-- What a fault lets the statement do is within the frame of the statement. -/
theorem mode_frame (m : FaultMode) (text : String) (l : Link) :
    ∃ work rows, (m.run text l).2 = (l.withWork work).withRows rows := by
  cases m with
  | before => exact ⟨l.connection.work, l.server.rows, rfl⟩
  | after => exact run_frame (Statement.ofText text) l
  | lost => exact ⟨none, l.server.rows, rfl⟩

/-- What has happened when a fault has struck: the statement has done as much as the fault lets it
do, then the record has changed and the strike has been remembered. -/
def Link.afterStrike (f : Fault) (text : String) (l l' : Link) : Link :=
  (l'.changed f.change).remembering
    (.struck text f.change l.isOpen (l'.changed f.change).isOpen)

namespace Link

variable (f : Fault) (text : String) (l l' : Link)

@[simp] theorem afterStrike_rows : (l.afterStrike f text l').server.rows = l'.server.rows := by
  unfold afterStrike
  cases f.change <;> rfl

@[simp] theorem afterStrike_work :
    (l.afterStrike f text l').connection.work = l'.connection.work := by
  unfold afterStrike
  cases f.change <;> rfl

@[simp] theorem afterStrike_history : (l.afterStrike f text l').server.history =
    l'.server.history ++ [.struck text f.change l.isOpen l'.isOpen] := by
  unfold afterStrike
  cases f.change <;> rfl

theorem afterStrike_record : (l.afterStrike f text l').connection.record =
    match f.change with
    | .kept => l'.connection.record
    | .broken => .broken
    | .cleared => .idle := by
  unfold afterStrike
  cases f.change <;> rfl

end Link

/-- Either the statement does what it does by itself, or a fault strikes and is the answer. -/
theorem perform_cases (text : String) (l : Link) :
    perform text l = (Statement.ofText text).run (l.received text) ∨
    ∃ f l', (strike text l.server.faults).1 = some f ∧
      f.mode.run text (l.received text) = (.ok (), l') ∧
      perform text l = (.err f.error, (l.received text).afterStrike f text l') := by
  rw [perform_eq]
  cases hs : (strike text l.server.faults).1 with
  | none => exact .inl rfl
  | some f =>
      simp only [struck, bind_apply, read_apply]
      cases hm : f.mode.run text (l.received text) with
      | mk r l' =>
          cases r with
          | ok a => exact .inr ⟨f, l', rfl, hm, rfl⟩
          | err e =>
              left
              cases hf : f.mode <;> rw [hf] at hm
              · cases hm
              · exact hm.symm
              · cases hm
          | panic =>
              left
              cases hf : f.mode <;> rw [hf] at hm
              · cases hm
              · exact hm.symm
              · cases hm

/-- What every statement does to its link, whatever else it does: the connection is named, the
journal has its entry, each fault has counted, and the history may have grown. -/
structure Link.Sent (text : String) (l l' : Link) : Prop where
  label : l'.connection.label = some l.name
  isLenient : l'.server.isLenient = l.server.isLenient
  faults : l'.server.faults = l.server.faults.map (·.see text)
  journal : l'.server.journal = l.server.journal ++ [.statement l.name text]
  history : l.server.history <+: l'.server.history

namespace Link.Sent

variable {text : String} {l l' : Link}

theorem received (text : String) (l : Link) : Sent text l (l.received text) where
  label := by unfold Link.received; rw [entered_eq]
  isLenient := received_isLenient text l
  faults := received_faults text l
  journal := received_journal text l
  history := (received_history text l).symm ▸ List.prefix_rfl

theorem framed (h : Sent text l l') (work : Option Work) (rows : List String) :
    Sent text l ((l'.withWork work).withRows rows) :=
  ⟨h.label, h.isLenient, h.faults, h.journal, h.history⟩

theorem afterStrike (h : Sent text l l') (f : Fault) (l₀ : Link) :
    Sent text l (l₀.afterStrike f text l') := by
  unfold Link.afterStrike
  cases f.change <;>
    exact ⟨h.label, h.isLenient, h.faults, h.journal, h.history.trans (List.prefix_append _ _)⟩

end Link.Sent

theorem sent_perform (text : String) (l : Link) : l.Sent text (perform text l).2 := by
  have hr := Link.Sent.received text l
  rcases perform_cases text l with h | ⟨f, l', -, hm, h⟩
  · obtain ⟨work, rows, hf⟩ := run_frame (Statement.ofText text) (l.received text)
    rw [h, hf]
    exact hr.framed work rows
  · obtain ⟨work, rows, hf⟩ := mode_frame f.mode text (l.received text)
    rw [hm] at hf
    obtain rfl : l' = _ := hf
    rw [h]
    exact (hr.framed work rows).afterStrike f _

/-! ### Success, panic and the record -/

/-- A statement that succeeds has been carried out as it stands. -/
theorem perform_ok {text : String} {l l' : Link} (h : perform text l = (.ok (), l')) :
    (Statement.ofText text).run (l.received text) = (.ok (), l') := by
  rcases perform_cases text l with hp | ⟨f, l'', -, -, hp⟩
  · rw [← hp, h]
  · rw [hp] at h
    cases h

/-- Only one statement panics. -/
theorem run_ne_panic {s : Statement} (h : s ≠ .crash) (l : Link) : (s.run l).1 ≠ .panic := by
  cases s with
  | crash => exact absurd rfl h
  | _ =>
      simp only [Statement.run, atSavepoint, addRow, done, update]
      repeat' split
      all_goals nofun

theorem perform_ne_panic {text : String} (h : Statement.ofText text ≠ .crash) (l : Link) :
    (perform text l).1 ≠ .panic := by
  rcases perform_cases text l with hp | ⟨f, l', -, -, hp⟩
  · rw [hp]
    exact run_ne_panic h _
  · rw [hp]
    nofun

/-- The record may only become broken or idle, and not when the statement succeeds. -/
theorem perform_record (text : String) (l : Link) :
    (perform text l).2.connection.record = l.connection.record ∨
    (∃ e, (perform text l).1 = .err e) ∧
      ((perform text l).2.connection.record = .broken ∨
        (perform text l).2.connection.record = .idle) := by
  rcases perform_cases text l with h | ⟨f, l', -, hm, h⟩
  · left
    rw [h, run_record, Link.received_record]
  · obtain ⟨work, rows, hf⟩ := mode_frame f.mode text (l.received text)
    rw [hm] at hf
    obtain rfl : l' = _ := hf
    rw [h, Link.afterStrike_record]
    cases f.change with
    | kept => exact .inl (Link.received_record text l)
    | broken => exact .inr ⟨⟨_, rfl⟩, .inl rfl⟩
    | cleared => exact .inr ⟨⟨_, rfl⟩, .inr rfl⟩

/-! ### Rows -/

/-- The rows that a statement adds when it succeeds. -/
def Statement.rows : Statement → List String
  | put row | unique row => [row]
  | _ => []

/-- Outside of `COMMIT`, only a row written without a transaction is committed at once. -/
theorem run_rows {s : Statement} {l : Link} (hs : s ≠ .commit)
    (h : s.rows = [] ∨ l.isOpen = true) : (s.run l).2.server.rows = l.server.rows := by
  unfold Link.isOpen at h
  cases s <;>
    simp_all only [Statement.run, atSavepoint, addRow, done, update, Act.panic] <;>
    repeat' split
  all_goals first
    | rfl
    | simp_all [Statement.rows]

theorem perform_rows {text : String} {l : Link} (hs : Statement.ofText text ≠ .commit)
    (h : (Statement.ofText text).rows = [] ∨ l.isOpen = true) :
    (perform text l).2.server.rows = l.server.rows := by
  have hr : (l.received text).isOpen = l.isOpen := by
    unfold Link.isOpen
    rw [Link.received_work]
  have hrun := run_rows (l := l.received text) hs (by rw [hr]; exact h)
  rw [Link.received_rows] at hrun
  rcases perform_cases text l with hp | ⟨f, l', -, hm, hp⟩
  · rw [hp, hrun]
  · have hl : l'.server.rows = l.server.rows := by
      cases hf : f.mode <;> rw [hf] at hm
      · cases hm
        exact Link.received_rows text l
      · rw [FaultMode.run] at hm
        rw [hm] at hrun
        exact hrun
      · cases hm
        exact Link.received_rows text l
    rw [hp]
    exact (Link.afterStrike_rows f text _ l').trans hl

/-- Inside a transaction a statement that succeeds adds its rows to the pending ones. -/
theorem run_work_of_open {s : Statement} {l l' : Link} {w : Work}
    (hs : s.isTransactionControl = false) (hw : l.connection.work = some w)
    (h : s.run l = (.ok (), l')) :
    l'.connection.work = some { w with pending := w.pending ++ s.rows } := by
  have same : some w = some { w with pending := w.pending ++ [] } := by rw [List.append_nil]
  have added (row : String) (l'' : Link) (h' : addRow row l = (.ok (), l'')) :
      l''.connection.work = some { w with pending := w.pending ++ [row] } := by
    simp only [addRow, update, hw] at h'
    cases h'
    rfl
  cases s with
  | begin | commit | rollback => cases hs
  | savepoint | release | rollbackTo => cases hs
  | ping | probe =>
      cases h
      rw [hw]
      exact same
  | put row => exact added row l' h
  | unique row =>
      simp only [Statement.run] at h
      split at h
      · cases h
      · exact added row l' h
  | crash => cases h
  | notUnderstood word =>
      simp only [Statement.run] at h
      split at h <;> cases h
      rw [hw]
      exact same

/-- A statement that succeeds inside a transaction: the record is as before, and the rows that the
statement adds are pending. -/
theorem perform_ok_of_open {text : String} {l l' : Link} {w : Work}
    (hs : (Statement.ofText text).isTransactionControl = false) (hw : l.connection.work = some w)
    (h : perform text l = (.ok (), l')) :
    l'.connection.record = l.connection.record ∧
      l'.connection.work =
        some { w with pending := w.pending ++ (Statement.ofText text).rows } := by
  have hrun := perform_ok h
  refine ⟨?_, run_work_of_open hs (by rw [Link.received_work, hw]) hrun⟩
  have hr := run_record (Statement.ofText text) (l.received text)
  rw [hrun, Link.received_record] at hr
  exact hr

/-! ### Transaction statements -/

theorem record_of_perform_ok {text : String} {l l' : Link} (h : perform text l = (.ok (), l')) :
    l'.connection.record = l.connection.record := by
  rcases perform_record text l with hr | ⟨⟨e, he⟩, -⟩
  · rwa [h] at hr
  · rw [h] at he
    cases he

theorem run_begin (l : Link) : (Statement.ofText "BEGIN").run l =
    match l.connection.work with
    | some _ => (.err (.unknown "cannot start a transaction within a transaction"), l)
    | none => (.ok (), l.withWork (some {})) := by
  rw [show Statement.ofText "BEGIN" = .begin by decide]
  rfl

theorem run_commit (l : Link) : (Statement.ofText "COMMIT").run l =
    match l.connection.work with
    | some w => (.ok (), (l.withRows (l.server.rows ++ w.pending)).withWork none)
    | none => (.err (.unknown "cannot commit - no transaction is active"), l) := by
  rw [show Statement.ofText "COMMIT" = .commit by decide]
  rfl

theorem run_rollback (l : Link) : (Statement.ofText "ROLLBACK").run l =
    match l.connection.work with
    | some _ => (.ok (), l.withWork none)
    | none => (.err (.unknown "cannot rollback - no transaction is active"), l) := by
  rw [show Statement.ofText "ROLLBACK" = .rollback by decide]
  rfl

theorem work_of_begin {l l' : Link} (h : perform "BEGIN" l = (.ok (), l')) :
    l.connection.work = none ∧ l'.connection.work = some {} := by
  have hrun := perform_ok h
  rw [run_begin, Link.received_work] at hrun
  cases hw : l.connection.work with
  | none => rw [hw] at hrun; cases hrun; exact ⟨rfl, rfl⟩
  | some w => rw [hw] at hrun; cases hrun

theorem work_of_rollback {l l' : Link} (h : perform "ROLLBACK" l = (.ok (), l')) :
    l'.connection.work = none := by
  have hrun := perform_ok h
  rw [run_rollback, Link.received_work] at hrun
  cases hw : l.connection.work with
  | none => rw [hw] at hrun; cases hrun
  | some w => rw [hw] at hrun; cases hrun; rfl

theorem rows_of_commit {l l' : Link} (h : perform "COMMIT" l = (.ok (), l')) :
    l'.connection.work = none ∧
      ∃ w, l.connection.work = some w ∧ l'.server.rows = l.server.rows ++ w.pending := by
  have hrun := perform_ok h
  rw [run_commit, Link.received_work, Link.received_rows] at hrun
  cases hw : l.connection.work with
  | none => rw [hw] at hrun; cases hrun
  | some w => rw [hw] at hrun; cases hrun; exact ⟨rfl, w, rfl, rfl⟩

/-- A `COMMIT` that fails has no effect, unless the fault that strikes it lets it take effect. -/
theorem rows_of_failed_commit {l l' : Link} {e : Error}
    (h : perform "COMMIT" l = (.err e, l')) :
    l'.server.rows = l.server.rows ∨
    (∃ f, (strike "COMMIT" l.server.faults).1 = some f ∧ f.mode = .after) ∧
      ∃ w, l.connection.work = some w ∧ l'.server.rows = l.server.rows ++ w.pending := by
  rcases perform_cases "COMMIT" l with hp | ⟨f, l'', hs, hm, hp⟩
  · rw [hp, run_commit, Link.received_work] at h
    cases hw : l.connection.work with
    | some w => rw [hw] at h; cases h
    | none =>
        rw [hw] at h
        cases h
        exact .inl (Link.received_rows _ l)
  · rw [hp] at h
    cases h
    rw [Link.afterStrike_rows]
    cases hf : f.mode <;> rw [hf] at hm
    · cases hm
      exact .inl (Link.received_rows _ l)
    · rw [FaultMode.run, run_commit, Link.received_work, Link.received_rows] at hm
      cases hw : l.connection.work with
      | none => rw [hw] at hm; cases hm
      | some w =>
          rw [hw] at hm
          cases hm
          exact .inr ⟨⟨f, hs, hf⟩, w, rfl, rfl⟩
    · cases hm
      exact .inl (Link.received_rows _ l)

/-- A `COMMIT` struck by a fault that lets it take effect fails, and its rows are committed. -/
theorem rows_of_unreported_commit {l : Link} {f : Fault} {w : Work}
    (hs : (strike "COMMIT" l.server.faults).1 = some f) (hf : f.mode = .after)
    (hw : l.connection.work = some w) :
    ∃ e l', perform "COMMIT" l = (.err e, l') ∧ l'.server.rows = l.server.rows ++ w.pending := by
  rw [perform_eq, hs]
  simp only [struck, bind_apply, read_apply, hf, FaultMode.run, run_commit, Link.received_work, hw,
    update_apply, raise_apply]
  refine ⟨_, _, rfl, ?_⟩
  cases f.change <;> exact congrArg (· ++ w.pending) (Link.received_rows "COMMIT" l)

/-! ### Batches -/

theorem performAll_singleton (text : String) : performAll [text] = perform text := by
  funext l
  simp only [performAll, bind_apply, done]
  cases perform text l with
  | mk r l' => cases r <;> rfl

theorem batch_ping : batch "PING" = perform "PING" :=
  (congrArg performAll (by decide)).trans (performAll_singleton "PING")

theorem batch_probe : batch "SELECT 1" = perform "SELECT 1" :=
  (congrArg performAll (by decide)).trans (performAll_singleton "SELECT 1")

theorem batch_begin : batch "BEGIN" = perform "BEGIN" :=
  (congrArg performAll (by decide)).trans (performAll_singleton "BEGIN")

theorem batch_commit : batch "COMMIT" = perform "COMMIT" :=
  (congrArg performAll (by decide)).trans (performAll_singleton "COMMIT")

theorem batch_rollback : batch "ROLLBACK" = perform "ROLLBACK" :=
  (congrArg performAll (by decide)).trans (performAll_singleton "ROLLBACK")

/-- What every statement respects is respected by every batch. -/
theorem moves_batch {R : Link → Link → Prop} [IsPreorder Link R]
    (h : ∀ text, Moves R (perform text)) (sql : String) : Moves R (batch sql) := by
  have hall (texts : List String) : Moves R (performAll texts) := by
    induction texts with
    | nil => exact moves_done ()
    | cons text texts ih => exact moves_bind (h text) fun _ => ih
  exact hall (statementTexts sql)

end TransactionGateway.Database
