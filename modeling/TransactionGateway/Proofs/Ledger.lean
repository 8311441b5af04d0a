import TransactionGateway.Database.Transaction
import TransactionGateway.Proofs.Actions
import TransactionGateway.Proofs.Sending

/-! # Ledgers

A database without connections, records, names or faults: committed rows, and the rows of the one
transaction that is open, if any.

* **Statements** (`Ledger.apply`). A row is added to the pending ones inside a transaction, and to
  the committed ones outside. `UNIQUE` refuses a row that stands among either.
* **Links** (`Link.Shows`). A link without faults shows a ledger when its rows are those of the
  ledger and its transaction is the one of the ledger, without savepoints and as the client records
  it.
* **Simulation.** Statements that are not transaction control do to a link what they do to the
  ledger that it shows (`simulates_perform`); the transaction calls move it between the ledgers
  with and without pending rows (`begin_of_shows`, `commit_of_shows`, `rollback_of_shows`). -/

namespace TransactionGateway.Database

open Act

/-- Committed rows, and the pending ones of an open transaction. -/
structure Ledger where
  rows : List String
  pending : Option (List String) := none
deriving DecidableEq, Repr

namespace Ledger

/-- The row stands in the ledger, committed or pending. -/
def holds (row : String) (b : Ledger) : Bool :=
  b.rows.contains row || (b.pending.map (·.contains row)).getD false

/-- The ledger with one more row. -/
def add (row : String) (b : Ledger) : Ledger :=
  match b.pending with
  | some rows => { b with pending := some (rows ++ [row]) }
  | none => { b with rows := b.rows ++ [row] }

/-- The effect of a statement; transaction control has none. -/
def apply (isLenient : Bool) : Statement → Act Ledger Error Unit
  | .ping | .probe => done ()
  | .begin | .commit | .rollback | .savepoint _ | .release _ | .rollbackTo _ => done ()
  | .put row => update (add row)
  | .unique row => fun b =>
    if b.holds row then (.err (.refused .uniqueViolation ("duplicate key: " ++ row)), b)
    else (.ok (), b.add row)
  | .crash => panic
  | .notUnderstood word => fun b =>
    if isLenient then (.ok (), b)
    else (.err (.unknown ("near \"" ++ word ++ "\": syntax error")), b)

/-- A statement sent to the ledger. -/
def send (isLenient : Bool) (text : String) : Act Ledger Error Unit :=
  apply isLenient (Statement.ofText text)

/-- A transaction is open. -/
def isOpen (b : Ledger) : Bool := b.pending.isSome

theorem isOpen_add (row : String) (b : Ledger) : (b.add row).isOpen = b.isOpen := by
  obtain ⟨rows, pending⟩ := b
  cases pending <;> rfl

/-- Statements other than transaction control neither open nor end a transaction. -/
theorem isOpen_apply (isLenient : Bool) (s : Statement) (b : Ledger) :
    (apply isLenient s b).2.isOpen = b.isOpen := by
  cases s with
  | put row => exact isOpen_add row b
  | unique row =>
      simp only [apply]
      split
      · rfl
      · exact isOpen_add row b
  | notUnderstood word =>
      simp only [apply]
      split <;> rfl
  | _ => rfl

theorem isOpen_each (isLenient : Bool) (texts : List String) (b : Ledger) :
    (each (send isLenient) texts b).2.isOpen = b.isOpen := by
  induction texts generalizing b with
  | nil => rfl
  | cons text texts ih =>
      have h := isOpen_apply isLenient (Statement.ofText text) b
      rw [each, bind_apply, send]
      cases hs : apply isLenient (Statement.ofText text) b with
      | mk r b' =>
          rw [hs] at h
          cases r with
          | ok a => exact (ih b').trans h
          | err e => exact h
          | panic => exact h

/-- Inside a transaction only the pending rows change. -/
theorem apply_pending (isLenient : Bool) (s : Statement) (rows pending : List String) :
    ∃ pending', (apply isLenient s ⟨rows, some pending⟩).2 = ⟨rows, some pending'⟩ := by
  have same : ∃ pending', Ledger.mk rows (some pending) = ⟨rows, some pending'⟩ := ⟨pending, rfl⟩
  cases s with
  | put row => exact ⟨pending ++ [row], rfl⟩
  | unique row =>
      simp only [apply]
      split
      · exact same
      · exact ⟨pending ++ [row], rfl⟩
  | notUnderstood word =>
      simp only [apply]
      split <;> exact same
  | _ => exact same

end Ledger

/-- The client's record of a transaction without savepoints, or of none. -/
def Record.ofPending : Option (List String) → Record
  | some _ => .active 0 false
  | none => .idle

/-- The link is without faults, and shows the ledger. -/
structure Link.Shows (isLenient : Bool) (l : Link) (b : Ledger) : Prop where
  rows : l.server.rows = b.rows
  work : l.connection.work = b.pending.map fun pending => { pending }
  record : l.connection.record = .ofPending b.pending
  isLenient : l.server.isLenient = isLenient
  faults : l.server.faults = []

variable {isLenient : Bool}

theorem perform_of_no_faults {text : String} {l : Link} (h : l.server.faults = []) :
    perform text l = (Statement.ofText text).run (l.received text) := by
  rw [perform_eq, h, strike_nil]

namespace Link.Shows

variable {l : Link} {b : Ledger}

theorem received (h : Shows isLenient l b) (text : String) :
    Shows isLenient (l.received text) b where
  rows := by rw [received_rows, h.rows]
  work := by rw [received_work, h.work]
  record := by rw [received_record, h.record]
  isLenient := by rw [received_isLenient, h.isLenient]
  faults := by rw [received_faults, h.faults]; rfl

theorem add (h : Shows isLenient l b) (row : String) :
    ∃ l', addRow row l = (.ok (), l') ∧ Shows isLenient l' (b.add row) := by
  obtain ⟨hrows, hwork, hrec, hlenient, hfaults⟩ := h
  obtain ⟨rows, pending⟩ := b
  cases pending with
  | none =>
      have hadd : addRow row l = (.ok (), l.withRows (l.server.rows ++ [row])) := by
        simp only [addRow, update, hwork, Option.map_none]
      exact ⟨_, hadd, congrArg (· ++ [row]) hrows, hwork, hrec, hlenient, hfaults⟩
  | some pending =>
      have hadd : addRow row l =
          (.ok (), l.withWork (some { pending := pending ++ [row] })) := by
        simp only [addRow, update, hwork, Option.map_some, Work.add]
      exact ⟨_, hadd, hrows, rfl, hrec, hlenient, hfaults⟩

theorem holds (h : Shows isLenient l b) (row : String) :
    (l.server.rows.contains row || (l.connection.work.map (·.holds row)).getD false) =
      b.holds row := by
  rw [h.rows, h.work, Option.map_map]
  rfl

end Link.Shows

theorem simulates_statement {s : Statement} (hs : s.isTransactionControl = false) :
    Simulates (Link.Shows isLenient) s.run (Ledger.apply isLenient s) := by
  intro l b h
  cases s with
  | begin | commit | rollback => cases hs
  | savepoint | release | rollbackTo => cases hs
  | ping | probe => exact ⟨rfl, h⟩
  | crash => exact ⟨rfl, h⟩
  | put row =>
      obtain ⟨l', hadd, hl'⟩ := h.add row
      rw [Statement.run, hadd]
      exact ⟨rfl, hl'⟩
  | unique row =>
      simp only [Statement.run, Ledger.apply, h.holds]
      cases b.holds row with
      | true => exact ⟨rfl, h⟩
      | false =>
          obtain ⟨l', hadd, hl'⟩ := h.add row
          simp only [Bool.false_eq_true, if_false, hadd]
          exact ⟨trivial, hl'⟩
  | notUnderstood word =>
      simp only [Statement.run, Ledger.apply, h.isLenient]
      cases isLenient with
      | true => exact ⟨rfl, h⟩
      | false => exact ⟨rfl, h⟩

theorem simulates_perform {text : String}
    (ht : (Statement.ofText text).isTransactionControl = false) :
    Simulates (Link.Shows isLenient) (perform text) (Ledger.send isLenient text) := by
  intro l b h
  rw [perform_of_no_faults h.faults]
  exact simulates_statement ht _ _ (h.received text)

theorem performAll_eq_each (texts : List String) : performAll texts = each perform texts := by
  induction texts with
  | nil => rfl
  | cons text texts ih => rw [performAll, each, ih]

/-- A batch does what its statements do, as far as the history is not looked at. -/
theorem simulates_plainBatch {τ : Type} {R : Link → τ → Prop} {send : String → Act τ Error Unit}
    {sql : String} (hR : ∀ event l t, R l t → R (l.remembering event) t)
    (h : ∀ text ∈ statementTexts sql, Simulates R (perform text) (send text)) :
    Simulates R (plainBatch sql) (each send (statementTexts sql)) := by
  intro l t hl
  have hb := simulates_each h
  rw [← performAll_eq_each] at hb
  exact hb _ t (hR (.plain sql l.connection.record) l t hl)

theorem Link.Shows.remembering {l : Link} {b : Ledger} (event : Event)
    (h : l.Shows isLenient b) : (l.remembering event).Shows isLenient b :=
  ⟨h.rows, h.work, h.record, h.isLenient, h.faults⟩

/-! ### Transaction calls -/

theorem Link.Sent.withRecord {text : String} {l l' : Link} (h : l.Sent text l') (record : Record) :
    l.Sent text (l'.withRecord record) :=
  ⟨h.label, h.isLenient, h.faults, h.journal, h.history⟩

theorem begin_of_shows {l : Link} {rows : List String} (h : l.Shows isLenient ⟨rows, none⟩) :
    ∃ l', Transaction.begin l = (.ok (), l') ∧ l'.Shows isLenient ⟨rows, some []⟩ ∧
      l.Sent "BEGIN" l' := by
  have hr := h.received "BEGIN"
  have hsent := sent_perform "BEGIN" l
  have hperform : perform "BEGIN" l = (.ok (), (l.received "BEGIN").withWork (some {})) := by
    rw [perform_of_no_faults h.faults, run_begin, hr.work]
    rfl
  rw [hperform] at hsent
  simp only [Transaction.begin, h.record, Record.ofPending, Transaction.sendBegin, batch_begin,
    bind_apply, hperform]
  refine ⟨_, rfl, ⟨hr.rows, rfl, ?_, hr.isLenient, hr.faults⟩, hsent.withRecord _⟩
  show Transaction.deepened (l.received "BEGIN").connection.record = _
  rw [hr.record]
  rfl

theorem commit_of_shows {l : Link} {rows pending : List String}
    (h : l.Shows isLenient ⟨rows, some pending⟩) :
    ∃ l', Transaction.commit l = (.ok (), l') ∧ l'.Shows isLenient ⟨rows ++ pending, none⟩ ∧
      l.Sent "COMMIT" l' := by
  have hr := h.received "COMMIT"
  have hsent := sent_perform "COMMIT" l
  have hperform : perform "COMMIT" l =
      (.ok (), ((l.received "COMMIT").withRows (rows ++ pending)).withWork none) := by
    rw [perform_of_no_faults h.faults, run_commit, hr.work, hr.rows]
    rfl
  rw [hperform] at hsent
  simp only [Transaction.commit, h.record, Record.ofPending, Transaction.sendCommit, batch_commit,
    hperform]
  refine ⟨_, rfl, ⟨rfl, rfl, ?_, hr.isLenient, hr.faults⟩, hsent.withRecord _⟩
  show Transaction.raised (l.received "COMMIT").connection.record = _
  rw [hr.record]
  rfl

theorem rollback_of_shows {l : Link} {rows pending : List String}
    (h : l.Shows isLenient ⟨rows, some pending⟩) :
    ∃ l', Transaction.rollback l = (.ok (), l') ∧ l'.Shows isLenient ⟨rows, none⟩ ∧
      l.Sent "ROLLBACK" l' := by
  have hr := h.received "ROLLBACK"
  have hsent := sent_perform "ROLLBACK" l
  have hperform : perform "ROLLBACK" l = (.ok (), (l.received "ROLLBACK").withWork none) := by
    rw [perform_of_no_faults h.faults, run_rollback, hr.work]
    rfl
  rw [hperform] at hsent
  simp only [Transaction.rollback, h.record, Record.ofPending, Transaction.sendRollback,
    batch_rollback, hperform]
  refine ⟨_, rfl, ⟨hr.rows, rfl, ?_, hr.isLenient, hr.faults⟩, hsent.withRecord _⟩
  show Transaction.raised (l.received "ROLLBACK").connection.record = _
  rw [hr.record]
  rfl

namespace Link.Shows

variable {rows pending : List String}

theorem leads_begin : Leads (Link.Shows isLenient · ⟨rows, none⟩) Transaction.begin
    (Link.Shows isLenient · ⟨rows, some []⟩) (fun _ => False) := by
  intro l h
  obtain ⟨l', hbegin, hl', -⟩ := begin_of_shows h
  rw [hbegin]
  exact hl'

theorem leads_commit : Leads (Link.Shows isLenient · ⟨rows, some pending⟩) Transaction.commit
    (Link.Shows isLenient · ⟨rows ++ pending, none⟩) (fun _ => False) := by
  intro l h
  obtain ⟨l', hcommit, hl', -⟩ := commit_of_shows h
  rw [hcommit]
  exact hl'

theorem leads_rollback : Leads (Link.Shows isLenient · ⟨rows, some pending⟩) Transaction.rollback
    (Link.Shows isLenient · ⟨rows, none⟩) (fun _ => False) := by
  intro l h
  obtain ⟨l', hrollback, hl', -⟩ := rollback_of_shows h
  rw [hrollback]
  exact hl'

end Link.Shows

end TransactionGateway.Database
