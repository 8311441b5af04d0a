import TransactionGateway.Database.Transaction
import TransactionGateway.Proofs.Sending

/-! # Statements leave the books alone

A connection has its serial from the time when it is established, and the server counts the
connections established and lists those destroyed.

* **Transaction calls** send statements and change the client's record. What both of these respect,
  they respect (`Link.Routine`).
* **Books** (`Link.SameBooks`). Statements change neither the serial nor the counts, whatever they
  do and whatever fault strikes them.
* **Plans** (`Link.SamePlans`). Nor do they plan anything: an empty plan of faults stays empty, and
  the plan of outages is not touched. -/

namespace TransactionGateway.Database

open Act

namespace Link

/-- Statements, changes of the client's record and what is remembered all respect the relation. -/
structure Routine (R : Link → Link → Prop) : Prop where
  statement : ∀ text, Moves R (perform text)
  record : ∀ record l, R l (l.withRecord record)
  event : ∀ event l, R l (l.remembering event)

/-- A statement is received, has its effect within its frame, and may then change the record and be
remembered. -/
theorem routine_of_parts {R : Link → Link → Prop} [IsPreorder Link R]
    (hreceived : ∀ text l, R l (l.received text))
    (hframe : ∀ work rows l, R l ((l.withWork work).withRows rows))
    (hrecord : ∀ record l, R l (l.withRecord record))
    (hevent : ∀ event l, R l (l.remembering event)) : Routine R := by
  refine ⟨fun text l => ?_, hrecord, hevent⟩
  rcases perform_cases text l with h | ⟨f, l', -, hm, h⟩
  · obtain ⟨work, rows, hf⟩ := run_frame (Statement.ofText text) (l.received text)
    rw [h, hf]
    exact trans_of R (hreceived text l) (hframe work rows _)
  · obtain ⟨work, rows, hf⟩ := mode_frame f.mode text (l.received text)
    rw [hm] at hf
    obtain rfl : l' = _ := hf
    rw [h]
    refine trans_of R (trans_of R (hreceived text l) (hframe work rows _)) ?_
    refine trans_of R ?_ (hevent _ _)
    cases f.change with
    | kept => exact refl_of R _
    | broken => exact hrecord _ _
    | cleared => exact hrecord _ _

namespace Routine

variable {R : Link → Link → Prop} [IsPreorder Link R]

theorem batch (h : Routine R) (sql : String) : Moves R (Database.batch sql) :=
  moves_batch h.statement sql

theorem plainBatch (h : Routine R) (sql : String) : Moves R (Database.plainBatch sql) :=
  moves_bind (fun _ => h.event _ _) fun _ => h.batch sql

theorem sendBegin (h : Routine R) (sql : String) : Moves R (Transaction.sendBegin sql) :=
  moves_bind (h.batch sql) fun _ l => h.record _ l

theorem begin (h : Routine R) : Moves R Transaction.begin := by
  intro l
  unfold Transaction.begin
  split
  · exact refl_of R l
  · exact h.sendBegin _ l
  · exact h.sendBegin _ l

theorem sendRollback (h : Routine R) (sql : String) (doubtful : Bool) :
    Moves R (Transaction.sendRollback sql doubtful) := by
  intro l
  have hb := h.batch sql l
  unfold Transaction.sendRollback
  cases hbatch : Database.batch sql l with
  | mk r l' =>
      rw [hbatch] at hb
      cases r with
      | ok a => exact trans_of R hb (h.record _ l')
      | err e => exact trans_of R hb (h.record _ l')
      | panic => exact hb

theorem rollback (h : Routine R) : Moves R Transaction.rollback := by
  intro l
  unfold Transaction.rollback
  split
  · exact refl_of R l
  · exact refl_of R l
  · exact h.sendRollback _ _ l
  · exact h.sendRollback _ _ l

theorem undo (h : Routine R) (e : Error) : Moves R (Transaction.undo e) := by
  intro l
  have hr := h.rollback l
  unfold Transaction.undo
  cases hroll : Transaction.rollback l with
  | mk r l' =>
      rw [hroll] at hr
      cases r with
      | ok a => exact hr
      | err e' => exact trans_of R hr (h.record _ l')
      | panic => exact hr

theorem sendCommit (h : Routine R) (sql : String) : Moves R (Transaction.sendCommit sql) := by
  intro l
  have hb := h.batch sql l
  unfold Transaction.sendCommit
  cases hbatch : Database.batch sql l with
  | mk r l' =>
      rw [hbatch] at hb
      cases r with
      | ok a => exact trans_of R hb (h.record _ l')
      | panic => exact hb
      | err e =>
          refine trans_of R hb ?_
          show R l' (Transaction.afterFailedCommit e l').2
          unfold Transaction.afterFailedCommit
          split
          · exact h.undo e l'
          · exact h.undo e l'
          · exact refl_of R l'

theorem commit (h : Routine R) : Moves R Transaction.commit := by
  intro l
  unfold Transaction.commit
  split
  · exact refl_of R l
  · exact refl_of R l
  · exact h.sendCommit _ l
  · exact h.sendCommit _ l

theorem call (h : Routine R) (call : Transaction.Call) : Moves R call.run := by
  cases call with
  | begin => exact h.begin
  | commit => exact h.commit
  | rollback => exact h.rollback

end Routine

/-! ### Books -/

/-- The connection keeps its serial, and the server its counts of connections. -/
structure SameBooks (l l' : Link) : Prop where
  serial : l'.connection.serial = l.connection.serial
  established : l'.server.established = l.server.established
  destroyed : l'.server.destroyed = l.server.destroyed

instance : IsPreorder Link SameBooks where
  refl _ := ⟨rfl, rfl, rfl⟩
  trans _ _ _ h h' := ⟨h'.serial.trans h.serial, h'.established.trans h.established,
    h'.destroyed.trans h.destroyed⟩

theorem routine_sameBooks : Routine SameBooks := by
  refine routine_of_parts (fun text l => ?_) (fun _ _ _ => ⟨rfl, rfl, rfl⟩)
    (fun _ _ => ⟨rfl, rfl, rfl⟩) fun _ _ => ⟨rfl, rfl, rfl⟩
  unfold received
  rw [entered_eq]
  exact ⟨rfl, rfl, rfl⟩

/-! ### Plans -/

/-- An empty plan of faults stays empty, and the plan of outages stays as it is. -/
structure SamePlans (l l' : Link) : Prop where
  faults : l.server.faults = [] → l'.server.faults = []
  outages : l'.server.outages = l.server.outages

instance : IsPreorder Link SamePlans where
  refl _ := ⟨id, rfl⟩
  trans _ _ _ h h' := ⟨h'.faults ∘ h.faults, h'.outages.trans h.outages⟩

theorem routine_samePlans : Routine SamePlans := by
  refine routine_of_parts (fun text l => ⟨fun h => ?_, ?_⟩) (fun _ _ _ => ⟨id, rfl⟩)
    (fun _ _ => ⟨id, rfl⟩) fun _ _ => ⟨id, rfl⟩
  · rw [received_faults, h]
    rfl
  · unfold received
    rw [entered_eq]

end Link

end TransactionGateway.Database
