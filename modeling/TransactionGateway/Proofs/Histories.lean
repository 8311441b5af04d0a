import Mathlib.Data.List.Infix
import TransactionGateway.Database.Transaction
import TransactionGateway.Proofs.Actions
import TransactionGateway.Proofs.Sending

/-! # Histories that can be trusted

What the client's record says about the server, as long as nothing behind its back is to blame.

* **Proper histories** (`Proper`). No `BEGIN` is sent past the transaction calls while the record
  shows no transaction; a `BEGIN` that is struck opens nothing, or breaks the record; a fault
  clears the record only when nothing is open on the server.
* **Truth** (`Connection.IsTrue`). A record without a transaction means that none is open. The
  converse fails: a text may end the transaction that the record still shows.
* **Sustained** (`Sustains`). The history only grows, and when it is proper in the end, what held
  at first holds still. Every statement and every transaction call sustains the truth of the
  record. -/

namespace TransactionGateway.Database

open Act

/-- The event does not make the client's record deny a transaction that is open. -/
def Event.IsProper : Event → Prop
  | .plain text record => record = .idle → "BEGIN" ∉ statementTexts text
  | .struck statement change wasOpen isOpen =>
    (statement = "BEGIN" → wasOpen = false → isOpen = true → change = .broken) ∧
      (change = .cleared → isOpen = false)

instance : DecidablePred Event.IsProper
  | .plain text record =>
    inferInstanceAs (Decidable (record = .idle → "BEGIN" ∉ statementTexts text))
  | .struck statement change wasOpen isOpen =>
    inferInstanceAs (Decidable
      ((statement = "BEGIN" → wasOpen = false → isOpen = true → change = .broken) ∧
        (change = .cleared → isOpen = false)))

/-- All events of the history are proper. -/
def Proper (history : List Event) : Prop := ∀ event ∈ history, event.IsProper

instance : DecidablePred Proper := fun history =>
  inferInstanceAs (Decidable (∀ event ∈ history, event.IsProper))

theorem Proper.of_prefix {h h' : List Event} (hp : Proper h') (hh : h <+: h') : Proper h :=
  fun event he => hp event (hh.subset he)

/-- The history grows, and what held at first still holds if the history is proper in the end. -/
structure Sustains {σ : Type} (history : σ → List Event) (holds : σ → Prop) (s s' : σ) : Prop where
  grows : history s <+: history s'
  sustains : Proper (history s') → holds s → holds s'

instance {σ : Type} (history : σ → List Event) (holds : σ → Prop) :
    IsPreorder σ (Sustains history holds) where
  refl _ := ⟨List.prefix_rfl, fun _ => id⟩
  trans _ _ _ h h' := ⟨h.grows.trans h'.grows, fun hp hs =>
    h'.sustains hp (h.sustains (hp.of_prefix h'.grows) hs)⟩

/-- When the record shows no transaction, none is open. -/
def Connection.IsTrue (c : Connection) : Prop := c.record = .idle → c.work = none

namespace Link

/-- The truth of the record is sustained. -/
def Sustained : Link → Link → Prop := Sustains (·.server.history) (·.connection.IsTrue)

instance : IsPreorder Link Sustained :=
  inferInstanceAs (IsPreorder Link (Sustains (·.server.history) (·.connection.IsTrue)))

/-- Another record is as true as the one before, unless it comes to show no transaction. -/
theorem sustained_withRecord {l : Link} {record : Record}
    (h : record = .idle → l.connection.record = .idle ∨ l.connection.work = none) :
    Sustained l (l.withRecord record) := by
  refine ⟨List.prefix_rfl, fun _ hl hr => ?_⟩
  rcases h hr with hi | hw
  · exact hl hi
  · exact hw

end Link

/-! ### One statement -/

/-- Only `BEGIN` opens a transaction. -/
theorem ofText_eq_begin {text : String} (h : Statement.ofText text = .begin) : text = "BEGIN" := by
  refine Decidable.byContradiction fun hne => ?_
  revert h
  unfold Statement.ofText
  simp only [hne, if_false]
  repeat' split
  all_goals simp

theorem run_work_of_none {s : Statement} {l : Link} (hs : s ≠ .begin)
    (h : l.connection.work = none) : (s.run l).2.connection.work = none := by
  cases s <;>
    simp_all [Statement.run, atSavepoint, addRow, done, update, Act.panic, Link.withRows]
  all_goals
    split <;> simp_all

/-- What a fault lets the statement do opens no transaction, unless the statement is `BEGIN`. -/
theorem mode_work_of_none {m : FaultMode} {text : String} {l : Link} (ht : text ≠ "BEGIN")
    (h : l.connection.work = none) : (m.run text l).2.connection.work = none := by
  cases m with
  | before => exact h
  | after => exact run_work_of_none (fun hb => ht (ofText_eq_begin hb)) h
  | lost => rfl

theorem isTrue_of_run {text : String} {l l' : Link} {r : Outcome Error Unit}
    (h : (Statement.ofText text).run (l.received text) = (r, l')) (hl : l.connection.IsTrue)
    (hb : text = "BEGIN" → l.connection.record = .idle → r ≠ .ok ()) : l'.connection.IsTrue := by
  intro hidle
  have hrec := run_record (Statement.ofText text) (l.received text)
  rw [h, Link.received_record] at hrec
  have hi : l.connection.record = .idle := hrec.symm.trans hidle
  have hnone : (l.received text).connection.work = none := by
    rw [Link.received_work]
    exact hl hi
  by_cases ht : text = "BEGIN"
  · subst ht
    rw [run_begin, hnone] at h
    cases h
    exact absurd rfl (hb rfl hi)
  · have hwork := run_work_of_none (fun hs => ht (ofText_eq_begin hs)) hnone
    rw [h] at hwork
    exact hwork

/-- A fault leaves the record true, if what it has done is proper. -/
theorem isTrue_afterStrike {f : Fault} {text : String} {l l' : Link}
    (hm : f.mode.run text (l.received text) = (.ok (), l')) (hl : l.connection.IsTrue)
    (hp : Proper ((l.received text).afterStrike f text l').server.history) :
    ((l.received text).afterStrike f text l').connection.IsTrue := by
  intro hidle
  have hevent : Event.struck text f.change (l.received text).isOpen l'.isOpen ∈
      ((l.received text).afterStrike f text l').server.history := by
    rw [Link.afterStrike_history]
    exact List.mem_append_right _ List.mem_cons_self
  rw [Link.afterStrike_record] at hidle
  rw [Link.afterStrike_work]
  -- A cleared record is answered for by the history. A kept one was true before, and only a struck
  -- `BEGIN` can have opened a transaction since.
  cases hc : f.change with
  | broken => rw [hc] at hidle; cases hidle
  | cleared =>
      rw [hc] at hevent
      have hclosed : l'.connection.work.isSome = false := (hp _ hevent).2 rfl
      exact Option.not_isSome_iff_eq_none.mp (by rw [hclosed]; exact Bool.false_ne_true)
  | kept =>
      rw [hc] at hevent hidle
      obtain ⟨work, rows, hf⟩ := mode_frame f.mode text (l.received text)
      rw [hm] at hf
      obtain rfl : l' = _ := hf
      have hi : l.connection.record = .idle := (Link.received_record text l).symm.trans hidle
      have hnone : (l.received text).connection.work = none := by
        rw [Link.received_work]
        exact hl hi
      by_cases ht : text = "BEGIN"
      · subst ht
        cases work with
        | none => rfl
        | some w =>
            rw [Link.isOpen, hnone] at hevent
            cases (hp _ hevent).1 rfl rfl rfl
      · have hwork := @mode_work_of_none f.mode text _ ht hnone
        rw [hm] at hwork
        exact hwork

/-- A statement leaves the record true, unless it is a `BEGIN` that succeeds and is not recorded. -/
theorem isTrue_of_perform {text : String} {l l' : Link} {r : Outcome Error Unit}
    (h : perform text l = (r, l')) (hp : Proper l'.server.history) (hl : l.connection.IsTrue)
    (hb : text = "BEGIN" → l.connection.record = .idle → r ≠ .ok ()) : l'.connection.IsTrue := by
  rcases perform_cases text l with hrun | ⟨f, l'', -, hm, hstruck⟩
  · exact isTrue_of_run (hrun.symm.trans h) hl hb
  · rw [h] at hstruck
    cases hstruck
    exact isTrue_afterStrike hm hl hp

/-! ### Batches -/

namespace Link

theorem sustained_perform {text : String} {l : Link}
    (h : l.connection.record = .idle → text ≠ "BEGIN") : Sustained l (perform text l).2 :=
  ⟨(sent_perform text l).history, fun hp hl =>
    isTrue_of_perform rfl hp hl fun ht hi => absurd ht (h hi)⟩

/-- A batch that opens no transaction behind the back of the record. -/
theorem sustained_performAll {texts : List String} {l : Link}
    (h : l.connection.record = .idle → "BEGIN" ∉ texts) : Sustained l (performAll texts l).2 := by
  induction texts generalizing l with
  | nil => exact refl_of Sustained l
  | cons text texts ih =>
      have ht := @sustained_perform text l fun hi hb => h hi (hb ▸ List.mem_cons_self)
      rw [performAll, bind_apply]
      cases hp : perform text l with
      | mk r l' =>
          rw [hp] at ht
          cases r with
          | err e => exact ht
          | panic => exact ht
          | ok a =>
              refine trans_of Sustained ht (ih fun hi hb => ?_)
              rw [record_of_perform_ok hp] at hi
              exact h hi (List.mem_cons_of_mem text hb)

theorem record_of_performAll_ok {texts : List String} {l l' : Link}
    (h : performAll texts l = (.ok (), l')) : l'.connection.record = l.connection.record := by
  induction texts generalizing l with
  | nil => cases h; rfl
  | cons text texts ih =>
      rw [performAll, bind_apply] at h
      cases hp : perform text l with
      | mk r l₁ =>
          rw [hp] at h
          cases r with
          | err e => cases h
          | panic => cases h
          | ok a => exact (ih h).trans (record_of_perform_ok hp)

theorem grows_performAll (texts : List String) (l : Link) :
    l.server.history <+: (performAll texts l).2.server.history := by
  induction texts generalizing l with
  | nil => exact List.prefix_rfl
  | cons text texts ih =>
      have ht := (sent_perform text l).history
      rw [performAll, bind_apply]
      cases hp : perform text l with
      | mk r l' =>
          rw [hp] at ht
          cases r with
          | err e => exact ht
          | panic => exact ht
          | ok a => exact ht.trans (ih l')

/-- A text sent past the transaction calls: when it is not proper, the history tells. -/
theorem sustained_plainBatch (sql : String) : Moves Sustained (plainBatch sql) := by
  intro l
  have hgrows : (l.remembering (.plain sql l.connection.record)).server.history <+:
      (plainBatch sql l).2.server.history :=
    grows_performAll (statementTexts sql) _
  refine ⟨(List.prefix_append _ _).trans hgrows, fun hp hl => ?_⟩
  have hevent : Event.plain sql l.connection.record ∈ (plainBatch sql l).2.server.history :=
    hgrows.subset (List.mem_append_right _ List.mem_cons_self)
  refine (@sustained_performAll (statementTexts sql)
    (l.remembering (.plain sql l.connection.record)) fun hi => ?_).sustains hp hl
  exact hp _ hevent hi

end Link

/-! ### Transaction calls -/

namespace Transaction

/-- A batch sent while the record shows a transaction. -/
theorem sustained_batch_of_active {sql : String} {l : Link} {n : Nat} {doubtful : Bool}
    (hrec : l.connection.record = .active n doubtful) : l.Sustained (batch sql l).2 :=
  Link.sustained_performAll fun hi => by rw [hrec] at hi; cases hi

theorem sustained_begin : Moves Link.Sustained Transaction.begin := by
  intro l
  unfold Transaction.begin
  cases hrec : l.connection.record with
  | broken => exact refl_of Link.Sustained l
  | idle =>
      have hsent := (sent_perform "BEGIN" l).history
      simp only [sendBegin, batch_begin, bind_apply]
      cases hb : perform "BEGIN" l with
      | mk r l' =>
          rw [hb] at hsent
          cases r with
          | err e => exact ⟨hsent, fun hp hl => isTrue_of_perform hb hp hl nofun⟩
          | panic => exact ⟨hsent, fun hp hl => isTrue_of_perform hb hp hl nofun⟩
          | ok a =>
              refine ⟨hsent, fun _ _ hi => ?_⟩
              have hactive : deepened l'.connection.record = .idle := hi
              rw [record_of_perform_ok hb, hrec] at hactive
              cases hactive
  | active n doubtful =>
      have hbatch := @sustained_batch_of_active ("SAVEPOINT " ++ savepointName (n + 1)) l n _ hrec
      simp only [sendBegin, bind_apply]
      cases hb : batch ("SAVEPOINT " ++ savepointName (n + 1)) l with
      | mk r l' =>
          rw [hb] at hbatch
          cases r with
          | err e => exact hbatch
          | panic => exact hbatch
          | ok a =>
              refine trans_of Link.Sustained hbatch (Link.sustained_withRecord fun hi => ?_)
              rw [Link.record_of_performAll_ok hb, hrec] at hi
              cases hi

/-- The record raised after a statement that has succeeded: at the outermost level the statement
must have ended the transaction. -/
theorem sustained_raised {sql : String} {l l' : Link} {n : Nat} {doubtful : Bool}
    (hb : batch sql l = (.ok (), l')) (hrec : l.connection.record = .active n doubtful)
    (hend : n = 0 → l'.connection.work = none) :
    l.Sustained (l'.withRecord (raised l'.connection.record)) := by
  have hbatch := @sustained_batch_of_active sql l n _ hrec
  rw [hb] at hbatch
  refine trans_of Link.Sustained hbatch (Link.sustained_withRecord fun hi => .inr ?_)
  rw [Link.record_of_performAll_ok hb, hrec] at hi
  cases n with
  | zero => exact hend rfl
  | succ n => cases hi

theorem idle_of_afterFailedRollback {doubtful : Bool} {record : Record}
    (h : (afterFailedRollback doubtful record).2 = .idle) : record = .idle := by
  cases record with
  | idle => rfl
  | broken => cases h
  | active n d => cases n <;> cases h

theorem sustained_sendRollback {sql : String} {l : Link} {n : Nat} {d doubtful : Bool}
    (hrec : l.connection.record = .active n d)
    (hend : ∀ l', batch sql l = (.ok (), l') → n = 0 → l'.connection.work = none) :
    l.Sustained (sendRollback sql doubtful l).2 := by
  have hbatch := @sustained_batch_of_active sql l n _ hrec
  unfold sendRollback
  cases hb : batch sql l with
  | mk r l' =>
      rw [hb] at hbatch
      cases r with
      | ok a => exact sustained_raised hb hrec (hend l' hb)
      | panic => exact hbatch
      | err e =>
          exact trans_of Link.Sustained hbatch
            (Link.sustained_withRecord fun hi => .inl (idle_of_afterFailedRollback hi))

theorem sustained_rollback : Moves Link.Sustained rollback := by
  intro l
  unfold rollback
  cases hrec : l.connection.record with
  | broken => exact refl_of Link.Sustained l
  | idle => exact refl_of Link.Sustained l
  | active n doubtful =>
      cases n with
      | zero =>
          refine sustained_sendRollback hrec fun l' hb _ => ?_
          rw [batch_rollback] at hb
          exact work_of_rollback hb
      | succ n => exact sustained_sendRollback hrec fun l' _ hn => nomatch hn

theorem sustained_afterFailedCommit (e : Error) : Moves Link.Sustained (afterFailedCommit e) := by
  intro l
  have hundo : l.Sustained (undo e l).2 := by
    have hr := sustained_rollback l
    unfold undo
    cases hroll : rollback l with
    | mk r l' =>
        rw [hroll] at hr
        cases r with
        | ok a => exact hr
        | panic => exact hr
        | err e' =>
            have hbroken := @Link.sustained_withRecord l' .broken nofun
            exact trans_of Link.Sustained hr hbroken
  unfold afterFailedCommit
  split
  · exact hundo
  · exact hundo
  · exact refl_of Link.Sustained l

theorem sustained_sendCommit {sql : String} {l : Link} {n : Nat} {d : Bool}
    (hrec : l.connection.record = .active n d)
    (hend : ∀ l', batch sql l = (.ok (), l') → n = 0 → l'.connection.work = none) :
    l.Sustained (sendCommit sql l).2 := by
  have hbatch := @sustained_batch_of_active sql l n _ hrec
  unfold sendCommit
  cases hb : batch sql l with
  | mk r l' =>
      rw [hb] at hbatch
      cases r with
      | ok a => exact sustained_raised hb hrec (hend l' hb)
      | panic => exact hbatch
      | err e => exact trans_of Link.Sustained hbatch (sustained_afterFailedCommit e l')

theorem sustained_commit : Moves Link.Sustained commit := by
  intro l
  unfold commit
  cases hrec : l.connection.record with
  | broken => exact refl_of Link.Sustained l
  | idle => exact refl_of Link.Sustained l
  | active n doubtful =>
      cases n with
      | zero =>
          refine sustained_sendCommit hrec fun l' hb _ => ?_
          rw [batch_commit] at hb
          exact (rows_of_commit hb).1
      | succ n => exact sustained_sendCommit hrec fun l' _ hn => nomatch hn

theorem sustained_call (call : Call) : Moves Link.Sustained call.run := by
  cases call with
  | begin => exact sustained_begin
  | commit => exact sustained_commit
  | rollback => exact sustained_rollback

end Transaction

end TransactionGateway.Database
