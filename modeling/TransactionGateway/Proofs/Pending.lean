import Mathlib.Data.List.Forall2
import TransactionGateway.Proofs.Histories

/-! # Statements in a transaction

What becomes of an open transaction while statements without transaction control are sent to it,
whatever faults strike.

* **Parts** (`Adds`). A statement that succeeds adds its rows to the pending ones. One that fails
  adds its rows as well, or nothing, as the fault that strikes it lets it.
* **Tallies** (`Tallies said pending`). The pending rows are the parts of the statements that have
  been sent, one part for each, in order. So the rows of those that have succeeded are among them in
  order (`Tallies.sublist`).
* **Loss.** Only a statement that fails can lose the transaction, and it ends its batch. A
  transaction that is lost stays so, since only `BEGIN` opens one. As long as it is there the
  committed rows do not change.
* **Candid histories** (`Candid`). The faults clear the client's record only when nothing is open on
  the server. That alone keeps the record true while no transaction is begun. -/

namespace TransactionGateway.Database

open Act

/-! ### Parts and tallies -/

/-- What a statement may have added to a transaction that is still open, by its answer. -/
def Adds (line : String × Outcome Error Unit) (part : List String) : Prop :=
  part = (Statement.ofText line.1).rows ∨ line.2 ≠ .ok () ∧ part = []

/-- The rows are what the statements have added, one after another. -/
def Tallies (said : List (String × Outcome Error Unit)) (rows : List String) : Prop :=
  ∃ parts, List.Forall₂ Adds said parts ∧ rows = parts.flatten

/-- The rows of the statements that have succeeded. -/
def reported (said : List (String × Outcome Error Unit)) : List String :=
  said.flatMap fun line => if line.2 = .ok () then (Statement.ofText line.1).rows else []

namespace Tallies

variable {said said' : List (String × Outcome Error Unit)} {rows rows' : List String}

theorem nil : Tallies [] [] := ⟨[], .nil, rfl⟩

theorem single {line : String × Outcome Error Unit} {part : List String} (h : Adds line part) :
    Tallies [line] part :=
  ⟨[part], .cons h .nil, (List.flatten_singleton).symm⟩

theorem append (h : Tallies said rows) (h' : Tallies said' rows') :
    Tallies (said ++ said') (rows ++ rows') := by
  obtain ⟨parts, hparts, rfl⟩ := h
  obtain ⟨parts', hparts', rfl⟩ := h'
  exact ⟨parts ++ parts', List.rel_append hparts hparts', List.flatten_append.symm⟩

theorem sublist (h : Tallies said rows) : (reported said).Sublist rows := by
  obtain ⟨parts, hparts, rfl⟩ := h
  induction hparts with
  | nil => exact List.Sublist.refl []
  | @cons line part said parts hadds _ ih =>
      have hpart :
          (if line.2 = .ok () then (Statement.ofText line.1).rows else []).Sublist part := by
        split
        · next hok =>
            obtain rfl | ⟨hne, -⟩ := hadds
            · exact List.Sublist.refl _
            · exact absurd hok hne
        · exact List.nil_sublist part
      exact hpart.append ih

end Tallies

/-- The statements of a batch that are sent, each with its answer. -/
def answers : List String → Link → List (String × Outcome Error Unit)
  | [], _ => []
  | text :: rest, l =>
    match perform text l with
    | (.ok _, l') => (text, .ok ()) :: answers rest l'
    | (r, _) => [(text, r)]

/-! ### One statement -/

/-- A statement other than transaction control that does not succeed has no effect. -/
theorem run_of_not_ok {s : Statement} {l : Link} (hs : s.isTransactionControl = false)
    (h : (s.run l).1 ≠ .ok ()) : (s.run l).2 = l := by
  cases s with
  | begin | commit | rollback => cases hs
  | savepoint | release | rollbackTo => cases hs
  | ping | probe => rfl
  | put row => exact absurd rfl h
  | unique row =>
      simp only [Statement.run] at h ⊢
      split
      · rfl
      · next hholds =>
          rw [if_neg hholds] at h
          exact absurd rfl h
  | crash => rfl
  | notUnderstood word =>
      simp only [Statement.run]
      split <;> rfl

section statement
variable {text : String} {l : Link}

/-- A statement sent to an open transaction adds its part, or it fails and the transaction is
lost. -/
theorem adds_of_perform {w : Work} (ht : (Statement.ofText text).isTransactionControl = false)
    (hw : l.connection.work = some w) :
    (∃ part w', Adds (text, (perform text l).1) part ∧
      (perform text l).2.connection.work = some w' ∧ w'.pending = w.pending ++ part) ∨
    (perform text l).1 ≠ .ok () ∧ (perform text l).2.connection.work = none := by
  have hreceived : (l.received text).connection.work = some w := by rw [Link.received_work, hw]
  rcases perform_cases text l with h | ⟨f, l', -, hm, h⟩
  · rw [h]
    cases hrun : (Statement.ofText text).run (l.received text) with
    | mk r l' =>
        by_cases hr : r = .ok ()
        · subst hr
          exact .inl ⟨_, _, .inl rfl, run_work_of_open ht hreceived hrun, rfl⟩
        · have hsame := run_of_not_ok (l := l.received text) ht (by rw [hrun]; exact hr)
          rw [hrun] at hsame
          obtain rfl : l' = l.received text := hsame
          exact .inl ⟨[], w, .inr ⟨hr, rfl⟩, hreceived, (List.append_nil _).symm⟩
  · rw [h]
    cases hmode : f.mode <;> rw [hmode] at hm
    · cases hm
      refine .inl ⟨[], w, .inr ⟨nofun, rfl⟩, ?_, (List.append_nil _).symm⟩
      exact (Link.afterStrike_work f text _ _).trans hreceived
    · refine .inl ⟨_, { w with pending := w.pending ++ (Statement.ofText text).rows }, .inl rfl,
        ?_, rfl⟩
      exact (Link.afterStrike_work f text _ _).trans (run_work_of_open ht hreceived hm)
    · cases hm
      exact .inr ⟨nofun, Link.afterStrike_work f text _ _⟩

theorem ne_begin_of_controlFree (ht : (Statement.ofText text).isTransactionControl = false) :
    text ≠ "BEGIN" := by
  rintro rfl
  revert ht
  decide

/-- Outside of any transaction a statement other than transaction control opens none. -/
theorem work_of_perform_of_none (ht : (Statement.ofText text).isTransactionControl = false)
    (hw : l.connection.work = none) : (perform text l).2.connection.work = none := by
  have hreceived : (l.received text).connection.work = none := by rw [Link.received_work, hw]
  rcases perform_cases text l with h | ⟨f, l', -, hm, h⟩
  · rw [h]
    exact run_work_of_none (fun hs => by rw [hs] at ht; cases ht) hreceived
  · have hmode := @mode_work_of_none f.mode text _ (ne_begin_of_controlFree ht) hreceived
    rw [hm] at hmode
    rw [h]
    exact (Link.afterStrike_work f text _ _).trans hmode

end statement

/-! ### Candid histories -/

/-- A fault that clears the client's record leaves no transaction open on the server. -/
def Event.IsCandid : Event → Prop
  | .plain _ _ => True
  | .struck _ change _ isOpen => change = .cleared → isOpen = false

instance : DecidablePred Event.IsCandid
  | .plain _ _ => inferInstanceAs (Decidable True)
  | .struck _ change _ isOpen => inferInstanceAs (Decidable (change = .cleared → isOpen = false))

/-- All events of the history are candid. -/
def Candid (history : List Event) : Prop := ∀ event ∈ history, event.IsCandid

instance : DecidablePred Candid := fun history =>
  inferInstanceAs (Decidable (∀ event ∈ history, event.IsCandid))

theorem Candid.of_prefix {h h' : List Event} (hc : Candid h') (hh : h <+: h') : Candid h :=
  fun event he => hc event (hh.subset he)

/-- Without transaction control the record stays true, as far as the faults are candid. -/
theorem isTrue_of_candid {text : String} {l : Link}
    (ht : (Statement.ofText text).isTransactionControl = false)
    (hc : Candid (perform text l).2.server.history) (hl : l.connection.IsTrue) :
    (perform text l).2.connection.IsTrue := by
  intro hidle
  by_cases hi : l.connection.record = .idle
  · exact work_of_perform_of_none ht (hl hi)
  · -- The record has come to show no transaction, so that a fault must have cleared it.
    rcases perform_cases text l with h | ⟨f, l', -, hm, h⟩
    · rw [h, run_record, Link.received_record] at hidle
      exact absurd hidle hi
    · rw [h] at hidle hc ⊢
      rw [Link.afterStrike_record] at hidle
      cases hchange : f.change with
      | broken => rw [hchange] at hidle; cases hidle
      | kept =>
          obtain ⟨work, rows, hf⟩ := mode_frame f.mode text (l.received text)
          rw [hm] at hf
          obtain rfl : l' = _ := hf
          rw [hchange] at hidle
          exact absurd ((Link.received_record text l).symm.trans hidle) hi
      | cleared =>
          have hevent := hc (.struck text f.change (l.received text).isOpen l'.isOpen) <| by
            rw [Link.afterStrike_history]
            exact List.mem_append_right _ List.mem_cons_self
          have hclosed : l'.connection.work.isSome = false := hevent hchange
          exact (Link.afterStrike_work f text _ _).trans
            (Option.isNone_iff_eq_none.mp (Option.isSome_eq_false_iff.mp hclosed))

/-! ### Batches -/

section batches
variable {texts : List String} {l : Link}

/-- In a batch that succeeds every statement is sent and succeeds. -/
theorem answers_of_ok (h : (performAll texts l).1 = .ok ()) :
    answers texts l = texts.map fun text => (text, .ok ()) := by
  induction texts generalizing l with
  | nil => rfl
  | cons text texts ih =>
      rw [performAll, bind_apply] at h
      unfold answers
      cases hp : perform text l with
      | mk r l' =>
          rw [hp] at h
          cases r with
          | ok a => exact congrArg (_ :: ·) (ih h)
          | err e => cases h
          | panic => cases h

theorem work_of_performAll_of_none
    (ht : ∀ text ∈ texts, (Statement.ofText text).isTransactionControl = false)
    (hw : l.connection.work = none) : (performAll texts l).2.connection.work = none := by
  induction texts generalizing l with
  | nil => exact hw
  | cons text texts ih =>
      have hnone := work_of_perform_of_none (ht text List.mem_cons_self) hw
      rw [performAll, bind_apply]
      cases hp : perform text l with
      | mk r l' =>
          rw [hp] at hnone
          cases r with
          | ok a => exact ih (fun text' h => ht text' (List.mem_cons_of_mem text h)) hnone
          | err e => exact hnone
          | panic => exact hnone

/-- While a transaction is open a batch commits nothing. It adds the parts of the statements that
are sent, unless the transaction is lost. -/
theorem tallies_of_performAll {w : Work}
    (ht : ∀ text ∈ texts, (Statement.ofText text).isTransactionControl = false)
    (hw : l.connection.work = some w) :
    (performAll texts l).2.server.rows = l.server.rows ∧
    ∀ w', (performAll texts l).2.connection.work = some w' →
      ∃ part, Tallies (answers texts l) part ∧ w'.pending = w.pending ++ part := by
  induction texts generalizing l w with
  | nil =>
      refine ⟨rfl, fun w' hw' => ⟨[], .nil, ?_⟩⟩
      obtain rfl : w = w' := Option.some.inj (hw.symm.trans hw')
      exact (List.append_nil _).symm
  | cons text texts ih =>
      have htext := ht text List.mem_cons_self
      have hopen : l.isOpen = true := by rw [Link.isOpen, hw]; rfl
      have hrows := @perform_rows text l (fun hs => by rw [hs] at htext; cases htext)
        (.inr hopen)
      have hadds := adds_of_perform htext hw
      rw [performAll, bind_apply]
      unfold answers
      cases hp : perform text l with
      | mk r l' =>
          rw [hp] at hrows hadds
          -- A batch that stops here has sent this one statement only.
          have hstopped (hr : r ≠ .ok ()) : l'.server.rows = l.server.rows ∧
              ∀ w', l'.connection.work = some w' →
                ∃ part, Tallies [(text, r)] part ∧ w'.pending = w.pending ++ part := by
            refine ⟨hrows, fun w' hw' => ?_⟩
            rcases hadds with ⟨part, w'', hpart, hw'', hpending⟩ | ⟨-, hnone⟩
            · obtain rfl : w'' = w' := Option.some.inj (hw''.symm.trans hw')
              exact ⟨part, .single hpart, hpending⟩
            · cases hnone.symm.trans hw'
          cases r with
          | err e => exact hstopped (by rintro ⟨⟩)
          | panic => exact hstopped (by rintro ⟨⟩)
          | ok a =>
              rcases hadds with ⟨part, w₁, hpart, hw₁, hpending⟩ | ⟨hne, -⟩
              · obtain ⟨hrest, htallies⟩ :=
                  ih (fun text' h => ht text' (List.mem_cons_of_mem text h)) hw₁
                refine ⟨hrest.trans hrows, fun w' hw' => ?_⟩
                obtain ⟨part', hpart', hpending'⟩ := htallies w' hw'
                refine ⟨part ++ part', (Tallies.single hpart).append hpart', ?_⟩
                rw [hpending', hpending, List.append_assoc]
              · exact absurd rfl hne

theorem isTrue_of_performAll
    (ht : ∀ text ∈ texts, (Statement.ofText text).isTransactionControl = false)
    (hc : Candid (performAll texts l).2.server.history) (hl : l.connection.IsTrue) :
    (performAll texts l).2.connection.IsTrue := by
  induction texts generalizing l with
  | nil => exact hl
  | cons text texts ih =>
      have htrue := @isTrue_of_candid text l (ht text List.mem_cons_self)
      rw [performAll, bind_apply] at hc ⊢
      cases hp : perform text l with
      | mk r l' =>
          rw [hp] at hc htrue
          cases r with
          | err e => exact htrue hc hl
          | panic => exact htrue hc hl
          | ok a =>
              have hgrows := Link.grows_performAll texts l'
              exact ih (fun text' h => ht text' (List.mem_cons_of_mem text h)) hc
                (htrue (hc.of_prefix hgrows) hl)

end batches

end TransactionGateway.Database
