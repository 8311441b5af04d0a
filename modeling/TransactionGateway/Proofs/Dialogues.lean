import TransactionGateway.Proofs.AllOrNothing

/-! # Dialogues with the server

What a transaction call says to the server, what the server answers, and what the call makes of it,
as long as the client's record shows no savepoint.

* **Dialogues** (`Link.Dialogue`). The texts sent, each with its answer. The journal has an entry
  for each of them (`Dialogue.journal`).
* **Exchanges** (`Transaction.Exchange`). At most `BEGIN`, `COMMIT` and `ROLLBACK` are ever sent. An
  answer is passed on as it is; only a commit that fails sends a second text, and only when that
  fails as well are the two failures put into one.
* **Record** (`Transaction.Proceeds`). It stays without savepoints, and shows a transaction only
  after a begin that has succeeded, never after a commit or rollback. -/

namespace TransactionGateway.Database

open Act

/-! ### Dialogues -/

/-- What has been said between two states of a link: the texts sent, with their answers. -/
inductive Link.Dialogue (l : Link) : List (String × Outcome Error Unit) → Link → Prop where
  | silent : Dialogue l [] l
  | sent {said : List (String × Outcome Error Unit)} {l' : Link} (text : String) :
      Dialogue l said l' →
        Dialogue l (said ++ [(text, (perform text l').1)]) (perform text l').2
  | recorded {said : List (String × Outcome Error Unit)} {l' : Link} (record : Record) :
      Dialogue l said l' → Dialogue l said (l'.withRecord record)

namespace Link.Dialogue

variable {l l' : Link} {said : List (String × Outcome Error Unit)} {text : String}
  {r : Outcome Error Unit}

theorem ofPerform (h : perform text l = (r, l')) : l.Dialogue [(text, r)] l' := by
  have hsent := silent.sent (l := l) text
  rwa [h] at hsent

/-- Only one statement is answered by a panic. -/
theorem crash_of_panic (h : l.Dialogue said l') (hpanic : (text, .panic) ∈ said) :
    Statement.ofText text = .crash := by
  induction h with
  | silent => cases hpanic
  | recorded record _ ih => exact ih hpanic
  | @sent said l' text' _ ih =>
      rcases List.mem_append.mp hpanic with hpanic | hpanic
      · exact ih hpanic
      · obtain ⟨rfl, hr⟩ := Prod.mk.inj (List.mem_singleton.mp hpanic)
        exact Decidable.byContradiction fun hne => perform_ne_panic hne l' hr.symm

/-- What is sent is entered in the journal, under the name that the connection keeps. -/
theorem journal (h : l.Dialogue said l') : l'.name = l.name ∧
    l'.server.journal = l.server.journal ++ said.map fun line => .statement l.name line.1 := by
  induction h with
  | silent => exact ⟨rfl, (List.append_nil _).symm⟩
  | recorded record _ ih => exact ih
  | @sent said l' text _ ih =>
      obtain ⟨hname, hjournal⟩ := ih
      have hsent := sent_perform text l'
      refine ⟨?_, ?_⟩
      · rw [name, hsent.label, Option.getD_some, hname]
      · rw [hsent.journal, hjournal, hname, List.map_append, List.append_assoc]
        rfl

end Link.Dialogue

namespace Transaction

/-- What the calls of the transaction interface say when there is no savepoint, and their
outcomes. -/
inductive Exchange : Call → List (String × Outcome Error Unit) → Outcome Error Unit → Prop where
  | refused (call : Call) {e : Error} : e = .brokenTransaction ∨ e = .notInTransaction →
      Exchange call [] (.err e)
  | begun (r : Outcome Error Unit) : Exchange .begin [("BEGIN", r)] r
  | committed (r : Outcome Error Unit) : Exchange .commit [("COMMIT", r)] r
  | undone (e : Error) : Exchange .commit [("COMMIT", .err e), ("ROLLBACK", .ok ())] (.err e)
  | notUndone (e e' : Error) :
      Exchange .commit [("COMMIT", .err e), ("ROLLBACK", .err e')] (.err (.failedCommit e' e))
  | rolledBack (r : Outcome Error Unit) : Exchange .rollback [("ROLLBACK", r)] r

/-- A call made where there is no savepoint: it is an exchange with the server, and leaves a record
without savepoints, which shows a transaction only when the call has begun one. -/
structure Proceeds (call : Call) (l : Link) (r : Outcome Error Unit) (l' : Link) : Prop where
  exchange : ∃ said, l.Dialogue said l' ∧ Exchange call said r
  isShallow : l'.connection.record.IsShallow
  begun : l'.connection.record.isActive = true → call = .begin ∧ r = .ok ()

variable {l l' : Link} {call : Call} {r : Outcome Error Unit}

theorem Proceeds.ne_panic (h : Proceeds call l r l') : r ≠ .panic := by
  rintro rfl
  obtain ⟨said, hsaid, hexchange⟩ := h.exchange
  have hsent (text : String) (hmem : (text, .panic) ∈ said) := hsaid.crash_of_panic hmem
  cases hexchange with
  | begun => exact absurd (hsent "BEGIN" List.mem_cons_self) (by decide)
  | committed => exact absurd (hsent "COMMIT" List.mem_cons_self) (by decide)
  | rolledBack => exact absurd (hsent "ROLLBACK" List.mem_cons_self) (by decide)

theorem isShallow_of_not_isActive {record : Record} (h : record.isActive = false) :
    record.IsShallow := by
  cases record with
  | active n doubtful => cases h
  | idle => trivial
  | broken => trivial

/-- A record without savepoints that shows a transaction is that of an outermost one. -/
theorem eq_of_isShallow {record : Record} (h : record.IsShallow) :
    record.isActive = false ∨ ∃ doubtful, record = .active 0 doubtful := by
  match record, h with
  | .broken, _ => exact .inl rfl
  | .idle, _ => exact .inl rfl
  | .active 0 doubtful, _ => exact .inr ⟨doubtful, rfl⟩

theorem isActive_raised {record : Record} (h : record.IsShallow) :
    (raised record).isActive = false := by
  match record, h with
  | .broken, _ => rfl
  | .idle, _ => rfl
  | .active 0 doubtful, _ => rfl

theorem afterFailedRollback_of_isShallow {record : Record} (h : record.IsShallow)
    (doubtful : Bool) : (afterFailedRollback doubtful record).1 = false ∧
      (afterFailedRollback doubtful record).2.isActive = false := by
  match record, h with
  | .broken, _ => exact ⟨rfl, rfl⟩
  | .idle, _ => exact ⟨rfl, rfl⟩
  | .active 0 _, _ => exact ⟨rfl, rfl⟩

theorem proceeds_of_inactive {said : List (String × Outcome Error Unit)}
    (hsaid : l.Dialogue said l') (hexchange : Exchange call said r)
    (h : l'.connection.record.isActive = false) : Proceeds call l r l' :=
  ⟨⟨said, hsaid, hexchange⟩, isShallow_of_not_isActive h, fun hactive =>
    absurd (h.symm.trans hactive) Bool.false_ne_true⟩

/-- Without a transaction a commit or rollback is refused, and so is a begin on a broken record. -/
theorem refused_of_inactive (h : l.connection.record.isActive = false) :
    (∃ e, (e = .brokenTransaction ∨ e = .notInTransaction) ∧ commit l = (.err e, l)) ∧
    (∃ e, (e = .brokenTransaction ∨ e = .notInTransaction) ∧ rollback l = (.err e, l)) ∧
    (l.connection.record = .idle ∨ begin l = (.err .brokenTransaction, l)) := by
  cases hrec : l.connection.record with
  | active n doubtful => rw [hrec] at h; cases h
  | broken => simp [commit, rollback, begin, hrec]
  | idle => simp [commit, rollback, hrec]

theorem proceeds_begin (h : l.connection.record.isActive = false) :
    Proceeds .begin l (begin l).1 (begin l).2 := by
  obtain ⟨-, -, hrec | hrefused⟩ := refused_of_inactive h
  · have hpanic := @perform_ne_panic "BEGIN" (by decide) l
    have hrecord := perform_record "BEGIN" l
    have hrun : begin l = (do perform "BEGIN"; changeRecord deepened : Act Link Error Unit) l := by
      simp only [begin, hrec, sendBegin, batch_begin]
    rw [hrun]
    cases hb : perform "BEGIN" l with
    | mk r l₁ =>
        have hsaid := Link.Dialogue.ofPerform hb
        rw [hb] at hpanic hrecord
        cases r with
        | panic => exact absurd rfl hpanic
        | ok a =>
            have hidle : l₁.connection.record = .idle := (record_of_perform_ok hb).trans hrec
            rw [bind_of_ok hb]
            refine ⟨⟨_, hsaid.recorded _, .begun _⟩, ?_, fun _ => ⟨rfl, rfl⟩⟩
            show (deepened l₁.connection.record).IsShallow
            rw [hidle]
            trivial
        | err e =>
            rw [bind_of_err hb]
            refine proceeds_of_inactive hsaid (.begun _) ?_
            rcases hrecord with hr | ⟨-, hr | hr⟩
            · exact (congrArg Record.isActive hr).trans h
            · exact congrArg Record.isActive hr
            · exact congrArg Record.isActive hr
  · rw [hrefused]
    exact proceeds_of_inactive .silent (.refused .begin (.inl rfl)) h

/-- The statement that ends an outermost transaction without its rows. -/
theorem rollback_of_active {doubtful : Bool} (hrec : l.connection.record = .active 0 doubtful) :
    ∃ record, record.isActive = false ∧
      rollback l = ((perform "ROLLBACK" l).1, (perform "ROLLBACK" l).2.withRecord record) := by
  have hshallow : (perform "ROLLBACK" l).2.connection.record.IsShallow :=
    Link.isShallow_of_perform (by rw [hrec]; trivial)
  have hpanic := @perform_ne_panic "ROLLBACK" (by decide) l
  simp only [rollback, hrec, sendRollback, batch_rollback]
  cases hb : perform "ROLLBACK" l with
  | mk r l₁ =>
      rw [hb] at hshallow hpanic
      cases r with
      | panic => exact absurd rfl hpanic
      | ok a => exact ⟨_, isActive_raised hshallow, rfl⟩
      | err e =>
          obtain ⟨htolerated, hactive⟩ := afterFailedRollback_of_isShallow hshallow doubtful
          refine ⟨_, hactive, ?_⟩
          dsimp only
          rw [htolerated]
          rfl

theorem proceeds_rollback (h : l.connection.record.IsShallow) :
    Proceeds .rollback l (rollback l).1 (rollback l).2 := by
  obtain hinactive | ⟨doubtful, hrec⟩ := eq_of_isShallow h
  · obtain ⟨-, ⟨e, he, hrefused⟩, -⟩ := refused_of_inactive hinactive
    rw [hrefused]
    exact proceeds_of_inactive .silent (.refused .rollback he) hinactive
  · obtain ⟨record, hinactive, hrun⟩ := rollback_of_active hrec
    rw [hrun]
    exact proceeds_of_inactive ((Link.Dialogue.silent.sent "ROLLBACK").recorded record)
      (.rolledBack _) hinactive

/-- A commit whose statement has failed: a second text is sent only when the failure has left the
transaction in the record. -/
theorem proceeds_afterFailedCommit {e : Error} {l₁ : Link}
    (hsaid : l.Dialogue [("COMMIT", .err e)] l₁) (h : l₁.connection.record.IsShallow) :
    Proceeds .commit l (afterFailedCommit e l₁).1 (afterFailedCommit e l₁).2 := by
  obtain hinactive | ⟨doubtful, hrec⟩ := eq_of_isShallow h
  · have hrun : afterFailedCommit e l₁ = (.err e, l₁) := by
      unfold afterFailedCommit
      split
      · next hrec => rw [hrec] at hinactive; cases hinactive
      · next hrec => rw [hrec] at hinactive; cases hinactive
      · rfl
    rw [hrun]
    exact proceeds_of_inactive hsaid (.committed _) hinactive
  · obtain ⟨record, hinactive, hroll⟩ := rollback_of_active hrec
    have hpanic := @perform_ne_panic "ROLLBACK" (by decide) l₁
    have hboth := (hsaid.sent "ROLLBACK").recorded record
    simp only [afterFailedCommit, hrec, undo, hroll]
    cases hb : (perform "ROLLBACK" l₁).1 with
    | panic => exact absurd hb hpanic
    | ok a =>
        rw [hb] at hboth
        exact proceeds_of_inactive hboth (.undone e) hinactive
    | err e' =>
        rw [hb] at hboth
        exact proceeds_of_inactive (hboth.recorded .broken) (.notUndone e e') rfl

theorem proceeds_commit (h : l.connection.record.IsShallow) :
    Proceeds .commit l (commit l).1 (commit l).2 := by
  obtain hinactive | ⟨doubtful, hrec⟩ := eq_of_isShallow h
  · obtain ⟨⟨e, he, hrefused⟩, -, -⟩ := refused_of_inactive hinactive
    rw [hrefused]
    exact proceeds_of_inactive .silent (.refused .commit he) hinactive
  · have hshallow : (perform "COMMIT" l).2.connection.record.IsShallow :=
      Link.isShallow_of_perform h
    have hpanic := @perform_ne_panic "COMMIT" (by decide) l
    simp only [commit, hrec, sendCommit, batch_commit]
    cases hb : perform "COMMIT" l with
    | mk r l₁ =>
        have hsaid := Link.Dialogue.ofPerform hb
        rw [hb] at hshallow hpanic
        cases r with
        | panic => exact absurd rfl hpanic
        | err e => exact proceeds_afterFailedCommit hsaid hshallow
        | ok a =>
            exact proceeds_of_inactive (hsaid.recorded _) (.committed _) (isActive_raised hshallow)

end Transaction

end TransactionGateway.Database
