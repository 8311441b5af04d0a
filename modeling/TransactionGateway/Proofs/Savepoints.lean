import Mathlib.Data.List.DropRight
import TransactionGateway.Database.Transaction
import TransactionGateway.Proofs.Sending

/-! # Transaction calls at any depth

What holds of the transaction calls of a connection however many savepoints its record shows.

* **Texts.** Whatever the number of a savepoint, the text that sets it, releases it or goes back to
  it is one statement, and is read as what it is (`IsControl`).
* **No panic.** So no transaction call panics.
* **Rows.** Beginning and rolling back leave the committed rows as they are, whatever faults there
  are (`begin_spec`, `rollback_spec`). So does a commit that fails without a fault (`commit_spec`).
* **Opening.** A begin that succeeds leaves a transaction open on the server. -/

namespace TransactionGateway.Database

open Act Transaction

/-! ### Texts -/

/-- The text is a single statement, which begins, ends or marks a transaction. -/
structure IsControl (text : String) : Prop where
  single : statementTexts text = [text]
  control : (Statement.ofText text).isTransactionControl = true

namespace IsControl

variable {text : String} (h : IsControl text)
include h

theorem batch_eq : batch text = perform text := by
  rw [batch, h.single, performAll_singleton]

theorem rows_eq : (Statement.ofText text).rows = [] := by
  have hcontrol := h.control
  cases hs : Statement.ofText text <;> rw [hs] at hcontrol <;> first | rfl | cases hcontrol

theorem ne_crash : Statement.ofText text ≠ .crash := by
  have hcontrol := h.control
  rintro hs
  rw [hs] at hcontrol
  cases hcontrol

theorem batch_ne_panic (l : Link) : (batch text l).1 ≠ .panic := by
  rw [h.batch_eq]
  exact perform_ne_panic h.ne_crash l

theorem rows_batch (hs : Statement.ofText text ≠ .commit) (l : Link) :
    (batch text l).2.server.rows = l.server.rows := by
  rw [h.batch_eq]
  exact perform_rows hs (.inl h.rows_eq)

end IsControl

theorem isControl_begin : IsControl "BEGIN" := ⟨by decide, by decide⟩

theorem isControl_commit : IsControl "COMMIT" := ⟨by decide, by decide⟩

theorem isControl_rollback : IsControl "ROLLBACK" := ⟨by decide, by decide⟩

theorem strip_eq {s : List Char} (hfirst : ∀ c ∈ s.head?, isPadding c = false)
    (hlast : ∀ c ∈ s.getLast?, isPadding c = false) : strip s = s := by
  have hstart : s.dropWhile isPadding = s := by
    cases s with
    | nil => rfl
    | cons c s => simp [hfirst c rfl]
  rw [strip, hstart]
  refine List.rdropWhile_eq_self_iff.mpr fun hne => ?_
  simp [hlast _ (List.getLast?_eq_some_getLast hne)]

/-- A text without semicolons and without padding is one statement. -/
theorem statementTexts_of_bare {text : String} (hne : text ≠ "") (hsemi : ';' ∉ text.toList)
    (hfirst : ∀ c ∈ text.toList.head?, isPadding c = false)
    (hlast : ∀ c ∈ text.toList.getLast?, isPadding c = false) : statementTexts text = [text] := by
  have hsome : text.toList ≠ [] := by simpa using hne
  simp [statementTexts, Text.pieces_of_not_mem hsemi, strip_eq hfirst hlast, hsome]

theorem isPadding_of_isDigit {c : Char} (h : c.isDigit = true) : isPadding c = false := by
  have hother : ∀ d : Char, d.isDigit = false → (c == d) = false := by
    rintro d hd
    refine beq_false_of_ne ?_
    rintro rfl
    simp [h] at hd
  simp [isPadding, hother]

/-- The name of a savepoint ends with a digit of its number. -/
theorem savepointName_bare (n : Nat) : ';' ∉ (savepointName n).toList ∧
    ∃ c, (savepointName n).toList.getLast? = some c ∧ isPadding c = false := by
  have hdigit : ∀ c ∈ Nat.toDigits 10 n, c.isDigit = true := fun c hc =>
    Nat.isDigit_of_mem_toDigits (by decide) (by decide) hc
  have hne : Nat.toDigits 10 n ≠ [] := Nat.toDigits_ne_nil
  have hnumber : (toString n).toList = Nat.toDigits 10 n := by
    rw [Nat.toString_eq_repr, Nat.toList_repr]
  have hname : (savepointName n).toList = "diesel_savepoint_".toList ++ Nat.toDigits 10 n := by
    rw [← hnumber]
    exact String.toList_append
  rw [hname, List.getLast?_append_of_ne_nil _ hne, List.getLast?_eq_some_getLast hne]
  refine ⟨fun hc => ?_, _, rfl, isPadding_of_isDigit (hdigit _ (List.getLast_mem hne))⟩
  obtain hc | hc := List.mem_append.mp hc
  · revert hc
    decide
  · exact absurd (hdigit ';' hc) (by decide)

theorem savepointName_ne_empty (n : Nat) : savepointName n ≠ "" := by
  obtain ⟨-, c, hc, -⟩ := savepointName_bare n
  rintro h
  rw [h] at hc
  cases hc

/-- A savepoint statement of any name is read as such. -/
theorem ofText_savepoints {name : String} (h : name ≠ "") :
    Statement.ofText ("SAVEPOINT " ++ name) = .savepoint name ∧
    Statement.ofText ("RELEASE SAVEPOINT " ++ name) = .release name ∧
    Statement.ofText ("ROLLBACK TO SAVEPOINT " ++ name) = .rollbackTo name := by
  have hne : name.toList ≠ [] := by simpa using h
  obtain ⟨c, s, hname⟩ := List.exists_cons_of_ne_nil hne
  refine ⟨?_, ?_, ?_⟩ <;>
    (unfold Statement.ofText Statement.cutWord
     simp only [← String.toList_inj, String.toList_append, hname]
     simp [Text.cut, Text.dropMark, ← String.toList_inj, hname])

/-- The mark of a savepoint statement, before the name. -/
theorem isControl_mark {mark : String} (n : Nat) {c : Char} (hc : mark.toList.head? = some c)
    (hpadding : isPadding c = false) (hsemi : ';' ∉ mark.toList)
    (hcontrol : (Statement.ofText (mark ++ savepointName n)).isTransactionControl = true) :
    IsControl (mark ++ savepointName n) := by
  obtain ⟨hname, d, hd, hlast⟩ := savepointName_bare n
  refine ⟨statementTexts_of_bare ?_ ?_ ?_ ?_, hcontrol⟩
  · simp [savepointName_ne_empty]
  · simp [String.toList_append, hsemi, hname]
  · simp [String.toList_append, List.head?_append, hc, hpadding]
  · simp [String.toList_append, List.getLast?_append, hd, hlast]

theorem isControl_savepoint (n : Nat) : IsControl ("SAVEPOINT " ++ savepointName n) :=
  isControl_mark n rfl rfl (by decide)
    (by rw [(ofText_savepoints (savepointName_ne_empty n)).1]; rfl)

theorem isControl_release (n : Nat) : IsControl ("RELEASE SAVEPOINT " ++ savepointName n) :=
  isControl_mark n rfl rfl (by decide)
    (by rw [(ofText_savepoints (savepointName_ne_empty n)).2.1]; rfl)

theorem isControl_rollbackTo (n : Nat) : IsControl ("ROLLBACK TO SAVEPOINT " ++ savepointName n) :=
  isControl_mark n rfl rfl (by decide)
    (by rw [(ofText_savepoints (savepointName_ne_empty n)).2.2]; rfl)

/-! ### Calls -/

namespace Transaction

/-- A begin is refused, or sends a statement that opens a level. -/
theorem begin_cases (l : Link) : (∃ e, begin l = (.err e, l)) ∨
    ∃ text, IsControl text ∧
      (text = "BEGIN" ∨ ∃ name, Statement.ofText text = .savepoint name) ∧
      begin l = sendBegin text l := by
  unfold begin
  cases l.connection.record with
  | broken => exact .inl ⟨_, rfl⟩
  | idle => exact .inr ⟨_, isControl_begin, .inl rfl, rfl⟩
  | active n doubtful =>
      have hname := (ofText_savepoints (savepointName_ne_empty (n + 1))).1
      exact .inr ⟨_, isControl_savepoint _, .inr ⟨_, hname⟩, rfl⟩

/-- A rollback is refused, or sends a statement that is no commit. -/
theorem rollback_cases (l : Link) : (∃ e, rollback l = (.err e, l)) ∨
    ∃ text doubtful, IsControl text ∧ Statement.ofText text ≠ .commit ∧
      rollback l = sendRollback text doubtful l := by
  unfold rollback
  cases l.connection.record with
  | broken => exact .inl ⟨_, rfl⟩
  | idle => exact .inl ⟨_, rfl⟩
  | active n doubtful =>
      cases n with
      | zero => exact .inr ⟨_, doubtful, isControl_rollback, by decide, rfl⟩
      | succ n =>
          have hname := (ofText_savepoints (savepointName_ne_empty (n + 1))).2.2
          exact .inr ⟨_, doubtful, isControl_rollbackTo _, by rw [hname]; nofun, rfl⟩

/-- A commit is refused, or sends `COMMIT`, or releases a savepoint. -/
theorem commit_cases (l : Link) : (∃ e, commit l = (.err e, l)) ∨
    ∃ text, IsControl text ∧ (text = "COMMIT" ∨ Statement.ofText text ≠ .commit) ∧
      commit l = sendCommit text l := by
  unfold commit
  cases l.connection.record with
  | broken => exact .inl ⟨_, rfl⟩
  | idle => exact .inl ⟨_, rfl⟩
  | active n doubtful =>
      cases n with
      | zero => exact .inr ⟨_, isControl_commit, .inl rfl, rfl⟩
      | succ n =>
          have hname := (ofText_savepoints (savepointName_ne_empty (n + 1))).2.1
          exact .inr ⟨_, isControl_release _, .inr (by rw [hname]; nofun), rfl⟩

/-- A rollback leaves the rows, and does not panic. -/
theorem rollback_spec (l : Link) :
    (rollback l).1 ≠ .panic ∧ (rollback l).2.server.rows = l.server.rows := by
  rcases rollback_cases l with ⟨e, h⟩ | ⟨text, doubtful, htext, hs, h⟩
  · rw [h]
    exact ⟨nofun, rfl⟩
  · have hp := htext.batch_ne_panic l
    have hrows := htext.rows_batch hs l
    rw [h]
    unfold sendRollback
    cases hb : batch text l with
    | mk r l' =>
        rw [hb] at hp hrows
        cases r with
        | ok u => exact ⟨nofun, hrows⟩
        | err e =>
            refine ⟨?_, hrows⟩
            dsimp only
            split <;> nofun
        | panic => exact absurd rfl hp

/-- So does a begin, and when it succeeds a transaction is open on the server. -/
theorem begin_spec (l : Link) :
    (begin l).1 ≠ .panic ∧ (begin l).2.server.rows = l.server.rows ∧
      ((begin l).1 = .ok () → (begin l).2.isOpen = true) := by
  rcases begin_cases l with ⟨e, h⟩ | ⟨text, htext, hs, h⟩
  · rw [h]
    exact ⟨nofun, rfl, nofun⟩
  · have hne : Statement.ofText text ≠ .commit := by
      rcases hs with rfl | ⟨name, hs⟩
      · decide
      · rw [hs]
        nofun
    have hp := htext.batch_ne_panic l
    have hrows := htext.rows_batch hne l
    rw [h]
    unfold sendBegin
    rw [bind_apply]
    cases hb : batch text l with
    | mk r l' =>
        rw [hb] at hp hrows
        cases r with
        | err e => exact ⟨nofun, hrows, nofun⟩
        | panic => exact absurd rfl hp
        | ok u =>
            refine ⟨nofun, hrows, fun _ => ?_⟩
            show l'.isOpen = true
            rw [htext.batch_eq] at hb
            rcases hs with rfl | ⟨name, hs⟩
            · rw [Link.isOpen, (work_of_begin hb).2]
              rfl
            · have hrun := perform_ok hb
              rw [hs] at hrun
              simp only [Statement.run] at hrun
              split at hrun
              · cases hrun
                rfl
              · cases hrun

theorem undo_spec (e : Error) (l : Link) :
    (undo e l).1 ≠ .panic ∧ (undo e l).2.server.rows = l.server.rows := by
  obtain ⟨hp, hrows⟩ := rollback_spec l
  unfold undo
  cases hr : rollback l with
  | mk r l' =>
      rw [hr] at hp hrows
      cases r with
      | ok u => exact ⟨nofun, hrows⟩
      | err e' => exact ⟨nofun, hrows⟩
      | panic => exact absurd rfl hp

theorem afterFailedCommit_spec (e : Error) (l : Link) :
    (afterFailedCommit e l).1 ≠ .panic ∧
      (afterFailedCommit e l).2.server.rows = l.server.rows := by
  unfold afterFailedCommit
  split
  · exact undo_spec e l
  · exact undo_spec e l
  · exact ⟨nofun, rfl⟩

/-- A commit does not panic either. Without faults it leaves the rows when it fails. -/
theorem commit_spec (l : Link) :
    (commit l).1 ≠ .panic ∧
      (l.server.faults = [] → (commit l).1 ≠ .ok () →
        (commit l).2.server.rows = l.server.rows) := by
  rcases commit_cases l with ⟨e, h⟩ | ⟨text, htext, hs, h⟩
  · rw [h]
    exact ⟨nofun, fun _ _ => rfl⟩
  · have hp := htext.batch_ne_panic l
    rw [h]
    unfold sendCommit
    cases hb : batch text l with
    | mk r l' =>
        rw [hb] at hp
        cases r with
        | ok u => exact ⟨nofun, fun _ hne => absurd rfl hne⟩
        | panic => exact absurd rfl hp
        | err e =>
            obtain ⟨hafter, hrows⟩ := afterFailedCommit_spec e l'
            refine ⟨hafter, fun hf _ => hrows.trans ?_⟩
            rcases hs with rfl | hs
            · rw [htext.batch_eq] at hb
              rcases rows_of_failed_commit hb with hkept | ⟨⟨f, hstrike, -⟩, -⟩
              · exact hkept
              · rw [hf] at hstrike
                cases hstrike
            · have hkept := htext.rows_batch hs l
              rwa [hb] at hkept

end Transaction

end TransactionGateway.Database
