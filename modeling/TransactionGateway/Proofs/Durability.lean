import TransactionGateway.Proofs.Chronicles

/-! # What is promised by success

What has become of a transaction when a commit or a rollback of the session is answered with
success, whatever the statements in between have been answered, and whatever faults have struck.

* **Commit** (`committed_is_durable`). The transaction that has been begun is still the one that is
  committed, and its rows are those of the statements since then, none of which has committed
  anything before.
* **Rollback** (`rolledBack_while_shown`). As long as the record shows the transaction, a rollback
  that succeeds has ended it without any of its rows. When the record shows it no more the rollback
  succeeds as well, but nothing is sent: a transaction that is still open stays so, and what has
  been committed since it was lost stays committed. -/

namespace TransactionGateway

open Database Act

variable {a₀ a : Attached} {log : List Deed}

/-! ### One call -/

namespace Session

/-- A commit that succeeds has found a transaction open, and has committed its rows. -/
theorem found_of_commit_ok (h : a.IsSingle) (hok : (commit a).1 = .ok ()) :
    a.session.inTransaction = true ∧
    ∃ w, a.On (·.connection.work = some w) ∧
      (commit a).2.engine.server.rows = a.engine.server.rows ++ w.pending := by
  cases hflag : a.session.inTransaction with
  | false => rw [commit_of_inactive hflag] at hok; cases hok
  | true =>
      obtain ⟨c, hc⟩ := exists_connection h hflag
      rw [commit_of_active hflag hc, onConnection_of_open _ hc] at hok ⊢
      cases hwork : Transaction.commit ⟨c, a.engine.server⟩ with
      | mk r l =>
          rw [hwork] at hok
          cases r with
          | err e => cases hok
          | panic => cases hok
          | ok u =>
              obtain ⟨w, hw, hrows⟩ := Transaction.rows_of_commit_ok (h.isShallow c hc) hwork
              exact ⟨rfl, w, (Attached.on_iff hc).mpr hw, hrows⟩

/-- A rollback that succeeds while the record shows a transaction has found one open, and has ended
it without its rows. -/
theorem found_of_rollback_ok (h : a.IsSingle) (hactive : a.recordIsActive = true)
    (hok : (rollback a).1 = .ok ()) :
    a.IsUnderway ∧ ¬ (rollback a).2.IsUnderway ∧
      (rollback a).2.engine.server.rows = a.engine.server.rows := by
  obtain ⟨c, hc⟩ := exists_connection h (h.flagged hactive)
  rw [rollback_of_active (h.flagged hactive) hc hactive, onConnection_of_open _ hc] at hok ⊢
  cases hwork : Transaction.rollback ⟨c, a.engine.server⟩ with
  | mk r l =>
      rw [hwork] at hok
      cases r with
      | err e => cases hok
      | panic => cases hok
      | ok u =>
          obtain ⟨hopen, hnone, hrows⟩ :=
            Transaction.work_of_rollback_ok (h.isShallow c hc) hwork
          refine ⟨(Attached.on_iff hc).mpr hopen, fun hunderway => ?_, hrows⟩
          have hsome : l.connection.work.isSome = true := (Attached.on_iff rfl).mp hunderway
          rw [hnone] at hsome
          cases hsome

end Session

/-! ### Commit -/

/-- A session that has been in no transaction, as all are when they are opened, and makes its calls
without transaction control in the texts: the caller may ignore any errors, and the faults may do
anything to the statements and to the record. When a commit is answered with success then, since the
begin that has succeeded last,

* no call has committed anything;
* the commit adds the rows of the statements sent, in order: once for each statement that has
  succeeded, and once or not at all for one that has failed;
* all statements of a call that has been answered with success have succeeded.

Afterwards the session is in no transaction. -/
theorem committed_is_durable (hidle : a₀.IsIdle) (hlog : a₀.Chronicle log a)
    (hok : (Session.commit a).1 = .ok ()) :
    ∃ begun since pending, SinceBegin log begun since ∧
      (∀ d ∈ begun :: since, d.CommitsNothing) ∧
      (Session.commit a).2.engine.server.rows = a.engine.server.rows ++ pending ∧
      Tallies (since.flatMap Deed.said) pending ∧
      (reported (since.flatMap Deed.said)).Sublist pending ∧
      (∀ d ∈ since, ∀ sql, d.call = .execute sql → d.outcome = .ok () →
        d.said = (statementTexts sql).map fun text => (text, .ok ())) ∧
      (Session.commit a).2.session.inTransaction = false := by
  have hfollows := hlog.follows (Attached.follows_of_isIdle hidle)
  obtain ⟨hflag, w, hw, hrows⟩ := Session.found_of_commit_ok hfollows.isSingle hok
  obtain ⟨begun, since, hsince, hwithin⟩ := hfollows.within hflag
  obtain ⟨htallies, hunderway⟩ := hwithin.held w hw
  refine ⟨begun, since, w.pending, hsince, fun d hd => ?_, hrows, htallies, htallies.sublist,
    fun d _ sql hcall => Deed.said_of_ok hcall, Session.flag_of_commit hfollows.isSingle⟩
  rcases List.mem_cons.mp hd with rfl | hd
  · exact hwithin.begins
  · exact hwithin.commits d hd (hunderway d hd)

/-- A server that executes one statement but answers with an error, and refuses another. -/
def Database.Server.grudging : Server where
  faults :=
    [{ statement := "PUT b", schedule := {}, mode := .after, change := .kept,
       error := .unknown "late" },
     { statement := "PUT d", schedule := {}, mode := .before, change := .kept,
       error := .unknown "refused" }]

/-- Calls in a transaction, some of which fail on a grudging server. -/
def grudgingCalls : List Session.Call :=
  [.execute "PUT a; PUT b; PUT c", .execute "PUT d", .execute "PUT e"]

/-- What has been done by them and the begin before them, and the session after them. -/
def grudged : List Deed × Attached := Session.deeds (.begin :: grudgingCalls) (.opened .grudging)

theorem grudging_is_durable :
    (Session.commit grudged.2).2.engine.server.rows = ["a", "b", "e"] ∧
    ∃ begun since, SinceBegin grudged.1 begun since ∧
      (∀ d ∈ begun :: since, d.CommitsNothing) ∧
      Tallies (since.flatMap Deed.said) ["a", "b", "e"] ∧
      reported (since.flatMap Deed.said) = ["a", "e"] := by
  have hlog : (Attached.opened .grudging).Chronicle grudged.1 grudged.2 :=
    Session.chronicle_deeds (by decide) _
  have hok : (Session.commit grudged.2).1 = .ok () := by decide +kernel
  obtain ⟨begun, since, pending, hsince, hnothing, hpending, htallies, -⟩ :=
    committed_is_durable (Session.isIdle_openOn rfl (opened_openOn .grudging)) hlog hok
  have hbefore : grudged.2.engine.server.rows = [] := by decide +kernel
  have hafter : (Session.commit grudged.2).2.engine.server.rows = ["a", "b", "e"] := by
    decide +kernel
  obtain rfl : ["a", "b", "e"] = pending := by
    rw [hafter, hbefore] at hpending
    exact hpending
  have hdeeds := @Session.sinceBegin_deeds grudgingCalls (.opened .grudging) (by decide +kernel)
    (by decide)
  obtain ⟨-, rfl⟩ := hsince.unique hdeeds
  exact ⟨hafter, begun, _, hsince, hnothing, htallies, by decide +kernel⟩

/-! ### Rollback -/

/-- A session that has been in no transaction and what it has done since, without transaction
control in the texts, up to a rollback in a transaction that is answered with success; faults have
cleared the record only when nothing was open on the server. -/
structure RollsBack (a₀ : Attached) (log : List Deed) (a : Attached) : Prop where
  isIdle : a₀.IsIdle
  chronicle : a₀.Chronicle log a
  candid : Candid a.engine.server.history
  flag : a.session.inTransaction = true
  ok : (Session.rollback a).1 = .ok ()

/-- When a rollback succeeds then the begin that has succeeded last, and the calls since then that
have found its transaction open, have not committed anything, and neither does the rollback.

* When the record shows the transaction it has been open all the time, and nothing is open
  afterwards: none of the rows since the begin is committed or pending.
* When the record does not show it, only the flag is changed. So if the record is broken, a
  transaction that is open stays so; if it has been cleared, nothing is open. -/
theorem rolledBack_while_shown (h : RollsBack a₀ log a) :
    ∃ begun since, SinceBegin log begun since ∧ begun.CommitsNothing ∧
      (∀ d ∈ since, d.found.IsUnderway → d.CommitsNothing) ∧
      (Session.rollback a).2.engine.server.rows = a.engine.server.rows ∧
      (Session.rollback a).2.session.inTransaction = false ∧
      (a.recordIsActive = true →
        ¬ (Session.rollback a).2.IsUnderway ∧ ∀ d ∈ since, d.CommitsNothing) ∧
      (a.recordIsActive = false →
        (Session.rollback a).2 = (a.withFlag false).note .endedByBackend ∧
        (a.On (·.connection.record = .idle) → ¬ (Session.rollback a).2.IsUnderway)) := by
  have hfollows := h.chronicle.follows (Attached.follows_of_isIdle h.isIdle)
  have hsingle := hfollows.isSingle
  obtain ⟨begun, since, hsince, hwithin⟩ := hfollows.within h.flag
  obtain ⟨c, hc⟩ := Session.exists_connection hsingle h.flag
  refine ⟨begun, since, hsince, hwithin.begins, hwithin.commits, ?_,
    Session.flag_of_rollback hsingle, fun hactive => ?_, fun hinactive => ?_⟩
  · cases hactive : a.recordIsActive with
    | true => exact (Session.found_of_rollback_ok hsingle hactive h.ok).2.2
    | false => rw [Session.rollback_of_ended h.flag hc hactive]; rfl
  · obtain ⟨⟨c', hc', hopen⟩, hended, -⟩ := Session.found_of_rollback_ok hsingle hactive h.ok
    obtain ⟨w, hw⟩ := Option.isSome_iff_exists.mp hopen
    exact ⟨hended, fun d hd => hwithin.commits d hd ((hwithin.held w ⟨c', hc', hw⟩).2 d hd)⟩
  · rw [Session.rollback_of_ended h.flag hc hinactive]
    refine ⟨rfl, fun hrecord hunderway => ?_⟩
    have hnone : c.work = none :=
      (Attached.on_iff hc).mp (hwithin.isTrue h.candid) ((Attached.on_iff hc).mp hrecord)
    obtain ⟨c', hc', hopen⟩ := hunderway
    obtain rfl : c = c' := Option.some.inj (hc.symm.trans hc')
    rw [show Link.isOpen ⟨c, _⟩ = c.work.isSome from rfl, hnone] at hopen
    cases hopen

theorem rollsBack_deeds (calls : List Session.Call) (server : Server)
    (hcalls : ∀ call ∈ calls, call.IsControlFree)
    (hcandid : Candid (Session.deeds calls (.opened server)).2.engine.server.history)
    (hflag : (Session.deeds calls (.opened server)).2.session.inTransaction = true)
    (hok : (Session.rollback (Session.deeds calls (.opened server)).2).1 = .ok ()) :
    RollsBack (.opened server) (Session.deeds calls (.opened server)).1
      (Session.deeds calls (.opened server)).2 where
  isIdle := Session.isIdle_openOn rfl (opened_openOn server)
  chronicle := Session.chronicle_deeds hcalls _
  candid := hcandid
  flag := hflag
  ok := hok

theorem grudging_rolledBack :
    ¬ (Session.rollback grudged.2).2.IsUnderway ∧
    (Session.rollback grudged.2).2.engine.server.rows = [] ∧
    ∃ begun since, SinceBegin grudged.1 begun since ∧ ∀ d ∈ since, d.CommitsNothing := by
  have hrollsBack : RollsBack (.opened .grudging) grudged.1 grudged.2 :=
    rollsBack_deeds _ _ (by decide) (by decide +kernel) (by decide +kernel) (by decide +kernel)
  have hbefore : grudged.2.engine.server.rows = [] := by decide +kernel
  obtain ⟨begun, since, hsince, -, -, hrows, -, hshown, -⟩ := rolledBack_while_shown hrollsBack
  obtain ⟨hended, hnothing⟩ := hshown (by decide +kernel)
  exact ⟨hended, hrows.trans hbefore, begun, since, hsince, hnothing⟩

/-- A server that fails at one statement. -/
def Database.Server.failing (mode : FaultMode) (change : RecordChange) : Server where
  faults :=
    [{ statement := "PUT b", schedule := {}, mode, change, error := .unknown "lost" }]

/-- Calls in a transaction, of which one fails on a failing server. -/
def unawareCalls : List Session.Call := [.execute "PUT a", .execute "PUT b", .execute "PUT c"]

/-- A record that is broken is enough for a rollback to leave the transaction open; and when the
record is cleared because the transaction is lost, what is sent afterwards stays committed. -/
theorem not_always_rolledBack :
    (¬ ∀ (a₀ a : Attached) (log : List Deed), RollsBack a₀ log a →
      ¬ (Session.rollback a).2.IsUnderway) ∧
    ¬ ∀ (a₀ a : Attached) (log since : List Deed) (begun : Deed), RollsBack a₀ log a →
      SinceBegin log begun since → ∀ d ∈ since, d.CommitsNothing := by
  refine ⟨fun h => ?_, fun h => ?_⟩
  · have hrollsBack := rollsBack_deeds (.begin :: unawareCalls) (.failing .before .broken)
      (by decide) (by decide +kernel) (by decide +kernel) (by decide +kernel)
    exact h _ _ _ hrollsBack (by decide +kernel)
  · have hrollsBack := rollsBack_deeds (.begin :: unawareCalls) (.failing .lost .cleared)
      (by decide) (by decide +kernel) (by decide +kernel) (by decide +kernel)
    have hnothing := h _ _ _ _ _ hrollsBack
      (Session.sinceBegin_deeds (by decide +kernel) (by decide))
    exact absurd hnothing (by decide +kernel)

end TransactionGateway
