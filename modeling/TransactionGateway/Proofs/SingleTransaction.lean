import TransactionGateway.Proofs.Dialogues
import TransactionGateway.Proofs.Lives

/-! # One transaction at a time

A session that is used by its own calls only has at most one transaction, by the client's record,
and its flag shows it.

* **Invariant** (`Attached.IsSingle`). The record shows no savepoint; when it shows a transaction
  the flag is set; when the session is closed the flag is not set. The flag may be set without a
  transaction in the record: a statement that fails may clear or break the record, and the flag is
  only put right by a commit or rollback.
* **Idle sessions** (`Attached.IsIdle`). A single session whose flag is not set is in no transaction
  by the record either, and the other way round (`isIdle_of_isSingle`, `isSingle_of_isIdle`).
* **Calls** (`Session.Exchange`). So `BEGIN` is sent only outside of any transaction, and a
  session's calls never send anything about savepoints. A commit whose statement fails may be
  followed by a rollback, and only when that fails as well are the two failures answered in one.
  -/

namespace TransactionGateway

open Database Act

/-- The record shows no savepoint, and whatever transaction it shows is shown by the flag, which a
closed session does not set. -/
structure Attached.IsSingle (a : Attached) : Prop where
  isShallow : ∀ c, a.session.connection = some c → c.record.IsShallow
  flagged : a.recordIsActive = true → a.session.inTransaction = true
  closed : a.IsQuiet

/-- The session is in no transaction, neither by its flag nor by the record. -/
structure Attached.IsIdle (a : Attached) : Prop where
  flag : a.session.inTransaction = false
  record : a.recordIsActive = false

/-! ### On a link -/

/-- The record is as it was, or shows no transaction any more. -/
def Database.Link.Fades (l l' : Link) : Prop :=
  l'.connection.record = l.connection.record ∨ l'.connection.record.isActive = false

instance : IsPreorder Link Link.Fades where
  refl _ := .inl rfl
  trans l l' l'' h h' := by
    rcases h' with h' | h'
    · rcases h with h | h
      · exact .inl (h'.trans h)
      · exact .inr (h' ▸ h)
    · exact .inr h'

namespace Database.Link

theorem fades_perform (text : String) : Moves Fades (perform text) := by
  intro l
  rcases perform_record text l with hr | ⟨-, hr | hr⟩
  · exact .inl hr
  · exact .inr (by rw [hr]; rfl)
  · exact .inr (by rw [hr]; rfl)

theorem fades_plainBatch (sql : String) : Moves Fades (plainBatch sql) :=
  moves_bind (fun _ => .inl rfl) fun _ => moves_batch fades_perform sql

end Database.Link

/-- A call of the transaction interface made where there is no savepoint, and a begin only outside
of any transaction. -/
theorem Database.Transaction.proceeds_call {l : Link} {call : Transaction.Call}
    (h : l.connection.record.IsShallow)
    (hbegin : call = .begin → l.connection.record.isActive = false) :
    Proceeds call l (call.run l).1 (call.run l).2 := by
  cases call with
  | begin => exact proceeds_begin (hbegin rfl)
  | commit => exact proceeds_commit h
  | rollback => exact proceeds_rollback h

/-! ### Calls -/

/-- What a session has said to the server, if anything. -/
inductive Attached.Talks (a : Attached) :
    List (String × Outcome Error Unit) → Attached → Prop where
  | silent {a' : Attached} : a'.engine.server = a.engine.server → Talks a [] a'
  | spoken {c : Connection} {said : List (String × Outcome Error Unit)} {l : Link}
      {a' : Attached} : a.session.connection = some c → Link.Dialogue ⟨c, a.engine.server⟩ said l →
      a'.session.connection = some l.connection → a'.engine.server = l.server → Talks a said a'

theorem Attached.Talks.journal {a a' : Attached} {said : List (String × Outcome Error Unit)}
    (h : a.Talks said a') : ∃ label, a'.engine.server.journal =
      a.engine.server.journal ++ said.map fun line => .statement label line.1 := by
  cases h with
  | silent hserver => exact ⟨0, by rw [hserver, List.map_nil, List.append_nil]⟩
  | spoken hc hd hconnection hserver => exact ⟨_, hserver ▸ hd.journal.2⟩

namespace Session

variable {a a' : Attached} {c : Connection} {call : Transaction.Call}
  {r : Outcome GatewayError Unit}

/-- The call of a session for each call of the transaction interface. -/
def transact : Transaction.Call → Act Attached GatewayError Unit
  | .begin => begin
  | .commit => commit
  | .rollback => rollback

/-- The errors of a session's calls that do not come from the connection. -/
def refusals : List GatewayError :=
  [.transactionAlreadyActive, .noActiveTransaction, .sessionClosed]

/-- What the calls of a session say to the server, and their outcomes. -/
inductive Exchange (a : Attached) :
    Transaction.Call → List (String × Outcome Error Unit) → Outcome GatewayError Unit → Prop where
  | refused (call : Transaction.Call) {e : GatewayError} : e ∈ refusals →
      Exchange a call [] (.err e)
  | endedByBackend : a.recordIsActive = false → Exchange a .rollback [] (.ok ())
  | carried {call : Transaction.Call} {said : List (String × Outcome Error Unit)}
      {r : Outcome Error Unit} : (call = .begin → a.recordIsActive = false) →
      Transaction.Exchange call said r → Exchange a call said (r.mapError .database)

/-- How a call of a session goes: it is refused, or a rollback finds nothing to roll back, or the
call reaches the connection, and then the flag is set as it has to be. -/
inductive Goes (a : Attached) (call : Transaction.Call) :
    Outcome GatewayError Unit → Attached → Prop where
  | refused {e : GatewayError} : e ∈ refusals → Goes a call (.err e) a
  | endedByBackend {a' : Attached} : call = .rollback → a.recordIsActive = false →
      a'.session = { a.session with inTransaction := false } →
      a'.engine.server = a.engine.server → Goes a call (.ok ()) a'
  | carried {c : Connection} {r : Outcome Error Unit} {l : Link} {a' : Attached} :
      a.session.connection = some c → (call = .begin → a.recordIsActive = false) →
      Transaction.Proceeds call ⟨c, a.engine.server⟩ r l →
      a'.session.connection = some l.connection → a'.engine.server = l.server →
      (l.connection.record.isActive = true → a'.session.inTransaction = true) →
      Goes a call (r.mapError .database) a'

theorem recordIsActive_of_open (hc : a.session.connection = some c) :
    a.recordIsActive = c.record.isActive := by
  unfold Attached.recordIsActive
  rw [hc]

theorem isSingle_of_isIdle (h : a.IsIdle) : a.IsSingle where
  isShallow _ hc :=
    Transaction.isShallow_of_not_isActive ((recordIsActive_of_open hc).symm.trans h.record)
  flagged hactive := absurd (h.record.symm.trans hactive) Bool.false_ne_true
  closed _ := h.flag

/-- Outside of a transaction by the flag, the session is so by the record as well. -/
theorem isIdle_of_isSingle (h : a.IsSingle) (hflag : a.session.inTransaction = false) :
    a.IsIdle :=
  ⟨hflag, Bool.eq_false_iff.mpr fun hactive =>
    Bool.false_ne_true (hflag.symm.trans (h.flagged hactive))⟩

/-- A session that is in a transaction by its flag is open. -/
theorem exists_connection (h : a.IsSingle) (hflag : a.session.inTransaction = true) :
    ∃ c, a.session.connection = some c :=
  Option.ne_none_iff_exists'.mp fun hnone =>
    Bool.false_ne_true ((h.closed hnone).symm.trans hflag)

theorem commit_of_active (hflag : a.session.inTransaction = true)
    (hc : a.session.connection = some c) :
    commit a = settle .committed (onConnection Transaction.commit a).1
      (onConnection Transaction.commit a).2 := by
  simp [commit, isClosed, hflag, hc]

theorem rollback_of_active (hflag : a.session.inTransaction = true)
    (hc : a.session.connection = some c) (hactive : a.recordIsActive = true) :
    rollback a = settle .rolledBack (onConnection Transaction.rollback a).1
      (onConnection Transaction.rollback a).2 := by
  simp [rollback, isClosed, hflag, hc, hactive]

/-- When the record shows no transaction nothing is sent, and the rollback counts as done. -/
theorem rollback_of_ended (hflag : a.session.inTransaction = true)
    (hc : a.session.connection = some c) (hactive : a.recordIsActive = false) :
    rollback a = (.ok (), (a.withFlag false).note .endedByBackend) := by
  simp [rollback, isClosed, hflag, hc, hactive]

/-- Committing and rolling back end alike: the record shows no transaction, whatever the flag. -/
theorem goes_settle (call : Transaction.Call) (hcall : call ≠ .begin) (event : SessionEvent)
    (hc : a.session.connection = some c) (hshallow : c.record.IsShallow) :
    Goes a call (settle event (onConnection call.run a).1 (onConnection call.run a).2).1
      (settle event (onConnection call.run a).1 (onConnection call.run a).2).2 := by
  have hp : Transaction.Proceeds call ⟨c, a.engine.server⟩ _ _ :=
    Transaction.proceeds_call hshallow (absurd · hcall)
  rw [onConnection_of_open call.run hc]
  cases hwork : call.run ⟨c, a.engine.server⟩ with
  | mk r l =>
      rw [hwork] at hp
      have hended (h : l.connection.record.isActive = true) (flag : Prop) : flag :=
        absurd (hp.begun h).1 hcall
      cases r with
      | ok u => exact .carried hc (absurd · hcall) hp rfl rfl fun h => hended h _
      | err e => exact .carried hc (absurd · hcall) hp rfl rfl fun h => hended h _
      | panic => exact .carried hc (absurd · hcall) hp rfl rfl fun h => hended h _

theorem goes_begin (h : a.IsSingle) : Goes a .begin (begin a).1 (begin a).2 := by
  cases hflag : a.session.inTransaction with
  | true =>
      rw [begin_of_active hflag]
      exact .refused (by decide)
  | false =>
      have hinactive : a.recordIsActive = false := (isIdle_of_isSingle h hflag).record
      cases hc : a.session.connection with
      | none =>
          rw [begin_of_closed hflag hc]
          exact .refused (by decide)
      | some c =>
          have hp := Transaction.proceeds_begin (l := ⟨c, a.engine.server⟩)
            ((recordIsActive_of_open hc).symm.trans hinactive)
          unfold begin
          rw [hflag, onConnection_of_open _ hc]
          cases hwork : Transaction.begin ⟨c, a.engine.server⟩ with
          | mk r l =>
              rw [hwork] at hp
              cases r with
              | ok u => exact .carried hc (fun _ => hinactive) hp rfl rfl fun _ => rfl
              | err e =>
                  exact .carried hc (fun _ => hinactive) hp rfl rfl fun h => nomatch (hp.begun h).2
              | panic =>
                  exact .carried hc (fun _ => hinactive) hp rfl rfl fun h => nomatch (hp.begun h).2

theorem goes_commit (h : a.IsSingle) : Goes a .commit (commit a).1 (commit a).2 := by
  cases hflag : a.session.inTransaction with
  | false =>
      rw [commit_of_inactive hflag]
      exact .refused (by decide)
  | true =>
      obtain ⟨c, hc⟩ := exists_connection h hflag
      rw [commit_of_active hflag hc]
      exact goes_settle .commit (by decide) .committed hc (h.isShallow c hc)

theorem goes_rollback (h : a.IsSingle) : Goes a .rollback (rollback a).1 (rollback a).2 := by
  cases hflag : a.session.inTransaction with
  | false =>
      rw [rollback_of_inactive hflag]
      exact .refused (by decide)
  | true =>
      obtain ⟨c, hc⟩ := exists_connection h hflag
      cases hactive : a.recordIsActive with
      | false =>
          rw [rollback_of_ended hflag hc hactive]
          exact .endedByBackend rfl hactive rfl rfl
      | true =>
          rw [rollback_of_active hflag hc hactive]
          exact goes_settle .rollback (by decide) .rolledBack hc (h.isShallow c hc)

theorem goes_transact (h : a.IsSingle) (call : Transaction.Call) :
    Goes a call (transact call a).1 (transact call a).2 := by
  cases call with
  | begin => exact goes_begin h
  | commit => exact goes_commit h
  | rollback => exact goes_rollback h

theorem ne_panic_of_goes (hg : Goes a call r a') : r ≠ .panic := by
  cases hg with
  | refused he => nofun
  | endedByBackend => nofun
  | @carried _ r _ _ hc hbegin hp =>
      cases r with
      | ok u => nofun
      | err e => nofun
      | panic => exact absurd rfl hp.ne_panic

/-! ### The flag after a call -/

theorem flag_onConnection {α : Type} (work : Act Link Database.Error α) (a : Attached) :
    (onConnection work a).2.session.inTransaction = a.session.inTransaction := by
  unfold onConnection
  split <;> rfl

/-- Only a begin that succeeds changes the flag. -/
theorem flag_of_begin (a : Attached) : (begin a).2.session.inTransaction = true ∧
      (begin a).1 = .ok () ∨
    (begin a).2.session.inTransaction = a.session.inTransaction ∧ (begin a).1 ≠ .ok () := by
  unfold begin
  split
  · exact .inr ⟨rfl, nofun⟩
  · split
    · exact .inl ⟨rfl, rfl⟩
    · next hwork =>
        exact .inr ⟨flag_onConnection _ a, fun hok => hwork () _ (Prod.ext hok rfl)⟩

/-- A begin that succeeds is that of the connection. -/
theorem link_of_begin_ok (hok : (begin a).1 = .ok ()) :
    ∃ c l, a.session.connection = some c ∧
      Transaction.begin ⟨c, a.engine.server⟩ = (.ok (), l) ∧
      (begin a).2 = ((a.withLink l).withFlag true).note .started := by
  cases hflag : a.session.inTransaction with
  | true => rw [begin_of_active hflag] at hok; cases hok
  | false =>
      cases hc : a.session.connection with
      | none => rw [begin_of_closed hflag hc] at hok; cases hok
      | some c =>
          unfold begin at hok ⊢
          rw [hflag, onConnection_of_open _ hc] at hok ⊢
          cases hwork : Transaction.begin ⟨c, a.engine.server⟩ with
          | mk r l =>
              rw [hwork] at hok
              cases r with
              | ok u => exact ⟨c, l, rfl, hwork, rfl⟩
              | err e => cases hok
              | panic => cases hok

theorem flag_of_settle (call : Transaction.Call) (hcall : call ≠ .begin) (event : SessionEvent)
    (hc : a.session.connection = some c) (hshallow : c.record.IsShallow) :
    (settle event (onConnection call.run a).1
      (onConnection call.run a).2).2.session.inTransaction = false := by
  have hp : Transaction.Proceeds call ⟨c, a.engine.server⟩ _ _ :=
    Transaction.proceeds_call hshallow (absurd · hcall)
  rw [onConnection_of_open call.run hc]
  cases hwork : call.run ⟨c, a.engine.server⟩ with
  | mk r l =>
      rw [hwork] at hp
      cases r with
      | ok u => rfl
      | err e =>
          show l.connection.record.isActive = false
          exact Bool.eq_false_iff.mpr fun hactive => hcall (hp.begun hactive).1
      | panic => exact absurd rfl hp.ne_panic

theorem flag_of_commit (h : a.IsSingle) : (commit a).2.session.inTransaction = false := by
  cases hflag : a.session.inTransaction with
  | false => rwa [commit_of_inactive hflag]
  | true =>
      obtain ⟨c, hc⟩ := exists_connection h hflag
      rw [commit_of_active hflag hc]
      exact flag_of_settle .commit (by decide) .committed hc (h.isShallow c hc)

theorem flag_of_rollback (h : a.IsSingle) : (rollback a).2.session.inTransaction = false := by
  cases hflag : a.session.inTransaction with
  | false => rwa [rollback_of_inactive hflag]
  | true =>
      obtain ⟨c, hc⟩ := exists_connection h hflag
      cases hactive : a.recordIsActive with
      | false =>
          rw [rollback_of_ended hflag hc hactive]
          rfl
      | true =>
          rw [rollback_of_active hflag hc hactive]
          exact flag_of_settle .rollback (by decide) .rolledBack hc (h.isShallow c hc)

/-! ### What a call keeps, and what it says -/

theorem isSingle_of_goes (hg : Goes a call r a') (h : a.IsSingle) : a'.IsSingle := by
  cases hg with
  | refused he => exact h
  | endedByBackend hcall hinactive hsession hserver =>
      refine ⟨fun c hc => h.isShallow c ?_, fun hactive => ?_, fun _ => ?_⟩
      · rw [← hc, hsession]
      · unfold Attached.recordIsActive at hactive hinactive
        rw [hsession] at hactive
        exact absurd (hinactive.symm.trans hactive) Bool.false_ne_true
      · rw [hsession]
  | carried hc hbegin hp hconnection hserver hflag =>
      refine ⟨fun c' hc' => ?_, fun hactive => ?_, fun hnone => ?_⟩
      · exact Option.some.inj (hconnection.symm.trans hc') ▸ hp.isShallow
      · exact hflag ((recordIsActive_of_open hconnection).symm.trans hactive)
      · exact nomatch hnone.symm.trans hconnection

theorem exchange_of_goes (hg : Goes a call r a') :
    ∃ said, a.Talks said a' ∧ Exchange a call said r := by
  cases hg with
  | refused he => exact ⟨[], .silent rfl, .refused call he⟩
  | endedByBackend hcall hinactive hsession hserver =>
      exact ⟨[], .silent hserver, hcall ▸ .endedByBackend hinactive⟩
  | carried hc hbegin hp hconnection hserver hflag =>
      obtain ⟨said, hsaid, hexchange⟩ := hp.exchange
      exact ⟨said, .spoken hc hsaid hconnection hserver, .carried hbegin hexchange⟩

/-- Two failures are put into one only by a commit, when both its texts have failed; otherwise such
an error is what the server has answered. -/
theorem said_of_failedCommit {said : List (String × Outcome Error Unit)} {e e' : Error}
    (h : Exchange a call said (.err (.database (.failedCommit e' e)))) :
    call = .commit ∧ said = [("COMMIT", .err e), ("ROLLBACK", .err e')] ∨
      ∃ text, (text, .err (.failedCommit e' e)) ∈ said := by
  generalize hr : (Outcome.err (.database (.failedCommit e' e)) : Outcome GatewayError Unit) = r
    at h
  cases h with
  | refused call he =>
      cases hr
      simp [refusals] at he
  | endedByBackend hinactive => cases hr
  | @carried _ said r hbegin hexchange =>
      obtain rfl : r = .err (.failedCommit e' e) := by
        cases r with
        | ok u => cases hr
        | err e => cases hr; rfl
        | panic => cases hr
      cases hexchange with
      | refused call he => rcases he with he | he <;> cases he
      | begun => exact .inr ⟨_, List.mem_cons_self⟩
      | committed => exact .inr ⟨_, List.mem_cons_self⟩
      | undone => exact .inr ⟨_, List.mem_cons_self⟩
      | notUndone => exact .inl ⟨rfl, rfl⟩
      | rolledBack => exact .inr ⟨_, List.mem_cons_self⟩

end Session

/-! ### All the life of a session -/

namespace Session

theorem isSingle_giveBack (unwinding : Bool) {a : Attached} (h : a.IsSingle) :
    (giveBack unwinding a).IsSingle := by
  unfold giveBack
  split
  · exact h
  · exact ⟨nofun, nofun, fun _ => rfl⟩

theorem isSingle_execute (sql : String) {a : Attached} (h : a.IsSingle) :
    (execute sql a).2.IsSingle := by
  unfold execute
  cases hc : a.session.connection with
  | none =>
      rw [onConnection_of_closed _ hc]
      exact h
  | some c =>
      rw [onConnection_of_open _ hc]
      have hshallow := h.isShallow c hc
      have hflagged := h.flagged
      rw [recordIsActive_of_open hc] at hflagged
      refine ⟨fun c' hc' => Option.some.inj hc' ▸ ?_, ?_, nofun⟩ <;>
        rcases Link.fades_plainBatch sql ⟨c, a.engine.server⟩ with hr | hr
      · exact hr ▸ hshallow
      · exact Transaction.isShallow_of_not_isActive hr
      · exact fun hactive => hflagged (hr ▸ hactive)
      · exact fun hactive => absurd (hr.symm.trans hactive) Bool.false_ne_true

/-- The session's own calls, statements of any kind, and closing. -/
theorem lasting_isSingle : Attached.Lasting False Attached.IsSingle where
  begin _ h := isSingle_of_goes (goes_begin h) h
  commit _ h := isSingle_of_goes (goes_commit h) h
  rollback _ h := isSingle_of_goes (goes_rollback h) h
  close unwinding a h := by
    have hrolled : (if a.session.inTransaction then rollback a else (.ok (), a)).2.IsSingle := by
      split
      · exact isSingle_of_goes (goes_rollback h) h
      · exact h
    have hgiven := isSingle_giveBack unwinding hrolled
    unfold close
    split
    · exact h
    · exact ⟨hgiven.isShallow, hgiven.flagged, hgiven.closed⟩
  execute sql _ h := isSingle_execute sql h
  called hdirect := hdirect.elim
  elsewhere _ _ h := ⟨h.isShallow, h.flagged, h.closed⟩

/-- A session starts without a transaction. -/
theorem isIdle_openOn {c : Connection} {e e' : Engine} {s : Session} (hidle : c.record = .idle)
    (hopen : openOn c e = (.ok s, e')) : (Attached.mk s e').IsIdle := by
  cases hopen
  exact ⟨rfl, by rw [recordIsActive_of_open rfl, hidle]; rfl⟩

theorem isSingle_openOn {c : Connection} {e e' : Engine} {s : Session} (hidle : c.record = .idle)
    (hopen : openOn c e = (.ok s, e')) : (Attached.mk s e').IsSingle :=
  isSingle_of_isIdle (isIdle_openOn hidle hopen)

end Session

/-- At most one transaction: what can be relied on at any time of a session's life. -/
structure Attached.AtMostOne (a : Attached) : Prop where
  /-- When the record shows a transaction it is the outermost one, and the flag is set. -/
  outermost : ∀ c n doubtful, a.session.connection = some c → c.record = .active n doubtful →
    n = 0 ∧ a.session.inTransaction = true
  closed : a.session.isClosed = true → a.session.inTransaction = false
  /-- To begin, commit and roll back, it sends at most `BEGIN`, `COMMIT`, or `ROLLBACK`, and `BEGIN`
  only when the record shows no transaction. It answers with two failures in one only from a commit,
  when its `COMMIT` and its `ROLLBACK` have both failed; otherwise the server has given that
  answer. -/
  calls : ∀ call, ∃ said label, a.Talks said (Session.transact call a).2 ∧
    Session.Exchange a call said (Session.transact call a).1 ∧
    (Session.transact call a).2.engine.server.journal =
      a.engine.server.journal ++ said.map (fun line => .statement label line.1) ∧
    ∀ e₁ e₂, (Session.transact call a).1 = .err (.database (.failedCommit e₂ e₁)) →
      call = .commit ∧ said = [("COMMIT", .err e₁), ("ROLLBACK", .err e₂)] ∨
        ∃ text, (text, .err (.failedCommit e₂ e₁)) ∈ said

theorem Attached.IsSingle.atMostOne {a : Attached} (h : a.IsSingle) : a.AtMostOne where
  outermost c n doubtful hc hrecord := by
    have hshallow := h.isShallow c hc
    rw [hrecord] at hshallow
    refine ⟨?_, h.flagged (by rw [Session.recordIsActive_of_open hc, hrecord]; rfl)⟩
    cases n with
    | zero => rfl
    | succ n => exact hshallow.elim
  closed hclosed := h.closed (Option.isNone_iff_eq_none.mp hclosed)
  calls call := by
    obtain ⟨said, htalks, hexchange⟩ := Session.exchange_of_goes (Session.goes_transact h call)
    obtain ⟨label, hjournal⟩ := htalks.journal
    exact ⟨said, label, htalks, hexchange, hjournal,
      fun e₁ e₂ h => Session.said_of_failedCommit (h ▸ hexchange)⟩

/-- A session opened on a connection whose record shows no transaction has at most one at any time
of its life, as long as nobody calls the connection's transaction interface past the session;
whatever texts are sent, whatever faults strike, and whatever panics. -/
theorem at_most_one_transaction {c : Connection} {e e' : Engine} {s : Session} {a : Attached}
    (hidle : c.record = .idle) (hopen : Session.openOn c e = (.ok s, e'))
    (hreach : (Attached.mk s e').Reaches False a) : a.AtMostOne :=
  (Session.lasting_isSingle.reaches hreach (Session.isSingle_openOn hidle hopen)).atMostOne

/-- A server that fails to roll back once, whereupon the record is cleared too early. -/
def Database.Server.hasty : Server where
  faults :=
    [{ statement := "ROLLBACK", schedule := {}, mode := .before, change := .cleared,
       error := .unknown "refused" }]

/-- A second transaction, after the first has been ended by a text; one more is tried inside it, and
a panic caught. -/
def hastyOperations : List Operation :=
  [.begin, .rollback, .sql "ROLLBACK", .begin, .nested [.sql "PUT x"], .crash]

theorem hasty_at_most_one :
    (Attached.after hastyOperations .hasty).recordIsActive = true ∧
    (Attached.opened .hasty).Reaches False (.after hastyOperations .hasty) ∧
    (Attached.after hastyOperations .hasty).AtMostOne := by
  have hreach : (Attached.opened .hasty).Reaches False (.after hastyOperations .hasty) :=
    Operation.reaches_runEvery (by decide) _
  exact ⟨by decide +kernel, hreach,
    at_most_one_transaction rfl (opened_openOn .hasty) hreach⟩

/-- A text that commits is enough for the session's own commit to fail, and its rollback with it. -/
theorem not_never_failedCommit :
    ¬ ∀ (c : Connection) (e e' : Engine) (s : Session) (a : Attached), c.record = .idle →
      Session.openOn c e = (.ok s, e') → (Attached.mk s e').Reaches False a →
        ∀ call e₁ e₂, (Session.transact call a).1 ≠ .err (.database (.failedCommit e₁ e₂)) := by
  intro h
  have hcommit : (Session.transact .commit (.after [.begin, .sql "COMMIT"] {})).1 =
      .err (.database (.failedCommit (.unknown "cannot rollback - no transaction is active")
        (.unknown "cannot commit - no transaction is active"))) := by
    decide +kernel
  exact h _ _ _ _ _ rfl (opened_openOn {}) (Operation.reaches_runEvery (by decide) _) .commit _ _
    hcommit

end TransactionGateway
