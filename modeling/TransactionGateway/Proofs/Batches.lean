import TransactionGateway.Proofs.Parallels
import TransactionGateway.Proofs.Sending

/-! # One batch or many statements

A script is its statements, however they are sent: together, as one operation of an atomic run, or
one operation each.

* **Cutting.** The statements of texts put together are those of the texts, one after another
  (`statementTexts_batchOf`).
* **Sending.** Whatever is sent in one text can be sent in several: work on a connection can be cut
  between two statements (`onConnection_bind`).
* **Remembering.** The two ways differ in what the server remembers of them and in the place that is
  reported for a failing operation. No answer depends on either (`Link.Like`, `Engine.Resembles`),
  so the results are the same, and so is all else (`applyScript_batchOf`). -/

namespace TransactionGateway

open Database Act

/-! ### What is remembered -/

namespace Database

/-- The link with another history. -/
def Link.recalling (history : List Event) (l : Link) : Link :=
  { l with server := { l.server with history } }

/-- The links differ at most in their histories. -/
def Link.Like (l l' : Link) : Prop := ∃ history, l' = l.recalling history

namespace Link

variable {l l' : Link}

theorem like_equivalence : Equivalence Like where
  refl l := ⟨l.server.history, rfl⟩
  symm := by
    rintro l _ ⟨history, rfl⟩
    exact ⟨l.server.history, rfl⟩
  trans := by
    rintro l _ _ ⟨history, rfl⟩ ⟨history', rfl⟩
    exact ⟨history', rfl⟩

theorem Like.record (h : l.Like l') : l'.connection.record = l.connection.record := by
  obtain ⟨history, rfl⟩ := h
  rfl

theorem Like.withRecord (h : l.Like l') (record : Record) :
    (l.withRecord record).Like (l'.withRecord record) := by
  obtain ⟨history, rfl⟩ := h
  exact ⟨history, rfl⟩

theorem like_remembering (h : l.Like l') (event : Event) : (l.remembering event).Like l' := by
  obtain ⟨history, rfl⟩ := h
  exact ⟨history, rfl⟩

section recalling
variable (history : List Event) (l : Link)

@[simp] theorem recalling_work : (l.recalling history).connection.work = l.connection.work := rfl

@[simp] theorem recalling_rows : (l.recalling history).server.rows = l.server.rows := rfl

@[simp] theorem recalling_isLenient :
    (l.recalling history).server.isLenient = l.server.isLenient := rfl

theorem received_recalling (text : String) :
    (l.recalling history).received text = (l.received text).recalling history := by
  unfold received
  rw [entered_eq, entered_eq]
  rfl

theorem addRow_recalling (row : String) : addRow row (l.recalling history)
    = ((addRow row l).1, (addRow row l).2.recalling history) := by
  simp only [addRow, update, recalling_work, recalling_rows]
  split <;> rfl

theorem run_recalling (s : Statement) :
    s.run (l.recalling history) = ((s.run l).1, (s.run l).2.recalling history) := by
  cases s with
  | put row => exact addRow_recalling history l row
  | unique row =>
      simp only [Statement.run, recalling_work, recalling_rows, addRow_recalling]
      split <;> rfl
  | notUnderstood word =>
      unfold Statement.run
      cases h : l.server.isLenient <;> simp [h]
  | _ =>
      simp only [Statement.run, atSavepoint, done, Act.panic, recalling_work, recalling_rows] <;>
        split <;> rfl

end recalling

end Link

open Link

theorem like_run (s : Statement) : Simulates Like s.run s.run := by
  rintro l _ ⟨history, rfl⟩
  rw [run_recalling]
  exact ⟨rfl, history, rfl⟩

theorem like_mode (m : FaultMode) (text : String) : Simulates Like (m.run text) (m.run text) := by
  cases m with
  | before => exact simulates_done ()
  | after => exact like_run _
  | lost => exact simulates_update fun _ _ ⟨history, h⟩ => ⟨history, h ▸ rfl⟩

/-- The strike itself is remembered, on top of two different histories. -/
theorem like_struck (f : Fault) (text : String) :
    Simulates Like (struck f text) (struck f text) := by
  refine simulates_bind (fun _ _ ⟨history, h⟩ => ⟨h ▸ rfl, history, h⟩) fun wasOpen =>
    simulates_bind (like_mode f.mode text) fun _ => simulates_bind (simulates_update ?_) fun _ =>
    simulates_bind (simulates_update ?_) fun _ => simulates_raise _
  · rintro l _ ⟨history, rfl⟩
    refine ⟨history, ?_⟩
    cases f.change <;> rfl
  · rintro l _ ⟨history, rfl⟩
    exact ⟨_, rfl⟩

theorem like_perform (text : String) : Simulates Like (perform text) (perform text) := by
  rintro l _ ⟨history, rfl⟩
  rw [perform_eq, perform_eq, received_recalling,
    show (l.recalling history).server.faults = l.server.faults from rfl]
  cases (strike text l.server.faults).1 with
  | none => exact like_run _ _ _ ⟨history, rfl⟩
  | some f => exact like_struck f text _ _ ⟨history, rfl⟩

theorem like_performAll (texts : List String) :
    Simulates Like (performAll texts) (performAll texts) := by
  induction texts with
  | nil => exact simulates_done ()
  | cons text rest ih => exact simulates_bind (like_perform text) fun _ => ih

theorem like_batch (sql : String) : Simulates Like (batch sql) (batch sql) := like_performAll _

/-- What is remembered of a text sent past the transaction calls makes no difference either. -/
theorem like_plainBatch (sql : String) : Simulates Like (plainBatch sql) (batch sql) := by
  intro l l' h
  exact like_batch sql _ _ (like_remembering h _)

namespace Transaction

theorem like_changeRecord (f : Record → Record) :
    Simulates Like (changeRecord f) (changeRecord f) :=
  simulates_update fun l l' h => by
    rw [h.record]
    exact h.withRecord _

theorem like_sendBegin (sql : String) : Simulates Like (sendBegin sql) (sendBegin sql) :=
  simulates_bind (like_batch sql) fun _ => like_changeRecord _

theorem like_begin : Simulates Like begin begin := by
  intro l l' h
  unfold begin
  rw [h.record]
  cases l.connection.record with
  | broken => exact ⟨rfl, h⟩
  | idle => exact like_sendBegin _ l l' h
  | active n doubtful => exact like_sendBegin _ l l' h

theorem like_sendRollback (sql : String) (doubtful : Bool) :
    Simulates Like (sendRollback sql doubtful) (sendRollback sql doubtful) := by
  intro l l' h
  obtain ⟨r, m, m', hm, hm', hlike⟩ := (like_batch sql).exists_eq h
  unfold sendRollback
  rw [hm, hm']
  cases r with
  | ok u =>
      dsimp only
      rw [hlike.record]
      exact ⟨rfl, hlike.withRecord _⟩
  | err e =>
      dsimp only
      rw [hlike.record]
      exact ⟨rfl, hlike.withRecord _⟩
  | panic => exact ⟨rfl, hlike⟩

theorem like_rollback : Simulates Like rollback rollback := by
  intro l l' h
  unfold rollback
  rw [h.record]
  cases l.connection.record with
  | broken => exact ⟨rfl, h⟩
  | idle => exact ⟨rfl, h⟩
  | active n doubtful => cases n <;> exact like_sendRollback _ _ l l' h

theorem like_undo (e : Error) : Simulates Like (undo e) (undo e) := by
  intro l l' h
  obtain ⟨r, m, m', hm, hm', hlike⟩ := like_rollback.exists_eq h
  unfold undo
  rw [hm, hm']
  cases r with
  | ok u => exact ⟨rfl, hlike⟩
  | err e' => exact ⟨rfl, hlike.withRecord _⟩
  | panic => exact ⟨rfl, hlike⟩

theorem like_afterFailedCommit (e : Error) :
    Simulates Like (afterFailedCommit e) (afterFailedCommit e) := by
  intro l l' h
  unfold afterFailedCommit
  rw [h.record]
  split
  · exact like_undo e l l' h
  · exact like_undo e l l' h
  · exact ⟨rfl, h⟩

theorem like_sendCommit (sql : String) : Simulates Like (sendCommit sql) (sendCommit sql) := by
  intro l l' h
  obtain ⟨r, m, m', hm, hm', hlike⟩ := (like_batch sql).exists_eq h
  unfold sendCommit
  rw [hm, hm']
  cases r with
  | ok u =>
      dsimp only
      rw [hlike.record]
      exact ⟨rfl, hlike.withRecord _⟩
  | err e => exact like_afterFailedCommit e m m' hlike
  | panic => exact ⟨rfl, hlike⟩

theorem like_commit : Simulates Like commit commit := by
  intro l l' h
  unfold commit
  rw [h.record]
  cases l.connection.record with
  | broken => exact ⟨rfl, h⟩
  | idle => exact ⟨rfl, h⟩
  | active n doubtful => cases n <;> exact like_sendCommit _ l l' h

theorem like_call (call : Call) : Simulates Like call.run call.run := by
  cases call with
  | begin => exact like_begin
  | commit => exact like_commit
  | rollback => exact like_rollback

end Transaction

/-! ### Batches -/

/-- Texts put together to one, with a semicolon between them. -/
def batchOf (texts : List String) : String :=
  String.ofList (Text.join ';' (texts.map String.toList))

theorem statementTexts_batchOf {texts : List String} (hne : texts ≠ [])
    (h : ∀ text ∈ texts, ';' ∉ text.toList) :
    statementTexts (batchOf texts) = texts.flatMap statementTexts := by
  have hpieces : Text.pieces ';' (batchOf texts).toList = texts.map String.toList := by
    rw [batchOf, String.toList_ofList]
    exact Text.pieces_join (by simpa using hne) (by simpa using h)
  rw [statementTexts, hpieces]
  clear hne hpieces
  induction texts with
  | nil => rfl
  | cons text rest ih =>
      have hrest := ih fun t ht => h t (List.mem_cons_of_mem text ht)
      rw [List.flatMap_cons, ← hrest, statementTexts,
        Text.pieces_of_not_mem (h text List.mem_cons_self)]
      simp only [List.map_cons, List.map_nil, ← List.map_append, ← List.filter_append,
        List.singleton_append]

theorem performAll_append (texts texts' : List String) :
    performAll (texts ++ texts') = performAll texts >>= fun _ => performAll texts' := by
  induction texts with
  | nil => rfl
  | cons text rest ih =>
      rw [List.cons_append, performAll, ih, performAll, Act.bind_assoc]

theorem batch_batchOf {texts : List String} (hne : texts ≠ [])
    (h : ∀ text ∈ texts, ';' ∉ text.toList) : batch (batchOf texts) = each batch texts := by
  rw [batch, statementTexts_batchOf hne h]
  clear hne h
  induction texts with
  | nil => rfl
  | cons text rest ih => rw [List.flatMap_cons, performAll_append, ih, each, batch]

/-- One text sent past the transaction calls, or each of its parts. -/
theorem like_plainBatch_batchOf {texts : List String} (hne : texts ≠ [])
    (h : ∀ text ∈ texts, ';' ∉ text.toList) :
    Simulates Like (plainBatch (batchOf texts)) (each plainBatch texts) := by
  have hparts : Simulates Like (each plainBatch texts) (each batch texts) :=
    simulates_each fun text _ => like_plainBatch text
  refine (like_plainBatch _).trans like_equivalence ?_
  rw [batch_batchOf hne h]
  exact hparts.symm like_equivalence

end Database

/-! ### Sessions -/

namespace Engine

/-- The engines differ at most in what they have reported and in what their servers remember. -/
def Resembles (e e' : Engine) : Prop :=
  ∃ notices history, e' = { e with notices, server := { e.server with history } }

theorem resembles_equivalence : Equivalence Resembles where
  refl e := ⟨e.notices, e.server.history, rfl⟩
  symm := by
    rintro e _ ⟨notices, history, rfl⟩
    exact ⟨e.notices, e.server.history, rfl⟩
  trans := by
    rintro e _ _ ⟨notices, history, rfl⟩ ⟨notices', history', rfl⟩
    exact ⟨notices', history', rfl⟩

theorem resembles_putBack {e e' : Engine} (h : e.Resembles e') (unwinding : Bool) (c : Connection) :
    (e.putBack unwinding c).Resembles (e'.putBack unwinding c) := by
  obtain ⟨notices, history, rfl⟩ := h
  refine ⟨notices, history, ?_⟩
  unfold putBack
  split <;> rfl

end Engine

namespace Session

theorem resembles_onConnection {α : Type} {work work' : Act Link Database.Error α}
    (h : Simulates Link.Like work work') :
    Simulates (Attached.Beside Engine.Resembles) (onConnection work) (onConnection work') := by
  rintro ⟨s, e⟩ ⟨s', e'⟩ ⟨hs, notices, history, he⟩
  obtain rfl : s' = s := hs
  obtain rfl : e' = _ := he
  cases hc : s'.connection with
  | none =>
      rw [onConnection_of_closed work hc, onConnection_of_closed work' hc]
      exact ⟨rfl, rfl, notices, history, rfl⟩
  | some c =>
      have hlike : Link.Like ⟨c, e.server⟩ ⟨c, { e.server with history }⟩ := ⟨history, rfl⟩
      obtain ⟨r, l, l', hl, hl', history', rfl⟩ := h.exists_eq hlike
      rw [onConnection_of_open work hc, onConnection_of_open work' hc]
      dsimp only
      rw [hl, hl']
      exact ⟨rfl, rfl, notices, history', rfl⟩

theorem unseen_resembles : Unseen Engine.Resembles where
  note := by
    rintro e _ ⟨notices, history, rfl⟩ n n'
    exact ⟨_, history, rfl⟩
  putBack h := Engine.resembles_putBack h
  direct call := resembles_onConnection (Transaction.like_call call)

/-- Work on the connection may be interrupted where it consists of two parts. -/
theorem onConnection_bind {α β : Type} (x : Act Link Database.Error α)
    (f : α → Act Link Database.Error β) :
    onConnection (x >>= f) = onConnection x >>= fun a => onConnection (f a) := by
  funext a
  rw [bind_apply]
  cases hc : a.session.connection with
  | none => rw [onConnection_of_closed _ hc, onConnection_of_closed _ hc]
  | some c =>
      rw [onConnection_of_open _ hc, onConnection_of_open _ hc, bind_apply]
      cases hx : x ⟨c, a.engine.server⟩ with
      | mk r l => cases r <;> rfl

theorem onConnection_each {α : Type} (f : α → Act Link Database.Error Unit) {as : List α}
    (hne : as ≠ []) : onConnection (each f as) = each (fun a => onConnection (f a)) as := by
  obtain ⟨a, as, rfl⟩ := List.exists_cons_of_ne_nil hne
  induction as generalizing a with
  | nil => rw [each, each, each, each, bind_done, bind_done]
  | cons b as ih =>
      rw [each, onConnection_bind, ih b nofun]
      rfl

theorem resembles_execute_batchOf {texts : List String} (hne : texts ≠ [])
    (h : ∀ text ∈ texts, ';' ∉ text.toList) :
    Simulates (Attached.Beside Engine.Resembles) (execute (batchOf texts))
      (each execute texts) := by
  have hparts : each execute texts = onConnection (each plainBatch texts) :=
    (onConnection_each plainBatch hne).symm
  rw [hparts]
  exact resembles_onConnection (like_plainBatch_batchOf hne h)

end Session

/-! ### Atomic runs -/

/-- A failing operation is reported with its place, and the places are not the same. -/
theorem resembles_runAll {texts : List String} (hne : texts ≠ [])
    (h : ∀ text ∈ texts, ';' ∉ text.toList) :
    Simulates (Attached.Beside Engine.Resembles)
      (Envelope.runAll Session.transactional plainView 0 ([batchOf texts].map statement))
      (Envelope.runAll Session.transactional plainView 0 (texts.map statement)) := by
  have hR := Attached.beside_equivalence Engine.resembles_equivalence
  have hreport : ∀ event a a', Attached.Beside Engine.Resembles a a' →
      Attached.Beside Engine.Resembles (Session.transactional.report event a) a' := by
    rintro event a a' ⟨hs, notices, history, he⟩
    exact ⟨hs, notices, history, he⟩
  have hruns (scripts : List String) : Simulates (Attached.Beside Engine.Resembles)
      (Envelope.runAll Session.transactional plainView 0 (scripts.map statement))
      (each Session.execute scripts) :=
    Envelope.simulates_runAll hreport (fun script _ => Session.resembles_onConnection <|
      (like_plainBatch script).trans Link.like_equivalence
        ((like_plainBatch script).symm Link.like_equivalence)) 0
  refine (hruns [batchOf texts]).trans hR (Simulates.trans hR ?_ ((hruns texts).symm hR))
  rw [each, each, bind_done]
  exact Session.resembles_execute_batchOf hne h

namespace Engine

theorem runStatements_resembles {texts texts' : List String}
    (h : Simulates (Attached.Beside Resembles)
      (Envelope.runAll Session.transactional plainView 0 (texts.map statement))
      (Envelope.runAll Session.transactional plainView 0 (texts'.map statement))) (e : Engine) :
    (runStatements texts e).1 = (runStatements texts' e).1 ∧
      (runStatements texts e).2.Resembles (runStatements texts' e).2 := by
  have hwork := Session.unseen_resembles.simulates_run plainView h
  cases hopen : openSession e with
  | mk r e₁ =>
      cases r with
      | ok s =>
          rw [runStatements, runStatements, withSession_of_open _ _ hopen,
            withSession_of_open _ _ hopen]
          exact Session.unseen_resembles.simulates_scoped id hwork s e₁ e₁
            (resembles_equivalence.refl e₁)
      | err cause =>
          rw [runStatements, runStatements, withSession_of_err _ _ hopen,
            withSession_of_err _ _ hopen]
          exact ⟨rfl, resembles_equivalence.refl e₁⟩
      | panic => exact absurd (congrArg Prod.fst hopen) (openSession_ne_panic e)

/-- A script and its parts, run as statements, have the same result. They send the same to the
server, and leave the same rows and the same pool. -/
theorem applyScript_batchOf {texts : List String} (hne : texts ≠ [])
    (h : ∀ text ∈ texts, ';' ∉ text.toList)
    (hsome : Text.allBlank (batchOf texts).toList = false) (e : Engine) :
    (applyScript (batchOf texts) e).1 = (runStatements texts e).1 ∧
      (applyScript (batchOf texts) e).2.server.journal = (runStatements texts e).2.server.journal ∧
      (applyScript (batchOf texts) e).2.server.rows = (runStatements texts e).2.server.rows ∧
      (applyScript (batchOf texts) e).2.pool = (runStatements texts e).2.pool := by
  have hscript : applyScript (batchOf texts) = runStatements [batchOf texts] := by
    rw [applyScript, if_neg (by simp [hsome])]
  obtain ⟨hr, notices, history, he⟩ := runStatements_resembles (resembles_runAll hne h) e
  rw [hscript, he]
  exact ⟨hr, rfl, rfl, rfl⟩

/-- An engine with one idle connection, whose second `PUT a` fails. -/
def forgetful : Engine where
  server :=
    { rows := ["old"]
      faults :=
        [{ statement := "PUT a", schedule := { after := 1 }, mode := .before, change := .kept,
           error := .unknown "busy" }] }
  pool := { limits := { minIdle := 0 }, url := "db", idle := [{ serial := 0 }], size := 1 }

/-- A row that is committed by its own text, a blank text, a text that fails, and one that is not
reached. -/
def forgottenTexts : List String := ["PUT a", "COMMIT", " ", "PUT a", "PANIC"]

theorem forgottenTexts_batchOf :
    forgottenTexts ≠ [] ∧ (∀ text ∈ forgottenTexts, ';' ∉ text.toList) ∧
    Text.allBlank (batchOf forgottenTexts).toList = false ∧
    ((applyScript (batchOf forgottenTexts) forgetful).1 =
        (runStatements forgottenTexts forgetful).1 ∧
      (applyScript (batchOf forgottenTexts) forgetful).2.server.journal =
        (runStatements forgottenTexts forgetful).2.server.journal ∧
      (applyScript (batchOf forgottenTexts) forgetful).2.server.rows =
        (runStatements forgottenTexts forgetful).2.server.rows ∧
      (applyScript (batchOf forgottenTexts) forgetful).2.pool =
        (runStatements forgottenTexts forgetful).2.pool) ∧
    (applyScript "PUT a;COMMIT; ;PUT a;PANIC" forgetful).2.server.rows = ["old", "a"] := by
  have hne : forgottenTexts ≠ [] := nofun
  have hfree : ∀ text ∈ forgottenTexts, ';' ∉ text.toList := by decide
  have hsome : Text.allBlank (batchOf forgottenTexts).toList = false := by decide
  exact ⟨hne, hfree, hsome, applyScript_batchOf hne hfree hsome forgetful, by decide +kernel⟩

end Engine

end TransactionGateway
