import TransactionGateway.Proofs.Ledger
import TransactionGateway.Proofs.Sessions
import TransactionGateway.Proofs.Upkeep

/-! # Atomic runs of operation trees

Without faults, trees of operations that leave the transaction alone run as one transaction.

* **Trees** (`Tree`). Their leaves are texts without transaction control, errors of the caller and
  panics; a branch tries a tree, or runs trees inside an atomic envelope of its own.
* **Courses** (`Tree.course`). What a tree does, said without any transaction: the rows it adds and
  the statements it sends. A nested envelope does nothing but fail.
* **Simulation.** As long as a transaction is open on the session, a tree does on it what its
  course does (`simulates_tree`). So between the one `BEGIN` and the one `COMMIT` or `ROLLBACK` of
  the outer envelope stand the statements of the trees. -/

namespace TransactionGateway

open Database Act

/-- A caller's work that leaves the transaction alone, apart from the atomic envelopes in it. -/
inductive Tree where
  | sql (text : String) (isControlFree : IsControlFree text)
  | refuse (message : String)
  | fail (cause : GatewayError)
  | crash
  | attempt (tree : Tree)
  | nested (trees : List Tree)

/-- The rows pending in a transaction, and the statements sent in it. -/
structure Draft where
  pending : List String := []
  sent : List String := []
deriving DecidableEq, Repr

/-- A statement sent in a transaction on committed rows. -/
def Draft.send (isLenient : Bool) (rows : List String) (text : String) :
    Act Draft Database.Error Unit := fun d =>
  let (r, b) := Ledger.send isLenient text ⟨rows, some d.pending⟩
  (r, { pending := b.pending.getD [], sent := d.sent ++ [text] })

namespace Tree

mutual

/-- The tree as a caller's operation. -/
def operation : Tree → Operation
  | sql text _ => .sql text
  | refuse message => .refuse message
  | fail cause => .fail cause
  | crash => .crash
  | attempt tree => .attempt (operation tree)
  | nested trees => .nested (operations trees)

/-- Trees as a caller's operations. -/
def operations : List Tree → List Operation
  | [] => []
  | tree :: trees => operation tree :: operations trees

end

theorem operations_eq_map (trees : List Tree) : operations trees = trees.map operation := by
  induction trees with
  | nil => rfl
  | cons tree trees ih => rw [operations, ih, List.map_cons]

/-- What the tree does inside a transaction. -/
def course (isLenient : Bool) (rows : List String) : Tree → Act Draft Failure Unit
  | sql text _ =>
    ((each (Draft.send isLenient rows) (statementTexts text)).mapError .database).mapError .gateway
  | refuse message => raise (.app message)
  | fail cause => raise (.gateway cause)
  | crash => panic
  | attempt tree => (course isLenient rows tree).forgiven
  | nested _ => raise (.gateway .transactionAlreadyActive)

end Tree

/-! ### Links -/

/-- The link shows the ledger, its connection has the label, and its server the journal. -/
structure Database.Link.Stands (isLenient : Bool) (b : Ledger) (label : Option Nat)
    (journal : List Entry) (l : Link) : Prop where
  shows : l.Shows isLenient b
  label : l.connection.label = label
  journal : l.server.journal = journal

section links
variable {isLenient : Bool} {rows pending : List String} {n : Nat} {journal : List Entry}

namespace Database.Link

theorem Stands.sent {b b' : Ledger} {label : Option Nat} {l l' : Link} {text : String}
    (h : Stands isLenient b label journal l) (hl' : l'.Shows isLenient b') (hs : l.Sent text l') :
    Stands isLenient b' (some l.name) (journal ++ [.statement l.name text]) l' :=
  ⟨hl', hs.label, by rw [hs.journal, h.journal]⟩

theorem Stands.name {b : Ledger} {l : Link} (h : Stands isLenient b (some n) journal l) :
    l.name = n := by
  rw [Link.name, h.label]
  rfl

/-- The link is inside a transaction, and has come as far as the draft. -/
def Tracks (isLenient : Bool) (rows : List String) (n : Nat) (journal : List Entry) (l : Link)
    (d : Draft) : Prop :=
  l.Stands isLenient ⟨rows, some d.pending⟩ (some n) (journal ++ d.sent.map (.statement n))

theorem simulates_send {text : String}
    (ht : (Statement.ofText text).isTransactionControl = false) :
    Simulates (Tracks isLenient rows n journal) (perform text)
      (Draft.send isLenient rows text) := by
  intro l d h
  obtain ⟨hr, hl'⟩ := simulates_perform ht l _ h.shows
  obtain ⟨pending', hp⟩ := Ledger.apply_pending isLenient (Statement.ofText text) rows d.pending
  refine ⟨hr, ?_⟩
  have hstands := h.sent hl' (sent_perform text l)
  rw [h.name, List.append_assoc] at hstands
  unfold Tracks Draft.send
  rw [Ledger.send] at hstands ⊢
  rw [hp] at hstands
  dsimp only
  rw [hp, List.map_append]
  exact hstands

theorem tracks_remembering (event : Event) (l : Link) (d : Draft)
    (h : Tracks isLenient rows n journal l d) :
    Tracks isLenient rows n journal (l.remembering event) d :=
  ⟨h.shows.remembering event, h.label, h.journal⟩

/-- The outermost transaction of the connection begun. -/
theorem Stands.leads_begin :
    Leads (fun l => Stands isLenient ⟨rows, none⟩ l.connection.label journal l ∧ l.name = n)
      Transaction.begin (fun l => Tracks isLenient rows n (journal ++ [.statement n "BEGIN"]) l {})
      (fun _ => False) := by
  rintro l ⟨h, rfl⟩
  obtain ⟨l', hbegin, hl', hs⟩ := begin_of_shows h.shows
  rw [hbegin]
  have hstands := h.sent hl' hs
  unfold Tracks
  rwa [List.map_nil, List.append_nil]

theorem Stands.leads_commit :
    Leads (Stands isLenient ⟨rows, some pending⟩ (some n) journal) Transaction.commit
      (Stands isLenient ⟨rows ++ pending, none⟩ (some n) (journal ++ [.statement n "COMMIT"]))
      (fun _ => False) := by
  intro l h
  obtain ⟨l', hcommit, hl', hs⟩ := commit_of_shows h.shows
  have hstands := h.sent hl' hs
  rw [h.name] at hstands
  rw [hcommit]
  exact hstands

theorem Stands.leads_rollback :
    Leads (Stands isLenient ⟨rows, some pending⟩ (some n) journal) Transaction.rollback
      (Stands isLenient ⟨rows, none⟩ (some n) (journal ++ [.statement n "ROLLBACK"]))
      (fun _ => False) := by
  intro l h
  obtain ⟨l', hrollback, hl', hs⟩ := rollback_of_shows h.shows
  have hstands := h.sent hl' hs
  rw [h.name] at hstands
  rw [hrollback]
  exact hstands

end Database.Link

/-! ### Sessions -/

/-- The session is inside its transaction, and has come as far as the draft. -/
def Attached.Tracks (isLenient : Bool) (rows : List String) (n : Nat) (journal : List Entry)
    (a : Attached) (d : Draft) : Prop :=
  a.At true (Link.Tracks isLenient rows n journal · d)

/-- An envelope nested inside a transaction fails at once, and changes nothing. -/
theorem nested_of_inTransaction {a : Attached} (h : a.session.inTransaction = true)
    (ops : List Operation) :
    (Operation.nested ops).run a = (.err (.gateway .transactionAlreadyActive), a) := by
  unfold Operation.run Envelope.run
  rw [bind_apply, mapError_apply, show Session.transactional.begin a = _ from
    Session.begin_of_active h]
  rfl

theorem simulates_tree : ∀ tree : Tree,
    Simulates (Attached.Tracks isLenient rows n journal) tree.operation.run
      (tree.course isLenient rows)
  | .sql _ h => simulates_mapError _ (Session.simulates_onConnection
      (simulates_plainBatch Link.tracks_remembering fun text ht => Link.simulates_send (h text ht)))
  | .refuse _ => simulates_raise _
  | .fail _ => simulates_raise _
  | .crash => simulates_panic
  | .attempt tree => simulates_forgiven (simulates_tree tree)
  | .nested trees => fun a d h => by
      rw [Tree.operation, nested_of_inTransaction h.flag]
      exact ⟨rfl, h⟩

theorem simulates_trees (trees : List Tree) :
    Simulates (Attached.Tracks isLenient rows n journal)
      (Envelope.runAll Session.transactional callersView 0
        (Operation.runEach (Tree.operations trees)))
      (each (Tree.course isLenient rows) trees) := by
  rw [Operation.runEach_eq_map, Tree.operations_eq_map, List.map_map]
  exact Envelope.simulates_runAll (fun _ _ _ h => ⟨h.flag, h.on⟩)
    (fun tree _ => simulates_tree tree) 0

theorem leads_commit_of_stands :
    Leads (Attached.At true (Link.Stands isLenient ⟨rows, some pending⟩ (some n) journal))
      Session.commit
      (Attached.At false (Link.Stands isLenient ⟨rows ++ pending, none⟩ (some n)
        (journal ++ [.statement n "COMMIT"])))
      (Attached.On fun _ => False) :=
  Session.leads_commit Link.Stands.leads_commit

theorem leads_rollback_of_stands :
    Leads (Attached.At true (Link.Stands isLenient ⟨rows, some pending⟩ (some n) journal))
      Session.rollback
      (Attached.At false (Link.Stands isLenient ⟨rows, none⟩ (some n)
        (journal ++ [.statement n "ROLLBACK"])))
      (Attached.On fun _ => False) := by
  refine Session.leads_rollback_of_active (fun l h => ?_) Link.Stands.leads_rollback
  rw [h.shows.record]
  rfl

/-! ### The envelope -/

/-- Where the envelope leaves its session: outside of the transaction, which has been ended, or
still inside it after a panic. -/
def Attached.Finished (isLenient : Bool) (rows : List String) (n : Nat) (journal : List Entry)
    (d : Draft) (a : Attached) : Outcome Failure Unit → Prop
  | .ok _ => a.At false (Link.Stands isLenient ⟨rows ++ d.pending, none⟩ (some n)
      (journal ++ d.sent.map (.statement n) ++ [.statement n "COMMIT"]))
  | .err _ => a.At false (Link.Stands isLenient ⟨rows, none⟩ (some n)
      (journal ++ d.sent.map (.statement n) ++ [.statement n "ROLLBACK"]))
  | .panic => a.Tracks isLenient rows n journal d

theorem finished_of_body (trees : List Tree) {a : Attached} {d₀ d : Draft}
    {r : Outcome Failure Unit} (ha : a.Tracks isLenient rows n journal d₀)
    (hcourse : each (Tree.course isLenient rows) trees d₀ = (r, d)) :
    ∃ a', Envelope.body Session.transactional callersView
        (Operation.runEach (Tree.operations trees)) a = (r, a') ∧
      a'.Finished isLenient rows n journal d r := by
  obtain ⟨hr, hd⟩ := simulates_trees trees _ _ ha
  rw [hcourse] at hr hd
  unfold Envelope.body
  cases hops : Envelope.runAll Session.transactional callersView 0
      (Operation.runEach (Tree.operations trees)) a with
  | mk r' a₁ =>
      rw [hops] at hr hd
      obtain rfl : r' = r := hr
      cases r' with
      | panic => exact ⟨a₁, rfl, hd⟩
      | ok u =>
          obtain ⟨u', a₂, hcommit, ha₂⟩ :=
            ok_of_leads leads_commit_of_stands hd Attached.not_on_false
          refine ⟨a₂, ?_, ha₂⟩
          dsimp only [Envelope.settle]
          rw [show Session.transactional.commit a₁ = _ from hcommit]
      | err e =>
          obtain ⟨u', a₂, hrollback, ha₂⟩ :=
            ok_of_leads leads_rollback_of_stands hd Attached.not_on_false
          refine ⟨a₂, ?_, ha₂⟩
          dsimp only [Envelope.settle]
          rw [Envelope.recover, show Session.transactional.rollback a₁ = _ from hrollback]

theorem finished_of_run (trees : List Tree) {a : Attached} {d : Draft} {r : Outcome Failure Unit}
    (ha : a.At false fun l =>
      l.Stands isLenient ⟨rows, none⟩ l.connection.label journal ∧ l.name = n)
    (hcourse : each (Tree.course isLenient rows) trees {} = (r, d)) :
    ∃ a', Envelope.run Session.transactional callersView
        (Operation.runEach (Tree.operations trees)) a = (r, a') ∧
      a'.Finished isLenient rows n (journal ++ [.statement n "BEGIN"]) d r := by
  obtain ⟨u, a₁, hbegin, ha₁⟩ := ok_of_leads (Session.leads_begin Link.Stands.leads_begin) ha
    fun a h => Attached.not_on_false a h.on
  obtain ⟨a', hbody, ha'⟩ := finished_of_body trees ha₁ hcourse
  refine ⟨a', ?_, ha'⟩
  unfold Envelope.run
  rw [bind_apply, mapError_apply, show Session.transactional.begin a = _ from hbegin]
  exact hbody

/-! ### The end of the scope -/

/-- A connection outside of any transaction goes back to the pool, and the server hears nothing. -/
theorem server_giveBack {a : Attached} {label : Option Nat}
    (ha : a.At false (Link.Stands isLenient ⟨rows, none⟩ label journal)) :
    (Session.giveBack false a).engine.server = a.engine.server := by
  obtain ⟨-, c, hc, hl⟩ := ha
  have hidle : Engine.isReusable false c = true := by
    rw [Engine.isReusable, show c.record = .idle from hl.shows.record]
    rfl
  unfold Session.giveBack Engine.putBack
  rw [hc]
  dsimp only
  rw [if_pos hidle]
  rfl

/-- A connection given back while a panic unwinds is destroyed, and the server is told. -/
theorem server_giveBack_unwinding {a : Attached} {b : Ledger}
    (ha : a.At false (Link.Stands isLenient b (some n) journal)) :
    (Session.giveBack true a).engine.server.rows = b.rows ∧
      (Session.giveBack true a).engine.server.journal = journal ++ [.disconnect n] := by
  obtain ⟨-, c, hc, hl⟩ := ha
  have hlabel : c.label = some n := hl.label
  have hjournal : a.engine.server.journal = journal := hl.journal
  unfold Session.giveBack Engine.putBack
  rw [hc]
  refine ⟨hl.shows.rows, ?_⟩
  show a.engine.server.journal ++ (c.label.map fun n => [Entry.disconnect n]).getD [] = _
  rw [hjournal, hlabel]
  rfl

theorem close_of_stands {a : Attached} {label : Option Nat}
    (ha : a.At false (Link.Stands isLenient ⟨rows, none⟩ label journal)) :
    ∃ a', Session.close false a = (.ok (), a') ∧ a'.engine.server.rows = rows ∧
      a'.engine.server.journal = journal := by
  have hserver := server_giveBack ha
  refine ⟨(Session.giveBack false a).note .closed, ?_, ?_⟩
  · unfold Session.close
    rw [ha.on.isClosed, ha.flag]
    rfl
  · show (Session.giveBack false a).engine.server.rows = rows ∧
      (Session.giveBack false a).engine.server.journal = journal
    rw [hserver]
    obtain ⟨-, c, -, hl⟩ := ha
    exact ⟨hl.shows.rows, hl.journal⟩

/-- A panic lets go of the session: the transaction is rolled back, the connection destroyed. -/
theorem letGo_of_tracks {a : Attached} {d : Draft} (failed : String → SessionEvent)
    (ha : a.Tracks isLenient rows n journal d) :
    (Session.letGo true failed a).engine.server.rows = rows ∧
      (Session.letGo true failed a).engine.server.journal =
        journal ++ d.sent.map (.statement n) ++ [.statement n "ROLLBACK"] ++ [.disconnect n] := by
  obtain ⟨u, a₁, hrollback, ha₁⟩ := ok_of_leads leads_rollback_of_stands ha Attached.not_on_false
  have hclose : Session.close true a = (.ok (), (Session.giveBack true a₁).note .closed) := by
    unfold Session.close
    rw [ha.on.isClosed, ha.flag]
    simp only [Bool.false_eq_true, if_false, if_true, hrollback]
  unfold Session.letGo
  rw [hclose]
  exact server_giveBack_unwinding ha₁

/-- The statement that ends the transaction of a run with this outcome. -/
def ending {ε α : Type} : Outcome ε α → String
  | .ok _ => "COMMIT"
  | _ => "ROLLBACK"

/-- What is left of the connection's name when a run ends so: a panic is followed by a farewell. -/
def farewell {ε α : Type} (n : Nat) : Outcome ε α → List Entry
  | .panic => [.disconnect n]
  | _ => []

theorem server_of_finished {a : Attached} {d : Draft} {r : Outcome Failure Unit}
    (lift : GatewayError → Failure) (ha : a.Finished isLenient rows n journal d r) :
    (Engine.endScope lift r a).1 = r ∧
      (Engine.endScope lift r a).2.server.rows = (if r.isOk then rows ++ d.pending else rows) ∧
      (Engine.endScope lift r a).2.server.journal =
        journal ++ d.sent.map (.statement n) ++ [.statement n (ending r)] ++ farewell n r := by
  unfold Engine.endScope
  cases r with
  | panic => exact ⟨rfl, letGo_of_tracks _ ha⟩
  | ok u =>
      obtain ⟨a', hclose, hrows, hjournal⟩ := close_of_stands ha
      rw [hclose]
      exact ⟨rfl, hrows, hjournal.trans (List.append_nil _).symm⟩
  | err e =>
      obtain ⟨a', hclose, hrows, hjournal⟩ := close_of_stands ha
      rw [hclose]
      exact ⟨rfl, hrows, hjournal.trans (List.append_nil _).symm⟩

end links

/-! ### The whole run -/

/-- Nothing that has been sent is transaction control. -/
def Draft.IsFree (d : Draft) : Prop :=
  ∀ text ∈ d.sent, (Statement.ofText text).isTransactionControl = false

/-- Freedom from transaction control is kept. -/
def Draft.StaysFree (d d' : Draft) : Prop := d.IsFree → d'.IsFree

instance : IsPreorder Draft Draft.StaysFree where
  refl _ := id
  trans _ _ _ h h' := h' ∘ h

theorem Tree.moves_course (isLenient : Bool) (rows : List String) : ∀ tree : Tree,
    Moves Draft.StaysFree (tree.course isLenient rows)
  | sql text h => by
      refine moves_mapError _ (moves_mapError _ (moves_each fun text' ht d hd => ?_))
      intro t hmem
      rcases List.mem_append.mp hmem with hmem | hmem
      · exact hd t hmem
      · obtain rfl := List.mem_singleton.mp hmem
        exact h t ht
  | refuse _ => moves_raise _
  | fail _ => moves_raise _
  | crash => moves_panic
  | attempt tree => moves_forgiven (moves_course isLenient rows tree)
  | nested _ => moves_raise _

/-- Trees run atomically on a connection outside of any transaction, without faults. The outcome is
that of their course. One `BEGIN` is sent, then the statements of the course, none of them
transaction control, then one `COMMIT` after a success, and one `ROLLBACK` otherwise. The committed
rows grow by those of the course after a success, and stay as they are otherwise. On the way every
nested envelope fails at once and leaves everything as it is. -/
theorem atomically_trees {trees : List Tree} {e e₁ : Engine} {s : Session}
    (hopen : Engine.openSession e = (.ok s, e₁)) (hs : s.IsOutside) (hf : e.server.faults = []) :
    (∃ n r d, each (Tree.course e.server.isLenient e.server.rows) trees {} = (r, d) ∧
      d.IsFree ∧
      (Engine.atomically (Tree.operations trees) e).1 = r ∧
      (Engine.atomically (Tree.operations trees) e).2.server.rows =
        (if r.isOk then e.server.rows ++ d.pending else e.server.rows) ∧
      (Engine.atomically (Tree.operations trees) e).2.server.journal =
        e₁.server.journal ++ [.statement n "BEGIN"] ++ d.sent.map (.statement n) ++
          [.statement n (ending r)] ++ farewell n r) ∧
    ∀ (a : Attached) (ops : List Operation), a.session.inTransaction = true →
      (Operation.nested ops).run a = (.err (.gateway .transactionAlreadyActive), a) := by
  refine ⟨?_, fun a ops h => nested_of_inTransaction h ops⟩
  have hu := Engine.upkeep_openSession e
  rw [hopen] at hu
  obtain ⟨hflag, c, hc, hrecord, hwork⟩ := hs
  have ha : Attached.At false (fun l => l.Stands e.server.isLenient ⟨e.server.rows, none⟩
      l.connection.label e₁.server.journal ∧ l.name = Link.name ⟨c, e₁.server⟩) ⟨s, e₁⟩ :=
    ⟨hflag, c, hc, ⟨⟨hu.rows, hwork, hrecord, hu.isLenient, hu.faults hf⟩, rfl, rfl⟩, rfl⟩
  have hfree : Draft.StaysFree {}
      (each (Tree.course e.server.isLenient e.server.rows) trees {}).2 :=
    moves_each (fun tree _ => Tree.moves_course _ _ tree) {}
  cases hcourse : each (Tree.course e.server.isLenient e.server.rows) trees {} with
  | mk r d =>
      rw [hcourse] at hfree
      obtain ⟨a', hrun, ha'⟩ := finished_of_run trees ha hcourse
      obtain ⟨hr, hrows, hjournal⟩ := server_of_finished .gateway ha'
      refine ⟨Link.name ⟨c, e₁.server⟩, r, d, rfl, hfree nofun, ?_⟩
      unfold Engine.atomically
      rw [Engine.withSession_of_open _ _ hopen, hrun]
      exact ⟨hr, hrows, hjournal⟩

/-- An engine with one idle connection and a row, without faults. -/
def Engine.calm : Engine where
  server := { rows := ["old"] }
  pool := { limits := { minIdle := 0 }, url := "db", idle := [{ serial := 0 }], size := 1 }

/-- A row, a nested envelope that is tried, and a batch that is tried and fails at its second
statement. -/
def triedTrees : List Tree :=
  [.sql "PUT a" (by decide), .attempt (.nested [.sql "PUT b" (by decide)]),
    .attempt (.sql "PUT c; UNIQUE old; PUT d" (by decide))]

theorem triedTrees_atomically :
    Engine.openSession Engine.calm =
      (.ok ⟨1, some { serial := 0, label := some 1 }, false⟩,
        (Engine.openSession Engine.calm).2) ∧
    Session.IsOutside ⟨1, some { serial := 0, label := some 1 }, false⟩ ∧
    Engine.calm.server.faults = [] ∧
    ((∃ n r d, each (Tree.course Engine.calm.server.isLenient Engine.calm.server.rows)
        triedTrees {} = (r, d) ∧
      d.IsFree ∧
      (Engine.atomically (Tree.operations triedTrees) Engine.calm).1 = r ∧
      (Engine.atomically (Tree.operations triedTrees) Engine.calm).2.server.rows =
        (if r.isOk then Engine.calm.server.rows ++ d.pending else Engine.calm.server.rows) ∧
      (Engine.atomically (Tree.operations triedTrees) Engine.calm).2.server.journal =
        (Engine.openSession Engine.calm).2.server.journal ++ [.statement n "BEGIN"] ++
          d.sent.map (.statement n) ++ [.statement n (ending r)] ++ farewell n r) ∧
    ∀ (a : Attached) (ops : List Operation), a.session.inTransaction = true →
      (Operation.nested ops).run a = (.err (.gateway .transactionAlreadyActive), a)) ∧
    each (Tree.course Engine.calm.server.isLenient Engine.calm.server.rows) triedTrees {} =
      (.ok (), { pending := ["a", "c"], sent := ["PUT a", "PUT c", "UNIQUE old"] }) := by
  have hopen : Engine.openSession Engine.calm =
      (.ok ⟨1, some { serial := 0, label := some 1 }, false⟩,
        (Engine.openSession Engine.calm).2) := by decide
  have hs : Session.IsOutside ⟨1, some { serial := 0, label := some 1 }, false⟩ :=
    ⟨rfl, _, rfl, rfl, rfl⟩
  have hcourse : each (Tree.course Engine.calm.server.isLenient Engine.calm.server.rows)
      triedTrees {} =
        (.ok (), { pending := ["a", "c"], sent := ["PUT a", "PUT c", "UNIQUE old"] }) := by
    decide +kernel
  exact ⟨hopen, hs, rfl, atomically_trees hopen hs rfl, hcourse⟩

end TransactionGateway
