import TransactionGateway.Proofs.Names
import TransactionGateway.Proofs.Sessions
import TransactionGateway.Proofs.Store
import TransactionGateway.Proofs.Upkeep

/-! # A gateway refines its store

Without faults, and as long as every session that is opened gets a connection, nothing that callers
see tells a gateway from the store of its committed rows and of the phases of its sessions.

* **Relation.** An idle session holds a clean connection, an active one a connection whose
  transaction has the pending rows of its phase, a closed one none (`Session.Shows`). The engine
  has the committed rows, no faults, and only clean connections to hand out (`Engine.Shows`).
* **Calls.** Every call does to a session and its engine what it does to the phase and the rows
  that they show (`simulates_call`).
* **Moves.** A move changes what the gateway shows as the store says (`World.shows_step`): the
  other sessions keep their connections, so that they keep their phases, and the upkeep of the pool
  between the moves cannot be seen. -/

namespace TransactionGateway

open Database Act

/-! ### The relation -/

/-- The session is in the phase. -/
def Session.Shows (s : Session) : Phase → Prop
  | .idle => s.inTransaction = false ∧
      ∃ c, s.connection = some c ∧ c.record = .idle ∧ c.work = none
  | .active pending => s.inTransaction = true ∧
      ∃ c, s.connection = some c ∧ c.record = .active 0 false ∧ c.work = some { pending }
  | .closed => s.inTransaction = false ∧ s.connection = none

/-- The engine is without faults, has the committed rows, and hands out clean connections. -/
structure Engine.Shows (isLenient : Bool) (rows : List String) (e : Engine) : Prop where
  rows : e.server.rows = rows
  isLenient : e.server.isLenient = isLenient
  faults : e.server.faults = []
  tidy : e.Tidy

/-- The session and its engine show the phase and the rows. -/
def Attached.Shows (isLenient : Bool) (a : Attached) (s : Seat) : Prop :=
  a.session.Shows s.phase ∧ a.engine.Shows isLenient s.rows

variable {isLenient : Bool} {rows : List String}

theorem Engine.Shows.upkeep {e e' : Engine} (h : e.Shows isLenient rows) (hu : e.Upkeep e') :
    e'.Shows isLenient rows where
  rows := hu.rows.trans h.rows
  isLenient := hu.isLenient.trans h.isLenient
  faults := hu.faults h.faults
  tidy := hu.tidy h.tidy

namespace Attached

variable {a : Attached} {s : Seat} {b : Ledger}

/-- An open session is on a link that shows what the session sees. -/
theorem Shows.at_of_ledger (h : a.Shows isLenient s) (hb : s.phase.ledger? s.rows = some b) :
    a.At b.isOpen (Link.Shows isLenient · b) := by
  obtain ⟨hs, he⟩ := h
  obtain ⟨phase, rows⟩ := s
  cases phase with
  | idle =>
      cases hb
      obtain ⟨hflag, c, hc, hrecord, hwork⟩ := hs
      exact ⟨hflag, c, hc, he.rows, hwork, hrecord, he.isLenient, he.faults⟩
  | active pending =>
      cases hb
      obtain ⟨hflag, c, hc, hrecord, hwork⟩ := hs
      exact ⟨hflag, c, hc, he.rows, hwork, hrecord, he.isLenient, he.faults⟩
  | closed => cases hb

theorem shows_of_at (h : a.At b.isOpen (Link.Shows isLenient · b)) (htidy : a.engine.Tidy) :
    a.Shows isLenient ⟨.ofLedger b, b.rows⟩ := by
  obtain ⟨hflag, c, hc, hl⟩ := h
  refine ⟨?_, hl.rows, hl.isLenient, hl.faults, htidy⟩
  obtain ⟨rows, pending⟩ := b
  cases pending with
  | none => exact ⟨hflag, c, hc, hl.record, hl.work⟩
  | some pending => exact ⟨hflag, c, hc, hl.record, hl.work⟩

end Attached

/-! ### Calls -/

section calls
variable {a : Attached} {pending : List String}

theorem Engine.Shows.tidy_of_pool {e e' : Engine} (h : e.Shows isLenient rows)
    (hpool : e'.pool = e.pool) : e'.Tidy := by
  unfold Tidy
  rw [hpool]
  exact h.tidy

theorem simulates_begin :
    Simulates (Attached.Shows isLenient) Session.begin (Call.onSeat isLenient .begin) := by
  rintro a ⟨phase, rows⟩ h
  cases phase with
  | idle =>
      have hat : a.At false (Link.Shows isLenient · ⟨rows, none⟩) := h.at_of_ledger rfl
      obtain ⟨u, a', hbegin, ha'⟩ := ok_of_leads (Session.leads_begin Link.Shows.leads_begin) hat
        fun a h => Attached.not_on_false a h.on
      have hpool := Session.pool_begin a
      rw [hbegin] at hpool ⊢
      exact ⟨rfl, @Attached.shows_of_at _ _ ⟨rows, some []⟩ ha' (h.2.tidy_of_pool hpool)⟩
  | active pending =>
      rw [Session.begin_of_active h.1.1]
      exact ⟨rfl, h⟩
  | closed =>
      rw [Session.begin_of_closed h.1.1 h.1.2]
      exact ⟨rfl, h⟩

theorem simulates_commit :
    Simulates (Attached.Shows isLenient) Session.commit (Call.onSeat isLenient .commit) := by
  rintro a ⟨phase, rows⟩ h
  cases phase with
  | active pending =>
      have hat : a.At true (Link.Shows isLenient · ⟨rows, some pending⟩) := h.at_of_ledger rfl
      obtain ⟨u, a', hcommit, ha'⟩ :=
        ok_of_leads (Session.leads_commit Link.Shows.leads_commit) hat Attached.not_on_false
      have hpool := Session.pool_commit a
      rw [hcommit] at hpool ⊢
      exact ⟨rfl,
        @Attached.shows_of_at _ _ ⟨rows ++ pending, none⟩ ha' (h.2.tidy_of_pool hpool)⟩
  | idle =>
      rw [Session.commit_of_inactive h.1.1]
      exact ⟨rfl, h⟩
  | closed =>
      rw [Session.commit_of_inactive h.1.1]
      exact ⟨rfl, h⟩

/-- The rollback of an active session. -/
theorem rollback_of_shows (h : a.Shows isLenient ⟨.active pending, rows⟩) :
    ∃ a', Session.rollback a = (.ok (), a') ∧
      a'.At false (Link.Shows isLenient · ⟨rows, none⟩) ∧ a'.engine.Tidy := by
  have hat : a.At true (Link.Shows isLenient · ⟨rows, some pending⟩) := h.at_of_ledger rfl
  obtain ⟨u, a', hrollback, ha'⟩ := ok_of_leads
    (Session.leads_rollback_of_active (fun l hl => by rw [hl.record]; rfl)
      Link.Shows.leads_rollback) hat Attached.not_on_false
  have hpool := Session.pool_rollback a
  rw [hrollback] at hpool
  exact ⟨a', hrollback, ha', h.2.tidy_of_pool hpool⟩

theorem simulates_rollback :
    Simulates (Attached.Shows isLenient) Session.rollback (Call.onSeat isLenient .rollback) := by
  rintro a ⟨phase, rows⟩ h
  cases phase with
  | active pending =>
      obtain ⟨a', hrollback, ha', htidy⟩ := rollback_of_shows h
      rw [hrollback]
      exact ⟨rfl, @Attached.shows_of_at _ _ ⟨rows, none⟩ ha' htidy⟩
  | idle =>
      rw [Session.rollback_of_inactive h.1.1]
      exact ⟨rfl, h⟩
  | closed =>
      rw [Session.rollback_of_inactive h.1.1]
      exact ⟨rfl, h⟩

theorem simulates_execute {text : String} (ht : IsControlFree text) :
    Simulates (Attached.Shows isLenient) (Session.execute text)
      (Call.onSeat isLenient (.execute text ht)) := by
  intro a s h
  cases hb : s.phase.ledger? s.rows with
  | none =>
      have hclosed : s.phase = .closed := by
        cases hphase : s.phase with
        | closed => rfl
        | idle => rw [hphase] at hb; cases hb
        | active pending => rw [hphase] at hb; cases hb
      have hs : a.session.Shows .closed := hclosed ▸ h.1
      have hseat : Call.onSeat isLenient (.execute text ht) s = (.err .sessionClosed, s) := by
        simp only [Call.onSeat, hb]
      rw [hseat, Session.execute, Session.onConnection_of_closed _ hs.2]
      exact ⟨rfl, h⟩
  | some b =>
      have hopen := Ledger.isOpen_each isLenient (statementTexts text) b
      have hpool := Session.pool_onConnection (plainBatch text) a
      have hbatch : Simulates (Link.Shows isLenient) (plainBatch text)
          (each (Ledger.send isLenient) (statementTexts text)) :=
        simulates_plainBatch (fun event _ _ hl => hl.remembering event) fun text' ht' =>
          simulates_perform (ht text' ht')
      obtain ⟨hr, ha'⟩ := Session.simulates_onConnection hbatch a b (h.at_of_ledger hb)
      have hseat : Call.onSeat isLenient (.execute text ht) s =
          ((each (Ledger.send isLenient) (statementTexts text) b).1.mapError .database,
            ⟨.ofLedger (each (Ledger.send isLenient) (statementTexts text) b).2,
              (each (Ledger.send isLenient) (statementTexts text) b).2.rows⟩) := by
        simp only [Call.onSeat, hb]
      rw [← hopen] at ha'
      rw [hseat]
      exact ⟨hr, Attached.shows_of_at ha' (h.2.tidy_of_pool hpool)⟩

/-- A clean connection given back can be handed out again. -/
theorem shows_giveBack {flag : Bool} (ha : a.At flag (Link.Shows isLenient · ⟨rows, none⟩))
    (htidy : a.engine.Tidy) :
    (Session.giveBack false a).Shows isLenient ⟨.closed, rows⟩ := by
  obtain ⟨-, c, hc, hl⟩ := ha
  have he : a.engine.Shows isLenient rows := ⟨hl.rows, hl.isLenient, hl.faults, htidy⟩
  unfold Session.giveBack
  rw [hc]
  exact ⟨⟨rfl, rfl⟩, he.upkeep (Engine.upkeep_putBack false fun _ => hl.work)⟩

/-- Closing succeeds in every phase. -/
theorem close_of_shows {s : Seat} (h : a.Shows isLenient s) :
    ∃ a', Session.close false a = (.ok (), a') ∧ a'.Shows isLenient ⟨.closed, s.rows⟩ := by
  obtain ⟨phase, rows⟩ := s
  unfold Session.close
  cases phase with
  | closed =>
      have hclosed : a.session.isClosed = true := by
        rw [Session.isClosed, show a.session.connection = none from h.1.2]
        rfl
      rw [hclosed]
      exact ⟨a, rfl, h⟩
  | idle =>
      have hat : a.At false (Link.Shows isLenient · ⟨rows, none⟩) := h.at_of_ledger rfl
      have hgiven := shows_giveBack hat h.2.tidy
      rw [hat.on.isClosed, hat.flag]
      exact ⟨_, rfl, hgiven.1, hgiven.2.upkeep (Engine.upkeep_note _)⟩
  | active pending =>
      have hat : a.At true (Link.Shows isLenient · ⟨rows, some pending⟩) := h.at_of_ledger rfl
      obtain ⟨a', hrollback, ha', htidy⟩ := rollback_of_shows h
      have hgiven := shows_giveBack ha' htidy
      rw [hat.on.isClosed, hat.flag]
      simp only [Bool.false_eq_true, if_false, if_true, hrollback]
      exact ⟨_, rfl, hgiven.1, hgiven.2.upkeep (Engine.upkeep_note _)⟩

theorem simulates_close :
    Simulates (Attached.Shows isLenient) (Session.close false) (Call.onSeat isLenient .close) := by
  intro a s h
  obtain ⟨a', hclose, ha'⟩ := close_of_shows h
  rw [hclose]
  exact ⟨rfl, ha'⟩

/-- Every call does to a session what it does to the seat that the session shows. -/
theorem simulates_call (c : Call) :
    Simulates (Attached.Shows isLenient) c.operation.run
      ((c.onSeat isLenient).mapError .gateway) := by
  cases c with
  | begin => exact simulates_mapError _ simulates_begin
  | commit => exact simulates_mapError _ simulates_commit
  | rollback => exact simulates_mapError _ simulates_rollback
  | close => exact simulates_mapError _ simulates_close
  | execute text ht => exact simulates_mapError _ (simulates_execute ht)

theorem engine_letGo {s : Seat} (failed : String → SessionEvent) (h : a.Shows isLenient s) :
    (Session.letGo false failed a).engine.Shows isLenient s.rows := by
  obtain ⟨a', hclose, ha'⟩ := close_of_shows h
  unfold Session.letGo
  rw [hclose]
  exact ha'.2

end calls

/-! ### Moves -/

namespace World

variable {w : World} {name name' : String} {k : Kept}

/-- The engine shows the rows of the store, and each session the phase of its name. -/
def Shows (isLenient : Bool) (w : World) (st : Store) : Prop :=
  w.engine.Shows isLenient st.rows ∧
    ∀ name, Option.Rel (fun k phase => k.session.Shows phase) (w.kept? name) (st.phase? name)

variable {st : Store}

/-- The session of one name put into a phase, on an engine with other rows. -/
theorem shows_keep {phase : Phase} {rows : List String} {e : Engine} (h : w.Shows isLenient st)
    (hk : k.session.Shows phase) (he : e.Shows isLenient rows) :
    ((w.keep name k).withEngine e).Shows isLenient
      { rows, phase? := Function.update st.phase? name (some phase) } := by
  refine ⟨he, fun name' => ?_⟩
  show Option.Rel _ ((w.keep name k).kept? name')
    (Function.update st.phase? name (some phase) name')
  by_cases hn : name' = name
  · subst hn
    rw [kept?_keep_self, Function.update_self]
    exact .some hk
  · rw [kept?_keep_of_ne hn, Function.update_of_ne hn]
    exact h.2 name'

theorem shows_forget {rows : List String} {e : Engine} (h : w.Shows isLenient st)
    (he : e.Shows isLenient rows) :
    ((w.forget name).withEngine e).Shows isLenient
      { rows, phase? := Function.update st.phase? name none } := by
  refine ⟨he, fun name' => ?_⟩
  show Option.Rel _ ((w.forget name).kept? name') (Function.update st.phase? name none name')
  by_cases hn : name' = name
  · subst hn
    rw [kept?_forget_self, Function.update_self]
    exact .none
  · rw [kept?_forget_of_ne hn, Function.update_of_ne hn]
    exact h.2 name'

/-- A name stands for a session on both sides or on neither. -/
theorem kept?_of_shows (h : w.Shows isLenient st) (name : String) :
    (w.kept? name = none ∧ st.phase? name = none) ∨
      ∃ k phase, w.kept? name = some k ∧ st.phase? name = some phase ∧
        Attached.Shows isLenient ⟨k.session, w.engine⟩ ⟨phase, st.rows⟩ := by
  have hrel := h.2 name
  cases hk : w.kept? name with
  | none =>
      rw [hk] at hrel
      cases hp : st.phase? name with
      | none => exact .inl ⟨rfl, rfl⟩
      | some phase => rw [hp] at hrel; cases hrel
  | some k =>
      rw [hk] at hrel
      cases hp : st.phase? name with
      | none => rw [hp] at hrel; cases hrel
      | some phase =>
          rw [hp] at hrel
          cases hrel with
          | some hs => exact .inr ⟨k, phase, rfl, rfl, hs, h.1⟩

theorem ofOutcome_mapError (value : Unit → Answer) (r : Outcome GatewayError Unit) :
    Answer.ofOutcome id value (r.mapError .gateway) = Answer.ofOutcome .gateway value r := by
  cases r <;> rfl

theorem shows_call (h : w.Shows isLenient st) (name : String) (c : Call) :
    (w.onKept id name c.operation.run).1 = (st.step isLenient (.call name c)).1 ∧
      (w.onKept id name c.operation.run).2.Shows isLenient
        (st.step isLenient (.call name c)).2 := by
  rcases kept?_of_shows h name with ⟨hk, hp⟩ | ⟨k, phase, hk, hp, hs⟩
  · simp only [onKept, Store.step, hk, hp]
    exact ⟨trivial, h⟩
  · obtain ⟨hr, ha⟩ := simulates_call c _ _ hs
    simp only [onKept, Store.step, hk, hp]
    refine ⟨?_, shows_keep h ha.1 ha.2⟩
    rw [hr, mapError_apply, ofOutcome_mapError]

/-- A session let go of is gone, with its pending rows. -/
theorem shows_letGo (h : w.Shows isLenient st) (name : String) :
    (w.letGo name).Shows isLenient
      { st with phase? := Function.update st.phase? name none } := by
  unfold letGo
  rcases kept?_of_shows h name with ⟨hk, hp⟩ | ⟨k, phase, hk, -, hs⟩
  · have hsame : Function.update st.phase? name none = st.phase? := by
      rw [← hp, Function.update_eq_self]
    rw [hk, hsame]
    exact h
  · rw [hk]
    exact shows_forget h (engine_letGo _ hs)

theorem shows_drop (h : w.Shows isLenient st) (name : String) :
    (w.take (.drop name)).1 = (st.remove name).1 ∧
      (w.take (.drop name)).2.Shows isLenient (st.remove name).2 := by
  have hletGo := shows_letGo h name
  rcases kept?_of_shows h name with ⟨hk, hp⟩ | ⟨k, phase, hk, hp, -⟩
  · simp only [take, Store.remove, hk, hp]
    exact ⟨trivial, h⟩
  · simp only [take, Store.remove, hk, hp]
    exact ⟨trivial, hletGo⟩

theorem shows_finish (h : w.Shows isLenient st) (name : String) :
    (w.finish name).1 = (st.remove name).1 ∧
      (w.finish name).2.Shows isLenient (st.remove name).2 := by
  have hletGo := shows_letGo h name
  rcases kept?_of_shows h name with ⟨hk, hp⟩ | ⟨k, phase, hk, hp, hs⟩
  · simp only [finish, Store.remove, hk, hp]
    exact ⟨trivial, h⟩
  · obtain ⟨a', hclose, ha'⟩ := close_of_shows hs
    simp only [finish, Store.remove, hk, hp]
    cases k.isGuarded with
    | false => exact ⟨rfl, hletGo⟩
    | true =>
        simp only [if_true, hclose]
        exact ⟨rfl, shows_forget h ha'.2⟩

/-- A session opened under a name replaces the one that had it. -/
theorem shows_openAs (h : w.Shows isLenient st) {handle name : String} {source : Source}
    (hdone : (w.openAs handle name source).1 = .done) :
    (w.openAs handle name source).2.Shows isLenient
      { st with phase? := Function.update st.phase? name (some .idle) } := by
  unfold openAs at hdone ⊢
  split at hdone
  · next hhandle =>
      rw [if_pos hhandle]
      obtain ⟨millis, hm⟩ := open_of_source source w.engine
      have hu := Engine.upkeep_open millis w.engine
      rw [hm] at hdone ⊢
      cases ho : (Engine.checkoutWithin millis >>= Session.openOn :
          Act Engine GatewayError Session) w.engine with
      | mk r e =>
          rw [ho] at hu hdone
          cases r with
          | err cause => cases hdone
          | panic => cases hdone
          | ok s =>
              obtain ⟨hflag, c, hc, hrecord, hwork⟩ := Engine.outside_of_open h.1.tidy ho
              have hw : (w.withEngine e).Shows isLenient st := ⟨h.1.upkeep hu, h.2⟩
              -- An older session of the name is let go first; in the store one update is both.
              have hfree := shows_letGo hw name
              have hkeep := @shows_keep isLenient _ name ⟨s, source == .guard⟩ _ .idle _ _ hfree
                ⟨hflag, c, hc, hrecord, hwork⟩ hfree.1
              rw [Function.update_idem] at hkeep
              exact hkeep
  · cases hdone

theorem shows_settle (h : w.Shows isLenient st) : w.settle.Shows isLenient st := by
  refine ⟨?_, h.2⟩
  unfold settle
  split
  · exact h.1.upkeep Engine.upkeep_replenish
  · exact h.1.upkeep Engine.upkeep_tearDown

/-- One move: the same answer, and the gateway shows what the store has become. -/
theorem shows_step (h : w.Shows isLenient st) (m : Move)
    (hopen : m.isOpening = true → (w.step m.step).1 = .done) :
    (w.step m.step).1 = (st.step isLenient m).1 ∧
      (w.step m.step).2.Shows isLenient (st.step isLenient m).2 := by
  have htake : (w.take m.step).1 = (st.step isLenient m).1 ∧
      (w.take m.step).2.Shows isLenient (st.step isLenient m).2 := by
    cases m with
    | openSession handle name source => exact ⟨hopen rfl, shows_openAs h (hopen rfl)⟩
    | call name c => exact shows_call h name c
    | finish name => exact shows_finish h name
    | drop name => exact shows_drop h name
  exact ⟨htake.1, shows_settle htake.2⟩

theorem observe_of_shows {moves : List Move} (h : w.Shows isLenient st) (hopen : Obtains moves w) :
    w.observe (moves.map Move.step) = st.observe isLenient moves := by
  induction moves generalizing w st with
  | nil => rfl
  | cons m moves ih =>
      obtain ⟨hanswer, hshows⟩ := shows_step h m hopen.1
      show ((w.step m.step).1, (w.step m.step).2.engine.server.rows) ::
          observe (moves.map Move.step) (w.step m.step).2 =
        ((st.step isLenient m).1, (st.step isLenient m).2.rows) ::
          Store.observe isLenient moves (st.step isLenient m).2
      rw [hanswer, hshows.1.rows, ih hshows hopen.2]

end World

/-- Whatever the callers of a gateway do with any number of sessions, in any order: without faults,
and when every session that is opened gets its connection, each answer and the committed rows after
each move are those of the store. -/
theorem gateway_refines_store {check : Except SettingsError Unit} {settings : Settings}
    {handle : String} {server : Server} {w : World} {moves : List Move}
    (hconnect : World.connectChecked check settings handle server = (.ok (), w))
    (hfaults : server.faults = []) (hopen : World.Obtains moves w) :
    w.observe (moves.map Move.step) =
      Store.observe server.isLenient moves { rows := server.rows } := by
  obtain ⟨-, hkept, hu⟩ := World.connected hconnect
  have hnew : Engine.Shows server.isLenient server.rows
      { server, pool := { limits := settings.pool, url := Url.redacted settings.databaseUrl } } :=
    ⟨rfl, rfl, hfaults, fun _ hc => nomatch hc⟩
  refine World.observe_of_shows ⟨hnew.upkeep hu, fun name => ?_⟩ hopen
  rw [World.kept?, hkept]
  exact .none

/-- A gateway on a server with one row. -/
def World.fresh : World :=
  (World.connectChecked (.ok ()) { databaseUrl := "db", pool := { minIdle := 1 } } "g"
    { rows := ["old"] }).2

/-- Two sessions in turn: one commits, the other is refused a row and dropped inside a transaction;
then the first is closed, called once more, and finished. -/
def interleaved : List Move :=
  [.openSession "g" "a" .plain, .openSession "g" "b" .guard, .call "a" .begin,
    .call "a" (.execute "PUT x" (by decide)), .call "a" .begin,
    .call "b" (.execute "PUT y; UNIQUE old; PUT z" (by decide)), .call "a" .commit,
    .call "b" .begin, .call "b" (.execute "PUT w" (by decide)), .drop "b", .call "a" .close,
    .call "a" .begin, .finish "a", .call "a" .commit]

theorem interleaved_refines_store :
    World.connectChecked (.ok ()) { databaseUrl := "db", pool := { minIdle := 1 } } "g"
      { rows := ["old"] } = (.ok (), World.fresh) ∧
    World.Obtains interleaved World.fresh ∧
    World.fresh.observe (interleaved.map Move.step) =
      Store.observe false interleaved { rows := ["old"] } ∧
    (Store.observe false interleaved { rows := ["old"] }).getLast? =
      some (.noSuchSession, ["old", "y", "x"]) := by
  have hconnect : World.connectChecked (.ok ())
      { databaseUrl := "db", pool := { minIdle := 1 } } "g" { rows := ["old"] } =
        (.ok (), World.fresh) := by
    decide +kernel
  have hopen : World.Obtains interleaved World.fresh := by decide +kernel
  exact ⟨hconnect, hopen, gateway_refines_store hconnect rfl hopen, by decide +kernel⟩

end TransactionGateway
