import TransactionGateway.Proofs.Calm
import TransactionGateway.Proofs.Lives
import TransactionGateway.Proofs.Reports

/-! # The end of a pool

Handles are cloned, shut down and dropped, sessions outlive the handles that they were opened with,
and the pool lives until the last of them all is gone.

* **Turns** (`Turn`). The steps of a run, and the dropping of a handle without a word.
* **Held pools** (`World.IsHeld`). A handle or an open session holds the pool. As long as it is
  held, no connection is destroyed while it is idle (`Traffic.spares_serves`).
* **Rest** (`World.IsAtRest`). A pool that nobody holds any more has destroyed all its connections,
  and nothing that is asked of the closed sessions changes it.
* **Lost handles** (`World.Trails`). Two gateways of which one has lost handles go on alike, turn by
  turn, for as long as nobody needs those handles. -/

namespace TransactionGateway

open Database

/-- A turn of a run: a step, or a handle that is dropped. -/
inductive Turn where
  | step (s : Step)
  | dropHandle (handle : String)

/-- The handle that a turn goes through. -/
def Turn.handle? : Turn → Option String
  | step (.openSession handle _ _) | step (.atomically handle _) | step (.statements handle _)
  | step (.scope handle _) | step (.guardedScope handle _) | step (.applyScript handle _)
  | step (.check handle) | step (.testConnection handle) | step (.describe handle)
  | step (.clone handle _) | step (.shutDown handle) | dropHandle handle => some handle
  | _ => none

namespace World

/-- The effect of a turn, before the pool is put in order. -/
def play : Turn → World → Answer × World
  | .step s, w => w.take s
  | .dropHandle handle, w =>
    if w.handles.contains handle then
      (.done, { w with handles := w.handles.filter (· ≠ handle) })
    else (.noSuchGateway, w)

/-- The effect of a turn. -/
def turn (t : Turn) (w : World) : Answer × World :=
  let (answer, w) := w.play t
  (answer, w.settle)

/-- The effects of turns, one after another. -/
def turns : List Turn → World → List Answer × World
  | [], w => ([], w)
  | t :: rest, w =>
    let (answer, w) := w.turn t
    let (answers, w) := turns rest w
    (answer :: answers, w)

/-- What can be seen of turns: each answer, and the committed rows after it. -/
def seen : List Turn → World → List (Answer × List String)
  | [], _ => []
  | t :: rest, w =>
    let (answer, w) := w.turn t
    (answer, w.engine.server.rows) :: seen rest w

/-- A handle or an open session holds the pool. -/
def IsHeld (w : World) : Prop := w.handles ≠ [] ∨ ∃ s ∈ w.sessions, s.isClosed = false

variable {w v : World} {t : Turn}

theorem isAlive_iff : w.isAlive = true ↔ w.IsHeld := by
  have hsessions : (w.kept.any fun p => !p.2.session.isClosed) = true ↔
      ∃ s ∈ w.sessions, s.isClosed = false := by
    simp [sessions]
  show (!w.handles.isEmpty || w.kept.any fun p => !p.2.session.isClosed) = true ↔ _
  rw [Bool.or_eq_true, hsessions, IsHeld]
  simp

theorem settle_of_isHeld (h : w.IsHeld) : w.settle = w.withEngine w.engine.replenish := by
  rw [settle, if_pos (isAlive_iff.mpr h)]

theorem settle_of_not_isHeld (h : ¬ w.IsHeld) : w.settle = w.withEngine w.engine.tearDown := by
  rw [settle, if_neg (mt isAlive_iff.mp h)]

theorem isHeld_settle : w.settle.IsHeld ↔ w.IsHeld := Iff.rfl

theorem rows_settle (w : World) : w.settle.engine.server.rows = w.engine.server.rows := by
  unfold settle
  split
  · exact Engine.upkeep_replenish.rows
  · exact Engine.upkeep_tearDown.rows

theorem play_of_missing {handle : String} (ht : t.handle? = some handle)
    (hmissing : handle ∉ w.handles) : w.play t = (.noSuchGateway, w) := by
  have hcontains : ¬ w.handles.contains handle = true := by rwa [List.contains_iff_mem]
  cases t with
  | dropHandle _ => cases ht; exact if_neg hcontains
  | step s => cases s <;> cases ht <;> exact if_neg hcontains

end World

/-! ### Closed sessions -/

namespace Traffic

/-- No closed session shows a transaction. -/
def Quiet (t : Traffic) : Prop := ∀ s ∈ t.sessions, s.connection = none → s.inTransaction = false

variable {t t' : Traffic}

theorem quiet_use (hu : Use t t') (h : t.Quiet) : t'.Quiet := by
  cases hu with
  | @opened millis e s e' ss ho =>
      intro s' hs'
      rcases Multiset.mem_cons.mp hs' with rfl | hs'
      · rw [Act.bind_apply] at ho
        split at ho
        · cases ho
          nofun
        · cases ho
        · cases ho
      · exact h s' hs'
  | notOpened ss ho hr => exact h
  | worked op a ss =>
      intro s hs
      rcases Multiset.mem_cons.mp hs with rfl | hs
      · exact (Session.lasting_isQuiet True).use (.ran a fun _ _ => trivial)
          (h a.session (Multiset.mem_cons_self _ _))
      · exact h s (Multiset.mem_cons_of_mem hs)
  | droppedAt unwinding failed a ss => exact fun s hs => h s (Multiset.mem_cons_of_mem hs)
  | probed e ss => exact h
  | noted n e ss => exact h
  | replenished e ss => exact h

theorem quiet_serves (hs : t.Serves t') (h : t.Quiet) : t'.Quiet := by
  induction hs with
  | refl => exact h
  | tail _ hu ih => exact quiet_use hu ih

end Traffic

namespace World

variable {w v : World} {t : Turn} {name : String} {k : Kept} {kept : List (String × Kept)}

/-- Every session is closed, and shows no transaction. -/
def IsAtRest (kept : List (String × Kept)) : Prop :=
  ∀ p ∈ kept, p.2.session.connection = none ∧ p.2.session.inTransaction = false

theorem isAtRest_of_not_isHeld (hquiet : w.traffic.Quiet) (h : ¬ w.IsHeld) : IsAtRest w.kept := by
  intro p hp
  have hs : p.2.session ∈ w.sessions := Multiset.mem_coe.mpr (List.mem_map.mpr ⟨p, hp, rfl⟩)
  have hclosed : p.2.session.isClosed = true := by
    by_contra hopen
    exact h (.inr ⟨_, hs, Bool.eq_false_of_not_eq_true hopen⟩)
  have hnone := Option.isNone_iff_eq_none.mp hclosed
  exact ⟨hnone, hquiet _ hs hnone⟩

theorem not_isHeld_of_isAtRest (h : IsAtRest w.kept) (hhandles : w.handles = []) : ¬ w.IsHeld := by
  rintro (hne | ⟨s, hs, hopen⟩)
  · exact hne hhandles
  · obtain ⟨p, hp, rfl⟩ := List.mem_map.mp (Multiset.mem_coe.mp hs)
    rw [Session.isClosed, (h p hp).1] at hopen
    cases hopen

theorem IsAtRest.of_lookup (h : IsAtRest kept) (hk : kept.lookup name = some k) :
    k.session.connection = none ∧ k.session.inTransaction = false := by
  obtain ⟨before, after, rfl, -⟩ := List.lookup_eq_some_iff.mp hk
  exact h (name, k) (List.mem_append_right _ List.mem_cons_self)

/-- The kept sessions without the one of a name. -/
def without (name : String) (kept : List (String × Kept)) : List (String × Kept) :=
  kept.filter fun (n, _) => n ≠ name

theorem IsAtRest.without (h : IsAtRest kept) (name : String) : IsAtRest (without name kept) :=
  fun q hq => h q (List.mem_of_mem_filter hq)

/-- A closed session that is let go of is gone, and that is all. -/
theorem letGo_of_isAtRest (h : IsAtRest v.kept) (name : String) : v.letGo name = v.forget name := by
  unfold letGo
  cases hk : v.kept? name with
  | none => exact (forget_of_none hk).symm
  | some k =>
      show (v.forget name).withEngine (release k v.engine) = v.forget name
      rw [release, Session.letGo_of_closed (h.of_lookup hk).1]
      rfl

/-- Operations on a closed session are answered, and the session is the same afterwards. -/
theorem onKept_of_isAtRest (h : IsAtRest kept) (op : Operation) (name : String) :
    ∃ answer kept', IsAtRest kept' ∧ ∀ v : World, v.kept = kept →
      v.onKept id name op.run = (answer, { v with kept := kept' }) := by
  cases hk : kept.lookup name with
  | none =>
      refine ⟨.noSuchSession, kept, h, fun v hv => ?_⟩
      subst hv
      rw [onKept, kept?, hk]
  | some k =>
      obtain ⟨hclosed, hflag⟩ := h.of_lookup hk
      refine ⟨.ofOutcome id (fun _ => .done) op.onClosed,
        without name kept ++ [(name, k)], fun p hp => ?_, fun v hv => ?_⟩
      · rcases List.mem_append.mp hp with hp | hp
        · exact h.without name p hp
        · obtain rfl := List.mem_singleton.mp hp
          exact ⟨hclosed, hflag⟩
      · subst hv
        simp only [onKept, kept?, hk]
        rw [Operation.run_of_closed hclosed hflag]
        rfl

/-- When all sessions are closed, a turn that goes through no handle touches nothing but the list of
those kept, and depends on nothing else. -/
theorem play_of_isAtRest (h : IsAtRest kept) (ht : t.handle? = none) :
    ∃ answer kept', IsAtRest kept' ∧ ∀ v : World, v.kept = kept →
      v.play t = (answer, { v with kept := kept' }) := by
  cases t with
  | dropHandle handle => cases ht
  | step s =>
      cases s with
      | call name op => exact onKept_of_isAtRest h op name
      | process name ops => exact onKept_of_isAtRest h (.nested ops) name
      | finish name =>
          cases hk : kept.lookup name with
          | none =>
              refine ⟨.noSuchSession, kept, h, fun v hv => ?_⟩
              subst hv
              simp only [play, take, finish, kept?, hk]
          | some k =>
              refine ⟨.done, without name kept, h.without name, fun v hv => ?_⟩
              subst hv
              have hclose : Session.close false ⟨k.session, v.engine⟩ =
                  (.ok (), ⟨k.session, v.engine⟩) :=
                Session.close_of_closed (a := ⟨k.session, v.engine⟩) (h.of_lookup hk).1 false
              simp only [play, take, finish, kept?, hk, letGo_of_isAtRest h, hclose]
              split <;> rfl
      | drop name =>
          cases hk : kept.lookup name with
          | none =>
              refine ⟨.noSuchSession, kept, h, fun v hv => ?_⟩
              subst hv
              simp only [play, take, kept?, hk]
          | some k =>
              refine ⟨.done, without name kept, h.without name, fun v hv => ?_⟩
              subst hv
              simp only [play, take, kept?, hk, letGo_of_isAtRest h]
              rfl
      | identify name =>
          cases hk : kept.lookup name with
          | none =>
              refine ⟨.noSuchSession, kept, h, fun v hv => ?_⟩
              subst hv
              simp only [play, take, kept?, hk]
          | some k =>
              refine ⟨.session k.session.id, kept, h, fun v hv => ?_⟩
              subst hv
              simp only [play, take, kept?, hk]
      | _ => cases ht

/-! ### Runs -/

/-- What is known of a gateway between two turns, when nothing is planned to fail. -/
structure IsOrderly (w : World) : Prop where
  isNamed : w.IsNamed
  accounted : w.traffic.Accounted
  quiet : w.traffic.Quiet
  calm : w.IsHeld → w.engine.Calm
  filled : w.IsHeld → w.engine.pool.isFilled = true
  torn : ¬ w.IsHeld → w.engine.pool.idle = []

theorem serves_play (hw : w.IsNamed) (t : Turn) :
    w.traffic.Serves (w.play t).2.traffic ∧ (w.play t).2.IsNamed := by
  cases t with
  | step s =>
      have hfollows := follows_take hw s
      exact ⟨hfollows.course, hfollows.isNamed⟩
  | dropHandle handle =>
      rw [play]
      split <;> exact ⟨refl_of Traffic.Serves _, hw⟩

theorem tearDown_of_idle {e : Engine} (h : e.pool.idle = []) : e.tearDown = e := by
  rw [Engine.tearDown, h]
  show e.withIdle [] = e
  rw [Engine.withIdle, ← h]

/-- Nothing happens any more to a pool that nobody holds. -/
theorem turn_of_not_isHeld (h : w.IsOrderly) (hheld : ¬ w.IsHeld) (t : Turn) :
    (w.turn t).2.engine = w.engine ∧ (w.turn t).2.IsOrderly ∧ ¬ (w.turn t).2.IsHeld := by
  have hhandles : w.handles = [] := by
    by_contra hne
    exact hheld (.inl hne)
  have hplay : (w.play t).2.engine = w.engine ∧ ¬ (w.play t).2.IsHeld := by
    cases ht : t.handle? with
    | some handle =>
        rw [play_of_missing ht (by rw [hhandles]; exact List.not_mem_nil)]
        exact ⟨rfl, hheld⟩
    | none =>
        obtain ⟨answer, kept', hrest, hplay⟩ :=
          play_of_isAtRest (isAtRest_of_not_isHeld h.quiet hheld) ht
        rw [hplay w rfl]
        exact ⟨rfl, not_isHeld_of_isAtRest hrest hhandles⟩
  obtain ⟨hengine, hnot⟩ := hplay
  obtain ⟨hserves, hnamed⟩ := serves_play h.isNamed t
  have hsettled : (w.turn t).2 = (w.play t).2 := by
    show (w.play t).2.settle = _
    rw [settle_of_not_isHeld hnot, tearDown_of_idle (hengine ▸ h.torn hheld)]
    rfl
  rw [hsettled]
  exact ⟨hengine, ⟨hnamed, Traffic.accounted_reaches hserves.reaches h.accounted,
    Traffic.quiet_serves hserves h.quiet, fun hh => absurd hh hnot, fun hh => absurd hh hnot,
    fun _ => hengine ▸ h.torn hheld⟩, hnot⟩

/-- A turn on a pool that is held spares the idle connections, up to the moment when the pool is put
in order, and beyond it if the pool is still held. -/
theorem turn_of_isHeld (h : w.IsOrderly) (hheld : w.IsHeld) (t : Turn) :
    Relation.ReflTransGen Traffic.Spares w.traffic (w.play t).2.traffic ∧
    ((w.play t).2.IsHeld → Relation.ReflTransGen Traffic.Spares w.traffic (w.turn t).2.traffic) ∧
    (w.turn t).2.IsOrderly := by
  obtain ⟨hserves, hnamed⟩ := serves_play h.isNamed t
  have hquiet := Traffic.quiet_serves hserves h.quiet
  obtain ⟨hcourse, hcalm, haccounted⟩ := Traffic.spares_serves hserves (h.calm hheld) h.accounted
  refine ⟨hcourse, fun hstill => ?_, ?_⟩
  · show Relation.ReflTransGen _ _ ((w.play t).2.settle).traffic
    rw [settle_of_isHeld hstill]
    exact hcourse.tail (Traffic.spares_use (.replenished _ _) hcalm haccounted)
  · show ((w.play t).2.settle).IsOrderly
    by_cases hstill : (w.play t).2.IsHeld
    · rw [settle_of_isHeld hstill]
      exact ⟨hnamed, Engine.accounted_replenish haccounted, hquiet,
        fun _ => (Engine.tended_replenish _ hcalm).1, fun _ => Engine.isFilled_replenish hcalm,
        fun hnot => absurd hstill hnot⟩
    · rw [settle_of_not_isHeld hstill]
      exact ⟨hnamed, Engine.accounted_tearDown haccounted, hquiet, fun hh => absurd hh hstill,
        fun hh => absurd hh hstill, fun _ => Engine.idle_tearDown _⟩

theorem isOrderly_turn (h : w.IsOrderly) (t : Turn) : (w.turn t).2.IsOrderly := by
  by_cases hheld : w.IsHeld
  · exact (turn_of_isHeld h hheld t).2.2
  · exact (turn_of_not_isHeld h hheld t).2.1

theorem isOrderly_turns (h : w.IsOrderly) (ts : List Turn) : (turns ts w).2.IsOrderly := by
  induction ts generalizing w with
  | nil => exact h
  | cons t ts ih => exact ih (isOrderly_turn h t)

theorem isOrderly_connected {check : Except SettingsError Unit} {settings : Settings}
    {handle : String} {server : Server}
    (hserver : (server.destroyed : Multiset Nat) = Multiset.range server.established)
    (hfaults : server.faults = []) (houtages : server.outages = [])
    (h : connectChecked check settings handle server = (.ok (), w)) : w.IsOrderly := by
  obtain ⟨hnamed, haccounted⟩ := accounted_connected hserver h
  obtain ⟨e, hbuild, rfl⟩ : ∃ e, Engine.build settings.databaseUrl settings.pool server =
      (.ok (), e) ∧ w = { engine := e, handles := [handle] } := by
    cases check with
    | error e => cases h
    | ok u =>
        simp only [connectChecked, connectUnchecked] at h
        cases hbuild : Engine.build settings.databaseUrl settings.pool server with
        | mk r e =>
            rw [hbuild] at h
            cases r with
            | ok a => cases h; exact ⟨e, rfl, rfl⟩
            | err failure => cases h
            | panic => cases h
  exact ⟨hnamed, haccounted, fun s hs => absurd hs (Multiset.notMem_zero s),
    fun _ => Engine.calm_build hfaults houtages hbuild,
    fun _ => Engine.isFilled_build hserver hbuild,
    fun hnot => absurd (.inl (List.cons_ne_nil _ _)) hnot⟩

/-! ### With and without a handle -/

/-- The gateways keep the same sessions and rows. While the first is held they also do the same, and
all its handles are handles of the second. -/
structure Trails (w v : World) : Prop where
  kept : v.kept = w.kept
  rows : v.engine.server.rows = w.engine.server.rows
  alike : w.IsHeld → w.Alike v

theorem Alike.isHeld (h : w.Alike v) (hheld : w.IsHeld) : v.IsHeld := by
  rcases hheld with hne | ⟨s, hs, hopen⟩
  · obtain ⟨handle, hmem⟩ := List.exists_mem_of_ne_nil _ hne
    exact .inl (List.ne_nil_of_mem (h.handles hmem))
  · refine .inr ⟨s, ?_, hopen⟩
    rw [sessions, h.kept]
    exact hs

theorem Alike.rows (h : w.Alike v) : v.engine.server.rows = w.engine.server.rows := by
  obtain ⟨notices, hengine⟩ := h.engine
  rw [hengine]
  rfl

/-- The first of the two may be torn down, while the second goes on. -/
theorem trails_settle (h : w.Alike v) : w.settle.Trails v.settle := by
  refine ⟨h.kept, by rw [rows_settle, rows_settle, h.rows], fun hheld => ?_⟩
  have hw : w.IsHeld := isHeld_settle.mp hheld
  rw [settle_of_isHeld hw, settle_of_isHeld (h.isHeld hw)]
  exact ⟨Engine.alike_replenish h.engine, h.kept, h.handles⟩

theorem alike_play (h : w.Alike v) (hneeded : (w.play t).1 ≠ .noSuchGateway) :
    (v.play t).1 = (w.play t).1 ∧ (w.play t).2.Alike (v.play t).2 := by
  cases t with
  | step s => exact alike_take h s hneeded
  | dropHandle handle =>
      rw [play] at hneeded
      by_cases hw : w.handles.contains handle = true
      · rw [play, play, if_pos hw, if_pos (h.mem hw)]
        exact ⟨rfl, h.engine, h.kept, List.filter_subset _ h.handles⟩
      · rw [if_neg hw] at hneeded
        exact absurd rfl hneeded

theorem trails_turn (hw : w.IsOrderly) (h : w.Trails v)
    (hneeded : (w.turn t).1 ≠ .noSuchGateway) :
    (v.turn t).1 = (w.turn t).1 ∧ (w.turn t).2.Trails (v.turn t).2 := by
  by_cases hheld : w.IsHeld
  · obtain ⟨hanswer, halike⟩ := alike_play (h.alike hheld) hneeded
    exact ⟨hanswer, trails_settle halike⟩
  · have hhandles : w.handles = [] := by
      by_contra hne
      exact hheld (.inl hne)
    cases ht : t.handle? with
    | some handle =>
        have hmissing := play_of_missing ht (by rw [hhandles]; exact List.not_mem_nil)
        exact absurd (congrArg Prod.fst hmissing) hneeded
    | none =>
        obtain ⟨answer, kept', hrest, hplay⟩ :=
          play_of_isAtRest (isAtRest_of_not_isHeld hw.quiet hheld) ht
        simp only [turn, hplay w rfl, hplay v h.kept]
        refine ⟨trivial, rfl, ?_, fun hh => absurd (isHeld_settle.mp hh)
          (not_isHeld_of_isAtRest hrest hhandles)⟩
        rw [rows_settle, rows_settle]
        exact h.rows

theorem seen_of_trails {ts : List Turn} (hw : w.IsOrderly) (h : w.Trails v)
    (hneeded : ∀ answer ∈ (turns ts w).1, answer ≠ .noSuchGateway) : seen ts w = seen ts v := by
  induction ts generalizing w v with
  | nil => rfl
  | cons t ts ih =>
      obtain ⟨hanswer, htrails⟩ := trails_turn hw h (hneeded _ List.mem_cons_self)
      show ((w.turn t).1, (w.turn t).2.engine.server.rows) :: seen ts (w.turn t).2 =
        ((v.turn t).1, (v.turn t).2.engine.server.rows) :: seen ts (v.turn t).2
      rw [hanswer, htrails.rows, ih (isOrderly_turn hw t) htrails
        fun answer h => hneeded answer (List.mem_cons_of_mem _ h)]

/-- A gateway that loses a handle goes on as if it had it still. -/
theorem trails_of_lost (h : w.IsOrderly) {handle : String} (hhandle : handle ∈ w.handles)
    (ht : t = .step (.shutDown handle) ∨ t = .dropHandle handle) : (w.turn t).2.Trails w := by
  have hlost : (w.play t).2.kept = w.kept ∧ (w.play t).2.handles ⊆ w.handles ∧
      (w.play t).2.engine.Alike w.engine ∧ (w.play t).2.engine.pool = w.engine.pool ∧
      (w.play t).2.engine.server = w.engine.server := by
    have hcontains := List.contains_iff_mem.mpr hhandle
    rcases ht with rfl | rfl
    · rw [play, take, if_pos hcontains]
      exact ⟨rfl, List.filter_subset_self _, Engine.alike_note_left _ _, rfl, rfl⟩
    · rw [play, if_pos hcontains]
      exact ⟨rfl, List.filter_subset_self _, ⟨_, rfl⟩, rfl, rfl⟩
  obtain ⟨hkept, hhandles, hengine, hpool, hserver⟩ := hlost
  show (w.play t).2.settle.Trails w
  refine ⟨hkept.symm, by rw [rows_settle, hserver], fun hheld => ?_⟩
  have hstill : (w.play t).2.IsHeld := isHeld_settle.mp hheld
  have hfilled := h.filled (.inl (List.ne_nil_of_mem hhandle))
  rw [settle_of_isHeld hstill, Engine.replenish_of_isFilled (hpool ▸ hfilled)]
  exact ⟨hengine, hkept.symm, hhandles⟩

/-! ### The end of a pool -/

/-- A pool that nobody holds has been torn down. -/
structure IsTornDown (w : World) : Prop where
  idle : w.engine.pool.idle = []
  /-- Every connection ever established has been destroyed, and none of them twice. -/
  destroyed : (w.engine.server.destroyed : Multiset Nat) =
    Multiset.range w.engine.server.established
  /-- Nothing happens to the pool any more. -/
  still : ∀ t, (w.turn t).2.engine = w.engine

/-- The end of a pool between two turns: it comes when nobody holds it, and not before. -/
structure EndsLast (w : World) : Prop where
  /-- While a handle or an open session holds the pool, no turn destroys a connection that is idle.
  The turn after which nobody holds it is no exception until its end, when the pool is torn down. -/
  spared : w.IsHeld → ∀ t,
    Relation.ReflTransGen Traffic.Spares w.traffic (w.play t).2.traffic ∧
    ((w.play t).2.IsHeld → Relation.ReflTransGen Traffic.Spares w.traffic (w.turn t).2.traffic)
  /-- No connection is destroyed twice. -/
  once : w.engine.server.destroyed.Nodup
  ended : ¬ w.IsHeld → w.IsTornDown
  /-- When a handle is shut down or dropped, everything goes on as it would with that handle: the
  same answers, and the same rows after each. No later turn may need the handle that is gone. -/
  unmissed : ∀ lost ∈ w.handles, ∀ t, t = .step (.shutDown lost) ∨ t = .dropHandle lost →
    ∀ after, (∀ answer ∈ (turns after (w.turn t).2).1, answer ≠ .noSuchGateway) →
      seen after (w.turn t).2 = seen after w

theorem IsOrderly.nodup_destroyed (h : w.IsOrderly) : w.engine.server.destroyed.Nodup := by
  have hplaces : (w.engine.returned + w.traffic.held).Nodup :=
    h.accounted.places ▸ Multiset.nodup_range _
  have hreturned := Multiset.nodup_of_le (Multiset.le_add_right _ _) hplaces
  exact Multiset.coe_nodup.mp (Multiset.nodup_of_le (Multiset.le_add_left _ _) hreturned)

theorem IsOrderly.isTornDown (h : w.IsOrderly) (hheld : ¬ w.IsHeld) : w.IsTornDown where
  idle := h.torn hheld
  destroyed := by
    have hnone : w.traffic.held = 0 := by
      refine Multiset.card_eq_zero.mp ((Traffic.card_held _).trans ?_)
      refine Multiset.countP_eq_zero.mpr fun s hs hopen => ?_
      exact hheld (.inr ⟨s, hs, hopen⟩)
    have hplaces := h.accounted.places
    rw [hnone, Multiset.add_zero, Engine.returned,
      show w.traffic.engine.pool.idle = [] from h.torn hheld, serials_nil,
      Multiset.zero_add] at hplaces
    exact hplaces
  still t := (turn_of_not_isHeld h hheld t).1

end World

/-- When nothing is planned to fail, a pool ends last, after any turns of a run, panics included. -/
theorem torn_down_last {check : Except SettingsError Unit} {settings : Settings} {handle : String}
    {server : Server} {w₀ w : World} {before : List Turn}
    (hserver : (server.destroyed : Multiset Nat) = Multiset.range server.established)
    (hfaults : server.faults = []) (houtages : server.outages = [])
    (hconnect : World.connectChecked check settings handle server = (.ok (), w₀))
    (hrun : (World.turns before w₀).2 = w) : w.EndsLast := by
  have horderly : w.IsOrderly :=
    hrun ▸ World.isOrderly_turns
      (World.isOrderly_connected hserver hfaults houtages hconnect) before
  refine ⟨fun hheld t => ?_, horderly.nodup_destroyed, horderly.isTornDown,
    fun lost hlost t ht after hneeded => ?_⟩
  · obtain ⟨hplay, hturn, -⟩ := World.turn_of_isHeld horderly hheld t
    exact ⟨hplay, hturn⟩
  · exact World.seen_of_trails (World.isOrderly_turn horderly t)
      (World.trails_of_lost horderly hlost ht) hneeded

/-- A gateway that keeps two connections idle. -/
def World.paired : World :=
  (World.connectChecked (.ok ()) { databaseUrl := "db", pool := { minIdle := 2 } } "g" {}).2

/-- A session is opened, the handle cloned, and shut down under its first name. -/
def handover : List Turn :=
  [.step (.openSession "g" "s" .plain), .step (.clone "g" "h"), .step (.shutDown "g")]

/-- The session commits a row and is closed. -/
def afterwards : List Turn :=
  [.step (.call "s" .begin), .step (.call "s" (.sql "PUT x")), .step (.call "s" .commit),
    .step (.call "s" .close)]

/-- The session outlives the last handle: it commits as it would have done, and with its end the
three connections go. -/
theorem paired_torn_down_last :
    let w := (World.turns handover World.paired).2
    World.connectChecked (.ok ()) { databaseUrl := "db", pool := { minIdle := 2 } } "g" {} =
      (.ok (), World.paired) ∧
    w.IsHeld ∧
    Relation.ReflTransGen Traffic.Spares w.traffic (w.play (.dropHandle "h")).2.traffic ∧
    World.seen afterwards (w.turn (.dropHandle "h")).2 = World.seen afterwards w ∧
    (World.seen afterwards w).getLast? = some (.done, ["x"]) ∧
    (World.turns (handover ++ .dropHandle "h" :: afterwards) World.paired).2.engine.pool.idle = [] ∧
    (World.turns (handover ++ .dropHandle "h" :: afterwards)
      World.paired).2.engine.server.established = 3 := by
  intro w
  have hconnect : World.connectChecked (.ok ())
      { databaseUrl := "db", pool := { minIdle := 2 } } "g" {} = (.ok (), World.paired) := by
    decide +kernel
  have hheld : w.IsHeld := World.isAlive_iff.mp (by decide +kernel)
  have hends : w.EndsLast := torn_down_last rfl rfl rfl hconnect rfl
  have hended : (World.turns (handover ++ .dropHandle "h" :: afterwards) World.paired).2.EndsLast :=
    torn_down_last rfl rfl rfl hconnect rfl
  exact ⟨hconnect, hheld, (hends.spared hheld _).1,
    hends.unmissed "h" (by decide +kernel) _ (.inr rfl) afterwards (by decide +kernel),
    by decide +kernel, (hended.ended (mt World.isAlive_iff.mpr (by decide +kernel))).idle,
    by decide +kernel⟩

end TransactionGateway
