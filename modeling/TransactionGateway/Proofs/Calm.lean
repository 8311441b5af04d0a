import TransactionGateway.Proofs.Traffic

/-! # Pools without failures

What becomes of the connections of a pool when nothing is planned to fail.

* **Calm engines** (`Engine.Calm`). Neither statements nor attempts to connect fail, idle
  connections show no transaction, and what the pool lacks is on its way.
* **Tending** (`Engine.Tended`). Checking a connection out, probing the server and waiting destroy
  nothing. A wait for the pool to be filled ends with a filled pool (`isFilled_replenish`), and
  leaves a filled pool alone.
* **Uses.** Whatever the sessions do, panics included, the engine stays calm, and no connection is
  destroyed while it is idle (`Traffic.spares_use`). -/

namespace TransactionGateway

open Database Act

namespace Pool

/-- Every attempt is due. -/
def IsPrompt (p : Pool) : Prop := ∀ a ∈ p.attempts, a.due ≤ p.clock

/-- As many attempts are under way as idle connections are lacking, or as there is room for. -/
def IsFed (p : Pool) : Prop :=
  p.lack ≤ p.attempts.length ∨ p.limits.maxConnections.toNat ≤ p.size + p.attempts.length

theorem isFilled_iff {p : Pool} :
    p.isFilled = true ↔ p.lack = 0 ∨ p.limits.maxConnections.toNat ≤ p.size := by
  simp [isFilled]

theorem isPrompt_withAttempt {p : Pool} (h : p.IsPrompt) : p.withAttempt.IsPrompt := by
  unfold withAttempt
  split
  · intro a ha
    rcases List.mem_append.mp ha with ha | ha
    · exact h a ha
    · obtain rfl := List.mem_singleton.mp ha
      exact Nat.le_refl _
  · exact h

/-- Attempts that are started one after another, up to the room that there is. -/
theorem repeat_withAttempt (n : Nat) (p : Pool) :
    (n.repeat withAttempt p).size = p.size ∧ (n.repeat withAttempt p).lack = p.lack ∧
    (n.repeat withAttempt p).limits = p.limits ∧ p.attempts.length ≤
      (n.repeat withAttempt p).attempts.length ∧
    (n ≤ (n.repeat withAttempt p).attempts.length ∨
      p.limits.maxConnections.toNat ≤ p.size + (n.repeat withAttempt p).attempts.length) := by
  induction n with
  | zero => exact ⟨rfl, rfl, rfl, Nat.le_refl _, .inl (Nat.zero_le _)⟩
  | succ n ih =>
      obtain ⟨hsize, hlack, hlimits, hlength, hn⟩ := ih
      rw [Nat.repeat]
      cases hroom : (n.repeat withAttempt p).hasRoom with
      | false =>
          rw [withAttempt_of_full _ hroom]
          simp only [hasRoom, decide_eq_false_iff_not, hsize, hlimits] at hroom
          exact ⟨hsize, hlack, hlimits, hlength, .inr (by omega)⟩
      | true =>
          have hlonger := length_attempts_withAttempt _ hroom
          have hframe : (n.repeat withAttempt p).withAttempt.size = p.size ∧
              (n.repeat withAttempt p).withAttempt.lack = p.lack ∧
              (n.repeat withAttempt p).withAttempt.limits = p.limits := by
            rw [withAttempt, hroom]
            exact ⟨hsize, hlack, hlimits⟩
          exact ⟨hframe.1, hframe.2.1, hframe.2.2, by omega, by omega⟩

theorem isFed_withAttempts (p : Pool) : p.withAttempts.IsFed := by
  obtain ⟨hsize, hlack, hlimits, -, hn⟩ := repeat_withAttempt p.lack p
  unfold IsFed withAttempts
  rw [hsize, hlack, hlimits]
  exact hn

theorem isFed_withAttempt {p : Pool} (h : p.IsFed) : p.withAttempt.IsFed := by
  obtain ⟨hsize, hlack, hlimits, hlength, -⟩ := repeat_withAttempt 1 p
  unfold IsFed at h ⊢
  rw [Nat.repeat, Nat.repeat] at hsize hlack hlimits hlength
  rw [hsize, hlack, hlimits]
  omega

/-- The search for the earliest attempt finds one, where it has one or meets one. -/
theorem exists_foldl_earliest (as : List Attempt) (best : Option Attempt)
    (h : best ≠ none ∨ as ≠ []) : ∃ first, as.foldl (fun (best : Option Attempt) a =>
      match best with
      | some b => if b.due ≤ a.due then some b else some a
      | none => some a) best = some first := by
  induction as generalizing best with
  | nil => exact Option.ne_none_iff_exists'.mp (h.resolve_right (not_not_intro rfl))
  | cons a as ih =>
      refine ih _ (.inl ?_)
      cases best with
      | none => exact Option.some_ne_none a
      | some b =>
          dsimp only
          split <;> exact Option.some_ne_none _

/-- Of attempts that are all due one is made next. -/
theorem nextWithin?_of_isPrompt {p : Pool} (h : p.IsPrompt) (hne : p.attempts ≠ [])
    (deadline : Nat) : p.nextWithin? deadline ≠ none := by
  obtain ⟨first, hfirst⟩ := exists_foldl_earliest p.attempts none (.inr hne)
  have hmem : first ∈ p.attempts :=
    (Engine.mem_of_foldl_earliest p.attempts none hfirst).resolve_right (Option.some_ne_none _).symm
  have hdue := h first hmem
  intro hnone
  simp only [nextWithin?, Option.bind_eq_bind, Option.bind_eq_none_iff] at hnone
  simpa [hdue] using hnone first hfirst

end Pool

namespace Engine

/-- Nothing is planned to fail, idle connections show no transaction, and the attempts that the pool
needs are due. -/
structure Calm (e : Engine) : Prop where
  faults : e.server.faults = []
  outages : e.server.outages = []
  idle : ∀ c ∈ e.pool.idle, c.record = .idle
  prompt : e.pool.IsPrompt
  fed : e.pool.IsFed

/-- A calm engine stays calm, and no connection is destroyed. -/
def Tended (e e' : Engine) : Prop :=
  e.Calm → e'.Calm ∧ e'.server.destroyed = e.server.destroyed

instance : IsPreorder Engine Tended where
  refl _ := fun h => ⟨h, rfl⟩
  trans _ _ _ h h' := fun he =>
    have he' := h he
    ⟨(h' he'.1).1, (h' he'.1).2.trans he'.2⟩

variable {e e' : Engine} {c c' : Connection}

theorem Calm.note (h : e.Calm) (n : Notice) : (e.note n).Calm :=
  ⟨h.faults, h.outages, h.idle, h.prompt, h.fed⟩

theorem Calm.withAttempts (hfaults : e.server.faults = []) (houtages : e.server.outages = [])
    (hidle : ∀ c ∈ e.pool.idle, c.record = .idle) (hprompt : e.pool.IsPrompt) :
    (e.withPool (·.withAttempts)).Calm := by
  have hrepeat (n : Nat) : (n.repeat Pool.withAttempt e.pool).IsPrompt := by
    induction n with
    | zero => exact hprompt
    | succ n ih => exact Pool.isPrompt_withAttempt ih
  refine ⟨hfaults, houtages, fun c hc => hidle c ?_, hrepeat _, Pool.isFed_withAttempts _⟩
  rwa [← idle_withAttempts]

/-! ### Waiting -/

theorem tryAttempt_of_reachable (h : e.server.outages = []) (a : Attempt) :
    e.tryAttempt a = (true, { e with
      server := { e.server with outages := [], established := e.server.established + 1 }
      pool := { e.pool with
        idle := { serial := e.server.established } :: e.pool.idle
        size := e.pool.size + 1
        lastError := none } }) := by
  unfold tryAttempt
  rw [h, meet_nil]

/-- Every attempt that is made succeeds. -/
theorem tryNext_of_calm (h : e.Calm) {deadline : Nat} {r : Bool}
    (hnext : e.tryNext deadline = some (r, e')) :
    r = true ∧ e'.Calm ∧ e'.server.destroyed = e.server.destroyed ∧
      e'.pool.attempts.length + 1 = e.pool.attempts.length := by
  unfold tryNext at hnext
  obtain ⟨⟨a, rest⟩, hfirst, hnext⟩ := Option.map_eq_some_iff.mp hnext
  have hlength := length_of_nextWithin? hfirst
  have hrest : ∀ b ∈ rest, b.due ≤ e.pool.clock := by
    intro b hb
    simp only [Pool.nextWithin?, Option.bind_eq_bind, Option.bind_eq_some_iff] at hfirst
    obtain ⟨first, -, hfirst⟩ := hfirst
    split at hfirst
    · cases hfirst
      exact h.prompt b (List.mem_of_mem_erase hb)
    · cases hfirst
  have hnew : ∀ c ∈ ({ serial := e.server.established } : Connection) :: e.pool.idle,
      c.record = .idle := by
    intro c hc
    rcases List.mem_cons.mp hc with rfl | hc
    · rfl
    · exact h.idle c hc
  have htried := tryAttempt_of_reachable (e := e.withPool fun p =>
    ({ p with attempts := rest } : Pool).atTime a.due) h.outages a
  rw [show tryAttempt a _ = (r, e') from hnext] at htried
  cases htried
  refine ⟨rfl, ⟨h.faults, rfl, hnew, fun b hb => ?_, ?_⟩, rfl, hlength⟩
  · exact Nat.le_trans (hrest b hb) (Nat.le_max_left _ _)
  · have hfed := h.fed
    unfold Pool.IsFed Pool.lack at hfed ⊢
    show e.pool.limits.minIdle.toNat - (e.pool.idle.length + 1) ≤ rest.length ∨
      e.pool.limits.maxConnections.toNat ≤ e.pool.size + 1 + rest.length
    omega

theorem waiting_tended : Waiting Tended where
  started e h := ⟨⟨h.faults, h.outages, fun c hc => h.idle c (by rwa [← idle_withAttempt]),
    Pool.isPrompt_withAttempt h.prompt, Pool.isFed_withAttempt h.fed⟩, rfl⟩
  made hnext h :=
    have hmade := tryNext_of_calm h hnext
    ⟨hmade.2.1, hmade.2.2.1⟩
  passed _ _ h := ⟨⟨h.faults, h.outages, h.idle,
    fun a ha => Nat.le_trans (h.prompt a ha) (Nat.le_max_left _ _), h.fed⟩, rfl⟩

theorem tended_replenish (e : Engine) : e.Tended e.replenish := waiting_tended.awaitPool _ _ e

/-- The attempts under way suffice to fill the pool. -/
theorem isFilled_awaitUntil (h : e.Calm) {deadline n : Nat} (hn : e.pool.attempts.length ≤ n) :
    (e.awaitUntil Pool.isFilled deadline n).2.pool.isFilled = true := by
  induction n generalizing e with
  | zero =>
      have hfed := h.fed
      unfold Pool.IsFed at hfed
      show e.pool.isFilled = true
      rw [Pool.isFilled_iff]
      omega
  | succ n ih =>
      unfold awaitUntil
      split
      · next hmet => exact hmet
      · next hmet =>
          have hne : e.pool.attempts ≠ [] := by
            intro hnil
            have hfed := h.fed
            rw [Pool.IsFed, hnil, List.length_nil] at hfed
            exact hmet (Pool.isFilled_iff.mpr (by omega))
          cases hnext : e.tryNext deadline with
          | none =>
              have hnone := Option.map_eq_none_iff.mp hnext
              exact absurd hnone (Pool.nextWithin?_of_isPrompt h.prompt hne deadline)
          | some p =>
              obtain ⟨-, he', -, hlength⟩ := tryNext_of_calm h hnext
              exact ih he' (by omega)

theorem isFilled_replenish (h : e.Calm) : e.replenish.pool.isFilled = true :=
  isFilled_awaitUntil h (Nat.le_add_right_of_le (Nat.le_add_right _ _))

theorem replenish_of_isFilled (h : e.pool.isFilled = true) : e.replenish = e := by
  unfold replenish awaitPool attemptsLeft
  rw [awaitUntil, if_pos h]

/-! ### Checkout -/

theorem test_of_calm (h : e.Calm) {error? : Option Error} (htest : e.test c = (error?, c', e')) :
    error? = none ∧ c'.record = c.record ∧ e'.Calm ∧ e'.server.destroyed = e.server.destroyed := by
  obtain ⟨-, hkept⟩ := upkeep_test htest
  unfold test at htest
  split at htest
  · have hbooks := Link.routine_sameBooks.batch "PING" ⟨c, e.server⟩
    have hplans := Link.routine_samePlans.batch "PING" ⟨c, e.server⟩
    have hok : (batch "PING" ⟨c, e.server⟩).1 = .ok () := by
      rw [batch_ping, perform_eq, h.faults, strike_nil]
      rfl
    cases hbatch : batch "PING" ⟨c, e.server⟩ with
    | mk r l =>
        rw [hbatch] at htest hbooks hplans hok
        obtain rfl : r = .ok () := hok
        cases htest
        exact ⟨rfl, (hkept rfl).1, ⟨hplans.faults h.faults, hplans.outages.trans h.outages, h.idle,
          h.prompt, h.fed⟩, hbooks.destroyed⟩
  · cases htest
    exact ⟨rfl, rfl, h, rfl⟩

/-- The topmost idle connection passes its test. -/
theorem handsOut_calm (destroyed : List Nat) :
    HandsOut (fun e => e.Calm ∧ e.server.destroyed = destroyed) fun c e =>
      (e.Calm ∧ e.server.destroyed = destroyed) ∧ c.record = .idle where
  taken {e c rest} h hidle := by
    have hrecords : ∀ d ∈ c :: rest, d.record = .idle := hidle ▸ h.1.idle
    have hrest := fun d hd => hrecords d (List.mem_cons_of_mem c hd)
    exact ⟨⟨.withAttempts h.1.faults h.1.outages hrest h.1.prompt, h.2⟩,
      hrecords c List.mem_cons_self⟩
  passed h htest := by
    obtain ⟨-, hrecord, hcalm, hdestroyed⟩ := test_of_calm h.1.1 htest
    exact ⟨⟨hcalm, hdestroyed.trans h.1.2⟩, hrecord.trans h.2⟩
  failed h htest := nomatch (test_of_calm h.1.1 htest).1
  waited deadline h := by
    obtain ⟨hcalm, hdestroyed⟩ := waiting_tended.waited deadline _ h.1
    exact ⟨hcalm, hdestroyed.trans h.2⟩
  inVain h := ⟨⟨h.1.faults, h.1.outages, h.1.idle, h.1.prompt, h.1.fed⟩, h.2⟩

theorem tended_checkoutWithin (millis : Nat) : Moves Tended (checkoutWithin millis) :=
  fun e h => (handsOut_calm e.server.destroyed).engine (·.1) millis ⟨h, rfl⟩

theorem tended_open (millis : Nat) :
    Moves Tended (checkoutWithin millis >>= Session.openOn) :=
  moves_bind (tended_checkoutWithin millis) fun _ _ h =>
    ⟨⟨h.faults, h.outages, h.idle, h.prompt, h.fed⟩, rfl⟩

/-! ### Return -/

/-- Whether it is kept or not, the connection given back leaves the idle ones where they are. -/
theorem calm_putBack (h : e.Calm) (unwinding : Bool) (c : Connection) :
    (e.putBack unwinding c).Calm ∧ e.pool.idle ⊆ (e.putBack unwinding c).pool.idle := by
  unfold putBack
  split
  · next hreusable =>
      simp only [isReusable, Bool.and_eq_true, beq_iff_eq] at hreusable
      refine ⟨⟨h.faults, h.outages, fun d hd => ?_, h.prompt, ?_⟩, List.subset_cons_self _ _⟩
      · rcases List.mem_cons.mp hd with rfl | hd
        · exact hreusable.2
        · exact h.idle d hd
      · have hfed := h.fed
        unfold Pool.IsFed Pool.lack at hfed ⊢
        show e.pool.limits.minIdle.toNat - (e.pool.idle.length + 1) ≤ e.pool.attempts.length ∨
          e.pool.limits.maxConnections.toNat ≤ e.pool.size + e.pool.attempts.length
        omega
  · refine ⟨.withAttempts h.faults h.outages h.idle h.prompt, ?_⟩
    show e.pool.idle ⊆ ((e.destroy c).withPool (·.withAttempts)).pool.idle
    exact (idle_withAttempts (e.destroy c).pool).symm ▸ List.Subset.refl _

/-- A probe gives back the connection that it has checked out, and it is kept. -/
theorem tended_testConnection : Moves Tended testConnection := by
  intro e h
  have hcheckout := (handsOut_calm e.server.destroyed).checkoutWithin e.pool.checkoutMillis ⟨h, rfl⟩
  cases hc : checkoutWithin e.pool.checkoutMillis e with
  | mk r e₁ =>
      rw [hc] at hcheckout
      cases r with
      | err error =>
          rw [show testConnection e = _ from bind_of_err hc]
          exact hcheckout
      | panic =>
          rw [show testConnection e = _ from bind_of_panic hc]
          exact hcheckout
      | ok c =>
          rw [show testConnection e = _ from bind_of_ok hc]
          obtain ⟨⟨hcalm, hdestroyed⟩, hrecord⟩ := hcheckout
          have hprobe : batch "SELECT 1" ⟨c, e₁.server⟩ =
              (.ok (), (Link.received "SELECT 1" ⟨c, e₁.server⟩)) := by
            rw [batch_probe, perform_eq, hcalm.faults, strike_nil]
            rfl
          have hbooks := Link.routine_sameBooks.batch "SELECT 1" ⟨c, e₁.server⟩
          have hplans := Link.routine_samePlans.batch "SELECT 1" ⟨c, e₁.server⟩
          rw [hprobe] at hbooks hplans ⊢
          dsimp only
          have hprobed : ({ e₁ with
              server := (Link.received "SELECT 1" ⟨c, e₁.server⟩).server } : Engine).Calm :=
            ⟨hplans.faults hcalm.faults, hplans.outages.trans hcalm.outages, hcalm.idle,
              hcalm.prompt, hcalm.fed⟩
          have hreusable : isReusable (Outcome.ok () == (Outcome.panic : Outcome Error Unit))
              (Link.received "SELECT 1" ⟨c, e₁.server⟩).connection = true := by
            simp only [isReusable, Link.received_record, hrecord]
            rfl
          refine ⟨(calm_putBack hprobed _ _).1, ?_⟩
          rw [putBack, if_pos hreusable]
          exact hbooks.destroyed.trans hdestroyed

/-! ### A new engine -/

theorem isMet_of_awaitUntil {isMet : Pool → Bool} {deadline n : Nat}
    (h : e.awaitUntil isMet deadline n = (true, e')) : isMet e'.pool = true := by
  induction n generalizing e with
  | zero =>
      cases hmet : isMet e.pool with
      | true => rw [awaitUntil, hmet] at h; cases h; exact hmet
      | false => rw [awaitUntil, hmet] at h; cases h
  | succ n ih =>
      unfold awaitUntil at h
      split at h
      · next hmet => cases h; exact hmet
      · split at h
        · cases h
        · exact ih h

/-- The pool keeps its limits. -/
def SameLimits (e e' : Engine) : Prop := e'.pool.limits = e.pool.limits

instance : IsPreorder Engine SameLimits where
  refl _ := rfl
  trans _ _ _ h h' := Eq.trans h' h

theorem waiting_sameLimits : Waiting SameLimits where
  started e := (withAttempt_frame e.pool).2.1
  made := by
    intro e deadline r e' hnext
    obtain ⟨⟨a, rest⟩, -, hnext⟩ := Option.map_eq_some_iff.mp hnext
    have htried (e : Engine) : (e.tryAttempt a).2.pool.limits = e.pool.limits := by
      unfold tryAttempt
      cases meet e.server.outages with
      | mk outage? outages => cases outage? <;> rfl
    have hlimits := htried (e.withPool fun p => ({ p with attempts := rest } : Pool).atTime a.due)
    rw [show tryAttempt a _ = (r, e') from hnext] at hlimits
    exact hlimits
  passed _ _ := rfl

/-- A new engine, with the attempts that it starts with. -/
def started (url : String) (limits : PoolLimits) (server : Server) : Engine :=
  withPool { server, pool := { limits, url := Url.redacted url } } (·.withAttempts)

variable {url : String} {limits : PoolLimits} {server : Server}

/-- A pool is built when the attempts have been waited for that it starts with. -/
theorem eq_of_build (h : build url limits server = (.ok (), e)) :
    ∃ millis n e₁, (started url limits server).awaitUntil (·.size = limits.minIdle.toNat) millis n =
      (true, e₁) ∧ e = e₁.note (.created e₁.pool.url limits.maxConnections limits.minIdle) := by
  unfold build at h
  split at h
  · unfold fillFirst at h
    dsimp only at h
    split at h
    · next e₁ hawait =>
        cases h
        exact ⟨_, _, e₁, hawait, rfl⟩
    · cases h
  · cases h

/-- An engine built on a server where nothing is planned to fail. -/
theorem calm_build (hfaults : server.faults = []) (houtages : server.outages = [])
    (h : build url limits server = (.ok (), e)) : e.Calm := by
  obtain ⟨millis, n, e₁, hawait, rfl⟩ := eq_of_build h
  have hstarted : (started url limits server).Calm :=
    .withAttempts hfaults houtages nofun nofun
  have hwaited := (waiting_tended.awaitUntil (·.size = limits.minIdle.toNat) millis n _ hstarted).1
  rw [hawait] at hwaited
  exact hwaited.note _

/-- A new pool has as many connections as it keeps idle, and nobody holds one of them. -/
theorem isFilled_build
    (hserver : (server.destroyed : Multiset Nat) = Multiset.range server.established)
    (h : build url limits server = (.ok (), e)) : e.pool.isFilled = true := by
  have hidle := (accounted_build url limits hserver).size
  rw [h, Multiset.card_zero, Nat.add_zero] at hidle
  obtain ⟨millis, n, e₁, hawait, rfl⟩ := eq_of_build h
  have hsize := of_decide_eq_true (isMet_of_awaitUntil hawait)
  have hwaited := waiting_sameLimits.awaitUntil (·.size = limits.minIdle.toNat) millis n
    (started url limits server)
  rw [hawait] at hwaited
  have hlimits : e₁.pool.limits = limits :=
    hwaited.trans (waiting_sameLimits.withAttempts
      { server, pool := { limits, url := Url.redacted url } })
  refine Pool.isFilled_iff.mpr (.inl ?_)
  show e₁.pool.limits.minIdle.toNat - e₁.pool.idle.length = 0
  rw [hlimits, ← hsize]
  exact Nat.sub_eq_zero_of_le (Nat.le_of_eq hidle)

end Engine

/-! ### Sessions -/

/-- A calm engine stays calm, and what is idle stays idle. -/
def Attached.Tended (a a' : Attached) : Prop :=
  a.engine.Calm → a'.engine.Calm ∧ a.engine.pool.idle ⊆ a'.engine.pool.idle

instance : IsPreorder Attached Attached.Tended where
  refl _ := fun h => ⟨h, List.Subset.refl _⟩
  trans _ _ _ h h' := fun ha =>
    have ha' := h ha
    ⟨(h' ha'.1).1, List.Subset.trans ha'.2 (h' ha'.1).2⟩

namespace Session

theorem steady_tended : Steady Attached.Tended :=
  ⟨fun _ _ h => ⟨h, List.Subset.refl _⟩, fun n _ h => ⟨h.note n, List.Subset.refl _⟩⟩

theorem tended_onConnection {α : Type} {work : Act Link Database.Error α}
    (hwork : Moves Link.SamePlans work) : Moves Attached.Tended (onConnection work) := by
  intro a h
  cases hc : a.session.connection with
  | none =>
      rw [onConnection_of_closed work hc]
      exact ⟨h, List.Subset.refl _⟩
  | some c =>
      have hplans := hwork ⟨c, a.engine.server⟩
      rw [onConnection_of_open work hc]
      exact ⟨⟨hplans.faults h.faults, hplans.outages.trans h.outages, h.idle, h.prompt, h.fed⟩,
        List.Subset.refl _⟩

theorem tended_rollback : Moves Attached.Tended rollback :=
  steady_tended.moves_rollback (tended_onConnection Link.routine_samePlans.rollback)

theorem tended_giveBack (unwinding : Bool) (a : Attached) : a.Tended (giveBack unwinding a) := by
  intro h
  unfold giveBack
  split
  · exact ⟨h, List.Subset.refl _⟩
  · next c hc => exact Engine.calm_putBack h unwinding c

theorem tended_close (unwinding : Bool) : Moves Attached.Tended (close unwinding) :=
  steady_tended.moves_close tended_rollback tended_giveBack unwinding

theorem tended_letGo (unwinding : Bool) (failed : String → SessionEvent) (a : Attached) :
    a.Tended (letGo unwinding failed a) :=
  steady_tended.letGo (tended_close unwinding) failed a

/-- Everything that a caller can do with a session. -/
theorem tended_calls : Respected Attached.Tended where
  begin := steady_tended.moves_begin (tended_onConnection Link.routine_samePlans.begin)
  commit := steady_tended.moves_commit (tended_onConnection Link.routine_samePlans.commit)
  rollback := tended_rollback
  close := tended_close false
  execute sql := tended_onConnection (Link.routine_samePlans.plainBatch sql)
  direct call := tended_onConnection (Link.routine_samePlans.call call)
  note := steady_tended.notice

end Session

/-! ### Uses -/

namespace Traffic

/-- A change that destroys no idle connection. -/
structure Spares (t t' : Traffic) : Prop where
  change : Change t t'
  idle : ∀ c ∈ t.engine.pool.idle, c.serial ∉ t'.engine.server.destroyed

variable {t t' : Traffic}

theorem Accounted.not_destroyed (h : t.Accounted) {c : Connection}
    (hc : c ∈ t.engine.pool.idle) : c.serial ∉ t.engine.server.destroyed := by
  have hplaces : (t.engine.returned + t.held).Nodup := h.places ▸ Multiset.nodup_range _
  have hreturned := Multiset.nodup_of_le (Multiset.le_add_right _ _) hplaces
  have hdisjoint := (Multiset.nodup_add.mp hreturned).2.2
  intro hd
  exact Multiset.disjoint_left.mp hdisjoint
    (Multiset.mem_coe.mpr (List.mem_map.mpr ⟨c, hc, rfl⟩)) (Multiset.mem_coe.mpr hd)

/-- Work of the pool destroys nothing, and work of the sessions leaves idle what is idle. -/
theorem tended_use (hu : Use t t') (h : t.engine.Calm) :
    t'.engine.Calm ∧ (t'.engine.server.destroyed = t.engine.server.destroyed ∨
      t.engine.pool.idle ⊆ t'.engine.pool.idle) := by
  cases hu with
  | @opened millis e s e' ss ho =>
      have hopen := Engine.tended_open millis e h
      rw [ho] at hopen
      exact hopen.imp_right .inl
  | @notOpened millis e r e' ss ho hr =>
      have hopen := Engine.tended_open millis e h
      rw [ho] at hopen
      exact hopen.imp_right .inl
  | worked op a ss => exact (Operation.moves_run Session.tended_calls op a h).imp_right .inr
  | droppedAt unwinding failed a ss =>
      exact (Session.tended_letGo unwinding failed a h).imp_right .inr
  | probed e ss => exact (Engine.tended_testConnection e h).imp_right .inl
  | noted n e ss => exact ⟨h.note n, .inl rfl⟩
  | replenished e ss => exact (Engine.tended_replenish e h).imp_right .inl

/-- While the pool is kept alive, a connection is not destroyed as long as it is idle. -/
theorem spares_use (hu : Use t t') (h : t.engine.Calm) (ha : t.Accounted) : t.Spares t' := by
  refine ⟨.used hu, fun c hc => ?_⟩
  rcases (tended_use hu h).2 with hsame | hidle
  · rw [hsame]
    exact ha.not_destroyed hc
  · exact (accounted_use hu ha).not_destroyed (hidle hc)

theorem spares_serves (hs : t.Serves t') (h : t.engine.Calm) (ha : t.Accounted) :
    Relation.ReflTransGen Spares t t' ∧ t'.engine.Calm ∧ t'.Accounted := by
  induction hs with
  | refl => exact ⟨.refl, h, ha⟩
  | tail _ hu ih =>
      obtain ⟨hcourse, hcalm, haccounted⟩ := ih
      exact ⟨hcourse.tail (spares_use hu hcalm haccounted), (tended_use hu hcalm).1,
        accounted_use hu haccounted⟩

end Traffic

end TransactionGateway
