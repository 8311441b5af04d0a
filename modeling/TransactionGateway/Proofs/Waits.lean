import TransactionGateway.Proofs.Accounts

/-! # Waits without a bound

The numbers that waits and checkouts count down from are never the reason why they end.

* **Outages.** An attempt that fails has been met by an outage, which can meet fewer attempts from
  then on; one that succeeds is under way no longer (`tryNext_cases`).
* **Tests.** An idle connection that fails its test has been struck by a fault, which can strike
  fewer statements from then on (`faultsLeft_test`).
* **Loops.** So all of them go on like loops that count nothing: a wait until it succeeds or nothing
  is left to be made in time (`awaitSuccess_eq`, `awaitPool_eq`), a checkout until it has a
  connection or its wait is over (`obtain_eq`). -/

namespace TransactionGateway

namespace Database

open Schedule

/-! ### What is left of a plan -/

theorem Schedule.left_tick (s : Schedule) : s.tick.left = s.left - 1 := by
  unfold left tick
  dsimp only
  omega

theorem Schedule.left_tick_lt {s : Schedule} (h : s.isArmed = true) : s.tick.left < s.left := by
  simp only [isArmed, Bool.and_eq_true, decide_eq_true_eq] at h
  rw [left_tick]
  unfold left
  omega

/-- What adds to no part of a plan adds nothing to the whole, and what takes from one takes from
it. -/
theorem Schedule.leftIn_map {α : Type} {schedule : α → Schedule} {change : α → α}
    (hle : ∀ a, (schedule (change a)).left ≤ (schedule a).left) (plan : List α) :
    leftIn ((plan.map change).map schedule) ≤ leftIn (plan.map schedule) ∧
      ((∃ a ∈ plan, (schedule (change a)).left < (schedule a).left) →
        leftIn ((plan.map change).map schedule) < leftIn (plan.map schedule)) := by
  induction plan with
  | nil => exact ⟨Nat.le_refl _, fun ⟨a, ha, _⟩ => absurd ha List.not_mem_nil⟩
  | cons a plan ih =>
      simp only [List.map_cons, leftIn]
      refine ⟨Nat.add_le_add (hle a) ih.1, ?_⟩
      rintro ⟨b, hb, hlt⟩
      obtain rfl | hb := List.mem_cons.mp hb
      · exact Nat.add_lt_add_of_lt_of_le hlt ih.1
      · exact Nat.add_lt_add_of_le_of_lt (hle a) (ih.2 ⟨b, hb, hlt⟩)

/-- Every attempt counts for each outage, and an outage that meets one was armed for it. -/
theorem left_meet (plan : List Outage) :
    leftIn ((meet plan).2.map (·.schedule)) ≤ leftIn (plan.map (·.schedule)) ∧
      ((meet plan).1.isSome = true →
        leftIn ((meet plan).2.map (·.schedule)) < leftIn (plan.map (·.schedule))) := by
  have hle (o : Outage) : o.schedule.tick.left ≤ o.schedule.left := by
    rw [left_tick]
    exact Nat.sub_le _ _
  refine (leftIn_map hle plan).imp_right fun hlt harmed => hlt ?_
  obtain ⟨o, ho⟩ := Option.isSome_iff_exists.mp harmed
  have harmed := List.find?_some (p := fun o : Outage => o.schedule.isArmed) ho
  exact ⟨o, List.mem_of_find?_eq_some ho, left_tick_lt harmed⟩

theorem left_strike (text : String) (plan : List Fault) :
    leftIn ((plan.map (·.see text)).map (·.schedule)) ≤ leftIn (plan.map (·.schedule)) ∧
      ((strike text plan).1.isSome = true →
        leftIn ((plan.map (·.see text)).map (·.schedule)) < leftIn (plan.map (·.schedule))) := by
  have hle (f : Fault) : (f.see text).schedule.left ≤ f.schedule.left := by
    unfold Fault.see
    split
    · exact (left_tick _).trans_le (Nat.sub_le _ _)
    · exact le_rfl
  refine (leftIn_map hle plan).imp_right fun hlt hstrikes => hlt ?_
  obtain ⟨f, hf⟩ := Option.isSome_iff_exists.mp hstrikes
  have hstrike := List.find?_some hf
  simp only [Fault.strikes, Bool.and_eq_true, beq_iff_eq] at hstrike
  refine ⟨f, List.mem_of_find?_eq_some hf, ?_⟩
  rw [Fault.see, if_pos hstrike.1]
  exact left_tick_lt hstrike.2

end Database

open Database

namespace Engine

variable {e e' : Engine} {deadline : Nat}

/-! ### Attempts -/

/-- What one attempt leaves to be made: a success has one fewer under way and a connection on top of
the idle ones, a failure has as many under way and less to fear. -/
theorem tryNext_cases {r : Bool} (h : e.tryNext deadline = some (r, e')) :
    e'.server.faults = e.server.faults ∧
      (r = true ∧ e'.pool.idle ≠ [] ∧ e'.server.outagesLeft ≤ e.server.outagesLeft ∧
          e'.pool.attempts.length + 1 = e.pool.attempts.length ∨
        r = false ∧ e'.server.outagesLeft < e.server.outagesLeft ∧
          e'.pool.attempts.length = e.pool.attempts.length) := by
  obtain ⟨⟨a, attempts⟩, hnext, h⟩ := Option.map_eq_some_iff.mp h
  have hlength := length_of_nextWithin? hnext
  obtain ⟨hle, hlt⟩ := left_meet e.server.outages
  dsimp only [tryAttempt, withPool, Pool.atTime] at h
  cases hmeet : meet e.server.outages with
  | mk outage? outages =>
      rw [hmeet] at h hle hlt
      cases outage? with
      | none =>
          cases h
          exact ⟨rfl, .inl ⟨rfl, List.cons_ne_nil _ _, hle, hlength⟩⟩
      | some o =>
          cases h
          exact ⟨rfl, .inr ⟨rfl, hlt rfl, by rwa [List.length_append, List.length_singleton]⟩⟩

/-- A bound on the attempts that outages do not use up makes no difference. -/
theorem awaitConnection_of_lt {n m : Nat} (hn : e.server.outagesLeft < n)
    (hm : e.server.outagesLeft < m) :
    e.awaitConnection deadline n = e.awaitConnection deadline m := by
  induction n generalizing e m with
  | zero => exact absurd hn (Nat.not_lt_zero _)
  | succ n ih =>
      obtain - | m := m
      · exact absurd hm (Nat.not_lt_zero _)
      unfold awaitConnection
      cases hnext : e.tryNext deadline with
      | none => rfl
      | some p =>
          obtain ⟨r, e'⟩ := p
          obtain ⟨-, ⟨rfl, -⟩ | ⟨rfl, hlt, -⟩⟩ := tryNext_cases hnext
          · rfl
          · exact ih (by omega) (by omega)

theorem awaitUntil_of_lt {isMet : Pool → Bool} {n m : Nat}
    (hn : e.pool.attempts.length + e.server.outagesLeft < n)
    (hm : e.pool.attempts.length + e.server.outagesLeft < m) :
    e.awaitUntil isMet deadline n = e.awaitUntil isMet deadline m := by
  induction n generalizing e m with
  | zero => exact absurd hn (Nat.not_lt_zero _)
  | succ n ih =>
      obtain - | m := m
      · exact absurd hm (Nat.not_lt_zero _)
      unfold awaitUntil
      split
      · rfl
      · cases hnext : e.tryNext deadline with
        | none => rfl
        | some p =>
            obtain ⟨-, ⟨-, -, hle, hlength⟩ | ⟨-, hlt, hlength⟩⟩ := tryNext_cases hnext
            · exact ih (by omega) (by omega)
            · exact ih (by omega) (by omega)

/-- A wait for an attempt that succeeds makes one after the other until there is none in time. -/
theorem awaitSuccess_eq (deadline : Nat) (e : Engine) : e.awaitSuccess deadline =
    match e.tryNext deadline with
    | none => (false, e.withPool (·.atTime deadline))
    | some (true, e) => (true, e)
    | some (false, e) => e.awaitSuccess deadline := by
  rw [awaitSuccess, attemptsLeft, awaitConnection]
  cases hnext : e.tryNext deadline with
  | none => rfl
  | some p =>
      obtain ⟨r, e'⟩ := p
      obtain ⟨-, ⟨rfl, -⟩ | ⟨rfl, hlt, -⟩⟩ := tryNext_cases hnext
      · rfl
      · exact awaitConnection_of_lt (by omega) (by rw [attemptsLeft]; omega)

/-- A wait for a condition makes one attempt after the other until it is met or there is none in
time. -/
theorem awaitPool_eq (isMet : Pool → Bool) (deadline : Nat) (e : Engine) :
    e.awaitPool isMet deadline =
      if isMet e.pool then (true, e)
      else
        match e.tryNext deadline with
        | none => (false, e.withPool (·.atTime deadline))
        | some (_, e) => e.awaitPool isMet deadline := by
  rw [awaitPool, attemptsLeft, awaitUntil]
  split
  · rfl
  · cases hnext : e.tryNext deadline with
    | none => rfl
    | some p =>
        obtain ⟨-, ⟨-, -, hle, hlength⟩ | ⟨-, hlt, hlength⟩⟩ := tryNext_cases hnext
        · exact awaitUntil_of_lt (by omega) (by rw [attemptsLeft]; omega)
        · exact awaitUntil_of_lt (by omega) (by rw [attemptsLeft]; omega)

/-- A wait strikes no statement, and when it succeeds there is an idle connection. -/
theorem awaitSuccess_idle (e : Engine) (deadline : Nat) :
    (e.awaitSuccess deadline).2.server.faults = e.server.faults ∧
      ((e.awaitSuccess deadline).1 = true → (e.awaitSuccess deadline).2.pool.idle ≠ []) := by
  unfold awaitSuccess
  induction e.attemptsLeft generalizing e with
  | zero => exact ⟨rfl, fun h => absurd h Bool.false_ne_true⟩
  | succ n ih =>
      unfold awaitConnection
      cases hnext : e.tryNext deadline with
      | none => exact ⟨rfl, fun h => absurd h Bool.false_ne_true⟩
      | some p =>
          obtain ⟨r, e'⟩ := p
          obtain ⟨hfaults, ⟨rfl, hidle, -⟩ | ⟨rfl, -⟩⟩ := tryNext_cases hnext
          · exact ⟨hfaults, fun _ => hidle⟩
          · exact (@ih e').imp_left (·.trans hfaults)

/-! ### Tests -/

theorem faultsLeft_test {c c' : Connection} {error? : Option Error}
    (h : e.test c = (error?, c', e')) :
    e'.server.faultsLeft ≤ e.server.faultsLeft ∧
      (error?.isSome = true → e'.server.faultsLeft < e.server.faultsLeft) := by
  unfold test at h
  split at h
  · obtain ⟨hle, hlt⟩ := left_strike "PING" e.server.faults
    rw [batch_ping] at h
    have hfaults := (sent_perform "PING" ⟨c, e.server⟩).faults
    have hcases := perform_cases "PING" ⟨c, e.server⟩
    cases hperform : perform "PING" ⟨c, e.server⟩ with
    | mk r l =>
        rw [hperform] at h hfaults hcases
        dsimp only at h hfaults
        have hleft : l.server.faultsLeft =
            Schedule.leftIn ((e.server.faults.map (·.see "PING")).map (·.schedule)) := by
          rw [Server.faultsLeft, hfaults]
        obtain hok | ⟨f, l', hstrike, -, herr⟩ := hcases
        · cases hok
          cases h
          exact ⟨hleft.trans_le hle, nofun⟩
        · cases herr
          cases h
          exact ⟨hleft.trans_le hle, fun _ => hleft.trans_lt (hlt (hstrike ▸ rfl))⟩
  · cases h
    exact ⟨le_rfl, nofun⟩

/-- Along the stack: when no idle connection passes its test, each has met a fault. -/
theorem faultsLeft_takeIdle {idle : List Connection} (h : e.takeIdle idle = (none, e')) :
    e'.server.faultsLeft ≤ e.server.faultsLeft ∧
      (idle ≠ [] → e'.server.faultsLeft < e.server.faultsLeft) := by
  induction idle generalizing e with
  | nil =>
      cases h
      exact ⟨le_rfl, fun hne => absurd rfl hne⟩
  | cons c rest ih =>
      unfold takeIdle at h
      cases htest : ((e.withIdle rest).withPool (·.withAttempts)).test c with
      | mk error? p =>
          obtain ⟨c', e₁⟩ := p
          rw [htest] at h
          cases error? with
          | none => cases h
          | some error =>
              have hlt : e₁.server.faultsLeft < e.server.faultsLeft :=
                (faultsLeft_test htest).2 rfl
              have hrest := (ih h).1.trans_lt hlt
              exact ⟨hrest.le, fun _ => hrest⟩

/-! ### Checkouts -/

/-- The rounds that a checkout goes through at most. -/
def needsRounds (e : Engine) : Nat := e.server.faultsLeft + if e.pool.idle = [] then 2 else 1

theorem needsRounds_le (e : Engine) : e.needsRounds ≤ e.roundsLeft := by
  unfold needsRounds roundsLeft
  split <;> omega

/-- A round that takes no connection and waits with success has brought the checkout forward. -/
theorem needsRounds_lt {e₁ e₂ : Engine} (htake : e.takeIdle e.pool.idle = (none, e₁))
    (hwait : (e₁.withPool (·.withAttempt)).awaitSuccess deadline = (true, e₂)) :
    e₂.needsRounds < e.needsRounds := by
  obtain ⟨hle, hlt⟩ := faultsLeft_takeIdle htake
  obtain ⟨hfaults, hidle⟩ := awaitSuccess_idle (e₁.withPool (·.withAttempt)) deadline
  rw [hwait] at hfaults hidle
  have hsame : e₂.server.faultsLeft = e₁.server.faultsLeft := by
    unfold Server.faultsLeft
    rw [show e₂.server.faults = _ from hfaults]
    rfl
  rw [needsRounds, needsRounds, if_neg (hidle rfl), hsame]
  split
  · omega
  · next hne =>
      have hless := hlt hne
      omega

theorem obtainIn_of_le {n m : Nat} (hn : e.needsRounds ≤ n) (hm : e.needsRounds ≤ m) :
    e.obtainIn deadline n = e.obtainIn deadline m := by
  have hpos (e : Engine) : 0 < e.needsRounds := by
    unfold needsRounds
    split <;> omega
  induction n generalizing e m with
  | zero => exact absurd hn (Nat.not_le.mpr (hpos e))
  | succ n ih =>
      obtain - | m := m
      · exact absurd hm (Nat.not_le.mpr (hpos e))
      unfold obtainIn
      cases htake : e.takeIdle e.pool.idle with
      | mk c? e₁ =>
          cases c? with
          | some c => rfl
          | none =>
              dsimp only
              cases hwait : (e₁.withPool (·.withAttempt)).awaitSuccess deadline with
              | mk r e₂ =>
                  cases r with
                  | false => rfl
                  | true =>
                      have hlt := needsRounds_lt htake hwait
                      exact ih (by omega) (by omega)

/-- A checkout takes an idle connection, or waits for one and tries again until it has waited in
vain. -/
theorem obtain_eq (deadline : Nat) (e : Engine) : e.obtain deadline =
    match e.takeIdle e.pool.idle with
    | (some c, e) => (some c, e)
    | (none, e) =>
      match (e.withPool (·.withAttempt)).awaitSuccess deadline with
      | (true, e) => e.obtain deadline
      | (false, e) => (none, e) := by
  rw [obtain, roundsLeft, obtainIn]
  cases htake : e.takeIdle e.pool.idle with
  | mk c? e₁ =>
      cases c? with
      | some c => rfl
      | none =>
          dsimp only
          cases hwait : (e₁.withPool (·.withAttempt)).awaitSuccess deadline with
          | mk r e₂ =>
              cases r with
              | false => rfl
              | true =>
                  have hlt := needsRounds_lt htake hwait
                  have hle := e.needsRounds_le
                  rw [roundsLeft] at hle
                  exact obtainIn_of_le (by omega) e₂.needsRounds_le

end Engine

end TransactionGateway
