import TransactionGateway.Gateway.Envelope

/-! # Transcripts of an atomic envelope

What an envelope asks of a state that can begin, commit and roll back, and of the supply that hands
out its operations, call by call.

* **Recording** (`recorded`, `recordedSupply`). The state is kept together with a transcript, in
  which every call enters its outcome, every report its event, every answer of the supply the place
  that it has come to, and every operation that is applied its place with its outcome. The supply
  enters what it is asked when it is asked, whether or not the operation is then applied.
* **The law** (`Transcript`). Begin comes first, and when it fails nothing follows. Otherwise
  operations are pulled and applied in turn (`Takes`), up to the first that fails, whose place is
  reported once, or until the supply is drained (`Stops`). The commit follows when none has failed,
  and the rollback, last, when an operation or the commit has failed (`Settles`).
* **Ends** (`Endless`). An envelope returns unless its supply goes on for ever with operations that
  succeed. -/

namespace TransactionGateway.Envelope

open Act

/-- An entry of a transcript. -/
inductive Entry (ε δ : Type) where
  | begun (outcome : Outcome ε Unit)
  | pulled (place : Nat)
  | drained (place : Nat)
  | broken (place : Nat)
  | applied (place : Nat) (outcome : Outcome δ Unit)
  | committed (outcome : Outcome ε Unit)
  | rolledBack (outcome : Outcome ε Unit)
  | reported (event : EnvelopeEvent)
deriving DecidableEq, Repr

variable {ι σ ε δ : Type}

/-! ### Recording -/

/-- A call that enters its outcome. -/
def entering {κ : Type} (entry : Outcome κ Unit → Entry ε δ) (x : Act σ κ Unit) :
    Act (σ × List (Entry ε δ)) κ Unit := fun (s, log) =>
  let (r, s) := x s
  (r, s, log ++ [entry r])

/-- A state with a transcript of the calls made of it. -/
def recorded (δ : Type) (t : Transactional σ ε) : Transactional (σ × List (Entry ε δ)) ε where
  begin := entering .begun t.begin
  commit := entering .committed t.commit
  rollback := entering .rolledBack t.rollback
  report event := fun (s, log) => (t.report event s, log ++ [.reported event])

/-- A supply that counts places and enters what it is asked, with operations that enter their
outcomes. -/
def recordedSupply (next : Supply ι σ δ) : Supply (ι × Nat) (σ × List (Entry ε δ)) δ :=
  fun (i, place) (s, log) =>
    match next i s with
    | (.ok none, s) => (.ok none, s, log ++ [.drained place])
    | (.ok (some (op, rest)), s) =>
      (.ok (some (entering (.applied place) op, rest, place + 1)), s, log ++ [.pulled place])
    | (.panic, s) => (.panic, s, log ++ [.broken place])

/-- The entries of a number of operations that have all succeeded, counted from a place. -/
def smooth : (place number : Nat) → List (Entry ε δ)
  | _, 0 => []
  | place, n + 1 => .pulled place :: .applied place (.ok ()) :: smooth (place + 1) n

/-! ### The law -/

/-- One operation pulled and applied with success. -/
def Gives (next : Supply ι σ δ) (i : ι) (s : σ) (j : ι) (s' : σ) : Prop :=
  ∃ op s₁, next i s = (.ok (some (op, j)), s₁) ∧ op s₁ = (.ok (), s')

/-- A number of operations pulled and applied in turn, all with success. -/
inductive Takes (next : Supply ι σ δ) : (number : Nat) → ι → σ → ι → σ → Prop where
  | nothing {i : ι} {s : σ} : Takes next 0 i s i s
  | more {n : Nat} {i j k : ι} {s s₁ s' : σ} : Gives next i s j s₁ → Takes next n j s₁ k s' →
      Takes next (n + 1) i s k s'

/-- How the pulling ends at a place: its entries, its outcome and the state reached. -/
inductive Stops (t : Transactional σ ε) (v : ErrorView ε δ) (next : Supply ι σ δ) (place : Nat)
    (i : ι) (s : σ) : List (Entry ε δ) → Outcome δ Unit → σ → Prop where
  | drained {s' : σ} : next i s = (.ok none, s') →
      Stops t v next place i s [.drained place] (.ok ()) s'
  | broken {s' : σ} : next i s = (.panic, s') →
      Stops t v next place i s [.broken place] .panic s'
  | failed {op : Act σ δ Unit} {j : ι} {e : δ} {s₁ s₂ : σ} :
      next i s = (.ok (some (op, j)), s₁) → op s₁ = (.err e, s₂) →
      Stops t v next place i s
        [.pulled place, .applied place (.err e), .reported (.operationFailed place (v.text e))]
        (.err e) (t.report (.operationFailed place (v.text e)) s₂)
  | panicked {op : Act σ δ Unit} {j : ι} {s₁ s' : σ} :
      next i s = (.ok (some (op, j)), s₁) → op s₁ = (.panic, s') →
      Stops t v next place i s [.pulled place, .applied place .panic] .panic s'

/-- What follows a failure: one rollback, whose own failure is reported once, and the failure as it
is for an answer. -/
inductive Retreat (t : Transactional σ ε) (v : ErrorView ε δ) (failure : δ) (s : σ) :
    List (Entry ε δ) → Outcome δ Unit → σ → Prop where
  | rolledBack {s' : σ} : t.rollback s = (.ok (), s') →
      Retreat t v failure s [.rolledBack (.ok ())] (.err failure) s'
  | incomplete {e : ε} {s' : σ} : t.rollback s = (.err e, s') →
      Retreat t v failure s
        [.rolledBack (.err e), .reported (.rollbackIncomplete (v.ownText e))] (.err failure)
        (t.report (.rollbackIncomplete (v.ownText e)) s')
  | panicked {s' : σ} : t.rollback s = (.panic, s') →
      Retreat t v failure s [.rolledBack .panic] .panic s'

/-- What follows the pulling, by the outcome that it has ended with. -/
inductive Settles (t : Transactional σ ε) (v : ErrorView ε δ) (s : σ) :
    Outcome δ Unit → List (Entry ε δ) → Outcome δ Unit → σ → Prop where
  | committed {s' : σ} : t.commit s = (.ok (), s') →
      Settles t v s (.ok ()) [.committed (.ok ())] (.ok ()) s'
  | notCommitted {e : ε} {back : List (Entry ε δ)} {r : Outcome δ Unit} {s₁ s' : σ} :
      t.commit s = (.err e, s₁) → Retreat t v (v.lift e) s₁ back r s' →
      Settles t v s (.ok ()) (.committed (.err e) :: back) r s'
  | panickedAtCommit {s' : σ} : t.commit s = (.panic, s') →
      Settles t v s (.ok ()) [.committed .panic] .panic s'
  | stopped {e : δ} {back : List (Entry ε δ)} {r : Outcome δ Unit} {s' : σ} :
      Retreat t v e s back r s' → Settles t v s (.err e) back r s'
  | panicked : Settles t v s .panic [] .panic s

/-- The transcripts of an envelope, each with the outcome and the state that it ends in. -/
inductive Transcript (t : Transactional σ ε) (v : ErrorView ε δ) (next : Supply ι σ δ) (i : ι)
    (s : σ) : List (Entry ε δ) → Outcome δ Unit → σ → Prop where
  | notBegun {e : ε} {s' : σ} : t.begin s = (.err e, s') →
      Transcript t v next i s [.begun (.err e)] (.err (v.lift e)) s'
  | panickedAtBegin {s' : σ} : t.begin s = (.panic, s') →
      Transcript t v next i s [.begun .panic] .panic s'
  | begun {n : Nat} {j : ι} {stop back : List (Entry ε δ)} {reached r : Outcome δ Unit}
      {s₁ s₂ s₃ s' : σ} :
      t.begin s = (.ok (), s₁) → Takes next n i s₁ j s₂ →
      Stops t v next n j s₂ stop reached s₃ → Settles t v s₃ reached back r s' →
      Transcript t v next i s (.begun (.ok ()) :: smooth 0 n ++ stop ++ back) r s'

/-- Begin succeeds, and so do the operations of a supply that is never drained. -/
def Endless (t : Transactional σ ε) (next : Supply ι σ δ) (i : ι) (s : σ) : Prop :=
  ∃ s₁, t.begin s = (.ok (), s₁) ∧ ∀ n, ∃ j s₂, Takes next n i s₁ j s₂

section law
variable {t : Transactional σ ε} {v : ErrorView ε δ} {next : Supply ι σ δ} {i j : ι} {s s' : σ}
  {n place : Nat} {log : List (Entry ε δ)} {reached r : Outcome δ Unit}

/-! ### Pulling -/

/-- Asking for one operation and applying it either goes on or is the end. -/
theorem gives_or_stops (t : Transactional σ ε) (v : ErrorView ε δ) (next : Supply ι σ δ)
    (place : Nat) (i : ι) (s : σ) :
    (∃ j s', Gives next i s j s') ∨ ∃ log r s', Stops t v next place i s log r s' := by
  cases hi : next i s with
  | mk pulled s₁ =>
      cases pulled with
      | err e => exact e.elim
      | panic => exact .inr ⟨_, _, _, .broken hi⟩
      | ok pulled =>
          obtain - | ⟨op, j⟩ := pulled
          · exact .inr ⟨_, _, _, .drained hi⟩
          · cases hop : op s₁ with
            | mk r s₂ =>
                cases r with
                | ok a => exact .inl ⟨j, s₂, op, s₁, hi, hop⟩
                | err e => exact .inr ⟨_, _, _, .failed hi hop⟩
                | panic => exact .inr ⟨_, _, _, .panicked hi hop⟩

theorem pullAll_of_gives (h : Gives next i s j s') (place : Nat) :
    pullAll t v next place i s = pullAll t v next (place + 1) j s' := by
  obtain ⟨op, s₁, hi, hop⟩ := h
  rw [pullAll, hi]
  dsimp only
  rw [hop]

theorem pullAll_of_takes (h : Takes next n i s j s') (place : Nat) :
    pullAll t v next place i s = pullAll t v next (place + n) j s' := by
  induction h generalizing place with
  | nothing => rfl
  | more hgives _ ih => rw [pullAll_of_gives hgives, ih, Nat.add_assoc, Nat.add_comm 1]

theorem pullAll_of_stops (h : Stops t v next place i s log r s') :
    pullAll t v next place i s = some (r, s') := by
  rw [pullAll]
  cases h with
  | drained hi => rw [hi]
  | broken hi => rw [hi]
  | failed hi hop =>
      rw [hi]
      dsimp only
      rw [hop]
  | panicked hi hop =>
      rw [hi]
      dsimp only
      rw [hop]

/-- When some number of operations cannot be taken, the pulling stops before. -/
theorem exists_stops (t : Transactional σ ε) (v : ErrorView ε δ)
    (h : ¬ ∃ j s', Takes next n i s j s') (place : Nat) : ∃ m j s₁ log r s',
      Takes next m i s j s₁ ∧ Stops t v next (place + m) j s₁ log r s' := by
  induction n generalizing i s place with
  | zero => exact absurd ⟨i, s, .nothing⟩ h
  | succ n ih =>
      obtain ⟨j, s₁, hgives⟩ | ⟨log, r, s', hstops⟩ := gives_or_stops t v next place i s
      · have hrest : ¬ ∃ k s', Takes next n j s₁ k s' :=
          fun ⟨k, s', htakes⟩ => h ⟨k, s', .more hgives htakes⟩
        obtain ⟨m, k, s₂, log, r, s', htakes, hstops⟩ := ih hrest (place + 1)
        rw [Nat.add_assoc, Nat.add_comm 1] at hstops
        exact ⟨m + 1, k, s₂, log, r, s', .more hgives htakes, hstops⟩
      · exact ⟨0, i, s, log, r, s', .nothing, hstops⟩

theorem Gives.unique {j' : ι} {s₁ : σ} (h : Gives next i s j s') (h' : Gives next i s j' s₁) :
    j = j' ∧ s' = s₁ := by
  obtain ⟨op, s₂, hi, hop⟩ := h
  obtain ⟨op', s₃, hi', hop'⟩ := h'
  cases hi.symm.trans hi'
  cases hop.symm.trans hop'
  exact ⟨rfl, rfl⟩

/-- Pulling that comes to a result has met its end after some number of operations. -/
theorem not_endless_of_pullAll (t : Transactional σ ε) (v : ErrorView ε δ) (place : Nat)
    (reached : Outcome δ Unit × σ) (h : pullAll t v next place i s = some reached) :
    ∃ n, ¬ ∃ j s', Takes next n i s j s' := by
  -- Induction along the recursion of `pullAll`: what it calls itself on already has this bound.
  refine pullAll.partial_correctness t v next (fun _ i s _ => ∃ n, ¬ ∃ j s', Takes next n i s j s')
    (fun f ih place i s reached h => ?_) place i s reached h
  by_cases hgives : ∃ j s', Gives next i s j s'
  · obtain ⟨j, s', op, s₁, hi, hop⟩ := hgives
    rw [hi] at h
    dsimp only at h
    rw [hop] at h
    obtain ⟨n, hn⟩ := ih _ _ _ _ h
    refine ⟨n + 1, fun ⟨k, s₂, htakes⟩ => hn ?_⟩
    cases htakes with
    | more hgives htakes =>
        obtain ⟨rfl, rfl⟩ := hgives.unique ⟨op, s₁, hi, hop⟩
        exact ⟨k, s₂, htakes⟩
  · refine ⟨1, fun ⟨k, s₂, htakes⟩ => hgives ?_⟩
    cases htakes with
    | more hone _ => exact ⟨_, _, hone⟩

/-! ### Settling -/

theorem exists_retreat (t : Transactional σ ε) (v : ErrorView ε δ) (failure : δ) (s : σ) :
    ∃ back, Retreat t v failure s back (recover t v failure s).1 (recover t v failure s).2 := by
  unfold recover
  cases h : t.rollback s with
  | mk r s' =>
      cases r with
      | ok a => exact ⟨_, .rolledBack h⟩
      | err e => exact ⟨_, .incomplete h⟩
      | panic => exact ⟨_, .panicked h⟩

theorem exists_settles (t : Transactional σ ε) (v : ErrorView ε δ) (reached : Outcome δ Unit)
    (s : σ) :
    ∃ back, Settles t v s reached back (settle t v reached s).1 (settle t v reached s).2 := by
  cases reached with
  | panic => exact ⟨[], .panicked⟩
  | err e =>
      obtain ⟨back, hback⟩ := exists_retreat t v e s
      exact ⟨back, .stopped hback⟩
  | ok a =>
      dsimp only [settle]
      cases hc : t.commit s with
      | mk r s₁ =>
          cases r with
          | ok a => exact ⟨_, .committed hc⟩
          | panic => exact ⟨_, .panickedAtCommit hc⟩
          | err e =>
              obtain ⟨back, hback⟩ := exists_retreat t v (v.lift e) s₁
              exact ⟨_, .notCommitted hc hback⟩

theorem recover_of_retreat {failure : δ} (h : Retreat t v failure s log r s') :
    recover t v failure s = (r, s') := by
  unfold recover
  cases h with
  | rolledBack h => rw [h]
  | incomplete h => rw [h]
  | panicked h => rw [h]

/-- The failure after which an envelope retreats remains one. -/
theorem Retreat.ne_ok {failure : δ} (h : Retreat t v failure s log r s') : r ≠ .ok () := by
  cases h <;> nofun

theorem settle_of_settles (h : Settles t v s reached log r s') :
    settle t v reached s = (r, s') := by
  cases h with
  | committed h => simp only [settle, h]
  | notCommitted h hback => simp only [settle, h, recover_of_retreat hback]
  | panickedAtCommit h => simp only [settle, h]
  | stopped hback => exact recover_of_retreat hback
  | panicked => rfl

/-! ### Whole envelopes -/

theorem process_of_transcript (h : Transcript t v next i s log r s') :
    process t v next i s = some (r, s') := by
  rw [process]
  cases h with
  | notBegun hb => rw [hb]
  | panickedAtBegin hb => rw [hb]
  | begun hb htakes hstops hsettles =>
      rw [hb]
      dsimp only
      rw [pullAll_of_takes htakes, Nat.zero_add, pullAll_of_stops hstops, Option.map_some,
        settle_of_settles hsettles]

/-- An envelope that is not without end has a transcript. -/
theorem exists_transcript (t : Transactional σ ε) (v : ErrorView ε δ)
    (h : ¬ Endless t next i s) : ∃ log r s', Transcript t v next i s log r s' := by
  cases hb : t.begin s with
  | mk r s₁ =>
      cases r with
      | err e => exact ⟨_, _, _, .notBegun hb⟩
      | panic => exact ⟨_, _, _, .panickedAtBegin hb⟩
      | ok a =>
          obtain ⟨n, hn⟩ : ∃ n, ¬ ∃ j s₂, Takes next n i s₁ j s₂ :=
            Classical.not_forall.mp fun hall => h ⟨s₁, hb, hall⟩
          obtain ⟨m, j, s₂, stop, reached, s₃, htakes, hstops⟩ := exists_stops t v hn 0
          rw [Nat.zero_add] at hstops
          obtain ⟨back, hsettles⟩ := exists_settles t v reached s₃
          exact ⟨_, _, _, .begun hb htakes hstops hsettles⟩

theorem process_eq_none (h : Endless t next i s) : process t v next i s = none := by
  obtain ⟨s₁, hb, hall⟩ := h
  rw [process, hb]
  dsimp only
  cases hpull : pullAll t v next 0 i s₁ with
  | none => rfl
  | some reached =>
      obtain ⟨n, hn⟩ := not_endless_of_pullAll t v 0 reached hpull
      exact absurd (hall n) hn

/-- An envelope that returns has a transcript of what it returns. -/
theorem transcript_of_process (h : process t v next i s = some (r, s')) :
    ∃ log, Transcript t v next i s log r s' := by
  have hends : ¬ Endless t next i s := fun hendless => by
    cases h.symm.trans (process_eq_none hendless)
  obtain ⟨log, r', s₁, hlog⟩ := exists_transcript t v hends
  cases h.symm.trans (process_of_transcript hlog)
  exact ⟨log, hlog⟩

/-! ### Recorded envelopes -/

theorem Gives.recorded (h : Gives next i s j s') (place : Nat) (log : List (Entry ε δ)) :
    Gives (recordedSupply next) (i, place) (s, log) (j, place + 1)
      (s', log ++ [.pulled place, .applied place (.ok ())]) := by
  obtain ⟨op, s₁, hi, hop⟩ := h
  refine ⟨entering (.applied place) op, (s₁, log ++ [.pulled place]), ?_, ?_⟩
  · simp only [recordedSupply, hi]
  · simp only [entering, hop, List.append_assoc, List.cons_append, List.nil_append]

theorem Takes.recorded (h : Takes next n i s j s') (place : Nat) (log : List (Entry ε δ)) :
    Takes (recordedSupply next) n (i, place) (s, log) (j, place + n)
      (s', log ++ smooth place n) := by
  induction h generalizing place log with
  | nothing =>
      rw [smooth, List.append_nil]
      exact .nothing
  | @more n _ _ _ _ _ _ hgives _ ih =>
      have htakes := ih (place + 1) (log ++ [.pulled place, .applied place (.ok ())])
      rw [List.append_assoc, Nat.add_assoc, Nat.add_comm 1] at htakes
      exact .more (hgives.recorded place log) htakes

theorem pullAll_recorded {stop : List (Entry ε δ)} (h : Stops t v next place i s stop r s')
    (log : List (Entry ε δ)) :
    pullAll (recorded δ t) v (recordedSupply next) place (i, place) (s, log) =
      some (r, s', log ++ stop) := by
  rw [pullAll]
  cases h with
  | drained hi => simp only [recordedSupply, hi]
  | broken hi => simp only [recordedSupply, hi]
  | failed hi hop =>
      simp only [recordedSupply, entering, recorded, hi, hop, List.append_assoc, List.cons_append,
        List.nil_append]
  | panicked hi hop =>
      simp only [recordedSupply, entering, hi, hop, List.append_assoc, List.cons_append,
        List.nil_append]

theorem recover_recorded {failure : δ} {back : List (Entry ε δ)}
    (h : Retreat t v failure s back r s') (log : List (Entry ε δ)) :
    recover (recorded δ t) v failure (s, log) = (r, s', log ++ back) := by
  cases h with
  | rolledBack h => simp only [recover, recorded, entering, h]
  | incomplete h =>
      simp only [recover, recorded, entering, h, List.append_assoc, List.cons_append,
        List.nil_append]
  | panicked h => simp only [recover, recorded, entering, h]

theorem settle_recorded {back : List (Entry ε δ)} (h : Settles t v s reached back r s')
    (log : List (Entry ε δ)) :
    settle (recorded δ t) v reached (s, log) = (r, s', log ++ back) := by
  cases h with
  | committed h => simp only [settle, recorded, entering, h]
  | notCommitted h hback =>
      rw [List.append_cons, ← recover_recorded hback]
      simp only [settle, recorded, entering, h]
  | panickedAtCommit h => simp only [settle, recorded, entering, h]
  | stopped hback => exact recover_recorded hback log
  | panicked =>
      rw [List.append_nil]
      rfl

/-- A recorded envelope enters the transcript. -/
theorem process_recorded (h : Transcript t v next i s log r s') :
    process (recorded δ t) v (recordedSupply next) (i, 0) (s, []) = some (r, s', log) := by
  have hbegin {r : Outcome ε Unit} {s₁ : σ} (hb : t.begin s = (r, s₁)) :
      (recorded δ t).begin (s, []) = (r, s₁, [.begun r]) := by
    simp only [recorded, entering, hb, List.nil_append]
  rw [process]
  cases h with
  | notBegun hb => rw [hbegin hb]
  | panickedAtBegin hb => rw [hbegin hb]
  | begun hb htakes hstops hsettles =>
      rw [hbegin hb]
      dsimp only
      rw [pullAll_of_takes (htakes.recorded 0 _), Nat.zero_add, pullAll_recorded hstops,
        Option.map_some, settle_recorded hsettles]
      rfl

end law

/-- The law of an envelope on a supply of operations. -/
structure Lawful (t : Transactional σ ε) (v : ErrorView ε δ) (next : Supply ι σ δ) (i : ι) (s : σ) :
    Prop where
  /-- Only a supply that goes on for ever with operations that succeed keeps it from returning. -/
  returns : process t v next i s = none ↔ Endless t next i s
  /-- A recorded envelope goes as the one that is not recorded, and its transcript obeys the law. -/
  transcript : ∀ r s', process t v next i s = some (r, s') →
    ∃ log, process (recorded δ t) v (recordedSupply next) (i, 0) (s, []) = some (r, s', log) ∧
      Transcript t v next i s log r s'
  /-- It succeeds when begin, every operation and the commit do, and only then. -/
  succeeds : ∀ s', process t v next i s = some (.ok (), s') ↔
    ∃ n j s₁ s₂ s₃, t.begin s = (.ok (), s₁) ∧ Takes next n i s₁ j s₂ ∧
      next j s₂ = (.ok none, s₃) ∧ t.commit s₃ = (.ok (), s')

/-- Every state that can begin, commit and roll back, and every supply of operations, whatever they
do and wherever they fail, obey the law. -/
theorem process_lawful (t : Transactional σ ε) (v : ErrorView ε δ) (next : Supply ι σ δ) (i : ι)
    (s : σ) : Lawful t v next i s where
  returns := by
    refine ⟨fun hnone => Classical.byContradiction fun hends => ?_, process_eq_none⟩
    obtain ⟨log, r, s', hlog⟩ := exists_transcript t v hends
    cases hnone.symm.trans (process_of_transcript hlog)
  transcript r s' h := by
    obtain ⟨log, hlog⟩ := transcript_of_process h
    exact ⟨log, process_recorded hlog, hlog⟩
  succeeds s' := by
    refine ⟨fun h => ?_, ?_⟩
    · obtain ⟨log, hlog⟩ := transcript_of_process h
      cases hlog with
      | begun hb htakes hstops hsettles =>
          cases hsettles with
          | notCommitted _ hback => exact absurd rfl hback.ne_ok
          | stopped hback => exact absurd rfl hback.ne_ok
          | committed hc =>
              cases hstops with
              | drained hi => exact ⟨_, _, _, _, _, hb, htakes, hi, hc⟩
    · rintro ⟨n, j, s₁, s₂, s₃, hb, htakes, hi, hc⟩
      exact process_of_transcript (.begun hb htakes (.drained hi) (.committed hc))

end TransactionGateway.Envelope
