import TransactionGateway.Gateway.Scope
import TransactionGateway.Proofs.Envelope
import TransactionGateway.Proofs.Sessions

/-! # Sessions side by side

The same session on two engines that differ in something that nobody looks at.

* **Unseen.** A relation between engines is unseen when notices and returned connections keep it,
  and the transaction calls of a connection go alike on both sides (`Session.Unseen`).
* **Calls.** Then every call of a session goes alike on both sides, with the session the same
  afterwards and the engines related.
* **Scopes.** Work that goes alike on both sides does so in an envelope and in a scope. The work
  need not be the same on both sides: it is enough that one simulates the other. -/

namespace TransactionGateway

open Database Act

/-- The sessions are the same, and their engines are related. -/
def Attached.Beside (R : Engine → Engine → Prop) (a a' : Attached) : Prop :=
  a'.session = a.session ∧ R a.engine a'.engine

theorem Attached.beside_equivalence {R : Engine → Engine → Prop} (hR : Equivalence R) :
    Equivalence (Attached.Beside R) where
  refl a := ⟨rfl, hR.refl a.engine⟩
  symm h := ⟨h.1.symm, hR.symm h.2⟩
  trans h h' := ⟨h'.1.trans h.1, hR.trans h.2 h'.2⟩

namespace Session

/-- Nothing that a session does depends on which of two related engines it is attached to. -/
structure Unseen (R : Engine → Engine → Prop) : Prop where
  note : ∀ {e e'}, R e e' → ∀ n n', R (e.note n) (e'.note n')
  putBack : ∀ {e e'}, R e e' → ∀ unwinding c, R (e.putBack unwinding c) (e'.putBack unwinding c)
  direct : ∀ call : Transaction.Call,
    Simulates (Attached.Beside R) (onConnection call.run) (onConnection call.run)

namespace Unseen

variable {R : Engine → Engine → Prop} (h : Unseen R) {a a' : Attached}
include h

/-! ### Calls -/

theorem report (ha : a.Beside R a') (n n' : Notice) :
    Attached.Beside R { a with engine := a.engine.note n }
      { a' with engine := a'.engine.note n' } := ⟨ha.1, h.note ha.2 n n'⟩

theorem event (ha : a.Beside R a') (event event' : SessionEvent) :
    (a.note event).Beside R (a'.note event') := h.report ha _ _

omit h in
theorem withFlag (ha : a.Beside R a') (flag : Bool) :
    (a.withFlag flag).Beside R (a'.withFlag flag) := by
  obtain ⟨hs, he⟩ := ha
  exact ⟨by rw [Attached.withFlag, Attached.withFlag, hs], he⟩

omit h in
theorem recordIsActive (ha : a.Beside R a') : a'.recordIsActive = a.recordIsActive := by
  rw [Attached.recordIsActive, Attached.recordIsActive, ha.1]

theorem simulates_begin : Simulates (Attached.Beside R) begin begin := by
  intro a a' ha
  obtain ⟨r, b, b', hb, hb', hd⟩ := (h.direct .begin).exists_eq ha
  rw [Transaction.Call.run] at hb hb'
  unfold begin
  rw [ha.1, hb, hb']
  split
  · exact ⟨rfl, ha⟩
  · cases r with
    | ok u => exact ⟨rfl, h.event (withFlag hd true) _ _⟩
    | err e => exact ⟨rfl, hd⟩
    | panic => exact ⟨rfl, hd⟩

theorem simulates_settle (event : SessionEvent) (r : Outcome GatewayError Unit) :
    Simulates (Attached.Beside R) (settle event r) (settle event r) := by
  intro a a' ha
  cases r with
  | ok u => exact ⟨rfl, h.event (withFlag ha false) _ _⟩
  | err e =>
      show _ ∧ (a.withFlag a.recordIsActive).Beside R (a'.withFlag a'.recordIsActive)
      rw [recordIsActive ha]
      exact ⟨rfl, withFlag ha _⟩
  | panic => exact ⟨rfl, ha⟩

/-- A transaction call, and then the flag set as it has ended. -/
theorem simulates_settled (event : SessionEvent) (call : Transaction.Call) :
    Simulates (Attached.Beside R)
      (fun a => settle event (onConnection call.run a).1 (onConnection call.run a).2)
      (fun a => settle event (onConnection call.run a).1 (onConnection call.run a).2) := by
  intro a a' ha
  obtain ⟨hr, hd⟩ := h.direct call a a' ha
  dsimp only
  rw [← hr]
  exact h.simulates_settle event _ _ _ hd

theorem simulates_commit : Simulates (Attached.Beside R) commit commit := by
  intro a a' ha
  have hsettled := h.simulates_settled .committed .commit a a' ha
  unfold commit
  rw [ha.1]
  split
  · exact ⟨rfl, ha⟩
  · split
    · exact ⟨rfl, ha⟩
    · exact hsettled

theorem simulates_rollback : Simulates (Attached.Beside R) rollback rollback := by
  intro a a' ha
  have hsettled := h.simulates_settled .rolledBack .rollback a a' ha
  unfold rollback
  rw [ha.1, recordIsActive ha]
  split
  · exact ⟨rfl, ha⟩
  · split
    · exact ⟨rfl, ha⟩
    · split
      · exact ⟨rfl, h.event (withFlag ha false) _ _⟩
      · exact hsettled

theorem giveBack (ha : a.Beside R a') (unwinding : Bool) :
    (Session.giveBack unwinding a).Beside R (Session.giveBack unwinding a') := by
  unfold Session.giveBack
  rw [ha.1]
  split
  · exact ha
  · exact ⟨rfl, h.putBack ha.2 _ _⟩

theorem simulates_close (unwinding : Bool) :
    Simulates (Attached.Beside R) (close unwinding) (close unwinding) := by
  intro a a' ha
  have hrolled : (if a.session.inTransaction then rollback a else (.ok (), a)).1 =
        (if a.session.inTransaction then rollback a' else (.ok (), a')).1 ∧
      (if a.session.inTransaction then rollback a else (.ok (), a)).2.Beside R
        (if a.session.inTransaction then rollback a' else (.ok (), a')).2 := by
    split
    · exact h.simulates_rollback a a' ha
    · exact ⟨rfl, ha⟩
  unfold close
  rw [ha.1]
  split
  · exact ⟨rfl, ha⟩
  · exact ⟨hrolled.1, h.event (h.giveBack hrolled.2 unwinding) _ _⟩

theorem letGo (ha : a.Beside R a') (unwinding : Bool) (failed : String → SessionEvent) :
    (Session.letGo unwinding failed a).Beside R (Session.letGo unwinding failed a') := by
  obtain ⟨r, b, b', hc, hc', hd⟩ := (h.simulates_close unwinding).exists_eq ha
  unfold Session.letGo
  rw [hc, hc']
  cases r with
  | err e => exact h.event hd _ _
  | ok u => exact hd
  | panic => exact hd

/-! ### Envelopes and scopes -/

theorem simulates_run {δ : Type} (v : ErrorView GatewayError δ)
    {ops ops' : List (Act Attached δ Unit)}
    (hops : Simulates (Attached.Beside R) (Envelope.runAll transactional v 0 ops)
      (Envelope.runAll transactional v 0 ops')) :
    Simulates (Attached.Beside R) (Envelope.run transactional v ops)
      (Envelope.run transactional v ops') :=
  Envelope.simulates_run (fun _ _ _ ha => h.report ha _ _) h.simulates_begin
    h.simulates_commit h.simulates_rollback hops

variable {ε α : Type}

theorem endScope (lift : GatewayError → ε) (r : Outcome ε α) (ha : a.Beside R a') :
    (Engine.endScope lift r a).1 = (Engine.endScope lift r a').1 ∧
      R (Engine.endScope lift r a).2 (Engine.endScope lift r a').2 := by
  obtain ⟨rc, b, b', hc, hc', hd⟩ := (h.simulates_close false).exists_eq ha
  unfold Engine.endScope
  rw [hc, hc']
  cases r with
  | panic => exact ⟨rfl, (h.letGo ha true .dropFailed).2⟩
  | ok value => cases rc <;> exact ⟨rfl, hd.2⟩
  | err failure =>
      cases rc with
      | ok u => exact ⟨rfl, hd.2⟩
      | panic => exact ⟨rfl, hd.2⟩
      | err e => exact ⟨rfl, (h.event hd _ _).2⟩

/-- Work in a scope, once its session has been opened. -/
theorem simulates_scoped (lift : GatewayError → ε) {work work' : Act Attached ε α}
    (hwork : Simulates (Attached.Beside R) work work') (s : Session) :
    Simulates R (fun e => Engine.endScope lift (work ⟨s, e⟩).1 (work ⟨s, e⟩).2)
      (fun e => Engine.endScope lift (work' ⟨s, e⟩).1 (work' ⟨s, e⟩).2) := by
  intro e e' he
  obtain ⟨hr, hd⟩ := hwork ⟨s, e⟩ ⟨s, e'⟩ ⟨rfl, he⟩
  dsimp only
  rw [← hr]
  exact h.endScope lift _ hd

end Unseen
end Session

end TransactionGateway
