-- SUMMARY: The Direct gate in every reachable state: Ready, never drained, refreshed or closed, and returned by `ByID` and `ByKind`.
import Pumpe.Gate.Wf

/-!
# The Direct gate

`RefreshOne` and `CloseOne` refuse the Direct id before they look a gate up,
and `New` makes only Tor gates under fresh ids, so no goroutine ever works on
the Direct gate. Its state is therefore never moved, and `ByKind` may hand it
out without the readiness check it makes for the other kinds.
-/

namespace Pumpe.Gate

open Sys

/-- A write leaves the state of a gate alone unless a management or device
    goroutine acts on that gate, or the factory allocates it. -/
theorem Sys.apply_state_of_target (s : Sys) {e : Eff} {g : Nat} (ht : e.target ≠ some g)
    (ha : e ≠ .alloc g) : ((s.apply e).gates g).cell.state = (s.gates g).cell.state := by
  by_cases hg : e.gate? = some g
  · cases e <;> simp_all [Eff.gate?, Eff.target, apply]
  · rw [apply_gates_of_ne s hg]

/-- No goroutine works on the Direct gate. -/
theorem Sys.Wf.drt_not_operand {s : Sys} (hw : s.Wf) {t : Thread} (ht : t ∈ s.threads) :
    t.operand ≠ some s.drt :=
  fun h => hw.drt_born (hw.operand t ht _ h)

/-- The Direct gate is Ready in every reachable state. -/
theorem Reachable.drt_ready {cfg : SetConfig} {p : Pool} {s : Sys}
    (h : Reachable (newSet cfg p) s) : (s.gates s.drt).cell.state = .ready :=
  h.inv (fun s => (s.gates s.drt).cell.state = .ready)
    (by simp [newSet, ExitGate.new, GateState.new]) (fun _ _ _ hd => hd)
    (fun s i t m hr hd ht hm => by
      have hw := hr.wf
      simp only [advance_gates, advance_drt]
      rw [apply_state_of_target s (fun he => hw.drt_not_operand (List.getElem?_mem ht)
        (hm.operand_of_target he)) (fun he => (hm.alloc_fresh he).1 rfl)]
      exact hd)

/-- The Direct gate stays Ready; no goroutine drains, re-admits, refreshes or
    closes it, and no device call on it is ever made; `ByID` with its id and
    `ByKind` with the Direct kind return it. -/
theorem direct_gate_immutable {cfg : SetConfig} {p : Pool} {s : Sys}
    (h : Reachable (newSet cfg p) s) :
    (s.gates s.drt).cell.state = .ready ∧ (∀ t ∈ s.threads, t.operand ≠ some s.drt) ∧
      Invocation.refresh s.drt ∉ s.log ∧ Invocation.close s.drt ∉ s.log ∧
      s.ByID s.drt = .ok s.drt ∧ s.byKindStart .direct = .addReq s.drt (s.gates s.drt).epoch := by
  have hw := h.wf
  have hr := h.drt_ready
  refine ⟨hr, fun t ht => hw.drt_not_operand ht, fun hl => hw.drt_born (hw.log _ (.inl hl)),
    fun hl => hw.drt_born (hw.log _ (.inr hl)), ?_, by simp [byKindStart]⟩
  simp [ByID, byID, GateState.isReady, hr]

/-- A request takes the Direct gate by kind and is in flight on it; `CloseOne`
    and `RefreshOne` on its id are refused. -/
def directState : Sys :=
  (run (newSet .torDefault .oneTor) [.call (.handle (.byKind .direct)), .run 0 true 0,
    .run 0 true 0, .call (.closeOne 0), .run 1 true 0, .call (.refreshOne 0), .run 2 true 0]).get rfl

theorem direct_gate_immutable_directState :
    directState.threads = [.req (.didReq 0 0), .mgmt .done, .mgmt .done] ∧
      (directState.gates directState.drt).cell.state = .ready ∧
      (∀ t ∈ directState.threads, t.operand ≠ some directState.drt) ∧
      Invocation.refresh directState.drt ∉ directState.log ∧
      Invocation.close directState.drt ∉ directState.log ∧
      directState.ByID directState.drt = .ok directState.drt ∧
      directState.byKindStart .direct = .addReq directState.drt (directState.gates directState.drt).epoch :=
  ⟨by decide, direct_gate_immutable (.of_isSome _)⟩

end Pumpe.Gate
