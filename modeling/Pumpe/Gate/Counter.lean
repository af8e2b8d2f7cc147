-- SUMMARY: The in-flight counter of every gate against the requests in flight on it: never above them, and equal to them unless a reset zeroed it under live requests.
import Pumpe.Gate.Wf

/-!
# The in-flight counter

`gateState.nreq` is meant to count the requests between their `AddReq` and
their `DidReq` on the gate (`Sys.inFlight`). `Set.toState` zeroes it with
`resetReqs`, both when `RefreshOne` re-admits the gate and when a drain that
timed out restores it; in the second case requests are still in flight, and
their `DidReq` later saturates at zero. So the counter never runs above the
requests in flight, and it stays equal to them until such a reset, which the
ghost `lost` records.
-/

namespace Pumpe.Gate

namespace Sys

/-- The counter after a write. -/
theorem apply_nreq (s : Sys) (e : Eff) (g : Nat) :
    ((s.apply e).gates g).cell.nreq =
      if e = .addReq g then (s.gates g).cell.nreq + 1
      else if e = .didReq g then (s.gates g).cell.nreq - 1
      else if e = .resetReqs g ∨ e = .alloc g then 0
      else (s.gates g).cell.nreq := by
  by_cases hg : e.gate? = some g
  · cases e <;> simp only [Eff.gate?, Option.some.injEq, reduceCtorEq] at hg <;> subst hg <;>
      simp [apply, insert, ExitGate.new, GateState.new]
    split <;> simp
  · rw [apply_gates_of_ne s hg]
    cases e <;> simp_all [Eff.gate?]

/-- The ghost `lost` after a write. -/
theorem apply_lost (s : Sys) (e : Eff) (g : Nat) :
    ((s.apply e).gates g).lost =
      if e = .resetReqs g then (s.gates g).lost || s.inFlight g != 0
      else if e = .alloc g then false
      else (s.gates g).lost := by
  by_cases hg : e.gate? = some g
  · cases e <;> simp only [Eff.gate?, Option.some.injEq, reduceCtorEq] at hg <;> subst hg <;>
      simp [apply, insert, ExitGate.new]
    split <;> simp
  · rw [apply_gates_of_ne s hg]
    cases e <;> simp_all [Eff.gate?]

end Sys

open Sys

theorem Thread.picked_of_serves {t : Thread} {g : Nat} (h : t.serves g = true) :
    t.picked = some g := by
  cases t with
  | req r => cases r <;> simp_all [Thread.serves, Thread.picked, Req.picked]
  | _ => simp [Thread.serves] at h

@[simp] theorem Sys.serves_byKindStart (s : Sys) (k : Kind) (g : Nat) :
    (Thread.req (s.byKindStart k)).serves g = false := by
  unfold byKindStart; split <;> rfl

/-- No request is in flight on a gate the factory has not made yet. -/
theorem Sys.Wf.inFlight_fresh {s : Sys} (hw : s.Wf) {g : Nat} (hg : g ≠ s.drt ∧ g ∉ s.born) :
    s.inFlight g = 0 :=
  List.countP_eq_zero.2 fun t ht hs => by
    rcases hw.picked t ht g (Thread.picked_of_serves hs) with h | h
    · exact hg.1 h
    · exact hg.2 h

/-- A move changes the requests in flight on `g` exactly by its `AddReq` or `DidReq`. -/
theorem Moves.inFlight {s : Sys} {i : Nat} {t : Thread} {m : Move} (ht : s.threads[i]? = some t)
    (hm : Moves s t m) (g : Nat) :
    (s.advance i m).inFlight g + (if m.eff = .didReq g then 1 else 0) =
      s.inFlight g + (if m.eff = .addReq g then 1 else 0) := by
  have := countP_advance (Thread.serves g) m ht
  unfold Sys.inFlight
  cases hm
  case pick h =>
    rcases byKind_eq_some h with rfl | ⟨_, rfl⟩ | ⟨_, _, _, rfl⟩ <;> simp_all [Thread.serves]
  case byKind | random =>
    simp only [serves_byKindStart, Bool.false_eq_true, if_false] at this
    simpa [Thread.serves] using this
  all_goals simp_all [Thread.serves]

-- ---------------------------------------------------------------------------
-- The invariant
-- ---------------------------------------------------------------------------

/-- The counter of `g` against the requests in flight on it. -/
structure Sys.CounterOk (s : Sys) (g : Nat) : Prop where
  le : (s.gates g).cell.nreq ≤ s.inFlight g
  eq : (s.gates g).lost = false → (s.gates g).cell.nreq = s.inFlight g

namespace Sys.CounterOk

variable {s : Sys}

theorem call (hc : ∀ g, s.CounterOk g) (c : Api) (g : Nat) :
    CounterOk { s with threads := s.threads ++ [c.thread] } g := by
  obtain ⟨hle, heq⟩ := hc g
  have hf : ({ s with threads := s.threads ++ [c.thread] } : Sys).inFlight g = s.inFlight g := by
    cases c <;> simp [inFlight, Api.thread, Thread.serves]
  exact ⟨hf ▸ hle, hf ▸ heq⟩

theorem move (hw : s.Wf) (hc : ∀ g, s.CounterOk g) {i : Nat} {t : Thread} {m : Move}
    (ht : s.threads[i]? = some t) (hm : Moves s t m) (g : Nat) : (s.advance i m).CounterOk g := by
  have hf := hm.inFlight ht g
  obtain ⟨hle, heq⟩ := hc g
  have h0 : m.eff = .alloc g → s.inFlight g = 0 := fun ha => hw.inFlight_fresh (hm.alloc_fresh ha)
  constructor
  · simp only [advance_gates, apply_nreq]
    split_ifs at * <;> simp_all
  · simp only [advance_gates, apply_nreq, apply_lost]
    split_ifs at * <;> simp_all
    omega

end Sys.CounterOk

theorem Sys.CounterOk.init (cfg : SetConfig) (p : Pool) (g : Nat) : (newSet cfg p).CounterOk g := by
  have h0 : (newSet cfg p).inFlight g = 0 := by simp [Gate.newSet, inFlight]
  constructor <;> rw [newSet_gates, h0] <;> simp [ExitGate.new, GateState.new]

/-- The counter law holds in every state reachable from `NewSet`. -/
theorem Reachable.counterOk {cfg : SetConfig} {p : Pool} {s : Sys}
    (h : Reachable (newSet cfg p) s) (g : Nat) : s.CounterOk g :=
  h.inv (fun s => ∀ g, s.CounterOk g) (.init cfg p) (fun _ c _ hc => Sys.CounterOk.call hc c)
    (fun _ _ _ _ hr hc ht hm => Sys.CounterOk.move hr.wf hc ht hm) g

/-- The counter never exceeds the requests in flight, and equals them unless some
    `resetReqs` zeroed it while requests were in flight. -/
theorem nreq_le_inFlight {cfg : SetConfig} {p : Pool} {s : Sys}
    (h : Reachable (newSet cfg p) s) (g : Nat) :
    (s.gates g).cell.nreq ≤ s.inFlight g ∧
      ((s.gates g).lost = false → (s.gates g).cell.nreq = s.inFlight g) :=
  ⟨(h.counterOk g).le, (h.counterOk g).eq⟩

/-- A request is in flight on gate `1` while `RefreshOne` drains it. -/
def drainingState : Sys :=
  (run (newSet .torDefault .oneTor) [.call (.handle (.byID 1)), .run 0 true 0, .run 0 true 0,
    .run 0 true 0, .call (.refreshOne 1), .run 1 true 0, .run 1 true 0, .run 1 true 0,
    .run 1 true 0, .run 1 true 0, .run 1 true 0]).get rfl

theorem nreq_le_inFlight_drainingState :
    (drainingState.gates 1).cell.nreq = 1 ∧ drainingState.inFlight 1 = 1 ∧
      (drainingState.gates 1).cell.nreq ≤ drainingState.inFlight 1 ∧
      ((drainingState.gates 1).lost = false →
        (drainingState.gates 1).cell.nreq = drainingState.inFlight 1) :=
  ⟨by decide, by decide, nreq_le_inFlight (.of_isSome _) 1⟩

/-- A request in flight on gate `1` while `RefreshOne` drains it; the drain times
    out and restores the gate, zeroing its counter. -/
def resetRun : List Act :=
  [.call (.handle (.byID 1)), .run 0 true 0, .run 0 true 0, .run 0 true 0,
   .call (.refreshOne 1), .run 1 true 0, .run 1 true 0, .run 1 true 0, .run 1 true 0,
   .run 1 true 0, .run 1 false 0, .run 1 true 0, .run 1 true 0, .run 1 true 0]

/-- The counter can run below the requests in flight: after `resetRun` gate `1`
    reads zero with one request in flight on it. -/
theorem nreq_lt_inFlight_after_reset :
    ∃ s, Reachable (newSet .torDefault .oneTor) s ∧ (s.gates 1).cell.nreq < s.inFlight 1 := by
  obtain ⟨s, hs, hlt⟩ : ∃ s, run (newSet .torDefault .oneTor) resetRun = some s ∧
      (s.gates 1).cell.nreq < s.inFlight 1 := ⟨_, rfl, by decide⟩
  exact ⟨s, Reachable.refl.run hs, hlt⟩

end Pumpe.Gate
