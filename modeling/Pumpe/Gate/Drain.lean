-- SUMMARY: Drain safety and the device lifecycle under serial management calls, read off the lifecycle invariant, with the schedules that break the laws stated without the restriction.
import Pumpe.Gate.Lifecycle

/-!
# Drain safety and the device lifecycle

Two laws of `forState` (`gate/gate.go`) follow from `Sys.Life` in every state a
run with serial management calls reaches. At a device call the gate is out of
both maps and not Ready, in the epoch of the drain that preceded it, and every
request still holding it took it before that drain; from the drain until
`Set.toState` re-admits it no request takes it. A gate is closed at most once,
and never refreshed after its close.

Neither law is "no request holds the gate": a request that passed its readiness
check before the drain may call `AddReq` after `noReqs` read zero
(`close_while_request_in_flight`). Without the serial restriction the close law
fails: two `CloseOne` calls on one id that both pass `byID` both drain the gate
and both close it (`overlapping_closeOne_closes_twice`).
-/

namespace Pumpe.Gate

open Sys

/-- The program points of a management call from the `toState` that begins its
    drain to the `toState` of `Set.toState` that re-admits or restores the gate. -/
def Mgmt.draining : Mgmt → Bool
  | .remove _ _ _ _ | .isShutting _ _ _ _ | .noReqs _ _ _ _ | .refreshOne _ _ _
  | .resetReqs _ _ _ _ | .setState _ _ _ _ => true
  | _ => false

variable {g : Nat} {s : Sys}

/-- A management goroutine on `g` that is draining it knows `g` is not Ready. -/
theorem Sys.MgmtOk.state_ne_ready {c : Mgmt} (h : s.MgmtOk g c) (hd : c.draining = true) :
    (s.gates g).cell.state ≠ .ready := by
  cases c
  case remove => exact h.notReady
  case isShutting | noReqs => exact h.1.notReady
  case refreshOne | resetReqs | setState => exact h.1
  all_goals simp [Mgmt.draining] at hd

/-- While a gate other than the Direct gate is not Ready no goroutine takes it:
    every request holding it after a move held it, in the same epoch, before. -/
theorem Moves.heldEpoch_of_not_ready {t : Thread} {m : Move} (hm : Moves s t m) {e : Nat}
    (hr : (s.gates g).cell.state ≠ .ready) (hd : g ≠ s.drt) :
    ∀ x ∈ m.pc :: m.spawn, x.heldEpoch g = some e → t.heldEpoch g = some e :=
  fun x hx he => (hm.heldEpoch x hx he).resolve_right fun h => h.2.elim hr hd

-- ---------------------------------------------------------------------------
-- Drain safety
-- ---------------------------------------------------------------------------

/-- Drain safety with serial management calls. When the device goroutine of
    `RefreshOne` or `CloseOne`, started after the drain with epoch `e`, is about
    to call `refresh()` or `close()` on `g`, the gate is in neither map, not
    Ready and still in epoch `e`, and every request holding it took it before
    the drain. While a management goroutine drains `g`, `g` is not Ready and no
    move of any goroutine makes a new holder of `g`. -/
theorem device_call_on_drained_gate {cfg : SetConfig} {p : Pool}
    (h : ReachableSerial (newSet cfg p) s) (g : Nat) :
    (∀ e, Thread.dev (.refresh g e) ∈ s.threads ∨ Thread.dev (.close g (some e)) ∈ s.threads →
      ¬s.InMaps g ∧ (s.gates g).cell.state ≠ .ready ∧ (s.gates g).epoch = e ∧ s.HeldBefore g e) ∧
    (∀ c, Thread.mgmt c ∈ s.threads → c.operand = some g → c.draining = true →
      (s.gates g).cell.state ≠ .ready ∧ ∀ t m, Moves s t m →
        ∀ x ∈ m.pc :: m.spawn, ∀ e, x.heldEpoch g = some e → t.heldEpoch g = some e) := by
  have hl := h.life g
  refine ⟨fun e he => ?_, fun c hc hop hd => ?_⟩
  · rcases he with he | he
    · obtain ⟨j, hj⟩ := List.mem_iff_getElem?.1 he
      have hr := hl.refreshing j _ hj (by simp [Thread.refreshes])
      exact ⟨hr.notInMaps, hr.notReady, hr.drained e rfl⟩
    · have hc := hl.closing e he
      exact ⟨hc.notInMaps, by simp [hc.closed], hc.epoch, hc.held⟩
  · have hr := (hl.mgmt c hc hop).state_ne_ready hd
    have hw := h.reachable.wf
    have hd : g ≠ s.drt := fun h' => hw.drt_born (h' ▸ hw.operand _ hc g hop)
    exact ⟨hr, fun t m hm x hx e => hm.heldEpoch_of_not_ready hr hd x hx⟩

/-- `CloseOne` on gate `1` drains it and starts its close. -/
def closeRun : List Act :=
  [.call (.closeOne 1), .run 0 true 0, .run 0 true 0, .run 0 true 0, .run 0 true 0,
   .run 0 true 0, .run 0 true 0]

theorem device_call_on_drained_gate_closeRun :
    ∃ s, ReachableSerial (newSet .torDefault .oneTor) s ∧
      Thread.dev (.close 1 (some 1)) ∈ s.threads ∧
      ¬s.InMaps 1 ∧ (s.gates 1).cell.state ≠ .ready ∧ (s.gates 1).epoch = 1 ∧ s.HeldBefore 1 1 := by
  obtain ⟨s, h, hc⟩ : ∃ s, ReachableSerial (newSet .torDefault .oneTor) s ∧
      Thread.dev (.close 1 (some 1)) ∈ s.threads := ReachableSerial.of_run closeRun (by decide)
  exact ⟨s, h, hc, (device_call_on_drained_gate h 1).1 1 (.inr hc)⟩

/-- A request takes gate `1` past its readiness check; before it calls `AddReq`,
    `CloseOne` drains the gate, reads no request in flight and starts its close;
    then the request calls `AddReq` and the close is made. -/
def closeWhileHeldRun : List Act :=
  [.call (.handle (.byID 1)), .run 0 true 0, .run 0 true 0,
   .call (.closeOne 1), .run 1 true 0, .run 1 true 0, .run 1 true 0, .run 1 true 0,
   .run 1 true 0, .run 1 true 0, .run 0 true 0, .run 2 true 0]

/-- The drain does not keep requests off the gate at its device call: with
    serial management calls, `close()` is made on gate `1` while a request is in
    flight on it. -/
theorem close_while_request_in_flight :
    ∃ s, ReachableSerial (newSet .torDefault .oneTor) s ∧
      Invocation.close 1 ∈ s.log ∧ Thread.req (.didReq 1 0) ∈ s.threads :=
  ReachableSerial.of_run closeWhileHeldRun (by decide)

-- ---------------------------------------------------------------------------
-- The device lifecycle
-- ---------------------------------------------------------------------------

/-- With serial management calls every gate is closed at most once, and never
    refreshed after it was closed. -/
theorem close_once_no_refresh_after {cfg : SetConfig} {p : Pool}
    (h : ReachableSerial (newSet cfg p) s) (g : Nat) :
    s.log.count (.close g) ≤ 1 ∧ ∀ l₁ l₂, s.log = l₁ ++ .close g :: l₂ → .refresh g ∉ l₂ := by
  have hl := h.life g
  refine ⟨?_, hl.order⟩
  have hle : s.log.count (.close g) ≤ s.closes g := Nat.le_add_right _ _
  rcases Nat.eq_zero_or_pos (s.closes g) with h0 | hpos
  · omega
  · exact hle.trans_eq (hl.closed hpos).once

/-- `RefreshOne` on gate `1` refreshes it and re-admits it; then `CloseOne`
    closes it, and `Shutdown` runs to the end. -/
def refreshCloseRun : List Act :=
  [.call (.refreshOne 1), .run 0 true 0, .run 0 true 0, .run 0 true 0, .run 0 true 0,
   .run 0 true 0, .run 0 true 0, .run 1 true 0, .run 1 true 0, .run 0 true 0, .run 0 true 0,
   .run 0 true 0, .run 0 true 0,
   .call (.closeOne 1), .run 2 true 0, .run 2 true 0, .run 2 true 0, .run 2 true 0,
   .run 2 true 0, .run 2 true 0, .run 3 true 0,
   .call .shutdown, .run 4 true 0, .run 4 true 0, .run 4 true 0, .run 4 true 0, .run 4 true 0]

theorem close_once_no_refresh_after_refreshCloseRun :
    ∃ s, ReachableSerial (newSet .torDefault .oneTor) s ∧
      s.log = [.refresh 1, .close 1] ∧ s.shutDone = true ∧
      s.log.count (.close 1) ≤ 1 ∧ ∀ l₁ l₂, s.log = l₁ ++ .close 1 :: l₂ → .refresh 1 ∉ l₂ := by
  obtain ⟨s, h, hp⟩ : ∃ s, ReachableSerial (newSet .torDefault .oneTor) s ∧
      s.log = [.refresh 1, .close 1] ∧ s.shutDone = true :=
    ReachableSerial.of_run refreshCloseRun (by decide)
  exact ⟨s, h, hp.1, hp.2, close_once_no_refresh_after h 1⟩

/-- Two `CloseOne` calls on gate `1` both pass `byID`; each drains the gate, the
    second from the Closed state the first left, and each starts a close. -/
def twoClosesRun : List Act :=
  [.call (.closeOne 1), .call (.closeOne 1), .run 0 true 0, .run 1 true 0,
   .run 0 true 0, .run 0 true 0, .run 0 true 0, .run 0 true 0, .run 0 true 0,
   .run 1 true 0, .run 1 true 0, .run 1 true 0, .run 1 true 0, .run 1 true 0,
   .run 2 true 0, .run 3 true 0]

/-- Overlapping `CloseOne` calls on one id close the gate twice. -/
theorem overlapping_closeOne_closes_twice :
    ∃ s, Reachable (newSet .torDefault .oneTor) s ∧ s.log.count (.close 1) = 2 :=
  Reachable.of_run twoClosesRun (by decide)

end Pumpe.Gate
