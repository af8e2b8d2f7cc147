-- SUMMARY: What the kind maps can hold over whole runs: entries come only from `New` and `Set.toState`, `stateClosed` is never left, and the runs that put a Closed gate back into a map and push the Tor map past `TorMax`.
import Pumpe.Gate.Wf

/-!
# The kind maps

`forState` takes a gate out of its map before it drains it, and `Set.toState`
puts it back, both after a refresh and when the drain times out. The restore
moves the gate back to the state it read on entry, but `stateClosed` is
terminal: a `CloseOne` whose drain times out puts a Closed gate back into its
map. `New` checks `TorMax` against `Len` and stores its gate only after the
factory returns, so two calls that both read `Len` before either stores can
pass the cap.
-/

namespace Pumpe.Gate

open Sys

-- ---------------------------------------------------------------------------
-- stateClosed is terminal
-- ---------------------------------------------------------------------------

/-- No write moves a gate out of `stateClosed`, but the allocation of its id. -/
theorem Sys.apply_state_closed (s : Sys) {e : Eff} {g : Nat}
    (hc : (s.gates g).cell.state = .closed) (ha : e ≠ .alloc g) :
    ((s.apply e).gates g).cell.state = .closed := by
  by_cases hg : e.gate? = some g
  · cases e <;> simp_all [Eff.gate?, apply, insert]
    split <;> simp [hc]
  · rw [apply_gates_of_ne s hg, hc]

/-- A gate that is Closed stays Closed along every run. -/
theorem Reachable.closed_stays {s s' : Sys} {g : Nat} (h : Reachable s s') (hb : g ∈ s.born)
    (hc : (s.gates g).cell.state = .closed) : (s'.gates g).cell.state = .closed :=
  (h.inv (fun s => g ∈ s.born ∧ (s.gates g).cell.state = .closed) ⟨hb, hc⟩
    (fun _ _ _ h => h)
    (fun s _ _ m _ h _ hm => ⟨apply_born_sub s m.eff h.1,
      apply_state_closed s h.2 fun he => (hm.alloc_fresh he).2 h.1⟩)).2

-- ---------------------------------------------------------------------------
-- Runs
-- ---------------------------------------------------------------------------

/-- A timed-out `CloseOne`: a request is in flight on gate `1` while `CloseOne`
    drains it to `stateClosed`; the deadline passes and `Set.toState` restores
    the gate to the state it read on entry. -/
def closeTimeoutRun : List Act :=
  [.call (.handle (.byID 1)), .run 0 true 0, .run 0 true 0, .run 0 true 0,
   .call (.closeOne 1), .run 1 true 0, .run 1 true 0, .run 1 true 0, .run 1 true 0,
   .run 1 true 0, .run 1 false 0, .run 1 true 0, .run 1 true 0, .run 1 true 0]

/-- After `closeTimeoutRun` gate `1` is back in the Tor map, Closed. -/
theorem closed_gate_in_tor_map :
    ∃ s, Reachable (newSet .torDefault .oneTor) s ∧ (1, 1) ∈ s.tgs.entries ∧
      (s.gates 1).cell.state = .closed :=
  Reachable.of_run closeTimeoutRun (by decide)

/-- Eleven steps into `closeTimeoutRun` the `CloseOne` has taken the restore path
    of `forState` and asks `Set.toState` for the state it read on entry, Ready;
    the gate never becomes Ready again. -/
theorem closeOne_restore_keeps_closed :
    ∃ s, Reachable (newSet .torDefault .oneTor) s ∧
      s.threads[1]? = some (.mgmt (.resetReqs .closeOne 1 .ready true)) ∧
      ∀ s', Reachable s s' → (s'.gates 1).cell.state = .closed := by
  obtain ⟨s, hs, ht, hc, hb⟩ : ∃ s, Reachable (newSet .torDefault .oneTor) s ∧
      s.threads[1]? = some (.mgmt (.resetReqs .closeOne 1 .ready true)) ∧
        (s.gates 1).cell.state = .closed ∧ 1 ∈ s.born :=
    Reachable.of_run (closeTimeoutRun.take 11) (by decide)
  exact ⟨s, hs, ht, fun s' h => h.closed_stays hb hc⟩

/-- Two `New(ctx, Tor)` calls that both read `Len` before either stores its gate,
    on a set with no Tor gate and `TorMax = 1`. -/
def twoNewRun : List Act :=
  [.call (.new .tor), .call (.new .tor), .run 0 true 0, .run 1 true 0, .run 0 true 0,
   .run 1 true 0, .run 0 true 5, .run 1 true 6, .run 0 true 0, .run 1 true 0]

/-- After `twoNewRun` the Tor map holds two gates, over `TorMax = 1`. -/
theorem tor_map_over_torMax :
    ∃ s, Reachable (newSet ⟨.tor, false, 1⟩ ⟨0, [], [], by decide⟩) s ∧
      s.cfg.torMax < (s.tgs.len : Int) :=
  Reachable.of_run twoNewRun (by decide)

end Pumpe.Gate
