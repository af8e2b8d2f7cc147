-- SUMMARY: Set.GateIDs and Proxy.Gates, whose three reads interleave with the set's other goroutines, and what the listed ids are in every later state: each gate keeps its kind along every run.
import Pumpe.Gate.Wf

/-!
# Listing the gates

`Proxy.Gates` (`gate/gate.go`) asks `Set.GateIDs` for the Direct, the Tor and
the WireGuard gates, one call after the other. Each call reads under the lock
of the map it lists, so each is one atomic read, but the set moves on between
the calls: a gate may be made, drained or closed after the Tor list is read and
before the WireGuard list is.

What holds of the three lists for every interleaving comes from one fact about
runs: a gate keeps its kind for ever (`Reachable.kindsKept`), because the only
write that sets a kind is the factory's, on a fresh id. So the lists name the
Direct gate, Tor gates and WireGuard gates, each id once, and no id in two lists
(`proxyGates_consistent`).
-/

namespace Pumpe.Gate

open Sys

/-- `Set.GateIDs`, one atomic read: the Direct id, or the keys of a kind map. -/
def Sys.GateIDs (s : Sys) : Kind → Except String (List Nat)
  | .direct => .ok [s.drt]
  | .tor => .ok s.tgs.keys
  | .wireGuard => .ok s.wgs.keys
  | .unknown => .error "gate: unknown kind"

/-- `Proxy.Gates`, its three calls of `GateIDs` made in the states `s₁`, `s₂`
    and `s₃` a run passes through. -/
def proxyGates (s₁ s₂ s₃ : Sys) : Except String (List Nat × List Nat × List Nat) := do
  let dct ← s₁.GateIDs .direct
  let tgs ← s₂.GateIDs .tor
  let wgs ← s₃.GateIDs .wireGuard
  pure (dct, tgs, wgs)

-- ---------------------------------------------------------------------------
-- Kinds along a run
-- ---------------------------------------------------------------------------

/-- What the state `s'` keeps of the gates of `s`: the Direct id, the ids made,
    and the kind of each. -/
structure KindsKept (s s' : Sys) : Prop where
  drt : s'.drt = s.drt
  born : s.born ⊆ s'.born
  kind : ∀ g, g = s.drt ∨ g ∈ s.born → (s'.gates g).kind = (s.gates g).kind

theorem KindsKept.refl (s : Sys) : KindsKept s s := ⟨rfl, fun _ h => h, fun _ _ => rfl⟩

theorem KindsKept.trans {s s' s'' : Sys} (h : KindsKept s s') (h' : KindsKept s' s'') :
    KindsKept s s'' where
  drt := h'.drt.trans h.drt
  born := h.born.trans h'.born
  kind g hg := (h'.kind g (hg.imp (fun e => e.trans h.drt.symm) (@h.born g))).trans (h.kind g hg)

/-- A call only adds a goroutine. -/
theorem KindsKept.call (s : Sys) (c : Api) :
    KindsKept s { s with threads := s.threads ++ [c.thread] } :=
  ⟨rfl, fun _ h => h, fun _ _ => rfl⟩

/-- A move keeps every gate's kind: the factory writes a kind only under a fresh id. -/
theorem Moves.kindsKept {s : Sys} {t : Thread} {m : Move} (hm : Moves s t m) (i : Nat) :
    KindsKept s (s.advance i m) where
  drt := advance_drt s i m
  born := apply_born_sub s m.eff
  kind _ hg := apply_kind s fun he => hg.elim (hm.alloc_fresh he).1 (hm.alloc_fresh he).2

/-- Every run keeps the gates of the state it starts from. -/
theorem Reachable.kindsKept {s₀ s : Sys} (h : Reachable s₀ s) : KindsKept s₀ s :=
  h.inv (KindsKept s₀) (.refl s₀) (fun s c _ hk => hk.trans (.call s c))
    (fun _ i _ _ _ hk _ hm => hk.trans (hm.kindsKept i))

-- ---------------------------------------------------------------------------
-- Proxy.Gates
-- ---------------------------------------------------------------------------

/-- The keys of the Tor map of a well-formed state are Tor gates, and stay so. -/
theorem Sys.Wf.kind_of_mem_tgs {s s' : Sys} (hw : s.Wf) (hk : KindsKept s s') {g : Nat}
    (hg : g ∈ s.tgs.keys) : (s'.gates g).kind = .tor := by
  obtain ⟨⟨k, v⟩, hkv, rfl⟩ := List.mem_map.1 hg
  obtain ⟨rfl, hb, hkind⟩ := hw.tgs k v hkv
  exact (hk.kind _ (.inr hb)).trans hkind

theorem Sys.Wf.kind_of_mem_wgs {s s' : Sys} (hw : s.Wf) (hk : KindsKept s s') {g : Nat}
    (hg : g ∈ s.wgs.keys) : (s'.gates g).kind = .wireGuard := by
  obtain ⟨⟨k, v⟩, hkv, rfl⟩ := List.mem_map.1 hg
  obtain ⟨rfl, hb, hkind⟩ := hw.wgs k v hkv
  exact (hk.kind _ (.inr hb)).trans hkind

/-- What `Proxy.Gates` lists under every interleaving of its three reads with
    the set's other goroutines: the Direct gate alone under Direct, and under
    Tor and WireGuard lists without repeats whose ids are, in the state of the
    last read and in every state after it, Tor and WireGuard gates; so no id
    is in two lists. -/
theorem proxyGates_consistent {cfg : SetConfig} {p : Pool} {s₁ s₂ s₃ s₄ : Sys}
    (h₁ : Reachable (newSet cfg p) s₁) (h₂ : Reachable s₁ s₂) (h₃ : Reachable s₂ s₃)
    (h₄ : Reachable s₃ s₄) :
    ∃ tgs wgs, proxyGates s₁ s₂ s₃ = .ok ([p.drt], tgs, wgs) ∧ tgs.Nodup ∧ wgs.Nodup ∧
      (s₄.gates p.drt).kind = .direct ∧ (∀ g ∈ tgs, (s₄.gates g).kind = .tor) ∧
      (∀ g ∈ wgs, (s₄.gates g).kind = .wireGuard) ∧
      p.drt ∉ tgs ∧ p.drt ∉ wgs ∧ ∀ g ∈ tgs, g ∉ wgs := by
  have h₁₃ := (h₁.trans h₂).trans h₃
  have hd₁ : s₁.drt = p.drt := h₁.kindsKept.drt
  have hd₄ : s₄.drt = p.drt := (h₁₃.trans h₄).kindsKept.drt
  have hdk : (s₄.gates p.drt).kind = .direct := hd₄ ▸ (h₁₃.trans h₄).wf.drt_kind
  have htor := fun g => (h₁.trans h₂).wf.kind_of_mem_tgs (h₃.trans h₄).kindsKept (g := g)
  have hwg := fun g => h₁₃.wf.kind_of_mem_wgs h₄.kindsKept (g := g)
  refine ⟨s₂.tgs.keys, s₃.wgs.keys, by simp only [proxyGates, GateIDs, hd₁]; rfl, s₂.tgs.nodup,
    s₃.wgs.nodup, hdk, htor, hwg, fun h => ?_, fun h => ?_, fun g ht hw => ?_⟩
  · simpa [hdk] using htor _ h
  · simpa [hdk] using hwg _ h
  · simpa [htor g ht] using hwg g hw

/-- A request takes gate `1` past its readiness check. -/
def heldState : Sys :=
  (run (newSet .torDefault .oneTor) [.call (.handle (.byID 1)), .run 0 true 0, .run 0 true 0]).get rfl

/-- Then `CloseOne` drains gate `1` and starts its close. -/
def drainedState : Sys :=
  (run heldState [.call (.closeOne 1), .run 1 true 0, .run 1 true 0, .run 1 true 0, .run 1 true 0,
    .run 1 true 0, .run 1 true 0]).get rfl

/-- Then the request calls `AddReq`, and the close is made. -/
def closedState : Sys := (run drainedState [.run 0 true 0, .run 2 true 0]).get rfl

/-- The Direct id is read first, the Tor list while a request holds gate `1`,
    and the WireGuard list once `CloseOne` has drained it; after the close gate
    `1` is still a Tor gate. -/
theorem proxyGates_consistent_closedState :
    proxyGates (newSet .torDefault .oneTor) heldState drainedState = .ok ([0], [1], []) ∧
      Invocation.close 1 ∈ closedState.log ∧
      ∃ tgs wgs, proxyGates (newSet .torDefault .oneTor) heldState drainedState =
          .ok ([Pool.oneTor.drt], tgs, wgs) ∧ tgs.Nodup ∧ wgs.Nodup ∧
        (closedState.gates Pool.oneTor.drt).kind = .direct ∧
        (∀ g ∈ tgs, (closedState.gates g).kind = .tor) ∧
        (∀ g ∈ wgs, (closedState.gates g).kind = .wireGuard) ∧
        Pool.oneTor.drt ∉ tgs ∧ Pool.oneTor.drt ∉ wgs ∧ ∀ g ∈ tgs, g ∉ wgs :=
  ⟨rfl, by decide, proxyGates_consistent .refl (.of_isSome _) (.of_isSome _) (.of_isSome _)⟩

end Pumpe.Gate
