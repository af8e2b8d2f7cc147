-- SUMMARY: The two set-wide guards: `onceShut` runs the body of `Shutdown` once, and the `warming` flag lets one `Warmup` run at a time.
import Pumpe.Gate.Shutdown

/-!
# The guards of `Shutdown` and `Warmup`

`Set.Shutdown` runs its body inside `onceShut.Do`, and `Set.Warmup` runs its
body between a compare-and-swap of `warming` from `0` to `1` and the deferred
store of `0`. The first guard is `Sys.OnceInv` of `Pumpe.Gate.Shutdown`. The
second is `Sys.WarmInv`: the flag's value is the number of `Warmup` calls
between the swap and the store, as the word of a lock is the number of its
holders.
-/

namespace Pumpe.Gate

open Sys

/-- `onceShut` runs the body of `Shutdown` once: in every reachable state at most
    one `Shutdown` call is inside it, and none is once a call has returned from
    it or from waiting on it; a later call waiting in `onceShut.Do` moves on
    only when no call is inside the body. -/
theorem shutdown_body_runs_once {cfg : SetConfig} {p : Pool} {s : Sys}
    (h : Reachable (newSet cfg p) s) :
    s.threads.countP Thread.activeShutdown ≤ 1 ∧
      (s.shutDone = true → s.threads.countP Thread.activeShutdown = 0) ∧
      (Thread.shutdown .done ∈ s.threads → s.threads.countP Thread.activeShutdown = 0) ∧
      (∀ m, Moves s (.shutdown .blocked) m → s.threads.countP Thread.activeShutdown = 0) := by
  have hi := h.onceInv
  refine ⟨hi.active, hi.shutDone, hi.done, fun m hm => ?_⟩
  cases hm with
  | unblock hd => exact hi.shutDone hd

/-- Two `Shutdown` calls: the first enters the body of `onceShut`, the second waits. -/
def twoShutdownsRun : List Act :=
  [.call .shutdown, .call .shutdown, .run 0 true 0, .run 1 true 0, .run 0 true 0]

theorem shutdown_body_runs_once_twoShutdownsRun :
    ∃ s, Reachable (newSet .torDefault .oneTor) s ∧
      s.threads = [.shutdown .tors, .shutdown .blocked] ∧
      s.threads.countP Thread.activeShutdown ≤ 1 ∧
      (s.shutDone = true → s.threads.countP Thread.activeShutdown = 0) ∧
      (Thread.shutdown .done ∈ s.threads → s.threads.countP Thread.activeShutdown = 0) ∧
      (∀ m, Moves s (.shutdown .blocked) m → s.threads.countP Thread.activeShutdown = 0) := by
  obtain ⟨s, h, hs⟩ : ∃ s, Reachable (newSet .torDefault .oneTor) s ∧
      s.threads = [.shutdown .tors, .shutdown .blocked] := Reachable.of_run twoShutdownsRun (by decide)
  exact ⟨s, h, hs, shutdown_body_runs_once h⟩

-- ---------------------------------------------------------------------------
-- The warming flag
-- ---------------------------------------------------------------------------

/-- A `Warmup` between its compare-and-swap and its deferred store. -/
def Thread.warmingUp : Thread → Bool
  | .warmup .run => true
  | _ => false

@[simp] theorem advance_warming (s : Sys) (i : Nat) (m : Move) :
    (s.advance i m).warming = (s.apply m.eff).warming := rfl

theorem apply_warming_of_ne (s : Sys) {e : Eff} (he : ∀ b, e ≠ .warming b) :
    (s.apply e).warming = s.warming := by
  cases e <;> first | rfl | exact absurd rfl (he _)

/-- What a move does to the flag: only the swap sets it, on the way into the
    warm-up, and only the store after the warm-up clears it. No move starts a
    `Warmup` past the swap. -/
theorem Moves.warmingUp {s : Sys} {t : Thread} {m : Move} (hm : Moves s t m) :
    (m.pc.warmingUp = true → m.eff = .warming true ∧ s.warming = false) ∧
    (t.warmingUp = true → m.eff = .warming false ∧ m.pc.warmingUp = false) ∧
    (∀ b, m.eff = .warming b → m.pc.warmingUp = true ∨ t.warmingUp = true) ∧
    m.spawn.countP Thread.warmingUp = 0 := by
  obtain ⟨-, -, -, -, -, hsp⟩ := hm.shutdown_pc
  refine (?_ : _ ∧ _ ∧ _).imp_right (·.imp_right (⟨·, List.countP_eq_zero.2 fun x hx => by
    obtain ⟨d, rfl⟩ := hsp x hx; nofun⟩))
  cases hm
  case swap h => exact ⟨fun _ => ⟨rfl, h⟩, nofun, fun _ _ => .inl rfl⟩
  case warmed => exact ⟨nofun, fun _ => ⟨rfl, rfl⟩, fun _ _ => .inr rfl⟩
  -- every other move neither starts nor ends a warm-up, and writes no flag
  all_goals exact ⟨nofun, nofun, fun _ h => nomatch h⟩

/-- The `warming` flag is set exactly when one `Warmup` is past its swap. -/
def Sys.WarmInv (s : Sys) : Prop :=
  s.threads.countP Thread.warmingUp = if s.warming then 1 else 0

namespace Sys.WarmInv

variable {s : Sys}

theorem call (hi : s.WarmInv) (c : Api) : WarmInv { s with threads := s.threads ++ [c.thread] } := by
  have hc : c.thread.warmingUp = false := by cases c <;> rfl
  simpa [WarmInv, hc] using hi

theorem move (hi : s.WarmInv) {i : Nat} {t : Thread} {m : Move} (ht : s.threads[i]? = some t)
    (hm : Moves s t m) : (s.advance i m).WarmInv := by
  obtain ⟨hpc, ht', he, hsp⟩ := hm.warmingUp
  have hc := countP_advance Thread.warmingUp m ht
  rw [hsp, Nat.add_zero] at hc
  unfold WarmInv at hi ⊢
  rw [advance_warming]
  cases hp : m.pc.warmingUp <;> cases htw : t.warmingUp
  case false.false =>
    -- a move that leaves no `Warmup` past its swap behind writes no flag
    rw [apply_warming_of_ne s fun b hb => by simpa [hp, htw] using he b hb, ← hi]
    simpa [hp, htw] using hc
  case true.false =>
    -- the swap: the flag was clear, so no `Warmup` was past it
    obtain ⟨he', hw⟩ := hpc hp
    simp only [he', apply, hw, hp, htw] at hc hi ⊢
    omega
  case false.true =>
    -- the store: the mover was the one `Warmup` past the swap
    have h1 := List.countP_pos_iff.2 ⟨t, List.getElem?_mem ht, htw⟩
    have hw : s.warming = true := by
      cases hw : s.warming
      · rw [hi, hw] at h1; exact absurd h1 (by decide)
      · rfl
    simp only [(ht' htw).1, apply, hw, hp, htw] at hc hi ⊢
    omega
  case true.true => simp [(ht' htw).2] at hp

end Sys.WarmInv

theorem Reachable.warmInv {cfg : SetConfig} {p : Pool} {s : Sys} (h : Reachable (newSet cfg p) s) :
    s.WarmInv :=
  h.inv Sys.WarmInv (by simp [WarmInv, newSet]) (fun _ c _ hi => hi.call c)
    (fun _ _ _ _ _ hi ht hm => hi.move ht hm)

/-- `Warmup` runs one warm-up at a time: in every reachable state at most one
    `Warmup` call is between its compare-and-swap and its deferred store, and the
    `warming` flag is set exactly when one is; a move enters the warm-up only
    when no call is in it, so a `Warmup` that finds the flag set does not warm
    up. -/
theorem warmup_runs_alone {cfg : SetConfig} {p : Pool} {s : Sys} (h : Reachable (newSet cfg p) s) :
    s.threads.countP Thread.warmingUp ≤ 1 ∧ (s.warming = true ↔ Thread.warmup .run ∈ s.threads) ∧
      (∀ t m, Moves s t m → m.pc.warmingUp = true → s.threads.countP Thread.warmingUp = 0) := by
  have hi : s.WarmInv := h.warmInv
  unfold WarmInv at hi
  have henter : ∀ t m, Moves s t m → m.pc.warmingUp = true → s.threads.countP Thread.warmingUp = 0 :=
    fun _ _ hm hp => by rw [hi, (hm.warmingUp.1 hp).2]; rfl
  have hmem : Thread.warmup .run ∈ s.threads ↔ 0 < s.threads.countP Thread.warmingUp := by
    rw [List.countP_pos_iff]
    constructor
    · exact fun hx => ⟨_, hx, rfl⟩
    · rintro ⟨x, hx, hw⟩
      cases x <;> (try cases ‹Warmup›) <;> simp_all [Thread.warmingUp]
  refine ⟨?_, ?_, henter⟩
  · rw [hi]; cases s.warming <;> decide
  · rw [hmem, hi]; cases s.warming <;> simp

/-- A second `Warmup` is refused while the first warms the gates up. -/
def twoWarmupsRun : List Act :=
  [.call .warmup, .run 0 true 0, .run 0 true 0, .call .warmup, .run 1 true 0, .run 1 true 0]

theorem warmup_runs_alone_twoWarmupsRun :
    ∃ s, Reachable (newSet .torDefault .oneTor) s ∧
      s.threads = [.warmup .run, .warmup .done] ∧
      s.threads.countP Thread.warmingUp ≤ 1 ∧ (s.warming = true ↔ Thread.warmup .run ∈ s.threads) ∧
      (∀ t m, Moves s t m → m.pc.warmingUp = true → s.threads.countP Thread.warmingUp = 0) := by
  obtain ⟨s, h, hs⟩ : ∃ s, Reachable (newSet .torDefault .oneTor) s ∧
      s.threads = [.warmup .run, .warmup .done] := Reachable.of_run twoWarmupsRun (by decide)
  exact ⟨s, h, hs, warmup_runs_alone h⟩

end Pumpe.Gate
