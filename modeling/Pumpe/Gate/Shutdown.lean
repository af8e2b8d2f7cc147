-- SUMMARY: What `Shutdown` closes: once it has returned and every goroutine has finished, each gate ever made was closed, or is detached from both kind maps, or was put into its map after the latch closed; and the runs of `New` and `RefreshOne` that put a gate into its map behind the snapshot.
import Pumpe.Gate.Wf

/-!
# Shutdown

`Shutdown` closes the latch and then takes the values of the Tor map and of
the WireGuard map, starting one closing goroutine per gate. A gate that is in
its map when the snapshot is taken is closed (`shutdown_closes_attached`). A
gate a drain holds out of its map at that moment is missed: `RefreshOne` after
a failed or cancelled refresh never puts it back, as the specification of
`RefreshOne` has it. The latch does not keep gates out of the maps either:
`New` checks it only before its factory, and `Set.toState` not at all, so a
`New` whose factory outlives the latch and a `RefreshOne` whose drain passed
before it put a gate into its map behind the snapshot, where nothing closes it
(`late_insert_never_closed`).
-/

namespace Pumpe.Gate

open Sys

/-- A goroutine that has returned. -/
def Thread.finished : Thread → Bool
  | .req .done | .mgmt .done | .dev (.done _) | .new .done | .shutdown .done | .warmup .done => true
  | _ => false

/-- Every goroutine has returned. -/
def Sys.Quiescent (s : Sys) : Prop := ∀ t ∈ s.threads, t.finished = true

instance : DecidablePred Sys.Quiescent := fun s =>
  inferInstanceAs (Decidable (∀ t ∈ s.threads, t.finished = true))

/-- A close of `g` has been made, or a goroutine is about to make it. -/
def Sys.Closing (s : Sys) (g : Nat) : Prop :=
  (∃ src, Thread.dev (.close g src) ∈ s.threads) ∨ Invocation.close g ∈ s.log

/-- `Shutdown` has taken the values of the Tor map. -/
def Sys.TookTors (s : Sys) : Prop :=
  ∃ t ∈ s.threads, t = .shutdown .wgs ∨ t = .shutdown .collect ∨ t = .shutdown .done

/-- `Shutdown` has taken the values of the WireGuard map. -/
def Sys.TookWgs (s : Sys) : Prop := ∃ t ∈ s.threads, t = .shutdown .collect ∨ t = .shutdown .done

namespace Sys

theorem apply_shutting (s : Sys) (e : Eff) : (s.apply e).shutting = (s.shutting || e == .latch) := by
  cases e <;> simp [apply, modify, remove, insert]

theorem apply_shutDone (s : Sys) (e : Eff) :
    (s.apply e).shutDone = (s.shutDone || e == .collected) := by
  cases e <;> simp [apply, modify, remove, insert]

theorem mem_apply_log_of_mem (s : Sys) (e : Eff) {x : Invocation} (h : x ∈ s.log) :
    x ∈ (s.apply e).log := by
  cases e <;> simp [apply, modify, remove, insert, h]

/-- The ghost `late` after a write. -/
theorem apply_late (s : Sys) (e : Eff) (g : Nat) :
    ((s.apply e).gates g).late =
      if e = .insert g ∧ ((s.gates g).kind = .tor ∨ (s.gates g).kind = .wireGuard) then s.shutting
      else if e = .alloc g then false
      else (s.gates g).late := by
  by_cases hg : e.gate? = some g
  · cases e <;> simp only [Eff.gate?, Option.some.injEq, reduceCtorEq] at hg <;> subst hg <;>
      simp [apply, insert, ExitGate.new]
    split <;> simp_all
  · rw [apply_gates_of_ne s hg]
    cases e <;> simp_all [Eff.gate?]

end Sys

/-- A close under way stays under way or is made. -/
theorem Sys.Closing.advance {s : Sys} {i : Nat} {t : Thread} {m : Move} {g : Nat}
    (ht : s.threads[i]? = some t) (hm : Moves s t m) (h : s.Closing g) :
    (s.advance i m).Closing g := by
  rcases h with ⟨src, hc⟩ | hl
  · by_cases hne : Thread.dev (.close g src) = t
    · subst hne
      cases hm
      exact .inr (by simp [apply])
    · exact .inl ⟨src, mem_advance_of_ne m ht hc hne⟩
  · exact .inr (mem_apply_log_of_mem s m.eff hl)

/-- The moves that end in a program point of `Shutdown` past the latch. Moves
    start only device goroutines. -/
theorem Moves.shutdown_pc {s : Sys} {t : Thread} {m : Move} (hm : Moves s t m) :
    (m.pc = .shutdown .tors → m.eff = .latch) ∧ (m.eff = .collected → m.pc = .shutdown .done) ∧
    (m.pc = .shutdown .wgs → t = .shutdown .tors) ∧
    (m.pc = .shutdown .collect → t = .shutdown .wgs) ∧
    (m.pc = .shutdown .done →
      t = .shutdown .collect ∨ (t = .shutdown .blocked ∧ s.shutDone = true)) ∧
    ∀ x ∈ m.spawn, ∃ d, x = .dev d := by
  cases hm <;> simp_all

/-- A move keeps a snapshot taken, and takes one only from `tors`, or from
    `blocked` once the first `Shutdown` has returned. -/
theorem Sys.TookTors.advance_iff {s : Sys} {i : Nat} {t : Thread} {m : Move}
    (ht : s.threads[i]? = some t) (hm : Moves s t m) :
    (s.advance i m).TookTors ↔ s.TookTors ∨ t = .shutdown .tors ∨
      (t = .shutdown .blocked ∧ s.shutDone = true) := by
  have htm := List.getElem?_mem ht
  obtain ⟨-, -, hw, hc, hd, hsp⟩ := hm.shutdown_pc
  constructor
  · rintro ⟨x, hx, hxs⟩
    rcases (mem_advance_threads hx).imp_right List.mem_cons.1 with hx | rfl | hx
    · exact .inl ⟨x, hx, hxs⟩
    · rcases hxs with h | h | h
      · exact .inr (.inl (hw h))
      · exact .inl ⟨t, htm, by simp [hc h]⟩
      · rcases hd h with h | h
        · exact .inl ⟨t, htm, by simp [h]⟩
        · exact .inr (.inr h)
    · obtain ⟨d, rfl⟩ := hsp x hx
      simp at hxs
  · rintro (⟨x, hx, hxs⟩ | rfl | ⟨rfl, -⟩)
    · by_cases hne : x = t
      · subst hne
        refine ⟨m.pc, pc_mem_advance m ht, ?_⟩
        rcases hxs with rfl | rfl | rfl <;> cases hm <;> simp
      · exact ⟨x, mem_advance_of_ne m ht hx hne, hxs⟩
    · exact ⟨m.pc, pc_mem_advance m ht, by cases hm; simp⟩
    · exact ⟨m.pc, pc_mem_advance m ht, by cases hm; simp⟩

theorem Sys.TookWgs.advance_iff {s : Sys} {i : Nat} {t : Thread} {m : Move}
    (ht : s.threads[i]? = some t) (hm : Moves s t m) :
    (s.advance i m).TookWgs ↔ s.TookWgs ∨ t = .shutdown .wgs ∨
      (t = .shutdown .blocked ∧ s.shutDone = true) := by
  have htm := List.getElem?_mem ht
  obtain ⟨-, -, -, hc, hd, hsp⟩ := hm.shutdown_pc
  constructor
  · rintro ⟨x, hx, hxs⟩
    rcases (mem_advance_threads hx).imp_right List.mem_cons.1 with hx | rfl | hx
    · exact .inl ⟨x, hx, hxs⟩
    · rcases hxs with h | h
      · exact .inr (.inl (hc h))
      · rcases hd h with h | h
        · exact .inl ⟨t, htm, by simp [h]⟩
        · exact .inr (.inr h)
    · obtain ⟨d, rfl⟩ := hsp x hx
      simp at hxs
  · rintro (⟨x, hx, hxs⟩ | rfl | ⟨rfl, -⟩)
    · by_cases hne : x = t
      · subst hne
        refine ⟨m.pc, pc_mem_advance m ht, ?_⟩
        rcases hxs with rfl | rfl
        · cases hm; simp
        · cases hm
      · exact ⟨x, mem_advance_of_ne m ht hx hne, hxs⟩
    · exact ⟨m.pc, pc_mem_advance m ht, by cases hm; simp⟩
    · exact ⟨m.pc, pc_mem_advance m ht, by cases hm; simp⟩

-- ---------------------------------------------------------------------------
-- The invariant
-- ---------------------------------------------------------------------------

/-- What `Shutdown` has done so far: the latch is closed from the snapshot of the
    Tor map on, and a gate in a map whose snapshot is taken, and that went in
    before the latch, is being closed. -/
structure Sys.ShutInv (s : Sys) : Prop where
  latched : .shutdown .tors ∈ s.threads → s.shutting = true
  took_shutting : s.TookTors → s.shutting = true
  tors : s.TookTors → ∀ k g, (k, g) ∈ s.tgs.entries → (s.gates g).late = false → s.Closing g
  wgs : s.TookWgs → ∀ k g, (k, g) ∈ s.wgs.entries → (s.gates g).late = false → s.Closing g
  done : s.shutDone = true → s.TookWgs

theorem Sys.TookWgs.tookTors {s : Sys} : s.TookWgs → s.TookTors := by
  rintro ⟨x, hx, h⟩
  exact ⟨x, hx, .inr h⟩

/-- A call starts `Shutdown` at `once`. -/
theorem Api.thread_eq_shutdown {c : Api} {d : Shutdown} (h : c.thread = .shutdown d) : d = .once := by
  cases c <;> cases h; rfl

namespace Sys.ShutInv

variable {s : Sys}

theorem call (hi : s.ShutInv) (c : Api) : ShutInv { s with threads := s.threads ++ [c.thread] } := by
  have hth : ∀ x, x ∈ s.threads ++ [c.thread] → x ∈ s.threads ∨ x = c.thread := by simp
  have hc : ∀ g, s.Closing g → Closing { s with threads := s.threads ++ [c.thread] } g := by
    rintro g (⟨src, h⟩ | h)
    · exact .inl ⟨src, List.mem_append_left _ h⟩
    · exact .inr h
  have htt : TookTors { s with threads := s.threads ++ [c.thread] } → s.TookTors := by
    rintro ⟨x, hx, h⟩
    rcases hth x hx with hx | rfl
    · exact ⟨x, hx, h⟩
    · rcases h with h | h | h <;> cases Api.thread_eq_shutdown h
  have htw : TookWgs { s with threads := s.threads ++ [c.thread] } → s.TookWgs := by
    rintro ⟨x, hx, h⟩
    rcases hth x hx with hx | rfl
    · exact ⟨x, hx, h⟩
    · rcases h with h | h <;> cases Api.thread_eq_shutdown h
  refine ⟨fun h => ?_, fun h => hi.took_shutting (htt h), fun h k g hk hl => hc g (hi.tors (htt h) k g hk hl),
    fun h k g hk hl => hc g (hi.wgs (htw h) k g hk hl), fun h => ?_⟩
  · rcases hth _ h with h | h
    · exact hi.latched h
    · cases Api.thread_eq_shutdown h.symm
  · obtain ⟨x, hx, h⟩ := hi.done h
    exact ⟨x, List.mem_append_left _ hx, h⟩

/-- After the latch, a move leaves `late` clear on a gate of a kind map only if
    it was clear before and the move does not re-insert the gate. -/
theorem late_of_advance (hs : s.shutting = true) {t : Thread} {m : Move} (hm : Moves s t m)
    {g : Nat} (hb : g ∈ s.born) (hl : ((s.apply m.eff).gates g).late = false) : (s.gates g).late = false := by
  rw [apply_late] at hl
  split_ifs at hl with h₁ h₂
  · simp_all
  · exact absurd hb (hm.alloc_fresh h₂).2
  · exact hl

theorem move (hw : s.Wf) (hi : s.ShutInv) {i : Nat} {t : Thread} {m : Move}
    (ht : s.threads[i]? = some t) (hm : Moves s t m) : (s.advance i m).ShutInv := by
  have htm := List.getElem?_mem ht
  have hsh : s.shutting = true → (s.advance i m).shutting = true := fun h => by
    simp [apply_shutting, h]
  -- an entry with `late` clear after the move was there, with `late` clear, before it
  have htgs : s.shutting = true → ∀ k g, (k, g) ∈ (s.advance i m).tgs.entries →
      ((s.advance i m).gates g).late = false → (k, g) ∈ s.tgs.entries ∧ (s.gates g).late = false := by
    intro hs k g hk hl
    simp only [advance_tgs, advance_gates] at hk hl
    rcases mem_apply_tgs hk with hk | ⟨he, -, hkind⟩
    · exact ⟨hk, late_of_advance hs hm (hw.tgs k g hk).2.1 hl⟩
    · simp [apply_late, he, hkind, hs] at hl
  have hwgs : s.shutting = true → ∀ k g, (k, g) ∈ (s.advance i m).wgs.entries →
      ((s.advance i m).gates g).late = false → (k, g) ∈ s.wgs.entries ∧ (s.gates g).late = false := by
    intro hs k g hk hl
    simp only [advance_wgs, advance_gates] at hk hl
    rcases mem_apply_wgs hk with hk | ⟨he, -, hkind⟩
    · exact ⟨hk, late_of_advance hs hm (hw.wgs k g hk).2.1 hl⟩
    · simp [apply_late, he, hkind, hs] at hl
  constructor
  case latched =>
    intro h
    rcases (mem_advance_threads h).imp_right List.mem_cons.1 with h | h | h
    · exact hsh (hi.latched h)
    · simp [apply_shutting, hm.shutdown_pc.1 h.symm]
    · obtain ⟨d, hd⟩ := hm.shutdown_pc.2.2.2.2.2 _ h
      cases hd
  case took_shutting =>
    intro h
    rcases (TookTors.advance_iff ht hm).1 h with h | rfl | ⟨rfl, hd⟩
    · exact hsh (hi.took_shutting h)
    · exact hsh (hi.latched htm)
    · exact hsh (hi.took_shutting (hi.done hd).tookTors)
  case tors =>
    intro h k g hk hl
    rcases (TookTors.advance_iff ht hm).1 h with h | rfl | ⟨rfl, hd⟩
    · obtain ⟨hk, hl⟩ := htgs (hi.took_shutting h) k g hk hl
      exact (hi.tors h k g hk hl).advance ht hm
    · cases hm
      exact .inl ⟨none, spawn_mem_advance (List.mem_map_of_mem _
        (List.mem_map_of_mem Prod.snd hk))⟩
    · have h := (hi.done hd).tookTors
      obtain ⟨hk, hl⟩ := htgs (hi.took_shutting h) k g hk hl
      exact (hi.tors h k g hk hl).advance ht hm
  case wgs =>
    intro h k g hk hl
    rcases (TookWgs.advance_iff ht hm).1 h with h | rfl | ⟨rfl, hd⟩
    · obtain ⟨hk, hl⟩ := hwgs (hi.took_shutting h.tookTors) k g hk hl
      exact (hi.wgs h k g hk hl).advance ht hm
    · cases hm
      exact .inl ⟨none, spawn_mem_advance (List.mem_map_of_mem _
        (List.mem_map_of_mem Prod.snd hk))⟩
    · have h := hi.done hd
      obtain ⟨hk, hl⟩ := hwgs (hi.took_shutting h.tookTors) k g hk hl
      exact (hi.wgs h k g hk hl).advance ht hm
  case done =>
    intro h
    simp only [advance_shutDone, apply_shutDone, Bool.or_eq_true, beq_iff_eq] at h
    rcases h with h | h
    · exact (TookWgs.advance_iff ht hm).2 (.inl (hi.done h))
    · exact ⟨_, pc_mem_advance _ ht, by simp [hm.shutdown_pc.2.1 h]⟩

end Sys.ShutInv

theorem Sys.ShutInv.init (cfg : SetConfig) (p : Pool) : (newSet cfg p).ShutInv where
  latched h := by simp [newSet] at h
  took_shutting := by rintro ⟨x, hx, -⟩; simp [newSet] at hx
  tors := by rintro ⟨x, hx, -⟩; simp [newSet] at hx
  wgs := by rintro ⟨x, hx, -⟩; simp [newSet] at hx
  done h := by simp [newSet] at h

theorem Reachable.shutInv {cfg : SetConfig} {p : Pool} {s : Sys} (h : Reachable (newSet cfg p) s) :
    s.ShutInv :=
  h.inv Sys.ShutInv (.init cfg p) (fun _ c _ hi => hi.call c)
    (fun _ _ _ _ hr hi ht hm => hi.move hr.wf ht hm)

-- ---------------------------------------------------------------------------
-- What Shutdown leaves open
-- ---------------------------------------------------------------------------

/-- Once `Shutdown` has returned and every goroutine has finished, every Tor or
    WireGuard gate ever made has had `close()` invoked, unless it is in neither
    kind map or went back into its map after the latch closed. -/
theorem shutdown_closes_attached {cfg : SetConfig} {p : Pool} {s : Sys}
    (h : Reachable (newSet cfg p) s) (hq : s.Quiescent) (hd : s.shutDone = true) :
    ∀ g ∈ s.born, Invocation.close g ∈ s.log ∨ ¬s.InMaps g ∨ (s.gates g).late = true := by
  intro g _
  have hi := h.shutInv
  have hw := hi.done hd
  -- a closing goroutine would not have finished
  have hclose : s.Closing g → Invocation.close g ∈ s.log := by
    rintro (⟨src, hc⟩ | hl)
    · simpa [Thread.finished] using hq _ hc
    · exact hl
  by_cases hl : (s.gates g).late = true
  · exact .inr (.inr hl)
  rw [Bool.not_eq_true] at hl
  by_cases hm : s.InMaps g
  · obtain ⟨k, hk | hk⟩ := hm
    · exact .inl (hclose (hi.tors hw.tookTors k g hk hl))
    · exact .inl (hclose (hi.wgs hw k g hk hl))
  · exact .inr (.inl hm)

/-- `RefreshOne` on gate `1` drains it and calls `refresh()`, which fails; then
    `Shutdown` runs to the end. -/
def failedRefreshRun : List Act :=
  [.call (.refreshOne 1), .run 0 true 0, .run 0 true 0, .run 0 true 0, .run 0 true 0,
   .run 0 true 0, .run 0 true 0, .run 1 true 0, .run 1 false 0, .run 0 true 0,
   .call .shutdown, .run 2 true 0, .run 2 true 0, .run 2 true 0, .run 2 true 0, .run 2 true 0]

/-- After `failedRefreshRun` every goroutine has finished and `Shutdown` has
    returned, but gate `1`, which never went back into its map after the latch,
    was never closed: the failed refresh left it out of the Tor map. -/
theorem shutdown_closes_attached_failedRefresh :
    ∃ s, Reachable (newSet .torDefault .oneTor) s ∧ s.Quiescent ∧ s.shutDone = true ∧
      1 ∈ s.born ∧ Invocation.close 1 ∉ s.log ∧ (s.gates 1).late = false ∧
      ∀ g ∈ s.born, Invocation.close g ∈ s.log ∨ ¬s.InMaps g ∨ (s.gates g).late = true := by
  obtain ⟨s, h, hq, hd, hp⟩ : ∃ s, Reachable (newSet .torDefault .oneTor) s ∧ s.Quiescent ∧
      s.shutDone = true ∧ 1 ∈ s.born ∧ Invocation.close 1 ∉ s.log ∧ (s.gates 1).late = false :=
    Reachable.of_run failedRefreshRun (by decide)
  exact ⟨s, h, hq, hd, hp.1, hp.2.1, hp.2.2, shutdown_closes_attached h hq hd⟩

/-- `New` passes its `isShutting` and `TorMax` checks; `Shutdown` then runs to
    the end and closes gate `1`; `New`'s factory returns gate `2` and `New`
    stores it. -/
def newRacingShutdownRun : List Act :=
  [.call (.new .tor), .run 0 true 0, .run 0 true 0,
   .call .shutdown, .run 1 true 0, .run 1 true 0, .run 1 true 0, .run 1 true 0, .run 2 true 0,
   .run 1 true 0, .run 0 true 2, .run 0 true 0]

/-- `RefreshOne` on gate `1` drains it and starts its refresh; `Shutdown` then
    runs to the end over the empty Tor map; the refresh succeeds and
    `Set.toState` puts gate `1` back. -/
def refreshRacingShutdownRun : List Act :=
  [.call (.refreshOne 1), .run 0 true 0, .run 0 true 0, .run 0 true 0, .run 0 true 0,
   .run 0 true 0, .run 0 true 0,
   .call .shutdown, .run 2 true 0, .run 2 true 0, .run 2 true 0, .run 2 true 0, .run 2 true 0,
   .run 1 true 0, .run 1 true 0, .run 0 true 0, .run 0 true 0, .run 0 true 0, .run 0 true 0]

/-- A Tor gate goes into its map after the latch closed and is never closed.
    After `newRacingShutdownRun` gate `2`, made by a `New` that succeeded, and
    after `refreshRacingShutdownRun` gate `1`, re-admitted by `RefreshOne`, are in
    the Tor map once `Shutdown` has returned and every goroutine has finished,
    with no close made. -/
theorem late_insert_never_closed :
    (∃ s, Reachable (newSet .torDefault .oneTor) s ∧ s.Quiescent ∧ s.shutDone = true ∧
      2 ∈ s.tgs.keys ∧ (s.gates 2).late = true ∧ Invocation.close 2 ∉ s.log) ∧
    (∃ s, Reachable (newSet .torDefault .oneTor) s ∧ s.Quiescent ∧ s.shutDone = true ∧
      1 ∈ s.tgs.keys ∧ (s.gates 1).late = true ∧ Invocation.close 1 ∉ s.log) :=
  ⟨Reachable.of_run newRacingShutdownRun (by decide),
    Reachable.of_run refreshRacingShutdownRun (by decide)⟩

-- ---------------------------------------------------------------------------
-- onceShut
-- ---------------------------------------------------------------------------

/-- A `Shutdown` inside the function of `onceShut`, before it returns. -/
def Thread.activeShutdown : Thread → Bool
  | .shutdown .latch | .shutdown .tors | .shutdown .wgs | .shutdown .collect => true
  | _ => false

/-- `onceShut` runs its function once: no `Shutdown` is past `once` before the
    flag is set, at most one is inside the function, and none is once one has
    returned. -/
structure Sys.OnceInv (s : Sys) : Prop where
  fresh : s.once = false → s.shutDone = false ∧ ∀ c, Thread.shutdown c ∈ s.threads → c = .once
  active : s.threads.countP Thread.activeShutdown ≤ 1
  done : Thread.shutdown .done ∈ s.threads → s.threads.countP Thread.activeShutdown = 0
  shutDone : s.shutDone = true → s.threads.countP Thread.activeShutdown = 0

theorem countP_pos_of_mem {l : List Thread} {p : Thread → Bool} {x : Thread} (hx : x ∈ l)
    (hp : p x = true) : 0 < l.countP p :=
  List.countP_pos_iff.2 ⟨x, hx, hp⟩

/-- Two different goroutines that satisfy `p` make the count at least two. -/
theorem two_le_countP {l : List Thread} {p : Thread → Bool} {x y : Thread} (hx : x ∈ l) (hy : y ∈ l)
    (hxy : x ≠ y) (hpx : p x = true) (hpy : p y = true) : 2 ≤ l.countP p := by
  have h₁ : 0 < (l.filter (· ≠ x)).countP p :=
    countP_pos_of_mem (List.mem_filter.2 ⟨hy, by simpa using hxy.symm⟩) hpy
  have h₂ := List.countP_eq_countP_filter_add l p (· ≠ x)
  have h₃ : 0 < (l.filter fun a => !decide (a ≠ x)).countP p :=
    countP_pos_of_mem (List.mem_filter.2 ⟨hx, by simp⟩) hpx
  omega

/-- A goroutine of `Shutdown`. -/
def Thread.isShutdown : Thread → Bool
  | .shutdown _ => true
  | _ => false

/-- A move of any other goroutine starts no `Shutdown` and leaves its flags alone. -/
theorem Moves.of_not_shutdown {s : Sys} {t : Thread} {m : Move} (hm : Moves s t m)
    (ht : t.isShutdown = false) :
    m.pc.isShutdown = false ∧ (∀ x ∈ m.spawn, x.isShutdown = false) ∧
      (s.apply m.eff).once = s.once ∧ (s.apply m.eff).shutDone = s.shutDone ∧
      (s.apply m.eff).shutting = s.shutting := by
  cases hm <;> simp_all [Thread.isShutdown, Sys.apply, Sys.modify, Sys.remove, Sys.insert]

namespace Sys.OnceInv

variable {s : Sys}

theorem no_active (hi : s.OnceInv) (ho : s.once = false) :
    s.threads.countP Thread.activeShutdown = 0 :=
  List.countP_eq_zero.2 fun t ht ha => by
    cases t with
    | shutdown c => cases (hi.fresh ho).2 c ht; simp [Thread.activeShutdown] at ha
    | _ => simp [Thread.activeShutdown] at ha

theorem call (hi : s.OnceInv) (c : Api) : OnceInv { s with threads := s.threads ++ [c.thread] } := by
  have hc : c.thread.activeShutdown = false := by cases c <;> rfl
  have hth : ∀ d, Thread.shutdown d ∈ s.threads ++ [c.thread] →
      Thread.shutdown d ∈ s.threads ∨ d = .once := by
    intro d hd
    rcases List.mem_append.1 hd with hd | hd
    · exact .inl hd
    · exact .inr (Api.thread_eq_shutdown (List.mem_singleton.1 hd).symm)
  refine ⟨fun ho => ⟨(hi.fresh ho).1, fun d hd => ?_⟩, by simpa [hc] using hi.active,
    fun hd => ?_, fun hd => by simpa [hc] using hi.shutDone hd⟩
  · rcases hth d hd with hd | rfl
    · exact (hi.fresh ho).2 d hd
    · rfl
  · rcases hth _ hd with hd | hd
    · simpa [hc] using hi.done hd
    · cases hd

theorem move (hi : s.OnceInv) {i : Nat} {t : Thread} {m : Move} (ht : s.threads[i]? = some t)
    (hm : Moves s t m) : (s.advance i m).OnceInv := by
  have hc := countP_advance Thread.activeShutdown m ht
  have htm := List.getElem?_mem ht
  cases hsd : t.isShutdown
  · -- another goroutine: the flags and the goroutines of `Shutdown` stay as they are
    obtain ⟨hpc, hsp, ho, hd, -⟩ := hm.of_not_shutdown hsd
    have hact : ∀ x : Thread, x.isShutdown = false → x.activeShutdown = false := by
      intro x hx; cases x <;> simp_all [Thread.isShutdown, Thread.activeShutdown]
    have hcount : (s.advance i m).threads.countP Thread.activeShutdown =
        s.threads.countP Thread.activeShutdown := by
      have hsp0 : m.spawn.countP Thread.activeShutdown = 0 :=
        List.countP_eq_zero.2 fun x hx h => by simp [hact x (hsp x hx)] at h
      rw [hact t hsd, hact _ hpc, hsp0] at hc
      simpa using hc
    have hmem : ∀ c, Thread.shutdown c ∈ (s.advance i m).threads → Thread.shutdown c ∈ s.threads := by
      intro c hx
      rcases (mem_advance_threads hx).imp_right List.mem_cons.1 with hx | hx | hx
      · exact hx
      · simp [← hx, Thread.isShutdown] at hpc
      · simpa [Thread.isShutdown] using hsp _ hx
    refine ⟨fun ho' => ?_, hcount ▸ hi.active, fun hx => hcount ▸ hi.done (hmem _ hx),
      fun hx => hcount ▸ hi.shutDone (by simpa [hd] using hx)⟩
    rw [advance_once, ho] at ho'
    rw [advance_shutDone, hd]
    exact ⟨(hi.fresh ho').1, fun c hx => (hi.fresh ho').2 c (hmem c hx)⟩
  · obtain ⟨c, rfl⟩ : ∃ c, t = .shutdown c := by cases t <;> simp_all [Thread.isShutdown]
    have hdev := hm.shutdown_pc.2.2.2.2.2
    have hmem : ∀ d, Thread.shutdown d ∈ (s.advance i m).threads →
        Thread.shutdown d ∈ s.threads ∨ Thread.shutdown d = m.pc := by
      intro d hx
      rcases (mem_advance_threads hx).imp_right List.mem_cons.1 with hx | hx | hx
      · exact .inl hx
      · exact .inr hx
      · obtain ⟨_, h⟩ := hdev _ hx; cases h
    have hsp : m.spawn.countP Thread.activeShutdown = 0 :=
      List.countP_eq_zero.2 fun x hx => by obtain ⟨d, rfl⟩ := hdev x hx; nofun
    rw [hsp, Nat.add_zero] at hc
    have hdone : Thread.shutdown .done ∈ s.threads → (Thread.shutdown c).activeShutdown = false := by
      intro hd
      cases ha : (Thread.shutdown c).activeShutdown
      · rfl
      · have := countP_pos_of_mem htm ha; have := hi.done hd; omega
    have hon : c ≠ .once → s.once = true := fun hc => by
      cases ho : s.once
      · exact absurd ((hi.fresh ho).2 c htm) hc
      · rfl
    cases hm
    case once ho =>
      have h0 := hi.no_active ho
      simp only [Thread.activeShutdown, Bool.false_eq_true, ite_false, ite_true, Nat.add_zero] at hc
      refine ⟨by simp [apply], by omega, fun hx => ?_, fun hx => ?_⟩
      · rcases hmem _ hx with hx | hx
        · cases (hi.fresh ho).2 _ hx
        · cases hx
      · simp [apply, (hi.fresh ho).1] at hx
    case onceDone ho =>
      simp only [Thread.activeShutdown, Bool.false_eq_true, ite_false, Nat.add_zero] at hc
      refine ⟨by simp [apply, ho], hc ▸ hi.active, fun hx => ?_, fun hx => hc ▸ hi.shutDone hx⟩
      rcases hmem _ hx with hx | hx
      · exact hc ▸ hi.done hx
      · cases hx
    case unblock hd =>
      simp only [Thread.activeShutdown, Bool.false_eq_true, ite_false, Nat.add_zero] at hc
      exact ⟨fun ho => by simp [apply, hon (by decide)] at ho, hc ▸ hi.active,
        fun _ => hc ▸ hi.shutDone hd, fun _ => hc ▸ hi.shutDone hd⟩
    case collect =>
      have h1 := countP_pos_of_mem htm (p := Thread.activeShutdown) rfl
      have h2 := hi.active
      simp only [Thread.activeShutdown, Bool.false_eq_true, ite_false, ite_true, Nat.add_zero] at hc
      exact ⟨fun ho => by simp [apply, hon (by decide)] at ho, by omega, fun _ => by omega,
        fun _ => by omega⟩
    all_goals
      have h1 := countP_pos_of_mem htm (p := Thread.activeShutdown) rfl
      simp only [Thread.activeShutdown, ite_true] at hc
      refine ⟨fun ho => by simp [apply, hon (by decide)] at ho, hi.active.trans_eq' (by omega),
        fun hx => ?_, fun hx => ?_⟩
      · rcases hmem _ hx with hx | hx
        · exact absurd (hdone hx) (by decide)
        · cases hx
      · have := hi.shutDone (by simpa [apply] using hx); omega

end Sys.OnceInv

theorem Sys.OnceInv.init (cfg : SetConfig) (p : Pool) : (newSet cfg p).OnceInv where
  fresh _ := ⟨rfl, by simp [newSet]⟩
  active := by simp [newSet]
  done := by simp [newSet]
  shutDone := by simp [newSet]

theorem Reachable.onceInv {cfg : SetConfig} {p : Pool} {s : Sys} (h : Reachable (newSet cfg p) s) :
    s.OnceInv :=
  h.inv Sys.OnceInv (.init cfg p) (fun _ c _ hi => hi.call c) (fun _ _ _ _ _ hi ht hm => hi.move ht hm)

/-- Once the Tor map's values are taken, no `Shutdown` is left to take them. -/
theorem Sys.OnceInv.not_tors {s : Sys} (hi : s.OnceInv) (h : s.TookTors) :
    Thread.shutdown .tors ∉ s.threads := by
  intro ht
  obtain ⟨x, hx, hxs⟩ := h
  rcases hxs with rfl | rfl | rfl
  · have := two_le_countP hx ht (by decide) (p := Thread.activeShutdown) rfl rfl
    have := hi.active; omega
  · have := two_le_countP hx ht (by decide) (p := Thread.activeShutdown) rfl rfl
    have := hi.active; omega
  · have := countP_pos_of_mem ht (p := Thread.activeShutdown) rfl
    have := hi.done hx; omega

/-- Once the WireGuard map's values are taken, no `Shutdown` is left to take them. -/
theorem Sys.OnceInv.not_wgs {s : Sys} (hi : s.OnceInv) (h : s.TookWgs) :
    Thread.shutdown .wgs ∉ s.threads := by
  intro ht
  obtain ⟨x, hx, hxs⟩ := h
  rcases hxs with rfl | rfl
  · have := two_le_countP hx ht (by decide) (p := Thread.activeShutdown) rfl rfl
    have := hi.active; omega
  · have := countP_pos_of_mem ht (p := Thread.activeShutdown) rfl
    have := hi.done hx; omega

end Pumpe.Gate
