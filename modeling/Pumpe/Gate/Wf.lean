-- SUMMARY: Well-formedness of every reachable state: the Direct gate, the kind maps keyed by id, and the gates the goroutines refer to.
import Pumpe.Gate.Moves

/-!
# Well-formed states

Every state reachable from `NewSet` has the Direct gate outside the pool of Tor
and WireGuard gates, each kind map keyed by the id of the gate it stores and
holding only gates of its kind, and every goroutine referring only to gates
that exist. The later laws take these facts for granted.
-/

namespace Pumpe.Gate

/-- The gate a management goroutine works on, once `byID` has found it. -/
def Mgmt.operand : Mgmt → Option Nat
  | .byID _ _ | .done => none
  | .getState _ g | .toState _ g _ | .remove _ g _ _ | .isShutting _ g _ _ | .noReqs _ g _ _
  | .refreshOne g _ _ | .resetReqs _ g _ _ | .setState _ g _ _ | .setMap _ g _ => some g

/-- The gate a device goroutine calls into. -/
def Dev.operand : Dev → Option Nat
  | .refresh g _ | .signal g | .close g _ => some g
  | .done _ => none

/-- The gate a management, device or `New` goroutine works on. -/
def Thread.operand : Thread → Option Nat
  | .mgmt m => m.operand
  | .dev d => d.operand
  | .new (.setMap g) => some g
  | _ => none

/-- The gate a proxy request has picked. -/
def Req.picked : Req → Option Nat
  | .isReady g _ | .addReq g _ | .didReq g _ => some g
  | _ => none

/-- The gate a proxy request has picked. -/
def Thread.picked : Thread → Option Nat
  | .req r => r.picked
  | _ => none

@[simp] theorem Api.thread_operand (c : Api) : c.thread.operand = none := by cases c <;> rfl
@[simp] theorem Api.thread_picked (c : Api) : c.thread.picked = none := by cases c <;> rfl

/-- A value of one of the two kind maps. -/
def Sys.InMaps (s : Sys) (g : Nat) : Prop :=
  ∃ k, (k, g) ∈ s.tgs.entries ∨ (k, g) ∈ s.wgs.entries

/-- The well-formedness of a state. -/
structure Sys.Wf (s : Sys) : Prop where
  drt_kind : (s.gates s.drt).kind = .direct
  drt_born : s.drt ∉ s.born
  tgs : ∀ k g, (k, g) ∈ s.tgs.entries → k = g ∧ g ∈ s.born ∧ (s.gates g).kind = .tor
  wgs : ∀ k g, (k, g) ∈ s.wgs.entries → k = g ∧ g ∈ s.born ∧ (s.gates g).kind = .wireGuard
  operand : ∀ t ∈ s.threads, ∀ g, t.operand = some g → g ∈ s.born
  picked : ∀ t ∈ s.threads, ∀ g, t.picked = some g → g = s.drt ∨ g ∈ s.born
  log : ∀ g, (.refresh g ∈ s.log ∨ .close g ∈ s.log) → g ∈ s.born

namespace Sys

theorem byID_eq_some {s : Sys} {id g : Nat} (h : s.byID id = some g) :
    (id = s.drt ∧ g = s.drt) ∨ (id ≠ s.drt ∧ ((id, g) ∈ s.tgs.entries ∨ (id, g) ∈ s.wgs.entries)) := by
  unfold byID at h
  split at h
  · exact .inl ⟨‹_›, (Option.some.inj h).symm⟩
  · refine .inr ⟨‹_›, ?_⟩
    split at h
    · simp_all [Model.Set.get_eq_some_iff]
    · exact .inr (Model.Set.get_eq_some_iff.1 h)

theorem pick_eq_some {m : Model.Set Nat Nat} {k : Kind} {lim : Nat} {r : Req}
    (h : pick m k lim = some r) : r = .done ∨ ∃ j g, (j, g) ∈ m.entries ∧ r = .isReady g (some k) := by
  unfold pick at h
  split at h
  · exact .inl (Option.some.inj h).symm
  · split at h
    · obtain ⟨j, hj⟩ := m.random_mem ‹_›
      exact .inr ⟨j, _, hj, (Option.some.inj h).symm⟩
    · cases h

/-- `byKind` answers with no gate, the Direct gate, or a value of a kind map. -/
theorem byKind_eq_some {s : Sys} {k : Kind} {lim : Nat} {r : Req} (h : s.byKind k lim = some r) :
    r = .done ∨ (∃ k', r = .isReady s.drt k') ∨ ∃ g k', s.InMaps g ∧ r = .isReady g k' := by
  unfold byKind at h
  split at h
  · exact .inr (.inl ⟨_, (Option.some.inj h).symm⟩)
  · rcases pick_eq_some h with h | ⟨j, g, hj, rfl⟩
    · exact .inl h
    · exact .inr (.inr ⟨g, _, ⟨j, .inl hj⟩, rfl⟩)
  · rcases pick_eq_some h with h | ⟨j, g, hj, rfl⟩
    · exact .inl h
    · exact .inr (.inr ⟨g, _, ⟨j, .inr hj⟩, rfl⟩)
  · exact .inl (Option.some.inj h).symm

theorem apply_born_sub (s : Sys) (e : Eff) : s.born ⊆ (s.apply e).born := by
  cases e <;> simp [apply, modify, remove, insert]

theorem mem_apply_born {s : Sys} {e : Eff} {g : Nat} (h : g ∈ (s.apply e).born) :
    g ∈ s.born ∨ e = .alloc g := by
  cases e <;> simp_all [apply, modify, remove, insert, eq_comm]

/-- Only the device goroutines of `g` log a call on `g`. -/
theorem mem_apply_log {s : Sys} {e : Eff} {g : Nat}
    (h : .refresh g ∈ (s.apply e).log ∨ .close g ∈ (s.apply e).log) :
    (.refresh g ∈ s.log ∨ .close g ∈ s.log) ∨ e.target = some g := by
  cases e <;> simp_all [apply, modify, remove, insert, Eff.target] <;> aesop

/-- Only the factory changes the kind of a gate record. -/
theorem apply_kind (s : Sys) {e : Eff} {g : Nat} (he : e ≠ .alloc g) :
    ((s.apply e).gates g).kind = (s.gates g).kind := by
  by_cases hg : e.gate? = some g
  · cases e <;> simp only [Eff.gate?, Option.some.injEq, reduceCtorEq] at hg <;> subst hg <;>
      simp_all [apply, insert]
    split <;> simp
  · rw [apply_gates_of_ne s hg]

/-- Only `insert` adds an entry to the Tor map, and only for a Tor gate. -/
theorem mem_apply_tgs {s : Sys} {e : Eff} {k g : Nat} (h : (k, g) ∈ (s.apply e).tgs.entries) :
    (k, g) ∈ s.tgs.entries ∨ (e = .insert g ∧ k = g ∧ (s.gates g).kind = .tor) := by
  cases e <;> simp_all [apply, modify, remove, insert]
  all_goals split_ifs at h <;> simp_all
  all_goals aesop

theorem mem_apply_wgs {s : Sys} {e : Eff} {k g : Nat} (h : (k, g) ∈ (s.apply e).wgs.entries) :
    (k, g) ∈ s.wgs.entries ∨ (e = .insert g ∧ k = g ∧ (s.gates g).kind = .wireGuard) := by
  cases e <;> simp_all [apply, modify, remove, insert]
  all_goals split_ifs at h <;> simp_all
  all_goals aesop

end Sys

-- ---------------------------------------------------------------------------
-- What a move can refer to
-- ---------------------------------------------------------------------------

open Sys

/-- A goroutine a move leaves behind works on the mover's gate, on a value of a
    kind map, or on the gate the move allocates. -/
theorem Moves.operand {s : Sys} {t : Thread} {m : Move} (hm : Moves s t m) :
    ∀ t' ∈ m.pc :: m.spawn, ∀ g, t'.operand = some g →
      t.operand = some g ∨ s.InMaps g ∨ m.eff = .alloc g := by
  cases hm
  case found hid h _ =>
    simp only [List.mem_singleton, forall_eq, Thread.operand, Mgmt.operand, Option.some.injEq]
    rintro g rfl
    rcases byID_eq_some h with ⟨h, -⟩ | ⟨-, h⟩
    · exact absurd h hid
    · exact .inr (.inl ⟨_, h⟩)
  case tors =>
    simp only [List.mem_cons, List.mem_map, Model.Set.values]
    rintro t' (rfl | ⟨g', ⟨⟨k, v⟩, hkv, rfl⟩, rfl⟩) g hg
    · cases hg
    · cases hg; exact .inr (.inl ⟨k, .inl hkv⟩)
  case wgs =>
    simp only [List.mem_cons, List.mem_map, Model.Set.values]
    rintro t' (rfl | ⟨g', ⟨⟨k, v⟩, hkv, rfl⟩, rfl⟩) g hg
    · cases hg
    · cases hg; exact .inr (.inl ⟨k, .inr hkv⟩)
  all_goals simp_all [Thread.operand, Mgmt.operand, Dev.operand]

/-- A request a move leaves behind holds the mover's gate, the Direct gate, or a
    value of a kind map. -/
theorem Moves.picked {s : Sys} {t : Thread} {m : Move} (hm : Moves s t m) :
    ∀ t' ∈ m.pc :: m.spawn, ∀ g, t'.picked = some g →
      t.picked = some g ∨ g = s.drt ∨ s.InMaps g := by
  cases hm
  case byIDHit id g h =>
    simp only [List.mem_singleton, forall_eq, Thread.picked, Req.picked, Option.some.injEq]
    rintro g rfl
    rcases byID_eq_some h with ⟨-, h⟩ | ⟨-, h⟩
    · exact .inr (.inl h)
    · exact .inr (.inr ⟨_, h⟩)
  case pick k n r h =>
    simp only [List.mem_singleton, forall_eq, Thread.picked]
    rintro g hg
    rcases byKind_eq_some h with rfl | ⟨k', rfl⟩ | ⟨g', k', hg', rfl⟩ <;> simp_all [Req.picked]
  case byKind k =>
    simp [Thread.picked, byKindStart]; split <;> simp_all [Req.picked]
  case random k =>
    simp [Thread.picked, byKindStart]; split <;> simp_all [Req.picked]
  case tors =>
    simp only [List.mem_cons, List.mem_map, Model.Set.values]
    rintro t' (rfl | ⟨g', -, rfl⟩) g hg <;> cases hg
  case wgs =>
    simp only [List.mem_cons, List.mem_map, Model.Set.values]
    rintro t' (rfl | ⟨g', -, rfl⟩) g hg <;> cases hg
  all_goals simp_all [Thread.picked, Req.picked]

/-- A management or device write acts on the gate its goroutine works on. -/
theorem Moves.operand_of_target {s : Sys} {t : Thread} {m : Move} {g : Nat} (hm : Moves s t m)
    (he : m.eff.target = some g) : t.operand = some g := by
  cases hm <;> simp_all [Eff.target, Thread.operand, Mgmt.operand, Dev.operand]

/-- The factory allocates only fresh ids. -/
theorem Moves.alloc_fresh {s : Sys} {t : Thread} {m : Move} {g : Nat} (hm : Moves s t m)
    (he : m.eff = .alloc g) : g ≠ s.drt ∧ g ∉ s.born := by
  cases hm <;> simp_all

-- ---------------------------------------------------------------------------
-- The invariant
-- ---------------------------------------------------------------------------

namespace Sys.Wf

variable {s : Sys}

theorem inMaps_born (hw : s.Wf) {g : Nat} : s.InMaps g → g ∈ s.born := by
  rintro ⟨k, h | h⟩
  · exact (hw.tgs k g h).2.1
  · exact (hw.wgs k g h).2.1

theorem call (hw : s.Wf) (c : Api) : Wf { s with threads := s.threads ++ [c.thread] } where
  drt_kind := hw.drt_kind
  drt_born := hw.drt_born
  tgs := hw.tgs
  wgs := hw.wgs
  operand t ht g hg := by
    rcases List.mem_append.1 ht with ht | ht
    · exact hw.operand t ht g hg
    · rw [List.mem_singleton.1 ht, Api.thread_operand] at hg; cases hg
  picked t ht g hg := by
    rcases List.mem_append.1 ht with ht | ht
    · exact hw.picked t ht g hg
    · rw [List.mem_singleton.1 ht, Api.thread_picked] at hg; cases hg
  log := hw.log

theorem move (hw : s.Wf) {i : Nat} {t : Thread} {m : Move} (ht : s.threads[i]? = some t)
    (hm : Moves s t m) : (s.advance i m).Wf := by
  have htm : t ∈ s.threads := List.getElem?_mem ht
  have hborn : s.born ⊆ (s.apply m.eff).born := apply_born_sub s m.eff
  have hkind : ∀ g, g = s.drt ∨ g ∈ s.born → ((s.apply m.eff).gates g).kind = (s.gates g).kind := by
    refine fun g hg => apply_kind s fun he => ?_
    rcases hg with rfl | hg
    · exact (hm.alloc_fresh he).1 rfl
    · exact (hm.alloc_fresh he).2 hg
  have halloc : ∀ g, m.eff = .alloc g → g ∈ (s.apply m.eff).born := by
    rintro g he; simp [he, apply]
  constructor
  case drt_kind => simpa [hkind _ (.inl rfl)] using hw.drt_kind
  case drt_born =>
    simp only [advance_born, advance_drt]
    intro h
    rcases mem_apply_born h with h | h
    · exact hw.drt_born h
    · exact (hm.alloc_fresh h).1 rfl
  case tgs =>
    intro k g h
    simp only [advance_tgs, advance_born, advance_gates] at h ⊢
    rcases mem_apply_tgs h with h | ⟨he, rfl, hk⟩
    · obtain ⟨rfl, hb, hk⟩ := hw.tgs k g h
      exact ⟨rfl, hborn hb, (hkind _ (.inr hb)).trans hk⟩
    · have hb := hw.operand t htm k (hm.operand_of_target (he ▸ rfl))
      exact ⟨rfl, hborn hb, (hkind _ (.inr hb)).trans hk⟩
  case wgs =>
    intro k g h
    simp only [advance_wgs, advance_born, advance_gates] at h ⊢
    rcases mem_apply_wgs h with h | ⟨he, rfl, hk⟩
    · obtain ⟨rfl, hb, hk⟩ := hw.wgs k g h
      exact ⟨rfl, hborn hb, (hkind _ (.inr hb)).trans hk⟩
    · have hb := hw.operand t htm k (hm.operand_of_target (he ▸ rfl))
      exact ⟨rfl, hborn hb, (hkind _ (.inr hb)).trans hk⟩
  case operand =>
    intro t' ht' g hg
    simp only [advance_born]
    rcases mem_advance_threads ht' with ht' | ht'
    · exact hborn (hw.operand t' ht' g hg)
    · rcases hm.operand t' ht' g hg with h | h | h
      · exact hborn (hw.operand t htm g h)
      · exact hborn (hw.inMaps_born h)
      · exact halloc g h
  case log =>
    intro g hg
    simp only [advance_log, advance_born] at hg ⊢
    rcases mem_apply_log hg with hg | he
    · exact hborn (hw.log g hg)
    · exact hborn (hw.operand t htm g (hm.operand_of_target he))
  case picked =>
    intro t' ht' g hg
    simp only [advance_born, advance_drt]
    rcases mem_advance_threads ht' with ht' | ht'
    · exact (hw.picked t' ht' g hg).imp_right (@hborn g)
    · rcases hm.picked t' ht' g hg with h | h | h
      · exact (hw.picked t htm g h).imp_right (@hborn g)
      · exact .inl h
      · exact .inr (hborn (hw.inMaps_born h))

end Sys.Wf

/-- The entries `NewSet` stores are the gates of its list, each under its own id. -/
theorem mem_foldl_set {l : List Nat} {m : Model.Set Nat Nat} {k g : Nat}
    (h : (k, g) ∈ (l.foldl (fun m g => m.set g g) m).entries) :
    (k, g) ∈ m.entries ∨ (k = g ∧ g ∈ l) := by
  induction l generalizing m with
  | nil => exact .inl h
  | cons a l ih =>
    rcases ih h with h | ⟨rfl, h⟩
    · rcases Model.Set.mem_set.1 h with ⟨rfl, rfl⟩ | ⟨h, -⟩
      · exact .inr ⟨rfl, List.mem_cons_self _ _⟩
      · exact .inl h
    · exact .inr ⟨rfl, List.mem_cons_of_mem _ h⟩

theorem Sys.Wf.init (cfg : SetConfig) (p : Pool) : (newSet cfg p).Wf := by
  have hnd := p.nodup
  simp only [List.nodup_cons, List.mem_append, not_or, List.nodup_append] at hnd
  obtain ⟨⟨hdt, hdw⟩, -, -, hdisj⟩ := hnd
  constructor
  case drt_kind => simp [Gate.newSet, ExitGate.new]
  case drt_born => simp [Gate.newSet, hdt, hdw]
  case tgs =>
    intro k g h
    rcases mem_foldl_set h with h | ⟨rfl, h⟩
    · simp at h
    · have : k ≠ p.drt := fun h' => hdt (h' ▸ h)
      simp [Gate.newSet, h, this, ExitGate.new]
  case wgs =>
    intro k g h
    rcases mem_foldl_set h with h | ⟨rfl, h⟩
    · simp at h
    · have : k ≠ p.drt := fun h' => hdw (h' ▸ h)
      have ht : k ∉ p.tors := fun h' => hdisj h' h
      simp [Gate.newSet, h, this, ht, ExitGate.new]
  case operand => simp [Gate.newSet]
  case picked => simp [Gate.newSet]
  case log => simp [Gate.newSet]

/-- Every state reachable from `NewSet` is well formed. -/
theorem Reachable.wf {cfg : SetConfig} {p : Pool} {s : Sys} (h : Reachable (newSet cfg p) s) :
    s.Wf :=
  h.inv Sys.Wf (.init cfg p) (fun _ c _ hw => hw.call c) (fun _ _ _ _ _ hw ht hm => hw.move ht hm)

end Pumpe.Gate
