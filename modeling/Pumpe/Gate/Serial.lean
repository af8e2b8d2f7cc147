-- SUMMARY: `RefreshOne` and `CloseOne` serialised per id, the runs that keep to it with at most one management goroutine per id, and the frame of a gate: a move not about it changes nothing its laws read.
import Pumpe.Gate.Shutdown

/-!
# Serial management calls

`forState` takes for granted that it is the only management call on its gate:
two calls on one id that both pass `byID` drain the gate together.
`Act.serial` holds of a call of `RefreshOne` or `CloseOne` on an id when no
management goroutine on that id runs, and `ReachableSerial` is reachability by
runs that keep to it; proxy requests, `New`, `Warmup` and `Shutdown` still
interleave freely. Along such runs there is at most one management goroutine
per id (`Sys.Exclusive`).

A law about one gate `g` reads the gate's state, epoch and kind, whether it is
in a map, the goroutines working on it, the requests holding it, the device
calls on it and how far `Shutdown` is. `Sys.Frame g s s'` says that `s'`
changes none of these, but for goroutines on `g` that returned and requests
that took `g`; `Sys.Frame.of_move` proves it of every move that neither writes
to `g` nor leaves a goroutine working on it.
-/

namespace Pumpe.Gate

open Sys

/-- A management goroutine on the id `id`, before or after its lookup. -/
def Thread.mgmtOn (id : Nat) : Thread → Bool
  | .mgmt (.byID _ i) => i == id
  | .mgmt m => m.operand == some id
  | _ => false

/-- The id a `RefreshOne` or `CloseOne` call names. -/
def Api.mgmtID : Api → Option Nat
  | .refreshOne id | .closeOne id => some id
  | _ => none

/-- A step keeps management calls serial: a `RefreshOne` or `CloseOne` on an id
    starts only when no management goroutine on that id runs. -/
def Act.serial (s : Sys) : Act → Bool
  | .call c =>
    match c.mgmtID with
    | some id => s.threads.all fun t => !t.mgmtOn id
    | none => true
  | .run _ _ _ => true

/-- The states a run from `s₀` with serial management calls reaches. -/
inductive ReachableSerial (s₀ : Sys) : Sys → Prop
  | refl : ReachableSerial s₀ s₀
  | tail {s s' : Sys} (a : Act) : ReachableSerial s₀ s → a.serial s = true → step s a = some s' →
      ReachableSerial s₀ s'

theorem ReachableSerial.reachable {s₀ s : Sys} (h : ReachableSerial s₀ s) : Reachable s₀ s := by
  induction h with
  | refl => exact .refl
  | tail a _ _ hs ih => exact ih.tail a hs

/-- An invariant that holds of `s₀` and survives every serial call and every
    move holds in every state a run with serial calls reaches. -/
theorem ReachableSerial.inv {s₀ : Sys} (P : Sys → Prop) (h₀ : P s₀)
    (hcall : ∀ s (c : Api), ReachableSerial s₀ s → P s → (Act.call c).serial s = true →
      P { s with threads := s.threads ++ [c.thread] })
    (hmove : ∀ s i t m, ReachableSerial s₀ s → P s → s.threads[i]? = some t → Moves s t m →
      P (s.advance i m))
    {s : Sys} (h : ReachableSerial s₀ s) : P s := by
  induction h with
  | refl => exact h₀
  | tail a hr ha hs ih =>
    cases a with
    | call c => obtain rfl := step_call hs; exact hcall _ c hr ih ha
    | run i ok n =>
      obtain ⟨t, m, ht, hm, rfl⟩ := step_run hs
      exact hmove _ i t m hr ih ht (Thread.next_moves hm)

/-- A run with serial management calls; `none` where a step is stuck or a call
    breaks the rule. -/
def runSerial (s : Sys) : List Act → Option Sys
  | [] => some s
  | a :: as => if a.serial s then (step s a).bind fun s' => runSerial s' as else none

theorem ReachableSerial.run {s₀ s₁ s : Sys} {as : List Act} (h₁ : ReachableSerial s₀ s₁)
    (h : Gate.runSerial s₁ as = some s) : ReachableSerial s₀ s := by
  induction as generalizing s₁ with
  | nil => cases h; exact h₁
  | cons a as ih =>
    simp only [Gate.runSerial] at h
    split at h
    · obtain ⟨s₂, h₂, h⟩ := Option.bind_eq_some.1 h
      exact ih (h₁.tail a ‹_› h₂) h
    · cases h

/-- A serial run checked by evaluation reaches a state with the property it
    ends in. -/
theorem ReachableSerial.of_run {s₀ : Sys} (as : List Act) {P : Sys → Prop} [DecidablePred P]
    (h : (Gate.runSerial s₀ as).map (fun s => decide (P s)) = some true) :
    ∃ s, ReachableSerial s₀ s ∧ P s := by
  cases hr : Gate.runSerial s₀ as with
  | none => simp [hr] at h
  | some s => exact ⟨s, ReachableSerial.refl.run hr, by simpa [hr] using h⟩

-- ---------------------------------------------------------------------------
-- One management goroutine per id
-- ---------------------------------------------------------------------------

/-- At most one management goroutine per id. -/
def Sys.Exclusive (s : Sys) : Prop := ∀ id, s.threads.countP (Thread.mgmtOn id) ≤ 1

/-- A move makes no management goroutine on an id but from one on that id:
    `byID` finds a gate of a kind map only under the gate's own id. -/
theorem Moves.mgmtOn {s : Sys} {t : Thread} {m : Move} (hw : s.Wf) (hm : Moves s t m) (id : Nat) :
    (m.pc.mgmtOn id = true → t.mgmtOn id = true) ∧ m.spawn.countP (Thread.mgmtOn id) = 0 := by
  cases hm
  case found id' g hid h _ =>
    have : id' = g := by
      rcases byID_eq_some h with ⟨h, -⟩ | ⟨-, h | h⟩
      · exact absurd h hid
      · exact (hw.tgs _ _ h).1
      · exact (hw.wgs _ _ h).1
    subst this
    simp [Thread.mgmtOn, Mgmt.operand]
  all_goals simp [Thread.mgmtOn, Mgmt.operand, List.countP_eq_zero]

namespace Sys.Exclusive

variable {s : Sys}

theorem call (hx : s.Exclusive) {c : Api} (hs : (Act.call c).serial s = true) :
    Exclusive { s with threads := s.threads ++ [c.thread] } := by
  intro id
  have hfree : ∀ id', c.mgmtID = some id' → s.threads.countP (Thread.mgmtOn id') = 0 := by
    intro id' hc
    simp only [Act.serial, hc, List.all_eq_true, Bool.not_eq_true'] at hs
    exact List.countP_eq_zero.2 fun t ht h => by simp [hs t ht] at h
  simp only [List.countP_append, List.countP_singleton]
  cases hc : c.thread.mgmtOn id
  · simpa using hx id
  · have : c.mgmtID = some id := by cases c <;> simp_all [Api.thread, Thread.mgmtOn, Api.mgmtID]
    simp [hfree id this]

theorem move (hw : s.Wf) (hx : s.Exclusive) {i : Nat} {t : Thread} {m : Move}
    (ht : s.threads[i]? = some t) (hm : Moves s t m) : (s.advance i m).Exclusive := by
  intro id
  have h := countP_advance (Thread.mgmtOn id) m ht
  obtain ⟨hpc, hsp⟩ := hm.mgmtOn hw id
  have := hx id
  rw [hsp, Nat.add_zero] at h
  by_cases hp : m.pc.mgmtOn id = true
  · simp only [hp, hpc hp, if_true] at h; omega
  · simp only [hp, Bool.false_eq_true, if_false] at h; split at h <;> omega

end Sys.Exclusive

theorem Sys.Exclusive.init (cfg : SetConfig) (p : Pool) : (newSet cfg p).Exclusive := by
  simp [Exclusive, newSet]

/-- Two goroutines at different indices that satisfy `p` make the count at
    least two. -/
theorem two_le_countP_of_getElem? {p : Thread → Bool} {l : List Thread} {i j : Nat} {x y : Thread}
    (hx : l[i]? = some x) (hy : l[j]? = some y) (hij : i ≠ j) (hpx : p x = true)
    (hpy : p y = true) : 2 ≤ l.countP p := by
  induction l generalizing i j with
  | nil => simp at hx
  | cons a l ih =>
    simp only [List.countP_cons]
    cases i <;> cases j <;>
      simp only [List.getElem?_cons_zero, List.getElem?_cons_succ, Option.some.injEq] at hx hy
    case zero.zero => exact absurd rfl hij
    case zero.succ j =>
      subst hx
      have := countP_pos_of_mem (List.getElem?_mem hy) hpy
      simp only [hpx, if_true]; omega
    case succ.zero i =>
      subst hy
      have := countP_pos_of_mem (List.getElem?_mem hx) hpx
      simp only [hpy, if_true]; omega
    case succ.succ i j =>
      have := ih hx hy (by omega)
      omega

-- ---------------------------------------------------------------------------
-- The frame of a gate
-- ---------------------------------------------------------------------------

/-- A device goroutine calling `close()` on `g`. -/
def Thread.closes (g : Nat) : Thread → Bool
  | .dev (.close h _) => h == g
  | _ => false

/-- A device goroutine about to call, or inside, `refresh()` on `g`. -/
def Thread.refreshes (g : Nat) : Thread → Bool
  | .dev (.refresh h _) | .dev (.signal h) => h == g
  | _ => false

/-- The drain epoch a request holding `g` read at its readiness check. -/
def Thread.heldEpoch (g : Nat) : Thread → Option Nat
  | .req (.addReq h e) | .req (.didReq h e) => if h = g then some e else none
  | _ => none

/-- Every request holding `g` passed its readiness check before the drain with
    epoch `e` began. -/
def Sys.HeldBefore (s : Sys) (g e : Nat) : Prop :=
  ∀ t ∈ s.threads, ∀ e', t.heldEpoch g = some e' → e' < e

/-- The closes of `g` made, or under way. -/
def Sys.closes (s : Sys) (g : Nat) : Nat :=
  s.log.count (.close g) + s.threads.countP (Thread.closes g)

/-- A write that moves `g`: changes its state, epoch or kind, or its place in a
    map. -/
def Eff.moves (g : Nat) : Eff → Bool
  | .toState h _ | .drain h _ | .remove h | .insert h | .alloc h => h == g
  | _ => false

/-- A write that changes what the laws of `g` read: it moves `g`, or calls into
    its device. -/
def Eff.touches (g : Nat) (e : Eff) : Bool := e.moves g || e == .refresh g || e == .close g

/-- A move is about `g` when it leaves a goroutine working on `g` or its write
    touches `g`. -/
def Move.about (g : Nat) (m : Move) : Bool :=
  m.pc.operand == some g || m.spawn.any (·.operand == some g) || m.eff.touches g

theorem Thread.operand_of_closes {g : Nat} {x : Thread} (h : x.closes g = true) :
    x.operand = some g := by
  cases x <;> (try cases ‹Dev›) <;> simp_all [Thread.closes, Thread.operand, Dev.operand]

theorem Thread.operand_of_refreshes {g : Nat} {x : Thread} (h : x.refreshes g = true) :
    x.operand = some g := by
  cases x <;> (try cases ‹Dev›) <;> simp_all [Thread.refreshes, Thread.operand, Dev.operand]

@[simp] theorem Api.thread_heldEpoch (c : Api) (g : Nat) : c.thread.heldEpoch g = none := by
  cases c <;> rfl

namespace Sys

/-- A write that does not move `g` leaves its state, epoch and kind. -/
theorem apply_gate_of_not_moves (s : Sys) {e : Eff} {g : Nat} (he : e.moves g = false) :
    ((s.apply e).gates g).cell.state = (s.gates g).cell.state ∧
      ((s.apply e).gates g).epoch = (s.gates g).epoch ∧
      ((s.apply e).gates g).kind = (s.gates g).kind := by
  cases e
  case insert h =>
    have : g ≠ h := fun h' => by simp [Eff.moves, h'] at he
    simp only [apply, Sys.insert]; split_ifs <;> simp [Function.update_noteq this]
  all_goals
    simp only [Eff.moves, beq_eq_false_iff_ne, ne_eq] at he
    simp only [apply, modify_gates, remove]
    try split_ifs
  all_goals simp_all

/-- A write that does not touch `g` logs no call on it. -/
theorem apply_log_of_not_touches (s : Sys) {e : Eff} {g : Nat} (he : e.touches g = false) :
    (s.apply e).log = s.log ∨ ∃ x, (s.apply e).log = s.log ++ [x] ∧ x ≠ .refresh g ∧ x ≠ .close g := by
  cases e <;> simp_all [Eff.touches, Eff.moves, apply, modify, insert, remove]

/-- Storing a gate under its own id keeps every entry stored under its own id. -/
theorem mem_set_self {m : Model.Set Nat Nat} {g h : Nat} (hg : (g, g) ∈ m.entries) :
    (g, g) ∈ (m.set h h).entries := by
  by_cases hgh : g = h
  · subst hgh; simp
  · simp [hg, hgh]

/-- A write keeps an entry of the Tor map stored under its own id, unless it
    removes that id. -/
theorem mem_apply_tgs_of_mem (s : Sys) {e : Eff} {g : Nat} (hg : (g, g) ∈ s.tgs.entries)
    (he : e ≠ .remove g) : (g, g) ∈ (s.apply e).tgs.entries := by
  cases e
  case remove h =>
    have : g ≠ h := fun h' => he (h' ▸ rfl)
    simp only [apply, remove]; split_ifs <;> simp [hg, this]
  case insert h => simp only [apply, Sys.insert]; split_ifs <;> first | exact mem_set_self hg | exact hg
  all_goals exact hg

theorem mem_apply_wgs_of_mem (s : Sys) {e : Eff} {g : Nat} (hg : (g, g) ∈ s.wgs.entries)
    (he : e ≠ .remove g) : (g, g) ∈ (s.apply e).wgs.entries := by
  cases e
  case remove h =>
    have : g ≠ h := fun h' => he (h' ▸ rfl)
    simp only [apply, remove]; split_ifs <;> simp [hg, this]
  case insert h => simp only [apply, Sys.insert]; split_ifs <;> first | exact mem_set_self hg | exact hg
  all_goals exact hg

/-- A write that does not move `g` neither adds it to a map nor removes it. -/
theorem Wf.inMaps_apply {s : Sys} (hw : s.Wf) {e : Eff} {g : Nat} (he : e.moves g = false) :
    (s.apply e).InMaps g ↔ s.InMaps g := by
  have hr : e ≠ .remove g := by rintro rfl; simp [Eff.moves] at he
  have hi : e ≠ .insert g := by rintro rfl; simp [Eff.moves] at he
  constructor
  · rintro ⟨k, h | h⟩
    · rcases mem_apply_tgs h with h | ⟨h, -⟩
      · exact ⟨k, .inl h⟩
      · exact absurd h hi
    · rcases mem_apply_wgs h with h | ⟨h, -⟩
      · exact ⟨k, .inr h⟩
      · exact absurd h hi
  · rintro ⟨k, h | h⟩
    · obtain ⟨rfl, -⟩ := hw.tgs k g h
      exact ⟨k, .inl (mem_apply_tgs_of_mem s h hr)⟩
    · obtain ⟨rfl, -⟩ := hw.wgs k g h
      exact ⟨k, .inr (mem_apply_wgs_of_mem s h hr)⟩

/-- Where a goroutine of the state after a move was before it. -/
theorem getElem?_advance {s : Sys} {i j : Nat} {m : Move} {x : Thread}
    (h : (s.advance i m).threads[j]? = some x) :
    (j ≠ i ∧ s.threads[j]? = some x) ∨ (j = i ∧ x = m.pc) ∨
      (s.threads.length ≤ j ∧ m.spawn[j - s.threads.length]? = some x) := by
  rw [advance_threads] at h
  by_cases hj : j < s.threads.length
  · rw [List.getElem?_append_left (by simpa using hj), List.getElem?_set] at h
    split_ifs at h with hij
    · exact .inr (.inl ⟨hij.symm, (Option.some.inj h).symm⟩)
    · exact .inl ⟨Ne.symm hij, h⟩
  · rw [List.getElem?_append_right (by simpa using hj), List.length_set] at h
    exact .inr (.inr ⟨by omega, h⟩)

end Sys

/-- A request leaves a move holding `g` in the epoch its mover held it, or in the
    current epoch after a readiness check that passed, or on the Direct gate. -/
theorem Moves.heldEpoch {s : Sys} {t : Thread} {m : Move} (hm : Moves s t m) {g e : Nat} :
    ∀ x ∈ m.pc :: m.spawn, x.heldEpoch g = some e →
      t.heldEpoch g = some e ∨ (e = (s.gates g).epoch ∧ ((s.gates g).cell.state = .ready ∨ g = s.drt)) := by
  cases hm
  case byKind k | random k =>
    simp only [List.mem_singleton, forall_eq, byKindStart]
    split <;> simp only [Thread.heldEpoch, Option.ite_none_right_eq_some, Option.some.injEq,
      reduceCtorEq, false_implies]
    rintro ⟨rfl, rfl⟩; exact .inr ⟨rfl, .inr rfl⟩
  case ready h =>
    simp only [List.mem_singleton, forall_eq, Thread.heldEpoch, Option.ite_none_right_eq_some,
      Option.some.injEq]
    rintro ⟨rfl, rfl⟩; exact .inr ⟨rfl, .inl h⟩
  case pick h =>
    simp only [List.mem_singleton, forall_eq]
    rcases byKind_eq_some h with rfl | ⟨k', rfl⟩ | ⟨g', k', -, rfl⟩ <;> simp [Thread.heldEpoch]
  case tors | wgs =>
    intro x hx h
    dsimp only at hx
    rcases hx with _ | ⟨_, hx⟩
    · cases h
    · obtain ⟨_, -, rfl⟩ := List.mem_map.1 hx; cases h
  -- every other move leaves the mover's request as it was, or goroutines holding nothing
  all_goals
    intro x hx h
    dsimp only at hx
    rcases hx with _ | ⟨_, _ | ⟨_, ⟨⟩⟩⟩ <;> first | exact .inl h | cases h

/-- `s'` keeps what `s` says of the gate `g` itself: its state, epoch, kind and
    place in the maps, and the requests holding it, but for requests that took
    `g` in its current epoch while it was Ready or while no goroutine worked on
    it. -/
structure Sys.Keeps (g : Nat) (s s' : Sys) : Prop where
  state : (s'.gates g).cell.state = (s.gates g).cell.state
  epoch : (s'.gates g).epoch = (s.gates g).epoch
  kind : (s'.gates g).kind = (s.gates g).kind
  inMaps : s'.InMaps g ↔ s.InMaps g
  holders : ∀ x ∈ s'.threads, ∀ e, x.heldEpoch g = some e → (∃ y ∈ s.threads, y.heldEpoch g = some e) ∨
    (e = (s.gates g).epoch ∧ ((s.gates g).cell.state = .ready ∨ ∀ y ∈ s.threads, y.operand ≠ some g))

/-- `s'` changes nothing the laws of `g` read in `s`, but for goroutines on `g`
    that returned and requests that took `g` as `Sys.Keeps` allows. -/
structure Sys.Frame (g : Nat) (s s' : Sys) extends Keeps g s s' : Prop where
  getElem : ∀ (j : Nat) (x : Thread), x.operand = some g → s'.threads[j]? = some x →
    s.threads[j]? = some x
  closes : s'.closes g ≤ s.closes g
  newSet : s'.threads.count (.new (.setMap g)) ≤ s.threads.count (.new (.setMap g))
  log : s'.log = s.log ∨ ∃ x, s'.log = s.log ++ [x] ∧ x ≠ .refresh g ∧ x ≠ .close g
  shutting : s.shutting = true → s'.shutting = true
  tors : s.TookTors → s'.TookTors
  wgs : s.TookWgs → s'.TookWgs

namespace Sys.Keeps

variable {g : Nat} {s s' : Sys}

/-- A request holding `g` before the drain with epoch `e` still does, when `e` is
    past the current epoch or a goroutine works on `g` while it is not Ready. -/
theorem heldBefore (hk : Keeps g s s') {e : Nat} (h : s.HeldBefore g e)
    (he : (s.gates g).epoch < e ∨
      ((s.gates g).cell.state ≠ .ready ∧ ∃ y ∈ s.threads, y.operand = some g)) :
    s'.HeldBefore g e := by
  intro x hx e' hxe
  rcases hk.holders x hx e' hxe with ⟨y, hy, hye⟩ | ⟨rfl, hr⟩
  · exact h y hy e' hye
  · rcases he with he | ⟨hne, y, hy, hyo⟩
    · exact he
    · rcases hr with hr | hr
      · exact absurd hr hne
      · exact absurd hyo (hr y hy)

/-- A move whose write does not move `g` keeps `g`. -/
theorem of_move (hw : s.Wf) {i : Nat} {t : Thread} {m : Move} (ht : s.threads[i]? = some t)
    (hm : Moves s t m) (he : m.eff.moves g = false) : Keeps g s (s.advance i m) := by
  obtain ⟨hst, hep, hk⟩ := apply_gate_of_not_moves s he
  refine ⟨hst, hep, hk, hw.inMaps_apply he, fun x hx e hxe => ?_⟩
  rcases (mem_advance_threads hx).imp_right (hm.heldEpoch x · hxe) with hx | h | ⟨rfl, h⟩
  · exact .inl ⟨x, hx, hxe⟩
  · exact .inl ⟨t, List.getElem?_mem ht, h⟩
  · refine .inr ⟨rfl, h.imp_right fun hd y hy hyo => ?_⟩
    exact hw.drt_born (hd ▸ hw.operand y hy g hyo)

end Sys.Keeps

namespace Sys.Frame

variable {g : Nat} {s s' : Sys}

theorem mem (hf : Frame g s s') {x : Thread} (hx : x.operand = some g) (h : x ∈ s'.threads) :
    x ∈ s.threads := by
  obtain ⟨j, hj⟩ := List.mem_iff_getElem?.1 h
  exact List.mem_iff_getElem?.2 ⟨j, hf.getElem j x hx hj⟩

/-- Every call is outside the frame of every gate: it starts a goroutine that
    works on no gate yet. -/
theorem call (c : Api) : Frame g s { s with threads := s.threads ++ [c.thread] } where
  state := rfl
  epoch := rfl
  kind := rfl
  inMaps := Iff.rfl
  holders x hx e hxe := by
    rcases List.mem_append.1 hx with hx | hx
    · exact .inl ⟨x, hx, hxe⟩
    · rw [List.mem_singleton.1 hx, Api.thread_heldEpoch] at hxe; cases hxe
  getElem j x hx h := by
    by_cases hj : j < s.threads.length
    · rwa [List.getElem?_append_left hj] at h
    · rw [List.getElem?_append_right (by omega)] at h
      have := List.mem_singleton.1 (List.getElem?_mem h)
      subst this; simp at hx
  closes := by
    simp only [Sys.closes, List.countP_append]; cases c <;> simp [Api.thread, Thread.closes]
  newSet := by simp only [List.count_append]; cases c <;> simp [Api.thread]
  log := .inl rfl
  shutting := id
  tors := fun ⟨x, hx, h⟩ => ⟨x, List.mem_append_left _ hx, h⟩
  wgs := fun ⟨x, hx, h⟩ => ⟨x, List.mem_append_left _ hx, h⟩

/-- A move that writes nothing `g`'s laws read and leaves no goroutine working
    on `g` is inside the frame of `g`. -/
theorem of_move (hw : s.Wf) {i : Nat} {t : Thread} {m : Move} (ht : s.threads[i]? = some t)
    (hm : Moves s t m) (hpc : m.pc.operand ≠ some g) (hsp : ∀ x ∈ m.spawn, x.operand ≠ some g)
    (he : m.eff.touches g = false) : Frame g s (s.advance i m) := by
  have hmv : m.eff.moves g = false := by simp_all [Eff.touches]
  -- a count of goroutines on `g` does not grow
  have hcount : ∀ p : Thread → Bool, (∀ x, p x = true → x.operand = some g) →
      (s.advance i m).threads.countP p ≤ s.threads.countP p := by
    intro p hp
    have h := countP_advance p m ht
    have h₁ : p m.pc = false := by
      cases h : p m.pc
      · rfl
      · exact absurd (hp _ h) hpc
    have h₂ : m.spawn.countP p = 0 := List.countP_eq_zero.2 fun x hx h => hsp x hx (hp x h)
    rw [h₁, h₂] at h
    simp only [Bool.false_eq_true, if_false, Nat.add_zero] at h
    split at h <;> omega
  have hlog := apply_log_of_not_touches s he
  refine ⟨Keeps.of_move hw ht hm hmv, ?_, ?_, ?_, by simpa using hlog, ?_, ?_, ?_⟩
  · intro j x hx h
    rcases getElem?_advance h with ⟨-, h⟩ | ⟨-, rfl⟩ | ⟨-, h⟩
    · exact h
    · exact absurd hx hpc
    · exact absurd hx (hsp x (List.getElem?_mem h))
  · have := hcount (Thread.closes g) fun _ => Thread.operand_of_closes
    have hc : (s.apply m.eff).log.count (.close g) = s.log.count (.close g) := by
      rcases hlog with h | ⟨x, h, -, hx⟩
      · rw [h]
      · simp [h, List.count_singleton', hx]
    simp only [Sys.closes, advance_log, hc]
    omega
  · simp only [List.count_eq_countP]
    exact hcount _ fun x hx => by simp only [beq_iff_eq] at hx; subst hx; rfl
  · intro h; simp [apply_shutting, h]
  · exact fun h => (TookTors.advance_iff ht hm).2 (.inl h)
  · exact fun h => (TookWgs.advance_iff ht hm).2 (.inl h)

theorem of_not_about (hw : s.Wf) {i : Nat} {t : Thread} {m : Move} (ht : s.threads[i]? = some t)
    (hm : Moves s t m) (h : m.about g = false) : Frame g s (s.advance i m) := by
  simp only [Move.about, Bool.or_eq_false_iff, beq_eq_false_iff_ne, List.any_eq_false] at h
  exact of_move hw ht hm h.1.1 (fun x hx => by simpa using h.1.2 x hx) h.2

end Sys.Frame

end Pumpe.Gate
