-- SUMMARY: The lifecycle of one gate when management calls on an id are serial: from its drain to its re-admission no request takes the gate and its device calls find it idle of new requests, and it is closed at most once and never refreshed after.
import Pumpe.Gate.Serial

/-!
# The lifecycle of a gate

`forState` drains a gate before `RefreshOne` calls `refresh()` and `CloseOne`
calls `close()`: it moves the gate out of `stateReady`, takes it out of its
map, and polls `noReqs`. `Sys.Life g` is what holds of the gate `g` in every
state a run with serial management calls reaches (`ReachableSerial.life`):
from the drain until `Set.toState` re-admits it the gate is not Ready, so no
request passes its readiness check; the requests that still hold it took it
before the drain began; a device call of a management goroutine finds the gate
out of both maps in the epoch of its drain; and once a close of `g` is made or
under way no other close is started and no refresh.

The two schedules of a single management call that the drain does not exclude
are requests that took the gate before the drain: one that passed its
readiness check but has not yet called `AddReq` when `noReqs` reads zero, and
one whose `AddReq` a timed-out drain's `resetReqs` erased.
-/

namespace Pumpe.Gate

open Sys

/-- The program points of `forState` before its `isShutting` check lets it poll. -/
def Mgmt.beforePoll : Mgmt → Bool
  | .getState _ _ | .toState _ _ _ | .remove _ _ _ _ | .isShutting _ _ _ _ => true
  | _ => false

/-- The drain of `g` with epoch `e` by `op` is in force: the gate is in that epoch
    and not Ready (Closed for `CloseOne`), and every request holding it took it
    before the drain began. -/
structure Sys.Drained (s : Sys) (g : Nat) (op : Op) (e : Nat) : Prop where
  epoch : (s.gates g).epoch = e
  notReady : (s.gates g).cell.state ≠ .ready
  closed : op = .closeOne → (s.gates g).cell.state = .closed
  held : s.HeldBefore g e

/-- What the management goroutine on `g` knows at its program point: from the
    drain to `Set.toState`'s `toState` the gate is not Ready, and from `Remove`
    to `Set` it is in no map. -/
def Sys.MgmtOk (s : Sys) (g : Nat) : Mgmt → Prop
  | .remove op _ _ e => s.Drained g op e
  | .isShutting op _ _ e | .noReqs op _ _ e => s.Drained g op e ∧ ¬s.InMaps g
  | .refreshOne _ _ _ | .resetReqs _ _ _ _ | .setState _ _ _ _ =>
    (s.gates g).cell.state ≠ .ready ∧ ¬s.InMaps g
  | .setMap _ _ _ => ¬s.InMaps g
  | _ => True

/-- `Shutdown` has taken the values of the map of `g`'s kind. -/
def Sys.Took (s : Sys) (g : Nat) : Prop :=
  ((s.gates g).kind = .tor → s.TookTors) ∧ ((s.gates g).kind = .wireGuard → s.TookWgs)

/-- A refresh of `g` under way in the device goroutine `x` at index `j`: `g` is
    drained, the only management goroutine on it waits for `x`, and `refresh()`
    is called in the epoch of the drain. -/
structure Sys.RefreshOk (s : Sys) (g j : Nat) (x : Thread) : Prop where
  notReady : (s.gates g).cell.state ≠ .ready
  notInMaps : ¬s.InMaps g
  waited : ∀ c, Thread.mgmt c ∈ s.threads → c.operand = some g → ∃ e, c = .refreshOne g e j
  drained : ∀ e, x = .dev (.refresh g e) → (s.gates g).epoch = e ∧ s.HeldBefore g e

/-- A close of `g` started by the `CloseOne` whose drain had epoch `e`: `g` is
    Closed, out of the maps and still in that epoch, and no management goroutine
    works on it. -/
structure Sys.CloseOk (s : Sys) (g e : Nat) : Prop where
  closed : (s.gates g).cell.state = .closed
  notInMaps : ¬s.InMaps g
  epoch : (s.gates g).epoch = e
  held : s.HeldBefore g e
  alone : ∀ c, Thread.mgmt c ∈ s.threads → c.operand ≠ some g

/-- A close of `g` is made or under way: it is the only one, no refresh is under
    way, and either `Shutdown` took `g`, so a management call on it stops at
    `isShutting`, or `g` is out of the maps with no management goroutine on it. -/
structure Sys.ClosedOk (s : Sys) (g : Nat) : Prop where
  once : s.closes g = 1
  noRefresh : ∀ x ∈ s.threads, x.refreshes g = false
  stopped : (s.shutting = true ∧ s.Took g ∧
      ∀ c, Thread.mgmt c ∈ s.threads → c.operand = some g → c.beforePoll = true) ∨
    (¬s.InMaps g ∧ ∀ c, Thread.mgmt c ∈ s.threads → c.operand ≠ some g)

/-- The lifecycle of the gate `g`. -/
structure Sys.Life (s : Sys) (g : Nat) : Prop where
  /-- every request holding `g` took it in an epoch no later than the current one -/
  held : s.HeldBefore g ((s.gates g).epoch + 1)
  /-- a gate `New` has not stored yet is known to no other goroutine -/
  fresh : Thread.new (.setMap g) ∈ s.threads → ¬s.InMaps g ∧ s.closes g = 0 ∧
    s.threads.count (.new (.setMap g)) = 1 ∧
    ∀ x ∈ s.threads, x.operand = some g → x = .new (.setMap g)
  mgmt : ∀ c, Thread.mgmt c ∈ s.threads → c.operand = some g → s.MgmtOk g c
  refreshing : ∀ j x, s.threads[j]? = some x → x.refreshes g = true → s.RefreshOk g j x
  closing : ∀ e, Thread.dev (.close g (some e)) ∈ s.threads → s.CloseOk g e
  closed : 0 < s.closes g → s.ClosedOk g
  /-- no refresh was called after a close -/
  order : ∀ l₁ l₂, s.log = l₁ ++ .close g :: l₂ → .refresh g ∉ l₂

-- ---------------------------------------------------------------------------
-- Carrying the facts along a step that keeps the gate
-- ---------------------------------------------------------------------------

/-- Logging a call other than a refresh adds no refresh after a close. -/
theorem order_append {log : List Invocation} {g : Nat} {x : Invocation}
    (h : ∀ l₁ l₂, log = l₁ ++ .close g :: l₂ → .refresh g ∉ l₂) (hx : x ≠ .refresh g) :
    ∀ l₁ l₂, log ++ [x] = l₁ ++ .close g :: l₂ → .refresh g ∉ l₂ := by
  intro l₁ l₂ heq
  induction l₂ using List.reverseRecOn with
  | nil => simp
  | append_singleton l₂ y _ =>
    rw [← List.cons_append, ← List.append_assoc] at heq
    obtain ⟨rfl, hxy⟩ := List.append_inj' heq rfl
    obtain rfl : x = y := List.singleton_inj.1 hxy
    simpa [hx.symm] using h l₁ l₂ rfl

/-- With no close in the log, logging any call other than a close leaves none. -/
theorem order_of_not_mem {log : List Invocation} {g : Nat} {x : Invocation}
    (h : Invocation.close g ∉ log) (hx : x ≠ .close g) :
    ∀ l₁ l₂, log ++ [x] = l₁ ++ .close g :: l₂ → .refresh g ∉ l₂ := by
  intro l₁ l₂ heq
  have : Invocation.close g ∈ log ++ [x] := heq ▸ by simp
  simp [h, hx.symm] at this

variable {g : Nat} {s s' : Sys}

theorem Sys.HeldBefore.mono {e e' : Nat} (h : s.HeldBefore g e) (he : e ≤ e') : s.HeldBefore g e' :=
  fun x hx e'' hxe => Nat.lt_of_lt_of_le (h x hx e'' hxe) he

theorem Sys.Took.keep (h : s.Took g) (hk : Keeps g s s') (htt : s.TookTors → s'.TookTors)
    (htw : s.TookWgs → s'.TookWgs) : s'.Took g :=
  ⟨fun hk' => htt (h.1 (hk.kind ▸ hk')), fun hk' => htw (h.2 (hk.kind ▸ hk'))⟩

theorem Sys.Drained.keep {op : Op} {e : Nat} (hd : s.Drained g op e) (hk : Keeps g s s')
    (hy : ∃ y ∈ s.threads, y.operand = some g) : s'.Drained g op e :=
  ⟨hk.epoch.trans hd.epoch, hk.state ▸ hd.notReady, fun h => hk.state.trans (hd.closed h),
    hk.heldBefore hd.held (.inr ⟨hd.notReady, hy⟩)⟩

theorem Sys.MgmtOk.keep {c : Mgmt} (h : s.MgmtOk g c) (hk : Keeps g s s') (hc : Thread.mgmt c ∈ s.threads)
    (hop : c.operand = some g) : s'.MgmtOk g c := by
  have hy : ∃ y ∈ s.threads, y.operand = some g := ⟨_, hc, hop⟩
  cases c <;> simp only [MgmtOk, hk.state, hk.inMaps] at h ⊢
  case remove => exact h.keep hk hy
  case isShutting | noReqs => exact ⟨h.1.keep hk hy, h.2⟩
  all_goals exact h

/-- A management goroutine on `g` that may still find `g` in a map has not
    passed its `isShutting` check. -/
theorem Sys.MgmtOk.beforePoll {c : Mgmt} (h : s.MgmtOk g c) (hop : c.operand = some g)
    (hm : s.InMaps g) : c.beforePoll = true := by
  cases c <;> simp_all [MgmtOk, Mgmt.beforePoll, Mgmt.operand]

section Keep

variable (hk : Keeps g s s')
  (hmg : ∀ c, Thread.mgmt c ∈ s'.threads → c.operand = some g → Thread.mgmt c ∈ s.threads)
include hk hmg

theorem Sys.RefreshOk.keep {j : Nat} {x : Thread} (h : s.RefreshOk g j x) (hx : x ∈ s.threads)
    (hop : x.operand = some g) : s'.RefreshOk g j x :=
  ⟨hk.state ▸ h.notReady, fun h' => h.notInMaps (hk.inMaps.1 h'),
    fun c hc hop => h.waited c (hmg c hc hop) hop,
    fun e he => ⟨hk.epoch.trans (h.drained e he).1,
      hk.heldBefore (h.drained e he).2 (.inr ⟨h.notReady, x, hx, hop⟩)⟩⟩

theorem Sys.CloseOk.keep {e : Nat} (h : s.CloseOk g e) (hx : Thread.dev (.close g (some e)) ∈ s.threads) :
    s'.CloseOk g e :=
  ⟨hk.state.trans h.closed, fun h' => h.notInMaps (hk.inMaps.1 h'), hk.epoch.trans h.epoch,
    hk.heldBefore h.held (.inr ⟨by simp [h.closed], _, hx, rfl⟩),
    fun c hc hop => h.alone c (hmg c hc hop) hop⟩

end Keep

/-- A close made or under way keeps its facts along a step that keeps `g`, starts
    no close and no refresh, and leaves only management goroutines on `g` that
    were there or have not polled while `g` is in a map. -/
theorem Sys.ClosedOk.keep (h : s.ClosedOk g) (hk : Keeps g s s')
    (hmg : ∀ c, Thread.mgmt c ∈ s'.threads → c.operand = some g →
      Thread.mgmt c ∈ s.threads ∨ (c.beforePoll = true ∧ s.InMaps g))
    (hcl : s'.closes g = s.closes g)
    (hrf : ∀ x ∈ s'.threads, x.refreshes g = true → x ∈ s.threads)
    (hsh : s.shutting = true → s'.shutting = true) (htt : s.TookTors → s'.TookTors)
    (htw : s.TookWgs → s'.TookWgs) : s'.ClosedOk g := by
  refine ⟨hcl.trans h.once, fun x hx => ?_, ?_⟩
  · cases hr : x.refreshes g
    · rfl
    · simpa [hr] using h.noRefresh x (hrf x hx hr)
  · rcases h.stopped with ⟨hs, ht, hb⟩ | ⟨hn, hno⟩
    · refine .inl ⟨hsh hs, ht.keep hk htt htw, fun c hc hop => ?_⟩
      rcases hmg c hc hop with hc | ⟨hb', -⟩
      · exact hb c hc hop
      · exact hb'
    · refine .inr ⟨fun h' => hn (hk.inMaps.1 h'), fun c hc hop => ?_⟩
      rcases hmg c hc hop with hc | ⟨-, hm⟩
      · exact hno c hc hop
      · exact hn hm

/-- The lifecycle of `g` survives every step inside its frame. -/
theorem Sys.Life.frame (hl : s.Life g) (hf : Frame g s s') : s'.Life g := by
  have hmg : ∀ c, Thread.mgmt c ∈ s'.threads → c.operand = some g → Thread.mgmt c ∈ s.threads :=
    fun c hc hop => hf.mem hop hc
  refine ⟨?_, fun hn => ?_, fun c hc hop => (hl.mgmt c (hmg c hc hop) hop).keep hf.toKeeps (hmg c hc hop) hop,
    fun j x hj hx => ?_, fun e he => ?_, fun hc => ?_, ?_⟩
  · rw [hf.epoch]; exact hf.heldBefore hl.held (.inl (Nat.lt_succ_self _))
  · obtain ⟨h₁, h₂, h₃, h₄⟩ := hl.fresh (hf.mem (x := .new (.setMap g)) rfl hn)
    have : 0 < s'.threads.count (.new (.setMap g)) := List.count_pos_iff.2 hn
    exact ⟨fun h => h₁ (hf.inMaps.1 h), Nat.le_zero.1 (h₂ ▸ hf.closes), by have := hf.newSet; omega,
      fun x hx hop => h₄ x (hf.mem hop hx) hop⟩
  · have hop := Thread.operand_of_refreshes hx
    have hj' := hf.getElem j x hop hj
    exact (hl.refreshing j x hj' hx).keep hf.toKeeps hmg (List.getElem?_mem hj') hop
  · have hc := hf.mem (x := .dev (.close g (some e))) rfl he
    exact (hl.closing e hc).keep hf.toKeeps hmg hc
  · have h := hl.closed (Nat.lt_of_lt_of_le hc hf.closes)
    have : s'.closes g = s.closes g := by have := hf.closes; have := h.once; omega
    exact h.keep hf.toKeeps (fun c hc hop => .inl (hmg c hc hop)) this
      (fun x hx hr => hf.mem (Thread.operand_of_refreshes hr) hx) hf.shutting hf.tors hf.wgs
  · rcases hf.log with h | ⟨x, h, hx, -⟩
    · rw [h]; exact hl.order
    · rw [h]; exact order_append hl.order hx

-- ---------------------------------------------------------------------------
-- Steps of the management goroutine on the gate
-- ---------------------------------------------------------------------------

theorem Thread.mgmtOn_of_operand {c : Mgmt} (h : c.operand = some g) :
    (Thread.mgmt c).mgmtOn g = true := by
  cases c <;> simp_all [Thread.mgmtOn, Mgmt.operand]

/-- After a move of the management goroutine on `g`, the only management
    goroutine on `g` is the mover at its new program point. -/
theorem Sys.Exclusive.mgmt_advance (hx : s.Exclusive) {i : Nat} {c c' : Mgmt} {m : Move}
    (ht : s.threads[i]? = some (.mgmt c)) (hc : c.operand = some g)
    (hsp : ∀ x ∈ m.spawn, ∃ d, x = .dev d)
    (h : Thread.mgmt c' ∈ (s.advance i m).threads) (hop : c'.operand = some g) : m.pc = .mgmt c' := by
  obtain ⟨j, hj⟩ := List.mem_iff_getElem?.1 h
  rcases getElem?_advance hj with ⟨hji, hj⟩ | ⟨-, h⟩ | ⟨-, h⟩
  · have := two_le_countP_of_getElem? ht hj (Ne.symm hji) (Thread.mgmtOn_of_operand hc)
      (Thread.mgmtOn_of_operand hop)
    have := hx g; omega
  · exact h.symm
  · obtain ⟨d, hd⟩ := hsp _ (List.getElem?_mem h)
    cases hd

/-- A goroutine after a move that is not the mover's program point and not one
    it started was there before. -/
theorem mem_of_mem_advance {i : Nat} {m : Move} {x : Thread} (h : x ∈ (s.advance i m).threads)
    (hpc : x ≠ m.pc) (hsp : x ∉ m.spawn) : x ∈ s.threads := by
  rcases mem_advance_threads h with h | h
  · exact h
  · rcases List.mem_cons.1 h with h | h
    · exact absurd h hpc
    · exact absurd h hsp

/-- The requests holding `g` after a move that takes no request are among those
    before it. -/
theorem Sys.HeldBefore.advance {i : Nat} {m : Move} {e : Nat} (h : s.HeldBefore g e)
    (hpc : m.pc.heldEpoch g = none) (hsp : ∀ x ∈ m.spawn, x.heldEpoch g = none) :
    (s.advance i m).HeldBefore g e := by
  intro x hx e' hxe
  rcases mem_advance_threads hx with hx | hx
  · exact h x hx e' hxe
  · rcases List.mem_cons.1 hx with rfl | hx
    · rw [hpc] at hxe; cases hxe
    · rw [hsp x hx] at hxe; cases hxe

/-- How a move changes the closes of `g`: the device goroutine that makes one
    turns it into a log entry. -/
theorem Sys.closes_advance {i : Nat} {t : Thread} (m : Move) (ht : s.threads[i]? = some t) :
    (s.advance i m).closes g + (if t.closes g then 1 else 0) =
      s.closes g + (if m.eff = .close g then 1 else 0) + (if m.pc.closes g then 1 else 0) +
        m.spawn.countP (Thread.closes g) := by
  have h := countP_advance (Thread.closes g) m ht
  have hl : (s.apply m.eff).log.count (.close g) =
      s.log.count (.close g) + if m.eff = .close g then 1 else 0 := by
    cases h : m.eff <;> simp [apply, modify, remove, insert, List.count_singleton', eq_comm]
  simp only [Sys.closes, advance_log, hl]
  omega

/-- A management goroutine calls into no device, changes no kind, and moves an
    epoch only forward. -/
theorem Moves.mgmt_write {c : Mgmt} {m : Move} (hm : Moves s (.mgmt c) m) (g : Nat) :
    (s.apply m.eff).log = s.log ∧ ((s.apply m.eff).gates g).kind = (s.gates g).kind ∧
      (s.gates g).epoch ≤ ((s.apply m.eff).gates g).epoch := by
  cases hm <;> simp only [Sys.apply, modify_gates, Sys.remove, Sys.insert] <;> (try split_ifs) <;>
    simp_all [Sys.modify, Function.update_apply]
  split_ifs <;> simp_all

/-- A management goroutine on `g` moves to another program point on `g`, or
    returns, and starts only device goroutines. -/
theorem Moves.mgmt_pc {c : Mgmt} {m : Move} (hm : Moves s (.mgmt c) m) (hc : c.operand = some g) :
    ∃ c', m.pc = .mgmt c' ∧ (c'.operand = some g ∨ c' = .done) := by
  cases hm <;> simp_all [Mgmt.operand]

/-- With the latch closed, a management goroutine that has not polled never
    will. -/
theorem Moves.beforePoll {c : Mgmt} {m : Move} (hm : Moves s (.mgmt c) m) (hb : c.beforePoll = true)
    (hs : s.shutting = true) : ∀ c', m.pc = .mgmt c' → c'.beforePoll = true ∨ c' = .done := by
  cases hm <;> simp_all [Mgmt.beforePoll]

/-- `RefreshOne` waiting on a device goroutine that still refreshes can only
    give up. -/
theorem Moves.of_refreshOne {e j : Nat} {m : Move} {x : Thread}
    (hm : Moves s (.mgmt (.refreshOne g e j)) m) (hx : s.threads[j]? = some x)
    (hr : x.refreshes g = true) : m = ⟨.mgmt .done, .skip, []⟩ := by
  cases hm
  case cancel => rfl
  all_goals
    rename_i h
    obtain rfl : x = _ := Option.some.inj (hx.symm.trans h)
    simp [Thread.refreshes] at hr

/-- A step of the management goroutine on `g` that starts no goroutine keeps the
    lifecycle of `g`, given the fact its new program point needs: it is the only
    management goroutine on `g`, so every other law of `g` is about goroutines
    the step leaves alone. -/
theorem Sys.Life.mgmt_step (hx : s.Exclusive) (hl : s.Life g) {i : Nat} {c : Mgmt} {m : Move}
    (hw : s.Wf) (ht : s.threads[i]? = some (.mgmt c)) (hc : c.operand = some g)
    (hm : Moves s (.mgmt c) m) (hsp : m.spawn = [])
    (hpc : ∀ c', m.pc = .mgmt c' → c'.operand = some g → (s.advance i m).MgmtOk g c') :
    (s.advance i m).Life g := by
  have htm := List.getElem?_mem ht
  obtain ⟨hlog, hkind, hepoch⟩ := hm.mgmt_write g
  obtain ⟨c', hpc', hc'⟩ := hm.mgmt_pc hc
  have hmg : ∀ c'', Thread.mgmt c'' ∈ (s.advance i m).threads → c''.operand = some g →
      m.pc = .mgmt c'' := fun c'' h hop => hx.mgmt_advance ht hc (by simp [hsp]) h hop
  -- every goroutine after the move but the mover's was there before it
  have hold : ∀ x ∈ (s.advance i m).threads, (∀ c'', x ≠ .mgmt c'') → x ∈ s.threads :=
    fun x h hnm => mem_of_mem_advance h (hpc' ▸ hnm c') (by simp [hsp])
  have hcl : (s.advance i m).closes g = s.closes g := by
    have := closes_advance (g := g) m ht
    simp only [hpc', hsp, Thread.closes, Bool.false_eq_true, if_false, List.countP_nil, Nat.add_zero,
      hlog] at this
    split at this
    · rename_i h; have := hm.mgmt_write g; simp [h, apply] at this
    · exact this
  have hheld : ∀ e, s.HeldBefore g e → (s.advance i m).HeldBefore g e :=
    fun e h => h.advance (by rw [hpc']; rfl) (by simp [hsp])
  refine ⟨hheld _ (hl.held.mono (by simp only [advance_gates]; omega)), fun hn => ?_,
    fun c'' h hop => hpc c'' (hmg c'' h hop) hop, fun j x hj hr => ?_, fun e he => ?_, fun h0 => ?_,
    by rw [advance_log, hlog]; exact hl.order⟩
  · cases (hl.fresh (hold _ hn (by simp))).2.2.2 _ htm hc
  · rcases getElem?_advance hj with ⟨-, hj'⟩ | ⟨-, rfl⟩ | ⟨-, h⟩
    · have h := hl.refreshing j x hj' hr
      obtain ⟨e, rfl⟩ := h.waited c htm hc
      obtain rfl := hm.of_refreshOne hj' hr
      refine h.keep (Keeps.of_move hw ht hm rfl) (fun c'' h' hop => ?_) (List.getElem?_mem hj')
        (Thread.operand_of_refreshes hr)
      cases hmg c'' h' hop; simp [Mgmt.operand] at hop
    · rw [hpc'] at hr; cases hr
    · simp [hsp] at h
  · exact absurd hc ((hl.closing e (hold _ he (by simp))).alone c htm)
  · rw [hcl] at h0
    have h := hl.closed h0
    rcases h.stopped with ⟨hs, htk, hb⟩ | ⟨-, hno⟩
    · refine ⟨hcl.trans h.once, fun x hx => ?_, .inl ⟨by simp [apply_shutting, hs], ⟨fun hk => ?_, fun hk => ?_⟩,
        fun c'' h hop => ?_⟩⟩
      · by_cases hxm : x = m.pc
        · rw [hxm, hpc']; rfl
        · exact h.noRefresh x (mem_of_mem_advance hx hxm (by simp [hsp]))
      · rw [advance_gates, hkind] at hk
        exact (TookTors.advance_iff ht hm).2 (.inl (htk.1 hk))
      · rw [advance_gates, hkind] at hk
        exact (TookWgs.advance_iff ht hm).2 (.inl (htk.2 hk))
      · have := hmg c'' h hop
        rw [hpc'] at this; cases this
        rcases hm.beforePoll (hb c htm hc) hs c' hpc' with h | rfl
        · exact h
        · simp [Mgmt.operand] at hop
    · exact absurd hc (hno c htm)

-- ---------------------------------------------------------------------------
-- The other steps on the gate
-- ---------------------------------------------------------------------------

/-- `byID` finds `g` in a map: a management goroutine starts on `g`. -/
theorem Sys.Life.found (hw : s.Wf) (hl : s.Life g) {i : Nat} {op : Op} {id : Nat}
    (ht : s.threads[i]? = some (.mgmt (.byID op id)))
    (hm : Moves s (.mgmt (.byID op id)) ⟨.mgmt (.getState op g), .skip, []⟩) (hin : s.InMaps g) :
    (s.advance i ⟨.mgmt (.getState op g), .skip, []⟩).Life g := by
  have hk := Keeps.of_move (g := g) hw ht hm rfl
  have hold : ∀ x ∈ (s.advance i ⟨.mgmt (.getState op g), .skip, []⟩).threads,
      x ≠ .mgmt (.getState op g) → x ∈ s.threads := fun x h hne => mem_of_mem_advance h hne (by simp)
  have hmg : ∀ c, Thread.mgmt c ∈ (s.advance i ⟨.mgmt (.getState op g), .skip, []⟩).threads →
      c.operand = some g → Thread.mgmt c ∈ s.threads ∨ (c.beforePoll = true ∧ s.InMaps g) := by
    intro c hc _
    by_cases hce : c = .getState op g
    · exact .inr ⟨by simp [hce, Mgmt.beforePoll], hin⟩
    · exact .inl (hold _ hc (by simpa using hce))
  have hcl : (s.advance i ⟨.mgmt (.getState op g), .skip, []⟩).closes g = s.closes g := by
    simpa [Thread.closes] using closes_advance (g := g) ⟨.mgmt (.getState op g), .skip, []⟩ ht
  refine ⟨?_, fun hn => ?_, fun c hc hop => ?_, fun j x hj hr => ?_, fun e he => ?_, fun h0 => ?_,
    hl.order⟩
  · rw [hk.epoch]; exact hk.heldBefore hl.held (.inl (Nat.lt_succ_self _))
  · exact absurd hin (hl.fresh (hold _ hn (by simp))).1
  · rcases hmg c hc hop with h | ⟨-, -⟩
    · exact (hl.mgmt c h hop).keep hk h hop
    · by_cases hce : c = .getState op g
      · subst hce; trivial
      · have h := hold _ hc (by simpa using hce)
        exact (hl.mgmt c h hop).keep hk h hop
  · rcases getElem?_advance hj with ⟨-, hj'⟩ | ⟨-, rfl⟩ | ⟨-, h⟩
    · exact absurd hin (hl.refreshing j x hj' hr).notInMaps
    · cases hr
    · simp at h
  · exact absurd hin (hl.closing e (hold _ he (by simp))).notInMaps
  · rw [hcl] at h0
    exact (hl.closed h0).keep hk hmg hcl (fun x hx hr => hold x hx (by rintro rfl; cases hr))
      (fun h => h) (fun h => (TookTors.advance_iff ht hm).2 (.inl h))
      (fun h => (TookWgs.advance_iff ht hm).2 (.inl h))

/-- With no close made and no refresh under way, a management goroutine on `g`
    away from its first steps knows `g` has not been closed. -/
theorem Sys.Life.closes_eq_zero (hl : s.Life g) {c : Mgmt} (hc : Thread.mgmt c ∈ s.threads)
    (hop : c.operand = some g) (hb : c.beforePoll = false) : s.closes g = 0 := by
  by_contra h0
  rcases (hl.closed (Nat.pos_of_ne_zero h0)).stopped with ⟨-, -, hb'⟩ | ⟨-, hno⟩
  · rw [hb' c hc hop] at hb; cases hb
  · exact hno c hc hop

/-- No refresh is under way while a management goroutine on `g` does anything
    but wait for one. -/
theorem Sys.Life.not_refreshes (hl : s.Life g) {c : Mgmt} (hc : Thread.mgmt c ∈ s.threads)
    (hop : c.operand = some g) (hnr : ∀ e j, c ≠ .refreshOne g e j) {j : Nat} {x : Thread}
    (hj : s.threads[j]? = some x) : x.refreshes g = false := by
  cases hr : x.refreshes g
  · rfl
  · obtain ⟨e, rfl⟩ := (hl.refreshing j x hj hr).waited c hc hop
    exact absurd rfl (hnr e j)

/-- `noReqs` reads zero: `RefreshOne` starts the device goroutine that calls
    `refresh()` and waits for it. -/
theorem Sys.Life.drainedRefresh (hw : s.Wf) (hx : s.Exclusive) (hl : s.Life g) {i : Nat} {orig : State}
    {e : Nat} (ht : s.threads[i]? = some (.mgmt (.noReqs .refreshOne g orig e)))
    (hm : Moves s (.mgmt (.noReqs .refreshOne g orig e))
      ⟨.mgmt (.refreshOne g e s.threads.length), .skip, [.dev (.refresh g e)]⟩) :
    (s.advance i ⟨.mgmt (.refreshOne g e s.threads.length), .skip, [.dev (.refresh g e)]⟩).Life g := by
  have htm := List.getElem?_mem ht
  obtain ⟨hd, hn⟩ : s.Drained g .refreshOne e ∧ ¬s.InMaps g := hl.mgmt _ htm rfl
  have hk := Keeps.of_move (g := g) hw ht hm rfl
  have hy : ∃ y ∈ s.threads, y.operand = some g := ⟨_, htm, rfl⟩
  have hmg : ∀ c, Thread.mgmt c ∈ (s.advance i ⟨.mgmt (.refreshOne g e s.threads.length), .skip,
      [.dev (.refresh g e)]⟩).threads → c.operand = some g →
      Thread.mgmt (.refreshOne g e s.threads.length) = .mgmt c :=
    fun c h hop => hx.mgmt_advance ht rfl (by simp) h hop
  have h0 := hl.closes_eq_zero htm rfl rfl
  have hcl : (s.advance i ⟨.mgmt (.refreshOne g e s.threads.length), .skip,
      [.dev (.refresh g e)]⟩).closes g = 0 := by
    simpa [Thread.closes, h0] using closes_advance (g := g)
      ⟨.mgmt (.refreshOne g e s.threads.length), .skip, [.dev (.refresh g e)]⟩ ht
  refine ⟨?_, fun hn' => ?_, fun c hc hop => ?_, fun j x hj hr => ?_, fun e' he => ?_, fun h => ?_,
    hl.order⟩
  · rw [hk.epoch]; exact hk.heldBefore hl.held (.inl (Nat.lt_succ_self _))
  · cases (hl.fresh (mem_of_mem_advance hn' (by simp) (by simp))).2.2.2 _ htm rfl
  · cases hmg c hc hop; exact ⟨hk.state ▸ hd.notReady, fun h => hn (hk.inMaps.1 h)⟩
  · rcases getElem?_advance hj with ⟨-, hj'⟩ | ⟨-, rfl⟩ | ⟨hle, h⟩
    · rw [hl.not_refreshes htm rfl (by simp) hj'] at hr; cases hr
    · cases hr
    · -- the device goroutine just started, at the end of the list
      obtain ⟨k, rfl⟩ := Nat.exists_eq_add_of_le hle
      rw [Nat.add_sub_cancel_left] at h
      cases k with
      | succ k => simp at h
      | zero =>
        simp only [List.getElem?_cons_zero, Option.some.injEq] at h
        subst h
        exact ⟨hk.state ▸ hd.notReady, fun h => hn (hk.inMaps.1 h),
          fun c hc hop => by cases hmg c hc hop; exact ⟨e, rfl⟩,
          fun e' he' => by
            cases he'
            exact ⟨hk.epoch.trans hd.epoch, hk.heldBefore hd.held (.inr ⟨hd.notReady, hy⟩)⟩⟩
  · cases (hl.closing e' (mem_of_mem_advance he (by simp) (by simp))).alone _ htm rfl
  · rw [hcl] at h; cases h

/-- `noReqs` reads zero: `CloseOne` starts the device goroutine that calls
    `close()` and returns. -/
theorem Sys.Life.drainedClose (hw : s.Wf) (hx : s.Exclusive) (hl : s.Life g) {i : Nat} {orig : State}
    {e : Nat} (ht : s.threads[i]? = some (.mgmt (.noReqs .closeOne g orig e)))
    (hm : Moves s (.mgmt (.noReqs .closeOne g orig e)) ⟨.mgmt .done, .skip, [.dev (.close g (some e))]⟩) :
    (s.advance i ⟨.mgmt .done, .skip, [.dev (.close g (some e))]⟩).Life g := by
  have htm := List.getElem?_mem ht
  obtain ⟨hd, hn⟩ : s.Drained g .closeOne e ∧ ¬s.InMaps g := hl.mgmt _ htm rfl
  have hk := Keeps.of_move (g := g) hw ht hm rfl
  have halone : ∀ c, Thread.mgmt c ∈ (s.advance i ⟨.mgmt .done, .skip, [.dev (.close g (some e))]⟩).threads →
      c.operand ≠ some g := fun c hc hop => by
    cases hx.mgmt_advance ht rfl (by simp) hc hop; simp [Mgmt.operand] at hop
  have hco : (s.advance i ⟨.mgmt .done, .skip, [.dev (.close g (some e))]⟩).CloseOk g e :=
    ⟨hk.state.trans (hd.closed rfl), fun h => hn (hk.inMaps.1 h), hk.epoch.trans hd.epoch,
      hk.heldBefore hd.held (.inr ⟨hd.notReady, _, htm, rfl⟩), halone⟩
  have hnr := fun j x hj => hl.not_refreshes (j := j) (x := x) htm rfl (by simp) hj
  have hcl : (s.advance i ⟨.mgmt .done, .skip, [.dev (.close g (some e))]⟩).closes g = 1 := by
    simpa [Thread.closes, hl.closes_eq_zero htm rfl rfl] using
      closes_advance (g := g) ⟨.mgmt .done, .skip, [.dev (.close g (some e))]⟩ ht
  refine ⟨?_, fun hn' => ?_, fun c hc hop => absurd hop (halone c hc), fun j x hj hr => ?_,
    fun e' he => ?_, fun _ => ⟨hcl, fun x hx => ?_, .inr ⟨hco.notInMaps, halone⟩⟩, hl.order⟩
  · rw [hk.epoch]; exact hk.heldBefore hl.held (.inl (Nat.lt_succ_self _))
  · cases (hl.fresh (mem_of_mem_advance hn' (by simp) (by simp))).2.2.2 _ htm rfl
  · rcases getElem?_advance hj with ⟨-, hj'⟩ | ⟨-, rfl⟩ | ⟨-, h⟩
    · rw [hnr j x hj'] at hr; cases hr
    · cases hr
    · rw [List.mem_singleton.1 (List.getElem?_mem h)] at hr; cases hr
  · rcases mem_advance_threads he with he | he
    · cases (hl.closing e' he).alone _ htm rfl
    · obtain rfl : e' = e := by simpa using he
      exact hco
  · rcases mem_advance_threads hx with hx | hx
    · obtain ⟨j, hj⟩ := List.mem_iff_getElem?.1 hx
      exact hnr j x hj
    · rcases List.mem_cons.1 hx with rfl | hx
      · rfl
      · rw [List.mem_singleton.1 hx]; rfl

/-- `refresh()` is called on `g` by the device goroutine `RefreshOne` waits for:
    `g` has never been closed. -/
theorem Sys.Life.refresh (hw : s.Wf) (hl : s.Life g) {i e : Nat} {m : Move}
    (ht : s.threads[i]? = some (.dev (.refresh g e))) (hm : Moves s (.dev (.refresh g e)) m) :
    (s.advance i m).Life g := by
  obtain ⟨heff, hsp, hpc⟩ : m.eff = .refresh g ∧ m.spawn = [] ∧
      (m.pc = .dev (.signal g) ∨ m.pc = .dev (.done false)) := by
    cases hm <;> simp
  have htm := List.getElem?_mem ht
  have hk := Keeps.of_move (g := g) hw ht hm (by simp [heff, Eff.moves])
  have hmg : ∀ c, Thread.mgmt c ∈ (s.advance i m).threads → c.operand = some g →
      Thread.mgmt c ∈ s.threads :=
    fun c hc _ => mem_of_mem_advance hc (by rcases hpc with h | h <;> simp [h]) (by simp [hsp])
  have h0 : s.closes g = 0 := by
    by_contra h0
    have := (hl.closed (Nat.pos_of_ne_zero h0)).noRefresh _ htm
    simp [Thread.refreshes] at this
  have hnc : Invocation.close g ∉ s.log := fun h => by
    have := List.count_pos_iff.2 h
    simp only [Sys.closes] at h0; omega
  have hcl : (s.advance i m).closes g = 0 := by
    have := closes_advance (g := g) m ht
    rcases hpc with h | h <;> simpa [heff, hsp, h, Thread.closes, h0] using this
  refine ⟨?_, fun hn => ?_, fun c hc hop => (hl.mgmt c (hmg c hc hop) hop).keep hk (hmg c hc hop) hop,
    fun j x hj hr => ?_, fun e' he => ?_, fun h => (by rw [hcl] at h; cases h), ?_⟩
  · rw [hk.epoch]; exact hk.heldBefore hl.held (.inl (Nat.lt_succ_self _))
  · have := mem_of_mem_advance hn (by rcases hpc with h | h <;> simp [h]) (by simp [hsp])
    cases (hl.fresh this).2.2.2 _ htm rfl
  · rcases getElem?_advance hj with ⟨-, hj'⟩ | ⟨rfl, rfl⟩ | ⟨-, h⟩
    · exact (hl.refreshing j x hj' hr).keep hk hmg (List.getElem?_mem hj')
        (Thread.operand_of_refreshes hr)
    · -- the device goroutine itself, now holding `refreshing`
      have h := (hl.refreshing j _ ht (by simp [Thread.refreshes])).keep hk hmg htm rfl
      rcases hpc with h' | h' <;> rw [h'] at hr ⊢
      · exact ⟨h.notReady, h.notInMaps, h.waited, fun _ h => by cases h⟩
      · cases hr
    · simp [hsp] at h
  · have := mem_of_mem_advance he (by rcases hpc with h | h <;> simp [h]) (by simp [hsp])
    exact (hl.closing e' this).keep hk hmg this
  · rw [advance_log, heff]
    exact order_of_not_mem (by simpa [apply] using hnc) (by simp)

/-- `close()` is called on `g`: the close under way becomes the close made. -/
theorem Sys.Life.close (hw : s.Wf) (hl : s.Life g) {i : Nat} {src : Option Nat} {ok : Bool}
    (ht : s.threads[i]? = some (.dev (.close g src)))
    (hm : Moves s (.dev (.close g src)) ⟨.dev (.done ok), .close g, []⟩) :
    (s.advance i ⟨.dev (.done ok), .close g, []⟩).Life g := by
  have htm := List.getElem?_mem ht
  have hk := Keeps.of_move (g := g) hw ht hm rfl
  have hold : ∀ x ∈ (s.advance i ⟨.dev (.done ok), .close g, []⟩).threads, x.operand = some g →
      x ∈ s.threads := fun x hx hop =>
    mem_of_mem_advance hx (by rintro rfl; cases hop) (by simp)
  have hmg := fun c hc hop => hold (.mgmt c) hc hop
  have hpos : 0 < s.closes g := by
    have := countP_pos_of_mem htm (p := Thread.closes g) (by simp [Thread.closes])
    simp only [Sys.closes]; omega
  have hcl : (s.advance i ⟨.dev (.done ok), .close g, []⟩).closes g = s.closes g := by
    simpa [Thread.closes] using closes_advance (g := g) ⟨.dev (.done ok), .close g, []⟩ ht
  refine ⟨?_, fun hn => ?_, fun c hc hop => (hl.mgmt c (hmg c hc hop) hop).keep hk (hmg c hc hop) hop,
    fun j x hj hr => ?_, fun e he => (hl.closing e (hold _ he rfl)).keep hk hmg (hold _ he rfl),
    fun _ => ?_, ?_⟩
  · rw [hk.epoch]; exact hk.heldBefore hl.held (.inl (Nat.lt_succ_self _))
  · have := (hl.fresh (hold _ hn rfl)).2.1; omega
  · rcases getElem?_advance hj with ⟨-, hj'⟩ | ⟨-, rfl⟩ | ⟨-, h⟩
    · exact (hl.refreshing j x hj' hr).keep hk hmg (List.getElem?_mem hj')
        (Thread.operand_of_refreshes hr)
    · cases hr
    · simp at h
  · exact (hl.closed hpos).keep hk (fun c hc hop => .inl (hmg c hc hop)) hcl
      (fun x hx hr => hold x hx (Thread.operand_of_refreshes hr)) (fun h => by simp [apply_shutting, h])
      (fun h => (TookTors.advance_iff ht hm).2 (.inl h)) (fun h => (TookWgs.advance_iff ht hm).2 (.inl h))
  · rw [advance_log]
    exact order_append hl.order (by simp)

theorem Thread.picked_of_heldEpoch {x : Thread} {e : Nat} (h : x.heldEpoch g = some e) :
    x.picked = some g := by
  cases x <;> (try cases ‹Req›) <;> simp_all [Thread.heldEpoch, Thread.picked, Req.picked]

/-- The Tor factory makes `g` under a fresh id: nothing refers to `g` yet. -/
theorem Sys.Life.factory (hw : s.Wf) {i : Nat} (ht : s.threads[i]? = some (.new .factory))
    (hb : g ∉ s.born) (hd : g ≠ s.drt) :
    (s.advance i ⟨.new (.setMap g), .alloc g, []⟩).Life g := by
  have hop : ∀ x ∈ s.threads, x.operand ≠ some g := fun x hx h => hb (hw.operand x hx g h)
  have hnc : Invocation.close g ∉ s.log := fun h => hb (hw.log g (.inr h))
  have hold : ∀ x ∈ (s.advance i ⟨.new (.setMap g), .alloc g, []⟩).threads, x.operand = some g →
      x = .new (.setMap g) := fun x hx h => by
    rcases mem_advance_threads hx with hx | hx
    · exact absurd h (hop x hx)
    · simpa using hx
  have h0 : s.closes g = 0 := by
    have : s.threads.countP (Thread.closes g) = 0 :=
      List.countP_eq_zero.2 fun x hx hc => hop x hx (Thread.operand_of_closes hc)
    simp [Sys.closes, List.count_eq_zero.2 hnc, this]
  have hcl : (s.advance i ⟨.new (.setMap g), .alloc g, []⟩).closes g = 0 := by
    simpa [Thread.closes, h0] using closes_advance (g := g) ⟨.new (.setMap g), .alloc g, []⟩ ht
  refine ⟨fun x hx e he => ?_, fun _ => ⟨fun h => hb (hw.inMaps_born h), hcl, ?_, hold⟩,
    fun c hc hop => (by cases hold _ hc hop), fun j x hj hr => ?_, fun e he => (by cases hold _ he rfl),
    fun h => (by rw [hcl] at h; cases h), fun l₁ l₂ h => ?_⟩
  · rcases mem_advance_threads hx with hx | hx
    · rcases hw.picked x hx g (Thread.picked_of_heldEpoch he) with h | h
      · exact absurd h hd
      · exact absurd h hb
    · rcases List.mem_cons.1 hx with rfl | hx
      · cases he
      · cases hx
  · have h := countP_advance (· == Thread.new (.setMap g)) ⟨.new (.setMap g), .alloc g, []⟩ ht
    have h0' : s.threads.countP (· == Thread.new (.setMap g)) = 0 :=
      List.countP_eq_zero.2 fun x hx h' => hop x hx (by simp only [beq_iff_eq] at h'; subst h'; rfl)
    have hf : (Thread.new .factory == Thread.new (.setMap g)) = false := by simp
    simp only [h0', hf, beq_self_eq_true, if_true, Bool.false_eq_true, if_false, List.countP_nil,
      Nat.add_zero, Nat.zero_add] at h
    rw [List.count_eq_countP]; exact h
  · cases hold x (List.getElem?_mem hj) (Thread.operand_of_refreshes hr); cases hr
  · have : Invocation.close g ∈ (s.advance i ⟨.new (.setMap g), .alloc g, []⟩).log := by rw [h]; simp
    exact absurd (by simpa [apply] using this) hnc

/-- `New` stores `g`, the gate no other goroutine knows. -/
theorem Sys.Life.stored (hl : s.Life g) {i : Nat} (ht : s.threads[i]? = some (.new (.setMap g))) :
    (s.advance i ⟨.new .done, .insert g, []⟩).Life g := by
  obtain ⟨-, h0, h1, hall⟩ := hl.fresh (List.getElem?_mem ht)
  have hnone : Thread.new (.setMap g) ∉ (s.advance i ⟨.new .done, .insert g, []⟩).threads := by
    intro h
    have hc := countP_advance (· == Thread.new (.setMap g)) ⟨.new .done, .insert g, []⟩ ht
    simp only [← List.count_eq_countP, h1] at hc
    simp at hc h
    exact List.count_eq_zero.1 hc h
  have hold : ∀ x ∈ (s.advance i ⟨.new .done, .insert g, []⟩).threads, x.operand = some g → False :=
    fun x hx hop => by
      rcases mem_advance_threads hx with h | h
      · exact hnone (hall x h hop ▸ hx)
      · rcases List.mem_cons.1 h with rfl | h
        · cases hop
        · cases h
  have hep : ((s.advance i ⟨.new .done, .insert g, []⟩).gates g).epoch = (s.gates g).epoch := by
    simp only [advance_gates, apply, Sys.insert]; split_ifs <;> simp
  have hcl : (s.advance i ⟨.new .done, .insert g, []⟩).closes g = 0 := by
    simpa [Thread.closes, h0] using closes_advance (g := g) ⟨.new .done, .insert g, []⟩ ht
  exact ⟨hep ▸ hl.held.advance rfl (by simp), fun h => (hold _ h rfl).elim,
    fun c hc hop => (hold _ hc hop).elim,
    fun j x hj hr => (hold x (List.getElem?_mem hj) (Thread.operand_of_refreshes hr)).elim,
    fun e he => (hold _ he rfl).elim, fun h => (by rw [hcl] at h; cases h), hl.order⟩

/-- A map whose entries are stored under their own ids has each gate once among
    its values. -/
theorem countP_closes_values {M : Model.Set Nat Nat} (hM : ∀ k v, (k, v) ∈ M.entries → k = v)
    (g : Nat) : (M.values.map fun h => Thread.dev (.close h none)).countP (Thread.closes g) ≤ 1 := by
  have hv : M.values = M.keys :=
    List.map_congr_left fun kv hkv => (hM kv.1 kv.2 hkv).symm
  have h := List.nodup_iff_count_le_one.1 M.nodup g
  rw [List.countP_map, hv]
  rw [List.count_eq_countP] at h
  convert h using 2

/-- `Shutdown` takes the values of the map that holds `g` and starts a close of
    each: the close of `g` is the first, `Shutdown` has taken `g`, and every
    management goroutine on `g` will stop at `isShutting`. -/
theorem Sys.Life.snapshot (hw : s.Wf) (hl : s.Life g) {i : Nat} {c c' : Shutdown}
    {M : Model.Set Nat Nat} (ht : s.threads[i]? = some (.shutdown c))
    (hm : Moves s (.shutdown c) ⟨.shutdown c', .skip, M.values.map fun h => .dev (.close h none)⟩)
    (hM : ∀ k v, (k, v) ∈ M.entries → k = v) (hg : g ∈ M.values) (hin : s.InMaps g)
    (hnot : ¬s.Took g) (hsh : s.shutting = true)
    (htook : (s.advance i ⟨.shutdown c', .skip, M.values.map fun h => .dev (.close h none)⟩).Took g) :
    (s.advance i ⟨.shutdown c', .skip, M.values.map fun h => .dev (.close h none)⟩).Life g := by
  have hk := Keeps.of_move (g := g) hw ht hm rfl
  -- only closes started by `Shutdown` are new
  have hold : ∀ x ∈ (s.advance i ⟨.shutdown c', .skip, M.values.map fun h => .dev (.close h none)⟩).threads,
      (∀ d, x ≠ .shutdown d) → (∀ h, x ≠ .dev (.close h none)) → x ∈ s.threads := fun x hx hs hne => by
    refine mem_of_mem_advance hx (hs c') fun hx' => ?_
    obtain ⟨h, -, rfl⟩ := List.mem_map.1 hx'
    exact hne h rfl
  have hmg := fun c hc (_ : Mgmt.operand c = some g) => hold (.mgmt c) hc (by simp) (by simp)
  have hnr : ∀ (j : Nat) (x : Thread), s.threads[j]? = some x → x.refreshes g = false :=
    fun j x hj => by
      cases hr : x.refreshes g
      · rfl
      · exact absurd hin (hl.refreshing j x hj hr).notInMaps
  have h0 : s.closes g = 0 := by
    by_contra h0
    rcases (hl.closed (Nat.pos_of_ne_zero h0)).stopped with ⟨-, htk, -⟩ | ⟨hn, -⟩
    · exact hnot htk
    · exact hn hin
  have hcl : (s.advance i ⟨.shutdown c', .skip, M.values.map fun h => .dev (.close h none)⟩).closes g = 1 := by
    have h := closes_advance (g := g) ⟨.shutdown c', .skip, M.values.map fun h => .dev (.close h none)⟩ ht
    have h₁ := countP_closes_values hM g
    have h₂ := countP_pos_of_mem (List.mem_map_of_mem (fun h => Thread.dev (.close h none)) hg)
      (p := Thread.closes g) (by simp [Thread.closes])
    simp only [Thread.closes, Bool.false_eq_true, if_false, reduceCtorEq, h0] at h
    omega
  refine ⟨?_, fun hn => ?_, fun c hc hop => (hl.mgmt c (hmg c hc hop) hop).keep hk (hmg c hc hop) hop,
    fun j x hj hr => ?_, fun e he => ?_, fun _ => ⟨hcl, fun x hx => ?_, .inl ⟨?_, htook, ?_⟩⟩, hl.order⟩
  · rw [hk.epoch]; exact hk.heldBefore hl.held (.inl (Nat.lt_succ_self _))
  · exact absurd hin (hl.fresh (hold _ hn (by simp) (by simp))).1
  · rcases getElem?_advance hj with ⟨-, hj'⟩ | ⟨-, rfl⟩ | ⟨-, h⟩
    · rw [hnr j x hj'] at hr; cases hr
    · cases hr
    · obtain ⟨h, -, rfl⟩ := List.mem_map.1 (List.getElem?_mem h); cases hr
  · exact absurd hin (hl.closing e (hold _ he (by simp) (by simp))).notInMaps
  · cases hr : x.refreshes g
    · rfl
    · obtain ⟨j, hj⟩ := List.mem_iff_getElem?.1
        (hold x hx (by rintro d rfl; cases hr) (by rintro h rfl; cases hr))
      rw [hnr j x hj] at hr; cases hr
  · simp [apply_shutting, hsh]
  · exact fun c hc hop => (hl.mgmt c (hmg c hc hop) hop).beforePoll hop hin

-- ---------------------------------------------------------------------------
-- Every step
-- ---------------------------------------------------------------------------

theorem Op.target_ne_ready (op : Op) : op.target ≠ .ready := by
  cases op <;> decide

/-- `byID` on an id other than the Direct one finds only a gate of a map. -/
theorem Sys.byID_inMaps {id : Nat} (hid : id ≠ s.drt) (h : s.byID id = some g) : s.InMaps g := by
  rcases byID_eq_some h with ⟨h, -⟩ | ⟨-, h⟩
  · exact absurd h hid
  · exact ⟨id, h⟩

/-- `Remove` takes `g` out of both maps. -/
theorem Sys.Wf.not_inMaps_remove (hw : s.Wf) (g : Nat) : ¬(s.apply (.remove g)).InMaps g := by
  rintro ⟨k, h | h⟩ <;> simp only [apply, remove] at h <;> split_ifs at h with hk
  · simp only [Model.Set.entries_remove, List.mem_filter, decide_eq_true_eq] at h
    exact h.2 (hw.tgs k g h.1).1
  · exact hk (hw.tgs k g h).2.2
  · simp only [Model.Set.entries_remove, List.mem_filter, decide_eq_true_eq] at h
    exact h.2 (hw.wgs k g h.1).1
  · exact hk (hw.wgs k g h).2.2

/-- Every move keeps the lifecycle of every gate: a move not about `g` is inside
    its frame, and the others are its management goroutine's, its device
    goroutines', `New` making and storing it, and `Shutdown` taking it. -/
theorem Sys.Life.move (hw : s.Wf) (hsi : s.ShutInv) (hoi : s.OnceInv) (hx : s.Exclusive)
    (hl : s.Life g) {i : Nat} {t : Thread} {m : Move} (ht : s.threads[i]? = some t) (hm : Moves s t m) :
    (s.advance i m).Life g := by
  cases hf : m.about g
  · exact hl.frame (Frame.of_not_about hw ht hm hf)
  have htm := List.getElem?_mem ht
  cases hm
  all_goals first
    | exact absurd hf Bool.false_ne_true
    | simp only [Move.about, Thread.operand, Mgmt.operand, Dev.operand, Eff.touches, Eff.moves,
        List.any_cons, List.any_nil, List.any_eq_true, List.mem_map, exists_exists_and_eq_and,
        Bool.or_eq_true, beq_iff_eq, Option.some.injEq, reduceCtorEq, Bool.false_eq_true,
        Eff.refresh.injEq, Eff.close.injEq, false_or, or_false, or_self, exists_eq_right] at hf
  -- the management goroutine on `g`
  case found op id g' hid h hk =>
    subst g'; exact hl.found hw ht (.found hid h hk) (byID_inMaps hid h)
  case getState op g' =>
    subst g'; exact hl.mgmt_step hx hw ht rfl .getState rfl (by rintro _ ⟨⟩ -; trivial)
  case drain op g' orig =>
    subst g'
    refine hl.mgmt_step hx hw ht rfl .drain rfl ?_
    rintro _ ⟨⟩ -
    exact ⟨by simp [apply], by simpa [apply] using State.toState_ne_ready op.target_ne_ready,
      by rintro rfl; simp [apply, Op.target], hl.held.advance rfl (by simp)⟩
  case remove op g' orig e =>
    subst g'
    have hd : s.Drained g op e := hl.mgmt _ htm rfl
    refine hl.mgmt_step hx hw ht rfl .remove rfl ?_
    rintro _ ⟨⟩ -
    exact ⟨⟨hd.epoch, hd.notReady, hd.closed, hd.held.advance rfl (by simp)⟩, hw.not_inMaps_remove g⟩
  case poll op g' orig e h =>
    subst g'
    refine hl.mgmt_step hx hw ht rfl (.poll h) rfl ?_
    rintro _ ⟨⟩ -
    exact (hl.mgmt _ htm rfl).keep (Keeps.of_move hw ht (.poll h) rfl) htm rfl
  case tick op g' orig e h =>
    subst g'
    refine hl.mgmt_step hx hw ht rfl (.tick h) rfl ?_
    rintro _ ⟨⟩ -
    exact (hl.mgmt _ htm rfl).keep (Keeps.of_move hw ht (.tick h) rfl) htm rfl
  case expire op g' orig e h =>
    subst g'
    refine hl.mgmt_step hx hw ht rfl (.expire h) rfl ?_
    rintro _ ⟨⟩ -
    have h := (hl.mgmt _ htm rfl).keep (Keeps.of_move hw ht (.expire h) rfl) htm rfl
    exact ⟨h.1.notReady, h.2⟩
  case refreshed g' e tid h =>
    subst g'
    refine hl.mgmt_step hx hw ht rfl (.refreshed h) rfl ?_
    rintro _ ⟨⟩ -
    exact (hl.mgmt _ htm rfl).keep (Keeps.of_move hw ht (.refreshed h) rfl) htm rfl
  case resetReqs op g' st r =>
    subst g'
    refine hl.mgmt_step hx hw ht rfl .resetReqs rfl ?_
    rintro _ ⟨⟩ -
    exact (hl.mgmt _ htm rfl).keep (Keeps.of_move hw ht .resetReqs rfl) htm rfl
  case setState op g' st r =>
    subst g'
    refine hl.mgmt_step hx hw ht rfl .setState rfl ?_
    rintro _ ⟨⟩ -
    exact (hl.mgmt _ htm rfl).2
  case setMap op g' r =>
    subst g'; exact hl.mgmt_step hx hw ht rfl .setMap rfl (by rintro _ ⟨⟩ h; cases h)
  case drainedRefresh g' orig e h => subst g'; exact hl.drainedRefresh hw hx ht (.drainedRefresh h)
  case drainedClose g' orig e h => subst g'; exact hl.drainedClose hw hx ht (.drainedClose h)
  -- its device goroutines
  case refresh g' e h => subst g'; exact hl.refresh hw ht (.refresh h)
  case refreshBusy g' e h => subst g'; exact hl.refresh hw ht (.refreshBusy h)
  case close g' src ok => subst g'; exact hl.close hw ht (.close ok)
  -- `New`
  case factory n hn hb => subst n; exact Life.factory hw ht hb hn
  case stored g' => subst g'; exact hl.stored ht
  -- `Shutdown` takes the values of a map
  case tors =>
    obtain ⟨⟨k, g'⟩, hkv, rfl⟩ := List.mem_map.1 hf
    obtain ⟨-, -, hkind⟩ := hw.tgs k _ hkv
    exact hl.snapshot hw ht .tors (fun k v h => (hw.tgs k v h).1) hf ⟨k, .inl hkv⟩
      (fun h => hoi.not_tors (h.1 hkind) htm) (hsi.latched htm)
      ⟨fun _ => (TookTors.advance_iff ht .tors).2 (.inr (.inl rfl)),
        fun h => absurd (hkind.symm.trans h) (by decide)⟩
  case wgs =>
    obtain ⟨⟨k, g'⟩, hkv, rfl⟩ := List.mem_map.1 hf
    obtain ⟨-, -, hkind⟩ := hw.wgs k _ hkv
    exact hl.snapshot hw ht .wgs (fun k v h => (hw.wgs k v h).1) hf ⟨k, .inr hkv⟩
      (fun h => hoi.not_wgs (h.2 hkind) htm) (hsi.took_shutting ⟨_, htm, .inl rfl⟩)
      ⟨fun h => absurd (hkind.symm.trans h) (by decide),
        fun _ => (TookWgs.advance_iff ht .wgs).2 (.inr (.inl rfl))⟩

theorem Sys.Life.init (cfg : SetConfig) (p : Pool) (g : Nat) : (newSet cfg p).Life g := by
  constructor <;> simp [newSet, HeldBefore, Sys.closes]

/-- Every gate keeps its lifecycle along every run from `NewSet` with serial
    management calls. -/
theorem ReachableSerial.life {cfg : SetConfig} {p : Pool} {s : Sys}
    (h : ReachableSerial (newSet cfg p) s) (g : Nat) : s.Life g :=
  (h.inv (fun s => s.Wf ∧ s.ShutInv ∧ s.OnceInv ∧ s.Exclusive ∧ ∀ g, s.Life g)
    ⟨.init cfg p, .init cfg p, .init cfg p, .init cfg p, .init cfg p⟩
    (fun _ c _ ⟨hw, hs, ho, hx, hl⟩ hc =>
      ⟨hw.call c, hs.call c, ho.call c, hx.call hc, fun g => (hl g).frame (Frame.call c)⟩)
    (fun _ _ _ _ _ ⟨hw, hs, ho, hx, hl⟩ ht hm =>
      ⟨hw.move ht hm, hs.move hw ht hm, ho.move ht hm, hx.move hw ht hm,
        fun g => (hl g).move hw hs ho hx ht hm⟩)).2.2.2.2 g

end Pumpe.Gate
