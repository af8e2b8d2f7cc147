-- SUMMARY: One atomic step of a goroutine of the gate set: what it reads, what it writes, and which goroutines it starts; runs and reachable states from `NewSet`.
import Pumpe.Gate.Sys

/-!
# Steps of the gate set

A step of a goroutine reads the shared state, picks its next program point, and
writes at most one thing (`Eff`). Splitting the step into `Thread.next`, which
decides, and `Sys.apply`, which writes, lets the laws of the later modules ask
once which steps can write a given field, instead of unfolding every program
point. `Act.run i ok n` runs goroutine `i`: `ok` resolves the wait or the device
outcome of the step (`false` is a deadline, a cancelled context or a failed
call), and `n` is a draw of `rand.IntN` or the id `uuid.New` gives a new Tor gate.
-/

namespace Pumpe.Gate

/-- What one atomic step writes to the shared state. -/
inductive Eff
  | skip
  | addReq (g : Nat)
  | didReq (g : Nat)
  | resetReqs (g : Nat)
  /-- `gt.toState(st)` in `Set.toState` -/
  | toState (g : Nat) (st : State)
  /-- `gt.toState(st)` at the start of `forState`; ghost: a new drain epoch -/
  | drain (g : Nat) (st : State)
  | remove (g : Nat)
  | insert (g : Nat)
  /-- `refresh()` is called, and swaps `refreshing` on -/
  | refresh (g : Nat)
  /-- the deferred store that clears `refreshing` -/
  | release (g : Nat)
  | close (g : Nat)
  /-- the Tor factory makes the gate `g` -/
  | alloc (g : Nat)
  | once
  | latch
  | collected
  | warming (b : Bool)
  deriving DecidableEq, Repr

/-- A step of one goroutine: its next program point, its write, and the
    goroutines it starts. -/
structure Move where
  pc : Thread
  eff : Eff := .skip
  spawn : List Thread := []
  deriving DecidableEq, Repr

/-- The gate whose record a write touches. -/
def Eff.gate? : Eff → Option Nat
  | .addReq g | .didReq g | .resetReqs g | .toState g _ | .drain g _ | .insert g
  | .refresh g | .release g | .alloc g => some g
  | _ => none

/-- The gate a write of a management or device goroutine acts on. -/
def Eff.target : Eff → Option Nat
  | .resetReqs g | .toState g _ | .drain g _ | .remove g | .insert g | .refresh g
  | .release g | .close g => some g
  | _ => none

namespace Sys

/-- Perform a write. -/
def apply (s : Sys) : Eff → Sys
  | .skip => s
  | .addReq g => s.modify g fun x => { x with cell := x.cell.addReq }
  | .didReq g => s.modify g fun x => { x with cell := x.cell.didReq }
  | .resetReqs g => s.modify g fun x =>
      { x with cell := x.cell.resetReqs, lost := x.lost || s.inFlight g != 0 }
  | .toState g st => s.modify g fun x => { x with cell := x.cell.toState st }
  | .drain g st => s.modify g fun x => { x with cell := x.cell.toState st, epoch := x.epoch + 1 }
  | .remove g => s.remove g
  | .insert g => s.insert g
  | .refresh g => { s.modify g ({ · with refreshing := true }) with log := s.log ++ [.refresh g] }
  | .release g => s.modify g ({ · with refreshing := false })
  | .close g => { s with log := s.log ++ [.close g] }
  | .alloc g => { s.modify g (fun _ => ExitGate.new .tor) with born := s.born ++ [g] }
  | .once => { s with once := true }
  | .latch => { s with shutting := true }
  | .collected => { s with shutDone := true }
  | .warming b => { s with warming := b }

/-- Goroutine `i` takes the move `m`. -/
def advance (s : Sys) (i : Nat) (m : Move) : Sys :=
  let s' := s.apply m.eff
  { s' with threads := s'.threads.set i m.pc ++ m.spawn }

@[simp] theorem modify_gates (s : Sys) (g h : Nat) (f : ExitGate → ExitGate) :
    (s.modify g f).gates h = if h = g then f (s.gates g) else s.gates h := by
  simp [modify, Function.update_apply]

@[simp] theorem apply_cfg (s : Sys) (e : Eff) : (s.apply e).cfg = s.cfg := by
  cases e <;> rfl

@[simp] theorem apply_drt (s : Sys) (e : Eff) : (s.apply e).drt = s.drt := by
  cases e <;> rfl

@[simp] theorem apply_threads (s : Sys) (e : Eff) : (s.apply e).threads = s.threads := by
  cases e <;> rfl

/-- A write leaves every gate record but its own alone. -/
theorem apply_gates_of_ne (s : Sys) {e : Eff} {h : Nat} (he : e.gate? ≠ some h) :
    (s.apply e).gates h = s.gates h := by
  cases e <;> simp_all [apply, Eff.gate?, eq_comm, remove, insert]
  split <;> simp [Function.update_apply, he]

@[simp] theorem advance_threads (s : Sys) (i : Nat) (m : Move) :
    (s.advance i m).threads = s.threads.set i m.pc ++ m.spawn := by
  simp [advance]

@[simp] theorem advance_gates (s : Sys) (i : Nat) (m : Move) :
    (s.advance i m).gates = (s.apply m.eff).gates := rfl
@[simp] theorem advance_tgs (s : Sys) (i : Nat) (m : Move) :
    (s.advance i m).tgs = (s.apply m.eff).tgs := rfl
@[simp] theorem advance_wgs (s : Sys) (i : Nat) (m : Move) :
    (s.advance i m).wgs = (s.apply m.eff).wgs := rfl
@[simp] theorem advance_born (s : Sys) (i : Nat) (m : Move) :
    (s.advance i m).born = (s.apply m.eff).born := rfl
@[simp] theorem advance_log (s : Sys) (i : Nat) (m : Move) :
    (s.advance i m).log = (s.apply m.eff).log := rfl
@[simp] theorem advance_once (s : Sys) (i : Nat) (m : Move) :
    (s.advance i m).once = (s.apply m.eff).once := rfl
@[simp] theorem advance_shutting (s : Sys) (i : Nat) (m : Move) :
    (s.advance i m).shutting = (s.apply m.eff).shutting := rfl
@[simp] theorem advance_shutDone (s : Sys) (i : Nat) (m : Move) :
    (s.advance i m).shutDone = (s.apply m.eff).shutDone := rfl
@[simp] theorem advance_drt (s : Sys) (i : Nat) (m : Move) : (s.advance i m).drt = s.drt := by
  simp [advance]
@[simp] theorem advance_cfg (s : Sys) (i : Nat) (m : Move) : (s.advance i m).cfg = s.cfg := by
  simp [advance]

/-- The mover's new program point is among the goroutines after the move. -/
theorem pc_mem_advance {s : Sys} {i : Nat} {t : Thread} (m : Move) (ht : s.threads[i]? = some t) :
    m.pc ∈ (s.advance i m).threads := by
  obtain ⟨hi, -⟩ := List.getElem?_eq_some_iff.1 ht
  rw [advance_threads]
  exact List.mem_append_left _ (List.mem_iff_getElem.2 ⟨i, by simpa using hi, by simp⟩)

/-- The goroutines a move starts are among the goroutines after it. -/
theorem spawn_mem_advance {s : Sys} {i : Nat} {m : Move} {x : Thread} (hx : x ∈ m.spawn) :
    x ∈ (s.advance i m).threads := by
  rw [advance_threads]; exact List.mem_append_right _ hx

/-- A goroutine other than the mover is still there after the move. -/
theorem mem_advance_of_ne {s : Sys} {i : Nat} {t x : Thread} (m : Move)
    (ht : s.threads[i]? = some t) (hx : x ∈ s.threads) (hne : x ≠ t) :
    x ∈ (s.advance i m).threads := by
  rw [advance_threads]
  apply List.mem_append_left
  obtain ⟨j, hj, rfl⟩ := List.getElem_of_mem hx
  have hji : i ≠ j := by
    rintro rfl
    exact hne (Option.some.inj (List.getElem?_eq_getElem hj ▸ ht))
  exact List.mem_iff_getElem.2 ⟨j, by simpa using hj, List.getElem_set_ne hji _⟩

/-- How a move changes the number of goroutines that satisfy `p`: the mover's old
    program point leaves, its new one and the goroutines it starts join. -/
theorem countP_advance (p : Thread → Bool) {s : Sys} {i : Nat} {t : Thread} (m : Move)
    (ht : s.threads[i]? = some t) :
    (s.advance i m).threads.countP p + (if p t then 1 else 0) =
      s.threads.countP p + (if p m.pc then 1 else 0) + m.spawn.countP p := by
  obtain ⟨hi, rfl⟩ := List.getElem?_eq_some_iff.1 ht
  have := List.boole_getElem_le_countP p s.threads i hi
  rw [advance_threads, List.countP_append, List.countP_set p _ _ _ hi]
  omega

/-- After a move, a goroutine is one that ran before, or the mover's new program
    point, or one it started. -/
theorem mem_advance_threads {s : Sys} {i : Nat} {m : Move} {t : Thread}
    (h : t ∈ (s.advance i m).threads) : t ∈ s.threads ∨ t ∈ m.pc :: m.spawn := by
  rw [advance_threads, List.mem_append] at h
  rcases h with h | h
  · exact (List.mem_or_eq_of_mem_set h).imp_right fun (h : t = m.pc) => h ▸ List.mem_cons_self _ _
  · exact .inr (List.mem_cons_of_mem _ h)

end Sys

/-- A proxy request: `pickDialer` (through `ByID`, `ByKind`, `Random` and the loop
    of `byKindReady`), `AddReq`, and the deferred `DidReq`. -/
def Req.next (s : Sys) (ok : Bool) (n : Nat) : Req → Option Move
  | .pickDialer (.byID id) =>
    some { pc := .req (match s.byID id with | some g => .isReady g none | none => .done) }
  | .pickDialer (.byKind k) => some { pc := .req (s.byKindStart k) }
  | .pickDialer (.random m) => some { pc := .req (s.byKindStart (s.cfg.kindOrDefaultN m)) }
  | .byKindReady k => some { pc := .req (if s.shutting then .done else .byKind k) }
  | .byKind k => (s.byKind k n).map fun r => { pc := .req r }
  | .isReady g k =>
    some { pc := .req <|
      if (s.gates g).cell.isReady then .addReq g (s.gates g).epoch
      else match k with
        | some k => if ok then .byKindReady k else .done
        | none => .done }
  | .addReq g e => some { pc := .req (.didReq g e), eff := .addReq g }
  | .didReq g _ => some { pc := .req .done, eff := .didReq g }
  | .done => none

/-- `RefreshOne` and `CloseOne`, with `forState`, `refreshOne`, `shutdownOne` and
    `Set.toState` inlined. -/
def Mgmt.next (s : Sys) (ok : Bool) : Mgmt → Option Move
  | .byID op id =>
    some { pc := .mgmt <|
      if id = s.drt then .done
      else match s.byID id with
        | none => .done
        | some g => if op = .refreshOne ∧ (s.gates g).kind ≠ .tor then .done else .getState op g }
  | .getState op g => some { pc := .mgmt (.toState op g (s.gates g).cell.state) }
  | .toState op g orig =>
    some { pc := .mgmt (.remove op g orig ((s.gates g).epoch + 1)), eff := .drain g op.target }
  | .remove op g orig e => some { pc := .mgmt (.isShutting op g orig e), eff := .remove g }
  | .isShutting op g orig e =>
    some { pc := .mgmt (if s.shutting then .done else .noReqs op g orig e) }
  | .noReqs op g orig e =>
    if (s.gates g).cell.noReqs then
      match op with
      | .refreshOne =>
        some { pc := .mgmt (.refreshOne g e s.threads.length), spawn := [.dev (.refresh g e)] }
      | .closeOne => some { pc := .mgmt .done, spawn := [.dev (.close g (some e))] }
    else some { pc := .mgmt (if ok then .isShutting op g orig e else .resetReqs op g orig true) }
  | .refreshOne g _ tid =>
    if !ok then some { pc := .mgmt .done }
    else
      match s.threads[tid]? with
      | some (.dev (.done true)) => some { pc := .mgmt (.resetReqs .refreshOne g .ready false) }
      | some (.dev (.done false)) => some { pc := .mgmt .done }
      | _ => none
  | .resetReqs op g st r => some { pc := .mgmt (.setState op g st r), eff := .resetReqs g }
  | .setState op g st r => some { pc := .mgmt (.setMap op g r), eff := .toState g st }
  | .setMap _ g _ => some { pc := .mgmt .done, eff := .insert g }
  | .done => none

/-- The device goroutines: `Tor.refresh` and `close()`. -/
def Dev.next (s : Sys) (ok : Bool) : Dev → Option Move
  | .refresh g _ =>
    some { pc := .dev (if (s.gates g).refreshing then .done false else .signal g), eff := .refresh g }
  | .signal g => some { pc := .dev (.done ok), eff := .release g }
  | .close g _ => some { pc := .dev (.done ok), eff := .close g }
  | .done _ => none

/-- `Set.New`: the factory either fails or makes a Tor gate under a fresh id. -/
def New.next (s : Sys) (ok : Bool) (n : Nat) : New → Option Move
  | .start k => some { pc := .new (if k ≠ .tor ∨ s.shutting then .done else .len) }
  | .len => some { pc := .new (if s.cfg.torMax ≤ (s.tgs.len : Int) then .done else .factory) }
  | .factory =>
    if !ok then some { pc := .new .done }
    else if n ≠ s.drt ∧ n ∉ s.born then some { pc := .new (.setMap n), eff := .alloc n }
    else none
  | .setMap g => some { pc := .new .done, eff := .insert g }
  | .done => none

/-- `Set.Shutdown`: the latch, then one closing goroutine per gate of each map. -/
def Shutdown.next (s : Sys) : Shutdown → Option Move
  | .once =>
    some (if s.once then { pc := .shutdown .blocked } else { pc := .shutdown .latch, eff := .once })
  | .latch => some { pc := .shutdown .tors, eff := .latch }
  | .tors => some { pc := .shutdown .wgs, spawn := s.tgs.values.map fun g => .dev (.close g none) }
  | .wgs => some { pc := .shutdown .collect, spawn := s.wgs.values.map fun g => .dev (.close g none) }
  | .collect => some { pc := .shutdown .done, eff := .collected }
  | .blocked => if s.shutDone then some { pc := .shutdown .done } else none
  | .done => none

/-- `Set.Warmup`: the guard on `warming` around the warm-up of every gate. -/
def Warmup.next (s : Sys) : Warmup → Option Move
  | .isShutting => some { pc := .warmup (if s.shutting then .done else .swap) }
  | .swap =>
    some (if s.warming then { pc := .warmup .done } else { pc := .warmup .run, eff := .warming true })
  | .run => some { pc := .warmup .done, eff := .warming false }
  | .done => none

/-- The next step of a goroutine, if it can take one. -/
def Thread.next (s : Sys) (ok : Bool) (n : Nat) : Thread → Option Move
  | .req r => r.next s ok n
  | .mgmt m => m.next s ok
  | .dev d => d.next s ok
  | .new c => c.next s ok n
  | .shutdown c => c.next s
  | .warmup c => c.next s

/-- A step of the whole system: a new call, or a step of goroutine `i`. -/
inductive Act
  | call (c : Api)
  | run (i : Nat) (ok : Bool) (n : Nat)
  deriving DecidableEq, Repr

/-- One step. -/
def step (s : Sys) : Act → Option Sys
  | .call c => some { s with threads := s.threads ++ [c.thread] }
  | .run i ok n => do
    let t ← s.threads[i]?
    let m ← t.next s ok n
    some (s.advance i m)

theorem step_call {s s' : Sys} {c : Api} (h : step s (.call c) = some s') :
    s' = { s with threads := s.threads ++ [c.thread] } := by
  simp only [step, Option.some.injEq] at h
  exact h.symm

theorem step_run {s s' : Sys} {i : Nat} {ok : Bool} {n : Nat} (h : step s (.run i ok n) = some s') :
    ∃ t m, s.threads[i]? = some t ∧ t.next s ok n = some m ∧ s' = s.advance i m := by
  simp only [step, Option.bind_eq_bind, Option.bind_eq_some, Option.some.injEq] at h
  obtain ⟨t, ht, m, hm, rfl⟩ := h
  exact ⟨t, m, ht, hm, rfl⟩

/-- A sequence of steps. -/
def run (s : Sys) : List Act → Option Sys
  | [] => some s
  | a :: as => (step s a).bind fun s' => run s' as

/-- The states a run from `s₀` can reach. -/
inductive Reachable (s₀ : Sys) : Sys → Prop
  | refl : Reachable s₀ s₀
  | tail {s s' : Sys} (a : Act) : Reachable s₀ s → step s a = some s' → Reachable s₀ s'

theorem Reachable.run {s₀ s₁ s : Sys} {as : List Act} (h₁ : Reachable s₀ s₁)
    (h : run s₁ as = some s) : Reachable s₀ s := by
  induction as generalizing s₁ with
  | nil => cases h; exact h₁
  | cons a as ih =>
    obtain ⟨s₂, h₂, h⟩ := Option.bind_eq_some.1 h
    exact ih (h₁.tail a h₂) h

/-- A run the model can take from `s₀`, checked by evaluation, reaches a state
    with the property it ends in. -/
theorem Reachable.of_run {s₀ : Sys} (as : List Act) {P : Sys → Prop} [DecidablePred P]
    (h : (Gate.run s₀ as).map (fun s => decide (P s)) = some true) : ∃ s, Reachable s₀ s ∧ P s := by
  cases hr : Gate.run s₀ as with
  | none => simp [hr] at h
  | some s => exact ⟨s, Reachable.refl.run hr, by simpa [hr] using h⟩

/-- The state a run the model can take from `s₀` ends in is reachable. -/
theorem Reachable.of_isSome {s₀ : Sys} {as : List Act} (h : (Gate.run s₀ as).isSome) :
    Reachable s₀ ((Gate.run s₀ as).get h) :=
  Reachable.refl.run (Option.some_get h).symm

theorem Reachable.trans {s₀ s₁ s₂ : Sys} (h₁ : Reachable s₀ s₁) (h₂ : Reachable s₁ s₂) :
    Reachable s₀ s₂ := by
  induction h₂ with
  | refl => exact h₁
  | tail a _ hs ih => exact ih.tail a hs

-- ---------------------------------------------------------------------------
-- NewSet
-- ---------------------------------------------------------------------------

/-- The gates handed to `NewSet`: the Direct gate and the Tor and WireGuard gates,
    fresh from their constructors, with distinct ids as `uuid.New` makes them. -/
structure Pool where
  drt : Nat
  tors : List Nat
  wgs : List Nat
  nodup : (drt :: (tors ++ wgs)).Nodup

/-- `NewSet`. -/
def newSet (cfg : SetConfig) (p : Pool) : Sys where
  cfg := cfg
  drt := p.drt
  gates n :=
    if n = p.drt then .new .direct
    else if n ∈ p.tors then .new .tor
    else if n ∈ p.wgs then .new .wireGuard
    else .new .unknown
  tgs := p.tors.foldl (fun m g => m.set g g) .empty
  wgs := p.wgs.foldl (fun m g => m.set g g) .empty
  once := false
  shutting := false
  shutDone := false
  warming := false
  threads := []
  born := p.tors ++ p.wgs
  log := []

/-- `NewSet` starts every gate fresh from its constructor. -/
theorem newSet_gates (cfg : SetConfig) (p : Pool) (g : Nat) :
    (newSet cfg p).gates g = .new ((newSet cfg p).gates g).kind := by
  simp only [newSet]; split_ifs <;> rfl

/-- A set with the Direct gate `0` and one Tor gate `1`, Tor as the default kind,
    and room for four Tor gates; the runs of the later modules start from it. -/
def Pool.oneTor : Pool := ⟨0, [1], [], by decide⟩

/-- The configuration of those runs. -/
def SetConfig.torDefault : SetConfig := ⟨.tor, false, 4⟩

end Pumpe.Gate
