-- SUMMARY: The moves of a goroutine as an inductive relation with one case per program point and branch, and its agreement with `Thread.next`.
import Pumpe.Gate.Step

/-!
# Moves

`Moves s t m` lists, one constructor per program point and branch, the moves
`Thread.next` can return for the goroutine `t` in the state `s`, with the guard
of the branch as a hypothesis. `Thread.next_moves` proves the list complete, and
the laws below do their case analysis on this relation: each case is named, and
no law unfolds the step function.
-/

namespace Pumpe.Gate

/-- The moves of a goroutine. -/
inductive Moves (s : Sys) : Thread → Move → Prop
  -- proxy requests
  | byIDHit {id g : Nat} (h : s.byID id = some g) :
      Moves s (.req (.pickDialer (.byID id))) ⟨.req (.isReady g none), .skip, []⟩
  | byIDMiss {id : Nat} (h : s.byID id = none) :
      Moves s (.req (.pickDialer (.byID id))) ⟨.req .done, .skip, []⟩
  | byKind (k : Kind) :
      Moves s (.req (.pickDialer (.byKind k))) ⟨.req (s.byKindStart k), .skip, []⟩
  | random (n : Nat) :
      Moves s (.req (.pickDialer (.random n)))
        ⟨.req (s.byKindStart (s.cfg.kindOrDefaultN n)), .skip, []⟩
  | loopShutting {k : Kind} (h : s.shutting = true) :
      Moves s (.req (.byKindReady k)) ⟨.req .done, .skip, []⟩
  | loop {k : Kind} (h : s.shutting = false) :
      Moves s (.req (.byKindReady k)) ⟨.req (.byKind k), .skip, []⟩
  | pick {k : Kind} {n : Nat} {r : Req} (h : s.byKind k n = some r) :
      Moves s (.req (.byKind k)) ⟨.req r, .skip, []⟩
  | ready {g : Nat} {k : Option Kind} (h : (s.gates g).cell.state = .ready) :
      Moves s (.req (.isReady g k)) ⟨.req (.addReq g (s.gates g).epoch), .skip, []⟩
  | notReady {g : Nat} {k : Option Kind} (h : (s.gates g).cell.state ≠ .ready) :
      Moves s (.req (.isReady g k)) ⟨.req .done, .skip, []⟩
  | retry {g : Nat} {k : Kind} (h : (s.gates g).cell.state ≠ .ready) :
      Moves s (.req (.isReady g (some k))) ⟨.req (.byKindReady k), .skip, []⟩
  | addReq {g e : Nat} : Moves s (.req (.addReq g e)) ⟨.req (.didReq g e), .addReq g, []⟩
  | didReq {g e : Nat} : Moves s (.req (.didReq g e)) ⟨.req .done, .didReq g, []⟩
  -- RefreshOne and CloseOne
  | direct {op : Op} {id : Nat} (h : id = s.drt) :
      Moves s (.mgmt (.byID op id)) ⟨.mgmt .done, .skip, []⟩
  | notFound {op : Op} {id : Nat} (hid : id ≠ s.drt) (h : s.byID id = none) :
      Moves s (.mgmt (.byID op id)) ⟨.mgmt .done, .skip, []⟩
  | notTor {id g : Nat} (hid : id ≠ s.drt) (h : s.byID id = some g) (hk : (s.gates g).kind ≠ .tor) :
      Moves s (.mgmt (.byID .refreshOne id)) ⟨.mgmt .done, .skip, []⟩
  | found {op : Op} {id g : Nat} (hid : id ≠ s.drt) (h : s.byID id = some g)
      (hk : op = .refreshOne → (s.gates g).kind = .tor) :
      Moves s (.mgmt (.byID op id)) ⟨.mgmt (.getState op g), .skip, []⟩
  | getState {op : Op} {g : Nat} :
      Moves s (.mgmt (.getState op g)) ⟨.mgmt (.toState op g (s.gates g).cell.state), .skip, []⟩
  | drain {op : Op} {g : Nat} {orig : State} :
      Moves s (.mgmt (.toState op g orig))
        ⟨.mgmt (.remove op g orig ((s.gates g).epoch + 1)), .drain g op.target, []⟩
  | remove {op : Op} {g : Nat} {orig : State} {e : Nat} :
      Moves s (.mgmt (.remove op g orig e)) ⟨.mgmt (.isShutting op g orig e), .remove g, []⟩
  | shutting {op : Op} {g : Nat} {orig : State} {e : Nat} (h : s.shutting = true) :
      Moves s (.mgmt (.isShutting op g orig e)) ⟨.mgmt .done, .skip, []⟩
  | poll {op : Op} {g : Nat} {orig : State} {e : Nat} (h : s.shutting = false) :
      Moves s (.mgmt (.isShutting op g orig e)) ⟨.mgmt (.noReqs op g orig e), .skip, []⟩
  | drainedRefresh {g : Nat} {orig : State} {e : Nat} (h : (s.gates g).cell.nreq = 0) :
      Moves s (.mgmt (.noReqs .refreshOne g orig e))
        ⟨.mgmt (.refreshOne g e s.threads.length), .skip, [.dev (.refresh g e)]⟩
  | drainedClose {g : Nat} {orig : State} {e : Nat} (h : (s.gates g).cell.nreq = 0) :
      Moves s (.mgmt (.noReqs .closeOne g orig e)) ⟨.mgmt .done, .skip, [.dev (.close g (some e))]⟩
  | tick {op : Op} {g : Nat} {orig : State} {e : Nat} (h : (s.gates g).cell.nreq ≠ 0) :
      Moves s (.mgmt (.noReqs op g orig e)) ⟨.mgmt (.isShutting op g orig e), .skip, []⟩
  | expire {op : Op} {g : Nat} {orig : State} {e : Nat} (h : (s.gates g).cell.nreq ≠ 0) :
      Moves s (.mgmt (.noReqs op g orig e)) ⟨.mgmt (.resetReqs op g orig true), .skip, []⟩
  | cancel {g e tid : Nat} : Moves s (.mgmt (.refreshOne g e tid)) ⟨.mgmt .done, .skip, []⟩
  | refreshed {g e tid : Nat} (h : s.threads[tid]? = some (.dev (.done true))) :
      Moves s (.mgmt (.refreshOne g e tid))
        ⟨.mgmt (.resetReqs .refreshOne g .ready false), .skip, []⟩
  | refreshFailed {g e tid : Nat} (h : s.threads[tid]? = some (.dev (.done false))) :
      Moves s (.mgmt (.refreshOne g e tid)) ⟨.mgmt .done, .skip, []⟩
  | resetReqs {op : Op} {g : Nat} {st : State} {r : Bool} :
      Moves s (.mgmt (.resetReqs op g st r)) ⟨.mgmt (.setState op g st r), .resetReqs g, []⟩
  | setState {op : Op} {g : Nat} {st : State} {r : Bool} :
      Moves s (.mgmt (.setState op g st r)) ⟨.mgmt (.setMap op g r), .toState g st, []⟩
  | setMap {op : Op} {g : Nat} {r : Bool} :
      Moves s (.mgmt (.setMap op g r)) ⟨.mgmt .done, .insert g, []⟩
  -- device goroutines
  | refresh {g e : Nat} (h : (s.gates g).refreshing = false) :
      Moves s (.dev (.refresh g e)) ⟨.dev (.signal g), .refresh g, []⟩
  | refreshBusy {g e : Nat} (h : (s.gates g).refreshing = true) :
      Moves s (.dev (.refresh g e)) ⟨.dev (.done false), .refresh g, []⟩
  | signal {g : Nat} (ok : Bool) : Moves s (.dev (.signal g)) ⟨.dev (.done ok), .release g, []⟩
  | close {g : Nat} {src : Option Nat} (ok : Bool) :
      Moves s (.dev (.close g src)) ⟨.dev (.done ok), .close g, []⟩
  -- New
  | startRejected {k : Kind} (h : k ≠ .tor ∨ s.shutting = true) :
      Moves s (.new (.start k)) ⟨.new .done, .skip, []⟩
  | start (h : s.shutting = false) : Moves s (.new (.start .tor)) ⟨.new .len, .skip, []⟩
  | torMaxReached (h : s.cfg.torMax ≤ (s.tgs.len : Int)) : Moves s (.new .len) ⟨.new .done, .skip, []⟩
  | len (h : (s.tgs.len : Int) < s.cfg.torMax) : Moves s (.new .len) ⟨.new .factory, .skip, []⟩
  | factoryFailed : Moves s (.new .factory) ⟨.new .done, .skip, []⟩
  | factory {n : Nat} (hn : n ≠ s.drt) (hb : n ∉ s.born) :
      Moves s (.new .factory) ⟨.new (.setMap n), .alloc n, []⟩
  | stored {g : Nat} : Moves s (.new (.setMap g)) ⟨.new .done, .insert g, []⟩
  -- Shutdown
  | once (h : s.once = false) : Moves s (.shutdown .once) ⟨.shutdown .latch, .once, []⟩
  | onceDone (h : s.once = true) : Moves s (.shutdown .once) ⟨.shutdown .blocked, .skip, []⟩
  | latch : Moves s (.shutdown .latch) ⟨.shutdown .tors, .latch, []⟩
  | tors : Moves s (.shutdown .tors)
      ⟨.shutdown .wgs, .skip, s.tgs.values.map fun g => .dev (.close g none)⟩
  | wgs : Moves s (.shutdown .wgs)
      ⟨.shutdown .collect, .skip, s.wgs.values.map fun g => .dev (.close g none)⟩
  | collect : Moves s (.shutdown .collect) ⟨.shutdown .done, .collected, []⟩
  | unblock (h : s.shutDone = true) : Moves s (.shutdown .blocked) ⟨.shutdown .done, .skip, []⟩
  -- Warmup
  | warmupShutting (h : s.shutting = true) : Moves s (.warmup .isShutting) ⟨.warmup .done, .skip, []⟩
  | warmup (h : s.shutting = false) : Moves s (.warmup .isShutting) ⟨.warmup .swap, .skip, []⟩
  | warming (h : s.warming = true) : Moves s (.warmup .swap) ⟨.warmup .done, .skip, []⟩
  | swap (h : s.warming = false) : Moves s (.warmup .swap) ⟨.warmup .run, .warming true, []⟩
  | warmed : Moves s (.warmup .run) ⟨.warmup .done, .warming false, []⟩


theorem Req.next_moves {s : Sys} {ok : Bool} {n : Nat} {r : Req} {m : Move}
    (h : r.next s ok n = some m) : Moves s (.req r) m := by
  cases r with
  | pickDialer sel =>
    cases sel <;> simp only [Req.next, Option.some.injEq] at h <;> subst h
    case byID id =>
      cases hg : s.byID id with
      | none => exact .byIDMiss hg
      | some g => exact .byIDHit hg
    case byKind k => exact .byKind k
    case random n => exact .random n
  | byKindReady k =>
    simp only [Req.next, Option.some.injEq] at h; subst h
    cases hs : s.shutting
    · exact .loop hs
    · exact .loopShutting hs
  | byKind k =>
    simp only [Req.next, Option.map_eq_some'] at h
    obtain ⟨r, hr, rfl⟩ := h
    exact .pick hr
  | isReady g k =>
    simp only [Req.next, Option.some.injEq] at h; subst h
    by_cases hr : (s.gates g).cell.state = .ready
    · simp only [GateState.isReady, hr, beq_self_eq_true, if_true]
      exact .ready hr
    · have : (s.gates g).cell.isReady = false := by simpa [GateState.isReady] using hr
      simp only [this, Bool.false_eq_true, if_false]
      cases k with
      | none => exact .notReady hr
      | some k => cases ok
                  · exact .notReady hr
                  · exact .retry hr
  | addReq g e => simp only [Req.next, Option.some.injEq] at h; subst h; exact .addReq
  | didReq g e => simp only [Req.next, Option.some.injEq] at h; subst h; exact .didReq
  | done => cases h

theorem Mgmt.next_moves {s : Sys} {ok : Bool} {c : Mgmt} {m : Move}
    (h : c.next s ok = some m) : Moves s (.mgmt c) m := by
  cases c with
  | byID op id =>
    simp only [Mgmt.next, Option.some.injEq] at h; subst h
    by_cases hid : id = s.drt
    · simp only [hid, if_true]; exact .direct rfl
    · simp only [hid, if_false]
      cases hg : s.byID id with
      | none => exact .notFound hid hg
      | some g =>
        by_cases hk : op = .refreshOne ∧ (s.gates g).kind ≠ .tor
        · obtain ⟨rfl, hk⟩ := hk
          simp only [hk, ne_eq, not_false_eq_true, and_self, if_true]
          exact .notTor hid hg hk
        · simp only [hk, if_false]
          exact .found hid hg fun hop => by_contra fun hne => hk ⟨hop, hne⟩
  | getState op g => simp only [Mgmt.next, Option.some.injEq] at h; subst h; exact .getState
  | toState op g orig => simp only [Mgmt.next, Option.some.injEq] at h; subst h; exact .drain
  | remove op g orig e => simp only [Mgmt.next, Option.some.injEq] at h; subst h; exact .remove
  | isShutting op g orig e =>
    simp only [Mgmt.next, Option.some.injEq] at h; subst h
    cases hs : s.shutting
    · exact .poll hs
    · exact .shutting hs
  | noReqs op g orig e =>
    simp only [Mgmt.next] at h
    by_cases hz : (s.gates g).cell.nreq = 0
    · simp only [(GateState.noReqs_iff _).2 hz, if_true] at h
      cases op <;> simp only [Option.some.injEq] at h <;> subst h
      · exact .drainedRefresh hz
      · exact .drainedClose hz
    · have : (s.gates g).cell.noReqs = false := by simpa [GateState.noReqs] using hz
      simp only [this, Bool.false_eq_true, if_false, Option.some.injEq] at h; subst h
      cases ok
      · exact .expire hz
      · exact .tick hz
  | refreshOne g e tid =>
    simp only [Mgmt.next] at h
    cases ok
    · simp only [Bool.not_false, if_true, Option.some.injEq] at h; subst h; exact .cancel
    · simp only [Bool.not_true, Bool.false_eq_true, if_false] at h
      split at h <;> simp only [Option.some.injEq, reduceCtorEq] at h <;> subst h
      · exact .refreshed ‹_›
      · exact .refreshFailed ‹_›
  | resetReqs op g st r => simp only [Mgmt.next, Option.some.injEq] at h; subst h; exact .resetReqs
  | setState op g st r => simp only [Mgmt.next, Option.some.injEq] at h; subst h; exact .setState
  | setMap op g r => simp only [Mgmt.next, Option.some.injEq] at h; subst h; exact .setMap
  | done => cases h

theorem Dev.next_moves {s : Sys} {ok : Bool} {d : Dev} {m : Move}
    (h : d.next s ok = some m) : Moves s (.dev d) m := by
  cases d with
  | refresh g e =>
    simp only [Dev.next, Option.some.injEq] at h; subst h
    cases hr : (s.gates g).refreshing
    · exact .refresh hr
    · exact .refreshBusy hr
  | signal g => simp only [Dev.next, Option.some.injEq] at h; subst h; exact .signal ok
  | close g src => simp only [Dev.next, Option.some.injEq] at h; subst h; exact .close ok
  | done ok => cases h

theorem New.next_moves {s : Sys} {ok : Bool} {n : Nat} {c : New} {m : Move}
    (h : c.next s ok n = some m) : Moves s (.new c) m := by
  cases c with
  | start k =>
    simp only [New.next, Option.some.injEq] at h; subst h
    by_cases hk : k ≠ .tor ∨ s.shutting = true
    · simp only [hk, if_true]; exact .startRejected hk
    · simp only [hk, if_false]
      obtain ⟨rfl, hs⟩ : k = .tor ∧ s.shutting = false := by simpa using hk
      exact .start hs
  | len =>
    simp only [New.next, Option.some.injEq] at h; subst h
    by_cases hl : s.cfg.torMax ≤ (s.tgs.len : Int)
    · simp only [hl, if_true]; exact .torMaxReached hl
    · simp only [hl, if_false]; exact .len (Int.lt_of_not_ge hl)
  | factory =>
    simp only [New.next] at h
    cases ok
    · simp only [Bool.not_false, if_true, Option.some.injEq] at h; subst h; exact .factoryFailed
    · simp only [Bool.not_true, Bool.false_eq_true, if_false] at h
      split at h
      · rename_i hn
        simp only [Option.some.injEq] at h; subst h; exact .factory hn.1 hn.2
      · cases h
  | setMap g => simp only [New.next, Option.some.injEq] at h; subst h; exact .stored
  | done => cases h

theorem Shutdown.next_moves {s : Sys} {c : Shutdown} {m : Move}
    (h : c.next s = some m) : Moves s (.shutdown c) m := by
  cases c with
  | once =>
    simp only [Shutdown.next, Option.some.injEq] at h; subst h
    cases ho : s.once
    · exact .once ho
    · exact .onceDone ho
  | latch => simp only [Shutdown.next, Option.some.injEq] at h; subst h; exact .latch
  | tors => simp only [Shutdown.next, Option.some.injEq] at h; subst h; exact .tors
  | wgs => simp only [Shutdown.next, Option.some.injEq] at h; subst h; exact .wgs
  | collect => simp only [Shutdown.next, Option.some.injEq] at h; subst h; exact .collect
  | blocked =>
    simp only [Shutdown.next] at h
    split at h
    · simp only [Option.some.injEq] at h; subst h; exact .unblock ‹_›
    · cases h
  | done => cases h

theorem Warmup.next_moves {s : Sys} {c : Warmup} {m : Move}
    (h : c.next s = some m) : Moves s (.warmup c) m := by
  cases c with
  | isShutting =>
    simp only [Warmup.next, Option.some.injEq] at h; subst h
    cases hs : s.shutting
    · exact .warmup hs
    · exact .warmupShutting hs
  | swap =>
    simp only [Warmup.next, Option.some.injEq] at h; subst h
    cases hw : s.warming
    · exact .swap hw
    · exact .warming hw
  | run => simp only [Warmup.next, Option.some.injEq] at h; subst h; exact .warmed
  | done => cases h

/-- Every move `Thread.next` returns is listed by `Moves`. -/
theorem Thread.next_moves {s : Sys} {ok : Bool} {n : Nat} {t : Thread} {m : Move}
    (h : t.next s ok n = some m) : Moves s t m := by
  cases t with
  | req r => exact Req.next_moves h
  | mgmt c => exact Mgmt.next_moves h
  | dev d => exact Dev.next_moves h
  | new c => exact New.next_moves h
  | shutdown c => exact Shutdown.next_moves h
  | warmup c => exact Warmup.next_moves h

namespace Sys

/-- A step is a call, which appends the goroutine the call starts, or a move of
    one goroutine. -/
theorem step_cases {s s' : Sys} {a : Act} (h : step s a = some s') :
    (∃ c : Api, s' = { s with threads := s.threads ++ [c.thread] }) ∨
    ∃ i t m, s.threads[i]? = some t ∧ Moves s t m ∧ s' = s.advance i m := by
  cases a with
  | call c => exact .inl ⟨c, step_call h⟩
  | run i ok n =>
    obtain ⟨t, m, ht, hm, rfl⟩ := step_run h
    exact .inr ⟨i, t, m, ht, Thread.next_moves hm, rfl⟩

end Sys

/-- An invariant that holds of `s₀` and survives every call and every move holds
    in every state reachable from `s₀`. -/
theorem Reachable.inv {s₀ : Sys} (P : Sys → Prop) (h₀ : P s₀)
    (hcall : ∀ s (c : Api), Reachable s₀ s → P s → P { s with threads := s.threads ++ [c.thread] })
    (hmove : ∀ s i t m, Reachable s₀ s → P s → s.threads[i]? = some t → Moves s t m →
      P (s.advance i m))
    {s : Sys} (h : Reachable s₀ s) : P s := by
  induction h with
  | refl => exact h₀
  | tail a hr hs ih =>
    rcases Sys.step_cases hs with ⟨c, rfl⟩ | ⟨i, t, m, ht, hm, rfl⟩
    · exact hcall _ c hr ih
    · exact hmove _ i t m hr ih ht hm

end Pumpe.Gate
