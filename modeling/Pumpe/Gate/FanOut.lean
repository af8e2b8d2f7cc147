-- SUMMARY: The fan-out of ShutdownList, WarmupList, Set.Shutdown and Set.Warmup: one worker per element sending its outcome on a buffered channel, a closer goroutine and a collector, over every interleaving.
import Mathlib.Data.List.Forall2
import Mathlib.Data.List.Perm.Basic

/-!
# The fan-out

`ShutdownList` and `WarmupList` (`gate/gate.go`) start one worker goroutine per
element of their list, and `Set.Shutdown` and `Set.Warmup` one per non-empty
kind map. A worker obtains one outcome, sends it on a channel with room for
every worker, and calls `wg.Done()`. A closer goroutine waits on the
`WaitGroup` and closes the channel; the calling goroutine collects with
`for v := range ch` and returns.

The workers of the two list functions run `shutdownOne` or `warmupOne`: a
goroutine of their own makes the device call and hands its result over a
channel, and the worker's `select` takes that result or, once `ctx` is done,
the context's error (`Config.cancellable`). The workers of the `Set` methods
make their call, `ShutdownList` or `WarmupList`, themselves.

The model interleaves atomic steps (`step`, inverted by `Moves`). The spawning
loop is one step: a goroutine that has not run yet does nothing a later spawn
could observe. A device call is one step, its invocation and its return; that
every call returns is the one assumption the termination result rests on. Each
element keeps, as a ghost, the results of the device calls made for it.

In every reachable state each element's call has been made at most once
(`Reachable.calls_length_le`). There is no infinite interleaving
(`no_infinite_run`). Once no goroutine can move, the collector has returned,
each element's call has been made exactly once, and the collector has received
one outcome per element, its call's result or the cancel value
(`Reachable.stuck_outcomes`). A call may still be made after the collector
returned: the worker that took `ctx.Done()` leaves its goroutine behind.
-/

namespace Pumpe.Gate.FanOut

open scoped List

/-- A fan-out: `n` workers, a channel of capacity `cap`, and how a worker obtains
    its outcome: through `xOne`'s goroutine and `select` (`cancellable`), whose
    `ctx.Done()` branch gives `onCancel`, or by a call of its own. -/
structure Config (β : Type) where
  n : Nat
  cap : Nat
  cancellable : Bool
  onCancel : β

/-- The program points of a worker. -/
inductive Worker (β : Type)
  | start
  /-- In `xOne`'s `select`, its goroutine started. -/
  | select
  /-- At `ch <- v`. -/
  | send (v : β)
  /-- At the deferred `wg.Done()`. -/
  | sent (v : β)
  | done (v : β)

/-- The goroutine of `xOne`: not started, about to call the device, or done with
    the result `r` waiting in its channel. -/
inductive Inner (β : Type)
  | idle
  | calling
  | ret (r : β)

/-- The closer goroutine: `wg.Wait()`, then `close(ch)`. -/
inductive Closer
  | wait
  | close
  | done
  deriving DecidableEq

/-- The goroutines of one element, and the results of the device calls made for
    it (a ghost). -/
structure Elem (β : Type) where
  worker : Worker β
  inner : Inner β
  calls : List β

/-- The state of a fan-out: its elements, the channel's buffer and whether it is
    closed, the `WaitGroup`'s counter, the closer, what the collector received in
    order and whether it returned, and whether `ctx` is done. -/
structure St (β : Type) where
  elems : List (Elem β)
  buf : List β
  closed : Bool
  wg : Nat
  closer : Closer
  recv : List β
  returned : Bool
  ctxDone : Bool

variable {β : Type}

/-- The state after `wg.Add(n)` and the spawning loops, with `ctx` done or not. -/
def init (cfg : Config β) (ctxDone : Bool) : St β where
  elems := List.replicate cfg.n ⟨.start, .idle, []⟩
  buf := []
  closed := false
  wg := cfg.n
  closer := .wait
  recv := []
  returned := false
  ctxDone := ctxDone

namespace Worker

/-- The outcome a worker holds once it has one. -/
def outcome : Worker β → Option β
  | send v | sent v | done v => some v
  | _ => none

/-- The outcome a worker has put on the channel. -/
def sentValue : Worker β → Option β
  | sent v | done v => some v
  | _ => none

def isDone : Worker β → Bool
  | done _ => true
  | _ => false

end Worker

def St.setElem (s : St β) (i : Nat) (e : Elem β) : St β := { s with elems := s.elems.set i e }

-- ---------------------------------------------------------------------------
-- Steps
-- ---------------------------------------------------------------------------

/-- The atomic steps: of the goroutines of element `i`, of the closer, of the
    collector, and the cancellation of the parent context. -/
inductive Act (β : Type)
  | start (i : Nat)
  | call (i : Nat) (r : β)
  | take (i : Nat)
  | cancelled (i : Nat)
  | send (i : Nat)
  | done (i : Nat)
  | wait
  | close
  | recv
  | exit
  | cancel

/-- One step. A device call returns `r`. A send finds room in the buffer or
    waits; `exit` leaves the collector's loop on a closed, drained channel and
    runs the deferred `cancel()`. -/
def step (cfg : Config β) (s : St β) : Act β → Option (St β)
  | .start i =>
    match s.elems[i]? with
    | some ⟨.start, .idle, c⟩ =>
      if cfg.cancellable then some (s.setElem i ⟨.select, .calling, c⟩) else none
    | _ => none
  | .call i r =>
    match s.elems[i]? with
    | some ⟨w, .calling, c⟩ => some (s.setElem i ⟨w, .ret r, c ++ [r]⟩)
    | some ⟨.start, .idle, c⟩ =>
      if cfg.cancellable then none else some (s.setElem i ⟨.send r, .idle, c ++ [r]⟩)
    | _ => none
  | .take i =>
    match s.elems[i]? with
    | some ⟨.select, .ret r, c⟩ => some (s.setElem i ⟨.send r, .ret r, c⟩)
    | _ => none
  | .cancelled i =>
    match s.elems[i]? with
    | some ⟨.select, inn, c⟩ =>
      if s.ctxDone then some (s.setElem i ⟨.send cfg.onCancel, inn, c⟩) else none
    | _ => none
  | .send i =>
    match s.elems[i]? with
    | some ⟨.send v, inn, c⟩ =>
      if s.buf.length < cfg.cap then some { s.setElem i ⟨.sent v, inn, c⟩ with buf := s.buf ++ [v] }
      else none
    | _ => none
  | .done i =>
    match s.elems[i]? with
    | some ⟨.sent v, inn, c⟩ => some { s.setElem i ⟨.done v, inn, c⟩ with wg := s.wg - 1 }
    | _ => none
  | .wait => if s.closer = .wait ∧ s.wg = 0 then some { s with closer := .close } else none
  | .close => if s.closer = .close then some { s with closer := .done, closed := true } else none
  | .recv =>
    match s.returned, s.buf with
    | false, v :: rest => some { s with buf := rest, recv := s.recv ++ [v] }
    | _, _ => none
  | .exit =>
    if s.returned = false ∧ s.buf.isEmpty ∧ s.closed then
      some { s with returned := true, ctxDone := true }
    else none
  | .cancel => if s.ctxDone then none else some { s with ctxDone := true }

/-- The steps `acts` one after another. -/
def run (cfg : Config β) (s : St β) : List (Act β) → Option (St β)
  | [] => some s
  | a :: acts => (step cfg s a).bind (run cfg · acts)

/-- The states some interleaving reaches from the start, with `ctx` done at the
    start or not. -/
def Reachable (cfg : Config β) (c₀ : Bool) (s : St β) : Prop :=
  ∃ acts, run cfg (init cfg c₀) acts = some s

/-- No goroutine can move. -/
def Stuck (cfg : Config β) (s : St β) : Prop := ∀ a, step cfg s a = none

/-- What a step does, one case per action and branch. -/
inductive Moves (cfg : Config β) (s : St β) : St β → Prop
  | start (i : Nat) (c : List β) (hc : cfg.cancellable = true)
      (he : s.elems[i]? = some ⟨.start, .idle, c⟩) :
      Moves cfg s (s.setElem i ⟨.select, .calling, c⟩)
  | callOne (i : Nat) (w : Worker β) (c : List β) (r : β)
      (he : s.elems[i]? = some ⟨w, .calling, c⟩) :
      Moves cfg s (s.setElem i ⟨w, .ret r, c ++ [r]⟩)
  | callDirect (i : Nat) (c : List β) (r : β) (hc : cfg.cancellable = false)
      (he : s.elems[i]? = some ⟨.start, .idle, c⟩) :
      Moves cfg s (s.setElem i ⟨.send r, .idle, c ++ [r]⟩)
  | take (i : Nat) (r : β) (c : List β) (he : s.elems[i]? = some ⟨.select, .ret r, c⟩) :
      Moves cfg s (s.setElem i ⟨.send r, .ret r, c⟩)
  | cancelled (i : Nat) (inn : Inner β) (c : List β)
      (he : s.elems[i]? = some ⟨.select, inn, c⟩) (hd : s.ctxDone = true) :
      Moves cfg s (s.setElem i ⟨.send cfg.onCancel, inn, c⟩)
  | send (i : Nat) (v : β) (inn : Inner β) (c : List β)
      (he : s.elems[i]? = some ⟨.send v, inn, c⟩) (hb : s.buf.length < cfg.cap) :
      Moves cfg s { s.setElem i ⟨.sent v, inn, c⟩ with buf := s.buf ++ [v] }
  | done (i : Nat) (v : β) (inn : Inner β) (c : List β)
      (he : s.elems[i]? = some ⟨.sent v, inn, c⟩) :
      Moves cfg s { s.setElem i ⟨.done v, inn, c⟩ with wg := s.wg - 1 }
  | wait (hc : s.closer = .wait) (hw : s.wg = 0) : Moves cfg s { s with closer := .close }
  | close (hc : s.closer = .close) : Moves cfg s { s with closer := .done, closed := true }
  | recv (v : β) (rest : List β) (hr : s.returned = false) (hb : s.buf = v :: rest) :
      Moves cfg s { s with buf := rest, recv := s.recv ++ [v] }
  | exit (hr : s.returned = false) (hb : s.buf = []) (hc : s.closed = true) :
      Moves cfg s { s with returned := true, ctxDone := true }
  | cancel (hd : s.ctxDone = false) : Moves cfg s { s with ctxDone := true }

variable {cfg : Config β} {s s' : St β}

theorem step_moves {a : Act β} (h : step cfg s a = some s') : Moves cfg s s' := by
  cases a <;> simp only [step] at h <;> (repeat' split at h) <;>
    simp only [Option.some.injEq, reduceCtorEq] at h <;> subst h
  case start.h_1.isTrue => exact .start _ _ ‹_› ‹_›
  case call.h_1 => exact .callOne _ _ _ _ ‹_›
  case call.h_2.isFalse => exact .callDirect _ _ _ (Bool.of_not_eq_true ‹_›) ‹_›
  case take.h_1 => exact .take _ _ _ ‹_›
  case cancelled.h_1.isTrue => exact .cancelled _ _ _ ‹_› ‹_›
  case send.h_1.isTrue => exact .send _ _ _ _ ‹_› ‹_›
  case done.h_1 => exact .done _ _ _ _ ‹_›
  case wait.isTrue h => exact .wait h.1 h.2
  case close.isTrue h => exact .close h
  case recv.h_1 => exact .recv _ _ ‹_› ‹_›
  case exit.isTrue h => exact .exit h.1 (List.isEmpty_iff.1 h.2.1) h.2.2
  case cancel.isFalse h => exact .cancel (Bool.of_not_eq_true h)

/-- Every move is a step. -/
theorem Moves.step (h : Moves cfg s s') : ∃ a, step cfg s a = some s' := by
  cases h
  case start i c hc he => exact ⟨.start i, by simp [step, he, hc]⟩
  case callOne i w c r he => exact ⟨.call i r, by simp [step, he]⟩
  case callDirect i c r hc he => exact ⟨.call i r, by simp [step, he, hc]⟩
  case take i r c he => exact ⟨.take i, by simp [step, he]⟩
  case cancelled i inn c he hd => exact ⟨.cancelled i, by simp [step, he, hd]⟩
  case send i v inn c he hb => exact ⟨.send i, by simp [step, he, hb]⟩
  case done i v inn c he => exact ⟨.done i, by simp [step, he]⟩
  case wait hc hw => exact ⟨.wait, by simp [step, hc, hw]⟩
  case close hc => exact ⟨.close, by simp [step, hc]⟩
  case recv v rest hr hb => exact ⟨.recv, by simp [step, hr, hb]⟩
  case exit hr hb hc => exact ⟨.exit, by simp [step, hr, hb, hc]⟩
  case cancel hd => exact ⟨.cancel, by simp [step, hd]⟩


-- ---------------------------------------------------------------------------
-- Lists updated at one index
-- ---------------------------------------------------------------------------

section SetLemmas

variable {α γ : Type} {l : List α} {i : Nat} {a b : α}

theorem filterMap_cons_toList (f : α → Option γ) (x : α) (l : List α) :
    (x :: l).filterMap f = (f x).toList ++ l.filterMap f := by
  cases h : f x <;> simp [List.filterMap_cons, h]

/-- Setting an index swaps the entry it held for the new one. -/
theorem filterMap_set_perm (f : α → Option γ) (b : α) (h : l[i]? = some a) :
    (l.set i b).filterMap f ++ (f a).toList ~ l.filterMap f ++ (f b).toList := by
  induction l generalizing i with
  | nil => cases h
  | cons x l ih =>
    cases i with
    | zero =>
      obtain rfl : x = a := by simpa using h
      simp only [List.set_cons_zero, filterMap_cons_toList, List.append_assoc]
      calc (f b).toList ++ (l.filterMap f ++ (f x).toList)
          ~ (l.filterMap f ++ (f x).toList) ++ (f b).toList := List.perm_append_comm
        _ ~ ((f x).toList ++ l.filterMap f) ++ (f b).toList := List.perm_append_comm.append_right _
        _ = (f x).toList ++ (l.filterMap f ++ (f b).toList) := List.append_assoc _ _ _
    | succ i =>
      simp only [List.set_cons_succ, filterMap_cons_toList, List.append_assoc]
      exact (ih (by simpa using h)).append_left _

theorem filterMap_set_of_eq (f : α → Option γ) (b : α) (h : l[i]? = some a) (hf : f b = f a) :
    (l.set i b).filterMap f = l.filterMap f := by
  induction l generalizing i with
  | nil => cases h
  | cons x l ih =>
    cases i with
    | zero =>
      obtain rfl : x = a := by simpa using h
      simp only [List.set_cons_zero, filterMap_cons_toList, hf]
    | succ i => simp only [List.set_cons_succ, filterMap_cons_toList, ih (by simpa using h)]

theorem countP_set_of_eq (p : α → Bool) (b : α) (h : l[i]? = some a) (hp : p b = p a) :
    (l.set i b).countP p = l.countP p := by
  obtain ⟨hi, rfl⟩ := List.getElem?_eq_some_iff.1 h
  have := List.boole_getElem_le_countP p l i hi
  rw [List.countP_set p l i b hi, hp]
  omega

theorem foldr_set (f : α → Nat) (b : α) (h : l[i]? = some a) :
    (l.set i b).foldr (f · + ·) 0 + f a = l.foldr (f · + ·) 0 + f b := by
  induction l generalizing i with
  | nil => cases h
  | cons x l ih =>
    cases i with
    | zero =>
      obtain rfl : x = a := by simpa using h
      simp only [List.set_cons_zero, List.foldr_cons]
      omega
    | succ i =>
      have := ih (i := i) (by simpa using h)
      simp only [List.set_cons_succ, List.foldr_cons]
      omega

theorem length_filterMap_lt (f : α → Option γ) (h : a ∈ l) (ha : f a = none) :
    (l.filterMap f).length < l.length := by
  induction l with
  | nil => cases h
  | cons x l ih =>
    have hle := List.length_filterMap_le f l
    rcases List.mem_cons.1 h with rfl | h
    · simp only [filterMap_cons_toList, ha, Option.toList_none, List.nil_append, List.length_cons]
      omega
    · have := ih h
      cases hx : f x <;> simp only [filterMap_cons_toList, hx, Option.toList_none,
        Option.toList_some, List.nil_append, List.singleton_append, List.length_cons] <;> omega

end SetLemmas

-- ---------------------------------------------------------------------------
-- One element
-- ---------------------------------------------------------------------------

/-- The shapes the goroutines and calls of one element take, with `ctxDone`
    whether `ctx` is done. -/
inductive Elem.Ok (cfg : Config β) (ctxDone : Bool) : Elem β → Prop
  /-- Nothing has run. -/
  | idle : Elem.Ok cfg ctxDone ⟨.start, .idle, []⟩
  /-- `xOne`'s goroutine is about to call; the worker waits in `select` or took
      `ctx.Done()`. -/
  | calling (w : Worker β) (hc : cfg.cancellable = true)
      (hw : w = .select ∨ w.outcome = some cfg.onCancel ∧ ctxDone = true) :
      Elem.Ok cfg ctxDone ⟨w, .calling, []⟩
  /-- The call returned `r`; the worker waits, took `r`, or took `ctx.Done()`. -/
  | called (w : Worker β) (r : β) (hc : cfg.cancellable = true)
      (hw : w = .select ∨ w.outcome = some r ∨ w.outcome = some cfg.onCancel ∧ ctxDone = true) :
      Elem.Ok cfg ctxDone ⟨w, .ret r, [r]⟩
  /-- A worker that calls by itself made its call, which gave its outcome. -/
  | direct (w : Worker β) (r : β) (hc : cfg.cancellable = false) (hw : w.outcome = some r) :
      Elem.Ok cfg ctxDone ⟨w, .idle, [r]⟩

namespace Elem.Ok

variable {cfg : Config β} {d : Bool} {w : Worker β} {inn : Inner β} {c : List β}

theorem calls_length_le {e : Elem β} (h : e.Ok cfg d) : e.calls.length ≤ 1 := by
  cases h <;> simp

theorem mono {e : Elem β} {d' : Bool} (h : e.Ok cfg d) (hd : d = true → d' = true) : e.Ok cfg d' := by
  cases h with
  | idle => exact .idle
  | calling w hc hw => exact .calling w hc (hw.imp_right fun h => ⟨h.1, hd h.2⟩)
  | called w r hc hw => exact .called w r hc (hw.imp_right (Or.imp_right fun h => ⟨h.1, hd h.2⟩))
  | direct w r hc hw => exact .direct w r hc hw

/-- A worker that holds an outcome may move on to a program point with the same one. -/
theorem worker (h : Elem.Ok cfg d ⟨w, inn, c⟩) (w' : Worker β) (hw : w.outcome ≠ none)
    (hw' : w'.outcome = w.outcome) : Elem.Ok cfg d ⟨w', inn, c⟩ := by
  have hsel : ∀ {P : Prop}, w = .select ∨ P → P := fun h => h.resolve_left (by rintro rfl; exact hw rfl)
  cases h with
  | idle => exact absurd rfl hw
  | calling _ hc h => exact .calling w' hc (.inr (hw' ▸ hsel h))
  | called _ r hc h => exact .called w' r hc (.inr (hw' ▸ hsel h))
  | direct _ r hc h => exact .direct w' r hc (hw'.trans h)

theorem start (h : Elem.Ok cfg d ⟨.start, .idle, c⟩) (hc : cfg.cancellable = true) :
    Elem.Ok cfg d ⟨.select, .calling, c⟩ := by
  cases h with
  | idle => exact .calling _ hc (.inl rfl)
  | direct _ _ _ hw => cases hw

theorem callOne (h : Elem.Ok cfg d ⟨w, .calling, c⟩) (r : β) :
    Elem.Ok cfg d ⟨w, .ret r, c ++ [r]⟩ := by
  cases h with
  | calling _ hc hw => exact .called w r hc (hw.imp_right .inr)

theorem callDirect (h : Elem.Ok cfg d ⟨.start, .idle, c⟩) (hc : cfg.cancellable = false) (r : β) :
    Elem.Ok cfg d ⟨.send r, .idle, c ++ [r]⟩ := by
  cases h with
  | idle => exact .direct _ r hc rfl
  | direct _ _ _ hw => cases hw

theorem take {r : β} (h : Elem.Ok cfg d ⟨.select, .ret r, c⟩) : Elem.Ok cfg d ⟨.send r, .ret r, c⟩ := by
  cases h with
  | called _ _ hc _ => exact .called _ r hc (.inr (.inl rfl))

theorem cancelled (h : Elem.Ok cfg d ⟨.select, inn, c⟩) (hd : d = true) :
    Elem.Ok cfg d ⟨.send cfg.onCancel, inn, c⟩ := by
  cases h with
  | calling _ hc _ => exact .calling _ hc (.inr ⟨rfl, hd⟩)
  | called _ r hc _ => exact .called _ r hc (.inr (.inr ⟨rfl, hd⟩))
  | direct _ _ _ hw => cases hw

/-- A finished element made its call once, and its outcome is the call's result
    or the cancel value. -/
theorem done {v : β} (h : Elem.Ok cfg d ⟨.done v, inn, c⟩) (hi : inn ≠ .calling) :
    ∃ r, c = [r] ∧ (v = r ∨ cfg.cancellable = true ∧ v = cfg.onCancel) := by
  cases h with
  | calling => exact absurd rfl hi
  | called _ r hc hw =>
    refine ⟨r, rfl, ?_⟩
    rcases hw with h | h | h
    · cases h
    · exact .inl (Option.some.inj h)
    · exact .inr ⟨hc, Option.some.inj h.1⟩
  | direct _ r _ hw => exact ⟨r, rfl, .inl (Option.some.inj hw)⟩

end Elem.Ok

-- ---------------------------------------------------------------------------
-- The invariant
-- ---------------------------------------------------------------------------

/-- The invariant of every reachable state: each element's shape; the counter
    counts the workers that are not done; the closer is past `wg.Wait()` only
    once it is zero, and the channel is closed once the closer is done; the
    collector returns only from a closed, drained channel; and what was received
    and what is buffered are, up to order, the outcomes the workers sent. -/
structure Inv (cfg : Config β) (s : St β) : Prop where
  length : s.elems.length = cfg.n
  elems : ∀ e ∈ s.elems, e.Ok cfg s.ctxDone
  wg : s.wg = s.elems.countP (fun e => !e.worker.isDone)
  closer : s.closer ≠ .wait → s.wg = 0
  closed : s.closed = true ↔ s.closer = .done
  returned : s.returned = true → s.closed = true ∧ s.buf = [] ∧ s.ctxDone = true
  conserve : s.recv ++ s.buf ~ s.elems.filterMap (·.worker.sentValue)

namespace Inv

theorem init (cfg : Config β) (c : Bool) : Inv cfg (init cfg c) where
  length := List.length_replicate _ _
  elems := fun e he => (List.eq_of_mem_replicate he) ▸ .idle
  wg := by simp [FanOut.init, List.countP_replicate, Worker.isDone]
  closer := fun h => absurd rfl h
  closed := by simp [FanOut.init]
  returned := nofun
  conserve := by simp [FanOut.init, List.filterMap_replicate, Worker.sentValue]

variable {i : Nat} {e e' : Elem β}

theorem elem_ok (hi : Inv cfg s) (he : s.elems[i]? = some e) : e.Ok cfg s.ctxDone :=
  hi.elems _ (List.getElem?_mem he)

/-- While a worker is not done the channel is open and the collector in its loop. -/
theorem open_of_not_done (hi : Inv cfg s) (he : s.elems[i]? = some e)
    (hd : e.worker.isDone = false) : s.closer = .wait ∧ s.closed = false ∧ s.returned = false := by
  have hpos : 0 < s.wg := hi.wg ▸ List.countP_pos_iff.2 ⟨e, List.getElem?_mem he, by simp [hd]⟩
  have hw : s.closer = .wait := by
    by_contra h
    exact absurd (hi.closer h) (Nat.pos_iff_ne_zero.1 hpos)
  have hc : s.closed = false := by simpa [hw] using hi.closed
  exact ⟨hw, hc, by cases hr : s.returned <;> simp_all [hi.returned]⟩

theorem elems_set (hi : Inv cfg s) (hok : e'.Ok cfg s.ctxDone) :
    ∀ x ∈ s.elems.set i e', x.Ok cfg s.ctxDone :=
  fun x hx => (List.mem_or_eq_of_mem_set hx).elim (hi.elems x) (· ▸ hok)

/-- A move of one element's goroutines that neither sends nor finishes its worker. -/
theorem setElem (hi : Inv cfg s) (he : s.elems[i]? = some e) (hok : e'.Ok cfg s.ctxDone)
    (hd : e'.worker.isDone = e.worker.isDone) (hs : e'.worker.sentValue = e.worker.sentValue) :
    Inv cfg (s.setElem i e') where
  length := by simp [St.setElem, hi.length]
  elems := hi.elems_set hok
  wg := by
    show s.wg = (s.elems.set i e').countP _
    rw [hi.wg, countP_set_of_eq _ e' he (by simp [hd])]
  closer := hi.closer
  closed := hi.closed
  returned := hi.returned
  conserve := by
    show s.recv ++ s.buf ~ (s.elems.set i e').filterMap _
    rw [filterMap_set_of_eq (fun e : Elem β => e.worker.sentValue) e' he hs]
    exact hi.conserve

theorem mono (hi : Inv cfg s) (s' : St β) (helems : s'.elems = s.elems)
    (hrecv : s'.recv ++ s'.buf = s.recv ++ s.buf) (hwg : s'.wg = s.wg) (hd : s.ctxDone = true → s'.ctxDone = true)
    (hcl : s'.closer ≠ .wait → s'.wg = 0) (hclosed : s'.closed = true ↔ s'.closer = .done)
    (hr : s'.returned = true → s'.closed = true ∧ s'.buf = [] ∧ s'.ctxDone = true) :
    Inv cfg s' where
  length := helems ▸ hi.length
  elems := fun x hx => (hi.elems x (helems ▸ hx)).mono hd
  wg := helems ▸ hwg ▸ hi.wg
  closer := hcl
  closed := hclosed
  returned := hr
  conserve := helems ▸ hrecv ▸ hi.conserve

/-- Every move keeps the invariant. -/
theorem move (hi : Inv cfg s) (h : Moves cfg s s') : Inv cfg s' := by
  cases h
  case start i c hc he => exact hi.setElem he ((hi.elem_ok he).start hc) rfl rfl
  case callOne i w c r he => exact hi.setElem he ((hi.elem_ok he).callOne r) rfl rfl
  case callDirect i c r hc he => exact hi.setElem he ((hi.elem_ok he).callDirect hc r) rfl rfl
  case take i r c he => exact hi.setElem he (hi.elem_ok he).take rfl rfl
  case cancelled i inn c he hd => exact hi.setElem he ((hi.elem_ok he).cancelled hd) rfl rfl
  case send i v inn c he hb =>
    obtain ⟨-, -, hr⟩ := hi.open_of_not_done he rfl
    have hok := (hi.elem_ok he).worker (.sent v) nofun rfl
    have hp := filterMap_set_perm (fun e : Elem β => e.worker.sentValue) ⟨.sent v, inn, c⟩ he
    simp only [Worker.sentValue, Option.toList_none, List.append_nil, Option.toList_some] at hp
    exact {
      length := by simp [St.setElem, hi.length]
      elems := hi.elems_set hok
      wg := by
        show s.wg = (s.elems.set i _).countP _
        rw [hi.wg]
        exact (countP_set_of_eq (fun e : Elem β => !e.worker.isDone) ⟨.sent v, inn, c⟩ he rfl).symm
      closer := hi.closer
      closed := hi.closed
      returned := fun h => absurd (hr.symm.trans h) Bool.false_ne_true
      conserve := by
        show s.recv ++ (s.buf ++ [v]) ~ _
        exact (List.append_assoc _ _ _ ▸ hi.conserve.append_right [v]).trans hp.symm }
  case done i v inn c he =>
    obtain ⟨hw, -, -⟩ := hi.open_of_not_done he rfl
    have hok := (hi.elem_ok he).worker (.done v) nofun rfl
    obtain ⟨hlt, hget⟩ := List.getElem?_eq_some_iff.1 he
    exact {
      length := by simp [St.setElem, hi.length]
      elems := hi.elems_set hok
      wg := by
        show s.wg - 1 = (s.elems.set i _).countP _
        rw [List.countP_set _ _ _ _ hlt, hi.wg]
        simp [hget, Worker.isDone]
      closer := fun h => absurd hw h
      closed := hi.closed
      returned := hi.returned
      conserve := by
        show s.recv ++ s.buf ~ (s.elems.set i _).filterMap _
        rw [filterMap_set_of_eq (fun e : Elem β => e.worker.sentValue) ⟨.done v, inn, c⟩ he rfl]
        exact hi.conserve }
  case wait hc hw =>
    exact hi.mono _ rfl rfl rfl id (fun _ => hw) (by simpa [hc] using hi.closed)
      (fun h => absurd (hi.returned h).1 (by simpa [hc] using hi.closed))
  case close hc =>
    exact hi.mono _ rfl rfl rfl id (fun _ => hi.closer (by simp [hc])) (by simp)
      fun h => ⟨rfl, (hi.returned h).2⟩
  case recv v rest hr hb =>
    exact hi.mono _ rfl (by simp [hb]) rfl id hi.closer hi.closed
      fun h => absurd (hr.symm.trans h) Bool.false_ne_true
  case exit hr hb hc => exact hi.mono _ rfl rfl rfl (fun _ => rfl) hi.closer hi.closed fun _ => ⟨hc, hb, rfl⟩
  case cancel hd =>
    exact hi.mono _ rfl rfl rfl (fun _ => rfl) hi.closer hi.closed
      fun h => ⟨(hi.returned h).1, (hi.returned h).2.1, rfl⟩

end Inv

theorem Inv.run {s₀ : St β} (hi : Inv cfg s₀) {acts : List (Act β)} (h : run cfg s₀ acts = some s) :
    Inv cfg s := by
  induction acts generalizing s₀ with
  | nil => cases h; exact hi
  | cons a acts ih =>
    obtain ⟨s₁, h₁, h⟩ := Option.bind_eq_some.1 h
    exact ih (hi.move (step_moves h₁)) h

theorem Reachable.inv {c : Bool} (h : Reachable cfg c s) : Inv cfg s :=
  (Inv.init cfg c).run h.choose_spec

/-- In every reachable state each element's device call has been made at most once. -/
theorem Reachable.calls_length_le {c : Bool} (h : Reachable cfg c s) :
    ∀ e ∈ s.elems, e.calls.length ≤ 1 :=
  fun e he => (h.inv.elems e he).calls_length_le

-- ---------------------------------------------------------------------------
-- Termination
-- ---------------------------------------------------------------------------

def Worker.rank : Worker β → Nat
  | .start => 5
  | .select => 4
  | .send _ => 3
  | .sent _ => 1
  | .done _ => 0

def Inner.rank : Inner β → Nat
  | .idle => 2
  | .calling => 1
  | .ret _ => 0

def Closer.rank : Closer → Nat
  | .wait => 2
  | .close => 1
  | .done => 0

def Elem.rank (e : Elem β) : Nat := e.worker.rank + e.inner.rank

/-- The work left: what each element's goroutines and the closer have still to
    do, the values still buffered, and the collector's return and the
    cancellation of `ctx` while they are to come. -/
def St.rank (s : St β) : Nat :=
  s.elems.foldr (·.rank + ·) 0 + s.buf.length + s.closer.rank + (if s.returned then 0 else 1) +
    (if s.ctxDone then 0 else 1)

theorem St.rank_setElem {i : Nat} {e : Elem β} (e' : Elem β) (he : s.elems[i]? = some e) :
    (s.setElem i e').rank + e.rank = s.rank + e'.rank := by
  have := foldr_set Elem.rank e' he
  simp only [St.rank, St.setElem] at this ⊢
  omega

theorem St.rank_setElem_lt {i : Nat} {e e' : Elem β} (he : s.elems[i]? = some e)
    (h : e'.rank < e.rank) : (s.setElem i e').rank < s.rank := by
  have := St.rank_setElem e' he
  omega

/-- Every move lowers the work left. -/
theorem Moves.rank_lt (h : Moves cfg s s') : s'.rank < s.rank := by
  cases h
  case start _ _ _ he | callOne _ _ _ _ he | callDirect _ _ _ _ he | take _ _ _ he
    | cancelled _ _ _ he _ | done _ _ _ _ he =>
    exact St.rank_setElem_lt he (by simp [Elem.rank, Worker.rank, Inner.rank])
  case send i v inn c he _ =>
    -- the worker's two steps pay for the value it leaves in the buffer
    have := St.rank_setElem ⟨.sent v, inn, c⟩ he
    simp only [St.rank, St.setElem, Elem.rank, Worker.rank, List.length_append,
      List.length_singleton] at this ⊢
    omega
  case wait hc _ | close hc => simp [St.rank, hc, Closer.rank]
  case recv v rest hr hb => simp [St.rank, hb]
  case exit hr _ _ => simp [St.rank, hr]; split <;> omega
  case cancel hd => simp [St.rank, hd]

/-- No interleaving of the fan-out's goroutines runs forever. -/
theorem no_infinite_run (cfg : Config β) :
    ¬∃ f : Nat → St β, ∀ k, ∃ a, step cfg (f k) a = some (f (k + 1)) := by
  rintro ⟨f, hf⟩
  have hdec : ∀ k, (f k).rank + k ≤ (f 0).rank := by
    intro k
    induction k with
    | zero => simp
    | succ k ih =>
      obtain ⟨a, ha⟩ := hf k
      have := (step_moves ha).rank_lt
      omega
  have := hdec ((f 0).rank + 1)
  omega

-- ---------------------------------------------------------------------------
-- Progress
-- ---------------------------------------------------------------------------

theorem Stuck.not_moves (hs : Stuck cfg s) : ¬Moves cfg s s' := fun h => by
  obtain ⟨a, ha⟩ := h.step
  rw [hs a] at ha
  cases ha

/-- With room in the channel for every worker, an element whose goroutines can
    no longer move has finished: its worker is done and no call is pending. -/
theorem Inv.elem_finished (hi : Inv cfg s) (hn : cfg.n ≤ cfg.cap) (hs : Stuck cfg s)
    {e : Elem β} (he : e ∈ s.elems) : e.worker.isDone = true ∧ e.inner ≠ .calling := by
  obtain ⟨i, hget⟩ := List.mem_iff_getElem?.1 he
  have hroom : ∀ v inn c, e = ⟨.send v, inn, c⟩ → s.buf.length < cfg.cap := by
    rintro v inn c rfl
    have hlt := length_filterMap_lt (fun e : Elem β => e.worker.sentValue) he rfl
    have hlen := hi.conserve.length_eq
    simp only [List.length_append] at hlen
    have := hi.length
    omega
  obtain ⟨w, inn, c⟩ := e
  cases hi.elems _ he with
  | idle =>
    cases hc : cfg.cancellable
    · exact (hs.not_moves (.callDirect i [] cfg.onCancel hc hget)).elim
    · exact (hs.not_moves (.start i [] hc hget)).elim
  | calling w _ _ => exact (hs.not_moves (.callOne i w [] cfg.onCancel hget)).elim
  | called w r _ hw =>
    cases w with
    | start => simp [Worker.outcome] at hw
    | select => exact (hs.not_moves (.take i r [r] hget)).elim
    | send v => exact (hs.not_moves (.send i v _ _ hget (hroom v _ _ rfl))).elim
    | sent v => exact (hs.not_moves (.done i v _ _ hget)).elim
    | done v => exact ⟨rfl, nofun⟩
  | direct w r _ hw =>
    cases w with
    | start | select => cases hw
    | send v => exact (hs.not_moves (.send i v _ _ hget (hroom v _ _ rfl))).elim
    | sent v => exact (hs.not_moves (.done i v _ _ hget)).elim
    | done v => exact ⟨rfl, nofun⟩

/-- With room in the channel for every worker, a state no goroutine can leave
    has every goroutine finished and the collector returned. -/
theorem Inv.returned_of_stuck (hi : Inv cfg s) (hn : cfg.n ≤ cfg.cap) (hs : Stuck cfg s) :
    s.returned = true := by
  have hwg : s.wg = 0 := hi.wg ▸ List.countP_eq_zero.2 fun e he => by
    simp [(hi.elem_finished hn hs he).1]
  have hclosed : s.closed = true := by
    cases hc : s.closer
    · exact (hs.not_moves (.wait hc hwg)).elim
    · exact (hs.not_moves (.close hc)).elim
    · exact hi.closed.2 hc
  cases hr : s.returned
  · cases hb : s.buf with
    | nil => exact (hs.not_moves (.exit hr hb hclosed)).elim
    | cons v rest => exact (hs.not_moves (.recv v rest hr hb)).elim
  · rfl

/-- A state whose collector returned and whose elements have all finished is one
    no goroutine can leave. -/
theorem Inv.stuck_of_finished (hi : Inv cfg s) (hr : s.returned = true)
    (hf : ∀ e ∈ s.elems, e.worker.isDone = true ∧ e.inner ≠ .calling) : Stuck cfg s := by
  have hno : ∀ s', ¬Moves cfg s s' := fun s' h => by
    obtain ⟨hc, -, hd⟩ := hi.returned hr
    have hdone : ∀ {i : Nat} {w : Worker β} {inn : Inner β} {c : List β},
        s.elems[i]? = some ⟨w, inn, c⟩ → w.isDone = true ∧ inn ≠ .calling :=
      fun he => hf _ (List.getElem?_mem he)
    cases h
    case start _ _ _ he | callDirect _ _ _ _ he | take _ _ _ he | cancelled _ _ _ he _
      | send _ _ _ _ he _ | done _ _ _ _ he => exact absurd (hdone he).1 Bool.false_ne_true
    case callOne _ _ _ _ he => exact (hdone he).2 rfl
    case wait hw _ => exact absurd (hw ▸ hi.closed.1 hc) nofun
    case close hw => exact absurd (hw ▸ hi.closed.1 hc) nofun
    case recv _ _ hr' _ | exit hr' _ _ => exact absurd (hr'.symm.trans hr) Bool.false_ne_true
    case cancel hd' => exact absurd (hd'.symm.trans hd) Bool.false_ne_true
  intro a
  cases h : step cfg s a
  · rfl
  · exact (hno _ (step_moves h)).elim

theorem forall₂_filterMap {α γ : Type} {R : α → γ → Prop} {f : α → Option γ} {l : List α}
    (h : ∀ a ∈ l, ∃ v, f a = some v ∧ R a v) : List.Forall₂ R l (l.filterMap f) := by
  induction l with
  | nil => exact .nil
  | cons a l ih =>
    obtain ⟨v, hv, hr⟩ := h a (List.mem_cons_self _ _)
    rw [List.filterMap_cons_some hv]
    exact .cons hr (ih fun b hb => h b (List.mem_cons_of_mem _ hb))

/-- Once no goroutine of a fan-out with room for every worker can move, the
    collector has returned, and it received, up to order, one outcome per
    element: each element's device call was made exactly once, and its outcome
    is the call's result, or the cancel value once `ctx` was done. -/
theorem Reachable.stuck_outcomes {c : Bool} (h : Reachable cfg c s)
    (hn : cfg.n ≤ cfg.cap) (hs : Stuck cfg s) :
    s.returned = true ∧ ∃ outs : List β, outs.length = cfg.n ∧ s.recv ~ outs ∧
      List.Forall₂ (fun e v => ∃ r, e.calls = [r] ∧ (v = r ∨ cfg.cancellable = true ∧ v = cfg.onCancel))
        s.elems outs := by
  have hi := h.inv
  have hr := hi.returned_of_stuck hn hs
  have hall := forall₂_filterMap (f := fun e : Elem β => e.worker.sentValue)
    (R := fun e v => ∃ r, e.calls = [r] ∧ (v = r ∨ cfg.cancellable = true ∧ v = cfg.onCancel))
    fun e he => by
      obtain ⟨hd, hc⟩ := hi.elem_finished hn hs he
      obtain ⟨w, inn, c⟩ := e
      cases w with
      | done v => exact ⟨v, rfl, (hi.elems _ he).done hc⟩
      | _ => cases hd
  refine ⟨hr, _, hall.length_eq.symm.trans hi.length, ?_, hall⟩
  simpa [(hi.returned hr).2.1] using hi.conserve

end Pumpe.Gate.FanOut
