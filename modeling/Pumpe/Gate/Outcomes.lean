-- SUMMARY: What ShutdownList, WarmupList, Set.Shutdown and Set.Warmup return: errors.Join of the outcomes their fan-outs collect, one per gate or group, over every interleaving.
import Pumpe.Gate.FanOut

/-!
# What the fan-outs return

`ShutdownList` returns `errors.Join(collectErrs(errc)...)` over the
`shutdownOne` outcomes its workers send, and `WarmupList` splits the
`warmupOne` responses into latencies and errors. `Set.Shutdown` and
`Set.Warmup` run one group per non-empty kind map, each calling `ShutdownList`
or `WarmupList`, on a channel of two, and return `errors.Join` of the errors the
groups send.

An error is a base error or a `joinError` (`Error`); `errors.Join` drops the
`nil` errors and returns `nil` when none is left (`errorsJoin`).

`fan_out_conservation` instantiates the fan-out of `Pumpe.Gate.FanOut` at each
of the four functions.
-/

namespace Pumpe.Gate.FanOut

open scoped List

/-- A Go `error` over base errors `ε`: a base error, or the `joinError` of
    `errors.Join`. -/
inductive Error (ε : Type)
  | base (e : ε)
  | joined (errs : List (Error ε))

variable {ε : Type}

/-- `errors.Join`: `nil` when every error is `nil`, else the non-nil ones in order. -/
def errorsJoin (errs : List (Option (Error ε))) : Option (Error ε) :=
  match errs.filterMap id with
  | [] => none
  | e => some (.joined e)

/-- `collectErrs`: the non-nil errors received, in order. -/
def collectErrs (recv : List (Option (Error ε))) : List (Error ε) :=
  recv.foldl (fun errs err => match err with | some e => errs ++ [e] | none => errs) []

theorem foldl_collectErrs (recv : List (Option (Error ε))) (acc : List (Error ε)) :
    recv.foldl (fun errs err => match err with | some e => errs ++ [e] | none => errs) acc =
      acc ++ recv.filterMap id := by
  induction recv generalizing acc with
  | nil => simp
  | cons x recv ih => cases x <;> simp [ih]

theorem collectErrs_eq (recv : List (Option (Error ε))) : collectErrs recv = recv.filterMap id :=
  foldl_collectErrs recv []

-- ---------------------------------------------------------------------------
-- ShutdownList
-- ---------------------------------------------------------------------------

/-- The fan-out of `ShutdownList` over `n` gates: each worker runs
    `shutdownOne`, whose `ctx.Done()` branch returns the context's error, on a
    channel of `n`. -/
def shutdownListCfg (n : Nat) (ctxErr : Error ε) : Config (Option (Error ε)) where
  n := n
  cap := n
  cancellable := true
  onCancel := some ctxErr

/-- What `ShutdownList` returns: `nil` at once on an empty list, else
    `errors.Join(collectErrs(errc)...)`. -/
def shutdownListResult (n : Nat) (s : St (Option (Error ε))) : Option (Error ε) :=
  if n = 0 then none else errorsJoin ((collectErrs s.recv).map some)

/-- What a run of `ShutdownList` ends with: the collector returned, each gate's
    `close()` was called once, `collectErrs` returned the non-nil outcomes, one
    per gate, each its `close()` result or the context's error, and
    `ShutdownList` returns `errors.Join` of them. -/
def ShutdownListEnds (n : Nat) (ctxErr : Error ε) (s : St (Option (Error ε))) : Prop :=
  s.returned = true ∧ ∃ outs : List (Option (Error ε)), outs.length = n ∧
    List.Forall₂ (fun e v => ∃ r, e.calls = [r] ∧ (v = r ∨ v = some ctxErr)) s.elems outs ∧
    collectErrs s.recv ~ outs.filterMap id ∧
    shutdownListResult n s = errorsJoin ((collectErrs s.recv).map some)

-- ---------------------------------------------------------------------------
-- WarmupList
-- ---------------------------------------------------------------------------

/-- `warmupResponseWithErr`. -/
structure WarmupResponse (ε : Type) where
  latency : Int
  err : Option (Error ε)

/-- The fan-out of `WarmupList` over `n` gates: each worker runs `warmupOne`,
    whose `ctx.Done()` branch returns a response with the context's error. -/
def warmupListCfg (n : Nat) (ctxErr : Error ε) : Config (WarmupResponse ε) where
  n := n
  cap := n
  cancellable := true
  onCancel := ⟨0, some ctxErr⟩

/-- The latency of a response without an error. -/
def WarmupResponse.ok (r : WarmupResponse ε) : Option Int :=
  match r.err with
  | none => some r.latency
  | some _ => none

/-- The collector of `WarmupList`: the latencies of the responses without an
    error, and the errors, in the order received. -/
def warmupCollect (recv : List (WarmupResponse ε)) : List Int × List (Error ε) :=
  recv.foldl (fun acc part => match part.err with
    | some e => (acc.1, acc.2 ++ [e])
    | none => (acc.1 ++ [part.latency], acc.2)) ([], [])

/-- What `WarmupList` returns: `nil, nil` at once on an empty list, else the
    latencies, and `errors.Join` of the errors if there are any. -/
def warmupListResult (n : Nat) (s : St (WarmupResponse ε)) : List Int × Option (Error ε) :=
  if n = 0 then ([], none)
  else
    let r := warmupCollect s.recv
    if r.2.length > 0 then (r.1, errorsJoin (r.2.map some)) else (r.1, none)

theorem foldl_warmupCollect (recv : List (WarmupResponse ε)) (acc : List Int × List (Error ε)) :
    recv.foldl (fun acc part => match part.err with
      | some e => (acc.1, acc.2 ++ [e])
      | none => (acc.1 ++ [part.latency], acc.2)) acc =
      (acc.1 ++ recv.filterMap WarmupResponse.ok, acc.2 ++ recv.filterMap (·.err)) := by
  induction recv generalizing acc with
  | nil => simp
  | cons x recv ih =>
    obtain ⟨l, _ | e⟩ := x <;> simp [ih, WarmupResponse.ok]

theorem warmupCollect_eq (recv : List (WarmupResponse ε)) :
    warmupCollect recv = (recv.filterMap WarmupResponse.ok, recv.filterMap (·.err)) := by
  simpa using foldl_warmupCollect recv ([], [])

/-- Every response is a latency or an error. -/
theorem length_ok_add_length_err (recv : List (WarmupResponse ε)) :
    (recv.filterMap WarmupResponse.ok).length + (recv.filterMap (·.err)).length = recv.length := by
  induction recv with
  | nil => rfl
  | cons x recv ih =>
    obtain ⟨l, _ | e⟩ := x <;> simp [WarmupResponse.ok, List.filterMap_cons] <;> omega

/-- What a run of `WarmupList` ends with: the collector returned, each gate was
    warmed up once, the collector split the outcomes into the latencies of those
    without an error and the errors, one latency or one error per gate, each
    outcome the gate's response or the context's error, and `WarmupList`
    returns the latencies and `errors.Join` of the errors. -/
def WarmupListEnds (n : Nat) (ctxErr : Error ε) (s : St (WarmupResponse ε)) : Prop :=
  s.returned = true ∧ ∃ outs : List (WarmupResponse ε), outs.length = n ∧
    List.Forall₂ (fun e v => ∃ r, e.calls = [r] ∧ (v = r ∨ v = ⟨0, some ctxErr⟩)) s.elems outs ∧
    (warmupCollect s.recv).1 ~ outs.filterMap WarmupResponse.ok ∧
    (warmupCollect s.recv).2 ~ outs.filterMap (·.err) ∧
    (warmupCollect s.recv).1.length + (warmupCollect s.recv).2.length = n ∧
    warmupListResult n s =
      ((warmupCollect s.recv).1, errorsJoin ((warmupCollect s.recv).2.map some))

-- ---------------------------------------------------------------------------
-- Set.Shutdown and Set.Warmup
-- ---------------------------------------------------------------------------

/-- The groups of `Set.Shutdown` and `Set.Warmup`: a worker for the Tor map and
    one for the WireGuard map when they are not empty, each calling
    `ShutdownList` or `WarmupList` and sending its error on a channel of two. -/
def groupsCfg (tors wgs : Bool) : Config (Option (Error ε)) where
  n := (if tors then 1 else 0) + (if wgs then 1 else 0)
  cap := 2
  cancellable := false
  onCancel := none

/-- What `Set.Shutdown` and `Set.Warmup` return from their groups:
    `errors.Join` of `collectErrs(errc)`. -/
def groupsResult (s : St (Option (Error ε))) : Option (Error ε) :=
  errorsJoin ((collectErrs s.recv).map some)

/-- What a run of the groups ends with: the collector returned, each group's
    call was made once, `collectErrs` returned the non-nil group results, of
    which there are at most two, and the result is `errors.Join` of them. -/
def GroupsEnd (s : St (Option (Error ε))) : Prop :=
  s.returned = true ∧ ∃ outs : List (Option (Error ε)), outs.length ≤ 2 ∧
    List.Forall₂ (fun e v => e.calls = [v]) s.elems outs ∧
    collectErrs s.recv ~ outs.filterMap id ∧ groupsResult s = errorsJoin ((collectErrs s.recv).map some)

-- ---------------------------------------------------------------------------
-- Conservation
-- ---------------------------------------------------------------------------

/-- Fan-out conservation over every interleaving. No run of the fan-out of
    `ShutdownList`, `WarmupList` or the groups of `Set.Shutdown` and
    `Set.Warmup` is infinite; `ShutdownList` calls each gate's `close()` at most
    once in every state; and every run that no goroutine can extend ends as
    `ShutdownListEnds`, `WarmupListEnds` and `GroupsEnd` say. -/
theorem fan_out_conservation (n : Nat) (tors wgs c₀ : Bool) (ctxErr : Error ε) :
    (¬∃ f : Nat → St (Option (Error ε)),
      ∀ k, ∃ a, step (shutdownListCfg n ctxErr) (f k) a = some (f (k + 1))) ∧
    (¬∃ f : Nat → St (WarmupResponse ε),
      ∀ k, ∃ a, step (warmupListCfg n ctxErr) (f k) a = some (f (k + 1))) ∧
    (¬∃ f : Nat → St (Option (Error ε)),
      ∀ k, ∃ a, step (groupsCfg tors wgs) (f k) a = some (f (k + 1))) ∧
    (∀ s, Reachable (shutdownListCfg n ctxErr) c₀ s → ∀ e ∈ s.elems, e.calls.length ≤ 1) ∧
    (∀ s, Reachable (shutdownListCfg n ctxErr) c₀ s → Stuck (shutdownListCfg n ctxErr) s →
      ShutdownListEnds n ctxErr s) ∧
    (∀ s, Reachable (warmupListCfg n ctxErr) c₀ s → Stuck (warmupListCfg n ctxErr) s →
      WarmupListEnds n ctxErr s) ∧
    (∀ s : St (Option (Error ε)), Reachable (groupsCfg tors wgs) c₀ s →
      Stuck (groupsCfg tors wgs) s → GroupsEnd s) := by
  refine ⟨no_infinite_run _, no_infinite_run _, no_infinite_run _, fun s h => h.calls_length_le,
    fun s h hs => ?_, fun s h hs => ?_, fun s h hs => ?_⟩
  · obtain ⟨hr, outs, hl, hrecv, hall⟩ := h.stuck_outcomes le_rfl hs
    refine ⟨hr, outs, hl, hall.imp fun _ _ ⟨r, hc, hv⟩ => ⟨r, hc, hv.imp_right (·.2)⟩,
      by simpa [collectErrs_eq] using hrecv.filterMap id, ?_⟩
    unfold shutdownListResult
    split_ifs with hn
    · subst hn
      simp [collectErrs_eq, List.eq_nil_of_length_eq_zero (hrecv.length_eq.trans hl), errorsJoin]
    · rfl
  · obtain ⟨hr, outs, hl, hrecv, hall⟩ := h.stuck_outcomes le_rfl hs
    refine ⟨hr, outs, hl, hall.imp fun _ _ ⟨r, hc, hv⟩ => ⟨r, hc, hv.imp_right (·.2)⟩,
      ?_, ?_, ?_, ?_⟩
    · simpa [warmupCollect_eq] using hrecv.filterMap _
    · simpa [warmupCollect_eq] using hrecv.filterMap _
    · rw [warmupCollect_eq, length_ok_add_length_err, hrecv.length_eq, hl]; rfl
    · simp only [warmupListResult]
      split_ifs with hn hpos
      · subst hn
        simp [warmupCollect_eq, List.eq_nil_of_length_eq_zero (hrecv.length_eq.trans hl), errorsJoin]
      · rfl
      · simp [List.eq_nil_of_length_eq_zero (Nat.eq_zero_of_not_pos hpos), errorsJoin]
  · have hn : (if tors then 1 else 0) + (if wgs then 1 else 0) ≤ 2 := by
      cases tors <;> cases wgs <;> decide
    obtain ⟨hr, outs, hl, hrecv, hall⟩ := h.stuck_outcomes hn hs
    refine ⟨hr, outs, hl ▸ hn, hall.imp fun e v ⟨r, hc, hv⟩ => ?_,
      by simpa [collectErrs_eq] using hrecv.filterMap id, rfl⟩
    rcases hv with rfl | ⟨h, -⟩
    · exact hc
    · cases h

/-- One gate whose `close()` succeeds: its worker starts `shutdownOne`, whose
    goroutine calls `close()`; the worker takes the result, sends it and is done;
    the closer closes the channel; the collector receives the outcome and
    returns. -/
def oneGateRun : List (Act (Option (Error Unit))) :=
  [.start 0, .call 0 none, .take 0, .send 0, .done 0, .wait, .close, .recv, .exit]

/-- The state `oneGateRun` ends in. -/
def oneGateEnd : St (Option (Error Unit)) where
  elems := [⟨.done none, .ret none, [none]⟩]
  buf := []
  closed := true
  wg := 0
  closer := .done
  recv := [none]
  returned := true
  ctxDone := true

theorem fan_out_conservation_oneGate :
    Reachable (shutdownListCfg 1 (.base ())) false oneGateEnd ∧
      Stuck (shutdownListCfg 1 (.base ())) oneGateEnd ∧ ShutdownListEnds 1 (.base ()) oneGateEnd := by
  have hr : Reachable (shutdownListCfg 1 (.base ())) false oneGateEnd := ⟨oneGateRun, rfl⟩
  have hs : Stuck (shutdownListCfg 1 (.base ())) oneGateEnd :=
    hr.inv.stuck_of_finished rfl (by simp [oneGateEnd, Worker.isDone])
  exact ⟨hr, hs, (fan_out_conservation 1 false false false (.base ())).2.2.2.2.1 _ hr hs⟩

/-- With `ctx` done from the start the worker takes `ctx.Done()`, and
    `ShutdownList` returns before the gate's `close()` is called. -/
example : ((run (shutdownListCfg 1 (Error.base ())) (init (shutdownListCfg 1 (Error.base ())) true)
    [.start 0, .cancelled 0, .send 0, .done 0, .wait, .close, .recv, .exit]).map
      fun s => (s.returned, s.elems.map (·.calls.length))) = some (true, [0]) := rfl

end Pumpe.Gate.FanOut
