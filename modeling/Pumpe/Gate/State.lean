-- SUMMARY: Gate kinds, the three-valued gate state with its compare-and-swap transitions, and the in-flight counter cell.
import Mathlib.Data.List.Nodup

/-!
# The gate state cell

`gateState` (`gate/gate.go`) is the per-gate cell: an atomic state word moved by
compare-and-swap, and an in-flight counter under a small mutex. Each method is
one atomic step. An illegal transition is a failed swap, which the source
ignores, so every transition below is total and leaves the state alone where
the swap fails.
-/

namespace Pumpe.Gate

/-- `Kind`. A Go `Kind` is any string; every string other than the three gate
    kinds behaves as `KindUnknown` in the package's switches, so it is folded
    into `unknown`. -/
inductive Kind
  | unknown
  | direct
  | tor
  | wireGuard
  deriving DecidableEq, Repr

/-- `state`: `stateReady`, `stateMaintenance`, `stateClosed`. -/
inductive State
  | ready
  | maintenance
  | closed
  deriving DecidableEq, Repr

namespace State

/-- `gateState.toReady`: swap `stateMaintenance` for `stateReady`. -/
def toReady : State → State
  | .maintenance => .ready
  | st => st

/-- `gateState.toMaint`: swap `stateReady` for `stateMaintenance`. -/
def toMaint : State → State
  | .ready => .maintenance
  | st => st

/-- `gateState.toClosed`: swap `stateReady`, then `stateMaintenance`, for `stateClosed`. -/
def toClosed : State → State
  | .ready => .closed
  | .maintenance => .closed
  | st => st

/-- `baseGate.toState`: the transition named by the target `st`, applied to `cur`. -/
def toState (cur st : State) : State :=
  match st with
  | .ready => cur.toReady
  | .maintenance => cur.toMaint
  | .closed => cur.toClosed

/-- `stateClosed` is terminal: no transition leaves it. -/
@[simp] theorem closed_toState (st : State) : closed.toState st = closed := by
  cases st <;> rfl

/-- A transition ends in `stateReady` only when it targets it from a state other
    than `stateClosed`, or targets anything from `stateReady` without moving. -/
theorem toState_eq_ready {cur st : State} (h : cur.toState st = ready) :
    cur ≠ closed ∧ (st = ready ∨ cur = ready) := by
  cases cur <;> cases st <;> simp_all [toState, toReady, toMaint, toClosed]

/-- Moving to `stateMaintenance` or `stateClosed` never yields `stateReady`. -/
theorem toState_ne_ready {cur st : State} (hst : st ≠ ready) : cur.toState st ≠ ready := by
  cases cur <;> cases st <;> simp_all [toState, toReady, toMaint, toClosed]

/-- A close always ends in `stateClosed`. -/
@[simp] theorem toState_closed (cur : State) : cur.toState .closed = closed := by
  cases cur <;> rfl

/-- A transition whose target is the current state leaves it there. -/
@[simp] theorem toState_self (st : State) : st.toState st = st := by
  cases st <;> rfl

end State

/-- `gateState`: the state word and the in-flight counter `nreq`. -/
structure GateState where
  state : State
  nreq : Nat
  deriving DecidableEq, Repr

namespace GateState

/-- `newGateState`: `stateReady` (the zero word) and no request in flight. -/
def new : GateState := ⟨.ready, 0⟩

/-- `gateState.addReq`. -/
def addReq (c : GateState) : GateState := { c with nreq := c.nreq + 1 }

/-- `gateState.didReq`: the guard `nreq > 0` is Nat's truncated subtraction. -/
def didReq (c : GateState) : GateState := { c with nreq := c.nreq - 1 }

/-- `gateState.resetReqs`. -/
def resetReqs (c : GateState) : GateState := { c with nreq := 0 }

/-- `gateState.noReqs`. -/
def noReqs (c : GateState) : Bool := c.nreq == 0

/-- `baseGate.isReady`. -/
def isReady (c : GateState) : Bool := c.state == .ready

/-- `baseGate.toState`. -/
def toState (c : GateState) (st : State) : GateState := { c with state := c.state.toState st }

@[simp] theorem addReq_state (c : GateState) : c.addReq.state = c.state := rfl
@[simp] theorem didReq_state (c : GateState) : c.didReq.state = c.state := rfl
@[simp] theorem resetReqs_state (c : GateState) : c.resetReqs.state = c.state := rfl
@[simp] theorem toState_state (c : GateState) (st : State) :
    (c.toState st).state = c.state.toState st := rfl
@[simp] theorem addReq_nreq (c : GateState) : c.addReq.nreq = c.nreq + 1 := rfl
@[simp] theorem didReq_nreq (c : GateState) : c.didReq.nreq = c.nreq - 1 := rfl
@[simp] theorem resetReqs_nreq (c : GateState) : c.resetReqs.nreq = 0 := rfl
@[simp] theorem toState_nreq (c : GateState) (st : State) : (c.toState st).nreq = c.nreq := rfl
@[simp] theorem noReqs_iff (c : GateState) : c.noReqs = true ↔ c.nreq = 0 := by simp [noReqs]
@[simp] theorem isReady_iff (c : GateState) : c.isReady = true ↔ c.state = .ready := by
  simp [isReady]

end GateState

end Pumpe.Gate
