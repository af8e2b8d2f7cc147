-- SUMMARY: The gate `Set` as a shared state with the goroutines that act on it: gates, kind maps, latches, ghost fields, and program counters.
import Pumpe.Model.Set
import Pumpe.Gate.State

/-!
# The gate set and its goroutines

The `Set` of `gate/gate.go` is shared by the proxy requests of `service/pumpe.go`
and the management calls. It is modelled as one state record together with the
goroutines running on it, each at a program point. A program point is named by
the shared-memory operation the goroutine performs next; every such operation
(an atomic load or swap, a mutex-guarded method of `gateState` or of
`model.Set`, a channel close) is one step. Timeouts, cancellations, random
numbers and the outcome of device calls are not modelled: the step that waits
on them takes a non-deterministic choice instead.

A gate pointer is identified with the gate's id. The Tor and WireGuard maps are
keyed by `gt.id` with `gt` as value; `Sys.Wf` records that every reachable
state keeps them so.

Three fields of `ExitGate` and two of `Sys` are ghost: no step reads them, and they
record the history the laws of the later modules speak about.
-/

namespace Pumpe.Gate

/-- A gate object (`exitGateExt`): `baseGate` with the `refreshing` flag of `Tor`,
    and ghost fields. -/
structure ExitGate where
  kind : Kind
  cell : GateState
  refreshing : Bool
  /-- Ghost: the number of drains `forState` has begun on the gate. -/
  epoch : Nat
  /-- Ghost: some `resetReqs` zeroed the counter while a request was in flight. -/
  lost : Bool
  /-- Ghost: the last insertion into the gate's kind map came after the latch closed. -/
  late : Bool
  deriving DecidableEq, Repr

/-- `newBaseGateID`, with `refreshing` clear: a fresh gate of kind `k`. -/
def ExitGate.new (k : Kind) : ExitGate := ⟨k, GateState.new, false, 0, false, false⟩

/-- The fields of `SetConfig` the modelled code reads. The timeouts and delays are
    not here: a timeout is a choice of the step that waits for it. -/
structure SetConfig where
  default : Kind
  randomiseKinds : Bool
  torMax : Int
  deriving DecidableEq, Repr

/-- `pickRandomKind`. The argument is `rand.Int()`, which is never negative. -/
def pickRandomKind (n : Nat) : Kind := if n % 2 = 0 then .tor else .wireGuard

/-- `Set.kindOrDefaultN`. -/
def SetConfig.kindOrDefaultN (c : SetConfig) (n : Nat) : Kind :=
  if !c.randomiseKinds then c.default else pickRandomKind n

-- ---------------------------------------------------------------------------
-- Goroutines
-- ---------------------------------------------------------------------------

/-- How `pickDialer` finds the gate: the `Proxy-Pumpe-Gate-Id` header (`ByID`),
    the `Proxy-Pumpe-Gate-Type` header (`ByKind`), or neither (`Random`, with the
    draw of `rand.Int()`). A request whose id header does not parse never reaches
    the set. -/
inductive Sel
  | byID (id : Nat)
  | byKind (k : Kind)
  | random (n : Nat)
  deriving DecidableEq, Repr

/-- A proxy request (`HandleHTTP`, `HandleConnect`). `e` is the ghost drain epoch
    the request read when its gate passed the readiness check. -/
inductive Req
  | pickDialer (sel : Sel)
  /-- loop head of `byKindReady`: the `isShutting` check -/
  | byKindReady (k : Kind)
  /-- the random pick of `byKind` -/
  | byKind (k : Kind)
  /-- `isReady` on the picked gate, for `ByID` (`none`) or `byKindReady` -/
  | isReady (g : Nat) (k : Option Kind)
  | addReq (g e : Nat)
  /-- in flight on `g`: dialing or forwarding, `DidReq` deferred -/
  | didReq (g e : Nat)
  | done
  deriving DecidableEq, Repr

/-- `RefreshOne` and `CloseOne`. -/
inductive Op
  | refreshOne
  | closeOne
  deriving DecidableEq, Repr

/-- The state `forState` drains to: `stateMaintenance` for a refresh, `stateClosed`
    for a close. -/
def Op.target : Op → State
  | .refreshOne => .maintenance
  | .closeOne => .closed

/-- A management call `RefreshOne` or `CloseOne` on gate `g`. `orig` is `origst`
    of `forState`, `e` the ghost epoch of its drain; `restore` tells the
    restore of a timed-out drain from the re-admission after a refresh. -/
inductive Mgmt
  /-- the Direct-id guard and `byID` (with `RefreshOne`'s kind check) -/
  | byID (op : Op) (id : Nat)
  | getState (op : Op) (g : Nat)
  /-- `gt.toState(st)` at the start of `forState` -/
  | toState (op : Op) (g : Nat) (orig : State)
  | remove (op : Op) (g : Nat) (orig : State) (e : Nat)
  | isShutting (op : Op) (g : Nat) (orig : State) (e : Nat)
  /-- `noReqs`, then the wait on the ticker or the deadline -/
  | noReqs (op : Op) (g : Nat) (orig : State) (e : Nat)
  /-- `refreshOne` waits on the device goroutine `tid`, or on the context -/
  | refreshOne (g e tid : Nat)
  /-- `Set.toState(gt, st)`: its three steps -/
  | resetReqs (op : Op) (g : Nat) (st : State) (restore : Bool)
  | setState (op : Op) (g : Nat) (st : State) (restore : Bool)
  | setMap (op : Op) (g : Nat) (restore : Bool)
  | done
  deriving DecidableEq, Repr

/-- The goroutine of `refreshOne` or `shutdownOne` that calls into the device.
    `src` is the ghost epoch of the drain of the `CloseOne` that started it, or
    `none` for a close started by `Shutdown`. -/
inductive Dev
  /-- `refresh()` is called: the swap on `refreshing` -/
  | refresh (g e : Nat)
  /-- `Tor.refresh` holds `refreshing`: `NEWNYM`, then the deferred store -/
  | signal (g : Nat)
  | close (g : Nat) (src : Option Nat)
  | done (ok : Bool)
  deriving DecidableEq, Repr

/-- `Set.New`. -/
inductive New
  /-- the kind check and `isShutting` -/
  | start (k : Kind)
  | len
  /-- the Tor factory -/
  | factory
  | setMap (g : Nat)
  | done
  deriving DecidableEq, Repr

/-- `Set.Shutdown`. -/
inductive Shutdown
  | once
  /-- `closeOrSkip(s.shutting)` -/
  | latch
  /-- `ShutdownList` over `s.tgs.Values()`, then over `s.wgs.Values()` -/
  | tors
  | wgs
  /-- `collectErrs`, which returns when every group returned -/
  | collect
  /-- a later caller, blocked in `onceShut.Do` until the first returns -/
  | blocked
  | done
  deriving DecidableEq, Repr

/-- `Set.Warmup`; the warm-up requests themselves touch no modelled state. -/
inductive Warmup
  | isShutting
  | swap
  | run
  | done
  deriving DecidableEq, Repr

/-- A goroutine at a program point. -/
inductive Thread
  | req (r : Req)
  | mgmt (m : Mgmt)
  | dev (d : Dev)
  | new (n : New)
  | shutdown (s : Shutdown)
  | warmup (w : Warmup)
  deriving DecidableEq, Repr

/-- A call into the package: a proxy request, or an operation of `Set`. `ByID`,
    `ByKind`, `Random` and `GateIDs` called on their own only read. -/
inductive Api
  | handle (sel : Sel)
  | refreshOne (id : Nat)
  | closeOne (id : Nat)
  | new (k : Kind)
  | shutdown
  | warmup
  deriving DecidableEq, Repr

/-- The goroutine a call starts. -/
def Api.thread : Api → Thread
  | .handle sel => .req (.pickDialer sel)
  | .refreshOne id => .mgmt (.byID .refreshOne id)
  | .closeOne id => .mgmt (.byID .closeOne id)
  | .new k => .new (.start k)
  | .shutdown => .shutdown .once
  | .warmup => .warmup .isShutting

/-- A device call: `refresh()` or `close()` on a gate. -/
inductive Invocation
  | refresh (g : Nat)
  | close (g : Nat)
  deriving DecidableEq, Repr

/-- A request in flight on `g`: between `AddReq` and `DidReq`. -/
def Thread.serves (g : Nat) : Thread → Bool
  | .req (.didReq h _) => h == g
  | _ => false

-- ---------------------------------------------------------------------------
-- The shared state
-- ---------------------------------------------------------------------------

/-- The `Set` with the goroutines running on it. `gates` is the heap of gate
    objects by id; an id no gate has is mapped to a gate of kind `unknown`. -/
structure Sys where
  cfg : SetConfig
  drt : Nat
  gates : Nat → ExitGate
  tgs : Model.Set Nat Nat
  wgs : Model.Set Nat Nat
  /-- `onceShut` has started its function -/
  once : Bool
  /-- the `shutting` channel is closed -/
  shutting : Bool
  /-- the function of `onceShut` has returned -/
  shutDone : Bool
  warming : Bool
  threads : List Thread
  /-- Ghost: the Tor and WireGuard gates made so far. -/
  born : List Nat
  /-- Ghost: the device calls made so far, oldest first. -/
  log : List Invocation

namespace Sys

/-- The requests in flight on `g`. -/
def inFlight (s : Sys) (g : Nat) : Nat := s.threads.countP (Thread.serves g)

/-- Apply `f` to the gate `g`. -/
def modify (s : Sys) (g : Nat) (f : ExitGate → ExitGate) : Sys :=
  { s with gates := Function.update s.gates g (f (s.gates g)) }

/-- The `Remove` of `forState`, on the map of the gate's kind. -/
def remove (s : Sys) (g : Nat) : Sys :=
  { s with
    tgs := if (s.gates g).kind = .tor then s.tgs.remove g else s.tgs
    wgs := if (s.gates g).kind = .wireGuard then s.wgs.remove g else s.wgs }

/-- The `Set` of `Set.toState` and of `New`, on the map of the gate's kind (the
    type switch of `Set.toState`); the ghost `late` records whether the latch
    had closed. -/
def insert (s : Sys) (g : Nat) : Sys :=
  let k := (s.gates g).kind
  { s with
    gates := if k = .tor ∨ k = .wireGuard
      then Function.update s.gates g { s.gates g with late := s.shutting } else s.gates
    tgs := if k = .tor then s.tgs.set g g else s.tgs
    wgs := if k = .wireGuard then s.wgs.set g g else s.wgs }

/-- `Set.byID`. -/
def byID (s : Sys) (id : Nat) : Option Nat :=
  if id = s.drt then some s.drt
  else
    match s.tgs.get id with
    | some g => some g
    | none => s.wgs.get id

/-- `Set.ByID`: `byID`, then the readiness check. The errors are the `model.Error`
    strings of the source. -/
def ByID (s : Sys) (id : Nat) : Except String Nat :=
  match s.byID id with
  | none => .error "gate: gate not found"
  | some g => if (s.gates g).cell.isReady then .ok g else .error "gate: gate not ready"

/-- `ByKind` for the Direct kind returns the Direct gate at once; any other kind
    enters `byKindReady`. -/
def byKindStart (s : Sys) (k : Kind) : Req :=
  if k = .direct then .addReq s.drt (s.gates s.drt).epoch else .byKindReady k

/-- `model.Set.Random` in `byKind`, with the draw `lim`: no gate on an empty map,
    and no step for a draw outside `[0, Len)`, which `rand.IntN` never makes. -/
def pick (m : Model.Set Nat Nat) (k : Kind) (lim : Nat) : Option Req :=
  if m.len = 0 then some .done
  else if lim < m.len then some (.isReady (m.random m.entries lim).1 (some k))
  else none

/-- `Set.byKind`, with the draw of its `Random`: where the request goes next. -/
def byKind (s : Sys) (k : Kind) (lim : Nat) : Option Req :=
  match k with
  | .direct => some (.isReady s.drt (some k))
  | .tor => pick s.tgs k lim
  | .wireGuard => pick s.wgs k lim
  | .unknown => some .done

end Sys

end Pumpe.Gate
