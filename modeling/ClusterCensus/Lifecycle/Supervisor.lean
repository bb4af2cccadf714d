import ClusterCensus.Lifecycle.Machine
import ClusterCensus.Log

/-!
# The callback for the end of support

The lifecycle together with the callback for the end of the agent's support. The backend announces
that end by a 410 answer; the callback is called after the lifecycle has moved, and may look at it.
-/

namespace ClusterCensus.Lifecycle

/-- A call of the callback: which one was registered, and the lifecycle that it saw. -/
structure CancelCall where
  callback : String
  seen : Machine
deriving DecidableEq, Repr

/-- A lifecycle, the callback registered last, and the calls made so far, the first one first. -/
structure Supervisor where
  machine : Machine
  callback : Option String
  calls : List CancelCall
deriving DecidableEq, Repr

namespace Supervisor

/-- A new lifecycle without a callback. -/
def initial : Supervisor := ⟨.initial, none, []⟩

instance : Inhabited Supervisor := ⟨initial⟩

/-- Registers a callback in the place of an older one. -/
def onCancel (s : Supervisor) (callback : String) : Supervisor :=
  { s with callback := some callback }

/-- What an answer of the backend brings about. -/
def answer (s : Supervisor) (now : Instant) (code hint : Nat) : Supervisor :=
  let m := s.machine.answer now code hint
  { s with
    machine := m
    calls := if code = 410 then s.calls ++ (s.callback.map (CancelCall.mk · m)).toList
      else s.calls }

/-- What an order brings about. -/
def order (s : Supervisor) (state : State) (reason : String) : Supervisor :=
  { s with machine := s.machine.order state reason }

/-- The record of an order. -/
def orderLog (s : Supervisor) (state : State) (reason : String) : Log.Record :=
  Log.Origin.lifecycle.info "Agent state transition"
    [("from", s.machine.state.name), ("to", state.name), ("reason", reason)]

end Supervisor

end ClusterCensus.Lifecycle
