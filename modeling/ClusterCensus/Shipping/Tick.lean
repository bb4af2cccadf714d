import ClusterCensus.Agent.Basic
import ClusterCensus.Ownership.Enrich
import ClusterCensus.Shipping.Sink

/-!
# Ticks

A tick is one attempt to ship a snapshot. The lifecycle decides whether it is made, and the answer
to it moves the lifecycle. The store is only read: owners are resolved in the copy.
-/

namespace ClusterCensus.Shipping

/-- What came of a tick. -/
inductive Outcome where
  | skipped (state : Lifecycle.State)
  | shipped (code ownersResolved : Nat)
  | failed
deriving DecidableEq, Repr

/-- What the clocks say during a tick: the wall clock when the copy is taken, the clock of the
lifecycle at its gate, again when the sink is done and once more when the lifecycle is shown in the
end, and the time that the copy took in seconds. -/
structure Reading where
  wallMs : Int
  gate : Instant
  settled : Instant
  shown : Instant
  buildSecs : Binary64

/-- A tick: what came of it, the agent after it, the snapshot that the sink was given, and what is
logged. -/
structure Tick where
  outcome : Outcome
  agent : Agent
  seen : Option Snapshot
  logs : List Log.Record

/-- The record of a tick that the lifecycle does not allow. -/
def skipping (status : Lifecycle.Status) : Log.Record :=
  Log.Origin.shipping.debug "Skipping snapshot"
    [("state", status.state.name),
      ("backoff_remaining_secs", status.backoffRemainingSecs.toNat)]

/-- The record of a snapshot that was not answered. -/
def shipFailed (f : Failure) : Log.Record :=
  Log.Origin.shipping.warn "Failed to ship snapshot" [("error", f.text)]

end ClusterCensus.Shipping

namespace ClusterCensus.Agent

open Shipping

/-- The snapshot that a sink is given. -/
def capture (a : Agent) (wallMs : Int) : Snapshot.Enriched := (a.store.snapshot wallMs).enrich

/-- The tick that the lifecycle does not allow. -/
def skip (a : Agent) (now : Instant) : Tick where
  outcome := .skipped (a.status now).state
  agent := { a with metrics := (a.metrics.setStore a.store).setLifecycle (a.status now) }
  seen := none
  logs := [skipping (a.status now)]

/-- The metrics once a snapshot is ready. -/
def captureMetrics (a : Agent) (changed : Nat) (buildSecs : Binary64) : Metrics :=
  ((a.metrics.setStore a.store).observeBuild buildSecs).addOwnersResolved (.ofNat changed)

/-- The lifecycle after a delivery. -/
def lifecycleAfter (a : Agent) (now : Instant) : Delivery → Lifecycle.Supervisor
  | .answered code hint => a.lifecycle.answer now code hint
  | .failed _ => a.lifecycle

/-- The outcome of a delivery. -/
def outcomeOf (changed : Nat) : Delivery → Outcome
  | .answered code _ => .shipped code changed
  | .failed _ => .failed

/-- The record of a delivery. -/
def deliveryLog (a : Agent) (items changed : Nat) : Delivery → Log.Record
  | .answered code _ => a.journal.shipped items changed code
  | .failed f => shipFailed f

/-- The tick that hands a snapshot to a sink. -/
def ship (a : Agent) (r : Reading) (sink : Sink) : Tick :=
  let c := a.capture r.wallMs
  let (delivery, sinkLogs) := sink c.snapshot
  let lifecycle := a.lifecycleAfter r.settled delivery
  let status := lifecycle.machine.status r.shown
  let captured := a.captureMetrics c.changed r.buildSecs
  let counted :=
    match delivery with
    | .answered code _ => captured.addShipped code
    | .failed _ => captured
  { outcome := outcomeOf c.changed delivery
    agent := { a with lifecycle, metrics := counted.setLifecycle status }
    seen := some c.snapshot
    logs := c.logs ++ sinkLogs ++ [a.deliveryLog c.snapshot.totalItems c.changed delivery] ++
      if status.state = a.lifecycle.machine.state then []
      else [a.journal.stateChanged a.lifecycle.machine.state status] }

/-- One attempt to ship a snapshot. -/
def tick (a : Agent) (r : Reading) (sink : Sink) : Tick :=
  if a.lifecycle.machine.canSend r.gate then a.ship r sink else a.skip r.shown

end ClusterCensus.Agent
