import ClusterCensus.Lifecycle.State
import ClusterCensus.Metrics.Histogram
import ClusterCensus.Store.Basic

/-!
# Metrics

What the agent counts about itself. A gauge shows the last value that was set; one with a label for
each kind or state is not there before it was set. A counter only grows. The counters that grow by
given numbers go round at 64 bits; those that grow by one at a time have no bound here, since none
would be reached.
-/

namespace ClusterCensus

/-- The gauges, counters and the histogram. Each kind of records has gauges of its own, and so has
each state of the lifecycle. -/
structure Metrics where
  storeItems : Kind → Option Nat
  storeUpdatedSecs : Kind → Option Int
  collectorsRegistered : Int64
  startFailures : UInt64
  ownersResolved : UInt64
  buildSeconds : Metrics.Histogram
  shipped : SortedMap Nat
  stateGauge : Lifecycle.State → Option Int
  backoffSecs : UInt64

namespace Metrics

/-- The metrics of an agent that has done nothing yet. No kind and no state has a gauge then. -/
def initial : Metrics where
  storeItems := fun _ => none
  storeUpdatedSecs := fun _ => none
  collectorsRegistered := 0
  startFailures := 0
  ownersResolved := 0
  buildSeconds := .empty Bound.buildSeconds
  shipped := ∅
  stateGauge := fun _ => none
  backoffSecs := 0

instance : Inhabited Metrics := ⟨initial⟩

/-- Shows what a store holds. -/
def setStore (m : Metrics) (s : Store) : Metrics :=
  { m with
    storeItems := fun k => some (s.count k)
    storeUpdatedSecs := fun k => some (s.updatedMs k / 1000) }

/-- Shows a lifecycle. -/
def setLifecycle (m : Metrics) (status : Lifecycle.Status) : Metrics :=
  { m with
    stateGauge := fun s => some (if s = status.state then 1 else 0)
    backoffSecs := status.backoffRemainingSecs }

/-- Shows the number of registered collectors. -/
def setCollectors (m : Metrics) (n : UInt64) : Metrics :=
  { m with collectorsRegistered := n.toInt64 }

/-- Counts collectors that failed to start. -/
def addStartFailures (m : Metrics) (n : UInt64) : Metrics :=
  { m with startFailures := m.startFailures + n }

/-- Counts pods that were given another owner. -/
def addOwnersResolved (m : Metrics) (n : UInt64) : Metrics :=
  { m with ownersResolved := m.ownersResolved + n }

/-- Adds the time that a snapshot took to build, in seconds. -/
def observeBuild (m : Metrics) (secs : Binary64) : Metrics :=
  { m with buildSeconds := m.buildSeconds.observe secs }

/-- The number of snapshots answered with a code. -/
def shippedWith (m : Metrics) (code : Nat) : Nat := (m.shipped.get? (toString code)).getD 0

/-- Counts a snapshot that was answered with a code. -/
def addShipped (m : Metrics) (code : Nat) : Metrics :=
  { m with shipped := m.shipped.insert (toString code) (m.shippedWith code + 1) }

end Metrics

end ClusterCensus
