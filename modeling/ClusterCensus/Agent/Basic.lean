import ClusterCensus.Health.Probe
import ClusterCensus.Health.Registry
import ClusterCensus.Lifecycle.Supervisor
import ClusterCensus.Log.Journal
import ClusterCensus.Metrics.Basic

/-!
# The agent

An agent is what it holds of the cluster, where it is in its lifecycle, and what it knows about
itself: the health of its components and its metrics, both of which it can derive anew from the
rest.
-/

namespace ClusterCensus

/-- An agent on a node. A kind of records counts as stale after the threshold. -/
structure Agent where
  node : String
  staleAfter : Span
  store : Store
  lifecycle : Lifecycle.Supervisor
  health : Health.Registry
  metrics : Metrics

namespace Agent

/-- An agent that has done nothing yet. -/
def initial (node : String) (staleAfter : Span) : Agent :=
  ⟨node, staleAfter, .empty, .initial, .empty, .initial⟩

/-- The agent's journal. -/
def journal (a : Agent) : Journal := ⟨a.node⟩

/-- The lifecycle as it is shown to operators. -/
def status (a : Agent) (now : Instant) : Lifecycle.Status := a.lifecycle.machine.status now

/-- Derives the health of the store and of the backend link from the agent itself. -/
def refresh (a : Agent) (wallMs : Int) (now : Instant) : Agent :=
  let store := Health.ofStore a.store a.staleAfter wallMs wallMs
  let backend := Health.ofLifecycle (a.status now) wallMs
  { a with
    health := (a.health.update Health.storeName store).update Health.backendName backend }

/-- Shows the agent as it is in its metrics. -/
def showMetrics (a : Agent) (now : Instant) : Agent :=
  { a with metrics := (a.metrics.setStore a.store).setLifecycle (a.status now) }

end Agent

end ClusterCensus
