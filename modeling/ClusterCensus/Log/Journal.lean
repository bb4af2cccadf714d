import ClusterCensus.Lifecycle.State
import ClusterCensus.Log
import ClusterCensus.Text.Quoted

/-!
# The journal

The journal is made of the records about the agent as a whole. Each names its event and the node
that the agent runs on.
-/

namespace ClusterCensus

/-- The journal of the agent on a node. -/
structure Journal where
  node : String
deriving DecidableEq, Repr

namespace Journal

/-- A record of an event. -/
def entry (j : Journal) (level : Log.Level) (message event : String)
    (fields : List (String × Log.Value)) : Log.Record :=
  ⟨.journal, level, message, ("event", event) :: ("node", j.node) :: fields⟩

/-- The agent has started. -/
def started (j : Journal) (version : String) (collectors : Nat) : Log.Record :=
  j.entry .info "Cluster agent started" "agent_started"
    [("agent_version", version), ("collectors", collectors)]

/-- The agent is going to end. -/
def stopping (j : Journal) (reason : String) : Log.Record :=
  j.entry .info "Cluster agent shutting down" "agent_shutdown" [("reason", reason)]

/-- The collectors were started, all but some of them. -/
def collectorsStarted (j : Journal) (total : Nat) (failed : List String) : Log.Record :=
  if failed = [] then j.entry .info "Collectors started" "collectors_started" [("total", total)]
  else
    j.entry .warn "Some collectors failed to start, running degraded" "collector_start_failed"
      [("total", total), ("failed", Text.quotedList failed)]

/-- An answer of the backend has moved the lifecycle from a state to where it is now. -/
def stateChanged (j : Journal) (source : Lifecycle.State) (now : Lifecycle.Status) : Log.Record :=
  match now.state with
  | .running | .starting =>
    j.entry .info "Agent state changed" "state_transition"
      [("from", source.name), ("to", now.state.name)]
  | _ =>
    j.entry .warn "Agent state changed" "state_transition"
      [("from", source.name), ("to", now.state.name), ("reason", now.reason),
        ("backoff_remaining_secs", now.backoffRemainingSecs.toNat)]

/-- A snapshot was delivered. -/
def shipped (j : Journal) (items ownersResolved code : Nat) : Log.Record :=
  j.entry .info "Snapshot shipped" "snapshot_shipped"
    [("items", items), ("owners_resolved", ownersResolved), ("status", code)]

end Journal

end ClusterCensus
