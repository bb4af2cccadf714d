import ClusterCensus.Log
import ClusterCensus.Ownership.Chain

/-!
# Enrichment

Enrichment gives every pod of a snapshot the owner at the top of its chain. Pods without an owner
and pods that a node runs by itself stay as they are, and so does everything but the pods' owners.
-/

namespace ClusterCensus

/-- A pod after enrichment, whether its owner changed, and what is logged about it. -/
structure Pod.Enriched where
  pod : Pod
  changed : Bool
  logs : List Log.Record

/-- The warning about a chain that was left before its end. -/
def Pod.overBudget (p : Pod) (o : OwnerRef) : Log.Record :=
  Log.Origin.ownership.warn "Ownership chain exceeded hop budget, keeping last resolved owner"
    [("pod", p.key), ("owner_kind", o.kind), ("owner_name", o.name), ("max_hops", maxOwnerHops)]

/-- The note that a pod was given another owner. -/
def Pod.reassigned (p : Pod) (old new : OwnerRef) : Log.Record :=
  Log.Origin.ownership.debug "Resolved top-level owner"
    [("pod", p.key), ("from_kind", old.kind), ("from_name", old.name), ("to_kind", new.kind),
      ("to_name", new.name)]

/-- Gives a pod the owner at the top of its chain. -/
def Pod.enrich (owners : Owners) (p : Pod) : Pod.Enriched :=
  match p.owner with
  | none => ⟨p, false, []⟩
  | some o =>
    if o.kind = OwnerRef.nodeKind then ⟨p, false, []⟩
    else
      let r := owners.resolve p.ns o
      let warnings := if r.complete then [] else [p.overBudget r.owner]
      if r.owner = o then ⟨p, false, warnings⟩
      else ⟨{ p with owner := some r.owner }, true, warnings ++ [p.reassigned o r.owner]⟩

/-- A snapshot after enrichment, how many pods changed, and what is logged. -/
structure Snapshot.Enriched where
  snapshot : Snapshot
  changed : Nat
  logs : List Log.Record

/-- Gives every pod the owner at the top of its chain. -/
def Snapshot.enrich (s : Snapshot) : Snapshot.Enriched :=
  let pods := s.pods.map (Pod.enrich (Owners.ofSnapshot s))
  { snapshot := s.replace .pods (pods.map (·.pod))
    changed := pods.countP (·.changed)
    logs := pods.flatMap (·.logs) }

end ClusterCensus
