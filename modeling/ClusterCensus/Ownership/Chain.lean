import ClusterCensus.Snapshot

/-!
# Chains of owners

A pod names the object that controls it directly, which is often an intermediate one: a replica set
of a deployment, a job of a cron job. From an owner one climbs to its own owner as long as a record
tells which that is, and at most ten times.
-/

namespace ClusterCensus

/-- The records through which one climbs, by key. -/
structure Owners where
  replicaSets : SortedMap ReplicaSet
  jobs : SortedMap Job

namespace Owners

/-- The records of two lists, a later one in the place of an earlier one with the same key. -/
def ofRecords (replicaSets : List ReplicaSet) (jobs : List Job) : Owners :=
  ⟨.ofList (replicaSets.map fun r => (r.key, r)), .ofList (jobs.map fun j => (j.key, j))⟩

/-- The records of a snapshot. -/
def ofSnapshot (s : Snapshot) : Owners := ofRecords s.replicaSets s.jobs

/-- The owner of an owner: of a replica set the one in its record, of a job the cron job that
started it. Of anything else, and where there is no record, none. -/
def parent (owners : Owners) (ns : String) (o : OwnerRef) : Option OwnerRef :=
  if o.kind = OwnerRef.replicaSetKind then
    (owners.replicaSets.get? (objectKey (some ns) o.name)).bind (·.owner)
  else if o.kind = OwnerRef.jobKind then
    ((owners.jobs.get? (objectKey (some ns) o.name)).bind (·.cronJob)).map fun c =>
      ⟨OwnerRef.cronJobKind, c, ""⟩
  else none

end Owners

/-- The most owners that are climbed from for one pod. -/
def maxOwnerHops : Nat := 10

/-- Where climbing ended, and whether it ended because there was nothing further to climb to. -/
structure Resolution where
  owner : OwnerRef
  complete : Bool
deriving DecidableEq

/-- Climbs at most a number of times. -/
def climb (parent : OwnerRef → Option OwnerRef) : Nat → OwnerRef → Resolution
  | 0, o => ⟨o, false⟩
  | hops + 1, o =>
    match parent o with
    | some p => climb parent hops p
    | none => ⟨o, true⟩

/-- Climbs from the owner of a pod in a namespace. -/
def Owners.resolve (owners : Owners) (ns : String) (o : OwnerRef) : Resolution :=
  climb (owners.parent ns) maxOwnerHops o

end ClusterCensus
