import ClusterCensus.Json.Value
import ClusterCensus.SortedMap

/-!
# Records

The records kept of cluster objects. Only the fields that the agent itself looks at are typed; what
else a resource holds rides along as it came.
-/

namespace ClusterCensus

/-- Labels of an object. -/
abbrev Labels := SortedMap String

/-- The key of an object: its namespace and name, or the name alone where there is no namespace. -/
def objectKey (ns : Option String) (name : String) : String :=
  match ns with
  | some ns => if ns = "" then name else ns ++ "/" ++ name
  | none => name

/-- A reference to the object that controls another one. -/
structure OwnerRef where
  kind : String
  name : String
  uid : String
deriving DecidableEq

namespace OwnerRef

/-- The owner kind of pods that a node runs by itself. -/
def nodeKind : String := "Node"

/-- The owner kind of pods of a replica set. -/
def replicaSetKind : String := "ReplicaSet"

/-- The owner kind of pods of a job. -/
def jobKind : String := "Job"

/-- The kind of owner that jobs are started by. -/
def cronJobKind : String := "CronJob"

end OwnerRef

/-- A pod. -/
structure Pod where
  name : String
  ns : String
  uid : String
  nodeName : Option String
  phase : String
  owner : Option OwnerRef
  labels : Labels
  cpuRequestMillicores : UInt64
  memoryRequestBytes : UInt64
deriving DecidableEq

/-- A replica set. -/
structure ReplicaSet where
  name : String
  ns : String
  uid : String
  replicas : Int32
  owner : Option OwnerRef
deriving DecidableEq

/-- A job, and the cron job that started it, if one did. -/
structure Job where
  name : String
  ns : String
  uid : String
  owner : Option OwnerRef
  cronJob : Option String
  succeeded : Int32
  failed : Int32
deriving DecidableEq

/-- A node. -/
structure Node where
  name : String
  uid : String
  ready : Bool
  nodePool : Option String
  cpuCapacityMillicores : UInt64
  memoryCapacityBytes : UInt64
  cpuAllocatableMillicores : UInt64
  memoryAllocatableBytes : UInt64
  labels : Labels
deriving DecidableEq

/-- A namespace. -/
structure Namespace where
  name : String
  uid : String
  phase : String
  labels : Labels
deriving DecidableEq

/-- A controller of pods: a deployment, a stateful set and the like. -/
structure Workload where
  kind : String
  name : String
  ns : String
  uid : String
  desiredReplicas : Option Int32
  readyReplicas : Option Int32
  labels : Labels
deriving DecidableEq

/-- An object whose content is passed through. -/
structure Resource where
  name : String
  ns : Option String
  uid : String
  labels : Labels
  data : Json

/-- The key of a pod. -/
def Pod.key (p : Pod) : String := objectKey (some p.ns) p.name

/-- The key of a replica set. -/
def ReplicaSet.key (r : ReplicaSet) : String := objectKey (some r.ns) r.name

/-- The key of a job. -/
def Job.key (j : Job) : String := objectKey (some j.ns) j.name

/-- The key of a workload. -/
def Workload.key (w : Workload) : String := objectKey (some w.ns) w.name

/-- The key of a resource. -/
def Resource.key (r : Resource) : String := objectKey r.ns r.name

end ClusterCensus
