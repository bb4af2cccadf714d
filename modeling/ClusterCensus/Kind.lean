import ClusterCensus.Json.Decode

/-!
# Kinds of resources

The kinds of cluster resources of which a census is kept, in their fixed order, and the shape of the
records of each kind.
-/

namespace ClusterCensus

/-- A kind of cluster resource. -/
inductive Kind where
  | nodes
  | pods
  | namespaces
  | deployments
  | statefulSets
  | daemonSets
  | replicaSets
  | jobs
  | cronJobs
  | customWorkloads
  | horizontalAutoscalers
  | verticalAutoscalers
  | disruptionBudgets
  | services
  | ingresses
  | persistentVolumes
  | persistentVolumeClaims
  | storageClasses
  | priorityClasses
  | limitRanges
  | resourceQuotas
  | nodePools
deriving DecidableEq, Repr

namespace Kind

/-- Every kind, in the fixed order. -/
def all : List Kind :=
  [nodes, pods, namespaces, deployments, statefulSets, daemonSets, replicaSets, jobs, cronJobs,
    customWorkloads, horizontalAutoscalers, verticalAutoscalers, disruptionBudgets, services,
    ingresses, persistentVolumes, persistentVolumeClaims, storageClasses, priorityClasses,
    limitRanges, resourceQuotas, nodePools]

theorem mem_all (k : Kind) : k ∈ all := by
  cases k <;> decide

theorem nodup_all : all.Nodup := by
  decide

/-- The place of a kind in the fixed order. -/
def index (k : Kind) : Nat := all.idxOf k

/-- The sum of a count over all kinds. -/
def sum (count : Kind → Nat) : Nat := all.foldr (fun k n => count k + n) 0

/-- The words of a kind's name. -/
def words : Kind → List String
  | nodes => ["nodes"]
  | pods => ["pods"]
  | namespaces => ["namespaces"]
  | deployments => ["deployments"]
  | statefulSets => ["stateful", "sets"]
  | daemonSets => ["daemon", "sets"]
  | replicaSets => ["replica", "sets"]
  | jobs => ["jobs"]
  | cronJobs => ["cron", "jobs"]
  | customWorkloads => ["custom", "workloads"]
  | horizontalAutoscalers => ["horizontal", "autoscalers"]
  | verticalAutoscalers => ["vertical", "autoscalers"]
  | disruptionBudgets => ["disruption", "budgets"]
  | services => ["services"]
  | ingresses => ["ingresses"]
  | persistentVolumes => ["persistent", "volumes"]
  | persistentVolumeClaims => ["persistent", "volume", "claims"]
  | storageClasses => ["storage", "classes"]
  | priorityClasses => ["priority", "classes"]
  | limitRanges => ["limit", "ranges"]
  | resourceQuotas => ["resource", "quotas"]
  | nodePools => ["node", "pools"]

/-- The name of a kind in records and metrics. -/
def name (k : Kind) : String := String.intercalate "_" k.words

/-- The name of a kind as a heading. -/
def title (k : Kind) : String := String.join (k.words.map String.capitalize)

/-- The choices of a field that names a kind. -/
def choices : List (String × Kind) := all.map fun k => (k.name, k)

/-- A kind by its name. -/
def decode : Decoder Kind := Json.decodeChoice choices

end Kind

/-- What a record of a kind holds. -/
inductive Shape where
  | node
  | pod
  | ns
  | workload
  | replicaSet
  | job
  | resource
deriving DecidableEq, Repr

/-- The shape of the records of a kind. -/
def Kind.shape : Kind → Shape
  | .nodes => .node
  | .pods => .pod
  | .namespaces => .ns
  | .deployments | .statefulSets | .daemonSets | .cronJobs | .customWorkloads => .workload
  | .replicaSets => .replicaSet
  | .jobs => .job
  | _ => .resource

end ClusterCensus
