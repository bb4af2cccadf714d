import ClusterCensus.Kind
import ClusterCensus.Record.Codec

/-!
# The records of each kind

The record type of each kind, so that what holds of all kinds can be said once.
-/

namespace ClusterCensus

/-- The records of a shape. -/
abbrev Shape.Record : Shape → Type
  | .node => Node
  | .pod => Pod
  | .ns => Namespace
  | .workload => Workload
  | .replicaSet => ReplicaSet
  | .job => Job
  | .resource => Resource

namespace Shape

/-- The written form of a record. -/
def encode : (s : Shape) → s.Record → Json
  | .node => Node.encode
  | .pod => Pod.encode
  | .ns => Namespace.encode
  | .workload => Workload.encode
  | .replicaSet => ReplicaSet.encode
  | .job => Job.encode
  | .resource => Resource.encode

/-- Reads a record. -/
def decode : (s : Shape) → Decoder s.Record
  | .node => Node.decode
  | .pod => Pod.decode
  | .ns => Namespace.decode
  | .workload => Workload.decode
  | .replicaSet => ReplicaSet.decode
  | .job => Job.decode
  | .resource => Resource.decode

/-- The key of a record. Nodes and namespaces belong to the whole cluster. -/
def key : (s : Shape) → s.Record → String
  | .node, n => n.name
  | .pod, p => p.key
  | .ns, n => n.name
  | .workload, w => w.key
  | .replicaSet, r => r.key
  | .job, j => j.key
  | .resource, r => r.key

end Shape

/-- The records of a kind. -/
abbrev Kind.Entry (k : Kind) : Type := k.shape.Record

/-- The written form of a record of a kind. -/
def Kind.encodeEntry (k : Kind) (e : k.Entry) : Json := k.shape.encode e

/-- Reads a record of a kind. -/
def Kind.decodeEntry (k : Kind) : Decoder k.Entry := k.shape.decode

/-- The key of a record of a kind. -/
def Kind.entryKey (k : Kind) (e : k.Entry) : String := k.shape.key e

end ClusterCensus
