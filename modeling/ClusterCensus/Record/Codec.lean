import ClusterCensus.Json.Decode
import ClusterCensus.Record.Basic

/-!
# The written form of records

A record is written as an object with all its members, in order of name; what has a default may be
left out when it is read.
-/

namespace ClusterCensus

open Json

/-- Labels as they are written. -/
def Labels.encode (labels : Labels) : Json :=
  .object (labels.entries.map fun e => (e.1, .string e.2))

/-- Labels: a text for each name. -/
def Labels.decode : Decoder Labels := decodeMap decodeString

namespace OwnerRef

/-- The written form of a reference. -/
def encode (o : OwnerRef) : Json :=
  .object [("kind", o.kind), ("name", o.name), ("uid", o.uid)]

/-- The fields of a reference. -/
def fields : Fields OwnerRef :=
  (((Fields.start OwnerRef.mk).required "kind" decodeString).required "name" decodeString).defaulted
    "uid" decodeString ""

/-- Reads a reference. -/
def decode : Decoder OwnerRef := fields.decode "OwnerReference"

end OwnerRef

namespace Pod

/-- The written form of a pod. -/
def encode (p : Pod) : Json :=
  .object [
    ("cpu_request_millicores", Json.ofUInt64 p.cpuRequestMillicores),
    ("labels", Labels.encode p.labels),
    ("memory_request_bytes", Json.ofUInt64 p.memoryRequestBytes),
    ("name", p.name),
    ("namespace", p.ns),
    ("node_name", option Json.string p.nodeName),
    ("owner", option OwnerRef.encode p.owner),
    ("phase", p.phase),
    ("uid", p.uid)]

/-- The fields of a pod. -/
def fields : Fields Pod :=
  (Fields.start Pod.mk)
  |>.required "name" decodeString
  |>.required "namespace" decodeString
  |>.required "uid" decodeString
  |>.optional "node_name" decodeString
  |>.required "phase" decodeString
  |>.optional "owner" OwnerRef.decode
  |>.defaulted "labels" Labels.decode ∅
  |>.required "cpu_request_millicores" decodeUInt64
  |>.required "memory_request_bytes" decodeUInt64

/-- Reads a pod. -/
def decode : Decoder Pod := fields.decode "PodInfo"

end Pod

namespace ReplicaSet

/-- The written form of a replica set. -/
def encode (r : ReplicaSet) : Json :=
  .object [
    ("name", r.name),
    ("namespace", r.ns),
    ("owner", option OwnerRef.encode r.owner),
    ("replicas", Json.ofInt32 r.replicas),
    ("uid", r.uid)]

/-- The fields of a replica set. -/
def fields : Fields ReplicaSet :=
  (Fields.start ReplicaSet.mk)
  |>.required "name" decodeString
  |>.required "namespace" decodeString
  |>.required "uid" decodeString
  |>.required "replicas" decodeInt32
  |>.optional "owner" OwnerRef.decode

/-- Reads a replica set. -/
def decode : Decoder ReplicaSet := fields.decode "ReplicaSetInfo"

end ReplicaSet

namespace Job

/-- The written form of a job. -/
def encode (j : Job) : Json :=
  .object [
    ("cron_job", option Json.string j.cronJob),
    ("failed", Json.ofInt32 j.failed),
    ("name", j.name),
    ("namespace", j.ns),
    ("owner", option OwnerRef.encode j.owner),
    ("succeeded", Json.ofInt32 j.succeeded),
    ("uid", j.uid)]

/-- The fields of a job. -/
def fields : Fields Job :=
  (Fields.start Job.mk)
  |>.required "name" decodeString
  |>.required "namespace" decodeString
  |>.required "uid" decodeString
  |>.optional "owner" OwnerRef.decode
  |>.optional "cron_job" decodeString
  |>.required "succeeded" decodeInt32
  |>.required "failed" decodeInt32

/-- Reads a job. -/
def decode : Decoder Job := fields.decode "JobInfo"

end Job

namespace Node

/-- The written form of a node. -/
def encode (n : Node) : Json :=
  .object [
    ("cpu_allocatable_millicores", Json.ofUInt64 n.cpuAllocatableMillicores),
    ("cpu_capacity_millicores", Json.ofUInt64 n.cpuCapacityMillicores),
    ("labels", Labels.encode n.labels),
    ("memory_allocatable_bytes", Json.ofUInt64 n.memoryAllocatableBytes),
    ("memory_capacity_bytes", Json.ofUInt64 n.memoryCapacityBytes),
    ("name", n.name),
    ("node_pool", option Json.string n.nodePool),
    ("ready", .bool n.ready),
    ("uid", n.uid)]

/-- The fields of a node. -/
def fields : Fields Node :=
  (Fields.start Node.mk)
  |>.required "name" decodeString
  |>.required "uid" decodeString
  |>.required "ready" decodeBool
  |>.optional "node_pool" decodeString
  |>.required "cpu_capacity_millicores" decodeUInt64
  |>.required "memory_capacity_bytes" decodeUInt64
  |>.required "cpu_allocatable_millicores" decodeUInt64
  |>.required "memory_allocatable_bytes" decodeUInt64
  |>.defaulted "labels" Labels.decode ∅

/-- Reads a node. -/
def decode : Decoder Node := fields.decode "NodeInfo"

end Node

namespace Namespace

/-- The written form of a namespace. -/
def encode (n : Namespace) : Json :=
  .object [
    ("labels", Labels.encode n.labels),
    ("name", n.name),
    ("phase", n.phase),
    ("uid", n.uid)]

/-- The fields of a namespace. -/
def fields : Fields Namespace :=
  (Fields.start Namespace.mk)
  |>.required "name" decodeString
  |>.required "uid" decodeString
  |>.required "phase" decodeString
  |>.defaulted "labels" Labels.decode ∅

/-- Reads a namespace. -/
def decode : Decoder Namespace := fields.decode "NamespaceInfo"

end Namespace

namespace Workload

/-- The written form of a workload. -/
def encode (w : Workload) : Json :=
  .object [
    ("desired_replicas", option Json.ofInt32 w.desiredReplicas),
    ("kind", w.kind),
    ("labels", Labels.encode w.labels),
    ("name", w.name),
    ("namespace", w.ns),
    ("ready_replicas", option Json.ofInt32 w.readyReplicas),
    ("uid", w.uid)]

/-- The fields of a workload. -/
def fields : Fields Workload :=
  (Fields.start Workload.mk)
  |>.required "kind" decodeString
  |>.required "name" decodeString
  |>.required "namespace" decodeString
  |>.required "uid" decodeString
  |>.optional "desired_replicas" decodeInt32
  |>.optional "ready_replicas" decodeInt32
  |>.defaulted "labels" Labels.decode ∅

/-- Reads a workload. -/
def decode : Decoder Workload := fields.decode "WorkloadInfo"

end Workload

namespace Resource

/-- The written form of a resource. -/
def encode (r : Resource) : Json :=
  .object [
    ("data", r.data),
    ("labels", Labels.encode r.labels),
    ("name", r.name),
    ("namespace", option Json.string r.ns),
    ("uid", r.uid)]

/-- The fields of a resource. -/
def fields : Fields Resource :=
  (Fields.start Resource.mk)
  |>.required "name" decodeString
  |>.optional "namespace" decodeString
  |>.required "uid" decodeString
  |>.defaulted "labels" Labels.decode ∅
  |>.defaulted "data" Except.ok Json.null

/-- Reads a resource. -/
def decode : Decoder Resource := fields.decode "ResourceInfo"

end Resource

end ClusterCensus
