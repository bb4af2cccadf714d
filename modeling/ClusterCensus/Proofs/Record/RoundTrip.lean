import ClusterCensus.Health.Basic
import ClusterCensus.Lifecycle.State
import ClusterCensus.Proofs.Json.RoundTrip
import ClusterCensus.Record.Codec

/-!
# Records are read back as they were written

Each record type declares its fields one after the other (`declares`), and its decoder undoes its
encoder (`decode_encode`): each field undoes the encoding of its own value, and where that value
stands among the written members depends on their names only, so it is found by evaluation.
-/

namespace ClusterCensus

open Json

theorem Labels.decode_encode (labels : Labels) :
    Labels.decode labels.encode = .ok labels :=
  decodeMap_object_map decodeString_string labels

theorem Labels.decode_empty : Labels.decode (.object []) = .ok ∅ := rfl

theorem decodeOption_string (o : Option String) :
    decodeOption decodeString (option Json.string o) = .ok o :=
  decodeOption_option (fun _ => Json.noConfusion) decodeString_string o

theorem decodeOption_int32 (o : Option Int32) :
    decodeOption decodeInt32 (option ofInt32 o) = .ok o :=
  decodeOption_option (fun _ => Json.noConfusion) decodeInt32_ofInt32 o

namespace OwnerRef

theorem declares : fields.Declares ["kind", "name", "uid"] [("uid", .string "")] :=
  (Fields.Declares.start _).required.required.defaulted rfl

theorem decode_encode (o : OwnerRef) : decode o.encode = .ok o :=
  declares.decode_of_reads
    ((Fields.Reads.start _)
      |>.field (decodeString_string _)
      |>.field (decodeString_string _)
      |>.field (decodeString_string _))
    (of_decide_eq_true rfl) rfl

end OwnerRef

theorem decodeOption_owner (o : Option OwnerRef) :
    decodeOption OwnerRef.decode (option OwnerRef.encode o) = .ok o :=
  decodeOption_option (fun _ => Json.noConfusion) OwnerRef.decode_encode o

namespace Pod

theorem declares : fields.Declares
    ["name", "namespace", "uid", "node_name", "phase", "owner", "labels", "cpu_request_millicores",
      "memory_request_bytes"]
    [("node_name", .null), ("owner", .null), ("labels", .object [])] :=
  (Fields.Declares.start _)
  |>.required
  |>.required
  |>.required
  |>.optional
  |>.required
  |>.optional
  |>.defaulted Labels.decode_empty
  |>.required
  |>.required

theorem decode_encode (p : Pod) : decode p.encode = .ok p :=
  declares.decode_of_reads
    ((Fields.Reads.start _)
      |>.field (decodeString_string _)
      |>.field (decodeString_string _)
      |>.field (decodeString_string _)
      |>.field (decodeOption_string _)
      |>.field (decodeString_string _)
      |>.field (decodeOption_owner _)
      |>.field (Labels.decode_encode _)
      |>.field (decodeUInt64_ofUInt64 _)
      |>.field (decodeUInt64_ofUInt64 _))
    (of_decide_eq_true rfl) rfl

end Pod

namespace ReplicaSet

theorem declares :
    fields.Declares ["name", "namespace", "uid", "replicas", "owner"] [("owner", .null)] :=
  (Fields.Declares.start _)
  |>.required
  |>.required
  |>.required
  |>.required
  |>.optional

theorem decode_encode (r : ReplicaSet) : decode r.encode = .ok r :=
  declares.decode_of_reads
    ((Fields.Reads.start _)
      |>.field (decodeString_string _)
      |>.field (decodeString_string _)
      |>.field (decodeString_string _)
      |>.field (decodeInt32_ofInt32 _)
      |>.field (decodeOption_owner _))
    (of_decide_eq_true rfl) rfl

end ReplicaSet

namespace Job

theorem declares : fields.Declares
    ["name", "namespace", "uid", "owner", "cron_job", "succeeded", "failed"]
    [("owner", .null), ("cron_job", .null)] :=
  (Fields.Declares.start _)
  |>.required
  |>.required
  |>.required
  |>.optional
  |>.optional
  |>.required
  |>.required

theorem decode_encode (j : Job) : decode j.encode = .ok j :=
  declares.decode_of_reads
    ((Fields.Reads.start _)
      |>.field (decodeString_string _)
      |>.field (decodeString_string _)
      |>.field (decodeString_string _)
      |>.field (decodeOption_owner _)
      |>.field (decodeOption_string _)
      |>.field (decodeInt32_ofInt32 _)
      |>.field (decodeInt32_ofInt32 _))
    (of_decide_eq_true rfl) rfl

end Job

namespace Node

theorem declares : fields.Declares
    ["name", "uid", "ready", "node_pool", "cpu_capacity_millicores", "memory_capacity_bytes",
      "cpu_allocatable_millicores", "memory_allocatable_bytes", "labels"]
    [("node_pool", .null), ("labels", .object [])] :=
  (Fields.Declares.start _)
  |>.required
  |>.required
  |>.required
  |>.optional
  |>.required
  |>.required
  |>.required
  |>.required
  |>.defaulted Labels.decode_empty

theorem decode_encode (n : Node) : decode n.encode = .ok n :=
  declares.decode_of_reads
    ((Fields.Reads.start _)
      |>.field (decodeString_string _)
      |>.field (decodeString_string _)
      |>.field (decodeBool_bool _)
      |>.field (decodeOption_string _)
      |>.field (decodeUInt64_ofUInt64 _)
      |>.field (decodeUInt64_ofUInt64 _)
      |>.field (decodeUInt64_ofUInt64 _)
      |>.field (decodeUInt64_ofUInt64 _)
      |>.field (Labels.decode_encode _))
    (of_decide_eq_true rfl) rfl

end Node

namespace Namespace

theorem declares :
    fields.Declares ["name", "uid", "phase", "labels"] [("labels", .object [])] :=
  (Fields.Declares.start _)
  |>.required
  |>.required
  |>.required
  |>.defaulted Labels.decode_empty

theorem decode_encode (n : Namespace) : decode n.encode = .ok n :=
  declares.decode_of_reads
    ((Fields.Reads.start _)
      |>.field (decodeString_string _)
      |>.field (decodeString_string _)
      |>.field (decodeString_string _)
      |>.field (Labels.decode_encode _))
    (of_decide_eq_true rfl) rfl

end Namespace

namespace Workload

theorem declares : fields.Declares
    ["kind", "name", "namespace", "uid", "desired_replicas", "ready_replicas", "labels"]
    [("desired_replicas", .null), ("ready_replicas", .null), ("labels", .object [])] :=
  (Fields.Declares.start _)
  |>.required
  |>.required
  |>.required
  |>.required
  |>.optional
  |>.optional
  |>.defaulted Labels.decode_empty

theorem decode_encode (w : Workload) : decode w.encode = .ok w :=
  declares.decode_of_reads
    ((Fields.Reads.start _)
      |>.field (decodeString_string _)
      |>.field (decodeString_string _)
      |>.field (decodeString_string _)
      |>.field (decodeString_string _)
      |>.field (decodeOption_int32 _)
      |>.field (decodeOption_int32 _)
      |>.field (Labels.decode_encode _))
    (of_decide_eq_true rfl) rfl

end Workload

namespace Resource

theorem declares : fields.Declares ["name", "namespace", "uid", "labels", "data"]
    [("namespace", .null), ("labels", .object []), ("data", .null)] :=
  (Fields.Declares.start _)
  |>.required
  |>.optional
  |>.required
  |>.defaulted Labels.decode_empty
  |>.defaulted rfl

theorem decode_encode (r : Resource) : decode r.encode = .ok r :=
  declares.decode_of_reads
    ((Fields.Reads.start _)
      |>.field (decodeString_string _)
      |>.field (decodeOption_string _)
      |>.field (decodeString_string _)
      |>.field (Labels.decode_encode _)
      |>.field rfl)
    (of_decide_eq_true rfl) rfl

end Resource

theorem Lifecycle.State.decode_name (s : Lifecycle.State) :
    State.decode (.string s.name) = .ok s := by
  cases s <;> rfl

namespace Lifecycle.Status

theorem declares :
    fields.Declares ["state", "reason", "backoff_remaining_secs"] [("reason", .string "")] :=
  (Fields.Declares.start _)
  |>.required
  |>.defaulted (decodeString_string "")
  |>.required

theorem decode_encode (s : Status) : decode s.encode = .ok s := by
  obtain ⟨state, reason, backoffRemainingSecs⟩ := s
  by_cases h : reason = ""
  · subst h
    exact declares.decode_of_reads
      ((Fields.Reads.start _)
        |>.field (State.decode_name _)
        |>.absent
        |>.field (decodeUInt64_ofUInt64 _))
      (of_decide_eq_true rfl) rfl
  · rw [encode, if_neg h]
    exact declares.decode_of_reads
      ((Fields.Reads.start _)
        |>.field (State.decode_name _)
        |>.field (decodeString_string _)
        |>.field (decodeUInt64_ofUInt64 _))
      (of_decide_eq_true rfl) rfl

end Lifecycle.Status

namespace Health

theorem Grade.decode_name (g : Grade) : Grade.decode (.string g.name) = .ok g := by
  cases g <;> rfl

theorem decodeOption_text (s : String) : decodeOption decodeString (.string s) = .ok (some s) := rfl

namespace Component

theorem declares :
    fields.Declares ["status", "message", "last_check_timestamp"] [("message", .null)] :=
  (Fields.Declares.start _)
  |>.required
  |>.optional
  |>.required

theorem decode_encode (c : Component) : decode c.encode = .ok c := by
  rcases c with ⟨grade, _ | message, checkedAt⟩
  · exact declares.decode_of_reads
      ((Fields.Reads.start _)
        |>.field (Grade.decode_name _)
        |>.absent
        |>.field (decodeInt64_ofInt64 _))
      (of_decide_eq_true rfl) rfl
  · exact declares.decode_of_reads
      ((Fields.Reads.start _)
        |>.field (Grade.decode_name _)
        |>.field (decodeOption_text _)
        |>.field (decodeInt64_ofInt64 _))
      (of_decide_eq_true rfl) rfl

end Component

theorem decodeComponents_object (components : Components) :
    decodeComponents (.object (components.entries.map fun e => (e.1, e.2.encode)))
      = .ok components :=
  decodeMap_object_map Component.decode_encode components

namespace Report

theorem declares : fields.Declares ["status", "components"] [] :=
  (Fields.Declares.start _).required.required

theorem decode_encode (r : Report) : decode r.encode = .ok r :=
  declares.decode_of_reads
    ((Fields.Reads.start _)
      |>.field (Grade.decode_name _)
      |>.field (decodeComponents_object _))
    (of_decide_eq_true rfl) rfl

end Report

namespace Readiness

theorem declares : fields.Declares ["ready", "reason"] [("reason", .null)] :=
  (Fields.Declares.start _).required.optional

theorem decode_encode (r : Readiness) : decode r.encode = .ok r := by
  rcases r with ⟨ready, _ | reason⟩
  · exact declares.decode_of_reads
      ((Fields.Reads.start _)
        |>.field (decodeBool_bool _)
        |>.absent)
      (of_decide_eq_true rfl) rfl
  · exact declares.decode_of_reads
      ((Fields.Reads.start _)
        |>.field (decodeBool_bool _)
        |>.field (decodeOption_text _))
      (of_decide_eq_true rfl) rfl

end Readiness
end Health

end ClusterCensus
