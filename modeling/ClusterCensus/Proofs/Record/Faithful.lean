import ClusterCensus.Proofs.Record.RoundTrip
import ClusterCensus.Proofs.Snapshot

/-!
# The record format is faithful

A snapshot is a member for each kind beside its time, and is read back kind by kind
(`Snapshot.decode_encode`). With it, every record type of the format is read back as it was written
and is taken in every form in which it may come (`records_faithful`).
-/

namespace ClusterCensus

open Json

theorem Shape.decode_encode : ∀ (s : Shape) (e : s.Record), s.decode (s.encode e) = .ok e
  | .node => Node.decode_encode
  | .pod => Pod.decode_encode
  | .ns => Namespace.decode_encode
  | .workload => Workload.decode_encode
  | .replicaSet => ReplicaSet.decode_encode
  | .job => Job.decode_encode
  | .resource => Resource.decode_encode

namespace Snapshot

variable (s : Snapshot)

theorem nodup_members : (s.members.map (·.1)).Nodup :=
  List.pairwise_map.2 ((Kind.pairwise_putAll s.encodeKind Kind.all _
    (List.pairwise_singleton ..)).imp fun h => String.ne_of_lt h)

theorem declares_addKinds : ∀ (ks : List Kind) {fs : Fields Snapshot} {names : List String}
    {absent : List (String × Json)}, fs.Declares names absent →
      (addKinds fs ks).Declares (names ++ ks.map Kind.name) absent
  | [], _, _, _, h => by simpa [addKinds] using h
  | k :: ks, fs, names, absent, h => by
    rw [List.map_cons, List.append_cons]
    exact declares_addKinds ks (h.map _).required

theorem declares : fields.Declares ("captured_at_ms" :: Kind.all.map Kind.name) [] :=
  declares_addKinds Kind.all (Fields.Declares.start _).required

/-- A snapshot of a time without records. -/
def stamped (t : Int64) : Snapshot := { empty with capturedAtMs := t }

/-- The records of some kinds of a snapshot in the place of those of another. -/
def overwrite (t : Snapshot) (ks : List Kind) : Snapshot :=
  ks.foldl (fun t k => t.replace k (s.entries k)) t

theorem build_addKinds {look : String → Option Json} : ∀ (ks : List Kind)
    {fs : Fields Snapshot} {t : Snapshot}, fs.build look = .ok t →
      (∀ k ∈ ks, look k.name = some (s.encodeKind k)) →
      (addKinds fs ks).build look = .ok (s.overwrite t ks)
  | [], _, _, h, _ => h
  | k :: ks, fs, t, h, hlook => by
    obtain ⟨hk, hks⟩ := List.forall_mem_cons.1 hlook
    have hmap : (fs.map fun t es => t.replace k es).build look = .ok (t.replace k) :=
      map_eq_ok.2 ⟨t, h, rfl⟩
    have hentries : decodeList k.decodeEntry (s.encodeKind k) = .ok (s.entries k) :=
      decodeList_array_map k.shape.decode_encode _
    have hnext : ((fs.map fun t es => t.replace k es).required k.name
        (decodeList k.decodeEntry)).build look = .ok (t.replace k (s.entries k)) :=
      Fields.build_field_eq_ok.2 ⟨_, _, hmap, rfl, .inl ⟨_, hk, hentries⟩⟩
    exact build_addKinds ks hnext hks

theorem capturedAtMs_overwrite : ∀ (ks : List Kind) (t : Snapshot),
    (s.overwrite t ks).capturedAtMs = t.capturedAtMs
  | [], _ => rfl
  | k :: ks, t => capturedAtMs_overwrite ks (t.replace k (s.entries k))

theorem entries_overwrite {k : Kind} : ∀ (ks : List Kind) (t : Snapshot),
    k ∈ ks ∨ t.entries k = s.entries k → (s.overwrite t ks).entries k = s.entries k
  | [], _, h => h.resolve_left List.not_mem_nil
  | j :: ks, t, h => by
    refine entries_overwrite ks (t.replace j (s.entries j)) ?_
    by_cases hj : k = j
    · subst hj
      exact .inr (entries_replace_self t k _)
    · rw [entries_replace_of_ne t _ hj]
      exact h.imp_left fun hk => (List.mem_cons.1 hk).resolve_left hj

theorem overwrite_stamped : s.overwrite (stamped s.capturedAtMs) Kind.all = s := by
  have htime := s.capturedAtMs_overwrite Kind.all (stamped s.capturedAtMs)
  have hentries : (s.overwrite (stamped s.capturedAtMs) Kind.all).entries = s.entries :=
    funext fun k => s.entries_overwrite Kind.all _ (.inl (Kind.mem_all k))
  exact congrArg₂ Snapshot.mk htime hentries

theorem decode_encode : decode s.encode = .ok s := by
  have htime : member? s.members "captured_at_ms" = some (ofInt64 s.capturedAtMs) :=
    Kind.member?_putAll_of_ne s.encodeKind Kind.all _ (by decide)
  have hkinds : ∀ k ∈ Kind.all, member? s.members k.name = some (s.encodeKind k) :=
    fun k hk => Kind.member?_putAll s.encodeKind Kind.all _ hk
  have hstamp : ((Fields.start stamped).required "captured_at_ms" decodeInt64).build
      (member? s.members) = .ok (stamped s.capturedAtMs) :=
    (Fields.Reads.start stamped).field (decodeInt64_ofInt64 _) _ (by simpa using htime)
  have hbuild := s.build_addKinds Kind.all hstamp hkinds
  rw [overwrite_stamped] at hbuild
  exact (declares.decode_object_eq_ok s.nodup_members).2 hbuild

end Snapshot

/-- Every type of the record format is read back as it was written, whatever the record: encoding
and decoding gives the record, what was decoded from any value is written as a value that decodes to
it and is its own encoding, and an object may have its members in any order and among others, may
leave out the members that stand here with what they mean then, and may come as an array. -/
theorem records_faithful :
    Faithful OwnerRef.encode OwnerRef.decode ["kind", "name", "uid"] [("uid", .string "")] ∧
    Faithful Pod.encode Pod.decode
      ["name", "namespace", "uid", "node_name", "phase", "owner", "labels",
        "cpu_request_millicores", "memory_request_bytes"]
      [("node_name", .null), ("owner", .null), ("labels", .object [])] ∧
    Faithful ReplicaSet.encode ReplicaSet.decode ["name", "namespace", "uid", "replicas", "owner"]
      [("owner", .null)] ∧
    Faithful Job.encode Job.decode
      ["name", "namespace", "uid", "owner", "cron_job", "succeeded", "failed"]
      [("owner", .null), ("cron_job", .null)] ∧
    Faithful Node.encode Node.decode
      ["name", "uid", "ready", "node_pool", "cpu_capacity_millicores", "memory_capacity_bytes",
        "cpu_allocatable_millicores", "memory_allocatable_bytes", "labels"]
      [("node_pool", .null), ("labels", .object [])] ∧
    Faithful Namespace.encode Namespace.decode ["name", "uid", "phase", "labels"]
      [("labels", .object [])] ∧
    Faithful Workload.encode Workload.decode
      ["kind", "name", "namespace", "uid", "desired_replicas", "ready_replicas", "labels"]
      [("desired_replicas", .null), ("ready_replicas", .null), ("labels", .object [])] ∧
    Faithful Resource.encode Resource.decode ["name", "namespace", "uid", "labels", "data"]
      [("namespace", .null), ("labels", .object []), ("data", .null)] ∧
    Faithful Snapshot.encode Snapshot.decode ("captured_at_ms" :: Kind.all.map Kind.name) [] ∧
    Faithful Lifecycle.Status.encode Lifecycle.Status.decode
      ["state", "reason", "backoff_remaining_secs"] [("reason", .string "")] ∧
    Faithful Health.Component.encode Health.Component.decode
      ["status", "message", "last_check_timestamp"] [("message", .null)] ∧
    Faithful Health.Report.encode Health.Report.decode ["status", "components"] [] ∧
    Faithful Health.Readiness.encode Health.Readiness.decode ["ready", "reason"]
      [("reason", .null)] :=
  ⟨OwnerRef.declares.faithful (by decide) OwnerRef.decode_encode,
    Pod.declares.faithful (by decide) Pod.decode_encode,
    ReplicaSet.declares.faithful (by decide) ReplicaSet.decode_encode,
    Job.declares.faithful (by decide) Job.decode_encode,
    Node.declares.faithful (by decide) Node.decode_encode,
    Namespace.declares.faithful (by decide) Namespace.decode_encode,
    Workload.declares.faithful (by decide) Workload.decode_encode,
    Resource.declares.faithful (by decide) Resource.decode_encode,
    Snapshot.declares.faithful (by decide) Snapshot.decode_encode,
    Lifecycle.Status.declares.faithful (by decide) Lifecycle.Status.decode_encode,
    Health.Component.declares.faithful (by decide) Health.Component.decode_encode,
    Health.Report.declares.faithful (by decide) Health.Report.decode_encode,
    Health.Readiness.declares.faithful (by decide) Health.Readiness.decode_encode⟩

end ClusterCensus
