import ClusterCensus.Proofs.Ownership.Budget
import Mathlib.Data.List.Perm.Subperm

/-!
# Cycles and long chains

Among the owners of a chain only the last two can be anything but replica sets: a job leads to a
cron job, and that leads nowhere (`kind_of_isSome_ancestor`). In one namespace different names have
different keys (`objectKey_injective`), so if the replica sets of a chain have different names there
is a record for each of them (`same_name_or_many`). An owner that is met again is met again and
again (`comesBack_of_revisits`). So climbing is left incomplete by a cycle or among many records
(`incomplete_of_cycle_or_many`).
-/

namespace ClusterCensus

theorem objectKey_injective (ns : String) : Function.Injective (objectKey (some ns)) := by
  intro a b h
  unfold objectKey at h
  dsimp only at h
  split_ifs at h with hns
  · exact h
  · have hlist := congrArg String.toList h
    simp only [String.toList_append] at hlist
    exact String.toList_inj.1 (List.append_cancel_left hlist)

namespace SortedMap

variable {α : Type}

/-- Different keys that are bound are no more than there are bindings. -/
theorem length_le_size {m : SortedMap α} {l : List String} (hnodup : l.Nodup)
    (h : ∀ key ∈ l, (m.get? key).isSome) : l.length ≤ m.size := by
  have hkeys : l ⊆ m.keys := fun key hkey => by
    obtain ⟨x, hx⟩ := Option.isSome_iff_exists.1 (h key hkey)
    exact List.mem_map.2 ⟨_, get?_eq_some.1 hx, rfl⟩
  have hle := (hnodup.subperm hkeys).length_le
  rwa [keys, List.length_map] at hle

end SortedMap

/-- Whether climbing comes to the same kind and name twice. -/
def Revisits (parent : OwnerRef → Option OwnerRef) (o : OwnerRef) : Prop :=
  ∃ i j a b, i < j ∧ ancestor parent o i = some a ∧ ancestor parent o j = some b
    ∧ a.kind = b.kind ∧ a.name = b.name

namespace Owners

variable {owners : Owners} {ns : String} {o a b : OwnerRef} {i j n : Nat}

theorem parent_congr (hkind : a.kind = b.kind) (hname : a.name = b.name) :
    owners.parent ns a = owners.parent ns b := by
  unfold parent
  rw [hkind, hname]

/-- The owner of a job has no further one. -/
theorem parent_of_parent_job (hkind : a.kind = "Job") (h : owners.parent ns a = some b) :
    owners.parent ns b = none := by
  unfold parent at h
  rw [hkind, if_neg (by decide), if_pos (by rfl)] at h
  obtain ⟨c, -, rfl⟩ := Option.map_eq_some_iff.1 h
  rfl

theorem hasOwner_of_isSome_ancestor (ha : ancestor (owners.parent ns) o i = some a)
    (h : (ancestor (owners.parent ns) o n).isSome) (hin : i < n) : owners.HasOwner ns a := by
  have hnext := isSome_ancestor_of_le hin h
  rw [ancestor, ha] at hnext
  exact (owners.hasOwner_iff ns a).2 hnext

/-- Who is followed by two more on a chain is a replica set. -/
theorem kind_of_isSome_ancestor (ha : ancestor (owners.parent ns) o i = some a)
    (h : (ancestor (owners.parent ns) o n).isSome) (hin : i + 1 < n) : a.kind = "ReplicaSet" := by
  rcases hasOwner_of_isSome_ancestor ha h (by omega) with ⟨hkind, -⟩ | ⟨hkind, -⟩
  · exact hkind
  · obtain ⟨b, hb⟩ := Option.isSome_iff_exists.1 (isSome_ancestor_of_le (show i + 1 ≤ n by omega) h)
    have hparent : owners.parent ns a = some b := by rwa [ancestor, ha] at hb
    have hnext := hasOwner_of_isSome_ancestor hb h hin
    rw [hasOwner_iff, parent_of_parent_job hkind hparent] at hnext
    cases hnext

/-- Replica sets with owners are no more than there are records, if their names differ. -/
theorem le_size_replicaSets {owner : Nat → OwnerRef}
    (hkind : ∀ i < n, (owner i).kind = "ReplicaSet")
    (howner : ∀ i < n, owners.HasOwner ns (owner i))
    (hnames : ∀ i j, i < j → j < n → (owner i).name ≠ (owner j).name) :
    n ≤ owners.replicaSets.size := by
  have hnodup : ((List.range n).map fun i => objectKey (some ns) (owner i).name).Nodup := by
    refine List.pairwise_map.2 (List.pairwise_lt_range.imp_of_mem fun _ hj hij heq => ?_)
    exact hnames _ _ hij (List.mem_range.1 hj) (objectKey_injective ns heq)
  have hle := SortedMap.length_le_size (m := owners.replicaSets) hnodup fun key hkey => by
    obtain ⟨i, hi, rfl⟩ := List.mem_map.1 hkey
    have hin := List.mem_range.1 hi
    rcases howner i hin with ⟨-, r, p, hr, -⟩ | ⟨hjob, -⟩
    · rw [hr]
      rfl
    · rw [hkind i hin] at hjob
      simp at hjob
  rwa [List.length_map, List.length_range] at hle

theorem one_le_size_jobs (hkind : a.kind = "Job") (h : owners.HasOwner ns a) :
    1 ≤ owners.jobs.size := by
  rcases h with ⟨hreplica, -⟩ | ⟨-, r, c, hr, -⟩
  · rw [hkind] at hreplica
    simp at hreplica
  · refine SortedMap.length_le_size (l := [objectKey (some ns) a.name]) (by simp) fun key hkey => ?_
    rw [List.mem_singleton.1 hkey, hr]
    rfl

/-- The owner after one that is met again is met again as well. -/
theorem comesBack_of_revisits (h : Revisits (owners.parent ns) o) :
    ComesBack (owners.parent ns) o := by
  obtain ⟨i, j, a, b, hij, ha, hb, hkind, hname⟩ := h
  have hnext : ancestor (owners.parent ns) o (i + 1) = ancestor (owners.parent ns) o (j + 1) := by
    rw [ancestor, ancestor, ha, hb]
    exact parent_congr hkind hname
  refine ⟨i + 1, j + 1, by omega, ?_, hnext⟩
  rw [← hnext]
  exact isSome_ancestor_of_le hij (by rw [hb]; rfl)

theorem exists_owners (h : (ancestor (owners.parent ns) o n).isSome) : ∃ owner : Nat → OwnerRef,
    ∀ i < n, ancestor (owners.parent ns) o i = some (owner i) ∧ owners.HasOwner ns (owner i) := by
  refine ⟨fun i => (ancestor (owners.parent ns) o i).getD o, fun i hi => ?_⟩
  obtain ⟨a, ha⟩ := Option.isSome_iff_exists.1 (isSome_ancestor_of_le hi.le h)
  have howner := hasOwner_of_isSome_ancestor ha h hi
  dsimp only
  rw [ha]
  exact ⟨rfl, howner⟩

/-- Owners with further ones of which all but the last are replica sets: two of these have the same
name, or there are as many records. -/
theorem same_name_or_many {owner : Nat → OwnerRef}
    (howner : ∀ i < n + 1, owners.HasOwner ns (owner i))
    (hkind : ∀ i < n, (owner i).kind = "ReplicaSet") :
    (∃ i j, i < j ∧ j < n + 1 ∧ (owner i).kind = "ReplicaSet" ∧ (owner j).kind = "ReplicaSet"
        ∧ (owner i).name = (owner j).name)
      ∨ n + 1 ≤ owners.replicaSets.size + owners.jobs.size ∧ n ≤ owners.replicaSets.size := by
  by_cases hsame : ∃ i j, i < j ∧ j < n + 1 ∧ (owner i).kind = "ReplicaSet"
      ∧ (owner j).kind = "ReplicaSet" ∧ (owner i).name = (owner j).name
  · exact .inl hsame
  · push Not at hsame
    have hfew : n ≤ owners.replicaSets.size :=
      le_size_replicaSets hkind (fun i hi => howner i (by omega)) fun i j hij hj =>
        hsame i j hij (by omega) (hkind i (by omega)) (hkind j hj)
    refine .inr ⟨?_, hfew⟩
    rcases (howner n (Nat.lt_succ_self n)).imp And.left And.left with hlast | hlast
    · have hall : ∀ i < n + 1, (owner i).kind = "ReplicaSet" := fun i hi => by
        rcases Nat.lt_succ_iff_lt_or_eq.1 hi with hlt | rfl
        · exact hkind i hlt
        · exact hlast
      have := le_size_replicaSets hall howner fun i j hij hj =>
        hsame i j hij hj (hall i (by omega)) (hall j hj)
      omega
    · have := one_le_size_jobs hlast (howner n (Nat.lt_succ_self n))
      omega

/-- Climbing from an owner is left incomplete only from ten owners of which all but the last are
replica sets, and the last is one or a job. Then two of the replica sets have the same name, or
there are at least ten records, at least nine of them of replica sets. Climbing that comes to a kind
and name twice is left incomplete. So where it does not, and there are at most nine records, it is
complete, and ends at an owner that has no further one. -/
theorem incomplete_of_cycle_or_many (owners : Owners) (ns : String) (o : OwnerRef) :
    let r := owners.resolve ns o
    let chain := ancestor (owners.parent ns) o
    (r.complete = false → ∃ owner : Nat → OwnerRef,
        (∀ i < 10, chain i = some (owner i)) ∧ chain 10 = some r.owner
          ∧ (∀ i < 9, (owner i).kind = "ReplicaSet")
          ∧ ((owner 9).kind = "ReplicaSet" ∨ (owner 9).kind = "Job")
          ∧ ((∃ i j, i < j ∧ j < 10 ∧ (owner i).kind = "ReplicaSet" ∧ (owner j).kind = "ReplicaSet"
                ∧ (owner i).name = (owner j).name)
            ∨ 10 ≤ owners.replicaSets.size + owners.jobs.size ∧ 9 ≤ owners.replicaSets.size))
      ∧ (Revisits (owners.parent ns) o → r.complete = false)
      ∧ (¬ Revisits (owners.parent ns) o → owners.replicaSets.size + owners.jobs.size ≤ 9 →
        r.complete = true ∧ ¬ owners.HasOwner ns r.owner) := by
  intro r chain
  have hsteps : r.complete = false → ∃ owner : Nat → OwnerRef, (∀ i < 10, chain i = some (owner i))
      ∧ (∀ i < 10, owners.HasOwner ns (owner i)) ∧ ∀ i < 9, (owner i).kind = "ReplicaSet" := by
    intro h
    have hsome : (chain 10).isSome := (complete_climb_eq_false 10 o).1 h
    obtain ⟨owner, howner⟩ := exists_owners hsome
    exact ⟨owner, fun i hi => (howner i hi).1, fun i hi => (howner i hi).2, fun i hi =>
      kind_of_isSome_ancestor (howner i (by omega)).1 hsome (by omega)⟩
  refine ⟨fun h => ?_, fun h => ?_, fun hacyclic hfew => ?_⟩
  · obtain ⟨owner, hchain, howner, hkind⟩ := hsteps h
    exact ⟨owner, hchain, ancestor_of_incomplete h, hkind,
      (howner 9 (by omega)).imp And.left And.left, same_name_or_many howner hkind⟩
  · exact (complete_climb_eq_false maxOwnerHops o).2 ((comesBack_of_revisits h).isSome _)
  · have hcomplete : r.complete = true := by
      rw [← Bool.not_eq_false]
      intro h
      obtain ⟨owner, hchain, howner, hkind⟩ := hsteps h
      rcases same_name_or_many howner hkind with ⟨i, j, hij, hj, hi', hj', hname⟩ | ⟨hmany, -⟩
      · exact hacyclic ⟨i, j, owner i, owner j, hij, hchain i (by omega), hchain j hj,
          hi'.trans hj'.symm, hname⟩
      · omega
    have htop : owners.parent ns r.owner = none := parent_of_complete hcomplete
    refine ⟨hcomplete, ?_⟩
    rw [hasOwner_iff, htop]
    simp

end Owners

end ClusterCensus
