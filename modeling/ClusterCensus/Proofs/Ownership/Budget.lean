import ClusterCensus.Proofs.Ownership.Enrich

/-!
# What the hops lead to

Climbing is left incomplete just when the chain has at least as many hops as are allowed
(`complete_climb_eq_false`), and there is more to climb to just when the chain is longer than that
(`parent_climb`). So a chain of just as many hops is climbed to its top and counts as incomplete all
the same (`incomplete_at_top`); for every other length the flag tells whether the top was reached
(`flag_tells_but_at_budget`).
-/

namespace ClusterCensus

section Climb

variable {parent : OwnerRef → Option OwnerRef}

theorem le_chainLength_iff {o : OwnerRef} {n : Nat} :
    (n : ENat) ≤ chainLength parent o ↔ (ancestor parent o n).isSome := by
  refine ⟨fun h => ?_, le_chainLength⟩
  cases n with
  | zero => rfl
  | succ n =>
    by_contra hnone
    have hle := chainLength_le (Option.not_isSome_iff_eq_none.1 hnone)
    have hlt := Nat.cast_le.1 (h.trans hle)
    omega

theorem complete_climb_eq_false : ∀ (hops : Nat) (o : OwnerRef),
    (climb parent hops o).complete = false ↔ (ancestor parent o hops).isSome
  | 0, _ => by simp [climb, ancestor]
  | hops + 1, o => by
    unfold climb
    rcases hp : parent o with _ | p
    · have hone : ancestor parent o 1 = none := hp
      have hnone : ¬ (ancestor parent o (hops + 1)).isSome := fun h => by
        have := isSome_ancestor_of_le (Nat.le_add_left 1 hops) h
        rw [hone] at this
        contradiction
      simpa using hnone
    · rw [ancestor_succ_of_some hp]
      exact complete_climb_eq_false hops p

theorem ancestor_of_incomplete {hops : Nat} {o : OwnerRef}
    (h : (climb parent hops o).complete = false) :
    ancestor parent o hops = some (climb parent hops o).owner := by
  have hsome := (complete_climb_eq_false hops o).1 h
  obtain ⟨k, hk, hreach, rfl | hend⟩ := exists_climb parent hops o
  · exact hreach
  · -- The chain ends above `k`, but it has the hops.
    obtain rfl : k = hops := by
      by_contra hne
      have := isSome_ancestor_of_le (show k + 1 ≤ hops by omega) hsome
      rw [hend] at this
      contradiction
    exact hreach

theorem parent_of_complete : ∀ {hops : Nat} {o : OwnerRef},
    (climb parent hops o).complete = true → parent (climb parent hops o).owner = none
  | 0, _, h => by simp [climb] at h
  | hops + 1, o, h => by
    unfold climb at h ⊢
    rcases hp : parent o with _ | p
    · exact hp
    · rw [hp] at h
      exact parent_of_complete h

/-- There is more to climb to just when the chain is longer than the hops. -/
theorem parent_climb (hops : Nat) (o : OwnerRef) :
    (parent (climb parent hops o).owner).isSome
      ↔ ((hops + 1 : Nat) : ENat) ≤ chainLength parent o := by
  rw [le_chainLength_iff]
  rcases hc : (climb parent hops o).complete with _ | _
  · rw [ancestor, ancestor_of_incomplete hc]
    rfl
  · have hshort : ¬ (ancestor parent o hops).isSome := fun h => by
      rw [(complete_climb_eq_false hops o).2 h] at hc
      contradiction
    have hnone : ¬ (ancestor parent o (hops + 1)).isSome := fun h =>
      hshort (isSome_ancestor_of_le (Nat.le_succ hops) h)
    rw [parent_of_complete hc]
    exact iff_of_false (by simp) hnone

end Climb

namespace Owners

variable (owners : Owners) (ns : String) (o : OwnerRef)

/-- The records tell of an owner of an owner: it is a replica set whose record names one, or a job
whose record names a cron job. -/
def HasOwner : Prop :=
  o.kind = "ReplicaSet" ∧ (∃ r p, owners.replicaSets.get? (objectKey (some ns) o.name) = some r
      ∧ r.owner = some p)
    ∨ o.kind = "Job" ∧ ∃ j c, owners.jobs.get? (objectKey (some ns) o.name) = some j
      ∧ j.cronJob = some c

theorem hasOwner_iff : owners.HasOwner ns o ↔ (owners.parent ns o).isSome := by
  unfold HasOwner parent OwnerRef.replicaSetKind OwnerRef.jobKind
  by_cases hr : o.kind = "ReplicaSet"
  · have hj : o.kind ≠ "Job" := by rw [hr]; decide
    rw [if_pos hr, or_iff_left fun h => hj h.1, and_iff_right hr]
    simp only [Option.isSome_iff_exists, Option.bind_eq_some_iff]
    exact exists_comm
  · rw [if_neg hr, or_iff_right fun h => hr h.1]
    by_cases hj : o.kind = "Job"
    · rw [if_pos hj, and_iff_right hj, Option.isSome_map]
      simp only [Option.isSome_iff_exists, Option.bind_eq_some_iff]
      exact exists_comm
    · rw [if_neg hj]
      exact iff_of_false (fun h => hj h.1) (by simp)

theorem complete_resolve_eq_false :
    (owners.resolve ns o).complete = false ↔ 10 ≤ chainLength (owners.parent ns) o :=
  (complete_climb_eq_false maxOwnerHops o).trans le_chainLength_iff.symm

theorem hasOwner_resolve :
    owners.HasOwner ns (owners.resolve ns o).owner ↔ 11 ≤ chainLength (owners.parent ns) o :=
  (owners.hasOwner_iff ns _).trans (parent_climb maxOwnerHops o)

end Owners

namespace Pod

variable {owners : Owners} {p : Pod} {o : OwnerRef}

/-- What is logged about a pod as a warning. -/
def warned (owners : Owners) (p : Pod) : List Log.Record :=
  (p.enrich owners).logs.filter (·.level = .warn)

theorem warned_of_node (h : p.owner = some o) (hk : o.kind = OwnerRef.nodeKind) :
    p.warned owners = [] := by
  rw [warned, enrich_of_node h hk]
  rfl

theorem warned_of_owner (h : p.owner = some o) (hk : o.kind ≠ OwnerRef.nodeKind) :
    p.warned owners = if (owners.resolve p.ns o).complete then []
      else [p.overBudget (owners.resolve p.ns o).owner] := by
  have hwarnings : (p.warnings owners o).filter (·.level = .warn) = p.warnings owners o := by
    unfold warnings
    split_ifs <;> rfl
  unfold warned
  by_cases ht : (owners.resolve p.ns o).owner = o
  · rw [enrich_of_top h hk ht]
    exact hwarnings
  · rw [enrich_of_below h hk ht, List.filter_append, hwarnings]
    exact List.append_nil _

end Pod

namespace Owners

/-- Whatever the records and the owner to begin with: an owner at which climbing is complete has no
further one, and unless the chain has just ten hops, one at which it is incomplete has. A chain of
ten hops is climbed to its top and counts as incomplete. Enrichment warns of the pods whose chains
are incomplete, those that nodes run by themselves apart, and of nothing else. -/
theorem flag_tells_but_at_budget (owners : Owners) (ns : String) (o : OwnerRef) :
    let r := owners.resolve ns o
    let hops := chainLength (owners.parent ns) o
    (r.complete = true → ¬ owners.HasOwner ns r.owner)
      ∧ (hops ≠ 10 → (r.complete = false ↔ owners.HasOwner ns r.owner))
      ∧ (hops = 10 → r.complete = false ∧ ¬ owners.HasOwner ns r.owner)
      ∧ (∀ p : Pod, p.ns = ns → p.owner = some o →
        (o.kind = "Node" ∨ hops < 10 → p.warned owners = [])
          ∧ (o.kind ≠ "Node" → 10 ≤ hops → p.warned owners = [p.overBudget r.owner]))
      ∧ ∀ s : Snapshot, s.enrich.logs.filter (·.level = .warn)
        = s.pods.flatMap (Pod.warned (.ofSnapshot s)) := by
  intro r hops
  have hflag : r.complete = false ↔ 10 ≤ hops := owners.complete_resolve_eq_false ns o
  have hmore : owners.HasOwner ns r.owner ↔ 11 ≤ hops := owners.hasOwner_resolve ns o
  have hnext : (11 : ENat) ≤ hops ↔ 10 < hops := ENat.add_one_le_iff (ENat.natCast_ne_top 10)
  refine ⟨fun h => ?_, fun h => ?_, fun h => ⟨?_, ?_⟩,
    fun p hns hp => ⟨fun h => ?_, fun hk h => ?_⟩, fun s => ?_⟩
  · rw [hmore, hnext]
    intro hlt
    rw [hflag.2 hlt.le] at h
    contradiction
  · rw [hflag, hmore, hnext]
    exact ⟨fun hle => lt_of_le_of_ne hle (Ne.symm h), le_of_lt⟩
  · exact hflag.2 h.ge
  · rw [hmore, hnext, h]
    exact lt_irrefl 10
  · subst hns
    by_cases hk : o.kind = "Node"
    · exact Pod.warned_of_node hp hk
    · have hlt := h.resolve_left hk
      have hcomplete : r.complete = true := by
        rw [← Bool.not_eq_false, hflag]
        exact not_le.2 hlt
      rw [Pod.warned_of_owner hp hk]
      exact if_pos hcomplete
  · subst hns
    rw [Pod.warned_of_owner hp hk, if_neg (Bool.eq_false_iff.1 (hflag.2 h))]
  · simp only [Snapshot.enrich, List.filter_flatMap, List.flatMap_map]
    rfl

/-- A pod ten replica sets below a deployment. -/
theorem incomplete_at_top :
    let name (i : Nat) := "web-" ++ toString i
    let link (i : Nat) (o : OwnerRef) : ReplicaSet := ⟨name i, "shop", "", 1, some o⟩
    let links := (List.range 9).map fun i => link i ⟨"ReplicaSet", name (i + 1), ""⟩
    let owners := Owners.ofRecords (links ++ [link 9 ⟨"Deployment", "web", ""⟩]) []
    let r := owners.resolve "shop" ⟨"ReplicaSet", name 0, ""⟩
    r = ⟨⟨"Deployment", "web", ""⟩, false⟩
      ∧ ¬ (r.complete = false ↔ owners.HasOwner "shop" r.owner) := by
  intro name link links owners r
  have hr : r = ⟨⟨"Deployment", "web", ""⟩, false⟩ := by decide
  refine ⟨hr, fun h => ?_⟩
  have htop := (owners.hasOwner_iff "shop" _).1 (h.1 (by rw [hr]))
  rw [hr] at htop
  simp [parent, OwnerRef.replicaSetKind, OwnerRef.jobKind] at htop

end Owners

end ClusterCensus
