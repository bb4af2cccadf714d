import ClusterCensus.Proofs.Ownership.Budget

/-!
# Enriching again

A pod is passed over in silence just when its owner has no further one (`logs_enrich_eq_nil`), and
the owner that enrichment gives it has no further one just when the chain was no longer than the
hops (`parent_owner_enrich`). So where no chain is longer than that, there is nothing left to do for
a second enrichment, and nowhere else (`enrich_again`).
-/

namespace ClusterCensus

namespace Owners

variable {owners : Owners} {ns : String} {o : OwnerRef}

theorem parent_of_node (h : o.kind = OwnerRef.nodeKind) : owners.parent ns o = none := by
  unfold parent
  rw [h, if_neg (by decide), if_neg (by decide)]

theorem resolve_of_top (h : owners.parent ns o = none) : owners.resolve ns o = ⟨o, true⟩ := by
  simp only [resolve, maxOwnerHops, climb, h]

end Owners

namespace Pod

variable {owners : Owners} {p : Pod}

/-- The owner of a pod, if it has one, has no further one. -/
def AtTop (owners : Owners) (p : Pod) : Prop :=
  ∀ o, p.owner = some o → owners.parent p.ns o = none

theorem enrich_of_atTop (h : p.AtTop owners) : p.enrich owners = ⟨p, false, []⟩ := by
  rcases ho : p.owner with _ | o
  · exact enrich_of_none ho
  · by_cases hk : o.kind = OwnerRef.nodeKind
    · exact enrich_of_node ho hk
    · have hr := Owners.resolve_of_top (h o ho)
      rw [enrich_of_top ho hk (by rw [hr]), warnings, hr]
      rfl

theorem logs_enrich_eq_nil : (p.enrich owners).logs = [] ↔ p.AtTop owners := by
  refine ⟨fun h o ho => ?_, fun h => by rw [enrich_of_atTop h]⟩
  by_cases hk : o.kind = OwnerRef.nodeKind
  · exact Owners.parent_of_node hk
  · by_cases ht : (owners.resolve p.ns o).owner = o
    · rw [enrich_of_top ho hk ht, warnings, ite_eq_left_iff] at h
      have hcomplete : (owners.resolve p.ns o).complete = true := by
        by_contra hne
        cases h hne
      exact ht ▸ parent_of_complete hcomplete
    · rw [enrich_of_below ho hk ht] at h
      simp at h

/-- Who has climbed from an owner as far as the hops lead is at the top just when the chain is no
longer than they are. -/
theorem atTop_enrich : (p.enrich owners).pod.AtTop owners
    ↔ ∀ o, p.owner = some o → chainLength (owners.parent p.ns) o ≤ 10 := by
  rcases ho : p.owner with _ | o
  · rw [enrich_of_none ho]
    simp [AtTop, ho]
  · have hshort : owners.parent p.ns (owners.resolve p.ns o).owner = none
        ↔ chainLength (owners.parent p.ns) o ≤ 10 := by
      rw [← Option.not_isSome_iff_eq_none, Owners.resolve, parent_climb, not_le]
      exact ENat.lt_add_one_iff (ENat.natCast_ne_top 10)
    simp only [Option.some.injEq, forall_eq', ← hshort]
    by_cases hk : o.kind = OwnerRef.nodeKind
    · have htop : owners.parent p.ns o = none := Owners.parent_of_node hk
      rw [enrich_of_node ho hk, Owners.resolve_of_top htop]
      simp [AtTop, ho]
    · by_cases ht : (owners.resolve p.ns o).owner = o
      · rw [enrich_of_top ho hk ht, ht]
        simp [AtTop, ho]
      · rw [enrich_of_below ho hk ht]
        simp [AtTop]

end Pod

namespace Snapshot

theorem replace_self (s : Snapshot) (k : Kind) : s.replace k (s.entries k) = s := by
  have hentries : (s.replace k (s.entries k)).entries = s.entries := by
    funext j
    by_cases hj : j = k
    · subst hj
      exact s.entries_replace_self ..
    · exact s.entries_replace_of_ne _ hj
  exact congrArg (Snapshot.mk s.capturedAtMs) hentries

theorem ofSnapshot_enrich (s : Snapshot) :
    Owners.ofSnapshot s.enrich.snapshot = Owners.ofSnapshot s := rfl

theorem logs_enrich (s : Snapshot) :
    s.enrich.logs = s.pods.flatMap fun p => (p.enrich (.ofSnapshot s)).logs := by
  simp only [enrich, List.flatMap_map]

/-- Enrichment has nothing to do for pods whose owners have no further ones. -/
theorem enrich_of_atTop {s : Snapshot} (h : ∀ p ∈ s.pods, p.AtTop (.ofSnapshot s)) :
    s.enrich.changed = 0 ∧ s.enrich.snapshot = s ∧ s.enrich.logs = [] := by
  have hsame : s.pods.map (Pod.enrich (.ofSnapshot s)) = s.pods.map fun p => ⟨p, false, []⟩ :=
    List.map_congr_left fun p hp => Pod.enrich_of_atTop (h p hp)
  have hpods : (s.pods.map (Pod.enrich (.ofSnapshot s))).map (·.pod) = s.pods := by
    rw [hsame, List.map_map]
    exact List.map_id' _
  refine ⟨?_, (congrArg (s.replace .pods) hpods).trans (s.replace_self .pods), ?_⟩
  · exact List.countP_eq_zero.2 (by simp [hsame])
  · exact List.flatMap_eq_nil_iff.2 (by simp [hsame])

/-- Enriching a snapshot again changes nothing, returns that nothing was changed and logs nothing,
if no chain of a pod comes back to where it has been or has more than ten hops. It does so only
then: any other pod is given another owner again, or warned of. -/
theorem enrich_again (s : Snapshot) :
    (∀ p ∈ s.pods, ∀ o, p.owner = some o →
        ¬ (ComesBack (s.parentOf p.ns) o ∨ 10 < chainLength (s.parentOf p.ns) o))
      ↔ s.enrich.snapshot.enrich.changed = 0
        ∧ s.enrich.snapshot.enrich.snapshot = s.enrich.snapshot
        ∧ s.enrich.snapshot.enrich.logs = [] := by
  -- A chain that comes back is endless, so it is longer than ten hops.
  have hlong : ∀ p : Pod, ∀ o, ComesBack (s.parentOf p.ns) o →
      10 < chainLength (s.parentOf p.ns) o := fun p o h => by
    rw [(chainLength_eq_top_iff fun _ _ => s.parentOf_mem).2 h]
    exact ENat.natCast_lt_top 10
  have hatTop : (∀ p ∈ s.enrich.snapshot.pods, p.AtTop (.ofSnapshot s.enrich.snapshot))
      ↔ ∀ p ∈ s.pods, ∀ o, p.owner = some o → chainLength (s.parentOf p.ns) o ≤ 10 := by
    rw [pods_enrich, List.forall_mem_map, ofSnapshot_enrich]
    refine forall₂_congr fun p _ => ?_
    rw [Pod.atTop_enrich, parent_ofSnapshot]
  have hshort : (∀ p ∈ s.pods, ∀ o, p.owner = some o →
      ¬ (ComesBack (s.parentOf p.ns) o ∨ 10 < chainLength (s.parentOf p.ns) o))
      ↔ ∀ p ∈ s.pods, ∀ o, p.owner = some o → chainLength (s.parentOf p.ns) o ≤ 10 := by
    refine forall₂_congr fun p _ => forall₂_congr fun o _ => ?_
    rw [or_iff_right_of_imp (hlong p o), not_lt]
  rw [hshort, ← hatTop]
  refine ⟨fun h => ?_, fun ⟨_, _, hlogs⟩ p hp => ?_⟩
  · exact enrich_of_atTop h
  · rw [logs_enrich, List.flatMap_eq_nil_iff] at hlogs
    exact Pod.logs_enrich_eq_nil.1 (hlogs p hp)

end Snapshot

end ClusterCensus
