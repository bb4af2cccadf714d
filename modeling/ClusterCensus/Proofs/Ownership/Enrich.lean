import ClusterCensus.Ownership.Enrich
import ClusterCensus.Proofs.Ownership.Chain
import ClusterCensus.Proofs.Snapshot
import Mathlib.Data.List.Forall2

/-!
# What enrichment changes

The lists of a snapshot say what the owner of an owner is (`parentOf`); of several records with a
key the last one counts. Enrichment gives each pod the owner as far up its chain as the hops lead
(`TopOwner`), and says of each pod that it gave another owner that it did. Nothing else is touched
(`enrich_owners`).
-/

namespace ClusterCensus

open Log (Record)

namespace Snapshot

variable (s : Snapshot)

/-- The owner of an owner, by the last record that has its key. -/
def parentOf (ns : String) (o : OwnerRef) : Option OwnerRef :=
  if o.kind = "ReplicaSet" then
    (s.replicaSets.filter fun r => r.key = objectKey (some ns) o.name).getLast?.bind (·.owner)
  else if o.kind = "Job" then
    ((s.jobs.filter fun j => j.key = objectKey (some ns) o.name).getLast?.bind (·.cronJob)).map
      fun c => ⟨"CronJob", c, ""⟩
  else none

theorem parent_ofSnapshot (ns : String) : (Owners.ofSnapshot s).parent ns = s.parentOf ns := by
  funext o
  simp only [Owners.parent, Owners.ofSnapshot, Owners.ofRecords, SortedMap.get?_ofList_map]
  rfl

/-- The owners that the records of a snapshot name. -/
def namedOwners : List OwnerRef :=
  s.replicaSets.filterMap (·.owner)
    ++ (s.jobs.filterMap (·.cronJob)).map fun c => ⟨"CronJob", c, ""⟩

theorem parentOf_mem {ns : String} {o p : OwnerRef} (h : s.parentOf ns o = some p) :
    p ∈ s.namedOwners := by
  unfold parentOf at h
  split_ifs at h
  · obtain ⟨r, hr, hp⟩ := Option.bind_eq_some_iff.1 h
    have hmem := (List.mem_filter.1 (List.mem_of_getLast? hr)).1
    exact List.mem_append_left _ (List.mem_filterMap.2 ⟨r, hmem, hp⟩)
  · obtain ⟨c, hc, rfl⟩ := Option.map_eq_some_iff.1 h
    obtain ⟨j, hj, hc⟩ := Option.bind_eq_some_iff.1 hc
    have hmem := (List.mem_filter.1 (List.mem_of_getLast? hj)).1
    exact List.mem_append_right _ (List.mem_map_of_mem (List.mem_filterMap.2 ⟨j, hmem, hc⟩))

/-- Which owner a pod is to have: none if it has none, a node if it is a node's, and else the one as
far up its chain as ten hops lead. -/
def TopOwner (p : Pod) (new : Option OwnerRef) : Prop :=
  match p.owner with
  | none => new = none
  | some o =>
    if o.kind = "Node" then new = some o
    else ∃ k : Nat, (k : ENat) = min 10 (chainLength (s.parentOf p.ns) o)
      ∧ ∃ top, ancestor (s.parentOf p.ns) o k = some top ∧ new = some top

end Snapshot

namespace Pod

variable {owners : Owners} {p : Pod} {o : OwnerRef}

/-- What is warned of when the chain of a pod's owner is climbed. -/
def warnings (owners : Owners) (p : Pod) (o : OwnerRef) : List Record :=
  if (owners.resolve p.ns o).complete then [] else [p.overBudget (owners.resolve p.ns o).owner]

theorem filter_warnings : (p.warnings owners o).filter (·.level = .debug) = [] := by
  unfold warnings
  split_ifs <;> rfl

theorem enrich_of_none (h : p.owner = none) : p.enrich owners = ⟨p, false, []⟩ := by
  simp only [enrich, h]

theorem enrich_of_node (h : p.owner = some o) (hk : o.kind = OwnerRef.nodeKind) :
    p.enrich owners = ⟨p, false, []⟩ := by
  simp only [enrich, h, if_pos hk]

theorem enrich_of_top (h : p.owner = some o) (hk : o.kind ≠ OwnerRef.nodeKind)
    (ht : (owners.resolve p.ns o).owner = o) :
    p.enrich owners = ⟨p, false, p.warnings owners o⟩ := by
  simp only [enrich, h, if_neg hk, if_pos ht]
  rfl

theorem enrich_of_below (h : p.owner = some o) (hk : o.kind ≠ OwnerRef.nodeKind)
    (ht : (owners.resolve p.ns o).owner ≠ o) :
    p.enrich owners = ⟨{ p with owner := some (owners.resolve p.ns o).owner }, true,
      p.warnings owners o ++ [p.reassigned o (owners.resolve p.ns o).owner]⟩ := by
  simp only [enrich, h, if_neg hk, if_neg ht]
  rfl

/-- At most the owner of a pod changes, and if it does that is told. -/
theorem enrich_cases (owners : Owners) (p : Pod) :
    ((p.enrich owners).pod = p ∧ (p.enrich owners).changed = false
        ∧ (p.enrich owners).logs.filter (·.level = .debug) = [])
      ∨ ∃ o top, p.owner = some o ∧ top ≠ o
        ∧ (p.enrich owners).pod = { p with owner := some top } ∧ (p.enrich owners).changed = true
        ∧ (p.enrich owners).logs.filter (·.level = .debug) = [p.reassigned o top] := by
  rcases h : p.owner with _ | o
  · rw [enrich_of_none h]
    exact .inl ⟨rfl, rfl, rfl⟩
  · by_cases hk : o.kind = OwnerRef.nodeKind
    · rw [enrich_of_node h hk]
      exact .inl ⟨rfl, rfl, rfl⟩
    · by_cases ht : (owners.resolve p.ns o).owner = o
      · rw [enrich_of_top h hk ht]
        exact .inl ⟨rfl, rfl, filter_warnings⟩
      · rw [enrich_of_below h hk ht]
        refine .inr ⟨o, _, rfl, ht, rfl, rfl, ?_⟩
        rw [List.filter_append, filter_warnings]
        rfl

theorem topOwner_enrich (s : Snapshot) (p : Pod) :
    s.TopOwner p (p.enrich (.ofSnapshot s)).pod.owner := by
  unfold Snapshot.TopOwner
  rcases h : p.owner with _ | o
  · rw [enrich_of_none h]
    exact h
  · by_cases hk : o.kind = OwnerRef.nodeKind
    · rw [enrich_of_node h hk]
      exact (if_pos hk).mpr h
    · obtain ⟨k, hmin, hreach⟩ := ancestor_climb (s.parentOf p.ns) maxOwnerHops o
      refine (if_neg hk).mpr ⟨k, hmin, _, hreach, ?_⟩
      rw [← s.parent_ofSnapshot]
      by_cases ht : ((Owners.ofSnapshot s).resolve p.ns o).owner = o
      · rw [enrich_of_top h hk ht]
        exact h.trans (congrArg some ht.symm)
      · rw [enrich_of_below h hk ht]
        rfl

/-- The owner given to a pod depends only on what is looked up in its namespace. -/
theorem enrich_congr {owners₁ owners₂ : Owners} {p : Pod}
    (h : owners₁.parent p.ns = owners₂.parent p.ns) : p.enrich owners₁ = p.enrich owners₂ := by
  unfold enrich Owners.resolve
  rw [h]

theorem pod_enrich (owners : Owners) (p : Pod) :
    (p.enrich owners).pod = { p with owner := (p.enrich owners).pod.owner } := by
  rcases enrich_cases owners p with ⟨hpod, -⟩ | ⟨_, _, -, -, hpod, -⟩
  · rw [hpod]
  · rw [hpod]

theorem changed_enrich (owners : Owners) (p : Pod) :
    (p.enrich owners).changed = decide ((p.enrich owners).pod.owner ≠ p.owner) := by
  rcases enrich_cases owners p with ⟨hpod, hchanged, -⟩ | ⟨o, top, ho, hne, hpod, hchanged, -⟩
  · rw [hpod, hchanged]
    simp
  · rw [hpod, hchanged, ho]
    simpa using hne

end Pod

namespace Snapshot

theorem pods_enrich (s : Snapshot) :
    s.enrich.snapshot.pods = s.pods.map fun p => (p.enrich (.ofSnapshot s)).pod :=
  (s.entries_replace_self ..).trans (List.map_map ..)

/-- That a record tells of a pod that it was given another owner. -/
def Tells (moved : Pod × Pod) (r : Record) : Prop :=
  ∃ o top, moved.1.owner = some o ∧ moved.2.owner = some top ∧ r = moved.1.reassigned o top

/-- The pods that were given another owner, before and after. -/
def moved (ps qs : List Pod) : List (Pod × Pod) :=
  (ps.zip qs).filter fun m => m.2.owner ≠ m.1.owner

theorem moved_enrich (owners : Owners) : ∀ ps : List Pod,
    (ps.map (Pod.enrich owners)).countP (·.changed)
        = (moved ps ((ps.map (Pod.enrich owners)).map (·.pod))).length
      ∧ List.Forall₂ Tells (moved ps ((ps.map (Pod.enrich owners)).map (·.pod)))
        (((ps.map (Pod.enrich owners)).flatMap (·.logs)).filter (·.level = .debug))
  | [] => ⟨rfl, .nil⟩
  | p :: ps => by
    obtain ⟨ihcount, ihtells⟩ := moved_enrich owners ps
    simp only [List.map_cons, List.flatMap_cons, List.filter_append, List.countP_cons, moved,
      List.zip_cons_cons, List.filter_cons, Pod.changed_enrich owners p] at ihcount ihtells ⊢
    rcases Pod.enrich_cases owners p with ⟨hpod, -, hlogs⟩ | ⟨o, top, ho, hne, hpod, -, hlogs⟩
    · rw [hlogs, hpod]
      simp only [ne_eq, not_true_eq_false, decide_false, Bool.false_eq_true, ↓reduceIte,
        Nat.add_zero, List.nil_append]
      exact ⟨ihcount, ihtells⟩
    · rw [hlogs, hpod, ho]
      have hne' : some top ≠ some o := fun h => hne (Option.some.inj h)
      simp only [hne', ne_eq, not_false_eq_true, decide_true, ↓reduceIte, List.length_cons,
        List.cons_append, List.nil_append]
      exact ⟨congrArg (· + 1) ihcount, .cons ⟨o, top, ho, rfl, rfl⟩ ihtells⟩

/-- Enrichment changes the owners of pods and nothing else. Each pod has its top owner in the end,
the number returned is that of the pods with another owner than before, and each of them has one
record at the level of details, in their order. A chain is endless just when it comes back to where
it has been. -/
theorem enrich_owners (s : Snapshot) :
    s.enrich.snapshot.capturedAtMs = s.capturedAtMs
      ∧ (∀ k ≠ .pods, s.enrich.snapshot.entries k = s.entries k)
      ∧ List.Forall₂ (fun p q => q = { p with owner := q.owner } ∧ s.TopOwner p q.owner)
        s.pods s.enrich.snapshot.pods
      ∧ s.enrich.changed = (moved s.pods s.enrich.snapshot.pods).length
      ∧ List.Forall₂ Tells (moved s.pods s.enrich.snapshot.pods)
        (s.enrich.logs.filter (·.level = .debug))
      ∧ ∀ ns o, chainLength (s.parentOf ns) o = ⊤ ↔ ComesBack (s.parentOf ns) o := by
  have hpods : s.enrich.snapshot.pods
      = (s.pods.map (Pod.enrich (.ofSnapshot s))).map (·.pod) := s.entries_replace_self ..
  obtain ⟨hcount, htells⟩ := moved_enrich (.ofSnapshot s) s.pods
  rw [hpods]
  refine ⟨rfl, fun k hk => s.entries_replace_of_ne _ hk, ?_, hcount, htells,
    fun ns o => chainLength_eq_top_iff fun _ _ => s.parentOf_mem⟩
  rw [List.map_map, List.forall₂_map_right_iff, List.forall₂_same]
  exact fun p _ => ⟨Pod.pod_enrich _ p, Pod.topOwner_enrich s p⟩

end Snapshot

end ClusterCensus
