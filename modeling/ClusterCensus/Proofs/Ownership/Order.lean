import ClusterCensus.Proofs.Ownership.Enrich
import ClusterCensus.Proofs.Store.Reference

/-!
# Enrichment in any order

A snapshot lists the records of a store in some order, and of several records with a key the last
one counts when owners are looked up. Where each replica set and each job is stored under its own
key there is only one record with a key (`nodup_keys_run`), so the order does not matter: every pod
has the same owner in all snapshots of a store (`enrich_any_order`).
-/

namespace ClusterCensus

namespace SortedMap

variable {α : Type} {key : α → String}

theorem nodup_map_values {m : SortedMap α} (h : ∀ e ∈ m.entries, e.1 = key e.2) :
    (m.values.map key).Nodup := by
  have hmap : m.values.map key = m.entries.map (·.1) := by
    rw [values, List.map_map]
    exact List.map_congr_left fun e he => (h e he).symm
  rw [hmap]
  exact List.pairwise_map.2 (m.sorted.imp fun hlt => String.ne_of_lt hlt)

end SortedMap

/-- With one record for a key, the order of the records does not matter to who looks for it. -/
theorem filter_eq_of_perm {α : Type} {key : α → String} {l₁ l₂ : List α} (h : l₁.Perm l₂)
    (hkeys : (l₁.map key).Nodup) (k : String) :
    (l₁.filter fun x => key x = k) = l₂.filter fun x => key x = k := by
  have hperm := h.filter fun x => key x = k
  have hnodup := hkeys.sublist ((List.filter_sublist (p := fun x => key x = k)).map key)
  have hall : ∀ x ∈ l₁.filter fun x => key x = k, key x = k := by simp
  generalize (l₁.filter fun x => key x = k) = found at *
  match found with
  | [] => exact hperm.nil_eq
  | [x] => exact List.singleton_perm.1 hperm
  | x :: y :: _ =>
    refine absurd hnodup fun hn => (List.nodup_cons.1 hn).1 ?_
    rw [hall x (by simp), ← hall y (by simp)]
    simp

namespace Table

variable {α : Type} (key : α → String)

/-- Changes that put records only under their own keys leave no record under another one. -/
theorem ownKeys_run : ∀ (changes : List (Int × Change α)) (t : Table α),
    (∀ nowMs k x, (nowMs, .set k x) ∈ changes → k = key x) →
    (∀ e ∈ t.records.entries, e.1 = key e.2) →
    ∀ e ∈ (t.run changes).records.entries, e.1 = key e.2
  | [], _, _, ht => ht
  | (nowMs, c) :: changes, t, hset, ht => by
    refine ownKeys_run changes (t.apply nowMs c)
      (fun ms k x hmem => hset ms k x (List.mem_cons_of_mem _ hmem)) fun e he => ?_
    cases c with
    | set k x =>
      rcases SortedMap.mem_insertEntry he with rfl | he
      · exact hset nowMs k x List.mem_cons_self
      · exact ht e he
    | delete k => exact ht e (List.mem_filter.1 he).1
    | clear => exact absurd he List.not_mem_nil

end Table

namespace Store

/-- Whether changes put the records of a kind only under their own keys. -/
def KeysOwn (changes : List (Int × Change)) (k : Kind) : Prop :=
  ∀ nowMs key e, (nowMs, ⟨k, .set key e⟩) ∈ changes → key = k.entryKey e

theorem nodup_keys_run {changes : List (Int × Change)} {k : Kind} (h : KeysOwn changes k) :
    ((((empty.run changes).table k).values).map k.entryKey).Nodup := by
  refine SortedMap.nodup_map_values ?_
  rw [table_run]
  exact Table.ownKeys_run k.entryKey _ _ (fun ms key e hmem => h ms key e (mem_changesOf hmem))
    (fun e he => absurd he List.not_mem_nil)

end Store

namespace Snapshot

/-- A snapshot that lists what a store holds of pods, replica sets and jobs, in some order. -/
structure Lists (s : Snapshot) (st : Store) : Prop where
  pods : s.pods.Perm (st.table .pods).values
  replicaSets : s.replicaSets.Perm (st.table .replicaSets).values
  jobs : s.jobs.Perm (st.table .jobs).values

theorem parentOf_eq_of_perm {s₁ s₂ : Snapshot} (hr : s₁.replicaSets.Perm s₂.replicaSets)
    (hrkeys : (s₁.replicaSets.map ReplicaSet.key).Nodup) (hj : s₁.jobs.Perm s₂.jobs)
    (hjkeys : (s₁.jobs.map Job.key).Nodup) (ns : String) : s₁.parentOf ns = s₂.parentOf ns := by
  funext o
  unfold parentOf
  rw [filter_eq_of_perm hr hrkeys, filter_eq_of_perm hj hjkeys]

/-- Whatever was done to a store, as long as replica sets and jobs were put under their own keys:
two snapshots that list its pods, replica sets and jobs in any orders are enriched alike. The same
number of pods changes, and each pod has the same owner in both. -/
theorem enrich_any_order {changes : List (Int × Store.Change)}
    (hr : Store.KeysOwn changes .replicaSets) (hj : Store.KeysOwn changes .jobs)
    {s₁ s₂ : Snapshot} (h₁ : s₁.Lists (Store.empty.run changes))
    (h₂ : s₂.Lists (Store.empty.run changes)) :
    s₁.enrich.changed = s₂.enrich.changed
      ∧ s₁.enrich.snapshot.pods.Perm s₂.enrich.snapshot.pods
      ∧ ∃ owner : Pod → Option OwnerRef,
        s₁.enrich.snapshot.pods = s₁.pods.map (fun p => { p with owner := owner p })
          ∧ s₂.enrich.snapshot.pods = s₂.pods.map (fun p => { p with owner := owner p }) := by
  have hparent : ∀ ns, s₁.parentOf ns = s₂.parentOf ns :=
    parentOf_eq_of_perm (h₁.replicaSets.trans h₂.replicaSets.symm)
      (((h₁.replicaSets.map _).nodup_iff).2 (Store.nodup_keys_run hr))
      (h₁.jobs.trans h₂.jobs.symm) (((h₁.jobs.map _).nodup_iff).2 (Store.nodup_keys_run hj))
  have henrich : Pod.enrich (.ofSnapshot s₁) = Pod.enrich (.ofSnapshot s₂) := funext fun p =>
    Pod.enrich_congr (by rw [parent_ofSnapshot, parent_ofSnapshot, hparent])
  have hperm := h₁.pods.trans h₂.pods.symm
  refine ⟨?_, ?_, fun p => (p.enrich (.ofSnapshot s₁)).pod.owner, ?_, ?_⟩
  · unfold enrich
    rw [henrich]
    exact (hperm.map _).countP_eq _
  · rw [pods_enrich, pods_enrich, henrich]
    exact hperm.map _
  · rw [pods_enrich]
    exact List.map_congr_left fun p _ => Pod.pod_enrich ..
  · rw [pods_enrich, henrich]
    exact List.map_congr_left fun p _ => Pod.pod_enrich ..

/-- The records of a store in the order of their keys and in the opposite one. -/
theorem enrich_backwards :
    let owner (kind name : String) : Option OwnerRef := some ⟨kind, name, "1"⟩
    let pod (name : String) (o : Option OwnerRef) : Pod :=
      ⟨name, "shop", "2", none, "Running", o, ∅, 0, 0⟩
    let changes : List (Int × Store.Change) :=
      [(1, ⟨.replicaSets, .set "shop/web-1" ⟨"web-1", "shop", "3", 1, owner "Deployment" "old"⟩⟩),
        (2, ⟨.replicaSets, .set "shop/web-1" ⟨"web-1", "shop", "4", 1, owner "Deployment" "web"⟩⟩),
        (3, ⟨.replicaSets, .set "shop/web-2" ⟨"web-2", "shop", "5", 1, owner "Deployment" "web"⟩⟩),
        (4, ⟨.jobs, .set "shop/sum-1" ⟨"sum-1", "shop", "6", none, some "sum", 0, 0⟩⟩),
        (5, ⟨.pods, .set "a" (pod "a" (owner "ReplicaSet" "web-1"))⟩),
        (6, ⟨.pods, .set "b" (pod "b" (owner "Job" "sum-1"))⟩)]
    let s₁ := (Store.empty.run changes).snapshot 7
    let s₂ : Snapshot := ⟨8, fun k => (s₁.entries k).reverse⟩
    Store.KeysOwn changes .replicaSets ∧ Store.KeysOwn changes .jobs
      ∧ s₁.Lists (Store.empty.run changes) ∧ s₂.Lists (Store.empty.run changes)
      ∧ s₁.replicaSets ≠ s₂.replicaSets
      ∧ s₁.enrich.changed = 2 ∧ s₂.enrich.changed = 2
      ∧ s₁.enrich.snapshot.pods.Perm s₂.enrich.snapshot.pods := by
  intro owner pod changes s₁ s₂
  have hr : Store.KeysOwn changes .replicaSets := by
    intro nowMs key e he
    simp [changes] at he
    rcases he with ⟨-, rfl, rfl⟩ | ⟨-, rfl, rfl⟩ | ⟨-, rfl, rfl⟩ <;> rfl
  have hj : Store.KeysOwn changes .jobs := by
    intro nowMs key e he
    simp [changes] at he
    rcases he with ⟨-, rfl, rfl⟩
    rfl
  have h₁ : s₁.Lists (Store.empty.run changes) := ⟨.refl _, .refl _, .refl _⟩
  have h₂ : s₂.Lists (Store.empty.run changes) :=
    ⟨List.reverse_perm _, List.reverse_perm _, List.reverse_perm _⟩
  obtain ⟨hchanged, hperm, -⟩ := enrich_any_order hr hj h₁ h₂
  have hcount : s₁.enrich.changed = 2 := by decide
  exact ⟨hr, hj, h₁, h₂, by decide, hcount, hchanged ▸ hcount, hperm⟩

end Snapshot

end ClusterCensus
