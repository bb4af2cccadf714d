import ClusterCensus.Proofs.SortedMap
import ClusterCensus.Snapshot
import Mathlib.Algebra.GroupWithZero.Nat

/-!
# Kind by kind

What is told of each kind is found under its name and under no other (`Kind.name_injective`), and
what is put in the place of one kind's records leaves those of the others.
-/

namespace ClusterCensus

theorem Json.member?_insertEntry (key n : String) (v : Json) (ms : List (String × Json)) :
    member? (SortedMap.insertEntry key v ms) n = if key = n then some v else member? ms n := by
  simp only [member?, SortedMap.find?_insertEntry]
  split_ifs <;> rfl

namespace Kind

theorem sum_eq (count : Kind → Nat) : Kind.sum count = (all.map count).sum := by
  unfold Kind.sum
  rw [List.sum_eq_foldr, List.foldr_map]

theorem lookup_all {β : Type} (f : Kind → β) (k : Kind) :
    (all.map fun j => (j, f j)).lookup k = some (f k) := by
  cases k <;> rfl

theorem nodup_names : (all.map name).Nodup := by
  decide

theorem name_injective : Function.Injective name := fun j k h =>
  List.inj_on_of_nodup_map nodup_names (mem_all j) (mem_all k) h

/-- Members with a value for each of some kinds, put among others. -/
def putAll (value : Kind → Json) (ks : List Kind) (ms : List (String × Json)) :
    List (String × Json) :=
  ks.foldl (fun ms k => SortedMap.insertEntry k.name (value k) ms) ms

variable (value : Kind → Json)

theorem member?_putAll_of_ne {n : String} : ∀ (ks : List Kind) (ms : List (String × Json)),
    n ∉ ks.map name → Json.member? (putAll value ks ms) n = Json.member? ms n
  | [], _, _ => rfl
  | k :: ks, ms, h => by
    obtain ⟨hk, hks⟩ := not_or.1 (List.mem_cons.not.1 h)
    have ih := member?_putAll_of_ne ks (SortedMap.insertEntry k.name (value k) ms) hks
    rw [Json.member?_insertEntry, if_neg (Ne.symm hk)] at ih
    exact ih

theorem member?_putAll {k : Kind} : ∀ (ks : List Kind) (ms : List (String × Json)),
    k ∈ ks → Json.member? (putAll value ks ms) k.name = some (value k)
  | j :: ks, ms, h => by
    by_cases hk : k ∈ ks
    · exact member?_putAll ks _ hk
    · obtain rfl : k = j := (List.mem_cons.1 h).resolve_right hk
      have hname : k.name ∉ ks.map name := fun hmem => by
        obtain ⟨j, hj, hjk⟩ := List.mem_map.1 hmem
        exact hk (name_injective hjk ▸ hj)
      have hrest :=
        member?_putAll_of_ne value ks (SortedMap.insertEntry k.name (value k) ms) hname
      rw [Json.member?_insertEntry, if_pos rfl] at hrest
      exact hrest

theorem pairwise_putAll : ∀ (ks : List Kind) (ms : List (String × Json)),
    ms.Pairwise (fun a b => a.1 < b.1) →
      (putAll value ks ms).Pairwise (fun a b => a.1 < b.1)
  | [], _, h => h
  | _ :: ks, _, h => pairwise_putAll ks _ (SortedMap.pairwise_insertEntry h)

theorem get?_ofMembers (k : Kind) :
    (Json.ofMembers (all.map fun k => (k.name, value k))).get? k.name = some (value k) := by
  rw [Json.ofMembers, List.foldl_map]
  exact member?_putAll value all [] (mem_all k)

end Kind

namespace Snapshot

variable (s : Snapshot)

theorem entries_replace_self (k : Kind) (es : List k.Entry) : (s.replace k es).entries k = es := by
  simp [replace]

theorem entries_replace_of_ne {j k : Kind} (es : List k.Entry) (h : j ≠ k) :
    (s.replace k es).entries j = s.entries j := by
  simp [replace, h]

end Snapshot

end ClusterCensus
