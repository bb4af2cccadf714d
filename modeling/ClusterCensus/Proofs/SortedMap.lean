import ClusterCensus.SortedMap
import Mathlib.Data.List.Nodup
import Mathlib.Tactic.Common

/-!
# Looking up what was bound

Binding a key changes what is found at that key and nowhere else (`get?_insert`). So a map that is
collected from bindings gives for each key the value of the last binding of it (`get?_ofList`), and
a map collected from its own bindings is that map (`ofList_entries`).
-/

namespace ClusterCensus.SortedMap

variable {α : Type*}

theorem find?_insertEntry (key k : String) (value : α) : ∀ l : List (String × α),
    (insertEntry key value l).find? (fun e => e.1 = k)
      = if key = k then some (key, value) else l.find? (fun e => e.1 = k)
  | [] => by simp only [insertEntry, List.find?_cons, List.find?_nil]; split_ifs <;> simp_all
  | (j, x) :: rest => by
    have ih := find?_insertEntry key k value rest
    simp only [insertEntry]
    by_cases hk : key = k
    · subst hk
      rw [if_pos rfl] at ih ⊢
      split_ifs with hlt heq
      · simp
      · simp
      · rw [List.find?_cons_of_neg (by simpa using Ne.symm heq), ih]
    · rw [if_neg hk] at ih ⊢
      split_ifs with hlt heq
      · rw [List.find?_cons_of_neg (by simpa using hk)]
      · subst heq
        rw [List.find?_cons_of_neg (by simpa using hk), List.find?_cons_of_neg (by simpa using hk)]
      · simp only [List.find?_cons, ih]

theorem get?_insert (m : SortedMap α) (key k : String) (value : α) :
    (m.insert key value).get? k = if key = k then some value else m.get? k := by
  simp only [get?, insert, find?_insertEntry]
  split_ifs <;> rfl

theorem find?_key_eq_some {l : List (String × α)} (hnodup : (l.map (·.1)).Nodup) {key : String}
    {value : α} :
    (l.find? fun e => e.1 = key).map (·.2) = some value ↔ (key, value) ∈ l := by
  constructor
  · intro h
    obtain ⟨⟨k, v⟩, hfind, rfl⟩ := Option.map_eq_some_iff.1 h
    obtain rfl : k = key := by simpa using List.find?_some hfind
    exact List.mem_of_find?_eq_some hfind
  · intro h
    rcases hfind : l.find? (fun e => e.1 = key) with _ | e
    · exact absurd (List.find?_eq_none.1 hfind _ h) (by simp)
    · have hkey : e.1 = key := by simpa using List.find?_some hfind
      rw [hfind, List.inj_on_of_nodup_map hnodup (List.mem_of_find?_eq_some hfind) h hkey]
      rfl

theorem get?_eq_some {m : SortedMap α} {key : String} {value : α} :
    m.get? key = some value ↔ (key, value) ∈ m.entries :=
  find?_key_eq_some (List.pairwise_map.2 (m.sorted.imp fun h => String.ne_of_lt h))

theorem mem_values {m : SortedMap α} {value : α} :
    value ∈ m.values ↔ ∃ key, m.get? key = some value := by
  simp [values, get?_eq_some]

theorem get?_foldl_insert (k : String) : ∀ (l : List (String × α)) (m : SortedMap α),
    (l.foldl (fun m b => m.insert b.1 b.2) m).get? k
      = ((l.filter fun b => b.1 = k).getLast?.map (·.2)).or (m.get? k)
  | [], m => by simp
  | b :: bs, m => by
    rw [List.foldl_cons, get?_foldl_insert k bs, get?_insert]
    by_cases hk : b.1 = k
    · rw [if_pos hk, List.filter_cons_of_pos (by simpa using hk), List.getLast?_cons]
      cases (bs.filter fun b => b.1 = k).getLast? <;> rfl
    · rw [if_neg hk, List.filter_cons_of_neg (by simpa using hk)]

theorem get?_ofList (k : String) (l : List (String × α)) :
    (ofList l).get? k = (l.filter fun b => b.1 = k).getLast?.map (·.2) := by
  rw [ofList, get?_foldl_insert]
  exact Option.or_none

/-- A map of things by a key of theirs gives the last one with a key. -/
theorem get?_ofList_map (key : α → String) (k : String) (l : List α) :
    (ofList (l.map fun x => (key x, x))).get? k = (l.filter fun x => key x = k).getLast? := by
  rw [get?_ofList, List.filter_map, List.getLast?_map, Option.map_map]
  exact Option.map_id'

theorem insertEntry_of_forall_lt {key : String} {value : α} : ∀ {l : List (String × α)},
    (∀ e ∈ l, e.1 < key) → insertEntry key value l = l ++ [(key, value)]
  | [], _ => rfl
  | (k, x) :: rest, h => by
    obtain ⟨hk, hrest⟩ := List.forall_mem_cons.1 h
    rw [insertEntry, if_neg (String.lt_asymm hk), if_neg (String.ne_of_lt hk).symm,
      insertEntry_of_forall_lt hrest, List.cons_append]

theorem entries_foldl_insert : ∀ (l : List (String × α)) (m : SortedMap α),
    (m.entries ++ l).Pairwise (fun a b => a.1 < b.1) →
      (l.foldl (fun m b => m.insert b.1 b.2) m).entries = m.entries ++ l
  | [], m, _ => by simp
  | b :: bs, m, h => by
    have hb : (m.insert b.1 b.2).entries = m.entries ++ [b] :=
      insertEntry_of_forall_lt fun e he =>
        (List.pairwise_append.1 h).2.2 e he b List.mem_cons_self
    rw [List.foldl_cons, entries_foldl_insert bs, hb, List.append_assoc, List.singleton_append]
    rwa [hb, List.append_assoc, List.singleton_append]

theorem ofList_entries (m : SortedMap α) : ofList m.entries = m :=
  ext_entries (entries_foldl_insert m.entries empty m.sorted)

end ClusterCensus.SortedMap
