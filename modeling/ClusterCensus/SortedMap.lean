/-!
# Finite maps with text keys

Finite maps with text keys are kept as a list of bindings in strictly increasing order of key. Two
maps with the same bindings are equal, and a walk over a map always takes the same order.
-/

namespace ClusterCensus

universe u

/-- A map from texts to `α`. -/
structure SortedMap (α : Type u) where
  entries : List (String × α)
  sorted : entries.Pairwise (fun a b => a.1 < b.1)

namespace SortedMap

variable {α : Type u}

theorem ext_entries {m n : SortedMap α} (h : m.entries = n.entries) : m = n := by
  cases m; cases n; cases h; rfl

instance [DecidableEq α] : DecidableEq (SortedMap α) := fun m n =>
  if h : m.entries = n.entries then isTrue (ext_entries h)
  else isFalse fun e => h (e ▸ rfl)

/-- Puts a binding into a list of bindings, in the place of an older one with the same key. -/
def insertEntry (key : String) (value : α) : List (String × α) → List (String × α)
  | [] => [(key, value)]
  | (k, x) :: rest =>
    if key < k then (key, value) :: (k, x) :: rest
    else if key = k then (key, value) :: rest
    else (k, x) :: insertEntry key value rest

theorem lt_of_not_lt_of_ne {a b : String} (h : ¬ a < b) (hne : a ≠ b) : b < a := by
  have := String.not_lt.mp h
  grind

theorem mem_insertEntry {key : String} {value : α} {e : String × α} :
    ∀ {l : List (String × α)}, e ∈ insertEntry key value l → e = (key, value) ∨ e ∈ l
  | [], h => by simpa [insertEntry] using h
  | (k, x) :: rest, h => by
    simp only [insertEntry] at h
    split at h
    · simpa using h
    · split at h
      · simp only [List.mem_cons] at h
        rcases h with h | h
        · exact .inl h
        · exact .inr (List.mem_cons_of_mem _ h)
      · simp only [List.mem_cons] at h
        rcases h with h | h
        · exact .inr (h ▸ List.mem_cons_self)
        · rcases mem_insertEntry h with h | h
          · exact .inl h
          · exact .inr (List.mem_cons_of_mem _ h)

theorem pairwise_insertEntry {key : String} {value : α} :
    ∀ {l : List (String × α)}, l.Pairwise (fun a b => a.1 < b.1) →
      (insertEntry key value l).Pairwise (fun a b => a.1 < b.1)
  | [], _ => by simp [insertEntry]
  | (k, x) :: rest, h => by
    have hk : ∀ e ∈ rest, k < e.1 := (List.pairwise_cons.mp h).1
    have hr := (List.pairwise_cons.mp h).2
    simp only [insertEntry]
    split
    · rename_i hlt
      refine List.pairwise_cons.mpr ⟨fun e he => ?_, h⟩
      rcases List.mem_cons.mp he with he | he
      · exact he ▸ hlt
      · exact String.lt_trans hlt (hk e he)
    · rename_i hnlt
      split
      · rename_i heq
        exact List.pairwise_cons.mpr ⟨fun e he => heq ▸ hk e he, hr⟩
      · rename_i hne
        refine List.pairwise_cons.mpr ⟨fun e he => ?_, pairwise_insertEntry hr⟩
        rcases mem_insertEntry he with he | he
        · exact he ▸ lt_of_not_lt_of_ne hnlt hne
        · exact hk e he

/-- The map without bindings. -/
def empty : SortedMap α := ⟨[], .nil⟩

instance : EmptyCollection (SortedMap α) := ⟨empty⟩

instance : Inhabited (SortedMap α) := ⟨empty⟩

/-- Binds a key, in the place of an older binding. -/
def insert (m : SortedMap α) (key : String) (value : α) : SortedMap α :=
  ⟨insertEntry key value m.entries, pairwise_insertEntry m.sorted⟩

/-- Removes the binding of a key, if there is one. -/
def erase (m : SortedMap α) (key : String) : SortedMap α :=
  ⟨m.entries.filter fun e => e.1 ≠ key, m.sorted.filter _⟩

/-- The value bound to a key. -/
def get? (m : SortedMap α) (key : String) : Option α :=
  (m.entries.find? fun e => e.1 = key).map (·.2)

/-- The number of bindings. -/
def size (m : SortedMap α) : Nat := m.entries.length

/-- Whether there is no binding. -/
def isEmpty (m : SortedMap α) : Bool := m.entries.isEmpty

/-- The keys, in increasing order. -/
def keys (m : SortedMap α) : List String := m.entries.map (·.1)

/-- The values, in the order of their keys. -/
def values (m : SortedMap α) : List α := m.entries.map (·.2)

/-- Collects bindings from left to right: of two with the same key, the later one stays. -/
def ofList (bindings : List (String × α)) : SortedMap α :=
  bindings.foldl (fun m b => m.insert b.1 b.2) empty

end SortedMap

end ClusterCensus
