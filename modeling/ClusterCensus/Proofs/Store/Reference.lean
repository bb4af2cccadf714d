import ClusterCensus.Proofs.Snapshot
import ClusterCensus.Proofs.SortedMap
import ClusterCensus.Store.Basic
import Mathlib.Algebra.Order.BigOperators.Group.List
import Mathlib.Algebra.Order.Group.Nat
import Mathlib.Data.Finmap
import Mathlib.Order.Bounds.Basic

/-!
# What a store holds of a kind

A table is a finite map by key, and a change to it is one to that map (`bindings_apply`). A store
does to each kind what the changes to that kind do to a table of it (`table_run`), so all that is
seen of a kind comes from the map that these changes alone leave behind, and the time of its last
activity is the latest of theirs (`views_agree_with_reference`).
-/

namespace ClusterCensus

namespace SortedMap

variable {α : Type}

theorem nodupKeys (m : SortedMap α) : (m.entries.map Prod.toSigma).NodupKeys := by
  rw [List.NodupKeys, List.keys, List.map_map, Prod.fst_comp_toSigma]
  exact List.pairwise_map.2 (m.sorted.imp fun h => String.ne_of_lt h)

/-- The finite map that a map is, whatever order it keeps. -/
def bindings (m : SortedMap α) : Finmap fun _ : String => α :=
  ⟨m.entries.map Prod.toSigma, m.nodupKeys⟩

theorem lookup_bindings (m : SortedMap α) (key : String) :
    m.bindings.lookup key = m.get? key := by
  show List.dlookup key (m.entries.map Prod.toSigma) = _
  unfold get?
  induction m.entries with
  | nil => rfl
  | cons e rest ih =>
    by_cases h : e.1 = key
    · subst h
      rw [List.find?_cons_of_pos (by simp), List.map_cons]
      exact List.dlookup_cons_eq ..
    · rw [List.find?_cons_of_neg (by simpa using h), List.map_cons,
        List.dlookup_cons_ne _ _ (Ne.symm h), ih]

theorem get?_erase (m : SortedMap α) (key k : String) :
    (m.erase key).get? k = if k = key then none else m.get? k := by
  unfold get? erase
  rw [List.find?_filter]
  split_ifs with h
  · subst h
    simp
  · congr 2
    funext e
    by_cases he : e.1 = k
    · simp [he, h]
    · simp [he]

theorem bindings_insert (m : SortedMap α) (key : String) (value : α) :
    (m.insert key value).bindings = m.bindings.insert key value := by
  refine Finmap.ext_lookup fun k => ?_
  rw [lookup_bindings, get?_insert]
  split_ifs with h
  · subst h
    rw [Finmap.lookup_insert]
  · rw [Finmap.lookup_insert_of_ne _ (Ne.symm h), lookup_bindings]

theorem bindings_erase (m : SortedMap α) (key : String) :
    (m.erase key).bindings = m.bindings.erase key := by
  refine Finmap.ext_lookup fun k => ?_
  rw [lookup_bindings, get?_erase]
  split_ifs with h
  · subst h
    rw [Finmap.lookup_erase]
  · rw [Finmap.lookup_erase_ne h, lookup_bindings]

theorem size_eq_card (m : SortedMap α) : m.size = m.bindings.keys.card := by
  simp [size, bindings, Finmap.keys, Multiset.keys]

theorem isEmpty_iff (m : SortedMap α) : m.isEmpty = true ↔ m.bindings = ∅ := by
  rw [isEmpty, List.isEmpty_iff, ← Finmap.ext_iff']
  show _ ↔ ((m.entries.map Prod.toSigma : List _) : Multiset (Σ _ : String, α)) = 0
  rw [Multiset.coe_eq_zero, List.map_eq_nil_iff]

theorem coe_values (m : SortedMap α) :
    (m.values : Multiset α) = m.bindings.entries.map (·.2) := by
  simp [values, bindings, Function.comp_def]

end SortedMap

namespace Table

variable {α : Type}

/-- What a change does to a finite map. -/
def Change.toMap : Change α → Finmap (fun _ : String => α) → Finmap fun _ : String => α
  | set key value, f => f.insert key value
  | delete key, f => f.erase key
  | clear, _ => ∅

/-- The finite map that changes leave behind. -/
def reference (changes : List (Change α)) : Finmap fun _ : String => α :=
  changes.foldl (fun f c => c.toMap f) ∅

/-- A table after changes, each with the reading of the wall clock at it. -/
def run (t : Table α) (changes : List (Int × Change α)) : Table α :=
  changes.foldl (fun t c => t.apply c.1 c.2) t

theorem bindings_apply (t : Table α) (nowMs : Int) (c : Change α) :
    (t.apply nowMs c).records.bindings = c.toMap t.records.bindings := by
  cases c with
  | set key value => exact SortedMap.bindings_insert ..
  | delete key => exact SortedMap.bindings_erase ..
  | clear => rfl

theorem updatedMs_apply (t : Table α) (nowMs : Int) (c : Change α) :
    (t.apply nowMs c).updatedMs = max t.updatedMs nowMs := by
  cases c <;> rfl

theorem bindings_run : ∀ (changes : List (Int × Change α)) (t : Table α),
    (t.run changes).records.bindings
      = (changes.map (·.2)).foldl (fun f c => c.toMap f) t.records.bindings
  | [], _ => rfl
  | c :: changes, t => by
    have ih := bindings_run changes (t.apply c.1 c.2)
    rw [bindings_apply] at ih
    exact ih

/-- The marker of activity is the latest of what it was and of the times of the changes. -/
theorem isGreatest_updatedMs_run : ∀ (changes : List (Int × Change α)) (t : Table α),
    IsGreatest (insert t.updatedMs {ms | ∃ c ∈ changes, c.1 = ms}) (t.run changes).updatedMs
  | [], t => by
    simp [run]
  | c :: changes, t => by
    obtain ⟨hmem, hle⟩ := isGreatest_updatedMs_run changes (t.apply c.1 c.2)
    rw [updatedMs_apply] at hmem hle
    have hmax : max t.updatedMs c.1 ≤ ((t.apply c.1 c.2).run changes).updatedMs :=
      hle (Set.mem_insert ..)
    refine ⟨?_, ?_⟩
    · rcases hmem with hmem | ⟨d, hd, hmem⟩
      · show ((t.apply c.1 c.2).run changes).updatedMs ∈ _
        rw [hmem]
        rcases max_choice t.updatedMs c.1 with hc | hc
        · exact .inl hc
        · exact .inr ⟨c, List.mem_cons_self, hc.symm⟩
      · exact .inr ⟨d, List.mem_cons_of_mem _ hd, hmem⟩
    · rintro ms (rfl | ⟨d, hd, rfl⟩)
      · exact (le_max_left ..).trans hmax
      · rcases List.mem_cons.1 hd with rfl | hd
        · exact (le_max_right ..).trans hmax
        · exact hle (.inr ⟨d, hd, rfl⟩)

end Table

namespace Store

/-- What a change does to a kind, if it is one to that kind. -/
def Change.on? (k : Kind) (c : Change) : Option (Table.Change k.Entry) :=
  if h : c.kind = k then some (h ▸ c.change) else none

/-- Those of some changes that are changes to a kind. -/
def changesOf (k : Kind) (changes : List (Int × Change)) : List (Int × Table.Change k.Entry) :=
  changes.filterMap fun c => (c.2.on? k).map (c.1, ·)

theorem table_apply_of_ne (s : Store) (nowMs : Int) {c : Change} {k : Kind} (h : c.kind ≠ k) :
    (s.apply nowMs c).table k = s.table k := by
  simp [apply, replace, Ne.symm h]

theorem table_apply_self (s : Store) (nowMs : Int) (c : Change) :
    (s.apply nowMs c).table c.kind = (s.table c.kind).apply nowMs c.change := by
  simp [apply, replace]

/-- A store does to each kind what the changes to that kind do to its table. -/
theorem table_run (k : Kind) : ∀ (changes : List (Int × Change)) (s : Store),
    (s.run changes).table k = (s.table k).run (changesOf k changes)
  | [], _ => rfl
  | (nowMs, c) :: changes, s => by
    have ih := table_run k changes (s.apply nowMs c)
    by_cases h : c.kind = k
    · subst h
      rw [table_apply_self] at ih
      have hon : c.on? c.kind = some c.change := by simp [Change.on?]
      rw [changesOf, List.filterMap_cons_some (by rw [hon]; rfl)]
      exact ih
    · rw [table_apply_of_ne s nowMs h] at ih
      have hon : c.on? k = none := by simp [Change.on?, h]
      rw [changesOf, List.filterMap_cons_none (by rw [hon]; rfl)]
      exact ih

theorem changesOf_eq_nil {k : Kind} {changes : List (Int × Change)}
    (h : ∀ c ∈ changes, c.2.kind ≠ k) : changesOf k changes = [] := by
  refine List.filterMap_eq_nil_iff.2 fun c hc => ?_
  simp [Change.on?, h c hc]

theorem mem_changesOf {k : Kind} {changes : List (Int × Change)} {nowMs : Int}
    {c : Table.Change k.Entry} (h : (nowMs, c) ∈ changesOf k changes) :
    (nowMs, ⟨k, c⟩) ∈ changes := by
  obtain ⟨⟨ms, d⟩, hd, heq⟩ := List.mem_filterMap.1 h
  obtain ⟨c', hc, hpair⟩ := Option.map_eq_some_iff.1 heq
  cases hpair
  unfold Change.on? at hc
  split_ifs at hc with hk
  subst hk
  cases hc
  exact hd

theorem updatedMs_le_run (s : Store) (changes : List (Int × Change)) (k : Kind) :
    s.updatedMs k ≤ (s.run changes).updatedMs k := by
  rw [updatedMs, updatedMs, table_run]
  exact (Table.isGreatest_updatedMs_run (changesOf k changes) (s.table k)).2 (Set.mem_insert ..)

theorem updatedMs_run_lt {s : Store} {changes : List (Int × Change)} {limit : Int} {k : Kind}
    (hs : s.updatedMs k < limit) (hall : ∀ c ∈ changes, c.1 < limit) :
    (s.run changes).updatedMs k < limit := by
  rw [updatedMs, table_run]
  obtain hsame | ⟨c, hc, htime⟩ :=
    (Table.isGreatest_updatedMs_run (changesOf k changes) (s.table k)).1
  · rw [hsame]
    exact hs
  · rw [← htime]
    exact hall _ (mem_changesOf hc)

theorem count_le_totalItems (s : Store) (k : Kind) : s.count k ≤ s.totalItems := by
  rw [totalItems, Kind.sum_eq]
  exact List.le_sum_of_mem (List.mem_map_of_mem (Kind.mem_all k))

theorem totalItems_snapshot (s : Store) (nowMs : Int) :
    (s.snapshot nowMs).totalItems = (s.itemCounts.map (·.2)).sum := by
  rw [Snapshot.totalItems, Kind.sum_eq, itemCounts, List.map_map]
  refine congrArg List.sum (List.map_congr_left fun k _ => ?_)
  exact List.length_map _

/-- After any changes to a new store, all that is seen of a kind agrees with the finite map that the
changes to this kind leave behind, and its last activity was at the latest of their times, or never.
The records of all kinds add up to what a snapshot holds. Whatever is done later, the time of the
last activity does not go back, and what is done to other kinds changes nothing of a kind. -/
theorem views_agree_with_reference (changes : List (Int × Change)) :
    let s := empty.run changes
    (∀ k : Kind,
      let held := Table.reference ((changesOf k changes).map (·.2))
      (∀ key, (s.table k).get? key = held.lookup key)
        ∧ (s.table k).size = held.keys.card
        ∧ ((s.table k).isEmpty = true ↔ held = ∅)
        ∧ (s.table k).records.bindings = held
        ∧ ((s.table k).values : Multiset k.Entry) = held.entries.map (·.2)
        ∧ s.itemCounts.lookup k = some held.keys.card
        ∧ (∀ nowMs, ((s.snapshot nowMs).entries k).Perm (s.table k).values)
        ∧ ∃ latest, s.updatedTimes.lookup k = some latest
          ∧ IsGreatest (insert 0 {ms | ∃ c ∈ changesOf k changes, c.1 = ms}) latest)
      ∧ s.itemCounts.map (·.1) = Kind.all ∧ s.updatedTimes.map (·.1) = Kind.all
      ∧ (∀ nowMs, (s.snapshot nowMs).totalItems = (s.itemCounts.map (·.2)).sum)
      ∧ ∀ (later : List (Int × Change)) (k : Kind), s.updatedMs k ≤ (s.run later).updatedMs k
        ∧ ((∀ c ∈ later, c.2.kind ≠ k) → (s.run later).table k = s.table k) := by
  intro s
  refine ⟨fun k => ?_, ?_, ?_, s.totalItems_snapshot,
    fun later k => ⟨s.updatedMs_le_run later k, ?_⟩⟩
  · intro held
    have htable : s.table k = Table.empty.run (changesOf k changes) := table_run k changes empty
    have hheld : (s.table k).records.bindings = held :=
      htable ▸ Table.bindings_run (changesOf k changes) .empty
    have hsize : (s.table k).size = held.keys.card := hheld ▸ SortedMap.size_eq_card _
    refine ⟨fun key => ?_, hsize, ?_, hheld, ?_, ?_, fun _ => .refl _, ?_⟩
    · exact hheld ▸ (SortedMap.lookup_bindings ..).symm
    · exact hheld ▸ SortedMap.isEmpty_iff _
    · exact hheld ▸ SortedMap.coe_values _
    · rw [itemCounts, Kind.lookup_all, count, hsize]
    · refine ⟨s.updatedMs k, Kind.lookup_all .., ?_⟩
      rw [updatedMs, htable]
      exact Table.isGreatest_updatedMs_run (changesOf k changes) .empty
  · rw [itemCounts, List.map_map]
    exact List.map_id _
  · rw [updatedTimes, List.map_map]
    exact List.map_id _
  · intro hother
    rw [table_run, changesOf_eq_nil hother]
    rfl

end Store

end ClusterCensus
