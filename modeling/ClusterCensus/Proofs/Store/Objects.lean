import ClusterCensus.Proofs.Lifecycle.History
import ClusterCensus.Proofs.Ownership.Namespaces
import ClusterCensus.Proofs.Store.Reference

/-!
# One record for each object

A record tells of an object, which has a name and may have a namespace. The key of a record is made
of these two, and tells them apart as long as no namespace has a slash and no name without a
namespace has one (`ObjectName.key_inj`), whatever the other names look like. So a change to a table
under the key of one object leaves the records of all others (`get?_apply`), and after any number of
them the table holds for each object what the last change to it left (`one_record_per_object`).
-/

namespace ClusterCensus

open Lifecycle (lastGiven foldl_eq_lastGiven)

/-! ## Objects and their keys -/

/-- What an object is called: its namespace, empty if it belongs to the whole cluster, and its own
name. -/
@[ext]
structure ObjectName where
  ns : String
  name : String
deriving DecidableEq, Repr

namespace ObjectName

/-- The key of an object. -/
def key (o : ObjectName) : String := objectKey (some o.ns) o.name

/-- Whether the namespace has no slash and, if it is empty, the name has none either. -/
structure Proper (o : ObjectName) : Prop where
  ns : '/' ∉ o.ns.toList
  name : o.ns = "" → '/' ∉ o.name.toList

theorem key_of_cluster {o : ObjectName} (h : o.ns = "") : o.key = o.name := by
  rw [key, objectKey, if_pos h]

theorem slash_mem_key {o : ObjectName} (h : o.ns ≠ "") : '/' ∈ o.key.toList := by
  simp [key, objectKey, h]

/-- With a namespace or without, proper objects of one key are one object. -/
theorem key_inj {a b : ObjectName} (ha : a.Proper) (hb : b.Proper) : a.key = b.key ↔ a = b := by
  refine ⟨fun h => ?_, fun h => h ▸ rfl⟩
  by_cases hns : a.ns = "" <;> by_cases hms : b.ns = ""
  · rw [key_of_cluster hns, key_of_cluster hms] at h
    exact ObjectName.ext (hns.trans hms.symm) h
  -- a slash in only one of the keys
  · have hslash := slash_mem_key hms
    rw [← h, key_of_cluster hns] at hslash
    exact absurd hslash (ha.name hns)
  · have hslash := slash_mem_key hns
    rw [h, key_of_cluster hms] at hslash
    exact absurd hslash (hb.name hms)
  · have hboth := (objectKey_inj ⟨hns, ha.ns⟩ ⟨hms, hb.ns⟩ a.name b.name).1 h
    exact ObjectName.ext hboth.1 hboth.2

/-- With a slash in its namespace an object has the key of another one. -/
example : key ⟨"shop/web", "0"⟩ = key ⟨"shop", "web/0"⟩ := by decide

end ObjectName

/-- The object that a record tells of. -/
def Shape.object : (s : Shape) → s.Record → ObjectName
  | .node, n => ⟨"", n.name⟩
  | .pod, p => ⟨p.ns, p.name⟩
  | .ns, n => ⟨"", n.name⟩
  | .workload, w => ⟨w.ns, w.name⟩
  | .replicaSet, r => ⟨r.ns, r.name⟩
  | .job, j => ⟨j.ns, j.name⟩
  | .resource, r => ⟨r.ns.getD "", r.name⟩

theorem Shape.key_eq (s : Shape) (r : s.Record) : s.key r = (s.object r).key := by
  cases s with
  | resource =>
    obtain ⟨name, ns, uid, labels, data⟩ := r
    cases ns <;> rfl
  | node | ns | pod | workload | replicaSet | job => rfl

namespace Kind

variable {k : Kind}

/-- The object that a record of a kind tells of. -/
def object (k : Kind) (r : k.Entry) : ObjectName := k.shape.object r

/-- A record of an object with a proper name. -/
abbrev Filed (k : Kind) : Type := { r : k.Entry // (k.object r).Proper }

theorem entryKey_eq_key_iff (r : k.Filed) {o : ObjectName} (ho : o.Proper) :
    k.entryKey r = o.key ↔ k.object r = o := by
  rw [entryKey, Shape.key_eq]
  exact ObjectName.key_inj r.2 ho

/-- What is done to the records of a kind, each under its own key. -/
inductive Filing (k : Kind) where
  | set (r : k.Filed)
  | delete (r : k.Filed)

namespace Filing

/-- The record whose key is used. -/
def record : k.Filing → k.Filed
  | set r | delete r => r

/-- What is left of the object. -/
def kept? : k.Filing → Option k.Entry
  | set r => some r
  | delete _ => none

/-- What is done to the table. -/
def change : k.Filing → Table.Change k.Entry
  | set r => .set (k.entryKey r) r
  | delete r => .delete (k.entryKey r)

/-- What is left of an object, if something is done to it. -/
def leaves (o : ObjectName) (f : k.Filing) : Option (Option k.Entry) :=
  if k.object f.record = o then some f.kept? else none

/-- The record of an object in the end: the last one that was set for it, if it was not deleted
afterwards. -/
def held (filings : List (Int × k.Filing)) (o : ObjectName) : Option k.Entry :=
  (lastGiven (fun f => f.2.leaves o) filings).getD none

end Filing

end Kind

/-! ## Tables of objects -/

theorem filter_key {α : Type} (key : String) : ∀ {l : List (String × α)},
    l.Pairwise (fun a b => a.1 < b.1) →
      l.filter (fun e => e.1 = key) = (l.find? fun e => e.1 = key).toList
  | [], _ => rfl
  | e :: rest, h => by
    obtain ⟨hlt, hrest⟩ := List.pairwise_cons.1 h
    by_cases he : e.1 = key
    · have hnone : rest.filter (fun d => d.1 = key) = [] := List.filter_eq_nil_iff.2 fun d hd => by
        have hne := String.ne_of_lt (hlt d hd)
        simpa [← he] using Ne.symm hne
      rw [List.filter_cons_of_pos (by simpa using he), hnone,
        List.find?_cons_of_pos (by simpa using he)]
      rfl
    · rw [List.filter_cons_of_neg (by simpa using he), List.find?_cons_of_neg (by simpa using he),
        filter_key key hrest]

namespace Table

variable {k : Kind}

theorem get?_apply (t : Table k.Entry) (nowMs : Int) (f : k.Filing) (key : String) :
    (t.apply nowMs f.change).get? key
      = if k.entryKey f.record = key then f.kept? else t.get? key := by
  cases f with
  | set r => exact SortedMap.get?_insert ..
  | delete r =>
    refine (SortedMap.get?_erase ..).trans (if_congr eq_comm rfl rfl)

theorem get?_apply_of_proper {o : ObjectName} (ho : o.Proper) (t : Table k.Entry)
    (f : Int × k.Filing) :
    (t.apply f.1 f.2.change).get? o.key = (f.2.leaves o).getD (t.get? o.key) := by
  rw [get?_apply, Kind.Filing.leaves]
  simp only [k.entryKey_eq_key_iff f.2.record ho]
  split_ifs <;> rfl

theorem run_filings (t : Table k.Entry) (filings : List (Int × k.Filing)) :
    t.run (filings.map fun f => (f.1, f.2.change))
      = filings.foldl (fun t f => t.apply f.1 f.2.change) t :=
  List.foldl_map

theorem get?_run {o : ObjectName} (ho : o.Proper) (filings : List (Int × k.Filing)) :
    (empty.run (filings.map fun f => (f.1, f.2.change))).get? o.key
      = Kind.Filing.held filings o := by
  rw [run_filings]
  exact @foldl_eq_lastGiven _ _ _ _ (get? · o.key) _ (get?_apply_of_proper ho) filings empty

/-- Whether every record stands under the key of its object, whose name is proper. -/
def Filed (t : Table k.Entry) : Prop :=
  ∀ e ∈ t.records.entries, ∃ r : k.Filed, e = (k.entryKey r, r.1)

theorem Filed.apply {t : Table k.Entry} (h : t.Filed) (nowMs : Int) (f : k.Filing) :
    (t.apply nowMs f.change).Filed := by
  intro e he
  cases f with
  | set r => exact (SortedMap.mem_insertEntry he).elim (fun hr => ⟨r, hr⟩) (h e)
  | delete r => exact h e (List.mem_filter.1 he).1

theorem filed_run (filings : List (Int × k.Filing)) :
    (empty.run (filings.map fun f => (f.1, f.2.change)) : Table k.Entry).Filed := by
  rw [run_filings]
  exact List.foldlRecOn filings _ nofun fun t ht f _ => ht.apply f.1 f.2

theorem filter_values {t : Table k.Entry} (h : t.Filed) {o : ObjectName} (ho : o.Proper) :
    t.values.filter (fun r => k.object r = o) = (t.get? o.key).toList := by
  have hkey : ∀ e ∈ t.records.entries, decide (k.object e.2 = o) = decide (e.1 = o.key) := by
    intro e he
    obtain ⟨r, rfl⟩ := h e he
    exact decide_eq_decide.2 (k.entryKey_eq_key_iff r ho).symm
  unfold values SortedMap.values get? SortedMap.get?
  rw [List.filter_map, Option.toList_map, ← filter_key o.key t.records.sorted]
  exact congrArg _ (List.filter_congr hkey)

theorem held_of_not_proper {o : ObjectName} (ho : ¬ o.Proper) (filings : List (Int × k.Filing)) :
    Kind.Filing.held filings o = none := by
  have hnone : filings.filterMap (fun f => f.2.leaves o) = [] :=
    List.filterMap_eq_nil_iff.2 fun f _ => if_neg fun h : k.object f.2.record = o =>
      ho (h ▸ f.2.record.2)
  rw [Kind.Filing.held, lastGiven, hnone]
  rfl

theorem Filed.filter_values_of_not_proper {t : Table k.Entry} (h : t.Filed) {o : ObjectName}
    (ho : ¬ o.Proper) : t.values.filter (fun r => k.object r = o) = [] := by
  refine List.filter_eq_nil_iff.2 fun q hq hobject => ho ?_
  obtain ⟨e, he, rfl⟩ := List.mem_map.1 hq
  obtain ⟨r, rfl⟩ := h e he
  exact of_decide_eq_true hobject ▸ r.2

/-- Whatever is set and deleted in the table of a kind, each record under its own key, if namespaces
have no slash and names without a namespace have none: of each object the table holds the last
record that was set for it, and that once, unless it was deleted afterwards, and then none. It is
found under the key of the object, which no other object has. -/
theorem one_record_per_object (k : Kind) (filings : List (Int × k.Filing)) :
    let t := empty.run (filings.map fun f => (f.1, f.2.change))
    let held := Kind.Filing.held filings
    (∀ o : ObjectName, t.values.filter (fun r => k.object r = o) = (held o).toList)
      ∧ (∀ r : k.Filed, t.get? (k.entryKey r) = held (k.object r))
      ∧ ∀ r r' : k.Filed, k.entryKey r = k.entryKey r' ↔ k.object r = k.object r' := by
  intro t held
  have hkey (r : k.Filed) : k.entryKey r = (k.object r).key := Shape.key_eq _ _
  refine ⟨fun o => ?_, fun r => ?_, fun r r' => ?_⟩
  · by_cases ho : o.Proper
    · rw [filter_values (filed_run filings) ho, get?_run ho]
    · rw [(filed_run filings).filter_values_of_not_proper ho]
      exact (congrArg Option.toList (held_of_not_proper ho filings)).symm
  · rw [hkey]
    exact get?_run r.2 filings
  · rw [hkey r']
    exact k.entryKey_eq_key_iff r r'.2

/-- A service of the whole cluster is set without a namespace and then with an empty one, and one of
a namespace is deleted. -/
theorem one_record_of_service :
    let service (ns : Option String) (name uid : String) : Resource := ⟨name, ns, uid, ∅, .null⟩
    let filings : List (Int × Kind.services.Filing) := [
      (1, .set ⟨service (some "shop") "web/0" "1", by decide, by decide⟩),
      (2, .set ⟨service none "web" "2", by decide, by decide⟩),
      (3, .delete ⟨service (some "shop") "web/0" "1", by decide, by decide⟩),
      (4, .set ⟨service (some "") "web" "3", by decide, by decide⟩)]
    let t := empty.run (filings.map fun f => (f.1, f.2.change))
    t.values.filter (fun r => Kind.services.object r = ⟨"", "web"⟩) = [service (some "") "web" "3"]
      ∧ t.values.filter (fun r => Kind.services.object r = ⟨"shop", "web/0"⟩) = [] := by
  intro service filings t
  obtain ⟨hvalues, -⟩ := one_record_per_object .services filings
  exact ⟨hvalues ⟨"", "web"⟩, hvalues ⟨"shop", "web/0"⟩⟩

end Table

end ClusterCensus
