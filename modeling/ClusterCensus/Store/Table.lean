import ClusterCensus.SortedMap

/-!
# The table of a kind

The table of one kind holds records by key, and a marker of the last activity. The marker never
moves back, whatever the wall clock does.
-/

namespace ClusterCensus

/-- Records by key and the time of the last activity, in milliseconds; zero before any. -/
structure Table (α : Type) where
  records : SortedMap α
  updatedMs : Int

namespace Table

variable {α : Type}

/-- A table that was never touched. -/
def empty : Table α := ⟨∅, 0⟩

instance : Inhabited (Table α) := ⟨empty⟩

/-- Marks activity at a time. -/
def touch (t : Table α) (nowMs : Int) : Table α := { t with updatedMs := max t.updatedMs nowMs }

/-- Puts a record under a key, in the place of an older one. -/
def set (t : Table α) (nowMs : Int) (key : String) (value : α) : Table α :=
  { t with records := t.records.insert key value }.touch nowMs

/-- Removes what is under a key. A missing key is activity all the same. -/
def delete (t : Table α) (nowMs : Int) (key : String) : Table α :=
  { t with records := t.records.erase key }.touch nowMs

/-- Removes every record. -/
def clear (t : Table α) (nowMs : Int) : Table α := { t with records := ∅ }.touch nowMs

/-- The record under a key. -/
def get? (t : Table α) (key : String) : Option α := t.records.get? key

/-- The number of records. -/
def size (t : Table α) : Nat := t.records.size

/-- Whether there is no record. -/
def isEmpty (t : Table α) : Bool := t.records.isEmpty

/-- The records, in order of key. -/
def values (t : Table α) : List α := t.records.values

end Table

/-- What can be done to a table. -/
inductive Table.Change (α : Type) where
  | set (key : String) (value : α)
  | delete (key : String)
  | clear

/-- A table after a change at a time. -/
def Table.apply {α : Type} (t : Table α) (nowMs : Int) : Table.Change α → Table α
  | .set key value => t.set nowMs key value
  | .delete key => t.delete nowMs key
  | .clear => t.clear nowMs

end ClusterCensus
