import ClusterCensus.Snapshot
import ClusterCensus.Store.Table

/-!
# The store

The store has one table for each kind. A change to one kind leaves the others alone.
-/

namespace ClusterCensus

/-- The tables of all kinds. -/
structure Store where
  table : (k : Kind) → Table k.Entry

namespace Store

/-- A store that was never touched. -/
def empty : Store := ⟨fun _ => .empty⟩

instance : Inhabited Store := ⟨empty⟩

/-- A change to the records of a kind. -/
structure Change where
  kind : Kind
  change : Table.Change kind.Entry

/-- The store with a table in the place of that of its kind. -/
def replace (s : Store) (k : Kind) (t : Table k.Entry) : Store :=
  ⟨fun j => if h : j = k then h ▸ t else s.table j⟩

/-- The store after a change at a time. -/
def apply (s : Store) (nowMs : Int) (c : Change) : Store :=
  s.replace c.kind ((s.table c.kind).apply nowMs c.change)

/-- The store after a run of changes, each with the reading of the wall clock at it. -/
def run (s : Store) (changes : List (Int × Change)) : Store :=
  changes.foldl (fun s c => s.apply c.1 c.2) s

/-- The number of records of a kind. -/
def count (s : Store) (k : Kind) : Nat := (s.table k).size

/-- The number of records of each kind. -/
def itemCounts (s : Store) : List (Kind × Nat) := Kind.all.map fun k => (k, s.count k)

/-- The time of the last activity of a kind. -/
def updatedMs (s : Store) (k : Kind) : Int := (s.table k).updatedMs

/-- The time of the last activity of each kind. -/
def updatedTimes (s : Store) : List (Kind × Int) := Kind.all.map fun k => (k, s.updatedMs k)

/-- The number of records of all kinds. -/
def totalItems (s : Store) : Nat := Kind.sum s.count

/-- A copy of the records of every kind. -/
def snapshot (s : Store) (nowMs : Int) : Snapshot :=
  ⟨Int64.ofInt nowMs, fun k => (s.table k).values⟩

end Store

end ClusterCensus
