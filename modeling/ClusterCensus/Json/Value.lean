import ClusterCensus.Number.Binary64
import ClusterCensus.SortedMap

/-!
# Values of the record format

The values are those of JSON, with whole numbers kept apart from numbers that are written with a
fraction or an exponent.
-/

namespace ClusterCensus

/-- A value of the record format. The members of an object that was read are in increasing order of
name, each name once. -/
inductive Json where
  | null
  | bool (b : Bool)
  | integer (n : Int)
  | float (x : Binary64)
  | string (s : String)
  | array (items : List Json)
  | object (members : List (String × Json))
deriving Repr

instance : Inhabited Json := ⟨.null⟩

namespace Json

instance : Coe String Json := ⟨.string⟩

/-- A whole number. -/
def nat (n : Nat) : Json := .integer n

/-- An unsigned number of 64 bits. -/
def ofUInt64 (n : UInt64) : Json := .integer n.toNat

/-- A signed number of 32 bits. -/
def ofInt32 (n : Int32) : Json := .integer n.toInt

/-- A signed number of 64 bits. -/
def ofInt64 (n : Int64) : Json := .integer n.toInt

/-- A value that may be absent. -/
def option {α : Type} (encode : α → Json) : Option α → Json
  | none => .null
  | some a => encode a

/-- An object of members given in any order; of two with one name the later one stays. -/
def ofMembers (members : List (String × Json)) : Json :=
  .object (members.foldl (fun ms m => SortedMap.insertEntry m.1 m.2 ms) [])

/-- The value of the first member with a name. -/
def member? (members : List (String × Json)) (name : String) : Option Json :=
  (members.find? fun m => m.1 = name).map (·.2)

/-- The value of a member of an object; of anything else, nothing. -/
def get? (v : Json) (name : String) : Option Json :=
  match v with
  | .object members => member? members name
  | _ => none

end Json

end ClusterCensus
