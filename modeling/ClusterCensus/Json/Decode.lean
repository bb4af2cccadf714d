import ClusterCensus.Json.Printer
import ClusterCensus.SortedMap
import ClusterCensus.Text.Quoted

/-!
# Decoding

Decoding leads from a value to a typed one, or to the first thing that does not fit.

A record is given as an object or as an array. Of an object the members are looked at in their
order, unknown ones aside, and the first that does not fit is reported; only then a missing one, in
the order in which the record declares its fields. Of an array the items are the fields in that
order.
-/

namespace ClusterCensus

/-- What stands where something else was expected. -/
inductive Found where
  | null
  | bool (b : Bool)
  | integer (n : Int)
  | float (x : Binary64)
  | string (s : String)
  | sequence
  | map
deriving DecidableEq, Repr

/-- Why a value does not decode. -/
inductive DecodeError where
  | wrongType (found : Found) (expected : String)
  | wrongValue (found : Found) (expected : String)
  | wrongLength (length : Nat) (expected : String)
  | unknownVariant (name : String) (known : List String)
  | missingField (name : String)
deriving DecidableEq, Repr

namespace Found

/-- A found thing in words. -/
def text : Found → String
  | .null => "null"
  | .bool true => "boolean `true`"
  | .bool false => "boolean `false`"
  | .integer n => "integer `" ++ toString n ++ "`"
  | .float x => "floating point `" ++ x.recordText ++ "`"
  | .string s => "string " ++ Text.quoted s
  | .sequence => "sequence"
  | .map => "map"

end Found

namespace DecodeError

/-- Names between backticks, with commas. -/
def listNames (names : List String) : String :=
  String.intercalate ", " (names.map fun n => "`" ++ n ++ "`")

/-- The wording of an error. -/
def message : DecodeError → String
  | .wrongType found expected => "invalid type: " ++ found.text ++ ", expected " ++ expected
  | .wrongValue found expected => "invalid value: " ++ found.text ++ ", expected " ++ expected
  | .wrongLength n expected => "invalid length " ++ toString n ++ ", expected " ++ expected
  | .unknownVariant name known =>
    "unknown variant `" ++ name ++ "`, expected one of " ++ listNames known
  | .missingField name => "missing field `" ++ name ++ "`"

end DecodeError

/-- What is read from a value of type `Json`. -/
abbrev Decoder (α : Type) := Json → Except DecodeError α

namespace Json

/-- What a value is, as an error names it. -/
def found : Json → Found
  | .null => .null
  | .bool b => .bool b
  | .integer n => .integer n
  | .float x => .float x
  | .string s => .string s
  | .array _ => .sequence
  | .object _ => .map

/-- A truth value. -/
def decodeBool : Decoder Bool
  | .bool b => .ok b
  | v => .error (.wrongType v.found "a boolean")

/-- A text. -/
def decodeString : Decoder String
  | .string s => .ok s
  | v => .error (.wrongType v.found "a string")

/-- A whole number between two bounds; `name` names the range. -/
def decodeInteger (name : String) (low high : Int) : Decoder Int
  | .integer n =>
    if low ≤ n ∧ n ≤ high then .ok n else .error (.wrongValue (.integer n) name)
  | v => .error (.wrongType v.found name)

/-- An unsigned number of 64 bits. -/
def decodeUInt64 : Decoder UInt64 := fun v =>
  (decodeInteger "u64" 0 (UInt64.size - 1) v).map fun n => UInt64.ofNat n.toNat

/-- A signed number of 64 bits. -/
def decodeInt64 : Decoder Int64 := fun v =>
  (decodeInteger "i64" Int64.minValue.toInt Int64.maxValue.toInt v).map Int64.ofInt

/-- A signed number of 32 bits. -/
def decodeInt32 : Decoder Int32 := fun v =>
  (decodeInteger "i32" Int32.minValue.toInt Int32.maxValue.toInt v).map Int32.ofInt

/-- A value that may be absent. -/
def decodeOption {α : Type} (decode : Decoder α) : Decoder (Option α)
  | .null => .ok none
  | v => (decode v).map some

/-- The items of an array, decoded in order up to the first that does not fit. -/
def decodeItems {α : Type} (decode : Decoder α) : List Json → Except DecodeError (List α)
  | [] => .ok []
  | v :: rest => do
    let a ← decode v
    let as ← decodeItems decode rest
    pure (a :: as)

/-- An array of values of one type. -/
def decodeList {α : Type} (decode : Decoder α) : Decoder (List α)
  | .array items => decodeItems decode items
  | v => .error (.wrongType v.found "a sequence")

/-- The members of an object, decoded in order up to the first that does not fit. -/
def decodeMembers {α : Type} (decode : Decoder α) :
    List (String × Json) → Except DecodeError (List (String × α))
  | [] => .ok []
  | (name, v) :: rest => do
    let a ← decode v
    let as ← decodeMembers decode rest
    pure ((name, a) :: as)

/-- An object of values of one type. -/
def decodeMap {α : Type} (decode : Decoder α) : Decoder (SortedMap α)
  | .object members => (decodeMembers decode members).map SortedMap.ofList
  | v => .error (.wrongType v.found "a map")

/-- The choice with a name. -/
def choose {α : Type} (choices : List (String × α)) (name : String) : Except DecodeError α :=
  match choices.find? fun c => c.1 = name with
  | some c => .ok c.2
  | none => .error (.unknownVariant name (choices.map (·.1)))

/-- One of a list of named choices: its name, or an object whose only member has that name and no
content. -/
def decodeChoice {α : Type} (choices : List (String × α)) : Decoder α
  | .string name => choose choices name
  | .object [(name, content)] => do
    let a ← choose choices name
    match content with
    | .null => pure a
    | v => .error (.wrongType v.found "unit")
  | .object _ => .error (.wrongValue .map "map with a single key")
  | v => .error (.wrongType v.found "string or map")

/-- The fields of a record of type `α`: how a member of a name is checked, how the record is put
together from its members, and how it is read from a list of items. -/
structure Fields (α : Type) where
  count : Nat
  check : String → Json → Except DecodeError Unit
  build : (String → Option Json) → Except DecodeError α
  take : List Json → Except (Sum Nat DecodeError) (α × List Json)

namespace Fields

/-- A record without fields. -/
def start {α : Type} (a : α) : Fields α where
  count := 0
  check := fun _ _ => .ok ()
  build := fun _ => .ok a
  take := fun items => .ok (a, items)

/-- Adds a field: its name, how it is decoded, what it is when an object has no such member, and
what it is when an array ends before it. -/
def field {α β : Type} (fs : Fields (α → β)) (name : String) (decode : Decoder α)
    (absent short : Option α) : Fields β where
  count := fs.count + 1
  check := fun n v => if n = name then (decode v).map fun _ => () else fs.check n v
  build := fun members => do
    let f ← fs.build members
    match members name, absent with
    | some v, _ => (decode v).map f
    | none, some a => .ok (f a)
    | none, none => .error (.missingField name)
  take := fun items => do
    let (f, rest) ← fs.take items
    match rest, short with
    | v :: rest, _ =>
      match decode v with
      | .ok a => .ok (f a, rest)
      | .error e => .error (.inr e)
    | [], some a => .ok (f a, [])
    | [], none => .error (.inl fs.count)

/-- A field that has to be there. -/
def required {α β : Type} (fs : Fields (α → β)) (name : String) (decode : Decoder α) : Fields β :=
  fs.field name decode none none

/-- A field that may be null, or absent from an object. -/
def optional {α β : Type} (fs : Fields (Option α → β)) (name : String) (decode : Decoder α) :
    Fields β :=
  fs.field name (decodeOption decode) (some none) none

/-- A field that has a value when it is absent. -/
def defaulted {α β : Type} (fs : Fields (α → β)) (name : String) (decode : Decoder α) (value : α) :
    Fields β :=
  fs.field name decode (some value) (some value)

/-- Looks at the members of an object in order and reports the first that does not fit. -/
def checkAll {α : Type} (fs : Fields α) : List (String × Json) → Except DecodeError Unit
  | [] => .ok ()
  | (name, v) :: rest => do
    fs.check name v
    checkAll fs rest

/-- Decodes a record of a type with a name. -/
def decode {α : Type} (fs : Fields α) (typeName : String) : Decoder α
  | .object members => do
    fs.checkAll members
    fs.build (Json.member? members)
  | .array items =>
    match fs.take items with
    | .ok (a, []) => .ok a
    | .ok (_, _ :: _) => .error (.wrongLength items.length "fewer elements in array")
    | .error (.inl n) =>
      .error (.wrongLength n
        ("struct " ++ typeName ++ " with " ++ toString fs.count ++ " elements"))
    | .error (.inr e) => .error e
  | v => .error (.wrongType v.found ("struct " ++ typeName))

end Fields

end Json

end ClusterCensus
