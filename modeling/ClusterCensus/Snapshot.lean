import ClusterCensus.Record.Entry

/-!
# Snapshots

A snapshot holds the records of all kinds at one time, ready to be shipped.
-/

namespace ClusterCensus

/-- A copy of the records of every kind, and when it was taken. -/
structure Snapshot where
  capturedAtMs : Int64
  entries : (k : Kind) → List k.Entry

namespace Snapshot

/-- The records of one kind in the place of the present ones. -/
def replace (s : Snapshot) (k : Kind) (es : List k.Entry) : Snapshot :=
  { s with entries := fun j => if h : j = k then h ▸ es else s.entries j }

/-- A snapshot without records. -/
def empty : Snapshot := ⟨0, fun _ => []⟩

instance : Inhabited Snapshot := ⟨empty⟩

/-- The number of records of all kinds. -/
def totalItems (s : Snapshot) : Nat := Kind.sum fun k => (s.entries k).length

/-- The pods of a snapshot. -/
abbrev pods (s : Snapshot) : List Pod := s.entries .pods

/-- The replica sets of a snapshot. -/
abbrev replicaSets (s : Snapshot) : List ReplicaSet := s.entries .replicaSets

/-- The jobs of a snapshot. -/
abbrev jobs (s : Snapshot) : List Job := s.entries .jobs

/-- The written form of the records of a kind. -/
def encodeKind (s : Snapshot) (k : Kind) : Json :=
  .array ((s.entries k).map k.encodeEntry)

/-- The members of a written snapshot, in order of name. -/
def members (s : Snapshot) : List (String × Json) :=
  Kind.all.foldl (fun ms k => SortedMap.insertEntry k.name (s.encodeKind k) ms)
    [("captured_at_ms", Json.ofInt64 s.capturedAtMs)]

/-- The written form of a snapshot. -/
def encode (s : Snapshot) : Json := .object s.members

/-- The fields of the kinds of a list, each in the place of what the snapshot held of it. -/
def addKinds (fs : Json.Fields Snapshot) : List Kind → Json.Fields Snapshot
  | [] => fs
  | k :: rest =>
    let here : Json.Fields Snapshot :=
      Json.Fields.required
        { count := fs.count, check := fs.check
          build := fun members => (fs.build members).map fun s es => s.replace k es
          take := fun items => (fs.take items).map fun r => (fun es => r.1.replace k es, r.2) }
        k.name (Json.decodeList k.decodeEntry)
    addKinds here rest

/-- The fields of a snapshot: the time, then the kinds in their order. -/
def fields : Json.Fields Snapshot :=
  addKinds ((Json.Fields.start fun t => { empty with capturedAtMs := t }).required
    "captured_at_ms" Json.decodeInt64) Kind.all

/-- Reads a snapshot, all of whose fields have to be there. -/
def decode : Decoder Snapshot := fields.decode "ClusterSnapshot"

end Snapshot

end ClusterCensus
