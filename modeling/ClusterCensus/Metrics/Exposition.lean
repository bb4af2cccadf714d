import ClusterCensus.Metrics.Basic

/-!
# The exposition of the metrics

How the metrics are shown to a scraper: families in order of name, each with its samples. A family
without samples is left out.
-/

namespace ClusterCensus.Metrics

/-- What the samples of a family are. -/
inductive Family.Type where
  | gauge
  | counter
  | histogram
deriving DecidableEq, Repr

/-- The name of a type. -/
def Family.Type.name : Family.Type → String
  | gauge => "gauge"
  | counter => "counter"
  | histogram => "histogram"

/-- A value, with what its name has beyond that of the family, and at most one label. -/
structure Sample where
  suffix : String
  label : Option (String × String)
  value : Binary64
deriving DecidableEq, Repr

namespace Sample

/-- The sample of a family with only one. -/
def plain (value : Int) : Sample := ⟨"", none, .ofInt value⟩

/-- The sample of a label. -/
def labelled (name text : String) (value : Int) : Sample :=
  ⟨"", some (name, text), .ofInt value⟩

/-- The samples of a family with a label for each item of a list, as far as the items have values.
-/
def ofLabels {α : Type} (name : String) (text : α → String) (value : α → Option Int)
    (items : List α) : List Sample :=
  items.filterMap fun a => (value a).map (labelled name (text a))

/-- The samples of a histogram. The last bucket has no bound. -/
def ofHistogram (h : Histogram) : List Sample :=
  h.buckets.map (fun b => ⟨"_bucket", some ("le", b.1.label), .ofInt b.2⟩) ++
    [⟨"_bucket", some ("le", "+Inf"), .ofInt h.count⟩, ⟨"_sum", none, h.sum⟩,
      ⟨"_count", none, .ofInt h.count⟩]

end Sample

/-- Samples of one meaning. -/
structure Family where
  name : String
  type : Family.Type
  help : String
  samples : List Sample
deriving DecidableEq, Repr

namespace Family

/-- The name of a family among those of other programs. -/
def fullName (f : Family) : String := "cluster_agent_" ++ f.name

/-- A family without its samples. -/
def header (f : Family) : String := f.fullName ++ " " ++ f.type.name ++ " " ++ f.help

/-- The name of a sample, with its label. -/
def sampleName (f : Family) (s : Sample) : String :=
  f.fullName ++ s.suffix ++
    match s.label with
    | some (name, text) => "\x7b" ++ name ++ "=\"" ++ text ++ "\"\x7d"
    | none => ""

/-- The samples of a family as they are written. -/
def lines (f : Family) : List (String × String) :=
  f.samples.map fun s => (f.sampleName s, s.value.plainText)

end Family

/-- Every family, in order of name. -/
def families (m : Metrics) : List Family := [
  ⟨"backoff_remaining_seconds", .gauge, "Seconds left before the next send is allowed",
    [.plain m.backoffSecs.toNat]⟩,
  ⟨"collector_start_failures_total", .counter,
    "Total number of collectors that failed to start", [.plain m.startFailures.toNat]⟩,
  ⟨"collectors_registered", .gauge, "Number of registered collectors",
    [.plain m.collectorsRegistered.toInt]⟩,
  ⟨"owners_resolved_total", .counter,
    "Total number of pod owners rewritten to a top-level controller",
    [.plain m.ownersResolved.toNat]⟩,
  ⟨"snapshot_build_seconds", .histogram, "Time spent copying and enriching a snapshot",
    Sample.ofHistogram m.buildSeconds⟩,
  ⟨"snapshots_shipped_total", .counter, "Snapshots delivered to the backend by response status",
    m.shipped.entries.map fun e => .labelled "status" e.1 e.2⟩,
  ⟨"state", .gauge, "Current lifecycle state (1 for the active state)",
    Sample.ofLabels "state" Lifecycle.State.name m.stateGauge Lifecycle.State.all⟩,
  ⟨"store_items", .gauge, "Number of records held per resource kind",
    Sample.ofLabels "kind" Kind.name (fun k => (m.storeItems k).map Int.ofNat) Kind.all⟩,
  ⟨"store_last_updated_timestamp_seconds", .gauge,
    "Unix time of the last write per resource kind",
    Sample.ofLabels "kind" Kind.name m.storeUpdatedSecs Kind.all⟩]

/-- The families that are shown. -/
def exposition (m : Metrics) : List Family := m.families.filter fun f => !f.samples.isEmpty

/-- The exposition as a value: the headers of the families and the samples by name. -/
def encode (m : Metrics) : Json :=
  .object [
    ("families", .array (m.exposition.map fun f => .string f.header)),
    ("samples", Json.ofMembers
      (m.exposition.flatMap fun f => f.lines.map fun l => (l.1, .string l.2)))]

end ClusterCensus.Metrics
