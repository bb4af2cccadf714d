import ClusterCensus.Metrics.Exposition
import ClusterCensus.Proofs.Number.Binary64
import ClusterCensus.Proofs.Snapshot

/-!
# What a scraper is shown

A family of gauges has one sample for each label that has a value (`shown_ofLabels`), and a whole
number of at most 53 bits is shown as it is. So the four families that describe the store and the
lifecycle show just the numbers that the metrics hold (`shown_storeItems` and those after it).
-/

namespace ClusterCensus.Metrics

open Binary64 (plainText_ofInt)

/-- The texts of the samples of a family that have a label, or none. -/
def shown (m : Metrics) (family : String) (label : Option (String × String)) : List String :=
  (m.exposition.filter (·.fullName = family)).flatMap fun f =>
    (f.samples.filter fun s => s.suffix = "" ∧ s.label = label).map (·.value.plainText)

section Labelled

variable {m : Metrics} {f : Family} {α : Type} [DecidableEq α] {text : α → String} {l : List α}

theorem filter_eq_singleton (hinj : Function.Injective text) (hnodup : l.Nodup) {a : α}
    (ha : a ∈ l) : l.filter (fun b => text b = text a) = [a] := by
  simp only [hinj.eq_iff]
  rw [List.filter_eq, List.count_eq_one_of_mem hnodup ha, List.replicate_one]

/-- Of the samples with a label for each item, one has the label of an item that has a value. -/
theorem filter_ofLabels (name : String) {value : α → Option Int}
    (hinj : Function.Injective text) (hnodup : l.Nodup) {a : α} (ha : a ∈ l) {n : Int}
    (hn : value a = some n) :
    (Sample.ofLabels name text value l).filter
        (fun s => s.suffix = "" ∧ s.label = some (name, text a))
      = [Sample.labelled name (text a) n] := by
  have hsame (b : α) : Option.filter (fun s => s.suffix = "" ∧ s.label = some (name, text a))
        ((value b).map (Sample.labelled name (text b)))
      = if text b = text a then (value b).map (Sample.labelled name (text b)) else none := by
    rcases value b with _ | v
    · simp
    · simp [Sample.labelled, Option.filter]
  have hfilter := @List.filterMap_filter _ _ (fun b => decide (text b = text a))
    (fun b => (value b).map (Sample.labelled name (text b))) l
  simp only [decide_eq_true_eq] at hfilter
  rw [Sample.ofLabels, List.filter_filterMap]
  simp only [hsame]
  rw [← hfilter, filter_eq_singleton hinj hnodup ha]
  simp [hn]

/-- Of a family whose samples are told apart by a label, one sample is shown for each item that has
a value. -/
theorem shown_ofLabels {family name : String} {value : α → Option Int}
    (hf : m.families.filter (·.fullName = family) = [f])
    (hs : f.samples = Sample.ofLabels name text value l)
    (hinj : Function.Injective text) (hnodup : l.Nodup) {a : α} (ha : a ∈ l) {n : Int}
    (hn : value a = some n) :
    m.shown family (some (name, text a)) = [(Binary64.ofInt n).plainText] := by
  have hone := filter_ofLabels name hinj hnodup ha hn
  have hne : f.samples ≠ [] := by
    intro hnil
    rw [← hs, hnil] at hone
    cases hone
  have hshown : m.exposition.filter (·.fullName = family) = [f] := by
    rw [exposition, List.filter_comm, hf]
    simp [hne]
  rw [shown, hshown, List.flatMap_singleton, hs, hone]
  rfl

end Labelled

variable (m : Metrics)

theorem shown_storeItems {k : Kind} {n : Nat} (hk : m.storeItems k = some n) (h : n < 2 ^ 53) :
    m.shown "cluster_agent_store_items" (some ("kind", k.name)) = [toString n] := by
  have hf : m.families.filter (·.fullName = "cluster_agent_store_items") = [
      ⟨"store_items", .gauge, "Number of records held per resource kind",
        Sample.ofLabels "kind" Kind.name (fun k => (m.storeItems k).map Int.ofNat) Kind.all⟩] := by
    simp [families, Family.fullName]
  have hvalue : (m.storeItems k).map Int.ofNat = some (n : Int) := by rw [hk]; rfl
  rw [shown_ofLabels hf rfl Kind.name_injective Kind.nodup_all (Kind.mem_all k) hvalue,
    plainText_ofInt h]

theorem shown_storeUpdatedSecs {k : Kind} {secs : Nat} (hk : m.storeUpdatedSecs k = some secs)
    (h : secs < 2 ^ 53) :
    m.shown "cluster_agent_store_last_updated_timestamp_seconds" (some ("kind", k.name))
      = [toString secs] := by
  have hf : m.families.filter
      (·.fullName = "cluster_agent_store_last_updated_timestamp_seconds") = [
      ⟨"store_last_updated_timestamp_seconds", .gauge,
        "Unix time of the last write per resource kind",
        Sample.ofLabels "kind" Kind.name m.storeUpdatedSecs Kind.all⟩] := by
    simp [families, Family.fullName]
  rw [shown_ofLabels hf rfl Kind.name_injective Kind.nodup_all (Kind.mem_all k) hk,
    plainText_ofInt h]

theorem shown_stateGauge {s : Lifecycle.State} {n : Nat} (hs : m.stateGauge s = some n)
    (h : n < 2 ^ 53) :
    m.shown "cluster_agent_state" (some ("state", s.name)) = [toString n] := by
  have hf : m.families.filter (·.fullName = "cluster_agent_state") = [
      ⟨"state", .gauge, "Current lifecycle state (1 for the active state)",
        Sample.ofLabels "state" Lifecycle.State.name m.stateGauge Lifecycle.State.all⟩] := by
    simp [families, Family.fullName]
  have hinj : Function.Injective Lifecycle.State.name := by
    intro s t hst
    cases s <;> cases t <;> first | rfl | (revert hst; decide)
  rw [shown_ofLabels hf rfl hinj (by decide) (Lifecycle.State.mem_all s) hs, plainText_ofInt h]

theorem shown_backoffSecs (h : m.backoffSecs.toNat < 2 ^ 53) :
    m.shown "cluster_agent_backoff_remaining_seconds" none = [toString m.backoffSecs.toNat] := by
  have hf : m.exposition.filter (·.fullName = "cluster_agent_backoff_remaining_seconds") = [
      ⟨"backoff_remaining_seconds", .gauge, "Seconds left before the next send is allowed",
        [.plain m.backoffSecs.toNat]⟩] := by
    simp [exposition, families, Family.fullName]
  rw [shown, hf, List.flatMap_singleton, ← plainText_ofInt h]
  rfl

end ClusterCensus.Metrics
