import ClusterCensus.Proofs.Agent.Probes
import ClusterCensus.Proofs.Lifecycle.Readers
import ClusterCensus.Proofs.Metrics.Exposition
import ClusterCensus.Proofs.Shipping.Effects
import ClusterCensus.Proofs.Store.Reference

/-!
# The metrics and the status page show one world

Whatever is done to an agent, its store holds what was written to it (`store_afterDeeds`), and the
deadline of its lifecycle lies in the calendar (`bounded_afterDeeds`). So the numbers that are shown
are small enough for the metrics to show them exactly, and these agree with the status page
(`metrics_and_status_agree`), whatever the gauges showed before.
-/

namespace ClusterCensus

open Shipping

/-- What stands in a value under names, each of them inside the one before. -/
def Json.within (v : Json) : List String → Option Json
  | [] => some v
  | name :: names => (v.get? name).bind (·.within names)

/-! ## What deeds leave behind -/

namespace Agent.Deed

/-- What a deed writes to the store, and what the wall clock shows then. -/
def writes : Deed → List (Int × Store.Change)
  | aside x => x.write?.toList
  | move (.round r) => r.writes
  | _ => []

/-- When a deed may take an answer of the backend. -/
def answeredAt : Deed → List Instant
  | move (.round r) => [r.reading.settled]
  | answer now _ _ => [now]
  | _ => []

end Agent.Deed

namespace Agent

theorem store_deed (a : Agent) (d : Deed) : (a.deed d).store = a.store.run d.writes := by
  cases d with
  | aside x => exact store_aside a x
  | move m =>
    cases m with
    | round r => exact store_round a r
    | order => rfl
  | answer => rfl
  | judge => rfl
  | declare => rfl

theorem store_afterDeeds : ∀ (deeds : List Deed) (a : Agent),
    (a.afterDeeds deeds).store = a.store.run (deeds.flatMap Deed.writes)
  | [], _ => rfl
  | d :: deeds, a => by
    have ih := store_afterDeeds deeds (a.deed d)
    rw [store_deed, ← Store.run_append] at ih
    exact ih

theorem bounded_deed {a : Agent} (h : a.lifecycle.machine.Bounded) {d : Deed}
    (hd : ∀ t ∈ d.answeredAt, t.nanos < 2 * Instant.perSec) :
    (a.deed d).lifecycle.machine.Bounded := by
  cases d with
  | aside x =>
    rw [deed, lifecycle_aside]
    exact h
  | move m =>
    cases m with
    | round r =>
      rw [← machine_beforeTick a r] at h
      have hsettled := hd r.reading.settled (List.mem_singleton_self _)
      change (a.round r).agent.lifecycle.machine.Bounded
      obtain hlife | ⟨code, hint, -, hlife⟩ := lifecycle_round a r
      · rw [hlife]
        exact h
      · rw [hlife]
        exact h.answer hsettled code hint
    | order state reason => exact h.order state reason
  | answer now code hint => exact h.answer (hd now (List.mem_singleton_self _)) code hint
  | judge => exact h
  | declare => exact h

theorem bounded_afterDeeds : ∀ {deeds : List Deed} {a : Agent}, a.lifecycle.machine.Bounded →
    (∀ t ∈ deeds.flatMap Deed.answeredAt, t.nanos < 2 * Instant.perSec) →
      (a.afterDeeds deeds).lifecycle.machine.Bounded
  | [], _, h, _ => h
  | d :: deeds, a, h, hall => by
    rw [List.flatMap_cons] at hall
    obtain ⟨hd, hdeeds⟩ := List.forall_mem_append.1 hall
    have ih := bounded_afterDeeds (bounded_deed h hd) hdeeds
    exact ih

/-! ## The two views -/

theorem statusPage_kind (a : Agent) (wallMs : Int) (now : Instant) (k : Kind)
    (names : List String) :
    (a.statusPage wallMs now).within ("kinds" :: k.name :: names)
      = (a.kindStatus wallMs k).within names := by
  have hpage : (a.statusPage wallMs now).get? "kinds"
      = some (Json.ofMembers (Kind.all.map fun k => (k.name, a.kindStatus wallMs k))) := rfl
  rw [Json.within, hpage, Option.bind_some, Json.within, Kind.get?_ofMembers, Option.bind_some]

theorem within_encode (s : Lifecycle.Status) :
    s.encode.within ["state"] = some (.string s.state.name)
      ∧ s.encode.within ["backoff_remaining_secs"]
        = some (.nat s.backoffRemainingSecs.toNat) := by
  rw [Lifecycle.Status.encode]
  split_ifs <;> exact ⟨rfl, rfl⟩

theorem statusPage_lifecycle (a : Agent) (wallMs : Int) (now : Instant) :
    (a.statusPage wallMs now).within ["lifecycle", "state"]
        = some (.string a.lifecycle.machine.state.name)
      ∧ (a.statusPage wallMs now).within ["lifecycle", "backoff_remaining_secs"]
        = some (.nat (a.status now).backoffRemainingSecs.toNat) := by
  have hpage : (a.statusPage wallMs now).get? "lifecycle" = some (a.status now).encode := rfl
  rw [Json.within, Json.within, hpage, Option.bind_some, Option.bind_some]
  exact within_encode (a.status now)

theorem shown_updatedMs (a : Agent) (now : Instant) {k : Kind} (h : 0 ≤ a.store.updatedMs k)
    (hlimit : a.store.updatedMs k < Wall.limitMs) :
    (a.showMetrics now).metrics.shown "cluster_agent_store_last_updated_timestamp_seconds"
        (some ("kind", k.name))
      = [toString ((a.store.updatedMs k).fdiv 1000)] := by
  obtain ⟨ms, hms⟩ := Int.eq_ofNat_of_zero_le h
  have hgauge : (a.showMetrics now).metrics.storeUpdatedSecs k
      = some ((ms / 1000 : Nat) : Int) := by
    change some (a.store.updatedMs k / 1000) = _
    rw [hms]
    rfl
  have hlt : ms / 1000 < 2 ^ 53 := by
    simp only [hms, Wall.limitMs] at hlimit
    omega
  rw [Metrics.shown_storeUpdatedSecs _ hgauge hlt, hms, Int.fdiv_eq_ediv_of_nonneg _ (by decide)]
  rfl

theorem shown_state (a : Agent) (now : Instant) (s : Lifecycle.State) :
    (a.showMetrics now).metrics.shown "cluster_agent_state" (some ("state", s.name))
      = [if s = a.lifecycle.machine.state then "1" else "0"] := by
  have hgauge : (a.showMetrics now).metrics.stateGauge s
      = some ((if s = a.lifecycle.machine.state then 1 else 0 : Nat) : Int) := by
    change some (if s = a.lifecycle.machine.state then 1 else 0) = _
    split_ifs <;> rfl
  rw [Metrics.shown_stateGauge _ hgauge (by split_ifs <;> decide)]
  split_ifs <;> rfl

/-- Whatever was written to an agent's store, whatever moved its lifecycle, and whatever its metrics
have shown so far, as long as the clocks keep to the calendar and there are fewer than `2 ^ 53`
records: the metrics and the status page, asked for at one instant, show the same numbers, and a
copy of the store has as many records as are shown. -/
theorem metrics_and_status_agree (node : String) (staleAfter : Span) (deeds : List Deed)
    (gauges : Metrics) (wallMs : Int) (now : Instant)
    (hwrites : ∀ w ∈ deeds.flatMap Deed.writes, w.1 < Wall.limitMs)
    (hanswers : ∀ t ∈ deeds.flatMap Deed.answeredAt, t.nanos < 2 * Instant.perSec)
    (hnow : now.InCalendar)
    (hsize : ((initial node staleAfter).afterDeeds deeds).store.totalItems < 2 ^ 53) :
    let a := { (initial node staleAfter).afterDeeds deeds with metrics := gauges }
    ∃ (m : Metrics) (page : Json) (items : Kind → Nat) (updatedMs : Kind → Int)
      (state : Lifecycle.State) (secs : Nat),
      (a.respond wallMs now .get "/metrics").1.body = .metrics m
        ∧ (a.respond wallMs now .get "/status").1.body = .json page
        ∧ ((a.respond wallMs now .get "/metrics").2.respond wallMs now .get "/status").1.body
          = .json page
        ∧ (∀ k, page.within ["kinds", k.name, "items"] = some (.nat (items k))
          ∧ m.shown "cluster_agent_store_items" (some ("kind", k.name)) = [toString (items k)])
        ∧ (∀ k, page.within ["kinds", k.name, "last_updated_ms"] = some (.integer (updatedMs k))
          ∧ m.shown "cluster_agent_store_last_updated_timestamp_seconds" (some ("kind", k.name))
            = [toString ((updatedMs k).fdiv 1000)])
        ∧ page.within ["lifecycle", "state"] = some (.string state.name)
        ∧ (∀ s, m.shown "cluster_agent_state" (some ("state", s.name))
          = [if s = state then "1" else "0"])
        ∧ page.within ["lifecycle", "backoff_remaining_secs"] = some (.nat secs)
        ∧ m.shown "cluster_agent_backoff_remaining_seconds" none = [toString secs]
        ∧ page.within ["total_items"] = some (.nat (Kind.all.map items).sum)
        ∧ ∀ ms, (a.store.snapshot ms).totalItems = (Kind.all.map items).sum := by
  intro a
  have hstore : a.store = Store.empty.run (deeds.flatMap Deed.writes) := store_afterDeeds deeds _
  have hbounded : a.lifecycle.machine.Bounded := bounded_afterDeeds nofun hanswers
  have hempty {k : Kind} : Store.empty.updatedMs k < Wall.limitMs := by
    change (0 : Int) < _
    decide
  have hlate (k : Kind) : 0 ≤ a.store.updatedMs k ∧ a.store.updatedMs k < Wall.limitMs := by
    rw [hstore]
    exact ⟨Store.updatedMs_le_run .empty _ k, Store.updatedMs_run_lt hempty hwrites⟩
  have hsecs : (a.status now).backoffRemainingSecs.toNat < 2 ^ 53 :=
    (Nat.mod_le ..).trans_lt (hbounded.secs_remaining_lt hnow)
  refine ⟨(a.showMetrics now).metrics, a.statusPage wallMs now, a.store.count, a.store.updatedMs,
    a.lifecycle.machine.state, (a.status now).backoffRemainingSecs.toNat,
    congrArg (·.1.body) (respond_get a wallMs now .metrics),
    congrArg (·.1.body) (respond_get a wallMs now .status), ?_, fun k => ⟨?_, ?_⟩,
    fun k => ⟨?_, ?_⟩, ?_, fun s => ?_, ?_, ?_, ?_, fun ms => ?_⟩
  · have hmetrics : (a.respond wallMs now .get "/metrics").2 = a.showMetrics now :=
      congrArg (·.2) (respond_get a wallMs now .metrics)
    rw [hmetrics]
    exact congrArg (·.1.body) (respond_get (a.showMetrics now) wallMs now .status)
  · rw [statusPage_kind]
    rfl
  · exact Metrics.shown_storeItems _ rfl ((a.store.count_le_totalItems k).trans_lt hsize)
  · rw [statusPage_kind]
    rfl
  · exact shown_updatedMs a now (hlate k).1 (hlate k).2
  · exact (statusPage_lifecycle a wallMs now).1
  · exact shown_state a now s
  · exact (statusPage_lifecycle a wallMs now).2
  · exact Metrics.shown_backoffSecs _ hsecs
  · simp [Json.within, statusPage, Json.get?, Json.member?, Store.totalItems, Kind.sum_eq]
  · rw [Store.totalItems_snapshot, Store.itemCounts, List.map_map]
    rfl

/-- A pod was written and a node removed, then the backend asked for half a minute of rest, of which
twenty seconds are left. -/
theorem metrics_and_status_agree_in_backoff :
    let deeds : List Deed := [
      .aside (.write 1999 ⟨.pods, .set "default/web-0"
        ⟨"web-0", "default", "u1", none, "Running", none, ∅, 250, 64⟩⟩),
      .aside (.write 4500 ⟨.nodes, .delete "node-1"⟩), .answer ⟨100, 0⟩ 429 0]
    let a := (initial "node-1" (.ofSecs 60)).afterDeeds deeds
    ∃ m, (a.respond 5000 ⟨110, 0⟩ .get "/metrics").1.body = .metrics m
      ∧ m.shown "cluster_agent_store_items" (some ("kind", "pods")) = ["1"]
      ∧ m.shown "cluster_agent_store_last_updated_timestamp_seconds" (some ("kind", "nodes"))
        = ["4"]
      ∧ m.shown "cluster_agent_state" (some ("state", "backoff")) = ["1"]
      ∧ m.shown "cluster_agent_backoff_remaining_seconds" none = ["20"] := by
  intro deeds a
  obtain ⟨m, page, items, updatedMs, state, secs, hm, hpage, -, hitems, hupdated, hstate, hgauge,
    hsecs, hbackoff, -⟩ := metrics_and_status_agree "node-1" (.ofSecs 60) deeds a.metrics 5000
      ⟨110, 0⟩ (by decide) (by decide) (by decide) (by decide)
  obtain rfl : a.statusPage 5000 ⟨110, 0⟩ = page :=
    Api.Body.json.inj ((congrArg (·.1.body) (respond_get a _ _ .status)).symm.trans hpage)
  obtain ⟨hpods, hshownPods⟩ := hitems .pods
  obtain ⟨hnodes, hshownNodes⟩ := hupdated .nodes
  rw [statusPage_kind] at hpods hnodes
  have hone : (1 : Nat) = items .pods :=
    Int.ofNat.inj (Json.integer.inj (Option.some.inj hpods))
  have hlast : (4500 : Int) = updatedMs .nodes := Json.integer.inj (Option.some.inj hnodes)
  obtain rfl : .backoff = state := by
    have hname := Json.string.inj (Option.some.inj
      ((statusPage_lifecycle a 5000 ⟨110, 0⟩).1.symm.trans hstate))
    revert hname
    cases state <;> decide
  have hleft : (a.status ⟨110, 0⟩).backoffRemainingSecs.toNat = secs := Int.ofNat.inj
    (Json.integer.inj (Option.some.inj ((statusPage_lifecycle a 5000 _).2.symm.trans hsecs)))
  have htwenty : (a.status ⟨110, 0⟩).backoffRemainingSecs.toNat = 20 := by decide
  refine ⟨m, hm, hshownPods.trans ?_, hshownNodes.trans ?_, hgauge .backoff, hbackoff.trans ?_⟩
  · rw [← hone]
    rfl
  · rw [← hlast]
    rfl
  · rw [← hleft, htwenty]
    rfl

end Agent

end ClusterCensus
