import ClusterCensus.Shipping.Round
import Mathlib.Tactic.Common

/-!
# What a round does

A request changes nothing but what the agent derives from the rest of itself (`respond_cases`), and
what others do to an agent leaves the lifecycle where it is, the registered callback apart
(`lifecycle_beforeTick`). A round whose gate is closed shows nothing to the sink and leaves the
lifecycle alone (`round_of_closed`); one whose gate is open shows it one snapshot and takes its
answer, if there is one (`round_of_open`).
-/

namespace ClusterCensus

open Shipping

namespace Shipping.Aside

/-- The callback that is registered, if one is. -/
def callback? : Aside → Option String
  | onCancel callback => some callback
  | _ => none

/-- The callback registered last, after another one at the beginning. -/
def lastCallback (callback : Option String) (asides : List Aside) : Option String :=
  (asides.filterMap callback?).getLast?.or callback

theorem lastCallback_append (callback : Option String) (as bs : List Aside) :
    lastCallback callback (as ++ bs) = lastCallback (lastCallback callback as) bs := by
  simp [lastCallback, Option.or_assoc]

end Shipping.Aside

/-- A round at a single instant, in which nobody else does anything. -/
def Shipping.Round.quiet (now : Instant) (d : Delivery) : Round :=
  ⟨[], ⟨0, now, now, now, .zero false⟩, .answering d⟩

namespace Agent

theorem serve_cases (a : Agent) (wallMs : Int) (now : Instant) (e : Api.Endpoint) :
    (a.serve wallMs now e).2 = a
      ∨ (a.serve wallMs now e).2 = a.refresh wallMs now
      ∨ (a.serve wallMs now e).2 = a.showMetrics now := by
  cases e with
  | health => exact .inr (.inl rfl)
  | readiness => exact .inr (.inl rfl)
  | metrics => exact .inr (.inr rfl)
  | status => exact .inl rfl

/-- All that a request may change is what the agent derives from the rest of itself: the health of
the store and of the backend link, or the metrics that show it. -/
theorem respond_cases (a : Agent) (wallMs : Int) (now : Instant) (method : Api.Method)
    (target : String) :
    (a.respond wallMs now method target).2 = a
      ∨ (a.respond wallMs now method target).2 = a.refresh wallMs now
      ∨ (a.respond wallMs now method target).2 = a.showMetrics now := by
  unfold respond
  split
  · exact .inl rfl
  · cases method with
    | get => exact serve_cases ..
    | head => exact serve_cases ..
    | other => exact .inl rfl

theorem lifecycle_respond (a : Agent) (wallMs : Int) (now : Instant) (method : Api.Method)
    (target : String) : (a.respond wallMs now method target).2.lifecycle = a.lifecycle := by
  rcases respond_cases a wallMs now method target with h | h | h <;> rw [h] <;> rfl

theorem lifecycle_aside (a : Agent) (x : Aside) :
    (a.aside x).lifecycle
      = { a.lifecycle with callback := Aside.lastCallback a.lifecycle.callback [x] } := by
  cases x with
  | write => rfl
  | onCancel => rfl
  | request => exact lifecycle_respond ..

theorem lifecycle_foldl_aside : ∀ (asides : List Aside) (a : Agent),
    (asides.foldl aside a).lifecycle
      = { a.lifecycle with callback := Aside.lastCallback a.lifecycle.callback asides }
  | [], _ => rfl
  | x :: xs, a => by
    rw [List.foldl_cons, lifecycle_foldl_aside xs, lifecycle_aside,
      show x :: xs = [x] ++ xs from rfl, Aside.lastCallback_append]

theorem lifecycle_beforeTick (a : Agent) (r : Round) :
    (a.beforeTick r).lifecycle
      = { a.lifecycle with callback := Aside.lastCallback a.lifecycle.callback r.asides } :=
  lifecycle_foldl_aside ..

/-- The snapshot that a round has for its sink. -/
def offered (a : Agent) (r : Round) : Snapshot :=
  ((a.beforeTick r).capture r.reading.wallMs).snapshot

theorem machine_beforeTick (a : Agent) (r : Round) :
    (a.beforeTick r).lifecycle.machine = a.lifecycle.machine := by
  rw [lifecycle_beforeTick]

theorem round_eq_skip {a : Agent} {r : Round}
    (h : a.lifecycle.machine.canSend r.reading.gate = false) :
    a.round r = (a.beforeTick r).skip r.reading.shown := by
  rw [round, tick, machine_beforeTick, h]
  rfl

theorem round_eq_ship {a : Agent} {r : Round}
    (h : a.lifecycle.machine.canSend r.reading.gate = true) :
    a.round r = (a.beforeTick r).ship r.reading r.sink := by
  rw [round, tick, machine_beforeTick, h]
  rfl

theorem round_of_closed {a : Agent} {r : Round}
    (h : a.lifecycle.machine.canSend r.reading.gate = false) :
    (a.round r).seen = none ∧ (a.round r).outcome = .skipped a.lifecycle.machine.state
      ∧ (a.round r).agent.lifecycle = (a.beforeTick r).lifecycle := by
  rw [round_eq_skip h, ← machine_beforeTick a r]
  exact ⟨rfl, rfl, rfl⟩

theorem round_of_open {a : Agent} {r : Round}
    (h : a.lifecycle.machine.canSend r.reading.gate = true) :
    (a.round r).seen = some (a.offered r)
      ∧ (∃ n, (a.round r).outcome = outcomeOf n (r.sink (a.offered r)).1)
      ∧ (a.round r).agent.lifecycle
        = (a.beforeTick r).lifecycleAfter r.reading.settled (r.sink (a.offered r)).1 := by
  rw [round_eq_ship h]
  exact ⟨rfl, ⟨_, rfl⟩, rfl⟩

/-- The sink is only shown what a round has for it, and only through an open gate. -/
theorem open_of_seen {a : Agent} {r : Round} {s : Snapshot} (h : (a.round r).seen = some s) :
    a.lifecycle.machine.canSend r.reading.gate = true ∧ s = a.offered r := by
  rcases hc : a.lifecycle.machine.canSend r.reading.gate with _ | _
  · rw [(round_of_closed hc).1] at h
    cases h
  · rw [(round_of_open hc).1] at h
    cases h
    exact ⟨rfl, rfl⟩

/-- An answer moves the lifecycle once, at the instant at which the sink is done. -/
theorem lifecycle_of_answered {a : Agent} {r : Round} {s : Snapshot} {code hint : Nat}
    (hs : (a.round r).seen = some s) (ha : (r.sink s).1 = .answered code hint) :
    (a.round r).agent.lifecycle
      = (a.beforeTick r).lifecycle.answer r.reading.settled code hint := by
  obtain ⟨hopen, rfl⟩ := open_of_seen hs
  rw [(round_of_open hopen).2.2, ha]
  rfl

theorem machine_of_answered {a : Agent} {r : Round} {s : Snapshot} {code hint : Nat}
    (hs : (a.round r).seen = some s) (ha : (r.sink s).1 = .answered code hint) :
    (a.round r).agent.lifecycle.machine
      = a.lifecycle.machine.answer r.reading.settled code hint := by
  rw [lifecycle_of_answered hs ha, lifecycle_beforeTick]
  rfl

/-- A tick that shipped did so because the sink was shown a snapshot and answered. -/
theorem answered_of_shipped {a : Agent} {r : Round} {code n : Nat}
    (h : (a.round r).outcome = .shipped code n) :
    ∃ s hint, (a.round r).seen = some s ∧ (r.sink s).1 = .answered code hint := by
  rcases hc : a.lifecycle.machine.canSend r.reading.gate with _ | _
  · rw [(round_of_closed hc).2.1] at h
    cases h
  · obtain ⟨hseen, ⟨m, hout⟩, -⟩ := round_of_open hc
    rw [hout] at h
    rcases hd : (r.sink (a.offered r)).1 with ⟨code', hint⟩ | f <;> rw [hd] at h <;> cases h
    exact ⟨_, hint, hseen, hd⟩

/-- A round leaves the lifecycle as its tick found it, or moves it by one answer to a shipment. -/
theorem lifecycle_round (a : Agent) (r : Round) :
    (a.round r).agent.lifecycle = (a.beforeTick r).lifecycle
      ∨ ∃ code hint, (r.sink (a.offered r)).1 = .answered code hint
        ∧ (a.round r).agent.lifecycle
          = (a.beforeTick r).lifecycle.answer r.reading.settled code hint := by
  rcases hc : a.lifecycle.machine.canSend r.reading.gate with _ | _
  · exact .inl (round_of_closed hc).2.2
  · obtain ⟨-, -, hlife⟩ := round_of_open hc
    rcases hd : (r.sink (a.offered r)).1 with ⟨code, hint⟩ | f
    · rw [hd] at hlife
      exact .inr ⟨code, hint, rfl, hlife⟩
    · rw [hd] at hlife
      exact .inl hlife

/-- The ticks of rounds, one after the other. -/
def rounds (a : Agent) : List Round → List Tick
  | [] => []
  | r :: rs => a.round r :: (a.round r).agent.rounds rs

theorem exists_round_of_mem : ∀ {rs : List Round} {a : Agent} {t : Tick}, t ∈ a.rounds rs →
    ∃ b r, t = round b r
  | [], _, _, h => by simp [rounds] at h
  | r :: rs, a, t, h => by
    rcases List.mem_cons.1 h with rfl | h
    · exact ⟨a, r, rfl⟩
    · exact exists_round_of_mem h

/-- The agent after rounds. -/
def after (a : Agent) (rs : List Round) : Agent := rs.foldl (fun a r => (a.round r).agent) a

theorem rounds_concat : ∀ (rs : List Round) (a : Agent) (r : Round),
    a.rounds (rs ++ [r]) = a.rounds rs ++ [(a.after rs).round r]
  | [], _, _ => rfl
  | q :: qs, a, r => congrArg (a.round q :: ·) (rounds_concat qs (a.round q).agent r)

theorem after_concat (a : Agent) (rs : List Round) (r : Round) :
    a.after (rs ++ [r]) = ((a.after rs).round r).agent := by
  simp [after]

end Agent

end ClusterCensus
