import ClusterCensus.Proofs.Shipping.Shutdown
import ClusterCensus.Shipping.Scenario
import Mathlib.Logic.Function.Iterate

/-!
# The pace of the loop

A loop that nobody shuts down goes from beat to beat (`Beat.next`), in any unit of time. A tick
comes as soon as the one before it is done and the ticker has it come, which is an interval after
the one before it, or up to the slack sooner (`Beat.pace`). A loop that is shut down at some time
ends where it stands after some of these beats (`exists_beats`), and its ticks are those beats
(`ticks_keep_pace`).
-/

namespace ClusterCensus.Shipping

/-- Where a loop stands that nobody shuts down: when the next tick is due, when the loop is ready
for it, and the state to work on. -/
structure Beat (σ : Type) where
  due : Nat
  ready : Nat
  state : σ

namespace Beat

variable {σ : Type} (w : Work σ) (interval slack : Nat)

/-- When the next tick comes. -/
def time (b : Beat σ) : Nat := max b.due b.ready

/-- How long the work of the next tick takes. -/
def took (b : Beat σ) : Nat := (w.turn b.time b.state).2

/-- Where the loop stands after the next tick. It is due an interval after it was due, or after it
came if that was later by more than the slack. -/
def next (b : Beat σ) : Beat σ where
  due := (if b.time ≤ b.due + slack then b.due else b.time) + interval
  ready := b.time + b.took w
  state := (w.turn b.time b.state).1

theorem pace (b : Beat σ) :
    max (b.time + b.took w) (b.time + interval - slack) ≤ (b.next w interval slack).time
      ∧ (b.next w interval slack).time ≤ max (b.time + b.took w) (b.time + interval) := by
  have hdue : b.due ≤ b.time := Nat.le_max_left ..
  have hnext : (b.next w interval slack).time = max ((if b.time ≤ b.due + slack then b.due
    else b.time) + interval) (b.time + b.took w) := rfl
  rw [hnext]
  split_ifs <;> omega

/-- The beats of a loop from one on. -/
def after (b : Beat σ) (i : Nat) : Beat σ := (next w interval slack)^[i] b

theorem after_succ (b : Beat σ) (i : Nat) :
    b.after w interval slack (i + 1) = (b.next w interval slack).after w interval slack i :=
  Function.iterate_succ_apply ..

theorem after_succ' (b : Beat σ) (i : Nat) :
    b.after w interval slack (i + 1) = (b.after w interval slack i).next w interval slack :=
  Function.iterate_succ_apply' ..

theorem time_le_after (b : Beat σ) : ∀ i, b.time ≤ (b.after w interval slack i).time
  | 0 => Nat.le_refl _
  | i + 1 => by
    have ih := time_le_after b i
    have hpace := ((b.after w interval slack i).pace w interval slack).1
    rw [after_succ']
    omega

end Beat

theorem Ticker.le_fire_of_admits {t : Ticker} {shutdown ready : Nat} {favours : List Bool}
    (h : t.admits shutdown ready favours = none) : shutdown ≤ t.fire ready := by
  unfold admits at h
  split_ifs at h with hbefore
  · exact Nat.not_lt.1 hbefore
  · exact Nat.not_lt.1 hbefore

/-- A loop that is shut down at some time ends where it stands after some beats, with all that come
before that time among them, if its work is never finished. -/
theorem Work.exists_beats {σ : Type} (w : Work σ) (shutdown : Nat) (t : Ticker)
    (favours : List Bool) (ready : Nat) (s : σ)
    (hgo : ∀ i, w.finished
      ((Beat.mk t.due ready s).after w t.interval Ticker.slack (i + 1)).state = false) :
    (w.run shutdown t favours ready s).ending = .shutdown
      ∧ ∃ n, (w.run shutdown t favours ready s).state
          = ((Beat.mk t.due ready s).after w t.interval Ticker.slack n).state
        ∧ ∀ i, ((Beat.mk t.due ready s).after w t.interval Ticker.slack i).time < shutdown →
          i < n := by
  fun_induction run w shutdown t favours ready s with
  | case1 t favours ready s hnone =>
    refine ⟨rfl, 0, rfl, fun i hi => ?_⟩
    have hfirst := (Beat.mk t.due ready s).time_le_after w t.interval Ticker.slack i
    have hshut : shutdown ≤ (Beat.mk t.due ready s).time := Ticker.le_fire_of_admits hnone
    omega
  | case2 t favours ready s rest h start s' took hrun hfin =>
    have hfirst : w.finished (w.turn start s).1 = false := hgo 0
    rw [hrun, hfin] at hfirst
    cases hfirst
  | case3 t favours ready s rest h start s' took hrun hfin c ih =>
    have hnext : (Beat.mk t.due ready s).next w t.interval Ticker.slack
        = Beat.mk (t.next start).due (start + took) s' := by
      show Beat.mk _ (start + (w.turn start s).2) (w.turn start s).1 = _
      rw [hrun]
      rfl
    have hlater (i : Nat) : (Beat.mk t.due ready s).after w t.interval Ticker.slack (i + 1)
        = (Beat.mk (t.next start).due (start + took) s').after w (t.next start).interval
          Ticker.slack i := by
      rw [Beat.after_succ, hnext]
      rfl
    obtain ⟨hend, n, hstate, hall⟩ := ih fun i => hlater (i + 1) ▸ hgo (i + 1)
    refine ⟨hend, n + 1, (hlater n).symm ▸ hstate, fun i hi => ?_⟩
    rcases i with _ | i
    · exact Nat.succ_pos n
    · rw [hlater] at hi
      exact Nat.succ_lt_succ (hall i hi)

namespace Scenario

/-- In a scenario a tick takes as long as its shipment, and no time without one. -/
theorem elapsedMs_of_round {s later : Scenario} {r : Round} (h : s.round = .ok (r, later)) :
    later.elapsedMs = s.elapsedMs
      + if (s.agent.round r).seen.isSome then s.nextDelivery.1.delayMs else 0 := by
  unfold round at h
  simp only [bind, Except.bind] at h
  split at h
  · cases h
  · rename_i gate _
    split_ifs at h with hopen
    · split at h
      · cases h
      · cases h
        rw [(Agent.round_of_open hopen).1]
        rfl
    · cases h
      rw [(Agent.round_of_closed (Bool.eq_false_iff.2 hopen)).1]
      rfl

theorem took_of_surroundings {s later : Scenario} {a : Agent} {start took : Nat} {r : Round}
    (h : surroundings s a start = .ok (r, took, later)) :
    took = if (a.round r).seen.isSome then s.nextDelivery.1.delayMs else 0 := by
  unfold surroundings at h
  rcases hround : ({ s with agent := a, elapsedMs := start } : Scenario).round
    with fault | ⟨r', later'⟩
  · rw [hround] at h
    cases h
  · rw [hround] at h
    cases h
    rw [elapsedMs_of_round hround, Nat.add_sub_cancel_left]
    rfl

end Scenario

namespace Surroundings

variable {ε : Type} (m : Surroundings ε)

/-- The beats of a loop that begins at a time. -/
def beat (interval slack start : Nat) (a : Agent) (around : ε) (i : Nat) : Beat (Progress ε) :=
  (Beat.mk start start (.start a around)).after m.work interval slack i

/-- The work of a beat is a tick, if it does not end the loop. -/
theorem ticks_next (interval slack : Nat) (b : Beat (Progress ε))
    (hgo : m.work.finished (b.next m.work interval slack).state = false) :
    (b.next m.work interval slack).state.ticks.map (fun t => (t.began, t.ended))
      = b.state.ticks.map (fun t => (t.began, t.ended)) ++ [(b.time, b.time + b.took m.work)] := by
  unfold Beat.next Beat.took at *
  rcases m.turn_cases b.time b.state with ⟨r, took, next, hturn⟩ | ⟨fault, hturn⟩
  · rw [hturn, List.map_append]
    rfl
  · rw [hturn] at hgo
    simp [work] at hgo

theorem ticks_beat (interval slack start : Nat) (a : Agent) (around : ε)
    (hgo : ∀ i, m.work.finished (m.beat interval slack start a around (i + 1)).state = false) :
    ∀ n, (m.beat interval slack start a around n).state.ticks.map (fun t => (t.began, t.ended))
      = (List.range n).map fun i => ((m.beat interval slack start a around i).time,
          (m.beat interval slack start a around i).time
            + (m.beat interval slack start a around i).took m.work)
  | 0 => rfl
  | n + 1 => by
    have ih := ticks_beat interval slack start a around hgo n
    have hnext : m.beat interval slack start a around (n + 1)
        = (m.beat interval slack start a around n).next m.work interval slack :=
      Beat.after_succ' ..
    rw [List.range_succ, List.map_append, ← ih, hnext]
    exact m.ticks_next interval slack _ (hnext ▸ hgo n)

/-- The pace of a loop, in any unit of time. The first tick comes at once. Each of the others comes
as soon as the one before it is done and an interval has passed since that one came, the slack at
most sooner, and it is never later than that. So ticks never overlap, none is lost, and however many
intervals one of them covers there is no burst to make up for it. The ticks of a loop that does not
end by itself are the first ones of these, with all that come before it is shut down among them. In
a scenario a tick takes as long as its shipment, and no time if it ships nothing. -/
theorem ticks_keep_pace (start interval : Nat) (a : Agent) (around : ε) :
    (∀ slack,
      let b := m.beat interval slack start a around
      (b 0).time = start
        ∧ ∀ i, max ((b i).time + (b i).took m.work) ((b i).time + interval - slack)
            ≤ (b (i + 1)).time
          ∧ (b (i + 1)).time ≤ max ((b i).time + (b i).took m.work) ((b i).time + interval))
      ∧ (let b := m.beat interval Ticker.slack start a around
        ∀ h : 0 < interval, (∀ i, m.work.finished (b (i + 1)).state = false) →
          ∀ shutdown favours,
            let c := m.work.run shutdown ⟨interval, start, h⟩ favours start (.start a around)
            c.ending = .shutdown
              ∧ ∃ n, c.state.ticks.map (fun t => (t.began, t.ended))
                  = (List.range n).map (fun i => ((b i).time, (b i).time + (b i).took m.work))
                ∧ ∀ i, (b i).time < shutdown → i < n)
      ∧ ∀ (s later : Scenario) (a : Agent) (start took : Nat) (r : Round),
          Scenario.surroundings s a start = .ok (r, took, later) →
          took = if (a.round r).seen.isSome then s.nextDelivery.1.delayMs else 0 := by
  refine ⟨?_, ?_, fun _ _ _ _ _ _ h => Scenario.took_of_surroundings h⟩
  · intro slack b
    refine ⟨Nat.max_self start, fun i => ?_⟩
    have hnext : b (i + 1) = (b i).next m.work interval slack := Beat.after_succ' ..
    rw [hnext]
    exact (b i).pace m.work interval slack
  · intro b h hgo shutdown favours c
    obtain ⟨hend, n, hstate, hall⟩ :=
      m.work.exists_beats shutdown ⟨interval, start, h⟩ favours start (.start a around) hgo
    refine ⟨hend, n, ?_, hall⟩
    rw [show c.state = _ from hstate]
    exact m.ticks_beat interval Ticker.slack start a around hgo n

theorem open_beat_of_accepting (took interval slack : Nat) {b : Beat (Progress Unit)}
    (hfault : b.state.fault = none)
    (hopen : b.state.agent.lifecycle.machine.canSend ⟨0, 0⟩ = true) :
    ∀ i, (b.after (accepting took).work interval slack i).state.fault = none
      ∧ (b.after (accepting took).work interval slack i).state.agent.lifecycle.machine.canSend
        ⟨0, 0⟩ = true
  | 0 => ⟨hfault, hopen⟩
  | i + 1 => by
    obtain ⟨hfault', hopen'⟩ := open_beat_of_accepting took interval slack hfault hopen i
    obtain ⟨-, hfault'', hopen'', -⟩ := turn_of_accepting took
      (b.after (accepting took).work interval slack i).time hfault' hopen'
    rw [Beat.after_succ']
    exact ⟨hfault'', hopen''⟩

/-- Shipments that last for two intervals and a half follow one another without a pause, and
without a burst. Scripted to last as long, a shipment takes that time. -/
theorem slow_shipments_keep_pace :
    let c := (accepting 25).work.run 60 ⟨10, 3, by decide⟩ [] 3 (.start (.initial "node" ⟨0⟩) ())
    let s : Scenario := ⟨.initial "node" ⟨0⟩, .wall, 1000, 0, [⟨.answered 200 0, 25⟩]⟩
    (∃ n, 3 ≤ n ∧ c.state.ticks.map (fun t => (t.began, t.ended))
        = (List.range n).map fun i => (3 + 25 * i, 3 + 25 * i + 25))
      ∧ ∃ r later, s.surroundings s.agent 3 = .ok (r, 25, later)
        ∧ (s.agent.round r).seen.isSome = true := by
  intro c s
  obtain ⟨hpace, hrun, hscenario⟩ := (accepting 25).ticks_keep_pace 3 10 (.initial "node" ⟨0⟩) ()
  obtain ⟨hstart, hnext⟩ := hpace Ticker.slack
  have htime : ∀ i, ((accepting 25).beat 10 Ticker.slack 3 (.initial "node" ⟨0⟩) () i).time
      = 3 + 25 * i := by
    intro i
    induction i with
    | zero => exact hstart
    | succ i ih =>
      have hpace := hnext i
      rw [ih, show Beat.took _ _ = 25 from rfl] at hpace
      omega
  have hgo : ∀ i, (accepting 25).work.finished
      ((accepting 25).beat 10 Ticker.slack 3 (.initial "node" ⟨0⟩) () (i + 1)).state = false := by
    intro i
    obtain ⟨hfault, hopen⟩ := open_beat_of_accepting 25 10 Ticker.slack
      (b := ⟨3, 3, .start (.initial "node" ⟨0⟩) ()⟩) rfl rfl i
    rw [beat, Beat.after_succ']
    exact (turn_of_accepting 25 _ hfault hopen).1
  obtain ⟨-, n, hticks, hall⟩ := hrun (by decide) hgo 60 []
  have hthird := hall 2 (by rw [htime]; decide)
  refine ⟨⟨n, hthird, hticks.trans (List.map_congr_left fun i _ => ?_)⟩, ?_⟩
  · rw [htime]
    rfl
  · obtain ⟨r, later, hs⟩ : ∃ r later, s.surroundings s.agent 3 = .ok (r, 25, later) :=
      ⟨_, _, rfl⟩
    refine ⟨r, later, hs, ?_⟩
    have htook := hscenario s later s.agent 3 25 r hs
    split_ifs at htook with hseen
    exact hseen

end Surroundings

end ClusterCensus.Shipping
