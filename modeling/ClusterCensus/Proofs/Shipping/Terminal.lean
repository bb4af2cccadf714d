import ClusterCensus.Proofs.Shipping.Loop

/-!
# Refusals are final

A 401, 403 or 410 answer brings the lifecycle to its end (`Machine.answer_of_refused`). An answer of
another kind would lead out again, but from there on every gate is closed: no round shows the sink a
snapshot, and no answer comes (`rounds_of_ended`). A lifecycle that is not at its end was not there
before, so rounds that lead to it have called nothing (`calls_after_of_not_ended`). A refusal is the
first one then, and makes the only call (`refusal_is_final`).
-/

namespace ClusterCensus

open Shipping Lifecycle

namespace Lifecycle

/-- Where a refusal leads. -/
def refusedState (code : Nat) : State := if code = 410 then .exiting else .stopped

theorem isTerminal_refusedState (code : Nat) : (refusedState code).isTerminal = true := by
  unfold refusedState
  split_ifs <;> rfl

theorem Machine.answer_of_refused (m : Machine) (now : Instant) {code : Nat} (hint : Nat)
    (hcode : code = 401 ∨ code = 403 ∨ code = 410) :
    (m.answer now code hint).state = refusedState code := by
  rcases hcode with rfl | rfl | rfl <;> rfl

theorem Machine.canSend_of_isTerminal {m : Machine} (h : m.state.isTerminal = true)
    (now : Instant) : m.canSend now = false := by
  unfold canSend
  cases hs : m.state <;> rw [hs] at h <;> first | rfl | cases h

end Lifecycle

namespace Agent

/-- Whether the lifecycle is at its end. -/
def ended (a : Agent) : Bool := a.lifecycle.machine.state.isTerminal

theorem round_of_ended {a : Agent} (r : Round) (h : a.ended = true) :
    (a.round r).seen = none ∧ (a.round r).outcome = .skipped a.lifecycle.machine.state
      ∧ (a.round r).agent.lifecycle = (a.beforeTick r).lifecycle :=
  round_of_closed (Machine.canSend_of_isTerminal h _)

theorem machine_of_ended {a : Agent} (r : Round) (h : a.ended = true) :
    (a.round r).agent.lifecycle.machine = a.lifecycle.machine := by
  rw [(round_of_ended r h).2.2, lifecycle_beforeTick]

theorem ended_round {a : Agent} (r : Round) (h : a.ended = true) :
    (a.round r).agent.ended = true := by
  rw [ended, machine_of_ended r h]
  exact h

theorem rounds_of_ended : ∀ (rs : List Round) {a : Agent}, a.ended = true →
    ∀ t ∈ a.rounds rs, t.seen = none ∧ t.outcome = .skipped a.lifecycle.machine.state
      ∧ t.agent.lifecycle.machine = a.lifecycle.machine
  | [], _, _, t, ht => by simp [rounds] at ht
  | r :: rs, a, h, t, ht => by
    obtain ⟨hseen, hout, -⟩ := round_of_ended r h
    have hsame := machine_of_ended r h
    rcases List.mem_cons.1 ht with rfl | ht
    · exact ⟨hseen, hout, hsame⟩
    · have ih := rounds_of_ended rs (ended_round r h) t ht
      rwa [hsame] at ih

theorem ended_after : ∀ (rs : List Round) {a : Agent}, a.ended = true → (a.after rs).ended = true
  | [], _, h => h
  | r :: rs, _, h => ended_after rs (ended_round r h)

theorem calls_after_of_ended : ∀ (rs : List Round) {a : Agent}, a.ended = true →
    (a.after rs).lifecycle.calls = a.lifecycle.calls
  | [], _, _ => rfl
  | r :: rs, a, h => by
    have ih := calls_after_of_ended rs (ended_round r h)
    rwa [(round_of_ended r h).2.2, lifecycle_beforeTick] at ih

/-- A round whose answer leaves the lifecycle open calls nothing. -/
theorem calls_round_of_not_ended {a : Agent} {r : Round} (h : (a.round r).agent.ended = false) :
    (a.round r).agent.lifecycle.calls = a.lifecycle.calls
      ∧ (a.round r).agent.lifecycle.callback
        = Aside.lastCallback a.lifecycle.callback r.asides := by
  rcases lifecycle_round a r with hlife | ⟨code, hint, -, hlife⟩
  · rw [hlife, lifecycle_beforeTick]
    exact ⟨rfl, rfl⟩
  · have hcode : code ≠ 410 := by
      rintro rfl
      rw [ended, hlife] at h
      cases h
    rw [hlife, lifecycle_beforeTick]
    exact ⟨if_neg hcode, rfl⟩

theorem calls_after_of_not_ended : ∀ (rs : List Round) {a : Agent}, (a.after rs).ended = false →
    (a.after rs).lifecycle.calls = a.lifecycle.calls
      ∧ (a.after rs).lifecycle.callback
        = Aside.lastCallback a.lifecycle.callback (rs.flatMap (·.asides))
  | [], _, _ => ⟨rfl, by simp [after, Aside.lastCallback]⟩
  | r :: rs, a, h => by
    have hr : (a.round r).agent.ended = false := Bool.eq_false_iff.2 fun hr => by
      rw [after, List.foldl_cons, ← after, ended_after rs hr] at h
      contradiction
    obtain ⟨hcalls, hcallback⟩ := calls_round_of_not_ended hr
    obtain ⟨ihcalls, ihcallback⟩ := calls_after_of_not_ended rs (a := (a.round r).agent) h
    refine ⟨ihcalls.trans hcalls, ihcallback.trans ?_⟩
    rw [hcallback, List.flatMap_cons, Aside.lastCallback_append]

/-- The call that a refusal makes: of the callback registered last, if the refusal is the end of the
agent's support and there is one. -/
def refusalCall (code : Nat) (callback : Option String) (seen : Machine) : List CancelCall :=
  if code = 410 then (callback.map (CancelCall.mk · seen)).toList else []

theorem round_of_refused {a : Agent} {r : Round} {s : Snapshot} {code hint : Nat}
    (hcode : code = 401 ∨ code = 403 ∨ code = 410) (hseen : (a.round r).seen = some s)
    (hanswer : (r.sink s).1 = .answered code hint) :
    (a.round r).agent.lifecycle.machine.state = refusedState code
      ∧ (a.round r).agent.ended = true
      ∧ (a.round r).agent.lifecycle.calls = a.lifecycle.calls
        ++ refusalCall code (Aside.lastCallback a.lifecycle.callback r.asides)
          (a.round r).agent.lifecycle.machine := by
  have hstate : (a.round r).agent.lifecycle.machine.state = refusedState code := by
    rw [machine_of_answered hseen hanswer, Machine.answer_of_refused _ _ _ hcode]
  refine ⟨hstate, ?_, ?_⟩
  · rw [ended, hstate, isTerminal_refusedState]
  · rw [lifecycle_of_answered hseen hanswer, lifecycle_beforeTick]
    unfold refusalCall Supervisor.answer
    split_ifs
    · rfl
    · simp

/-- After a refusal no round shows the sink a snapshot: all are skipped and leave the lifecycle as
it is. Over all rounds, whatever was done before, the refusal has called the callback that was
registered last if it ended the agent's support, and nothing else has. A loop ends with the tick
that was refused. -/
theorem refusal_is_final {code : Nat} (hcode : code = 401 ∨ code = 403 ∨ code = 410) :
    (∀ (a : Agent) (before later : List Round) (r : Round) (s : Snapshot) (hint : Nat),
      ((a.after before).round r).seen = some s → (r.sink s).1 = .answered code hint →
      let b := ((a.after before).round r).agent
      b.lifecycle.machine.state = refusedState code
        ∧ (∀ t ∈ b.rounds later, t.seen = none ∧ t.outcome = .skipped (refusedState code)
          ∧ t.agent.lifecycle.machine = b.lifecycle.machine)
        ∧ (b.after later).lifecycle.calls = a.lifecycle.calls
          ++ refusalCall code
            (Aside.lastCallback a.lifecycle.callback ((before ++ [r]).flatMap (·.asides)))
            b.lifecycle.machine)
      ∧ ∀ (ε : Type) (m : Surroundings ε) (shutdown : Nat) (ticker : Ticker) (favours : List Bool)
        (ready : Nat) (a : Agent) (around : ε) (earlier later : List Timed) (t : Timed) (n : Nat),
        let c := m.work.run shutdown ticker favours ready (.start a around)
        c.state.ticks = earlier ++ t :: later → t.tick.outcome = .shipped code n →
        later = [] ∧ c.ending = .finished ∧ c.time = t.ended ∧ c.state.agent = t.tick.agent
          ∧ c.state.fault = none := by
  refine ⟨fun a before later r s hint hseen hanswer => ?_, ?_⟩
  · obtain ⟨hstate, hended, hcalls⟩ := round_of_refused hcode hseen hanswer
    have hopen : (a.after before).ended = false := Bool.eq_false_iff.2 fun h => by
      rw [(round_of_ended r h).1] at hseen
      contradiction
    obtain ⟨hbefore, hcallback⟩ := calls_after_of_not_ended before hopen
    refine ⟨hstate, fun t ht => hstate ▸ rounds_of_ended later hended t ht, ?_⟩
    rw [calls_after_of_ended later hended, hcalls, hbefore, hcallback, ← Aside.lastCallback_append,
      List.flatMap_append, List.flatMap_singleton]
  · intro ε m shutdown ticker favours ready a around earlier later t n c hticks hout
    obtain ⟨rs, hrs, -⟩ := m.rounds_run shutdown ticker favours ready a around
    have hmem : t.tick ∈ a.rounds rs := by
      rw [← hrs]
      exact List.mem_map_of_mem (by rw [show _ = _ from hticks]; simp)
    -- It is a round that was refused, so its tick has brought the lifecycle to its end.
    obtain ⟨b, r, hround⟩ := exists_round_of_mem hmem
    rw [hround] at hout
    obtain ⟨s, hint, hseen, hanswer⟩ := answered_of_shipped hout
    exact m.last_of_isTerminal rfl hticks (hround ▸ (round_of_refused hcode hseen hanswer).2.1)

/-- The end of the agent's support: the callback is called once, and the loop ends at once. -/
theorem end_of_support_is_final :
    let a := Agent.initial "node" ⟨0⟩
    let r := { Round.quiet ⟨0, 0⟩ (.answered 410 0) with asides := [.onCancel "farewell"] }
    let late := Round.quiet ⟨1, 0⟩ (.answered 200 0)
    let m : Surroundings Unit := fun _ _ _ => .ok (r, 7, ())
    let c := m.work.run 100 ⟨10, 0, by decide⟩ [] 0 (.start a ())
    (((a.after []).round r).agent.after [late]).lifecycle.calls
        = [⟨"farewell", .exiting, "agent deprecated", none⟩]
      ∧ c.state.ticks = [⟨0, 7, a.round r⟩] ∧ (a.round r).outcome = .shipped 410 0
      ∧ c.ending = .finished ∧ c.time = 7 := by
  intro a r late m c
  have hcode : 410 = 401 ∨ 410 = 403 ∨ 410 = 410 := by decide
  have hticks : c.state.ticks = [⟨0, 7, a.round r⟩] := by
    unfold c Work.run
    rfl
  obtain ⟨-, hend, htime, -⟩ := (refusal_is_final hcode).2 Unit m 100 ⟨10, 0, by decide⟩ [] 0 a ()
    [] [] ⟨0, 7, a.round r⟩ 0 hticks rfl
  refine ⟨?_, hticks, rfl, hend, htime⟩
  exact ((refusal_is_final hcode).1 a [] [late] r _ 0 rfl rfl).2.2

end Agent

end ClusterCensus
