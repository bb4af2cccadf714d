import ClusterCensus.Proofs.Lifecycle.Backoff
import ClusterCensus.Proofs.Shipping.Round

/-!
# Backoff is kept

While the lifecycle is in backoff, the first round to show the sink a snapshot is the first whose
gate reads the deadline or later (`rounds_of_backoff`): a closed gate leaves the deadline where it
is. Since a 402 or 429 answer always leads into backoff, the rounds after one are skipped up to the
end of the time that it holds back, and no longer (`next_shipment_after_backoff`).
-/

namespace ClusterCensus.Agent

open Shipping Lifecycle

/-- Whether the gate of a round reads an instant or a later one, in nanoseconds. -/
def gateFrom (deadline : Int) (r : Round) : Bool := deadline ≤ r.reading.gate.ns

theorem rounds_of_backoff {d : Instant} (hd : ¬ d.isLeap) :
    ∀ (rs : List Round) (a : Agent), a.lifecycle.machine.state = .backoff →
      a.lifecycle.machine.deadline = some d → (∀ r ∈ rs, ¬ r.reading.gate.isLeap) →
      (a.rounds rs).findIdx? (·.seen.isSome) = rs.findIdx? (gateFrom d.ns)
        ∧ ∀ t ∈ (a.rounds rs).take (rs.findIdx (gateFrom d.ns)), t.outcome = .skipped .backoff
          ∧ t.agent.lifecycle.machine = a.lifecycle.machine
  | [], _, _, _, _ => by simp [rounds]
  | r :: rs, a, hs, hm, hr => by
    have hgate := Machine.canSend_of_backoff hs hm hd (hr r List.mem_cons_self)
    simp only [rounds, List.findIdx?_cons, List.findIdx_cons]
    by_cases hdue : d.ns ≤ r.reading.gate.ns
    · have hseen := (round_of_open (hgate.2 hdue)).1
      simp [gateFrom, hdue, hseen]
    · -- Nothing changes, so the same deadline holds for the rounds that follow.
      obtain ⟨hseen, hout, hlife⟩ := round_of_closed (Bool.eq_false_iff.2 (hgate.not.2 hdue))
      have hsame : (a.round r).agent.lifecycle.machine = a.lifecycle.machine := by
        rw [hlife, lifecycle_beforeTick]
      obtain ⟨ihfirst, ihskip⟩ := rounds_of_backoff hd rs (a.round r).agent (by rw [hsame, hs])
        (by rw [hsame, hm]) fun q hq => hr q (List.mem_cons_of_mem _ hq)
      have hnot : gateFrom d.ns r = false := decide_eq_false hdue
      rw [hnot, hseen, ihfirst]
      refine ⟨rfl, fun t ht => ?_⟩
      rcases List.mem_cons.1 ht with rfl | ht
      · exact ⟨hs ▸ hout, hsame⟩
      · obtain ⟨hskip, hkeep⟩ := ihskip t ht
        exact ⟨hskip, hkeep.trans hsame⟩

/-- From any agent on: after a round whose shipment is answered by 402 or 429, the next round to
show the sink a snapshot is the first whose gate reads the end of the backoff or later, and the
rounds before that one are skipped and leave the lifecycle as it was. -/
theorem next_shipment_after_backoff (a : Agent) (r : Round) (later : List Round) {s : Snapshot}
    {code hint : Nat} (hcode : code = 402 ∨ code = 429) (hseen : (a.round r).seen = some s)
    (hanswer : (r.sink s).1 = .answered code hint) (hsettled : ¬ r.reading.settled.isLeap)
    (hgates : ∀ q ∈ later, ¬ q.reading.gate.isLeap) :
    ((a.round r).agent.rounds later).findIdx? (·.seen.isSome)
        = later.findIdx? (gateFrom (heldUntil r.reading.settled code hint))
      ∧ ∀ t ∈ ((a.round r).agent.rounds later).take
          (later.findIdx (gateFrom (heldUntil r.reading.settled code hint))),
        t.outcome = .skipped .backoff
          ∧ t.agent.lifecycle.machine = (a.round r).agent.lifecycle.machine := by
  obtain ⟨hs, d, hd, hl, hns⟩ :=
    a.lifecycle.machine.answer_of_holdsBack hint hcode hsettled
  rw [← machine_of_answered hseen hanswer] at hs hd
  rw [← hns]
  exact rounds_of_backoff hl later _ hs hd hgates

/-- Half a minute is held back to the nanosecond. -/
theorem next_shipment_after_half_a_minute :
    let a := Agent.initial "node" ⟨0⟩
    let r := Round.quiet ⟨0, 5⟩ (.answered 429 0)
    let later := [Round.quiet ⟨30, 4⟩ (.answered 200 0), Round.quiet ⟨30, 5⟩ (.answered 200 0)]
    (a.round r).seen = some (a.offered r)
      ∧ ((a.round r).agent.rounds later).findIdx? (·.seen.isSome) = some 1 :=
  ⟨rfl, (next_shipment_after_backoff (Agent.initial "node" ⟨0⟩) (.quiet ⟨0, 5⟩ (.answered 429 0))
    [.quiet ⟨30, 4⟩ (.answered 200 0), .quiet ⟨30, 5⟩ (.answered 200 0)]
    (.inr rfl : 429 = 402 ∨ 429 = 429) rfl (rfl : _ = Delivery.answered 429 0) (by decide)
    (by decide)).1.trans (by decide)⟩

end ClusterCensus.Agent
