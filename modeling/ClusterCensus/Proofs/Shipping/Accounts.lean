import ClusterCensus.Proofs.Shipping.Round
import ClusterCensus.Proofs.SortedMap
import Mathlib.Algebra.GroupWithZero.Nat

/-!
# The metrics account for every tick

What others do between two ticks may show the agent anew in its gauges, but leaves the counters
alone (`sameCounts_beforeTick`). A tick adds itself to the counters according to its outcome: one
that is skipped counts nowhere, one that fails counts as a snapshot that was built, with its owners,
and one that ships also under its code (`counts_round`). Whatever its outcome, the gauges show the
lifecycle as the tick leaves it (`gauges_round`). So the counters are sums over all ticks of a run
(`metrics_account_for_ticks`).
-/

namespace ClusterCensus

open Shipping

namespace Shipping.Outcome

/-- Whether no snapshot was taken. -/
def isSkipped : Outcome → Bool
  | skipped _ => true
  | _ => false

/-- Whether a snapshot was shipped and answered with a code. -/
def isShippedWith (code : Nat) : Outcome → Bool
  | shipped c _ => c = code
  | _ => false

end Shipping.Outcome

namespace Metrics

/-- The labels of two codes differ, since a number can be read back from its digits. -/
theorem label_injective : Function.Injective (toString : Nat → String) := by
  intro code other h
  have hdigits : Nat.toDigits 10 code = Nat.toDigits 10 other := by
    simpa [Nat.toString_eq_ofList_toDigits] using congrArg String.toList h
  calc
    code = Nat.ofDigitChars 10 (Nat.toDigits 10 code) 0 := Nat.ofDigitChars_ten_toDigits.symm
    _ = Nat.ofDigitChars 10 (Nat.toDigits 10 other) 0 := by rw [hdigits]
    _ = other := Nat.ofDigitChars_ten_toDigits

theorem shippedWith_addShipped (m : Metrics) (code other : Nat) :
    (m.addShipped code).shippedWith other
      = m.shippedWith other + if code = other then 1 else 0 := by
  unfold shippedWith addShipped
  rw [SortedMap.get?_insert]
  by_cases h : code = other
  · subst h
    simp [shippedWith]
  · rw [if_neg (label_injective.ne h), if_neg h, Nat.add_zero]

/-- The metrics with all that ticks are counted by at zero. -/
def zeroed (m : Metrics) : Metrics :=
  { m with shipped := ∅, ownersResolved := 0, buildSeconds := .empty Bound.buildSeconds }

/-- What ticks are counted by is the same. The gauges may differ. -/
structure SameCounts (m n : Metrics) : Prop where
  shipped : n.shipped = m.shipped
  owners : n.ownersResolved = m.ownersResolved
  builds : n.buildSeconds = m.buildSeconds

namespace SameCounts

variable {m n p : Metrics}

theorem refl (m : Metrics) : SameCounts m m := ⟨rfl, rfl, rfl⟩

theorem trans (h : SameCounts m n) (h' : SameCounts n p) : SameCounts m p :=
  ⟨h'.shipped.trans h.shipped, h'.owners.trans h.owners, h'.builds.trans h.builds⟩

theorem shippedWith (h : SameCounts m n) (code : Nat) :
    n.shippedWith code = m.shippedWith code := by
  simp [Metrics.shippedWith, h.shipped]

end SameCounts

end Metrics

namespace Agent

open Metrics (SameCounts)

theorem sameCounts_respond (a : Agent) (wallMs : Int) (now : Instant) (method : Api.Method)
    (target : String) : SameCounts a.metrics (a.respond wallMs now method target).2.metrics := by
  rcases respond_cases a wallMs now method target with h | h | h <;> rw [h]
  · exact .refl _
  · exact .refl _
  · exact ⟨rfl, rfl, rfl⟩

theorem sameCounts_aside (a : Agent) (x : Aside) : SameCounts a.metrics (a.aside x).metrics := by
  cases x with
  | write => exact .refl _
  | onCancel => exact .refl _
  | request => exact sameCounts_respond ..

theorem sameCounts_beforeTick (a : Agent) (r : Round) :
    SameCounts a.metrics (a.beforeTick r).metrics :=
  List.foldlRecOn (motive := fun b => SameCounts a.metrics b.metrics) r.asides aside (.refl _)
    fun b h x _ => h.trans (sameCounts_aside b x)

/-- The number of pods to which a tick gave another owner, whatever became of the snapshot then. A
tick that is skipped takes none. -/
def resolved (a : Agent) (r : Round) : Nat :=
  if (a.round r).outcome.isSkipped then 0
  else ((a.beforeTick r).capture r.reading.wallMs).changed

/-- These numbers for the ticks of some rounds. -/
def resolvedBy (a : Agent) : List Round → List Nat
  | [] => []
  | r :: rs => a.resolved r :: (a.round r).agent.resolvedBy rs

/-- A tick that ships reports the number that it counts. -/
theorem resolved_of_shipped {a : Agent} {r : Round} {code n : Nat}
    (h : (a.round r).outcome = .shipped code n) : a.resolved r = n := by
  unfold resolved
  rcases hc : a.lifecycle.machine.canSend r.reading.gate with _ | _
  · rw [(round_of_closed hc).2.1] at h
    cases h
  · rw [h]
    rw [round_eq_ship hc] at h
    simp only [ship, outcomeOf] at h
    split at h
    · cases h
      rfl
    · cases h

/-- What a tick adds to the counters. -/
theorem counts_round (a : Agent) (r : Round) :
    (∀ code, (a.round r).agent.metrics.shippedWith code = a.metrics.shippedWith code
        + if (a.round r).outcome.isShippedWith code then 1 else 0)
      ∧ (a.round r).agent.metrics.ownersResolved
        = a.metrics.ownersResolved + .ofNat (a.resolved r)
      ∧ (a.round r).agent.metrics.buildSeconds.count = a.metrics.buildSeconds.count
        + if (a.round r).outcome.isSkipped then 0 else 1 := by
  have hsame := sameCounts_beforeTick a r
  unfold resolved
  rcases hc : a.lifecycle.machine.canSend r.reading.gate with _ | _
  · rw [round_eq_skip hc]
    refine ⟨hsame.shippedWith, ?_, congrArg Metrics.Histogram.count hsame.builds⟩
    exact hsame.owners.trans (UInt64.add_zero _).symm
  · rw [round_eq_ship hc, ← hsame.owners, ← hsame.builds]
    simp only [← hsame.shippedWith]
    rcases hd : r.sink ((a.beforeTick r).capture r.reading.wallMs).snapshot with
      ⟨⟨code, hint⟩ | f, logs⟩
    · simp only [ship, hd]
      refine ⟨fun other => ?_, rfl, rfl⟩
      refine (Metrics.shippedWith_addShipped _ code other).trans ?_
      simp only [outcomeOf, Outcome.isShippedWith, decide_eq_true_eq]
      rfl
    · simp only [ship, hd]
      exact ⟨fun _ => rfl, rfl, rfl⟩

/-- After a tick the gauges show the lifecycle as it is then. -/
theorem gauges_round (a : Agent) (r : Round) :
    (∀ s, (a.round r).agent.metrics.stateGauge s
        = some (if s = (a.round r).agent.lifecycle.machine.state then 1 else 0))
      ∧ (a.round r).agent.metrics.backoffSecs
        = ((a.round r).agent.status r.reading.shown).backoffRemainingSecs := by
  rcases hc : a.lifecycle.machine.canSend r.reading.gate with _ | _
  · rw [round_eq_skip hc]
    exact ⟨fun _ => rfl, rfl⟩
  · rw [round_eq_ship hc]
    exact ⟨fun _ => rfl, rfl⟩

theorem shippedWith_after (code : Nat) : ∀ (rs : List Round) (a : Agent),
    (a.after rs).metrics.shippedWith code = a.metrics.shippedWith code
      + (a.rounds rs).countP (·.outcome.isShippedWith code)
  | [], _ => rfl
  | r :: rs, a => by
    have ih := shippedWith_after code rs (a.round r).agent
    rw [(counts_round a r).1] at ih
    simp only [rounds, List.countP_cons]
    rw [Nat.add_comm (List.countP ..), ← Nat.add_assoc]
    exact ih

theorem builds_after : ∀ (rs : List Round) (a : Agent),
    (a.after rs).metrics.buildSeconds.count = a.metrics.buildSeconds.count
      + (a.rounds rs).countP (fun t => !t.outcome.isSkipped)
  | [], _ => rfl
  | r :: rs, a => by
    have ih := builds_after rs (a.round r).agent
    rw [(counts_round a r).2.2] at ih
    refine ih.trans ?_
    simp only [rounds, List.countP_cons]
    rcases (a.round r).outcome.isSkipped with _ | _ <;> simp
    omega

theorem owners_after : ∀ (rs : List Round) (a : Agent),
    (a.after rs).metrics.ownersResolved
      = a.metrics.ownersResolved + .ofNat (a.resolvedBy rs).sum
  | [], a => (UInt64.add_zero _).symm
  | r :: rs, a => by
    have ih := owners_after rs (a.round r).agent
    rw [(counts_round a r).2.1] at ih
    refine ih.trans ?_
    rw [resolvedBy, List.sum_cons, UInt64.ofNat_add, UInt64.add_assoc]

theorem getElem?_rounds : ∀ {rs : List Round} {k : Nat} {r : Round} (a : Agent), rs[k]? = some r →
    (a.rounds rs)[k]? = some ((a.after (rs.take k)).round r)
      ∧ (a.resolvedBy rs)[k]? = some ((a.after (rs.take k)).resolved r)
  | [], k, r, a, h => by simp at h
  | q :: qs, 0, r, a, h => by
    cases h
    exact ⟨rfl, rfl⟩
  | q :: qs, k + 1, r, a, h => getElem?_rounds (a.round q).agent h

/-- From zeroed metrics on, whatever the gauges show, after any rounds: under each code as many
shipments are counted as ticks shipped with it, the owners are those of all ticks that were not
skipped, up to 64 bits, and so many snapshots were built. After each tick the gauge of the state
that the lifecycle is in shows one and those of the others zero, and the backoff gauge shows what is
left then. -/
theorem metrics_account_for_ticks (a : Agent) (rs : List Round) :
    let b := { a with metrics := a.metrics.zeroed }
    let m := (b.after rs).metrics
    (∀ code, m.shippedWith code = (b.rounds rs).countP (·.outcome.isShippedWith code))
      ∧ m.ownersResolved.toNat = (b.resolvedBy rs).sum % 2 ^ 64
      ∧ m.buildSeconds.count = (b.rounds rs).countP (fun t => !t.outcome.isSkipped)
      ∧ ∀ (k : Nat) (r : Round), rs[k]? = some r →
        let t := (b.after (rs.take k)).round r
        (b.rounds rs)[k]? = some t
          ∧ (∀ code n, t.outcome = .shipped code n → (b.resolvedBy rs)[k]? = some n)
          ∧ (∀ s, t.agent.metrics.stateGauge s
            = some (if s = t.agent.lifecycle.machine.state then 1 else 0))
          ∧ t.agent.metrics.backoffSecs
            = (t.agent.status r.reading.shown).backoffRemainingSecs := by
  intro b m
  refine ⟨fun code => ?_, ?_, ?_, fun k r hr => ?_⟩
  · have hzero : b.metrics.shippedWith code = 0 := rfl
    rw [shippedWith_after, hzero, Nat.zero_add]
  · have hzero : b.metrics.ownersResolved = 0 := rfl
    rw [owners_after, hzero, UInt64.zero_add, UInt64.toNat_ofNat']
  · have hzero : b.metrics.buildSeconds.count = 0 := rfl
    rw [builds_after, hzero, Nat.zero_add]
  · intro t
    obtain ⟨hround, hresolved⟩ := getElem?_rounds b hr
    obtain ⟨hstate, hbackoff⟩ := gauges_round (b.after (rs.take k)) r
    refine ⟨hround, fun code n hout => ?_, hstate, hbackoff⟩
    rw [hresolved, resolved_of_shipped hout]

end Agent

end ClusterCensus
