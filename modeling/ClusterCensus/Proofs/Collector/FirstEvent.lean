import ClusterCensus.Proofs.Collector.Starting
import ClusterCensus.Proofs.Collector.WaitEnd

/-!
# The first event ends a wait

The last outcome, the cancellation of the caller's token and the limit: the one that comes first
decides the result of a wait, and when it is over (`Verdict`). So it does however the moves follow
each other (`Settled.verdict`). Every wait comes to its end, because each move leaves less to be
done (`weight_lt_of_move`) and time passes only until the limit (`steps_le`).
-/

namespace ClusterCensus.Collector

/-- What a task has still to do. -/
def Errand.weight : Errand → Nat
  | .waiting => 4
  | .sending _ => 3
  | .over _ => 0

/-- What who waits has still to do. -/
def Attention.weight : Attention → Nat
  | .drained => 0
  | .listening => 1
  | .looking _ => 2

namespace Waiting

variable {t : Terms} {x y : Waiting} {time : Nat} {r : Except GroupError Unit}

/-- What comes of a wait that is over at a time: which of three events came first decides it. A
token that is already cancelled calls the wait off when it begins, before any outcome. Who is told
of a failure is told of a collector's own. -/
structure Verdict (t : Terms) (time : Nat) (r : Except GroupError Unit) : Prop where
  reported : t.closing.isBefore t.cancel = true → t.closing.isBefore (some t.deadline) = true →
    t.closing = some time ∧ FirstFailure t.workers r
  calledOff : t.cancel.isBefore t.closing = true ∨ t.cancel.hasCome t.began = true →
    t.calledOffAt.isBefore (some t.deadline) = true →
    t.calledOffAt = some time ∧ r = .error .cancelled
  expired : Moment.isBefore (some t.deadline) t.closing = true →
    Moment.isBefore (some t.deadline) t.cancel = true →
    time = t.deadline ∧ r = .error (.syncTimeout (.ofMicros t.limit))
  own : ∀ name f, r = .error (.sync name f) →
    ∃ w ∈ t.workers, w.name = name ∧ w.ending.failure? = some f

namespace Settled

section Cases

variable (h : Settled t x r)
include h

theorem reported (hcancel : t.closing.isBefore t.cancel = true)
    (hlimit : t.closing.isBefore (some t.deadline) = true) :
    t.closing = some x.time ∧ FirstFailure t.workers r := by
  obtain ⟨c, hc, hnot⟩ := Moment.isBefore_iff.1 hcancel
  obtain ⟨c', hc', hlt⟩ := Moment.isBefore_iff.1 hlimit
  cases hc.symm.trans hc'
  rw [Moment.hasCome_some, not_le] at hlt
  have hcome : t.closing.hasCome c = true := hc ▸ Moment.hasCome_some.2 le_rfl
  have hle := h.early.le_closing hcome
  cases h.ended with
  | reported closed _ first =>
    rw [hc, Moment.hasCome_some] at closed
    exact ⟨hc.trans (congrArg some (le_antisymm closed hle)), first⟩
  | calledOff come =>
    exact absurd (Moment.hasCome_mono (hasCome_calledOffAt.1 come).2 hle) hnot
  | expired due => omega

theorem calledOff
    (hclosing : t.cancel.isBefore t.closing = true ∨ t.cancel.hasCome t.began = true)
    (hlimit : t.calledOffAt.isBefore (some t.deadline) = true) :
    t.calledOffAt = some x.time ∧ r = .error .cancelled := by
  obtain ⟨k, hk, hlt⟩ := Moment.isBefore_iff.1 hlimit
  rw [Moment.hasCome_some, not_le] at hlt
  have hcome : t.calledOffAt.hasCome k = true := hk ▸ Moment.hasCome_some.2 le_rfl
  have hle := h.early.le_calledOff hcome
  cases h.ended with
  | reported closed let_ =>
    -- The token was not cancelled when the wait began, so it is called off at `c`.
    have hbegan : ¬ t.cancel.hasCome t.began = true := fun hc => by
      simp [h.already hc] at let_
    obtain ⟨c, hc, hnot⟩ := Moment.isBefore_iff.1 (hclosing.resolve_right hbegan)
    rw [hc, Moment.hasCome_some, not_le] at hbegan
    have hkc : k = max t.began c := by
      rw [Terms.calledOffAt, hc] at hk
      exact (Option.some.inj hk).symm
    exact absurd (Moment.hasCome_mono closed (by omega)) hnot
  | calledOff come =>
    rw [hk, Moment.hasCome_some] at come
    exact ⟨hk.trans (congrArg some (le_antisymm come hle)), rfl⟩
  | expired due => omega

theorem expired (hclosing : Moment.isBefore (some t.deadline) t.closing = true)
    (hcancel : Moment.isBefore (some t.deadline) t.cancel = true) :
    x.time = t.deadline ∧ r = .error (.syncTimeout (.ofMicros t.limit)) ∧ x.cancelled = true := by
  obtain ⟨d, hd, hopen⟩ := Moment.isBefore_iff.1 hclosing
  obtain ⟨d', hd', hlet⟩ := Moment.isBefore_iff.1 hcancel
  cases hd
  cases hd'
  have hle := h.early.le_deadline
  cases h.ended with
  | reported closed => exact absurd (Moment.hasCome_mono closed hle) hopen
  | calledOff come =>
    exact absurd (Moment.hasCome_mono (hasCome_calledOffAt.1 come).2 hle) hlet
  | expired due cancelled => exact ⟨le_antisymm hle due, rfl, cancelled⟩

theorem own {name : String} {f : Failure} (hr : r = .error (.sync name f)) :
    x.cancelled = false ∧ ∃ w ∈ t.workers, w.name = name ∧ w.ending.failure? = some f := by
  cases h.ended with
  | reported _ let_ _ own => exact ⟨let_, own name f hr⟩
  | calledOff => cases hr
  | expired => cases hr

theorem verdict : Verdict t x.time r where
  reported := h.reported
  calledOff := h.calledOff
  expired hclosing hcancel :=
    have hend := h.expired hclosing hcancel
    ⟨hend.1, hend.2.1⟩
  own _ _ hr := (h.own hr).2

/-- When the limit is reached first, the caller's token is left alone. -/
theorem caller_let (hclosing : Moment.isBefore (some t.deadline) t.closing = true)
    (hcancel : Moment.isBefore (some t.deadline) t.cancel = true) : x.callerCancelled = false := by
  obtain ⟨htime, -⟩ := h.expired hclosing hcancel
  obtain ⟨d, hd, hlet⟩ := Moment.isBefore_iff.1 hcancel
  cases hd
  exact Bool.eq_false_iff.2 fun hc => hlet (htime ▸ h.caller hc)

end Cases

end Settled

/-- What is still to be done in a wait. -/
def weight (x : Waiting) : Nat :=
  (x.errands.map Errand.weight).sum + 3 * (x.errands.length - x.awaited) + 2 * x.queue.length
    + x.attention.weight + (!x.callerCancelled).toNat + (!x.cancelled).toNat
    + x.result.isNone.toNat

theorem weight_setErrand {i : Nat} {a : Errand} (b : Errand) (h : x.errands[i]? = some a) :
    (x.setErrand i b).weight + a.weight = x.weight + b.weight := by
  have := sum_map_set Errand.weight x.errands i b h
  simp only [weight, setErrand, List.length_set]
  omega

theorem weight_over (hopen : x.result = none) (logs : List Log.Record)
    (r : Except GroupError Unit) :
    ({ x with logs, result := some r } : Waiting).weight + 1 = x.weight := by
  simp [weight, hopen]

theorem weight_lt_of_move (hopen : x.result = none) (hm : Move t x y) : y.weight < x.weight := by
  cases hm with
  | @finish i w e hi =>
    have := weight_setErrand (.ended w.name e) hi
    have hw : (Errand.ended w.name e).weight ≤ 3 := by
      unfold Errand.ended
      split_ifs <;> simp [Errand.weight]
    simp only [Errand.weight] at this hw ⊢
    omega
  | send hi =>
    have := weight_setErrand (.over none) hi
    simp only [Errand.weight] at this
    simp only [weight, Waiting.send, List.length_append, List.length_singleton] at this ⊢
    omega
  | pass hi =>
    have := (List.getElem?_eq_some_iff.1 hi).1
    simp only [weight]
    omega
  | report hi =>
    have := (List.getElem?_eq_some_iff.1 hi).1
    simp only [weight, Waiting.send, List.length_append, List.length_singleton]
    omega
  | receive hlisten _ hq =>
    simp only [weight, hlisten, hq, Attention.weight, List.length_cons]
    omega
  | @look n hlook =>
    unfold look
    split_ifs
    · exact Nat.lt_of_succ_le (weight_over hopen x.logs _).le
    · simp only [weight, hlook, Attention.weight]
      omega
  | drain hlisten =>
    simp only [weight, hlisten, Attention.weight]
    omega
  | conclude =>
    obtain ⟨logs, r, hx⟩ := Kept.exists_conclude x
    have := weight_over hopen logs r
    rw [hx]
    omega
  | callOff => exact Nat.lt_of_succ_le (weight_over hopen x.logs _).le
  | cancel _ hc => simp [weight, hc]
  | spread _ hc => simp [weight, hc]
  | expire =>
    simp only [weight, finish, hopen, Option.isNone_some, Option.isNone_none, Bool.not_true,
      Bool.toNat_false, Bool.toNat_true]
    omega

theorem weight_initial (hsome : t.workers ≠ []) :
    (initial t).weight ≤ 7 * t.workers.length + 4 := by
  have hresult : (initial t).result = none := if_neg hsome
  have hcaller := Bool.toNat_le (!(initial t).callerCancelled)
  have hcancelled := Bool.toNat_le (!(initial t).cancelled)
  simp only [weight, hresult, Option.isNone_none, Bool.toNat_true]
  simp only [initial, List.map_replicate, List.sum_replicate_nat, List.length_replicate,
    List.length_nil, Errand.weight, Attention.weight] at hcaller hcancelled ⊢
  omega

theorem time_of_move (hm : Move t x y) : y.time = x.time := by
  cases hm with
  | look =>
    unfold look
    split_ifs <;> rfl
  | conclude =>
    obtain ⟨logs, r, hx⟩ := Kept.exists_conclude x
    rw [hx]
  | _ => rfl

theorem weight_tick (x : Waiting) : ({ x with time := x.time + 1 } : Waiting).weight = x.weight :=
  rfl

/-- Every step leaves less to be done or takes time. -/
theorem weight_steps {n : Nat} (hs : Steps t n x y) :
    n + y.weight + x.time ≤ x.weight + y.time := by
  induction hs with
  | refl => omega
  | step _ last ih =>
    cases last with
    | move hopen hm =>
      have := weight_lt_of_move hopen hm
      have := time_of_move hm
      omega
    | pass =>
      simp only [weight_tick]
      omega

theorem steps_le {n : Nat} (hsome : t.workers ≠ []) (hs : Steps t n (initial t) x) :
    n ≤ 7 * t.workers.length + 4 + t.limit := by
  have hweight := weight_steps hs
  have hinitial := weight_initial hsome
  have htime := ((Held.initial hsome).steps hs).early.le_deadline
  have hbegan : (initial t).time = t.began := rfl
  unfold Terms.deadline at htime
  omega

/-- A wait that is not over goes on. -/
theorem exists_step (hopen : x.result = none) : ∃ y, Step t x y := by
  by_cases hm : ∃ y, Move t x y
  · obtain ⟨y, hm⟩ := hm
    exact ⟨y, .move hopen hm⟩
  · exact ⟨_, .pass hopen (not_exists.1 hm)⟩

theorem not_step_of_over (hr : x.result = some r) : ¬ Step t x y := by
  rintro (⟨hopen, -⟩ | ⟨hopen, -⟩)
  · cases hopen.symm.trans hr
  · cases hopen.symm.trans hr

end Waiting

end ClusterCensus.Collector
