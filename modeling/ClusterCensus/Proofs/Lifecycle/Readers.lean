import ClusterCensus.Proofs.Lifecycle.History
import Mathlib.Algebra.GroupWithZero.Nat

/-!
# The readers of a lifecycle agree

In every lifecycle that comes of a history, a deadline stands only while it holds back, and outside
inserted seconds (`Sound.run`). So it is the same to ask whether the deadline has passed, whether
nothing is left until then, and, unless the agent is to stay silent, whether it may send
(`readers_agree`). The deadline lies in the calendar (`Bounded`), and what is left until then is
short enough to be shown in whole seconds (`Sound.toNat_shown`).
-/

namespace ClusterCensus.Lifecycle

namespace Machine

/-- The deadline, if there is one, lies before the end of the calendar. -/
def Bounded (m : Machine) : Prop :=
  ∀ d, m.deadline = some d → d.secs ≤ Instant.max.secs ∧ d.nanos < 2 * Instant.perSec

namespace Bounded

variable {m : Machine} {now : Instant}

theorem answer (h : Bounded m) (hnow : now.nanos < 2 * Instant.perSec) (code hint : Nat) :
    Bounded (m.answer now code hint) := by
  rcases hd : decisions.lookup code with _ | ⟨state, reason⟩
  · rw [answer_of_undecided m now hint hd]
    split_ifs
    · exact h
    · exact h
  · rw [answer_of_decided m now hint hd]
    split_ifs
    · rintro d ⟨⟩
      exact ⟨Instant.secs_addOrMax_le now _, Instant.nanos_addOrMax_lt hnow _⟩
    · exact nofun

theorem order (h : Bounded m) (state : State) (reason : String) :
    Bounded (m.order state reason) := by
  unfold Machine.order
  split_ifs
  · exact h
  · exact nofun

/-- What is left is less than the whole calendar. -/
theorem secs_remaining_lt (h : Bounded m) (hnow : now.InCalendar) :
    (m.remaining now).secs < 2 ^ 53 := by
  rcases hd : m.deadline with _ | d
  · simp [remaining, hd, Span.secs]
  · obtain ⟨hsecs, hnanos⟩ := h d hd
    have hfirst := hnow.1
    simp only [remaining, hd, Span.secs, Instant.until_, Instant.nanosUntil, Instant.max,
      Instant.minSecs, Instant.perSec] at *
    split_ifs <;> omega

end Bounded

/-- What holds of a lifecycle at all times: a deadline stands only while it holds back, is no
instant of an inserted second, and lies before the end of the calendar. -/
structure Sound (m : Machine) : Prop where
  held : m.deadline.isSome → m.state = .backoff
  usual : ∀ d, m.deadline = some d → ¬ d.isLeap
  bounded : ∀ d, m.deadline = some d → d.secs ≤ Instant.max.secs

namespace Sound

variable {m : Machine} {now : Instant}

theorem initial : Sound initial := ⟨nofun, nofun, nofun⟩

theorem of_no_deadline (h : m.deadline = none) : Sound m where
  held hd := by simp [h] at hd
  usual d hd := by simp [h] at hd
  bounded d hd := by simp [h] at hd

theorem answer (h : Sound m) (hnow : ¬ now.isLeap) (code hint : Nat) :
    Sound (m.answer now code hint) := by
  rcases hd : decisions.lookup code with _ | ⟨state, reason⟩
  · rw [answer_of_undecided m now hint hd]
    split_ifs
    · exact ⟨h.held, h.usual, h.bounded⟩
    · exact h
  · rw [answer_of_decided m now hint hd]
    split_ifs with hs
    · refine ⟨fun _ => hs, ?_, ?_⟩
      · rintro d ⟨⟩
        exact (Instant.ns_addOrMax hnow _).1
      · rintro d ⟨⟩
        exact Instant.secs_addOrMax_le now _
    · exact of_no_deadline rfl

theorem order (h : Sound m) (state : State) (reason : String) : Sound (m.order state reason) := by
  unfold Machine.order
  split_ifs with hs
  · exact ⟨fun _ => hs, h.usual, h.bounded⟩
  · exact of_no_deadline rfl

theorem run : ∀ (events : List (Instant × Event)) {m : Machine}, Sound m →
    (∀ e ∈ events, ¬ e.1.isLeap) → Sound (m.run events)
  | [], m, h, _ => h
  | (now, e) :: events, m, h, hall => by
    have hnow : ¬ now.isLeap := hall (now, e) List.mem_cons_self
    refine run events ?_ fun x hx => hall x (List.mem_cons_of_mem _ hx)
    cases e with
    | answer code hint => exact h.answer hnow code hint
    | order state reason => exact h.order state reason

theorem expired_iff (h : Sound m) (hnow : ¬ now.isLeap) :
    m.expired now = true ↔ m.remaining now = ⟨0⟩ := by
  rcases hd : m.deadline with _ | d
  · simp [expired, remaining, hd]
  · have hns := Instant.ns_until hnow (h.usual d hd)
    have hle := Instant.le_iff_ns (h.usual d hd) hnow
    simp only [expired, remaining, hd, decide_eq_true_eq, hle]
    generalize now.until_ d = left at hns ⊢
    rcases left with ⟨ns⟩
    simp only [Span.mk.injEq] at hns ⊢
    omega

theorem remaining_of_not_held (h : Sound m) (hs : m.state ≠ .backoff) :
    m.remaining now = ⟨0⟩ := by
  rcases hd : m.deadline with _ | d
  · simp [remaining, hd]
  · exact absurd (h.held (by simp [hd])) hs

theorem canSend_iff (h : Sound m) (hnow : ¬ now.isLeap) : m.canSend now = true
    ↔ m.state ≠ .stopped ∧ m.state ≠ .exiting ∧ m.remaining now = ⟨0⟩ := by
  rcases hs : m.state with _ | _ | _ | _ | _
  · simp [canSend, hs, h.remaining_of_not_held (by simp [hs])]
  · simp [canSend, hs, h.remaining_of_not_held (by simp [hs])]
  · simp [canSend, hs, h.expired_iff hnow]
  · simp [canSend, hs]
  · simp [canSend, hs]

theorem toBounded (h : Sound m) : Bounded m := fun d hd => by
  have hnanos := (Instant.isLeap_iff d).not.1 (h.usual d hd)
  exact ⟨h.bounded d hd, by omega⟩

/-- The seconds that are shown are all that are left. -/
theorem toNat_shown (h : Sound m) (hcal : now.InCalendar) :
    (m.status now).backoffRemainingSecs.toNat = (m.remaining now).ns / 1000000000 :=
  Nat.mod_eq_of_lt (Nat.lt_trans (h.toBounded.secs_remaining_lt hcal) (by decide))

end Sound

end Machine

/-- After any history of a new lifecycle, and at any reading of the clock, both in the calendar and
outside inserted seconds. -/
theorem readers_agree (events : List (Instant × Event)) (now : Instant)
    (hevents : ∀ e ∈ events, ¬ e.1.isLeap) (hnow : ¬ now.isLeap) (hcal : now.InCalendar) :
    let m := Machine.initial.run events
    (m.deadline.isSome → m.state = .backoff)
      ∧ (m.expired now = true ↔ m.remaining now = ⟨0⟩)
      ∧ (m.canSend now = true
        ↔ m.state ≠ .stopped ∧ m.state ≠ .exiting ∧ m.remaining now = ⟨0⟩)
      ∧ (m.status now).state = m.state ∧ (m.status now).reason = m.reason
      ∧ (m.status now).backoffRemainingSecs.toNat = (m.remaining now).ns / 1000000000
      ∧ (m.state ≠ .backoff → (m.status now).backoffRemainingSecs = 0) := by
  intro m
  have h : m.Sound := Machine.Sound.initial.run events hevents
  refine ⟨h.held, h.expired_iff hnow, h.canSend_iff hnow, rfl, rfl, h.toNat_shown hcal, ?_⟩
  intro hs
  rw [← UInt64.toNat_inj, h.toNat_shown hcal, h.remaining_of_not_held hs]
  rfl

/-- Of half a minute five seconds are left: neither the order to hold back nor the last answer moves
its end. -/
theorem readers_agree_on_five_seconds :
    let m := Machine.initial.run
      [(⟨100, 7⟩, .answer 429 0), (⟨110, 0⟩, .order .backoff "paused"), (⟨90, 0⟩, .answer 503 0)]
    m.canSend ⟨125, 7⟩ = false ∧ (m.status ⟨125, 7⟩).backoffRemainingSecs.toNat = 5 := by
  obtain ⟨-, -, hsend, -, -, hshown, -⟩ := readers_agree
    [(⟨100, 7⟩, .answer 429 0), (⟨110, 0⟩, .order .backoff "paused"), (⟨90, 0⟩, .answer 503 0)]
    ⟨125, 7⟩ (by decide) (by decide) (by decide)
  refine ⟨Bool.eq_false_iff.2 fun h => ?_, hshown⟩
  exact absurd (hsend.1 h).2.2 (by decide)

end ClusterCensus.Lifecycle
