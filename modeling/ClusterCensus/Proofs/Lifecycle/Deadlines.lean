import ClusterCensus.Proofs.Lifecycle.Readers

/-!
# Deadlines are exact

An answer that holds back sets the deadline to the end of its window, but not beyond the calendar,
whatever deadline there was before. That end is computed by steps each of which could fail, and so
is what is left until it; on instants of the calendar none of them does (`guardedEnd_window`,
`remaining?_eq`). Every deadline comes of an answer that holds back, and lies at most a day after it
(`deadline_run`). So as long as the clock does not go back at most a day is left, it becomes no more
until the next such answer, and a day after the last one nothing is left (`deadlines_exact`).
-/

namespace ClusterCensus

namespace Instant

/-- How far two instants may lie apart at most, in nanoseconds, for their difference to be computed:
its milliseconds have to fit 64 bits with a sign. -/
def farthest : Nat := 9223372036854775807 * 1000000

/-- The nanoseconds from one instant to another, unless they are too far apart. -/
def difference? (t later : Instant) : Option Int :=
  if (t.nanosUntil later).natAbs ≤ farthest then some (t.nanosUntil later) else none

theorem difference?_eq {t later : Instant} (ht : t.InCalendar) (hlater : later.InCalendar)
    (hleap : ¬ t.isLeap) (hlaterLeap : ¬ later.isLeap) :
    t.difference? later = some (t.nanosUntil later) := by
  rw [isLeap_iff] at hleap hlaterLeap
  unfold difference?
  refine if_pos ?_
  unfold InCalendar at ht hlater
  unfold nanosUntil
  simp only [minSecs, max, perSec, farthest] at *
  split_ifs <;> omega

theorem inCalendar_addOrMax {t : Instant} (h : t.InCalendar) (hleap : ¬ t.isLeap) (w : Span) :
    (t.addOrMax w).InCalendar := by
  obtain ⟨hl, hns⟩ := ns_addOrMax hleap w
  rw [isLeap_iff] at hleap hl
  have hle := secs_addOrMax_le t w
  unfold InCalendar at h ⊢
  simp only [ns, minSecs, max, perSec] at *
  omega

end Instant

/-- A span as a difference of instants, unless it is too long for one. -/
def Span.difference? (s : Span) : Option Span := if s.ns ≤ Instant.farthest then some s else none

namespace Lifecycle

/-- The window of an answer that holds back. -/
def window (code hint : Nat) : Span :=
  backoffWindow hint (if code = 402 then quotaBackoff else rateLimitBackoff)

/-- The end of a window from an instant on, with care at each step: the window is cut to the longest
one, may be too long for a difference all the same, and the sum may lie beyond the calendar. Where a
step fails it is the last instant of the calendar. -/
def guardedEnd (now : Instant) (window : Span) : Instant :=
  ((Span.difference? ⟨min window.ns maxBackoff.ns⟩).bind now.add?).getD Instant.max

theorem heldSecs_le (code hint : Nat) : heldSecs code hint ≤ 86400 := by
  unfold heldSecs
  split_ifs <;> omega

theorem ns_window_le (code hint : Nat) : (window code hint).ns ≤ maxBackoff.ns := by
  have h := heldSecs_le code hint
  unfold window
  rw [backoffWindow_eq]
  simp only [Span.ofSecs, Span.ofParts, maxBackoff]
  omega

theorem difference?_window (code hint : Nat) :
    (window code hint).difference? = some (window code hint) :=
  if_pos (Nat.le_trans (ns_window_le code hint) (by decide))

theorem guardedEnd_window (now : Instant) (code hint : Nat) :
    guardedEnd now (window code hint) = now.addOrMax (window code hint) := by
  unfold guardedEnd
  rw [Nat.min_eq_left (ns_window_le code hint)]
  show ((window code hint).difference?.bind now.add?).getD Instant.max = _
  rw [difference?_window]
  rfl

/-- Whether an event holds back. -/
def Event.holdsBack : Event → Bool
  | answer code _ => Machine.holdsBack code
  | order .. => false

theorem holdsBack_of_lookup {code : Nat} {reason : String}
    (h : decisions.lookup code = some (.backoff, reason)) : Machine.holdsBack code = true := by
  have hmem : code ∈ [200, 401, 402, 403, 410, 429] := by
    by_contra hnot
    rw [lookup_decisions_eq_none.2 hnot] at h
    cases h
  simp only [List.mem_cons, List.not_mem_nil, or_false] at hmem
  rcases hmem with rfl | rfl | rfl | rfl | rfl | rfl <;> first | rfl | cases h

theorem Event.deadline?_eq_some {now d : Instant} {e : Event}
    (h : e.deadline? now = some (some d)) :
    e.holdsBack = true ∧ ∃ code hint, d = now.addOrMax (.ofSecs (heldSecs code hint)) := by
  cases e with
  | order state reason =>
    simp only [deadline?] at h
    split_ifs at h
    cases h
  | answer code hint =>
    obtain ⟨⟨state, reason⟩, hlookup, hd⟩ := Option.map_eq_some_iff.1 h
    dsimp only at hd
    split_ifs at hd with hs
    subst hs
    cases hd
    exact ⟨holdsBack_of_lookup hlookup, code, hint, rfl⟩

namespace Machine

/-- What is left until the deadline, if the difference can be computed. -/
def remaining? (m : Machine) (now : Instant) : Option Span :=
  match m.deadline with
  | some d => (now.difference? d).map fun n => ⟨n.toNat⟩
  | none => some ⟨0⟩

theorem deadline_answer (m : Machine) (now : Instant) {code : Nat} (hint : Nat)
    (hcode : code = 402 ∨ code = 429) :
    (m.answer now code hint).deadline = some (now.addOrMax (window code hint)) := by
  rcases hcode with rfl | rfl <;> rfl

/-- A deadline that stands after some events stood before them, or comes of one of them that holds
back. -/
theorem deadline_run {m : Machine} {events : List (Instant × Event)} {d : Instant}
    (h : (m.run events).deadline = some d) :
    m.deadline = some d
      ∨ ∃ e ∈ events, e.2.holdsBack = true
        ∧ ∃ code hint, d = e.1.addOrMax (.ofSecs (heldSecs code hint)) := by
  have hlast := foldl_eq_lastGiven (fun m e => congrArg deadline (m.step_eq e.1 e.2)) events m
  change (m.run events).deadline = _ at hlast
  rw [h] at hlast
  rcases hgiven : lastGiven (fun e => e.2.deadline? e.1) events with _ | given
  · rw [hgiven] at hlast
    exact .inl hlast.symm
  · rw [hgiven] at hlast
    obtain rfl : some d = given := hlast
    obtain ⟨e, he, hd⟩ := List.mem_filterMap.1 (List.mem_of_getLast? hgiven)
    exact .inr ⟨e, he, Event.deadline?_eq_some hd⟩

theorem ns_remaining {m : Machine} {d now : Instant} (hd : m.deadline = some d) (hl : ¬ d.isLeap)
    (hnow : ¬ now.isLeap) : ((m.remaining now).ns : Int) = max 0 (d.ns - now.ns) := by
  have h := Instant.ns_until hnow hl
  simp only [remaining, hd, h]
  omega

theorem remaining?_eq {m : Machine} {d now : Instant} (hd : m.deadline = some d)
    (hcal : d.InCalendar) (hl : ¬ d.isLeap) (hnowCal : now.InCalendar) (hnow : ¬ now.isLeap) :
    m.remaining? now = some (m.remaining now) := by
  simp only [remaining?, remaining, hd, Instant.difference?_eq hnowCal hcal hnow hl]
  rfl

/-- In a new lifecycle after some events the deadline is at most a day later than one of those that
hold back. -/
theorem deadline_run_initial {events : List (Instant × Event)} {d : Instant}
    (hevents : ∀ e ∈ events, ¬ e.1.isLeap) (h : (initial.run events).deadline = some d) :
    ¬ d.isLeap ∧ ∃ e ∈ events, e.2.holdsBack = true ∧ d.ns ≤ e.1.ns + 86400 * Instant.perSec := by
  obtain hnone | ⟨e, he, hback, code, hint, rfl⟩ := deadline_run h
  · cases hnone
  · obtain ⟨hl, hns⟩ := Instant.ns_addOrMax (hevents e he) (.ofSecs (heldSecs code hint))
    have hle := heldSecs_le code hint
    refine ⟨hl, e, he, hback, ?_⟩
    rw [hns]
    simp only [Span.ofSecs, Span.ofParts, Instant.perSec]
    omega

theorem remaining_of_no_deadline {m : Machine} (h : m.deadline = none) (now : Instant) :
    m.remaining now = ⟨0⟩ := by
  simp only [remaining, h]

end Machine

/-- After any history of a new lifecycle, outside inserted seconds. An answer that holds back sets
the deadline to the end of what it holds back, which is an instant of the calendar, and no step on
the way fails. What is left until then is the difference to the nanosecond, which can be computed at
every instant of the calendar. If no reading of the clock was later than the one at hand, at most a
day is left; at a later one it is no more, whatever happened meanwhile that does not hold back; and
nothing is left once all that held back was a day ago. -/
theorem deadlines_exact (events : List (Instant × Event)) (hevents : ∀ e ∈ events, ¬ e.1.isLeap) :
    let m := Machine.initial.run events
    (∀ (now : Instant) (code hint : Nat), code = 402 ∨ code = 429 → now.InCalendar → ¬ now.isLeap →
        let b := m.answer now code hint
        ∃ d, b.deadline = some d ∧ d.InCalendar ∧ ¬ d.isLeap ∧ d.ns = heldUntil now code hint
          ∧ (window code hint).difference?.isSome ∧ d = guardedEnd now (window code hint)
          ∧ ∀ t : Instant, t.InCalendar → ¬ t.isLeap →
            b.remaining? t = some (b.remaining t)
              ∧ ((b.remaining t).ns : Int) = max 0 (d.ns - t.ns)
              ∧ (b.expired t = true ↔ d ≤ t))
      ∧ (∀ now : Instant, ¬ now.isLeap → (∀ e ∈ events, e.1 ≤ now) →
        (m.remaining now).ns ≤ 86400 * Instant.perSec)
      ∧ (∀ (later : List (Instant × Event)) (t u : Instant), ¬ t.isLeap → ¬ u.isLeap → t ≤ u →
        (∀ e ∈ later, e.2.holdsBack = false) →
          ((m.run later).remaining u).ns ≤ (m.remaining t).ns)
      ∧ ∀ now : Instant, ¬ now.isLeap →
        (∀ e ∈ events, e.2.holdsBack = true → e.1.ns + 86400 * Instant.perSec ≤ now.ns) →
          m.remaining now = ⟨0⟩ := by
  intro m
  refine ⟨fun now code hint hcode hcal hnow => ?_, fun now hnow hclock => ?_,
    fun later t u ht hu htu hlater => ?_, fun now hnow hday => ?_⟩
  · intro b
    obtain ⟨-, d, hd, hl, hns⟩ := m.answer_of_holdsBack hint hcode hnow
    obtain rfl : now.addOrMax (window code hint) = d :=
      Option.some.inj ((m.deadline_answer now hint hcode).symm.trans hd)
    have hdcal := Instant.inCalendar_addOrMax hcal hnow (window code hint)
    refine ⟨_, hd, hdcal, hl, hns, ?_, (guardedEnd_window now code hint).symm, fun t htcal ht => ?_⟩
    · rw [difference?_window]
      rfl
    · refine ⟨Machine.remaining?_eq hd hdcal hl htcal ht, Machine.ns_remaining hd hl ht, ?_⟩
      simp only [b, Machine.expired, hd, decide_eq_true_eq]
  · rcases hd : m.deadline with _ | d
    · rw [m.remaining_of_no_deadline hd]
      exact Nat.zero_le _
    · obtain ⟨hl, e, he, -, hle⟩ := Machine.deadline_run_initial hevents hd
      have hclock := (Instant.le_iff_ns (hevents e he) hnow).1 (hclock e he)
      have hleft := Machine.ns_remaining hd hl hnow
      omega
  · rcases hd : (m.run later).deadline with _ | d
    · rw [Machine.remaining_of_no_deadline hd]
      exact Nat.zero_le _
    · obtain hd' | ⟨e, he, hback, -⟩ := Machine.deadline_run hd
      · obtain ⟨hl, -⟩ := Machine.deadline_run_initial hevents hd'
        have hleft := Machine.ns_remaining hd' hl ht
        have hlater := Machine.ns_remaining hd hl hu
        have htu := (Instant.le_iff_ns ht hu).1 htu
        omega
      · rw [hlater e he] at hback
        contradiction
  · rcases hd : m.deadline with _ | d
    · exact m.remaining_of_no_deadline hd now
    · obtain ⟨hl, e, he, hback, hle⟩ := Machine.deadline_run_initial hevents hd
      have hday := hday e he hback
      have hleft := Machine.ns_remaining hd hl hnow
      rcases hs : m.remaining now with ⟨ns⟩
      rw [hs] at hleft
      rw [Span.mk.injEq]
      dsimp only at hleft
      omega

/-- Ten seconds before the end of the calendar the longest hint holds back up to that end. -/
theorem deadline_at_end_of_calendar :
    let m := Machine.initial.run [(⟨100, 7⟩, .answer 429 0), (⟨110, 0⟩, .order .backoff "paused")]
    let b := m.answer ⟨8210266876790, 500000000⟩ 402 18446744073709551615
    b.deadline = some Instant.max ∧ (b.remaining ⟨8210266876790, 500000000⟩).ns = 9499999999
      ∧ b.expired ⟨8210266876799, 999999998⟩ = false
      ∧ (m.remaining ⟨125, 7⟩).ns ≤ 86400 * Instant.perSec := by
  intro m b
  obtain ⟨hexact, hday, -⟩ := deadlines_exact
    [(⟨100, 7⟩, .answer 429 0), (⟨110, 0⟩, .order .backoff "paused")] (by decide)
  obtain ⟨d, hd, -, -, hns, -, hguarded, hleft⟩ :=
    hexact ⟨8210266876790, 500000000⟩ 402 18446744073709551615 (by decide) (by decide) (by decide)
  have hmax : d = Instant.max := hguarded.trans (by decide)
  obtain ⟨-, hns, -⟩ := hleft ⟨8210266876790, 500000000⟩ (by decide) (by decide)
  obtain ⟨-, -, hexpired⟩ := hleft ⟨8210266876799, 999999998⟩ (by decide) (by decide)
  rw [hmax] at hns hexpired hd
  refine ⟨hd, ?_, ?_, hday ⟨125, 7⟩ (by decide) (by decide)⟩
  · exact Int.ofNat.inj (hns.trans (by decide))
  · exact Bool.eq_false_iff.2 (hexpired.not.2 (by decide))

end Lifecycle

end ClusterCensus
