import ClusterCensus.Lifecycle.Supervisor
import ClusterCensus.Proofs.Lifecycle.Backoff

/-!
# What a history leaves behind

Six codes decide the state (`decisions`), and so does an order. Each of state, reason and deadline
is set by some events and left alone by all others (`Machine.step_eq`). So after any history each of
the three is what the last event gave that gives it at all (`last_events_determine`), and those
three events may well be different ones.
-/

namespace ClusterCensus.Lifecycle

/-- The codes that decide what the agent does, with the state and the reason that they lead to. -/
def decisions : List (Nat × State × String) :=
  [(200, .running, ""), (401, .stopped, "authentication failed"), (402, .backoff, "quota exceeded"),
    (403, .stopped, "authentication failed"), (410, .exiting, "agent deprecated"),
    (429, .backoff, "rate limited")]

namespace Event

/-- The state that an event leads to, if it leads to one. -/
def state? : Event → Option State
  | answer code _ => (decisions.lookup code).map (·.1)
  | order state _ => some state

/-- The reason that an event gives, if it gives one. -/
def reason? : Event → Option String
  | answer code _ =>
    ((decisions.lookup code).map (·.2)).or
      (if 500 ≤ code then some ("server error: HTTP " ++ toString code) else none)
  | order _ reason => some reason

/-- What an event at an instant makes of the deadline, if it does not leave it alone: a decision to
hold back sets one, any other decision drops it, and an order to hold back does neither. -/
def deadline? (now : Instant) : Event → Option (Option Instant)
  | answer code hint =>
    (decisions.lookup code).map fun d =>
      if d.1 = .backoff then some (now.addOrMax (.ofSecs (heldSecs code hint))) else none
  | order state _ => if state = .backoff then none else some none

end Event

/-- What the last of some events gave that gave anything. -/
def lastGiven {α β : Type} (give : α → Option β) (events : List α) : Option β :=
  (events.filterMap give).getLast?

/-- What each step either sets or leaves alone is in the end what the last step to set it has set it
to. -/
theorem foldl_eq_lastGiven {α β γ : Type} {step : γ → α → γ} {view : γ → β} {give : α → Option β}
    (h : ∀ s e, view (step s e) = (give e).getD (view s)) :
    ∀ (events : List α) (s : γ),
      view (events.foldl step s) = (lastGiven give events).getD (view s)
  | [], s => by simp [lastGiven]
  | e :: events, s => by
    have ih := foldl_eq_lastGiven h events (step s e)
    rw [List.foldl_cons, ih, h]
    rcases he : give e with _ | b
    · simp [lastGiven, he]
    · rw [lastGiven, lastGiven, List.filterMap_cons_some he, List.getLast?_cons]
      cases (events.filterMap give).getLast? <;> rfl

theorem backoffWindow_eq (code hint : Nat) :
    backoffWindow hint (if code = 402 then quotaBackoff else rateLimitBackoff)
      = .ofSecs (heldSecs code hint) := by
  have h := ns_backoffWindow code hint
  rcases hw : backoffWindow hint (if code = 402 then quotaBackoff else rateLimitBackoff) with ⟨ns⟩
  rw [hw] at h
  simp only [Span.ofSecs, Span.ofParts, Span.mk.injEq]
  simpa only [Instant.perSec, Nat.add_zero] using h

theorem lookup_decisions_eq_none {code : Nat} :
    decisions.lookup code = none ↔ code ∉ [200, 401, 402, 403, 410, 429] := by
  simp [decisions, List.lookup_eq_none_iff]

namespace Machine

variable (m : Machine) (now : Instant) (hint : Nat)

theorem answer_of_decided {code : Nat} {state : State} {reason : String}
    (h : decisions.lookup code = some (state, reason)) : m.answer now code hint
      = ⟨state, reason, if state = .backoff then some (now.addOrMax (.ofSecs (heldSecs code hint)))
          else none⟩ := by
  have hmem : code ∈ [200, 401, 402, 403, 410, 429] := by
    by_contra hnot
    rw [lookup_decisions_eq_none.2 hnot] at h
    cases h
  simp only [List.mem_cons, List.not_mem_nil, or_false] at hmem
  rcases hmem with rfl | rfl | rfl | rfl | rfl | rfl
  · cases h
    rfl
  · cases h
    rfl
  · cases h
    simp [answer, enterBackoff, ← backoffWindow_eq]
  · cases h
    rfl
  · cases h
    rfl
  · cases h
    simp [answer, enterBackoff, ← backoffWindow_eq]

theorem answer_of_undecided {code : Nat} (h : decisions.lookup code = none) :
    m.answer now code hint
      = if 500 ≤ code then { m with reason := "server error: HTTP " ++ toString code } else m := by
  have hnot := lookup_decisions_eq_none.1 h
  simp only [List.mem_cons, List.not_mem_nil, or_false, not_or] at hnot
  simp [answer, hnot]

/-- A step sets what its event gives, and leaves alone what it does not give. -/
theorem step_eq (e : Event) : m.step now e
    = ⟨e.state?.getD m.state, e.reason?.getD m.reason, (e.deadline? now).getD m.deadline⟩ := by
  cases e with
  | order state reason =>
    simp only [step, order, Event.state?, Event.reason?, Event.deadline?]
    split_ifs <;> rfl
  | answer code hint =>
    simp only [step, Event.state?, Event.reason?, Event.deadline?]
    rcases h : decisions.lookup code with _ | ⟨state, reason⟩
    · rw [answer_of_undecided m now hint h]
      split_ifs <;> rfl
    · rw [answer_of_decided m now hint h]
      rfl

end Machine

/-- After any history of a new lifecycle, the state is that of the last event to lead to one, the
reason that of the last one to give one, and the deadline that of the last one not to leave it
alone. An answer with any other code changes nothing, and calls nobody back. -/
theorem last_events_determine :
    (∀ events : List (Instant × Event),
      (Machine.initial.run events).state
          = (lastGiven (fun e => e.2.state?) events).getD .starting
        ∧ (Machine.initial.run events).reason = (lastGiven (fun e => e.2.reason?) events).getD ""
        ∧ (Machine.initial.run events).deadline
          = (lastGiven (fun e => e.2.deadline? e.1) events).getD none)
      ∧ ∀ (s : Supervisor) (now : Instant) (code hint : Nat),
        code ∉ [200, 401, 402, 403, 410, 429] → code < 500 → s.answer now code hint = s := by
  refine ⟨fun events => ⟨?_, ?_, ?_⟩, fun s now code hint hnot hlt => ?_⟩
  · exact foldl_eq_lastGiven (fun m e => congrArg Machine.state (m.step_eq e.1 e.2)) events
      Machine.initial
  · exact foldl_eq_lastGiven (fun m e => congrArg Machine.reason (m.step_eq e.1 e.2)) events
      Machine.initial
  · exact foldl_eq_lastGiven (fun m e => congrArg Machine.deadline (m.step_eq e.1 e.2)) events
      Machine.initial
  · have hsame := s.machine.answer_of_undecided now hint (lookup_decisions_eq_none.2 hnot)
    rw [if_neg (Nat.not_le.2 hlt)] at hsame
    have hgone : code ≠ 410 := by
      rintro rfl
      exact hnot (by decide)
    rw [Supervisor.answer, hsame, if_neg hgone]

end ClusterCensus.Lifecycle
