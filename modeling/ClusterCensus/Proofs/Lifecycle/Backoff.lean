import ClusterCensus.Lifecycle.Machine
import ClusterCensus.Proofs.Time.Instant

/-!
# How long an answer holds back

A 402 or 429 answer leaves the lifecycle in backoff, whatever it was before, with a deadline that is
`heldUntil` in nanoseconds (`answer_of_holdsBack`). In backoff a send may be attempted from the
deadline on (`canSend_of_backoff`).
-/

namespace ClusterCensus.Lifecycle

/-- How many seconds an answer holds back: as many as its hint says, but at most a day's. Without a
hint it is five minutes for a spent quota and half a minute for too high a rate. -/
def heldSecs (code hint : Nat) : Nat :=
  if 0 < hint then min hint 86400 else if code = 402 then 300 else 30

/-- The end of the backoff after an answer at an instant, in nanoseconds since the beginning of
1970: not beyond the calendar. -/
def heldUntil (now : Instant) (code hint : Nat) : Int :=
  min (now.ns + heldSecs code hint * Instant.perSec) Instant.max.ns

theorem ns_backoffWindow (code hint : Nat) :
    (backoffWindow hint (if code = 402 then quotaBackoff else rateLimitBackoff)).ns
      = heldSecs code hint * Instant.perSec := by
  simp only [backoffWindow, heldSecs, quotaBackoff, rateLimitBackoff, maxBackoff, Span.ofSecs,
    Span.ofParts, Instant.perSec]
  split_ifs
  · show min _ _ = _
    omega
  · rfl
  · rfl

namespace Machine

theorem answer_of_holdsBack (m : Machine) {now : Instant} {code : Nat} (hint : Nat)
    (hcode : code = 402 ∨ code = 429) (hnow : ¬ now.isLeap) :
    (m.answer now code hint).state = .backoff
      ∧ ∃ d, (m.answer now code hint).deadline = some d ∧ ¬ d.isLeap
        ∧ d.ns = heldUntil now code hint := by
  have hw := ns_backoffWindow code hint
  rcases hcode with rfl | rfl
  · obtain ⟨hl, hns⟩ := Instant.ns_addOrMax hnow (backoffWindow hint quotaBackoff)
    refine ⟨rfl, _, rfl, hl, ?_⟩
    rw [hns, heldUntil, ← Int.natCast_mul, ← hw, if_pos rfl]
  · obtain ⟨hl, hns⟩ := Instant.ns_addOrMax hnow (backoffWindow hint rateLimitBackoff)
    refine ⟨rfl, _, rfl, hl, ?_⟩
    rw [hns, heldUntil, ← Int.natCast_mul, ← hw, if_neg (by decide)]

theorem canSend_of_backoff {m : Machine} {d now : Instant} (hs : m.state = .backoff)
    (hd : m.deadline = some d) (hl : ¬ d.isLeap) (hnow : ¬ now.isLeap) :
    m.canSend now = true ↔ d.ns ≤ now.ns := by
  rw [← Instant.le_iff_ns hl hnow]
  simp [canSend, hs, expired, hd]

end Machine

end ClusterCensus.Lifecycle
