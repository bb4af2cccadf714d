import ClusterCensus.Shipping.Ticker

/-!
# The shipping loop

The shipping loop works on every tick until its work is done for good or it is shut down. Work in
progress is never broken off.
-/

namespace ClusterCensus.Shipping

/-- Work for a loop: what a turn that begins at a time does to a state, with the time it takes, and
whether the work is done for good. -/
structure Work (σ : Type) where
  turn : Nat → σ → σ × Nat
  finished : σ → Bool

/-- Why a loop ended. -/
inductive Ending where
  | finished
  | shutdown
deriving DecidableEq, Repr

/-- The course of a loop: why and when it ended, when its turns began, and the state at its end. -/
structure Course (σ : Type) where
  ending : Ending
  time : Nat
  turns : List Nat
  state : σ

namespace Work

variable {σ : Type}

/-- The course of a loop that is ready from a time on and is to shut down at another. -/
def run (w : Work σ) (shutdown : Nat) (t : Ticker) (favours : List Bool) (ready : Nat) (s : σ) :
    Course σ :=
  match _h : t.admits shutdown ready favours with
  | none => ⟨.shutdown, max ready shutdown, [], s⟩
  | some rest =>
    let start := t.fire ready
    let (s, took) := w.turn start s
    if w.finished s then ⟨.finished, start + took, [start], s⟩
    else
      let c := w.run shutdown (t.next start) rest (start + took) s
      { c with turns := start :: c.turns }
termination_by (favours.length, shutdown - t.due)
decreasing_by
  have := Ticker.due_lt_next (t.due_le_fire ready)
  rcases Ticker.measure_admits ‹_› with h | h
  · exact .left _ _ h
  · rw [h.1]
    exact .right _ (by omega)

end Work

end ClusterCensus.Shipping
