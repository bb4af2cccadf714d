/-!
# The ticker

The ticker says when the shipping loop is due to tick, in milliseconds. The first tick is due at
once. A tick that comes late enough to matter moves the following ones by a whole interval, so that
a slow shipment is not made up for by a burst of ticks.
-/

namespace ClusterCensus.Shipping

/-- An interval and the time at which the next tick is due. -/
structure Ticker where
  interval : Nat
  due : Nat
  positive : 0 < interval

namespace Ticker

/-- How late a tick may come without moving the following ones. -/
def slack : Nat := 5

/-- When the next tick comes, for a loop that is ready for it from a time on. -/
def fire (t : Ticker) (ready : Nat) : Nat := max t.due ready

/-- The ticker after the next tick, which came at a time. -/
def next (t : Ticker) (fired : Nat) : Ticker :=
  { t with due := (if fired ≤ t.due + slack then t.due else fired) + t.interval }

theorem due_lt_next {t : Ticker} {fired : Nat} (h : t.due ≤ fired) :
    t.due < (t.next fired).due := by
  have := t.positive
  simp only [next]
  split <;> omega

theorem due_le_fire (t : Ticker) (ready : Nat) : t.due ≤ t.fire ready := Nat.le_max_left ..

/-- Whether a loop that is ready from a time on takes the next tick, though it is to shut down at
another: with a tick before the shutdown it does. When both are there at once either may be taken;
the list says which, first come first, and at its end it is the shutdown. What is left of the list
is returned with a tick. -/
def admits (t : Ticker) (shutdown ready : Nat) (favours : List Bool) : Option (List Bool) :=
  if t.fire ready < shutdown then some favours
  else if t.due ≤ max ready shutdown then
    match favours with
    | true :: rest => some rest
    | _ => none
  else none

theorem measure_admits {t : Ticker} {shutdown ready : Nat} {favours rest : List Bool}
    (h : t.admits shutdown ready favours = some rest) :
    rest.length < favours.length ∨ rest.length = favours.length ∧ t.due < shutdown := by
  have := t.due_le_fire ready
  unfold admits at h
  split at h
  · cases h
    exact .inr ⟨rfl, by omega⟩
  · split at h
    · split at h
      · cases h
        simp
      · contradiction
    · contradiction

end Ticker

end ClusterCensus.Shipping
