/-!
# Moments

A moment is a time that may never come.
-/

namespace ClusterCensus

/-- A time, or never. -/
abbrev Moment := Option Nat

namespace Moment

/-- The earlier of two moments. -/
def earlier : Moment → Moment → Moment := Option.merge min

/-- The later of two moments: never, if one of them is. -/
def later (a b : Moment) : Moment := a.bind fun x => b.map (max x)

/-- The earliest of a list of moments. -/
def earliest (ms : List Moment) : Moment := ms.foldl earlier none

/-- Whether a moment comes, and no later than another. -/
def noLater : Moment → Moment → Bool
  | none, _ => false
  | some _, none => true
  | some a, some b => a ≤ b

/-- Whether a moment comes before another. -/
def isBefore : Moment → Moment → Bool
  | none, _ => false
  | some _, none => true
  | some a, some b => a < b

/-- Whether a moment has come at a time. -/
def hasCome (m : Moment) (now : Nat) : Bool := m.noLater (some now)

end Moment

end ClusterCensus
