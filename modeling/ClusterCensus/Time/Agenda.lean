/-!
# Agendas

An agenda holds what is still to happen, in the order in which it happens. At one time there are
three turns; in a turn what was put on the agenda first happens first. Every entry has a weight, and
putting one on an agenda adds its weight to that of the agenda.
-/

namespace ClusterCensus

/-- The turns at one time. -/
inductive Turn where
  | first
  | usual
  | last
deriving DecidableEq, Repr

/-- The place of a turn. -/
def Turn.place : Turn → Nat
  | first => 0
  | usual => 1
  | last => 2

/-- When something happens: a time, and a turn at that time. -/
structure Slot where
  time : Nat
  turn : Turn
deriving DecidableEq, Repr

/-- Whether one slot comes before another. -/
def Slot.isBefore (a b : Slot) : Bool :=
  a.time < b.time || (a.time = b.time && a.turn.place < b.turn.place)

/-- What happens when. -/
abbrev Agenda (α : Type) := List (Slot × α)

namespace Agenda

variable {α : Type}

/-- Adds an entry after those of the same slot and before all later ones. -/
def insert (slot : Slot) (a : α) : Agenda α → Agenda α
  | [] => [(slot, a)]
  | e :: rest => if slot.isBefore e.1 then (slot, a) :: e :: rest else e :: insert slot a rest

/-- The weight of all entries together. -/
def weigh (weight : α → Nat) : Agenda α → Nat
  | [] => 0
  | e :: rest => weight e.2 + weigh weight rest

theorem weigh_insert (weight : α → Nat) (slot : Slot) (a : α) (agenda : Agenda α) :
    weigh weight (insert slot a agenda) = weight a + weigh weight agenda := by
  induction agenda with
  | nil => rfl
  | cons e rest ih =>
    simp only [insert]
    split
    · rfl
    · simp only [weigh, ih]
      omega

end Agenda

end ClusterCensus
