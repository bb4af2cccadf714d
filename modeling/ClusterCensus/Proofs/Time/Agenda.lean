import ClusterCensus.Time.Agenda
import Mathlib.Data.List.Perm.Basic
import Mathlib.Tactic.Common

/-!
# Agendas in order

An agenda is in order when no entry comes before an earlier one (`InOrder`). Putting an entry on it
keeps it so (`inOrder_insert`) and adds just that entry (`perm_insert`). No entry is due before the
next one (`InOrder.le_of_head`).
-/

namespace ClusterCensus

theorem Slot.isBefore_iff {a b : Slot} : a.isBefore b = true
    ↔ a.time < b.time ∨ a.time = b.time ∧ a.turn.place < b.turn.place := by
  simp [isBefore]

namespace Agenda

variable {α : Type}

/-- Whether no entry comes before an earlier one. -/
def InOrder (agenda : Agenda α) : Prop := agenda.Pairwise fun a b => ¬ b.1.isBefore a.1 = true

theorem perm_insert (slot : Slot) (a : α) : ∀ agenda : Agenda α,
    (agenda.insert slot a).Perm ((slot, a) :: agenda)
  | [] => .refl _
  | e :: rest => by
    unfold insert
    split_ifs
    · exact .refl _
    · exact ((perm_insert slot a rest).cons e).trans (.swap ..)

theorem filter_insert_of_neg {p : Slot × α → Bool} {slot : Slot} {a : α} (h : p (slot, a) = false) :
    ∀ agenda : Agenda α, (agenda.insert slot a).filter p = agenda.filter p
  | [] => by simp [insert, h]
  | e :: rest => by
    have ih := filter_insert_of_neg h rest
    unfold insert
    split_ifs
    · rw [List.filter_cons_of_neg (by simp [h])]
    · simp only [List.filter_cons, ih]

theorem inOrder_insert (slot : Slot) (a : α) : ∀ {agenda : Agenda α}, agenda.InOrder →
    (agenda.insert slot a).InOrder
  | [], _ => List.pairwise_singleton ..
  | e :: rest, h => by
    obtain ⟨hfirst, hrest⟩ := List.pairwise_cons.1 h
    unfold insert
    split_ifs with hbefore
    · refine List.pairwise_cons.2 ⟨fun x hx => ?_, h⟩
      simp only [Slot.isBefore_iff] at hbefore ⊢
      rcases List.mem_cons.1 hx with rfl | hx
      · omega
      · have := hfirst x hx
        rw [Slot.isBefore_iff] at this
        omega
    · refine List.pairwise_cons.2 ⟨fun x hx => ?_, inOrder_insert slot a hrest⟩
      rcases List.mem_cons.1 ((perm_insert slot a rest).mem_iff.1 hx) with rfl | hx
      · exact hbefore
      · exact hfirst x hx

theorem InOrder.tail {e : Slot × α} {rest : Agenda α} (h : InOrder (e :: rest)) : InOrder rest :=
  (List.pairwise_cons.1 h).2

theorem InOrder.le_of_head {e : Slot × α} {rest : Agenda α} (h : InOrder (e :: rest)) :
    ∀ x ∈ e :: rest, e.1.time ≤ x.1.time := by
  intro x hx
  rcases List.mem_cons.1 hx with rfl | hx
  · exact Nat.le_refl _
  · have := (List.pairwise_cons.1 h).1 x hx
    rw [Slot.isBefore_iff] at this
    omega

end Agenda

end ClusterCensus
