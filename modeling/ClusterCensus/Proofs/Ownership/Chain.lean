import ClusterCensus.Ownership.Chain
import ClusterCensus.Proofs.SortedMap
import Mathlib.Data.ENat.Lattice
import Mathlib.Data.Set.Finite.Lattice
import Mathlib.Order.CompletePartialOrder
import Mathlib.Order.WellQuasiOrder

/-!
# Climbing a chain

Climbing from an owner ends as far up its chain as the chain is long, and no further up than the
number of hops (`ancestor_climb`). A chain may be endless; among finitely many owners it is so just
when it comes back to one of them (`chainLength_eq_top_iff`).
-/

namespace ClusterCensus

section Climb

variable {parent : OwnerRef → Option OwnerRef} {o p : OwnerRef}

/-- What is reached from an owner by a number of climbs. -/
def ancestor (parent : OwnerRef → Option OwnerRef) (o : OwnerRef) : Nat → Option OwnerRef
  | 0 => some o
  | n + 1 => (ancestor parent o n).bind parent

/-- How many climbs there are from an owner on. -/
noncomputable def chainLength (parent : OwnerRef → Option OwnerRef) (o : OwnerRef) : ENat :=
  ⨆ n : {n : Nat // (ancestor parent o n).isSome}, (n : ENat)

theorem ancestor_succ_of_some (h : parent o = some p) :
    ∀ n, ancestor parent o (n + 1) = ancestor parent p n
  | 0 => by simp [ancestor, h]
  | n + 1 => by rw [ancestor, ancestor_succ_of_some h n, ancestor]

theorem ancestor_add (m : Nat) : ∀ n,
    ancestor parent o (m + n) = (ancestor parent o m).bind (ancestor parent · n)
  | 0 => by simp [ancestor]
  | n + 1 => by
    rw [← Nat.add_assoc, ancestor, ancestor_add m n, Option.bind_assoc]
    rfl

theorem isSome_ancestor_of_le {m n : Nat} (hmn : m ≤ n) (h : (ancestor parent o n).isSome) :
    (ancestor parent o m).isSome := by
  obtain ⟨k, rfl⟩ := Nat.exists_eq_add_of_le hmn
  rw [ancestor_add] at h
  exact Option.isSome_of_isSome_bind h

theorem le_chainLength {n : Nat} (h : (ancestor parent o n).isSome) :
    (n : ENat) ≤ chainLength parent o :=
  le_iSup (fun n : {n : Nat // (ancestor parent o n).isSome} => (n : ENat)) ⟨n, h⟩

theorem chainLength_le {n : Nat} (h : ancestor parent o (n + 1) = none) :
    chainLength parent o ≤ n := by
  refine iSup_le fun k => Nat.cast_le.2 ?_
  by_contra hlt
  have := isSome_ancestor_of_le (Nat.lt_of_not_le hlt) k.2
  rw [h] at this
  contradiction

/-- Climbing ends when the hops are used up, or when there is nothing further to climb to. -/
theorem exists_climb (parent : OwnerRef → Option OwnerRef) : ∀ (hops : Nat) (o : OwnerRef),
    ∃ k ≤ hops, ancestor parent o k = some (climb parent hops o).owner
      ∧ (k = hops ∨ ancestor parent o (k + 1) = none)
  | 0, _ => ⟨0, le_rfl, rfl, .inl rfl⟩
  | hops + 1, o => by
    unfold climb
    rcases hp : parent o with _ | p
    · exact ⟨0, Nat.zero_le _, rfl, .inr (by simp [ancestor, hp])⟩
    · obtain ⟨k, hk, hreach, hend⟩ := exists_climb parent hops p
      refine ⟨k + 1, by omega, by rw [ancestor_succ_of_some hp]; exact hreach, ?_⟩
      rw [ancestor_succ_of_some hp]
      exact hend.imp_left (congrArg (· + 1))

theorem ancestor_climb (parent : OwnerRef → Option OwnerRef) (hops : Nat) (o : OwnerRef) :
    ∃ k : Nat, (k : ENat) = min (hops : ENat) (chainLength parent o)
      ∧ ancestor parent o k = some (climb parent hops o).owner := by
  obtain ⟨k, hk, hreach, hend⟩ := exists_climb parent hops o
  refine ⟨k, ?_, hreach⟩
  have hle : (k : ENat) ≤ chainLength parent o := le_chainLength (by rw [hreach]; rfl)
  rcases hend with rfl | hend
  · exact (min_eq_left hle).symm
  · rw [le_antisymm (chainLength_le hend) hle]
    exact (min_eq_right (Nat.cast_le.2 hk)).symm

theorem chainLength_eq_top_iff_forall :
    chainLength parent o = ⊤ ↔ ∀ n, (ancestor parent o n).isSome := by
  refine ⟨fun h n => ?_, fun h => ENat.eq_top_iff_forall_ge.2 fun n => le_chainLength (h n)⟩
  by_contra hn
  obtain ⟨k, rfl⟩ : ∃ k, n = k + 1 := Nat.exists_eq_succ_of_ne_zero fun h0 => hn (by rw [h0]; rfl)
  have := chainLength_le (Option.not_isSome_iff_eq_none.1 hn)
  rw [h] at this
  exact ENat.natCast_ne_top k (top_le_iff.1 this)

/-- Whether a chain comes back to where it has been. -/
def ComesBack (parent : OwnerRef → Option OwnerRef) (o : OwnerRef) : Prop :=
  ∃ i j, i < j ∧ (ancestor parent o j).isSome ∧ ancestor parent o i = ancestor parent o j

theorem ComesBack.isSome (h : ComesBack parent o) (n : Nat) : (ancestor parent o n).isSome := by
  obtain ⟨i, j, hij, hj, heq⟩ := h
  induction n using Nat.strong_induction_on with
  | _ n ih =>
    by_cases hn : n ≤ j
    · exact isSome_ancestor_of_le hn hj
    · -- Beyond `j` the chain repeats what it was after `i`.
      obtain ⟨k, rfl⟩ := Nat.exists_eq_add_of_le (show j ≤ n by omega)
      rw [ancestor_add, ← heq, ← ancestor_add]
      exact ih (i + k) (by omega)

theorem chainLength_eq_top_iff {l : List OwnerRef} (hl : ∀ o p, parent o = some p → p ∈ l) :
    chainLength parent o = ⊤ ↔ ComesBack parent o := by
  rw [chainLength_eq_top_iff_forall]
  refine ⟨fun h => ?_, fun h => h.isSome⟩
  have hmem : ∀ n, ancestor parent o (n + 1) ∈ {x | x ∈ l.map some} := fun n => by
    obtain ⟨p, hp⟩ := Option.isSome_iff_exists.1 (h (n + 1))
    obtain ⟨q, -, hq⟩ := Option.bind_eq_some_iff.1 hp
    exact hp ▸ List.mem_map_of_mem (hl q p hq)
  obtain ⟨i, j, hij, heq⟩ := (List.finite_toSet _).exists_lt_map_eq_of_forall_mem hmem
  exact ⟨i + 1, j + 1, by omega, h _, heq⟩

end Climb

end ClusterCensus
