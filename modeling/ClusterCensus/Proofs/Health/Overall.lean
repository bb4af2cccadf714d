import ClusterCensus.Health.Registry
import ClusterCensus.Health.Probe
import ClusterCensus.Proofs.SortedMap
import Mathlib.Data.List.Perm.Basic

/-!
# The worst of several grades

The worse of two grades is the one of the higher rank, so the order in which grades are compared
does not matter, and the grade of the agent is one that a component has and none is worse
(`overall_of_mem`). The store makes nobody unhealthy, the link to the backend does once the
lifecycle has come to its end.
-/

namespace ClusterCensus.Health

namespace Grade

/-- How bad a grade is. -/
def rank (g : Grade) : Nat := all.idxOf g

theorem rank_worse (g h : Grade) : (g.worse h).rank = max g.rank h.rank := by
  cases g <;> cases h <;> rfl

theorem rank_inj {g h : Grade} (heq : g.rank = h.rank) : g = h := by
  cases g <;> cases h <;> first | rfl | exact absurd heq (by decide)

theorem rank_le (g : Grade) : g.rank ≤ unhealthy.rank := by
  cases g <;> decide

instance : RightCommutative worse where
  right_comm f g h := rank_inj (by simp only [rank_worse]; omega)

theorem rank_le_foldl_worse : ∀ (gs : List Grade) (g : Grade), ∀ h ∈ g :: gs,
    h.rank ≤ (gs.foldl worse g).rank
  | [], g, h, hmem => by
    rw [List.mem_singleton.1 hmem]
    exact Nat.le_refl _
  | k :: ks, g, h, hmem => by
    have ih := rank_le_foldl_worse ks (g.worse k)
    have hworse := ih _ List.mem_cons_self
    rw [rank_worse] at hworse
    simp only [List.mem_cons] at hmem
    rw [List.foldl_cons]
    rcases hmem with rfl | rfl | hmem
    · omega
    · omega
    · exact ih h (List.mem_cons_of_mem _ hmem)

theorem foldl_worse_mem : ∀ (gs : List Grade) (g : Grade), gs.foldl worse g ∈ g :: gs
  | [], g => List.mem_singleton.2 rfl
  | k :: ks, g => by
    have ih := foldl_worse_mem ks (g.worse k)
    have hworse : g.worse k = g ∨ g.worse k = k := by
      cases g <;> cases k <;> simp [worse]
    simp only [List.foldl_cons, List.mem_cons] at ih ⊢
    rcases ih with ih | ih
    · rw [ih]
      exact hworse.imp_right .inl
    · exact .inr (.inr ih)

end Grade

theorem rank_le_overall {components : Components} {c : Component} (h : c ∈ components.values) :
    c.grade.rank ≤ (overall components).rank :=
  Grade.rank_le_foldl_worse _ _ _ (List.mem_cons_of_mem _ (List.mem_map_of_mem h))

/-- Where there is a component, the grade of the agent is that of a component. -/
theorem overall_mem {components : Components} {c : Component} (h : c ∈ components.values) :
    overall components ∈ components.values.map (·.grade) := by
  rcases List.mem_cons.1 (Grade.foldl_worse_mem (components.values.map (·.grade)) .healthy)
    with heq | hmem
  · have hle := rank_le_overall h
    have hzero : (overall components).rank = 0 := congrArg Grade.rank heq
    have hgrade : c.grade = overall components := Grade.rank_inj (by omega)
    exact List.mem_map.2 ⟨c, h, hgrade⟩
  · exact hmem

theorem foldl_worse_of_perm {components : Components} {cs : List Component}
    (h : cs.Perm components.values) :
    (cs.map (·.grade)).foldl Grade.worse .healthy = overall components :=
  (h.map _).foldl_eq _

theorem overall_eq_unhealthy {components : Components} :
    overall components = .unhealthy ↔ ∃ c ∈ components.values, c.grade = .unhealthy := by
  constructor
  · intro h
    rcases List.mem_cons.1 (Grade.foldl_worse_mem (components.values.map (·.grade)) .healthy)
      with heq | hmem
    · cases h.symm.trans heq
    · obtain ⟨c, hc, hgrade⟩ := List.mem_map.1 hmem
      exact ⟨c, hc, hgrade.trans h⟩
  · rintro ⟨c, hc, hgrade⟩
    have hle := rank_le_overall hc
    rw [hgrade] at hle
    exact Grade.rank_inj (Nat.le_antisymm (Grade.rank_le _) hle)

theorem grade_ofStore_ne (s : Store) (threshold : Span) (nowMs wallMs : Int) :
    (ofStore s threshold nowMs wallMs).grade ≠ .unhealthy := by
  unfold ofStore
  split <;> intro h <;> cases h

theorem grade_ofLifecycle (status : Lifecycle.Status) (wallMs : Int) :
    (ofLifecycle status wallMs).grade = .unhealthy ↔ status.state ∈ [.stopped, .exiting] := by
  unfold ofLifecycle
  cases status.state <;> simp [Component.healthy, Component.degraded, Component.unhealthy]

end ClusterCensus.Health
