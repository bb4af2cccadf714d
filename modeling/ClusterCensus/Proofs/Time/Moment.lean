import ClusterCensus.Time.Moment
import Mathlib.Order.MinMax
import Mathlib.Order.Nat

/-!
# Which moments have come

A moment is known by the times by which it has come: these are all times from some time on, or none
(`hasCome_iff`). The later of two has come when both have (`hasCome_later`), the earlier when one
has (`hasCome_earlier`), and one moment is before another when it comes at a time by which the other
has not come (`isBefore_iff`).
-/

namespace ClusterCensus.Moment

variable {a b : Moment} {n k : Nat}

theorem hasCome_iff : a.hasCome n = true ↔ ∃ c, a = some c ∧ c ≤ n := by
  rcases a with _ | c
  · simp [hasCome, noLater]
  · simp [hasCome, noLater]

theorem hasCome_some {c : Nat} : hasCome (some c) n = true ↔ c ≤ n := by
  simp [hasCome, noLater]

theorem hasCome_of_eq {c : Nat} (h : a = some c) : a.hasCome c = true := h ▸ hasCome_some.2 le_rfl

theorem hasCome_mono (h : a.hasCome n = true) (hle : n ≤ k) : a.hasCome k = true := by
  obtain ⟨c, rfl, hc⟩ := hasCome_iff.1 h
  exact hasCome_some.2 (hc.trans hle)

theorem hasCome_later : (later a b).hasCome n = true ↔ a.hasCome n = true ∧ b.hasCome n = true := by
  rcases a with _ | a <;> rcases b with _ | b <;> simp [later, hasCome, noLater]

theorem hasCome_earlier :
    (earlier a b).hasCome n = true ↔ a.hasCome n = true ∨ b.hasCome n = true := by
  rcases a with _ | a <;> rcases b with _ | b <;>
    simp [earlier, hasCome, noLater, Option.merge]

theorem earlier_eq_right (h : b.isBefore a = true) : a.earlier b = b := by
  rcases a with _ | a <;> rcases b with _ | b <;>
    simp only [isBefore, decide_eq_true_eq, Bool.false_eq_true] at h
  · rfl
  · exact congrArg some (min_eq_right h.le)

theorem hasCome_foldl_earlier (n : Nat) : ∀ (ms : List Moment) (m : Moment),
    (ms.foldl earlier m).hasCome n = true
      ↔ m.hasCome n = true ∨ ∃ m' ∈ ms, m'.hasCome n = true
  | [], m => by simp
  | m' :: ms, m => by
    rw [List.foldl_cons, hasCome_foldl_earlier n ms, hasCome_earlier, or_assoc]
    simp only [List.mem_cons, exists_eq_or_imp]

theorem hasCome_earliest {ms : List Moment} :
    (earliest ms).hasCome n = true ↔ ∃ m ∈ ms, m.hasCome n = true := by
  rw [earliest, hasCome_foldl_earlier]
  simp [hasCome, noLater]

theorem isBefore_iff : a.isBefore b = true ↔ ∃ c, a = some c ∧ ¬ b.hasCome c = true := by
  rcases a with _ | a
  · simp [isBefore]
  · rcases b with _ | b <;> simp [isBefore, hasCome, noLater]

theorem noLater_iff :
    a.noLater b = true ↔ ∃ c, a = some c ∧ ∀ n, b.hasCome n = true → c ≤ n := by
  rcases a with _ | a
  · simp [noLater]
  · rcases b with _ | b
    · simp [noLater, hasCome]
    · simp only [noLater, decide_eq_true_eq, Option.some.injEq, hasCome_some, exists_eq_left']
      exact ⟨fun h n hn => h.trans hn, fun h => h b le_rfl⟩

theorem lt_of_not_noLater_earlier {c d : Nat} (h : ¬ noLater (some d) (earlier a b) = true)
    (hc : ∀ n, a.hasCome n = true ∨ b.hasCome n = true → c ≤ n) : c < d := by
  by_contra hle
  exact h (noLater_iff.2 ⟨d, rfl, fun n hn => (not_lt.1 hle).trans (hc n (hasCome_earlier.1 hn))⟩)

end ClusterCensus.Moment
