import ClusterCensus.Collector.Outcome
import Mathlib.Data.List.Perm.Basic
import Mathlib.Tactic.Common

/-!
# What the outcomes of a start decide

Whatever order the notices of the workers come in, the names told as failed are those of the
failing workers (`failedNames_perm`), each of them has one record of an error
(`namedInErrors_perm`), and the result says whether none, some or all of them failed
(`classified_startResult`).
-/

namespace ClusterCensus.Collector

/-- The workers that do not end well. -/
def failing (ws : List Worker) : List Worker := ws.filter fun w => w.ending ≠ .ok

/-- What a start comes to: no failure, a failure of some, or one of all. -/
def Classified (ws : List Worker) (r : Except GroupError Unit) : Prop :=
  ((failing ws).length = 0 → r = .ok ())
    ∧ (0 < (failing ws).length → (failing ws).length < ws.length →
      ∃ failed, r = .error (.partialStart failed ws.length)
        ∧ failed.Perm ((failing ws).map (·.name)))
    ∧ (0 < (failing ws).length → (failing ws).length = ws.length →
      r = .error (.allFailed ws.length))

/-- The records of errors. -/
def errors (logs : List Log.Record) : List Log.Record := logs.filter (·.level = .error)

/-- The collectors that the records of errors name. -/
def namedInErrors (logs : List Log.Record) : List (Option Log.Value) :=
  (errors logs).map (·.fields.lookup "collector")

theorem errors_append (ls ms : List Log.Record) : errors (ls ++ ms) = errors ls ++ errors ms :=
  List.filter_append ..

theorem errors_startedLogs (failed : List String) (total : Nat) :
    errors (startedLogs failed total) = [] := by
  unfold startedLogs errors
  split <;> rfl

theorem exists_failure {w : Worker} (h : w.ending ≠ .ok) :
    ∃ f, w.notice = ⟨w.name, some f⟩ := by
  rcases w with ⟨name, endsAt, _ | f | message⟩
  · contradiction
  · exact ⟨f, rfl⟩
  · exact ⟨crashFailure message, rfl⟩

theorem failedNames_notices : ∀ ws : List Worker,
    failedNames (ws.map (·.notice)) = (failing ws).map (·.name)
  | [] => rfl
  | w :: ws => by
    have ih := failedNames_notices ws
    unfold failedNames failing at ih ⊢
    by_cases h : w.ending = .ok
    · rw [List.filter_cons_of_neg (by simpa using h), ← ih]
      simp [Worker.notice, h, Ending.failure?]
    · obtain ⟨f, hf⟩ := exists_failure h
      rw [List.filter_cons_of_pos (by simpa using h), List.map_cons, List.map_cons, ← ih, hf]
      rfl

theorem namedInErrors_notices : ∀ ws : List Worker,
    namedInErrors ((ws.map (·.notice)).map startLog)
      = (failing ws).map fun w => some (.text w.name)
  | [] => rfl
  | w :: ws => by
    have ih := namedInErrors_notices ws
    unfold namedInErrors errors failing at ih ⊢
    by_cases h : w.ending = .ok
    · rw [List.filter_cons_of_neg (by simpa using h), ← ih]
      simp [Worker.notice, h, Ending.failure?, startLog, Log.Origin.debug]
    · obtain ⟨f, hf⟩ := exists_failure h
      rw [List.filter_cons_of_pos (by simpa using h), List.map_cons, List.map_cons, List.map_cons,
        ← ih, hf]
      rfl

section Notices

variable {ws : List Worker} {ns : List Notice} (h : ns.Perm (ws.map (·.notice)))
include h

theorem failedNames_perm : (failedNames ns).Perm ((failing ws).map (·.name)) :=
  failedNames_notices ws ▸ h.filterMap _

theorem namedInErrors_perm : (namedInErrors (ns.map startLog)).Perm
    ((failing ws).map fun w => some (.text w.name)) :=
  namedInErrors_notices ws ▸ ((h.map _).filter _).map _

theorem classified_startResult : Classified ws (startResult (failedNames ns) ws.length) := by
  have hperm := failedNames_perm h
  have hlen : (failedNames ns).length = (failing ws).length := by
    rw [hperm.length_eq, List.length_map]
  unfold startResult
  refine ⟨fun hk => ?_, fun hpos hlt => ?_, fun hpos hall => ?_⟩
  · rw [if_pos (List.length_eq_zero_iff.1 (hlen.trans hk))]
  · rw [if_neg (List.length_pos_iff.1 (hlen ▸ hpos)), if_neg (by omega)]
    exact ⟨_, rfl, hperm⟩
  · rw [if_neg (List.length_pos_iff.1 (hlen ▸ hpos)), if_pos (hlen.trans hall)]

end Notices

end ClusterCensus.Collector
