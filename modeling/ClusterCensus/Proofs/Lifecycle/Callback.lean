import ClusterCensus.Lifecycle.Guard
import ClusterCensus.Proofs.Lifecycle.History
import Mathlib.Data.List.Basic
import Mathlib.Data.List.Induction

/-!
# One call for each end of support

An act calls at most once, and only if it announces the end of the agent's support while a callback
is registered (`calls_act`). So the calls of a run are those of its announcements, in their order,
each of the callback registered last before it (`calls_run`). Under the guard the same happens step
by step: since the guard is free again when the callback is called, it sees the lifecycle as the
answer has left it, and nobody waits in vain (`run?_steps`).
-/

namespace ClusterCensus.Lifecycle

namespace Supervisor

/-- The callback that an act registers, if it does. -/
def Act.callback? : Act → Option String
  | onCancel callback => some callback
  | event .. => none

/-- The call that the act at a place makes, if it makes one: of the callback registered last before
it, which sees the lifecycle after it. -/
def callAt (acts : List Act) (i : Nat) : Option CancelCall :=
  if acts[i]?.any Act.endsSupport then
    (lastGiven Act.callback? (acts.take i)).map
      (CancelCall.mk · (initial.run (acts.take (i + 1))).machine)
  else none

theorem run_concat (s : Supervisor) (acts : List Act) (a : Act) :
    s.run (acts ++ [a]) = (s.run acts).act a := by
  simp [run]

theorem callback_act (s : Supervisor) (a : Act) :
    (s.act a).callback = a.callback?.or s.callback := by
  rcases a with callback | ⟨now, ⟨code, hint⟩ | ⟨state, reason⟩⟩ <;> rfl

theorem calls_act (s : Supervisor) (a : Act) :
    (s.act a).calls = s.calls
      ++ if a.endsSupport then (s.callback.map (CancelCall.mk · (s.act a).machine)).toList
        else [] := by
  rcases a with callback | ⟨now, ⟨code, hint⟩ | ⟨state, reason⟩⟩
  · exact (List.append_nil _).symm
  · by_cases hcode : code = 410
    · simp [act, answer, Act.endsSupport, hcode]
    · simp [act, answer, Act.endsSupport, hcode]
  · exact (List.append_nil _).symm

theorem machine_act_of_endsSupport {s : Supervisor} {a : Act} (h : a.endsSupport = true) :
    (s.act a).machine = ⟨.exiting, "agent deprecated", none⟩ := by
  rcases a with callback | ⟨now, ⟨code, hint⟩ | ⟨state, reason⟩⟩
  · cases h
  · obtain rfl : code = 410 := by simpa [Act.endsSupport] using h
    rfl
  · cases h

theorem callback_run (acts : List Act) :
    (initial.run acts).callback = lastGiven Act.callback? acts := by
  induction acts using List.reverseRecOn with
  | nil => rfl
  | append_singleton acts a ih =>
    rw [run_concat, callback_act, ih]
    unfold lastGiven
    rw [List.filterMap_append, List.getLast?_append]
    cases ha : a.callback? <;> simp [ha]

theorem callAt_concat_of_lt {acts : List Act} {i : Nat} (a : Act) (h : i < acts.length) :
    callAt (acts ++ [a]) i = callAt acts i := by
  unfold callAt
  rw [List.getElem?_append_left h, List.take_append_of_le_length (by omega),
    List.take_append_of_le_length (by omega)]

theorem callAt_concat (acts : List Act) (a : Act) :
    callAt (acts ++ [a]) acts.length
      = if a.endsSupport then
          (initial.run acts).callback.map
            (CancelCall.mk · ((initial.run acts).act a).machine)
        else none := by
  have hwhole : (acts ++ [a]).take (acts.length + 1) = acts ++ [a] :=
    List.take_of_length_le (by simp)
  unfold callAt
  rw [callback_run, ← run_concat, hwhole]
  simp

theorem calls_run (acts : List Act) :
    (initial.run acts).calls = (List.range acts.length).filterMap (callAt acts) := by
  induction acts using List.reverseRecOn with
  | nil => rfl
  | append_singleton acts a ih =>
    have hearlier : (List.range acts.length).filterMap (callAt (acts ++ [a]))
        = (List.range acts.length).filterMap (callAt acts) :=
      List.filterMap_congr fun i hi => callAt_concat_of_lt a (List.mem_range.1 hi)
    rw [run_concat, calls_act, ih, List.length_append, List.length_singleton, List.range_succ,
      List.filterMap_append, hearlier]
    congr 1
    rw [List.filterMap_cons, callAt_concat]
    split_ifs
    · cases (initial.run acts).callback <;> rfl
    · rfl

theorem seen_of_mem_calls : ∀ (acts : List Act) (s : Supervisor), ∀ call ∈ (s.run acts).calls,
    call ∈ s.calls ∨ call.seen = ⟨.exiting, "agent deprecated", none⟩
  | [], _, _, h => .inl h
  | a :: acts, s, call, h => by
    obtain hmem | hseen := seen_of_mem_calls acts (s.act a) call h
    · rw [calls_act, List.mem_append] at hmem
      refine hmem.imp_right fun hnew => ?_
      split_ifs at hnew with hends
      · rw [machine_act_of_endsSupport hends] at hnew
        obtain ⟨callback, -, rfl⟩ := Option.map_eq_some_iff.1 (Option.mem_toList.1 hnew)
        rfl
      · cases hnew
    · exact .inr hseen

end Supervisor

namespace Guarded

open Supervisor

theorem run?_steps (s : Supervisor) (a : Act) :
    (idle s).run? a.steps = some (idle (s.act a)) := by
  rcases a with callback | ⟨now, ⟨code, hint⟩ | ⟨state, reason⟩⟩
  · rfl
  · by_cases hcode : code = 410
    · subst hcode
      rcases hs : s.callback with _ | callback
      · simp [run?, Act.steps, Act.endsSupport, step?, idle, act, answer, hs, Machine.step]
      · -- The guard is free by the time of the call, so the callback has something to look at.
        simp [run?, Act.steps, Act.endsSupport, step?, look, called, idle, act, answer, hs,
          Machine.step]
    · simp [run?, Act.steps, Act.endsSupport, step?, idle, act, answer, hcode, Machine.step]
  · rfl

theorem run?_flatMap_steps : ∀ (acts : List Act) (s : Supervisor),
    (idle s).run? (acts.flatMap Act.steps) = some (idle (s.run acts))
  | [], _ => rfl
  | a :: acts, s => by
    have ih := run?_flatMap_steps acts (s.act a)
    have hfirst := run?_steps s a
    unfold run? at *
    rw [List.flatMap_cons, List.foldlM_append, hfirst]
    exact ih

end Guarded

open Supervisor

/-- Whatever is done to a new lifecycle and its callback, and whatever the clock shows meanwhile:
each announcement of the end of the agent's support, in their order, makes one call of the callback
registered last before it, if there is one, and nothing else makes a call. A callback sees the
lifecycle at its end, and is never kept waiting for that by the guard. -/
theorem each_announcement_calls_once (acts : List Act) :
    (initial.run acts).calls = (List.range acts.length).filterMap (callAt acts)
      ∧ (∀ call ∈ (initial.run acts).calls, call.seen = ⟨.exiting, "agent deprecated", none⟩)
      ∧ (Guarded.idle initial).run? (acts.flatMap Act.steps)
        = some (Guarded.idle (initial.run acts)) := by
  refine ⟨calls_run acts, fun call hcall => ?_, Guarded.run?_flatMap_steps acts initial⟩
  obtain hold | hseen := seen_of_mem_calls acts initial call hcall
  · cases hold
  · exact hseen

end ClusterCensus.Lifecycle
