import ClusterCensus.Collector.Starting
import ClusterCensus.Proofs.Collector.Outcome
import Mathlib.Data.List.Nodup
import Mathlib.Data.List.Range

/-!
# What holds during a start

An outcome is told when its task has sent it or, after a crash, when the supervisor has passed the
task (`Told`). What was received and what is in the channel are the outcomes told so far, each of
them once. This and what else holds of a start under way (`Sound`) holds at its beginning and after
each move (`Sound.initial`, `Sound.move`).
-/

namespace ClusterCensus.Collector

theorem getElem?_set_of_some {α : Type} {l : List α} {i j : Nat} {a b : α} (h : l[i]? = some a) :
    (l.set i b)[j]? = if i = j then some b else l[j]? := by
  obtain ⟨hi, -⟩ := List.getElem?_eq_some_iff.1 h
  rw [List.getElem?_set, if_pos hi]

namespace Starting

variable {ws : List Worker} {x y : Starting}

/-- What is told about the worker at a place. -/
def noticeAt (ws : List Worker) (place : Nat) : Option Notice := ws[place]?.map (·.notice)

/-- Whether the outcome at a place was sent. -/
def Told (ws : List Worker) (x : Starting) (place : Nat) : Prop :=
  ∃ w, ws[place]? = some w
    ∧ if w.ending.isCrash then place < x.awaited else x.stages[place]? = some .ended

/-- What holds during a start. -/
structure Sound (ws : List Worker) (x : Starting) : Prop where
  spawned : x.stages.length ≤ ws.length
  passed : ∀ i < x.awaited, x.stages[i]? = some .ended
  sending : ∀ (i : Nat) (w : Worker), x.stages[i]? = some .sending → ws[i]? = some w →
    w.ending.isCrash = false
  calls : x.calls.Nodup ∧ ∀ i, i ∈ x.calls ↔ ∃ stage, x.stages[i]? = some stage ∧ stage ≠ .ready
  told : ∃ places : List Nat, places.Nodup ∧ (∀ i, i ∈ places ↔ Told ws x i)
    ∧ x.received ++ x.queue = places.filterMap (noticeAt ws)
  errors_eq : errors x.logs = errors (x.received.map startLog)
  closed : ∀ r, x.result = some r → r = startResult (failedNames x.received) ws.length
    ∧ x.started = true ∧ x.queue = [] ∧ x.awaited = ws.length

theorem stage_spawn {stages : List Stage} {i : Nat} {stage : Stage} :
    (stages ++ [.ready])[i]? = some stage
      ↔ stages[i]? = some stage ∨ i = stages.length ∧ stage = .ready := by
  rw [List.getElem?_append]
  split_ifs with h
  · constructor
    · exact .inl
    · rintro (h' | ⟨rfl, -⟩)
      · exact h'
      · omega
  · rw [List.getElem?_eq_none (by omega : stages.length ≤ i)]
    rcases Nat.lt_or_eq_of_le (Nat.le_of_not_lt h) with hlt | rfl
    · rw [List.getElem?_eq_none (by simpa using (by omega : 1 ≤ i - stages.length))]
      simp only [reduceCtorEq, false_or, false_iff]
      omega
    · simp [eq_comm]

theorem stage_setStage {i j : Nat} {a b : Stage} (h : x.stages[i]? = some a) :
    (x.setStage i b).stages[j]? = if i = j then some b else x.stages[j]? :=
  getElem?_set_of_some h

theorem stage_setStage_self {i : Nat} {a b : Stage} (h : x.stages[i]? = some a) :
    (x.setStage i b).stages[i]? = some b := by
  rw [stage_setStage h, if_pos rfl]

theorem told_iff {i : Nat} {w : Worker} (hw : ws[i]? = some w) : Told ws x i
    ↔ if w.ending.isCrash then i < x.awaited else x.stages[i]? = some .ended := by
  unfold Told
  rw [hw]
  exact ⟨fun ⟨v, hv, h⟩ => Option.some.inj hv ▸ h, fun h => ⟨w, rfl, h⟩⟩

theorem not_told_awaited {w : Worker} (hw : ws[x.awaited]? = some w)
    (hcrash : w.ending.isCrash = true) : ¬ Told ws x x.awaited := by
  rw [told_iff hw, if_pos hcrash]
  exact Nat.lt_irrefl _

theorem told_congr (ha : y.awaited = x.awaited)
    (hs : ∀ (i : Nat) (w : Worker), ws[i]? = some w → w.ending.isCrash = false →
      (y.stages[i]? = some .ended ↔ x.stages[i]? = some .ended)) (i : Nat) :
    Told ws y i ↔ Told ws x i := by
  unfold Told
  refine exists_congr fun w => and_congr_right fun hw => ?_
  split_ifs with hc
  · rw [ha]
  · exact hs i w hw (Bool.eq_false_iff.2 hc)

namespace Sound

/-- One more outcome is told. -/
theorem told_send {n : Notice} {i : Nat} (h : Sound ws x) (hnew : ¬ Told ws x i)
    (hn : noticeAt ws i = some n) (htold : ∀ j, Told ws y j ↔ Told ws x j ∨ j = i)
    (hy : y.received ++ y.queue = x.received ++ x.queue ++ [n]) :
    ∃ places : List Nat, places.Nodup ∧ (∀ i, i ∈ places ↔ Told ws y i)
      ∧ y.received ++ y.queue = places.filterMap (noticeAt ws) := by
  obtain ⟨places, hnodup, hmem, heq⟩ := h.told
  refine ⟨places ++ [i], ?_, fun j => ?_, ?_⟩
  · refine hnodup.append (List.nodup_singleton _) fun j hj hp => ?_
    rw [List.mem_singleton] at hp
    exact hnew (hp ▸ (hmem j).1 hj)
  · rw [List.mem_append, List.mem_singleton, hmem, htold]
  · rw [hy, heq, List.filterMap_append]
    simp [hn]

theorem passed_setStage {i : Nat} {a b : Stage} (h : Sound ws x) (hi : x.stages[i]? = some a)
    (ha : a ≠ .ended) : ∀ j < x.awaited, (x.setStage i b).stages[j]? = some .ended := by
  intro j hj
  have hended := h.passed j hj
  rw [stage_setStage hi, if_neg, hended]
  rintro rfl
  exact ha (Option.some.inj (hi.symm.trans hended))

theorem calls_setStage {i : Nat} {a b : Stage} (h : Sound ws x) (hi : x.stages[i]? = some a)
    (ha : a ≠ .ready) (hb : b ≠ .ready) : (x.setStage i b).calls.Nodup
      ∧ ∀ j, j ∈ (x.setStage i b).calls
        ↔ ∃ stage, (x.setStage i b).stages[j]? = some stage ∧ stage ≠ .ready := by
  refine ⟨h.calls.1, fun j => (h.calls.2 j).trans ?_⟩
  rw [stage_setStage hi]
  split_ifs with hij
  · subst hij
    exact ⟨fun _ => ⟨b, rfl, hb⟩, fun _ => ⟨a, hi, ha⟩⟩
  · rfl

theorem setStage_length (x : Starting) (i : Nat) (b : Stage) :
    (x.setStage i b).stages.length = x.stages.length := List.length_set

/-- No other outcome is told. -/
theorem told_same (h : Sound ws x) (htold : ∀ i, Told ws y i ↔ Told ws x i)
    (hy : y.received ++ y.queue = x.received ++ x.queue) :
    ∃ places : List Nat, places.Nodup ∧ (∀ i, i ∈ places ↔ Told ws y i)
      ∧ y.received ++ y.queue = places.filterMap (noticeAt ws) := by
  obtain ⟨places, hnodup, hmem, heq⟩ := h.told
  exact ⟨places, hnodup, fun i => (hmem i).trans (htold i).symm, hy.trans heq⟩

theorem spawn (h : Sound ws x) (hlt : x.stages.length < ws.length) :
    Sound ws { x with stages := x.stages ++ [.ready] } := by
  have hne : ∀ {i : Nat} {stage : Stage}, stage ≠ .ready →
      ((x.stages ++ [.ready])[i]? = some stage ↔ x.stages[i]? = some stage) := fun hs =>
    stage_spawn.trans (or_iff_left fun hr => hs hr.2)
  refine { h with
    spawned := ?_
    passed := fun i hi => (hne (by decide)).2 (h.passed i hi)
    sending := fun i w hs => h.sending i w ((hne (by decide)).1 hs)
    calls := ⟨h.calls.1, fun i => (h.calls.2 i).trans ?_⟩
    told := h.told_same (told_congr rfl fun i w _ _ => hne (by decide)) rfl }
  · rw [List.length_append]
    exact hlt
  · exact exists_congr fun stage => and_congr_left fun hs => (hne hs).symm

theorem call {i : Nat} (h : Sound ws x) (hi : x.stages[i]? = some .ready) :
    Sound ws { x.setStage i .working with calls := x.calls ++ [i] } := by
  have hnew : i ∉ x.calls := fun hmem => by
    obtain ⟨stage, hs, hne⟩ := (h.calls.2 i).1 hmem
    exact hne (Option.some.inj (hs.symm.trans hi))
  refine { h with
    spawned := (setStage_length ..).trans_le h.spawned
    passed := h.passed_setStage hi (by decide)
    sending := fun j w hs => ?_
    calls := ⟨h.calls.1.append (List.nodup_singleton _) ?_, fun j => ?_⟩
    told := h.told_same (told_congr rfl fun j w _ _ => ?_) rfl }
  · rw [stage_setStage hi] at hs
    split_ifs at hs
    · cases hs
    · exact h.sending j w hs
  · intro j hj hp
    rw [List.mem_singleton] at hp
    exact hnew (hp ▸ hj)
  · rw [List.mem_append, List.mem_singleton, h.calls.2, stage_setStage hi]
    split_ifs with hij
    · subst hij
      simp
    · simp [Ne.symm hij]
  · rw [stage_setStage hi]
    split_ifs with hij
    · subst hij
      simp [hi]
    · rfl

theorem finish {i : Nat} {w : Worker} (h : Sound ws x) (hi : x.stages[i]? = some .working)
    (hw : ws[i]? = some w) :
    Sound ws (x.setStage i (if w.ending.isCrash then .ended else .sending)) := by
  refine { h with
    spawned := (setStage_length ..).trans_le h.spawned
    passed := h.passed_setStage hi (by decide)
    sending := fun j v hs hv => ?_
    calls := h.calls_setStage hi (by decide) (by split_ifs <;> decide)
    told := h.told_same (told_congr rfl fun j v hv hend => ?_) rfl }
  · rw [stage_setStage hi] at hs
    split_ifs at hs with hij hcrash
    · cases hs
    · subst hij
      cases hw.symm.trans hv
      exact Bool.eq_false_iff.2 hcrash
    · exact h.sending j v hs hv
  · rw [stage_setStage hi]
    split_ifs with hij hcrash
    · subst hij
      cases hw.symm.trans hv
      rw [hend] at hcrash
      contradiction
    · subst hij
      simp [hi]
    · rfl

/-- A start is not over while the supervisor waits for a task. -/
theorem open_of_lt (h : Sound ws x) (hlt : x.awaited < ws.length) : x.result = none := by
  rcases hr : x.result with _ | r
  · rfl
  · obtain ⟨-, -, -, hall⟩ := h.closed r hr
    omega

theorem not_told_of_sending {i : Nat} {w : Worker} (h : Sound ws x)
    (hi : x.stages[i]? = some .sending) (hw : ws[i]? = some w) : ¬ Told ws x i := by
  rw [told_iff hw, h.sending i w hi hw, hi]
  simp

theorem send {i : Nat} {w : Worker} (h : Sound ws x) (hi : x.stages[i]? = some .sending)
    (hw : ws[i]? = some w) : Sound ws ((x.setStage i .ended).send w.notice) := by
  have hend := h.sending i w hi hw
  have hlt : i < ws.length := (List.getElem?_eq_some_iff.1 hw).1
  -- The supervisor has not passed the task that sends, so it still waits for one.
  have hle : x.awaited ≤ i := by
    by_contra hpassed
    have hended := h.passed i (not_le.1 hpassed)
    rw [hi] at hended
    cases hended
  have hopen := h.open_of_lt (hle.trans_lt hlt)
  refine { h with
    spawned := (setStage_length ..).trans_le h.spawned
    passed := h.passed_setStage hi (by decide)
    sending := fun j v hs hv => ?_
    calls := h.calls_setStage hi (by decide) (by decide)
    told := h.told_send (n := w.notice) (i := i) (h.not_told_of_sending hi hw) ?_ (fun j => ?_) ?_
    closed := fun r hr => absurd (hopen.symm.trans hr) (by simp) }
  · rw [Starting.send, stage_setStage hi] at hs
    split_ifs at hs
    · cases hs
    · exact h.sending j v hs hv
  · simp [noticeAt, hw]
  · unfold Told
    rw [Starting.send, stage_setStage hi]
    by_cases hij : i = j
    · subst hij
      exact ⟨fun _ => .inr rfl, fun _ => ⟨w, hw, by simp [hend]⟩⟩
    · rw [if_neg hij, or_iff_left (Ne.symm hij)]
      rfl
  · exact (List.append_assoc ..).symm

/-- The supervisor has passed one task more. -/
theorem passed_succ (h : Sound ws x) (hended : x.stages[x.awaited]? = some .ended) :
    ∀ i < x.awaited + 1, x.stages[i]? = some .ended := by
  intro i hi
  rcases Nat.lt_succ_iff_lt_or_eq.1 hi with hlt | rfl
  · exact h.passed i hlt
  · exact hended

theorem pass {w : Worker} (h : Sound ws x) (hended : x.stages[x.awaited]? = some .ended)
    (hw : ws[x.awaited]? = some w) (hend : w.ending.isCrash = false) :
    Sound ws { x with awaited := x.awaited + 1 } := by
  have hopen := h.open_of_lt (List.getElem?_eq_some_iff.1 hw).1
  refine { h with
    passed := h.passed_succ hended
    told := h.told_same (fun i => exists_congr fun v => and_congr_right fun hv => ?_) rfl
    closed := fun r hr => absurd (hopen.symm.trans hr) (by simp) }
  split_ifs with hcrash
  · have hne : i ≠ x.awaited := by
      rintro rfl
      cases hw.symm.trans hv
      rw [hend] at hcrash
      contradiction
    show i < x.awaited + 1 ↔ i < x.awaited
    omega
  · rfl

theorem report {w : Worker} (h : Sound ws x) (hended : x.stages[x.awaited]? = some .ended)
    (hw : ws[x.awaited]? = some w) (hcrash : w.ending.isCrash = true) :
    Sound ws ({ x with awaited := x.awaited + 1 }.send w.notice) := by
  have hopen := h.open_of_lt (List.getElem?_eq_some_iff.1 hw).1
  refine { h with
    passed := h.passed_succ hended
    told := h.told_send (n := w.notice) (i := x.awaited) (not_told_awaited hw hcrash) ?_
      (fun j => ?_) ?_
    closed := fun r hr => absurd (hopen.symm.trans hr) (by simp) }
  · simp [noticeAt, hw]
  · by_cases hj : j = x.awaited
    · subst hj
      exact ⟨fun _ => .inr rfl, fun _ => ⟨w, hw, by rw [if_pos hcrash]; exact Nat.lt_succ_self _⟩⟩
    · rw [or_iff_left hj]
      refine exists_congr fun v => and_congr_right fun _ => ?_
      split_ifs
      · show j < x.awaited + 1 ↔ j < x.awaited
        omega
      · rfl
  · exact (List.append_assoc ..).symm

theorem receive {n : Notice} {rest : List Notice} (h : Sound ws x) (hq : x.queue = n :: rest)
    (hopen : x.result = none) : Sound ws
      { x with queue := rest, received := x.received ++ [n], logs := x.logs ++ [startLog n] } := by
  refine { h with
    told := h.told_same (told_congr rfl fun _ _ _ _ => Iff.rfl) ?_
    errors_eq := ?_
    closed := fun r hr => absurd (hopen.symm.trans hr) (by simp) }
  · rw [hq, List.append_assoc]
    rfl
  · rw [errors_append, h.errors_eq, List.map_append, errors_append]
    rfl

theorem close (h : Sound ws x) (hq : x.queue = []) (hall : x.awaited = ws.length) : Sound ws
    { x with
      logs := x.logs ++ startedLogs (failedNames x.received) ws.length
      started := true
      result := some (startResult (failedNames x.received) ws.length) } := by
  refine { h with
    told := h.told_same (told_congr rfl fun _ _ _ _ => Iff.rfl) rfl
    errors_eq := ?_
    closed := fun r hr => ⟨(Option.some.inj hr).symm, rfl, hq, hall⟩ }
  rw [errors_append, h.errors_eq, errors_startedLogs, List.append_nil]

/-- What holds goes on to hold. -/
theorem move (h : Sound ws x) (hm : Move ws x y) : Sound ws y := by
  cases hm with
  | spawn hlt => exact h.spawn hlt
  | call hi => exact h.call hi
  | finish hi hw => exact h.finish hi hw
  | send hi hw => exact h.send hi hw
  | pass _ hended hw hend => exact h.pass hended hw hend
  | report _ hended hw hcrash => exact h.report hended hw hcrash
  | receive _ hq hopen => exact h.receive hq hopen
  | close _ hq _ hall _ => exact h.close hq hall

/-- It holds at the beginning, when nothing is spawned. -/
theorem of_nothing (hs : x.stages = []) (hc : x.calls = []) (ha : x.awaited = 0)
    (hq : x.queue = []) (hr : x.received = []) (he : errors x.logs = [])
    (hclosed : ∀ r, x.result = some r → r = startResult (failedNames x.received) ws.length
      ∧ x.started = true ∧ x.queue = [] ∧ x.awaited = ws.length) : Sound ws x where
  spawned := by simp [hs]
  passed := by simp [ha]
  sending := by simp [hs]
  calls := by simp [hc, hs]
  told := ⟨[], List.nodup_nil, fun i => by simp [Told, hs, ha], by simp [hr, hq]⟩
  errors_eq := by
    rw [he, hr]
    rfl
  closed := hclosed

theorem initial (ws : List Worker) (started : Bool) : Sound ws (.initial ws started) := by
  unfold Starting.initial
  split_ifs with hws
  · subst hws
    refine of_nothing rfl rfl rfl rfl rfl rfl fun r hr => ?_
    cases hr
    exact ⟨rfl, rfl, rfl, rfl⟩
  · exact of_nothing rfl rfl rfl rfl rfl rfl fun r hr => by cases hr

theorem moves {n : Nat} (h : Sound ws x) (hm : Moves ws n x y) : Sound ws y := by
  induction hm with
  | refl => exact h
  | move _ last ih => exact (ih h).move last

end Sound

end Starting

end ClusterCensus.Collector
