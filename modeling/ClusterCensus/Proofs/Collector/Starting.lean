import ClusterCensus.Proofs.Collector.Sound
import Mathlib.Algebra.GroupWithZero.Nat
import Mathlib.Data.List.Perm.Subperm

/-!
# No outcome of a start is lost

A start is never stuck (`Sound.exists_move`): the channel has room for whoever has something to
send, because no more was sent than there are collectors. Every move brings the start nearer to its
end (`progress_lt_of_move`), so it comes there after a bounded number of them (`moves_le`). Then all
collectors were called, and all outcomes were received, none of them twice (`Sound.calls_perm`,
`Sound.received_perm`).
-/

namespace ClusterCensus.Collector

/-- How far a stage is from nothing. -/
def Stage.rank : Stage → Nat
  | .ready => 1
  | .working => 2
  | .sending => 3
  | .ended => 4

theorem sum_map_set {α : Type} (f : α → Nat) : ∀ (l : List α) (i : Nat) {a : α} (b : α),
    l[i]? = some a → ((l.set i b).map f).sum + f a = (l.map f).sum + f b
  | [], i, _, _, h => by simp at h
  | c :: l, 0, a, b, h => by
    cases Option.some.inj h
    simp only [List.set_cons_zero, List.map_cons, List.sum_cons]
    omega
  | c :: l, i + 1, a, b, h => by
    have ih := sum_map_set f l i b (a := a) h
    simp only [List.set_cons_succ, List.map_cons, List.sum_cons]
    omega

theorem sum_rank_le : ∀ stages : List Stage, (stages.map Stage.rank).sum ≤ 4 * stages.length
  | [] => by simp
  | c :: stages => by
    have ih := sum_rank_le stages
    have hc : c.rank ≤ 4 := by cases c <;> decide
    simp only [List.map_cons, List.sum_cons, List.length_cons]
    omega

namespace Starting

variable {ws : List Worker} {x y : Starting}

/-- How far a start has come. -/
def progress (x : Starting) : Nat :=
  (x.stages.map Stage.rank).sum + x.awaited + x.received.length + x.result.toList.length

theorem progress_setStage {i : Nat} {a : Stage} (b : Stage) (h : x.stages[i]? = some a) :
    (x.setStage i b).progress + a.rank = x.progress + b.rank := by
  have := sum_map_set Stage.rank x.stages i b h
  simp only [progress, setStage]
  omega

theorem progress_lt_of_move (hm : Move ws x y) : x.progress < y.progress := by
  cases hm with
  | spawn => simp [progress, Stage.rank]
  | @call i h =>
    have := progress_setStage .working h
    simp only [progress, Stage.rank] at this ⊢
    omega
  | @finish i w h =>
    have := progress_setStage (if w.ending.isCrash then .ended else .sending) h
    split_ifs at this ⊢ <;> simp only [Stage.rank] at this <;> omega
  | send h =>
    have := progress_setStage .ended h
    simp only [progress, Starting.send, Stage.rank] at this ⊢
    omega
  | pass => simp only [progress]; omega
  | report => simp only [progress, Starting.send]; omega
  | receive _ hq => simp only [progress, List.length_append, List.length_singleton]; omega
  | close _ _ _ _ hopen =>
    simp only [progress, hopen, Option.toList_none, Option.toList_some, List.length_singleton,
      List.length_nil]
    omega

theorem progress_moves {n : Nat} (hm : Moves ws n x y) : x.progress + n ≤ y.progress := by
  induction hm with
  | refl => exact le_rfl
  | move _ last ih =>
    have := progress_lt_of_move last
    omega

theorem filterMap_noticeAt_range : ∀ ws : List Worker,
    (List.range ws.length).filterMap (noticeAt ws) = ws.map (·.notice)
  | [] => rfl
  | w :: ws => by
    have hfirst : noticeAt (w :: ws) 0 = some w.notice := rfl
    rw [List.length_cons, List.range_succ_eq_map, List.map_cons, ← filterMap_noticeAt_range ws,
      List.filterMap_cons_some hfirst, List.filterMap_map]
    rfl

namespace Sound

theorem lt_of_told {i : Nat} (h : Told ws x i) : i < ws.length := by
  obtain ⟨w, hw, -⟩ := h
  exact (List.getElem?_eq_some_iff.1 hw).1

/-- No more was sent than is told. -/
theorem length_le (h : Sound ws x) : ∃ places : List Nat, places.Nodup
    ∧ (∀ i, i ∈ places ↔ Told ws x i) ∧ x.received.length + x.queue.length ≤ places.length := by
  obtain ⟨places, hnodup, hmem, heq⟩ := h.told
  refine ⟨places, hnodup, hmem, ?_⟩
  rw [← List.length_append, heq]
  exact List.length_filterMap_le ..

theorem length_le_of_nodup {places : List Nat} (hnodup : places.Nodup)
    (hlt : ∀ i ∈ places, i < ws.length) : places.length ≤ ws.length := by
  have := (hnodup.subperm fun i hi => List.mem_range.2 (hlt i hi)).length_le
  rwa [List.length_range] at this

/-- There is room for what was not sent. -/
theorem room {i : Nat} (h : Sound ws x) (hi : i < ws.length) (hnot : ¬ Told ws x i) :
    x.queue.length < capacity ws := by
  -- Those told about and the one at `i` are different workers.
  obtain ⟨places, hnodup, hmem, hle⟩ := h.length_le
  have hcons : (i :: places).Nodup := List.nodup_cons.2 ⟨fun h => hnot ((hmem i).1 h), hnodup⟩
  have hlt : ∀ j ∈ i :: places, j < ws.length := fun j hj => by
    rcases List.mem_cons.1 hj with rfl | hj
    · exact hi
    · exact lt_of_told ((hmem j).1 hj)
  have := length_le_of_nodup hcons hlt
  rw [List.length_cons] at this
  unfold capacity
  omega

theorem awaited_le (h : Sound ws x) : x.awaited ≤ ws.length := by
  by_contra hlt
  have hended := h.passed ws.length (by omega)
  have := (List.getElem?_eq_some_iff.1 hended).1
  have := h.spawned
  omega

theorem progress_le (h : Sound ws x) : x.progress ≤ 6 * ws.length + 1 := by
  have hrank := sum_rank_le x.stages
  have hspawned := h.spawned
  have hawaited := h.awaited_le
  obtain ⟨places, hnodup, hmem, hle⟩ := h.length_le
  have hlt : ∀ i ∈ places, i < ws.length := fun i hi => lt_of_told ((hmem i).1 hi)
  have := length_le_of_nodup hnodup hlt
  have : x.result.toList.length ≤ 1 := by cases x.result <;> simp
  unfold progress
  omega

/-- The supervisor can go on when all tasks are over. -/
theorem exists_move_of_awaited (h : Sound ws x) (hlen : x.stages.length = ws.length)
    (hended : ∀ stage ∈ x.stages, stage = .ended) (hlt : x.awaited < ws.length) :
    ∃ y, Move ws x y := by
  obtain ⟨w, hw⟩ : ∃ w, ws[x.awaited]? = some w := ⟨_, List.getElem?_eq_getElem hlt⟩
  have hstage : x.stages[x.awaited]? = some .ended := by
    rw [List.getElem?_eq_getElem (hlen ▸ hlt)]
    exact congrArg some (hended _ (List.getElem_mem _))
  rcases hc : w.ending.isCrash with _ | _
  · exact ⟨_, .pass hlen hstage hw hc⟩
  · exact ⟨_, .report hlen hstage hw hc (h.room hlt (not_told_awaited hw hc))⟩

/-- A task that is not over can go on. -/
theorem exists_move_of_stage {i : Nat} {stage : Stage} (h : Sound ws x)
    (hi : x.stages[i]? = some stage) (hne : stage ≠ .ended) : ∃ y, Move ws x y := by
  have hlt : i < ws.length := (List.getElem?_eq_some_iff.1 hi).1.trans_le h.spawned
  obtain ⟨w, hw⟩ : ∃ w, ws[i]? = some w := ⟨_, List.getElem?_eq_getElem hlt⟩
  cases stage with
  | ready => exact ⟨_, .call hi⟩
  | working => exact ⟨_, .finish hi hw⟩
  | sending => exact ⟨_, .send hi hw (h.room hlt (h.not_told_of_sending hi hw))⟩
  | ended => contradiction

/-- A start is never stuck. -/
theorem exists_move (h : Sound ws x) (hopen : x.result = none) : ∃ y, Move ws x y := by
  by_cases hlt : x.stages.length < ws.length
  · exact ⟨_, .spawn hlt⟩
  have hlen : x.stages.length = ws.length := le_antisymm h.spawned (not_lt.1 hlt)
  by_cases hended : ∀ stage ∈ x.stages, stage = .ended
  · rcases h.awaited_le.lt_or_eq with ha | ha
    · exact h.exists_move_of_awaited hlen hended ha
    · rcases hq : x.queue with _ | ⟨n, rest⟩
      · exact ⟨_, .close hlen hq hended ha hopen⟩
      · exact ⟨_, .receive hlen hq hopen⟩
  · push Not at hended
    obtain ⟨stage, hmem, hne⟩ := hended
    obtain ⟨i, hi⟩ := List.mem_iff_getElem?.1 hmem
    exact h.exists_move_of_stage hi hne

section Closed

variable {r : Except GroupError Unit} (h : Sound ws x) (hr : x.result = some r)
include h hr

theorem ended_of_closed {i : Nat} (hi : i < ws.length) : x.stages[i]? = some .ended := by
  obtain ⟨-, -, -, hall⟩ := h.closed r hr
  exact h.passed i (hall ▸ hi)

theorem length_of_closed : x.stages.length = ws.length := by
  refine le_antisymm h.spawned ?_
  by_contra hlt
  have := (List.getElem?_eq_some_iff.1 (h.ended_of_closed hr (not_le.1 hlt))).1
  omega

/-- The end of a start is its last state. -/
theorem not_move_of_closed : ¬ Move ws x y := by
  obtain ⟨-, -, hq, hall⟩ := h.closed r hr
  have hlen := h.length_of_closed hr
  have hended : ∀ {i : Nat} {stage : Stage}, x.stages[i]? = some stage → stage = .ended :=
    fun {i stage} hi => by
      have hlt := (List.getElem?_eq_some_iff.1 hi).1
      exact Option.some.inj (hi.symm.trans (h.ended_of_closed hr (hlen ▸ hlt)))
  intro hm
  cases hm with
  | spawn hlt => omega
  | call hi => cases hended hi
  | finish hi => cases hended hi
  | send hi => cases hended hi
  | pass _ _ hw => rw [hall, List.getElem?_eq_none le_rfl] at hw; cases hw
  | report _ _ hw => rw [hall, List.getElem?_eq_none le_rfl] at hw; cases hw
  | receive _ _ hopen => cases hopen.symm.trans hr
  | close _ _ _ _ hopen => cases hopen.symm.trans hr

theorem calls_perm : x.calls.Perm (List.range ws.length) := by
  refine (List.perm_ext_iff_of_nodup h.calls.1 List.nodup_range).2 fun i => ?_
  rw [h.calls.2, List.mem_range]
  constructor
  · rintro ⟨stage, hi, -⟩
    exact (List.getElem?_eq_some_iff.1 hi).1.trans_le h.spawned
  · exact fun hi => ⟨.ended, h.ended_of_closed hr hi, by decide⟩

theorem told_of_closed {i : Nat} (hi : i < ws.length) : Told ws x i := by
  obtain ⟨-, -, -, hall⟩ := h.closed r hr
  refine ⟨ws[i], List.getElem?_eq_getElem hi, ?_⟩
  split_ifs
  · omega
  · exact h.ended_of_closed hr hi

theorem received_perm : x.received.Perm (ws.map (·.notice)) := by
  obtain ⟨places, hnodup, hmem, heq⟩ := h.told
  obtain ⟨-, -, hq, -⟩ := h.closed r hr
  have hperm : places.Perm (List.range ws.length) :=
    (List.perm_ext_iff_of_nodup hnodup List.nodup_range).2 fun i => by
      rw [hmem, List.mem_range]
      exact ⟨lt_of_told, h.told_of_closed hr⟩
  rw [hq, List.append_nil] at heq
  rw [heq, ← filterMap_noticeAt_range]
  exact hperm.filterMap _

end Closed

end Sound

theorem moves_le {n : Nat} {started : Bool} (hm : Moves ws n (.initial ws started) x) :
    n ≤ 6 * ws.length + 1 := by
  have := progress_moves hm
  have := ((Sound.initial ws started).moves hm).progress_le
  omega

end Starting

end ClusterCensus.Collector
