import ClusterCensus.Proofs.Collector.Acts

/-!
# The run of a scenario

What the next entry keeps is kept as long as entries happen (`runWhile_induct`), and when none is
due any more, all that is on the agenda is later (`lt_of_not_due`). Planning adds just what is
planned (`perm_plan`). So when a step of a scenario is over, what is still to come is later
(`Passed.lt`); all the time the agenda is in order and nothing on it is overdue (`Current`).
-/

namespace ClusterCensus.Collector.Scenario

theorem next_cases (s : Scenario) : s.agenda = [] ∧ s.next = s
    ∨ ∃ e rest, s.agenda = e :: rest
      ∧ s.next =
        ({ s with agenda := rest, time := max s.time e.1.time } : Scenario).perform e.2 := by
  rcases ha : s.agenda with _ | ⟨e, rest⟩
  · exact .inl ⟨rfl, by simp only [next, ha]⟩
  · exact .inr ⟨e, rest, rfl, by simp only [next, ha]⟩

/-- What the next entry keeps as long as a condition holds is kept until the condition fails. -/
theorem runWhile_induct {p : Scenario → Bool} {P : Scenario → Prop}
    (hnext : ∀ s, p s = true → P s → P s.next) (s : Scenario) (h : P s) :
    P (s.runWhile p) ∧ ¬ ((s.runWhile p).agenda ≠ [] ∧ p (s.runWhile p) = true) := by
  fun_induction Scenario.runWhile p s with
  | case1 s hgo ih => exact ih (hnext s hgo.2 h)
  | case2 s hend => exact ⟨h, hend⟩

theorem nexts_induct {P : Scenario → Prop} (hnext : ∀ s, P s → P s.next) :
    ∀ (n : Nat) (s : Scenario), P s → P (s.nexts n)
  | 0, _, h => h
  | n + 1, s, h => nexts_induct hnext n s.next (hnext s h)

/-- Planning changes the agenda only. -/
theorem plan_eq (turn : Turn) : ∀ (acts : List (Nat × Act)) (s : Scenario),
    s.plan turn acts = { s with agenda := (s.plan turn acts).agenda }
  | [], _ => rfl
  | a :: acts, s => plan_eq turn acts (s.put ⟨a.1, turn⟩ a.2)

open scoped List in
theorem perm_plan (turn : Turn) : ∀ (acts : List (Nat × Act)) (s : Scenario),
    (s.plan turn acts).agenda.Perm (acts.map (fun a => (⟨a.1, turn⟩, a.2)) ++ s.agenda)
  | [], _ => .refl _
  | a :: acts, s => by
    calc (s.plan turn (a :: acts)).agenda
        ~ acts.map (fun a => (Slot.mk a.1 turn, a.2)) ++ s.agenda.insert ⟨a.1, turn⟩ a.2 :=
          perm_plan turn acts (s.put ⟨a.1, turn⟩ a.2)
      _ ~ acts.map (fun a => (Slot.mk a.1 turn, a.2)) ++ (Slot.mk a.1 turn, a.2) :: s.agenda :=
          (Agenda.perm_insert ⟨a.1, turn⟩ a.2 s.agenda).append_left _
      _ ~ (Slot.mk a.1 turn, a.2) :: (acts.map (fun a => (Slot.mk a.1 turn, a.2)) ++ s.agenda) :=
          List.perm_middle

theorem inOrder_plan (turn : Turn) : ∀ (acts : List (Nat × Act)) (s : Scenario),
    s.agenda.InOrder → (s.plan turn acts).agenda.InOrder
  | [], _, h => h
  | a :: acts, s, h =>
    inOrder_plan turn acts (s.put ⟨a.1, turn⟩ a.2) (Agenda.inOrder_insert _ _ h)

theorem inOrder_launch {s : Scenario} (h : s.agenda.InOrder) (acts : List (Nat × Act)) :
    (s.launch acts).agenda.InOrder :=
  inOrder_plan _ _ _ ((Onward.foldl_perform _ _).inOrder h)

theorem inOrder_next {s : Scenario} (h : s.agenda.InOrder) : s.next.agenda.InOrder := by
  rcases next_cases s with ⟨-, hnext⟩ | ⟨e, rest, ha, hnext⟩
  · rwa [hnext]
  · rw [hnext]
    exact (Onward.perform _ _).inOrder (ha ▸ h : Agenda.InOrder (e :: rest)).tail

theorem inOrder_yield {s : Scenario} (h : s.agenda.InOrder) : s.yield.agenda.InOrder :=
  nexts_induct (P := fun t => t.agenda.InOrder) (fun _ => inOrder_next) _ s h

/-- When the next entry is not due by a time, no entry is. -/
theorem lt_of_not_due {s : Scenario} {time : Nat} (h : s.agenda.InOrder)
    (hend : ¬ (s.agenda ≠ [] ∧ isDue time s = true)) : ∀ x ∈ s.agenda, time < x.1.time := by
  intro x hx
  rcases ha : s.agenda with _ | ⟨e, rest⟩
  · exact absurd (ha ▸ hx) List.not_mem_nil
  · have hlt : time < e.1.time := by
      by_contra hle
      exact hend ⟨by simp [ha], by simpa [isDue, ha] using hle⟩
    exact Nat.lt_of_lt_of_le hlt ((ha ▸ h : Agenda.InOrder (e :: rest)).le_of_head x (ha ▸ hx))

/-- Time has passed until some time, and what was due then has happened. -/
def Passed (s : Scenario) : Prop :=
  ∃ (t : Scenario) (time : Nat), t.agenda.InOrder ∧ s = t.passUntil time

namespace Passed

variable {s : Scenario}

theorem inOrder (h : Passed s) : s.agenda.InOrder := by
  obtain ⟨t, time, horder, rfl⟩ := h
  exact (runWhile_induct (p := isDue (wholeMillis time)) (P := fun t => t.agenda.InOrder)
    (fun _ _ => inOrder_next) t horder).1

/-- What is still to come is later. -/
theorem lt (h : Passed s) : ∀ e ∈ s.agenda, s.time < e.1.time := by
  obtain ⟨t, time, horder, rfl⟩ := h
  obtain ⟨horder, hend⟩ := runWhile_induct (p := isDue (wholeMillis time))
    (P := fun t => t.agenda.InOrder) (fun _ _ => inOrder_next) t horder
  exact lt_of_not_due horder hend

theorem dvd_time (h : Passed s) : 1000 ∣ s.time := by
  obtain ⟨t, time, -, rfl⟩ := h
  exact Nat.dvd_mul_left ..

theorem settle (h : s.agenda.InOrder) : Passed s.settle := ⟨s, s.time, h, rfl⟩

theorem startAll (h : s.agenda.InOrder) : Passed s.startAll.2 := by
  unfold Scenario.startAll
  split_ifs
  · exact settle (s := { s with started := true }) h
  · have hannounced : s.announced.agenda.InOrder := inOrder_yield (s := s.log _) h
    refine ⟨s.beginStart, s.startEnd, ?_, rfl⟩
    unfold beginStart
    refine inOrder_plan _ _ _ (inOrder_plan _ _ _ (inOrder_launch ?_ _))
    exact hannounced

/-- Unless it never ends, time has passed when a wait is over. -/
theorem waitAll (h : s.agenda.InOrder) (limit : Option Nat) :
    Passed (s.waitAll limit).2 ∨ (s.waitAll limit).2 = s.yield := by
  simp only [Scenario.waitAll]
  split_ifs
  · exact .inl (settle h)
  · split
    · exact .inr rfl
    · exact .inl ⟨_, _,
        inOrder_plan _ _ _ (inOrder_plan _ _ _ (inOrder_launch (inOrder_yield h) _)), rfl⟩

theorem stopAll (h : s.agenda.InOrder) : Passed s.stopAll :=
  settle (runWhile_induct (P := fun t => t.agenda.InOrder) (fun _ _ => inOrder_next) _
    ((Onward.beginStop s .step).inOrder h)).1

theorem cancel (h : s.agenda.InOrder) : Passed s.cancel := settle (s := s.cancelToken s.token) h

theorem newToken (h : s.agenda.InOrder) : Passed s.newToken :=
  settle (s := { s with token := s.token + 1 }) h

end Passed

/-- The agenda is in order, and nothing on it is overdue. -/
structure Current (s : Scenario) : Prop where
  inOrder : s.agenda.InOrder
  ahead : ∀ e ∈ s.agenda, s.time ≤ e.1.time

namespace Current

variable {s t : Scenario}

theorem of_passed (h : Passed s) : Current s := ⟨h.inOrder, fun e he => Nat.le_of_lt (h.lt e he)⟩

theorem onward (h : Current s) (ho : Onward s t) : Current t where
  inOrder := ho.inOrder h.inOrder
  ahead e he := by
    rw [ho.time_eq]
    rcases ho.comes e he with he | ⟨-, hlater⟩
    · exact h.ahead e he
    · exact hlater

theorem next (h : Current s) : Current s.next := by
  rcases next_cases s with ⟨-, hnext⟩ | ⟨e, rest, ha, hnext⟩
  · rwa [hnext]
  · rw [hnext]
    have horder : Agenda.InOrder (e :: rest) := ha ▸ h.inOrder
    refine onward ⟨horder.tail, fun x hx => ?_⟩ (.perform _ _)
    have hmem := List.mem_cons_of_mem e hx
    exact Nat.max_le.2 ⟨h.ahead x (ha ▸ hmem), horder.le_of_head x hmem⟩

theorem nexts (h : Current s) (n : Nat) : Current (s.nexts n) :=
  nexts_induct (fun _ h => h.next) n s h

theorem yield (h : Current s) : Current s.yield := h.nexts _

section Steps

variable (h : Current s)
include h

theorem register (c : Collector) : Current (s.register c) := ⟨h.inOrder, h.ahead⟩

theorem planSides (sides : List (Nat × Side)) : Current (s.planSides sides) := by
  unfold Scenario.planSides
  refine ⟨inOrder_plan _ _ _ h.inOrder, fun e he => ?_⟩
  rw [plan_eq]
  rcases List.mem_append.1 ((perm_plan _ _ _).mem_iff.1 he) with he | he
  · obtain ⟨a, ha, rfl⟩ := List.mem_map.1 he
    obtain ⟨d, -, ha⟩ := List.mem_flatMap.1 ha
    obtain ⟨act, -, rfl⟩ := List.mem_map.1 ha
    exact Nat.le_add_right ..
  · exact h.ahead e he

theorem startAll : Current s.startAll.2 := of_passed (.startAll h.inOrder)

theorem waitAll (limit : Option Nat) : Current (s.waitAll limit).2 := by
  rcases Passed.waitAll h.inOrder limit with hpassed | heq
  · exact of_passed hpassed
  · exact heq ▸ h.yield

theorem stopAll : Current s.stopAll := of_passed (.stopAll h.inOrder)

theorem cancel : Current s.cancel := of_passed (.cancel h.inOrder)

theorem newToken : Current s.newToken := of_passed (.newToken h.inOrder)

end Steps

end Current

end ClusterCensus.Collector.Scenario
