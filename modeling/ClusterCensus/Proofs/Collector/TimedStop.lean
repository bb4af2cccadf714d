import ClusterCensus.Collector.Timing
import ClusterCensus.Proofs.Collector.StopAccounting

/-!
# When collectors are stopped

Collectors that follow scripts are stopped one after the other, each as soon as the call before has
returned (`schedule`). A stop that sleeps is on the agenda for the time at which the call returns,
and nothing else on it makes a call (`timetable_next`). So the calls come when those before them
have taken their time (`timedStops_of_follows`).
-/

namespace ClusterCensus.Collector.Scenario

variable {s t : Scenario} {d : Nat → Nat}

/-- The calls that stop collectors, and their returns, when each takes its time. -/
def schedule (d : Nat → Nat) (time : Nat) : List Nat → List (Nat × StopMark)
  | [] => []
  | i :: rest => (time, .called i) :: (time + d i, .returned i) :: schedule d (time + d i) rest

/-- Whether all collectors follow scripts by which their stops take the given times. -/
def Follows (d : Nat → Nat) (cs : List Collector) : Prop :=
  ∀ i c, cs[i]? = some c → ∃ script, c.behaviour = .scripted script ∧ script.stopDelay = d i

/-- How far a stop is when some calls and returns are still to come and it is over at a time. -/
inductive Timetable (d : Nat → Nat) (s : Scenario) : List (Nat × StopMark) → Nat → Prop where
  | ended (quiet : ∀ e ∈ s.agenda, e.2.isQuiet = true) : Timetable d s [] s.time
  | asleep {i wakes : Nat} {rest : List Nat}
    (acts : ∀ e ∈ s.agenda, e.2.isQuiet = true
      ∨ e = (⟨wakes, .first⟩, .resume ⟨.step, i, false, rest⟩))
    (one : s.agenda.countP (fun e => !e.2.isQuiet) = 1)
    (registered : ∀ j ∈ rest, j < s.members.length) :
    Timetable d s ((wakes, .returned i) :: schedule d wakes rest) (wakes + (rest.map d).sum)

theorem proceed_scripted {i : Nat} {rest : List Nat} {m : Member} {script : Script}
    (hm : s.members[i]? = some m) (hb : m.collector.behaviour = .scripted script) :
    proceed .step (i :: rest) s =
      if script.stopDelay = 0 then proceed .step rest (((s.callStop i).see i .stop).stopReturns i)
      else ((s.callStop i).see i .stop).put ⟨s.time + script.stopDelay, .first⟩
        (.resume ⟨.step, i, false, rest⟩) := by
  have hm' : (s.callStop i).members[i]? = some m := hm
  simp only [proceed, hm', hb]
  rfl

/-- A call to stop that returns at once. -/
theorem exists_returned (s : Scenario) (i : Nat) : ∃ seen logs,
    ((s.callStop i).see i .stop).stopReturns i
      = { s with seen, logs, stops := s.stops ++ [.called i, .returned i] } := by
  refine ⟨(((s.callStop i).see i .stop).stopReturns i).seen,
    (((s.callStop i).see i .stop).stopReturns i).logs, ?_⟩
  simp only [stopReturns, see, callStop, log, List.append_assoc]
  rfl

/-- A stop that goes on calls whom it can, and keeps to its timetable. -/
theorem proceed_timetable : ∀ (rest : List Nat) (s : Scenario),
    Follows d (s.members.map (·.collector)) → (∀ i ∈ rest, i < s.members.length) →
    (∀ e ∈ s.agenda, e.2.isQuiet = true) →
    ∃ marks todo, (proceed .step rest s).stops = s.stops ++ marks
      ∧ (proceed .step rest s).members = s.members
      ∧ (proceed .step rest s).waiting = s.waiting
      ∧ (proceed .step rest s).time = s.time
      ∧ schedule d s.time rest = marks.map (fun mark => (s.time, mark)) ++ todo
      ∧ Timetable d (proceed .step rest s) todo (s.time + (rest.map d).sum)
  | [], s, _, _, hquiet => by
    exact ⟨[], [], (List.append_nil _).symm, rfl, rfl, rfl, rfl, .ended hquiet⟩
  | i :: rest, s, hfollows, hregistered, hquiet => by
    have hlt := hregistered i List.mem_cons_self
    have hrest : ∀ j ∈ rest, j < s.members.length := fun j hj =>
      hregistered j (List.mem_cons_of_mem _ hj)
    have hm : s.members[i]? = some s.members[i] := List.getElem?_eq_getElem hlt
    obtain ⟨script, hb, hd⟩ := hfollows i s.members[i].collector (by simp [hm])
    rw [proceed_scripted hm hb, hd]
    split_ifs with hnow
    · obtain ⟨seen, logs, hreturned⟩ := exists_returned s i
      rw [hreturned]
      obtain ⟨marks, todo, hstops, hmembers, hwaiting, htime, hschedule, htable⟩ :=
        proceed_timetable rest { s with
          seen, logs, stops := s.stops ++ [.called i, .returned i] } hfollows hrest hquiet
      refine ⟨.called i :: .returned i :: marks, todo, ?_, hmembers, hwaiting, htime, ?_, ?_⟩
      · rw [hstops, List.append_assoc]
        rfl
      · rw [schedule, hnow, Nat.add_zero, hschedule]
        rfl
      · rw [List.map_cons, List.sum_cons, hnow, Nat.zero_add]
        exact htable
    · have hperm := Agenda.perm_insert ⟨s.time + d i, .first⟩ (.resume ⟨.step, i, false, rest⟩)
        s.agenda
      refine ⟨[.called i], _, rfl, rfl, rfl, rfl, rfl, ?_⟩
      rw [List.map_cons, List.sum_cons, ← Nat.add_assoc]
      refine .asleep (fun e he => ?_) ?_ hrest
      · rcases List.mem_cons.1 (hperm.mem_iff.1 he) with rfl | he
        · exact .inr rfl
        · exact .inl (hquiet e he)
      · exact countP_put (s := (s.callStop i).see i .stop) hquiet _ rfl

theorem not_stopping_of_quiet (hquiet : ∀ e ∈ s.agenda, e.2.isQuiet = true)
    (hwaiting : s.waiting = []) : ¬ isStopping s = true := by
  simp only [isStopping, hwaiting, List.any_nil, Bool.false_or, List.any_eq_true, not_exists,
    not_and]
  rintro ⟨slot, a⟩ he
  have hact := hquiet _ he
  cases a <;> simp_all [Act.isQuiet]

/-- Before the time at which a call to stop returns, nothing that comes has to do with the stop. -/
theorem timetable_quiet {i wakes : Nat} {rest : List Nat} {a : Act}
    (acts : ∀ e ∈ s.agenda, e.2.isQuiet = true
      ∨ e = (⟨wakes, .first⟩, .resume ⟨.step, i, false, rest⟩))
    (one : s.agenda.countP (fun e => !e.2.isQuiet) = 1)
    (registered : ∀ j ∈ rest, j < s.members.length) (hquiet : a.isQuiet = true)
    (hwaiting : s.waiting = []) :
    Timetable d (s.perform a) ((wakes, .returned i) :: schedule d wakes rest)
        (wakes + (rest.map d).sum)
      ∧ (s.perform a).stops = s.stops ∧ (s.perform a).waiting = []
      ∧ (s.perform a).members.map (·.collector) = s.members.map (·.collector) := by
  obtain ⟨haside, hmembers⟩ := aside_of_quiet hquiet hwaiting
  have hcollectors : (s.perform a).members.map (·.collector) = s.members.map (·.collector) := by
    rw [hmembers]
    exact Act.map_ripen ..
  have hlen := congrArg List.length hcollectors
  rw [List.length_map, List.length_map] at hlen
  refine ⟨.asleep ?_ ?_ (hlen ▸ registered), haside.stops_eq, haside.waiting_eq.trans hwaiting,
    hcollectors⟩
  · rw [haside.agenda_eq]
    exact acts
  · rw [haside.agenda_eq]
    exact one

/-- When a call to stop returns at its time, those after it are called as far as they can be. -/
theorem timetable_resume {i wakes : Nat} {rest : List Nat} {a : Act}
    (hact : a = .resume ⟨.step, i, false, rest⟩)
    (hfollows : Follows d (s.members.map (·.collector)))
    (registered : ∀ j ∈ rest, j < s.members.length)
    (hquiet : ∀ e ∈ s.agenda, e.2.isQuiet = true) (htime : s.time = wakes) :
    ∃ marks later, (s.perform a).stops = s.stops ++ .returned i :: marks
      ∧ (s.perform a).members = s.members
      ∧ (s.perform a).waiting = s.waiting
      ∧ (s.perform a).time = wakes
      ∧ schedule d wakes rest = marks.map (fun mark => (wakes, mark)) ++ later
      ∧ Timetable d (s.perform a) later (wakes + (rest.map d).sum) := by
  subst hact htime
  have hperform : s.perform (.resume ⟨.step, i, false, rest⟩)
      = proceed .step rest (s.stopReturns i) := rfl
  obtain ⟨marks, later, hstops, hmembers, hwaiting, htime, hschedule, htable⟩ :=
    proceed_timetable rest (s.stopReturns i) hfollows registered hquiet
  rw [hperform]
  refine ⟨marks, later, ?_, hmembers, hwaiting, htime, hschedule, htable⟩
  rw [hstops]
  simp [stopReturns, see]

/-- What comes next keeps to the timetable of a stop that is under way. -/
theorem timetable_next {todo : List (Nat × StopMark)} {ends : Nat} (h : Timetable d s todo ends)
    (hfollows : Follows d (s.members.map (·.collector))) (hwaiting : s.waiting = [])
    (hcurrent : Current s) (hgo : isStopping s = true) :
    ∃ later, todo = newStops s s.next ++ later ∧ Timetable d s.next later ends
      ∧ Follows d (s.next.members.map (·.collector)) ∧ s.next.waiting = [] := by
  cases h with
  | ended quiet => exact absurd hgo (not_stopping_of_quiet quiet hwaiting)
  | @asleep i wakes rest acts one registered =>
    rcases next_cases s with ⟨hnil, -⟩ | ⟨e, others, ha, hnext⟩
    · simp [hnil] at one
    have hhead : e ∈ s.agenda := ha ▸ List.mem_cons_self
    let passed : Scenario := { s with agenda := others, time := max s.time e.1.time }
    rw [hnext]
    rw [ha, List.countP_cons] at one
    rcases acts e hhead with hquiet | hresume
    · have hothers : ∀ x ∈ passed.agenda, x.2.isQuiet = true
          ∨ x = (⟨wakes, .first⟩, .resume ⟨.step, i, false, rest⟩) := fun x hx =>
        acts x (ha ▸ List.mem_cons_of_mem _ hx)
      obtain ⟨htable, hstops, hwait, hcollectors⟩ := timetable_quiet (s := passed) (d := d) hothers
        (by simpa [hquiet] using one) registered hquiet hwaiting
      refine ⟨_, ?_, htable, hcollectors ▸ hfollows, hwait⟩
      have hnone : (passed.perform e.2).stops.drop s.stops.length = [] := by
        rw [hstops]
        exact List.drop_length
      rw [newStops, hnone]
      rfl
    · have hquiet : ∀ x ∈ passed.agenda, x.2.isQuiet = true := by
        have hnone : others.countP (fun e => !e.2.isQuiet) = 0 := by
          simpa [hresume, Act.isQuiet] using one
        intro x hx
        simpa using List.countP_eq_zero.1 hnone x hx
      have htime : passed.time = wakes := by
        have hlater := hcurrent.ahead e hhead
        rw [hresume] at hlater
        show max s.time e.1.time = wakes
        rw [hresume]
        exact max_eq_right hlater
      obtain ⟨marks, later, hstops, hmembers, hwait, hsame, hschedule, htable⟩ :=
        timetable_resume (s := passed) (congrArg Prod.snd hresume) hfollows registered hquiet htime
      refine ⟨later, ?_, htable, ?_, hwait.trans hwaiting⟩
      · have hnew : (passed.perform e.2).stops.drop s.stops.length = .returned i :: marks := by
          rw [hstops]
          exact List.drop_left
        rw [newStops, hnew, hsame, hschedule]
        rfl
      · rw [hmembers]
        exact hfollows

/-- A stop that goes on is over when its timetable says so, and made its calls by it. -/
theorem stopsWhile_of_timetable {todo : List (Nat × StopMark)} {ends : Nat}
    (h : Timetable d s todo ends) (hfollows : Follows d (s.members.map (·.collector)))
    (hwaiting : s.waiting = []) (hcurrent : Current s) :
    s.stopsWhile isStopping = todo ∧ (s.runWhile isStopping).time = ends := by
  fun_induction stopsWhile isStopping s generalizing todo ends with
  | case1 s hgo ih =>
    obtain ⟨later, rfl, hlater, hfollows', hwaiting'⟩ :=
      timetable_next h hfollows hwaiting hcurrent hgo.2
    obtain ⟨hstops, htime⟩ := ih hlater hfollows' hwaiting' hcurrent.next
    rw [runWhile, dif_pos hgo, hstops]
    exact ⟨rfl, htime⟩
  | case2 s hend =>
    rw [runWhile, dif_neg hend]
    cases h with
    | ended => exact ⟨rfl, rfl⟩
    | asleep acts one =>
      obtain ⟨e, he, hloud⟩ := List.countP_pos_iff.1 (one ▸ Nat.zero_lt_one)
      have hresume := (acts e he).resolve_left (by simpa using hloud)
      have hstopping := isStopping_of_resume he (congrArg Prod.snd hresume) rfl
      exact absurd ⟨List.ne_nil_of_mem he, hstopping⟩ hend

theorem schedule_concat (i : Nat) : ∀ (time : Nat) (l : List Nat),
    schedule d time (l ++ [i]) = schedule d time l
      ++ [(time + (l.map d).sum, .called i), (time + (l.map d).sum + d i, .returned i)]
  | time, [] => rfl
  | time, j :: l => by
    rw [List.cons_append, schedule, schedule_concat i (time + d j) l, schedule, List.map_cons,
      List.sum_cons, ← Nat.add_assoc]
    rfl

theorem schedule_range (time : Nat) : ∀ n, schedule d time (List.range n)
    = (List.range n).flatMap fun i =>
      [(time + ((List.range i).map d).sum, .called i),
        (time + ((List.range (i + 1)).map d).sum, .returned i)]
  | 0 => rfl
  | n + 1 => by
    rw [List.range_succ, schedule_concat, schedule_range time n, List.flatMap_append,
      List.flatMap_singleton, List.range_succ, List.map_append, List.sum_append, Nat.add_assoc]
    simp

/-- Collectors are stopped one after the other, each when the stops before it have lasted. -/
theorem timedStops_of_follows (h : AtRest s) (hcurrent : Current s) (hmark : s.started = true)
    (hfollows : Follows d (s.members.map (·.collector))) :
    s.timedStops = schedule d s.time (List.range s.members.length)
      ∧ s.stopAll.time
        = wholeMillis (s.time + ((List.range s.members.length).map d).sum) := by
  have hbegin : s.beginStop .step
      = proceed .step (List.range s.members.length) { s with started := false } := if_pos hmark
  obtain ⟨marks, todo, hstops, hmembers, hwaiting, htime, hschedule, htable⟩ :=
    proceed_timetable (List.range s.members.length) { s with started := false } hfollows
      (fun i hi => List.mem_range.1 hi) h.quiet
  rw [← hbegin] at hstops hmembers hwaiting htime htable
  have hbegun : Current (s.beginStop .step) := hcurrent.onward (.beginStop s .step)
  obtain ⟨hrun, hends⟩ := stopsWhile_of_timetable htable (hmembers ▸ hfollows)
    (hwaiting.trans h.waiting) hbegun
  have hnew : newStops s (s.beginStop .step) = marks.map fun mark => (s.time, mark) := by
    rw [newStops, hstops, htime]
    show ((s.stops ++ marks).drop s.stops.length).map _ = _
    rw [List.drop_left]
  refine ⟨?_, congrArg wholeMillis hends⟩
  rw [timedStops, hrun, hnew]
  exact hschedule.symm

end ClusterCensus.Collector.Scenario
