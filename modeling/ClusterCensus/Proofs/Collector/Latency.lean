import ClusterCensus.Proofs.Collector.TimedStart
import ClusterCensus.Proofs.Collector.TimedStop

/-!
# How long starts and stops take

Between calls to a registry nothing is due (`passed_after`), so a start begins at once. Its workers
are the courses of the collectors' starts (`startWorkers_of_scripts`), and it lasts as long as the
slowest of them. Who stops the collectors waits for one after the other, so that the stops add up
(`stopsLast`).
-/

namespace ClusterCensus.Collector

namespace Launch

variable {ls : List Launch} {began : Nat}

theorem isSome_endsAt_workers : ∀ w ∈ TimedStart.workers ls began, w.endsAt.isSome := by
  intro w hw
  obtain ⟨l, -, rfl⟩ := List.mem_map.1 hw
  rfl

theorem closing_workers :
    Worker.closing began (TimedStart.workers ls began) = some (began + slowest ls) := by
  obtain ⟨t, ht, -⟩ := Worker.exists_closing (TimedStart.workers ls began) began
    isSome_endsAt_workers
  have hcome : ∀ u, t ≤ u ↔ began + slowest ls ≤ u := fun u => by
    rw [← hasCome_closing_workers, ht, Moment.hasCome_some]
  rw [ht, le_antisymm ((hcome _).2 le_rfl) ((hcome _).1 le_rfl)]

theorem dvd_slowest {k : Nat} (h : ∀ l ∈ ls, k ∣ l.lasts) : k ∣ slowest ls := by
  induction ls with
  | nil => exact Nat.dvd_zero k
  | cons l ls ih =>
    obtain ⟨hl, hls⟩ := List.forall_mem_cons.1 h
    have hcons : slowest (l :: ls) = max l.lasts (slowest ls) := rfl
    rw [hcons]
    rcases max_choice l.lasts (slowest ls) with hmax | hmax <;> rw [hmax]
    · exact hl
    · exact ih hls

end Launch

namespace Scenario

variable {s t : Scenario} {cs : List (String × Script)}

theorem yield_of_lt (h : ∀ e ∈ s.agenda, s.time < e.1.time) : s.yield = s := by
  have hnone : s.agenda.takeWhile (fun e => decide (e.1.time ≤ s.time)) = [] := by
    rcases ha : s.agenda with _ | ⟨e, rest⟩
    · rfl
    · have := h e (ha ▸ List.mem_cons_self)
      exact List.takeWhile_cons_of_neg (by simpa using this)
  rw [yield, hnone]
  rfl

theorem Passed.call (h : Passed s) (c : Call) : Passed (s.call c) := by
  cases c with
  | register c => exact .settle (s := s.register c) h.inOrder
  | startAll => exact .startAll h.inOrder
  | waitAll limit =>
    show Passed (s.waitAll limit).2
    rcases Passed.waitAll h.inOrder limit with hpassed | heq
    · exact hpassed
    · rwa [heq, yield_of_lt h.lt]
  | stopAll => exact .stopAll h.inOrder
  | cancel => exact .cancel h.inOrder
  | newToken => exact .newToken h.inOrder
  | sleep time => exact ⟨s, _, h.inOrder, rfl⟩

theorem passed_after (calls : List Call) : Passed (after calls) := by
  induction calls using List.reverseRecOn with
  | nil =>
    have hrun : empty.runWhile (isDue (wholeMillis 0)) = empty := by
      rw [runWhile, dif_neg]
      exact fun h => h.1 rfl
    exact ⟨empty, 0, .nil, by rw [passUntil, hrun]; rfl⟩
  | append_singleton calls c ih =>
    rw [after_concat]
    exact ih.call c

theorem wholeMillis_of_dvd {time : Nat} (h : 1000 ∣ time) : wholeMillis time = time := by
  unfold wholeMillis
  omega

/-- When nothing is due, a start begins at once. -/
theorem announced_of_lt (h : ∀ e ∈ s.agenda, s.time < e.1.time) :
    s.announced = s.log (startingLog s.members.length) := yield_of_lt (s := s.log _) h

theorem dvd_stopsLast {k : Nat} (h : ∀ c ∈ cs, k ∣ c.2.stopDelay) : k ∣ stopsLast cs := by
  induction cs with
  | nil => exact Nat.dvd_zero k
  | cons c cs ih =>
    obtain ⟨hc, hcs⟩ := List.forall_mem_cons.1 h
    exact Nat.dvd_add hc (ih hcs)

section Scripts

variable (h : AtRest s) (hscripts : s.members.map (·.collector) = ofScripts cs)
include hscripts

theorem length_scripts : s.members.length = cs.length := by
  have := congrArg List.length hscripts
  rwa [List.length_map, ofScripts, List.length_map] at this

theorem worker_start {m : Member} {i : Nat} (hm : s.members[i]? = some m) (now : Nat) :
    cs[i]?.map (fun c => (Launch.ofScript c).worker now) = some (m.start now).worker := by
  have hi := congrArg (·[i]?) hscripts
  simp only [ofScripts, List.getElem?_map, hm, Option.map_some] at hi
  obtain ⟨c, hc, hcollector⟩ := Option.map_eq_some_iff.1 hi.symm
  rw [hc, Option.map_some, Option.some.injEq]
  simp [Launch.ofScript, Launch.worker, Member.start, ← hcollector, Member.name]

include h

/-- The workers of a start are the courses of what the collectors' scripts say. -/
theorem startWorkers_of_scripts (hlater : ∀ e ∈ s.agenda, s.time < e.1.time) :
    s.startWorkers = TimedStart.workers (cs.map Launch.ofScript) s.time := by
  rw [startWorkers, starts_eq h, announced_of_lt hlater, List.map_map, TimedStart.workers,
    List.map_map]
  refine List.ext_getElem? fun i => ?_
  rw [List.getElem?_map, List.getElem?_map]
  show s.members[i]?.map _ = _
  rcases hm : s.members[i]? with _ | m
  · have hge := List.getElem?_eq_none_iff.1 hm
    rw [List.getElem?_eq_none (length_scripts hscripts ▸ hge)]
    rfl
  · exact (worker_start hscripts hm s.time).symm

/-- A start tells its failures in order, and is over when the slowest collector has started. -/
theorem startAll_of_scripts (hlater : ∀ e ∈ s.agenda, s.time < e.1.time) :
    (∃ names, Launch.FailInOrder s.time (cs.map Launch.ofScript) names
      ∧ s.startAll.1 = startResult names cs.length)
      ∧ s.startAll.2.time = wholeMillis (s.time + Launch.slowest (cs.map Launch.ofScript)) := by
  have hworkers := startWorkers_of_scripts h hscripts hlater
  have hlen := length_scripts hscripts
  refine ⟨⟨failedNames s.startNotices, ?_, hlen ▸ result_startAll s⟩, ?_⟩
  · rw [startNotices, Worker.notices_reports, hworkers]
    refine Launch.failInOrder_of_places ?_ pairwise_reports
    have hperm := Worker.places_reports s.isSome_endsAt_startWorkers
    rwa [s.length_startWorkers, hlen, hworkers, ← List.length_map Launch.ofScript] at hperm
  · unfold startAll
    split_ifs with hnone
    · obtain rfl : cs = [] := List.length_eq_zero_iff.1 (hlen.symm.trans hnone)
      rfl
    · have hannounced : s.announced.time = s.time := by
        rw [announced_of_lt hlater]
        rfl
      show wholeMillis s.startEnd = _
      rw [startEnd, hworkers, hannounced, Launch.closing_workers]
      rfl

omit h hscripts in
theorem sum_range_eq {n : Nat} (hn : n ≤ cs.length) :
    ((List.range n).map fun i => (cs[i]?.map (·.2.stopDelay)).getD 0).sum
      = stopsLast (cs.take n) := by
  refine congrArg List.sum (List.ext_getElem (by simp [hn]) fun i hi _ => ?_)
  rw [List.length_map, List.length_range] at hi
  simp [List.getElem?_eq_getElem (hi.trans_le hn)]

/-- Collectors are stopped one after the other, as their scripts say. -/
theorem stopAll_of_scripts (hcurrent : Current s) (hmark : s.started = true) :
    s.timedStops = (List.range cs.length).flatMap (fun i =>
        [(s.time + stopsLast (cs.take i), .called i),
          (s.time + stopsLast (cs.take (i + 1)), .returned i)])
      ∧ s.stopAll.stops = s.stops ++ s.timedStops.map (·.2)
      ∧ s.stopAll.time = wholeMillis (s.time + stopsLast cs) := by
  have hfollows : Follows (fun i => (cs[i]?.map (·.2.stopDelay)).getD 0)
      (s.members.map (·.collector)) := by
    rw [hscripts]
    intro i c hc
    rw [ofScripts, List.getElem?_map] at hc
    obtain ⟨c, hi, rfl⟩ := Option.map_eq_some_iff.1 hc
    exact ⟨c.2, rfl, by simp [hi]⟩
  obtain ⟨hstops, htime⟩ := timedStops_of_follows h hcurrent hmark hfollows
  rw [length_scripts hscripts, schedule_range] at hstops
  rw [length_scripts hscripts, sum_range_eq le_rfl, List.take_length] at htime
  have htimed : s.timedStops = (List.range cs.length).flatMap (fun i =>
      [(s.time + stopsLast (cs.take i), .called i),
        (s.time + stopsLast (cs.take (i + 1)), .returned i)]) := by
    rw [hstops]
    refine List.flatMap_congr fun i hi => ?_
    have hlt := List.mem_range.1 hi
    rw [sum_range_eq (Nat.le_of_lt hlt), sum_range_eq hlt]
  refine ⟨htimed, ?_, htime⟩
  rw [(stopAll_of_atRest h).stops_eq, if_pos hmark, length_scripts hscripts, htimed,
    List.map_flatMap]
  rfl

end Scripts

end Scenario

open Scenario (after registered ofScripts stopsLast wholeMillis)

/-- A start begun at a time calls all collectors then and lasts as long as the slowest of them: it
comes to its end, in whatever order things happen that can be done at one time, and those that fail
are named in the order in which it is told, crashes only when all before them have ended. So it does
in simulated time, where the clock goes by whole milliseconds. A stop that follows calls each
collector when the stops before it have lasted, and lasts as long as all of them together. -/
theorem start_and_stop_times :
    (∀ (ls : List Launch) (began : Nat) (started : Bool) (n : Nat) (x : TimedStart),
      TimedStart.Steps ls began n (.initial ls began started) x →
      n ≤ 6 * ls.length + 1 + Launch.slowest ls
      ∧ (x.start.result = none → ∃ y, TimedStart.Step ls began x y)
      ∧ (∀ c ∈ x.calledAt, c.2 = began)
      ∧ ∀ r, x.start.result = some r →
        x.time = began + Launch.slowest ls
        ∧ (x.calledAt.map (·.1)).Perm (List.range ls.length)
        ∧ ∃ names, Launch.FailInOrder began ls names ∧ r = startResult names ls.length)
    ∧ ∀ (calls : List Scenario.Call) (cs : List (String × Script)),
      registered calls = ofScripts cs →
      ((∃ names, Launch.FailInOrder (after calls).time (cs.map .ofScript) names
          ∧ (after calls).startAll.1 = startResult names cs.length)
        ∧ (after calls).startAll.2.time
          = wholeMillis ((after calls).time + Launch.slowest (cs.map .ofScript))
        ∧ (after calls).startAll.2.started = true)
      ∧ ((after calls).started = true →
        (after calls).timedStops = (List.range cs.length).flatMap (fun i =>
          [((after calls).time + stopsLast (cs.take i), .called i),
            ((after calls).time + stopsLast (cs.take (i + 1)), .returned i)])
        ∧ (after calls).stopAll.stops
          = (after calls).stops ++ (after calls).timedStops.map (·.2)
        ∧ (after calls).stopAll.time = wholeMillis ((after calls).time + stopsLast cs))
      ∧ ((∀ c ∈ cs, 1000 ∣ c.2.startDelay ∧ 1000 ∣ c.2.stopDelay) →
        wholeMillis ((after calls).time + Launch.slowest (cs.map .ofScript))
            = (after calls).time + Launch.slowest (cs.map .ofScript)
          ∧ wholeMillis ((after calls).time + stopsLast cs)
            = (after calls).time + stopsLast cs) := by
  refine ⟨fun ls began started n x hs => ?_, fun calls cs hcs => ?_⟩
  · rcases eq_or_ne ls [] with rfl | hsome
    · obtain ⟨rfl, rfl⟩ := TimedStart.eq_of_nobody hs
      refine ⟨Nat.zero_le _, nofun, nofun, fun r hr => ⟨rfl, .refl _, [], ?_, ?_⟩⟩
      · exact ⟨[], .refl _, .nil, rfl⟩
      · exact (Option.some.inj hr).symm
    · have h := (TimedStart.Paced.initial hsome began started).steps hs
      refine ⟨?_, fun hopen => TimedStart.exists_step hopen, h.prompt, fun r hr => h.closed hr⟩
      have hprogress := TimedStart.progress_steps hs
      have hle := h.sound.progress_le
      have htime := h.time_le
      rw [TimedStart.workers, List.length_map] at hle
      have hbegan : (TimedStart.initial ls began started).time = began := rfl
      omega
  · obtain ⟨hrest, hcollectors⟩ := Scenario.atRest_after calls
    have hpassed := Scenario.passed_after calls
    have hscripts := hcollectors.trans hcs
    obtain ⟨hresult, htime⟩ := Scenario.startAll_of_scripts hrest hscripts hpassed.lt
    refine ⟨⟨hresult, htime, (Scenario.startAll_of_atRest hrest).2.1⟩,
      Scenario.stopAll_of_scripts hrest hscripts (.of_passed hpassed), fun hwhole => ⟨?_, ?_⟩⟩
    · refine Scenario.wholeMillis_of_dvd (Nat.dvd_add hpassed.dvd_time (Launch.dvd_slowest ?_))
      exact List.forall_mem_map.2 fun c hc => (hwhole c hc).1
    · exact Scenario.wholeMillis_of_dvd
        (Nat.dvd_add hpassed.dvd_time (Scenario.dvd_stopsLast fun c hc => (hwhole c hc).2))

end ClusterCensus.Collector
