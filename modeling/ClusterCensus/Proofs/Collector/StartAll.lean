import ClusterCensus.Proofs.Collector.Outcome
import ClusterCensus.Proofs.Collector.Reports
import ClusterCensus.Proofs.Collector.Scenario
import ClusterCensus.Proofs.Collector.Starting

/-!
# Starting all collectors

However the moves of a start follow each other, it comes to its end, has called every collector
once and received one outcome of each, and its result and its records of errors follow from how the
collectors ended. In simulated time all collectors that are registered are started
(`names_startWorkers`), and their start is one of those: its result is that of a course of moves
(`result_startAll`), and so are its records of errors, if nothing on the agenda interferes
(`startAll_of_undisturbed`).
-/

namespace ClusterCensus.Collector

namespace Scenario

variable {s : Scenario}

theorem collectors_perform (s : Scenario) (e : Slot × Act) :
    s.members.map (·.collector) <+: (s.perform e.2).members.map (·.collector) := by
  rcases hn : isNoted e with _ | _
  · exact (Calm.perform s hn).collectors
  · obtain ⟨slot, a⟩ := e
    cases a with
    | log r => exact List.prefix_rfl
    | markStarted => exact List.prefix_rfl
    | stopAll =>
      simp only [perform, beginStop]
      split_ifs
      · exact (Calm.of_minor (.proceed .side _ { s with started := false })).collectors
      · exact List.prefix_rfl
    | _ => cases hn

theorem collectors_next (s : Scenario) :
    s.members.map (·.collector) <+: s.next.members.map (·.collector) := by
  rcases next_cases s with ⟨-, hnext⟩ | ⟨e, rest, -, hnext⟩
  · exact hnext.symm ▸ List.prefix_rfl
  · rw [hnext]
    exact collectors_perform { s with agenda := rest, time := max s.time e.1.time } e

theorem collectors_nexts : ∀ (n : Nat) (s : Scenario),
    s.members.map (·.collector) <+: (s.nexts n).members.map (·.collector)
  | 0, _ => List.prefix_rfl
  | n + 1, s => (collectors_next s).trans (collectors_nexts n s.next)

/-- The collectors that are registered before some of the agenda happens come first afterwards. -/
theorem collectors_take (n : Nat) (s : Scenario) :
    ((s.nexts n).members.take s.members.length).map (·.collector)
      = s.members.map (·.collector) := by
  rw [List.map_take, ← List.length_map (·.collector),
    ← List.prefix_iff_eq_take.1 (collectors_nexts n s)]

/-- The collectors that are registered when a start is called for are those that it starts. -/
theorem collectors_announced (s : Scenario) :
    (s.announced.members.take s.members.length).map (·.collector)
      = s.members.map (·.collector) :=
  collectors_take _ (s.log _)

theorem name_start (m : Member) (now : Nat) : (m.start now).worker.name = m.name := by
  unfold Member.start
  split
  · rfl
  · split <;> rfl

theorem isSome_endsAt_start (m : Member) (now : Nat) : (m.start now).worker.endsAt.isSome := by
  unfold Member.start
  split
  · rfl
  · split <;> rfl

theorem names_startWorkers (s : Scenario) :
    s.startWorkers.map (·.name) = s.members.map (·.name) := by
  have h := congrArg (List.map (·.name)) (collectors_announced s)
  rw [List.map_map, List.map_map] at h
  simpa only [startWorkers, starts, List.map_map, Function.comp_def, name_start, Member.name]
    using h

theorem length_startWorkers (s : Scenario) : s.startWorkers.length = s.members.length := by
  have h := congrArg List.length (names_startWorkers s)
  rwa [List.length_map, List.length_map] at h

theorem isSome_endsAt_startWorkers (s : Scenario) :
    ∀ w ∈ s.startWorkers, w.endsAt.isSome := by
  intro w hw
  obtain ⟨st, hst, rfl⟩ := List.mem_map.1 hw
  obtain ⟨m, -, rfl⟩ := List.mem_map.1 hst
  exact isSome_endsAt_start m _

theorem startNotices_of_nobody (h : s.members.length = 0) : s.startNotices = [] := by
  have hnil : s.startWorkers = [] := List.length_eq_zero_iff.1 ((length_startWorkers s).trans h)
  rw [startNotices, hnil, Worker.reports_nil]
  rfl

theorem result_startAll (s : Scenario) :
    s.startAll.1 = startResult (failedNames s.startNotices) s.members.length := by
  unfold startAll
  split_ifs with h
  · rw [startNotices_of_nobody h, h]
    rfl
  · rfl

/-- Nothing on the agenda interferes with a start: nobody stops the collectors meanwhile, and no
record is still to be made. -/
structure Undisturbed (s : Scenario) : Prop where
  inOrder : s.agenda.InOrder
  quiet : s.noted = []

namespace Undisturbed

variable {t : Scenario}

theorem of_calm (h : Undisturbed s) (hc : Calm s t) : Undisturbed t :=
  ⟨hc.inOrder h.inOrder, hc.noted_eq.trans h.quiet⟩

theorem calm_next (h : Undisturbed s) : Calm s s.next := by
  rcases next_cases s with ⟨-, hnext⟩ | ⟨⟨slot, a⟩, rest, ha, hnext⟩
  · rw [hnext]
    exact .refl s
  · have hn : isNoted (slot, a) = false := by
      have := List.filter_eq_nil_iff.1 h.quiet (slot, a) (by simp [ha])
      simpa using this
    have hsame : Calm s { s with agenda := rest, time := max s.time slot.time } := by
      refine ⟨rfl, rfl, ?_, fun ho => ?_, List.prefix_rfl⟩
      · rw [noted, noted, ha, List.filter_cons_of_neg (by simp [hn])]
      · exact (ha ▸ ho : Agenda.InOrder (_ :: rest)).tail
    rw [hnext]
    exact hsame.trans (.perform _ hn)

theorem calm_nexts : ∀ (n : Nat) {s : Scenario}, Undisturbed s → Calm s (s.nexts n)
  | 0, s, _ => .refl s
  | n + 1, _, h => h.calm_next.trans (calm_nexts n (h.of_calm h.calm_next))

theorem calm_announced (h : Undisturbed s) : Calm s s.announced := by
  have hlog : Calm s (s.log (startingLog s.members.length)) := .log s fun h => by cases h
  exact hlog.trans (calm_nexts _ (h.of_calm hlog))

end Undisturbed

theorem calm_plan (s : Scenario) (turn : Turn) {acts : List (Nat × Act)}
    (h : ∀ a ∈ acts, ∀ slot, isNoted (slot, a.2) = false) : Calm s (s.plan turn acts) :=
  rel_foldl acts (fun a ha s => .put s _ (h a ha _)) s

theorem calm_launch (s : Scenario) {acts : List (Nat × Act)}
    (h : ∀ a ∈ acts, ∀ slot, isNoted (slot, a.2) = false) : Calm s (s.launch acts) := by
  have hfilter : ∀ {p : Nat × Act → Bool}, ∀ a ∈ acts.filter p, ∀ slot,
      isNoted (slot, a.2) = false := fun a ha => h a (List.mem_filter.1 ha).1
  unfold launch
  refine .trans (rel_foldl _ (fun a ha s => ?_) s) (calm_plan _ _ hfilter)
  exact .perform s (hfilter a ha ⟨0, .usual⟩)

/-- What matters to a start is put on the agenda, and nothing else changes. -/
theorem plan_noted (turn : Turn) (acts : List (Nat × Act)) (s : Scenario)
    (h : ∀ a ∈ acts, ∀ slot, isNoted (slot, a.2) = true) :
    (s.plan turn acts).noted.Perm (acts.map (fun a => (⟨a.1, turn⟩, a.2)) ++ s.noted)
      ∧ (s.agenda.InOrder → (s.plan turn acts).agenda.InOrder)
      ∧ (s.plan turn acts).logs = s.logs := by
  refine ⟨?_, inOrder_plan turn acts s, by rw [plan_eq]⟩
  have hall : (acts.map fun a => ((⟨a.1, turn⟩, a.2) : Slot × Act)).filter isNoted
      = acts.map fun a => (⟨a.1, turn⟩, a.2) := by
    refine List.filter_eq_self.2 fun e he => ?_
    obtain ⟨a, ha, rfl⟩ := List.mem_map.1 he
    exact h a ha _
  have hperm := (perm_plan turn acts s).filter isNoted
  rwa [List.filter_append, hall] at hperm

theorem collector_start (m : Member) (now : Nat) :
    (m.start now).member.collector = m.collector := by
  unfold Member.start
  split
  · rfl
  · split <;> rfl

/-- The scenario when the collectors are being started, but nothing came of it yet. -/
theorem calm_members (s : Scenario) : Calm s.announced { s.announced with
    members := s.starts.map (·.member) ++ s.announced.members.drop s.members.length } := by
  have h : (s.starts.map (·.member)).map (·.collector)
      = (s.announced.members.take s.members.length).map (·.collector) := by
    simp only [starts, List.map_map, Function.comp_def, collector_start]
  have hall : (s.starts.map (·.member) ++ s.announced.members.drop s.members.length).map
      (·.collector) = s.announced.members.map (·.collector) := by
    rw [List.map_append, h, ← List.map_append, List.take_append_drop]
  exact ⟨rfl, rfl, rfl, id, hall.symm ▸ List.prefix_rfl⟩

/-- The last entries that a start puts on the agenda. -/
def closingActs (s : Scenario) : List (Nat × Act) :=
  logActs s.startLogs ++ [(s.startEnd, .markStarted)]

/-- What comes of a start, its records and its end apart, is calm. -/
theorem exists_begun (h : Undisturbed s) : ∃ begun, Calm s begun
    ∧ s.beginStart = begun.plan .last s.closingActs := by
  let deeds := s.starts.zipIdx.flatMap fun st => deedActs st.2 st.1.deeds
  let loads := s.starts.zipIdx.filterMap fun st => st.1.loads.map fun t => (t, Act.load st.2)
  have hdeeds : ∀ a ∈ deeds, ∀ slot, isNoted (slot, a.2) = false := by
    intro a ha slot
    obtain ⟨st, -, ha⟩ := List.mem_flatMap.1 ha
    obtain ⟨d, -, rfl⟩ := List.mem_map.1 ha
    rfl
  have hloads : ∀ a ∈ loads, ∀ slot, isNoted (slot, a.2) = false := by
    intro a ha slot
    obtain ⟨st, -, ha⟩ := List.mem_filterMap.1 ha
    obtain ⟨t, -, rfl⟩ := Option.map_eq_some_iff.1 ha
    rfl
  refine ⟨_, ?_, rfl⟩
  calc Calm s s.announced := h.calm_announced
    Calm _ { s.announced with
      members := s.starts.map (·.member) ++ s.announced.members.drop s.members.length } :=
        calm_members s
    Calm _ (launch _ deeds) := calm_launch _ hdeeds
    Calm _ (plan _ .usual loads) := calm_plan _ _ hloads

theorem time_startLogs_le (s : Scenario) : ∀ l ∈ s.startLogs, l.1 ≤ s.startEnd := by
  obtain ⟨t, ht, hall⟩ :=
    Worker.exists_closing_reports (isSome_endsAt_startWorkers s) s.announced.time
  have hend : s.startEnd = t := by rw [startEnd, ht]; rfl
  intro l hl
  rcases List.mem_append.1 hl with hl | hl
  · obtain ⟨r, hr, rfl⟩ := List.mem_map.1 hl
    exact hend ▸ hall r hr
  · obtain ⟨r, -, rfl⟩ := List.mem_map.1 hl
    exact le_rfl

theorem errors_startLogs (s : Scenario) :
    errors (s.startLogs.map (·.2)) = errors (s.startNotices.map startLog) := by
  rw [startLogs, List.map_append, errors_append, List.map_map, List.map_map]
  have hend := errors_startedLogs (failedNames s.startNotices) s.members.length
  simpa [Function.comp_def, startNotices, errors] using hend

theorem mem_closingActs {a : Nat × Act} (h : a ∈ s.closingActs) :
    a.1 ≤ s.startEnd ∧ ((∃ r, a.2 = .log r) ∨ a.2 = .markStarted) := by
  rcases List.mem_append.1 h with h | h
  · obtain ⟨l, hl, rfl⟩ := List.mem_map.1 h
    exact ⟨time_startLogs_le s l hl, .inl ⟨l.2, rfl⟩⟩
  · cases List.mem_singleton.1 h
    exact ⟨le_rfl, .inr rfl⟩

theorem recorded_closingActs (s : Scenario) (turn : Turn) :
    recorded (s.closingActs.map fun a => (⟨a.1, turn⟩, a.2)) = s.startLogs.map (·.2) := by
  simp [recorded, closingActs, logActs, List.filterMap_map, Function.comp_def,
    List.filterMap_eq_map']

theorem ahead_beginStart (h : Undisturbed s) : Ahead s.startEnd s.beginStart
    ∧ s.beginStart.allErrors.Perm (errors s.logs ++ errors (s.startNotices.map startLog)) := by
  obtain ⟨begun, hcalm, hbegin⟩ := exists_begun h
  have hquiet := h.of_calm hcalm
  have hacts : ∀ a ∈ s.closingActs, ∀ slot, isNoted (slot, a.2) = true := fun a ha slot => by
    rcases (mem_closingActs ha).2 with ⟨r, hr⟩ | hr <;> rw [hr] <;> rfl
  obtain ⟨hnoted, horder, hlogs⟩ := plan_noted .last s.closingActs begun hacts
  rw [← hbegin, hquiet.quiet, List.append_nil] at hnoted
  rw [← hbegin] at horder hlogs
  refine ⟨⟨horder hquiet.inOrder, fun e he => ?_, .inr ?_⟩, ?_⟩
  · obtain ⟨a, ha, rfl⟩ := List.mem_map.1 (hnoted.mem_iff.1 he)
    obtain ⟨hle, hact⟩ := mem_closingActs ha
    refine ⟨hle, ?_⟩
    rcases hact with ⟨r, hr⟩ | hr <;> rw [hr] <;> nofun
  · refine ⟨(⟨s.startEnd, .last⟩, .markStarted), hnoted.mem_iff.2 ?_, rfl⟩
    simp [closingActs]
  · have hrecorded : (recorded s.beginStart.noted).Perm (s.startLogs.map (·.2)) :=
      recorded_closingActs s .last ▸ hnoted.filterMap _
    rw [allErrors, errors_append, hlogs, hcalm.errors_eq, ← errors_startLogs]
    exact (hrecorded.filter _).append_left _

/-- When a start is over, its errors are on record and the collectors count as started. -/
theorem startAll_of_undisturbed (h : Undisturbed s) : s.startAll.2.started = true
    ∧ (errors s.startAll.2.logs).Perm
      (errors s.logs ++ errors (s.startNotices.map startLog)) := by
  unfold startAll
  split_ifs with hnone
  · have hquiet : ({ s with started := true } : Scenario).noted = [] := h.quiet
    have hs : Ahead s.time { s with started := true } :=
      ⟨h.inOrder, by rw [hquiet]; simp, .inl rfl⟩
    obtain ⟨hstarted, herrors⟩ := hs.passUntil
    refine ⟨hstarted, .of_eq (herrors.trans ?_)⟩
    rw [allErrors, hquiet, startNotices_of_nobody hnone]
    simp [recorded, errors]
  · obtain ⟨hahead, hperm⟩ := ahead_beginStart h
    obtain ⟨hstarted, herrors⟩ := hahead.passUntil
    exact ⟨hstarted, herrors ▸ hperm⟩

end Scenario

open Starting

/-- Every course of moves is bounded and goes on to the end of the start. There every collector was
called once, every outcome was received once, the failures decide the result, each of them has one
record of an error that names its collector, and the collectors count as started. A start in
simulated time is one of all registered collectors, and comes to what such a course comes to. -/
theorem start_loses_no_outcome :
    (∀ (ws : List Worker) (started : Bool) (n : Nat) (x : Starting),
      Moves ws n (.initial ws started) x →
        n ≤ 6 * ws.length + 1
          ∧ (x.result = none → ∃ y, Move ws x y)
          ∧ ∀ r, x.result = some r → (∀ y, ¬ Move ws x y)
            ∧ x.calls.Perm (List.range ws.length)
            ∧ x.received.Perm (ws.map (·.notice))
            ∧ Classified ws r
            ∧ (namedInErrors x.logs).Perm ((failing ws).map fun w => some (.text w.name))
            ∧ x.started = true)
      ∧ ∀ s : Scenario, s.startWorkers.map (·.name) = s.members.map (·.name)
        ∧ ∃ n x, Moves s.startWorkers n (.initial s.startWorkers s.started) x
          ∧ x.received = s.startNotices ∧ x.result = some s.startAll.1
          ∧ (s.Undisturbed → s.startAll.2.started = true
            ∧ (errors s.startAll.2.logs).Perm (errors s.logs ++ errors x.logs)) := by
  refine ⟨fun ws started n x hm => ?_, fun s => ⟨s.names_startWorkers, ?_⟩⟩
  · have h := (Sound.initial ws started).moves hm
    refine ⟨moves_le hm, h.exists_move, fun r hr => ?_⟩
    have hreceived := h.received_perm hr
    obtain ⟨hresult, hstarted, -, -⟩ := h.closed r hr
    refine ⟨fun y => h.not_move_of_closed hr, h.calls_perm hr, hreceived, ?_, ?_, hstarted⟩
    · exact hresult ▸ classified_startResult hreceived
    · rw [namedInErrors, h.errors_eq]
      exact namedInErrors_perm hreceived
  · have hends := s.isSome_endsAt_startWorkers
    obtain ⟨n, x, hm, hreceived, hresult⟩ := exists_moves s.started (Worker.inOrder_reports hends)
    rw [← Worker.notices_reports] at hreceived
    rw [hreceived, s.length_startWorkers] at hresult
    refine ⟨n, x, hm, hreceived, hresult.trans (congrArg some s.result_startAll.symm), fun h => ?_⟩
    rw [((Sound.initial _ _).moves hm).errors_eq, hreceived]
    exact Scenario.startAll_of_undisturbed h

end ClusterCensus.Collector
