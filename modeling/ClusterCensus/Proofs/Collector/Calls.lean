import ClusterCensus.Proofs.Collector.StartAll
import ClusterCensus.Proofs.Collector.Stopping

/-!
# Calls to a registry

Between calls a registry is at rest (`AtRest`): nothing is to come that stops anybody. A call leaves
it at rest again and does to the mark of a start, to the collectors and to the calls that stopped
them just what it says (`call_of_atRest`): only a start sets the mark, whatever its result is, only
a stop of all collectors takes it away, and only one that finds it stops them, each once.
-/

namespace ClusterCensus.Collector

/-- Whether a collector follows a script, so that it is seen being started. -/
def isScripted (c : Collector) : Bool :=
  match c.behaviour with
  | .scripted _ => true
  | .loader .. => false

namespace Scenario

variable {s t : Scenario}

/-- Nothing is to come but quiet acts, and every call to stop that returned was seen to. -/
structure AtRest (s : Scenario) : Prop where
  inOrder : s.agenda.InOrder
  quiet : ∀ e ∈ s.agenda, e.2.isQuiet = true
  waiting : s.waiting = []
  loads : Loads s
  tied : s.seen.filterMap Seen.stopped? = s.stops.filterMap StopMark.returned?

theorem AtRest.tame (h : AtRest s) : Tame s :=
  ⟨h.inOrder, fun e he => .inl (h.quiet e he), h.waiting, h.loads⟩

theorem willStart_iff (h : ∀ e ∈ s.agenda, e.2.isQuiet = true) :
    WillStart s ↔ s.started = true := by
  refine ⟨fun hw => hw.resolve_right ?_, .inl⟩
  rintro ⟨e, he, hmark⟩
  simpa [hmark, Act.isQuiet] using h e he

theorem AtRest.goes (h : AtRest s) (hg : Goes s t) : AtRest t ∧ t.started = s.started := by
  have hquiet : ∀ e ∈ t.agenda, e.2.isQuiet = true := fun e he => h.quiet e (hg.suffix.subset he)
  refine ⟨⟨hg.tame.inOrder, hquiet, hg.tame.waiting, hg.tame.loads, ?_⟩, ?_⟩
  · rw [hg.stopped_eq, hg.stops_eq, h.tied]
  · refine Bool.eq_iff_iff.2 ?_
    calc t.started = true ↔ WillStart t := (willStart_iff hquiet).symm
      _ ↔ WillStart s := hg.willStart
      _ ↔ s.started = true := willStart_iff h.quiet

theorem AtRest.adds (h : AtRest s) (ha : Adds s t) : AtRest t where
  inOrder := ha.inOrder h.inOrder
  quiet e he := (ha.comes e he).elim (h.quiet e) id
  waiting := ha.waiting_eq.trans h.waiting
  loads := (h.tame.adds ha).loads
  tied := by rw [ha.stopped_eq, ha.stops_eq, h.tied]

/-- The collector that a call registers, if it does. -/
def Call.collector? : Call → Option Collector
  | .register c => some c
  | _ => none

/-- What a call that starts and stops nobody leaves. -/
structure Leaves (c : Call) (s t : Scenario) : Prop where
  atRest : AtRest t
  collectors_eq : t.members.map (·.collector)
    = s.members.map (·.collector) ++ c.collector?.toList
  started_eq : t.started = s.started
  stops_eq : t.stops = s.stops

namespace Leaves

variable {c : Call} {u : Scenario}

theorem of_atRest (h : AtRest s) (hc : c.collector? = none) : Leaves c s s :=
  ⟨h, by rw [hc]; exact (List.append_nil _).symm, rfl, rfl⟩

theorem goes (h : Leaves c s t) (hg : Goes t u) : Leaves c s u := by
  obtain ⟨hrest, hstarted⟩ := h.atRest.goes hg
  exact ⟨hrest, hg.collectors_eq.trans h.collectors_eq, hstarted.trans h.started_eq,
    hg.stops_eq.trans h.stops_eq⟩

theorem adds (h : Leaves c s t) (ha : Adds t u) : Leaves c s u where
  atRest := h.atRest.adds ha
  collectors_eq := by rw [ha.members_eq, h.collectors_eq]
  started_eq := ha.started_eq.trans h.started_eq
  stops_eq := ha.stops_eq.trans h.stops_eq

theorem passUntil (h : Leaves c s t) (time : Nat) : Leaves c s (t.passUntil time) :=
  h.goes (h.atRest.tame.passUntil time).1

end Leaves

theorem leaves_register (h : AtRest s) (c : Collector) :
    Leaves (.register c) s (s.register c) := by
  refine ⟨⟨h.inOrder, h.quiet, h.waiting, fun i m hm hduty => ?_, h.tied⟩, List.map_append, rfl,
    rfl⟩
  rcases Nat.lt_or_ge i s.members.length with hlt | hge
  · exact h.loads i m ((List.getElem?_append_left hlt).symm.trans hm) hduty
  · have hnew := List.mem_of_getElem? ((List.getElem?_append_right hge).symm.trans hm)
    rw [List.mem_singleton.1 hnew] at hduty
    cases hduty

theorem mem_deedActs {α : Type} {courses : List α} {deeds : α → List (Nat × Deed)} {p : Act → Bool}
    (h : ∀ c ∈ courses, ∀ d ∈ deeds c, ∀ i, p (.deed i d.2) = true) :
    ∀ a ∈ courses.zipIdx.flatMap fun c => deedActs c.2 (deeds c.1), p a.2 = true := by
  intro a ha
  obtain ⟨c, hc, ha⟩ := List.mem_flatMap.1 ha
  obtain ⟨d, hd, rfl⟩ := List.mem_map.1 ha
  exact h c.1 (List.fst_mem_of_mem_zipIdx hc) d hd c.2

theorem isQuiet_of_mem_logActs {logs : List (Nat × Log.Record)} :
    ∀ a ∈ logActs logs, a.2.isQuiet = true := by
  intro a ha
  obtain ⟨l, -, rfl⟩ := List.mem_map.1 ha
  rfl

theorem mem_deed {y : Member.Sync} {time : Nat} {d : Deed} {x : Nat × Deed}
    (h : x ∈ y.deed time d) : x.2 = d := by
  unfold Member.Sync.deed at h
  split_ifs at h
  · rw [List.mem_singleton.1 h]
  · cases h

/-- What those are seen doing who are waited for. -/
def syncDeeds : List Deed := [.sync, .synced, .syncCancelled]

theorem deeds_course (y : Member.Sync) (began : Nat) (cancelled : Moment) (known : Bool) :
    (∀ d ∈ (y.course began cancelled known).deeds, d.2 ∈ syncDeeds)
      ∧ ∀ d ∈ (y.course began cancelled known).cancelDeeds, d.2 ∈ syncDeeds := by
  have hdeed : ∀ {time d}, d ∈ syncDeeds → ∀ x ∈ y.deed time d, x.2 ∈ syncDeeds :=
    fun hd x hx => (mem_deed hx).symm ▸ hd
  have hsome : ∀ {m : Moment} {d}, d ∈ syncDeeds →
      ∀ x ∈ (m.map fun time => y.deed time d).getD [], x.2 ∈ syncDeeds := fun {m} _ hd x hx => by
    rcases m with _ | time
    · cases hx
    · exact hdeed hd x hx
  have hasked : ∀ x ∈ y.deed began .sync, x.2 ∈ syncDeeds := hdeed (by decide)
  unfold Member.Sync.course
  dsimp only
  split
  · split
    · exact ⟨fun x hx => (List.mem_append.1 hx).elim (hasked x) (hsome (by decide) x), nofun⟩
    · exact ⟨hasked, hsome (by decide)⟩
  · refine ⟨fun x hx => (List.mem_append.1 hx).elim (hasked x) fun hx => ?_, nofun⟩
    split at hx
    · exact hsome (by decide) x hx
    · cases hx

theorem deeds_syncCourses {began : Nat} {cancelled : Moment} : ∀ {known : Bool}
    {ys : List Member.Sync}, ∀ c ∈ syncCourses began cancelled known ys,
    (∀ d ∈ c.deeds, d.2 ∈ syncDeeds) ∧ ∀ d ∈ c.cancelDeeds, d.2 ∈ syncDeeds
  | _, [], _, hc => by cases hc
  | known, y :: ys, c, hc => by
    rcases List.mem_cons.1 hc with rfl | hc
    · exact deeds_course y began cancelled known
    · exact deeds_syncCourses c hc

/-- Whether an act is one of a wait: somebody is seen who is waited for, or calls the wait off. -/
def isOfWait : Act → Bool
  | .deed _ d => d ∈ syncDeeds
  | .cancel _ => true
  | _ => false

theorem isBrief_of_isOfWait {a : Act} (h : isOfWait a = true) : a.isBrief = true := by
  cases a with
  | deed i d => cases d <;> first | rfl | cases h
  | _ => exact h

/-- A wait is over at once, never comes to its end, or carries out acts of its own until then. -/
theorem waitAll_cases (s : Scenario) (limit : Option Nat) : (s.waitAll limit).2 = s.settle
    ∨ (s.waitAll limit).2 = s.yield
    ∨ ∃ acts later logs time, (∀ a ∈ acts, isOfWait a.2 = true)
      ∧ (∀ a ∈ later, isOfWait a.2 = true)
      ∧ (s.waitAll limit).2
        = (((s.yield.launch acts).plan .usual later).plan .last (logActs logs)).passUntil time := by
  simp only [waitAll]
  split_ifs
  · exact .inl rfl
  · split
    · exact .inr (.inl rfl)
    · refine .inr (.inr ⟨_, _, _, _, fun a ha => ?_, ?_, rfl⟩)
      · rcases List.mem_append.1 ha with ha | ha
        · cases limit with
          | some limit => cases ha
          | none =>
            obtain ⟨c, -, ha⟩ := List.mem_filterMap.1 ha
            obtain ⟨time, -, rfl⟩ := Option.map_eq_some_iff.1 ha
            rfl
        · exact mem_deedActs (p := isOfWait)
            (fun c hc d hd _ => decide_eq_true ((deeds_syncCourses c hc).1 d hd)) a ha
      · exact mem_deedActs (p := isOfWait)
          fun c hc d hd _ => decide_eq_true ((deeds_syncCourses c hc).2 d hd)

theorem leaves_waitAll (h : AtRest s) (limit : Option Nat) :
    Leaves (.waitAll limit) s (s.waitAll limit).2 := by
  have hrest : Leaves (.waitAll limit) s s := .of_atRest h rfl
  have hyield := hrest.goes h.tame.yield
  rcases waitAll_cases s limit with heq | heq | ⟨acts, later, logs, time, hacts, hlater, heq⟩
  · exact heq ▸ hrest.passUntil _
  · exact heq ▸ hyield
  · rw [heq]
    refine (((hyield.adds (.launch _ fun a ha => ?_)).adds (.plan _ _ fun a ha => ?_)).adds
      (.plan _ _ isQuiet_of_mem_logActs)).passUntil _
    · exact isBrief_of_isOfWait (hacts a ha)
    · exact Act.isQuiet_of_isBrief (isBrief_of_isOfWait (hlater a ha))

theorem deeds_start_cases (m : Member) (now : Nat) :
    isScripted m.collector = true
        ∧ (∃ rest, (m.start now).deeds = (now, .start) :: rest ∧ ∀ d ∈ rest, d.2 = .started)
      ∨ isScripted m.collector = false ∧ (m.start now).deeds = [] := by
  rcases hb : m.collector.behaviour with script | ⟨names, delay⟩
  · let done := if script.start = .ok then [(now + script.startDelay, Deed.started)] else []
    have hdeeds : (m.start now).deeds = (now, .start) :: done := by
      simp only [Member.start, hb, done]
    refine .inl ⟨by simp [isScripted, hb], done, hdeeds, fun d hd => ?_⟩
    unfold done at hd
    split_ifs at hd
    · rw [List.mem_singleton.1 hd]
    · cases hd
  · refine .inr ⟨by simp [isScripted, hb], ?_⟩
    simp only [Member.start, hb]
    split <;> rfl

theorem deeds_start (m : Member) (now : Nat) : ∀ d ∈ (m.start now).deeds, d.2 ≠ .stopped := by
  intro d hd
  rcases deeds_start_cases m now with ⟨-, rest, hdeeds, hrest⟩ | ⟨-, hdeeds⟩
  · rw [hdeeds] at hd
    rcases List.mem_cons.1 hd with rfl | hd
    · exact (by decide : Deed.start ≠ .stopped)
    · rw [hrest d hd]
      decide
  · rw [hdeeds] at hd
    cases hd

/-- A loader whose start leaves nothing to load is as it was before. -/
theorem member_start (m : Member) (now : Nat) :
    (m.start now).member = m ∨ (m.start now).loads.isSome = true := by
  unfold Member.start
  split
  · exact .inl rfl
  · split
    · exact .inr rfl
    · exact .inl rfl

/-- The scenario in which the collectors are given what their start gives them. -/
def given (s : Scenario) : Scenario := { s.announced with
  members := s.starts.map (·.member) ++ s.announced.members.drop s.members.length }

/-- What loaders that are started are to load. -/
def startLoads (s : Scenario) : List (Nat × Act) :=
  s.starts.zipIdx.filterMap fun st => st.1.loads.map fun t => (t, .load st.2)

/-- The scenario in which the workers of a start have begun. -/
def launched (s : Scenario) : Scenario :=
  s.given.launch (s.starts.zipIdx.flatMap fun st => deedActs st.2 st.1.deeds)

/-- The scenario in which a start is under way, but for the mark that it will leave. -/
def underWay (s : Scenario) : Scenario :=
  (s.launched.plan .usual s.startLoads).plan .last (logActs s.startLogs)

theorem beginStart_eq (s : Scenario) :
    s.beginStart = s.underWay.put ⟨s.startEnd, .last⟩ .markStarted := List.foldl_append

section Start

variable (h : AtRest s)
include h

theorem goes_announced : Goes (s.log (startingLog s.members.length)) s.announced ∧
    AtRest s.announced := by
  have hlogged : AtRest (s.log (startingLog s.members.length)) :=
    ⟨h.inOrder, h.quiet, h.waiting, h.loads, h.tied⟩
  exact ⟨hlogged.tame.yield, (hlogged.goes hlogged.tame.yield).1⟩

theorem length_announced : s.announced.members.length = s.members.length := by
  have := congrArg List.length (goes_announced h).1.collectors_eq
  rwa [List.length_map, List.length_map] at this

theorem starts_eq : s.starts = s.announced.members.map (·.start s.announced.time) := by
  rw [starts, List.take_of_length_le (Nat.le_of_eq (length_announced h))]

theorem members_given :
    s.given.members = s.announced.members.map fun m => (m.start s.announced.time).member := by
  rw [given, List.drop_of_length_le (Nat.le_of_eq (length_announced h)), List.append_nil,
    starts_eq h, List.map_map]
  rfl

theorem adds_launched : Adds s.given s.launched := by
  refine .launch _ (mem_deedActs (p := Act.isBrief) fun st hst d hd _ => decide_eq_true ?_)
  rw [starts_eq h] at hst
  obtain ⟨m, -, rfl⟩ := List.mem_map.1 hst
  exact deeds_start m _ d hd

omit h in
theorem adds_startLoads : Adds s.launched (s.launched.plan .usual s.startLoads) := by
  refine .plan _ _ fun a ha => ?_
  obtain ⟨st, -, ha⟩ := List.mem_filterMap.1 ha
  obtain ⟨time, -, rfl⟩ := Option.map_eq_some_iff.1 ha
  rfl

omit h in
theorem adds_startLogs : Adds (s.launched.plan .usual s.startLoads) s.underWay :=
  .plan _ _ isQuiet_of_mem_logActs

theorem adds_underWay : Adds s.given s.underWay := by
  calc Adds s.given s.launched := adds_launched h
    Adds _ (s.launched.plan .usual s.startLoads) := adds_startLoads
    Adds _ s.underWay := adds_startLogs

/-- The loaders that are started are to load, and the others are to load what they were. -/
theorem loads_underWay : Loads s.underWay := by
  have hadds := adds_underWay h
  intro i m hm hduty
  rw [hadds.members_eq, members_given h, List.getElem?_map] at hm
  obtain ⟨m', hm', rfl⟩ := Option.map_eq_some_iff.1 hm
  rcases member_start m' s.announced.time with hsame | hloads
  · rw [hsame] at hduty ⊢
    refine ((goes_announced h).2.loads i m' hm' hduty).imp_right fun ⟨e, he, hi⟩ => ⟨e, ?_, hi⟩
    exact hadds.stays e he
  · obtain ⟨time, htime⟩ := Option.isSome_iff_exists.1 hloads
    have hstart : s.starts[i]? = some (m'.start s.announced.time) := by
      rw [starts_eq h, List.getElem?_map, hm']
      rfl
    have hmem : (time, Act.load i) ∈ s.startLoads := List.mem_filterMap.2
      ⟨(m'.start s.announced.time, i), List.mk_mem_zipIdx_iff_getElem?.2 hstart, by rw [htime]; rfl⟩
    refine .inr ⟨(⟨time, .usual⟩, .load i), adds_startLogs.stays _ ?_, rfl⟩
    exact (perm_plan .usual s.startLoads s.launched).mem_iff.2
      (List.mem_append_left _ (List.mem_map.2 ⟨_, hmem, rfl⟩))

theorem atRest_underWay : AtRest s.underWay := by
  have hadds := adds_underWay h
  have hrest := (goes_announced h).2
  refine ⟨hadds.inOrder hrest.inOrder, fun e he => (hadds.comes e he).elim (hrest.quiet e) id,
    hadds.waiting_eq.trans hrest.waiting, loads_underWay h, ?_⟩
  rw [hadds.stopped_eq, hadds.stops_eq]
  exact hrest.tied

theorem collectors_underWay :
    s.underWay.members.map (·.collector) = s.members.map (·.collector) := by
  rw [(adds_underWay h).members_eq, members_given h, List.map_map]
  simp only [Function.comp_def, collector_start]
  exact (goes_announced h).1.collectors_eq

theorem stops_underWay : s.underWay.stops = s.stops :=
  (adds_underWay h).stops_eq.trans (goes_announced h).1.stops_eq

theorem tame_beginStart : Tame s.beginStart := by
  have hunder := atRest_underWay h
  have hperm := Agenda.perm_insert ⟨s.startEnd, .last⟩ .markStarted s.underWay.agenda
  rw [beginStart_eq]
  refine ⟨Agenda.inOrder_insert _ _ hunder.inOrder, fun e he => ?_, hunder.waiting,
    hunder.loads.put _ _⟩
  rcases List.mem_cons.1 (hperm.mem_iff.1 he) with rfl | he
  · exact .inr rfl
  · exact .inl (hunder.quiet e he)

/-- A start leaves the mark, whatever its result is. -/
theorem startAll_of_atRest : AtRest s.startAll.2 ∧ s.startAll.2.started = true
    ∧ s.startAll.2.members.map (·.collector) = s.members.map (·.collector)
    ∧ s.startAll.2.stops = s.stops := by
  unfold startAll
  split_ifs with hnone
  · have hmarked : AtRest { s with started := true } :=
      ⟨h.inOrder, h.quiet, h.waiting, h.loads, h.tied⟩
    have hgoes := hmarked.tame.settle
    obtain ⟨hrest, hstarted⟩ := hmarked.goes hgoes
    exact ⟨hrest, hstarted, hgoes.collectors_eq, hgoes.stops_eq⟩
  · have hunder := atRest_underWay h
    have hperm := Agenda.perm_insert ⟨s.startEnd, .last⟩ .markStarted s.underWay.agenda
    obtain ⟨hgoes, hlater⟩ := (tame_beginStart h).passUntil s.startEnd
    -- The mark was due at the end of the start, so it is there and not to come any more.
    have hquiet : ∀ e ∈ (s.beginStart.passUntil s.startEnd).agenda, e.2.isQuiet = true := by
      intro e he
      have hlt := hlater e he
      have hmem := hgoes.suffix.subset he
      rw [beginStart_eq] at hmem
      rcases List.mem_cons.1 (hperm.mem_iff.1 hmem) with rfl | hmem
      · exact absurd hlt (Nat.lt_irrefl _)
      · exact hunder.quiet e hmem
    have hwill : WillStart s.beginStart := by
      rw [beginStart_eq]
      exact .inr ⟨_, hperm.mem_iff.2 List.mem_cons_self, rfl⟩
    refine ⟨⟨hgoes.tame.inOrder, hquiet, hgoes.tame.waiting, hgoes.tame.loads, ?_⟩,
      (willStart_iff hquiet).1 (hgoes.willStart.2 hwill), ?_, ?_⟩
    · rw [hgoes.stopped_eq, hgoes.stops_eq, beginStart_eq]
      exact hunder.tied
    · rw [hgoes.collectors_eq, beginStart_eq]
      exact collectors_underWay h
    · rw [hgoes.stops_eq, beginStart_eq]
      exact stops_underWay h

end Start

/-- What a stop of all collectors has done when it is over. -/
structure Stopped (s t : Scenario) : Prop where
  atRest : AtRest t
  started_eq : t.started = false
  collectors_eq : t.members.map (·.collector) = s.members.map (·.collector)
  stops_eq : t.stops = s.stops
    ++ if s.started = true then StopMark.each (List.range s.members.length) else []

theorem Stopped.goes {u : Scenario} (h : Stopped s t) (hg : Goes t u) : Stopped s u where
  atRest := (h.atRest.goes hg).1
  started_eq := (h.atRest.goes hg).2.trans h.started_eq
  collectors_eq := hg.collectors_eq.trans h.collectors_eq
  stops_eq := hg.stops_eq.trans h.stops_eq

theorem stopped_of_not_started (h : AtRest s) (hmark : s.started = false) : Stopped s s where
  atRest := h
  started_eq := hmark
  collectors_eq := rfl
  stops_eq := by simp [hmark]

/-- A stop that finds the mark comes to its end, and has called every collector once then. -/
theorem stopped_of_started (h : AtRest s) (hmark : s.started = true) :
    Stopped s ((s.beginStop .step).runWhile isStopping) := by
  obtain ⟨cs, hcs⟩ : ∃ cs, s.members.map (·.collector) = cs := ⟨_, rfl⟩
  have hlen : s.members.length = cs.length := by rw [← hcs, List.length_map]
  have hceasing : Ceasing cs { s with started := false } := ⟨rfl, hcs, h.inOrder, h.loads, h.tied⟩
  have hbegin := stopStage_proceed (List.range cs.length) [] _ hceasing rfl h.quiet h.waiting
    (List.append_nil s.stops).symm
  obtain ⟨⟨hend, hstage⟩, hover⟩ := runWhile_induct (p := isStopping)
    (P := fun t => Ceasing cs t ∧ StopStage s.stops cs.length t)
    (fun _ _ ht => stopStage_next ht.1 ht.2) _ hbegin
  obtain ⟨hquiet, hwaiting, hstops⟩ := finished_of_not_stopping hstage hover
  rw [beginStop, if_pos hmark, hlen]
  refine ⟨⟨hend.inOrder, hquiet, hwaiting, hend.loads, hend.tied⟩, hend.started_eq,
    hend.collectors_eq.trans hcs.symm, ?_⟩
  rw [hstops, if_pos hmark, hlen]

/-- A stop of all collectors takes the mark away. If it found it, every collector was called once,
and else none. -/
theorem stopAll_of_atRest (h : AtRest s) : Stopped s s.stopAll := by
  suffices hrun : Stopped s ((s.beginStop .step).runWhile isStopping) from
    hrun.goes hrun.atRest.tame.settle
  rcases hmark : s.started with _ | _
  · have hbegin : s.beginStop .step = s := if_neg (by simp [hmark])
    rw [hbegin]
    exact (stopped_of_not_started h hmark).goes (runWhile_induct (p := isStopping) (P := Goes s)
      (fun _ _ ht => ht.trans ht.tame.next) s h.tame.goes).1
  · exact stopped_of_started h hmark

/-- What a call does to a registry at rest. -/
structure Did (c : Call) (s t : Scenario) : Prop where
  atRest : AtRest t
  collectors_eq : t.members.map (·.collector)
    = s.members.map (·.collector) ++ c.collector?.toList
  started_iff : t.started = true ↔ c = .startAll ∨ c ≠ .stopAll ∧ s.started = true
  stops_eq : t.stops = s.stops
    ++ if c = .stopAll ∧ s.started = true then StopMark.each (List.range s.members.length) else []

theorem Leaves.did {c : Call} (h : Leaves c s t) (hstart : c ≠ .startAll) (hstop : c ≠ .stopAll) :
    Did c s t where
  atRest := h.atRest
  collectors_eq := h.collectors_eq
  started_iff := by simp [h.started_eq, hstart, hstop]
  stops_eq := by simp [h.stops_eq, hstop]

theorem call_of_atRest (h : AtRest s) (c : Call) : Did c s (s.call c) := by
  cases c with
  | register c => exact ((leaves_register h c).passUntil _).did nofun nofun
  | waitAll limit => exact (leaves_waitAll h limit).did nofun nofun
  | sleep time => exact ((Leaves.of_atRest h rfl).passUntil _).did nofun nofun
  | startAll =>
    obtain ⟨hrest, hstarted, hcollectors, hstops⟩ := startAll_of_atRest h
    exact ⟨hrest, hcollectors.trans (List.append_nil _).symm, by simp [call, hstarted],
      hstops.trans (by simp)⟩
  | stopAll =>
    obtain ⟨hrest, hstarted, hcollectors, hstops⟩ := stopAll_of_atRest h
    exact ⟨hrest, hcollectors.trans (List.append_nil _).symm, by simp [call, hstarted],
      hstops.trans (by simp)⟩
  | cancel =>
    have hrest : AtRest (s.cancelToken s.token) :=
      ⟨h.inOrder, h.quiet, h.waiting, h.loads, h.tied⟩
    have hleaves : Leaves .cancel s (s.cancelToken s.token) :=
      ⟨hrest, (List.append_nil _).symm, rfl, rfl⟩
    exact (hleaves.passUntil _).did nofun nofun
  | newToken =>
    have hrest : AtRest { s with token := s.token + 1 } :=
      ⟨h.inOrder, h.quiet, h.waiting, h.loads, h.tied⟩
    have hleaves : Leaves .newToken s { s with token := s.token + 1 } :=
      ⟨hrest, (List.append_nil _).symm, rfl, rfl⟩
    exact (hleaves.passUntil _).did nofun nofun

end Scenario

end ClusterCensus.Collector
