import ClusterCensus.Proofs.Collector.StopAccounting
import Mathlib.Data.List.Sigma

/-!
# The calls to start, over all calls to a registry

A start of all collectors does not look whether they were started before. Every such start calls
each collector that is registered by then, and nothing else starts anybody (`call_begins`). So a
collector is started as often as all are started after its registration (`start_accounting`), and
twice if that happens twice (`started_by_two_starts`).
-/

namespace ClusterCensus.Collector

/-- The collector that is seen being started, if one is. -/
def Seen.begun? : Seen → Option Nat
  | .deed i _ .start => some i
  | _ => none

/-- The collector that is seen being started by an act, if one is. -/
def Act.begun? : Act → Option Nat
  | .deed i .start => some i
  | _ => none

theorem Act.begun?_of_isFollowUp {a : Act} (h : a.isFollowUp = true) : a.begun? = none := by
  cases a <;> first | rfl | cases h

namespace Scenario

variable {s t : Scenario}

/-- The collectors that were seen being started, in order. -/
def begun (s : Scenario) : List Nat := s.seen.filterMap Seen.begun?

section Begun

variable (s : Scenario) (i : Nat)

theorem begun_see (d : Deed) : (s.see i d).begun = s.begun ++ (Act.deed i d).begun?.toList := by
  rw [begun, see, List.filterMap_append]
  cases d <;> rfl

@[simp] theorem begun_log (r : Log.Record) : (s.log r).begun = s.begun := rfl

@[simp] theorem begun_callStop : (s.callStop i).begun = s.begun := rfl

@[simp] theorem begun_change (f : Member → Member) : (s.change i f).begun = s.begun := rfl

@[simp] theorem begun_put (slot : Slot) (a : Act) : (s.put slot a).begun = s.begun := rfl

@[simp] theorem begun_await (w : Stopping) : (s.await w).begun = s.begun := rfl

@[simp] theorem begun_seeSide (action : String) : (s.seeSide action).begun = s.begun := by
  rw [begun, seeSide, List.filterMap_append]
  exact List.append_nil _

@[simp] theorem begun_stopOver (c : Caller) : (s.stopOver c).begun = s.begun := by
  cases c
  · rfl
  · exact begun_seeSide ..

@[simp] theorem begun_stopReturns : (s.stopReturns i).begun = s.begun :=
  (begun_see s i .stopped).trans (List.append_nil _)

@[simp] theorem begun_see_stop : (s.see i .stop).begun = s.begun :=
  (begun_see s i .stop).trans (List.append_nil _)

theorem begun_proceed (c : Caller) : ∀ (rest : List Nat) (s : Scenario),
    (proceed c rest s).begun = s.begun
  | [], s => by simp [proceed]
  | i :: rest, s => by
    have ih := begun_proceed c rest
    simp only [proceed]
    repeat' split
    all_goals simp [ih]

theorem begun_wake : ∀ (ws : List Stopping) (s : Scenario),
    (ws.foldl (fun s w => s.put ⟨s.time, w.caller.turnAfterOthers⟩ (.resume w)) s).begun = s.begun
  | [], _ => rfl
  | _ :: ws, s => begun_wake ws (s.put _ _)

@[simp] theorem begun_drain : (s.drain i).begun = s.begun := by
  calc (s.drain i).begun = (s.see i .drained).begun := begun_wake ..
    _ = s.begun ++ [] := begun_see s i .drained
    _ = s.begun := List.append_nil _

theorem begun_load : (s.load i).begun = s.begun := by
  unfold load
  split
  · rfl
  · have hloaded := fun s => (begun_see s i .loaded).trans (List.append_nil _)
    simp only []
    split_ifs
    · rw [begun_drain, hloaded]
      rfl
    · rw [hloaded]
      rfl

theorem begun_beginStop (c : Caller) : (s.beginStop c).begun = s.begun := by
  unfold beginStop
  split_ifs
  · exact begun_proceed ..
  · exact begun_stopOver ..

/-- Only the deed itself is seen as a start. -/
theorem begun_perform (a : Act) : (s.perform a).begun = s.begun ++ a.begun?.toList := by
  cases a with
  | deed i d => exact begun_see s i d
  | sideDone action => exact (begun_seeSide s action).trans (List.append_nil _).symm
  | load i => exact (begun_load s i).trans (List.append_nil _).symm
  | drain i => exact (begun_drain s i).trans (List.append_nil _).symm
  | stopAll => exact (begun_beginStop s .side).trans (List.append_nil _).symm
  | resume stop =>
    refine Eq.trans ?_ (List.append_nil _).symm
    simp only [perform, resume, begun_proceed, begun_stopReturns]
    split_ifs <;> rfl
  | _ => exact (List.append_nil _).symm

end Begun

theorem begun_foldl_perform : ∀ (acts : List (Nat × Act)) (s : Scenario),
    (acts.foldl (fun s a => s.perform a.2) s).begun = s.begun ++ acts.filterMap (·.2.begun?)
  | [], s => (List.append_nil _).symm
  | a :: acts, s => by
    rw [List.foldl_cons, begun_foldl_perform acts, begun_perform, List.append_assoc]
    rcases ha : a.2.begun? with _ | i <;> simp [ha]

/-- Just some collectors are seen being started on the way, and nobody is still to be. -/
structure Begins (l : List Nat) (s t : Scenario) : Prop where
  begun_eq : t.begun = s.begun ++ l
  comes : ∀ e ∈ t.agenda, e.2.begun? = none

namespace Begins

variable {l : List Nat}

theorem start (h : ∀ e ∈ s.agenda, e.2.begun? = none) : Begins [] s s :=
  ⟨(List.append_nil _).symm, h⟩

theorem onward {u : Scenario} (h : Begins l s t) (hbegun : u.begun = t.begun)
    (ho : Onward t u) : Begins l s u := by
  refine ⟨hbegun.trans h.begun_eq, fun e he => ?_⟩
  rcases ho.comes e he with he | ⟨hfollow, -⟩
  · exact h.comes e he
  · exact Act.begun?_of_isFollowUp hfollow

theorem next (h : Begins l s t) : Begins l s t.next := by
  rcases next_cases t with ⟨-, hnext⟩ | ⟨e, rest, ha, hnext⟩
  · rwa [hnext]
  · rw [hnext]
    have hrest : ∀ x ∈ e :: rest, x.2.begun? = none := ha ▸ h.comes
    have hpassed : Begins l s { t with agenda := rest, time := max t.time e.1.time } :=
      ⟨h.begun_eq, fun x hx => hrest x (List.mem_cons_of_mem _ hx)⟩
    refine hpassed.onward ?_ (.perform _ e.2)
    rw [begun_perform, hrest e List.mem_cons_self]
    exact List.append_nil _

theorem yield (h : Begins l s t) : Begins l s t.yield :=
  nexts_induct (P := Begins l s) (fun _ ht => ht.next) _ t h

theorem runWhile (h : Begins l s t) (p : Scenario → Bool) : Begins l s (t.runWhile p) :=
  (runWhile_induct (P := Begins l s) (fun _ _ ht => ht.next) t h).1

theorem passUntil (h : Begins l s t) (time : Nat) : Begins l s (t.passUntil time) := by
  obtain ⟨hbegun, hcomes⟩ := h.runWhile (isDue (wholeMillis time))
  exact ⟨hbegun, hcomes⟩

theorem plan (h : Begins l s t) (turn : Turn) {acts : List (Nat × Act)}
    (hacts : ∀ a ∈ acts, a.2.begun? = none) : Begins l s (t.plan turn acts) := by
  have hperm := perm_plan turn acts t
  rw [plan_eq] at hperm ⊢
  refine ⟨h.begun_eq, fun e he => ?_⟩
  rcases List.mem_append.1 (hperm.mem_iff.1 he) with he | he
  · obtain ⟨a, ha, rfl⟩ := List.mem_map.1 he
    exact hacts a ha
  · exact h.comes e he

theorem planLogs (h : Begins l s t) (turn : Turn) (logs : List (Nat × Log.Record)) :
    Begins l s (t.plan turn (logActs logs)) := by
  refine h.plan turn fun a ha => ?_
  obtain ⟨r, -, rfl⟩ := List.mem_map.1 ha
  rfl

/-- Those are seen being started who are at once. -/
theorem launch (h : Begins l s t) {acts : List (Nat × Act)}
    (hlater : ∀ a ∈ acts, t.time < a.1 → a.2.begun? = none) :
    Begins (l ++ (acts.filter (·.1 ≤ t.time)).filterMap (·.2.begun?)) s (t.launch acts) := by
  refine plan ⟨?_, fun e he => ?_⟩ .usual fun a ha => ?_
  · rw [begun_foldl_perform, h.begun_eq, List.append_assoc]
  · rcases (Onward.foldl_perform _ t).comes e he with he | ⟨hfollow, -⟩
    · exact h.comes e he
    · exact Act.begun?_of_isFollowUp hfollow
  · obtain ⟨hmem, hlt⟩ := List.mem_filter.1 ha
    exact hlater a hmem (of_decide_eq_true hlt)

end Begins

theorem begun?_of_isOfWait {a : Act} (h : isOfWait a = true) : a.begun? = none := by
  cases a with
  | deed i d => cases d <;> first | rfl | cases h
  | _ => rfl

theorem begins_waitAll (h : Begins [] s s) (limit : Option Nat) :
    Begins [] s (s.waitAll limit).2 := by
  rcases waitAll_cases s limit with heq | heq | ⟨acts, later, logs, time, hacts, hlater, heq⟩
  · exact heq ▸ h.passUntil _
  · exact heq ▸ h.yield
  · have hlaunch := h.yield.launch fun a ha _ => begun?_of_isOfWait (hacts a ha)
    have hnone : (acts.filter (·.1 ≤ s.yield.time)).filterMap (·.2.begun?) = [] :=
      List.filterMap_eq_nil_iff.2 fun a ha =>
        begun?_of_isOfWait (hacts a (List.mem_of_mem_filter ha))
    rw [hnone] at hlaunch
    rw [heq]
    have hplan := hlaunch.plan .usual fun a ha => begun?_of_isOfWait (hlater a ha)
    exact (hplan.planLogs .last logs).passUntil time

theorem begins_stopAll (h : Begins [] s s) : Begins [] s s.stopAll :=
  ((h.onward (begun_beginStop s .step) (.beginStop s .step)).runWhile isStopping).passUntil _

/-- The places of those in a list who are seen being started. -/
def scriptedAt (cs : List Collector) : List Nat :=
  cs.zipIdx.filterMap fun c => if isScripted c.1 then some c.2 else none

theorem begun_deedActs (m : Member) (now i : Nat) :
    ((deedActs i (m.start now).deeds).filter (·.1 ≤ now)).filterMap (·.2.begun?)
      = (if isScripted m.collector then some i else none).toList := by
  rcases deeds_start_cases m now with ⟨hs, rest, hdeeds, hrest⟩ | ⟨hs, hdeeds⟩
  · have hnone : ((deedActs i rest).filter (·.1 ≤ now)).filterMap (·.2.begun?) = [] := by
      refine List.filterMap_eq_nil_iff.2 fun a ha => ?_
      obtain ⟨d, hd, rfl⟩ := List.mem_map.1 (List.mem_of_mem_filter ha)
      simp only [hrest d hd, Act.begun?]
    have hcons : deedActs i ((now, .start) :: rest) = (now, .deed i .start) :: deedActs i rest :=
      rfl
    rw [hdeeds, hcons, List.filter_cons_of_pos (by simp), hs]
    exact congrArg (i :: ·) hnone
  · rw [hdeeds, hs]
    rfl

section Start

variable (h : AtRest s)
include h

theorem begun_startActs :
    ((s.starts.zipIdx.flatMap fun st => deedActs st.2 st.1.deeds).filter
        (·.1 ≤ s.announced.time)).filterMap (·.2.begun?)
      = scriptedAt (s.members.map (·.collector)) := by
  have hcollectors : s.members.map (·.collector) = s.announced.members.map (·.collector) :=
    (goes_announced h).1.collectors_eq.symm
  rw [starts_eq h, scriptedAt, hcollectors, List.zipIdx_map, List.zipIdx_map, List.flatMap_map,
    List.filter_flatMap, List.filterMap_flatMap, List.filterMap_map,
    List.filterMap_eq_flatMap_toList]
  exact List.flatMap_congr fun m _ => begun_deedActs m.1 _ m.2

theorem begun?_of_later : ∀ a ∈ s.starts.zipIdx.flatMap fun st => deedActs st.2 st.1.deeds,
    s.announced.time < a.1 → a.2.begun? = none := by
  intro a ha hlater
  obtain ⟨st, hst, ha⟩ := List.mem_flatMap.1 ha
  obtain ⟨d, hd, rfl⟩ := List.mem_map.1 ha
  have hmem := List.fst_mem_of_mem_zipIdx hst
  rw [starts_eq h] at hmem
  obtain ⟨m, -, hm⟩ := List.mem_map.1 hmem
  rw [← hm] at hd
  rcases deeds_start_cases m s.announced.time with ⟨-, rest, hdeeds, hrest⟩ | ⟨-, hdeeds⟩
  · rw [hdeeds] at hd
    rcases List.mem_cons.1 hd with rfl | hd
    · exact absurd hlater (Nat.lt_irrefl _)
    · simp only [hrest d hd, Act.begun?]
  · rw [hdeeds] at hd
    cases hd

/-- A start begins with every collector that follows a script. -/
theorem begins_startAll (hs : Begins [] s s) :
    Begins (scriptedAt (s.members.map (·.collector))) s s.startAll.2 := by
  unfold startAll
  split_ifs with hnone
  · have hmarked : Begins [] s { s with started := true } := ⟨hs.begun_eq, hs.comes⟩
    have hnobody : scriptedAt (s.members.map (·.collector)) = [] := by
      rw [List.length_eq_zero_iff.1 hnone]
      rfl
    rw [hnobody]
    exact hmarked.passUntil s.time
  · have hlogged : Begins [] s (s.log (startingLog s.members.length)) := ⟨hs.begun_eq, hs.comes⟩
    have hgiven : Begins [] s s.given := ⟨hlogged.yield.begun_eq, hlogged.yield.comes⟩
    have hlaunch := hgiven.launch (begun?_of_later h)
    have hplaces : [] ++ _ = scriptedAt _ := begun_startActs h
    rw [show s.given.time = s.announced.time from rfl, hplaces] at hlaunch
    refine Begins.passUntil (Begins.plan (Begins.plan hlaunch .usual fun a ha => ?_) .last
      fun a ha => ?_) s.startEnd
    · obtain ⟨st, -, ha⟩ := List.mem_filterMap.1 ha
      obtain ⟨time, -, rfl⟩ := Option.map_eq_some_iff.1 ha
      rfl
    · rcases List.mem_append.1 ha with ha | ha
      · obtain ⟨r, -, rfl⟩ := List.mem_map.1 ha
        rfl
      · rw [List.mem_singleton.1 ha]
        rfl

end Start

/-- Only a start of all collectors starts any, and it starts those that are registered by then. -/
theorem call_begins (h : AtRest s) (hs : Begins [] s s) (c : Call) :
    Begins (if c = .startAll then scriptedAt (s.members.map (·.collector)) else []) s
      (s.call c) := by
  cases c with
  | startAll => exact begins_startAll h hs
  | register c =>
    have hregistered : Begins [] s (s.register c) := ⟨hs.begun_eq, hs.comes⟩
    exact hregistered.passUntil _
  | waitAll limit => exact begins_waitAll hs limit
  | stopAll => exact begins_stopAll hs
  | cancel =>
    have hcancelled : Begins [] s (s.cancelToken s.token) := ⟨hs.begun_eq, hs.comes⟩
    exact hcancelled.passUntil _
  | newToken =>
    have hnew : Begins [] s { s with token := s.token + 1 } := ⟨hs.begun_eq, hs.comes⟩
    exact hnew.passUntil _
  | sleep time => exact hs.passUntil _

theorem idle_after (calls : List Call) : ∀ e ∈ (after calls).agenda, e.2.begun? = none := by
  induction calls using List.reverseRecOn with
  | nil => simp [after, empty]
  | append_singleton calls c ih =>
    rw [after_concat]
    exact (call_begins (atRest_after calls).1 (.start ih) c).comes

variable {calls : List Call} {k : Nat}

theorem begun_after_succ (calls : List Call) (k : Nat) :
    (after (calls.take (k + 1))).begun = (after (calls.take k)).begun
      ++ if calls[k]? = some .startAll then scriptedAt (registered (calls.take k)) else [] := by
  rcases hc : calls[k]? with _ | c
  · rw [take_succ_of_none hc, if_neg nofun, List.append_nil]
  · rw [List.take_add_one, hc, Option.toList_some, after_concat]
    obtain ⟨hrest, hcollectors⟩ := atRest_after (calls.take k)
    have hbegins := call_begins hrest (.start (idle_after _)) c
    simp only [hbegins.begun_eq, hcollectors, Option.some.injEq]

theorem mem_scriptedAt {cs : List Collector} {i : Nat} :
    i ∈ scriptedAt cs ↔ (cs[i]?).any isScripted = true := by
  rw [scriptedAt, List.mem_filterMap, Option.any_eq_true]
  constructor
  · rintro ⟨⟨c, j⟩, hc, hi⟩
    split_ifs at hi with hs
    cases hi
    exact ⟨c, List.mk_mem_zipIdx_iff_getElem?.1 hc, hs⟩
  · rintro ⟨c, hc, hs⟩
    exact ⟨(c, i), List.mk_mem_zipIdx_iff_getElem?.2 hc, if_pos hs⟩

theorem count_scriptedAt (cs : List Collector) (i : Nat) :
    (scriptedAt cs).count i = if (cs[i]?).any isScripted then 1 else 0 := by
  have hplaces : cs.zipIdx.Pairwise fun a b => a.2 ≠ b.2 :=
    List.pairwise_map.1 (List.nodup_zipIdx_map_snd cs)
  have hnodup : (scriptedAt cs).Nodup := by
    refine List.pairwise_filterMap.2 (hplaces.imp fun hne x hx y hy => ?_)
    split_ifs at hx hy
    cases hx
    cases hy
    exact hne
  rw [hnodup.count]
  simp only [mem_scriptedAt]

/-- How often a collector was seen being started: once in each start of all that found it. -/
theorem count_begun (calls : List Call) (i : Nat) : ∀ k,
    (after (calls.take k)).begun.count i = (List.range k).countP fun j =>
      calls[j]? = some .startAll ∧ ((registered (calls.take j))[i]?).any isScripted
  | 0 => rfl
  | k + 1 => by
    rw [begun_after_succ, List.count_append, count_begun calls i k, List.range_succ,
      List.countP_append, List.countP_singleton]
    by_cases hstart : calls[k]? = some .startAll
    · simp [hstart, count_scriptedAt]
    · simp [hstart]

/-- A collector is there just after it is registered. -/
theorem getElem?_registered_take {r : Nat} {c : Collector} (h : calls[r]? = some (.register c))
    (k : Nat) : (registered (calls.take k))[(registered (calls.take r)).length]?
      = if r < k then some c else none := by
  split_ifs with hlt
  · have htake : (calls.take k)[r]? = some (.register c) := by
      rw [List.getElem?_take_of_lt hlt, h]
    have hmin : (calls.take k).take r = calls.take r := by
      rw [List.take_take, Nat.min_eq_left hlt.le]
    simpa [hmin] using getElem?_registered htake
  · exact List.getElem?_eq_none (Nat.not_lt.1 fun hgt => hlt ((lt_length_registered h k).1 hgt))

theorem count_begun_of_register {r : Nat} {c : Collector} (h : calls[r]? = some (.register c))
    (hs : isScripted c = true) : (after calls).begun.count (registered (calls.take r)).length
      = (List.range calls.length).countP fun k => calls[k]? = some .startAll ∧ r < k := by
  have hcount := count_begun calls (registered (calls.take r)).length calls.length
  rw [List.take_length] at hcount
  refine hcount.trans (List.countP_congr fun k _ => ?_)
  rw [getElem?_registered_take h]
  split_ifs with hlt <;> simp [hlt, hs]

theorem collectors_starts (s : Scenario) :
    s.starts.map (·.member.collector) = s.members.map (·.collector) := by
  rw [starts, List.map_map, ← collectors_announced s]
  exact List.map_congr_left fun m _ => collector_start m _

/-- Over all calls to a registry, a start of all collectors starts every collector that is there by
then once, in their order, whether it was started before or not, and nothing else starts anybody. So
a collector that follows a script was seen being started as often as all were started after its
registration. -/
theorem start_accounting (calls : List Call) :
    (∀ k, calls[k]? = some .startAll →
        (after (calls.take k)).starts.map (·.member.collector) = registered (calls.take k)
        ∧ (after (calls.take (k + 1))).begun
          = (after (calls.take k)).begun ++ scriptedAt (registered (calls.take k)))
      ∧ (∀ k, calls[k]? ≠ some .startAll →
        (after (calls.take (k + 1))).begun = (after (calls.take k)).begun)
      ∧ ∀ r c, calls[r]? = some (.register c) → isScripted c = true →
        let i := (registered (calls.take r)).length
        (registered calls)[i]? = some c
          ∧ (after calls).begun.count i
            = (List.range calls.length).countP fun k => calls[k]? = some .startAll ∧ r < k := by
  refine ⟨fun k hk => ⟨?_, ?_⟩, fun k hk => ?_, fun r c hc hs => ?_⟩
  · rw [collectors_starts, (atRest_after _).2]
  · rw [begun_after_succ, if_pos hk]
  · rw [begun_after_succ, if_neg hk, List.append_nil]
  · exact ⟨getElem?_registered hc, count_begun_of_register hc hs⟩

/-- Two starts of all collectors start a collector twice. -/
theorem started_by_two_starts :
    let c : Collector := ⟨"a", .scripted ⟨0, .ok, 0, .ok, false, false, 0⟩⟩
    (after [.register c, .startAll, .startAll]).begun.count 0 = 2 := by
  intro c
  have hfirst : [Call.register c, .startAll, .startAll][0]? = some (.register c) := rfl
  exact (count_begun_of_register hfirst rfl).trans (by decide)

end Scenario

end ClusterCensus.Collector
