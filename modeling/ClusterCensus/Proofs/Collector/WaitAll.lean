import ClusterCensus.Proofs.Collector.StartAll
import ClusterCensus.Proofs.Collector.Upcoming
import ClusterCensus.Proofs.Collector.Wait

/-!
# Waiting for all collectors

A wait in simulated time with a limit is for all collectors that are registered (`names_terms`), and
the first of three events ends it (`exists_waitAll`). When that is the limit, the collectors that
heed their token are seen to end early (`seen_of_expired`), while the token of the caller is
cancelled only if the agenda has it so (`cancelled_of_expired`).
-/

namespace ClusterCensus.Collector

open Waiting

namespace Scenario

variable {s : Scenario} {limit : Nat}

/-- The collectors that a wait is for. -/
def syncs (s : Scenario) : List Member.Sync :=
  (s.yield.members.take s.members.length).map (·.sync s.yield.time)

theorem began_le_of_wakes (m : Member) {now u : Nat} (h : (m.sync now).wakes.hasCome u = true) :
    now ≤ u := by
  obtain ⟨c, hc, hle⟩ := Moment.hasCome_iff.1 h
  unfold Member.sync at hc
  split at hc
  · cases hc
    omega
  · obtain ⟨r, -, rfl⟩ := Option.map_eq_some_iff.1 hc
    omega

/-- The terms of a wait with a limit. -/
def terms (s : Scenario) (limit : Nat) : Terms where
  began := s.yield.time
  workers := s.syncs.map (·.worker)
  cancel := s.yield.cancelMoment
  limit := limit
  ends_later w hw u hu := by
    obtain ⟨y, hy, rfl⟩ := List.mem_map.1 hw
    obtain ⟨m, -, rfl⟩ := List.mem_map.1 hy
    exact began_le_of_wakes m hu

theorem name_sync (m : Member) (now : Nat) : (m.sync now).name = m.name := by
  unfold Member.sync
  split <;> rfl

theorem names_terms (s : Scenario) (limit : Nat) :
    (s.terms limit).workers.map (·.name) = s.members.map (·.name) := by
  have htake : (s.yield.members.take s.members.length).map (·.collector)
      = s.members.map (·.collector) := collectors_take _ s
  have hnames := congrArg (List.map (·.name)) htake
  rw [List.map_map, List.map_map] at hnames
  simpa only [terms, syncs, List.map_map, Function.comp_def, Member.Sync.worker, name_sync,
    Member.name] using hnames

/-- Whether the token in use is cancelled, by a time, before the collectors are asked. -/
def known (s : Scenario) (limit : Nat) : Bool :=
  s.yield.cancelMoment = some s.yield.time ∨ some limit = some 0

/-- The courses of the collectors during a wait with a limit. -/
def courses (s : Scenario) (limit : Nat) : List SyncCourse :=
  syncCourses s.yield.time (s.yield.cancelMoment.earlier (some (s.yield.time + limit)))
    (s.known limit) s.syncs

/-- What collectors are seen doing in a wait with a limit, in their own time. -/
def ownDeeds (s : Scenario) (limit : Nat) : List (Nat × Act) :=
  (s.courses limit).zipIdx.flatMap fun c => deedActs c.2 c.1.deeds

/-- What they are seen doing when they learn that their token was cancelled. -/
def cancelDeeds (s : Scenario) (limit : Nat) : List (Nat × Act) :=
  (s.courses limit).zipIdx.flatMap fun c => deedActs c.2 c.1.cancelDeeds

/-- The scenario in which the workers of a wait have begun, with what comes of it on the agenda. -/
def beginWait (s : Scenario) (limit : Nat) (e : SyncEnd) : Scenario :=
  ((s.yield.launch (s.ownDeeds limit)).plan .usual (s.cancelDeeds limit)).plan .last
    (logActs e.logs)

theorem selfCancels_eq_none {ss : List Member.Sync} (h : ∀ y ∈ ss, y.cancels = false) :
    selfCancels ss = none := by
  have hnobody : ss.filter (·.cancels) = [] := List.filter_eq_nil_iff.2 fun y hy => by simp [h y hy]
  rw [selfCancels, hnobody]
  rfl

theorem earlier_none (m : Moment) : m.earlier none = m := by
  cases m <;> rfl

theorem waitAll_eq (hsome : s.members ≠ []) (hlet : ∀ y ∈ s.syncs, y.cancels = false) :
    s.waitAll (some limit) =
      match waitEnd? s.yield.time ((s.courses limit).map (·.worker)) s.yield.cancelMoment
        (some limit) with
      | none => (none, s.yield)
      | some e => (some e.result, (s.beginWait limit e).passUntil e.time) := by
  have hcancels := selfCancels_eq_none hlet
  unfold syncs at hcancels
  unfold waitAll
  rw [if_neg (by simpa using hsome)]
  simp only [hcancels, earlier_none]
  rfl

theorem exists_waitAll (h : s.Current) (hsome : s.members ≠ [])
    (hlet : ∀ y ∈ s.syncs, y.cancels = false) (limit : Nat) :
    ∃ e, s.waitAll (some limit) = (some e.result, (s.beginWait limit e).passUntil e.time)
      ∧ Verdict (s.terms limit) e.time e.result := by
  have hyield := h.yield
  obtain ⟨e, he, hverdict⟩ : ∃ e, waitEnd? (s.terms limit).began
      ((s.terms limit).actual (s.known limit) s.syncs) (s.terms limit).cancel (some limit) = some e
      ∧ Verdict (s.terms limit) e.time e.result :=
    exists_waitEnd rfl fun c hc => began_le_cancelMoment hyield hc
  have he' : waitEnd? s.yield.time ((s.courses limit).map (·.worker)) s.yield.cancelMoment
      (some limit) = some e := he
  refine ⟨e, ?_, hverdict⟩
  rw [waitAll_eq hsome hlet, he']

theorem token_yield (s : Scenario) : s.yield.token = s.token :=
  nexts_induct (P := fun t => t.token = s.token) (fun t ht => by
    rcases next_cases t with ⟨-, hnext⟩ | ⟨e, rest, -, hnext⟩
    · rwa [hnext]
    · rw [hnext]
      exact (Onward.perform _ _).token_eq.trans ht) _ s rfl

theorem isMinor_of_mem_deeds {cs : List (SyncCourse × Nat)} {f : SyncCourse → List (Nat × Deed)}
    {a : Nat × Act} (h : a ∈ cs.flatMap fun c => deedActs c.2 (f c.1)) : a.2.isMinor = true := by
  obtain ⟨c, -, ha⟩ := List.mem_flatMap.1 h
  obtain ⟨d, -, rfl⟩ := List.mem_map.1 ha
  rfl

theorem spared_beginWait (h : s.Current) (e : SyncEnd) {time : Nat} (hle : s.yield.time ≤ time) :
    Spared s.token (s.terms limit).cancel time (s.beginWait limit e) := by
  have hyield : Spared s.token (s.terms limit).cancel time s.yield :=
    token_yield s ▸ Spared.of_current h.yield hle
  have hlaunch : Spared s.token (s.terms limit).cancel time
      (s.yield.launch (s.ownDeeds limit)) := hyield.launch fun a => isMinor_of_mem_deeds
  have hplan := hlaunch.plan .usual fun a (ha : a ∈ s.cancelDeeds limit) =>
    Act.cancels_of_isMinor (isMinor_of_mem_deeds ha) s.token
  refine hplan.plan _ fun a ha => ?_
  obtain ⟨l, -, rfl⟩ := List.mem_map.1 ha
  rfl

theorem inOrder_beginWait (h : s.Current) (e : SyncEnd) :
    (s.beginWait limit e).agenda.InOrder :=
  inOrder_plan _ _ _ (inOrder_plan _ _ _ (inOrder_launch h.yield.inOrder _))

theorem getElem?_syncCourses {began : Nat} {cancelled : Moment} : ∀ (known : Bool)
    {ss : List Member.Sync} {i : Nat} {y : Member.Sync}, ss[i]? = some y →
    ∃ known', (syncCourses began cancelled known ss)[i]? = some (y.course began cancelled known')
  | known, z :: ss, 0, y, h => ⟨known, by cases h; rfl⟩
  | known, z :: ss, i + 1, y, h => by
    rw [syncCourses]
    exact getElem?_syncCourses (known || (z.cancels && z.wakes = some began)) h

theorem mem_deeds_of_endsEarly {y : Member.Sync} {began c : Nat} (known : Bool)
    (h : EndsEarly (some c) y) (hseen : y.seen = true) :
    (c, Deed.syncCancelled) ∈ (y.course began (some c) known).deeds
      ∨ (c, Deed.syncCancelled) ∈ (y.course began (some c) known).cancelDeeds := by
  unfold Member.Sync.course
  rw [if_pos (by simpa [EndsEarly] using h)]
  split_ifs
  · exact .inl (by simp [Member.Sync.deed, hseen])
  · exact .inr (by simp [Member.Sync.deed, hseen])

/-- A collector that ends early is seen to. -/
theorem willSee_beginWait {i c time : Nat} {y : Member.Sync} (e : SyncEnd)
    (hy : s.syncs[i]? = some y)
    (hc : (s.terms limit).cancel.earlier (some (s.terms limit).deadline) = some c)
    (hearly : EndsEarly (some c) y) (hseen : y.seen = true) (hle : c ≤ time) :
    WillSee i .syncCancelled time (s.beginWait limit e) := by
  obtain ⟨known, hcourse⟩ : ∃ known,
      (s.courses limit)[i]? = some (y.course s.yield.time (some c) known) :=
    hc ▸ getElem?_syncCourses (s.known limit) hy
  have hmem := List.mk_mem_zipIdx_iff_getElem?.2 hcourse
  rcases mem_deeds_of_endsEarly known hearly hseen with hd | hd
  · have hact : (c, Act.deed i .syncCancelled) ∈ s.ownDeeds limit :=
      List.mem_flatMap.2 ⟨_, hmem, List.mem_map.2 ⟨_, hd, rfl⟩⟩
    exact ((WillSee.of_mem_launch hact hle _).plan ..).plan ..
  · have hact : (c, Act.deed i .syncCancelled) ∈ s.cancelDeeds limit :=
      List.mem_flatMap.2 ⟨_, hmem, List.mem_map.2 ⟨_, hd, rfl⟩⟩
    exact (WillSee.of_mem_plan hact hle _ _).plan ..

theorem le_wholeMillis (time : Nat) : time ≤ wholeMillis time := by
  unfold wholeMillis
  omega

/-- The limit leaves the token of the caller alone. -/
theorem cancelled_of_expired (h : s.Current) {e : SyncEnd} (he : e.time = (s.terms limit).deadline)
    (hc : s.token ∈ ((s.beginWait limit e).passUntil e.time).cancelled) :
    (s.terms limit).cancel.hasCome (wholeMillis e.time) = true := by
  have hle : s.yield.time ≤ wholeMillis e.time := by
    have hbegan : s.yield.time ≤ (s.terms limit).deadline := Nat.le_add_right ..
    exact hbegan.trans (he ▸ le_wholeMillis e.time)
  exact (spared_beginWait h e hle).passUntil hc

/-- When the limit is reached, the collectors that heed their token end. -/
theorem seen_of_expired
    (hcancel : Moment.isBefore (some (s.terms limit).deadline) (s.terms limit).cancel = true)
    (h : s.Current) {e : SyncEnd} (he : e.time = (s.terms limit).deadline)
    {i : Nat} {y : Member.Sync} (hy : s.syncs[i]? = some y) (hyields : y.yields = true)
    (hseen : y.seen = true)
    (hwakes : Moment.isBefore (some (s.terms limit).deadline) y.wakes = true) :
    ∃ name, Seen.deed i name .syncCancelled
      ∈ ((s.beginWait limit e).passUntil e.time).seen :=
  (willSee_beginWait e hy (Moment.earlier_eq_right hcancel) ⟨hyields, hwakes⟩ hseen
    (he ▸ le_wholeMillis e.time)).passUntil (inOrder_beginWait h e)

end Scenario

/-- However the moves of a wait follow each other, it comes to its end after a bounded number of
steps, and the event that comes first decides when, and to what. When that is the limit, the token
of the collectors is cancelled, and the one of the caller is not. When it is told that a collector
failed, no token was cancelled. A wait in simulated time is for all registered collectors, and the
first event decides it, too. -/
theorem wait_ends_with_first_event :
    (∀ t : Terms, t.workers ≠ [] → ∀ (n : Nat) (x : Waiting), Steps t n (.initial t) x →
        n ≤ 7 * t.workers.length + 4 + t.limit
          ∧ (x.result = none → ∃ y, Step t x y)
          ∧ ∀ r, x.result = some r → (∀ y, ¬ Step t x y)
            ∧ Verdict t x.time r
            ∧ (Moment.isBefore (some t.deadline) t.closing = true →
              Moment.isBefore (some t.deadline) t.cancel = true →
              x.cancelled = true ∧ x.callerCancelled = false)
            ∧ ∀ name f, r = .error (.sync name f) → x.cancelled = false)
      ∧ ∀ (s : Scenario) (limit : Nat), s.Current → s.members ≠ [] →
        (∀ y ∈ s.syncs, y.cancels = false) →
        (s.terms limit).workers.map (·.name) = s.members.map (·.name)
          ∧ ∃ time r s', s.waitAll (some limit) = (some r, s')
            ∧ s'.time = Scenario.wholeMillis time
            ∧ Verdict (s.terms limit) time r
            ∧ (Moment.isBefore (some (s.terms limit).deadline) (s.terms limit).closing = true →
              Moment.isBefore (some (s.terms limit).deadline) (s.terms limit).cancel = true →
              (s.token ∈ s'.cancelled → (s.terms limit).cancel.hasCome s'.time = true)
              ∧ ∀ i y, s.syncs[i]? = some y → y.yields = true → y.seen = true →
                Moment.isBefore (some (s.terms limit).deadline) y.wakes = true →
                ∃ name, Seen.deed i name .syncCancelled ∈ s'.seen) := by
  refine ⟨fun t hsome n x hs => ?_, fun s limit h hsome hlet => ⟨s.names_terms limit, ?_⟩⟩
  · have hheld := (Held.initial hsome).steps hs
    refine ⟨steps_le hsome hs, exists_step, fun r hr => ?_⟩
    have hsettled := hheld.settled r hr
    refine ⟨fun y => not_step_of_over hr, hsettled.verdict, fun hclosing hcancel => ?_,
      fun name f hr => (hsettled.own hr).1⟩
    exact ⟨(hsettled.expired hclosing hcancel).2.2, hsettled.caller_let hclosing hcancel⟩
  · obtain ⟨e, hwait, hverdict⟩ := Scenario.exists_waitAll h hsome hlet limit
    refine ⟨e.time, e.result, _, hwait, rfl, hverdict, fun hclosing hcancel => ?_⟩
    obtain ⟨he, -⟩ := hverdict.expired hclosing hcancel
    exact ⟨Scenario.cancelled_of_expired h he, fun i y hy hyields hseen hwakes =>
      Scenario.seen_of_expired hcancel h he hy hyields hseen hwakes⟩

end ClusterCensus.Collector
