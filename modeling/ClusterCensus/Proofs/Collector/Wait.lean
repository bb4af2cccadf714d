import ClusterCensus.Collector.Wait
import ClusterCensus.Proofs.Collector.FirstEvent

/-!
# Waiting in simulated time

Until the token of the collectors is cancelled, each takes its own course. So if the last outcome is
told before that, it is the one that the collectors would have come to (`workers_of_noLater`,
`workers_of_isBefore`), and otherwise a wait is over before it is told. In both cases what comes of
the wait is decided by the first of the three events that can end it (`exists_waitEnd`).
-/

namespace ClusterCensus.Collector

open Member Waiting

/-- The worker of a collector that is waited for, if the collector is let. -/
def Member.Sync.worker (y : Sync) : Worker := ⟨y.name, y.wakes, y.ending⟩

namespace Waiting

variable {t : Terms} {ss : List Sync} {cancelled : Moment} {began : Nat}

/-- The workers of collectors whose token is cancelled at a moment. -/
def courseWorkers (began : Nat) (cancelled : Moment) (known : Bool) (ss : List Sync) :
    List Worker :=
  (syncCourses began cancelled known ss).map (·.worker)

/-- The workers of a wait, whose token is cancelled with that of the caller or when the limit is
reached. -/
abbrev Terms.actual (t : Terms) (known : Bool) (ss : List Sync) : List Worker :=
  courseWorkers t.began (t.cancel.earlier (some t.deadline)) known ss

/-- Whether a collector ends early for a token that is cancelled at a moment. -/
def EndsEarly (cancelled : Moment) (y : Sync) : Prop :=
  y.yields = true ∧ cancelled.isBefore y.wakes = true

theorem worker_course_of_let {y : Sync} (h : ¬ EndsEarly cancelled y) (known : Bool) :
    (y.course began cancelled known).worker = y.worker := by
  unfold Member.Sync.course
  rw [if_neg (by simpa [EndsEarly] using h)]
  rfl

theorem endsAt_course_of_endsEarly {y : Sync} (h : EndsEarly cancelled y) (known : Bool) :
    (y.course began cancelled known).worker.endsAt = cancelled := by
  unfold Member.Sync.course
  rw [if_pos (by simpa [EndsEarly] using h)]
  split_ifs <;> rfl

theorem courseWorkers_of_let : ∀ (known : Bool) {ss : List Sync},
    (∀ y ∈ ss, ¬ EndsEarly cancelled y) →
    courseWorkers began cancelled known ss = ss.map (·.worker)
  | _, [], _ => rfl
  | known, y :: ss, h => by
    have ih : ∀ known, courseWorkers began cancelled known ss = ss.map (·.worker) := fun known =>
      courseWorkers_of_let known fun z hz => h z (List.mem_cons_of_mem _ hz)
    unfold courseWorkers at ih ⊢
    rw [syncCourses, List.map_cons, List.map_cons, ih,
      worker_course_of_let (h y List.mem_cons_self)]

theorem exists_worker_of_endsEarly : ∀ (known : Bool) {ss : List Sync} {y : Sync}, y ∈ ss →
    EndsEarly cancelled y → ∃ w ∈ courseWorkers began cancelled known ss, w.endsAt = cancelled
  | known, z :: ss, y, hy, h => by
    unfold courseWorkers
    rw [syncCourses, List.map_cons]
    rcases List.mem_cons.1 hy with rfl | hy
    · exact ⟨_, List.mem_cons_self, endsAt_course_of_endsEarly h known⟩
    · obtain ⟨w, hw, hends⟩ :=
        exists_worker_of_endsEarly (known || (z.cancels && z.wakes = some began)) hy h
      exact ⟨w, List.mem_cons_of_mem _ hw, hends⟩

theorem workers_of_noLater {known : Bool}
    (h : (Worker.closing began (ss.map (·.worker))).noLater cancelled = true) :
    courseWorkers began cancelled known ss = ss.map (·.worker) := by
  obtain ⟨c, hc, hle⟩ := Moment.noLater_iff.1 h
  refine courseWorkers_of_let known fun y hy hearly => ?_
  obtain ⟨m, hm, hnot⟩ := Moment.isBefore_iff.1 hearly.2
  have hclosed : (Worker.closing began (ss.map (·.worker))).hasCome c = true :=
    hc ▸ Moment.hasCome_some.2 le_rfl
  have hends := (Worker.hasCome_closing.1 hclosed).2 _ (List.mem_map_of_mem hy)
  exact hnot (Moment.hasCome_mono hends (hle m (hm ▸ Moment.hasCome_some.2 le_rfl)))

theorem workers_of_isBefore {known : Bool}
    (h : (Worker.closing began (courseWorkers began cancelled known ss)).isBefore cancelled
      = true) :
    courseWorkers began cancelled known ss = ss.map (·.worker) := by
  obtain ⟨c, hc, hnot⟩ := Moment.isBefore_iff.1 h
  refine courseWorkers_of_let known fun y hy hearly => ?_
  obtain ⟨w, hw, hends⟩ := exists_worker_of_endsEarly known hy hearly
  have hclosed : (Worker.closing began (courseWorkers began cancelled known ss)).hasCome c = true :=
    hc ▸ Moment.hasCome_some.2 le_rfl
  exact hnot (hends ▸ (Worker.hasCome_closing.1 hclosed).2 w hw)

theorem allReported_eq (rs : List Report) (time : Nat) : (allReported rs time).time = time
    ∧ (allReported rs time).result = syncResult (rs.map (·.notice)) := by
  simp only [allReported]
  split
  · rename_i hr
    exact ⟨rfl, hr.symm⟩
  · rename_i hr
    exact ⟨rfl, hr.symm⟩

section WaitEnd

variable (hss : t.workers = ss.map (·.worker))
include hss

theorem actual_of_reported {known : Bool} (hcancel : t.closing.isBefore t.cancel = true)
    (hlimit : t.closing.isBefore (some t.deadline) = true) : t.actual known ss = t.workers := by
  obtain ⟨c, hc, hnot⟩ := Moment.isBefore_iff.1 hcancel
  obtain ⟨c', hc', hlt⟩ := Moment.isBefore_iff.1 hlimit
  cases hc.symm.trans hc'
  rw [Moment.hasCome_some, not_le] at hlt
  rw [hss]
  refine workers_of_noLater (Moment.noLater_iff.2 ⟨c, hss ▸ hc, fun n hn => ?_⟩)
  by_contra hle
  rcases Moment.hasCome_earlier.1 hn with hn | hn
  · exact hnot (Moment.hasCome_mono hn (not_le.1 hle).le)
  · rw [Moment.hasCome_some] at hn
    omega

variable {known : Bool}

theorem verdict_expired (h : Moment.noLater (some t.deadline)
      (t.cancel.earlier (Worker.closing t.began (t.actual known ss))) = true) :
    Verdict t t.deadline (.error (.syncTimeout (.ofMicros t.limit))) := by
  obtain ⟨d, hd, hfirst⟩ := Moment.noLater_iff.1 h
  cases hd
  refine ⟨fun hcancel hlimit => ?_, fun hclosing hlimit => ?_, fun _ _ => ⟨rfl, rfl⟩, nofun⟩
  · rw [actual_of_reported hss hcancel hlimit] at hfirst
    obtain ⟨c, hc, hnot⟩ := Moment.isBefore_iff.1 hlimit
    have hle := hfirst c (Moment.hasCome_earlier.2 (.inr (Moment.hasCome_of_eq hc)))
    exact absurd (Moment.hasCome_some.2 hle) hnot
  · obtain ⟨c, hc, hnot⟩ := Moment.isBefore_iff.1 hlimit
    have hcome := (hasCome_calledOffAt.1 (Moment.hasCome_of_eq hc)).2
    exact absurd (Moment.hasCome_some.2 (hfirst c (Moment.hasCome_earlier.2 (.inl hcome)))) hnot

theorem verdict_reported {c : Nat} (hc : Worker.closing t.began (t.actual known ss) = some c)
    (hcancel : ¬ t.cancel.hasCome c = true) (hlimit : c < t.deadline) :
    Verdict t c (syncResult ((Worker.reports (t.actual known ss)).map (·.notice))) := by
  have hsame : t.actual known ss = t.workers := by
    rw [hss]
    refine workers_of_isBefore (Moment.isBefore_iff.2 ⟨c, hc, fun hcome => ?_⟩)
    rcases Moment.hasCome_earlier.1 hcome with hcome | hcome
    · exact hcancel hcome
    · rw [Moment.hasCome_some] at hcome
      omega
  rw [hsame] at hc ⊢
  refine ⟨fun _ _ => ⟨hc, firstFailure_reports fun w hw => ?_⟩, fun hclosing _ => ?_,
    fun hclosing _ => ?_, fun name f hr => ?_⟩
  · have hends := (Worker.hasCome_closing.1 (Moment.hasCome_of_eq hc)).2 w hw
    obtain ⟨u, hu, -⟩ := Moment.hasCome_iff.1 hends
    exact hu ▸ rfl
  · refine absurd ?_ hcancel
    rcases hclosing with hclosing | hbegan
    · obtain ⟨k, hk, hnot⟩ := Moment.isBefore_iff.1 hclosing
      rw [Terms.closing, hc, Moment.hasCome_some, not_le] at hnot
      exact Moment.hasCome_mono (Moment.hasCome_of_eq hk) hnot.le
    · have hclosed := Worker.hasCome_closing.1 (Moment.hasCome_of_eq hc)
      exact Moment.hasCome_mono hbegan hclosed.1
  · obtain ⟨d, hd, hnot⟩ := Moment.isBefore_iff.1 hclosing
    cases hd
    exact absurd (Moment.hasCome_mono (Moment.hasCome_of_eq hc) hlimit.le) hnot
  · rw [Worker.notices_reports] at hr
    exact own_failure_of_syncResult hr

theorem verdict_calledOff {c : Nat} (hc : t.cancel = some c) (hbegan : t.began ≤ c)
    (hclosing : ¬ (Worker.closing t.began (t.actual known ss)).isBefore t.cancel = true)
    (hlimit : c < t.deadline) : Verdict t c (.error .cancelled) := by
  refine ⟨fun hcancel hdue => ?_, fun _ _ => ⟨?_, rfl⟩, fun _ hcancel => ?_, nofun⟩
  · rw [actual_of_reported hss hcancel hdue] at hclosing
    exact absurd hcancel hclosing
  · rw [Terms.calledOffAt, hc]
    exact congrArg some (max_eq_right hbegan)
  · obtain ⟨d, hd, hnot⟩ := Moment.isBefore_iff.1 hcancel
    cases hd
    exact absurd (Moment.hasCome_mono (Moment.hasCome_of_eq hc) hlimit.le) hnot

/-- A wait in simulated time with a limit comes to an end, and the first event decides to which. -/
theorem exists_waitEnd (hcurrent : ∀ c, t.cancel = some c → t.began ≤ c) :
    ∃ e, waitEnd? t.began (t.actual known ss) t.cancel (some t.limit) = some e
      ∧ Verdict t e.time e.result := by
  simp only [waitEnd?, settle?]
  split_ifs with hexpired hclosing
  · exact ⟨_, rfl, verdict_expired hss hexpired⟩
  · obtain ⟨c, hc, hcancel⟩ := Moment.isBefore_iff.1 hclosing
    have hlimit : c < t.deadline := by
      refine Moment.lt_of_not_noLater_earlier hexpired fun n hn => ?_
      rcases hn with hn | hn
      · by_contra hlt
        exact hcancel (Moment.hasCome_mono hn (not_le.1 hlt).le)
      · exact Moment.hasCome_some.1 (hc ▸ hn)
    obtain ⟨htime, hresult⟩ := allReported_eq (Worker.reports (t.actual known ss)) c
    refine ⟨_, by rw [hc, Option.map_some], ?_⟩
    rw [htime, hresult]
    exact verdict_reported hss hc hcancel hlimit
  · -- Had the token no moment to be cancelled at, the limit would come first.
    obtain ⟨c, hc⟩ : ∃ c, t.cancel = some c := by
      by_contra hnever
      refine hexpired (Moment.noLater_iff.2 ⟨_, rfl, fun n hn => ?_⟩)
      rcases Moment.hasCome_earlier.1 hn with hn | hn
      · obtain ⟨c, hc, -⟩ := Moment.hasCome_iff.1 hn
        exact absurd ⟨c, hc⟩ hnever
      · obtain ⟨c, hc, -⟩ := Moment.hasCome_iff.1 hn
        refine absurd (Moment.isBefore_iff.2 ⟨c, hc, fun hcome => ?_⟩) hclosing
        obtain ⟨k, hk, -⟩ := Moment.hasCome_iff.1 hcome
        exact hnever ⟨k, hk⟩
    have hlimit : c < t.deadline := by
      refine Moment.lt_of_not_noLater_earlier hexpired fun n hn => ?_
      rcases hn with hn | hn
      · exact Moment.hasCome_some.1 (hc ▸ hn)
      · obtain ⟨k, hk, hkn⟩ := Moment.hasCome_iff.1 hn
        by_contra hlt
        refine hclosing (Moment.isBefore_iff.2 ⟨k, hk, fun hcome => ?_⟩)
        rw [hc, Moment.hasCome_some] at hcome
        omega
    refine ⟨_, by rw [hc, Option.map_some], ?_⟩
    exact verdict_calledOff hss hc (hcurrent c hc) hclosing hlimit

end WaitEnd

end Waiting

end ClusterCensus.Collector
