import ClusterCensus.Proofs.Collector.Reports
import ClusterCensus.Proofs.Time.Moment

/-!
# Which failure is told first

The last worker has ended when all have (`hasCome_closing`). When outcomes are told one after the
other, none of them before one that is told earlier, what comes of a wait is the failure that is
told first, if there is one (`firstFailure_syncResult`). So it is for the reports in simulated time
(`firstFailure_reports`).
-/

namespace ClusterCensus.Collector

open Starting

/-- What comes of a wait when all is told: success, or the failure that is told first, if there is
one. Of failures that are told at one time it is any. -/
def FirstFailure (ws : List Worker) (r : Except GroupError Unit) : Prop :=
  ((∀ w ∈ ws, w.ending = .ok) → r = .ok ())
    ∧ ((∃ w ∈ ws, w.ending ≠ .ok) → ∃ i w f, ws[i]? = some w ∧ w.ending.failure? = some f
      ∧ r = .error (.sync w.name f)
      ∧ ∀ j v, ws[j]? = some v → v.ending ≠ .ok →
        Moment.noLater (Worker.toldAt ws i w) (Worker.toldAt ws j v) = true)

/-- Whether it is told by a time how the worker at a place ended. -/
def ToldBy (ws : List Worker) (time place : Nat) : Prop :=
  ∃ w, ws[place]? = some w ∧ (Worker.toldAt ws place w).hasCome time = true

/-- Whether one place is told no later than another: by every time by which that one is. -/
def ToldNoLater (ws : List Worker) (i j : Nat) : Prop :=
  ∀ time, ToldBy ws time j → ToldBy ws time i

/-- The failure at a place, if there is one, with the name of the worker. -/
def failureAt (ws : List Worker) (place : Nat) : Option (String × Failure) :=
  ws[place]?.bind fun w => w.ending.failure?.map fun f => (w.name, f)

variable {ws : List Worker}

theorem Ending.failure?_eq_none {e : Ending} : e.failure? = none ↔ e = .ok := by
  cases e <;> simp [failure?]

namespace Worker

theorem hasCome_foldl_later (u : Nat) : ∀ (ws : List Worker) (m : Moment),
    (ws.foldl (fun m w => m.later w.endsAt) m).hasCome u = true
      ↔ m.hasCome u = true ∧ ∀ w ∈ ws, w.endsAt.hasCome u = true
  | [], m => by simp
  | w :: ws, m => by
    rw [List.foldl_cons, hasCome_foldl_later u ws, Moment.hasCome_later, List.forall_mem_cons,
      and_assoc]

theorem hasCome_closing {began u : Nat} : (closing began ws).hasCome u = true
    ↔ began ≤ u ∧ ∀ w ∈ ws, w.endsAt.hasCome u = true := by
  rw [closing, hasCome_foldl_later, Moment.hasCome_some]

theorem hasCome_toldAt {i u : Nat} {w : Worker} : (toldAt ws i w).hasCome u = true
    ↔ if w.ending.isCrash then ∀ v ∈ ws.take (i + 1), v.endsAt.hasCome u = true
      else w.endsAt.hasCome u = true := by
  unfold toldAt
  split_ifs
  · rw [hasCome_closing]
    exact and_iff_right (Nat.zero_le u)
  · rfl

end Worker

theorem toldBy_mono {i u v : Nat} (h : ToldBy ws u i) (hle : u ≤ v) : ToldBy ws v i := by
  obtain ⟨w, hw, ht⟩ := h
  exact ⟨w, hw, Moment.hasCome_mono ht hle⟩

/-- All is told by a time when all workers have ended. -/
theorem toldBy_of_closing {began i u : Nat} (h : (Worker.closing began ws).hasCome u = true)
    (hi : i < ws.length) : ToldBy ws u i := by
  have hall := (Worker.hasCome_closing.1 h).2
  refine ⟨ws[i], List.getElem?_eq_getElem hi, Worker.hasCome_toldAt.2 ?_⟩
  split_ifs
  · exact fun v hv => hall v (List.mem_of_mem_take hv)
  · exact hall _ (List.getElem_mem hi)

theorem findSome?_notices : ∀ places : List Nat,
    (places.filterMap (noticeAt ws)).findSome? (fun n => n.failure.map fun f => (n.name, f))
      = places.findSome? (failureAt ws)
  | [] => rfl
  | i :: places => by
    have ih := findSome?_notices places
    rcases hw : ws[i]? with _ | w
    · rw [List.filterMap_cons_none (by simp [noticeAt, hw]), ih]
      simp [failureAt, hw]
    · rw [List.filterMap_cons_some (b := w.notice) (by simp [noticeAt, hw]), List.findSome?_cons,
        List.findSome?_cons, ih]
      simp [failureAt, hw, Worker.notice]

theorem failureAt_eq_none {i : Nat} {w : Worker} (hw : ws[i]? = some w) :
    failureAt ws i = none ↔ w.ending = .ok := by
  simp [failureAt, hw, Ending.failure?_eq_none]

theorem firstFailure_syncResult {places : List Nat} {time : Nat}
    (hperm : places.Perm (List.range ws.length)) (htold : ∀ i ∈ places, ToldBy ws time i)
    (horder : places.Pairwise (ToldNoLater ws)) :
    FirstFailure ws (syncResult (places.filterMap (noticeAt ws))) := by
  have hmem : ∀ {j : Nat} {v : Worker}, ws[j]? = some v → j ∈ places := fun {j v} hv =>
    hperm.mem_iff.2 (List.mem_range.2 (List.getElem?_eq_some_iff.1 hv).1)
  unfold syncResult
  rw [findSome?_notices]
  rcases hfirst : places.findSome? (failureAt ws) with _ | ⟨name, f⟩
  · have hok : ∀ w ∈ ws, w.ending = .ok := by
      intro w hw
      obtain ⟨j, hj⟩ := List.mem_iff_getElem?.1 hw
      exact (failureAt_eq_none hj).1 (List.findSome?_eq_none_iff.1 hfirst j (hmem hj))
    refine ⟨fun _ => rfl, ?_⟩
    rintro ⟨w, hw, hne⟩
    exact absurd (hok w hw) hne
  · obtain ⟨before, i, rest, hplaces, hi, hbefore⟩ := List.findSome?_eq_some_iff.1 hfirst
    obtain ⟨w, hw, hfail⟩ := Option.bind_eq_some_iff.1 hi
    obtain ⟨g, hg, hpair⟩ := Option.map_eq_some_iff.1 hfail
    cases hpair
    refine ⟨fun hok => ?_, fun _ => ⟨i, w, f, hw, hg, rfl, fun j v hv hne => ?_⟩⟩
    · rw [hok w (List.mem_of_getElem? hw)] at hg
      cases hg
    · -- The failure at `j` does not come before the first one.
      have hnot : j ∉ before := fun hj => hne ((failureAt_eq_none hv).1 (hbefore j hj))
      have hle : ToldNoLater ws i j := by
        have hj := hmem hv
        rw [hplaces] at hj horder
        rcases List.mem_append.1 hj with hj | hj
        · exact absurd hj hnot
        · rcases List.mem_cons.1 hj with rfl | hj
          · exact fun _ h => h
          · exact (List.pairwise_cons.1 (List.pairwise_append.1 horder).2.1).1 j hj
      have hi' : ToldBy ws time i := htold i (by simp [hplaces])
      obtain ⟨w', hw', ht⟩ := hi'
      cases hw.symm.trans hw'
      obtain ⟨c, hc, -⟩ := Moment.hasCome_iff.1 ht
      refine Moment.noLater_iff.2 ⟨c, hc, fun n hn => ?_⟩
      obtain ⟨w', hw', hcome⟩ := hle n ⟨v, hv, hn⟩
      cases hw.symm.trans hw'
      rw [hc] at hcome
      exact Moment.hasCome_some.1 hcome

/-- A failure that is told is a worker's own. -/
theorem own_failure_of_syncResult {places : List Nat} {name : String} {f : Failure}
    (h : syncResult (places.filterMap (noticeAt ws)) = .error (.sync name f)) :
    ∃ w ∈ ws, w.name = name ∧ w.ending.failure? = some f := by
  unfold syncResult at h
  rw [findSome?_notices] at h
  rcases hfirst : places.findSome? (failureAt ws) with _ | ⟨name', f'⟩
  · rw [hfirst] at h
    cases h
  · rw [hfirst] at h
    cases h
    obtain ⟨i, -, hi⟩ := List.exists_of_findSome?_eq_some hfirst
    obtain ⟨w, hw, hfail⟩ := Option.bind_eq_some_iff.1 hi
    obtain ⟨g, hg, hpair⟩ := Option.map_eq_some_iff.1 hfail
    cases hpair
    exact ⟨w, List.mem_of_getElem? hw, rfl, hg⟩

/-- None of the reports comes before one that is told earlier. -/
theorem pairwise_reports : ((Worker.reports ws).map (·.place)).Pairwise (ToldNoLater ws) := by
  refine List.pairwise_map.2 (.imp_of_mem ?_ (List.pairwise_mergeSort Report.noLater_trans
    Report.noLater_total _))
  intro a b ha hb hab time
  obtain ⟨v, hv, hva, -⟩ := Worker.of_mem_reports ha
  obtain ⟨w, hw, hwb, -⟩ := Worker.of_mem_reports hb
  have hle : a.time ≤ b.time := by
    simp only [Report.noLater, Bool.or_eq_true, Bool.and_eq_true, decide_eq_true_eq] at hab
    omega
  rintro ⟨w', hw', hcome⟩
  cases hw.symm.trans hw'
  rw [hwb] at hcome
  refine ⟨v, hv, ?_⟩
  rw [hva]
  exact Moment.hasCome_some.2 (hle.trans (Moment.hasCome_some.1 hcome))

theorem firstFailure_reports (h : ∀ w ∈ ws, w.endsAt.isSome) :
    FirstFailure ws (syncResult ((Worker.reports ws).map (·.notice))) := by
  obtain ⟨t, ht, hall⟩ := Worker.exists_closing_reports h 0
  rw [Worker.notices_reports]
  have hclosed : (Worker.closing 0 ws).hasCome t = true := by
    rw [ht]
    exact Moment.hasCome_some.2 le_rfl
  have htold : ∀ i ∈ (Worker.reports ws).map (·.place), ToldBy ws t i := fun i hi =>
    toldBy_of_closing hclosed (List.mem_range.1 ((Worker.places_reports h).mem_iff.1 hi))
  exact firstFailure_syncResult (Worker.places_reports h) htold pairwise_reports

end ClusterCensus.Collector
