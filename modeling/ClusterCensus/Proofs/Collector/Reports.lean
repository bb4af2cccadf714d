import ClusterCensus.Proofs.Collector.Order

/-!
# The order of reports

When all workers end at some time, each of them has one report (`places_reports`), and their reports
come in an order in which outcomes can be told (`inOrder_reports`): whoever is to be passed before a
crash is reported has ended by then, and at one time the supervisor is the last to report.
-/

namespace ClusterCensus.Collector

open Starting

theorem Report.noLater_trans (a b c : Report) (hab : a.noLater b = true)
    (hbc : b.noLater c = true) : a.noLater c = true := by
  simp only [noLater, Bool.or_eq_true, Bool.and_eq_true, decide_eq_true_eq, Bool.not_eq_true'] at *
  grind

theorem Report.noLater_total (a b : Report) : (a.noLater b || b.noLater a) = true := by
  simp only [noLater, Bool.or_eq_true, Bool.and_eq_true, decide_eq_true_eq, Bool.not_eq_true']
  grind

namespace Worker

variable {ws : List Worker}

/-- Workers that all end are closed when the last of them has ended. -/
theorem exists_closing : ∀ (ws : List Worker) (began : Nat), (∀ w ∈ ws, w.endsAt.isSome) →
    ∃ t, closing began ws = some t ∧ began ≤ t ∧ (∀ w ∈ ws, ∀ e, w.endsAt = some e → e ≤ t)
      ∧ ∀ u, began ≤ u → (∀ w ∈ ws, ∀ e, w.endsAt = some e → e ≤ u) → t ≤ u
  | [], began, _ => ⟨began, rfl, le_rfl, by simp, fun _ hu _ => hu⟩
  | w :: ws, began, h => by
    obtain ⟨e, he⟩ := Option.isSome_iff_exists.1 (h w List.mem_cons_self)
    obtain ⟨t, ht, hle, hall, hleast⟩ := exists_closing ws (max began e) fun v hv =>
      h v (List.mem_cons_of_mem _ hv)
    refine ⟨t, ?_, by omega, fun v hv f hf => ?_, fun u hu hws => ?_⟩
    · rw [closing, List.foldl_cons, he]
      exact ht
    · rcases List.mem_cons.1 hv with rfl | hv
      · cases he.symm.trans hf
        omega
      · exact hall v hv f hf
    · have := hws w List.mem_cons_self e he
      exact hleast u (by omega) fun v hv => hws v (List.mem_cons_of_mem _ hv)

theorem reports_nil : reports [] = [] := by
  simp [reports]

/-- Every report is about the worker at its place. -/
theorem of_mem_reports {r : Report} (hr : r ∈ reports ws) : ∃ w, ws[r.place]? = some w
    ∧ toldAt ws r.place w = some r.time
    ∧ r.supervised = w.ending.isCrash ∧ r.notice = w.notice := by
  rw [reports, List.mem_mergeSort, List.mem_filterMap] at hr
  obtain ⟨⟨w, i⟩, hmem, hr⟩ := hr
  obtain ⟨t, ht, rfl⟩ := Option.map_eq_some_iff.1 hr
  exact ⟨w, List.mk_mem_zipIdx_iff_getElem?.1 hmem, ht, rfl, rfl⟩

theorem notices_reports : (reports ws).map (·.notice)
    = ((reports ws).map (·.place)).filterMap (noticeAt ws) := by
  rw [List.filterMap_map, ← List.filterMap_eq_map]
  refine List.filterMap_congr fun r hr => ?_
  obtain ⟨w, hw, -, -, hn⟩ := of_mem_reports hr
  simp [noticeAt, hw, hn]

section Ending

variable (h : ∀ w ∈ ws, w.endsAt.isSome)
include h

theorem exists_closing_take (n : Nat) : ∃ t, closing 0 (ws.take n) = some t
    ∧ (∀ w ∈ ws.take n, ∀ e, w.endsAt = some e → e ≤ t)
    ∧ ∀ u, (∀ w ∈ ws.take n, ∀ e, w.endsAt = some e → e ≤ u) → t ≤ u := by
  obtain ⟨t, ht, -, hall, hleast⟩ := exists_closing (ws.take n) 0 fun w hw =>
    h w (List.mem_of_mem_take hw)
  exact ⟨t, ht, hall, fun u => hleast u (Nat.zero_le u)⟩

theorem exists_toldAt {i : Nat} {w : Worker} (hw : ws[i]? = some w) :
    ∃ t, toldAt ws i w = some t := by
  unfold toldAt
  split_ifs
  · obtain ⟨t, ht, -⟩ := exists_closing_take h (i + 1)
    exact ⟨t, ht⟩
  · exact Option.isSome_iff_exists.1 (h w (List.mem_of_getElem? hw))

/-- It is told how a worker ended when it and all before it have ended, at the latest. -/
theorem toldAt_le {i t u : Nat} {w : Worker} (hw : ws[i]? = some w) (ht : toldAt ws i w = some t)
    (hu : ∀ v ∈ ws.take (i + 1), ∀ e, v.endsAt = some e → e ≤ u) : t ≤ u := by
  unfold toldAt at ht
  split_ifs at ht
  · obtain ⟨t', ht', -, hleast⟩ := exists_closing_take h (i + 1)
    cases ht.symm.trans ht'
    exact hleast u hu
  · exact hu w (List.mem_of_getElem? ((List.getElem?_take_of_lt (by omega)).trans hw)) t ht

/-- The supervisor tells a crash when all before it are told, at the earliest. -/
theorem toldAt_le_of_crash {i j s t : Nat} {v w : Worker} (hv : ws[j]? = some v)
    (hcrash : w.ending.isCrash = true) (hji : j ≤ i) (hs : toldAt ws j v = some s)
    (ht : toldAt ws i w = some t) : s ≤ t := by
  unfold toldAt at ht
  rw [if_pos hcrash] at ht
  obtain ⟨t', ht', hall, -⟩ := exists_closing_take h (i + 1)
  cases ht.symm.trans ht'
  exact toldAt_le h hv hs fun u hu => hall u (List.take_subset_take_left ws (by omega) hu)

/-- All reports are made when the last worker has ended. -/
theorem exists_closing_reports (began : Nat) :
    ∃ t, closing began ws = some t ∧ ∀ r ∈ reports ws, r.time ≤ t := by
  obtain ⟨t, ht, -, hall, -⟩ := exists_closing ws began h
  refine ⟨t, ht, fun r hr => ?_⟩
  obtain ⟨w, hw, hr, -⟩ := of_mem_reports hr
  exact toldAt_le h hw hr fun v hv => hall v (List.mem_of_mem_take hv)

theorem places_reports : ((reports ws).map (·.place)).Perm (List.range ws.length) := by
  refine ((List.mergeSort_perm ..).map _).trans (.of_eq ?_)
  rw [List.map_filterMap, List.range_eq_range', ← List.zipIdx_map_snd, ← List.filterMap_eq_map]
  refine List.filterMap_congr fun w hw => ?_
  obtain ⟨t, ht⟩ := exists_toldAt h (List.mk_mem_zipIdx_iff_getElem?.1 hw)
  simp [report?, ht]

theorem inOrder_reports : InOrder ws ((reports ws).map (·.place)) where
  perm := places_reports h
  pairwise := by
    refine List.pairwise_map.2 (.imp_of_mem ?_ (List.pairwise_mergeSort Report.noLater_trans
      Report.noLater_total _))
    intro a b ha hb hab hcrash
    obtain ⟨v, hv, hs, hsup, -⟩ := of_mem_reports ha
    obtain ⟨w, hw, ht, hsup', -⟩ := of_mem_reports hb
    have hc : v.ending.isCrash = true := by simpa [crashesAt, hv] using hcrash
    -- Were the place of `b` smaller, it would be told no later, and at the same time before `a`.
    by_contra hlt
    have hle := toldAt_le_of_crash h hw hc (by omega) ht hs
    simp only [Report.noLater, Bool.or_eq_true, Bool.and_eq_true, decide_eq_true_eq,
      Bool.not_eq_true'] at hab
    rcases hab with hab | ⟨-, ⟨hab, -⟩ | ⟨-, hab⟩⟩
    · omega
    · rw [hsup, hc] at hab
      contradiction
    · omega

end Ending

end Worker

end ClusterCensus.Collector
