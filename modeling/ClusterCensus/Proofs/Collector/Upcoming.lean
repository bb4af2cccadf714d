import ClusterCensus.Proofs.Collector.Run
import ClusterCensus.Proofs.Time.Moment

/-!
# What an agenda brings

The token in use is cancelled when the agenda says so (`hasCome_cancelMoment`), and not before
(`Spared.passUntil`), whatever else happens until then. What a collector will be seen doing by the
agenda it is seen doing when its time has passed (`WillSee.passUntil`).
-/

namespace ClusterCensus.Collector.Scenario

variable {s t : Scenario}

/-- The token in use is cancelled when the agenda says so, or it was before. -/
theorem hasCome_cancelMoment {n : Nat} : s.cancelMoment.hasCome n = true
    ↔ if s.token ∈ s.cancelled then s.time ≤ n
      else ∃ e ∈ s.agenda, e.2.cancels s.token = true ∧ e.1.time ≤ n := by
  unfold cancelMoment
  split_ifs with hcancelled
  · exact Moment.hasCome_some
  · rw [Moment.hasCome_earliest]
    constructor
    · rintro ⟨m, hm, hcome⟩
      obtain ⟨⟨slot, a⟩, he, heq⟩ := List.mem_filterMap.1 hm
      refine ⟨(slot, a), he, ?_⟩
      cases a with
      | cancel token =>
        simp only [Option.ite_none_right_eq_some, Option.some.injEq] at heq
        obtain ⟨htoken, rfl⟩ := heq
        exact ⟨by simp [Act.cancels, htoken], Moment.hasCome_some.1 hcome⟩
      | cancelInUse =>
        cases heq
        exact ⟨rfl, Moment.hasCome_some.1 hcome⟩
      | _ => cases heq
    · rintro ⟨⟨slot, a⟩, he, hcancels, hle⟩
      refine ⟨some slot.time, List.mem_filterMap.2 ⟨(slot, a), he, ?_⟩, Moment.hasCome_some.2 hle⟩
      cases a with
      | cancel token =>
        have htoken : token = s.token := by simpa [Act.cancels] using hcancels
        simp [htoken]
      | cancelInUse => rfl
      | _ => cases hcancels

theorem began_le_cancelMoment (h : s.Current) {c : Nat} (hc : s.cancelMoment = some c) :
    s.time ≤ c := by
  have hcome := hasCome_cancelMoment.1 (Moment.hasCome_of_eq hc)
  split_ifs at hcome
  · exact hcome
  · obtain ⟨e, he, -, hle⟩ := hcome
    exact (h.ahead e he).trans hle

/-- What a launch changes: some of the acts happen, and the others are on the agenda. -/
theorem minor_launch {acts : List (Nat × Act)} (h : ∀ a ∈ acts, a.2.isMinor = true)
    (s : Scenario) : Minor s ((acts.filter (·.1 ≤ s.time)).foldl (fun s a => s.perform a.2) s) :=
  rel_foldl _ (fun a ha s => .perform s (h a (List.mem_of_mem_filter ha))) s

/-- What is to come by a time cancels a token only when a moment has come. -/
structure Spared (token : Nat) (m : Moment) (time : Nat) (s : Scenario) : Prop where
  token_eq : s.token = token
  cancelled : token ∈ s.cancelled → m.hasCome time = true
  agenda : ∀ e ∈ s.agenda, e.2.cancels token = true → m.hasCome e.1.time = true

namespace Spared

variable {token time : Nat} {m : Moment} {t : Scenario}

theorem of_minor (h : Spared token m time s) (hminor : Minor s t) : Spared token m time t := by
  have ho := Onward.of_minor hminor
  refine ⟨ho.token_eq.trans h.token_eq, fun hc => ?_, fun e he hcancels => ?_⟩
  · exact h.cancelled (hminor.cancelled_eq ▸ hc)
  · rcases ho.comes e he with he | ⟨hfollow, -⟩
    · exact h.agenda e he hcancels
    · rw [Act.cancels_of_isMinor (Act.isMinor_of_isFollowUp hfollow)] at hcancels
      cases hcancels

theorem plan (h : Spared token m time s) (turn : Turn) {acts : List (Nat × Act)}
    (hacts : ∀ a ∈ acts, a.2.cancels token = false) : Spared token m time (s.plan turn acts) := by
  rw [plan_eq]
  refine ⟨h.token_eq, h.cancelled, fun e he hcancels => ?_⟩
  rcases List.mem_append.1 ((perm_plan turn acts s).mem_iff.1 he) with he | he
  · obtain ⟨a, ha, rfl⟩ := List.mem_map.1 he
    rw [hacts a ha] at hcancels
    cases hcancels
  · exact h.agenda e he hcancels

theorem launch (h : Spared token m time s) {acts : List (Nat × Act)}
    (hacts : ∀ a ∈ acts, a.2.isMinor = true) : Spared token m time (s.launch acts) :=
  (h.of_minor (minor_launch hacts s)).plan _ fun a ha =>
    Act.cancels_of_isMinor (hacts a (List.mem_of_mem_filter ha)) token

theorem next (h : Spared token m time s) (hdue : isDue time s = true) :
    Spared token m time s.next := by
  rcases next_cases s with ⟨-, hnext⟩ | ⟨e, rest, ha, hnext⟩
  · rwa [hnext]
  · rw [hnext]
    set after : Scenario := { s with agenda := rest, time := max s.time e.1.time }
    have ho := Onward.perform after e.2
    have hhead : e.2.cancels token = true → m.hasCome time = true := fun hcancels => by
      have hle : e.1.time ≤ time := by simpa [isDue, ha] using hdue
      exact Moment.hasCome_mono (h.agenda e (ha ▸ List.mem_cons_self) hcancels) hle
    have htoken : after.token = token := h.token_eq
    refine ⟨ho.token_eq.trans htoken, fun hc => ?_, fun x hx hcancels => ?_⟩
    · rw [← htoken] at hc hhead
      rcases cancelled_of_perform hc with hc | hcancels
      · exact h.cancelled (htoken ▸ hc)
      · exact hhead hcancels
    · rcases ho.comes x hx with hx | ⟨hfollow, -⟩
      · exact h.agenda x (ha ▸ List.mem_cons_of_mem e hx) hcancels
      · rw [Act.cancels_of_isMinor (Act.isMinor_of_isFollowUp hfollow)] at hcancels
        cases hcancels

theorem passUntil (h : Spared token m (wholeMillis time) s)
    (hc : token ∈ (s.passUntil time).cancelled) : m.hasCome (wholeMillis time) = true :=
  (runWhile_induct (P := Spared token m (wholeMillis time)) (fun _ hdue ht => ht.next hdue) s
    h).1.cancelled hc

theorem of_current (h : s.Current) (hle : s.time ≤ time) :
    Spared s.token s.cancelMoment time s where
  token_eq := rfl
  cancelled hc := hasCome_cancelMoment.2 (by rwa [if_pos hc])
  agenda e he hcancels := by
    refine hasCome_cancelMoment.2 ?_
    split_ifs
    · exact h.ahead e he
    · exact ⟨e, he, hcancels, le_rfl⟩

end Spared

/-- By the agenda a collector will be seen doing something by a time, or it was seen. -/
def WillSee (i : Nat) (d : Deed) (time : Nat) (s : Scenario) : Prop :=
  (∃ e ∈ s.agenda, e.2 = .deed i d ∧ e.1.time ≤ time) ∨ ∃ name, Seen.deed i name d ∈ s.seen

namespace WillSee

variable {i time : Nat} {d : Deed}

theorem onward (h : WillSee i d time s) (ho : Onward s t) : WillSee i d time t := by
  rcases h with ⟨e, he, hd, hle⟩ | ⟨name, hseen⟩
  · exact .inl ⟨e, ho.stays e he, hd, hle⟩
  · exact .inr ⟨name, ho.seen.subset hseen⟩

theorem plan (h : WillSee i d time s) (turn : Turn) (acts : List (Nat × Act)) :
    WillSee i d time (s.plan turn acts) := by
  rcases h with ⟨e, he, hd, hle⟩ | hseen
  · exact .inl ⟨e, (perm_plan turn acts s).mem_iff.2 (List.mem_append_right _ he), hd, hle⟩
  · rw [plan_eq]
    exact .inr hseen

theorem of_mem_plan {acts : List (Nat × Act)} {u : Nat} (h : (u, Act.deed i d) ∈ acts)
    (hle : u ≤ time) (turn : Turn) (s : Scenario) : WillSee i d time (s.plan turn acts) := by
  refine .inl ⟨(⟨u, turn⟩, .deed i d), (perm_plan turn acts s).mem_iff.2 ?_, rfl, hle⟩
  exact List.mem_append_left _ (List.mem_map.2 ⟨_, h, rfl⟩)

theorem of_mem_foldl {u : Nat} : ∀ {acts : List (Nat × Act)}, (u, Act.deed i d) ∈ acts →
    ∀ s : Scenario, WillSee i d time (acts.foldl (fun s a => s.perform a.2) s)
  | a :: acts, h, s => by
    rcases List.mem_cons.1 h with rfl | h
    · have hseen : WillSee i d time (s.see i d) :=
        .inr ⟨s.nameOf i, List.mem_append_right _ List.mem_cons_self⟩
      exact hseen.onward (.foldl_perform acts _)
    · exact of_mem_foldl h _

theorem of_mem_launch {acts : List (Nat × Act)} {u : Nat} (h : (u, Act.deed i d) ∈ acts)
    (hle : u ≤ time) (s : Scenario) : WillSee i d time (s.launch acts) := by
  unfold launch
  by_cases hnow : u ≤ s.time
  · exact (of_mem_foldl (List.mem_filter.2 ⟨h, by simpa using hnow⟩) s).plan ..
  · exact of_mem_plan (List.mem_filter.2 ⟨h, by simpa using hnow⟩) hle ..

theorem next (h : WillSee i d time s) : WillSee i d time s.next := by
  rcases next_cases s with ⟨-, hnext⟩ | ⟨e, rest, ha, hnext⟩
  · rwa [hnext]
  · rw [hnext]
    let after : Scenario := { s with agenda := rest, time := max s.time e.1.time }
    have hstays : WillSee i d time after → WillSee i d time (after.perform e.2) :=
      (·.onward (.perform after e.2))
    rcases h with ⟨x, hx, hd, hle⟩ | hseen
    · rcases List.mem_cons.1 (ha ▸ hx) with rfl | hx
      · rw [hd]
        exact .inr ⟨_, List.mem_append_right _ List.mem_cons_self⟩
      · exact hstays (.inl ⟨x, hx, hd, hle⟩)
    · exact hstays (.inr hseen)

/-- When the time has passed it was seen. -/
theorem passUntil (h : WillSee i d (wholeMillis time) s) (horder : s.agenda.InOrder) :
    ∃ name, Seen.deed i name d ∈ (s.passUntil time).seen := by
  obtain ⟨⟨horder, h⟩, hend⟩ := runWhile_induct (p := isDue (wholeMillis time))
    (P := fun t => t.agenda.InOrder ∧ WillSee i d (wholeMillis time) t)
    (fun _ _ ht => ⟨inOrder_next ht.1, ht.2.next⟩) s ⟨horder, h⟩
  rcases h with ⟨x, hx, -, hle⟩ | hseen
  · exact absurd hle (Nat.not_le_of_lt (lt_of_not_due horder hend x hx))
  · exact hseen

end WillSee

end ClusterCensus.Collector.Scenario
