import ClusterCensus.Proofs.Collector.Calls

/-!
# The calls to stop, over all calls to a registry

A stop of all collectors acts if it finds the mark of a start. Over all calls it does so just when
there was a start since the last stop that acted, and then every collector that was registered by
then is called once and in order. So a collector was called as often as there were such stops after
its registration (`stop_accounting`).
-/

namespace ClusterCensus.Collector.Scenario

/-- The collectors that calls register, in order. -/
def registered (calls : List Call) : List Collector := calls.filterMap Call.collector?

/-- Whether the call at a place stops all collectors and finds them started. -/
def Acts (calls : List Call) (k : Nat) : Prop :=
  calls[k]? = some .stopAll ∧ (after (calls.take k)).started = true

instance (calls : List Call) (k : Nat) : Decidable (Acts calls k) :=
  inferInstanceAs (Decidable (_ ∧ _))

theorem atRest_empty : AtRest empty :=
  ⟨.nil, by simp [empty], rfl, fun i m hm => by simp [empty] at hm, rfl⟩

theorem after_concat (calls : List Call) (c : Call) :
    after (calls ++ [c]) = (after calls).call c := by
  simp [after]

theorem atRest_after (calls : List Call) : AtRest (after calls)
    ∧ (after calls).members.map (·.collector) = registered calls := by
  induction calls using List.reverseRecOn with
  | nil => exact ⟨atRest_empty, rfl⟩
  | append_singleton calls c ih =>
    have hdid := call_of_atRest ih.1 c
    rw [after_concat]
    refine ⟨hdid.atRest, ?_⟩
    rw [hdid.collectors_eq, ih.2, registered, registered, List.filterMap_append]
    cases c <;> rfl

variable {calls : List Call} {k : Nat}

theorem after_take_succ {c : Call} (h : calls[k]? = some c) :
    Did c (after (calls.take k)) (after (calls.take (k + 1))) := by
  rw [List.take_add_one, h, Option.toList_some, after_concat]
  exact call_of_atRest (atRest_after _).1 c

theorem take_succ_of_none (h : calls[k]? = none) : calls.take (k + 1) = calls.take k := by
  rw [List.take_add_one, h]
  exact List.append_nil _

/-- Whether there was a start before a place and no stop acted in between. -/
def StartedSince (calls : List Call) (k : Nat) : Prop :=
  ∃ j < k, calls[j]? = some .startAll ∧ ∀ i, j < i → i < k → ¬ Acts calls i

theorem startedSince_succ : StartedSince calls (k + 1)
    ↔ calls[k]? = some .startAll ∨ ¬ Acts calls k ∧ StartedSince calls k := by
  constructor
  · rintro ⟨j, hj, hstart, hnone⟩
    rcases Nat.lt_succ_iff_lt_or_eq.1 hj with hlt | rfl
    · exact .inr ⟨hnone k hlt (Nat.lt_succ_self k), j, hlt, hstart,
        fun i hji hik => hnone i hji (Nat.lt_succ_of_lt hik)⟩
    · exact .inl hstart
  · rintro (hstart | ⟨hacts, j, hj, hstart, hnone⟩)
    · exact ⟨k, Nat.lt_succ_self k, hstart, fun i hki hik => by omega⟩
    · refine ⟨j, Nat.lt_succ_of_lt hj, hstart, fun i hji hik => ?_⟩
      rcases Nat.lt_succ_iff_lt_or_eq.1 hik with hlt | rfl
      · exact hnone i hji hlt
      · exact hacts

theorem started_iff (calls : List Call) : ∀ k,
    (after (calls.take k)).started = true ↔ StartedSince calls k
  | 0 => by simp [after, empty, StartedSince]
  | k + 1 => by
    rw [startedSince_succ, ← started_iff calls k]
    unfold Acts
    rcases hc : calls[k]? with _ | c
    · rw [take_succ_of_none hc]
      simp
    · rw [(after_take_succ hc).started_iff, Option.some.injEq, Option.some.injEq]
      tauto

theorem acts_iff (calls : List Call) (k : Nat) :
    Acts calls k ↔ calls[k]? = some .stopAll ∧ StartedSince calls k := by
  rw [Acts, started_iff]

theorem length_members_after (calls : List Call) :
    (after calls).members.length = (registered calls).length := by
  rw [← (atRest_after calls).2, List.length_map]

/-- A stop that acts calls every collector once, and no other call does. -/
theorem stops_after_succ (calls : List Call) (k : Nat) :
    (after (calls.take (k + 1))).stops = (after (calls.take k)).stops
      ++ if Acts calls k then StopMark.each (List.range (registered (calls.take k)).length)
        else [] := by
  by_cases hacts : Acts calls k
  · rw [if_pos hacts, (after_take_succ hacts.1).stops_eq, if_pos ⟨rfl, hacts.2⟩,
      length_members_after]
  · rw [if_neg hacts, List.append_nil]
    rcases hc : calls[k]? with _ | c
    · rw [take_succ_of_none hc]
    · rw [(after_take_succ hc).stops_eq, if_neg, List.append_nil]
      rintro ⟨rfl, hstarted⟩
      exact hacts ⟨hc, hstarted⟩

theorem count_each (i : Nat) : ∀ l : List Nat,
    (StopMark.each l).count (.called i) = l.count i
      ∧ (StopMark.each l).count (.returned i) = l.count i
  | [] => ⟨rfl, rfl⟩
  | j :: l => by
    obtain ⟨hcalled, hreturned⟩ := count_each i l
    have hcons : StopMark.each (j :: l) = .called j :: .returned j :: StopMark.each l := rfl
    simp [hcons, List.count_cons, hcalled, hreturned]

/-- How often a collector was called, and how often that returned: once in each stop that acted when
the collector was there. -/
theorem count_stops (calls : List Call) (i : Nat) : ∀ k,
    (after (calls.take k)).stops.count (.called i)
        = (List.range k).countP (fun j => Acts calls j ∧ i < (registered (calls.take j)).length)
      ∧ (after (calls.take k)).stops.count (.returned i)
        = (List.range k).countP (fun j => Acts calls j ∧ i < (registered (calls.take j)).length)
  | 0 => ⟨rfl, rfl⟩
  | k + 1 => by
    obtain ⟨hcalled, hreturned⟩ := count_stops calls i k
    rw [stops_after_succ, List.count_append, List.count_append, hcalled, hreturned,
      List.range_succ, List.countP_append, List.countP_singleton]
    by_cases hacts : Acts calls k
    · simp [hacts, count_each]
    · simp [hacts]

/-- A collector that is registered by a call at a place is there just after it. -/
theorem lt_length_registered {r : Nat} {c : Collector} (h : calls[r]? = some (.register c))
    (k : Nat) :
    (registered (calls.take r)).length < (registered (calls.take k)).length ↔ r < k := by
  have hmono : ∀ {a b : Nat}, a ≤ b →
      (registered (calls.take a)).length ≤ (registered (calls.take b)).length := fun hab =>
    ((List.take_prefix_take_left hab).filterMap Call.collector?).length_le
  have hnext : (registered (calls.take (r + 1))).length
      = (registered (calls.take r)).length + 1 := by
    rw [List.take_add_one, h, registered, registered, List.filterMap_append, List.length_append]
    rfl
  constructor
  · intro hlt
    by_contra hle
    have := hmono (Nat.not_lt.1 hle)
    omega
  · intro hlt
    have := hmono (show r + 1 ≤ k from hlt)
    omega

theorem getElem?_registered {r : Nat} {c : Collector} (h : calls[r]? = some (.register c)) :
    (registered calls)[(registered (calls.take r)).length]? = some c := by
  obtain ⟨hlt, hr⟩ := List.getElem?_eq_some_iff.1 h
  have hsplit : registered calls
      = registered (calls.take r) ++ c :: registered (calls.drop (r + 1)) := by
    conv_lhs => rw [← List.take_append_drop r calls, List.drop_eq_getElem_cons hlt, hr]
    rw [registered, List.filterMap_append]
    rfl
  rw [hsplit, List.getElem?_append_right (Nat.le_refl _), Nat.sub_self]
  rfl

/-- A collector was called, and the call returned, in the stops that acted after it registered. -/
theorem count_stops_of_register {r : Nat} {c : Collector} (h : calls[r]? = some (.register c)) :
    (after calls).stops.count (.called (registered (calls.take r)).length)
        = (List.range calls.length).countP (fun k => Acts calls k ∧ r < k)
      ∧ (after calls).stops.count (.returned (registered (calls.take r)).length)
        = (List.range calls.length).countP (fun k => Acts calls k ∧ r < k) := by
  have hcount := count_stops calls (registered (calls.take r)).length calls.length
  rw [List.take_length] at hcount
  simp only [lt_length_registered h] at hcount
  exact hcount

/-- Over all calls to a registry, a stop of all collectors acts just when there was a start since
the last one that did. It leaves the registry stopped and calls every collector that is registered
by then once, one after the other in their order; no other call stops anybody. So a collector was
called, and the call returned, as often as a stop acted after its registration. What is seen of the
collectors tells of the same returns. -/
theorem stop_accounting (calls : List Call) :
    (∀ k, Acts calls k ↔ calls[k]? = some .stopAll
        ∧ ∃ j < k, calls[j]? = some .startAll ∧ ∀ i, j < i → i < k → ¬ Acts calls i)
      ∧ (∀ k, Acts calls k → (after (calls.take (k + 1))).started = false
        ∧ (after (calls.take (k + 1))).stops = (after (calls.take k)).stops
          ++ (List.range (registered (calls.take k)).length).flatMap
            fun i => [.called i, .returned i])
      ∧ (∀ k, ¬ Acts calls k →
        (after (calls.take (k + 1))).stops = (after (calls.take k)).stops)
      ∧ (after calls).members.map (·.collector) = registered calls
      ∧ (∀ r c, calls[r]? = some (.register c) →
        let i := (registered (calls.take r)).length
        let acting := (List.range calls.length).countP fun k => Acts calls k ∧ r < k
        (registered calls)[i]? = some c ∧ (after calls).stops.count (.called i) = acting
          ∧ (after calls).stops.count (.returned i) = acting)
      ∧ (after calls).seen.filterMap Seen.stopped?
        = (after calls).stops.filterMap StopMark.returned? := by
  refine ⟨acts_iff calls, fun k hacts => ⟨?_, ?_⟩, fun k hacts => ?_, (atRest_after calls).2,
    fun r c hc => ⟨getElem?_registered hc, count_stops_of_register hc⟩,
    (atRest_after calls).1.tied⟩
  · have hdid := after_take_succ hacts.1
    simpa using hdid.started_iff
  · rw [stops_after_succ, if_pos hacts]
    rfl
  · rw [stops_after_succ, if_neg hacts, List.append_nil]

end ClusterCensus.Collector.Scenario
