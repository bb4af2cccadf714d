import ClusterCensus.Proofs.Collector.Waiting

/-!
# How a wait ends

A wait that is under way goes on as it should, or its end is settled (`Kept.move`). When it can make
no move, none of the events that end it has come, and all that is told by then was sent, so time may
pass (`Kept.tick`). So a wait never outlasts the first of the events (`Held.steps`, `Early`).
-/

namespace ClusterCensus.Collector.Waiting

open Starting

variable {t : Terms} {x y : Waiting} {r : Except GroupError Unit}

namespace Kept

theorem settled (h : Kept t x) (htime : y.time = x.time)
    (hcaller : y.callerCancelled = x.callerCancelled)
    (hcancelled : x.cancelled = true → y.cancelled = true) (hend : Ended t y r) :
    Settled t y r where
  begun := htime ▸ h.begun
  early := htime ▸ h.early
  caller := by
    rw [hcaller, htime]
    exact h.caller
  already hc := hcancelled (h.already hc)
  ended := hend

/-- When the last outcome was received, all are told. -/
theorem exists_places (h : Kept t x) (hd : x.attention = .drained) (hc : x.cancelled = false) :
    ∃ places : List Nat, places.Perm (List.range t.workers.length)
      ∧ (∀ i ∈ places, Told x i) ∧ x.received = places.filterMap (noticeAt t.workers)
      ∧ places.Pairwise (ToldNoLater t.workers) := by
  have ho := h.orderly hc
  obtain ⟨hq, hall⟩ := ho.drained hd
  obtain ⟨places, hnodup, hmem, hsent, horder⟩ := ho.told
  refine ⟨places, ?_, fun i => (hmem i).1, ?_, horder⟩
  · refine (List.perm_ext_iff_of_nodup hnodup List.nodup_range).2 fun i => ?_
    rw [hmem, List.mem_range]
    exact ⟨h.lt_of_told, hall i⟩
  · rw [← hsent, sent, hd, hq, List.append_nil]
    exact (List.append_nil _).symm

theorem closed_of_drained (h : Kept t x) (hd : x.attention = .drained) (hc : x.cancelled = false) :
    t.closing.hasCome x.time = true := by
  refine Worker.hasCome_closing.2 ⟨h.begun, fun w hw => ?_⟩
  obtain ⟨i, hi⟩ := List.mem_iff_getElem?.1 hw
  rcases ((h.orderly hc).drained hd).2 i (List.getElem?_eq_some_iff.1 hi).1 with he | ⟨⟨n, he⟩, -⟩
  · exact h.endsAt_of_over hc hi he
  · exact h.endsAt_of_over hc hi he

theorem conclude_of_cancelled (hc : x.cancelled = true) :
    x.conclude = x.finish (.error .cancelled) := by
  rw [Waiting.conclude, if_pos hc]

/-- What comes of a wait whose token is not cancelled is what comes of all it received. -/
theorem result_conclude (hc : x.cancelled = false) (hfirst : x.first = firstOf x.received) :
    x.conclude.result = some (syncResult x.received) := by
  rw [Waiting.conclude, if_neg (by simp [hc]), syncResult, ← firstOf, ← hfirst]
  rcases x.first with _ | ⟨name, f⟩
  · rfl
  · rfl

theorem exists_conclude (x : Waiting) :
    ∃ logs r, x.conclude = { x with logs, result := some r } := by
  unfold Waiting.conclude
  split_ifs
  · exact ⟨_, _, rfl⟩
  · split
    · exact ⟨_, _, rfl⟩
    · exact ⟨_, _, rfl⟩

theorem conclude (h : Kept t x) (hd : x.attention = .drained) :
    ∃ r, x.conclude.result = some r ∧ Settled t x.conclude r := by
  rcases hc : x.cancelled with _ | _
  · have hresult := result_conclude hc (h.orderly hc).first
    obtain ⟨places, hperm, htold, hreceived, horder⟩ := h.exists_places hd hc
    obtain ⟨logs, r, hx⟩ := exists_conclude x
    refine ⟨_, hresult, ?_⟩
    rw [hx]
    refine h.settled rfl rfl id (.reported (h.closed_of_drained hd hc) hc ?_ ?_)
    · rw [hreceived]
      exact firstFailure_syncResult hperm (fun i hi => h.toldBy_of_told hc (htold i hi)) horder
    · intro name f hr
      rw [hreceived] at hr
      exact own_failure_of_syncResult hr
  · rw [conclude_of_cancelled hc]
    exact ⟨_, rfl, h.settled rfl rfl id (.calledOff (h.come hc))⟩

theorem move (h : Kept t x) (hopen : x.result = none) (hm : Move t x y) :
    (y.result = none ∧ Kept t y) ∨ ∃ r, y.result = some r ∧ Settled t y r := by
  cases hm with
  | finish hi hw how => exact .inl ⟨hopen, h.finish hi hw how⟩
  | send hi => exact .inl ⟨hopen, h.send hi⟩
  | pass hi => exact .inl ⟨hopen, h.pass hi⟩
  | report hi => exact .inl ⟨hopen, h.report hi⟩
  | receive hlisten _ hq => exact .inl ⟨hopen, h.receive hlisten hq⟩
  | @look n hlook =>
    rcases hnot : n.failure.isSome && x.cancelled with _ | _
    · refine .inl ⟨?_, h.look hlook hnot⟩
      rw [Waiting.look, if_neg (by simp [hnot])]
      exact hopen
    · have hc : x.cancelled = true := (Bool.and_eq_true_iff.1 hnot).2
      rw [Waiting.look, if_pos hnot]
      exact .inr ⟨_, rfl, h.settled rfl rfl id (.calledOff (h.come hc))⟩
  | drain hlisten _ hq _ hall => exact .inl ⟨hopen, h.drain hlisten hq hall⟩
  | conclude hd => exact .inr (h.conclude hd)
  | callOff _ hc => exact .inr ⟨_, rfl, h.settled rfl rfl id (.calledOff (h.come hc))⟩
  | cancel hdue => exact .inl ⟨hopen, h.cancel hdue⟩
  | spread hcaller => exact .inl ⟨hopen, h.spread hcaller⟩
  | expire _ hdue => exact .inr ⟨_, rfl, h.settled rfl rfl (fun _ => rfl) (.expired hdue rfl)⟩

theorem awaited_le_length (h : Kept t x) : x.awaited ≤ t.workers.length := by
  by_contra hlt
  obtain ⟨crash, he⟩ := h.passed t.workers.length (by omega)
  have := (List.getElem?_eq_some_iff.1 he).1
  have := h.length
  omega

section Idle

variable (h : Kept t x) (idle : ∀ y, ¬ Move t x y)
include idle

theorem listening : x.attention = .listening := by
  rcases ha : x.attention with _ | n | _
  · rfl
  · exact absurd (.look ha) (idle _)
  · exact absurd (.conclude ha) (idle _)

theorem not_cancelled : x.cancelled = false :=
  Bool.eq_false_iff.2 fun hc => idle _ (.callOff (listening idle) hc)

theorem not_calledOff : ¬ t.calledOffAt.hasCome x.time = true := by
  intro hcome
  rcases hcaller : x.callerCancelled with _ | _
  · exact idle _ (.cancel (hasCome_calledOffAt.1 hcome).2 hcaller)
  · exact idle _ (.spread hcaller (not_cancelled idle))

theorem lt_deadline : x.time < t.deadline := by
  by_contra hdue
  exact idle _ (.expire (listening idle) (not_lt.1 hdue))

theorem queue_eq_nil : x.queue = [] := by
  rcases hq : x.queue with _ | ⟨n, rest⟩
  · rfl
  · exact absurd (.receive (listening idle) (not_cancelled idle) hq) (idle _)

theorem room : x.queue.length < capacity t := by
  rw [queue_eq_nil idle, capacity, List.length_nil]
  omega

/-- The supervisor waits for a task that is not over. -/
theorem awaited_not_over (crash : Option Notice) :
    x.errands[x.awaited]? ≠ some (.over crash) := by
  intro he
  rcases crash with _ | n
  · exact idle _ (.pass he)
  · exact idle _ (.report he (room idle))

include h

/-- The task of a collector that has ended is over. -/
theorem over_of_hasCome {i : Nat} {w : Worker} (hw : t.workers[i]? = some w)
    (hcome : w.endsAt.hasCome x.time = true) : ∃ crash, x.errands[i]? = some (.over crash) := by
  have hi : i < x.errands.length := h.length ▸ (List.getElem?_eq_some_iff.1 hw).1
  obtain ⟨e, he⟩ : ∃ e, x.errands[i]? = some e := ⟨_, List.getElem?_eq_getElem hi⟩
  rcases e with _ | n | crash
  · exact absurd (.finish he hw (.inl ⟨hcome, rfl⟩)) (idle _)
  · exact absurd (.send he (room idle)) (idle _)
  · exact ⟨crash, he⟩

theorem told_of_toldBy {i : Nat} (hi : ToldBy t.workers x.time i) : Told x i := by
  obtain ⟨w, hw, hcome⟩ := hi
  rw [Worker.hasCome_toldAt] at hcome
  split_ifs at hcome with hcrash
  · have hover : ∀ j ≤ i, ∃ crash, x.errands[j]? = some (.over crash) := fun j hj => by
      have hlt : j < t.workers.length := hj.trans_lt (List.getElem?_eq_some_iff.1 hw).1
      refine h.over_of_hasCome idle (List.getElem?_eq_getElem hlt) (hcome _ ?_)
      exact List.mem_take_iff_getElem.2 ⟨j, by omega, rfl⟩
    -- The supervisor waits for a task that is not over, so it has passed this one.
    have hlt : i < x.awaited := by
      by_contra hge
      obtain ⟨crash, he⟩ := hover x.awaited (not_lt.1 hge)
      exact awaited_not_over idle crash he
    obtain ⟨_ | n, he⟩ := hover i le_rfl
    · exact .inl he
    · exact .inr ⟨⟨n, he⟩, hlt⟩
  · obtain ⟨_ | n, he⟩ := h.over_of_hasCome idle hw hcome
    · exact .inl he
    · rcases (h.orderly (not_cancelled idle)).course i w _ hw he with he' | ⟨-, he' | ⟨he', -⟩⟩
      · cases he'
      · exact absurd (ended_eq_over he').1 hcrash
      · cases he'

theorem not_closed : ¬ t.closing.hasCome x.time = true := by
  intro hclosed
  have hover : ∀ i < t.workers.length, ∃ crash, x.errands[i]? = some (.over crash) := fun i hi =>
    h.over_of_hasCome idle (List.getElem?_eq_getElem hi)
      ((Worker.hasCome_closing.1 hclosed).2 _ (List.getElem_mem hi))
  rcases h.awaited_le_length.lt_or_eq with hlt | hall
  · obtain ⟨crash, he⟩ := hover x.awaited hlt
    exact awaited_not_over idle crash he
  · refine idle _ (.drain (listening idle) (not_cancelled idle) (queue_eq_nil idle) ?_ hall)
    intro e he
    obtain ⟨i, hi⟩ := List.mem_iff_getElem?.1 he
    obtain ⟨crash, he'⟩ := hover i (h.length ▸ (List.getElem?_eq_some_iff.1 hi).1)
    exact ⟨crash, Option.some.inj (hi.symm.trans he')⟩

/-- Time passes when there is nothing to be done. -/
theorem tick : Kept t { x with time := x.time + 1 } where
  length := h.length
  begun := h.begun.trans (Nat.le_succ _)
  early u hu := by
    rcases Nat.lt_succ_iff_lt_or_eq.1 hu with hlt | rfl
    · exact h.early u hlt
    · exact ⟨not_calledOff idle, h.not_closed idle, lt_deadline idle⟩
  passed := h.passed
  caller hc := Moment.hasCome_mono (h.caller hc) (Nat.le_succ _)
  own := h.own
  already := h.already
  orderly hc := by
    have ho := h.orderly hc
    refine ⟨fun i w e hw he => ?_, ho.told, fun i u hu ht => ?_, ho.first, ho.drained⟩
    · exact (ho.course i w e hw he).imp_right
        (And.imp_left (Moment.hasCome_mono · (Nat.le_succ _)))
    · exact h.told_of_toldBy idle (toldBy_mono ht (Nat.le_of_lt_succ hu))

end Idle

/-- Collectors end no earlier than a wait begins. -/
theorem began_le_of_toldBy {i u : Nat} (h : ToldBy t.workers u i) : t.began ≤ u := by
  obtain ⟨w, hw, hcome⟩ := h
  have hmem := List.mem_of_getElem? hw
  rw [Worker.hasCome_toldAt] at hcome
  split_ifs at hcome
  · refine t.ends_later w hmem u (hcome w ?_)
    exact List.mem_take_iff_getElem.2 ⟨i, by simp [(List.getElem?_eq_some_iff.1 hw).1],
      (List.getElem?_eq_some_iff.1 hw).2⟩
  · exact t.ends_later w hmem u hcome

theorem early_began (t : Terms) : Early t t.began := by
  intro u hu
  refine ⟨fun h => ?_, fun h => ?_, ?_⟩
  · exact absurd (hasCome_calledOffAt.1 h).1 (by omega)
  · exact absurd (Worker.hasCome_closing.1 h).1 (by omega)
  · unfold Terms.deadline
    omega

theorem initial (t : Terms) : Kept t (initial t) where
  length := List.length_replicate
  begun := le_rfl
  early := early_began t
  passed i hi := absurd hi (Nat.not_lt_zero i)
  caller := id
  own := id
  already := id
  orderly hc := by
    have hwaiting : ∀ (i : Nat) (e : Errand),
        (List.replicate t.workers.length Errand.waiting)[i]? = some e → e = .waiting :=
      fun i e he => List.eq_of_mem_replicate (List.mem_of_getElem? he)
    have hnot : ∀ i, ¬ Told (Waiting.initial t) i := by
      rintro i (he | ⟨⟨n, he⟩, -⟩)
      · cases hwaiting i _ he
      · cases hwaiting i _ he
    refine ⟨fun i w e _ he => .inl (hwaiting i e he), ⟨[], List.nodup_nil, ?_, rfl, .nil⟩, ?_, rfl,
      nofun⟩
    · exact fun i => ⟨nofun, fun ht => absurd ht (hnot i)⟩
    · exact fun i u hu ht => absurd (began_le_of_toldBy ht) (not_le.2 hu)

end Kept

/-- What holds of a wait that was begun: it is kept, or it is over and settled. -/
structure Held (t : Terms) (x : Waiting) : Prop where
  kept : x.result = none → Kept t x
  settled : ∀ r, x.result = some r → Settled t x r

namespace Held

theorem of_kept (hopen : x.result = none) (h : Kept t x) : Held t x :=
  ⟨fun _ => h, fun r hr => by cases hopen.symm.trans hr⟩

theorem of_settled (hr : x.result = some r) (h : Settled t x r) : Held t x := by
  refine ⟨fun hopen => ?_, fun r' hr' => ?_⟩
  · cases hopen.symm.trans hr
  · cases hr.symm.trans hr'
    exact h

theorem initial (hsome : t.workers ≠ []) : Held t (initial t) :=
  .of_kept (if_neg hsome) (.initial t)

theorem step (h : Held t x) (hs : Step t x y) : Held t y := by
  cases hs with
  | move hopen hm =>
    rcases (h.kept hopen).move hopen hm with ⟨hopen', hkept⟩ | ⟨r, hr, hsettled⟩
    · exact .of_kept hopen' hkept
    · exact .of_settled hr hsettled
  | pass hopen idle => exact .of_kept hopen ((h.kept hopen).tick idle)

theorem steps {n : Nat} (h : Held t x) (hs : Steps t n x y) : Held t y := by
  induction hs with
  | refl => exact h
  | step _ last ih => exact (ih h).step last

theorem early (h : Held t x) : Early t x.time := by
  rcases hr : x.result with _ | r
  · exact (h.kept hr).early
  · exact (h.settled r hr).early

end Held

namespace Early

variable {u : Nat} (h : Early t u)
include h

theorem le_closing {c : Nat} (hc : t.closing.hasCome c = true) : u ≤ c := by
  by_contra hlt
  exact (h c (not_le.1 hlt)).2.1 hc

theorem le_calledOff {c : Nat} (hc : t.calledOffAt.hasCome c = true) : u ≤ c := by
  by_contra hlt
  exact (h c (not_le.1 hlt)).1 hc

theorem le_deadline : u ≤ t.deadline := by
  by_contra hlt
  exact lt_irrefl _ (h t.deadline (not_le.1 hlt)).2.2

end Early

end ClusterCensus.Collector.Waiting
