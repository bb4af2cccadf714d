import ClusterCensus.Proofs.Collector.Quiet

/-!
# Stopping all collectors

A stop of all collectors calls one after the other (`StopStage`): the call to a collector returns
before the next one is called. In between the stop is on the agenda, to go on at some time, or waits
for the end of a duty that is still to come. So it comes to its end, and then every collector was
called once, in the order of their registration (`stopStage_next`, `finished_of_not_stopping`).
-/

namespace ClusterCensus.Collector

/-- The calls that stop collectors one after the other. -/
def StopMark.each (members : List Nat) : List StopMark :=
  members.flatMap fun i => [.called i, .returned i]

theorem StopMark.each_concat (members : List Nat) (i : Nat) :
    each (members ++ [i]) = each members ++ [.called i, .returned i] := by
  rw [each, List.flatMap_append, List.flatMap_singleton]
  rfl

namespace Scenario

variable {s t : Scenario}

/-- What holds all the time while collectors are stopped. -/
structure Ceasing (cs : List Collector) (s : Scenario) : Prop where
  started_eq : s.started = false
  collectors_eq : s.members.map (·.collector) = cs
  inOrder : s.agenda.InOrder
  loads : Loads s
  tied : s.seen.filterMap Seen.stopped? = s.stops.filterMap StopMark.returned?

/-- How far a stop of `n` collectors is: over, about to go on after the call to one of them, or
waiting for the end of its duty. -/
inductive StopStage (earlier : List StopMark) (n : Nat) (s : Scenario) : Prop where
  | finished (quiet : ∀ e ∈ s.agenda, e.2.isQuiet = true) (waiting : s.waiting = [])
    (stops : s.stops = earlier ++ StopMark.each (List.range n))
  | asleep {i : Nat} {done rest : List Nat} {onDuty : Bool}
    (split : List.range n = done ++ i :: rest) (waiting : s.waiting = [])
    (stops : s.stops = earlier ++ StopMark.each done ++ [.called i])
    (acts : ∀ e ∈ s.agenda, e.2.isQuiet = true ∨ e.2 = .resume ⟨.step, i, onDuty, rest⟩)
    (one : s.agenda.countP (fun e => !e.2.isQuiet) = 1)
  | onDuty {i : Nat} {done rest : List Nat} {m : Member}
    (split : List.range n = done ++ i :: rest) (waiting : s.waiting = [⟨.step, i, true, rest⟩])
    (stops : s.stops = earlier ++ StopMark.each done ++ [.called i])
    (quiet : ∀ e ∈ s.agenda, e.2.isQuiet = true)
    (member : s.members[i]? = some m) (cancelled : m.runner.cancelledAt.isSome = true)
    (ends : ∃ e ∈ s.agenda, e.2 = .drain i ∨ e.2 = .load i)

namespace Ceasing

variable {cs : List Collector}

theorem aside (h : Ceasing cs s) (ha : Aside s t)
    (hcollectors : t.members.map (·.collector) = s.members.map (·.collector)) (hloads : Loads t) :
    Ceasing cs t where
  started_eq := ha.started_eq.trans h.started_eq
  collectors_eq := hcollectors.trans h.collectors_eq
  inOrder := ha.agenda_eq ▸ h.inOrder
  loads := hloads
  tied := by rw [ha.stopped_eq, ha.stops_eq, h.tied]

theorem callStop (h : Ceasing cs s) (i : Nat) : Ceasing cs (s.callStop i) where
  started_eq := h.started_eq
  collectors_eq := h.collectors_eq
  inOrder := h.inOrder
  loads := h.loads
  tied := by
    rw [Scenario.callStop, List.filterMap_append]
    exact h.tied.trans (List.append_nil _).symm

theorem stopReturns (h : Ceasing cs s) (i : Nat) : Ceasing cs (s.stopReturns i) where
  started_eq := h.started_eq
  collectors_eq := h.collectors_eq
  inOrder := h.inOrder
  loads := h.loads
  tied := by
    rw [Scenario.stopReturns, Scenario.see, List.filterMap_append, List.filterMap_append, h.tied]
    rfl

theorem put (h : Ceasing cs s) (slot : Slot) (a : Act) : Ceasing cs (s.put slot a) where
  started_eq := h.started_eq
  collectors_eq := h.collectors_eq
  inOrder := Agenda.inOrder_insert slot a h.inOrder
  loads := h.loads.put slot a
  tied := h.tied

theorem halt (h : Ceasing cs s) (i time : Nat) : Ceasing cs (s.change i (·.halt time)) where
  started_eq := h.started_eq
  collectors_eq :=
    (Minor.map_modify (f := (·.halt time)) (fun _ => rfl) i s.members).trans h.collectors_eq
  inOrder := h.inOrder
  loads j m hm hduty := by
    rw [change, List.getElem?_modify] at hm
    obtain ⟨m', hm', rfl⟩ := Option.map_eq_some_iff.1 hm
    have hsame : ∀ b : Prop, [Decidable b] → (if b then m'.halt time else m').loaded = m'.loaded
        ∧ (if b then m'.halt time else m').runner.duty = m'.runner.duty := fun b _ => by
      split_ifs <;> exact ⟨rfl, rfl⟩
    rw [(hsame _).2] at hduty
    rw [(hsame _).1]
    exact h.loads j m' hm' hduty
  tied := h.tied

end Ceasing

/-- What is put on an agenda of quiet acts is the only other act on it. -/
theorem countP_put (hquiet : ∀ e ∈ s.agenda, e.2.isQuiet = true) (slot : Slot) {a : Act}
    (ha : a.isQuiet = false) : (s.put slot a).agenda.countP (fun e => !e.2.isQuiet) = 1 := by
  have hnone : s.agenda.countP (fun e => !e.2.isQuiet) = 0 :=
    List.countP_eq_zero.2 fun e he => by simp [hquiet e he]
  rw [put, (Agenda.perm_insert slot a s.agenda).countP_eq, List.countP_cons, hnone]
  simp [ha]

theorem stopStage_asleep {earlier : List StopMark} {n i : Nat} {done rest : List Nat}
    (hsplit : List.range n = done ++ i :: rest) (hquiet : ∀ e ∈ s.agenda, e.2.isQuiet = true)
    (hwaiting : s.waiting = []) (hstops : s.stops = earlier ++ StopMark.each done ++ [.called i])
    (slot : Slot) (onDuty : Bool) :
    StopStage earlier n (s.put slot (.resume ⟨.step, i, onDuty, rest⟩)) := by
  have hperm := Agenda.perm_insert slot (.resume ⟨.step, i, onDuty, rest⟩) s.agenda
  have hacts : ∀ e ∈ (s.put slot (.resume ⟨.step, i, onDuty, rest⟩)).agenda,
      e.2.isQuiet = true ∨ e.2 = .resume ⟨.step, i, onDuty, rest⟩ := fun e he => by
    rcases List.mem_cons.1 (hperm.mem_iff.1 he) with rfl | he
    · exact .inr rfl
    · exact .inl (hquiet e he)
  exact .asleep hsplit hwaiting hstops hacts (countP_put hquiet _ rfl)

theorem getElem?_halt {i : Nat} {m : Member} (h : s.members[i]? = some m) (time : Nat) :
    (s.change i (·.halt time)).members[i]? = some (m.halt time)
      ∧ (m.halt time).runner.cancelledAt.isSome = true := by
  refine ⟨?_, ?_⟩
  · rw [change, List.getElem?_modify, h]
    simp
  · simp only [Member.halt, Runner.halt, Runner.cancel]
    cases m.runner.cancelledAt <;> rfl

theorem stops_stopReturns {earlier : List StopMark} {done : List Nat} {i : Nat}
    (h : s.stops = earlier ++ StopMark.each done ++ [.called i]) :
    (s.stopReturns i).stops = earlier ++ StopMark.each (done ++ [i]) := by
  rw [stopReturns, h, StopMark.each_concat]
  simp

/-- A stop that goes on with some collectors comes to a stage of it. -/
theorem stopStage_proceed {earlier : List StopMark} {cs : List Collector} :
    ∀ (rest done : List Nat) (s : Scenario), Ceasing cs s →
      List.range cs.length = done ++ rest → (∀ e ∈ s.agenda, e.2.isQuiet = true) →
      s.waiting = [] → s.stops = earlier ++ StopMark.each done →
      Ceasing cs (proceed .step rest s) ∧ StopStage earlier cs.length (proceed .step rest s)
  | [], done, s, h, hsplit, hquiet, hwaiting, hstops => by
    rw [List.append_nil] at hsplit
    refine ⟨⟨h.started_eq, h.collectors_eq, h.inOrder, h.loads, h.tied⟩,
      .finished hquiet hwaiting ?_⟩
    rw [hsplit]
    exact hstops
  | i :: rest, done, s, h, hsplit, hquiet, hwaiting, hstops => by
    have hlt : i < s.members.length := by
      rw [← List.length_map (·.collector), h.collectors_eq, ← List.mem_range, hsplit]
      simp
    have hcalled : (s.callStop i).stops = earlier ++ StopMark.each done ++ [.called i] := by
      rw [callStop, hstops]
    -- Once the call has returned, the stop goes on with the others.
    have hgo : ∀ t, Ceasing cs t → t.agenda = s.agenda → t.waiting = [] →
        t.stops = (s.callStop i).stops →
        Ceasing cs (proceed .step rest (t.stopReturns i))
          ∧ StopStage earlier cs.length (proceed .step rest (t.stopReturns i)) :=
      fun t ht hagenda hwait hstop =>
        stopStage_proceed rest (done ++ [i]) _ (ht.stopReturns i)
          (hsplit.trans (List.append_cons ..)) (fun e he => hquiet e (hagenda ▸ he)) hwait
          (stops_stopReturns (hstop.trans hcalled))
    have h₁ := h.callStop i
    obtain ⟨m, hm⟩ : ∃ m, (s.callStop i).members[i]? = some m :=
      ⟨_, List.getElem?_eq_getElem hlt⟩
    unfold proceed
    simp only [hm]
    split
    · rename_i script _
      have h₂ : Ceasing cs ((s.callStop i).see i .stop) :=
        h₁.aside (.see _ i (by decide)) rfl h₁.loads
      split_ifs
      · exact hgo _ h₂ rfl hwaiting rfl
      · exact ⟨h₂.put _ _, stopStage_asleep (s := (s.callStop i).see i .stop) hsplit hquiet hwaiting
          hcalled _ false⟩
    · have h₂ := h₁.halt i (s.callStop i).time
      obtain ⟨hmember, hcancelled⟩ := getElem?_halt hm (s.callStop i).time
      split_ifs with hstopped hidle hloaded
      · exact hgo _ h₁ rfl hwaiting rfl
      · exact hgo _ h₂ rfl hwaiting rfl
      · have hperm := Agenda.perm_insert ⟨s.time, .usual⟩ (.drain i) s.agenda
        have h₃ : Ceasing cs (((s.callStop i).change i (·.halt (s.callStop i).time)).await
            ⟨.step, i, true, rest⟩) := ⟨h₂.1, h₂.2, h₂.3, h₂.4, h₂.5⟩
        refine ⟨h₃.put _ _, .onDuty hsplit ?_ hcalled (fun e he => ?_) hmember hcancelled ?_⟩
        · exact congrArg (· ++ _) hwaiting
        · rcases List.mem_cons.1 (hperm.mem_iff.1 he) with rfl | he
          · rfl
          · exact hquiet e he
        · exact ⟨_, hperm.mem_iff.2 List.mem_cons_self, .inl rfl⟩
      · refine ⟨⟨h₂.1, h₂.2, h₂.3, h₂.4, h₂.5⟩,
          .onDuty hsplit (congrArg (· ++ _) hwaiting) hcalled hquiet hmember hcancelled ?_⟩
        have hduty : m.runner.duty.isSome = true := by
          rcases hd : m.runner.duty with _ | d
          · simp [hd] at hidle
          · rfl
        obtain ⟨e, he, hi⟩ := (h₁.loads i m hm hduty).resolve_left (by simpa using hloaded)
        exact ⟨e, he, .inr hi⟩

section Next

variable {cs : List Collector} {earlier : List StopMark} {e : Slot × Act} {rest : Agenda Act}

theorem Ceasing.ripen (h : Ceasing cs s) (ha : s.agenda = e :: rest) (haside : Aside
    { s with agenda := rest, time := max s.time e.1.time } t)
    (hmembers : t.members = e.2.ripen s.members) : Ceasing cs t where
  started_eq := haside.started_eq.trans h.started_eq
  collectors_eq := by rw [hmembers, Act.map_ripen, h.collectors_eq]
  inOrder := haside.agenda_eq ▸ (ha ▸ h.inOrder : Agenda.InOrder (e :: rest)).tail
  loads := h.loads.ripen ha hmembers fun x hx => by rwa [haside.agenda_eq]
  tied := by rw [haside.stopped_eq, haside.stops_eq]; exact h.tied

/-- While a stop waits for the end of a duty, a quiet act lets it wait, or ends that duty. -/
theorem perform_while_waiting {a : Act} {w : Stopping} {m : Member} (h : a.isQuiet = true)
    (hw : s.waiting = [w]) (hm : s.members[w.member]? = some m)
    (hc : m.runner.cancelledAt.isSome = true) :
    ∃ t, Aside s t ∧ t.members = a.ripen s.members
      ∧ (s.perform a = t ∧ a ≠ .drain w.member ∧ a ≠ .load w.member
        ∨ s.perform a = ({ t with waiting := [] } : Scenario).put
          ⟨t.time, w.caller.turnAfterOthers⟩ (.resume w)) := by
  obtain ⟨t, haside, hmembers, ⟨ht, hnone⟩ | ⟨j, hends, ht⟩⟩ := perform_of_quiet (s := s) h
  · refine ⟨t, haside, hmembers, .inl ⟨ht, fun hd => ?_, fun hl => ?_⟩⟩
    · exact hnone _ (.inl hd)
    · exact hnone _ (.inr ⟨hl, m, hm, hc⟩)
  · refine ⟨t.see j .drained, haside.trans (.see t j (by decide)), hmembers, ?_⟩
    rw [ht]
    by_cases hj : w.member = j
    · exact .inr (drain_of_one (haside.waiting_eq.trans hw) hj)
    · have hother : a ≠ .drain w.member ∧ a ≠ .load w.member := by
        rcases hends with rfl | ⟨rfl, -⟩ <;> simp [Ne.symm hj]
      refine .inl ⟨drain_of_nobody fun v hv => ?_, hother⟩
      rw [haside.waiting_eq, hw] at hv
      cases List.mem_singleton.1 hv
      exact hj

/-- What comes next brings a stop to a stage of it. -/
theorem stopStage_next (h : Ceasing cs s) (hs : StopStage earlier cs.length s) :
    Ceasing cs s.next ∧ StopStage earlier cs.length s.next := by
  rcases next_cases s with ⟨-, hnext⟩ | ⟨e, rest, ha, hnext⟩
  · rw [hnext]
    exact ⟨h, hs⟩
  · let passed : Scenario := { s with agenda := rest, time := max s.time e.1.time }
    have hhead : e ∈ s.agenda := ha ▸ List.mem_cons_self
    have htail : ∀ x ∈ rest, x ∈ s.agenda := fun x hx => ha ▸ List.mem_cons_of_mem _ hx
    rw [hnext]
    cases hs with
    | finished quiet waiting stops =>
      obtain ⟨haside, hmembers⟩ := aside_of_quiet (s := passed) (quiet e hhead) waiting
      have hagenda : (passed.perform e.2).agenda = rest := haside.agenda_eq
      refine ⟨h.ripen ha haside hmembers, .finished (fun x hx => ?_) ?_ ?_⟩
      · exact quiet x (htail x (hagenda ▸ hx))
      · exact haside.waiting_eq.trans waiting
      · exact haside.stops_eq.trans stops
    | @asleep i done others onDuty split waiting stops acts one =>
      rw [ha, List.countP_cons] at one
      rcases acts e hhead with hquiet | hresume
      · obtain ⟨haside, hmembers⟩ := aside_of_quiet (s := passed) hquiet waiting
        have hagenda : (passed.perform e.2).agenda = rest := haside.agenda_eq
        have hacts := fun x hx => acts x (htail x (hagenda ▸ hx))
        refine ⟨h.ripen ha haside hmembers, .asleep split (haside.waiting_eq.trans waiting)
          (haside.stops_eq.trans stops) hacts ?_⟩
        rw [hagenda]
        simpa [hquiet] using one
      · have hquiet : ∀ x ∈ rest, x.2.isQuiet = true := by
          have hnone : rest.countP (fun e => !e.2.isQuiet) = 0 := by
            simpa [hresume, Act.isQuiet] using one
          intro x hx
          simpa using List.countP_eq_zero.1 hnone x hx
        have hpassed : Ceasing cs passed := h.ripen ha (.refl _) (by rw [hresume]; rfl)
        have hsplit := split.trans (List.append_cons ..)
        rw [hresume]
        unfold perform resume
        cases onDuty with
        | false =>
          exact stopStage_proceed others (done ++ [i]) _ (hpassed.stopReturns i) hsplit hquiet
            waiting (stops_stopReturns stops)
        | true =>
          have hlogged : Ceasing cs (passed.log (Log.Origin.task.debug "Background task exited")) :=
            ⟨hpassed.1, hpassed.2, hpassed.3, hpassed.4, hpassed.5⟩
          exact stopStage_proceed others (done ++ [i]) _ (hlogged.stopReturns i) hsplit hquiet
            waiting (stops_stopReturns stops)
    | @onDuty i done others m split waiting stops quiet member cancelled ends =>
      obtain ⟨t, haside, hmembers, hperform⟩ :=
        perform_while_waiting (s := passed) (quiet e hhead) waiting member cancelled
      have ht : Ceasing cs t := h.ripen ha haside hmembers
      have hagenda : t.agenda = rest := haside.agenda_eq
      have hquiet : ∀ x ∈ t.agenda, x.2.isQuiet = true := fun x hx =>
        quiet x (htail x (hagenda ▸ hx))
      have hstops := haside.stops_eq.trans stops
      rcases hperform with ⟨hperform, hdrain, hload⟩ | hperform
      · rw [hperform]
        obtain ⟨m', hm', hrunner⟩ := Act.exists_ripen e.2 member
        refine ⟨ht, .onDuty split (haside.waiting_eq.trans waiting) hstops hquiet
          (hmembers ▸ hm') (hrunner ▸ cancelled) ?_⟩
        -- What ends the duty is not what just happened, so it is still to come.
        obtain ⟨x, hx, hxi⟩ := ends
        rw [ha] at hx
        rcases List.mem_cons.1 hx with rfl | hx
        · exact absurd hxi (not_or.2 ⟨hdrain, hload⟩)
        · exact ⟨x, hagenda ▸ hx, hxi⟩
      · rw [hperform]
        have hawake : Ceasing cs { t with waiting := [] } := ⟨ht.1, ht.2, ht.3, ht.4, ht.5⟩
        exact ⟨hawake.put _ _,
          stopStage_asleep (s := { t with waiting := [] }) split hquiet rfl hstops _ true⟩

end Next

theorem isStopping_of_resume {e : Slot × Act} {stop : Stopping} (he : e ∈ s.agenda)
    (hresume : e.2 = .resume stop) (hstep : stop.caller = .step) : isStopping s = true := by
  simp only [isStopping, Bool.or_eq_true, List.any_eq_true]
  exact .inr ⟨e, he, by simp [hresume, hstep]⟩

/-- A stop that is not under way any more is over. -/
theorem finished_of_not_stopping {earlier : List StopMark} {n : Nat} (hs : StopStage earlier n s)
    (hend : ¬ (s.agenda ≠ [] ∧ isStopping s = true)) :
    (∀ e ∈ s.agenda, e.2.isQuiet = true) ∧ s.waiting = []
      ∧ s.stops = earlier ++ StopMark.each (List.range n) := by
  cases hs with
  | finished quiet waiting stops => exact ⟨quiet, waiting, stops⟩
  | asleep split waiting stops acts one =>
    obtain ⟨e, he, hloud⟩ := List.countP_pos_iff.1 (one ▸ Nat.zero_lt_one)
    have hresume := (acts e he).resolve_left (by simpa using hloud)
    exact absurd ⟨List.ne_nil_of_mem he, isStopping_of_resume he hresume rfl⟩ hend
  | onDuty split waiting stops quiet member cancelled ends =>
    obtain ⟨e, he, -⟩ := ends
    refine absurd ⟨List.ne_nil_of_mem he, ?_⟩ hend
    simp [isStopping, waiting]

end Scenario

end ClusterCensus.Collector
