import ClusterCensus.Proofs.Collector.Run

/-!
# Acts that stop nobody

Between the calls to a registry only quiet acts are on the agenda, and the mark that a start leaves
behind: collectors are seen, records are made, tokens cancelled, and loaders load. While nobody
waits for the end of a duty none of them puts anything on the agenda, calls a collector to stop or
registers one (`Tame.next`). A loader with a duty has loaded or is still to load (`Loads`), so who
stops it does not wait for ever.
-/

namespace ClusterCensus.Collector

/-- The collector that is seen to have stopped, if one is. -/
def Seen.stopped? : Seen → Option Nat
  | .deed i _ .stopped => some i
  | _ => none

/-- The collector whose call to stop returned, if one did. -/
def StopMark.returned? : StopMark → Option Nat
  | .returned i => some i
  | .called _ => none

namespace Act

/-- Whether an act stops nobody, registers nobody and marks nobody as started. -/
def isQuiet : Act → Bool
  | .deed _ d => d ≠ .stopped
  | .log _ | .cancel _ | .load _ | .drain _ => true
  | _ => false

/-- Whether an act is over at once: a collector is seen, or a token is cancelled. -/
def isBrief : Act → Bool
  | .deed _ d => d ≠ .stopped
  | .cancel _ => true
  | _ => false

theorem isQuiet_of_isBrief {a : Act} (h : a.isBrief = true) : a.isQuiet = true := by
  cases a <;> first | exact h | rfl

/-- The members after an act that changes at most what they have loaded. -/
def ripen : Act → List Member → List Member
  | .load i, members => members.modify i ({ · with loaded := true })
  | _, members => members

theorem map_ripen (a : Act) (members : List Member) :
    (a.ripen members).map (·.collector) = members.map (·.collector) := by
  cases a with
  | load i =>
    exact Scenario.Minor.map_modify (f := ({ · with loaded := true })) (fun _ => rfl) i members
  | _ => rfl

theorem getElem?_ripen {a : Act} {members : List Member} {i : Nat} {m : Member}
    (h : (a.ripen members)[i]? = some m) :
    ∃ m', members[i]? = some m' ∧ m.runner = m'.runner ∧ (m'.loaded = true → m.loaded = true)
      ∧ (a = .load i → m.loaded = true) := by
  cases a with
  | load j =>
    rw [ripen, List.getElem?_modify] at h
    obtain ⟨m', hm', rfl⟩ := Option.map_eq_some_iff.1 h
    refine ⟨m', hm', ?_, fun hl => ?_, fun hj => ?_⟩
    · split_ifs <;> rfl
    · split_ifs
      · rfl
      · exact hl
    · cases hj
      rw [if_pos rfl]
  | _ => exact ⟨m, h, rfl, id, nofun⟩

theorem exists_ripen (a : Act) {members : List Member} {i : Nat} {m : Member}
    (h : members[i]? = some m) : ∃ m', (a.ripen members)[i]? = some m' ∧ m'.runner = m.runner := by
  cases a with
  | load j =>
    refine ⟨_, by rw [ripen, List.getElem?_modify, h]; rfl, ?_⟩
    split_ifs <;> rfl
  | _ => exact ⟨m, h, rfl⟩

end Act

namespace Scenario

/-- What is asked of an act that stops nobody: the agenda, the stops and the mark are as they were.
-/
structure Aside (s t : Scenario) : Prop where
  agenda_eq : t.agenda = s.agenda
  waiting_eq : t.waiting = s.waiting
  stops_eq : t.stops = s.stops
  started_eq : t.started = s.started
  stopped_eq : t.seen.filterMap Seen.stopped? = s.seen.filterMap Seen.stopped?

namespace Aside

variable {s t u : Scenario}

theorem refl (s : Scenario) : Aside s s := ⟨rfl, rfl, rfl, rfl, rfl⟩

theorem trans (h : Aside s t) (h' : Aside t u) : Aside s u :=
  ⟨h'.agenda_eq.trans h.agenda_eq, h'.waiting_eq.trans h.waiting_eq, h'.stops_eq.trans h.stops_eq,
    h'.started_eq.trans h.started_eq, h'.stopped_eq.trans h.stopped_eq⟩

theorem see (s : Scenario) (i : Nat) {d : Deed} (h : d ≠ .stopped) : Aside s (s.see i d) := by
  refine ⟨rfl, rfl, rfl, rfl, ?_⟩
  rw [Scenario.see, List.filterMap_append]
  cases d with
  | stopped => contradiction
  | _ => exact List.append_nil _

end Aside

variable {s t : Scenario}

theorem drain_of_nobody {i : Nat} (h : ∀ w ∈ s.waiting, w.member ≠ i) :
    s.drain i = s.see i .drained := by
  have hnone : s.waiting.filter (fun w => decide (w.member = i)) = [] :=
    List.filter_eq_nil_iff.2 fun w hw => by simpa using h w hw
  have hall : s.waiting.filter (fun w => decide (w.member ≠ i)) = s.waiting :=
    List.filter_eq_self.2 fun w hw => by simpa using h w hw
  unfold drain
  rw [hnone, hall]
  rfl

theorem drain_of_one {i : Nat} {w : Stopping} (h : s.waiting = [w]) (hi : w.member = i) :
    s.drain i = ({ s.see i .drained with waiting := [] } : Scenario).put
      ⟨s.time, w.caller.turnAfterOthers⟩ (.resume w) := by
  unfold drain
  simp [h, hi, see]

/-- The scenario when a loader has loaded, before its duty can end with that. -/
def ripe (s : Scenario) (i : Nat) (m : Member) : Scenario :=
  ({ s with
    namespaces := m.namespaces.foldl (fun ns n => ns.insert n (loadedNamespace n)) s.namespaces
    members := (Act.load i).ripen s.members } : Scenario).see i .loaded

theorem load_of_some {i : Nat} {m : Member} (h : s.members[i]? = some m) :
    s.load i = if m.runner.cancelledAt.isSome then (s.ripe i m).drain i else s.ripe i m := by
  unfold load
  rw [h]
  rfl

theorem aside_ripe (s : Scenario) (i : Nat) (m : Member) : Aside s (s.ripe i m) := by
  unfold ripe
  refine .trans ?_ (.see _ i (d := .loaded) (by decide))
  exact ⟨rfl, rfl, rfl, rfl, rfl⟩

/-- Whether an act ends a duty: it is the end of it, or what is loaded was all there was to do. -/
def EndsDuty (s : Scenario) (a : Act) (i : Nat) : Prop :=
  a = .drain i
    ∨ a = .load i ∧ ∃ m, s.members[i]? = some m ∧ m.runner.cancelledAt.isSome = true

/-- A quiet act does nothing but what is asked of it, and then it may end a duty. -/
theorem perform_of_quiet {a : Act} (h : a.isQuiet = true) :
    ∃ t, Aside s t ∧ t.members = a.ripen s.members
      ∧ (s.perform a = t ∧ (∀ i, ¬ s.EndsDuty a i)
        ∨ ∃ i, s.EndsDuty a i ∧ s.perform a = t.drain i) := by
  cases a with
  | deed i d =>
    refine ⟨s.see i d, .see s i (of_decide_eq_true h), rfl, .inl ⟨rfl, ?_⟩⟩
    rintro j (hj | ⟨hj, -⟩) <;> cases hj
  | log r =>
    refine ⟨s.log r, ⟨rfl, rfl, rfl, rfl, rfl⟩, rfl, .inl ⟨rfl, ?_⟩⟩
    rintro j (hj | ⟨hj, -⟩) <;> cases hj
  | cancel token =>
    refine ⟨s.cancelToken token, ⟨rfl, rfl, rfl, rfl, rfl⟩, rfl, .inl ⟨rfl, ?_⟩⟩
    rintro j (hj | ⟨hj, -⟩) <;> cases hj
  | drain i => exact ⟨s, .refl s, rfl, .inr ⟨i, .inl rfl, rfl⟩⟩
  | load i =>
    rcases hm : s.members[i]? with _ | m
    · refine ⟨s, .refl s, ?_, .inl ⟨?_, ?_⟩⟩
      · rw [Act.ripen, List.modify_eq_self (List.getElem?_eq_none_iff.1 hm)]
      · simp only [perform, load, hm]
      · rintro j (hj | ⟨hj, m, hmj, -⟩) <;> cases hj
        rw [hm] at hmj
        cases hmj
    · refine ⟨s.ripe i m, aside_ripe s i m, rfl, ?_⟩
      rw [perform, load_of_some hm]
      rcases hc : m.runner.cancelledAt.isSome with _ | _
      · refine .inl ⟨rfl, ?_⟩
        rintro j (hj | ⟨hj, m', hm', hc'⟩) <;> cases hj
        cases hm.symm.trans hm'
        rw [hc] at hc'
        cases hc'
      · exact .inr ⟨i, .inr ⟨rfl, m, hm, hc⟩, rfl⟩
  | _ => cases h

/-- While nobody waits for the end of a duty, a quiet act does nothing but what is asked of it. -/
theorem aside_of_quiet {a : Act} (h : a.isQuiet = true) (hw : s.waiting = []) :
    Aside s (s.perform a) ∧ (s.perform a).members = a.ripen s.members := by
  obtain ⟨t, haside, hmembers, ⟨ht, -⟩ | ⟨i, -, ht⟩⟩ := perform_of_quiet (s := s) h
  · rw [ht]
    exact ⟨haside, hmembers⟩
  · rw [ht, drain_of_nobody (by rw [haside.waiting_eq, hw]; simp)]
    exact ⟨haside.trans (.see t i (by decide)), hmembers⟩

/-- Loaders that have a duty have loaded, or are still to load. -/
def Loads (s : Scenario) : Prop :=
  ∀ i m, s.members[i]? = some m → m.runner.duty.isSome = true →
    m.loaded = true ∨ ∃ e ∈ s.agenda, e.2 = .load i

theorem Loads.mono (h : Loads s) (hmembers : t.members = s.members)
    (hstays : ∀ e ∈ s.agenda, e ∈ t.agenda) : Loads t := by
  intro i m hm hduty
  rw [hmembers] at hm
  exact (h i m hm hduty).imp_right fun ⟨e, he, hi⟩ => ⟨e, hstays e he, hi⟩

theorem Loads.put (h : Loads s) (slot : Slot) (a : Act) : Loads (s.put slot a) :=
  h.mono rfl fun _ he =>
    (Agenda.perm_insert slot a s.agenda).mem_iff.2 (List.mem_cons_of_mem _ he)

theorem Loads.ripen {e : Slot × Act} {rest : Agenda Act} (h : Loads s) (ha : s.agenda = e :: rest)
    (hmembers : t.members = e.2.ripen s.members) (hrest : ∀ x ∈ rest, x ∈ t.agenda) : Loads t := by
  intro i m hm hduty
  rw [hmembers] at hm
  obtain ⟨m', hm', hrunner, hloaded, hload⟩ := Act.getElem?_ripen hm
  rcases h i m' hm' (hrunner ▸ hduty) with hl | ⟨x, hx, hxi⟩
  · exact .inl (hloaded hl)
  · rw [ha] at hx
    rcases List.mem_cons.1 hx with rfl | hx
    · exact .inl (hload hxi)
    · exact .inr ⟨x, hrest x hx, hxi⟩

/-- Nobody waits for the end of a duty, and only quiet acts and the mark of a start are to come. -/
structure Tame (s : Scenario) : Prop where
  inOrder : s.agenda.InOrder
  tame : ∀ e ∈ s.agenda, e.2.isQuiet = true ∨ e.2 = .markStarted
  waiting : s.waiting = []
  loads : Loads s

/-- Whether the collectors count as started, or will when the agenda has happened. -/
def WillStart (s : Scenario) : Prop := s.started = true ∨ ∃ e ∈ s.agenda, e.2 = .markStarted

/-- What can come of a tame scenario by itself. -/
structure Goes (s t : Scenario) : Prop where
  tame : Tame t
  suffix : t.agenda <:+ s.agenda
  collectors_eq : t.members.map (·.collector) = s.members.map (·.collector)
  stops_eq : t.stops = s.stops
  stopped_eq : t.seen.filterMap Seen.stopped? = s.seen.filterMap Seen.stopped?
  willStart : WillStart t ↔ WillStart s

namespace Tame

theorem goes (h : Tame s) : Goes s s := ⟨h, List.suffix_rfl, rfl, rfl, rfl, .rfl⟩

/-- What comes next takes one entry off the agenda and adds none. -/
theorem next (h : Tame s) : Goes s s.next := by
  rcases next_cases s with ⟨-, hnext⟩ | ⟨e, rest, ha, hnext⟩
  · rw [hnext]
    exact h.goes
  · have horder : Agenda.InOrder rest := (ha ▸ h.inOrder : Agenda.InOrder (e :: rest)).tail
    have hrest : ∀ x ∈ rest, x.2.isQuiet = true ∨ x.2 = .markStarted := fun x hx =>
      h.tame x (ha ▸ List.mem_cons_of_mem _ hx)
    let passed : Scenario := { s with agenda := rest, time := max s.time e.1.time }
    rcases h.tame e (ha ▸ List.mem_cons_self) with hquiet | hmark
    · obtain ⟨haside, hmembers⟩ := aside_of_quiet (s := passed) hquiet h.waiting
      have hagenda : s.next.agenda = rest := hnext ▸ haside.agenda_eq
      have hloads : Loads s.next := by
        refine h.loads.ripen ha (hnext ▸ hmembers) fun x hx => ?_
        rwa [hagenda]
      refine ⟨⟨hagenda ▸ horder, hagenda ▸ hrest, ?_, hloads⟩, ?_, ?_, ?_, ?_, ?_⟩
      · rw [hnext]
        exact haside.waiting_eq.trans h.waiting
      · rw [hagenda, ha]
        exact List.suffix_cons ..
      · rw [hnext, hmembers]
        exact Act.map_ripen ..
      · rw [hnext]
        exact haside.stops_eq
      · rw [hnext]
        exact haside.stopped_eq
      · have hne : e.2 ≠ .markStarted := fun heq => by simp [heq, Act.isQuiet] at hquiet
        unfold WillStart
        rw [hagenda, ha, hnext, haside.started_eq]
        simp [hne, passed]
    · have hloads : Loads passed := h.loads.ripen ha (by rw [hmark]; rfl) fun x hx => hx
      have hperform : s.next = { passed with started := true } := by
        rw [hnext, hmark]
        rfl
      rw [hperform]
      refine ⟨⟨horder, hrest, h.waiting, hloads⟩, ?_, rfl, rfl, rfl, ?_⟩
      · exact ha ▸ List.suffix_cons ..
      · exact ⟨fun _ => .inr ⟨e, ha ▸ List.mem_cons_self, hmark⟩, fun _ => .inl rfl⟩

end Tame

theorem Goes.trans {u : Scenario} (h : Goes s t) (h' : Goes t u) : Goes s u where
  tame := h'.tame
  suffix := h'.suffix.trans h.suffix
  collectors_eq := h'.collectors_eq.trans h.collectors_eq
  stops_eq := h'.stops_eq.trans h.stops_eq
  stopped_eq := h'.stopped_eq.trans h.stopped_eq
  willStart := h'.willStart.trans h.willStart

namespace Tame

theorem yield (h : Tame s) : Goes s s.yield :=
  nexts_induct (P := Goes s) (fun _ ht => ht.trans ht.tame.next) _ s h.goes

/-- When time has passed, only what is later is still to come. -/
theorem passUntil (h : Tame s) (time : Nat) :
    Goes s (s.passUntil time) ∧ ∀ e ∈ (s.passUntil time).agenda, time < e.1.time := by
  obtain ⟨hgoes, hend⟩ := runWhile_induct (p := isDue (wholeMillis time)) (P := Goes s)
    (fun _ _ ht => ht.trans ht.tame.next) s h.goes
  refine ⟨{ hgoes with tame := { hgoes.tame with } }, fun e he => ?_⟩
  have hlt := lt_of_not_due hgoes.tame.inOrder hend e he
  unfold wholeMillis at hlt
  omega

theorem settle (h : Tame s) : Goes s s.settle := (h.passUntil s.time).1

end Tame

/-- Quiet acts are carried out, or put on the agenda, that concern no loader. -/
structure Adds (s t : Scenario) : Prop where
  members_eq : t.members = s.members
  waiting_eq : t.waiting = s.waiting
  stops_eq : t.stops = s.stops
  started_eq : t.started = s.started
  stopped_eq : t.seen.filterMap Seen.stopped? = s.seen.filterMap Seen.stopped?
  inOrder : s.agenda.InOrder → t.agenda.InOrder
  stays : ∀ e ∈ s.agenda, e ∈ t.agenda
  comes : ∀ e ∈ t.agenda, e ∈ s.agenda ∨ e.2.isQuiet = true

namespace Adds

variable {u : Scenario}

theorem refl (s : Scenario) : Adds s s :=
  ⟨rfl, rfl, rfl, rfl, rfl, id, fun _ => id, fun _ => .inl⟩

theorem trans (h : Adds s t) (h' : Adds t u) : Adds s u where
  members_eq := h'.members_eq.trans h.members_eq
  waiting_eq := h'.waiting_eq.trans h.waiting_eq
  stops_eq := h'.stops_eq.trans h.stops_eq
  started_eq := h'.started_eq.trans h.started_eq
  stopped_eq := h'.stopped_eq.trans h.stopped_eq
  inOrder := h'.inOrder ∘ h.inOrder
  stays e he := h'.stays e (h.stays e he)
  comes e he := (h'.comes e he).elim (h.comes e) .inr

instance : IsPreorder Scenario Adds where
  refl := refl
  trans _ _ _ := trans

theorem plan (s : Scenario) (turn : Turn) {acts : List (Nat × Act)}
    (h : ∀ a ∈ acts, a.2.isQuiet = true) : Adds s (s.plan turn acts) := by
  have hperm := perm_plan turn acts s
  have horder := inOrder_plan turn acts s
  rw [plan_eq] at hperm horder ⊢
  refine ⟨rfl, rfl, rfl, rfl, rfl, horder, fun e he => ?_, fun e he => ?_⟩
  · exact hperm.mem_iff.2 (List.mem_append_right _ he)
  · rcases List.mem_append.1 (hperm.mem_iff.1 he) with he | he
    · obtain ⟨a, ha, rfl⟩ := List.mem_map.1 he
      exact .inr (h a ha)
    · exact .inl he

theorem perform (s : Scenario) {a : Act} (h : a.isBrief = true) : Adds s (s.perform a) := by
  cases a with
  | deed i d =>
    have haside : Aside s (s.see i d) := .see s i (of_decide_eq_true h)
    exact ⟨rfl, rfl, rfl, rfl, haside.stopped_eq, id, fun _ => id, fun _ => .inl⟩
  | cancel token => exact ⟨rfl, rfl, rfl, rfl, rfl, id, fun _ => id, fun _ => .inl⟩
  | _ => cases h

theorem launch (s : Scenario) {acts : List (Nat × Act)} (h : ∀ a ∈ acts, a.2.isBrief = true) :
    Adds s (s.launch acts) := by
  have hbrief : ∀ {p : Nat × Act → Bool}, ∀ a ∈ acts.filter p, a.2.isBrief = true :=
    fun a ha => h a (List.mem_filter.1 ha).1
  exact (rel_foldl _ (fun a ha s => perform s (hbrief a ha)) s).trans
    (plan _ _ fun a ha => Act.isQuiet_of_isBrief (hbrief a ha))

end Adds

theorem Tame.adds (h : Tame s) (ha : Adds s t) : Tame t where
  inOrder := ha.inOrder h.inOrder
  tame e he := (ha.comes e he).elim (h.tame e) .inl
  waiting := ha.waiting_eq.trans h.waiting
  loads := h.loads.mono ha.members_eq ha.stays

end Scenario

end ClusterCensus.Collector
