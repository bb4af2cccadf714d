import ClusterCensus.Proofs.Shipping.Loop

/-!
# Shipments after a shutdown

A shipment under way when the loop is to shut down is completed, and its answer is taken. It can
last so long that the next tick is due when it is done. Then both the tick and the shutdown are
there, and nothing prefers the shutdown: the loop may ship again, as often as the tick is taken
first and each shipment lasts so long (`ticks_at_shutdown`). So there is no bound on the shipments
that begin after the shutdown (`late_shipments`).
-/

namespace ClusterCensus.Shipping

/-- How often the tick is taken first, if it and the shutdown are there together each time. -/
def leading (favours : List Bool) : Nat := (favours.takeWhile id).length

/-- When a loop that was ready from a time on is ready again after its ticks. -/
def freeAt (ready : Nat) (ticks : List Timed) : Nat :=
  (ticks.getLast?.map (·.ended)).getD ready

/-- A tick that began as soon as the loop was ready for it, the one before having lasted until the
ticker had it come. -/
def Timed.Overdue (interval ready : Nat) (earlier : List Timed) (t : Timed) : Prop :=
  t.began = freeAt ready earlier
    ∧ ∀ u ∈ earlier.getLast?, u.began + interval ≤ t.began + Ticker.slack

namespace Ticker

theorem admits_cases {t : Ticker} {shutdown ready : Nat} {favours rest : List Bool}
    (h : t.admits shutdown ready favours = some rest) :
    t.fire ready < shutdown ∧ rest = favours
      ∨ shutdown ≤ t.fire ready ∧ t.due ≤ max ready shutdown ∧ favours = true :: rest := by
  unfold admits at h
  split_ifs at h with hbefore hdue
  · cases h
    exact .inl ⟨hbefore, rfl⟩
  · split at h
    · cases h
      exact .inr ⟨by omega, hdue, rfl⟩
    · contradiction

theorem leading_le_of_admits {t : Ticker} {shutdown ready : Nat} {favours rest : List Bool}
    (h : t.admits shutdown ready favours = some rest) :
    (if shutdown ≤ t.fire ready then 1 else 0) + leading rest ≤ leading favours := by
  rcases admits_cases h with ⟨hlt, rfl⟩ | ⟨hle, -, rfl⟩
  · rw [if_neg (by omega)]
    omega
  · rw [if_pos hle]
    simp only [leading, List.takeWhile_cons, id, if_true, List.length_cons]
    omega

/-- A tick after the shutdown was due while the loop was not ready for it. -/
theorem fire_of_admits {t : Ticker} {shutdown ready : Nat} {favours rest : List Bool}
    (h : t.admits shutdown ready favours = some rest) (hlate : shutdown < t.fire ready) :
    t.fire ready = ready ∧ t.due ≤ ready := by
  unfold fire at *
  rcases admits_cases h with ⟨hlt, -⟩ | ⟨-, hdue, -⟩
  · unfold fire at hlt
    omega
  · omega

end Ticker

/-- The ticks of a loop up to a time, with what is left of the choices. -/
structure Paced (shutdown interval ready : Nat) (favours rest : List Bool) (time : Nat)
    (ticks : List Timed) : Prop where
  ended : ∀ t ∈ ticks, t.ended ≤ time
  chosen : ticks.countP (shutdown ≤ ·.began) + leading rest ≤ leading favours
  overdue : ∀ earlier t later, ticks = earlier ++ t :: later → shutdown < t.began →
    t.Overdue interval ready earlier

/-- The ticks of a loop that is ready for the next one of a ticker. -/
structure Rested (shutdown interval ready : Nat) (favours : List Bool) (t : Ticker)
    (rest : List Bool) (time : Nat) (ticks : List Timed) : Prop extends
    Paced shutdown interval ready favours rest time ticks where
  interval_eq : t.interval = interval
  time_eq : time = freeAt ready ticks
  due : ∀ u ∈ ticks.getLast?, u.began + interval ≤ t.due + Ticker.slack

section Turns

variable {shutdown interval ready time : Nat} {favours rest rest' : List Bool} {t : Ticker}
  {ticks : List Timed}

theorem Paced.later {time' : Nat} (h : Paced shutdown interval ready favours rest time ticks)
    (htime : time ≤ time') : Paced shutdown interval ready favours rest time' ticks :=
  { h with ended := fun t ht => Nat.le_trans (h.ended t ht) htime }

theorem Rested.start (shutdown : Nat) (t : Ticker) (favours : List Bool) (ready : Nat) :
    Rested shutdown t.interval ready favours t favours ready [] :=
  ⟨⟨by simp, by simp, by simp⟩, rfl, rfl, by simp⟩

theorem Rested.tick (h : Rested shutdown interval ready favours t rest time ticks)
    (ha : t.admits shutdown time rest = some rest') (took : Nat) (x : Tick) :
    Rested shutdown interval ready favours (t.next (t.fire time)) rest' (t.fire time + took)
      (ticks ++ [⟨t.fire time, t.fire time + took, x⟩]) := by
  have hready : time ≤ t.fire time := Nat.le_max_right ..
  refine ⟨⟨fun u hu => ?_, ?_, fun earlier u later hu hlate => ?_⟩, h.interval_eq, ?_, ?_⟩
  · rcases List.mem_append.1 hu with hu | hu
    · exact Nat.le_trans (h.ended u hu) (by omega)
    · cases List.mem_singleton.1 hu
      exact Nat.le_refl _
  · have hchosen := h.chosen
    have hstep := Ticker.leading_le_of_admits ha
    simp only [List.countP_append, List.countP_singleton, decide_eq_true_eq]
    omega
  · -- The tick in question is one of the earlier ones, or the one just taken.
    rcases List.eq_nil_or_concat later with rfl | ⟨later, v, rfl⟩
    · obtain ⟨rfl, hlast⟩ := List.append_inj' hu rfl
      cases hlast
      obtain ⟨hfire, hdue⟩ := Ticker.fire_of_admits ha hlate
      refine ⟨hfire.trans h.time_eq, fun u hu => ?_⟩
      have := h.due u hu
      simp only [hfire]
      omega
    · rw [List.concat_eq_append, ← List.cons_append, ← List.append_assoc] at hu
      exact h.overdue earlier u later (List.append_inj' hu rfl).1 hlate
  · simp [freeAt]
  · intro u hu
    rw [List.getLast?_concat] at hu
    cases hu
    have hdue := t.due_le_fire time
    have := h.interval_eq
    simp only [Ticker.next]
    split_ifs <;> omega

/-- A turn that is broken off adds no tick. -/
theorem Rested.broken (h : Rested shutdown interval ready favours t rest time ticks)
    (ha : t.admits shutdown time rest = some rest') :
    Paced shutdown interval ready favours rest' (t.fire time) ticks := by
  refine { h.toPaced.later (Nat.le_max_right ..) with chosen := ?_ }
  have hchosen := h.chosen
  have hstep := Ticker.leading_le_of_admits ha
  omega

end Turns

namespace Surroundings

variable {ε : Type} (m : Surroundings ε)

section Turns

variable {shutdown interval ready time : Nat} {favours rest rest' : List Bool} {t : Ticker}
  {p : Progress ε}

theorem rested_turn (hp : Rested shutdown interval ready favours t rest time p.ticks)
    (ha : t.admits shutdown time rest = some rest')
    (hgo : m.work.finished (m.work.turn (t.fire time) p).1 = false) :
    Rested shutdown interval ready favours (t.next (t.fire time)) rest'
      (t.fire time + (m.work.turn (t.fire time) p).2) (m.work.turn (t.fire time) p).1.ticks := by
  rcases m.turn_cases (t.fire time) p with ⟨r, took, next, hturn⟩ | ⟨fault, hturn⟩
  · rw [hturn]
    exact hp.tick ha took _
  · rw [hturn] at hgo
    simp [work] at hgo

theorem paced_turn (hp : Rested shutdown interval ready favours t rest time p.ticks)
    (ha : t.admits shutdown time rest = some rest') :
    Paced shutdown interval ready favours rest'
      (t.fire time + (m.work.turn (t.fire time) p).2) (m.work.turn (t.fire time) p).1.ticks := by
  rcases m.turn_cases (t.fire time) p with ⟨r, took, next, hturn⟩ | ⟨fault, hturn⟩
  · rw [hturn]
    exact (hp.tick ha took _).toPaced
  · rw [hturn]
    exact hp.broken ha

end Turns

/-- Each tick of a loop is completed before the loop ends, and its answer is taken. From the
shutdown on there are only as many ticks as are taken first when both are there, none if the
shutdown is preferred. Each of them that begins later begins as soon as the one before it is done,
which lasted for nearly a whole interval or longer. A loop that is shut down ends then, or as soon
as it is ready again. -/
theorem ticks_at_shutdown (shutdown : Nat) (ticker : Ticker) (favours : List Bool) (ready : Nat)
    (a : Agent) (around : ε) :
    let c := m.work.run shutdown ticker favours ready (.start a around)
    (∃ rs, c.state.ticks.map (·.tick) = a.rounds rs
        ∧ (c.state.fault = none → c.state.agent = a.after rs))
      ∧ (∀ t ∈ c.state.ticks, t.ended ≤ c.time)
      ∧ c.state.ticks.countP (shutdown ≤ ·.began) ≤ leading favours
      ∧ (∀ earlier t later, c.state.ticks = earlier ++ t :: later → shutdown < t.began →
        t.Overdue ticker.interval ready earlier)
      ∧ (c.ending = .shutdown → c.time = max (freeAt ready c.state.ticks) shutdown) := by
  intro c
  refine ⟨m.rounds_run shutdown ticker favours ready a around, ?_⟩
  suffices h : ∃ rest, Paced shutdown ticker.interval ready favours rest c.time c.state.ticks
      ∧ (c.ending = .shutdown → c.time = max (freeAt ready c.state.ticks) shutdown) by
    obtain ⟨rest, hpaced, htime⟩ := h
    have hchosen := hpaced.chosen
    exact ⟨hpaced.ended, by omega, hpaced.overdue, htime⟩
  obtain ⟨t, rest, time, p, hp, ⟨-, htime, hstate⟩ | ⟨hend, htime, hstate, -, hadmits⟩⟩ :=
    m.work.run_course (I := fun t rest time p =>
        Rested shutdown ticker.interval ready favours t rest time p.ticks) shutdown
      (fun _ _ _ _ _ hp ha hgo => m.rested_turn hp ha hgo)
      ticker favours ready (.start a around) (.start ..)
  · refine ⟨rest, ?_⟩
    rw [show c.state = p from hstate, show c.time = _ from htime, ← hp.time_eq]
    exact ⟨hp.toPaced.later (Nat.le_max_left ..), fun _ => rfl⟩
  · obtain ⟨rest', ha⟩ := Option.isSome_iff_exists.1 hadmits
    refine ⟨rest', ?_, fun h => ?_⟩
    · rw [show c.state = _ from hstate, show c.time = _ from htime]
      exact m.paced_turn hp ha
    · cases hend.symm.trans h

/-- The surroundings of a loop whose shipments all take a time and are accepted. -/
def accepting (took : Nat) : Surroundings Unit :=
  fun _ _ _ => .ok (.quiet ⟨0, 0⟩ (.answered 200 0), took, ())

theorem turn_of_accepting (took start : Nat) {p : Progress Unit} (hfault : p.fault = none)
    (hopen : p.agent.lifecycle.machine.canSend ⟨0, 0⟩ = true) :
    let p' := ((accepting took).work.turn start p).1
    (accepting took).work.finished p' = false ∧ p'.fault = none
      ∧ p'.agent.lifecycle.machine.canSend ⟨0, 0⟩ = true
      ∧ ∃ t, p'.ticks = p.ticks ++ [⟨start, start + took, t⟩] ∧ t.seen.isSome := by
  intro p'
  have hseen := (Agent.round_of_open (r := .quiet ⟨0, 0⟩ (.answered 200 0)) hopen).1
  have hstate : p'.agent.lifecycle.machine.state = .running := by
    unfold p' work accepting
    rw [Agent.machine_of_answered hseen rfl]
    rfl
  refine ⟨?_, hfault, ?_, _, rfl, ?_⟩
  · simp only [work, hstate, show p'.fault = none from hfault]
    rfl
  · simp only [Lifecycle.Machine.canSend, hstate]
  · rw [hseen]
    rfl

/-- A loop whose shipments take longer than its interval, and that takes the tick first, ships
again and again after the shutdown. -/
theorem shipments_of_accepting (shutdown took : Nat) :
    ∀ (n : Nat) (t : Ticker) (ready : Nat) {p : Progress Unit}, t.interval ≤ took →
      t.due ≤ ready → shutdown < ready → p.fault = none →
      p.agent.lifecycle.machine.canSend ⟨0, 0⟩ = true →
      ∃ ticks, ((accepting took).work.run shutdown t (.replicate n true) ready p).state.ticks
          = p.ticks ++ ticks
        ∧ ticks.length = n ∧ ∀ u ∈ ticks, shutdown < u.began ∧ u.tick.seen.isSome
  | 0, t, ready, p, _, hdue, hlate, _, _ => by
    have ha : t.admits shutdown ready [] = none := by
      unfold Ticker.admits Ticker.fire
      rw [if_neg (by omega), if_pos (by omega)]
    refine ⟨[], ?_, rfl, by simp⟩
    rw [List.replicate_zero, Work.run_of_none _ ha, List.append_nil]
  | n + 1, t, ready, p, hinterval, hdue, hlate, hfault, hopen => by
    have hfire : t.fire ready = ready := Nat.max_eq_right hdue
    have ha : t.admits shutdown ready (.replicate (n + 1) true) = some (.replicate n true) := by
      unfold Ticker.admits
      rw [hfire, if_neg (by omega), if_pos (by omega)]
      rfl
    obtain ⟨hgo, hfault', hopen', x, hx, hseen⟩ := turn_of_accepting took ready hfault hopen
    have hnext : (t.next ready).due ≤ ready + took := by
      simp only [Ticker.next]
      split_ifs <;> omega
    obtain ⟨ticks, hticks, hlen, hall⟩ := shipments_of_accepting shutdown took n (t.next ready)
      (ready + took) hinterval hnext (by omega) hfault' hopen'
    refine ⟨⟨ready, ready + took, x⟩ :: ticks, ?_, by rw [List.length_cons, hlen], fun u hu => ?_⟩
    · rw [Work.run_of_some _ ha (by rwa [hfire]), hfire]
      exact hticks.trans (by rw [hx, List.append_assoc, List.singleton_append])
    · rcases List.mem_cons.1 hu with rfl | hu
      · exact ⟨hlate, hseen⟩
      · exact hall u hu

/-- There is no bound on the shipments after the shutdown: here it comes during the first one. -/
theorem late_shipments (n : Nat) :
    let c := (accepting 20).work.run 5 ⟨10, 0, by decide⟩ (.replicate n true) 0
      (.start (.initial "node" ⟨0⟩) ())
    ∃ first later, c.state.ticks = first :: later ∧ first.began < 5 ∧ 5 < first.ended
      ∧ later.length = n ∧ ∀ t ∈ later, 5 < t.began ∧ t.tick.seen.isSome := by
  obtain ⟨hgo, hfault, hopen, x, hx, -⟩ :=
    turn_of_accepting 20 0 (p := .start (.initial "node" ⟨0⟩) ()) rfl rfl
  obtain ⟨later, hlater, hlen, hall⟩ := shipments_of_accepting 5 20 n ⟨10, 10, by decide⟩ 20
    (by decide) (by decide) (by decide) hfault hopen
  refine ⟨⟨0, 20, x⟩, later, ?_, (by decide : 0 < 5), (by decide : 5 < 20), hlen, hall⟩
  have ha : Ticker.admits ⟨10, 0, by decide⟩ 5 0 (.replicate n true) = some (.replicate n true) :=
    if_pos (by decide)
  rw [Work.run_of_some _ ha hgo]
  exact hlater.trans (by rw [hx]; rfl)

/-- A shipment can begin after the shutdown. -/
theorem shipment_after_shutdown :
    let c := (accepting 20).work.run 5 ⟨10, 0, by decide⟩ [true] 0
      (.start (.initial "node" ⟨0⟩) ())
    ¬ ∀ t ∈ c.state.ticks, t.tick.seen.isSome → t.began ≤ 5 := by
  intro c h
  obtain ⟨first, later, hticks, -, -, hlen, hall⟩ := late_shipments 1
  obtain ⟨t, rfl⟩ := List.length_eq_one_iff.1 hlen
  obtain ⟨hbegan, hseen⟩ := hall t (List.mem_singleton_self t)
  have := h t (by rw [show c.state.ticks = _ from hticks]; simp) hseen
  omega

end Surroundings

end ClusterCensus.Shipping
