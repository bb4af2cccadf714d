import ClusterCensus.Proofs.Shipping.Round

/-!
# The course of a loop

What holds when a loop begins, and what its turns keep as long as they do not finish the work, holds
when the loop is shut down. A loop that ends otherwise ends with its last turn, which finished the
work (`run_course`, and `run_cases` for what does not depend on the ticker).

The ticks of a shipping loop are those of rounds (`rounds_run`), and as long as it goes on none of
them has brought the lifecycle to its end (`Progress.GoesOn`). So a tick that does is the last one,
and the loop ends with it (`last_of_isTerminal`).
-/

namespace ClusterCensus.Shipping

namespace Work

variable {σ : Type} (w : Work σ)

theorem run_of_none {shutdown : Nat} {t : Ticker} {favours : List Bool} {ready : Nat} {s : σ}
    (h : t.admits shutdown ready favours = none) :
    w.run shutdown t favours ready s = ⟨.shutdown, max ready shutdown, [], s⟩ := by
  rw [run]
  split
  · rfl
  · rw [h] at *
    contradiction

theorem run_of_some {shutdown : Nat} {t : Ticker} {favours rest : List Bool} {ready : Nat} {s : σ}
    (h : t.admits shutdown ready favours = some rest)
    (hgo : w.finished (w.turn (t.fire ready) s).1 = false) :
    (w.run shutdown t favours ready s).state
      = (w.run shutdown (t.next (t.fire ready)) rest
          (t.fire ready + (w.turn (t.fire ready) s).2) (w.turn (t.fire ready) s).1).state := by
  rw [run]
  split
  · rw [h] at *
    contradiction
  · rename_i rest' h'
    cases h.symm.trans h'
    simp only [hgo]
    rfl

/-- The end of a loop, from what its turns keep as long as they do not finish the work. -/
theorem run_course {I : Ticker → List Bool → Nat → σ → Prop} (shutdown : Nat)
    (hturn : ∀ t favours ready s rest, I t favours ready s →
      t.admits shutdown ready favours = some rest →
      w.finished (w.turn (t.fire ready) s).1 = false →
      I (t.next (t.fire ready)) rest (t.fire ready + (w.turn (t.fire ready) s).2)
        (w.turn (t.fire ready) s).1)
    (t : Ticker) (favours : List Bool) (ready : Nat) (s : σ) (hs : I t favours ready s) :
    ∃ t' favours' ready' s', I t' favours' ready' s'
      ∧ ((w.run shutdown t favours ready s).ending = .shutdown
          ∧ (w.run shutdown t favours ready s).time = max ready' shutdown
          ∧ (w.run shutdown t favours ready s).state = s'
        ∨ (w.run shutdown t favours ready s).ending = .finished
          ∧ (w.run shutdown t favours ready s).time
            = t'.fire ready' + (w.turn (t'.fire ready') s').2
          ∧ (w.run shutdown t favours ready s).state = (w.turn (t'.fire ready') s').1
          ∧ w.finished (w.turn (t'.fire ready') s').1 = true
          ∧ (t'.admits shutdown ready' favours').isSome) := by
  fun_induction run w shutdown t favours ready s with
  | case1 t favours ready s => exact ⟨t, favours, ready, s, hs, .inl ⟨rfl, rfl, rfl⟩⟩
  | case2 t favours ready s rest h start s' took hrun hfin =>
    refine ⟨t, favours, ready, s, hs, .inr ⟨rfl, ?_⟩⟩
    rw [hrun, h]
    exact ⟨rfl, rfl, hfin, rfl⟩
  | case3 t favours ready s rest h start s' took hrun hfin c ih =>
    have hkeep := hturn t favours ready s rest hs h
    rw [hrun] at hkeep
    exact ih (hkeep (Bool.eq_false_iff.2 hfin))

theorem run_cases {I : σ → Prop} (shutdown : Nat)
    (hturn : ∀ start s, I s → w.finished (w.turn start s).1 = false → I (w.turn start s).1)
    (t : Ticker) (favours : List Bool) (ready : Nat) (s : σ) (hs : I s) :
    (w.run shutdown t favours ready s).ending = .shutdown
        ∧ I (w.run shutdown t favours ready s).state
      ∨ (w.run shutdown t favours ready s).ending = .finished
        ∧ ∃ start s', I s' ∧ (w.run shutdown t favours ready s).state = (w.turn start s').1
          ∧ (w.run shutdown t favours ready s).time = start + (w.turn start s').2
          ∧ w.finished (w.turn start s').1 = true := by
  obtain ⟨t', -, ready', s', hs', ⟨hend, -, hstate⟩ | ⟨hend, htime, hstate, hfin, -⟩⟩ :=
    w.run_course (I := fun _ _ _ => I) shutdown (fun t _ ready s _ hs _ => hturn _ s hs)
      t favours ready s hs
  · exact .inl ⟨hend, hstate ▸ hs'⟩
  · exact .inr ⟨hend, _, s', hs', hstate, htime, hfin⟩

end Work

variable {ε : Type}

/-- A loop that began with an agent and is not to end: its ticks are those of rounds, none of them
has brought the lifecycle to its end, and none was broken off. -/
structure Progress.GoesOn (a : Agent) (p : Progress ε) : Prop where
  rounds : ∃ rs, p.ticks.map (·.tick) = a.rounds rs ∧ p.agent = a.after rs
  unended : ∀ t ∈ p.ticks, t.tick.agent.lifecycle.machine.state.isTerminal = false
  unbroken : p.fault = none

theorem Progress.GoesOn.start (a : Agent) (around : ε) : (Progress.start a around).GoesOn a :=
  ⟨⟨[], rfl, rfl⟩, by simp [Progress.start], rfl⟩

namespace Surroundings

variable (m : Surroundings ε)

/-- A turn is a tick, or is broken off. -/
theorem turn_cases (start : Nat) (p : Progress ε) :
    (∃ r took around, m.work.turn start p
        = (⟨(p.agent.round r).agent, around,
            p.ticks ++ [⟨start, start + took, p.agent.round r⟩], p.fault⟩, took))
      ∨ ∃ fault, m.work.turn start p
        = (⟨p.agent.brokenTick, p.around, p.ticks, some fault⟩, 0) := by
  rcases hm : m p.around p.agent start with fault | ⟨r, took, around⟩
  · exact .inr ⟨fault, by simp only [work, hm]⟩
  · exact .inl ⟨r, took, around, by simp only [work, hm]⟩

theorem goesOn_turn {a : Agent} (start : Nat) (p : Progress ε) (hp : p.GoesOn a)
    (hgo : m.work.finished (m.work.turn start p).1 = false) :
    (m.work.turn start p).1.GoesOn a := by
  obtain ⟨⟨rs, hticks, hagent⟩, hends, hfault⟩ := hp
  rcases m.turn_cases start p with ⟨r, took, around, ht⟩ | ⟨fault, ht⟩
  · rw [ht] at hgo ⊢
    refine ⟨⟨rs ++ [r], ?_, ?_⟩, fun t ht => ?_, hfault⟩
    · rw [List.map_append, hticks, hagent, Agent.rounds_concat]
      rfl
    · rw [Agent.after_concat, hagent]
    · rcases List.mem_append.1 ht with ht | ht
      · exact hends t ht
      · cases List.mem_singleton.1 ht
        exact (Bool.or_eq_false_iff.1 hgo).2
  · rw [ht] at hgo
    simp [work] at hgo

/-- However a loop ends, its ticks are those of rounds. If none was broken off, the agent is the one
after them. -/
theorem rounds_run (shutdown : Nat) (ticker : Ticker) (favours : List Bool) (ready : Nat)
    (a : Agent) (around : ε) :
    ∃ rs, (m.work.run shutdown ticker favours ready (.start a around)).state.ticks.map (·.tick)
        = a.rounds rs
      ∧ ((m.work.run shutdown ticker favours ready (.start a around)).state.fault = none →
        (m.work.run shutdown ticker favours ready (.start a around)).state.agent = a.after rs) := by
  rcases m.work.run_cases shutdown m.goesOn_turn ticker favours ready _ (.start a around)
    with ⟨-, hend⟩ | ⟨-, start, p, hp, hstate, -, -⟩
  · obtain ⟨rs, hticks, hagent⟩ := hend.rounds
    exact ⟨rs, hticks, fun _ => hagent⟩
  · obtain ⟨rs, hticks, hagent⟩ := hp.rounds
    rw [hstate]
    rcases m.turn_cases start p with ⟨r, took, next, ht⟩ | ⟨fault, ht⟩
    · refine ⟨rs ++ [r], ?_, fun _ => ?_⟩
      · rw [ht, Agent.rounds_concat, List.map_append, hticks, hagent]
        rfl
      · rw [ht, Agent.after_concat, hagent]
    · exact ⟨rs, by rw [ht, hticks], fun h => by simp [ht] at h⟩

/-- A tick that brings the lifecycle to its end is the last one, and the loop ends with it. -/
theorem last_of_isTerminal {shutdown : Nat} {ticker : Ticker} {favours : List Bool} {ready : Nat}
    {a : Agent} {around : ε} {c : Course (Progress ε)} {earlier later : List Timed} {t : Timed}
    (hc : m.work.run shutdown ticker favours ready (.start a around) = c)
    (hticks : c.state.ticks = earlier ++ t :: later)
    (ht : t.tick.agent.lifecycle.machine.state.isTerminal = true) :
    later = [] ∧ c.ending = .finished ∧ c.time = t.ended ∧ c.state.agent = t.tick.agent
      ∧ c.state.fault = none := by
  subst hc
  have hmem : ∀ {p : Progress ε}, p.GoesOn a → t ∉ p.ticks := fun hp h => by
    rw [hp.unended t h] at ht
    contradiction
  rcases m.work.run_cases shutdown m.goesOn_turn ticker favours ready _ (.start a around)
    with ⟨-, hend⟩ | ⟨hend, start, p, hp, hstate, htime, -⟩
  · exact absurd (by rw [hticks]; simp) (hmem hend)
  · rw [hstate] at hticks ⊢
    rw [htime]
    rcases m.turn_cases start p with ⟨r, took, next, hturn⟩ | ⟨fault, hturn⟩
    · rw [hturn] at hticks ⊢
      -- The ticks before the last turn left the lifecycle open, so `t` is the tick of that turn.
      rcases List.eq_nil_or_concat later with rfl | ⟨later, u, rfl⟩
      · obtain ⟨-, hlast⟩ := List.append_inj' hticks rfl
        cases hlast
        exact ⟨rfl, hend, rfl, rfl, hp.unbroken⟩
      · rw [List.concat_eq_append, ← List.cons_append, ← List.append_assoc] at hticks
        have := (List.append_inj' hticks rfl).1
        exact absurd (by rw [this]; simp) (hmem hp)
    · rw [hturn] at hticks
      exact absurd (by rw [show p.ticks = _ from hticks]; simp) (hmem hp)

end Surroundings

end ClusterCensus.Shipping
