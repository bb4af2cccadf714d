import ClusterCensus.Proofs.Collector.Outcome
import ClusterCensus.Proofs.Collector.Run

/-!
# What happens beside a start

Most of what is on an agenda is no concern of a start: it makes no record of an error, and leaves
alone who is registered, whether the collectors count as started, and those entries of the agenda
that matter to a start (`Calm.perform`). So whatever else happens, the records of errors that are on
the agenda are made, and the collectors count as started if the agenda says that they will
(`Ahead.passUntil`), unless someone stops them.
-/

namespace ClusterCensus.Collector.Scenario

/-- Whether an entry of an agenda matters to a start. -/
def isNoted (e : Slot × Act) : Bool :=
  match e.2 with
  | .log _ | .markStarted | .stopAll => true
  | _ => false

/-- The entries on the agenda that matter to a start. -/
def noted (s : Scenario) : Agenda Act := s.agenda.filter isNoted

/-- Something happens that does not matter to a start. -/
structure Calm (s t : Scenario) : Prop where
  errors_eq : errors t.logs = errors s.logs
  started_eq : t.started = s.started
  noted_eq : t.noted = s.noted
  inOrder : s.agenda.InOrder → t.agenda.InOrder
  collectors : s.members.map (·.collector) <+: t.members.map (·.collector)

namespace Calm

variable {s t u : Scenario}

theorem refl (s : Scenario) : Calm s s := ⟨rfl, rfl, rfl, id, List.prefix_rfl⟩

theorem trans (h : Calm s t) (h' : Calm t u) : Calm s u where
  errors_eq := h'.errors_eq.trans h.errors_eq
  started_eq := h'.started_eq.trans h.started_eq
  noted_eq := h'.noted_eq.trans h.noted_eq
  inOrder := h'.inOrder ∘ h.inOrder
  collectors := h.collectors.trans h'.collectors

instance : IsPreorder Scenario Calm where
  refl := refl
  trans _ _ _ := trans

theorem log (s : Scenario) {r : Log.Record} (h : r.level ≠ .error) : Calm s (s.log r) where
  errors_eq := by simp [errors, Scenario.log, List.filter_append, h]
  started_eq := rfl
  noted_eq := rfl
  inOrder := id
  collectors := List.prefix_rfl

theorem put (s : Scenario) (slot : Slot) {a : Act} (h : isNoted (slot, a) = false) :
    Calm s (s.put slot a) where
  errors_eq := rfl
  started_eq := rfl
  noted_eq := Agenda.filter_insert_of_neg h s.agenda
  inOrder := Agenda.inOrder_insert slot a
  collectors := List.prefix_rfl

theorem isNoted_of_isFollowUp {a : Act} (h : a.isFollowUp = true) (slot : Slot) :
    isNoted (slot, a) = false := by
  cases a <;> first | rfl | cases h

theorem of_tweak (h : Tweak s t) : Calm s t := by
  cases h with
  | log h => exact log s h
  | put h => exact put s _ (isNoted_of_isFollowUp h _)
  | members h => exact ⟨rfl, rfl, rfl, id, h⟩
  | _ => exact ⟨rfl, rfl, rfl, id, List.prefix_rfl⟩

theorem of_minor (h : Minor s t) : Calm s t := by
  induction h with
  | refl => exact refl s
  | tail _ last ih => exact ih.trans (of_tweak last)

/-- What does not matter to a start is calm. -/
theorem perform (s : Scenario) {a : Act} {slot : Slot} (h : isNoted (slot, a) = false) :
    Calm s (s.perform a) := by
  rcases hminor : a.isMinor with _ | _
  · cases a with
    | cancel token => exact ⟨rfl, rfl, rfl, id, List.prefix_rfl⟩
    | cancelInUse => exact ⟨rfl, rfl, rfl, id, List.prefix_rfl⟩
    | log r => cases h
    | markStarted => cases h
    | stopAll => cases h
    | _ => cases hminor
  · exact of_minor (.perform s hminor)

end Calm

/-- The records that entries of an agenda make. -/
def recorded (agenda : Agenda Act) : List Log.Record :=
  agenda.filterMap fun e => match e.2 with
    | .log r => some r
    | _ => none

/-- The records of errors that were made or are on the agenda. -/
def allErrors (s : Scenario) : List Log.Record := errors (s.logs ++ recorded s.noted)

/-- By a time, all that matters to a start will have happened, and the collectors will count as
started. -/
structure Ahead (time : Nat) (s : Scenario) : Prop where
  inOrder : s.agenda.InOrder
  timely : ∀ e ∈ s.noted, e.1.time ≤ time ∧ e.2 ≠ .stopAll
  starts : s.started = true ∨ ∃ e ∈ s.noted, e.2 = .markStarted

namespace Ahead

variable {time : Nat} {s t : Scenario}

theorem allErrors_of_calm (h : Calm s t) : t.allErrors = s.allErrors := by
  rw [allErrors, errors_append, h.noted_eq, h.errors_eq, ← errors_append, ← allErrors]

theorem of_calm (hs : Ahead time s) (h : Calm s t) : Ahead time t where
  inOrder := h.inOrder hs.inOrder
  timely := by
    rw [h.noted_eq]
    exact hs.timely
  starts := by
    rw [h.noted_eq, h.started_eq]
    exact hs.starts

theorem next (hs : Ahead time s) : Ahead time s.next ∧ s.next.allErrors = s.allErrors := by
  rcases next_cases s with ⟨-, hnext⟩ | ⟨⟨slot, a⟩, rest, ha, hnext⟩
  · rw [hnext]
    exact ⟨hs, rfl⟩
  let after : Scenario := { s with agenda := rest, time := max s.time slot.time }
  have horder : Agenda.InOrder rest := (ha ▸ hs.inOrder : Agenda.InOrder (_ :: rest)).tail
  rw [hnext]
  rcases hn : isNoted (slot, a) with _ | _
  · have hnoted : after.noted = s.noted := by
      rw [noted, noted, ha, List.filter_cons_of_neg (by simp [hn])]
    have hcalm := Calm.perform after hn
    have hafter : Ahead time after := ⟨horder, hnoted ▸ hs.timely, hnoted ▸ hs.starts⟩
    refine ⟨hafter.of_calm hcalm, (allErrors_of_calm hcalm).trans ?_⟩
    rw [allErrors, hnoted]
    rfl
  · -- What the entry does it also takes off the agenda, so both together stay the same.
    have hnoted : s.noted = (slot, a) :: after.noted := by
      rw [noted, ha, List.filter_cons_of_pos hn]
      rfl
    have htimely := hs.timely
    have hstarts := hs.starts
    rw [hnoted] at htimely hstarts
    have hrest := fun e he => htimely e (List.mem_cons_of_mem _ he)
    unfold allErrors
    rw [hnoted]
    cases a with
    | log r =>
      refine ⟨⟨horder, hrest, hstarts.imp_right ?_⟩, ?_⟩
      · rintro ⟨e, he, hmark⟩
        rcases List.mem_cons.1 he with rfl | he
        · cases hmark
        · exact ⟨e, he, hmark⟩
      · show errors (s.logs ++ [r] ++ recorded after.noted) = _
        rw [List.append_assoc]
        rfl
    | markStarted => exact ⟨⟨horder, hrest, .inl rfl⟩, rfl⟩
    | stopAll => exact absurd rfl (htimely _ List.mem_cons_self).2
    | _ => cases hn

theorem runWhile {p : Scenario → Bool} (hs : Ahead time s) :
    (Ahead time (s.runWhile p) ∧ (s.runWhile p).allErrors = s.allErrors)
      ∧ ¬ ((s.runWhile p).agenda ≠ [] ∧ p (s.runWhile p) = true) := by
  refine runWhile_induct (P := fun t => Ahead time t ∧ t.allErrors = s.allErrors) ?_ s ⟨hs, rfl⟩
  rintro t - ⟨ht, herrors⟩
  obtain ⟨hnext, herrors'⟩ := ht.next
  exact ⟨hnext, herrors'.trans herrors⟩

/-- Once the time has passed, all has happened. -/
theorem passUntil (hs : Ahead time s) : (s.passUntil time).started = true
    ∧ errors (s.passUntil time).logs = s.allErrors := by
  obtain ⟨⟨hrun, herrors⟩, hend⟩ := hs.runWhile (p := isDue (wholeMillis time))
  have hnil : (s.runWhile (isDue (wholeMillis time))).noted = [] := by
    refine List.eq_nil_iff_forall_not_mem.2 fun x hx => ?_
    have hlt := lt_of_not_due hrun.inOrder hend x (List.mem_of_mem_filter hx)
    have hle := (hrun.timely x hx).1
    unfold wholeMillis at hlt
    omega
  refine ⟨?_, ?_⟩
  · rcases hrun.starts with hstarted | ⟨e, he, -⟩
    · exact hstarted
    · simp [hnil] at he
  · rw [← herrors, allErrors, hnil]
    simp [recorded, Scenario.passUntil]

end Ahead

end ClusterCensus.Collector.Scenario
