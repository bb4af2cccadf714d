import ClusterCensus.Collector.Scenario.Stop

/-!
# The run of a scenario

In the run of a scenario what is on the agenda happens, entry by entry, as long as a condition
holds. It comes to an end, because every entry leaves less to be done: a stop on the side is begun
only once, and a stop that goes on has fewer collectors before it.
-/

namespace ClusterCensus.Collector

/-- How much a stop that waits has still to do. -/
def Stopping.weight (stop : Stopping) : Nat := 2 * stop.rest.length + 1

namespace Act

/-- Counts the stops that are not begun. -/
def begins : Act → Nat
  | stopAll => 1
  | _ => 0

/-- How much an act brings about. -/
def weight : Act → Nat
  | resume stop => stop.weight
  | _ => 1

end Act

namespace Scenario

/-- The weight of stops that wait. -/
def weighWaiting : List Stopping → Nat
  | [] => 0
  | w :: rest => w.weight + weighWaiting rest

theorem weighWaiting_append (as bs : List Stopping) :
    weighWaiting (as ++ bs) = weighWaiting as + weighWaiting bs := by
  induction as with
  | nil => simp [weighWaiting]
  | cons a as ih =>
    simp only [List.cons_append, weighWaiting, ih]
    omega

theorem weighWaiting_split (p : Stopping → Bool) (ws : List Stopping) :
    weighWaiting (ws.filter p) + weighWaiting (ws.filter fun w => !p w) = weighWaiting ws := by
  induction ws with
  | nil => rfl
  | cons w ws ih =>
    cases h : p w <;> simp [h, weighWaiting] <;> omega

/-- The number of stops on the agenda that are not begun. -/
def begins (s : Scenario) : Nat := s.agenda.weigh Act.begins

/-- How much is to be done. -/
def weight (s : Scenario) : Nat := s.agenda.weigh Act.weight + weighWaiting s.waiting

@[simp] theorem begins_see (s : Scenario) (i : Nat) (d : Deed) :
    (s.see i d).begins = s.begins := rfl

@[simp] theorem weight_see (s : Scenario) (i : Nat) (d : Deed) :
    (s.see i d).weight = s.weight := rfl

@[simp] theorem begins_seeSide (s : Scenario) (a : String) : (s.seeSide a).begins = s.begins := rfl

@[simp] theorem weight_seeSide (s : Scenario) (a : String) : (s.seeSide a).weight = s.weight := rfl

@[simp] theorem begins_log (s : Scenario) (r : Log.Record) : (s.log r).begins = s.begins := rfl

@[simp] theorem weight_log (s : Scenario) (r : Log.Record) : (s.log r).weight = s.weight := rfl

@[simp] theorem begins_callStop (s : Scenario) (i : Nat) : (s.callStop i).begins = s.begins := rfl

@[simp] theorem weight_callStop (s : Scenario) (i : Nat) : (s.callStop i).weight = s.weight := rfl

@[simp] theorem begins_stopReturns (s : Scenario) (i : Nat) :
    (s.stopReturns i).begins = s.begins := rfl

@[simp] theorem weight_stopReturns (s : Scenario) (i : Nat) :
    (s.stopReturns i).weight = s.weight := rfl

@[simp] theorem begins_change (s : Scenario) (i : Nat) (f : Member → Member) :
    (s.change i f).begins = s.begins := rfl

@[simp] theorem weight_change (s : Scenario) (i : Nat) (f : Member → Member) :
    (s.change i f).weight = s.weight := rfl

@[simp] theorem begins_put (s : Scenario) (slot : Slot) (a : Act) :
    (s.put slot a).begins = a.begins + s.begins := Agenda.weigh_insert ..

@[simp] theorem weight_put (s : Scenario) (slot : Slot) (a : Act) :
    (s.put slot a).weight = a.weight + s.weight := by
  simp only [weight, put, Agenda.weigh_insert]
  omega

@[simp] theorem begins_stopOver (s : Scenario) (c : Caller) : (s.stopOver c).begins = s.begins := by
  cases c <;> rfl

@[simp] theorem weight_stopOver (s : Scenario) (c : Caller) : (s.stopOver c).weight = s.weight := by
  cases c <;> rfl

@[simp] theorem begins_await (s : Scenario) (w : Stopping) : (s.await w).begins = s.begins := rfl

@[simp] theorem weight_await (s : Scenario) (w : Stopping) :
    (s.await w).weight = s.weight + w.weight := by
  simp only [weight, await, weighWaiting_append, weighWaiting]
  omega

theorem weight_wake (ws : List Stopping) (s : Scenario) :
    (ws.foldl (fun s w => s.put ⟨s.time, w.caller.turnAfterOthers⟩ (.resume w)) s).weight =
      weighWaiting ws + s.weight := by
  induction ws generalizing s with
  | nil => simp [weighWaiting]
  | cons w ws ih =>
    simp only [List.foldl_cons, ih, weight_put, Act.weight, weighWaiting]
    omega

theorem begins_wake (ws : List Stopping) (s : Scenario) :
    (ws.foldl (fun s w => s.put ⟨s.time, w.caller.turnAfterOthers⟩ (.resume w)) s).begins =
      s.begins := by
  induction ws generalizing s with
  | nil => rfl
  | cons w ws ih => simp [ih, Act.begins]

theorem begins_proceed (c : Caller) (rest : List Nat) (s : Scenario) :
    (proceed c rest s).begins = s.begins := by
  induction rest generalizing s with
  | nil => simp [proceed]
  | cons i rest ih =>
    simp only [proceed]
    repeat' split
    all_goals simp [ih, Act.begins]

theorem weight_proceed (c : Caller) (rest : List Nat) (s : Scenario) :
    (proceed c rest s).weight ≤ s.weight + 2 * rest.length := by
  induction rest generalizing s with
  | nil => simp [proceed]
  | cons i rest ih =>
    have pass {a b : Scenario} (h : b.weight = a.weight) :
        (proceed c rest b).weight ≤ a.weight + 2 * (i :: rest).length := by
      have := ih b
      rw [List.length_cons]
      omega
    have hold {n w : Nat} (h : w ≤ n + 2 * rest.length + 2) : w ≤ n + 2 * (i :: rest).length := by
      rw [List.length_cons]
      omega
    simp only [proceed]
    split
    · exact pass (by simp)
    · split
      · split
        · exact pass (by simp)
        · exact hold (by simp [Act.weight, Stopping.weight]; omega)
      · split
        · exact pass (by simp)
        · split
          · exact pass (by simp)
          · split
            · exact hold (by simp [Act.weight, Stopping.weight]; omega)
            · exact hold (by simp [Stopping.weight]; omega)

theorem begins_drain (s : Scenario) (i : Nat) : (s.drain i).begins = s.begins := begins_wake ..

theorem weight_drain (s : Scenario) (i : Nat) : (s.drain i).weight = s.weight := by
  have := weighWaiting_split (fun w => decide (w.member = i)) s.waiting
  simp only [drain, weight_wake]
  simp only [weight, see, decide_not] at *
  omega

theorem begins_load (s : Scenario) (i : Nat) : (s.load i).begins = s.begins := by
  simp only [load]
  split
  · rfl
  · split
    · rw [begins_drain]
      rfl
    · rfl

theorem weight_load (s : Scenario) (i : Nat) : (s.load i).weight = s.weight := by
  simp only [load]
  split
  · rfl
  · split
    · rw [weight_drain]
      rfl
    · rfl

theorem begins_beginStop (s : Scenario) (c : Caller) : (s.beginStop c).begins = s.begins := by
  simp only [beginStop]
  split
  · rw [begins_proceed]
    rfl
  · simp

/-- The scenario after an act. -/
def perform (s : Scenario) : Act → Scenario
  | .deed i d => s.see i d
  | .log r => s.log r
  | .cancel token => s.cancelToken token
  | .cancelInUse => s.cancelToken s.token
  | .markStarted => { s with started := true }
  | .register c => s.register c
  | .sideDone action => s.seeSide action
  | .load i => s.load i
  | .drain i => s.drain i
  | .stopAll => s.beginStop .side
  | .resume stop => s.resume stop

theorem begins_perform (s : Scenario) (a : Act) : (s.perform a).begins = s.begins := by
  cases a with
  | load i => exact begins_load s i
  | drain i => exact begins_drain s i
  | stopAll => exact begins_beginStop s .side
  | resume stop =>
    simp only [perform, resume, begins_proceed, begins_stopReturns]
    split <;> rfl
  | _ => rfl

/-- An act that begins no stop brings about less than it weighs. -/
theorem weight_perform {s : Scenario} {a : Act} (h : a.begins = 0) :
    (s.perform a).weight < s.weight + a.weight := by
  cases a with
  | load i =>
    rw [perform, weight_load]
    simp [Act.weight]
  | drain i =>
    rw [perform, weight_drain]
    simp [Act.weight]
  | stopAll => simp [Act.begins] at h
  | resume stop =>
    simp only [perform, resume, Act.weight, Stopping.weight]
    refine Nat.lt_of_le_of_lt (weight_proceed ..) ?_
    split <;> simp
  | _ => exact Nat.lt_succ_self _

/-- The scenario after the next entry of its agenda. -/
def next (s : Scenario) : Scenario :=
  match s.agenda with
  | [] => s
  | (slot, a) :: rest => { s with agenda := rest, time := max s.time slot.time }.perform a

/-- What is left to be done becomes less. -/
theorem next_lt {s : Scenario} (h : s.agenda ≠ []) :
    Prod.Lex (· < ·) (· < ·) (s.next.begins, s.next.weight) (s.begins, s.weight) := by
  cases hs : s.agenda with
  | nil => contradiction
  | cons e rest =>
    let after := { s with agenda := rest, time := max s.time e.1.time }
    have hn : s.next = after.perform e.2 := by simp only [next, hs, after]
    have hb : s.begins = e.2.begins + after.begins := by simp [begins, hs, Agenda.weigh, after]
    have hw : s.weight = after.weight + e.2.weight := by
      simp only [weight, hs, Agenda.weigh, after]
      omega
    rw [hn, hb, hw, begins_perform]
    cases h0 : e.2.begins with
    | zero =>
      rw [Nat.zero_add]
      exact .right _ (weight_perform h0)
    | succ n => exact .left _ _ (by omega)

/-- Lets what is on the agenda happen while a condition holds. -/
def runWhile (p : Scenario → Bool) (s : Scenario) : Scenario :=
  if _h : s.agenda ≠ [] ∧ p s then runWhile p s.next else s
termination_by (s.begins, s.weight)
decreasing_by exact next_lt _h.1

end Scenario

end ClusterCensus.Collector
