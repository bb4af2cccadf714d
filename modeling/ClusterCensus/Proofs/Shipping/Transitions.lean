import ClusterCensus.Agent.History
import ClusterCensus.Proofs.Shipping.Round

/-!
# The logged transitions form an unbroken path

A tick tells of a transition when it finds the state changed after the sink's answer, an order
tells of one whenever it is given. What a sink logs is between the records of its tick, and is not
counted among them (`logs_round`). Enrichment, shipments and skipped ticks tell of none, so a move
adds at most one transition, which leads from the state before it to the state after it
(`announced_round`), and the transitions of all moves join (`joins_trail`).
-/

namespace ClusterCensus

open Shipping

/-- Whether a record tells of a transition, by its event or by its message. -/
def Log.Record.isTransition (r : Log.Record) : Bool :=
  r.fields.lookup "event" = some (.text "state_transition")
    || r.message = "Agent state transition"

namespace Shipping

/-- A sink that logs nothing. -/
def Sink.silent (sink : Sink) : Sink := fun s => ((sink s).1, [])

/-- A round with a sink that logs nothing. -/
def Round.silent (r : Round) : Round := { r with sink := r.sink.silent }

/-- A move without what a sink logs. -/
def Move.silent : Move → Move
  | round r => .round r.silent
  | order state reason => .order state reason

end Shipping

namespace Agent

open Log.Record (isTransition)

/-- The transitions that a move tells of by itself. -/
def announced (a : Agent) (m : Move) : List Log.Record :=
  (a.moveLogs m.silent).filter isTransition

/-- The agent after moves. -/
def afterMoves (a : Agent) (moves : List Move) : Agent := moves.foldl move a

/-- The transitions that moves tell of, one after the other. -/
def trail (a : Agent) : List Move → List Log.Record
  | [] => []
  | m :: ms => a.announced m ++ (a.move m).trail ms

/-- What the sink logs in a round, if it is shown anything. -/
def heard (a : Agent) (r : Round) : List Log.Record :=
  ((a.round r).seen.map fun s => (r.sink s).2).getD []

theorem filter_stateChanged (j : Journal) (source : Lifecycle.State) (now : Lifecycle.Status) :
    [j.stateChanged source now].filter isTransition = [j.stateChanged source now] := by
  unfold Journal.stateChanged
  split <;> rfl

theorem level_stateChanged (j : Journal) (source : Lifecycle.State) (now : Lifecycle.Status) :
    (j.stateChanged source now).level
      = if now.state ∈ [.backoff, .stopped, .exiting] then .warn else .info := by
  unfold Journal.stateChanged
  cases now.state <;> rfl

theorem filter_deliveryLog (a : Agent) (items changed : Nat) (d : Delivery) :
    [a.deliveryLog items changed d].filter isTransition = [] := by
  cases d <;> rfl

theorem filter_enrich (s : Snapshot) : s.enrich.logs.filter isTransition = [] := by
  simp only [Snapshot.enrich, List.filter_flatMap, List.flatMap_eq_nil_iff, List.mem_map]
  rintro e ⟨p, -, rfl⟩
  unfold Pod.enrich
  split
  · rfl
  · simp only []
    split_ifs <;> rfl

theorem logs_ship (a : Agent) (r : Reading) (sink : Sink) :
    (a.ship r sink).logs = (a.capture r.wallMs).logs ++ (sink (a.capture r.wallMs).snapshot).2
      ++ [a.deliveryLog (a.capture r.wallMs).snapshot.totalItems (a.capture r.wallMs).changed
        (sink (a.capture r.wallMs).snapshot).1]
      ++ if (a.ship r sink).agent.lifecycle.machine.state = a.lifecycle.machine.state then []
        else [a.journal.stateChanged a.lifecycle.machine.state
          ((a.ship r sink).agent.status r.shown)] := rfl

/-- A shipment tells of the transition that it has brought about, if it has. -/
theorem filter_ship (a : Agent) (r : Reading) (sink : Sink) :
    (a.ship r sink.silent).logs.filter isTransition
      = if (a.ship r sink).agent.lifecycle.machine.state = a.lifecycle.machine.state then []
        else [a.journal.stateChanged a.lifecycle.machine.state
          ((a.ship r sink).agent.status r.shown)] := by
  have hagent : (a.ship r sink.silent).agent = (a.ship r sink).agent := rfl
  rw [logs_ship, hagent]
  simp only [capture, Sink.silent, List.filter_append, filter_enrich, filter_deliveryLog,
    List.filter_nil, List.nil_append]
  by_cases hsame : (a.ship r sink).agent.lifecycle.machine.state = a.lifecycle.machine.state
  · rw [if_pos hsame, List.filter_nil]
  · rw [if_neg hsame, filter_stateChanged]

/-- What the sink logs stands in one place among the records of the tick. -/
theorem logs_round (a : Agent) (r : Round) :
    ∃ before after, (a.round r).logs = before ++ a.heard r ++ after
      ∧ (a.round r.silent).logs = before ++ after := by
  have hsilent : a.beforeTick r.silent = a.beforeTick r := rfl
  unfold heard
  rcases hc : a.lifecycle.machine.canSend r.reading.gate with _ | _
  · rw [round_eq_skip hc, round_eq_skip (r := r.silent) hc, hsilent]
    exact ⟨[], _, rfl, rfl⟩
  · rw [round_eq_ship hc, round_eq_ship (r := r.silent) hc, hsilent]
    refine ⟨_, _, List.append_assoc .., (List.append_assoc ..).trans ?_⟩
    rw [List.append_nil]
    rfl

theorem announced_round (a : Agent) (r : Round) :
    a.announced (.round r)
      = if (a.round r).agent.lifecycle.machine.state = a.lifecycle.machine.state then []
        else [(a.beforeTick r).journal.stateChanged a.lifecycle.machine.state
          ((a.round r).agent.status r.reading.shown)] := by
  have hstate : (a.beforeTick r).lifecycle.machine.state = a.lifecycle.machine.state := by
    rw [lifecycle_beforeTick]
  change (a.round r.silent).logs.filter isTransition = _
  rcases hc : a.lifecycle.machine.canSend r.reading.gate with _ | _
  · rw [if_pos (by rw [(round_of_closed hc).2.2, hstate]), round_eq_skip (r := r.silent) hc]
    rfl
  · rw [round_eq_ship hc, round_eq_ship (r := r.silent) hc, ← hstate]
    exact filter_ship ..

/-- The records join a state to another one. -/
def Joins (source : Lifecycle.State) (records : List Log.Record) (target : Lifecycle.State) :
    Prop :=
  records.map (·.fields.lookup "from") ++ [some (.text target.name)]
    = some (.text source.name) :: records.map (·.fields.lookup "to")

theorem Joins.append {s t u : Lifecycle.State} {xs ys : List Log.Record} (h : Joins s xs t)
    (h' : Joins t ys u) : Joins s (xs ++ ys) u := by
  unfold Joins at h h' ⊢
  rw [List.map_append, List.append_assoc, h', List.append_cons, h, List.map_append]
  rfl

theorem joins_stateChanged (j : Journal) (source : Lifecycle.State) (now : Lifecycle.Status) :
    Joins source [j.stateChanged source now] now.state := by
  unfold Journal.stateChanged
  split <;> rfl

/-- What a move tells of leads from the state before it to the state after it. -/
theorem joins_announced (a : Agent) (m : Move) :
    Joins a.lifecycle.machine.state (a.announced m) (a.move m).lifecycle.machine.state := by
  cases m with
  | order state reason => rfl
  | round r =>
    rw [announced_round]
    split_ifs with hsame
    · rw [move, hsame]
      rfl
    · exact joins_stateChanged ..

theorem joins_trail : ∀ (moves : List Move) (a : Agent),
    Joins a.lifecycle.machine.state (a.trail moves) (a.afterMoves moves).lifecycle.machine.state
  | [], _ => rfl
  | m :: ms, a => (joins_announced a m).append (joins_trail ms (a.move m))

theorem trail_eq : ∀ {moves : List Move} {k : Nat} {m : Move} (a : Agent), moves[k]? = some m →
    a.trail moves = a.trail (moves.take k) ++ ((a.afterMoves (moves.take k)).announced m
      ++ ((a.afterMoves (moves.take k)).move m).trail (moves.drop (k + 1)))
  | [], _, _, _, h => by simp at h
  | n :: ns, 0, m, a, h => by
    cases h
    rfl
  | n :: ns, k + 1, m, a, h => by
    have ih := trail_eq (a.move n) (show ns[k]? = some m from h)
    rw [trail, ih, List.take_succ_cons, trail, List.append_assoc]
    rfl

/-- Whatever ticks and orders move a new lifecycle: the transitions that they tell of begin at the
start, each begins where the one before it ended, and the last one ends where the lifecycle is. A
tick tells of one if it has changed the state and of none otherwise, whatever the sink logs in the
middle of it. It is a warning if the agent now holds back or has come to its end. -/
theorem transitions_form_a_path (a : Agent) (moves : List Move) :
    let b := { a with lifecycle := .initial }
    let trail := b.trail moves
    trail.map (·.fields.lookup "from")
        ++ [some (.text (b.afterMoves moves).lifecycle.machine.state.name)]
      = some (.text "starting") :: trail.map (·.fields.lookup "to")
      ∧ ∀ (k : Nat) (r : Round), moves[k]? = some (.round r) →
        let c := b.afterMoves (moves.take k)
        let told := c.announced (.round r)
        let old := c.lifecycle.machine.state
        let new := (c.round r).agent.lifecycle.machine.state
        (∃ others, trail = b.trail (moves.take k) ++ (told ++ others))
        ∧ (∃ before after, (c.round r).logs = before ++ c.heard r ++ after
          ∧ told = (before ++ after).filter isTransition)
        ∧ (new = old → told = [])
        ∧ (new ≠ old → ∃ e, told = [e]
          ∧ e.level = if new ∈ [.backoff, .stopped, .exiting] then .warn else .info) := by
  intro b trail
  refine ⟨joins_trail moves b, fun k r hr => ?_⟩
  intro c told old new
  obtain ⟨before, after, hlogs, hsilent⟩ := logs_round c r
  refine ⟨⟨_, trail_eq b hr⟩, ⟨before, after, hlogs, congrArg _ hsilent⟩, fun hsame => ?_,
    fun hne => ?_⟩
  · exact (announced_round c r).trans (if_pos hsame)
  · exact ⟨_, (announced_round c r).trans (if_neg hne), level_stateChanged ..⟩

end Agent

end ClusterCensus
