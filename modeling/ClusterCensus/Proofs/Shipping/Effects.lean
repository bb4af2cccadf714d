import ClusterCensus.Proofs.Shipping.Round
import Mathlib.Tactic.Common

/-!
# What ticks do to an agent

A tick only reads the store: whatever ticks came before, the store holds what was written to it
(`store_after`). The lifecycle is moved by the answers of the sink and by nothing else, each of them
taken once (`machine_after`). So a tick is one of three things: it is skipped, or it shows the sink
one snapshot and that fails, and either way leaves the lifecycle as it was, or the snapshot is
answered (`tick_all_or_nothing`).
-/

namespace ClusterCensus

open Shipping
open Lifecycle (Event)

theorem Store.run_append (s : Store) (xs ys : List (Int × Store.Change)) :
    s.run (xs ++ ys) = (s.run xs).run ys :=
  List.foldl_append

theorem Lifecycle.Machine.run_append (m : Lifecycle.Machine) (xs ys : List (Instant × Event)) :
    m.run (xs ++ ys) = (m.run xs).run ys :=
  List.foldl_append

namespace Shipping

/-- What is written to the store, and what the wall clock shows then, if anything is. -/
def Aside.write? : Aside → Option (Int × Store.Change)
  | write wallMs change => some (wallMs, change)
  | _ => none

/-- What is written to the store before the tick of a round. -/
def Round.writes (r : Round) : List (Int × Store.Change) := r.asides.filterMap Aside.write?

end Shipping

namespace Agent

theorem store_respond (a : Agent) (wallMs : Int) (now : Instant) (method : Api.Method)
    (target : String) : (a.respond wallMs now method target).2.store = a.store := by
  rcases respond_cases a wallMs now method target with h | h | h <;> rw [h] <;> rfl

theorem store_aside (a : Agent) (x : Aside) :
    (a.aside x).store = a.store.run x.write?.toList := by
  cases x with
  | write => rfl
  | onCancel => rfl
  | request => exact store_respond ..

theorem store_foldl_aside : ∀ (asides : List Aside) (a : Agent),
    (asides.foldl aside a).store = a.store.run (asides.filterMap Aside.write?)
  | [], _ => rfl
  | x :: xs, a => by
    rw [List.foldl_cons, store_foldl_aside xs, store_aside, ← Store.run_append,
      List.filterMap_cons]
    rcases x.write? with _ | w <;> rfl

theorem store_beforeTick (a : Agent) (r : Round) :
    (a.beforeTick r).store = a.store.run r.writes :=
  store_foldl_aside ..

/-- A tick leaves the store as it finds it. -/
theorem store_tick (a : Agent) (r : Reading) (sink : Sink) :
    (a.tick r sink).agent.store = a.store := by
  unfold tick
  split_ifs <;> rfl

theorem store_round (a : Agent) (r : Round) : (a.round r).agent.store = a.store.run r.writes :=
  (store_tick ..).trans (store_beforeTick a r)

theorem store_after : ∀ (rs : List Round) (a : Agent),
    (a.after rs).store = a.store.run (rs.flatMap Round.writes)
  | [], _ => rfl
  | r :: rs, a => by
    have ih := store_after rs (a.round r).agent
    rw [store_round, ← Store.run_append] at ih
    exact ih

/-- The answer that a round gets, and when it is taken, if there is one. -/
def reply? (a : Agent) (r : Round) : Option (Instant × Event) :=
  (a.round r).seen.bind fun s =>
    match (r.sink s).1 with
    | .answered code hint => some (r.reading.settled, .answer code hint)
    | .failed _ => none

/-- The answers that rounds get, in order. -/
def replies (a : Agent) : List Round → List (Instant × Event)
  | [] => []
  | r :: rs => (a.reply? r).toList ++ (a.round r).agent.replies rs

theorem machine_round (a : Agent) (r : Round) :
    (a.round r).agent.lifecycle.machine = a.lifecycle.machine.run (a.reply? r).toList := by
  unfold reply?
  rcases hc : a.lifecycle.machine.canSend r.reading.gate with _ | _
  · obtain ⟨hseen, -, hlife⟩ := round_of_closed hc
    rw [hseen, hlife]
    exact machine_beforeTick a r
  · obtain ⟨hseen, -, hlife⟩ := round_of_open hc
    rw [hseen, hlife, Option.bind_some, ← machine_beforeTick a r]
    rcases (r.sink (a.offered r)).1 with ⟨code, hint⟩ | f <;> rfl

theorem replies_append : ∀ (rs : List Round) (a : Agent) (r : Round),
    a.replies (rs ++ [r]) = a.replies rs ++ ((a.after rs).reply? r).toList
  | [], a, r => by simp [replies, after]
  | q :: qs, a, r => by
    have ih := replies_append qs (a.round q).agent r
    rw [List.cons_append, replies, ih, replies, List.append_assoc]
    rfl

theorem machine_after : ∀ (rs : List Round) (a : Agent),
    (a.after rs).lifecycle.machine = a.lifecycle.machine.run (a.replies rs)
  | [], _ => rfl
  | r :: rs, a => by
    have ih := machine_after rs (a.round r).agent
    rw [machine_round, ← Lifecycle.Machine.run_append] at ih
    exact ih

/-- Whatever was written to the store of an agent, and whatever ticks there were before: a tick
finds the store that the writes have left and the lifecycle that the answers have left, and leaves
the store so. If the lifecycle does not allow a shipment, the sink is shown nothing and the
lifecycle stays as it is, callback and calls included. If it does, the sink is shown one snapshot, a
copy of the store in which the owners are resolved. If that fails, the lifecycle stays as it is, and
if it is answered, the answer is taken once. -/
theorem tick_all_or_nothing (a : Agent) (earlier : List Round) (r : Round) :
    let found := (a.after earlier).beforeTick r
    let t := (a.after earlier).round r
    let store := a.store.run ((earlier ++ [r]).flatMap Round.writes)
    let m := a.lifecycle.machine.run (a.replies earlier)
    let shown := (store.snapshot r.reading.wallMs).enrich
    found.store = store ∧ t.agent.store = store
      ∧ found.lifecycle.machine = m
      ∧ t.agent.lifecycle.machine = a.lifecycle.machine.run (a.replies (earlier ++ [r]))
      ∧ (m.canSend r.reading.gate = false →
        t.seen = none ∧ t.outcome = .skipped m.state ∧ t.agent.lifecycle = found.lifecycle)
      ∧ (m.canSend r.reading.gate = true → t.seen = some shown.snapshot
        ∧ match (r.sink shown.snapshot).1 with
          | .failed _ => t.outcome = .failed ∧ t.agent.lifecycle = found.lifecycle
          | .answered code hint => t.outcome = .shipped code shown.changed
            ∧ t.agent.lifecycle = found.lifecycle.answer r.reading.settled code hint) := by
  intro found t store m shown
  have hstore : found.store = store := by
    change ((a.after earlier).beforeTick r).store = _
    rw [store_beforeTick, store_after, ← Store.run_append, ← List.flatMap_singleton Round.writes r,
      ← List.flatMap_append]
  have hm : (a.after earlier).lifecycle.machine = m := machine_after earlier a
  refine ⟨hstore, (store_tick ..).trans hstore, (machine_beforeTick ..).trans hm, ?_,
    fun hc => ?_, fun hc => ?_⟩
  · rw [replies_append, Lifecycle.Machine.run_append, ← machine_after]
    exact machine_round ..
  · rw [← hm] at hc ⊢
    obtain ⟨hseen, hout, hlife⟩ := round_of_closed hc
    exact ⟨hseen, hout, hlife⟩
  · rw [← hm] at hc
    have hshown : found.capture r.reading.wallMs = shown := by
      rw [capture, hstore]
    have hship : t.seen = some shown.snapshot
        ∧ t.outcome = outcomeOf shown.changed (r.sink shown.snapshot).1
        ∧ t.agent.lifecycle
          = found.lifecycleAfter r.reading.settled (r.sink shown.snapshot).1 := by
      rw [show t = found.ship r.reading r.sink from round_eq_ship hc, ← hshown]
      exact ⟨rfl, rfl, rfl⟩
    obtain ⟨hseen, hout, hlife⟩ := hship
    refine ⟨hseen, ?_⟩
    rcases hd : (r.sink shown.snapshot).1 with ⟨code, hint⟩ | f <;> rw [hd] at hout hlife
    · exact ⟨hout, hlife⟩
    · exact ⟨hout, hlife⟩

end Agent

end ClusterCensus
