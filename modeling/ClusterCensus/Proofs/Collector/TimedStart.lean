import ClusterCensus.Collector.Timing
import ClusterCensus.Proofs.Collector.Starting
import ClusterCensus.Proofs.Collector.WaitEnd

/-!
# The time that a start takes

To its tasks a start is a wait that nobody calls off and that has no limit it could reach
(`TimedStart.asWait`). So what is kept during a wait is kept during a start (`Paced.step`): its
outcomes are told at their times, and it is over when the last collector has started. All collectors
are called at once, because time does not pass before that.
-/

namespace ClusterCensus.Collector

open Starting (noticeAt)

namespace Launch

variable {ls : List Launch} {l : Launch} {began time i : Nat}

theorem slowest_le_iff : slowest ls ≤ time ↔ ∀ l ∈ ls, l.lasts ≤ time := by
  induction ls with
  | nil => simp [slowest]
  | cons l ls ih =>
    rw [List.forall_mem_cons, ← ih]
    exact max_le_iff

/-- Starts that are called at a time are all over when the slowest is. -/
theorem add_slowest_le_iff :
    began + slowest ls ≤ time ↔ began ≤ time ∧ ∀ l ∈ ls, began + l.lasts ≤ time := by
  constructor
  · intro h
    have hall := slowest_le_iff.1 (le_refl (slowest ls))
    exact ⟨by omega, fun l hl => by have := hall l hl; omega⟩
  · rintro ⟨hbegan, hall⟩
    have hslow : slowest ls ≤ time - began :=
      slowest_le_iff.2 fun l hl => by have := hall l hl; omega
    omega

theorem hasCome_worker : (l.worker began).endsAt.hasCome time = true ↔ began + l.lasts ≤ time :=
  Moment.hasCome_some

theorem hasCome_closing_workers : (Worker.closing began (TimedStart.workers ls began)).hasCome time
    = true ↔ began + slowest ls ≤ time := by
  rw [Worker.hasCome_closing, add_slowest_le_iff, TimedStart.workers, List.forall_mem_map]
  simp only [hasCome_worker]

theorem hasCome_toldAt_worker (hl : ls[i]? = some l) :
    (Worker.toldAt (TimedStart.workers ls began) i (l.worker began)).hasCome time = true
      ↔ toldAt began ls i l ≤ time := by
  rw [Worker.hasCome_toldAt, toldAt, TimedStart.workers, ← List.map_take, List.forall_mem_map]
  simp only [hasCome_worker]
  show (if l.ending.isCrash = true then _ else _) ↔ _
  split_ifs
  · have hmem : l ∈ ls.take (i + 1) :=
      List.mem_of_getElem? ((List.getElem?_take_of_lt (Nat.lt_succ_self i)).trans hl)
    rw [add_slowest_le_iff]
    exact ⟨fun h => ⟨(Nat.le_add_right ..).trans (h l hmem), h⟩, And.right⟩
  · rfl

theorem toldBy_workers : ToldBy (TimedStart.workers ls began) time i
    ↔ ∃ l, ls[i]? = some l ∧ toldAt began ls i l ≤ time := by
  unfold ToldBy
  rw [TimedStart.workers, List.getElem?_map]
  constructor
  · rintro ⟨w, hw, hcome⟩
    obtain ⟨l, hl, rfl⟩ := Option.map_eq_some_iff.1 hw
    exact ⟨l, hl, (hasCome_toldAt_worker hl).1 hcome⟩
  · rintro ⟨l, hl, hle⟩
    exact ⟨l.worker began, by rw [hl]; rfl, (hasCome_toldAt_worker hl).2 hle⟩

/-- The start at a place, if it fails. -/
def failing? (ls : List Launch) (place : Nat) : Option (Launch × Nat) :=
  ls[place]?.bind fun l => if l.ending = .ok then none else some (l, place)

theorem failing?_eq_some {a : Launch × Nat} :
    failing? ls i = some a ↔ a.2 = i ∧ ls[i]? = some a.1 ∧ a.1.ending ≠ .ok := by
  unfold failing?
  rcases hl : ls[i]? with _ | l
  · simp
  · obtain ⟨l', j⟩ := a
    rw [Option.bind_some, Option.some.injEq]
    split_ifs with hok
    · simp only [false_iff, not_and]
      rintro rfl rfl
      exact not_not.2 hok
    · rw [Option.some.injEq, Prod.mk.injEq]
      exact ⟨fun ⟨hl', hi⟩ => ⟨hi.symm, hl', hl' ▸ hok⟩, fun ⟨hi, hl', _⟩ => ⟨hl', hi.symm⟩⟩

theorem failedNames_places (places : List Nat) :
    failedNames (places.filterMap (noticeAt (TimedStart.workers ls began)))
      = (places.filterMap (failing? ls)).map (·.1.name) := by
  rw [failedNames, List.filterMap_filterMap, List.map_filterMap]
  refine List.filterMap_congr fun i _ => ?_
  rcases hl : ls[i]? with _ | l
  · simp [noticeAt, TimedStart.workers, failing?, hl]
  · rcases hend : l.ending with _ | f | message <;>
      simp [noticeAt, TimedStart.workers, failing?, hl, hend, Worker.notice, worker,
        Ending.failure?]

/-- Who is told of all starts in an order is told of those that fail in this order. -/
theorem failInOrder_of_places {places : List Nat}
    (hperm : places.Perm (List.range ls.length))
    (horder : places.Pairwise (ToldNoLater (TimedStart.workers ls began))) :
    FailInOrder began ls
      (failedNames (places.filterMap (noticeAt (TimedStart.workers ls began)))) := by
  refine ⟨places.filterMap (failing? ls), ?_, ?_, failedNames_places places⟩
  · refine (hperm.filterMap _).trans (.of_eq ?_)
    rw [List.range_eq_range', ← List.zipIdx_map_snd, List.filterMap_map, ← List.filterMap_eq_filter]
    refine List.filterMap_congr fun a ha => ?_
    have hl := List.mk_mem_zipIdx_iff_getElem?.1 ha
    by_cases hfail : a.1.ending = .ok <;> simp [failing?, hl, hfail, Option.guard]
  · refine List.pairwise_filterMap.2 (horder.imp ?_)
    intro i j hle a ha b hb
    obtain ⟨rfl, hla, -⟩ := failing?_eq_some.1 ha
    obtain ⟨rfl, hlb, -⟩ := failing?_eq_some.1 hb
    obtain ⟨l, hl, htold⟩ := toldBy_workers.1 (hle _ (toldBy_workers.2 ⟨_, hlb, le_rfl⟩))
    cases hla.symm.trans hl
    exact htold

end Launch

namespace TimedStart

open Waiting (Kept Terms)

variable {ls : List Launch} {began : Nat} {x y : TimedStart}

/-- The terms of the wait that a start is. -/
def terms (ls : List Launch) (began : Nat) : Terms where
  began := began
  workers := workers ls began
  cancel := none
  limit := Launch.slowest ls + 1
  ends_later w hw time hcome := by
    obtain ⟨l, -, rfl⟩ := List.mem_map.1 hw
    have := Launch.hasCome_worker.1 hcome
    omega

/-- How far a task is, to one that waits for it. -/
def errandAt (w : Worker) : Option Stage → Errand
  | some .sending => .sending w.notice
  | some .ended => .over (if w.ending.isCrash then some w.notice else none)
  | _ => .waiting

/-- A start as a wait. -/
def asWait (ls : List Launch) (began : Nat) (x : TimedStart) : Waiting where
  time := x.time
  errands := (workers ls began).zipIdx.map fun w => errandAt w.1 x.start.stages[w.2]?
  awaited := x.start.awaited
  queue := x.start.queue
  attention := .listening
  received := x.start.received
  first := Waiting.firstOf x.start.received
  callerCancelled := false
  cancelled := false
  logs := []
  result := none

theorem getElem?_errands (i : Nat) : (asWait ls began x).errands[i]?
    = (workers ls began)[i]?.map fun w => errandAt w x.start.stages[i]? := by
  simp only [asWait, List.getElem?_map, List.getElem?_zipIdx, Nat.zero_add, Option.map_map]
  rfl

theorem errandAt_eq_sending {w : Worker} {stage : Option Stage} {n : Notice}
    (h : errandAt w stage = .sending n) : stage = some .sending := by
  rcases stage with _ | _ | _ | _ | _ <;> cases h
  rfl

theorem errandAt_eq_over {w : Worker} {stage : Option Stage} {crash : Option Notice}
    (h : errandAt w stage = .over crash) :
    stage = some .ended ∧ crash.isSome = w.ending.isCrash := by
  rcases stage with _ | _ | _ | _ | _ <;> cases h
  split_ifs with hcrash <;> simp [hcrash]

theorem stage_of_errand {i : Nat} {e : Errand} (h : (asWait ls began x).errands[i]? = some e) :
    ∃ w, (workers ls began)[i]? = some w ∧ errandAt w x.start.stages[i]? = e :=
  Option.map_eq_some_iff.1 ((getElem?_errands i).symm.trans h)

/-- Only the stages of tasks tell their errands apart. -/
theorem errands_congr {y : Starting}
    (h : ∀ (i : Nat) (w : Worker), (workers ls began)[i]? = some w →
      errandAt w y.stages[i]? = errandAt w x.start.stages[i]?) :
    (asWait ls began (x.moved y)).errands = (asWait ls began x).errands := by
  refine List.ext_getElem? fun i => ?_
  rw [getElem?_errands, getElem?_errands]
  exact Option.map_congr fun w hw => h i w hw

theorem errands_set {i : Nat} {w : Worker} {a : Stage} (b : Stage) (y : Starting)
    (hi : x.start.stages[i]? = some a) (hw : (workers ls began)[i]? = some w)
    (hy : y.stages = x.start.stages.set i b) :
    (asWait ls began (x.moved y)).errands
      = (asWait ls began x).errands.set i (errandAt w (some b)) := by
  refine List.ext_getElem? fun j => ?_
  have hlt : i < (asWait ls began x).errands.length := by
    rw [asWait, List.length_map, List.length_zipIdx]
    exact (List.getElem?_eq_some_iff.1 hw).1
  rw [getElem?_errands, List.getElem?_set, getElem?_errands]
  show (workers ls began)[j]?.map (fun w => errandAt w y.stages[j]?) = _
  rw [hy, List.getElem?_set, if_pos hlt, if_pos (List.getElem?_eq_some_iff.1 hi).1]
  split_ifs with hij
  · rw [← hij, hw]
    rfl
  · rfl

section Moves

variable (h : Kept (terms ls began) (asWait ls began x))
include h

theorem kept_same {y : Starting}
    (herrands : ∀ (i : Nat) (w : Worker), (workers ls began)[i]? = some w →
      errandAt w y.stages[i]? = errandAt w x.start.stages[i]?)
    (hawaited : y.awaited = x.start.awaited)
    (hsent : y.received ++ y.queue = x.start.received ++ x.start.queue) :
    Kept (terms ls began) (asWait ls began (x.moved y)) := by
  refine h.aside rfl (errands_congr herrands) hawaited rfl rfl fun _ => ⟨?_, rfl, nofun⟩
  simpa [Waiting.sent, asWait, moved, Attention.notice?] using hsent

theorem kept_move {y : Starting} (hsound : Starting.Sound (workers ls began) x.start)
    (hm : Starting.Move (workers ls began) x.start y)
    (hdue : ∀ (i : Nat) (w : Worker), x.start.stages[i]? = some .working →
      y.stages[i]? ≠ some .working → (workers ls began)[i]? = some w →
      w.endsAt.hasCome x.time = true) :
    Kept (terms ls began) (asWait ls began (x.moved y)) := by
  cases hm with
  | spawn hlt =>
    refine kept_same h (fun i w _ => ?_) rfl rfl
    show errandAt w (x.start.stages ++ [.ready])[i]? = _
    rcases Nat.lt_trichotomy i x.start.stages.length with hi | rfl | hi
    · rw [List.getElem?_append_left hi]
    · rw [List.getElem?_concat_length, List.getElem?_eq_none le_rfl]
      rfl
    · rw [List.getElem?_eq_none hi.le, List.getElem?_eq_none (by simp; omega)]
  | @call i hi =>
    refine kept_same h (fun j w _ => ?_) rfl rfl
    show errandAt w (x.start.setStage i .working).stages[j]? = _
    rw [Starting.stage_setStage hi]
    split_ifs with hij
    · subst hij
      rw [hi]
      rfl
    · rfl
  | @finish i w hi hw =>
    have hcome : w.endsAt.hasCome x.time = true := by
      refine hdue i w hi ?_ hw
      rw [Starting.stage_setStage_self hi]
      split_ifs <;> simp
    have hwaiting : (asWait ls began x).errands[i]? = some .waiting := by
      rw [getElem?_errands, hw, hi]
      rfl
    have hended : errandAt w (some (if w.ending.isCrash then .ended else .sending))
        = .ended w.name w.ending := by
      unfold Errand.ended
      split_ifs with hcrash
      · simp [errandAt, hcrash, Worker.notice]
      · rfl
    have hkept := h.finish hwaiting hw (.inl ⟨hcome, rfl⟩)
    rw [← hended, Waiting.setErrand, ← errands_set _ (x.start.setStage i _) hi hw rfl] at hkept
    exact hkept
  | @send i w hi hw room =>
    have hsending : (asWait ls began x).errands[i]? = some (.sending w.notice) := by
      rw [getElem?_errands, hw, hi]
      rfl
    have hover : errandAt w (some .ended) = .over none := by
      simp [errandAt, hsound.sending i w hi hw]
    have hkept := h.send hsending
    rw [← hover, Waiting.setErrand,
      ← errands_set _ ((x.start.setStage i .ended).send w.notice) hi hw rfl] at hkept
    exact hkept
  | @pass w spawned hended hw hend =>
    refine h.pass (?_ : (asWait ls began x).errands[x.start.awaited]? = _)
    rw [getElem?_errands, hw, hended]
    simp [errandAt, hend]
  | @report w spawned hended hw hcrash room =>
    refine h.report (?_ : (asWait ls began x).errands[x.start.awaited]? = _)
    rw [getElem?_errands, hw, hended]
    simp [errandAt, hcrash]
  | @receive n rest spawned hq hopen =>
    refine kept_same h (fun i w _ => rfl) rfl ?_
    rw [hq, List.append_assoc]
    rfl
  | close spawned hq hall hwaited hopen =>
    exact kept_same h (fun i w _ => rfl) rfl rfl

end Moves

section Calls

variable {ws : List Worker} {u v : Starting}

theorem exists_calls (hm : Starting.Move ws u v) :
    ∃ new, v.calls = u.calls ++ new ∧ (new = [] ∨ .ready ∈ u.stages) := by
  cases hm with
  | @call i hi => exact ⟨[i], rfl, .inr (List.mem_of_getElem? hi)⟩
  | _ => exact ⟨[], (List.append_nil _).symm, .inl rfl⟩

/-- When all tasks were spawned and have called, it stays so. -/
theorem launched_move (hm : Starting.Move ws u v) (hlen : u.stages.length = ws.length)
    (hready : .ready ∉ u.stages) : v.stages.length = ws.length ∧ .ready ∉ v.stages := by
  have hset : ∀ (i : Nat) {b : Stage}, b ≠ .ready →
      (u.setStage i b).stages.length = ws.length ∧ .ready ∉ (u.setStage i b).stages :=
    fun i b hb => ⟨List.length_set.trans hlen, fun hmem => by
      rcases List.mem_or_eq_of_mem_set hmem with hmem | heq
      · exact hready hmem
      · exact hb heq.symm⟩
  cases hm with
  | spawn hlt => omega
  | call hi => exact absurd (List.mem_of_getElem? hi) hready
  | finish => exact hset _ (by split_ifs <;> simp)
  | send => exact hset _ (by simp)
  | _ => exact ⟨hlen, hready⟩

end Calls

/-- What holds during a start: it is a wait, every collector is called when the start begins, and
before time passes. -/
structure Paced (ls : List Launch) (began : Nat) (x : TimedStart) : Prop where
  sound : Starting.Sound (workers ls began) x.start
  kept : Kept (terms ls began) (asWait ls began x)
  calls_eq : x.calledAt.map (·.1) = x.start.calls
  prompt : ∀ c ∈ x.calledAt, c.2 = began
  launched : began < x.time → x.start.stages.length = (workers ls began).length
    ∧ .ready ∉ x.start.stages

namespace Paced

theorem hasCome_of_timely (h : Paced ls began x) {y : Starting} (ht : Timely ls x y) (i : Nat)
    (w : Worker) (hi : x.start.stages[i]? = some .working) (hy : y.stages[i]? ≠ some .working)
    (hw : (workers ls began)[i]? = some w) : w.endsAt.hasCome x.time = true := by
  obtain ⟨l, called, hl, hmem, hle⟩ := ht i hi hy
  obtain rfl : called = began := h.prompt _ hmem
  rw [workers, List.getElem?_map, hl] at hw
  cases hw
  exact Launch.hasCome_worker.2 hle

theorem move (h : Paced ls began x) {y : Starting}
    (hm : Starting.Move (workers ls began) x.start y) (ht : Timely ls x y) :
    Paced ls began (x.moved y) := by
  obtain ⟨new, hcalls, hnew⟩ := exists_calls hm
  have hmoved : (x.moved y).calledAt = x.calledAt ++ new.map fun i => (i, x.time) := by
    rw [moved, hcalls, List.drop_left]
  refine ⟨h.sound.move hm, kept_move h.kept h.sound hm (h.hasCome_of_timely ht), ?_, ?_,
    fun hlt => ?_⟩
  · rw [hmoved, List.map_append, List.map_map, h.calls_eq]
    exact (congrArg _ (List.map_id' new)).trans hcalls.symm
  · intro c hc
    rw [hmoved] at hc
    rcases List.mem_append.1 hc with hc | hc
    · exact h.prompt c hc
    · -- A task that is still to call is there only when the start begins.
      obtain ⟨i, hi, rfl⟩ := List.mem_map.1 hc
      have hready := hnew.resolve_left (List.ne_nil_of_mem hi)
      have hge : ¬ began < x.time := fun hlt => (h.launched hlt).2 hready
      exact le_antisymm (not_lt.1 hge) h.kept.begun
  · obtain ⟨hlen, hready⟩ := h.launched hlt
    exact launched_move hm hlen hready

section Idle

variable (h : Paced ls began x)
  (idle : ∀ y, Starting.Move (workers ls began) x.start y → ¬ Timely ls x y)
include idle

/-- There is no move that leaves those at work who are. -/
theorem not_move {y : Starting} (hm : Starting.Move (workers ls began) x.start y)
    (hsame : ∀ i : Nat, x.start.stages[i]? = some Stage.working →
      y.stages[i]? = some Stage.working) : False :=
  idle y hm fun i hi hne => absurd (hsame i hi) hne

theorem not_ready : .ready ∉ x.start.stages := by
  intro hmem
  obtain ⟨i, hi⟩ := List.mem_iff_getElem?.1 hmem
  refine not_move idle (.call hi) fun j hj => ?_
  show (x.start.setStage i .working).stages[j]? = _
  rw [Starting.stage_setStage hi, hj, ite_self]

include h

theorem spawned : x.start.stages.length = (workers ls began).length := by
  refine le_antisymm h.sound.spawned ?_
  by_contra hlt
  refine not_move idle (.spawn (not_le.1 hlt)) fun i hi => ?_
  exact (List.getElem?_append_left (List.getElem?_eq_some_iff.1 hi).1).trans hi

/-- A start that lasts goes on as long as it should. -/
theorem not_finish {i : Nat} {w : Worker} (hi : (asWait ls began x).errands[i]? = some .waiting)
    (hw : (workers ls began)[i]? = some w) : ¬ w.endsAt.hasCome x.time = true := by
  intro hcome
  have hlt : i < x.start.stages.length :=
    h.spawned idle ▸ (List.getElem?_eq_some_iff.1 hw).1
  have hworking : x.start.stages[i]? = some .working := by
    have hstage := List.getElem?_eq_getElem hlt
    rw [getElem?_errands, hw, hstage] at hi
    rcases hs : x.start.stages[i] with _ | _ | _ | _
    · exact absurd (hs ▸ List.getElem_mem hlt) (not_ready idle)
    · rw [hstage, hs]
    · rw [hs] at hi
      cases hi
    · rw [hs] at hi
      cases hi
  refine idle _ (.finish hworking hw) fun j hj hne => ?_
  obtain rfl : i = j := by
    by_contra hij
    rw [Starting.stage_setStage hworking, if_neg hij] at hne
    exact hne hj
  obtain ⟨c, hc, rfl⟩ : ∃ c ∈ x.calledAt, c.1 = i := by
    have hcalled := (h.sound.calls.2 i).2 ⟨_, hworking, by simp⟩
    rw [← h.calls_eq] at hcalled
    exact List.mem_map.1 hcalled
  rw [workers, List.getElem?_map] at hw
  obtain ⟨l, hl, rfl⟩ := Option.map_eq_some_iff.1 hw
  refine ⟨l, c.2, hl, hc, ?_⟩
  rw [h.prompt c hc]
  exact Launch.hasCome_worker.1 hcome

theorem asWait_idle (hopen : x.start.result = none) (y : Waiting) :
    ¬ Waiting.Move (terms ls began) (asWait ls began x) y := by
  have hlen := h.spawned idle
  intro hm
  cases hm with
  | finish hi hw how => exact h.not_finish idle hi hw (how.resolve_right nofun).1
  | @send i n hi room =>
    obtain ⟨w, hw, he⟩ := stage_of_errand hi
    have hsending := errandAt_eq_sending he
    refine not_move idle (.send hsending hw room) fun j hj => ?_
    show ((x.start.setStage i .ended).stages)[j]? = _
    rw [Starting.stage_setStage hsending, if_neg, hj]
    rintro rfl
    cases hsending.symm.trans hj
  | pass hi =>
    obtain ⟨w, hw, he⟩ := stage_of_errand hi
    obtain ⟨hended, hcrash⟩ := errandAt_eq_over he
    exact not_move idle (.pass hlen hended hw hcrash.symm) fun _ => id
  | report hi room =>
    obtain ⟨w, hw, he⟩ := stage_of_errand hi
    obtain ⟨hended, hcrash⟩ := errandAt_eq_over he
    exact not_move idle (.report hlen hended hw hcrash.symm room) fun _ => id
  | receive _ _ hq => exact not_move idle (.receive hlen hq hopen) fun _ => id
  | look hlook => cases hlook
  | drain _ _ hq hall hwaited =>
    refine not_move idle (.close hlen hq (fun stage hstage => ?_) hwaited hopen) fun _ => id
    obtain ⟨i, hi⟩ := List.mem_iff_getElem?.1 hstage
    have hlt : i < (workers ls began).length := hlen ▸ (List.getElem?_eq_some_iff.1 hi).1
    have herrand : (asWait ls began x).errands[i]? = _ := getElem?_errands i
    rw [List.getElem?_eq_getElem hlt, Option.map_some] at herrand
    obtain ⟨crash, hover⟩ := hall _ (List.mem_of_getElem? herrand)
    exact Option.some.inj (hi.symm.trans (errandAt_eq_over hover).1)
  | conclude hd => cases hd
  | callOff _ hc => cases hc
  | cancel hdue => cases hdue
  | spread hc => cases hc
  | expire _ hdue =>
    have hle := h.kept.early.le_closing (Launch.hasCome_closing_workers.2 le_rfl)
    unfold Waiting.Terms.deadline at hdue
    simp only [terms, asWait] at hdue hle
    omega

theorem tick (hopen : x.start.result = none) :
    Paced ls began { x with time := x.time + 1 } where
  sound := h.sound
  kept := h.kept.tick (h.asWait_idle idle hopen)
  calls_eq := h.calls_eq
  prompt := h.prompt
  launched _ := ⟨h.spawned idle, not_ready (x := x) idle⟩

end Idle

theorem step (h : Paced ls began x) (hs : Step ls began x y) : Paced ls began y := by
  cases hs with
  | move _ hm ht => exact h.move hm ht
  | pass hopen idle => exact h.tick idle hopen

theorem asWait_initial (hsome : ls ≠ []) (began : Nat) (started : Bool) :
    asWait ls began (initial ls began started) = Waiting.initial (terms ls began) := by
  have hne : workers ls began ≠ [] := by simpa [workers] using hsome
  have herrands : (workers ls began).zipIdx.map (fun w => errandAt w.1 ([] : List Stage)[w.2]?)
      = List.replicate (workers ls began).length Errand.waiting :=
    List.eq_replicate_iff.2 ⟨by simp, by simp [errandAt]⟩
  unfold TimedStart.initial Starting.initial
  rw [if_neg hne]
  unfold asWait Waiting.initial
  rw [herrands]
  simp only [terms, hne, if_false]
  rfl

theorem initial (hsome : ls ≠ []) (began : Nat) (started : Bool) :
    Paced ls began (initial ls began started) where
  sound := .initial ..
  kept := asWait_initial hsome began started ▸ .initial _
  calls_eq := by
    unfold TimedStart.initial Starting.initial
    split_ifs <;> rfl
  prompt := nofun
  launched hlt := absurd hlt (lt_irrefl _)

theorem steps {n : Nat} (h : Paced ls began x) (hs : Steps ls began n x y) : Paced ls began y := by
  induction hs with
  | refl => exact h
  | step _ last ih => exact (ih h).step last

theorem time_le (h : Paced ls began x) : x.time ≤ began + Launch.slowest ls :=
  h.kept.early.le_closing (Launch.hasCome_closing_workers.2 le_rfl)

/-- A start is over when the slowest collector has started, and outcomes were told in time. -/
theorem closed {r : Except GroupError Unit} (h : Paced ls began x)
    (hr : x.start.result = some r) :
    x.time = began + Launch.slowest ls
      ∧ (x.calledAt.map (·.1)).Perm (List.range ls.length)
      ∧ ∃ names, Launch.FailInOrder began ls names ∧ r = startResult names ls.length := by
  have hlen : (workers ls began).length = ls.length := List.length_map _
  obtain ⟨hresult, -, hq, hwaited⟩ := h.sound.closed r hr
  have hdrained := h.kept.drain rfl hq hwaited
  obtain ⟨places, hperm, -, hreceived, horder⟩ := hdrained.exists_places rfl rfl
  refine ⟨le_antisymm h.time_le ?_, ?_, failedNames x.start.received, ?_, hlen ▸ hresult⟩
  · exact Launch.hasCome_closing_workers.1 (hdrained.closed_of_drained rfl rfl)
  · rw [h.calls_eq, ← hlen]
    exact h.sound.calls_perm hr
  · have hreceived' : x.start.received = places.filterMap (noticeAt (workers ls began)) := hreceived
    rw [hreceived']
    exact Launch.failInOrder_of_places (hlen ▸ hperm) horder

end Paced

/-- Every step brings a start nearer to its end or takes time. -/
theorem progress_steps {n : Nat} (hs : Steps ls began n x y) :
    x.start.progress + x.time + n ≤ y.start.progress + y.time := by
  induction hs with
  | refl => exact le_rfl
  | step _ last ih =>
    cases last with
    | move _ hm =>
      have := Starting.progress_lt_of_move hm
      simp only [moved]
      omega
    | pass =>
      simp only
      omega

/-- A start that is not over goes on. -/
theorem exists_step (hopen : x.start.result = none) : ∃ y, Step ls began x y := by
  by_cases hm : ∃ y, Starting.Move (workers ls began) x.start y ∧ Timely ls x y
  · obtain ⟨y, hm, ht⟩ := hm
    exact ⟨_, .move hopen hm ht⟩
  · exact ⟨_, .pass hopen fun y hy ht => hm ⟨y, hy, ht⟩⟩

/-- A start of nobody is over at once. -/
theorem eq_of_nobody {n : Nat} {started : Bool}
    (hs : Steps [] began n (initial [] began started) x) :
    n = 0 ∧ x = initial [] began started := by
  generalize hx : initial [] began started = first at hs
  induction hs with
  | refl => exact ⟨rfl, rfl⟩
  | step _ last ih =>
    obtain ⟨-, rfl⟩ := ih hx
    subst hx
    cases last with
    | move hopen => cases hopen
    | pass hopen => cases hopen

end TimedStart

end ClusterCensus.Collector
