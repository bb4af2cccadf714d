import ClusterCensus.Proofs.Collector.Sound
import Mathlib.Logic.Relation

/-!
# In which orders outcomes are told

The outcomes of a start may be told in any order in which none of a smaller place comes after that
of a crash (`InOrder`): there are moves that tell them so (`exists_moves`). The tasks that do not
crash are called and send their outcome in their turn; when it is the turn of one that crashes, all
tasks before it are over, and the supervisor passes them first.
-/

namespace ClusterCensus.Collector.Starting

open Relation

variable {ws : List Worker}

/-- Whether the worker at a place crashes. -/
def crashesAt (ws : List Worker) (place : Nat) : Bool := ws[place]?.any (·.ending.isCrash)

/-- The orders in which outcomes can be told, by the places of the workers. -/
structure InOrder (ws : List Worker) (places : List Nat) : Prop where
  perm : places.Perm (List.range ws.length)
  pairwise : places.Pairwise fun i j => crashesAt ws i = true → i ≤ j

/-- A start whose tasks at some places are over and have told their outcomes, while the others are
still to be called. -/
def midway (ws : List Worker) (started : Bool) (awaited : Nat) (sent : List Nat) : Starting where
  stages := (List.range ws.length).map fun i => if i ∈ sent then .ended else .ready
  calls := sent
  awaited := awaited
  queue := sent.filterMap (noticeAt ws)
  received := []
  logs := [startingLog ws.length]
  started := started
  result := none

section Midway

variable (started : Bool) (k : Nat) (sent : List Nat)

theorem length_stages_midway : (midway ws started k sent).stages.length = ws.length := by
  simp [midway]

theorem stage_midway {i : Nat} (hi : i < ws.length) :
    (midway ws started k sent).stages[i]? = some (if i ∈ sent then .ended else .ready) := by
  simp [midway, List.getElem?_map, List.getElem?_range hi]

theorem set_stages_midway (i : Nat) : (midway ws started k sent).stages.set i .ended
    = (midway ws started k (sent ++ [i])).stages := by
  refine List.ext_getElem (by simp [midway]) fun j hj hj' => ?_
  simp only [midway, List.getElem_set, List.getElem_map, List.getElem_range, List.mem_append,
    List.mem_singleton]
  by_cases hij : i = j
  · subst hij
    simp
  · simp [hij, Ne.symm hij]

theorem room_midway (h : sent.length < ws.length) :
    (midway ws started k sent).queue.length < capacity ws := by
  calc (midway ws started k sent).queue.length ≤ sent.length := List.length_filterMap_le ..
    _ < ws.length := h
    _ ≤ capacity ws := le_max_left ..

/-- One more task is over and told. -/
theorem midway_told {i : Nat} {w : Worker} (hw : ws[i]? = some w) (k' : Nat) :
    { midway ws started k sent with
      stages := (midway ws started k sent).stages.set i .ended
      calls := sent ++ [i]
      awaited := k'
      queue := (midway ws started k sent).queue ++ [w.notice] }
      = midway ws started k' (sent ++ [i]) := by
  rw [set_stages_midway]
  simp [midway, noticeAt, hw]

end Midway

section Turns

variable {started : Bool} {k i : Nat} {sent : List Nat} {w : Worker}

theorem spawn_all (hws : ws ≠ []) : ∀ n ≤ ws.length, ReflTransGen (Move ws) (initial ws started)
    { initial ws started with stages := List.replicate n .ready }
  | 0, _ => by
    unfold initial
    rw [if_neg hws]
    exact .refl
  | n + 1, hn => by
    refine (spawn_all hws n (by omega)).tail ?_
    rw [List.replicate_succ']
    exact .spawn (by simpa using Nat.lt_of_succ_le hn)

theorem midway_nil (hws : ws ≠ []) :
    ReflTransGen (Move ws) (initial ws started) (midway ws started 0 []) := by
  have hspawn : ReflTransGen (Move ws) (initial ws started) _ := spawn_all hws ws.length le_rfl
  unfold initial at hspawn ⊢
  rw [if_neg hws] at hspawn ⊢
  simpa [midway, List.map_const'] using hspawn

/-- A task is called and ends. -/
theorem midway_call (hw : ws[i]? = some w) (hi : i ∉ sent) :
    ReflTransGen (Move ws) (midway ws started k sent)
      { (midway ws started k sent).setStage i (if w.ending.isCrash then .ended else .sending) with
        calls := sent ++ [i] } := by
  have hready := stage_midway started k sent (List.getElem?_eq_some_iff.1 hw).1
  rw [if_neg hi] at hready
  let called : Starting :=
    { (midway ws started k sent).setStage i .working with calls := sent ++ [i] }
  have hworking : called.stages[i]? = some .working := stage_setStage_self hready
  have hfinish := Move.finish hworking hw
  simp only [called, setStage, List.set_set] at hfinish
  exact (ReflTransGen.single (.call hready)).tail hfinish

/-- The turn of a worker that sends its outcome itself. -/
theorem midway_send (hw : ws[i]? = some w) (hend : w.ending.isCrash = false) (hi : i ∉ sent)
    (hroom : sent.length < ws.length) :
    ReflTransGen (Move ws) (midway ws started k sent) (midway ws started k (sent ++ [i])) := by
  have hready := stage_midway started k sent (List.getElem?_eq_some_iff.1 hw).1
  have hcall : ReflTransGen (Move ws) (midway ws started k sent) _ := midway_call hw hi
  rw [if_neg (by rw [hend]; decide)] at hcall
  have hsend : Move ws { (midway ws started k sent).setStage i .sending with calls := sent ++ [i] }
      _ := .send (stage_setStage_self hready) hw (room_midway started k sent hroom)
  simp only [Starting.send, setStage, List.set_set] at hsend
  rw [← midway_told started k sent hw k]
  exact hcall.tail hsend

/-- The turn of a worker that crashes, for whose task the supervisor waits. -/
theorem midway_crash (hw : ws[i]? = some w) (hcrash : w.ending.isCrash = true) (hi : i ∉ sent)
    (hroom : sent.length < ws.length) :
    ReflTransGen (Move ws) (midway ws started i sent)
      (midway ws started (i + 1) (sent ++ [i])) := by
  have hready := stage_midway started i sent (List.getElem?_eq_some_iff.1 hw).1
  have hcall : ReflTransGen (Move ws) (midway ws started i sent) _ := midway_call hw hi
  rw [if_pos hcrash] at hcall
  have hreport : Move ws { (midway ws started i sent).setStage i .ended with calls := sent ++ [i] }
      _ := .report (by simp [setStage, midway]) (stage_setStage_self hready) hw hcrash
        (room_midway started i sent hroom)
  rw [← midway_told started i sent hw (i + 1)]
  exact hcall.tail hreport

/-- The supervisor passes tasks that are over and did not crash. -/
theorem midway_pass : ∀ n, k + n ≤ ws.length →
    (∀ j, k ≤ j → j < k + n → j ∈ sent ∧ crashesAt ws j = false) →
    ReflTransGen (Move ws) (midway ws started k sent) (midway ws started (k + n) sent)
  | 0, _, _ => .refl
  | n + 1, hlen, hall => by
    have hlt : k + n < ws.length := by omega
    obtain ⟨hmem, hend⟩ := hall (k + n) (by omega) (by omega)
    have hw : ws[k + n]? = some ws[k + n] := List.getElem?_eq_getElem hlt
    have hended := stage_midway started (k + n) sent hlt
    rw [if_pos hmem] at hended
    refine (midway_pass n (by omega) fun j hj hj' => hall j hj (by omega)).tail ?_
    refine .pass (length_stages_midway ..) hended hw ?_
    simpa [crashesAt, hw] using hend

end Turns

/-- The supervisor has passed tasks whose outcomes were told, and all of them that crashed. -/
structure Abreast (ws : List Worker) (k : Nat) (sent : List Nat) : Prop where
  passed : ∀ j < k, j ∈ sent
  crashed : ∀ j ∈ sent, crashesAt ws j = true → j < k

namespace Abreast

variable {k i : Nat} {sent : List Nat}

theorem send (h : Abreast ws k sent) (hi : crashesAt ws i = false) :
    Abreast ws k (sent ++ [i]) where
  passed j hj := List.mem_append_left _ (h.passed j hj)
  crashed j hj hcrash := by
    rcases List.mem_append.1 hj with hj | hj
    · exact h.crashed j hj hcrash
    · rw [List.mem_singleton.1 hj, hi] at hcrash
      contradiction

theorem crash (h : Abreast ws k sent) (hk : k ≤ i) (hbefore : ∀ j < i, j ∈ sent) :
    Abreast ws (i + 1) (sent ++ [i]) where
  passed j hj := by
    rcases Nat.lt_succ_iff_lt_or_eq.1 hj with hj | rfl
    · exact List.mem_append_left _ (hbefore j hj)
    · simp
  crashed j hj hcrash := by
    rcases List.mem_append.1 hj with hj | hj
    · have := h.crashed j hj hcrash
      omega
    · rw [List.mem_singleton.1 hj]
      omega

/-- The supervisor passes on to a task when all before it are over. -/
theorem pass (started : Bool) (h : Abreast ws k sent) (hk : k ≤ i) (hi : i ≤ ws.length)
    (hbefore : ∀ j < i, j ∈ sent) :
    ReflTransGen (Move ws) (midway ws started k sent) (midway ws started i sent) := by
  obtain ⟨n, rfl⟩ := Nat.exists_eq_add_of_le hk
  refine midway_pass n hi fun j hj hj' => ⟨hbefore j hj', Bool.eq_false_iff.2 fun hcrash => ?_⟩
  have := h.crashed j (hbefore j hj') hcrash
  omega

end Abreast

section Order

variable {places : List Nat}

/-- All before a crash are told before it. -/
theorem InOrder.mem_of_lt {i j : Nat} {sent rest : List Nat} (h : InOrder ws (sent ++ i :: rest))
    (hi : crashesAt ws i = true) (hlt : i < ws.length) (hj : j < i) : j ∈ sent := by
  have hmem : j ∈ sent ++ i :: rest := h.perm.mem_iff.2 (List.mem_range.2 (by omega))
  rcases List.mem_append.1 hmem with hmem | hmem
  · exact hmem
  · have hlater := (List.pairwise_cons.1 (List.pairwise_append.1 h.pairwise).2.1).1
    rcases List.mem_cons.1 hmem with rfl | hmem
    · omega
    · exact absurd (hlater j hmem hi) (by omega)

/-- The outcomes are told one after the other. -/
theorem midway_all (started : Bool) (h : InOrder ws places) : ∀ (rest sent : List Nat) (k : Nat),
    places = sent ++ rest → Abreast ws k sent → ∃ k', Abreast ws k' places
      ∧ ReflTransGen (Move ws) (midway ws started k sent) (midway ws started k' places)
  | [], sent, k, hp, hk => by
    rw [List.append_nil] at hp
    exact ⟨k, hp ▸ hk, hp ▸ .refl⟩
  | i :: rest, sent, k, hp, hk => by
    have hlt : i < ws.length := List.mem_range.1 (h.perm.mem_iff.1 (by simp [hp]))
    have hw : ws[i]? = some ws[i] := List.getElem?_eq_getElem hlt
    have hnodup : (sent ++ i :: rest).Nodup := hp ▸ h.perm.nodup_iff.2 List.nodup_range
    have hi : i ∉ sent := fun hs => (List.nodup_append.1 hnodup).2.2 i hs i (by simp) rfl
    have hroom : sent.length < ws.length := by
      have := h.perm.length_eq
      rw [hp, List.length_append, List.length_cons, List.length_range] at this
      omega
    have hp' : places = sent ++ [i] ++ rest := by simp [hp]
    rcases hc : ws[i].ending.isCrash with _ | _
    · obtain ⟨k', hk', hrest⟩ := midway_all started h rest (sent ++ [i]) k hp'
        (hk.send (by simp [crashesAt, hw, hc]))
      exact ⟨k', hk', (midway_send hw hc hi hroom).trans hrest⟩
    · -- The supervisor tells of a crash, and has to pass all tasks before it first.
      have hbefore : ∀ j < i, j ∈ sent := fun j hj =>
        (hp ▸ h).mem_of_lt (by simp [crashesAt, hw, hc]) hlt hj
      have hki : k ≤ i := by
        by_contra hik
        exact hi (hk.passed i (by omega))
      obtain ⟨k', hk', hrest⟩ := midway_all started h rest (sent ++ [i]) (i + 1) hp'
        (hk.crash hki hbefore)
      refine ⟨k', hk', ?_⟩
      calc ReflTransGen (Move ws) (midway ws started k sent) (midway ws started i sent) :=
            hk.pass started hki hlt.le hbefore
        ReflTransGen (Move ws) _ (midway ws started (i + 1) (sent ++ [i])) :=
            midway_crash hw hc hi hroom
        ReflTransGen (Move ws) _ (midway ws started k' places) := hrest

theorem receive_all : ∀ (queue : List Notice) {x : Starting}, x.queue = queue →
    x.stages.length = ws.length → x.result = none → ReflTransGen (Move ws) x
      { x with
        queue := []
        received := x.received ++ queue
        logs := x.logs ++ queue.map startLog }
  | [], x, hq, _, _ => by
    rw [List.map_nil, List.append_nil, List.append_nil, ← hq]
  | n :: rest, x, hq, hlen, hopen => by
    have hrest := receive_all rest (x := { x with
      queue := rest
      received := x.received ++ [n]
      logs := x.logs ++ [startLog n] }) rfl hlen hopen
    simp only [List.append_assoc, List.singleton_append] at hrest
    exact .head (.receive hlen hq hopen) hrest

theorem exists_moves_of_reflTransGen {x y : Starting} (h : ReflTransGen (Move ws) x y) :
    ∃ n, Moves ws n x y := by
  induction h with
  | refl => exact ⟨0, .refl x⟩
  | tail _ last ih =>
    obtain ⟨n, hn⟩ := ih
    exact ⟨n + 1, .move hn last⟩

/-- A start may tell its outcomes in any order that is possible. -/
theorem exists_moves (started : Bool) (h : InOrder ws places) :
    ∃ n x, Moves ws n (initial ws started) x ∧ x.received = places.filterMap (noticeAt ws)
      ∧ x.result = some (startResult (failedNames x.received) ws.length) := by
  by_cases hws : ws = []
  · subst hws
    rw [List.perm_nil.1 h.perm]
    exact ⟨0, _, .refl _, rfl, rfl⟩
  · obtain ⟨k, hk, hall⟩ := midway_all started h places [] 0 rfl ⟨by simp, by simp⟩
    have hmem : ∀ j, j ∈ places ↔ j < ws.length := fun j => h.perm.mem_iff.trans List.mem_range
    have hle : k ≤ ws.length := by
      by_contra hlt
      have := (hmem _).1 (hk.passed ws.length (by omega))
      omega
    have hpass := hk.pass started hle le_rfl fun j hj => (hmem j).2 hj
    have hlen : (midway ws started ws.length places).stages.length = ws.length :=
      length_stages_midway ..
    have hreceive := receive_all _ (x := midway ws started ws.length places) rfl hlen rfl
    have hended : ∀ stage ∈ (midway ws started ws.length places).stages, stage = .ended := by
      intro stage hstage
      obtain ⟨j, hj, rfl⟩ := List.mem_map.1 hstage
      exact if_pos ((hmem j).2 (List.mem_range.1 hj))
    have hclose : Move ws { midway ws started ws.length places with
      queue := []
      received := (midway ws started ws.length places).queue
      logs := [startingLog ws.length] ++ (midway ws started ws.length places).queue.map startLog }
      _ := .close hlen rfl hended rfl rfl
    have hcourse := calc
      ReflTransGen (Move ws) (initial ws started) (midway ws started 0 []) := midway_nil hws
      ReflTransGen (Move ws) _ (midway ws started k places) := hall
      ReflTransGen (Move ws) _ (midway ws started ws.length places) := hpass
      ReflTransGen (Move ws) _ _ := hreceive
      Move ws _ _ := hclose
    obtain ⟨n, hn⟩ := exists_moves_of_reflTransGen hcourse
    exact ⟨n, _, hn, rfl, rfl⟩

end Order

end ClusterCensus.Collector.Starting
