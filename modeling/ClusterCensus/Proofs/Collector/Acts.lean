import ClusterCensus.Collector.Scenario
import ClusterCensus.Proofs.Time.Agenda
import Mathlib.Logic.Relation

/-!
# What an act can do

Most acts do no more than a few small things one after the other (`Tweak`, `Minor.perform`). They
are seen, make records that are not of errors, change collectors without making them others, and put
on the agenda, from then on, the end of a duty or a stop that goes on. The other acts begin a stop,
make a record, cancel a token, or mark the collectors as started. None of them takes time or takes
anything off the agenda (`Onward.perform`), and only those that cancel the token in use do so
(`cancelled_of_perform`).
-/

namespace ClusterCensus.Collector

open Relation

namespace Act

/-- Whether an act is put on the agenda by others: a duty ends, or a stop goes on. -/
def isFollowUp : Act → Bool
  | .resume _ | .drain _ => true
  | _ => false

/-- Whether an act is minor. -/
def isMinor : Act → Bool
  | .log _ | .markStarted | .stopAll | .cancel _ | .cancelInUse => false
  | _ => true

/-- Whether an act cancels a token, if that is the one in use. -/
def cancels (token : Nat) : Act → Bool
  | .cancel t => t = token
  | .cancelInUse => true
  | _ => false

theorem isMinor_of_isFollowUp {a : Act} (h : a.isFollowUp = true) : a.isMinor = true := by
  cases a <;> first | rfl | cases h

theorem cancels_of_isMinor {a : Act} (h : a.isMinor = true) (token : Nat) :
    a.cancels token = false := by
  cases a <;> first | rfl | cases h

end Act

namespace Scenario

/-- The small things that an act can do. -/
inductive Tweak (s : Scenario) : Scenario → Prop where
  | see (i : Nat) (d : Deed) : Tweak s (s.see i d)
  | seeSide (action : String) : Tweak s (s.seeSide action)
  | log {r : Log.Record} (h : r.level ≠ .error) : Tweak s (s.log r)
  | put {slot : Slot} {a : Act} (h : a.isFollowUp = true) (later : s.time ≤ slot.time) :
    Tweak s (s.put slot a)
  | members {ms : List Member} (h : s.members.map (·.collector) <+: ms.map (·.collector)) :
    Tweak s { s with members := ms }
  | waiting (stops : List Stopping) : Tweak s { s with waiting := stops }
  | stops (marks : List StopMark) : Tweak s { s with stops := marks }
  | namespaces (ns : SortedMap Namespace) : Tweak s { s with namespaces := ns }

/-- What relates the state before each step to the state after it relates the states before and
after all of them. -/
theorem rel_foldl {α : Type} {r : Scenario → Scenario → Prop} [IsPreorder Scenario r]
    {f : Scenario → α → Scenario} (l : List α) (h : ∀ a ∈ l, ∀ s, r s (f s a)) (s : Scenario) :
    r s (l.foldl f s) :=
  List.foldlRecOn l f (refl s) fun t ht a ha => IsTrans.trans _ _ _ ht (h a ha t)

/-- Some small things happen one after the other. -/
abbrev Minor : Scenario → Scenario → Prop := ReflTransGen Tweak

namespace Minor

variable {s t : Scenario}

theorem map_modify {f : Member → Member} (h : ∀ m, (f m).collector = m.collector) (i : Nat)
    (members : List Member) :
    (members.modify i f).map (·.collector) = members.map (·.collector) := by
  refine List.ext_getElem? fun j => ?_
  rw [List.getElem?_map, List.getElem?_map, List.getElem?_modify]
  rcases members[j]? with _ | m
  · rfl
  · simp only [Option.map_eq_map, Option.map_some]
    split_ifs
    · rw [h]
    · rfl

theorem change (s : Scenario) (i : Nat) {f : Member → Member}
    (h : ∀ m, (f m).collector = m.collector) : Minor s (s.change i f) :=
  .single (.members ((map_modify h i s.members).symm ▸ List.prefix_rfl))

theorem halt (s : Scenario) (i time : Nat) : Minor s (s.change i (·.halt time)) :=
  change s i fun _ => rfl

theorem setLoaded (s : Scenario) (i : Nat) :
    Minor s (s.change i ({ · with loaded := true })) := change s i fun _ => rfl

theorem await (s : Scenario) (stop : Stopping) : Minor s (s.await stop) := .single (.waiting _)

theorem stopOver (s : Scenario) : ∀ caller, Minor s (s.stopOver caller)
  | .step => .refl
  | .side => .single (.seeSide "stop_all")

theorem register (s : Scenario) (c : Collector) : Minor s (s.register c) := by
  refine .tail (.single (.members ?_)) (.log fun h => by cases h)
  rw [List.map_append]
  exact List.prefix_append ..

theorem callStop (s : Scenario) (i : Nat) : Minor s (s.callStop i) :=
  .head (.log fun h => by cases h) (.single (.stops _))

theorem stopReturns (s : Scenario) (i : Nat) : Minor s (s.stopReturns i) :=
  .head (.see i .stopped) (.single (.stops _))

theorem proceed (caller : Caller) : ∀ (rest : List Nat) (s : Scenario),
    Minor s (Scenario.proceed caller rest s)
  | [], s => .trans (.single (.log (by decide))) (stopOver _ caller)
  | i :: rest, s => by
    simp only [Scenario.proceed]
    refine .trans (callStop s i) ?_
    generalize s.callStop i = t
    split
    · exact proceed caller rest _
    · split
      · refine .head (.see i .stop) ?_
        split
        · exact .trans (stopReturns _ i) (proceed caller rest _)
        · exact .single (.put rfl (Nat.le_add_right ..))
      · split
        · exact .trans (stopReturns _ i) (proceed caller rest _)
        · refine .trans (halt t i t.time) ?_
          split
          · exact .trans (stopReturns _ i) (proceed caller rest _)
          · refine .trans (await _ ⟨caller, i, true, rest⟩) ?_
            split
            · exact .single (.put rfl (Nat.le_refl _))
            · exact .refl

theorem resume (s : Scenario) (stop : Stopping) : Minor s (s.resume stop) := by
  let ended := if stop.onDuty then s.log (Log.Origin.task.debug "Background task exited") else s
  have hended : Minor s ended := by
    unfold ended
    split_ifs
    · exact .single (.log (by decide))
    · exact .refl
  calc Minor s ended := hended
    Minor _ (ended.stopReturns stop.member) := stopReturns ..
    Minor _ (s.resume stop) := proceed ..

theorem drain (s : Scenario) (i : Nat) : Minor s (s.drain i) := by
  unfold Scenario.drain
  refine .head (.see i .drained) (.head (.waiting (s.waiting.filter (·.member ≠ i))) ?_)
  exact rel_foldl _ (fun w _ s => .single (.put rfl (Nat.le_refl _))) _

theorem load (s : Scenario) (i : Nat) : Minor s (s.load i) := by
  unfold Scenario.load
  split
  · exact .refl
  · rename_i m _
    let full : Scenario := { s with
      namespaces := m.namespaces.foldl (fun ns n => ns.insert n (loadedNamespace n)) s.namespaces }
    have hloaded : Minor s ((full.change i ({ · with loaded := true })).see i .loaded) :=
      .head (.namespaces _) (.tail (setLoaded full i) (.see i .loaded))
    split_ifs
    · exact hloaded.trans (drain _ i)
    · exact hloaded

theorem perform (s : Scenario) {a : Act} (h : a.isMinor = true) : Minor s (s.perform a) := by
  cases a with
  | deed i d => exact .single (.see i d)
  | register c => exact register s c
  | sideDone action => exact .single (.seeSide action)
  | load i => exact load s i
  | drain i => exact drain s i
  | resume stop => exact resume s stop
  | log r => cases h
  | cancel token => cases h
  | cancelInUse => cases h
  | markStarted => cases h
  | stopAll => cases h

end Minor

/-- No time passes, the tokens stay, and what was to come is still to come. -/
structure Onward (s t : Scenario) : Prop where
  time_eq : t.time = s.time
  token_eq : t.token = s.token
  inOrder : s.agenda.InOrder → t.agenda.InOrder
  stays : ∀ e ∈ s.agenda, e ∈ t.agenda
  comes : ∀ e ∈ t.agenda, e ∈ s.agenda ∨ e.2.isFollowUp = true ∧ s.time ≤ e.1.time
  seen : s.seen <+: t.seen

namespace Onward

variable {s t u : Scenario}

theorem refl (s : Scenario) : Onward s s :=
  ⟨rfl, rfl, id, fun _ => id, fun _ => .inl, List.prefix_rfl⟩

theorem trans (h : Onward s t) (h' : Onward t u) : Onward s u where
  time_eq := h'.time_eq.trans h.time_eq
  token_eq := h'.token_eq.trans h.token_eq
  inOrder := h'.inOrder ∘ h.inOrder
  stays e he := h'.stays e (h.stays e he)
  comes e he := by
    rcases h'.comes e he with he | hnew
    · exact h.comes e he
    · exact .inr (h.time_eq ▸ hnew)
  seen := h.seen.trans h'.seen

instance : IsPreorder Scenario Onward where
  refl := refl
  trans _ _ _ := trans

theorem of_tweak (h : Tweak s t) : Onward s t := by
  cases h with
  | see i d => exact ⟨rfl, rfl, id, fun _ => id, fun _ => .inl, List.prefix_append ..⟩
  | seeSide action => exact ⟨rfl, rfl, id, fun _ => id, fun _ => .inl, List.prefix_append ..⟩
  | @put slot a hfollow hlater =>
    have hperm := Agenda.perm_insert slot a s.agenda
    refine ⟨rfl, rfl, Agenda.inOrder_insert slot a, fun e he => ?_, fun e he => ?_, List.prefix_rfl⟩
    · exact hperm.mem_iff.2 (List.mem_cons_of_mem _ he)
    · rcases List.mem_cons.1 (hperm.mem_iff.1 he) with rfl | he
      · exact .inr ⟨hfollow, hlater⟩
      · exact .inl he
  | _ => exact ⟨rfl, rfl, id, fun _ => id, fun _ => .inl, List.prefix_rfl⟩

theorem of_minor (h : Minor s t) : Onward s t := by
  induction h with
  | refl => exact refl s
  | tail _ last ih => exact ih.trans (of_tweak last)

theorem beginStop (s : Scenario) (caller : Caller) : Onward s (s.beginStop caller) := by
  have hmarked : Onward s { s with started := false } :=
    ⟨rfl, rfl, id, fun _ => id, fun _ => .inl, List.prefix_rfl⟩
  unfold Scenario.beginStop
  split_ifs
  · exact hmarked.trans (of_minor (.proceed ..))
  · exact of_minor (.stopOver ..)

theorem perform (s : Scenario) (a : Act) : Onward s (s.perform a) := by
  rcases hminor : a.isMinor with _ | _
  · cases a with
    | stopAll => exact beginStop s .side
    | deed i d => cases hminor
    | register c => cases hminor
    | sideDone action => cases hminor
    | load i => cases hminor
    | drain i => cases hminor
    | resume stop => cases hminor
    | _ => exact ⟨rfl, rfl, id, fun _ => id, fun _ => .inl, List.prefix_rfl⟩
  · exact of_minor (.perform s hminor)

theorem foldl_perform (acts : List (Nat × Act)) (s : Scenario) :
    Onward s (acts.foldl (fun s a => s.perform a.2) s) :=
  rel_foldl acts (fun a _ s => perform s a.2) s

end Onward

section Cancelled

variable {s t : Scenario}

theorem Minor.cancelled_eq (h : Minor s t) : t.cancelled = s.cancelled := by
  induction h with
  | refl => rfl
  | tail _ last ih => cases last <;> exact ih

/-- Only an act that cancels the token in use does so. -/
theorem cancelled_of_perform {a : Act} (h : s.token ∈ (s.perform a).cancelled) :
    s.token ∈ s.cancelled ∨ a.cancels s.token = true := by
  rcases hminor : a.isMinor with _ | _
  · cases a with
    | cancel token =>
      refine (List.mem_cons.1 h).symm.imp_right fun heq => ?_
      simp [Act.cancels, heq]
    | cancelInUse => exact .inr rfl
    | stopAll =>
      refine .inl ?_
      simp only [Scenario.perform, beginStop] at h
      split_ifs at h
      · rwa [(Minor.proceed ..).cancelled_eq] at h
      · rwa [(Minor.stopOver ..).cancelled_eq] at h
    | log r => exact .inl h
    | markStarted => exact .inl h
    | _ => cases hminor
  · exact .inl (by rwa [(Minor.perform s hminor).cancelled_eq] at h)

end Cancelled

end Scenario

end ClusterCensus.Collector
