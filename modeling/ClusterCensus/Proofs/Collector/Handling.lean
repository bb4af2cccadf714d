import ClusterCensus.Collector.Handling
import ClusterCensus.Proofs.Time.Moment
import Mathlib.Data.List.Basic
import Mathlib.Tactic.Common

/-!
# One duty for a runner

What a runner is like between requests follows from those that were completed (`partsAfter`,
`Sound`): it has the mark of a duty if the first of them gave it one, and once it was stopped its
token is cancelled and no handle is left. So a request for a duty is refused unless it is the first
of all (`replyTo`, `Answered`), and who stops the runner waits for the one duty that was set going.
The moves of the requests and of the duty come to an end (`weight_lt_of_move`), and never get stuck
before that (`exists_move`). In simulated time they are made as well (`exists_moves_askAll`).
-/

namespace ClusterCensus.Collector

namespace Handling

open Runner (Parts)

variable {rs done : List Request} {x y : Handling} {q : Request} {k n : Nat}

/-- The duty that the first of some requests gives a runner, if it does. -/
def firstDuty : List Request → Option Duty
  | .assign d :: _ => some d
  | _ => none

/-- The parts of a runner after some requests. -/
def partsAfter (done : List Request) : Parts where
  cancelled := .stop ∈ done
  handle := if .stop ∈ done then none else (firstDuty done).map fun _ => 0
  launched := (firstDuty done).isSome
  stopped := .stop ∈ done

/-- The reply to a request after others. -/
def replyTo (done : List Request) : Request → Reply
  | .stop => .stopped
  | .assign _ =>
    if .stop ∈ done then .refused .stopped
    else if (firstDuty done).isSome then .refused .started
    else .assigned

/-- The replies to some requests. -/
structure Replied (done : List Request) (replies : List Reply) : Prop where
  length_eq : replies.length = done.length
  reply : ∀ k q, done[k]? = some q → replies[k]? = some (replyTo (done.take k) q)

/-- How far the parts of a runner and the requests are, in a phase, when some requests are
completed. -/
def InPhase (rs done : List Request) (parts : Parts) (requests : List Request) : Phase → Prop
  | .idle => rs = done ++ requests ∧ parts = partsAfter done
  | .entered d => rs = done ++ .assign d :: requests ∧ .stop ∉ done ∧ parts = partsAfter done
  | .marked d => rs = done ++ .assign d :: requests ∧ done = []
      ∧ parts = { partsAfter done with launched := true }
  | .halted => rs = done ++ .stop :: requests ∧ .stop ∉ done
      ∧ parts = { partsAfter done with stopped := true }
  | .cancelled => rs = done ++ .stop :: requests ∧ .stop ∉ done
      ∧ parts = { partsAfter done with stopped := true, cancelled := true }
  | .joining place => rs = done ++ .stop :: requests ∧ .stop ∉ done
      ∧ parts = partsAfter (done ++ [.stop]) ∧ (firstDuty done).map (fun _ => 0) = some place

/-- What holds while a runner is handled, when some requests are completed. -/
structure Sound (rs : List Request) (x : Handling) (done : List Request) : Prop where
  replied : Replied done x.replies
  duties : x.duties.map (·.1) = (firstDuty done).toList
  ended : .stop ∈ done → ∀ e ∈ x.duties, e.2 = true
  logs : x.logs = if .stop ∈ done then x.duties.map fun e => Runner.exitLog e.1 else []
  phase : InPhase rs done x.parts x.requests x.phase

theorem firstDuty_concat (hsome : done ≠ []) : firstDuty (done ++ [q]) = firstDuty done := by
  rcases done with _ | ⟨r, done⟩
  · contradiction
  · cases r <;> rfl

theorem eq_nil_of_firstDuty (hstop : .stop ∉ done) (hnone : firstDuty done = none) :
    done = [] := by
  rcases done with _ | ⟨_ | _, done⟩
  · rfl
  · cases hnone
  · simp at hstop

theorem firstDuty_concat_stop : firstDuty (done ++ [.stop]) = firstDuty done := by
  rcases done with _ | ⟨_ | _, done⟩ <;> rfl

/-- A request that is refused leaves a runner as it was. -/
theorem firstDuty_concat_of_refused {d : Duty} (h : replyTo done (.assign d) ≠ .assigned) :
    firstDuty (done ++ [.assign d]) = firstDuty done := by
  refine firstDuty_concat ?_
  rintro rfl
  exact h rfl

theorem partsAfter_concat_of_refused {d : Duty} (h : replyTo done (.assign d) ≠ .assigned) :
    partsAfter (done ++ [.assign d]) = partsAfter done := by
  simp [partsAfter, firstDuty_concat_of_refused h]

theorem Replied.concat {replies : List Reply} (h : Replied done replies) (q : Request) :
    Replied (done ++ [q]) (replies ++ [replyTo done q]) where
  length_eq := by simp [h.length_eq]
  reply k r hk := by
    rcases Nat.lt_or_ge k done.length with hlt | hge
    · rw [List.getElem?_append_left hlt] at hk
      rw [List.getElem?_append_left (h.length_eq ▸ hlt),
        List.take_append_of_le_length (Nat.le_of_lt hlt)]
      exact h.reply k r hk
    · have hlen := (List.getElem?_eq_some_iff.1 hk).1
      rw [List.length_append, List.length_singleton] at hlen
      obtain rfl : k = done.length := by omega
      simp only [List.getElem?_concat_length, Option.some.injEq] at hk
      rw [← h.length_eq, List.getElem?_concat_length, h.length_eq, List.take_left, hk]

namespace Sound

/-- There is no duty but one. -/
theorem duties_eq {e : Duty × Bool} {place : Nat} (h : Sound rs x done)
    (hplace : x.duties[place]? = some e) : x.duties = [e] ∧ place = 0 := by
  have hlen := congrArg List.length h.duties
  rcases hd : x.duties with _ | ⟨a, _ | ⟨b, l⟩⟩
  · simp [hd] at hplace
  · rw [hd] at hplace
    rcases place with _ | place
    · simpa using hplace
    · simp at hplace
  · rw [hd] at hlen
    rcases hfirst : firstDuty done with _ | d <;> simp [hfirst] at hlen

theorem refuse {d : Duty} {requests : List Request} {parts : Parts} {r : Reply}
    (h : Sound rs x done) (hsplit : rs = done ++ .assign d :: requests)
    (hparts : parts = partsAfter done) (hr : replyTo done (.assign d) = r) (hne : r ≠ .assigned) :
    Sound rs ({ x with parts, requests }.reply r) (done ++ [.assign d]) := by
  subst hr
  refine ⟨h.replied.concat _, ?_, fun hs => h.ended ?_, ?_, ?_, ?_⟩
  · rw [firstDuty_concat_of_refused hne]
    exact h.duties
  · simpa using hs
  · simpa [Handling.reply] using h.logs
  · rw [hsplit]
    exact List.append_cons ..
  · rw [partsAfter_concat_of_refused hne]
    exact hparts

/-- A stop is completed. -/
theorem complete {requests : List Request} {parts : Parts} {logs : List Log.Record}
    (h : Sound rs x done) (hsplit : rs = done ++ .stop :: requests)
    (hparts : parts = partsAfter (done ++ [.stop])) (hended : ∀ e ∈ x.duties, e.2 = true)
    (hlogs : logs = x.duties.map fun e => Runner.exitLog e.1) :
    Sound rs ({ x with parts, requests, logs }.reply .stopped) (done ++ [.stop]) := by
  refine ⟨h.replied.concat .stop, ?_, fun _ => hended, ?_, ?_, hparts⟩
  · rw [firstDuty_concat_stop]
    exact h.duties
  · simpa [Handling.reply] using hlogs
  · rw [hsplit]
    exact List.append_cons ..

theorem move (h : Sound rs x done) (hm : Move x y) :
    Sound rs y done ∨ ∃ q, Sound rs y (done ++ [q]) := by
  have hphase := h.phase
  cases hm with
  | enter hidle hq hopen =>
    rw [hidle, hq] at hphase
    refine .inl ⟨h.replied, h.duties, h.ended, h.logs, hphase.1, ?_, hphase.2⟩
    simpa [hphase.2, partsAfter] using hopen
  | refuseStopped hidle hq hstopped =>
    rw [hidle, hq] at hphase
    have hmem : .stop ∈ done := by simpa [hphase.2, partsAfter] using hstopped
    exact .inr ⟨_, h.refuse hphase.1 hphase.2 (if_pos hmem) nofun⟩
  | mark hx hfirst =>
    rw [hx] at hphase
    obtain ⟨hsplit, hopen, hparts⟩ := hphase
    have hnone : firstDuty done = none := by simpa [hparts, partsAfter] using hfirst
    refine .inl ⟨h.replied, h.duties, h.ended, h.logs, hsplit, eq_nil_of_firstDuty hopen hnone, ?_⟩
    rw [hparts]
  | refuseStarted hx hagain =>
    rw [hx] at hphase
    obtain ⟨hsplit, hopen, hparts⟩ := hphase
    have hsome : (firstDuty done).isSome = true := by simpa [hparts, partsAfter] using hagain
    refine .inr ⟨_, h.refuse hsplit ?_ ((if_neg hopen).trans (if_pos hsome)) nofun⟩
    rw [← hagain, ← hparts]
  | launch hx =>
    rw [hx] at hphase
    obtain ⟨hsplit, rfl, hparts⟩ := hphase
    have hduties : x.duties = [] := List.map_eq_nil_iff.1 h.duties
    refine .inr ⟨_, h.replied.concat (.assign _), ?_, ?_, h.logs, hsplit, ?_⟩
    · simp [Handling.reply, hduties, firstDuty]
    · simp
    · simp [Handling.reply, hduties, hparts, partsAfter, firstDuty]
  | ignore hidle hq hagain =>
    rw [hidle, hq] at hphase
    have hmem : .stop ∈ done := by simpa [hphase.2, partsAfter] using hagain
    refine .inr ⟨_, h.complete hphase.1 ?_ (h.ended hmem) (h.logs.trans (if_pos hmem))⟩
    simp [hphase.2, partsAfter, hmem, firstDuty_concat_stop]
  | halt hidle hq hfirst =>
    rw [hidle, hq] at hphase
    refine .inl ⟨h.replied, h.duties, h.ended, h.logs, hphase.1, ?_, ?_⟩
    · simpa [hphase.2, partsAfter] using hfirst
    · rw [hphase.2]
  | cancel hx =>
    rw [hx] at hphase
    obtain ⟨hsplit, hopen, hparts⟩ := hphase
    refine .inl ⟨h.replied, h.duties, h.ended, h.logs, hsplit, hopen, ?_⟩
    rw [hparts]
  | leave hx hnobody =>
    rw [hx] at hphase
    obtain ⟨hsplit, hopen, hparts⟩ := hphase
    have hnone : firstDuty done = none := by simpa [hparts, partsAfter, hopen] using hnobody
    obtain rfl := eq_nil_of_firstDuty hopen hnone
    have hduties : x.duties = [] := List.map_eq_nil_iff.1 h.duties
    refine .inr ⟨_, h.complete hsplit ?_ (by simp [hduties]) ?_⟩
    · rw [hparts]
      rfl
    · rw [h.logs, hduties]
      rfl
  | take hx hhandle =>
    rw [hx] at hphase
    obtain ⟨hsplit, hopen, hparts⟩ := hphase
    refine .inl ⟨h.replied, h.duties, h.ended, h.logs, hsplit, hopen, ?_, ?_⟩
    · simp [hparts, partsAfter, firstDuty_concat_stop]
    · simpa [hparts, partsAfter, hopen] using hhandle
  | join hx hended =>
    rw [hx] at hphase
    obtain ⟨hsplit, hopen, hparts, hfirst⟩ := hphase
    have hduties := (h.duties_eq hended).1
    refine .inr ⟨_, h.complete hsplit hparts (by simp [hduties]) ?_⟩
    rw [h.logs, if_neg hopen, hduties]
    rfl
  | @finish place d hplace hlet =>
    obtain ⟨hduties, rfl⟩ := h.duties_eq hplace
    have hfirst := h.duties
    have hlogs := h.logs
    rw [hduties] at hfirst hlogs ⊢
    exact .inl ⟨h.replied, hfirst, by simp, hlogs, hphase⟩

/-- Nothing was asked of a new runner. -/
theorem initial (rs : List Request) : Sound rs (.initial rs) [] where
  replied := ⟨rfl, by simp⟩
  duties := rfl
  ended := by simp
  logs := rfl
  phase := ⟨rfl, rfl⟩

theorem moves (h : Sound rs x done) (hm : Moves n x y) : ∃ done, Sound rs y done := by
  induction hm with
  | refl => exact ⟨done, h⟩
  | move _ hlast ih =>
    obtain ⟨done, hy⟩ := ih h
    rcases hy.move hlast with hz | ⟨q, hz⟩
    · exact ⟨done, hz⟩
    · exact ⟨_, hz⟩

/-- The requests that are completed are the first ones. -/
theorem exists_append (h : Sound rs x done) : ∃ rest, rs = done ++ rest := by
  have hphase := h.phase
  rcases hp : x.phase with _ | d | d | _ | _ | place <;> rw [hp] at hphase
  all_goals exact ⟨_, hphase.1⟩

theorem eq_take (h : Sound rs x done) : done = rs.take done.length := by
  obtain ⟨rest, rfl⟩ := h.exists_append
  rw [List.take_left]

theorem parts_of_idle (h : Sound rs x done) (hidle : x.phase = .idle) :
    x.parts = partsAfter done := by
  have hphase := h.phase
  rw [hidle] at hphase
  exact hphase.2

/-- There is always a move, until all requests are completed. -/
theorem exists_move (h : Sound rs x done) : x.IsOver ∨ ∃ y, Move x y := by
  have hphase := h.phase
  rcases hp : x.phase with _ | d | d | _ | _ | place
  case idle =>
    rcases hq : x.requests with _ | ⟨d | _, rest⟩
    · exact .inl ⟨hp, hq⟩
    · rcases hs : x.parts.stopped with _ | _
      · exact .inr ⟨_, .enter hp hq hs⟩
      · exact .inr ⟨_, .refuseStopped hp hq hs⟩
    · rcases hs : x.parts.stopped with _ | _
      · exact .inr ⟨_, .halt hp hq hs⟩
      · exact .inr ⟨_, .ignore hp hq hs⟩
  case entered =>
    rcases hl : x.parts.launched with _ | _
    · exact .inr ⟨_, .mark hp hl⟩
    · exact .inr ⟨_, .refuseStarted hp hl⟩
  case marked => exact .inr ⟨_, .launch hp⟩
  case halted => exact .inr ⟨_, .cancel hp⟩
  case cancelled =>
    rcases hh : x.parts.handle with _ | place
    · exact .inr ⟨_, .leave hp hh⟩
    · exact .inr ⟨_, .take hp hh⟩
  case joining =>
    -- The duty whose end is waited for may end, since the token is cancelled.
    rw [hp] at hphase
    obtain ⟨-, -, hparts, hfirst⟩ := hphase
    obtain ⟨d, hd, rfl⟩ := Option.map_eq_some_iff.1 hfirst
    have hduties := h.duties
    rw [hd] at hduties
    obtain ⟨⟨d', ended⟩, hx, rfl⟩ := List.map_eq_singleton_iff.1 hduties
    have hplace : x.duties[0]? = some (d', ended) := by rw [hx]; rfl
    rcases ended with _ | _
    · exact .inr ⟨_, .finish hplace fun _ => by simp [hparts, partsAfter]⟩
    · exact .inr ⟨_, .join hp hplace⟩

end Sound

section Weight

/-- How many moves a request takes from a phase on, with that of the duty it sets going. -/
def Phase.left : Phase → Nat
  | .idle => 0
  | .entered _ => 3
  | .marked _ => 2
  | .halted => 3
  | .cancelled => 2
  | .joining _ => 1

/-- How many moves there may be. -/
def weight (x : Handling) : Nat :=
  4 * x.requests.length + x.phase.left + x.duties.countP (!·.2)

theorem weight_lt_of_move (h : Move x y) : y.weight < x.weight := by
  cases h with
  | finish hplace _ =>
    obtain ⟨hlt, hget⟩ := List.getElem?_eq_some_iff.1 hplace
    have hpos : 0 < x.duties.countP (!·.2) :=
      List.countP_pos_iff.2 ⟨_, List.getElem_mem hlt, by rw [hget]; rfl⟩
    simp only [weight, List.countP_set hlt, hget, Bool.not_false, Bool.not_true, if_true,
      Bool.false_eq_true, if_false]
    omega
  | _ => simp_all [weight, Phase.left, Handling.reply, List.countP_append] <;> omega

theorem moves_le (h : Moves n x y) : n + y.weight ≤ x.weight := by
  induction h with
  | refl => omega
  | move _ hlast ih =>
    have := weight_lt_of_move hlast
    omega

end Weight

section Replies

/-- The replies to requests that were made one after the other: all to stop is done, and a duty is
taken if none was taken and nobody stopped the runner before. -/
structure Answered (rs : List Request) (replies : List Reply) : Prop where
  stopped : ∀ k < replies.length, rs[k]? = some .stop ↔ replies[k]? = some .stopped
  assigned : ∀ k < replies.length, ∀ d, rs[k]? = some (.assign d) →
    (replies[k]? = some .assigned ↔ ∀ j < k, rs[j]? ≠ some .stop ∧ replies[j]? ≠ some .assigned)
  refusedStopped : ∀ k < replies.length, ∀ d, rs[k]? = some (.assign d) →
    (replies[k]? = some (.refused .stopped) ↔ ∃ j < k, rs[j]? = some .stop)
  refusedStarted : ∀ k < replies.length, ∀ d, rs[k]? = some (.assign d) →
    (replies[k]? = some (.refused .started) ↔
      (∀ j < k, rs[j]? ≠ some .stop) ∧ ∃ j < k, replies[j]? = some .assigned)

variable {replies : List Reply}

theorem stop_mem_take : .stop ∈ done.take k ↔ ∃ j < k, done[j]? = some .stop := by
  simp [List.mem_iff_getElem?, List.getElem?_take]

theorem firstDuty_take (hk : 0 < k) : firstDuty (done.take k) = firstDuty done := by
  obtain ⟨k, rfl⟩ := Nat.exists_eq_add_of_le' hk
  rcases done with _ | ⟨_ | _, done⟩ <;> rfl

section ReplyTo

variable {d : Duty}

theorem replyTo_eq_stopped : replyTo done q = .stopped ↔ q = .stop := by
  rcases q with d | _
  · simp only [replyTo]
    split_ifs <;> simp
  · simp [replyTo]

theorem replyTo_eq_refused_stopped :
    replyTo done (.assign d) = .refused .stopped ↔ .stop ∈ done := by
  simp only [replyTo]
  split_ifs <;> simp_all

theorem replyTo_eq_refused_started : replyTo done (.assign d) = .refused .started ↔
    .stop ∉ done ∧ (firstDuty done).isSome = true := by
  simp only [replyTo]
  split_ifs <;> simp_all

theorem replyTo_eq_assigned : replyTo done (.assign d) = .assigned ↔
    .stop ∉ done ∧ ¬ (firstDuty done).isSome = true := by
  simp only [replyTo]
  split_ifs <;> simp_all

end ReplyTo

/-- A duty is only taken when nothing was asked before. -/
theorem Replied.assigned_iff (h : Replied done replies) :
    replies[k]? = some .assigned ↔ k = 0 ∧ (firstDuty done).isSome = true := by
  constructor
  · intro hk
    have hlt : k < done.length := h.length_eq ▸ (List.getElem?_eq_some_iff.1 hk).1
    have hr := h.reply k _ (List.getElem?_eq_getElem hlt)
    rw [hk, Option.some.injEq] at hr
    rcases hq : done[k] with d | _ <;> rw [hq] at hr
    · obtain ⟨hopen, hnone⟩ := replyTo_eq_assigned.1 hr.symm
      have hnil := eq_nil_of_firstDuty hopen (Option.not_isSome_iff_eq_none.1 hnone)
      obtain rfl : k = 0 := by
        have := congrArg List.length hnil
        rw [List.length_take, List.length_nil] at this
        omega
      rcases done with _ | ⟨q, done⟩
      · simp at hlt
      · obtain rfl : q = .assign d := hq
        exact ⟨rfl, rfl⟩
    · cases hr
  · rintro ⟨rfl, hfirst⟩
    rcases done with _ | ⟨_ | _, done⟩
    · cases hfirst
    · exact h.reply 0 _ rfl
    · cases hfirst

theorem Replied.answered (h : Replied done replies) (rest : List Request) :
    Answered (done ++ rest) replies := by
  have hget : ∀ k < replies.length, (done ++ rest)[k]? = done[k]? := fun k hk =>
    List.getElem?_append_left (h.length_eq ▸ hk)
  have hstop : ∀ k < replies.length,
      (.stop ∈ done.take k ↔ ∃ j < k, (done ++ rest)[j]? = some .stop) := fun k hk =>
    stop_mem_take.trans
      (exists_congr fun j => and_congr_right fun hj => by rw [hget j (Nat.lt_trans hj hk)])
  -- A duty was taken before another request if it is the first one's.
  have hfirst : ∀ k, (firstDuty (done.take k)).isSome = true ↔
      ∃ j < k, replies[j]? = some .assigned := by
    intro k
    rcases Nat.eq_zero_or_pos k with rfl | hk
    · simp [firstDuty]
    · simp only [h.assigned_iff, firstDuty_take hk]
      exact ⟨fun hd => ⟨0, hk, rfl, hd⟩, fun ⟨_, _, _, hd⟩ => hd⟩
  have hreply : ∀ k < replies.length, ∀ q r, (done ++ rest)[k]? = some q →
      (replies[k]? = some r ↔ replyTo (done.take k) q = r) := fun k hk q r hq => by
    rw [h.reply k _ ((hget k hk).symm.trans hq), Option.some.injEq]
  refine ⟨fun k hk => ?_, fun k hk d hq => ?_, fun k hk d hq => ?_, fun k hk d hq => ?_⟩
  · have hlt : k < (done ++ rest).length := by
      rw [List.length_append, ← h.length_eq]
      omega
    have hq := List.getElem?_eq_getElem hlt
    rw [hreply k hk _ _ hq, replyTo_eq_stopped, hq, Option.some.injEq]
  · rw [hreply k hk _ _ hq, replyTo_eq_assigned, hstop k hk, hfirst]
    push Not
    exact forall₂_and.symm
  · rw [hreply k hk _ _ hq, replyTo_eq_refused_stopped, hstop k hk]
  · rw [hreply k hk _ _ hq, replyTo_eq_refused_started, hstop k hk, hfirst]
    push Not
    rfl

end Replies

section Timed

theorem Moves.trans {m : Nat} {z : Handling} (h : Moves m x y) (h' : Moves n y z) :
    Moves (m + n) x z := by
  induction h' with
  | refl => exact h
  | move _ hlast ih => exact .move (ih h) hlast

/-- Between two requests in simulated time. A duty that was waited for has ended. -/
def standing (r : Runner) (requests : List Request) (replies : List Reply)
    (logs : List Log.Record) : Handling where
  parts := r.parts
  duties := r.duty.toList.map fun d => (d.2, r.stopped)
  phase := .idle
  requests := requests
  replies := replies
  logs := logs

section Ask

variable (pause : Nat) (rest : List Request) (replies : List Reply) (logs : List Log.Record)

theorem exists_moves_assign (s : RunnerScenario) (d : Duty) :
    ∃ n, Moves n (standing s.runner (.assign d :: rest) replies logs)
      (standing (s.ask pause (.assign d)).2.2.runner rest
        (replies ++ [(s.ask pause (.assign d)).1]) (logs ++ (s.ask pause (.assign d)).2.1)) := by
  obtain ⟨time, ⟨duty, cancelledAt, _ | _⟩, signal⟩ := s
  · rcases duty with _ | duty
    · show ∃ n, Moves n _ (standing ⟨some (time + pause, d), cancelledAt, false⟩ rest
        (replies ++ [.assigned]) (logs ++ []))
      rw [List.append_nil]
      exact ⟨3, .move (.move (.move (.refl _) (.enter rfl rfl rfl)) (.mark rfl rfl)) (.launch rfl)⟩
    · show ∃ n, Moves n _ (standing ⟨some duty, cancelledAt, false⟩ rest
        (replies ++ [.refused .started]) (logs ++ []))
      rw [List.append_nil]
      exact ⟨2, .move (.move (.refl _) (.enter rfl rfl rfl)) (.refuseStarted rfl rfl)⟩
  · show ∃ n, Moves n _ (standing ⟨duty, cancelledAt, true⟩ rest
      (replies ++ [.refused .stopped]) (logs ++ []))
    rw [List.append_nil]
    exact ⟨1, .move (.refl _) (.refuseStopped rfl rfl rfl)⟩

theorem exists_moves_stop (s : RunnerScenario) :
    ∃ n, Moves n (standing s.runner (.stop :: rest) replies logs)
      (standing (s.ask pause .stop).2.2.runner rest
        (replies ++ [.stopped]) (logs ++ (s.ask pause .stop).2.1)) := by
  obtain ⟨time, ⟨duty, cancelledAt, _ | _⟩, signal⟩ := s
  · have hcancel : (cancelledAt.earlier (some (time + pause))).isSome = true := by
      rcases cancelledAt with _ | c <;> rfl
    rcases duty with _ | ⟨began, d⟩
    · show ∃ n, Moves n _ (standing ⟨none, cancelledAt.earlier (some (time + pause)), true⟩ rest
        (replies ++ [.stopped]) (logs ++ []))
      rw [List.append_nil]
      refine ⟨3, .move (.move (.move (.refl _) (.halt rfl rfl rfl)) (.cancel rfl)) ?_⟩
      simp only [standing, Runner.parts, hcancel]
      exact .leave rfl rfl
    · show ∃ n, Moves n _ (standing
        ⟨some (began, d), cancelledAt.earlier (some (time + pause)), true⟩ rest
        (replies ++ [.stopped]) (logs ++ [Runner.exitLog d]))
      simp only [standing, Runner.parts, hcancel]
      let called : Handling :=
        ⟨⟨true, some 0, true, true⟩, [(d, false)], .cancelled, rest, replies, logs⟩
      let waited : Handling :=
        ⟨⟨true, none, true, true⟩, [(d, false)], .joining 0, rest, replies, logs⟩
      have htake : Move called waited := .take rfl rfl
      refine ⟨5, .move (.move (.move ?_ htake) (@Move.finish waited 0 d rfl fun _ => rfl))
        (.join rfl rfl)⟩
      exact .move (.move (.refl _) (.halt rfl rfl rfl)) (.cancel rfl)
  · show ∃ n, Moves n _ (standing ⟨duty, cancelledAt, true⟩ rest (replies ++ [.stopped])
      (logs ++ []))
    rw [List.append_nil]
    exact ⟨1, .move (.refl _) (.ignore rfl rfl rfl)⟩

theorem exists_moves_ask (s : RunnerScenario) (q : Request) :
    ∃ n, Moves n (standing s.runner (q :: rest) replies logs)
      (standing (s.ask pause q).2.2.runner rest (replies ++ [(s.ask pause q).1])
        (logs ++ (s.ask pause q).2.1)) := by
  rcases q with d | _
  · exact exists_moves_assign pause rest replies logs s d
  · exact exists_moves_stop pause rest replies logs s

end Ask

/-- In simulated time, requests are made and completed as they may be. -/
theorem exists_moves_askAll : ∀ (qs : List (Nat × Request)) (s : RunnerScenario)
    (replies : List Reply) (logs : List Log.Record),
    ∃ n, Moves n (standing s.runner (qs.map (·.2)) replies logs)
      (standing (s.askAll qs).2.2.runner [] (replies ++ (s.askAll qs).1)
        (logs ++ (s.askAll qs).2.1))
  | [], s, replies, logs => by
    simp only [RunnerScenario.askAll, List.append_nil]
    exact ⟨0, .refl _⟩
  | (pause, q) :: qs, s, replies, logs => by
    obtain ⟨m, hask⟩ := exists_moves_ask pause (qs.map (·.2)) replies logs s q
    obtain ⟨n, hrest⟩ := exists_moves_askAll qs (s.ask pause q).2.2
      (replies ++ [(s.ask pause q).1]) (logs ++ (s.ask pause q).2.1)
    rw [List.append_assoc, List.append_assoc] at hrest
    exact ⟨m + n, hask.trans hrest⟩

variable {s : RunnerScenario} {pause : Nat}

theorem ask_of_refused {d : Duty} {e : AssignError}
    (h : (s.ask pause (.assign d)).1 = .refused e) :
    (s.ask pause (.assign d)).2 = ([], s.sleep pause) := by
  simp only [RunnerScenario.ask] at h ⊢
  split at h
  · cases h
  · rfl

theorem ask_of_stopped (h : s.runner.stopped = true) :
    s.ask pause .stop = (.stopped, [], s.sleep pause) := by
  have hstop : s.runner.stop (s.time + pause) = ⟨s.time + pause, s.runner, []⟩ := if_pos h
  simp [RunnerScenario.ask, RunnerScenario.stop, RunnerScenario.sleep, hstop]

/-- A duty ends once its runner was cancelled. -/
theorem isSome_endsAt_halt {r : Runner} {d : Nat × Duty} (h : r.duty = some d) (now : Nat) :
    (r.halt now).endsAt.isSome = true := by
  obtain ⟨began, d⟩ := d
  obtain ⟨c, hc⟩ : ∃ c, r.cancelledAt.earlier (some now) = some c := by
    rcases r.cancelledAt with _ | c
    · exact ⟨now, rfl⟩
    · exact ⟨min c now, rfl⟩
  rcases hheeds : d.heedsCancel with _ | _ <;>
    simp [Runner.endsAt, Runner.resumes, Runner.ready, Runner.halt, Runner.cancel, Moment.later,
      h, hc, hheeds]

/-- Who stops a runner first waits for its duty to end. -/
theorem ask_of_not_stopped (h : s.runner.stopped = false) :
    (s.ask pause .stop).2.2.runner.stopped = true
      ∧ (s.ask pause .stop).2.2.runner.cancelledAt.hasCome (s.time + pause) = true
      ∧ (s.runner.duty = none → (s.ask pause .stop).2.2.time = s.time + pause)
      ∧ ∀ d, s.runner.duty = some d → ∃ e, (s.ask pause .stop).2.2.runner.endsAt = some e
        ∧ (s.ask pause .stop).2.2.time = max (s.time + pause) e := by
  obtain ⟨time, ⟨duty, cancelledAt, stopped⟩, signal⟩ := s
  obtain rfl : stopped = false := h
  have hcancel : (cancelledAt.earlier (some (time + pause))).hasCome (time + pause) = true :=
    Moment.hasCome_earlier.2 (.inr (Moment.hasCome_some.2 le_rfl))
  rcases duty with _ | d
  · exact ⟨rfl, hcancel, fun _ => rfl, nofun⟩
  · obtain ⟨e, he⟩ := Option.isSome_iff_exists.1
      (isSome_endsAt_halt (r := ⟨some d, cancelledAt, false⟩) rfl (time + pause))
    refine ⟨rfl, hcancel, nofun, fun _ _ => ⟨e, he, ?_⟩⟩
    exact congrArg (fun m : Moment => max (time + pause) (m.getD (time + pause))) he

end Timed

namespace Sound

theorem stop_mem_iff (h : Sound rs x done) : .stopped ∈ x.replies ↔ .stop ∈ done := by
  rw [List.mem_iff_getElem?, List.mem_iff_getElem?]
  refine exists_congr fun k => ?_
  rcases hq : done[k]? with _ | q
  · have hge := List.getElem?_eq_none_iff.1 hq
    rw [List.getElem?_eq_none (h.replied.length_eq ▸ hge)]
    simp
  · rw [h.replied.reply k q hq, Option.some.injEq, replyTo_eq_stopped, Option.some.injEq]

/-- Once somebody stopped the runner, no request is under way. -/
theorem idle_of_stop (h : Sound rs x done) (hstop : .stop ∈ done) : x.phase = .idle := by
  have hphase := h.phase
  rcases hp : x.phase with _ | d | d | _ | _ | place <;> rw [hp] at hphase
  case marked =>
    rw [hphase.2.1] at hstop
    cases hstop
  all_goals exact absurd hstop hphase.2.1

/-- Who waits for the duty to end has left the runner as it is after the stop. -/
theorem exists_parts_of_stop (h : Sound rs x done)
    (hstop : .stop ∈ done ∨ ∃ place, x.phase = .joining place) :
    ∃ l, .stop ∈ l ∧ x.parts = partsAfter l := by
  rcases hstop with hstop | ⟨place, hp⟩
  · exact ⟨done, hstop, h.parts_of_idle (h.idle_of_stop hstop)⟩
  · have hphase := h.phase
    rw [hp] at hphase
    exact ⟨_, by simp, hphase.2.2.1⟩

theorem move_iff_of_stop {rest : List Request} (h : Sound rs x done) (hstop : .stop ∈ done)
    (hq : x.requests = .stop :: rest) :
    Move x y ↔ y = { x with requests := rest }.reply .stopped := by
  have hidle := h.idle_of_stop hstop
  have hstopped : x.parts.stopped = true := by
    simpa [h.parts_of_idle hidle, partsAfter] using hstop
  refine ⟨fun hm => ?_, ?_⟩
  · cases hm with
    | ignore _ hq' _ =>
      rw [hq, List.cons.injEq] at hq'
      rw [hq'.2]
    | finish hplace _ => simpa using h.ended hstop _ (List.mem_of_getElem? hplace)
    | _ => simp_all
  · rintro rfl
    exact .ignore hidle hq hstopped

theorem mem_duties (h : Sound rs x done) (d : Duty) : d ∈ x.duties.map (·.1) ↔
    ∃ k : Nat, rs[k]? = some (Request.assign d) ∧ x.replies[k]? = some Reply.assigned := by
  obtain ⟨rest, rfl⟩ := h.exists_append
  simp only [h.duties, h.replied.assigned_iff, Option.mem_toList]
  rcases done with _ | ⟨_ | _, done⟩ <;> simp [firstDuty, eq_comm]

theorem same_of_refused {m : Nat} {e : AssignError} (h : Sound rs x done) (hm : Moves m x y)
    (hx : x.phase = .idle) (hy : y.phase = .idle) (hr : y.replies = x.replies ++ [.refused e]) :
    y.parts = x.parts ∧ y.duties.map (·.1) = x.duties.map (·.1) ∧ y.logs = x.logs := by
  obtain ⟨done', hz⟩ := h.moves hm
  have hlen : done'.length = done.length + 1 := by
    rw [← hz.replied.length_eq, hr, List.length_append, h.replied.length_eq, List.length_singleton]
  obtain ⟨q, rfl⟩ : ∃ q, done' = done ++ [q] := by
    have hlt : done.length < rs.length := by
      obtain ⟨rest, rfl⟩ := hz.exists_append
      rw [List.length_append]
      omega
    refine ⟨rs[done.length], ?_⟩
    rw [hz.eq_take, hlen, List.take_succ_eq_append_getElem hlt, ← h.eq_take]
  have hreply := hz.replied.reply done.length q (by simp)
  rw [hr, ← h.replied.length_eq, List.getElem?_concat_length, h.replied.length_eq, List.take_left,
    Option.some.injEq] at hreply
  rcases q with d | _
  · have hne : replyTo done (.assign d) ≠ .assigned := by
      rw [← hreply]
      nofun
    have hduties : y.duties.map (·.1) = x.duties.map (·.1) := by
      rw [hz.duties, h.duties, firstDuty_concat_of_refused hne]
    refine ⟨?_, hduties, ?_⟩
    · rw [hz.parts_of_idle hy, h.parts_of_idle hx, partsAfter_concat_of_refused hne]
    · have hlogs : ∀ l : List (Duty × Bool),
          (l.map fun e => Runner.exitLog e.1) = (l.map (·.1)).map Runner.exitLog := by simp
      rw [hz.logs, h.logs, hlogs, hlogs, hduties]
      simp
  · cases hreply

end Sound

/-- A runner takes the duty that is the first of all that is asked of it, and no other: whatever is
asked of it, one request after the other, and however its duty goes. A duty that is refused is never
set going and leaves the runner as it was. The first to stop the runner cancels it and waits until
its duty has ended, with a crash too; others leave it at that at once. In simulated time requests
are met in this way, and who stops the runner first goes on when the duty ends. -/
theorem runner_does_one_duty :
    (∀ (rs : List Request) (n : Nat) (x : Handling), Moves n (.initial rs) x →
      n ≤ 4 * rs.length
      ∧ (x.IsOver ∨ ∃ y, Move x y)
      ∧ (x.IsOver → x.replies.length = rs.length)
      ∧ Answered rs x.replies
      ∧ x.duties.length ≤ 1
      ∧ (∀ d, d ∈ x.duties.map (·.1) ↔
          ∃ k : Nat, rs[k]? = some (Request.assign d) ∧ x.replies[k]? = some Reply.assigned)
      ∧ (.stopped ∈ x.replies ∨ (∃ place, x.phase = .joining place) →
          x.parts.cancelled = true ∧ x.parts.isRunning = false)
      ∧ (.stopped ∈ x.replies →
          (∀ e ∈ x.duties, e.2 = true) ∧ x.logs = x.duties.map fun e => Runner.exitLog e.1)
      ∧ (.stopped ∈ x.replies → ∀ rest, x.requests = .stop :: rest →
          ∀ y, Move x y ↔ y = { x with requests := rest }.reply .stopped)
      ∧ ∀ (m : Nat) (y : Handling) (e : AssignError), Moves m x y → x.phase = .idle →
          y.phase = .idle → y.replies = x.replies ++ [.refused e] →
          y.parts = x.parts ∧ y.duties.map (·.1) = x.duties.map (·.1) ∧ y.logs = x.logs)
    ∧ (∀ (s : RunnerScenario) (pause : Nat),
      (∀ d e, (s.ask pause (.assign d)).1 = .refused e →
        (s.ask pause (.assign d)).2 = ([], s.sleep pause))
      ∧ (s.runner.stopped = true → s.ask pause .stop = (.stopped, [], s.sleep pause))
      ∧ (s.runner.stopped = false →
        (s.ask pause .stop).2.2.runner.stopped = true
          ∧ (s.ask pause .stop).2.2.runner.cancelledAt.hasCome (s.time + pause) = true
          ∧ (s.runner.duty = none → (s.ask pause .stop).2.2.time = s.time + pause)
          ∧ ∀ d, s.runner.duty = some d → ∃ e, (s.ask pause .stop).2.2.runner.endsAt = some e
            ∧ (s.ask pause .stop).2.2.time = max (s.time + pause) e))
    ∧ ∀ qs : List (Nat × Request), ∃ n x, Moves n (.initial (qs.map (·.2))) x ∧ x.IsOver
        ∧ x.parts = (RunnerScenario.initial.askAll qs).2.2.runner.parts
        ∧ x.replies = (RunnerScenario.initial.askAll qs).1
        ∧ x.logs = (RunnerScenario.initial.askAll qs).2.1 := by
  refine ⟨fun rs n x hm => ?_, fun s pause => ⟨fun d e => ask_of_refused, ask_of_stopped,
    ask_of_not_stopped⟩, fun qs => ?_⟩
  · obtain ⟨done, h⟩ := (Sound.initial rs).moves hm
    obtain ⟨rest, hrest⟩ := h.exists_append
    refine ⟨?_, h.exists_move, fun hover => ?_, ?_, ?_, h.mem_duties, fun hs => ?_, fun hs => ?_,
      fun hs rest hq y => ?_, fun m y e hy hx hy' hr => h.same_of_refused hy hx hy' hr⟩
    · have hweight : (initial rs).weight = 4 * rs.length := by simp [weight, initial, Phase.left]
      have := moves_le hm
      omega
    · have hphase := h.phase
      rw [hover.1, hover.2] at hphase
      rw [h.replied.length_eq, hphase.1, List.append_nil]
    · rw [hrest]
      exact h.replied.answered rest
    · have hlen := congrArg List.length h.duties
      rw [List.length_map] at hlen
      rw [hlen]
      exact Option.length_toList_le
    · obtain ⟨l, hl, hparts⟩ := h.exists_parts_of_stop (hs.imp_left h.stop_mem_iff.1)
      simp [hparts, Parts.isRunning, partsAfter, hl]
    · have hstop := h.stop_mem_iff.1 hs
      exact ⟨h.ended hstop, h.logs.trans (if_pos hstop)⟩
    · exact h.move_iff_of_stop (h.stop_mem_iff.1 hs) hq
  · obtain ⟨n, hn⟩ := exists_moves_askAll qs .initial [] []
    exact ⟨n, _, hn, ⟨rfl, rfl⟩, rfl, rfl, rfl⟩

end Handling

end ClusterCensus.Collector
