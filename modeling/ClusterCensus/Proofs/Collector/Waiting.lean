import ClusterCensus.Collector.Waiting
import ClusterCensus.Proofs.Collector.FirstFailure

/-!
# What holds during a wait

As long as nobody cancelled its token, a wait is orderly (`Orderly`): every task follows the course
of its collector, what was sent was sent at the time at which it is told, so in the order in which
it is told, and the failure that is remembered is the first of those received. This and what else
holds during a wait (`Kept`) holds after each move that does not end it: when a task goes on
(`Kept.finish`, `Kept.send`), when the supervisor does (`Kept.pass`, `Kept.report`), and when who
waits does (`Kept.receive`, `Kept.look`, `Kept.drain`).
-/

namespace ClusterCensus.Collector

open Starting

/-- The outcome that is looked at, if one is. -/
def Attention.notice? : Attention → Option Notice
  | .looking n => some n
  | _ => none

/-- Whether a task is where the course of its collector may have brought it. -/
def Worker.LeadsTo (w : Worker) (time : Nat) (e : Errand) : Prop :=
  e = .waiting ∨ w.endsAt.hasCome time = true
    ∧ (e = .ended w.name w.ending ∨ e = .over none ∧ w.ending.isCrash = false)

namespace Waiting

variable {t : Terms} {x y : Waiting}

/-- What was sent so far. -/
def sent (x : Waiting) : List Notice := x.received ++ x.attention.notice?.toList ++ x.queue

/-- Whether the outcome at a place was sent. -/
def Told (x : Waiting) (place : Nat) : Prop :=
  x.errands[place]? = some (.over none)
    ∨ (∃ n, x.errands[place]? = some (.over (some n))) ∧ place < x.awaited

/-- The first failure among some outcomes. -/
def firstOf (ns : List Notice) : Option (String × Failure) :=
  ns.findSome? fun n => n.failure.map fun f => (n.name, f)

/-- What holds of a wait whose token is not cancelled. -/
structure Orderly (t : Terms) (x : Waiting) : Prop where
  course : ∀ (i : Nat) (w : Worker) (e : Errand), t.workers[i]? = some w →
    x.errands[i]? = some e → w.LeadsTo x.time e
  told : ∃ places : List Nat, places.Nodup ∧ (∀ i, i ∈ places ↔ Told x i)
    ∧ x.sent = places.filterMap (noticeAt t.workers) ∧ places.Pairwise (ToldNoLater t.workers)
  punctual : ∀ i u, u < x.time → ToldBy t.workers u i → Told x i
  first : x.first = firstOf x.received
  drained : x.attention = .drained → x.queue = [] ∧ ∀ i < t.workers.length, Told x i

/-- Whether none of the events that end a wait comes before a time. -/
def Early (t : Terms) (time : Nat) : Prop := ∀ u < time,
  ¬ t.calledOffAt.hasCome u = true ∧ ¬ t.closing.hasCome u = true ∧ u < t.deadline

/-- What holds during a wait. -/
structure Kept (t : Terms) (x : Waiting) : Prop where
  length : x.errands.length = t.workers.length
  begun : t.began ≤ x.time
  early : Early t x.time
  passed : ∀ i < x.awaited, ∃ crash, x.errands[i]? = some (.over crash)
  caller : x.callerCancelled = true → t.cancel.hasCome x.time = true
  own : x.cancelled = true → x.callerCancelled = true
  already : t.cancel.hasCome t.began = true → x.cancelled = true
  orderly : x.cancelled = false → Orderly t x

/-- Why a wait is over. -/
inductive Ended (t : Terms) (x : Waiting) : Except GroupError Unit → Prop where
  | reported {r : Except GroupError Unit} (closed : t.closing.hasCome x.time = true)
    (let_ : x.cancelled = false) (first : FirstFailure t.workers r)
    (own : ∀ name f, r = .error (.sync name f) →
      ∃ w ∈ t.workers, w.name = name ∧ w.ending.failure? = some f) : Ended t x r
  | calledOff (come : t.calledOffAt.hasCome x.time = true) : Ended t x (.error .cancelled)
  | expired (due : t.deadline ≤ x.time) (cancelled : x.cancelled = true) :
    Ended t x (.error (.syncTimeout (.ofMicros t.limit)))

/-- What holds of a wait that is over. -/
structure Settled (t : Terms) (x : Waiting) (r : Except GroupError Unit) : Prop where
  begun : t.began ≤ x.time
  early : Early t x.time
  caller : x.callerCancelled = true → t.cancel.hasCome x.time = true
  already : t.cancel.hasCome t.began = true → x.cancelled = true
  ended : Ended t x r

theorem hasCome_calledOffAt {u : Nat} :
    t.calledOffAt.hasCome u = true ↔ t.began ≤ u ∧ t.cancel.hasCome u = true := by
  rw [Terms.calledOffAt, Moment.hasCome_later, Moment.hasCome_some]

theorem errand_set {i j : Nat} {a b : Errand} (h : x.errands[i]? = some a) :
    (x.setErrand i b).errands[j]? = if i = j then some b else x.errands[j]? :=
  getElem?_set_of_some h

theorem ended_eq_sending {name : String} {e : Ending} {n : Notice}
    (h : Errand.sending n = .ended name e) : e.isCrash = false ∧ n = ⟨name, e.failure?⟩ := by
  unfold Errand.ended at h
  split_ifs at h with hc
  exact ⟨Bool.eq_false_iff.2 hc, by injection h⟩

theorem ended_eq_over {name : String} {e : Ending} {crash : Option Notice}
    (h : Errand.over crash = .ended name e) :
    e.isCrash = true ∧ crash = some ⟨name, e.failure?⟩ := by
  unfold Errand.ended at h
  split_ifs at h with hc
  exact ⟨hc, by injection h⟩

namespace Kept

theorem come (h : Kept t x) (hc : x.cancelled = true) : t.calledOffAt.hasCome x.time = true :=
  hasCome_calledOffAt.2 ⟨h.begun, h.caller (h.own hc)⟩

theorem worker_of_errand (h : Kept t x) {i : Nat} {e : Errand} (he : x.errands[i]? = some e) :
    ∃ w, t.workers[i]? = some w := by
  have hi := (List.getElem?_eq_some_iff.1 he).1
  exact ⟨_, List.getElem?_eq_getElem (h.length ▸ hi)⟩

theorem lt_of_told (h : Kept t x) {i : Nat} (ht : Told x i) : i < t.workers.length := by
  rcases ht with ht | ⟨⟨n, ht⟩, -⟩
  · exact h.length ▸ (List.getElem?_eq_some_iff.1 ht).1
  · exact h.length ▸ (List.getElem?_eq_some_iff.1 ht).1

/-- A task that is over is so because its collector has ended. -/
theorem endsAt_of_over (h : Kept t x) (hc : x.cancelled = false) {i : Nat} {w : Worker}
    {crash : Option Notice} (hw : t.workers[i]? = some w)
    (he : x.errands[i]? = some (.over crash)) : w.endsAt.hasCome x.time = true := by
  rcases (h.orderly hc).course i w _ hw he with he' | ⟨hcome, -⟩
  · cases he'
  · exact hcome

theorem toldBy_of_told (h : Kept t x) (hc : x.cancelled = false) {i : Nat} (ht : Told x i) :
    ToldBy t.workers x.time i := by
  rcases ht with he | ⟨⟨n, he⟩, hi⟩
  · obtain ⟨w, hw⟩ := h.worker_of_errand he
    refine ⟨w, hw, Worker.hasCome_toldAt.2 ?_⟩
    rcases (h.orderly hc).course i w _ hw he with he' | ⟨hcome, he' | ⟨-, hcrash⟩⟩
    · cases he'
    · cases (ended_eq_over he').2
    · rw [if_neg (by simp [hcrash])]
      exact hcome
  · obtain ⟨w, hw⟩ := h.worker_of_errand he
    refine ⟨w, hw, Worker.hasCome_toldAt.2 ?_⟩
    split_ifs
    · -- The supervisor has passed this task and all before it.
      intro v hv
      obtain ⟨j, hj⟩ := List.mem_iff_getElem?.1 hv
      have hji : j < i + 1 := by
        have := (List.getElem?_eq_some_iff.1 hj).1
        rw [List.length_take] at this
        omega
      rw [List.getElem?_take_of_lt hji] at hj
      obtain ⟨crash, hover⟩ := h.passed j (by omega)
      exact h.endsAt_of_over hc hj hover
    · exact h.endsAt_of_over hc hw he

end Kept

/-- Nothing more is told. -/
theorem Orderly.same (h : Orderly t x) (htime : y.time = x.time)
    (hcourse : ∀ (i : Nat) (w : Worker) (e : Errand), t.workers[i]? = some w →
      y.errands[i]? = some e → w.LeadsTo y.time e)
    (htold : ∀ i, Told y i ↔ Told x i) (hsent : y.sent = x.sent)
    (hfirst : y.first = firstOf y.received)
    (hdrained : y.attention = .drained → y.queue = [] ∧ ∀ i < t.workers.length, Told x i) :
    Orderly t y where
  course := hcourse
  told := by
    obtain ⟨places, hnodup, hmem, hplaces, horder⟩ := h.told
    exact ⟨places, hnodup, fun i => (hmem i).trans (htold i).symm, hsent.trans hplaces, horder⟩
  punctual i u hu ht := (htold i).2 (h.punctual i u (htime ▸ hu) ht)
  first := hfirst
  drained hd := by
    obtain ⟨hq, hall⟩ := hdrained hd
    exact ⟨hq, fun i hi => (htold i).2 (hall i hi)⟩

/-- One more outcome is told, at its time. -/
theorem Orderly.tell (hk : Kept t x) (hc : x.cancelled = false) {i : Nat} {w : Worker}
    (hw : t.workers[i]? = some w) (hnew : ¬ Told x i) (htime : y.time = x.time)
    (hcourse : ∀ (i : Nat) (w : Worker) (e : Errand), t.workers[i]? = some w →
      y.errands[i]? = some e → w.LeadsTo y.time e)
    (htold : ∀ j, Told y j ↔ Told x j ∨ j = i) (hsent : y.sent = x.sent ++ [w.notice])
    (hfirst : y.first = firstOf y.received) (hattention : y.attention = x.attention) :
    Orderly t y := by
  have h := hk.orderly hc
  refine ⟨hcourse, ?_, fun j u hu ht => (htold j).2 (.inl (h.punctual j u (htime ▸ hu) ht)), hfirst,
    fun hd => ?_⟩
  · obtain ⟨places, hnodup, hmem, hplaces, horder⟩ := h.told
    refine ⟨places ++ [i], ?_, fun j => ?_, ?_, ?_⟩
    · refine hnodup.append (List.nodup_singleton _) fun j hj hp => ?_
      rw [List.mem_singleton] at hp
      exact hnew (hp ▸ (hmem j).1 hj)
    · rw [List.mem_append, List.mem_singleton, hmem, htold]
    · rw [hsent, hplaces, List.filterMap_append]
      simp [noticeAt, hw]
    · refine List.pairwise_append.2 ⟨horder, List.pairwise_singleton .., fun j hj k hk' u hu => ?_⟩
      rw [List.mem_singleton.1 hk'] at hu
      -- Had the time to tell it come before now, it would have been told then.
      rcases Nat.lt_or_ge u x.time with hlt | hge
      · exact absurd (h.punctual i u hlt hu) hnew
      · exact toldBy_mono (hk.toldBy_of_told hc ((hmem j).1 hj)) hge
  · -- Nothing is left to be told once the last outcome was received.
    have hall := (h.drained (hattention ▸ hd)).2
    exact absurd (hall i (List.getElem?_eq_some_iff.1 hw).1) hnew

namespace Kept

variable {i : Nat} {w : Worker} {n : Notice} {crash : Option Notice}

/-- A task that is not over was not passed. -/
theorem awaited_le (h : Kept t x) {e : Errand} (he : x.errands[i]? = some e)
    (hne : ∀ crash, e ≠ .over crash) : x.awaited ≤ i := by
  by_contra hlt
  obtain ⟨crash, hover⟩ := h.passed i (by omega)
  exact hne crash (Option.some.inj (he.symm.trans hover))

theorem passed_set (h : Kept t x) {a b : Errand} (he : x.errands[i]? = some a)
    (hne : ∀ crash, a ≠ .over crash) :
    ∀ j < x.awaited, ∃ crash, (x.setErrand i b).errands[j]? = some (.over crash) := by
  intro j hj
  have hle := h.awaited_le he hne
  rw [errand_set he, if_neg (by omega)]
  exact h.passed j hj

theorem course_set (h : Orderly t x) {a b : Errand} (he : x.errands[i]? = some a)
    (hb : ∀ w, t.workers[i]? = some w → w.LeadsTo x.time b) :
    ∀ (j : Nat) (v : Worker) (e : Errand), t.workers[j]? = some v →
      (x.setErrand i b).errands[j]? = some e → v.LeadsTo x.time e := by
  intro j v e hv hj
  rw [errand_set he] at hj
  split_ifs at hj with hij
  · subst hij
    cases hj
    exact hb v hv
  · exact h.course j v e hv hj

/-- The tasks, the supervisor or who waits go on, while the time and the tokens stay. -/
theorem going (h : Kept t x) (htime : y.time = x.time)
    (hcaller : y.callerCancelled = x.callerCancelled) (hcancelled : y.cancelled = x.cancelled)
    (hlength : y.errands.length = x.errands.length)
    (hpassed : ∀ i < y.awaited, ∃ crash, y.errands[i]? = some (.over crash))
    (horderly : x.cancelled = false → Orderly t y) : Kept t y where
  length := hlength.trans h.length
  begun := htime ▸ h.begun
  early := htime ▸ h.early
  passed := hpassed
  caller := by
    rw [hcaller, htime]
    exact h.caller
  own := by
    rw [hcancelled, hcaller]
    exact h.own
  already := hcancelled ▸ h.already
  orderly hc := horderly (hcancelled ▸ hc)

theorem finish (h : Kept t x) {e : Ending} (hi : x.errands[i]? = some .waiting)
    (hw : t.workers[i]? = some w)
    (how : w.endsAt.hasCome x.time = true ∧ e = w.ending ∨ x.cancelled = true) :
    Kept t (x.setErrand i (.ended w.name e)) := by
  refine h.going rfl rfl rfl (List.length_set ..) (h.passed_set hi nofun) fun hlet => ?_
  have ho := h.orderly hlet
  -- The token is not cancelled, so the collector takes its own course.
  obtain ⟨hcome, rfl⟩ := how.resolve_right (by simp [hlet])
  have hle := h.awaited_le hi nofun
  have htold : ∀ j, Told (x.setErrand i (.ended w.name w.ending)) j ↔ Told x j := by
    intro j
    unfold Told
    rw [errand_set hi]
    split_ifs with hij
    · subst hij
      rw [hi]
      constructor
      · rintro (hover | ⟨-, hlt⟩)
        · cases (ended_eq_over (Option.some.inj hover).symm).2
        · exact absurd hlt (not_lt.2 hle)
      · rintro (hover | ⟨⟨n, hover⟩, -⟩)
        · cases hover
        · cases hover
    · rfl
  refine ho.same rfl (course_set ho hi fun v hv => ?_) htold rfl ho.first ho.drained
  cases hw.symm.trans hv
  exact .inr ⟨hcome, .inl rfl⟩

theorem not_told_of_sending (hi : x.errands[i]? = some (.sending n)) : ¬ Told x i := by
  rintro (hover | ⟨⟨m, hover⟩, -⟩)
  · cases hi.symm.trans hover
  · cases hi.symm.trans hover

theorem send (h : Kept t x) (hi : x.errands[i]? = some (.sending n)) :
    Kept t ((x.setErrand i (.over none)).send n) := by
  refine h.going rfl rfl rfl (List.length_set ..) (h.passed_set hi nofun) fun hlet => ?_
  have ho := h.orderly hlet
  obtain ⟨w, hw⟩ := h.worker_of_errand hi
  obtain ⟨hcome, hcrash, hn⟩ : w.endsAt.hasCome x.time = true ∧ w.ending.isCrash = false
      ∧ n = w.notice := by
    rcases ho.course i w _ hw hi with he | ⟨hcome, he | ⟨he, -⟩⟩
    · cases he
    · exact ⟨hcome, ended_eq_sending he⟩
    · cases he
  refine .tell h hlet hw (not_told_of_sending hi) rfl ?_ (fun j => ?_) ?_ ho.first rfl
  · refine course_set ho hi fun v hv => ?_
    cases hw.symm.trans hv
    exact .inr ⟨hcome, .inr ⟨rfl, hcrash⟩⟩
  · show (x.setErrand i (.over none)).errands[j]? = _
      ∨ (∃ n, (x.setErrand i (.over none)).errands[j]? = _) ∧ _ ↔ _
    rw [errand_set hi]
    split_ifs with hij
    · subst hij
      simp
    · simp [Ne.symm hij]
      rfl
  · rw [hn]
    simp [sent, Waiting.send, setErrand]

theorem passed_succ (h : Kept t x) (hi : x.errands[x.awaited]? = some (.over crash)) :
    ∀ j < x.awaited + 1, ∃ crash, x.errands[j]? = some (.over crash) := by
  intro j hj
  rcases Nat.lt_succ_iff_lt_or_eq.1 hj with hlt | rfl
  · exact h.passed j hlt
  · exact ⟨crash, hi⟩

/-- What the supervisor tells is what it passes. -/
theorem told_succ (hi : x.errands[x.awaited]? = some (.over crash)) (j : Nat) :
    Told { x with awaited := x.awaited + 1 } j ↔ Told x j ∨ j = x.awaited := by
  unfold Told
  by_cases hj : j = x.awaited
  · subst hj
    rcases crash with _ | m <;> simp [hi]
  · have : j < x.awaited + 1 ↔ j < x.awaited := by omega
    simp only [this, hj, or_false]

theorem pass (h : Kept t x) (hi : x.errands[x.awaited]? = some (.over none)) :
    Kept t { x with awaited := x.awaited + 1 } := by
  refine h.going rfl rfl rfl rfl (h.passed_succ hi) fun hlet => ?_
  have ho := h.orderly hlet
  refine ho.same rfl ho.course (fun j => (told_succ hi j).trans (or_iff_left_of_imp ?_)) rfl
    ho.first ho.drained
  rintro rfl
  exact .inl hi

theorem report (h : Kept t x) (hi : x.errands[x.awaited]? = some (.over (some n))) :
    Kept t ({ x with awaited := x.awaited + 1 }.send n) := by
  refine h.going rfl rfl rfl rfl (h.passed_succ hi) fun hlet => ?_
  have ho := h.orderly hlet
  obtain ⟨w, hw⟩ := h.worker_of_errand hi
  have hn : n = w.notice := by
    rcases ho.course _ w _ hw hi with he | ⟨-, he | ⟨he, -⟩⟩
    · cases he
    · exact Option.some.inj (ended_eq_over he).2
    · cases he
  have hnew : ¬ Told x x.awaited := by
    rintro (hover | ⟨-, hlt⟩)
    · cases hi.symm.trans hover
    · exact lt_irrefl _ hlt
  refine .tell h hlet hw hnew rfl ho.course (told_succ hi) ?_ ho.first rfl
  rw [hn]
  simp [sent, Waiting.send]

/-- Who waits goes on, and nothing more is told. -/
theorem aside (h : Kept t x) (htime : y.time = x.time) (herrands : y.errands = x.errands)
    (hawaited : y.awaited = x.awaited) (hcaller : y.callerCancelled = x.callerCancelled)
    (hcancelled : y.cancelled = x.cancelled)
    (hsame : x.cancelled = false → y.sent = x.sent ∧ y.first = firstOf y.received
      ∧ (y.attention = .drained → y.queue = [] ∧ ∀ i < t.workers.length, Told x i)) :
    Kept t y := by
  refine h.going htime hcaller hcancelled (congrArg _ herrands) ?_ fun hlet => ?_
  · rw [herrands, hawaited]
    exact h.passed
  · have ho := h.orderly hlet
    obtain ⟨hsent, hfirst, hdrained⟩ := hsame hlet
    refine ho.same htime ?_ (fun i => ?_) hsent hfirst hdrained
    · rw [herrands, htime]
      exact ho.course
    · unfold Told
      rw [herrands, hawaited]

theorem receive (h : Kept t x) {rest : List Notice} (hlisten : x.attention = .listening)
    (hq : x.queue = n :: rest) :
    Kept t { x with queue := rest, attention := .looking n } := by
  refine h.aside rfl rfl rfl rfl rfl fun hc => ⟨?_, (h.orderly hc).first, nofun⟩
  simp [sent, hlisten, hq, Attention.notice?]

theorem firstOf_concat (ns : List Notice) (n : Notice) :
    firstOf (ns ++ [n]) = (firstOf ns).or (n.failure.map fun f => (n.name, f)) := by
  unfold firstOf
  rw [List.findSome?_append, List.findSome?_singleton]

theorem look (h : Kept t x) (hlook : x.attention = .looking n)
    (hnot : (n.failure.isSome && x.cancelled) = false) : Kept t (x.look n) := by
  rw [Waiting.look, if_neg (by simp [hnot])]
  refine h.aside rfl rfl rfl rfl rfl fun hc => ⟨?_, ?_, nofun⟩
  · simp [sent, hlook, Attention.notice?]
  · show x.first.or _ = firstOf (x.received ++ [n])
    rw [firstOf_concat, (h.orderly hc).first]

theorem drain (h : Kept t x) (hlisten : x.attention = .listening) (hq : x.queue = [])
    (hall : x.awaited = t.workers.length) :
    Kept t { x with attention := .drained } := by
  refine h.aside rfl rfl rfl rfl rfl fun hc => ⟨?_, (h.orderly hc).first, fun _ => ⟨hq, ?_⟩⟩
  · simp [sent, hlisten, Attention.notice?]
  · intro i hi
    obtain ⟨crash, he⟩ := h.passed i (hall ▸ hi)
    rcases crash with _ | m
    · exact .inl he
    · exact .inr ⟨⟨m, he⟩, hall ▸ hi⟩

theorem cancel (h : Kept t x) (hdue : t.cancel.hasCome x.time = true) :
    Kept t { x with callerCancelled := true } where
  length := h.length
  begun := h.begun
  early := h.early
  passed := h.passed
  caller _ := hdue
  own _ := rfl
  already := h.already
  orderly hc := by
    have ho := h.orderly hc
    exact ho.same rfl ho.course (fun _ => .rfl) rfl ho.first ho.drained

theorem spread (h : Kept t x) (hcaller : x.callerCancelled = true) :
    Kept t { x with cancelled := true } where
  length := h.length
  begun := h.begun
  early := h.early
  passed := h.passed
  caller := h.caller
  own _ := hcaller
  already _ := rfl
  orderly hc := by cases hc

end Kept

end Waiting

end ClusterCensus.Collector
