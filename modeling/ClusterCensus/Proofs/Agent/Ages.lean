import ClusterCensus.Proofs.Agent.Views
import ClusterCensus.Proofs.Health.Naming

/-!
# Ages and verdicts

The age of a kind on the status page and the verdict that it is stale come from one number, how long
ago the kind was touched. The age cuts it down to whole seconds toward zero, the verdict compares it
in milliseconds, and both hold it within 64 bits, so for whole seconds they agree up to the second
that is running (`age_of_exceeded`, `exceeded_of_age`). A kind that has records was touched
(`exists_change_of_count`), so this carries over to the two views (`verdict_agrees_with_age`).

The number has a sign. The marker of a kind does not go back with the wall clock, so once the clock
is behind the last activity by a second the age is below zero (`age_negative_iff_behind`).
-/

namespace ClusterCensus

namespace Api

variable {wallMs updatedMs : Int}

theorem ageSecs_of_touched (h : 0 < updatedMs) :
    ageSecs wallMs updatedMs = (Health.elapsedMs wallMs updatedMs).tdiv 1000 :=
  if_pos h

/-- Division toward zero, by the sign of what is divided. -/
theorem tdiv_cases (n : Int) :
    0 ≤ n ∧ n.tdiv 1000 = n / 1000 ∨ n < 0 ∧ n.tdiv 1000 = -(-n / 1000) := by
  rcases lt_or_ge n 0 with hn | hn
  · refine .inr ⟨hn, ?_⟩
    rw [← Int.tdiv_eq_ediv_of_nonneg (by omega), Int.neg_tdiv, Int.neg_neg]
  · exact .inl ⟨hn, Int.tdiv_eq_ediv_of_nonneg hn⟩

theorem ageSecs_neg_iff (wallMs updatedMs : Int) :
    ageSecs wallMs updatedMs < 0 ↔ 0 < updatedMs ∧ wallMs + 1000 ≤ updatedMs := by
  have hmin : Int64.minValue.toInt = -9223372036854775808 := by decide
  have hmax : Health.maxInt64 = 9223372036854775807 := by decide
  unfold ageSecs
  split_ifs with htouched
  · have hdiv := tdiv_cases (Health.elapsedMs wallMs updatedMs)
    unfold Health.elapsedMs Health.clampInt64 at *
    rw [hmin, hmax] at *
    omega
  · omega

end Api

namespace Health

open Api

theorem thresholdMs_ofSecs (secs : Nat) :
    thresholdMs (.ofSecs secs) = min maxInt64 (1000 * secs) := by
  have hmillis : (Span.ofSecs secs).millis = 1000 * secs := by
    simp only [Span.ofSecs, Span.ofParts, Span.millis]
    omega
  rw [thresholdMs, hmillis]
  rfl

variable {secs : Nat} {nowMs updatedMs : Int}

theorem elapsedMs_le (nowMs thenMs : Int) : elapsedMs nowMs thenMs ≤ maxInt64 := by
  have hrange : Int64.minValue.toInt ≤ maxInt64 := by decide
  unfold elapsedMs clampInt64
  omega

theorem age_of_exceeded (htouched : 0 < updatedMs)
    (h : thresholdMs (.ofSecs secs) < elapsedMs nowMs updatedMs) :
    secs ≤ ageSecs nowMs updatedMs := by
  have hdiv := tdiv_cases (elapsedMs nowMs updatedMs)
  -- a threshold beyond 64 bits is never exceeded
  have hle := elapsedMs_le nowMs updatedMs
  rw [thresholdMs_ofSecs] at h
  rw [ageSecs_of_touched htouched]
  omega

theorem exceeded_of_age (htouched : 0 < updatedMs) (h : secs < ageSecs nowMs updatedMs) :
    thresholdMs (.ofSecs secs) < elapsedMs nowMs updatedMs := by
  have hdiv := tdiv_cases (elapsedMs nowMs updatedMs)
  rw [ageSecs_of_touched htouched] at h
  rw [thresholdMs_ofSecs]
  omega

end Health

/-- A kind that has records was touched. -/
theorem Store.exists_change_of_count {changes : List (Int × Change)} {k : Kind}
    (h : 0 < (empty.run changes).count k) :
    ∃ c ∈ changesOf k changes, c.1 ≤ (empty.run changes).updatedMs k := by
  rw [updatedMs, table_run]
  rw [count, table_run] at h
  rcases hk : changesOf k changes with _ | ⟨c, rest⟩
  · rw [hk] at h
    exact absurd h (Nat.lt_irrefl 0)
  · refine ⟨c, List.mem_cons_self, ?_⟩
    exact (Table.isGreatest_updatedMs_run (c :: rest) (empty.table k)).2
      (.inr ⟨c, List.mem_cons_self, rfl⟩)

namespace Agent

open Api Health

theorem statusPage_age (a : Agent) (wallMs : Int) (now : Instant) (k : Kind) :
    (a.statusPage wallMs now).within ["kinds", k.name, "age_secs"]
      = some (.integer (ageSecs wallMs (a.store.updatedMs k))) := by
  rw [statusPage_kind]
  rfl

/-- Whatever was written to a store, but before the first millisecond, for any threshold of whole
seconds and at any time: of a kind that has records, the status page shows at least the threshold as
its age if the health of the store names the kind as stale, and if the page shows more than the
threshold, then the health of the store names the kind. -/
theorem verdict_agrees_with_age (a : Agent) (changes : List (Int × Store.Change))
    (threshold : UInt64) (nowMs wallMs : Int) (now : Instant)
    (hwall : ∀ c ∈ changes, 1 ≤ c.1) :
    let a := { a with store := Store.empty.run changes }
    let health := ofStore a.store (.ofSecs threshold.toNat) nowMs wallMs
    ∃ (page : Json) (age : Kind → Int),
      (a.respond nowMs now .get "/status").1.body = .json page
        ∧ ∀ k, page.within ["kinds", k.name, "age_secs"] = some (.integer (age k))
          ∧ (0 < a.store.count k →
            (health.Names k → threshold.toNat ≤ age k)
              ∧ (threshold.toNat < age k → health.Names k)) := by
  intro a health
  refine ⟨a.statusPage nowMs now, fun k => ageSecs nowMs (a.store.updatedMs k),
    congrArg (·.1.body) (respond_get a nowMs now .status),
    fun k => ⟨statusPage_age a nowMs now k, fun hcount => ?_⟩⟩
  obtain ⟨c, hc, hle⟩ := Store.exists_change_of_count hcount
  have htouched : 0 < a.store.updatedMs k :=
    lt_of_lt_of_le (hwall _ (Store.mem_changesOf hc)) hle
  have hnames : health.Names k ↔ isStale a.store (.ofSecs threshold.toNat) nowMs k = true :=
    names_ofStore ..
  rw [hnames, isStale, Bool.and_eq_true, decide_eq_true_eq, decide_eq_true_eq]
  exact ⟨fun hstale => age_of_exceeded htouched hstale.2,
    fun hage => ⟨hcount, exceeded_of_age htouched hage⟩⟩

/-- A job was touched a millisecond before a pod. Two seconds after the pod both are two seconds
old, and with a threshold of two seconds only the job is stale. -/
theorem verdict_agrees_within_the_second :
    let changes : List (Int × Store.Change) :=
      [(4499, ⟨.jobs, .set "shop/sum-1" ⟨"sum-1", "shop", "1", none, none, 0, 0⟩⟩),
        (4500, ⟨.pods, .set "shop/web-0" ⟨"web-0", "shop", "2", none, "Running", none, ∅, 0, 0⟩⟩)]
    let a := { initial "node" (.ofSecs 2) with store := Store.empty.run changes }
    let health := ofStore a.store (.ofSecs 2) 6500 6500
    health.Names .jobs ∧ ¬ health.Names .pods
      ∧ ∃ (page : Json) (jobs pods : Int),
        (a.respond 6500 ⟨6, 500000000⟩ .get "/status").1.body = .json page
          ∧ page.within ["kinds", "jobs", "age_secs"] = some (.integer jobs) ∧ 2 ≤ jobs
          ∧ page.within ["kinds", "pods", "age_secs"] = some (.integer pods) ∧ pods ≤ 2 := by
  intro changes a health
  have hjobs : health.Names .jobs := (names_ofStore ..).2 (by decide)
  have hpods : ¬ health.Names .pods := (names_ofStore ..).not.2 (by decide)
  obtain ⟨page, age, hpage, hall⟩ :=
    verdict_agrees_with_age a changes 2 6500 6500 ⟨6, 500000000⟩ (by decide)
  obtain ⟨hshownJobs, hagreeJobs⟩ := hall .jobs
  obtain ⟨hshownPods, hagreePods⟩ := hall .pods
  refine ⟨hjobs, hpods, page, age .jobs, age .pods, hpage, hshownJobs, ?_, hshownPods, ?_⟩
  · exact (hagreeJobs (by decide)).1 hjobs
  · exact not_lt.1 fun hage => hpods ((hagreePods (by decide)).2 hage)

/-- Whatever was done to an agent: the status page shows an age below zero for a kind if and only if
the kind was touched when the wall clock showed a time that is a second or more ahead of what it
shows now. -/
theorem age_negative_iff_behind (node : String) (staleAfter : Span) (deeds : List Deed)
    (wallMs : Int) (now : Instant) :
    let a := (initial node staleAfter).afterDeeds deeds
    ∃ (page : Json) (age : Kind → Int),
      (a.respond wallMs now .get "/status").1.body = .json page
        ∧ ∀ k, page.within ["kinds", k.name, "age_secs"] = some (.integer (age k))
          ∧ (age k < 0 ↔ ∃ w ∈ Store.changesOf k (deeds.flatMap Deed.writes),
            0 < w.1 ∧ wallMs + 1000 ≤ w.1) := by
  intro a
  refine ⟨a.statusPage wallMs now, fun k => ageSecs wallMs (a.store.updatedMs k),
    congrArg (·.1.body) (respond_get a wallMs now .status),
    fun k => ⟨statusPage_age a wallMs now k, ?_⟩⟩
  have hstore : a.store = Store.empty.run (deeds.flatMap Deed.writes) := store_afterDeeds deeds _
  have hlatest := Table.isGreatest_updatedMs_run
    (Store.changesOf k (deeds.flatMap Deed.writes)) (Store.empty.table k)
  rw [← Store.table_run, ← hstore] at hlatest
  rw [ageSecs_neg_iff]
  constructor
  · rintro ⟨htouched, hbehind⟩
    rcases hlatest.1 with hnever | ⟨w, hw, htime⟩
    · have hzero : a.store.updatedMs k = 0 := hnever
      omega
    · exact ⟨w, hw, htime ▸ htouched, htime ▸ hbehind⟩
  · rintro ⟨w, hw, hpos, hbehind⟩
    have hle : w.1 ≤ a.store.updatedMs k := hlatest.2 (.inr ⟨w, hw, rfl⟩)
    exact ⟨by omega, by omega⟩

/-- A namespace was written, then the wall clock was set back by two seconds. -/
theorem age_below_zero :
    ¬ ∀ (deeds : List Deed) (wallMs : Int) (now : Instant) (k : Kind) (page : Json) (age : Int),
      (((initial "node" (.ofSecs 900)).afterDeeds deeds).respond wallMs now .get "/status").1.body
          = .json page →
        page.within ["kinds", k.name, "age_secs"] = some (.integer age) → 0 ≤ age := by
  intro hall
  let a := (initial "node" (.ofSecs 900)).afterDeeds
    [.aside (.write 5000 ⟨.namespaces, .set "shop" ⟨"shop", "1", "Active", ∅⟩⟩)]
  have hage : ageSecs 3000 (a.store.updatedMs .namespaces) = -2 := by decide
  have hpage := congrArg (·.1.body) (respond_get a 3000 ⟨3, 0⟩ .status)
  have hshown := statusPage_age a 3000 ⟨3, 0⟩ .namespaces
  rw [hage] at hshown
  exact absurd (hall _ 3000 ⟨3, 0⟩ .namespaces _ (-2) hpage hshown) (by decide)

end Agent

end ClusterCensus
