import ClusterCensus.Health.Probe
import ClusterCensus.Proofs.Store.Reference

/-!
# When a kind is stale

The marker of a kind is never negative, so neither the bounds of 64 bits nor the whole milliseconds
of the threshold change the verdict on it (`isStale_iff`). Whatever the order in which the kinds are
met, sorting the stale ones leaves those of the fixed order (`staleAmong_eq`), and these are what
the health of the store tells (`staleness_exact`).
-/

namespace ClusterCensus

theorem Kind.sorted_all : Kind.all.Pairwise (·.index < ·.index) := by
  decide

theorem Kind.index_injective : Function.Injective Kind.index := fun j _ h =>
  (List.idxOf_inj (Kind.mem_all j)).1 h

theorem Store.updatedMs_run_nonneg (changes : List (Int × Store.Change)) (k : Kind) :
    0 ≤ (Store.empty.run changes).updatedMs k :=
  Store.updatedMs_le_run .empty changes k

namespace Health

/-- The stale kinds when the times of the last activity are met in some order and the numbers of
records are looked up, sorted by their places in the end. -/
def staleAmong (counts : List (Kind × Nat)) (times : List (Kind × Int)) (threshold : Span)
    (nowMs : Int) : List Kind :=
  ((times.filter fun e => 0 < (counts.lookup e.1).getD 0
      && thresholdMs threshold < elapsedMs nowMs e.2).map (·.1)).mergeSort (·.index ≤ ·.index)

/-- The health of a store of which the numbers of records and the times are told in some order. -/
def ofSurvey (counts : List (Kind × Nat)) (times : List (Kind × Int)) (threshold : Span)
    (nowMs wallMs : Int) : Component :=
  match staleAmong counts times threshold nowMs with
  | [] => .healthy wallMs
  | stale =>
    .degraded wallMs
      ("no updates within threshold: " ++ String.intercalate ", " (stale.map Kind.name))

theorem lookup_of_forall {β : Type} {f : Kind → β} {k : Kind} : ∀ {l : List (Kind × β)},
    (∀ e ∈ l, e.2 = f e.1) → (k, f k) ∈ l → l.lookup k = some (f k)
  | [], _, h => by cases h
  | (j, x) :: rest, hall, h => by
    by_cases hk : k = j
    · subst hk
      have hx : x = f k := hall _ List.mem_cons_self
      rw [List.lookup_cons_self, hx]
    · have hrest := (List.mem_cons.1 h).resolve_left fun heq => hk (congrArg Prod.fst heq)
      have ih := lookup_of_forall (fun e he => hall e (List.mem_cons_of_mem _ he)) hrest
      rw [List.lookup_cons, beq_false_of_ne hk]
      exact ih

/-- What is told of every kind in any order is found as if it were told in the fixed one. -/
theorem lookup_of_perm {β : Type} {f : Kind → β} {l : List (Kind × β)}
    (h : l.Perm (Kind.all.map fun k => (k, f k))) (k : Kind) : l.lookup k = some (f k) := by
  refine lookup_of_forall (fun e he => ?_) (h.mem_iff.2 (List.mem_map.2 ⟨k, Kind.mem_all k, rfl⟩))
  obtain ⟨j, -, rfl⟩ := List.mem_map.1 (h.mem_iff.1 he)
  rfl

theorem elapsed_iff (threshold : Span) {nowMs thenMs : Int} (hthen : 0 ≤ thenMs)
    (hlow : Int64.minValue.toInt ≤ nowMs) (hhigh : nowMs ≤ maxInt64) :
    thresholdMs threshold < elapsedMs nowMs thenMs
      ↔ (threshold.ns : Int) < (nowMs - thenMs) * 1000000 := by
  have hmin : Int64.minValue.toInt = -9223372036854775808 := by decide
  have hmax : maxInt64 = 9223372036854775807 := by decide
  unfold thresholdMs elapsedMs clampInt64 Span.millis
  rw [hmin] at hlow ⊢
  rw [hmax] at hhigh ⊢
  omega

/-- The verdict on a kind in whole numbers, for a marker that is not negative and a time of 64 bits.
-/
theorem isStale_iff {s : Store} {k : Kind} (threshold : Span) (now : Int64)
    (hmarker : 0 ≤ s.updatedMs k) :
    isStale s threshold now.toInt k = true
      ↔ 0 < s.count k ∧ (threshold.ns : Int) < (now.toInt - s.updatedMs k) * 1000000 := by
  have helapsed := elapsed_iff threshold hmarker now.minValue_le_toInt now.toInt_le
  unfold isStale
  rw [Bool.and_eq_true, decide_eq_true_eq, decide_eq_true_eq, helapsed]

theorem sorted_staleAmong (counts : List (Kind × Nat)) (times : List (Kind × Int))
    (threshold : Span) (nowMs : Int) :
    (staleAmong counts times threshold nowMs).Pairwise (·.index ≤ ·.index) := by
  refine (List.pairwise_mergeSort (fun i j k hij hjk => ?_) (fun j k => ?_) _).imp fun h => ?_
  · simp only [decide_eq_true_eq] at *
    omega
  · simp only [Bool.or_eq_true, decide_eq_true_eq]
    omega
  · simpa using h

theorem sorted_staleKinds (s : Store) (threshold : Span) (nowMs : Int) :
    (staleKinds s threshold nowMs).Pairwise (·.index < ·.index) :=
  Kind.sorted_all.filter _

theorem mem_staleKinds {s : Store} {threshold : Span} {nowMs : Int} {k : Kind} :
    k ∈ staleKinds s threshold nowMs ↔ isStale s threshold nowMs k = true := by
  simp [staleKinds, Kind.mem_all]

section Survey

variable {s : Store} {counts : List (Kind × Nat)} {times : List (Kind × Int)}

open scoped List in
theorem perm_staleAmong (hcounts : counts.Perm s.itemCounts) (htimes : times.Perm s.updatedTimes)
    (threshold : Span) (nowMs : Int) :
    (staleAmong counts times threshold nowMs).Perm (staleKinds s threshold nowMs) := by
  let stale (e : Kind × Int) : Bool :=
    0 < (counts.lookup e.1).getD 0 && thresholdMs threshold < elapsedMs nowMs e.2
  have hstale (k : Kind) : stale (k, s.updatedMs k) = isStale s threshold nowMs k := by
    simp only [stale, isStale, lookup_of_perm hcounts k, Option.getD_some]
  calc staleAmong counts times threshold nowMs
      ~ (times.filter stale).map Prod.fst := List.mergeSort_perm ..
    _ ~ (s.updatedTimes.filter stale).map Prod.fst := (htimes.filter _).map _
    _ = (Kind.all.filter fun k => stale (k, s.updatedMs k)).map id := by
        rw [Store.updatedTimes, List.filter_map, List.map_map]
        rfl
    _ = staleKinds s threshold nowMs := by simp only [hstale, List.map_id, staleKinds]

theorem staleAmong_eq (hcounts : counts.Perm s.itemCounts) (htimes : times.Perm s.updatedTimes)
    (threshold : Span) (nowMs : Int) :
    staleAmong counts times threshold nowMs = staleKinds s threshold nowMs := by
  have hstale := (sorted_staleKinds s threshold nowMs).imp Nat.le_of_lt
  exact List.Perm.eq_of_pairwise
    (fun j k _ _ hjk hkj => Kind.index_injective (Nat.le_antisymm hjk hkj))
    (sorted_staleAmong counts times threshold nowMs) hstale
    (perm_staleAmong hcounts htimes threshold nowMs)

theorem ofSurvey_eq (hcounts : counts.Perm s.itemCounts) (htimes : times.Perm s.updatedTimes)
    (threshold : Span) (nowMs wallMs : Int) :
    ofSurvey counts times threshold nowMs wallMs = ofStore s threshold nowMs wallMs := by
  have hstale := staleAmong_eq hcounts htimes threshold nowMs
  unfold ofSurvey ofStore
  generalize staleAmong counts times threshold nowMs = stale at hstale ⊢
  subst hstale
  cases staleKinds s threshold nowMs <;> rfl

end Survey

theorem ofStore_of_fresh {s : Store} {threshold : Span} {nowMs : Int} (wallMs : Int)
    (h : staleKinds s threshold nowMs = []) :
    ofStore s threshold nowMs wallMs = .healthy wallMs := by
  unfold ofStore
  rw [h]

theorem ofStore_of_stale {s : Store} {threshold : Span} {nowMs : Int} (wallMs : Int)
    (h : staleKinds s threshold nowMs ≠ []) :
    ofStore s threshold nowMs wallMs = .degraded wallMs ("no updates within threshold: "
      ++ String.intercalate ", " ((staleKinds s threshold nowMs).map Kind.name)) := by
  unfold ofStore
  split
  · contradiction
  · rfl

/-- After any changes to a new store, for any threshold and any time of 64 bits: a kind is stale if
it has records and its last activity was longer ago than the threshold, in whole numbers. In
whatever order the kinds are met, the store is healthy and there is no message if none is stale;
otherwise it is degraded and the message names the stale kinds, each once, in the fixed order. -/
theorem staleness_exact (changes : List (Int × Store.Change)) (threshold : Span) (now : Int64)
    (wallMs : Int) :
    let s := Store.empty.run changes
    let Stale (k : Kind) : Prop :=
      0 < s.count k ∧ (threshold.ns : Int) < (now.toInt - s.updatedMs k) * 1000000
    (∀ k, isStale s threshold now.toInt k = true ↔ Stale k)
      ∧ ∀ counts times, counts.Perm s.itemCounts → times.Perm s.updatedTimes →
        let c := ofSurvey counts times threshold now.toInt wallMs
        c = ofStore s threshold now.toInt wallMs
          ∧ (c.grade = .healthy ∧ c.message = none ↔ ∀ k, ¬ Stale k)
          ∧ ((∃ k, Stale k) → c.grade = .degraded ∧ ∃ stale : List Kind,
            c.message = some ("no updates within threshold: "
                ++ String.intercalate ", " (stale.map Kind.name))
              ∧ (∀ k, k ∈ stale ↔ Stale k) ∧ stale.Pairwise (·.index < ·.index)) := by
  intro s Stale
  have hstale (k : Kind) : isStale s threshold now.toInt k = true ↔ Stale k :=
    isStale_iff threshold now (Store.updatedMs_run_nonneg changes k)
  have hmem (k : Kind) : k ∈ staleKinds s threshold now.toInt ↔ Stale k :=
    mem_staleKinds.trans (hstale k)
  refine ⟨hstale, fun counts times hcounts htimes => ?_⟩
  intro c
  have hc : c = ofStore s threshold now.toInt wallMs := ofSurvey_eq hcounts htimes ..
  by_cases hfresh : staleKinds s threshold now.toInt = []
  · have hnone (k : Kind) : ¬ Stale k := fun hk => by
      have := (hmem k).2 hk
      rw [hfresh] at this
      cases this
    rw [hc, ofStore_of_fresh wallMs hfresh]
    exact ⟨rfl, ⟨fun _ => hnone, fun _ => ⟨rfl, rfl⟩⟩, fun ⟨k, hk⟩ => absurd hk (hnone k)⟩
  · obtain ⟨k, hk⟩ := List.exists_mem_of_ne_nil _ hfresh
    rw [hc, ofStore_of_stale wallMs hfresh]
    refine ⟨rfl, ⟨?_, fun hnone => absurd ((hmem k).1 hk) (hnone k)⟩, fun _ => ⟨rfl, _, rfl, hmem,
      sorted_staleKinds ..⟩⟩
    rintro ⟨hgrade, -⟩
    cases hgrade

/-- Met backwards, a replica set and a job that were touched more than a second and a half ago are
told in the fixed order; a pod touched half a millisecond less ago than that is fresh. -/
theorem stale_kinds_met_backwards :
    let changes : List (Int × Store.Change) :=
      [(4499, ⟨.jobs, .set "shop/sum-1" ⟨"sum-1", "shop", "1", none, none, 0, 0⟩⟩),
        (4500, ⟨.pods, .set "shop/web-0" ⟨"web-0", "shop", "2", none, "Running", none, ∅, 0, 0⟩⟩),
        (10, ⟨.replicaSets, .set "shop/web-1" ⟨"web-1", "shop", "3", 1, none⟩⟩)]
    let s := Store.empty.run changes
    let c := ofSurvey s.itemCounts.reverse s.updatedTimes.reverse (.ofParts 1 500500000) 6000 0
    isStale s (.ofParts 1 500500000) 6000 .jobs = true
      ∧ c.message = some "no updates within threshold: replica_sets, jobs" := by
  intro changes s c
  obtain ⟨hstale, hsurvey⟩ := staleness_exact changes (.ofParts 1 500500000) 6000 0
  obtain ⟨hc, -⟩ := hsurvey s.itemCounts.reverse s.updatedTimes.reverse (List.reverse_perm _)
    (List.reverse_perm _)
  refine ⟨(hstale .jobs).2 (by decide), ?_⟩
  exact (congrArg Component.message hc).trans (by decide)

end Health

end ClusterCensus
