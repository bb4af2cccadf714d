import ClusterCensus.Time.Instant
import Mathlib.Tactic.Common

/-!
# Instants as nanoseconds

Outside inserted seconds an instant is a number of nanoseconds: their order is that of the numbers
(`le_iff_ns`), a span added to one is added to its number, up to the last instant of the calendar
(`ns_addOrMax`), and the way from one to a later one is the difference (`ns_until`).
-/

namespace ClusterCensus.Instant

/-- The nanoseconds since the beginning of 1970. -/
def ns (t : Instant) : Int := t.secs * perSec + t.nanos

theorem isLeap_iff (t : Instant) : t.isLeap ↔ perSec ≤ t.nanos := by
  simp [isLeap]

theorem le_iff_ns {a b : Instant} (ha : ¬ a.isLeap) (hb : ¬ b.isLeap) : a ≤ b ↔ a.ns ≤ b.ns := by
  rw [isLeap_iff] at ha hb
  show a.secs < b.secs ∨ a.secs = b.secs ∧ a.nanos ≤ b.nanos ↔ _
  simp only [ns, perSec] at *
  omega

theorem not_isLeap_max : ¬ max.isLeap := by
  decide

theorem later_of_not_isLeap {t : Instant} (h : ¬ t.isLeap) (w : Span) :
    ¬ (t.later w).isLeap ∧ (t.later w).ns = t.ns + w.ns := by
  have ht := (isLeap_iff t).not.1 h
  have hw : w.ns = w.secs * 1000000000 + w.subsecNanos := by
    simp only [Span.secs, Span.subsecNanos]
    omega
  have hs : w.subsecNanos < 1000000000 := Nat.mod_lt _ (by decide)
  simp only [later, if_neg h, ofCarry]
  split_ifs with hc
  · simp only [isLeap_iff, ns, perSec] at *
    omega
  · simp only [isLeap_iff, ns, perSec] at *
    omega

/-- A span later, but not beyond the calendar. -/
theorem ns_addOrMax {t : Instant} (h : ¬ t.isLeap) (w : Span) :
    ¬ (t.addOrMax w).isLeap ∧ (t.addOrMax w).ns = min (t.ns + w.ns) max.ns := by
  obtain ⟨hl, hns⟩ := later_of_not_isLeap h w
  have hlt := (isLeap_iff _).not.1 hl
  unfold addOrMax add?
  split_ifs with hc
  · refine ⟨hl, ?_⟩
    rw [← hns]
    simp only [Option.getD_some, ns, max, perSec] at *
    omega
  · refine ⟨not_isLeap_max, ?_⟩
    rw [← hns]
    simp only [Option.getD_none, ns, max, perSec] at *
    omega

/-- The first second of the calendar: the beginning of the year -262143. -/
def minSecs : Int := -8334601228800

/-- Whether an instant lies in the calendar. -/
def InCalendar (t : Instant) : Prop := minSecs ≤ t.secs ∧ t.secs ≤ max.secs

instance (t : Instant) : Decidable t.InCalendar :=
  inferInstanceAs (Decidable (minSecs ≤ t.secs ∧ t.secs ≤ max.secs))

theorem ns_until {t later : Instant} (ht : ¬ t.isLeap) (hlater : ¬ later.isLeap) :
    (t.until_ later).ns = (later.ns - t.ns).toNat := by
  have hsame : t.nanosUntil later = later.ns - t.ns := by
    simp only [nanosUntil, ht, hlater, Bool.false_eq_true, and_false, if_false, ns, perSec]
    omega
  rw [until_, hsame]

theorem secs_addOrMax_le (t : Instant) (w : Span) : (t.addOrMax w).secs ≤ max.secs := by
  unfold addOrMax add?
  split_ifs with h
  · exact h
  · exact Int.le_refl _

theorem nanos_ofCarry_lt {secs : Int} {nanos : Nat} (h : nanos < 2 * perSec) :
    (ofCarry secs nanos).nanos < 2 * perSec := by
  unfold ofCarry
  split_ifs
  · exact h
  · exact Nat.lt_of_le_of_lt (Nat.sub_le ..) h

theorem nanos_addOrMax_lt {t : Instant} (h : t.nanos < 2 * perSec) (w : Span) :
    (t.addOrMax w).nanos < 2 * perSec := by
  have hsub : w.subsecNanos < perSec := Nat.mod_lt _ (by decide)
  have hlater : (t.later w).nanos < 2 * perSec := by
    simp only [later]
    split_ifs with hleap hstay
    · exact hstay.2
    · exact nanos_ofCarry_lt (by omega)
    · exact nanos_ofCarry_lt (by rw [isLeap_iff] at hleap; omega)
  unfold addOrMax add?
  split_ifs
  · exact hlater
  · decide

end ClusterCensus.Instant
