import ClusterCensus.Number.Binary64
import Mathlib.Data.Nat.Log
import Mathlib.Tactic.Common
import Mathlib.Tactic.Ring

/-!
# Whole numbers are shown exactly

A natural number of at most 53 bits is a number itself (`ofInt_natCast`), and no other whole number
reads back as it (`Interval.Around`). So whichever grid the search for its shortest decimal stops
at, the decimal is the number (`search_around`), and its text is that of the number
(`plainText_ofInt`).
-/

namespace ClusterCensus.Binary64

theorem scaleDown_natCast (base num den shift : Nat) :
    scaleDown base num den shift = (num, den * base ^ shift) :=
  if_pos (Int.natCast_nonneg shift)

/-! ## The number of a natural number -/

theorem log2_mul_two_pow {n : Nat} (hn : n ≠ 0) (k : Nat) :
    Nat.log2 (n * 2 ^ k) = Nat.log2 n + k := by
  induction k with
  | zero => simp
  | succ k ih =>
    have hk : n * 2 ^ k ≠ 0 := Nat.mul_ne_zero hn (Nat.two_pow_pos k).ne'
    rw [pow_succ, ← mul_assoc, Nat.log2_eq_log_two, Nat.log_mul_base (by decide) hk,
      ← Nat.log2_eq_log_two, ih, add_assoc]

theorem log2_le {n : Nat} (hn : n ≠ 0) (hlt : n < 2 ^ 53) : Nat.log2 n ≤ 52 :=
  Nat.lt_succ_iff.1 ((Nat.log2_lt hn).2 hlt)

theorem binade_mul_two_pow {n : Nat} (hn : n ≠ 0) (k : Nat) :
    binade (n * 2 ^ k) (2 ^ k) = Nat.log2 n := by
  have hguess : (Nat.log2 (n * 2 ^ k) : Int) - Nat.log2 (2 ^ k) = Nat.log2 n := by
    rw [log2_mul_two_pow hn, Nat.log2_two_pow]
    omega
  have hle : 2 ^ k * 2 ^ Nat.log2 n ≤ n * 2 ^ k := by
    rw [mul_comm]
    exact Nat.mul_le_mul_right _ (Nat.log2_self_le hn)
  simp only [binade, hguess, scaleDown_natCast, if_neg (Nat.not_lt.2 hle)]

theorem scaleDown_two {n L : Nat} (hL : L ≤ 52) :
    scaleDown 2 n 1 ((L : Int) - 52) = (n * 2 ^ (52 - L), 1) := by
  rcases hL.eq_or_lt with rfl | hlt
  · simpa using scaleDown_natCast 2 n 1 0
  · have htoNat : (-((L : Int) - 52)).toNat = 52 - L := by omega
    rw [scaleDown, if_neg (by omega), htoNat]
    rfl

theorem ofInt_natCast {n : Nat} (hn : n ≠ 0) (hlt : n < 2 ^ 53) :
    ofInt n = ⟨false, n * 2 ^ (52 - Nat.log2 n), (Nat.log2 n : Int) - 52⟩ := by
  have hL := log2_le hn hlt
  have hbinade : binade n 1 = Nat.log2 n := by simpa using binade_mul_two_pow hn 0
  have hexp : max minExponent ((Nat.log2 n : Int) - 52) = (Nat.log2 n : Int) - 52 :=
    max_eq_right (by simp only [minExponent]; omega)
  have hexact : divNearest (n * 2 ^ (52 - Nat.log2 n)) 1 = n * 2 ^ (52 - Nat.log2 n) := by
    simp [divNearest, Nat.mod_one]
  have hpos : n * 2 ^ (52 - Nat.log2 n) ≠ 0 := Nat.mul_ne_zero hn (Nat.two_pow_pos _).ne'
  have hfull : n * 2 ^ (52 - Nat.log2 n) ≠ 2 * leastFull := by
    have hn2 : n < 2 ^ (Nat.log2 n + 1) := Nat.lt_log2_self
    have hmul := Nat.mul_lt_mul_of_pos_right hn2 (Nat.two_pow_pos (52 - Nat.log2 n))
    rw [← pow_add, show Nat.log2 n + 1 + (52 - Nat.log2 n) = 53 by omega] at hmul
    exact hmul.ne
  have hmax : ¬ (Nat.log2 n : Int) - 52 > maxExponent := by
    simp only [maxExponent]
    omega
  simp only [ofInt, ofRatio?, Int.natAbs_natCast, hbinade, hexp, scaleDown_two hL, hexact,
    if_neg hn, if_neg hfull, if_neg hpos, if_neg hmax, Option.getD_some]
  simp

/-! ## What reads back as it -/

namespace Interval

/-- The interval lies around a natural number, and reaches at most half of the way to the next one
on either side. -/
structure Around (i : Interval) (n : Nat) : Prop where
  value : i.value = n * i.den
  low : i.low < i.value ∧ i.value ≤ i.low + 2
  high : i.value < i.high ∧ i.high ≤ i.value + 2
  den : 4 ≤ i.den

variable {i : Interval} {n : Nat}

theorem Around.holds_iff (h : Around i n) (c p : Nat) : i.holds c p = true ↔ c * 10 ^ p = n := by
  have hlow := h.low
  have hhigh := h.high
  have hden := h.den
  have hshift : c * (i.den * 10 ^ p) = c * 10 ^ p * i.den := by ring
  rw [h.value] at hlow hhigh
  simp only [holds, scaleDown_natCast, hshift]
  -- A multiple of the denominator is either the value or at least four away from it.
  rcases Nat.lt_trichotomy (c * 10 ^ p) n with hlt | heq | hgt
  · have hstep := Nat.mul_le_mul_right i.den hlt
    rw [Nat.succ_mul] at hstep
    split_ifs <;> simp <;> omega
  · rw [heq]
    split_ifs <;> simp <;> omega
  · have hstep := Nat.mul_le_mul_right i.den hgt
    rw [Nat.succ_mul] at hstep
    split_ifs <;> simp <;> omega

theorem holds_of_onGrid {power : Int} {c : Nat} (h : i.onGrid power = some c) :
    i.holds c power = true := by
  simp only [onGrid] at h
  split at h
  · cases h
  · rename_i hc _
    obtain rfl := Option.some.inj h
    exact hc
  · rename_i _ hc
    obtain rfl := Option.some.inj h
    exact hc
  · rename_i hc hsucc
    obtain rfl := Option.some.inj h
    split_ifs
    · exact hc
    · exact hsucc

theorem Around.isSome_onGrid_zero (h : Around i n) : (i.onGrid 0).isSome := by
  have hden := h.den
  have hquot : i.value / i.den = n := by
    rw [h.value, Nat.mul_div_cancel _ (by omega)]
  have hscale := scaleDown_natCast 10 i.value i.den 0
  rw [pow_zero, mul_one, Nat.cast_zero] at hscale
  have hholds : i.holds n 0 = true := (h.holds_iff n 0).2 (by simp)
  simp only [onGrid, hscale, hquot, hholds]
  split <;> simp_all

end Interval

theorem trimZeros_natCast {n : Nat} : ∀ (fuel c p : Nat), c * 10 ^ p = n →
    ∃ c' p' : Nat, trimZeros fuel c p = (c', (p' : Int)) ∧ c' * 10 ^ p' = n
  | 0, c, p, h => ⟨c, p, rfl, h⟩
  | fuel + 1, c, p, h => by
    unfold trimZeros
    split_ifs with hc
    · refine trimZeros_natCast fuel (c / 10) (p + 1) ?_
      rw [pow_succ', ← mul_assoc, Nat.div_mul_cancel (Nat.dvd_of_mod_eq_zero hc.2), h]
    · exact ⟨c, p, rfl, h⟩

/-- The search goes down to the grid of the whole numbers, if it finds nothing before. -/
theorem search_around {i : Interval} {n : Nat} (h : i.Around n) (top : Int) :
    ∀ (tries digits p : Nat), top + 1 - digits = p → p < tries →
      ∃ c q : Nat, i.search top tries digits = (c, (q : Int)) ∧ c * 10 ^ q = n
  | 0, _, _, _, hlt => absurd hlt (Nat.not_lt_zero _)
  | tries + 1, digits, p, hp, hlt => by
    simp only [Interval.search, hp]
    rcases hgrid : i.onGrid p with _ | c
    · obtain ⟨p, rfl⟩ : ∃ q, p = q + 1 := Nat.exists_eq_succ_of_ne_zero fun hzero => by
        have hsome := h.isSome_onGrid_zero
        rw [hzero] at hgrid
        simp_all
      exact search_around h top tries (digits + 1) p (by push_cast at hp ⊢; omega) (by omega)
    · exact trimZeros_natCast 20 c p ((h.holds_iff c p).1 (Interval.holds_of_onGrid hgrid))

/-! ## The text of a natural number -/

theorem decade_bounds {n : Nat} (hn : n ≠ 0) (hlt : n < 2 ^ 53) (k : Nat) :
    0 ≤ decade (n * 2 ^ k) (2 ^ k) ∧ decade (n * 2 ^ k) (2 ^ k) ≤ 16 := by
  have hL := log2_le hn hlt
  obtain ⟨g, hg⟩ : ∃ g : Nat, (Nat.log2 n : Int) * 30103 / 100000 = g :=
    ⟨Nat.log2 n * 30103 / 100000, by push_cast; rfl⟩
  have hg15 : g ≤ 15 := by omega
  have hsucc : (g : Int) + 1 = (g + 1 : Nat) := by push_cast; rfl
  simp only [decade, binade_mul_two_pow hn, hg, hsucc, scaleDown_natCast]
  split_ifs with hless
  · -- Not even one digit would be one too many.
    have hgne : g ≠ 0 := by
      rintro rfl
      rw [pow_zero, mul_one] at hless
      have := Nat.le_mul_of_pos_left (2 ^ k) (Nat.pos_of_ne_zero hn)
      omega
    omega
  · omega
  · omega

theorem interval_ofInt {n : Nat} (hn : n ≠ 0) (hlt : n < 2 ^ 53) :
    (ofInt n).interval.Around n
      ∧ ∃ k, (ofInt n).interval.value = n * 2 ^ k ∧ (ofInt n).interval.den = 2 ^ k := by
  have hL := log2_le hn hlt
  have hscale : ((Nat.log2 n : Int) - 52 - 2).toNat = 0 := by omega
  have hden : (2 - ((Nat.log2 n : Int) - 52)).toNat = 54 - Nat.log2 n := by omega
  have hvalue : 4 * (n * 2 ^ (52 - Nat.log2 n)) * 2 ^ 0 = n * 2 ^ (54 - Nat.log2 n) := by
    rw [show 54 - Nat.log2 n = 52 - Nat.log2 n + 2 by omega, pow_add]
    ring
  have hfour : 2 ^ 2 ≤ 2 ^ (54 - Nat.log2 n) := Nat.pow_le_pow_right (by decide) (by omega)
  have hpos : 0 < n * 2 ^ (52 - Nat.log2 n) :=
    Nat.mul_pos (Nat.pos_of_ne_zero hn) (Nat.two_pow_pos _)
  simp only [ofInt_natCast hn hlt, interval, hscale, hden, Nat.pow_eq, hvalue]
  refine ⟨⟨rfl, ?_, ?_, hfour⟩, _, rfl, rfl⟩
  · dsimp only
    rw [← hvalue]
    split_ifs <;> omega
  · dsimp only
    rw [← hvalue]
    omega

theorem shortest_ofInt {n : Nat} (hn : n ≠ 0) (hlt : n < 2 ^ 53) :
    ∃ c q : Nat, (ofInt n).shortest = (c, (q : Int)) ∧ c * 10 ^ q = n := by
  obtain ⟨haround, k, hvalue, hden⟩ := interval_ofInt hn hlt
  obtain ⟨hnonneg, hle⟩ := decade_bounds hn hlt k
  obtain ⟨top, htop⟩ := Int.eq_ofNat_of_zero_le hnonneg
  have hpos : (ofInt n).significand ≠ 0 := by
    rw [ofInt_natCast hn hlt]
    exact Nat.mul_ne_zero hn (Nat.two_pow_pos _).ne'
  rw [shortest, if_neg hpos]
  rw [← hvalue, ← hden] at htop hle
  simp only [htop]
  exact search_around haround top 17 1 top (by push_cast; omega) (by omega)

theorem digitsOf_mul_ten_pow {c : Nat} (hc : c ≠ 0) : ∀ q : Nat,
    digitsOf (c * 10 ^ q) = digitsOf c ++ List.replicate q '0'
  | 0 => by simp
  | q + 1 => by
    have hpos : 0 < c * 10 ^ q := Nat.pos_of_ne_zero (by simpa using hc)
    have hsnoc := Nat.toDigits_append_toDigits (by decide : 1 < 10) hpos (by decide : 0 < 10)
    rw [List.replicate_succ', ← List.append_assoc, ← digitsOf_mul_ten_pow hc q]
    rw [pow_succ, ← mul_assoc, mul_comm]
    exact hsnoc.symm

/-- A whole number of at most 53 bits is shown as it is. -/
theorem plainText_ofInt {n : Nat} (hlt : n < 2 ^ 53) : (ofInt n).plainText = toString n := by
  rcases eq_or_ne n 0 with rfl | hn
  · rfl
  obtain ⟨c, q, hshort, rfl⟩ := shortest_ofInt hn hlt
  have hc : c ≠ 0 := by
    rintro rfl
    simp at hn
  have hsign : (ofInt (c * 10 ^ q : Nat)).negative = false := by
    rw [ofInt_natCast hn hlt]
  have hdigits := (digitsOf_mul_ten_pow hc q).symm
  simp only [plainText, hshort, positional, if_pos (Int.natCast_nonneg q), Int.toNat_natCast,
    hdigits, if_true, signed, hsign]
  rfl

end ClusterCensus.Binary64
