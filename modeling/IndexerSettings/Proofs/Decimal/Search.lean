import Mathlib.Algebra.Order.Floor.Semiring
import Mathlib.Data.Rat.Floor
import IndexerSettings.Proofs.Decimal.Rounding

/-!
# The search for the shortest decimal

The search goes down the grids of powers of ten and takes the first one with a point in
the interval.  On a grid it looks at the two neighbours of the middle only, which is
enough since the interval is convex (`Interval.onGrid_isSome`).  On the last grid the
points stand closer than the ends of the interval, so the search finds one
(`holds_shortest`).
-/

namespace IndexerSettings.Decimal

namespace Interval

variable {i : Interval} {p : Int} {d n : Nat} {tie : Tie} {a b c : ℚ}

/-! ## Points of grids as ratios -/

theorem Holds.convex (ha : i.Holds a) (hb : i.Holds b) (hac : a ≤ c) (hcb : c ≤ b) :
    i.Holds c := by
  unfold Holds at *
  by_cases hclosed : i.closed = true
  · rw [if_pos hclosed] at *
    exact ⟨ha.1.trans hac, hcb.trans hb.2⟩
  · rw [if_neg hclosed] at *
    exact ⟨ha.1.trans_le hac, hcb.trans_lt hb.2⟩

/-- The ends themselves may not lie in the interval. -/
theorem holds_of_lt (hlow : i.low * 2 ^ i.scale < a) (hhigh : a < i.high * 2 ^ i.scale) :
    i.Holds a := by
  rw [Holds]
  split
  · exact ⟨hlow.le, hhigh.le⟩
  · exact ⟨hlow, hhigh⟩

theorem weights_pos (i : Interval) (p : Int) : 0 < (i.weights p).1 ∧ 0 < (i.weights p).2 := by
  simp only [weights, tenTo, Nat.pow_eq, Nat.shiftLeft_eq]
  constructor <;> positivity

theorem weights_div (i : Interval) (p : Int) :
    ((i.weights p).1 : ℚ) / (i.weights p).2 = 10 ^ p / 2 ^ i.scale := by
  rw [weights, cast_shiftLeft_div, zpow_eq_div (by norm_num : (10 : ℚ) ≠ 0)]
  simp [tenTo]

theorem weights_le_iff : n * (i.weights p).2 ≤ d * (i.weights p).1 ↔
    (n : ℚ) * 2 ^ i.scale ≤ d * 10 ^ p := by
  have hunit : (0 : ℚ) < (i.weights p).2 := by exact_mod_cast (i.weights_pos p).2
  have hpow : (0 : ℚ) < 2 ^ i.scale := by positivity
  rw [← Nat.cast_le (α := ℚ), Nat.cast_mul, Nat.cast_mul, ← le_div_iff₀ hunit, mul_div_assoc,
    weights_div, ← mul_div_assoc, le_div_iff₀ hpow]

theorem le_weights_iff : d * (i.weights p).1 ≤ n * (i.weights p).2 ↔
    (d : ℚ) * 10 ^ p ≤ n * 2 ^ i.scale := by
  have hunit : (0 : ℚ) < (i.weights p).2 := by exact_mod_cast (i.weights_pos p).2
  have hpow : (0 : ℚ) < 2 ^ i.scale := by positivity
  rw [← Nat.cast_le (α := ℚ), Nat.cast_mul, Nat.cast_mul, ← div_le_iff₀ hunit, mul_div_assoc,
    weights_div, ← mul_div_assoc, div_le_iff₀ hpow]

theorem contains_iff : i.contains p d = true ↔ i.Holds (d * 10 ^ p) := by
  simp only [contains, Holds]
  split
  · rw [Bool.and_eq_true, decide_eq_true_eq, decide_eq_true_eq, weights_le_iff, le_weights_iff]
  · rw [Bool.and_eq_true, decide_eq_true_eq, decide_eq_true_eq, ← not_le, ← not_le,
      weights_le_iff, le_weights_iff, not_le, not_le]

/-! ## One grid -/

theorem contains_of_onGrid (h : i.onGrid tie p = some d) : i.contains p d = true := by
  simp only [onGrid] at h
  split at h
  · cases h
  · rename_i hbelow _
    exact Option.some.inj h ▸ hbelow
  · rename_i habove
    exact Option.some.inj h ▸ habove
  · rename_i hbelow habove
    split at h
    · exact Option.some.inj h ▸ hbelow
    · split at h
      · exact Option.some.inj h ▸ habove
      · split at h
        · have hd := Option.some.inj h
          split at hd
          · exact hd ▸ hbelow
          · exact hd ▸ habove
        · exact Option.some.inj h ▸ habove

/-- A grid with a point in the interval has one next to its middle. -/
theorem onGrid_isSome (hmid : i.Holds (i.mid * 2 ^ i.scale)) (h : i.Holds (d * 10 ^ p)) :
    (i.onGrid tie p).isSome = true := by
  have hpow : (0 : ℚ) < 10 ^ p := by positivity
  set below := i.mid * (i.weights p).2 / (i.weights p).1 with hbelow
  have hle : (below : ℚ) * 10 ^ p ≤ i.mid * 2 ^ i.scale :=
    le_weights_iff.mp (Nat.div_mul_le_self _ _)
  have hlt : (i.mid : ℚ) * 2 ^ i.scale < (below + 1 : Nat) * 10 ^ p := by
    rw [← not_le, ← le_weights_iff, not_le, Nat.mul_comm (below + 1)]
    exact Nat.lt_mul_div_succ _ (i.weights_pos p).1
  have hneighbour : i.contains p below = true ∨ i.contains p (below + 1) = true := by
    rw [contains_iff, contains_iff]
    rcases Nat.lt_or_ge below d with hd | hd
    · have hdq : ((below + 1 : Nat) : ℚ) * 10 ^ p ≤ d * 10 ^ p := by gcongr; exact hd
      exact .inr (hmid.convex h hlt.le hdq)
    · have hdq : (d : ℚ) * 10 ^ p ≤ below * 10 ^ p := by gcongr
      exact .inl (h.convex hmid hdq hle)
  by_contra hnone
  rw [Option.not_isSome_iff_eq_none] at hnone
  simp only [onGrid, ← hbelow] at hnone
  split at hnone
  · rename_i hfalse hfalse'
    simp [hfalse, hfalse'] at hneighbour
  · cases hnone
  · cases hnone
  · split at hnone
    · cases hnone
    · split at hnone
      · cases hnone
      · split at hnone <;> cases hnone

/-! ## Grid after grid -/

/-- The search ends with a point of the interval if one of its grids has one. -/
theorem contains_search {steps k : Nat} (hk : k < steps)
    (h : (i.onGrid tie (p - k)).isSome = true) :
    i.contains (i.search tie p steps).exponent (i.search tie p steps).digits = true := by
  induction steps generalizing p k with
  | zero => cases hk
  | succ steps ih =>
      rw [search]
      split
      · rename_i d hd
        exact contains_of_onGrid hd
      · rename_i hnone
        cases k with
        | zero =>
            rw [Int.ofNat_zero, Int.sub_zero, hnone] at h
            cases h
        | succ k =>
            rw [show p - (k + 1 : Nat) = p - 1 - k by omega] at h
            exact ih (by omega) h

/-- Points that stand closer than the ends cannot all lie beside the interval. -/
theorem exists_holds (h : (10 : ℚ) ^ p < (i.high - i.low) * 2 ^ i.scale) :
    ∃ d : Nat, i.Holds (d * 10 ^ p) := by
  have hpow : (0 : ℚ) < 10 ^ p := by positivity
  have hlow : (0 : ℚ) ≤ i.low * 2 ^ i.scale / 10 ^ p := by positivity
  have hle := Nat.floor_le hlow
  have hlt := Nat.lt_floor_add_one (i.low * 2 ^ i.scale / 10 ^ p : ℚ)
  generalize ⌊(i.low * 2 ^ i.scale / 10 ^ p : ℚ)⌋₊ = d at hle hlt
  rw [le_div_iff₀ hpow] at hle
  rw [div_lt_iff₀ hpow] at hlt
  refine ⟨d + 1, holds_of_lt ?_ ?_⟩
  · rwa [Nat.cast_succ]
  · rw [Nat.cast_succ]
    linarith

end Interval

/-! ## Powers of ten and of two -/

theorem ten_pow_le {a n : Nat} (ha : a * 100000 ≤ n * 30103) (hn : n ≤ 1100) :
    10 ^ a ≤ 2 ^ (n + 11) := by
  have hbase : (10 ^ 3) ^ (a / 3) ≤ (2 ^ 10) ^ (a / 3) := Nat.pow_le_pow_left (by decide) _
  calc 10 ^ a
      = (10 ^ 3) ^ (a / 3) * 10 ^ (a % 3) := by rw [← Nat.pow_mul, ← Nat.pow_add, Nat.div_add_mod]
    _ ≤ (2 ^ 10) ^ (a / 3) * (2 ^ 4) ^ (a % 3) :=
        Nat.mul_le_mul hbase (Nat.pow_le_pow_left (by decide) _)
    _ = 2 ^ (10 * (a / 3) + 4 * (a % 3)) := by rw [← Nat.pow_mul, ← Nat.pow_mul, ← Nat.pow_add]
    _ ≤ 2 ^ (n + 11) := Nat.pow_le_pow_right (by decide) (by omega)

theorem two_pow_le {a n : Nat} (ha : n * 30103 ≤ a * 100000) (hn : n ≤ 1100) :
    2 ^ n ≤ 10 ^ a * 2 ^ 14 := by
  have hbase : (2 ^ 23) ^ (a / 7) ≤ (10 ^ 7) ^ (a / 7) := Nat.pow_le_pow_left (by decide) _
  calc 2 ^ n
      ≤ 2 ^ (23 * (a / 7) + 3 * (a % 7) + 14) := Nat.pow_le_pow_right (by decide) (by omega)
    _ = (2 ^ 23) ^ (a / 7) * (2 ^ 3) ^ (a % 7) * 2 ^ 14 := by
        rw [← Nat.pow_mul, ← Nat.pow_mul, ← Nat.pow_add, ← Nat.pow_add]
    _ ≤ (10 ^ 7) ^ (a / 7) * 10 ^ (a % 7) * 2 ^ 14 :=
        Nat.mul_le_mul_right _ (Nat.mul_le_mul hbase (Nat.pow_le_pow_left (by decide) _))
    _ = 10 ^ a * 2 ^ 14 := by rw [← Nat.pow_mul, ← Nat.pow_add, Nat.div_add_mod]

theorem ten_zpow_le {n : Int} (hlow : -1100 ≤ n) (hhigh : n ≤ 1100) :
    (10 : ℚ) ^ (n * 30103 / 100000) ≤ 2 ^ (n + 14) := by
  rcases Int.le_total 0 n with hn | hn
  · obtain ⟨a, ha⟩ : ∃ a : Nat, n * 30103 / 100000 = a := ⟨(n * 30103 / 100000).toNat, by omega⟩
    obtain ⟨m, rfl⟩ := Int.eq_ofNat_of_zero_le hn
    have hnat : 10 ^ a ≤ 2 ^ (m + 14) := by
      have hten : 10 ^ a ≤ 2 ^ (m + 11) := ten_pow_le (by omega) (by omega)
      exact hten.trans (Nat.pow_le_pow_right (by decide) (by omega))
    rw [ha]
    exact_mod_cast hnat
  · obtain ⟨a, ha⟩ : ∃ a : Nat, n * 30103 / 100000 = -a := ⟨(-(n * 30103 / 100000)).toNat, by omega⟩
    obtain ⟨m, rfl⟩ : ∃ m : Nat, n = -m := ⟨(-n).toNat, by omega⟩
    have hnat : 2 ^ m ≤ 10 ^ a * 2 ^ 14 := two_pow_le (by omega) (by omega)
    have hq : (2 : ℚ) ^ m ≤ 10 ^ a * 2 ^ 14 := by exact_mod_cast hnat
    rw [ha, zpow_add₀ two_ne_zero, zpow_neg, zpow_neg, zpow_natCast, zpow_natCast, zpow_ofNat,
      ← div_eq_inv_mul, ← one_div, div_le_div_iff₀ (by positivity) (by positivity)]
    linarith

/-! ## The shortest decimal -/

variable {x : Binary64} {tie : Tie}

theorem Interval.holds_mid (x : Binary64) (hpos : 0 < x.significand) :
    (around x).Holds ((around x).mid * 2 ^ (around x).scale) := by
  have hpow : (0 : ℚ) < 2 ^ (around x).scale := by positivity
  have hlow : ((around x).low : ℚ) < (around x).mid := by
    have hnat : (around x).low < (around x).mid := by
      simp only [around]
      split <;> omega
    exact_mod_cast hnat
  have hhigh : ((around x).mid : ℚ) < (around x).high := by
    have hnat : (around x).mid < (around x).high := by
      simp only [around]
      omega
    exact_mod_cast hnat
  exact holds_of_lt (mul_lt_mul_of_pos_right hlow hpow) (mul_lt_mul_of_pos_right hhigh hpow)

/-- On the last grid that is searched the points stand close enough. -/
theorem Interval.exists_holds_last (hfinite : x.isFinite = true) (hpos : 0 < x.significand) :
    ∃ d : Nat, (around x).Holds (d * 10 ^ ((around x).topExponent - 24)) := by
  refine exists_holds ?_
  have hpow : (0 : ℚ) < 2 ^ (around x).scale := by positivity
  have hhigh : (around x).high.log2 ≤ 54 := by
    have hsmall : (around x).high < 2 ^ 55 := by
      have hsignificand := x.significand_eq
      have hfraction := x.fraction_lt
      simp only [around]
      split at hsignificand <;> omega
    have hlog := (Nat.log2_lt (by simp [around])).mpr hsmall
    omega
  have hscale : -1076 ≤ (around x).scale ∧ (around x).scale ≤ 969 := by
    have hscale := x.scale_eq
    have hexponent := Binary64.exponentField_lt hfinite
    simp only [around]
    omega
  have hwidth : (3 : ℚ) ≤ (around x).high - (around x).low := by
    have hnat : (around x).low + 3 ≤ (around x).high := by
      simp only [around]
      split <;> omega
    have hq : ((around x).low + 3 : ℚ) ≤ (around x).high := by exact_mod_cast hnat
    linarith
  have hten := ten_zpow_le (n := (around x).high.log2 + 1 + (around x).scale) (by omega) (by omega)
  have htwo : (2 : ℚ) ^ ((around x).high.log2 + 1 + (around x).scale + 14)
      ≤ 2 ^ ((around x).scale + 69) := zpow_le_zpow_right₀ one_le_two (by omega)
  have hslack : (2 : ℚ) ^ (69 : Int) * 10 ^ (-23 : Int) < 3 := by norm_num
  calc (10 : ℚ) ^ ((around x).topExponent - 24)
      = 10 ^ (((around x).high.log2 + 1 + (around x).scale) * 30103 / 100000)
          * 10 ^ (-23 : Int) := by
        rw [← zpow_add₀ (by norm_num), topExponent]
        congr 1
        omega
    _ ≤ 2 ^ ((around x).scale + 69) * 10 ^ (-23 : Int) := by
        gcongr
        exact hten.trans htwo
    _ = 2 ^ (69 : Int) * 10 ^ (-23 : Int) * 2 ^ (around x).scale := by
        rw [zpow_add₀ two_ne_zero, mul_comm ((2 : ℚ) ^ (around x).scale), mul_right_comm]
    _ < 3 * 2 ^ (around x).scale := by gcongr
    _ ≤ ((around x).high - (around x).low) * 2 ^ (around x).scale := by gcongr

/-- The decimal that is found lies in the interval. -/
theorem holds_shortest (hfinite : x.isFinite = true) (hpos : 0 < x.significand) :
    (Interval.around x).Holds
      ((shortest tie x).digits * 10 ^ (shortest tie x).exponent) := by
  obtain ⟨d, hd⟩ := Interval.exists_holds_last hfinite hpos
  have hsome : ((Interval.around x).onGrid tie ((Interval.around x).topExponent - 24)).isSome =
      true := Interval.onGrid_isSome (Interval.holds_mid x hpos) hd
  have hzero : x.isZero = false := Binary64.isZero_eq_false_iff.mpr hpos
  rw [← Interval.contains_iff, shortest, hzero]
  exact Interval.contains_search (k := 24) (by decide) hsome

end IndexerSettings.Decimal
