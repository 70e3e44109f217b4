import Mathlib.Algebra.Order.Field.Power
import Mathlib.Data.Rat.Cast.Order
import Mathlib.Tactic.Linarith
import Mathlib.Tactic.Positivity
import IndexerSettings.Decimal.Shortest

/-!
# What is rounded to a number

`Interval.around` says in whole numbers which reals are nearest to a floating-point
number.  Here they are ratios (`Interval.Holds`), and rounding takes every ratio of the
interval to that number (`Binary64.ofRatio_of_holds`), from however large a numerator
and denominator.  The one case apart is that of a power of two: below it the numbers
stand closer, so what is rounded up to it is scaled by another power.
-/

namespace IndexerSettings.Decimal

/-! ## Powers with whole exponents -/

theorem zpow_eq_div {b : ℚ} (hb : b ≠ 0) (t : Int) : b ^ t = b ^ t.toNat / b ^ (-t).toNat := by
  rw [eq_div_iff (pow_ne_zero _ hb), ← zpow_natCast, ← zpow_natCast, ← zpow_add₀ hb]
  congr 1
  omega

theorem cast_shiftLeft_div (num den : Nat) (t : Int) :
    ((num <<< (-t).toNat : Nat) : ℚ) / (den <<< t.toNat : Nat) = num / den / 2 ^ t := by
  rw [zpow_eq_div two_ne_zero, Nat.shiftLeft_eq, Nat.shiftLeft_eq]
  push_cast
  rw [div_div_div_eq]

/-- A ratio lies in the interval. -/
def Interval.Holds (i : Interval) (q : ℚ) : Prop :=
  if i.closed then i.low * 2 ^ i.scale ≤ q ∧ q ≤ i.high * 2 ^ i.scale
  else i.low * 2 ^ i.scale < q ∧ q < i.high * 2 ^ i.scale

namespace Binary64

/-! ## The steps of rounding -/

section Steps

variable {num den : Nat}

/-- The logarithms leave two powers to choose from. -/
theorem floorLog2_spec (hnum : 0 < num) (hden : 0 < den) :
    (2 : ℚ) ^ floorLog2 num den ≤ num / den ∧ (num / den : ℚ) < 2 ^ (floorLog2 num den + 1) := by
  have hdenq : (0 : ℚ) < den := by exact_mod_cast hden
  have hnum_le : (2 : ℚ) ^ num.log2 ≤ num := by exact_mod_cast Nat.log2_self_le hnum.ne'
  have hnum_lt : (num : ℚ) < 2 ^ (num.log2 + 1) := by exact_mod_cast Nat.lt_log2_self
  have hden_le : (2 : ℚ) ^ den.log2 ≤ den := by exact_mod_cast Nat.log2_self_le hden.ne'
  have hden_lt : (den : ℚ) < 2 ^ (den.log2 + 1) := by exact_mod_cast Nat.lt_log2_self
  set k : Int := (num.log2 : Int) - den.log2 with hk
  have hbelow : (2 : ℚ) ^ (k - 1) ≤ num / den := by
    rw [le_div_iff₀ hdenq]
    calc (2 : ℚ) ^ (k - 1) * den
        ≤ 2 ^ (k - 1) * 2 ^ (den.log2 + 1) := by gcongr
      _ = 2 ^ num.log2 := by
          rw [← zpow_natCast, ← zpow_natCast, ← zpow_add₀ two_ne_zero]
          congr 1
          omega
      _ ≤ num := hnum_le
  have habove : (num / den : ℚ) < 2 ^ (k + 1) := by
    rw [div_lt_iff₀ hdenq]
    calc (num : ℚ)
        < 2 ^ (num.log2 + 1) := hnum_lt
      _ = 2 ^ (k + 1) * 2 ^ den.log2 := by
          rw [← zpow_natCast, ← zpow_natCast, ← zpow_add₀ two_ne_zero]
          congr 1
          omega
      _ ≤ 2 ^ (k + 1) * den := by gcongr
  have hcompare : den <<< k.toNat ≤ num <<< (-k).toNat ↔ (2 : ℚ) ^ k ≤ num / den := by
    have hshifted : (0 : ℚ) < (den <<< k.toNat : Nat) := by
      rw [Nat.shiftLeft_eq]
      positivity
    rw [← Nat.cast_le (α := ℚ), ← one_le_div hshifted, cast_shiftLeft_div,
      one_le_div (by positivity)]
  rw [floorLog2]
  split
  · rename_i h
    exact ⟨hcompare.mp h, habove⟩
  · rename_i h
    rw [hcompare, not_le] at h
    exact ⟨hbelow, by rwa [Int.sub_add_cancel]⟩

/-- A whole number is nearest to what is within a half of it, the half itself
included if the number is even. -/
theorem roundHalfEven_eq (hden : 0 < den) {r : Nat}
    (hlow : (r : ℚ) - 1 / 2 ≤ num / den) (hhigh : (num / den : ℚ) ≤ r + 1 / 2)
    (htie : r % 2 = 1 → (r : ℚ) - 1 / 2 < num / den ∧ (num / den : ℚ) < r + 1 / 2) :
    roundHalfEven num den = r := by
  have hdenq : (0 : ℚ) < den := by exact_mod_cast hden
  rw [le_div_iff₀ hdenq] at hlow
  rw [div_le_iff₀ hdenq] at hhigh
  rw [lt_div_iff₀ hdenq, div_lt_iff₀ hdenq] at htie
  have hlow' : 2 * (r * den) ≤ 2 * num + den := by
    have h : (2 * (r * den) : ℚ) ≤ 2 * num + den := by linarith
    exact_mod_cast h
  have hhigh' : 2 * num ≤ 2 * (r * den) + den := by
    have h : (2 * num : ℚ) ≤ 2 * (r * den) + den := by linarith
    exact_mod_cast h
  have htie' : r % 2 = 1 → 2 * (r * den) < 2 * num + den ∧ 2 * num < 2 * (r * den) + den := by
    intro hodd
    obtain ⟨h₁, h₂⟩ := htie hodd
    have h₁ : (2 * (r * den) : ℚ) < 2 * num + den := by linarith
    have h₂ : (2 * num : ℚ) < 2 * (r * den) + den := by linarith
    exact ⟨by exact_mod_cast h₁, by exact_mod_cast h₂⟩
  have hdiv : num / den * den + num % den = num := Nat.div_add_mod' num den
  have hmod := Nat.mod_lt num hden
  simp only [roundHalfEven]
  generalize num / den = quotient at hdiv ⊢
  generalize num % den = rest at hdiv hmod ⊢
  have hge : quotient ≤ r := by
    by_contra hlt
    have hmul : (r + 1) * den ≤ quotient * den := Nat.mul_le_mul_right _ (by omega)
    rw [Nat.add_mul] at hmul
    omega
  have hle : r ≤ quotient + 1 := by
    by_contra hlt
    have hmul : (quotient + 2) * den ≤ r * den := Nat.mul_le_mul_right _ (by omega)
    rw [Nat.add_mul] at hmul
    omega
  obtain rfl | rfl : r = quotient ∨ r = quotient + 1 := by omega
  · split
    · rfl
    · split <;> omega
  · rw [Nat.add_mul] at hlow' hhigh' htie'
    split
    · omega
    · split <;> omega

/-- What is rounded at some scale: the ratio has no more bits than fit there, and as
many as fit unless the scale is the least. -/
theorem magnitudeOfRatio_eq (hnum : 0 < num) (hden : 0 < den) {t : Int} {r : Nat}
    (hleast : -1074 ≤ t) (hlt : (num / den : ℚ) < 2 ^ (t + 53))
    (hge : t = -1074 ∨ (2 : ℚ) ^ (t + 52) ≤ num / den)
    (hlow : ((r : ℚ) - 1 / 2) * 2 ^ t ≤ num / den) (hhigh : (num / den : ℚ) ≤ (r + 1 / 2) * 2 ^ t)
    (htie : r % 2 = 1 →
      ((r : ℚ) - 1 / 2) * 2 ^ t < num / den ∧ (num / den : ℚ) < (r + 1 / 2) * 2 ^ t)
    (hfinite : (t + 1074).toNat * 2 ^ 52 + r < infiniteMagnitude) :
    magnitudeOfRatio num den = (t + 1074).toNat * 2 ^ 52 + r := by
  obtain ⟨hlog_le, hlog_lt⟩ := floorLog2_spec hnum hden
  have habove := (zpow_lt_zpow_iff_right₀ one_lt_two).mp (hlog_le.trans_lt hlt)
  have hscale : max (floorLog2 num den - 52) (-1074) = t := by
    rcases hge with rfl | hge
    · omega
    · have hbelow := (zpow_lt_zpow_iff_right₀ one_lt_two).mp (hge.trans_lt hlog_lt)
      omega
  have hpow : (0 : ℚ) < 2 ^ t := by positivity
  have hround : roundHalfEven (num <<< (-t).toNat) (den <<< t.toNat) = r := by
    refine roundHalfEven_eq (by rw [Nat.shiftLeft_eq]; positivity) ?_ ?_ fun hodd => ?_
    · rwa [cast_shiftLeft_div, le_div_iff₀ hpow]
    · rwa [cast_shiftLeft_div, div_le_iff₀ hpow]
    · rw [cast_shiftLeft_div, lt_div_iff₀ hpow, div_lt_iff₀ hpow]
      exact htie hodd
  rw [magnitudeOfRatio, hscale, hround, Nat.shiftLeft_eq, Nat.min_eq_left hfinite.le]

end Steps

/-! ## The parts of a finite number -/

variable {x : Binary64} {q : ℚ} {num den : Nat}

theorem fraction_lt (x : Binary64) : x.fraction < 2 ^ 52 := Nat.mod_lt _ (by decide)

theorem exponentField_lt (h : x.isFinite = true) : x.exponentField < 2047 := by
  have hlt : x.exponentField < 2048 := Nat.mod_lt _ (by decide)
  have hne : x.exponentField ≠ 2047 := by simpa [isFinite] using h
  omega

theorem significand_eq (x : Binary64) :
    x.significand = (if x.exponentField = 0 then 0 else 2 ^ 52) + x.fraction := by
  rw [significand]
  split <;> omega

theorem isZero_eq_false_iff : x.isZero = false ↔ 0 < x.significand := by
  rw [significand_eq, isZero, Bool.and_eq_false_iff, beq_eq_false_iff_ne, beq_eq_false_iff_ne]
  split <;> omega

theorem scale_eq (x : Binary64) :
    (x.exponentField ≤ 1 ∧ x.scale = -1074)
      ∨ (1 < x.exponentField ∧ x.scale = x.exponentField - 1075) := by
  rw [scale]
  omega

/-- The parts make up the word. -/
theorem pack_magnitude (x : Binary64) :
    pack x.negative (x.exponentField * 2 ^ 52 + x.fraction) = x := by
  obtain ⟨bits⟩ := x
  have hlt := bits.toNat_lt
  have hsign : (if (mk bits).negative then 1 <<< 63 else 0) = bits.toNat / 2 ^ 63 * 2 ^ 63 := by
    rw [negative, Nat.testBit_eq_decide_div_mod_eq, word]
    rcases Nat.mod_two_eq_zero_or_one (bits.toNat / 2 ^ 63) with h | h
    · rw [h, if_neg (by decide)]
      omega
    · rw [h, if_pos (by decide), Nat.shiftLeft_eq]
      omega
  have hword : bits.toNat / 2 ^ 63 * 2 ^ 63
      + (bits.toNat / 2 ^ 52 % 0x800 * 2 ^ 52 + bits.toNat % 0x10000000000000) = bits.toNat := by
    omega
  rw [pack, hsign, exponentField, fraction, Nat.shiftRight_eq_div_pow, word, hword,
    UInt64.ofNat_toNat]

/-! ## Ratios in the interval of a number -/

/-- The ends of the interval, from the significand. -/
theorem bounds_of_holds (h : (Interval.around x).Holds q) :
    ((x.significand : ℚ) - 1 / 2) * 2 ^ x.scale ≤ q ∧ q ≤ (x.significand + 1 / 2) * 2 ^ x.scale
    ∧ (x.significand % 2 = 1 →
      ((x.significand : ℚ) - 1 / 2) * 2 ^ x.scale < q ∧ q < (x.significand + 1 / 2) * 2 ^ x.scale)
    ∧ (x.fraction = 0 → 1 < x.exponentField → ((x.significand : ℚ) - 1 / 4) * 2 ^ x.scale ≤ q) := by
  have hunit : (2 : ℚ) ^ (Interval.around x).scale = 2 ^ x.scale / 4 := by
    rw [Interval.around, zpow_sub₀ two_ne_zero]
    norm_num
  have hpow : (0 : ℚ) < 2 ^ x.scale := by positivity
  have hhigh : ((Interval.around x).high : ℚ) = 4 * x.significand + 2 := by
    simp [Interval.around]
  have hlow : (4 * x.significand : ℚ) ≤ (Interval.around x).low + 2 := by
    have hnat : 4 * x.significand ≤ (Interval.around x).low + 2 := by
      simp only [Interval.around]
      split <;> omega
    exact_mod_cast hnat
  have hlow' : x.fraction = 0 → 1 < x.exponentField →
      (4 * x.significand : ℚ) ≤ (Interval.around x).low + 1 := by
    intro hfraction hexponent
    have hnat : 4 * x.significand ≤ (Interval.around x).low + 1 := by
      simp only [Interval.around, hfraction, hexponent, and_self, if_true]
      omega
    exact_mod_cast hnat
  have hclosed : (Interval.around x).closed = true ↔ x.significand % 2 = 0 := by
    simp [Interval.around]
  rw [Interval.Holds, hunit, hhigh] at h
  generalize ((Interval.around x).low : ℚ) = low at h hlow hlow'
  generalize (2 : ℚ) ^ x.scale = u at h hpow ⊢
  have hle : low * (u / 4) ≤ q ∧ q ≤ (4 * x.significand + 2) * (u / 4) := by
    split at h
    · exact h
    · exact ⟨h.1.le, h.2.le⟩
  refine ⟨?_, ?_, fun hodd => ?_, fun hfraction hexponent => ?_⟩
  · nlinarith [hle.1]
  · linarith [hle.2]
  · rw [if_neg (by rw [hclosed]; omega)] at h
    exact ⟨by nlinarith [h.1], by linarith [h.2]⟩
  · nlinarith [hle.1, hlow' hfraction hexponent]

theorem zpow_le_of_holds (hpos : 0 < x.significand) (h : (Interval.around x).Holds q) :
    2 ^ (x.scale - 1) ≤ q := by
  have hlow := (bounds_of_holds h).1
  have hposq : (1 : ℚ) ≤ x.significand := by exact_mod_cast hpos
  have hpow : (0 : ℚ) < 2 ^ x.scale := by positivity
  rw [zpow_sub_one₀ two_ne_zero]
  nlinarith

theorem lt_zpow_of_holds (h : (Interval.around x).Holds q) : q < 2 ^ (x.scale + 53) := by
  have hhigh := (bounds_of_holds h).2.1
  have hpow : (0 : ℚ) < 2 ^ x.scale := by positivity
  have hsmall : (x.significand : ℚ) + 1 ≤ 2 ^ 53 := by
    have hnat : x.significand + 1 ≤ 2 ^ 53 := by
      have hsignificand := x.significand_eq
      have hfraction := x.fraction_lt
      split at hsignificand <;> omega
    exact_mod_cast hnat
  rw [zpow_add₀ two_ne_zero, zpow_ofNat]
  nlinarith

theorem num_pos_of_holds (hpos : 0 < x.significand)
    (h : (Interval.around x).Holds (num / den)) : 0 < num := by
  have hq : (0 : ℚ) < num / den := lt_of_lt_of_le (by positivity) (zpow_le_of_holds hpos h)
  by_contra hzero
  obtain rfl : num = 0 := by omega
  simp at hq

/-- Only an interval around a power of two reaches below that power. -/
theorem fraction_eq_zero_of_lt (h : (Interval.around x).Holds q) (hnormal : 1 < x.exponentField)
    (hlt : q < 2 ^ (x.scale + 52)) : x.fraction = 0 := by
  have hpow : (0 : ℚ) < 2 ^ x.scale := by positivity
  have hlow := (bounds_of_holds h).1
  rw [zpow_add₀ two_ne_zero, zpow_ofNat, mul_comm ((2 : ℚ) ^ x.scale)] at hlt
  have hq := lt_of_mul_lt_mul_right (hlow.trans_lt hlt) hpow.le
  have hsmall : x.significand < 2 ^ 52 + 1 := by
    have hq : (x.significand : ℚ) < 2 ^ 52 + 1 := by linarith
    exact_mod_cast hq
  have hsignificand := x.significand_eq
  split at hsignificand <;> omega

/-- What is rounded up to a power of two has one bit more than that power. -/
theorem magnitudeOfRatio_of_lt (hfinite : x.isFinite = true) (hden : 0 < den)
    (hpos : 0 < x.significand) (h : (Interval.around x).Holds (num / den))
    (hnormal : 1 < x.exponentField) (hlt : (num / den : ℚ) < 2 ^ (x.scale + 52)) :
    magnitudeOfRatio num den = x.exponentField * 2 ^ 52 + x.fraction := by
  have hzero := fraction_eq_zero_of_lt h hnormal hlt
  have hsignificand : x.significand = 2 ^ 52 := by
    rw [significand_eq, hzero, if_neg (by omega), Nat.add_zero]
  have hpow : (0 : ℚ) < 2 ^ x.scale := by positivity
  have hexponent := exponentField_lt hfinite
  have hinf : infiniteMagnitude = 2047 * 2 ^ 52 := rfl
  have hscale := x.scale_eq
  have hhalf : (2 : ℚ) ^ (x.scale - 1) = 2 ^ x.scale / 2 := by
    rw [zpow_sub_one₀ two_ne_zero, div_eq_mul_inv]
  have hquarter := (bounds_of_holds h).2.2.2 hzero hnormal
  rw [hsignificand, Nat.cast_pow, Nat.cast_ofNat] at hquarter
  have hltq := hlt
  rw [zpow_add₀ two_ne_zero, zpow_ofNat] at hltq
  have hround := magnitudeOfRatio_eq (num_pos_of_holds hpos h) hden (t := x.scale - 1)
    (r := 2 ^ 53) (by omega) ?_ (.inr ?_) ?_ ?_ (by omega) (by omega)
  · rw [hround]
    omega
  · rw [show x.scale - 1 + 53 = x.scale + 52 by omega]
    exact hlt
  · rw [show x.scale - 1 + 52 = x.scale + 51 by omega, zpow_add₀ two_ne_zero, zpow_ofNat]
    linarith
  · rw [hhalf, Nat.cast_pow, Nat.cast_ofNat]
    linarith
  · rw [hhalf, Nat.cast_pow, Nat.cast_ofNat]
    linarith

/-- All that lies in the interval of a number is rounded to it. -/
theorem magnitudeOfRatio_of_holds (hfinite : x.isFinite = true) (hden : 0 < den)
    (hpos : 0 < x.significand) (h : (Interval.around x).Holds (num / den)) :
    magnitudeOfRatio num den = x.exponentField * 2 ^ 52 + x.fraction := by
  by_cases hbelow : 1 < x.exponentField ∧ (num / den : ℚ) < 2 ^ (x.scale + 52)
  · exact magnitudeOfRatio_of_lt hfinite hden hpos h hbelow.1 hbelow.2
  · obtain ⟨hlow, hhigh, htie, -⟩ := bounds_of_holds h
    have hfraction := x.fraction_lt
    have hexponent := exponentField_lt hfinite
    have hinf : infiniteMagnitude = 2047 * 2 ^ 52 := rfl
    have hsignificand := x.significand_eq
    have hscale := x.scale_eq
    have hround := magnitudeOfRatio_eq (num_pos_of_holds hpos h) hden (by omega)
      (lt_zpow_of_holds h) ?_ hlow hhigh htie ?_
    · rw [hround]
      split at hsignificand <;> omega
    · rcases hscale with ⟨-, hscale⟩ | ⟨hnormal, -⟩
      · exact .inl hscale
      · exact .inr (not_lt.mp fun hlt => hbelow ⟨hnormal, hlt⟩)
    · split at hsignificand <;> omega

theorem ofRatio_of_holds (hfinite : x.isFinite = true) (hden : 0 < den)
    (hpos : 0 < x.significand) (h : (Interval.around x).Holds (num / den)) :
    ofRatio x.negative num den = x := by
  have hnum := num_pos_of_holds hpos h
  rw [ofRatio, if_neg hnum.ne', magnitudeOfRatio_of_holds hfinite hden hpos h, pack_magnitude]

end Binary64

end IndexerSettings.Decimal
