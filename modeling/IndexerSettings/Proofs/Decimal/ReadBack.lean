import IndexerSettings.Proofs.Decimal.Notation
import IndexerSettings.Proofs.Decimal.Search

/-!
# Floating-point numbers read back

What is written of a finite number reads as that number, in whatever layout it is
written (`Layout.ofText?_text`).  The reader rounds the value of the text, which is that
of the shortest decimal, and this one lies among the reals that round to the number.
-/

namespace IndexerSettings.Decimal

variable {x : Binary64} {digits : Nat} {exponent : Int} {tie : Tie} {t : Scaled}

/-- As many digits as there are stand for a power of ten. -/
theorem pow_length (h : 0 < digits) :
    10 ^ (length digits - 1) ≤ digits ∧ digits < 10 ^ length digits := by
  have hpos : 0 < length digits := Nat.length_toDigits_pos
  have hlt : ∀ k, 0 < k → (length digits ≤ k ↔ digits < 10 ^ k) :=
    fun k hk => Nat.length_toDigits_le_iff (by decide) hk
  refine ⟨?_, (hlt _ hpos).mp (Nat.le_refl _)⟩
  by_cases hone : length digits - 1 = 0
  · rw [hone]
    omega
  · rw [← Nat.not_lt, ← hlt _ (by omega)]
    omega

theorem two_zpow_lt : (2 : ℚ) ^ (1075 : Int) < 10 ^ (400 : Int) := by
  have hnat : 2 ^ 1075 < 10 ^ 400 := by decide +kernel
  rw [zpow_ofNat, zpow_ofNat]
  exact_mod_cast hnat

namespace Binary64

/-- No number is as large or as small as a decimal that is not looked at. -/
theorem top_of_holds (hfinite : x.isFinite = true) (hpos : 0 < x.significand)
    (hdigits : 0 < digits) (h : (Interval.around x).Holds (digits * 10 ^ exponent)) :
    -400 ≤ exponent + length digits ∧ exponent + length digits ≤ 400 := by
  have hscale := x.scale_eq
  have hexponent := exponentField_lt hfinite
  have hten : (1 : ℚ) < 10 := by norm_num
  obtain ⟨hle, hlt⟩ := pow_length hdigits
  have hlength : 0 < length digits := Nat.length_toDigits_pos
  have hleq : (10 : ℚ) ^ ((length digits : Int) - 1) ≤ digits := by
    rw [show (length digits : Int) - 1 = (length digits - 1 : Nat) by omega, zpow_natCast]
    exact_mod_cast hle
  have hltq : (digits : ℚ) < 10 ^ (length digits : Int) := by
    rw [zpow_natCast]
    exact_mod_cast hlt
  have hpow : (0 : ℚ) < 10 ^ exponent := by positivity
  constructor
  · have hbelow : (10 : ℚ) ^ (-400 : Int) < 10 ^ (exponent + length digits) :=
      calc (10 : ℚ) ^ (-400 : Int)
          < 2 ^ (-1075 : Int) := by
            rw [zpow_neg, zpow_neg]
            exact inv_strictAnti₀ (zpow_pos two_pos _) two_zpow_lt
        _ ≤ 2 ^ (x.scale - 1) := zpow_le_zpow_right₀ one_le_two (by omega)
        _ ≤ digits * 10 ^ exponent := zpow_le_of_holds hpos h
        _ ≤ 10 ^ (length digits : Int) * 10 ^ exponent := by gcongr
        _ = 10 ^ (exponent + length digits) := by
            rw [← zpow_add₀ (by norm_num), Int.add_comm]
    have hlt := (zpow_lt_zpow_iff_right₀ hten).mp hbelow
    omega
  · have habove : (10 : ℚ) ^ (exponent + length digits - 1) < 10 ^ (400 : Int) :=
      calc (10 : ℚ) ^ (exponent + length digits - 1)
          = 10 ^ ((length digits : Int) - 1) * 10 ^ exponent := by
            rw [← zpow_add₀ (by norm_num)]
            congr 1
            omega
        _ ≤ digits * 10 ^ exponent := by gcongr
        _ < 2 ^ (x.scale + 53) := lt_zpow_of_holds h
        _ ≤ 2 ^ (1075 : Int) := zpow_le_zpow_right₀ one_le_two (by omega)
        _ < 10 ^ (400 : Int) := two_zpow_lt
    have hlt := (zpow_lt_zpow_iff_right₀ hten).mp habove
    omega

theorem ofDecimal_of_holds (hfinite : x.isFinite = true) (hpos : 0 < x.significand)
    (h : (Interval.around x).Holds (digits * 10 ^ exponent)) :
    ofDecimal x.negative digits exponent = x := by
  have hratio : (digits : ℚ) * 10 ^ exponent
      = (digits * tenTo exponent.toNat : Nat) / (tenTo (-exponent).toNat : Nat) := by
    rw [zpow_eq_div (by norm_num), tenTo, tenTo, Nat.pow_eq, Nat.pow_eq]
    push_cast
    rw [mul_div_assoc]
  have hdigits : 0 < digits := by
    have hq : (0 : ℚ) < digits * 10 ^ exponent :=
      lt_of_lt_of_le (by positivity) (zpow_le_of_holds hpos h)
    have hdigits : (0 : ℚ) < digits := pos_of_mul_pos_left hq (by positivity)
    exact_mod_cast hdigits
  obtain ⟨hlow, hhigh⟩ := top_of_holds hfinite hpos hdigits h
  rw [hratio] at h
  have hden : 0 < tenTo (-exponent).toNat := Nat.pow_pos (by decide)
  have hinside : ¬(digits = 0 ∨ exponent + length digits < -400) := by omega
  have hnottop : ¬400 < exponent + length digits := by omega
  rw [ofDecimal, if_neg hinside, if_neg hnottop, ofRatio_of_holds hfinite hden hpos h]

/-- The value of a decimal is all that counts. -/
theorem ofDecimal_of_value (hfinite : x.isFinite = true) (h : t.value = (shortest tie x).value) :
    ofDecimal x.negative t.digits t.exponent = x := by
  cases hzero : x.isZero with
  | false =>
      have hpos := isZero_eq_false_iff.mp hzero
      refine ofDecimal_of_holds hfinite hpos ?_
      have hholds : (Interval.around x).Holds (shortest tie x).value := holds_shortest hfinite hpos
      rw [← h] at hholds
      exact hholds
  | true =>
      have hvalue : t.value = 0 := by
        rw [h, shortest, hzero, Scaled.value]
        simp
      have hdigits : t.digits = 0 := by
        have hpow : (10 : ℚ) ^ t.exponent ≠ 0 := by positivity
        exact_mod_cast (mul_eq_zero.mp hvalue).resolve_right hpow
      rw [isZero, Bool.and_eq_true, beq_iff_eq, beq_iff_eq] at hzero
      have hpack := x.pack_magnitude
      rw [hzero.1, hzero.2] at hpack
      rw [ofDecimal, if_pos (.inl hdigits)]
      exact hpack

end Binary64

/-- What is written of a finite number reads as that number. -/
theorem Layout.ofText?_text (layout : Layout) (hfinite : x.isFinite = true) :
    Binary64.ofText? (layout.text x).toList = some x := by
  obtain ⟨body, t, hchars, hwrites, hvalue⟩ := layout.exists_writes_text hfinite
  rw [hchars, hwrites.ofText?_eq, Binary64.ofDecimal_of_value hfinite hvalue]

theorem Layout.trimChars_text (layout : Layout) (hfinite : x.isFinite = true) :
    Text.trimChars (layout.text x).toList = (layout.text x).toList := by
  obtain ⟨body, t, hchars, hwrites, -⟩ := layout.exists_writes_text hfinite
  have hbody := hwrites.isBlank_eq_false
  refine Text.trimChars_of_forall ?_
  rw [hchars]
  cases x.negative with
  | true => exact List.forall_mem_cons.mpr ⟨by decide, hbody⟩
  | false => exact hbody

end IndexerSettings.Decimal
