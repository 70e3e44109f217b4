import Mathlib.Algebra.Order.Ring.Nat
import IndexerSettings.Json.Basic

/-!
# Numbers that are finite

Rounding makes a number infinite only from `2 ^ 1023` on, and a whole number of
64 bits is far below that.  So every number of JSON, whole or not, is finite as a
floating-point number (`Json.Number.isFinite_toBinary64`).
-/

namespace IndexerSettings

namespace Decimal.Binary64

variable {num den magnitude : Nat} {negative : Bool}

/-- The magnitudes below that of infinity are those of finite numbers. -/
theorem isFinite_pack (h : magnitude < infiniteMagnitude) :
    (pack negative magnitude).isFinite = true := by
  have hinf : infiniteMagnitude = 0x7ff * 2 ^ 52 := rfl
  have hword : (pack negative magnitude).word = (if negative then 2 ^ 63 else 0) + magnitude := by
    show (UInt64.ofNat _).toNat = _
    rw [UInt64.toNat_ofNat', Nat.shiftLeft_eq, Nat.one_mul]
    split <;> omega
  rw [isFinite, exponentField, hword, Nat.shiftRight_eq_div_pow, bne_iff_ne]
  split <;> omega

theorem roundHalfEven_le (num den : Nat) : roundHalfEven num den ≤ num / den + 1 := by
  simp only [roundHalfEven]
  split
  · omega
  · split <;> omega

theorem floorLog2_one (h : num ≠ 0) : floorLog2 num 1 = num.log2 := by
  have hle : 2 ^ num.log2 ≤ num := Nat.log2_self_le h
  have hone : Nat.log2 1 = 0 := by decide
  simp [floorLog2, hone, Nat.shiftLeft_eq, hle]

/-- At the scale that rounding takes, a number has no more than 53 bits. -/
theorem shiftLeft_div_lt {scale : Int} (h : (num.log2 : Int) - 52 ≤ scale) :
    (num <<< (-scale).toNat) / (1 <<< scale.toNat) < 2 ^ 53 := by
  have hlt : num < 2 ^ (num.log2 + 1) := Nat.lt_log2_self
  rw [Nat.div_lt_iff_lt_mul (by simp), Nat.shiftLeft_eq, Nat.shiftLeft_eq, Nat.one_mul,
    ← Nat.pow_add]
  calc num * 2 ^ (-scale).toNat
      < 2 ^ (num.log2 + 1) * 2 ^ (-scale).toNat :=
        Nat.mul_lt_mul_of_pos_right hlt (Nat.two_pow_pos _)
    _ = 2 ^ (num.log2 + 1 + (-scale).toNat) := (Nat.pow_add ..).symm
    _ ≤ 2 ^ (53 + scale.toNat) := Nat.pow_le_pow_right (by decide) (by omega)

theorem magnitudeOfRatio_one_lt (h : num ≠ 0) (hlog : num.log2 < 1023) :
    magnitudeOfRatio num 1 < infiniteMagnitude := by
  have hinf : infiniteMagnitude = 0x7ff * 2 ^ 52 := rfl
  rw [magnitudeOfRatio, floorLog2_one h]
  generalize hscale : max ((num.log2 : Int) - 52) (-1074) = scale
  have hround := roundHalfEven_le (num <<< (-scale).toNat) (1 <<< scale.toNat)
  have hquotient : (num <<< (-scale).toNat) / (1 <<< scale.toNat) < 2 ^ 53 :=
    shiftLeft_div_lt (by omega)
  have hexponent : (scale + 1074).toNat ≤ 2044 := by omega
  simp only [Nat.shiftLeft_eq (scale + 1074).toNat]
  omega

theorem isFinite_ofInt {n : Int} (h : n.natAbs.log2 < 1023) : (ofInt n).isFinite = true := by
  refine isFinite_pack ?_
  split
  · decide
  · rename_i hne
    exact magnitudeOfRatio_one_lt hne h

end Decimal.Binary64

/-- A number of JSON is finite. -/
theorem Json.Number.isFinite_toBinary64 (n : Json.Number) : n.toBinary64.isFinite = true := by
  cases n with
  | integer n hn =>
      refine Decimal.Binary64.isFinite_ofInt ?_
      by_cases hzero : n.natAbs = 0
      · simp [hzero]
      · have hlog : n.natAbs.log2 < 64 := (Nat.log2_lt hzero).mpr (by omega)
        omega
  | real x hx => exact hx

end IndexerSettings
