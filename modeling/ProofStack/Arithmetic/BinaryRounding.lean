import Mathlib.Algebra.Order.Round
import Mathlib.Data.Int.Log
import Mathlib.Data.Rat.Floor

/-!
This module contains the rounding of a rational to the nearest binary fraction with 53 significant bits.
-/

namespace ProofStack
namespace Arithmetic

def roundHalfEven (q : ℚ) : ℤ :=
  if Int.fract q < 1 / 2 then ⌊q⌋
  else if 1 / 2 < Int.fract q then ⌊q⌋ + 1
  else if Even ⌊q⌋ then ⌊q⌋
  else ⌊q⌋ + 1

theorem roundHalfEven_intCast (n : ℤ) : roundHalfEven n = n := by
  rw [roundHalfEven, Int.fract_intCast, Int.floor_intCast, if_pos (by norm_num)]

theorem floor_le_roundHalfEven (q : ℚ) : ⌊q⌋ ≤ roundHalfEven q := by
  unfold roundHalfEven
  split
  . exact le_rfl
  . split
    . omega
    . split <;> omega

def lastExponent (q : ℚ) : ℤ :=
  max (Int.log 2 q - 52) (-1074)

def nearestBinary (q : ℚ) : ℚ :=
  roundHalfEven (q / 2 ^ lastExponent q) * 2 ^ lastExponent q

theorem log_natCast_le {n : Nat} (h : n < 2 ^ 53) : Int.log 2 (n : ℚ) ≤ 52 := by
  rw [Int.log_natCast]
  have hlog : Nat.log 2 n < 53 := Nat.log_lt_of_lt_pow' (by decide) h
  omega

theorem nearestBinary_natCast {n : Nat} (h : n < 2 ^ 53) : nearestBinary n = n := by
  have hlast : lastExponent n ≤ 0 := by
    unfold lastExponent
    have hlog := log_natCast_le h
    omega
  obtain ⟨k, hk⟩ := Int.eq_ofNat_of_zero_le (show 0 ≤ -lastExponent n by omega)
  have hscaled : (n : ℚ) / 2 ^ lastExponent n = ((n * 2 ^ k : ℤ) : ℚ) := by
    rw [div_eq_mul_inv, ← zpow_neg, hk]
    push_cast
    rfl
  rw [nearestBinary, hscaled, roundHalfEven_intCast, ← hscaled]
  exact div_mul_cancel₀ _ (zpow_ne_zero _ (by norm_num))

theorem two_pow_le_nearestBinary {q : ℚ} (h : 2 ^ 53 ≤ q) : 2 ^ 53 ≤ nearestBinary q := by
  have hpos : 0 < q := lt_of_lt_of_le (by norm_num) h
  have hlog : 53 ≤ Int.log 2 q := by
    rw [← Int.zpow_le_iff_le_log (by decide) hpos]
    exact_mod_cast h
  have hlast : lastExponent q = Int.log 2 q - 52 := by
    unfold lastExponent
    omega
  have hunit : (0 : ℚ) < 2 ^ lastExponent q := zpow_pos (by norm_num) _
  have hscaled : ((2 ^ 52 : ℤ) : ℚ) ≤ q / 2 ^ lastExponent q := by
    rw [le_div_iff₀ hunit, hlast]
    have hself := Int.zpow_log_le_self (b := 2) (by decide) hpos
    calc ((2 ^ 52 : ℤ) : ℚ) * 2 ^ (Int.log 2 q - 52)
        = 2 ^ (52 : ℤ) * 2 ^ (Int.log 2 q - 52) := by norm_num
      _ = 2 ^ Int.log 2 q := by
          rw [← zpow_add₀ (by norm_num)]
          congr 1
          omega
      _ ≤ q := by exact_mod_cast hself
  have hrounded : (2 ^ 52 : ℤ) ≤ roundHalfEven (q / 2 ^ lastExponent q) :=
    le_trans (Int.le_floor.mpr hscaled) (floor_le_roundHalfEven _)
  calc (2 : ℚ) ^ 53 = ((2 ^ 52 : ℤ) : ℚ) * 2 ^ (1 : ℤ) := by norm_num
    _ ≤ ((2 ^ 52 : ℤ) : ℚ) * 2 ^ lastExponent q := by
        refine mul_le_mul_of_nonneg_left ?_ (by norm_num)
        exact zpow_le_zpow_right₀ (by norm_num) (by omega)
    _ ≤ nearestBinary q := by
        refine mul_le_mul_of_nonneg_right ?_ hunit.le
        exact_mod_cast hrounded

end Arithmetic
end ProofStack
