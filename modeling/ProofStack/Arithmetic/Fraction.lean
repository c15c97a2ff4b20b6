import Mathlib.Algebra.Order.Field.Basic
import Mathlib.Algebra.Order.Ring.Rat
import Mathlib.Data.Rat.Cast.Defs
import Mathlib.Data.Int.GCD
import Mathlib.Tactic.FieldSimp
import Mathlib.Tactic.Ring

/-!
This module contains fractions of integers and the rational numbers that they stand for.
-/

namespace ProofStack
namespace Arithmetic

def euclid (a b : Nat) : Nat :=
  if b = 0 then a else euclid b (a % b)
termination_by b
decreasing_by exact Nat.mod_lt a (Nat.pos_of_ne_zero ‹_›)

theorem euclid_eq_gcd (a b : Nat) : euclid a b = Nat.gcd a b := by
  fun_induction euclid a b with
  | case1 a => exact (Nat.gcd_zero_right a).symm
  | case2 a b _ ih => rw [ih, Nat.gcd_comm, Nat.gcd_comm a b, Nat.gcd_rec b a]

def greatestCommonDivisor (left right : Int) : Int :=
  euclid left.natAbs right.natAbs

@[simp]
theorem greatestCommonDivisor_eq_gcd (left right : Int)
    : greatestCommonDivisor left right = Int.gcd left right := by
  rw [greatestCommonDivisor, euclid_eq_gcd]
  rfl

structure Fraction where
  numerator : Int
  denominator : Int
  deriving DecidableEq

namespace Fraction

def value (fraction : Fraction) : ℚ :=
  fraction.numerator / fraction.denominator

structure Reduced (fraction : Fraction) : Prop where
  positive : 0 < fraction.denominator
  lowest : Int.gcd fraction.numerator fraction.denominator = 1

variable {fraction : Fraction}

theorem Reduced.cast_ne_zero (h : fraction.Reduced)
    : (fraction.denominator : ℚ) ≠ 0 :=
  Int.cast_ne_zero.mpr (Int.ne_of_gt h.positive)

theorem Reduced.neg (h : fraction.Reduced)
    : (⟨-fraction.numerator, fraction.denominator⟩ : Fraction).Reduced :=
  ⟨h.positive, by rw [Int.neg_gcd, h.lowest]⟩

theorem value_neg (fraction : Fraction)
    : (⟨-fraction.numerator, fraction.denominator⟩ : Fraction).value = -fraction.value := by
  unfold value
  rw [Int.cast_neg, neg_div]

def divided (numerator denominator : Int) : Fraction where
  numerator := numerator.tdiv (greatestCommonDivisor numerator denominator)
  denominator := denominator.tdiv (greatestCommonDivisor numerator denominator)

theorem divided_eq (numerator denominator : Int)
    : divided numerator denominator
        = ⟨numerator / Int.gcd numerator denominator, denominator / Int.gcd numerator denominator⟩ := by
  unfold divided
  rw [greatestCommonDivisor_eq_gcd, Int.tdiv_eq_ediv_of_dvd (Int.gcd_dvd_left ..),
    Int.tdiv_eq_ediv_of_dvd (Int.gcd_dvd_right ..)]

theorem divided_reduced {numerator denominator : Int} (h : 0 < denominator)
    : (divided numerator denominator).Reduced := by
  have hgcd : 0 < Int.gcd numerator denominator := Int.gcd_pos_of_ne_zero_right _ (Int.ne_of_gt h)
  rw [divided_eq]
  constructor
  . exact Int.ediv_pos_of_pos_of_dvd h (Int.natCast_nonneg _) (Int.gcd_dvd_right ..)
  . exact Int.gcd_ediv_gcd_ediv_gcd hgcd

theorem value_divided {numerator denominator : Int} (h : 0 < denominator)
    : (divided numerator denominator).value = numerator / denominator := by
  have hgcd : (Int.gcd numerator denominator : ℚ) ≠ 0 :=
    Nat.cast_ne_zero.mpr (Nat.ne_of_gt (Int.gcd_pos_of_ne_zero_right _ (Int.ne_of_gt h)))
  have hleft : ((Int.gcd numerator denominator : Int) : ℚ) * (numerator / Int.gcd numerator denominator : Int)
      = numerator := by
    rw [← Int.cast_mul, Int.mul_ediv_cancel' (Int.gcd_dvd_left ..)]
  have hright : ((Int.gcd numerator denominator : Int) : ℚ)
      * (denominator / Int.gcd numerator denominator : Int) = denominator := by
    rw [← Int.cast_mul, Int.mul_ediv_cancel' (Int.gcd_dvd_right ..)]
  rw [divided_eq, value, ← hleft, ← hright]
  exact (mul_div_mul_left _ _ (by exact_mod_cast hgcd)).symm

theorem cross_eq_iff {numerator denominator : Int} (h : 0 < denominator)
    (hfraction : fraction.Reduced)
    : numerator * fraction.denominator = fraction.numerator * denominator
        ↔ fraction.value = numerator / denominator := by
  have hdenominator : (denominator : ℚ) ≠ 0 := Int.cast_ne_zero.mpr (Int.ne_of_gt h)
  rw [value, div_eq_div_iff hfraction.cast_ne_zero hdenominator]
  constructor
  . intro heq
    exact_mod_cast heq.symm
  . intro heq
    exact_mod_cast heq.symm

theorem value_neg_iff (h : fraction.Reduced)
    : fraction.value < 0 ↔ fraction.numerator < 0 := by
  have hpositive : (0 : ℚ) < fraction.denominator := Int.cast_pos.mpr h.positive
  rw [value, div_neg_iff]
  constructor
  . rintro (⟨_, hneg⟩ | ⟨hneg, _⟩)
    . exact absurd hpositive (not_lt_of_gt hneg)
    . exact_mod_cast hneg
  . intro hneg
    exact .inr ⟨by exact_mod_cast hneg, hpositive⟩

theorem value_eq_zero_iff (h : fraction.Reduced)
    : fraction.value = 0 ↔ fraction.numerator = 0 := by
  rw [value, div_eq_zero_iff, or_iff_left h.cast_ne_zero, Int.cast_eq_zero]

theorem value_sub {left right : Fraction} (hleft : left.Reduced) (hright : right.Reduced)
    : left.value - right.value
        = ((left.numerator * right.denominator - right.numerator * left.denominator : Int) : ℚ)
          / ((left.denominator * right.denominator : Int) : ℚ) := by
  unfold value
  rw [div_sub_div _ _ hleft.cast_ne_zero hright.cast_ne_zero]
  push_cast
  ring

theorem cross_neg_iff {left right : Fraction} (hleft : left.Reduced) (hright : right.Reduced)
    : left.numerator * right.denominator - right.numerator * left.denominator < 0
        ↔ left.value - right.value < 0 := by
  have hpositive : (0 : ℚ) < ((left.denominator * right.denominator : Int) : ℚ) :=
    Int.cast_pos.mpr (Int.mul_pos hleft.positive hright.positive)
  rw [value_sub hleft hright, div_neg_iff]
  constructor
  . intro hneg
    exact .inr ⟨by exact_mod_cast hneg, hpositive⟩
  . rintro (⟨_, hneg⟩ | ⟨hneg, _⟩)
    . exact absurd hpositive (not_lt_of_gt hneg)
    . exact_mod_cast hneg

theorem cross_eq_zero_iff {left right : Fraction} (hleft : left.Reduced) (hright : right.Reduced)
    : left.numerator * right.denominator - right.numerator * left.denominator = 0
        ↔ left.value - right.value = 0 := by
  have hne : ((left.denominator * right.denominator : Int) : ℚ) ≠ 0 :=
    Int.cast_ne_zero.mpr (Int.ne_of_gt (Int.mul_pos hleft.positive hright.positive))
  rw [value_sub hleft hright, div_eq_zero_iff, or_iff_left hne, Int.cast_eq_zero]

end Fraction

end Arithmetic
end ProofStack
