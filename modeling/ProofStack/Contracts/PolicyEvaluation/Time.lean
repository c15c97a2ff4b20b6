import Mathlib.Algebra.Order.Ring.Int
import Mathlib.Tactic.Positivity

/-!
This module contains the UTC instants of policy evaluation.
-/

namespace ProofStack

def policyEvaluationTimeUnitsPerMillisecond : Int := 10 ^ 27

def unitsPerSecond : Int := policyEvaluationTimeUnitsPerMillisecond * 1000

@[ext]
structure PolicyEvaluationTime where
  seconds : Int
  digits : Nat
  fraction : Nat
  le_seconds : -62135596800 ≤ seconds
  seconds_le : seconds ≤ 253402300799
  digits_le : digits ≤ 30
  fraction_lt : fraction < 10 ^ digits
  deriving DecidableEq

namespace PolicyEvaluationTime

def orderKey (value : PolicyEvaluationTime) : Int :=
  value.seconds * unitsPerSecond + value.fraction * 10 ^ (30 - value.digits)

def IsUtcMillisecond (value : PolicyEvaluationTime) : Prop :=
  value.digits = 3

instance (value : PolicyEvaluationTime) : Decidable value.IsUtcMillisecond :=
  inferInstanceAs (Decidable (_ = _))

theorem millisecondDigits_le : 3 ≤ 30 := by
  decide

theorem wholeSecond_lt : 0 < 10 ^ 3 := by
  decide

theorem le_of_firstDay {seconds : Nat} (h : seconds ≤ 86400) : (-62135596800 : Int) ≤ seconds := by
  omega

theorem of_firstDay_le {seconds : Nat} (h : seconds ≤ 86400) : (seconds : Int) ≤ 253402300799 := by
  omega

def maxServerTime : PolicyEvaluationTime where
  seconds := 253402300799
  digits := 3
  fraction := 999
  le_seconds := by decide
  seconds_le := by decide
  digits_le := millisecondDigits_le
  fraction_lt := by decide

-- The regular expression `0+$` that removes the trailing zeros of the padded fraction.
def stripZeros : (digits : Nat) → (fraction : Nat) → Nat × Nat
  | 0, fraction => (0, fraction)
  | digits + 1, fraction =>
    if fraction % 10 = 0 then stripZeros digits (fraction / 10) else (digits + 1, fraction)

theorem stripZeros_spec (digits fraction : Nat) (h : fraction < 10 ^ digits)
    : (stripZeros digits fraction).1 ≤ digits
        ∧ (stripZeros digits fraction).2 < 10 ^ (stripZeros digits fraction).1
        ∧ (stripZeros digits fraction).2 * 10 ^ (digits - (stripZeros digits fraction).1)
            = fraction := by
  induction digits generalizing fraction with
  | zero =>
    have : fraction = 0 := by omega
    simp [stripZeros, this]
  | succ digits ih =>
    unfold stripZeros
    split
    . next hmod =>
      have hlt : fraction / 10 < 10 ^ digits := by
        rw [Nat.pow_succ] at h
        omega
      obtain ⟨hle, hbound, heq⟩ := ih (fraction / 10) hlt
      refine ⟨by omega, hbound, ?_⟩
      rw [Nat.succ_sub hle, Nat.pow_succ, ← Nat.mul_assoc, heq]
      omega
    . simp [h]

def ofFraction (seconds : Int) (fraction : Nat) (hge : -62135596800 ≤ seconds)
    (hle : seconds ≤ 253402300799) (hfraction : fraction < 10 ^ 30) : PolicyEvaluationTime :=
  if fraction = 0 then
    { seconds := seconds, digits := 3, fraction := 0, le_seconds := hge, seconds_le := hle
      digits_le := by decide, fraction_lt := by decide }
  else
    { seconds := seconds
      digits := (stripZeros 30 fraction).1
      fraction := (stripZeros 30 fraction).2
      le_seconds := hge
      seconds_le := hle
      digits_le := (stripZeros_spec 30 fraction hfraction).1
      fraction_lt := (stripZeros_spec 30 fraction hfraction).2.1 }

theorem orderKey_ofFraction (seconds : Int) (fraction : Nat) (hge : -62135596800 ≤ seconds)
    (hle : seconds ≤ 253402300799) (hfraction : fraction < 10 ^ 30)
    : (ofFraction seconds fraction hge hle hfraction).orderKey
        =
      seconds * unitsPerSecond + fraction := by
  unfold ofFraction orderKey
  split
  . next h => simp [h]
  . have := (stripZeros_spec 30 fraction hfraction).2.2
    dsimp
    congr 1
    exact_mod_cast this

def durationUnits (milliseconds : Nat) : Int :=
  milliseconds * policyEvaluationTimeUnitsPerMillisecond

theorem durationUnits_nonneg (milliseconds : Nat) : 0 ≤ durationUnits milliseconds := by
  unfold durationUnits policyEvaluationTimeUnitsPerMillisecond
  positivity

theorem durationUnits_pos {milliseconds : Nat} (h : 0 < milliseconds)
    : 0 < durationUnits milliseconds := by
  unfold durationUnits policyEvaluationTimeUnitsPerMillisecond
  positivity

theorem unitsPerSecond_pos : 0 < unitsPerSecond := by decide

theorem le_orderKey (value : PolicyEvaluationTime)
    : -62135596800 * unitsPerSecond ≤ value.orderKey := by
  unfold orderKey
  have hsecond := Int.mul_le_mul_of_nonneg_right value.le_seconds unitsPerSecond_pos.le
  have hfraction : (0 : Int) ≤ value.fraction * 10 ^ (30 - value.digits) := by positivity
  omega

theorem orderKey_lt (value : PolicyEvaluationTime)
    : value.orderKey < 253402300800 * unitsPerSecond := by
  unfold orderKey
  have hsecond := Int.mul_le_mul_of_nonneg_right value.seconds_le unitsPerSecond_pos.le
  have hfraction : (value.fraction : Int) * 10 ^ (30 - value.digits) < unitsPerSecond := by
    have hlt : value.fraction * 10 ^ (30 - value.digits)
        < 10 ^ value.digits * 10 ^ (30 - value.digits) :=
      Nat.mul_lt_mul_of_pos_right value.fraction_lt (by positivity)
    rw [← Nat.pow_add, Nat.add_sub_cancel' value.digits_le] at hlt
    unfold unitsPerSecond policyEvaluationTimeUnitsPerMillisecond
    exact_mod_cast hlt
  unfold unitsPerSecond policyEvaluationTimeUnitsPerMillisecond at *
  omega

theorem floor_key_bounds {key : Int} (hge : -62135596800 * unitsPerSecond ≤ key)
    : -62135596800 ≤ key / unitsPerSecond :=
  (Int.le_ediv_iff_mul_le unitsPerSecond_pos).mpr hge

theorem fraction_key_lt (key : Int) : (key % unitsPerSecond).toNat < 10 ^ 30 := by
  have := Int.emod_lt_of_pos key unitsPerSecond_pos
  have := Int.emod_nonneg key unitsPerSecond_pos.ne'
  unfold unitsPerSecond policyEvaluationTimeUnitsPerMillisecond at *
  omega

-- `none` is the rejection of the five digit year that the formatted sum would have.
def addMilliseconds (value : PolicyEvaluationTime) (duration : Nat)
    : Option PolicyEvaluationTime :=
  let key := value.orderKey + durationUnits duration
  let seconds := key / unitsPerSecond
  let fraction := key % unitsPerSecond
  if h : seconds ≤ 253402300799 then
    have hge : -62135596800 * unitsPerSecond ≤ key := by
      have := value.le_orderKey
      have := durationUnits_nonneg duration
      omega
    some (ofFraction seconds fraction.toNat (floor_key_bounds hge) h (fraction_key_lt key))
  else
    none

theorem orderKey_of_addMilliseconds {value result : PolicyEvaluationTime} {duration : Nat}
    (h : value.addMilliseconds duration = some result)
    : result.orderKey = value.orderKey + durationUnits duration := by
  unfold addMilliseconds at h
  dsimp only at h
  split at h
  . cases h
    rw [orderKey_ofFraction]
    rw [Int.toNat_of_nonneg (Int.emod_nonneg _ unitsPerSecond_pos.ne')]
    rw [Int.mul_comm]
    exact Int.mul_ediv_add_emod _ _
  . contradiction

theorem addMilliseconds_isSome {value ceiling : PolicyEvaluationTime} {duration : Nat}
    (h : value.orderKey + durationUnits duration ≤ ceiling.orderKey)
    : (value.addMilliseconds duration).isSome := by
  unfold addMilliseconds
  rw [dif_pos]
  . rfl
  . have hlt := ceiling.orderKey_lt
    have : (value.orderKey + durationUnits duration) / unitsPerSecond < 253402300800 := by
      rw [Int.ediv_lt_iff_lt_mul unitsPerSecond_pos]
      omega
    omega

def addMillisecondsUpTo (value : PolicyEvaluationTime) (duration : Nat)
    (ceiling : PolicyEvaluationTime) : PolicyEvaluationTime :=
  if h : value.orderKey + durationUnits duration ≥ ceiling.orderKey then
    ceiling
  else
    (value.addMilliseconds duration).get (addMilliseconds_isSome (Int.le_of_lt (not_le.mp h)))

theorem orderKey_addMillisecondsUpTo (value : PolicyEvaluationTime) (duration : Nat)
    (ceiling : PolicyEvaluationTime)
    : (value.addMillisecondsUpTo duration ceiling).orderKey
        =
      min (value.orderKey + durationUnits duration) ceiling.orderKey := by
  unfold addMillisecondsUpTo
  split
  . next h => rw [min_eq_right h]
  . next h =>
    rw [min_eq_left (by omega)]
    apply orderKey_of_addMilliseconds
    symm
    apply Option.some_get

end PolicyEvaluationTime

end ProofStack
