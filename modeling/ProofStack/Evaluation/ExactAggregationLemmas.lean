import Mathlib.Data.List.GetD
import Mathlib.Data.Rat.Floor
import Mathlib.Data.Rat.Lemmas
import Mathlib.Tactic.Linarith
import ProofStack.Arithmetic.DecimalText
import ProofStack.Evaluation.ExactAggregation
import ProofStack.Evaluation.ExactArithmetic

/-!
This module contains the exact arithmetic as an arithmetic of rational numbers.
-/

namespace ProofStack
namespace Evaluation

open Arithmetic Checks Comparison

variable {isNFC : String → Bool}

def canonicalFraction (q : ℚ) : Fraction :=
  ⟨q.num, q.den⟩

def canonicalValue (q : ℚ) (unit : String) : Comparison.ComparisonExactValue :=
  .rational (String.ofList (integerText q.den)) (String.ofList (integerText q.num)) unit

def Fits (q : ℚ) : Prop :=
  (integerText q.num).length ≤ maxComparisonExactIntegerCharacters
    ∧ (integerText q.den).length ≤ maxComparisonExactIntegerCharacters

instance (q : ℚ) : Decidable (Fits q) :=
  inferInstanceAs (Decidable (_ ∧ _))

theorem canonicalFraction_reduced (q : ℚ) : (canonicalFraction q).Reduced where
  positive := Int.natCast_pos.mpr q.pos
  lowest := q.reduced

@[simp]
theorem value_canonicalFraction (q : ℚ) : (canonicalFraction q).value = q :=
  Rat.num_div_den q

theorem canonicalFraction_value {fraction : Fraction} (h : fraction.Reduced)
    : canonicalFraction fraction.value = fraction := by
  have hcoprime : Nat.Coprime fraction.numerator.natAbs fraction.denominator.natAbs := h.lowest
  unfold canonicalFraction Fraction.value
  rw [Rat.num_div_eq_of_coprime h.positive hcoprime, Rat.den_div_eq_of_coprime h.positive hcoprime]

theorem exactFraction_eq {value : Comparison.ComparisonExactValue} (h : ComparisonExactValueSchema isNFC value)
    : exactFraction value = canonicalFraction (numberOf value) := by
  rw [← value_exactFraction, canonicalFraction_value (exactFraction_reduced h)]

theorem divided_eq_canonicalFraction {numerator denominator : Int} (h : 0 < denominator)
    : Fraction.divided numerator denominator = canonicalFraction (numerator / denominator) := by
  rw [← Fraction.value_divided h, canonicalFraction_value (Fraction.divided_reduced h)]

def outOfBounds : ComparisonExactArithmeticError :=
  .arithmetic .resultOutOfBounds
    "The exact comparison result exceeds the bounded 128-character integer representation"

def bounded (q : ℚ) : Exact Fraction :=
  if Fits q then .ok (canonicalFraction q) else .error outOfBounds

theorem assertResultBounds_canonicalFraction (q : ℚ)
    : assertResultBounds (canonicalFraction q) = bounded q := by
  unfold bounded
  split
  . next hfits => exact assertResultBounds_eq_ok.mpr ⟨hfits.1, hfits.2, rfl⟩
  . next hfits =>
    apply failIf_bind_of_true
    by_contra hle
    rw [not_or, Nat.not_lt, Nat.not_lt] at hle
    exact hfits hle

theorem addFractions_canonicalFraction (p q : ℚ)
    : addFractions (canonicalFraction p) (canonicalFraction q) = bounded (p + q) := by
  rcases addFractions_eq (canonicalFraction_reduced p) (canonicalFraction_reduced q) with
    ⟨sum, hreduced, hvalue, heq⟩
  rw [value_canonicalFraction, value_canonicalFraction] at hvalue
  rw [heq, ← canonicalFraction_value hreduced, hvalue, assertResultBounds_canonicalFraction]

theorem divideFraction_canonicalFraction (q : ℚ) {divisor : Nat} (h : 0 < divisor)
    : divideFraction (canonicalFraction q) divisor = bounded (q / divisor) := by
  have hpositive : 0 < (canonicalFraction q).denominator * (divisor : Int) :=
    Int.mul_pos (canonicalFraction_reduced q).positive (Int.natCast_pos.mpr h)
  unfold divideFraction
  rw [bind_of_ok (normalizeFraction_eq hpositive), divided_eq_canonicalFraction hpositive,
    assertResultBounds_canonicalFraction]
  congr 1
  push_cast
  rw [← div_div]
  congr 1
  exact Rat.num_div_den q

def PrefixSumsFit (start : ℚ) : List ℚ → Prop
  | [] => True
  | q :: qs => Fits (start + q) ∧ PrefixSumsFit (start + q) qs

def decidePrefixSumsFit : (start : ℚ) → (qs : List ℚ) → Decidable (PrefixSumsFit start qs)
  | _, [] => .isTrue trivial
  | start, q :: qs =>
    have := decidePrefixSumsFit (start + q) qs
    inferInstanceAs (Decidable (_ ∧ _))

instance (start : ℚ) (qs : List ℚ) : Decidable (PrefixSumsFit start qs) :=
  decidePrefixSumsFit start qs

theorem foldlM_addFractions (start : ℚ) (qs : List ℚ)
    : (qs.map canonicalFraction).foldlM addFractions (canonicalFraction start)
        = if PrefixSumsFit start qs then .ok (canonicalFraction (start + qs.sum)) else .error outOfBounds := by
  induction qs generalizing start with
  | nil => simp [PrefixSumsFit, pure, Except.pure]
  | cons q qs ih =>
    rw [List.map_cons, List.foldlM_cons, addFractions_canonicalFraction, bounded]
    by_cases hfits : Fits (start + q)
    . rw [if_pos hfits, bind_of_ok rfl, ih, List.sum_cons, add_assoc]
      simp only [PrefixSumsFit, hfits, true_and]
    . rw [if_neg hfits, if_neg (fun h => hfits h.1)]
      rfl

theorem sumOrderedFractions_map (qs : List ℚ)
    : sumOrderedFractions (qs.map canonicalFraction)
        = if PrefixSumsFit 0 qs then .ok (canonicalFraction qs.sum) else .error outOfBounds := by
  have hzero : (⟨0, 1⟩ : Fraction) = canonicalFraction 0 := rfl
  rw [sumOrderedFractions, hzero, foldlM_addFractions, zero_add]

theorem compareFractions_canonicalFraction (p q : ℚ)
    : compareFractions (canonicalFraction p) (canonicalFraction q) ≤ 0 ↔ p ≤ q := by
  rw [compareFractions_eq (canonicalFraction_reduced p) (canonicalFraction_reduced q),
    value_canonicalFraction, value_canonicalFraction]
  split
  . next h =>
    rw [sub_eq_zero] at h
    simp [h]
  . next h =>
    split
    . next hneg => simp [le_of_lt (sub_neg.mp hneg)]
    . next hnonneg =>
      have hlt : q < p := lt_of_le_of_ne (sub_nonneg.mp (not_lt.mp hnonneg)) fun heq => h (by rw [heq, sub_self])
      simp [hlt]

theorem canonicalFractionOrder_canonicalFraction (p q : ℚ)
    : canonicalFractionOrder (canonicalFraction p) (canonicalFraction q) ≤ 0 ↔ p ≤ q := by
  unfold canonicalFractionOrder
  dsimp only
  split
  . exact compareFractions_canonicalFraction p q
  . next hcompare =>
    rw [not_not, compareFractions_eq (canonicalFraction_reduced p) (canonicalFraction_reduced q),
      value_canonicalFraction, value_canonicalFraction] at hcompare
    have heq : p = q := by
      split at hcompare
      . next h => exact sub_eq_zero.mp h
      . split at hcompare <;> contradiction
    subst heq
    simp

def ascending (qs : List ℚ) : List ℚ :=
  qs.insertionSort (· ≤ ·)

theorem order_map (qs : List ℚ) : order (qs.map canonicalFraction) = (ascending qs).map canonicalFraction := by
  unfold order ascending
  symm
  apply List.map_insertionSort
  intro p _ q _
  exact (canonicalFractionOrder_canonicalFraction p q).symm

@[simp]
theorem length_ascending (qs : List ℚ) : (ascending qs).length = qs.length :=
  List.length_insertionSort _ qs

theorem ascending_perm (qs : List ℚ) : (ascending qs).Perm qs :=
  List.perm_insertionSort _ qs

theorem ascending_eq_of_perm {qs qs' : List ℚ} (h : qs.Perm qs') : ascending qs = ascending qs' := by
  apply List.Perm.eq_of_pairwise' (List.pairwise_insertionSort _ qs) (List.pairwise_insertionSort _ qs')
  exact (ascending_perm qs).trans (h.trans (ascending_perm qs').symm)

theorem exactValue_canonicalFraction (q : ℚ) {unit : String} (hunit : AssuranceSummarySchema isNFC unit = true)
    : exactValue isNFC (canonicalFraction q) unit
        = if Fits q then .ok (canonicalValue q unit) else .error outOfBounds := by
  have hreduced := canonicalFraction_reduced q
  unfold exactValue
  rw [normalizeFraction_eq hreduced.positive, bind_of_ok rfl, divided_of_reduced hreduced,
    assertResultBounds_canonicalFraction, bounded]
  split
  . next hfits =>
    rw [bind_of_ok rfl]
    apply parseWith_eq_ok.mpr
    refine ⟨⟨?_, ?_, hunit, ?_⟩, rfl⟩
    . rw [ExactPositiveIntegerSchema, String.toList_ofList, isPositiveText_integerText hreduced.positive,
        Bool.and_true]
      exact decide_eq_true hfits.2
    . rw [ExactIntegerSchema, String.toList_ofList, isIntegerText_integerText, Bool.and_true]
      exact decide_eq_true hfits.1
    . rw [refineExactRational, issue_eq_nil, String.toList_ofList, String.toList_ofList,
        readInteger_integerText, readInteger_integerText, greatestCommonDivisor_eq_gcd, hreduced.lowest]
      rintro (⟨hzero, hone⟩ | hgcd)
      . rw [canonicalFraction] at hzero hone
        rw [Rat.num_eq_zero.mp hzero] at hone
        exact hone rfl
      . exact hgcd rfl
  . rfl

def nearestRank (basisPoints : Int) (count : Nat) : Int :=
  ⌈(basisPoints * count : ℚ) / 10000⌉

def trueAggregate (aggregation : ComparisonExactAggregation) (qs : List ℚ) : ℚ :=
  let ordered := ascending qs
  let count := qs.length
  match aggregation.method with
  | .minimum => ordered.getD 0 0
  | .maximum => ordered.getD (count - 1) 0
  | .sum => qs.sum
  | .mean => qs.sum / count
  | .median =>
    if count % 2 = 1 then ordered.getD (count / 2) 0
    else (ordered.getD (count / 2 - 1) 0 + ordered.getD (count / 2) 0) / 2
  | .nearestRankQuantile => ordered.getD (nearestRank (aggregation.basisPoints.getD 0) count - 1).toNat 0
  | .unsupported _ => 0

def IntermediatesFit (aggregation : ComparisonExactAggregation) (qs : List ℚ) : Prop :=
  match aggregation.method with
  | .sum | .mean => PrefixSumsFit 0 (ascending qs)
  | .median =>
    qs.length % 2 = 1
      ∨ Fits ((ascending qs).getD (qs.length / 2 - 1) 0 + (ascending qs).getD (qs.length / 2) 0)
  | _ => True

instance (aggregation : ComparisonExactAggregation) (qs : List ℚ)
    : Decidable (IntermediatesFit aggregation qs) := by
  unfold IntermediatesFit
  split <;> infer_instance

theorem nearestRank_eq (basisPoints : Int) (count : Nat)
    : (basisPoints * count + 9999) / 10000 = nearestRank basisPoints count := by
  have hceil := Rat.ceil_intCast_div_natCast (basisPoints * count) 10000
  push_cast at hceil
  rw [nearestRank, hceil]
  omega

theorem nearestRank_bounds {basisPoints : Int} {count : Nat} (hpos : 1 ≤ basisPoints) (hle : basisPoints ≤ 10000)
    (hcount : 0 < count)
    : 1 ≤ nearestRank basisPoints count ∧ nearestRank basisPoints count ≤ count := by
  have hcount' : (1 : Int) ≤ count := Int.natCast_pos.mpr hcount
  have hlow : 1 ≤ basisPoints * (count : Int) := by nlinarith
  have hhigh : basisPoints * (count : Int) ≤ 10000 * count := by nlinarith
  rw [← nearestRank_eq]
  omega

theorem getElem?_map_canonicalFraction {qs : List ℚ} {index : Nat} (h : index < qs.length)
    : (qs.map canonicalFraction)[index]? = some (canonicalFraction (qs.getD index 0)) := by
  rw [List.getElem?_map, List.getElem?_eq_getElem h, List.getD_eq_getElem _ _ h]
  rfl

theorem found_map_canonicalFraction {qs : List ℚ} {index : Nat} {error : ComparisonExactArithmeticError}
    (h : index < qs.length)
    : found ((qs.map canonicalFraction)[index]?) error = .ok (canonicalFraction (qs.getD index 0)) := by
  rw [getElem?_map_canonicalFraction h]
  rfl

variable {aggregation : ComparisonExactAggregation}

theorem aggregateOrdered_of_fits {qs : List ℚ}
    (haggregation : validateAggregation aggregation = .ok ()) (hnonempty : 0 < qs.length)
    (hfits : IntermediatesFit aggregation qs)
    : aggregateOrdered aggregation ((ascending qs).map canonicalFraction)
          = .ok (canonicalFraction (trueAggregate aggregation qs))
        ∨ aggregateOrdered aggregation ((ascending qs).map canonicalFraction)
          = bounded (trueAggregate aggregation qs) := by
  have hlength := length_ascending qs
  have hsum : (ascending qs).sum = qs.sum := (ascending_perm qs).sum_eq
  unfold aggregateOrdered trueAggregate
  unfold IntermediatesFit at hfits
  unfold validateAggregation at haggregation
  dsimp only
  rw [List.length_map, hlength]
  cases hmethod : aggregation.method with (rw [hmethod] at haggregation; simp only [hmethod] at hfits ⊢)
  | minimum => exact .inl (found_map_canonicalFraction (by omega))
  | maximum => exact .inl (found_map_canonicalFraction (by omega))
  | sum =>
    rw [sumOrderedFractions_map, if_pos hfits, hsum]
    exact .inl rfl
  | mean =>
    rw [sumOrderedFractions_map, if_pos hfits, hsum, bind_of_ok rfl, divideFraction_canonicalFraction _ hnonempty]
    exact .inr rfl
  | median =>
    rw [found_map_canonicalFraction (by omega), bind_of_ok rfl]
    split
    . exact .inl rfl
    . next heven =>
      rw [found_map_canonicalFraction (by omega), bind_of_ok rfl, addFractions_canonicalFraction, bounded,
        if_pos (hfits.resolve_left heven), bind_of_ok rfl, divideFraction_canonicalFraction _ (by decide)]
      exact .inr rfl
  | nearestRankQuantile =>
    simp only [failIf_eq_ok, not_or, not_not] at haggregation
    rcases Option.any_eq_true _ _ |>.mp haggregation.2 with ⟨basisPoints, hpoints, hrange⟩
    have hbounds := of_decide_eq_true hrange
    have hrank := nearestRank_bounds hbounds.1 hbounds.2 hnonempty
    rw [hpoints, Option.getD_some, nearestRank_eq]
    exact .inl (found_map_canonicalFraction (by omega))
  | unsupported method => cases haggregation

theorem aggregateOrdered_of_not_fits {qs : List ℚ}
    (hnonempty : 0 < qs.length) (hfits : ¬IntermediatesFit aggregation qs)
    : aggregateOrdered aggregation ((ascending qs).map canonicalFraction) = .error outOfBounds := by
  have hlength := length_ascending qs
  unfold aggregateOrdered
  unfold IntermediatesFit at hfits
  dsimp only
  rw [List.length_map, hlength]
  cases hmethod : aggregation.method with simp only [hmethod, not_or, not_true] at hfits ⊢
  | sum => rw [sumOrderedFractions_map, if_neg hfits]
  | mean =>
    rw [sumOrderedFractions_map, if_neg hfits]
    rfl
  | median =>
    rw [found_map_canonicalFraction (by omega), bind_of_ok rfl, if_neg hfits.1,
      found_map_canonicalFraction (by omega), bind_of_ok rfl, addFractions_canonicalFraction, bounded,
      if_neg hfits.2]
    rfl

theorem aggregateOrdered_exactValue {qs : List ℚ} {unit : String}
    (haggregation : validateAggregation aggregation = .ok ()) (hnonempty : 0 < qs.length)
    (hunit : AssuranceSummarySchema isNFC unit = true)
    : (aggregateOrdered aggregation (order (qs.map canonicalFraction)) >>= (exactValue isNFC · unit))
        = if IntermediatesFit aggregation qs ∧ Fits (trueAggregate aggregation qs) then
            .ok (canonicalValue (trueAggregate aggregation qs) unit)
          else .error outOfBounds := by
  rw [order_map]
  by_cases hfits : IntermediatesFit aggregation qs
  . simp only [hfits, true_and]
    rcases aggregateOrdered_of_fits haggregation hnonempty hfits with h | h
    . rw [bind_of_ok h, exactValue_canonicalFraction _ hunit]
    . rw [h, bounded]
      split
      . next hresult => rw [bind_of_ok rfl, exactValue_canonicalFraction _ hunit, if_pos hresult]
      . rfl
  . rw [aggregateOrdered_of_not_fits hnonempty hfits, if_neg (fun h => hfits h.1)]
    rfl

end Evaluation
end ProofStack
