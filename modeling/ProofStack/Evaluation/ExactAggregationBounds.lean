import ProofStack.Arithmetic.DecimalText
import ProofStack.Evaluation.ExactAggregationLaws

/-!
This module contains the bounds of the exact arithmetic.
-/

namespace ProofStack
namespace Evaluation

open Arithmetic Checks Comparison

variable {isNFC : String → Bool}

theorem length_integerText_le {n : Int} {width : Nat} (hwidth : 0 < width) (h : n.natAbs < 10 ^ width)
    : (integerText n).length ≤ width + 1 := by
  have hlength := length_toDigits_le hwidth h
  unfold integerText
  split
  . rw [List.length_cons]
    omega
  . omega

theorem length_integerText_le_of_nonneg {n : Int} {width : Nat} (hn : 0 ≤ n) (hwidth : 0 < width)
    (h : n.natAbs < 10 ^ width)
    : (integerText n).length ≤ width := by
  rw [integerText, if_neg (Int.not_lt.mpr hn)]
  exact length_toDigits_le hwidth h

variable {text : List Char}

theorem isNaturalText_digits (h : isNaturalText text = true)
    : text.all Char.isDigit = true ∧ 0 < text.length := by
  unfold isNaturalText at h
  split at h
  . decide
  . simp only [Bool.and_eq_true] at h
    exact ⟨by rw [List.all_cons, h.1.1, h.2]; rfl, Nat.succ_pos _⟩
  . cases h

theorem length_integerText_readInteger (h : isIntegerText text = true)
    : (integerText (readInteger text)).length ≤ text.length := by
  unfold isIntegerText at h
  split at h
  . next digits =>
    rcases isNaturalText_digits h with ⟨hdigits, hpos⟩
    apply length_integerText_le hpos
    rw [readInteger, Int.natAbs_neg]
    exact readNatural_lt hdigits
  . rcases isNaturalText_digits h with ⟨hdigits, hpos⟩
    have hread : readInteger text = readNatural text := by
      unfold readInteger
      split
      . next hminus => exact absurd rfl (hminus _)
      . rfl
    rw [hread]
    exact length_integerText_le_of_nonneg (Int.natCast_nonneg _) hpos (readNatural_lt hdigits)

theorem isPositiveText_isIntegerText (h : isPositiveText text = true)
    : isIntegerText text = true := by
  rw [isPositiveText, Bool.and_eq_true] at h
  rcases isNaturalText_digits h.1 with ⟨hdigits, _⟩
  unfold isIntegerText
  split
  . simp at hdigits
  . exact h.1

def Representable (isNFC : String → Bool) (q : ℚ) (unit : String) : Prop :=
  ∃ value, ComparisonExactValueSchema isNFC value ∧ value.unit = unit ∧ numberOf value = q

theorem all_takeWhile {p q : Char → Bool} (h : text.all p = true)
    : (text.takeWhile q).all p = true := by
  rw [List.all_eq_true] at h ⊢
  exact fun c hmem => h c ((List.takeWhile_prefix q).subset hmem)

theorem fractionText_digits (h : isFractionText text = true)
    : text.tail.all Char.isDigit = true ∧ text.tail.length ≤ 18 := by
  unfold isFractionText at h
  split at h
  . decide
  . simp only [Bool.and_eq_true, decide_eq_true_eq] at h
    exact ⟨h.2, h.1.2⟩

theorem exactDecimalParts_bounds {value : String} (h : ExactDecimalSchema value = true)
    : (exactDecimalParts value).integer.natAbs < 10 ^ 36 ∧ (exactDecimalParts value).scale ≤ 18 := by
  simp only [ExactDecimalSchema, Bool.and_eq_true, decide_eq_true_eq] at h
  rcases h with ⟨⟨⟨_, hwhole⟩, hwholeLength⟩, hfraction⟩
  rcases fractionText_digits hfraction with ⟨hdigits, hlength⟩
  have hscale : (exactDecimalParts value).scale ≤ 18 :=
    Nat.le_trans (List.takeWhile_prefix _).length_le hlength
  refine ⟨?_, hscale⟩
  have hall : ((splitPoint (unsignedText value.toList)).1
      ++ (splitPoint (unsignedText value.toList)).2).all Char.isDigit = true := by
    rw [List.all_append, Bool.and_eq_true]
    exact ⟨(isNaturalText_digits hwhole).1, all_takeWhile hdigits⟩
  have habs : (exactDecimalParts value).integer.natAbs
      = readNatural ((splitPoint (unsignedText value.toList)).1
          ++ (splitPoint (unsignedText value.toList)).2) := by
    simp only [exactDecimalParts]
    split <;> simp
  rw [habs]
  apply Nat.lt_of_lt_of_le (readNatural_lt hall)
  apply Nat.pow_le_pow_right (by decide)
  rw [List.length_append]
  exact Nat.add_le_add hwholeLength hscale

theorem fits_of_decimal {unit value : String} (h : ExactDecimalSchema value = true)
    : Fits (numberOf (.decimal unit value)) := by
  rcases exactDecimalParts_bounds h with ⟨hinteger, hscale⟩
  have hcanonical : canonicalFraction (numberOf (.decimal unit value))
      = Fraction.divided (exactDecimalParts value).integer (10 ^ (exactDecimalParts value).scale) := by
    rw [divided_eq_canonicalFraction (ten_pow_pos _), numberOf]
    push_cast
    rfl
  rw [Fraction.divided_eq, canonicalFraction, Fraction.mk.injEq] at hcanonical
  have hnumerator : (numberOf (.decimal unit value)).num.natAbs < 10 ^ 36 := by
    rw [hcanonical.1, Int.natAbs_ediv_of_dvd (Int.gcd_dvd_left ..)]
    exact Nat.lt_of_le_of_lt (Nat.div_le_self ..) hinteger
  have hdenominator : (numberOf (.decimal unit value)).den < 10 ^ 36 := by
    have hle : ((numberOf (.decimal unit value)).den : Int) ≤ 10 ^ (exactDecimalParts value).scale := by
      rw [hcanonical.2]
      exact Int.ediv_le_self _ (Int.le_of_lt (ten_pow_pos _))
    have hpower : (10 : Nat) ^ (exactDecimalParts value).scale ≤ 10 ^ 18 :=
      Nat.pow_le_pow_right (by decide) hscale
    have hle' : (numberOf (.decimal unit value)).den ≤ 10 ^ (exactDecimalParts value).scale := by
      exact_mod_cast hle
    exact Nat.lt_of_le_of_lt (Nat.le_trans hle' hpower) (by decide)
  constructor
  . exact Nat.le_trans (length_integerText_le (by decide) hnumerator) (by decide)
  . exact Nat.le_trans (length_integerText_le (by decide) hdenominator) (by decide)

theorem fits_of_rational {denominator numerator unit : String}
    (h : ComparisonExactValueSchema isNFC (.rational denominator numerator unit))
    : Fits (numberOf (.rational denominator numerator unit)) := by
  have hfraction := exactFraction_eq h
  rw [exactFraction, canonicalFraction, Fraction.mk.injEq] at hfraction
  rcases h with ⟨hdenominator, hnumerator, _, _⟩
  simp only [ExactPositiveIntegerSchema, ExactIntegerSchema, Bool.and_eq_true, decide_eq_true_eq]
    at hdenominator hnumerator
  unfold Fits
  rw [← hfraction.1, ← hfraction.2]
  constructor
  . exact Nat.le_trans (length_integerText_readInteger hnumerator.2) hnumerator.1
  . exact Nat.le_trans (length_integerText_readInteger (isPositiveText_isIntegerText hdenominator.2))
      hdenominator.1

theorem fits_numberOf {value : Comparison.ComparisonExactValue} (h : ComparisonExactValueSchema isNFC value)
    : Fits (numberOf value) := by
  cases value with
  | decimal unit value => exact fits_of_decimal h.2
  | rational denominator numerator unit => exact fits_of_rational h

theorem canonicalValue_admitted {q : ℚ} {unit : String} (hunit : AssuranceSummarySchema isNFC unit = true)
    (h : Fits q)
    : ComparisonExactValueSchema isNFC (canonicalValue q unit) := by
  have hvalue := exactValue_canonicalFraction q hunit
  rw [if_pos h] at hvalue
  have hreduced := canonicalFraction_reduced q
  exact (exactValue_eq_ok hreduced hvalue).1

theorem representable_iff {q : ℚ} {unit : String} (hunit : AssuranceSummarySchema isNFC unit = true)
    : Representable isNFC q unit ↔ Fits q := by
  constructor
  . rintro ⟨value, hvalue, _, rfl⟩
    exact fits_numberOf hvalue
  . intro h
    exact ⟨canonicalValue q unit, canonicalValue_admitted hunit h, rfl, numberOf_canonicalValue q unit⟩

def RefusesExactly (isNFC : String → Bool) (outcome : Exact Comparison.ComparisonExactValue) (q : ℚ) (unit : String)
    : Prop :=
  outcome = .error outOfBounds ↔ ¬Representable isNFC q unit

theorem refusesExactly_iff {q : ℚ} {unit : String} {reached : Prop} [Decidable reached]
    (hunit : AssuranceSummarySchema isNFC unit = true)
    : RefusesExactly isNFC (if reached ∧ Fits q then .ok (canonicalValue q unit) else .error outOfBounds) q unit
        ↔ reached ∨ ¬Representable isNFC q unit := by
  unfold RefusesExactly
  rw [representable_iff hunit]
  by_cases hfits : Fits q <;> by_cases hreached : reached <;> simp [hfits, hreached]

/-- A subtraction is refused exactly if the difference cannot be written. An aggregation is if what it
computes on the way to its result can be written, or its result cannot be. -/
structure BoundedArithmetic (isNFC : String → Bool) : Prop where
  subtract : ∀ baseline candidate, ComparisonExactValueSchema isNFC baseline →
    ComparisonExactValueSchema isNFC candidate → baseline.unit = candidate.unit →
      RefusesExactly isNFC (subtractComparisonExactValues isNFC baseline candidate)
        (numberOf candidate - numberOf baseline) baseline.unit
  aggregate : ∀ values unit aggregation, Sample isNFC values unit → validateAggregation aggregation = .ok () →
    (RefusesExactly isNFC (aggregateComparisonExactValues isNFC values aggregation)
        (trueAggregate aggregation (values.map numberOf)) unit
      ↔ IntermediatesFit aggregation (values.map numberOf)
        ∨ ¬Representable isNFC (trueAggregate aggregation (values.map numberOf)) unit)
  -- there is a true aggregate of a sample only
  aggregateOther : ∀ values aggregation,
    aggregateComparisonExactValues isNFC values aggregation = .error outOfBounds →
      validateAggregation aggregation = .ok () ∧ ∃ unit, Sample isNFC values unit

theorem boundedArithmetic : BoundedArithmetic isNFC where
  subtract := by
    intro baseline candidate hbaseline hcandidate hunit
    have hrefuses := @refusesExactly_iff isNFC (numberOf candidate - numberOf baseline) _ True _
      (schema_unit hbaseline)
    simp only [true_and, true_or, iff_true] at hrefuses
    rw [subtractComparisonExactValues_eq hbaseline hcandidate hunit]
    exact hrefuses
  aggregateOther := by
    intro values aggregation h
    exact aggregateComparisonExactValues_sample (.inr h)
  aggregate := by
    intro values unit aggregation hsample haggregation
    rw [aggregateComparisonExactValues_eq haggregation hsample]
    exact refusesExactly_iff hsample.schema

def largestInteger : Comparison.ComparisonExactValue :=
  .rational "1" (String.ofList (List.replicate 128 '9')) "tokens"

def meanAggregation : ComparisonExactAggregation where
  method := .mean
  methodVersion := "1.0.0"
  basisPoints := none

theorem mean_of_largestInteger_refused
    : Sample (fun _ => true) [largestInteger, largestInteger] "tokens"
        ∧ validateAggregation meanAggregation = .ok ()
        ∧ trueAggregate meanAggregation ([largestInteger, largestInteger].map numberOf)
          = numberOf largestInteger
        ∧ ¬RefusesExactly (fun _ => true)
          (aggregateComparisonExactValues (fun _ => true) [largestInteger, largestInteger] meanAggregation)
          (trueAggregate meanAggregation ([largestInteger, largestInteger].map numberOf)) "tokens" := by
  have htext : (String.ofList (List.replicate 128 '9')).toList = List.replicate 128 '9' :=
    String.toList_ofList
  have hnumerator : ExactIntegerSchema (String.ofList (List.replicate 128 '9')) = true := by
    rw [ExactIntegerSchema, htext]
    decide +kernel
  have hterms : refineExactRational "1" (String.ofList (List.replicate 128 '9')) = [] := by
    rw [refineExactRational, htext]
    decide +kernel
  have hadmitted : ComparisonExactValueSchema (fun _ => true) largestInteger :=
    ⟨by decide, hnumerator, by decide, hterms⟩
  have hsample : Sample (fun _ => true) [largestInteger, largestInteger] "tokens" :=
    ⟨by decide, by decide, List.forall_mem_cons.mpr ⟨hadmitted, List.forall_mem_singleton.mpr hadmitted⟩,
      List.forall_mem_cons.mpr ⟨rfl, List.forall_mem_singleton.mpr rfl⟩⟩
  have hmean (q : ℚ) : trueAggregate meanAggregation [q, q] = q := by
    simp only [trueAggregate, meanAggregation, List.sum_cons, List.sum_nil, List.length_cons, List.length_nil]
    push_cast
    ring
  have haggregate : trueAggregate meanAggregation ([largestInteger, largestInteger].map numberOf)
      = numberOf largestInteger := hmean _
  refine ⟨hsample, rfl, haggregate, ?_⟩
  rw [haggregate, aggregateComparisonExactValues_eq rfl hsample, haggregate, refusesExactly_iff hsample.schema,
    not_or, not_not]
  refine ⟨?_, largestInteger, hadmitted, rfl, rfl⟩
  rw [List.map_cons, List.map_singleton, largestInteger, numberOf, htext]
  decide +kernel

end Evaluation
end ProofStack
