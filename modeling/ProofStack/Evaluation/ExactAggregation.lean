import Mathlib.Data.List.Sort
import ProofStack.Evaluation.ExactArithmetic

/-!
This module contains the aggregation of exact values by the declared descriptive methods.
-/

namespace ProofStack
namespace Evaluation

open Arithmetic Checks Comparison

def maxComparisonNumericObservations : Nat := 8000
def maxComparisonSubjectFixtures : Nat := 500

def maxComparisonExactAggregationValues : Nat :=
  maxComparisonNumericObservations * maxComparisonSubjectFixtures

inductive ComparisonAggregationMethod where
  | maximum
  | mean
  | median
  | minimum
  | nearestRankQuantile
  | sum
  | unsupported (method : String)
  deriving DecidableEq

/-- Basis points that are no integer are left out. -/
structure ComparisonExactAggregation where
  method : ComparisonAggregationMethod
  methodVersion : String
  basisPoints : Option Int
  deriving DecidableEq

def divideFraction (value : Fraction) (divisor : Nat) : Exact Fraction := do
  assertResultBounds (← normalizeFraction value.numerator (value.denominator * divisor))

def canonicalFractionOrder (left right : Fraction) : Int :=
  let comparison := compareFractions left right
  if comparison ≠ 0 then comparison
  else if left.numerator ≠ right.numerator then if left.numerator < right.numerator then -1 else 1
  else if left.denominator = right.denominator then 0
  else if left.denominator < right.denominator then -1 else 1

def sumOrderedFractions (values : List Fraction) : Exact Fraction :=
  values.foldlM addFractions ⟨0, 1⟩

def validateAggregation (value : ComparisonExactAggregation) : Exact Unit :=
  match value.method with
  | .maximum | .mean | .median | .minimum | .sum =>
    failIf (value.methodVersion ≠ "1.0.0")
      (.arithmetic .invalidAggregation "Exact comparison aggregations require method version 1.0.0")
  | .unsupported _ =>
    .error (.arithmetic .invalidAggregation "The exact comparison aggregation method is not supported")
  | .nearestRankQuantile =>
    failIf (value.methodVersion ≠ "1.0.0"
        ∨ ¬value.basisPoints.any (fun basisPoints => 1 ≤ basisPoints ∧ basisPoints ≤ 10000))
      (.arithmetic .invalidAggregation
        "Nearest-rank quantiles require version 1.0.0 and 1 to 10000 basis points")

def parseSample (isNFC : String → Bool) (values : List Comparison.ComparisonExactValue)
    : Exact (List ParsedExactValue) := do
  failIf (values.length = 0)
    (.arithmetic .emptySample "Exact comparison aggregation requires at least one observation")
  failIf (values.length > maxComparisonExactAggregationValues)
    (.arithmetic .sampleLimitExceeded "Exact comparison aggregation cannot exceed 4000000 observations")
  let parsed ← values.mapM (parseExactValue isNFC)
  let unit := ((parsed.map (·.unit)).head?).getD ""
  failIf (unit = "" ∨ parsed.any (·.unit ≠ unit))
    (.arithmetic .mixedUnits "Exact comparison aggregation cannot combine different units")
  return parsed

def order (values : List Fraction) : List Fraction :=
  values.insertionSort (fun left right => canonicalFractionOrder left right ≤ 0)

def aggregateOrdered (aggregation : ComparisonExactAggregation) (ordered : List Fraction)
    : Exact Fraction :=
  match aggregation.method with
  | .minimum => found ordered[0]? (.arithmetic .emptySample "Expected a parsed exact sample")
  | .maximum => found ordered[ordered.length - 1]? (.arithmetic .emptySample "Expected a parsed exact sample")
  | .sum => sumOrderedFractions ordered
  | .mean => do divideFraction (← sumOrderedFractions ordered) ordered.length
  | .median => do
    let upperIndex := ordered.length / 2
    let upper ← found ordered[upperIndex]? (.arithmetic .emptySample "Expected a median observation")
    if ordered.length % 2 = 1 then return upper
    else
      let lower ← found ordered[upperIndex - 1]?
        (.arithmetic .emptySample "Expected two median observations")
      divideFraction (← addFractions lower upper) 2
  | .nearestRankQuantile =>
    let rank := (aggregation.basisPoints.getD 0 * ordered.length + 9999) / 10000
    found ordered[(rank - 1).toNat]?
      (.arithmetic .invalidAggregation "The nearest-rank quantile did not select a bounded observation")
  | .unsupported _ =>
    .error (.arithmetic .invalidAggregation "The exact comparison aggregation method is not supported")

def aggregateComparisonExactValues (isNFC : String → Bool) (values : List Comparison.ComparisonExactValue)
    (aggregation : ComparisonExactAggregation)
    : Exact Comparison.ComparisonExactValue := do
  validateAggregation aggregation
  let parsed ← parseSample isNFC values
  let unit := ((parsed.map (·.unit)).head?).getD ""
  let ordered := order (parsed.map (·.fraction))
  let result ← aggregateOrdered aggregation ordered
  exactValue isNFC result unit

end Evaluation
end ProofStack
