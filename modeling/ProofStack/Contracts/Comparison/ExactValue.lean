import ProofStack.Arithmetic.Fraction
import ProofStack.Arithmetic.DecimalText
import ProofStack.Contracts.Primitives
import ProofStack.Contracts.Text

/-!
This module contains the exact values of a comparison and the schema of an available metric value.
-/

namespace ProofStack
namespace Comparison

open Arithmetic

def maxComparisonExactIntegerCharacters : Nat := 128

inductive ComparisonExactValue where
  | decimal (unit value : String)
  | rational (denominator numerator unit : String)
  deriving DecidableEq

namespace ComparisonExactValue

def unit : ComparisonExactValue → String
  | .decimal unit _ => unit
  | .rational _ _ unit => unit

end ComparisonExactValue

def unsignedText (text : List Char) : List Char :=
  match text with
  | '-' :: unsigned => unsigned
  | unsigned => unsigned

def splitPoint (unsigned : List Char) : List Char × List Char :=
  (unsigned.takeWhile (· ≠ '.'), (unsigned.dropWhile (· ≠ '.')).tail.takeWhile (· ≠ '.'))

def isFractionText : List Char → Bool
  | [] => true
  | _ :: digits => 1 ≤ digits.length && digits.length ≤ 18 && digits.all Char.isDigit

def ExactDecimalSchema (value : String) : Bool :=
  let unsigned := unsignedText value.toList
  value.toList.length ≤ 64
    && isNaturalText (unsigned.takeWhile (· ≠ '.'))
    && (unsigned.takeWhile (· ≠ '.')).length ≤ 18
    && isFractionText (unsigned.dropWhile (· ≠ '.'))

def ExactIntegerSchema (value : String) : Bool :=
  value.toList.length ≤ maxComparisonExactIntegerCharacters && isIntegerText value.toList

def ExactPositiveIntegerSchema (value : String) : Bool :=
  value.toList.length ≤ maxComparisonExactIntegerCharacters && isPositiveText value.toList

def refineExactRational (denominator numerator : String) : List String :=
  let numerator := readInteger numerator.toList
  let denominator := readInteger denominator.toList
  issue ((numerator = 0 ∧ denominator ≠ 1) ∨ greatestCommonDivisor numerator denominator ≠ 1)
    "Exact rational values must use a positive denominator and lowest terms"

def ComparisonExactValueSchema (isNFC : String → Bool) : ComparisonExactValue → Prop
  | .decimal unit value => AssuranceSummarySchema isNFC unit ∧ ExactDecimalSchema value
  | .rational denominator numerator unit =>
    ExactPositiveIntegerSchema denominator ∧ ExactIntegerSchema numerator
      ∧ AssuranceSummarySchema isNFC unit ∧ refineExactRational denominator numerator = []

instance (isNFC : String → Bool) (value : ComparisonExactValue)
    : Decidable (ComparisonExactValueSchema isNFC value) := by
  cases value <;> exact inferInstanceAs (Decidable (_ ∧ _))

structure ExactDecimalParts where
  integer : Int
  scale : Nat

def exactDecimalParts (value : String) : ExactDecimalParts :=
  let negative := value.toList.head? = some '-'
  let parts := splitPoint (unsignedText value.toList)
  { integer := readNatural (parts.1 ++ parts.2) * (if negative then -1 else 1)
    scale := parts.2.length }

def exactFraction : ComparisonExactValue → Fraction
  | .rational denominator numerator _ => ⟨readInteger numerator.toList, readInteger denominator.toList⟩
  | .decimal _ value =>
    let parts := exactDecimalParts value
    Fraction.divided parts.integer (10 ^ parts.scale)

structure ExactDelta where
  doesMatch : Bool
  sign : Int

def exactDelta (baseline candidate delta : ComparisonExactValue) : ExactDelta :=
  let baselineFraction := exactFraction baseline
  let candidateFraction := exactFraction candidate
  let deltaFraction := exactFraction delta
  let expectedNumerator := candidateFraction.numerator * baselineFraction.denominator
    - baselineFraction.numerator * candidateFraction.denominator
  let expectedDenominator := candidateFraction.denominator * baselineFraction.denominator
  { doesMatch := expectedNumerator * deltaFraction.denominator = deltaFraction.numerator * expectedDenominator
    sign := if deltaFraction.numerator = 0 then 0 else if deltaFraction.numerator < 0 then -1 else 1 }

inductive ComparisonDirection where
  | decreased
  | increased
  | unchanged
  deriving DecidableEq

def directionOfSign (sign : Int) : ComparisonDirection :=
  if sign = 0 then .unchanged else if sign < 0 then .decreased else .increased

structure AvailableComparisonMetricValue where
  baseline : ComparisonExactValue
  candidate : ComparisonExactValue
  delta : ComparisonExactValue
  direction : ComparisonDirection

def refineAvailableComparisonMetricValue (value : AvailableComparisonMetricValue) : List String :=
  let derivedDelta := exactDelta value.baseline value.candidate value.delta
  issue (value.baseline.unit ≠ value.candidate.unit ∨ value.baseline.unit ≠ value.delta.unit)
      "Available comparison values must use one exact unit"
    ++ issue (¬derivedDelta.doesMatch) "Metric delta must equal candidate minus baseline exactly"
    ++ issue (value.direction ≠ directionOfSign derivedDelta.sign)
      "Metric direction must agree with the canonical signed delta"

def AvailableComparisonMetricValueSchema (isNFC : String → Bool) (value : AvailableComparisonMetricValue)
    : Prop :=
  ComparisonExactValueSchema isNFC value.baseline
    ∧ ComparisonExactValueSchema isNFC value.candidate
    ∧ ComparisonExactValueSchema isNFC value.delta
    ∧ refineAvailableComparisonMetricValue value = []

instance (isNFC : String → Bool) (value : AvailableComparisonMetricValue)
    : Decidable (AvailableComparisonMetricValueSchema isNFC value) :=
  inferInstanceAs (Decidable (_ ∧ _))

end Comparison
end ProofStack
