import ProofStack.Checks
import ProofStack.Contracts.Comparison.ExactValue

/-!
This module contains the exact arithmetic that comparison results are derived with.
-/

namespace ProofStack
namespace Evaluation

open Arithmetic Checks Comparison

inductive ComparisonExactArithmeticErrorCode where
  | emptySample
  | invalidAggregation
  | invalidValue
  | mixedUnits
  | resultOutOfBounds
  | sampleLimitExceeded
  deriving DecidableEq

inductive ComparisonExactArithmeticError where
  | arithmetic (code : ComparisonExactArithmeticErrorCode) (message : String)
  -- the result is not accepted by the schema
  | invalidResult
  deriving DecidableEq

abbrev Exact (α : Type) := Except ComparisonExactArithmeticError α

structure ParsedExactValue where
  fraction : Fraction
  unit : String

def normalizeFraction (numerator denominator : Int) : Exact Fraction :=
  if denominator = 0 then
    .error (.arithmetic .invalidValue "Exact comparison values cannot have a zero denominator")
  else
    let sign := if denominator < 0 then -1 else 1
    if numerator * sign = 0 then .ok ⟨0, 1⟩
    else .ok (Fraction.divided (numerator * sign) (denominator * sign))

def assertResultBounds (value : Fraction) : Exact Fraction := do
  failIf ((integerText value.numerator).length > maxComparisonExactIntegerCharacters
      ∨ (integerText value.denominator).length > maxComparisonExactIntegerCharacters)
    (.arithmetic .resultOutOfBounds
      "The exact comparison result exceeds the bounded 128-character integer representation")
  return value

def decimalFraction (value : String) : Exact Fraction :=
  let negative := value.toList.head? = some '-'
  let parts := splitPoint (unsignedText value.toList)
  normalizeFraction (readNatural (parts.1 ++ parts.2) * (if negative then -1 else 1)) (10 ^ parts.2.length)

def fractionOf : Comparison.ComparisonExactValue → Exact Fraction
  | .rational denominator numerator _ =>
    normalizeFraction (readInteger numerator.toList) (readInteger denominator.toList)
  | .decimal _ value => decimalFraction value

def parseExactValue (isNFC : String → Bool) (value : Comparison.ComparisonExactValue) : Exact ParsedExactValue := do
  let parsed ← parseWith (ComparisonExactValueSchema isNFC value)
    (.arithmetic .invalidValue "The exact comparison value does not satisfy the public contract") value
  let fraction ← fractionOf parsed
  return ⟨fraction, parsed.unit⟩

def compareFractions (left right : Fraction) : Int :=
  let difference := left.numerator * right.denominator - right.numerator * left.denominator
  if difference = 0 then 0 else if difference < 0 then -1 else 1

def addFractions (left right : Fraction) : Exact Fraction := do
  let sharedDivisor := greatestCommonDivisor left.denominator right.denominator
  let leftMultiplier := right.denominator.tdiv sharedDivisor
  let rightMultiplier := left.denominator.tdiv sharedDivisor
  let sum ← normalizeFraction (left.numerator * leftMultiplier + right.numerator * rightMultiplier)
    (left.denominator * leftMultiplier)
  assertResultBounds sum

def exactValue (isNFC : String → Bool) (value : Fraction) (unit : String) : Exact Comparison.ComparisonExactValue := do
  let normalized ← normalizeFraction value.numerator value.denominator
  let bounded ← assertResultBounds normalized
  let result := Comparison.ComparisonExactValue.rational (String.ofList (integerText bounded.denominator))
    (String.ofList (integerText bounded.numerator)) unit
  parseWith (ComparisonExactValueSchema isNFC result) .invalidResult result

def subtractComparisonExactValues (isNFC : String → Bool) (baseline candidate : Comparison.ComparisonExactValue)
    : Exact Comparison.ComparisonExactValue := do
  let parsedBaseline ← parseExactValue isNFC baseline
  let parsedCandidate ← parseExactValue isNFC candidate
  failIf (parsedBaseline.unit ≠ parsedCandidate.unit)
    (.arithmetic .mixedUnits "Exact comparison subtraction cannot combine different units")
  let difference ← addFractions parsedCandidate.fraction
    ⟨-parsedBaseline.fraction.numerator, parsedBaseline.fraction.denominator⟩
  exactValue isNFC difference parsedBaseline.unit

def compareComparisonExactValues (isNFC : String → Bool) (left right : Comparison.ComparisonExactValue)
    : Exact Int := do
  let parsedLeft ← parseExactValue isNFC left
  let parsedRight ← parseExactValue isNFC right
  failIf (parsedLeft.unit ≠ parsedRight.unit)
    (.arithmetic .mixedUnits "Exact comparison ordering cannot combine different units")
  return compareFractions parsedLeft.fraction parsedRight.fraction

end Evaluation
end ProofStack

/-!
This module contains the proof that the arithmetic of derived results and the check of the result schema
agree: both compute with the numbers that exact values denote.
-/

namespace ProofStack
namespace Evaluation

open Arithmetic Checks Comparison

variable {isNFC : String → Bool}

def numberOf : Comparison.ComparisonExactValue → ℚ
  | .decimal _ value => ((exactDecimalParts value).integer : ℚ) / 10 ^ (exactDecimalParts value).scale
  | .rational denominator numerator _ =>
    (readInteger numerator.toList : ℚ) / readInteger denominator.toList

def directionOf (baseline candidate : ℚ) : ComparisonDirection :=
  if candidate - baseline = 0 then .unchanged else if candidate - baseline < 0 then .decreased else .increased

theorem ten_pow_pos (scale : Nat) : (0 : Int) < 10 ^ scale :=
  Int.pow_pos (by decide)

theorem exactFraction_decimal_reduced (unit value : String)
    : (exactFraction (.decimal unit value)).Reduced :=
  Fraction.divided_reduced (ten_pow_pos _)

theorem exactFraction_rational_reduced {denominator numerator unit : String}
    (h : ComparisonExactValueSchema isNFC (.rational denominator numerator unit))
    : (exactFraction (.rational denominator numerator unit)).Reduced := by
  rcases h with ⟨hdenominator, _, _, hlowest⟩
  rw [refineExactRational, issue_eq_nil, not_or, not_not, greatestCommonDivisor_eq_gcd] at hlowest
  rw [ExactPositiveIntegerSchema, Bool.and_eq_true] at hdenominator
  exact ⟨readInteger_pos hdenominator.2, by exact_mod_cast hlowest.2⟩

variable {value : Comparison.ComparisonExactValue}

theorem exactFraction_reduced (h : ComparisonExactValueSchema isNFC value)
    : (exactFraction value).Reduced := by
  cases value with
  | decimal unit value => exact exactFraction_decimal_reduced unit value
  | rational denominator numerator unit => exact exactFraction_rational_reduced h

theorem value_exactFraction (value : Comparison.ComparisonExactValue)
    : (exactFraction value).value = numberOf value := by
  cases value with
  | decimal unit value =>
    rw [exactFraction, Fraction.value_divided (ten_pow_pos _), numberOf]
    push_cast
    rfl
  | rational denominator numerator unit => rfl

theorem normalizeFraction_eq {numerator denominator : Int} (h : 0 < denominator)
    : normalizeFraction numerator denominator = .ok (Fraction.divided numerator denominator) := by
  unfold normalizeFraction
  rw [if_neg (Int.ne_of_gt h)]
  simp only [if_neg (Int.not_lt.mpr (Int.le_of_lt h)), Int.mul_one]
  split
  . next hzero =>
    rw [hzero, Fraction.divided_eq, Int.gcd_zero_left, Int.natCast_natAbs, abs_of_pos h, Int.zero_ediv,
      Int.ediv_self (Int.ne_of_gt h)]
  . rfl

theorem divided_of_reduced {fraction : Fraction} (h : fraction.Reduced)
    : Fraction.divided fraction.numerator fraction.denominator = fraction := by
  rw [Fraction.divided_eq, h.lowest, Int.natCast_one, Int.ediv_one, Int.ediv_one]

theorem fractionOf_eq (h : ComparisonExactValueSchema isNFC value)
    : fractionOf value = .ok (exactFraction value) := by
  cases value with
  | decimal unit value => exact normalizeFraction_eq (ten_pow_pos _)
  | rational denominator numerator unit =>
    have hreduced := exactFraction_rational_reduced h
    have hdivided := divided_of_reduced hreduced
    rw [← hdivided]
    exact normalizeFraction_eq hreduced.positive

theorem parseExactValue_eq_ok {parsed : ParsedExactValue}
    : parseExactValue isNFC value = .ok parsed
        ↔ ComparisonExactValueSchema isNFC value ∧ parsed = ⟨exactFraction value, value.unit⟩ := by
  simp only [parseExactValue, bind_eq_ok, parseWith_eq_ok, pure_eq_ok]
  constructor
  . rintro ⟨_, ⟨hvalue, rfl⟩, fraction, hfraction, rfl⟩
    rw [fractionOf_eq hvalue] at hfraction
    cases hfraction
    exact ⟨hvalue, rfl⟩
  . rintro ⟨hvalue, rfl⟩
    exact ⟨value, ⟨hvalue, rfl⟩, exactFraction value, fractionOf_eq hvalue, rfl⟩

theorem assertResultBounds_eq_ok {value result : Fraction}
    : assertResultBounds value = .ok result
        ↔ (integerText value.numerator).length ≤ maxComparisonExactIntegerCharacters
          ∧ (integerText value.denominator).length ≤ maxComparisonExactIntegerCharacters
          ∧ value = result := by
  simp only [assertResultBounds, bind_eq_ok, failIf_eq_ok, pure_eq_ok, not_or, Nat.not_lt, exists_const]
  rw [and_assoc]

theorem exists_cofactors {left right : Int} (hleft : 0 < left) (hright : 0 < right)
    : ∃ a b, 0 < a ∧ 0 < b ∧ right.tdiv (greatestCommonDivisor left right) = a
        ∧ left.tdiv (greatestCommonDivisor left right) = b ∧ left * a = right * b := by
  have hgcd : 0 < (Int.gcd left right : Int) :=
    Int.natCast_pos.mpr (Int.gcd_pos_of_ne_zero_left _ (Int.ne_of_gt hleft))
  have hdvdleft : (Int.gcd left right : Int) ∣ left := Int.gcd_dvd_left ..
  have hdvdright : (Int.gcd left right : Int) ∣ right := Int.gcd_dvd_right ..
  rw [greatestCommonDivisor_eq_gcd, Int.tdiv_eq_ediv_of_dvd hdvdleft, Int.tdiv_eq_ediv_of_dvd hdvdright]
  refine ⟨_, _, Int.ediv_pos_of_pos_of_dvd hright (Int.le_of_lt hgcd) hdvdright,
    Int.ediv_pos_of_pos_of_dvd hleft (Int.le_of_lt hgcd) hdvdleft, rfl, rfl, ?_⟩
  rw [← Int.mul_ediv_assoc _ hdvdright, ← Int.mul_ediv_assoc _ hdvdleft, Int.mul_comm]

theorem addFractions_eq {left right : Fraction} (hleft : left.Reduced) (hright : right.Reduced)
    : ∃ sum : Fraction, sum.Reduced ∧ sum.value = left.value + right.value
        ∧ addFractions left right = assertResultBounds sum := by
  rcases exists_cofactors hleft.positive hright.positive with ⟨a, b, ha, hb, heqa, heqb, hcross⟩
  have hpositive : 0 < left.denominator * a := Int.mul_pos hleft.positive ha
  have hadd : addFractions left right = assertResultBounds
      (Fraction.divided (left.numerator * a + right.numerator * b) (left.denominator * a)) := by
    simp only [addFractions, heqa, heqb, normalizeFraction_eq hpositive, bind_of_ok rfl]
  refine ⟨_, Fraction.divided_reduced hpositive, ?_, hadd⟩
  have ha' : (a : ℚ) ≠ 0 := Int.cast_ne_zero.mpr (Int.ne_of_gt ha)
  have hb' : (b : ℚ) ≠ 0 := Int.cast_ne_zero.mpr (Int.ne_of_gt hb)
  have hcross' : (left.denominator : ℚ) * a = right.denominator * b := by exact_mod_cast hcross
  have hvalue : right.value = (right.numerator * b) / (left.denominator * a) := by
    rw [hcross', Fraction.value, mul_div_mul_right _ _ hb']
  have hvalue' : left.value = (left.numerator * a) / (left.denominator * a) := by
    rw [Fraction.value, mul_div_mul_right _ _ ha']
  rw [Fraction.value_divided hpositive, hvalue, hvalue', ← add_div]
  push_cast
  rfl

theorem addFractions_eq_ok {left right result : Fraction} (hleft : left.Reduced) (hright : right.Reduced)
    (h : addFractions left right = .ok result)
    : result.Reduced ∧ result.value = left.value + right.value := by
  rcases addFractions_eq hleft hright with ⟨sum, hreduced, hvalue, heq⟩
  rw [heq, assertResultBounds_eq_ok] at h
  rcases h with ⟨_, _, rfl⟩
  exact ⟨hreduced, hvalue⟩

theorem exactValue_eq_ok {fraction : Fraction} {unit : String} {result : Comparison.ComparisonExactValue}
    (hfraction : fraction.Reduced) (h : exactValue isNFC fraction unit = .ok result)
    : ComparisonExactValueSchema isNFC result ∧ result.unit = unit ∧ numberOf result = fraction.value := by
  simp only [exactValue, normalizeFraction_eq hfraction.positive, divided_of_reduced hfraction, bind_eq_ok,
    assertResultBounds_eq_ok, parseWith_eq_ok, Except.ok.injEq] at h
  rcases h with ⟨_, rfl, _, ⟨_, _, rfl⟩, hresult, rfl⟩
  refine ⟨hresult, rfl, ?_⟩
  rw [numberOf, String.toList_ofList, String.toList_ofList, readInteger_integerText,
    readInteger_integerText]
  rfl

variable {baseline candidate delta : Comparison.ComparisonExactValue}

theorem subtractComparisonExactValues_eq_ok
    (h : subtractComparisonExactValues isNFC baseline candidate = .ok delta)
    : ComparisonExactValueSchema isNFC delta ∧ delta.unit = baseline.unit
        ∧ numberOf delta = numberOf candidate - numberOf baseline := by
  simp only [subtractComparisonExactValues, bind_eq_ok, parseExactValue_eq_ok, failIf_eq_ok] at h
  rcases h with ⟨_, ⟨hbaseline, rfl⟩, _, ⟨hcandidate, rfl⟩, _, _, difference, hadd, hvalue⟩
  rcases addFractions_eq_ok (exactFraction_reduced hcandidate) (exactFraction_reduced hbaseline).neg hadd
    with ⟨hreduced, hdifference⟩
  rcases exactValue_eq_ok hreduced hvalue with ⟨hdelta, hunit, hnumber⟩
  refine ⟨hdelta, hunit, ?_⟩
  rw [hnumber, hdifference, Fraction.value_neg, value_exactFraction, value_exactFraction, sub_eq_add_neg]

theorem compareFractions_eq {left right : Fraction} (hleft : left.Reduced) (hright : right.Reduced)
    : compareFractions left right
        = if left.value - right.value = 0 then 0 else if left.value - right.value < 0 then -1 else 1 := by
  unfold compareFractions
  simp only [Fraction.cross_eq_zero_iff hleft hright, Fraction.cross_neg_iff hleft hright]

theorem compareComparisonExactValues_eq_ok {left right : Comparison.ComparisonExactValue} {ordering : Int}
    : compareComparisonExactValues isNFC left right = .ok ordering
        ↔ ComparisonExactValueSchema isNFC left ∧ ComparisonExactValueSchema isNFC right
          ∧ left.unit = right.unit
          ∧ compareFractions (exactFraction left) (exactFraction right) = ordering := by
  simp only [compareComparisonExactValues, bind_eq_ok, parseExactValue_eq_ok, failIf_eq_ok, pure_eq_ok]
  constructor
  . rintro ⟨_, ⟨hleft, rfl⟩, _, ⟨hright, rfl⟩, _, hunit, hordering⟩
    exact ⟨hleft, hright, not_not.mp hunit, hordering⟩
  . rintro ⟨hleft, hright, hunit, hordering⟩
    exact ⟨_, ⟨hleft, rfl⟩, _, ⟨hright, rfl⟩, (), not_not.mpr hunit, hordering⟩

theorem directionOfSign_compareFractions {baseline candidate : Comparison.ComparisonExactValue}
    (hbaseline : ComparisonExactValueSchema isNFC baseline)
    (hcandidate : ComparisonExactValueSchema isNFC candidate)
    : directionOfSign (compareFractions (exactFraction candidate) (exactFraction baseline))
        = directionOf (numberOf baseline) (numberOf candidate) := by
  rw [compareFractions_eq (exactFraction_reduced hcandidate) (exactFraction_reduced hbaseline),
    value_exactFraction, value_exactFraction, directionOfSign, directionOf]
  split
  . rfl
  . split <;> rfl

theorem exactDelta_doesMatch
    (hbaseline : ComparisonExactValueSchema isNFC baseline)
    (hcandidate : ComparisonExactValueSchema isNFC candidate)
    (hdelta : ComparisonExactValueSchema isNFC delta)
    : (exactDelta baseline candidate delta).doesMatch = true
        ↔ numberOf delta = numberOf candidate - numberOf baseline := by
  have hbaseline := exactFraction_reduced hbaseline
  have hcandidate := exactFraction_reduced hcandidate
  rw [← value_exactFraction, ← value_exactFraction candidate, ← value_exactFraction baseline,
    Fraction.value_sub hcandidate hbaseline,
    ← Fraction.cross_eq_iff (Int.mul_pos hcandidate.positive hbaseline.positive)
      (exactFraction_reduced hdelta)]
  exact decide_eq_true_iff

theorem directionOfSign_exactDelta
    (hdelta : ComparisonExactValueSchema isNFC delta)
    (hnumber : numberOf delta = numberOf candidate - numberOf baseline)
    : directionOfSign (exactDelta baseline candidate delta).sign
        = directionOf (numberOf baseline) (numberOf candidate) := by
  have hdelta := exactFraction_reduced hdelta
  rw [directionOf, ← hnumber, ← value_exactFraction]
  simp only [exactDelta, Fraction.value_eq_zero_iff hdelta, Fraction.value_neg_iff hdelta, directionOfSign]
  split
  . rfl
  . split <;> rfl

theorem availableComparisonMetricValueSchema_iff {value : AvailableComparisonMetricValue}
    (hbaseline : ComparisonExactValueSchema isNFC value.baseline)
    (hcandidate : ComparisonExactValueSchema isNFC value.candidate)
    : AvailableComparisonMetricValueSchema isNFC value
        ↔ ComparisonExactValueSchema isNFC value.delta
          ∧ value.baseline.unit = value.candidate.unit ∧ value.baseline.unit = value.delta.unit
          ∧ numberOf value.delta = numberOf value.candidate - numberOf value.baseline
          ∧ value.direction = directionOf (numberOf value.baseline) (numberOf value.candidate) := by
  simp only [AvailableComparisonMetricValueSchema, refineAvailableComparisonMetricValue,
    List.append_eq_nil_iff, issue_eq_nil, not_or, not_not, hbaseline, hcandidate, true_and]
  constructor
  . rintro ⟨hdelta, ⟨hunits, hmatch⟩, hdirection⟩
    have hnumber := (exactDelta_doesMatch hbaseline hcandidate hdelta).mp hmatch
    rw [directionOfSign_exactDelta hdelta hnumber] at hdirection
    exact ⟨hdelta, hunits.1, hunits.2, hnumber, hdirection⟩
  . rintro ⟨hdelta, hunit, hunit', hnumber, hdirection⟩
    rw [directionOfSign_exactDelta hdelta hnumber]
    exact ⟨hdelta, ⟨⟨hunit, hunit'⟩, (exactDelta_doesMatch hbaseline hcandidate hdelta).mpr hnumber⟩,
      hdirection⟩

/-- What is derived is accepted, and nothing else is accepted but in another representation of the same
number. -/
theorem availableComparisonMetricValueSchema_refines (isNFC : String → Bool)
    (baseline candidate : Comparison.ComparisonExactValue)
    : (∀ delta ordering, subtractComparisonExactValues isNFC baseline candidate = .ok delta →
          compareComparisonExactValues isNFC candidate baseline = .ok ordering →
          AvailableComparisonMetricValueSchema isNFC
            ⟨baseline, candidate, delta, directionOfSign ordering⟩)
        ∧ ∀ delta direction,
          AvailableComparisonMetricValueSchema isNFC ⟨baseline, candidate, delta, direction⟩ →
            (∃ ordering, compareComparisonExactValues isNFC candidate baseline = .ok ordering
              ∧ direction = directionOfSign ordering)
            ∧ numberOf delta = numberOf candidate - numberOf baseline
            ∧ ∀ derived, subtractComparisonExactValues isNFC baseline candidate = .ok derived →
              numberOf delta = numberOf derived := by
  constructor
  . intro delta ordering hsubtract hcompare
    rcases compareComparisonExactValues_eq_ok.mp hcompare with ⟨hcandidate, hbaseline, hunit, rfl⟩
    rcases subtractComparisonExactValues_eq_ok hsubtract with ⟨hdelta, hunit', hnumber⟩
    refine (availableComparisonMetricValueSchema_iff hbaseline hcandidate).mpr ?_
    exact ⟨hdelta, hunit.symm, hunit'.symm, hnumber, directionOfSign_compareFractions hbaseline hcandidate⟩
  . intro delta direction haccepted
    have hbaseline := haccepted.1
    have hcandidate := haccepted.2.1
    rcases (availableComparisonMetricValueSchema_iff hbaseline hcandidate).mp haccepted
      with ⟨_, hunit, _, hnumber, hdirection⟩
    refine ⟨⟨_, compareComparisonExactValues_eq_ok.mpr ⟨hcandidate, hbaseline, hunit.symm, rfl⟩, ?_⟩,
      hnumber, ?_⟩
    . rw [directionOfSign_compareFractions hbaseline hcandidate]
      exact hdirection
    . intro derived hsubtract
      rw [hnumber, (subtractComparisonExactValues_eq_ok hsubtract).2.2]

end Evaluation
end ProofStack
