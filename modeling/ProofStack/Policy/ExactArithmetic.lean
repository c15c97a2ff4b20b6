import ProofStack.Contracts.PolicyEvaluation.RuleResult
import ProofStack.Evaluation.ExactAggregationLaws
import ProofStack.Host.Text

/-!
This module contains the comparisons that the predicates of a policy are decided with.
-/

namespace ProofStack
namespace Policy

open Arithmetic Checks Comparison Evaluation

inductive PolicyNumericInputErrorCode where
  | invalidBasisPoints
  | invalidComparator
  | invalidCount
  | invalidPopulation
  | invalidProbabilityBound
  | invalidThreshold
  | invalidUnit
  | invalidValue
  | mixedUnits
  deriving DecidableEq

inductive PolicyNumericError where
  | input (code : PolicyNumericInputErrorCode) (message : String)
  | arithmetic (error : ComparisonExactArithmeticError)
  deriving DecidableEq

abbrev Compared (α : Type) := Except PolicyNumericError α

structure PolicyNumericComparison where
  doesMatch : Bool
  order : Int
  deriving DecidableEq

def ReleasePolicyComparatorSchema (value : String) : Option ReleasePolicyComparator :=
  [("equal", .equal), ("greater_than", .greaterThan), ("greater_than_or_equal", .greaterThanOrEqual),
    ("less_than", .lessThan), ("less_than_or_equal", .lessThanOrEqual), ("not_equal", .notEqual)].lookup value

def ReleasePolicyUnitSchema (value : String) : Bool :=
  [ReleasePolicyUnit.artifacts, .assuranceRecords, .attempts, .basisPoints, .bytes, .calls, .cases,
    .evaluationOutcomes, .events, .interactions, .milliseconds, .providerCostMicrounits, .requests,
    .tokens].any (·.text = value)

def ReleasePolicyExactDecimalSchema (value : String) : Bool :=
  let unsigned := unsignedText value.toList
  let whole := unsigned.takeWhile (· ≠ '.')
  let fraction := (unsigned.dropWhile (· ≠ '.')).tail
  ExactDecimalSchema value
    && !(value.toList.head? = some '-' && whole = ['0'] && fraction.all (· = '0'))
    && fraction.getLast? ≠ some '0'

def isPointText (text : List Char) : Bool :=
  isFractionText text && (text = [] || text.head? = some '.')

def UnitIntervalDecimalSchema (value : String) : Bool :=
  match value.toList with
  | '0' :: fraction => isPointText fraction
  | '1' :: fraction => isPointText fraction && fraction.tail.all (· = '0')
  | _ => false

def comparator (value : String) : Compared ReleasePolicyComparator :=
  found (ReleasePolicyComparatorSchema value) (.input .invalidComparator "Expected a declared policy comparator")

def comparison (order : Int) (operation : ReleasePolicyComparator) : PolicyNumericComparison where
  doesMatch := match operation with
    | .equal => order = 0
    | .greaterThan => order = 1
    | .greaterThanOrEqual => order ≠ -1
    | .lessThan => order = -1
    | .lessThanOrEqual => order ≠ 1
    | .notEqual => order ≠ 0
  order := order

def orderOfIntegers (left right : Int) : Int :=
  if left < right then -1 else if left > right then 1 else 0

def countOf (value : Host.Number) : Option Nat :=
  value.integer.bind (fun count => if Host.isSafeInteger count ∧ 0 ≤ count then some count.toNat else none)

def assertCount (value : Host.Number) : Compared Nat :=
  found (countOf value) (.input .invalidCount "Counts must be nonnegative safe integers")

def basisPointsOf (minimum : Nat) (value : Host.Number) : Option Nat :=
  (countOf value).filter (fun basisPoints => minimum ≤ basisPoints && basisPoints ≤ 10000)

def assertBasisPoints (value : Host.Number) (minimum : Nat) : Compared Nat :=
  found (basisPointsOf minimum value) (.input .invalidBasisPoints
    ("Basis points must be integers from " ++ toString minimum ++ " to 10000"))

def compareValues (isNFC : String → Bool) (left right : Comparison.ComparisonExactValue) : Compared Int :=
  (compareComparisonExactValues isNFC left right).mapError .arithmetic

def comparePolicyExactThreshold (isNFC : String → Bool) (value : Comparison.ComparisonExactValue)
    (threshold unit operation : String) : Compared PolicyNumericComparison := do
  let parsedComparator ← comparator operation
  failIf (¬ReleasePolicyUnitSchema unit) (.input .invalidUnit "Expected a declared policy unit")
  failIf (¬ReleasePolicyExactDecimalSchema threshold)
    (.input .invalidThreshold "Expected a canonical policy decimal")
  let parsedValue ← parseWith (ComparisonExactValueSchema isNFC value)
    (.input .invalidValue "Expected a bounded exact comparison value") value
  failIf (parsedValue.unit ≠ unit) (.input .mixedUnits "Operand and policy units must match exactly")
  let order ← compareValues isNFC parsedValue (.decimal unit threshold)
  return comparison order parsedComparator

def comparePolicyCounts (observed threshold : Host.Number) (operation : String)
    : Compared PolicyNumericComparison := do
  let parsedComparator ← comparator operation
  let observed ← assertCount observed
  let threshold ← assertCount threshold
  return comparison (orderOfIntegers observed threshold) parsedComparator

def comparePolicyCoverageRatio (observed total minimumBasisPoints : Host.Number)
    : Compared (Option PolicyNumericComparison) := do
  let observed ← assertCount observed
  let total ← assertCount total
  let minimumBasisPoints ← assertBasisPoints minimumBasisPoints 1
  failIf (observed > total) (.input .invalidPopulation "Observed count cannot exceed total count")
  if total = 0 then
    return none
  return some (comparison (orderOfIntegers (observed * 10000) (minimumBasisPoints * total)) .greaterThanOrEqual)

def basisPointsText (basisPoints : Nat) : String :=
  if basisPoints = 10000 then "1"
  else String.ofList ('0' :: '.' :: padStart 4 (Nat.toDigits 10 basisPoints))

def boundComparator (operation : String) : Option ReleasePolicyComparator :=
  [("at_least", .greaterThanOrEqual), ("at_most", .lessThanOrEqual)].lookup operation

def comparePolicyProbabilityBound (isNFC : String → Bool) (bound : String) (thresholdBasisPoints : Host.Number)
    (operation : String) : Compared PolicyNumericComparison := do
  let parsedComparator ← found (boundComparator operation)
    (.input .invalidComparator "Expected at_least or at_most")
  let thresholdBasisPoints ← assertBasisPoints thresholdBasisPoints 0
  failIf (¬UnitIntervalDecimalSchema bound)
    (.input .invalidProbabilityBound "Expected a bounded unit-interval decimal")
  let order ← compareValues isNFC (.decimal "probability" bound)
    (.decimal "probability" (basisPointsText thresholdBasisPoints))
  return comparison order parsedComparator

def Holds (operation : ReleasePolicyComparator) (value threshold : ℚ) : Prop :=
  match operation with
  | .equal => value = threshold
  | .greaterThan => threshold < value
  | .greaterThanOrEqual => threshold ≤ value
  | .lessThan => value < threshold
  | .lessThanOrEqual => value ≤ threshold
  | .notEqual => value ≠ threshold

def orderOf (value threshold : ℚ) : Int :=
  if value = threshold then 0 else if value < threshold then -1 else 1

def IsExact (operation : ReleasePolicyComparator) (value threshold : ℚ) (result : PolicyNumericComparison) : Prop :=
  result.order = orderOf value threshold ∧ (result.doesMatch = true ↔ Holds operation value threshold)

variable {result : PolicyNumericComparison}

theorem isExact_iff {operation : ReleasePolicyComparator} {value threshold : ℚ}
    : IsExact operation value threshold result ↔ comparison (orderOf value threshold) operation = result := by
  have hmatches : (comparison (orderOf value threshold) operation).doesMatch = true
      ↔ Holds operation value threshold := by
    unfold orderOf
    rcases lt_trichotomy value threshold with h | h | h
    . cases operation <;> simp [comparison, Holds, h, h.le, h.ne, h.not_ge, h.not_gt]
    . cases operation <;> simp [comparison, Holds, h]
    . cases operation <;> simp [comparison, Holds, h, h.le, h.ne', h.not_ge, h.not_gt]
  rcases result with ⟨doesMatch, order⟩
  unfold IsExact
  rw [← hmatches, ← Bool.eq_iff_iff]
  constructor
  . rintro ⟨horder, hmatch⟩
    dsimp only at horder hmatch
    rw [horder, hmatch]
    rfl
  . intro h
    rw [← h]
    exact ⟨rfl, rfl⟩

theorem orderOfIntegers_eq (left right : Int) : orderOfIntegers left right = orderOf left right := by
  unfold orderOfIntegers orderOf
  simp only [Int.cast_inj, Int.cast_lt]
  grind

theorem orderOf_div {left right denominator denominator' : ℚ} (h : 0 < denominator) (h' : 0 < denominator')
    : orderOf (left * denominator') (right * denominator) = orderOf (left / denominator) (right / denominator') := by
  unfold orderOf
  simp only [div_lt_div_iff₀ h h', div_eq_div_iff h.ne' h'.ne']

variable {isNFC : String → Bool}

theorem compareValues_eq {left right : Comparison.ComparisonExactValue}
    (hleft : ComparisonExactValueSchema isNFC left) (hright : ComparisonExactValueSchema isNFC right)
    (hunit : left.unit = right.unit)
    : compareValues isNFC left right = .ok (orderOf (numberOf left) (numberOf right)) := by
  rw [compareValues, compareComparisonExactValues_eq hleft hright hunit]
  rfl

theorem ExactDecimalSchema_of_isPointText {value : String} {first : Char} {fraction : List Char}
    (hfirst : first = '0' ∨ first = '1') (hvalue : value.toList = first :: fraction)
    (hfraction : isPointText fraction = true)
    : ExactDecimalSchema value = true := by
  rw [isPointText, Bool.and_eq_true] at hfraction
  have hwhole : (first :: fraction).takeWhile (· ≠ '.') = [first] := by
    rcases hfirst with rfl | rfl <;> cases fraction <;> simp_all
  have hpoint : (first :: fraction).dropWhile (· ≠ '.') = fraction := by
    rcases hfirst with rfl | rfl <;> cases fraction <;> simp_all
  have hunsigned : unsignedText (first :: fraction) = first :: fraction := by
    rcases hfirst with rfl | rfl <;> rfl
  have hlength : fraction.length ≤ 19 := by
    cases fraction with
    | nil => simp
    | cons point digits =>
      have hdigits := hfraction.1
      simp only [isFractionText, Bool.and_eq_true, decide_eq_true_eq] at hdigits
      rw [List.length_cons]
      omega
  have hnatural : isNaturalText [first] = true := by
    rcases hfirst with rfl | rfl <;> rfl
  simp only [ExactDecimalSchema, hvalue, hunsigned, hwhole, hpoint, hnatural, hfraction.1, List.length_cons]
  simp
  omega

theorem ExactDecimalSchema_of_unitInterval {value : String} (h : UnitIntervalDecimalSchema value = true)
    : ExactDecimalSchema value = true := by
  unfold UnitIntervalDecimalSchema at h
  split at h
  . next hvalue => exact ExactDecimalSchema_of_isPointText (.inl rfl) hvalue h
  . next hvalue =>
    rw [Bool.and_eq_true] at h
    exact ExactDecimalSchema_of_isPointText (.inr rfl) hvalue h.1
  . contradiction

theorem toList_basisPointsText {basisPoints : Nat} (h : basisPoints ≠ 10000)
    : (basisPointsText basisPoints).toList = '0' :: '.' :: padStart 4 (Nat.toDigits 10 basisPoints) := by
  rw [basisPointsText, if_neg h, String.toList_ofList]

theorem UnitIntervalDecimalSchema_basisPointsText {basisPoints : Nat} (h : basisPoints ≤ 10000)
    : UnitIntervalDecimalSchema (basisPointsText basisPoints) = true := by
  by_cases hone : basisPoints = 10000
  . rw [hone]
    decide
  . have hlength := length_padStart (length_toDigits_le (show 0 < 4 by decide) (show basisPoints < 10 ^ 4 by omega))
    have hdigits : (padStart 4 (Nat.toDigits 10 basisPoints)).all Char.isDigit = true :=
      all_isDigit_padStart (all_isDigit_toDigits basisPoints)
    rw [UnitIntervalDecimalSchema, toList_basisPointsText hone]
    simp only [isPointText, isFractionText, hlength, hdigits]
    simp

theorem splitPoint_point {digits : List Char} (h : digits.all Char.isDigit = true)
    : splitPoint ('0' :: '.' :: digits) = (['0'], digits) := by
  have hdigits : digits.takeWhile (· ≠ '.') = digits := by
    rw [List.takeWhile_eq_self_iff]
    intro c hmem
    have hdigit := List.all_eq_true.mp h c hmem
    rw [decide_eq_true_eq]
    rintro rfl
    contradiction
  change (['0'], digits.takeWhile (· ≠ '.')) = (['0'], digits)
  rw [hdigits]

theorem numberOf_basisPointsText {basisPoints : Nat} (unit : String) (h : basisPoints ≤ 10000)
    : numberOf (.decimal unit (basisPointsText basisPoints)) = basisPoints / 10000 := by
  by_cases hone : basisPoints = 10000
  . rw [hone]
    have hparts : exactDecimalParts (basisPointsText 10000) = ⟨1, 0⟩ := by rfl
    rw [numberOf, hparts]
    norm_num
  . have hlength := length_padStart (length_toDigits_le (show 0 < 4 by decide) (show basisPoints < 10 ^ 4 by omega))
    have hdigits : (padStart 4 (Nat.toDigits 10 basisPoints)).all Char.isDigit = true :=
      all_isDigit_padStart (all_isDigit_toDigits basisPoints)
    have hread : readNatural ('0' :: padStart 4 (Nat.toDigits 10 basisPoints)) = basisPoints := by
      rw [← List.singleton_append, readNatural_append, readNatural_padStart, readNatural_toDigits]
      exact (congrArg (· + basisPoints) (Nat.zero_mul _)).trans (Nat.zero_add basisPoints)
    have hparts : exactDecimalParts (basisPointsText basisPoints) = ⟨basisPoints, 4⟩ := by
      rw [exactDecimalParts, toList_basisPointsText hone]
      have hunsigned : unsignedText ('0' :: '.' :: padStart 4 (Nat.toDigits 10 basisPoints))
          = '0' :: '.' :: padStart 4 (Nat.toDigits 10 basisPoints) := by rfl
      simp only [hunsigned, splitPoint_point hdigits, List.singleton_append, hread, hlength]
      simp
    rw [numberOf, hparts]
    norm_num

def IsInput : PolicyNumericError → Prop
  | .input _ _ => True
  | .arithmetic _ => False

def ThresholdResult (isNFC : String → Bool) (value : Comparison.ComparisonExactValue)
    (threshold unit operation : String) (result : PolicyNumericComparison) : Prop :=
  ∃ parsed, ReleasePolicyComparatorSchema operation = some parsed ∧ ReleasePolicyUnitSchema unit
    ∧ ReleasePolicyExactDecimalSchema threshold ∧ ComparisonExactValueSchema isNFC value ∧ value.unit = unit
    ∧ IsExact parsed (numberOf value) (numberOf (.decimal unit threshold)) result

def CountsResult (observed threshold : Host.Number) (operation : String) (result : PolicyNumericComparison) : Prop :=
  ∃ parsed left right, ReleasePolicyComparatorSchema operation = some parsed ∧ countOf observed = some left
    ∧ countOf threshold = some right ∧ IsExact parsed left right result

def RatioResult (observed total minimumBasisPoints : Host.Number) (result : Option PolicyNumericComparison) : Prop :=
  ∃ part population basisPoints, countOf observed = some part ∧ countOf total = some population
    ∧ basisPointsOf 1 minimumBasisPoints = some basisPoints ∧ part ≤ population
    ∧ (population = 0 ∧ result = none
      ∨ 0 < population ∧ ∃ compared, result = some compared
        ∧ IsExact .greaterThanOrEqual (part / population) (basisPoints / 10000) compared)

def BoundResult (bound : String) (thresholdBasisPoints : Host.Number) (operation : String)
    (result : PolicyNumericComparison) : Prop :=
  ∃ parsed basisPoints, boundComparator operation = some parsed
    ∧ basisPointsOf 0 thresholdBasisPoints = some basisPoints ∧ UnitIntervalDecimalSchema bound
    ∧ IsExact parsed (numberOf (.decimal "probability" bound)) (basisPoints / 10000) result

/-- Each comparison is the one of the exact numbers of its inputs, and no arithmetic of admitted inputs fails. -/
structure PolicyComparisons (isNFC : String → Bool) : Prop where
  threshold : ∀ value threshold unit operation result,
    comparePolicyExactThreshold isNFC value threshold unit operation = .ok result
      ↔ ThresholdResult isNFC value threshold unit operation result
  counts : ∀ observed threshold operation result,
    comparePolicyCounts observed threshold operation = .ok result ↔ CountsResult observed threshold operation result
  ratio : ∀ observed total minimumBasisPoints result,
    comparePolicyCoverageRatio observed total minimumBasisPoints = .ok result
      ↔ RatioResult observed total minimumBasisPoints result
  bound : ∀ bound thresholdBasisPoints operation result,
    comparePolicyProbabilityBound isNFC bound thresholdBasisPoints operation = .ok result
      ↔ BoundResult bound thresholdBasisPoints operation result
  threshold_input : ∀ value threshold unit operation error,
    comparePolicyExactThreshold isNFC value threshold unit operation = .error error → IsInput error
  bound_input : ∀ bound thresholdBasisPoints operation error,
    comparePolicyProbabilityBound isNFC bound thresholdBasisPoints operation = .error error → IsInput error

theorem basisPointsOf_le {minimum basisPoints : Nat} {value : Host.Number}
    (h : basisPointsOf minimum value = some basisPoints)
    : basisPoints ≤ 10000 := by
  rw [basisPointsOf, Option.filter_eq_some_iff, Bool.and_eq_true, decide_eq_true_eq, decide_eq_true_eq] at h
  exact h.2.2

variable {value : Comparison.ComparisonExactValue}

theorem unit_of_schema (h : ComparisonExactValueSchema isNFC value)
    : AssuranceSummarySchema isNFC value.unit = true := by
  cases value with
  | decimal unit value => exact h.1
  | rational denominator numerator unit => exact h.2.2.1

theorem compareValues_threshold {unit threshold : String}
    (hvalue : ComparisonExactValueSchema isNFC value) (hunit : value.unit = unit)
    (hthreshold : ReleasePolicyExactDecimalSchema threshold = true)
    : compareValues isNFC value (.decimal unit threshold)
        = .ok (orderOf (numberOf value) (numberOf (.decimal unit threshold))) := by
  simp only [ReleasePolicyExactDecimalSchema, Bool.and_eq_true] at hthreshold
  exact compareValues_eq hvalue ⟨hunit ▸ unit_of_schema hvalue, hthreshold.1.1⟩ hunit

theorem comparePolicyExactThreshold_eq_ok
    {threshold unit operation : String}
    : comparePolicyExactThreshold isNFC value threshold unit operation = .ok result
        ↔ ThresholdResult isNFC value threshold unit operation result := by
  simp only [ThresholdResult, comparePolicyExactThreshold, comparator, bind_eq_ok, found_eq_ok, failIf_eq_ok,
    parseWith_eq_ok,
    pure_eq_ok, not_not, isExact_iff]
  constructor
  . rintro ⟨parsed, hparsed, _, hunit, _, hthreshold, _, ⟨hvalue, rfl⟩, _, hsame, order, horder, hresult⟩
    rw [compareValues_threshold hvalue hsame hthreshold] at horder
    cases horder
    exact ⟨parsed, hparsed, hunit, hthreshold, hvalue, hsame, hresult⟩
  . rintro ⟨parsed, hparsed, hunit, hthreshold, hvalue, hsame, hresult⟩
    exact ⟨parsed, hparsed, (), hunit, (), hthreshold, value, ⟨hvalue, rfl⟩, (), hsame, _,
      compareValues_threshold hvalue hsame hthreshold, hresult⟩

theorem comparePolicyCounts_eq_ok {observed threshold : Host.Number} {operation : String}
    : comparePolicyCounts observed threshold operation = .ok result
        ↔ CountsResult observed threshold operation result := by
  simp only [CountsResult, comparePolicyCounts, comparator, assertCount, bind_eq_ok, found_eq_ok, pure_eq_ok, isExact_iff,
    orderOfIntegers_eq, Int.cast_natCast]
  grind

theorem orderOfIntegers_ratio {part population basisPoints : Nat} (h : population ≠ 0)
    : orderOfIntegers (part * 10000) (basisPoints * population) = orderOf (part / population) (basisPoints / 10000) := by
  have hpopulation : (0 : ℚ) < population := by exact_mod_cast Nat.pos_of_ne_zero h
  rw [orderOfIntegers_eq, ← orderOf_div hpopulation (by norm_num)]
  push_cast
  rfl

theorem comparePolicyCoverageRatio_eq_ok {observed total minimumBasisPoints : Host.Number}
    {result : Option PolicyNumericComparison}
    : comparePolicyCoverageRatio observed total minimumBasisPoints = .ok result
        ↔ RatioResult observed total minimumBasisPoints result := by
  have hcompared (part population basisPoints : Nat)
      : (if population = 0 then return none
          else return some (comparison (orderOfIntegers (part * 10000) (basisPoints * population))
            .greaterThanOrEqual) : Compared (Option PolicyNumericComparison)) = .ok result
          ↔ population = 0 ∧ result = none
            ∨ 0 < population ∧ ∃ compared, result = some compared
              ∧ IsExact .greaterThanOrEqual (part / population : ℚ) (basisPoints / 10000) compared := by
    by_cases hempty : population = 0
    . simp only [hempty, if_true, pure_eq_ok]
      grind
    . have hpopulation := Nat.pos_of_ne_zero hempty
      simp only [hempty, if_false, false_and, false_or, hpopulation, true_and, pure_eq_ok,
        orderOfIntegers_ratio hempty, isExact_iff]
      grind
  simp only [RatioResult, comparePolicyCoverageRatio, assertCount, assertBasisPoints, bind_eq_ok, found_eq_ok,
    failIf_eq_ok,
    not_lt, hcompared]
  grind

theorem compareValues_bound (hnfc : isNFC "probability" = true) {bound : String} {basisPoints : Nat}
    (hbound : UnitIntervalDecimalSchema bound = true) (hbasisPoints : basisPoints ≤ 10000)
    : compareValues isNFC (.decimal "probability" bound) (.decimal "probability" (basisPointsText basisPoints))
        = .ok (orderOf (numberOf (.decimal "probability" bound)) (basisPoints / 10000)) := by
  have hunit : AssuranceSummarySchema isNFC "probability" = true := by
    unfold AssuranceSummarySchema boundedCanonicalText
    rw [hnfc]
    decide
  rw [← numberOf_basisPointsText "probability" hbasisPoints]
  exact compareValues_eq ⟨hunit, ExactDecimalSchema_of_unitInterval hbound⟩
    ⟨hunit, ExactDecimalSchema_of_unitInterval (UnitIntervalDecimalSchema_basisPointsText hbasisPoints)⟩ rfl

theorem comparePolicyProbabilityBound_eq_ok (hnfc : isNFC "probability" = true) {bound operation : String}
    {thresholdBasisPoints : Host.Number}
    : comparePolicyProbabilityBound isNFC bound thresholdBasisPoints operation = .ok result
        ↔ BoundResult bound thresholdBasisPoints operation result := by
  simp only [BoundResult, comparePolicyProbabilityBound, assertBasisPoints, bind_eq_ok, found_eq_ok, failIf_eq_ok,
    pure_eq_ok,
    not_not, isExact_iff]
  constructor
  . rintro ⟨parsed, hparsed, basisPoints, hbasisPoints, _, hbound, order, horder, hresult⟩
    rw [compareValues_bound hnfc hbound (basisPointsOf_le hbasisPoints)] at horder
    cases horder
    exact ⟨parsed, basisPoints, hparsed, hbasisPoints, hbound, hresult⟩
  . rintro ⟨parsed, basisPoints, hparsed, hbasisPoints, hbound, hresult⟩
    exact ⟨parsed, hparsed, basisPoints, hbasisPoints, (), hbound, _,
      compareValues_bound hnfc hbound (basisPointsOf_le hbasisPoints), hresult⟩

variable {error : PolicyNumericError}
variable {code : PolicyNumericInputErrorCode}

theorem IsInput_of_found {α : Type} {value : Option α} {message : String}
    (h : found value (.input code message) = .error error)
    : IsInput error := by
  unfold found at h
  split at h
  . contradiction
  . cases h
    trivial

theorem IsInput_of_failIf {condition : Prop} [Decidable condition]
    {message : String} (h : failIf condition (.input code message) = .error error)
    : IsInput error := by
  unfold failIf at h
  split at h
  . cases h
    trivial
  . contradiction

theorem IsInput_of_parseWith {α : Type} {accepted : Prop} [Decidable accepted] {value : α}
    {message : String}
    (h : parseWith accepted (.input code message) value = .error error)
    : IsInput error := by
  unfold parseWith at h
  split at h
  . contradiction
  . cases h
    trivial

theorem comparePolicyExactThreshold_input
    {threshold unit operation : String}
    (h : comparePolicyExactThreshold isNFC value threshold unit operation = .error error)
    : IsInput error := by
  rcases bind_eq_error.mp h with h | ⟨parsed, _, h⟩
  . exact IsInput_of_found h
  rcases bind_eq_error.mp h with h | ⟨_, _, h⟩
  . exact IsInput_of_failIf h
  rcases bind_eq_error.mp h with h | ⟨_, hthreshold, h⟩
  . exact IsInput_of_failIf h
  rcases bind_eq_error.mp h with h | ⟨_, hvalue, h⟩
  . exact IsInput_of_parseWith h
  rcases bind_eq_error.mp h with h | ⟨_, hunit, h⟩
  . exact IsInput_of_failIf h
  rcases parseWith_eq_ok.mp hvalue with ⟨hadmitted, rfl⟩
  rw [compareValues_threshold hadmitted (not_not.mp (failIf_eq_ok.mp hunit))
    (not_not.mp (failIf_eq_ok.mp hthreshold))] at h
  contradiction

theorem comparePolicyProbabilityBound_input (hnfc : isNFC "probability" = true) {bound operation : String}
    {thresholdBasisPoints : Host.Number}
    (h : comparePolicyProbabilityBound isNFC bound thresholdBasisPoints operation = .error error)
    : IsInput error := by
  rcases bind_eq_error.mp h with h | ⟨parsed, _, h⟩
  . exact IsInput_of_found h
  rcases bind_eq_error.mp h with h | ⟨basisPoints, hbasisPoints, h⟩
  . exact IsInput_of_found h
  rcases bind_eq_error.mp h with h | ⟨_, hbound, h⟩
  . exact IsInput_of_failIf h
  rw [compareValues_bound hnfc (not_not.mp (failIf_eq_ok.mp hbound))
    (basisPointsOf_le (found_eq_ok.mp hbasisPoints))] at h
  contradiction

theorem policyComparisons (hnfc : isNFC "probability" = true) : PolicyComparisons isNFC where
  threshold _ _ _ _ _ := comparePolicyExactThreshold_eq_ok
  counts _ _ _ _ := comparePolicyCounts_eq_ok
  ratio _ _ _ _ := comparePolicyCoverageRatio_eq_ok
  bound _ _ _ _ := comparePolicyProbabilityBound_eq_ok hnfc
  threshold_input _ _ _ _ _ := comparePolicyExactThreshold_input
  bound_input _ _ _ _ := comparePolicyProbabilityBound_input hnfc

theorem policyComparisons_quarter
    : comparePolicyProbabilityBound (fun _ => true) "0.25" (.ofNat 2500) "at_least" = .ok ⟨true, 0⟩ := by
  have hcomparisons : PolicyComparisons (fun _ => true) := policyComparisons rfl
  refine (hcomparisons.bound _ _ _ _).mpr ⟨.greaterThanOrEqual, 2500, by decide, by decide, by decide, ?_⟩
  have hnumber : numberOf (.decimal "probability" "0.25") = (2500 : Nat) / 10000 := by
    have hparts : exactDecimalParts "0.25" = ⟨25, 2⟩ := by rfl
    rw [numberOf, hparts]
    norm_num
  rw [isExact_iff, hnumber, orderOf, if_pos rfl]
  rfl

end Policy
end ProofStack
