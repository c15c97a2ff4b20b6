import ProofStack.Contracts.Artifact
import ProofStack.Contracts.PolicyEvaluation.Request
import ProofStack.Contracts.Text

/-!
This module contains the result of one policy rule with its exact operands.
-/

namespace ProofStack

def maxPolicyEvaluationRuleResultBytes : Nat := 2 * 1024

inductive PolicyEvaluationRuleOutcome where
  | satisfied
  | violated
  | indeterminate
  | notApplicable
  deriving DecidableEq

inductive ReleasePolicyPredicateKind where
  | comparisonThreshold
  | coverageFloor
  | uncertaintyBound
  | eligibilityRequired
  | artifactRequired
  | safetyEventCeiling
  | approvalRequired
  deriving DecidableEq

inductive PolicyEvaluationUnresolvedReason where
  | approvalNotEvaluated
  | artifactContentUnavailable
  | artifactReferenceUnavailable
  | assessmentNotDeclared
  | assessmentUnavailable
  | candidateAuthorityUnverified
  | comparisonAmbiguous
  | comparisonLineageInvalid
  | comparisonMissing
  | comparisonUnresolved
  | criterionAuthorityUnverified
  | evidenceIncomparable
  | evidenceUnqualified
  | intervalConfidenceMismatch
  | intervalMethodMismatch
  | intervalUnavailable
  | metricMissing
  | metricTypeMismatch
  | metricValueUnavailable
  | modelResolutionMissing
  | policyAuthorityUnverified
  | policyExpired
  | policyNotEffective
  | policySuperseded
  | policyWithdrawn
  | requiredSelectorUnknown
  | samplingAssumptionUnsupported
  | sourceUnavailable
  | zeroDenominator
  deriving DecidableEq

inductive PolicyEvaluationLimitation where
  | approvalNotEvaluated
  | declaredReferenceAuthorityOnly
  | externalObjectObservationOnly
  | historicalObservationOnly
  | incompleteCandidatePopulation
  deriving DecidableEq

def PolicyEvaluationLimitation.text : PolicyEvaluationLimitation → String
  | .approvalNotEvaluated => "approval_not_evaluated"
  | .declaredReferenceAuthorityOnly => "declared_reference_authority_only"
  | .externalObjectObservationOnly => "external_object_observation_only"
  | .historicalObservationOnly => "historical_observation_only"
  | .incompleteCandidatePopulation => "incomplete_candidate_population"

structure ExactDecimal where
  negative : Bool
  whole : Nat
  digits : Nat
  fraction : Nat
  whole_lt : whole < 10 ^ 18
  digits_le : digits ≤ 18
  fraction_lt : fraction < 10 ^ digits

instance : DecidableEq ExactDecimal := fun left right =>
  decidable_of_iff (left.negative = right.negative ∧ left.whole = right.whole ∧ left.digits = right.digits
      ∧ left.fraction = right.fraction) (by
    cases left
    cases right
    simp only [ExactDecimal.mk.injEq])

namespace ExactDecimal

def numerator (value : ExactDecimal) : Int :=
  (value.whole * 10 ^ value.digits + value.fraction : Nat) * (if value.negative then -1 else 1)

def denominator (value : ExactDecimal) : Nat :=
  10 ^ value.digits

def IsPolicyDecimal (value : ExactDecimal) : Prop :=
  ¬(value.negative ∧ value.whole = 0 ∧ value.fraction = 0)
    ∧ (value.digits = 0 ∨ value.fraction % 10 ≠ 0)

instance (value : ExactDecimal) : Decidable value.IsPolicyDecimal :=
  inferInstanceAs (Decidable (_ ∧ _))

def IsUnitInterval (value : ExactDecimal) : Prop :=
  ¬value.negative ∧ (value.whole = 0 ∨ value.whole = 1 ∧ value.fraction = 0)

instance (value : ExactDecimal) : Decidable value.IsUnitInterval :=
  inferInstanceAs (Decidable (_ ∧ _))

end ExactDecimal

inductive ComparisonExactValue where
  | decimal (unit : String) (value : ExactDecimal)
  | rational (unit : String) (numerator : Int) (denominator : Nat)
  deriving DecidableEq

namespace ComparisonExactValue

def unit : ComparisonExactValue → String
  | .decimal unit _ | .rational unit _ _ => unit

def isExactInteger (value : Int) : Bool :=
  value.natAbs < 10 ^ (if value < 0 then 127 else 128)

def Accepted (isNFC : String → Bool) : ComparisonExactValue → Prop
  | .decimal unit _ => AssuranceSummarySchema isNFC unit
  | .rational unit numerator denominator =>
    AssuranceSummarySchema isNFC unit
      ∧ isExactInteger numerator
      ∧ isExactInteger denominator
      ∧ 0 < denominator
      ∧ (numerator = 0 → denominator = 1)
      ∧ numerator.natAbs.gcd denominator = 1

instance (isNFC : String → Bool) (value : ComparisonExactValue) : Decidable (value.Accepted isNFC) := by
  cases value <;> unfold Accepted <;> infer_instance

def fraction : ComparisonExactValue → Int × Nat
  | .decimal _ value => (value.numerator, value.denominator)
  | .rational _ numerator denominator => (numerator, denominator)

end ComparisonExactValue

inductive ExactOrder where
  | below
  | same
  | above
  deriving DecidableEq

def ExactOrder.ofSign (value : Int) : ExactOrder :=
  if value < 0 then .below else if value > 0 then .above else .same

inductive ReleasePolicyUnit where
  | artifacts
  | assuranceRecords
  | attempts
  | basisPoints
  | bytes
  | calls
  | cases
  | evaluationOutcomes
  | events
  | interactions
  | milliseconds
  | providerCostMicrounits
  | requests
  | tokens
  deriving DecidableEq

def ReleasePolicyUnit.text : ReleasePolicyUnit → String
  | .artifacts => "artifacts"
  | .assuranceRecords => "assurance_records"
  | .attempts => "attempts"
  | .basisPoints => "basis_points"
  | .bytes => "bytes"
  | .calls => "calls"
  | .cases => "cases"
  | .evaluationOutcomes => "evaluation_outcomes"
  | .events => "events"
  | .interactions => "interactions"
  | .milliseconds => "milliseconds"
  | .providerCostMicrounits => "provider_cost_microunits"
  | .requests => "requests"
  | .tokens => "tokens"

inductive ReleasePolicyComparator where
  | equal
  | greaterThan
  | greaterThanOrEqual
  | lessThan
  | lessThanOrEqual
  | notEqual
  deriving DecidableEq

def ReleasePolicyComparator.matches : ReleasePolicyComparator → ExactOrder → Bool
  | .equal, order => order = .same
  | .notEqual, order => order ≠ .same
  | .greaterThan, order => order = .above
  | .greaterThanOrEqual, order => order ≠ .below
  | .lessThan, order => order = .below
  | .lessThanOrEqual, order => order ≠ .above

inductive ComparisonOperand where
  | baseline
  | candidate
  | delta
  deriving DecidableEq

inductive CountPopulation where
  | baselineObservedCount
  | candidateObservedCount
  | pairedObservedCount
  | pairedTotalCount
  | decidedCount
  | attemptedCount
  deriving DecidableEq

inductive RatioPopulation where
  | baseline
  | candidate
  | paired
  deriving DecidableEq

inductive IntervalBound where
  | lower
  | upper
  deriving DecidableEq

inductive IntervalComparator where
  | atLeast
  | atMost
  deriving DecidableEq

def IntervalComparator.matches : IntervalComparator → ExactOrder → Bool
  | .atLeast, order => order ≠ .below
  | .atMost, order => order ≠ .above

inductive AssessmentClass where
  | evaluation
  | modelAssurance
  deriving DecidableEq

inductive PolicyArtifactStatus where
  | componentMissing
  | artifactMissing
  | verified
  | mediaTypeDisallowed
  | classificationDisallowed
  deriving DecidableEq

inductive SafetyEventClass where
  | guardrailCheck
  | replaySafetyIntervention
  | uncertainSideEffect
  deriving DecidableEq

inductive PolicyEvaluationRuleEvidence where
  | notEvaluated (reason : PolicyEvaluationUnresolvedReason)
  | applicabilityMismatch
  | exactThreshold (operand : ComparisonOperand) (value : ComparisonExactValue)
    (threshold : ExactDecimal) (unit : ReleasePolicyUnit) (comparator : ReleasePolicyComparator)
    (order : ExactOrder)
  | countFloor (population : CountPopulation) (observedCount minimumCount : Nat) (order : ExactOrder)
  | ratioFloor (numeratorPopulation denominatorPopulation : RatioPopulation)
    (numerator denominator minimumBasisPoints : Nat) (order : ExactOrder)
  | uncertaintyBound (bound : IntervalBound) (value : ExactDecimal) (thresholdBasisPoints : Nat)
    (comparator : IntervalComparator) (confidenceLevelBasisPoints successCount trialCount : Nat)
    (order : ExactOrder)
  | eligibility (assessmentClass : AssessmentClass) (eligible : Bool)
  | artifact (status : PolicyArtifactStatus) (reference : Option ArtifactContentReference)
  | safetyCeiling (eventClass : SafetyEventClass) (observedCount maximumCount : Nat)
    (candidatePopulationComplete : Bool) (order : ExactOrder)
  deriving DecidableEq

namespace PolicyEvaluationRuleEvidence

def isSafeCount (count : Nat) : Bool :=
  count ≤ maxSafeInteger

def Shape (isNFC : String → Bool) : PolicyEvaluationRuleEvidence → Prop
  | .notEvaluated _ | .applicabilityMismatch | .eligibility _ _ => True
  | .exactThreshold _ value threshold _ _ _ => value.Accepted isNFC ∧ threshold.IsPolicyDecimal
  | .countFloor _ observedCount minimumCount _ => isSafeCount observedCount ∧ isSafeCount minimumCount
  | .ratioFloor _ _ numerator denominator minimumBasisPoints _ =>
    isSafeCount numerator
      ∧ isSafeCount denominator
      ∧ 0 < denominator
      ∧ boundedInteger 1 10000 minimumBasisPoints
  | .uncertaintyBound _ value thresholdBasisPoints _ confidenceLevelBasisPoints successCount trialCount _ =>
    value.IsUnitInterval
      ∧ boundedInteger 0 10000 thresholdBasisPoints
      ∧ boundedInteger 5000 9999 confidenceLevelBasisPoints
      ∧ isSafeCount successCount
      ∧ isSafeCount trialCount
      ∧ 0 < trialCount
  | .artifact _ reference => ∀ artifact ∈ reference, artifact.Accepted
  | .safetyCeiling _ observedCount maximumCount _ _ =>
    isSafeCount observedCount ∧ isSafeCount maximumCount

instance (isNFC : String → Bool) (value : PolicyEvaluationRuleEvidence)
    : Decidable (value.Shape isNFC) := by
  cases value <;> unfold Shape <;> infer_instance

def expectedKind : PolicyEvaluationRuleEvidence → Option ReleasePolicyPredicateKind
  | .notEvaluated _ | .applicabilityMismatch => none
  | .exactThreshold .. => some .comparisonThreshold
  | .countFloor .. | .ratioFloor .. => some .coverageFloor
  | .uncertaintyBound .. => some .uncertaintyBound
  | .eligibility .. => some .eligibilityRequired
  | .artifact .. => some .artifactRequired
  | .safetyCeiling .. => some .safetyEventCeiling

def ordering : PolicyEvaluationRuleEvidence
    → Option (ExactOrder × ExactOrder × PolicyEvaluationRuleOutcome)
  | .exactThreshold _ value threshold _ comparator order =>
    some (order,
      .ofSign (value.fraction.1 * threshold.denominator - threshold.numerator * value.fraction.2),
      if comparator.matches order then .satisfied else .violated)
  | .countFloor _ observedCount minimumCount order =>
    some (order, .ofSign (observedCount - minimumCount),
      if order = .below then .violated else .satisfied)
  | .ratioFloor _ _ numerator denominator minimumBasisPoints order =>
    some (order, .ofSign (numerator * 10000 - minimumBasisPoints * denominator),
      if order = .below then .violated else .satisfied)
  | .uncertaintyBound _ value thresholdBasisPoints comparator _ _ _ order =>
    some (order, .ofSign (value.numerator * 10000 - thresholdBasisPoints * value.denominator),
      if comparator.matches order then .satisfied else .violated)
  | .safetyCeiling _ observedCount maximumCount candidatePopulationComplete order =>
    some (order, .ofSign (observedCount - maximumCount),
      if order = .above then .violated
      else if candidatePopulationComplete then .satisfied
      else .indeterminate)
  | .notEvaluated _ | .applicabilityMismatch | .eligibility _ _ | .artifact _ _ => none

end PolicyEvaluationRuleEvidence

structure PolicyEvaluationRuleResult where
  ruleIndex : Nat
  ruleId : String
  predicateKind : ReleasePolicyPredicateKind
  outcome : PolicyEvaluationRuleOutcome
  evidence : PolicyEvaluationRuleEvidence
  limitations : List PolicyEvaluationLimitation
  deriving DecidableEq

namespace PolicyEvaluationRuleResult

@[mk_iff]
structure Shape (isNFC : String → Bool) (value : PolicyEvaluationRuleResult) : Prop where
  ruleIndex : boundedInteger 0 (maxPolicyRules - 1) value.ruleIndex
  ruleId : OpaqueIdSchema value.ruleId
  evidence : value.evidence.Shape isNFC
  limitations_length : value.limitations.length ≤ 5
  limitations_sorted : isStrictlySortedUnique (value.limitations.map (·.text))

instance (isNFC : String → Bool) (value : PolicyEvaluationRuleResult) : Decidable (value.Shape isNFC) :=
  decidable_of_iff _ (shape_iff isNFC value).symm

def isIncompleteSafety : PolicyEvaluationRuleEvidence → Bool
  | .safetyCeiling _ _ _ candidatePopulationComplete _ => !candidatePopulationComplete
  | _ => false

def operandIssues (value : PolicyEvaluationRuleResult) : List String :=
  match value.evidence with
  | .exactThreshold _ exact _ unit _ _ =>
    issue (exact.unit ≠ unit.text) "Exact threshold evidence cannot change its original unit"
  | .ratioFloor numeratorPopulation denominatorPopulation numerator denominator _ _ =>
    issue (numerator > denominator) "Observed count cannot exceed its complete population"
      ++ issue (denominatorPopulation ≠ numeratorPopulation)
        "Ratio operands require the same population"
  | .uncertaintyBound _ _ _ _ _ successCount trialCount _ =>
    issue (successCount > trialCount) "Wilson successes cannot exceed trials"
  | .artifact status reference =>
    issue (¬(status = .componentMissing ↔ reference = none))
        "Artifact presence must retain its exact descriptor"
      ++ issue (¬(value.outcome = .satisfied ↔ status = .verified))
        "Artifact verdict must preserve its original observed status"
  | .safetyCeiling _ _ _ candidatePopulationComplete _ =>
    issue (value.outcome = .satisfied ∧ ¬candidatePopulationComplete)
        "Partial safety observations cannot satisfy a ceiling"
      ++ issue (¬candidatePopulationComplete
            ∧ .incompleteCandidatePopulation ∉ value.limitations)
        "Incomplete safety population must remain an explicit limitation"
  | .eligibility _ eligible =>
    issue (¬(value.outcome = .satisfied ↔ eligible)) "Verdict must preserve original eligibility"
  | .notEvaluated _ | .applicabilityMismatch | .countFloor .. => []

def orderIssues (value : PolicyEvaluationRuleResult) : List String :=
  match value.evidence.ordering with
  | none => []
  | some (order, actualOrder, expected) =>
    issue (actualOrder ≠ order) "Retained ordering must match its exact original operands"
      ++ issue (value.outcome ≠ expected) "Verdict cannot contradict retained exact ordering"

def computedIssues (value : PolicyEvaluationRuleResult) : List String :=
  issue (some value.predicateKind ≠ value.evidence.expectedKind)
      "Evidence must retain its original predicate family"
    ++ issue (value.outcome ≠ .satisfied ∧ value.outcome ≠ .violated
          ∧ ¬(isIncompleteSafety value.evidence ∧ value.outcome = .indeterminate))
      "Computed evidence requires an explicit verdict or incomplete safety population"
    ++ value.operandIssues
    ++ value.orderIssues

def issues (resultBytes : PolicyEvaluationRuleResult → Nat) (value : PolicyEvaluationRuleResult)
    : List String :=
  issue (resultBytes value > maxPolicyEvaluationRuleResultBytes)
      "Compact rule result exceeds its encoded metadata ceiling"
    ++ match value.evidence with
      | .notEvaluated reason =>
        issue (value.outcome ≠ .indeterminate) "Unresolved evidence cannot become a verdict"
          ++ issue (¬(value.predicateKind = .approvalRequired ↔ reason = .approvalNotEvaluated))
            "Approval is an explicit unresolved prerequisite in algorithm 1.0.0"
      | .applicabilityMismatch =>
        issue (value.predicateKind = .approvalRequired) "No computed approval outcome is supported"
          ++ issue (value.outcome ≠ .notApplicable) "Mismatch must preserve its applicability outcome"
      | _ =>
        issue (value.predicateKind = .approvalRequired) "No computed approval outcome is supported"
          ++ value.computedIssues

def Accepted (isNFC : String → Bool) (resultBytes : PolicyEvaluationRuleResult → Nat)
    (value : PolicyEvaluationRuleResult) : Prop :=
  value.Shape isNFC ∧ value.issues resultBytes = []

instance (isNFC : String → Bool) (resultBytes : PolicyEvaluationRuleResult → Nat)
    (value : PolicyEvaluationRuleResult) : Decidable (value.Accepted isNFC resultBytes) :=
  inferInstanceAs (Decidable (_ ∧ _))

variable {isNFC : String → Bool} {resultBytes : PolicyEvaluationRuleResult → Nat}
variable {value : PolicyEvaluationRuleResult}

theorem Accepted.indeterminate_of_approval (h : value.Accepted isNFC resultBytes)
    (happroval : value.predicateKind = .approvalRequired)
    : value.outcome = .indeterminate := by
  have hissues := (List.append_eq_nil_iff.mp h.2).2
  split at hissues
  . simp only [List.append_eq_nil_iff, issue_eq_nil, not_not] at hissues
    exact hissues.1
  . simp [happroval] at hissues
  . simp [happroval] at hissues

end PolicyEvaluationRuleResult

end ProofStack
