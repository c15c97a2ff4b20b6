import ProofStack.Contracts.Comparison.Definition
import ProofStack.Contracts.Comparison.ExactValue
import ProofStack.Sequence.Keyed

/-!
This module contains the evidence snapshots that a comparison is derived from.
-/

namespace ProofStack
namespace Comparison

open Assurance (RecordReference CriterionReference DatasetVersionReference EvaluationVerdict
  AssessmentEligibilityReason ModelAssuranceIneligibilityReason)
open Datasets (RegressionFixtureVersionReference)
open Replay (ReplayBudgetDimension safeNonnegativeInteger safePositiveInteger)

def maxComparisonOmissions : Nat := 4000

structure ComparisonVerdictCounts where
  abstain : Nat
  error : Nat
  fail : Nat
  notApplicable : Nat
  pass : Nat
  total : Nat
  deriving DecidableEq

namespace ComparisonVerdictCounts

def count (counts : ComparisonVerdictCounts) : EvaluationVerdict → Nat
  | .abstain => counts.abstain
  | .error => counts.error
  | .fail => counts.fail
  | .notApplicable => counts.notApplicable
  | .pass => counts.pass

def Accepted (value : ComparisonVerdictCounts) : Prop :=
  (∀ verdict ∈ [EvaluationVerdict.abstain, .error, .fail, .notApplicable, .pass],
      safeNonnegativeInteger (value.count verdict))
    ∧ safeNonnegativeInteger value.total
    ∧ issue (value.abstain + value.error + value.fail + value.notApplicable + value.pass ≠ value.total)
      "Verdict counts must reconstruct the exact total" = []

instance (value : ComparisonVerdictCounts) : Decidable value.Accepted :=
  inferInstanceAs (Decidable (_ ∧ _ ∧ _))

end ComparisonVerdictCounts

structure ComparisonEvaluationOutcome where
  assessment : RecordReference
  counts : ComparisonVerdictCounts
  criterion : CriterionReference
  deriving DecidableEq

def ComparisonEvaluationOutcome.Accepted (value : ComparisonEvaluationOutcome) : Prop :=
  RecordReference.Accepted value.assessment
    ∧ value.counts.Accepted
    ∧ CriterionReference.Accepted value.criterion

instance (value : ComparisonEvaluationOutcome) : Decidable value.Accepted :=
  inferInstanceAs (Decidable (_ ∧ _ ∧ _))

structure ComparisonNumericObservation where
  measurementName : String
  observation : RecordReference
  unit : String
  value : String
  deriving DecidableEq

@[mk_iff]
structure ComparisonNumericObservation.Accepted (isNFC : String → Bool)
    (value : ComparisonNumericObservation) : Prop where
  measurementName : AssuranceSummarySchema isNFC value.measurementName
  observation : RecordReference.Accepted value.observation
  unit : AssuranceSummarySchema isNFC value.unit
  value : ExactDecimalSchema value.value

instance (isNFC : String → Bool) (value : ComparisonNumericObservation) : Decidable (value.Accepted isNFC) :=
  decidable_of_iff _ (ComparisonNumericObservation.accepted_iff isNFC value).symm

def AssessmentEligibilityReason.text : AssessmentEligibilityReason → String
  | .criterionNotApproved => "criterion_not_approved"
  | .criterionNotApplicable => "criterion_not_applicable"
  | .criticalCounterevidence => "critical_counterevidence"
  | .digestMismatch => "digest_mismatch"
  | .humanReviewRequired => "human_review_required"
  | .insufficientCoverage => "insufficient_coverage"
  | .insufficientEvidenceClasses => "insufficient_evidence_classes"
  | .insufficientIndependentQuorum => "insufficient_independent_quorum"
  | .invalidProvenance => "invalid_provenance"
  | .missingNonModelEvidence => "missing_non_model_evidence"
  | .qualificationNotCurrent => "qualification_not_current"
  | .sourceIdentityNotVerified => "source_identity_not_verified"
  | .sourceReviewNotCurrent => "source_review_not_current"
  | .unresolvedDisagreement => "unresolved_disagreement"
  | .unsupportedStatisticalAssumptions => "unsupported_statistical_assumptions"

inductive ComparisonAssuranceState where
  | assessment (eligible : Bool) (reasons : List AssessmentEligibilityReason) (reference : RecordReference)
  | modelAssurance (eligible : Bool) (reasons : List ModelAssuranceIneligibilityReason)
    (reference : RecordReference)
  deriving DecidableEq

namespace ComparisonAssuranceState

def key : ComparisonAssuranceState → String
  | .assessment _ _ reference => "assessment:" ++ reference.key
  | .modelAssurance _ _ reference => "model_assurance:" ++ reference.key

def assessmentReference? : ComparisonAssuranceState → Option RecordReference
  | .assessment _ _ reference => some reference
  | .modelAssurance .. => none

def modelAssuranceReference? : ComparisonAssuranceState → Option RecordReference
  | .assessment .. => none
  | .modelAssurance _ _ reference => some reference

def Accepted : ComparisonAssuranceState → Prop
  | .assessment eligible reasons reference =>
    isStrictlySortedUnique (reasons.map AssessmentEligibilityReason.text)
      ∧ RecordReference.Accepted reference
      ∧ issue (¬(eligible ↔ reasons = [])) "Assessment eligibility and reasons must agree" = []
  | .modelAssurance eligible reasons reference =>
    isStrictlySortedUnique (reasons.map (·.text))
      ∧ RecordReference.Accepted reference
      ∧ issue (¬(eligible ↔ reasons = [])) "Model-assurance eligibility and reasons must agree" = []

instance (value : ComparisonAssuranceState) : Decidable value.Accepted := by
  cases value <;> unfold Accepted <;> infer_instance

end ComparisonAssuranceState

inductive ComparisonArtifactAvailability where
  | available
  | revoked
  | unavailable
  deriving DecidableEq

structure ComparisonArtifactState where
  artifact : ArtifactContentReference
  availability : ComparisonArtifactAvailability
  deriving DecidableEq

inductive ComparisonUsageSource where
  | estimated
  | measured
  | providerReported
  deriving DecidableEq

def ComparisonUsageSource.text : ComparisonUsageSource → String
  | .estimated => "estimated"
  | .measured => "measured"
  | .providerReported => "provider_reported"

inductive ComparisonUsageUnavailableReason where
  | measurementFailed
  | providerDidNotReport
  | sourceUnavailable
  deriving DecidableEq

def ComparisonUsageUnavailableReason.text : ComparisonUsageUnavailableReason → String
  | .measurementFailed => "measurement_failed"
  | .providerDidNotReport => "provider_did_not_report"
  | .sourceUnavailable => "source_unavailable"

inductive ComparisonUsageValue where
  | available (amount observedCount : Nat) (sources : List ComparisonUsageSource)
  | partly (amount observedCount : Nat) (sources : List ComparisonUsageSource) (unavailableCount : Nat)
    (unavailableReasons : List ComparisonUsageUnavailableReason)
  | unavailable (unavailableCount : Nat) (unavailableReasons : List ComparisonUsageUnavailableReason)
  deriving DecidableEq

namespace ComparisonUsageValue

def usageSources (sources : List ComparisonUsageSource) : Prop :=
  boundedInteger 1 3 sources.length ∧ isStrictlySortedUnique (sources.map (·.text))

instance (sources : List ComparisonUsageSource) : Decidable (usageSources sources) :=
  inferInstanceAs (Decidable (_ ∧ _))

def unavailableUsageReasons (reasons : List ComparisonUsageUnavailableReason) : Prop :=
  boundedInteger 1 3 reasons.length ∧ isStrictlySortedUnique (reasons.map (·.text))

instance (reasons : List ComparisonUsageUnavailableReason) : Decidable (unavailableUsageReasons reasons) :=
  inferInstanceAs (Decidable (_ ∧ _))

def Accepted : ComparisonUsageValue → Prop
  | .available amount observedCount sources =>
    safeNonnegativeInteger amount ∧ safePositiveInteger observedCount ∧ usageSources sources
  | .partly amount observedCount sources unavailableCount reasons =>
    safeNonnegativeInteger amount
      ∧ safePositiveInteger observedCount
      ∧ usageSources sources
      ∧ safePositiveInteger unavailableCount
      ∧ unavailableUsageReasons reasons
  | .unavailable unavailableCount reasons =>
    safePositiveInteger unavailableCount ∧ unavailableUsageReasons reasons

instance (value : ComparisonUsageValue) : Decidable value.Accepted := by
  cases value <;> unfold Accepted <;> infer_instance

end ComparisonUsageValue

structure ComparisonUsageDimension where
  dimension : ReplayBudgetDimension
  value : ComparisonUsageValue
  deriving DecidableEq

/-- The trace and the safety events of a fixture are left out. -/
structure ComparisonEvidenceFixtureSnapshot where
  artifacts : List ComparisonArtifactState
  assurance : List ComparisonAssuranceState
  evaluationOutcomes : List ComparisonEvaluationOutcome
  fixture : RegressionFixtureVersionReference
  numericObservations : List ComparisonNumericObservation
  replay : EvaluationReplayResultReference
  usage : List ComparisonUsageDimension
  deriving DecidableEq

namespace ComparisonEvidenceFixtureSnapshot

def outcomeKey (outcome : ComparisonEvaluationOutcome) : String :=
  outcome.criterion.criterionId ++ ":" ++ outcome.assessment.key

def observationKey (observation : ComparisonNumericObservation) : String :=
  observation.measurementName ++ ":" ++ observation.unit ++ ":" ++ observation.observation.key

@[mk_iff]
structure Accepted (isNFC : String → Bool) (value : ComparisonEvidenceFixtureSnapshot) : Prop where
  artifacts : ∀ state ∈ value.artifacts, state.artifact.Accepted
  artifacts_length : value.artifacts.length ≤ maxComparisonArtifacts
  artifacts_sorted : isStrictlySortedUnique
    (value.artifacts.map (fun state => state.artifact.artifactId ++ ":" ++ state.artifact.sha256))
  artifactIds_sorted : isStrictlySortedUnique (value.artifacts.map (·.artifact.artifactId))
  assurance : ∀ state ∈ value.assurance, state.Accepted
  assurance_length : value.assurance.length ≤ maxComparisonSubjectAssessments * 2
  assurance_sorted : isStrictlySortedUnique (value.assurance.map (·.key))
  evaluationOutcomes : ∀ outcome ∈ value.evaluationOutcomes, outcome.Accepted
  evaluationOutcomes_length : value.evaluationOutcomes.length ≤ maxComparisonSubjectAssessments
  evaluationOutcomes_sorted : isStrictlySortedUnique (value.evaluationOutcomes.map outcomeKey)
  fixture : value.fixture.Accepted
  numericObservations : ∀ observation ∈ value.numericObservations, observation.Accepted isNFC
  numericObservations_length : value.numericObservations.length ≤ maxComparisonNumericObservations
  numericObservations_sorted : isStrictlySortedUnique (value.numericObservations.map observationKey)
  replay : value.replay.Accepted
  usage : ∀ entry ∈ value.usage, entry.value.Accepted
  usage_length : value.usage.length ≤ Replay.replayBudgetDimensions.length
  usage_sorted : isStrictlySortedUnique (value.usage.map (·.dimension.text))

instance (isNFC : String → Bool) (value : ComparisonEvidenceFixtureSnapshot)
    : Decidable (value.Accepted isNFC) :=
  decidable_of_iff _ (accepted_iff isNFC value).symm

end ComparisonEvidenceFixtureSnapshot

inductive ArtifactOmissionReason where
  | artifactRevoked
  | artifactUnavailable
  deriving DecidableEq

inductive MeasurementOmissionReason where
  | measurementUnavailable
  | sourceOverLimit
  deriving DecidableEq

inductive ComparisonOmission where
  | artifact (artifactId fixtureId : String) (reason : ArtifactOmissionReason)
  | assessment (assessment : RecordReference) (fixtureId : String)
  | classifiedContent (fixtureId projectionKey : String)
  | modelAssuranceAssessment (fixtureId : String) (modelAssuranceAssessment : RecordReference)
  | numericMeasurement (fixtureId measurementName : String) (reason : MeasurementOmissionReason) (unit : String)
  deriving DecidableEq

namespace ComparisonOmission

def fixtureId : ComparisonOmission → String
  | .artifact _ fixtureId _ => fixtureId
  | .assessment _ fixtureId => fixtureId
  | .classifiedContent fixtureId _ => fixtureId
  | .modelAssuranceAssessment fixtureId _ => fixtureId
  | .numericMeasurement fixtureId _ _ _ => fixtureId

def key : ComparisonOmission → String
  | .artifact artifactId fixtureId _ => fixtureId ++ ":artifact:" ++ artifactId
  | .assessment reference fixtureId => fixtureId ++ ":assessment:" ++ reference.key
  | .classifiedContent fixtureId projectionKey => fixtureId ++ ":classified_content:" ++ projectionKey
  | .modelAssuranceAssessment fixtureId reference =>
    fixtureId ++ ":model_assurance_assessment:" ++ reference.key
  | .numericMeasurement fixtureId measurementName _ unit =>
    fixtureId ++ ":numeric_measurement:" ++ measurementName ++ ":" ++ unit

def Accepted (isNFC : String → Bool) : ComparisonOmission → Prop
  | .artifact artifactId fixtureId _ => OpaqueIdSchema artifactId ∧ OpaqueIdSchema fixtureId
  | .assessment reference fixtureId => RecordReference.Accepted reference ∧ OpaqueIdSchema fixtureId
  | .classifiedContent fixtureId projectionKey =>
    OpaqueIdSchema fixtureId ∧ AssuranceSummarySchema isNFC projectionKey
  | .modelAssuranceAssessment fixtureId reference =>
    OpaqueIdSchema fixtureId ∧ RecordReference.Accepted reference
  | .numericMeasurement fixtureId measurementName _ unit =>
    OpaqueIdSchema fixtureId
      ∧ AssuranceSummarySchema isNFC measurementName
      ∧ AssuranceSummarySchema isNFC unit

instance (isNFC : String → Bool) (value : ComparisonOmission) : Decidable (value.Accepted isNFC) := by
  cases value <;> unfold Accepted <;> infer_instance

def retainedIssues (retained : ComparisonEvidenceFixtureSnapshot) : ComparisonOmission → List String
  | .artifact artifactId _ reason =>
    match retained.artifacts.find? (·.artifact.artifactId = artifactId) with
    | none => ["An artifact omission must retain its exact unavailable artifact state"]
    | some state =>
      issue (state.availability ≠ if reason = .artifactRevoked then .revoked else .unavailable)
        "A retained artifact state must agree with its omission reason"
  | .assessment reference _ =>
    issue (retained.assurance.any (·.assessmentReference? = some reference))
      "An omitted assessment cannot also be retained in assurance evidence"
  | .classifiedContent _ _ => []
  | .modelAssuranceAssessment _ reference =>
    issue (retained.assurance.any (·.modelAssuranceReference? = some reference))
      "An omitted model-assurance assessment cannot also be retained"
  | .numericMeasurement _ measurementName _ unit =>
    issue (retained.numericObservations.any (fun observation =>
        observation.measurementName = measurementName ∧ observation.unit = unit))
      "An omitted measurement cannot also be retained as an exact observation"

end ComparisonOmission

inductive ComparisonRole where
  | baseline
  | candidate
  deriving DecidableEq

structure ComparisonEvidenceSnapshot where
  comparison : ComparisonDefinitionReference
  dataset : DatasetVersionReference
  fixtures : List ComparisonEvidenceFixtureSnapshot
  omissions : List ComparisonOmission
  role : ComparisonRole
  scope : EvidenceScope
  snapshotId : String
  deriving DecidableEq

namespace ComparisonEvidenceSnapshot

def retainedArtifacts (value : ComparisonEvidenceSnapshot) : List (String × String) :=
  value.fixtures.flatMap (fun fixture =>
    fixture.artifacts.map (fun state => (state.artifact.artifactId, fixture.fixture.fixtureId)))

def ownerIssues (owners : List (String × String)) : List (String × String) → List String
  | [] => []
  | (artifactId, fixtureId) :: rest =>
    match owners.lookup artifactId with
    | some owner => ("Artifact identity is already retained by fixture " ++ owner) :: ownerIssues owners rest
    | none => ownerIssues ((artifactId, fixtureId) :: owners) rest

def refineComparisonEvidenceSnapshot (value : ComparisonEvidenceSnapshot) : List String :=
  ownerIssues [] value.retainedArtifacts
    ++ issue (value.retainedArtifacts.length > maxComparisonArtifacts)
      "Evidence snapshots can retain at most 4000 artifacts in total"
    ++ value.omissions.flatMap (fun omission =>
      match Sequence.lookup (·.fixture.fixtureId) value.fixtures omission.fixtureId with
      | none => ["Evidence omissions must reference a retained exact fixture"]
      | some retained => omission.retainedIssues retained)

@[mk_iff]
structure Accepted (isNFC : String → Bool) (value : ComparisonEvidenceSnapshot) : Prop where
  comparison : OpaqueIdSchema value.comparison.comparisonId
    ∧ OpaqueIdSchema value.comparison.comparisonVersionId
    ∧ Sha256Schema value.comparison.definitionSha256
  dataset : DatasetVersionReference.Accepted value.dataset
  fixtures : ∀ fixture ∈ value.fixtures, fixture.Accepted isNFC
  fixtures_length : boundedInteger 1 maxComparisonSubjectFixtures value.fixtures.length
  fixtures_sorted : isStrictlySortedUnique (value.fixtures.map (subjectFixtureKey ·.fixture))
  omissions : ∀ omission ∈ value.omissions, omission.Accepted isNFC
  omissions_length : value.omissions.length ≤ maxComparisonOmissions
  omissions_sorted : isStrictlySortedUnique (value.omissions.map (·.key))
  scope : EvidenceScopeSchema value.scope
  snapshotId : OpaqueIdSchema value.snapshotId
  issues : value.refineComparisonEvidenceSnapshot = []

instance (isNFC : String → Bool) (value : ComparisonEvidenceSnapshot) : Decidable (value.Accepted isNFC) :=
  decidable_of_iff _ (accepted_iff isNFC value).symm

end ComparisonEvidenceSnapshot

end Comparison
end ProofStack
