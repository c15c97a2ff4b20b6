import ProofStack.Contracts.Dataset
import ProofStack.Contracts.PolicyEvaluation.RuleResult
import ProofStack.Contracts.PolicyEvaluation.TimeText
import ProofStack.Contracts.Replay.Job
import ProofStack.Evaluation.ExactAggregation
import ProofStack.Evaluation.ModelAssuranceAssessment

/-!
This module contains the definition of a comparison.
-/

namespace ProofStack
namespace Comparison

open Assurance (RecordReference CriterionReference DatasetVersionReference EvaluationVerdict)
open Datasets (RegressionFixtureVersionReference)
open Evaluation (ComparisonExactAggregation)
open Replay (ReplayBudgetDimension ReplayPlanJobReference TargetReleaseReference)

def maxComparisonSubjectAssessments : Nat := 128
def maxComparisonStrata : Nat := 64
def maxComparisonMetrics : Nat := 128
def maxComparisonArtifacts : Nat := 4000
def maxComparisonSubjectFixtures : Nat := Evaluation.maxComparisonSubjectFixtures
def maxComparisonNumericObservations : Nat := Evaluation.maxComparisonNumericObservations

def RecordReference.Accepted (value : RecordReference) : Prop :=
  OpaqueIdSchema value.id ∧ Sha256Schema value.definitionSha256

instance (value : RecordReference) : Decidable (RecordReference.Accepted value) :=
  inferInstanceAs (Decidable (_ ∧ _))

def CriterionReference.Accepted (value : CriterionReference) : Prop :=
  OpaqueIdSchema value.criterionId
    ∧ OpaqueIdSchema value.criterionSet.criterionSetId
    ∧ OpaqueIdSchema value.criterionSet.criterionSetVersionId
    ∧ Sha256Schema value.criterionSet.definitionSha256

instance (value : CriterionReference) : Decidable (CriterionReference.Accepted value) :=
  inferInstanceAs (Decidable (_ ∧ _))

def DatasetVersionReference.Accepted (value : DatasetVersionReference) : Prop :=
  OpaqueIdSchema value.datasetId ∧ OpaqueIdSchema value.datasetVersionId ∧ Sha256Schema value.definitionSha256

instance (value : DatasetVersionReference) : Decidable (DatasetVersionReference.Accepted value) :=
  inferInstanceAs (Decidable (_ ∧ _))

def exactDatasetKey (value : DatasetVersionReference) : String :=
  value.datasetId ++ ":" ++ value.datasetVersionId ++ ":" ++ value.definitionSha256

def fixtureReferenceKey (value : RegressionFixtureVersionReference) : String :=
  value.fixtureId ++ ":" ++ value.fixtureVersionId ++ ":" ++ value.definitionSha256

def exactCriterionKey (value : CriterionReference) : String :=
  value.criterionSet.criterionSetId ++ ":" ++ value.criterionSet.criterionSetVersionId ++ ":"
    ++ value.criterionSet.definitionSha256 ++ ":" ++ value.criterionId

structure EvaluationReplayResultReference where
  attemptId : String
  completedAt : String
  jobId : String
  plan : ReplayPlanJobReference
  result : ArtifactContentReference
  targetRelease : TargetReleaseReference
  deriving DecidableEq

@[mk_iff]
structure EvaluationReplayResultReference.Accepted (value : EvaluationReplayResultReference) : Prop where
  attemptId : OpaqueIdSchema value.attemptId
  completedAt : TimeText.PostgresTimestampSchema value.completedAt
  jobId : OpaqueIdSchema value.jobId
  plan : value.plan.Accepted
  result : value.result.Accepted
  targetRelease : value.targetRelease.Accepted

instance (value : EvaluationReplayResultReference) : Decidable value.Accepted :=
  decidable_of_iff _ (EvaluationReplayResultReference.accepted_iff value).symm

structure ComparisonDefinitionReference where
  comparisonId : String
  comparisonVersionId : String
  definitionSha256 : String
  deriving DecidableEq

structure ComparisonSubjectFixture where
  assessments : List RecordReference
  fixture : RegressionFixtureVersionReference
  modelAssuranceAssessments : List RecordReference
  replay : EvaluationReplayResultReference
  deriving DecidableEq

def exactReferences (references : List RecordReference) : Prop :=
  (∀ reference ∈ references, RecordReference.Accepted reference)
    ∧ references.length ≤ maxComparisonSubjectAssessments
    ∧ isStrictlySortedUnique (references.map (·.key))

instance (references : List RecordReference) : Decidable (exactReferences references) :=
  inferInstanceAs (Decidable (_ ∧ _ ∧ _))

@[mk_iff]
structure ComparisonSubjectFixture.Accepted (value : ComparisonSubjectFixture) : Prop where
  assessments : exactReferences value.assessments
  fixture : value.fixture.Accepted
  modelAssuranceAssessments : exactReferences value.modelAssuranceAssessments
  replay : value.replay.Accepted

instance (value : ComparisonSubjectFixture) : Decidable value.Accepted :=
  decidable_of_iff _ (ComparisonSubjectFixture.accepted_iff value).symm

def subjectFixtureKey (reference : RegressionFixtureVersionReference) : String :=
  reference.fixtureId ++ ":" ++ reference.fixtureVersionId

structure ComparisonSubject where
  dataset : DatasetVersionReference
  fixtures : List ComparisonSubjectFixture
  deriving DecidableEq

@[mk_iff]
structure ComparisonSubject.Accepted (value : ComparisonSubject) : Prop where
  dataset : DatasetVersionReference.Accepted value.dataset
  fixtures : ∀ fixture ∈ value.fixtures, fixture.Accepted
  fixtures_length : boundedInteger 1 maxComparisonSubjectFixtures value.fixtures.length
  fixtures_sorted : isStrictlySortedUnique (value.fixtures.map (subjectFixtureKey ·.fixture))

instance (value : ComparisonSubject) : Decidable value.Accepted :=
  decidable_of_iff _ (ComparisonSubject.accepted_iff value).symm

def NumericAggregationSchema (value : ComparisonExactAggregation) : Prop :=
  match value.method with
  | .maximum | .mean | .median | .minimum | .sum =>
    value.methodVersion = "1.0.0" ∧ value.basisPoints = none
  | .nearestRankQuantile =>
    value.methodVersion = "1.0.0" ∧ ∃ basisPoints ∈ value.basisPoints, 1 ≤ basisPoints ∧ basisPoints ≤ 10000
  | .unsupported _ => False

instance (value : ComparisonExactAggregation) : Decidable (NumericAggregationSchema value) := by
  rcases value with ⟨method, methodVersion, basisPoints⟩
  cases method <;> unfold NumericAggregationSchema <;> dsimp only <;> infer_instance

inductive CoverageDimension where
  | abstention
  | decided
  | error
  | observed
  deriving DecidableEq

def comparisonReplayUsageUnit : ReplayBudgetDimension → String
  | .concurrentInteractions => "interactions"
  | .elapsedMilliseconds => "milliseconds"
  | .emittedArtifactBytes => "bytes"
  | .inputTokens => "tokens"
  | .jobAttempts => "attempts"
  | .modelRequests => "requests"
  | .outputTokens => "tokens"
  | .providerCostMicrounits => "provider_cost_microunits"
  | .retrievedBytes => "bytes"
  | .toolCalls => "calls"

/-- What a metric measures. The event of a trace and the condition of an assurance are not read. -/
inductive ComparisonMeasure where
  | artifactSet
  | assuranceStateCount
  | coverageCount (criterion : CriterionReference) (dimension : CoverageDimension)
  | evaluationVerdictCount (criterion : CriterionReference) (verdict : EvaluationVerdict)
  | numericMeasurement (aggregation : ComparisonExactAggregation) (measurementName unit : String)
  | replayUsage (aggregation : ComparisonExactAggregation) (dimension : ReplayBudgetDimension) (unit : String)
  | safetyEventCount (eventKind : SafetyEventClass)
  | traceEventCount
  deriving DecidableEq

namespace ComparisonMeasure

def Accepted (isNFC : String → Bool) : ComparisonMeasure → Prop
  | .artifactSet | .assuranceStateCount | .safetyEventCount _ | .traceEventCount => True
  | .coverageCount criterion _ | .evaluationVerdictCount criterion _ => CriterionReference.Accepted criterion
  | .numericMeasurement aggregation measurementName unit =>
    NumericAggregationSchema aggregation
      ∧ AssuranceSummarySchema isNFC measurementName
      ∧ AssuranceSummarySchema isNFC unit
  | .replayUsage aggregation dimension unit =>
    NumericAggregationSchema aggregation
      ∧ AssuranceSummarySchema isNFC unit
      ∧ issue (unit ≠ comparisonReplayUsageUnit dimension)
        "Replay usage metrics must declare the canonical unit for their dimension" = []

instance (isNFC : String → Bool) (value : ComparisonMeasure) : Decidable (value.Accepted isNFC) := by
  cases value <;> unfold Accepted <;> infer_instance

end ComparisonMeasure

structure ComparisonMetric where
  measure : ComparisonMeasure
  metricId : String
  stratumId : String
  deriving DecidableEq

def ComparisonMetric.Accepted (isNFC : String → Bool) (value : ComparisonMetric) : Prop :=
  value.measure.Accepted isNFC ∧ OpaqueIdSchema value.metricId ∧ OpaqueIdSchema value.stratumId

instance (isNFC : String → Bool) (value : ComparisonMetric) : Decidable (value.Accepted isNFC) :=
  inferInstanceAs (Decidable (_ ∧ _ ∧ _))

structure ComparisonStratum where
  fixtureIds : List String
  stratumId : String
  deriving DecidableEq

@[mk_iff]
structure ComparisonStratum.Accepted (value : ComparisonStratum) : Prop where
  fixtureIds : ∀ fixtureId ∈ value.fixtureIds, OpaqueIdSchema fixtureId
  fixtureIds_length : boundedInteger 1 maxComparisonSubjectFixtures value.fixtureIds.length
  fixtureIds_sorted : isStrictlySortedUnique value.fixtureIds
  stratumId : OpaqueIdSchema value.stratumId

instance (value : ComparisonStratum) : Decidable value.Accepted :=
  decidable_of_iff _ (ComparisonStratum.accepted_iff value).symm

structure ComparisonDefinition where
  baseline : ComparisonSubject
  candidate : ComparisonSubject
  comparisonId : String
  comparisonVersionId : String
  definitionSha256 : String
  metrics : List ComparisonMetric
  minimumPairedCoverageBasisPoints : Nat
  predecessorVersionId : Option String
  scope : EvidenceScope
  strata : List ComparisonStratum
  deriving DecidableEq

namespace ComparisonDefinition

def fixtureIds (value : ComparisonDefinition) : List String :=
  value.baseline.fixtures.map (·.fixture.fixtureId) ++ value.candidate.fixtures.map (·.fixture.fixtureId)

def refineComparisonPopulation (value : ComparisonDefinition) : List String :=
  value.strata.flatMap (fun stratum => stratum.fixtureIds.flatMap (fun fixtureId =>
      issue (fixtureId ∉ value.fixtureIds)
        "Comparison strata may reference only fixtures bound by either exact subject"))
    ++ value.metrics.flatMap (fun metric =>
      issue (metric.stratumId ∉ value.strata.map (·.stratumId))
        "Every comparison metric must reference a declared exact stratum")

def refineComparisonDefinition (value : ComparisonDefinition) : List String :=
  issue (value.predecessorVersionId = some value.comparisonVersionId)
      "A comparison version cannot name itself as its predecessor"
    ++ issue (value.baseline = value.candidate) "Baseline and candidate subjects must not be identical"
    ++ value.refineComparisonPopulation

@[mk_iff]
structure Accepted (isNFC : String → Bool) (value : ComparisonDefinition) : Prop where
  baseline : value.baseline.Accepted
  candidate : value.candidate.Accepted
  comparisonId : OpaqueIdSchema value.comparisonId
  comparisonVersionId : OpaqueIdSchema value.comparisonVersionId
  definitionSha256 : Sha256Schema value.definitionSha256
  metrics : ∀ metric ∈ value.metrics, metric.Accepted isNFC
  metrics_length : boundedInteger 1 maxComparisonMetrics value.metrics.length
  metrics_sorted : isStrictlySortedUnique (value.metrics.map (·.metricId))
  minimumPairedCoverageBasisPoints : boundedInteger 1 10000 value.minimumPairedCoverageBasisPoints
  scope : EvidenceScopeSchema value.scope
  strata : ∀ stratum ∈ value.strata, stratum.Accepted
  strata_length : boundedInteger 1 maxComparisonStrata value.strata.length
  strata_sorted : isStrictlySortedUnique (value.strata.map (·.stratumId))
  issues : value.refineComparisonDefinition = []

instance (isNFC : String → Bool) (value : ComparisonDefinition) : Decidable (value.Accepted isNFC) :=
  decidable_of_iff _ (accepted_iff isNFC value).symm

def exactComparisonReference (value : ComparisonDefinition) : ComparisonDefinitionReference where
  comparisonId := value.comparisonId
  comparisonVersionId := value.comparisonVersionId
  definitionSha256 := value.definitionSha256

end ComparisonDefinition

end Comparison
end ProofStack
