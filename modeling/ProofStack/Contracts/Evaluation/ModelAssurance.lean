import ProofStack.Contracts.Artifact
import ProofStack.Contracts.Release.PolicySelection
import ProofStack.Contracts.Text

/-!
This module contains the records that the assurance of a model evaluator is assessed from, with the fields
that the assessment reads.
-/

namespace ProofStack
namespace Assurance

open Release (EvaluationRiskTier)

/-- Every schema of a record that has an interval of validity requires that it is not empty. -/
structure Validity where
  validFrom : UtcMillisecondTimestamp
  validUntil : UtcMillisecondTimestamp
  positive : validFrom.value < validUntil.value
  deriving DecidableEq

namespace Validity

def current (validity : Validity) (instant : UtcMillisecondTimestamp) : Prop :=
  validity.validFrom.value ≤ instant.value ∧ instant.value < validity.validUntil.value

instance (validity : Validity) (instant : UtcMillisecondTimestamp) : Decidable (validity.current instant) :=
  inferInstanceAs (Decidable (_ ∧ _))

theorem current_of_current {validity : Validity} {before after : UtcMillisecondTimestamp}
    (h : validity.current before) (hle : before.value ≤ after.value)
    (hlt : after.value < validity.validUntil.value)
    : validity.current after :=
  ⟨h.1.trans hle, hlt⟩

end Validity

structure EvaluatorReference where
  definitionSha256 : String
  evaluatorId : String
  evaluatorVersionId : String
  deriving DecidableEq

def evaluatorKey (value : EvaluatorReference) : String :=
  value.evaluatorId ++ ":" ++ value.evaluatorVersionId ++ ":" ++ value.definitionSha256

structure ModelEvaluatorProfileReference where
  definitionSha256 : String
  modelProfileId : String
  modelProfileVersionId : String
  deriving DecidableEq

def profileKey (value : ModelEvaluatorProfileReference) : String :=
  value.modelProfileId ++ ":" ++ value.modelProfileVersionId ++ ":" ++ value.definitionSha256

structure CriterionSetReference where
  criterionSetId : String
  criterionSetVersionId : String
  definitionSha256 : String
  deriving DecidableEq

structure CriterionReference where
  criterionId : String
  criterionSet : CriterionSetReference
  deriving DecidableEq

def criterionKey (value : CriterionReference) : String :=
  value.criterionSet.criterionSetId ++ ":" ++ value.criterionSet.criterionSetVersionId ++ ":"
    ++ value.criterionId ++ ":" ++ value.criterionSet.definitionSha256

structure CriterionVersionSelector where
  criterionId : String
  criterionSetId : String
  criterionSetVersionId : String
  deriving DecidableEq

def selectorKey (value : CriterionVersionSelector) : String :=
  value.criterionSetId ++ ":" ++ value.criterionSetVersionId ++ ":" ++ value.criterionId

def CriterionReference.selector (value : CriterionReference) : CriterionVersionSelector where
  criterionId := value.criterionId
  criterionSetId := value.criterionSet.criterionSetId
  criterionSetVersionId := value.criterionSet.criterionSetVersionId

structure DatasetVersionReference where
  datasetId : String
  datasetVersionId : String
  definitionSha256 : String
  deriving DecidableEq

structure BlindedEvaluationPlanReference where
  blindedPlanId : String
  blindedPlanVersionId : String
  definitionSha256 : String
  deriving DecidableEq

structure ModelQualificationSuiteReference where
  definitionSha256 : String
  suiteId : String
  suiteVersionId : String
  deriving DecidableEq

structure HumanReviewProtocolReference where
  definitionSha256 : String
  protocolId : String
  protocolVersionId : String
  deriving DecidableEq

structure OracleReference where
  definitionSha256 : String
  oracleId : String
  oracleVersionId : String
  deriving DecidableEq

structure RecordReference where
  definitionSha256 : String
  id : String
  deriving DecidableEq

def RecordReference.key (value : RecordReference) : String :=
  value.id ++ ":" ++ value.definitionSha256

structure RecordBase where
  definitionSha256 : String
  scope : EvidenceScope
  deriving DecidableEq

structure ModelEvaluatorProfile extends RecordBase where
  evaluatorId : String
  evaluatorVersionId : String
  locale : String
  modelProfileId : String
  modelProfileVersionId : String
  riskTiers : List EvaluationRiskTier
  supportedCriteria : List CriterionVersionSelector
  validity : Validity
  deriving DecidableEq

def ModelEvaluatorProfile.reference (value : ModelEvaluatorProfile) : ModelEvaluatorProfileReference where
  definitionSha256 := value.definitionSha256
  modelProfileId := value.modelProfileId
  modelProfileVersionId := value.modelProfileVersionId

inductive MaterialIndependenceDimension where
  | baseModelFamilies
  | criterionAuthors
  | evaluatorDevelopers
  | evaluatorImplementations
  | fineTuneLineage
  | labelSources
  | operatingOrganizations
  | promptAuthors
  | providers
  | sharedInfrastructure
  deriving DecidableEq

def materialIndependenceDimensions : List MaterialIndependenceDimension :=
  [.baseModelFamilies, .criterionAuthors, .evaluatorDevelopers, .evaluatorImplementations,
    .fineTuneLineage, .labelSources, .operatingOrganizations, .promptAuthors, .providers,
    .sharedInfrastructure]

inductive MaterialLineageDimension where
  | declared (identifiers : List String)
  | unknown
  deriving DecidableEq

inductive ReviewStatus where
  | rejected
  | unverifiable
  | verified
  deriving DecidableEq

structure IndependenceSubject where
  evaluator : EvaluatorReference
  modelProfile : ModelEvaluatorProfileReference
  deriving DecidableEq

structure IndependenceDeclaration extends RecordBase where
  dimensions : MaterialIndependenceDimension → MaterialLineageDimension
  independenceDeclarationId : String
  reviewStatus : ReviewStatus
  subject : IndependenceSubject
  validity : Validity

inductive CalibrationStatus where
  | calibrated
  | unavailable
  deriving DecidableEq

inductive CalibrationDistributionShift where
  | noShiftDetected
  | shiftDetected
  | notAssessed
  deriving DecidableEq

structure CalibrationPopulation where
  locale : String
  populationTags : List String
  riskTier : EvaluationRiskTier
  taskKindIds : List String
  deriving DecidableEq

structure CalibrationReport extends RecordBase where
  calibrationReportId : String
  criteria : List CriterionReference
  dataset : DatasetVersionReference
  distributionShift : CalibrationDistributionShift
  evaluator : EvaluatorReference
  modelProfile : ModelEvaluatorProfileReference
  population : CalibrationPopulation
  qualificationReport : RecordReference
  status : CalibrationStatus
  validity : Validity
  deriving DecidableEq

inductive PlanStatus where
  | invalid
  | valid
  deriving DecidableEq

structure BlindedAttempt where
  attemptId : String
  comparisonPairId : String
  presentationId : String
  seed : Nat
  deriving DecidableEq

structure BlindedEvaluationPlan extends RecordBase where
  attempts : List BlindedAttempt
  blindedPlanId : String
  blindedPlanVersionId : String
  criteria : List CriterionReference
  independenceDeclaration : RecordReference
  planStatus : PlanStatus
  publishedAt : UtcMillisecondTimestamp
  validity : Validity
  deriving DecidableEq

def BlindedEvaluationPlan.reference (value : BlindedEvaluationPlan) : BlindedEvaluationPlanReference where
  blindedPlanId := value.blindedPlanId
  blindedPlanVersionId := value.blindedPlanVersionId
  definitionSha256 := value.definitionSha256

inductive EvaluationVerdict where
  | abstain
  | error
  | fail
  | notApplicable
  | pass
  deriving DecidableEq

structure BlindedAttemptResult where
  attemptId : String
  presentationId : String
  seed : Nat
  verdict : Option EvaluationVerdict
  deriving DecidableEq

inductive BlindedDisagreementReason where
  | attemptMissing
  | labelLeakage
  | orderRationaleVariance
  | orderVerdictVariance
  | unexpectedAttempt
  deriving DecidableEq

inductive BlindedResultStatus where
  | consistent
  | disagreement
  | invalid
  deriving DecidableEq

structure BlindedEvaluationResult extends RecordBase where
  attempts : List BlindedAttemptResult
  completedAt : UtcMillisecondTimestamp
  disagreementReasons : List BlindedDisagreementReason
  plan : BlindedEvaluationPlanReference
  resultId : String
  startedAt : UtcMillisecondTimestamp
  status : BlindedResultStatus
  deriving DecidableEq

inductive ModelQualificationScenario where
  | authorityBias
  | bandwagonBias
  | budgetExhaustion
  | directPromptInjection
  | encodedPromptInjection
  | forgedCitation
  | indirectPromptInjection
  | judgeDisagreement
  | labelLeakage
  | lateResponse
  | malformedModelOutput
  | multilingualPromptInjection
  | networkFailure
  | outOfDistribution
  | partialStream
  | positionSwap
  | providerRefusal
  | rateLimit
  | retrievedPromptInjection
  | selfProviderCorrelation
  | stochasticVariance
  | styleBias
  | toolRequestInjection
  | verbosityBias
  deriving DecidableEq

structure ModelQualificationSuite extends RecordBase where
  blindedPlan : BlindedEvaluationPlanReference
  caseCount : Nat
  criteria : List CriterionVersionSelector
  dataset : DatasetVersionReference
  evaluator : EvaluatorReference
  modelProfile : ModelEvaluatorProfileReference
  publishedAt : UtcMillisecondTimestamp
  suiteId : String
  suiteVersionId : String
  validity : Validity
  deriving DecidableEq

def ModelQualificationSuite.reference (value : ModelQualificationSuite)
    : ModelQualificationSuiteReference where
  definitionSha256 := value.definitionSha256
  suiteId := value.suiteId
  suiteVersionId := value.suiteVersionId

inductive QualificationStatus where
  | qualified
  | unqualified
  deriving DecidableEq

structure ModelQualificationReport extends RecordBase where
  baseQualificationReport : RecordReference
  calibrationReport : RecordReference
  caseCount : Nat
  completedAt : UtcMillisecondTimestamp
  criticalScenarioFailures : List ModelQualificationScenario
  evaluator : EvaluatorReference
  independenceDeclaration : RecordReference
  modelProfile : ModelEvaluatorProfileReference
  reportId : String
  startedAt : UtcMillisecondTimestamp
  status : QualificationStatus
  suite : ModelQualificationSuiteReference
  validity : Validity
  deriving DecidableEq

inductive CritiqueImpact where
  | opposes
  | supports
  | uncertain
  deriving DecidableEq

inductive IndependentCritiqueOutcome where
  | produced (findings : List CritiqueImpact)
  | abstained
  | error
  deriving DecidableEq

structure IndependentCritique extends RecordBase where
  calibrationReport : RecordReference
  completedAt : UtcMillisecondTimestamp
  criterion : CriterionReference
  critiqueId : String
  evaluator : EvaluatorReference
  independenceDeclaration : RecordReference
  modelProfile : ModelEvaluatorProfileReference
  modelQualificationReport : RecordReference
  observation : RecordReference
  outcome : IndependentCritiqueOutcome
  recordedAt : UtcMillisecondTimestamp
  deriving DecidableEq

inductive HumanReviewAction where
  | abstain
  | oppose
  | recuse
  | requestChanges
  | requireEscalation
  | support
  deriving DecidableEq

structure HumanReviewerRoleRequirement where
  minimumReviewers : Nat
  roleId : String
  deriving DecidableEq

def exactArtifactKey (reference : ArtifactContentReference) : String :=
  reference.artifactId ++ ":" ++ reference.sha256

structure HumanReviewProtocol extends RecordBase where
  criteria : List CriterionReference
  evidenceBundle : List ArtifactContentReference
  forbiddenRelationships : List String
  maximumReviewMilliseconds : Nat
  minimumCompletedReviews : Nat
  minimumIndependentGroups : Nat
  protocolId : String
  protocolVersionId : String
  reviewerRoles : List HumanReviewerRoleRequirement
  riskTier : EvaluationRiskTier
  validity : Validity
  deriving DecidableEq

def HumanReviewProtocol.reference (value : HumanReviewProtocol) : HumanReviewProtocolReference where
  definitionSha256 := value.definitionSha256
  protocolId := value.protocolId
  protocolVersionId := value.protocolVersionId

structure HumanReviewerIndependence extends RecordBase where
  conflicts : List String
  declarationId : String
  independenceGroupIds : List String
  relationships : List String
  reviewerPrincipalId : String
  status : ReviewStatus
  validity : Validity
  deriving DecidableEq

structure HumanReviewRecord extends RecordBase where
  action : HumanReviewAction
  assessment : RecordReference
  completedAt : UtcMillisecondTimestamp
  conflicts : List String
  critiques : List RecordReference
  expiresAt : UtcMillisecondTimestamp
  independenceDeclaration : RecordReference
  observations : List RecordReference
  protocol : HumanReviewProtocolReference
  relationships : List String
  reviewId : String
  reviewedArtifacts : List ArtifactContentReference
  reviewerPrincipalId : String
  reviewerRoleId : String
  startedAt : UtcMillisecondTimestamp
  supersedes : Option RecordReference
  deriving DecidableEq

inductive ModelAssuranceRecordKind where
  | blindedEvaluationPlan
  | blindedEvaluationResult
  | calibrationReport
  | humanReviewProtocol
  | humanReviewRecord
  | humanReviewerIndependence
  | independenceDeclaration
  | independentCritique
  | modelEvaluatorProfile
  | modelQualificationReport
  | modelQualificationSuite
  deriving DecidableEq

namespace ModelAssuranceRecordKind

def text : ModelAssuranceRecordKind → String
  | .blindedEvaluationPlan => "blinded_evaluation_plan"
  | .blindedEvaluationResult => "blinded_evaluation_result"
  | .calibrationReport => "calibration_report"
  | .humanReviewProtocol => "human_review_protocol"
  | .humanReviewRecord => "human_review_record"
  | .humanReviewerIndependence => "human_reviewer_independence"
  | .independenceDeclaration => "independence_declaration"
  | .independentCritique => "independent_critique"
  | .modelEvaluatorProfile => "model_evaluator_profile"
  | .modelQualificationReport => "model_qualification_report"
  | .modelQualificationSuite => "model_qualification_suite"

end ModelAssuranceRecordKind

abbrev ModelAssuranceRecordByKind : ModelAssuranceRecordKind → Type
  | .blindedEvaluationPlan => BlindedEvaluationPlan
  | .blindedEvaluationResult => BlindedEvaluationResult
  | .calibrationReport => CalibrationReport
  | .humanReviewProtocol => HumanReviewProtocol
  | .humanReviewRecord => HumanReviewRecord
  | .humanReviewerIndependence => HumanReviewerIndependence
  | .independenceDeclaration => IndependenceDeclaration
  | .independentCritique => IndependentCritique
  | .modelEvaluatorProfile => ModelEvaluatorProfile
  | .modelQualificationReport => ModelQualificationReport
  | .modelQualificationSuite => ModelQualificationSuite

def recordBase : (kind : ModelAssuranceRecordKind) → ModelAssuranceRecordByKind kind → RecordBase
  | .blindedEvaluationPlan, record => record.toRecordBase
  | .blindedEvaluationResult, record => record.toRecordBase
  | .calibrationReport, record => record.toRecordBase
  | .humanReviewProtocol, record => record.toRecordBase
  | .humanReviewRecord, record => record.toRecordBase
  | .humanReviewerIndependence, record => record.toRecordBase
  | .independenceDeclaration, record => record.toRecordBase
  | .independentCritique, record => record.toRecordBase
  | .modelEvaluatorProfile, record => record.toRecordBase
  | .modelQualificationReport, record => record.toRecordBase
  | .modelQualificationSuite, record => record.toRecordBase

def modelAssuranceRecordId : (kind : ModelAssuranceRecordKind) → ModelAssuranceRecordByKind kind → String
  | .blindedEvaluationPlan, record => record.blindedPlanVersionId
  | .blindedEvaluationResult, record => record.resultId
  | .calibrationReport, record => record.calibrationReportId
  | .humanReviewProtocol, record => record.protocolVersionId
  | .humanReviewRecord, record => record.reviewId
  | .humanReviewerIndependence, record => record.declarationId
  | .independenceDeclaration, record => record.independenceDeclarationId
  | .independentCritique, record => record.critiqueId
  | .modelEvaluatorProfile, record => record.modelProfileVersionId
  | .modelQualificationReport, record => record.reportId
  | .modelQualificationSuite, record => record.suiteVersionId

structure ModelAssuranceRepository where
  find : EvidenceScope → (kind : ModelAssuranceRecordKind) → String →
    Option (ModelAssuranceRecordByKind kind)
  find_id : ∀ {scope kind id record}, find scope kind id = some record →
    modelAssuranceRecordId kind record = id

namespace ModelAssuranceRepository

def ofRecords (records : (kind : ModelAssuranceRecordKind) → List (ModelAssuranceRecordByKind kind))
    : ModelAssuranceRepository where
  find := fun scope kind id => (records kind).find? (fun record =>
    (recordBase kind record).scope = scope ∧ modelAssuranceRecordId kind record = id)
  find_id := by
    intro scope kind id record h
    have hfound := List.find?_some h
    exact (of_decide_eq_true hfound).2

end ModelAssuranceRepository

end Assurance
end ProofStack
