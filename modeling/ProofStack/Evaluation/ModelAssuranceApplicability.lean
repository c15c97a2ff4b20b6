import ProofStack.Evaluation.ModelAssuranceIntegrity

/-!
This module contains whether the qualification and the calibration of a model evaluator apply at an instant,
and whether human reviews meet the quorum of their protocol then.
-/

namespace ProofStack
namespace Assurance

open Checks Reasons Sequence
open Release (EvaluationRiskTier)

inductive ModelQualificationApplicabilityReason where
  | blindedPlanMismatch
  | blindedPlanInvalid
  | calibrationMismatch
  | calibrationNotCurrent
  | calibrationUnavailable
  | caseCountMismatch
  | criteriaMismatch
  | datasetMismatch
  | evaluatorMismatch
  | executionOutsideSuite
  | executionOutsideBlindedPlan
  | independenceMismatch
  | independenceNotCurrent
  | independenceNotVerified
  | modelProfileMismatch
  | profileNotCurrent
  | reportNotCurrent
  | reportUnqualified
  | scopeMismatch
  | suiteMismatch
  | suiteNotCurrent
  deriving DecidableEq

def ModelQualificationApplicabilityReason.text : ModelQualificationApplicabilityReason → String
  | .blindedPlanMismatch => "blinded_plan_mismatch"
  | .blindedPlanInvalid => "blinded_plan_invalid"
  | .calibrationMismatch => "calibration_mismatch"
  | .calibrationNotCurrent => "calibration_not_current"
  | .calibrationUnavailable => "calibration_unavailable"
  | .caseCountMismatch => "case_count_mismatch"
  | .criteriaMismatch => "criteria_mismatch"
  | .datasetMismatch => "dataset_mismatch"
  | .evaluatorMismatch => "evaluator_mismatch"
  | .executionOutsideSuite => "execution_outside_suite"
  | .executionOutsideBlindedPlan => "execution_outside_blinded_plan"
  | .independenceMismatch => "independence_mismatch"
  | .independenceNotCurrent => "independence_not_current"
  | .independenceNotVerified => "independence_not_verified"
  | .modelProfileMismatch => "model_profile_mismatch"
  | .profileNotCurrent => "profile_not_current"
  | .reportNotCurrent => "report_not_current"
  | .reportUnqualified => "report_unqualified"
  | .scopeMismatch => "scope_mismatch"
  | .suiteMismatch => "suite_mismatch"
  | .suiteNotCurrent => "suite_not_current"

structure QualificationGraph where
  suite : ModelQualificationSuite
  report : ModelQualificationReport
  profile : ModelEvaluatorProfile
  independence : IndependenceDeclaration
  calibration : CalibrationReport
  plan : BlindedEvaluationPlan

namespace QualificationGraph

variable (graph : QualificationGraph)

def scopes : List EvidenceScope :=
  [graph.report.scope, graph.profile.scope, graph.independence.scope, graph.calibration.scope,
    graph.plan.scope]

open ModelQualificationApplicabilityReason in
def currencyReasons (instant : UtcMillisecondTimestamp) : List ModelQualificationApplicabilityReason :=
  flag (¬graph.suite.validity.current instant) suiteNotCurrent
    ++ flag (¬graph.report.validity.current instant) reportNotCurrent
    ++ flag (¬graph.profile.validity.current instant) profileNotCurrent
    ++ flag (¬graph.calibration.validity.current instant) calibrationNotCurrent

open ModelQualificationApplicabilityReason in
def lineageReasons : List ModelQualificationApplicabilityReason :=
  flag (graph.calibration.status ≠ .calibrated) calibrationUnavailable
    ++ flag (graph.report.status ≠ .qualified) reportUnqualified
    ++ flag (graph.report.suite ≠ graph.suite.reference) suiteMismatch
    ++ flag (graph.suite.blindedPlan ≠ graph.plan.reference) blindedPlanMismatch
    ++ flag (graph.plan.planStatus ≠ .valid) blindedPlanInvalid
    ++ flag (profileKey graph.suite.modelProfile ≠ profileKey graph.profile.reference
        ∨ profileKey graph.report.modelProfile ≠ profileKey graph.profile.reference)
      modelProfileMismatch
    ++ flag (evaluatorKey graph.suite.evaluator ≠ evaluatorKey graph.report.evaluator
        ∨ graph.suite.evaluator.evaluatorId ≠ graph.profile.evaluatorId
        ∨ graph.suite.evaluator.evaluatorVersionId ≠ graph.profile.evaluatorVersionId)
      evaluatorMismatch
    ++ flag (graph.report.independenceDeclaration.id ≠ graph.independence.independenceDeclarationId
        ∨ graph.report.independenceDeclaration.definitionSha256 ≠ graph.independence.definitionSha256
        ∨ evaluatorKey graph.independence.subject.evaluator ≠ evaluatorKey graph.report.evaluator
        ∨ profileKey graph.independence.subject.modelProfile ≠ profileKey graph.profile.reference)
      independenceMismatch
    ++ flag (graph.independence.reviewStatus ≠ .verified) independenceNotVerified

open ModelQualificationApplicabilityReason in
def executionReasons : List ModelQualificationApplicabilityReason :=
  let suiteCriteria := (graph.suite.criteria.map selectorKey).mergeSort
  let calibrationCriteria := (graph.calibration.criteria.map (selectorKey ·.selector)).mergeSort
  flag (graph.report.calibrationReport.id ≠ graph.calibration.calibrationReportId
      ∨ graph.report.calibrationReport.definitionSha256 ≠ graph.calibration.definitionSha256)
      calibrationMismatch
    ++ flag (graph.suite.dataset ≠ graph.calibration.dataset) datasetMismatch
    ++ flag (suiteCriteria ≠ calibrationCriteria) criteriaMismatch
    ++ flag (graph.suite.caseCount ≠ graph.report.caseCount) caseCountMismatch
    ++ flag (graph.report.startedAt.value < graph.suite.publishedAt.value
        ∨ graph.report.startedAt.value < graph.suite.validity.validFrom.value
        ∨ graph.report.completedAt.value ≥ graph.suite.validity.validUntil.value)
      executionOutsideSuite
    ++ flag (graph.report.startedAt.value < graph.plan.validity.validFrom.value
        ∨ graph.report.completedAt.value ≥ graph.plan.validity.validUntil.value)
      executionOutsideBlindedPlan

open ModelQualificationApplicabilityReason in
def applicabilityReasons (instant : UtcMillisecondTimestamp) : List ModelQualificationApplicabilityReason :=
  flag (∃ scope ∈ graph.scopes, graph.suite.scope ≠ scope) scopeMismatch
    ++ graph.currencyReasons instant
    ++ graph.lineageReasons
    ++ flag (¬graph.independence.validity.current instant) independenceNotCurrent
    ++ graph.executionReasons

end QualificationGraph

def evaluateModelQualificationApplicability (graph : QualificationGraph) (instant : UtcMillisecondTimestamp)
    : Verdict ModelQualificationApplicabilityReason String :=
  .of ModelQualificationApplicabilityReason.text (graph.applicabilityReasons instant) graph.report.reportId

inductive CalibrationIncompatibilityReason where
  | calibrationNotCurrent
  | calibrationUnavailable
  | criterionMismatch
  | datasetMismatch
  | distributionShift
  | evaluatorMismatch
  | localeMismatch
  | modelProfileMismatch
  | populationMismatch
  | profileNotCurrent
  | qualificationMismatch
  | riskTierMismatch
  | scopeMismatch
  | taskKindMismatch
  deriving DecidableEq

def CalibrationIncompatibilityReason.text : CalibrationIncompatibilityReason → String
  | .calibrationNotCurrent => "calibration_not_current"
  | .calibrationUnavailable => "calibration_unavailable"
  | .criterionMismatch => "criterion_mismatch"
  | .datasetMismatch => "dataset_mismatch"
  | .distributionShift => "distribution_shift"
  | .evaluatorMismatch => "evaluator_mismatch"
  | .localeMismatch => "locale_mismatch"
  | .modelProfileMismatch => "model_profile_mismatch"
  | .populationMismatch => "population_mismatch"
  | .profileNotCurrent => "profile_not_current"
  | .qualificationMismatch => "qualification_mismatch"
  | .riskTierMismatch => "risk_tier_mismatch"
  | .scopeMismatch => "scope_mismatch"
  | .taskKindMismatch => "task_kind_mismatch"

structure CalibrationCompatibilityContext where
  criteria : List CriterionReference
  dataset : DatasetVersionReference
  evaluator : EvaluatorReference
  locale : String
  populationTags : List String
  qualificationReport : RecordReference
  riskTier : EvaluationRiskTier
  scope : EvidenceScope
  taskKindId : String

def LocaleSchema (locale : String) : Bool :=
  match locale.toList.splitOn '-' with
  | [] => false
  | language :: subtags =>
    language.all isLowerAscii && 2 ≤ language.length && language.length ≤ 8
      && subtags.all (fun subtag =>
        subtag.all (fun c => isLowerAscii c || isDigitAscii c) && 1 ≤ subtag.length && subtag.length ≤ 8)

def CalibrationCompatibilityContext.Accepted (context : CalibrationCompatibilityContext) : Prop :=
  OpaqueIdSchema context.taskKindId = true
    ∧ LocaleSchema context.locale = true
    ∧ context.populationTags.IsChain (· < ·)
    ∧ context.criteria ≠ []

instance (context : CalibrationCompatibilityContext) : Decidable context.Accepted :=
  inferInstanceAs (Decidable (_ ∧ _ ∧ _ ∧ _))

open CalibrationIncompatibilityReason in
def contextReasons (profile : ModelEvaluatorProfile) (calibration : CalibrationReport)
    (context : CalibrationCompatibilityContext) : List CalibrationIncompatibilityReason :=
  let contextCriteria := (context.criteria.map criterionKey).mergeSort
  let calibrationCriteria := (calibration.criteria.map criterionKey).mergeSort
  flag (calibration.status ≠ .calibrated) calibrationUnavailable
    ++ flag (calibration.distributionShift ≠ .noShiftDetected) distributionShift
    ++ flag (calibration.modelProfile ≠ profile.reference) modelProfileMismatch
    ++ flag (calibration.evaluator.evaluatorId ≠ profile.evaluatorId
        ∨ calibration.evaluator.evaluatorVersionId ≠ profile.evaluatorVersionId
        ∨ calibration.evaluator ≠ context.evaluator)
      evaluatorMismatch
    ++ flag (calibration.qualificationReport ≠ context.qualificationReport) qualificationMismatch
    ++ flag (calibration.dataset ≠ context.dataset) datasetMismatch
    ++ flag (calibration.population.riskTier ≠ context.riskTier ∨ context.riskTier ∉ profile.riskTiers)
      riskTierMismatch
    ++ flag (calibration.population.locale ≠ context.locale ∨ profile.locale ≠ context.locale)
      localeMismatch
    ++ flag (context.taskKindId ∉ calibration.population.taskKindIds) taskKindMismatch
    ++ flag (calibration.population.populationTags ≠ context.populationTags) populationMismatch
    ++ flag (contextCriteria ≠ calibrationCriteria ∨ ∃ criterion ∈ context.criteria,
        selectorKey criterion.selector ∉ profile.supportedCriteria.map selectorKey)
      criterionMismatch

open CalibrationIncompatibilityReason in
def compatibilityReasons (profile : ModelEvaluatorProfile) (calibration : CalibrationReport)
    (context : CalibrationCompatibilityContext) (instant : UtcMillisecondTimestamp)
    : List CalibrationIncompatibilityReason :=
  flag (profile.scope ≠ calibration.scope ∨ profile.scope ≠ context.scope) scopeMismatch
    ++ flag (¬profile.validity.current instant) profileNotCurrent
    ++ flag (¬calibration.validity.current instant) calibrationNotCurrent
    ++ contextReasons profile calibration context

def evaluateCalibrationCompatibility (profile : ModelEvaluatorProfile) (calibration : CalibrationReport)
    (context : CalibrationCompatibilityContext) (instant : UtcMillisecondTimestamp)
    : Except AssuranceError (Verdict CalibrationIncompatibilityReason Unit) := do
  failIf (¬context.Accepted) .invalidCalibrationContext
  return .of CalibrationIncompatibilityReason.text (compatibilityReasons profile calibration context instant) ()

inductive HumanReviewQuorumReason where
  | conflictedReviewer
  | duplicateReviewer
  | evidenceMismatch
  | independenceGroupShortfall
  | independenceNotCurrent
  | independenceNotVerified
  | invalidSupersession
  | opposingReview
  | protocolMismatch
  | protocolNotCurrent
  | quorumShortfall
  | reviewExpired
  | reviewNotComplete
  | reviewTimeExceeded
  | roleRequirementShortfall
  | scopeMismatch
  | unresolvedEscalation
  deriving DecidableEq

def HumanReviewQuorumReason.text : HumanReviewQuorumReason → String
  | .conflictedReviewer => "conflicted_reviewer"
  | .duplicateReviewer => "duplicate_reviewer"
  | .evidenceMismatch => "evidence_mismatch"
  | .independenceGroupShortfall => "independence_group_shortfall"
  | .independenceNotCurrent => "independence_not_current"
  | .independenceNotVerified => "independence_not_verified"
  | .invalidSupersession => "invalid_supersession"
  | .opposingReview => "opposing_review"
  | .protocolMismatch => "protocol_mismatch"
  | .protocolNotCurrent => "protocol_not_current"
  | .quorumShortfall => "quorum_shortfall"
  | .reviewExpired => "review_expired"
  | .reviewNotComplete => "review_not_complete"
  | .reviewTimeExceeded => "review_time_exceeded"
  | .roleRequirementShortfall => "role_requirement_shortfall"
  | .scopeMismatch => "scope_mismatch"
  | .unresolvedEscalation => "unresolved_escalation"

def superseded (reviews : List HumanReviewRecord) (review : HumanReviewRecord) : Option HumanReviewRecord :=
  review.supersedes.bind (fun reference =>
    (lookup (·.reviewId) reviews reference.id).filter (fun predecessor =>
      predecessor.definitionSha256 = reference.definitionSha256
        ∧ predecessor.reviewerPrincipalId = review.reviewerPrincipalId
        ∧ predecessor.protocol.definitionSha256 = review.protocol.definitionSha256))

open HumanReviewQuorumReason in
def supersessionReasons (reviews : List HumanReviewRecord) : List HumanReviewQuorumReason :=
  flag (¬(reviews.map (·.reviewId)).Nodup) invalidSupersession
    ++ flag (∃ review ∈ reviews, review.supersedes ≠ none ∧ superseded reviews review = none)
      invalidSupersession

def activeReviews (reviews : List HumanReviewRecord) : List HumanReviewRecord :=
  let supersededIds := reviews.filterMap (fun review => (superseded reviews review).map (·.reviewId))
  reviews.filter (fun review => review.reviewId ∉ supersededIds)

def reviewDeclaration (review : HumanReviewRecord) (declarations : List HumanReviewerIndependence)
    : Option HumanReviewerIndependence :=
  (lookup (·.declarationId) declarations review.independenceDeclaration.id).filter (fun declaration =>
    declaration.definitionSha256 = review.independenceDeclaration.definitionSha256
      ∧ declaration.reviewerPrincipalId = review.reviewerPrincipalId)

open HumanReviewQuorumReason in
def reviewDeclarationReasons (protocol : HumanReviewProtocol) (review : HumanReviewRecord)
    (instant : UtcMillisecondTimestamp) : Option HumanReviewerIndependence → List HumanReviewQuorumReason
  | none => [.independenceNotVerified]
  | some declaration =>
    flag (declaration.scope ≠ protocol.scope) scopeMismatch
      ++ flag (declaration.status ≠ .verified) independenceNotVerified
      ++ flag (¬declaration.validity.current instant) independenceNotCurrent
      ++ flag (review.conflicts ≠ [] ∨ declaration.conflicts ≠ []
          ∨ ∃ value ∈ protocol.forbiddenRelationships,
            value ∈ review.relationships ++ declaration.relationships)
        conflictedReviewer

open HumanReviewQuorumReason in
def reviewReasons (protocol : HumanReviewProtocol) (declarations : List HumanReviewerIndependence)
    (instant : UtcMillisecondTimestamp) (review : HumanReviewRecord) : List HumanReviewQuorumReason :=
  flag (review.scope ≠ protocol.scope) scopeMismatch
    ++ flag (review.protocol ≠ protocol.reference) protocolMismatch
    ++ flag (review.completedAt.value > instant.value) reviewNotComplete
    ++ flag (instant.value ≥ review.expiresAt.value) reviewExpired
    ++ flag (review.completedAt.value - review.startedAt.value > protocol.maximumReviewMilliseconds)
      reviewTimeExceeded
    ++ flag (∃ key ∈ protocol.evidenceBundle.map exactArtifactKey,
        key ∉ review.reviewedArtifacts.map exactArtifactKey)
      evidenceMismatch
    ++ reviewDeclarationReasons protocol review instant (reviewDeclaration review declarations)
    ++ flag (review.action = .oppose ∨ review.action = .requestChanges) opposingReview
    ++ flag (review.action = .requireEscalation) unresolvedEscalation

def supportingReviews (reviews : List HumanReviewRecord) : List HumanReviewRecord :=
  (activeReviews reviews).filter (·.action = .support)

def reviewGroupIds (reviews : List HumanReviewRecord) (declarations : List HumanReviewerIndependence)
    : List String :=
  ((activeReviews reviews).filterMap (reviewDeclaration · declarations)).flatMap (·.independenceGroupIds)

open HumanReviewQuorumReason in
def shortfallReasons (protocol : HumanReviewProtocol) (reviews : List HumanReviewRecord)
    (declarations : List HumanReviewerIndependence) : List HumanReviewQuorumReason :=
  flag ((supportingReviews reviews).length < protocol.minimumCompletedReviews) quorumShortfall
    ++ protocol.reviewerRoles.flatMap (fun role =>
      flag (((supportingReviews reviews).filter (·.reviewerRoleId = role.roleId)).length
        < role.minimumReviewers) roleRequirementShortfall)
    ++ flag ((reviewGroupIds reviews declarations).dedup.length < protocol.minimumIndependentGroups)
      independenceGroupShortfall

open HumanReviewQuorumReason in
def quorumReasons (protocol : HumanReviewProtocol) (reviews : List HumanReviewRecord)
    (declarations : List HumanReviewerIndependence) (instant : UtcMillisecondTimestamp)
    : List HumanReviewQuorumReason :=
  flag (¬protocol.validity.current instant) protocolNotCurrent
    ++ supersessionReasons reviews
    ++ flag (¬((activeReviews reviews).map (·.reviewerPrincipalId)).Nodup) duplicateReviewer
    ++ (activeReviews reviews).flatMap (reviewReasons protocol declarations instant)
    ++ shortfallReasons protocol reviews declarations

structure SupportedQuorum where
  independenceGroupIds : List String
  supportingReviewIds : List String

def evaluateHumanReviewQuorum (protocol : HumanReviewProtocol) (reviews : List HumanReviewRecord)
    (declarations : List HumanReviewerIndependence) (instant : UtcMillisecondTimestamp)
    : Except AssuranceError (Verdict HumanReviewQuorumReason SupportedQuorum) := do
  failIf (¬(declarations.map (·.declarationId)).Nodup) .invalidHumanReviewDeclarations
  return .of HumanReviewQuorumReason.text (quorumReasons protocol reviews declarations instant) {
    independenceGroupIds := (reviewGroupIds reviews declarations).dedup.mergeSort
    supportingReviewIds := ((supportingReviews reviews).map (·.reviewId)).mergeSort
  }

end Assurance
end ProofStack
