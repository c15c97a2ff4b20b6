import Mathlib.Tactic.MkIffOfInductiveProp
import ProofStack.Evaluation.ModelAssuranceApplicability

/-!
This module contains how an assessment of the assurance of a model evaluator is derived.
-/

namespace ProofStack
namespace Assurance

open Checks Reasons Sequence
open Release (EvaluationRiskTier)

inductive AssessmentEligibilityReason where
  | criterionNotApproved
  | criterionNotApplicable
  | criticalCounterevidence
  | digestMismatch
  | humanReviewRequired
  | insufficientCoverage
  | insufficientEvidenceClasses
  | insufficientIndependentQuorum
  | invalidProvenance
  | missingNonModelEvidence
  | qualificationNotCurrent
  | sourceIdentityNotVerified
  | sourceReviewNotCurrent
  | unresolvedDisagreement
  | unsupportedStatisticalAssumptions
  deriving DecidableEq

inductive AssessmentEligibility where
  | eligible
  | ineligible (reasons : List AssessmentEligibilityReason)
  deriving DecidableEq

inductive SourceFreshness where
  | current
  | notCurrent
  | unknown
  deriving DecidableEq

structure AggregationPolicyReference where
  definitionSha256 : String
  policyVersionId : String

structure Assessment extends RecordBase where
  aggregationPolicy : AggregationPolicyReference
  assessmentId : String
  criterion : CriterionReference
  eligibility : AssessmentEligibility
  observations : List RecordReference
  riskTier : EvaluationRiskTier
  sourceFreshness : SourceFreshness

structure EvaluationAggregationPolicy extends RecordBase where
  dataset : DatasetVersionReference

structure RawObservation extends RecordBase where
  run : RecordReference

structure EvaluationRun extends RecordBase where
  oracle : OracleReference

structure OracleSpec extends RecordBase

structure QualificationReport extends RecordBase

structure EvaluationRepository where
  findAggregationPolicy : EvidenceScope → String → Option EvaluationAggregationPolicy
  findAssessment : EvidenceScope → String → Option Assessment
  findEvaluationRun : EvidenceScope → String → Option EvaluationRun
  findOracleSpec : EvidenceScope → String → Option OracleSpec
  findQualificationReport : EvidenceScope → String → Option QualificationReport
  findRawObservation : EvidenceScope → String → Option RawObservation

structure CalibrationContext where
  locale : String
  populationTags : List String
  taskKindId : String

structure NonModelEvidence where
  observations : List RecordReference
  oracles : List OracleReference

structure ModelAssuranceAssessmentInput where
  assessmentExtensionId : String
  baseAssessment : RecordReference
  blindedPlan : BlindedEvaluationPlanReference
  blindedResult : RecordReference
  calibrationContext : CalibrationContext
  calibrationReport : RecordReference
  critiques : List RecordReference
  humanReviewProtocol : HumanReviewProtocolReference
  humanReviews : List RecordReference
  independenceDeclarations : List RecordReference
  modelQualificationReport : RecordReference
  nonModelEvidence : NonModelEvidence
  riskTier : EvaluationRiskTier
  validUntil : UtcMillisecondTimestamp

inductive ModelAssuranceIneligibilityReason where
  | assuranceLineageMismatch
  | assuranceScopeMismatch
  | baseAssessmentIneligible
  | blindIncomplete
  | blindInvalid
  | calibrationIncompatible
  | calibrationStale
  | calibrationUnavailable
  | criticalCounterevidence
  | critiqueInvalid
  | humanReviewConflicted
  | humanReviewExpired
  | humanReviewInvalid
  | humanReviewMissing
  | humanReviewProtocolMismatch
  | humanReviewQuorumShortfall
  | independenceCorrelated
  | independenceUnverified
  | injectionQualificationFailed
  | modelQualificationInvalid
  | modelQualificationStale
  | modelQualificationUnqualified
  | nonModelEvidenceInvalid
  | nonModelEvidenceMissing
  | orderSensitiveResult
  | sourceStale
  | unresolvedDisagreement
  deriving DecidableEq

def ModelAssuranceIneligibilityReason.text : ModelAssuranceIneligibilityReason → String
  | .assuranceLineageMismatch => "assurance_lineage_mismatch"
  | .assuranceScopeMismatch => "assurance_scope_mismatch"
  | .baseAssessmentIneligible => "base_assessment_ineligible"
  | .blindIncomplete => "blind_incomplete"
  | .blindInvalid => "blind_invalid"
  | .calibrationIncompatible => "calibration_incompatible"
  | .calibrationStale => "calibration_stale"
  | .calibrationUnavailable => "calibration_unavailable"
  | .criticalCounterevidence => "critical_counterevidence"
  | .critiqueInvalid => "critique_invalid"
  | .humanReviewConflicted => "human_review_conflicted"
  | .humanReviewExpired => "human_review_expired"
  | .humanReviewInvalid => "human_review_invalid"
  | .humanReviewMissing => "human_review_missing"
  | .humanReviewProtocolMismatch => "human_review_protocol_mismatch"
  | .humanReviewQuorumShortfall => "human_review_quorum_shortfall"
  | .independenceCorrelated => "independence_correlated"
  | .independenceUnverified => "independence_unverified"
  | .injectionQualificationFailed => "injection_qualification_failed"
  | .modelQualificationInvalid => "model_qualification_invalid"
  | .modelQualificationStale => "model_qualification_stale"
  | .modelQualificationUnqualified => "model_qualification_unqualified"
  | .nonModelEvidenceInvalid => "non_model_evidence_invalid"
  | .nonModelEvidenceMissing => "non_model_evidence_missing"
  | .orderSensitiveResult => "order_sensitive_result"
  | .sourceStale => "source_stale"
  | .unresolvedDisagreement => "unresolved_disagreement"

structure ModelAssuranceAssessmentDefinition where
  input : ModelAssuranceAssessmentInput
  eligible : Bool
  evaluatedAt : UtcMillisecondTimestamp
  reasons : List ModelAssuranceIneligibilityReason
  validUntil : UtcMillisecondTimestamp

@[mk_iff]
structure ModelAssuranceAssessmentDefinition.Accepted (value : ModelAssuranceAssessmentDefinition)
    : Prop where
  assessmentExtensionId : OpaqueIdSchema value.input.assessmentExtensionId = true
  locale : LocaleSchema value.input.calibrationContext.locale = true
  populationTags : value.input.calibrationContext.populationTags.IsChain (· < ·)
  populationTags_length : value.input.calibrationContext.populationTags.length ≤ 64
  taskKindId : OpaqueIdSchema value.input.calibrationContext.taskKindId = true
  critiques : (value.input.critiques.map (·.key)).IsChain (· < ·)
  critiques_length : value.input.critiques.length ≤ 32
  humanReviews : (value.input.humanReviews.map (·.key)).IsChain (· < ·)
  humanReviews_length : value.input.humanReviews.length ≤ 64
  independenceDeclarations : (value.input.independenceDeclarations.map (·.key)).IsChain (· < ·)
  independenceDeclarations_length : value.input.independenceDeclarations.length ≤ 64
  observations : (value.input.nonModelEvidence.observations.map (·.key)).IsChain (· < ·)
  observations_length : value.input.nonModelEvidence.observations.length ≤ 64
  oracles : (value.input.nonModelEvidence.oracles.map (fun oracle =>
    oracle.oracleId ++ ":" ++ oracle.oracleVersionId)).IsChain (· < ·)
  oracles_length : value.input.nonModelEvidence.oracles.length ≤ 32
  reasons : (value.reasons.map (·.text)).IsChain (· < ·)
  eligible_reasons : value.eligible = true → value.reasons = []
  ineligible_reasons : value.eligible = false → value.reasons ≠ []
  eligible_critiques : value.eligible = true → value.input.critiques ≠ []
  eligible_declarations : value.eligible = true → 2 ≤ value.input.independenceDeclarations.length
  eligible_evidence : value.eligible = true →
    value.input.nonModelEvidence.observations ≠ [] ∧ value.input.nonModelEvidence.oracles ≠ []
  eligible_reviews : value.eligible = true →
    value.input.riskTier = .high ∨ value.input.riskTier = .critical → value.input.humanReviews ≠ []
  validUntil : value.evaluatedAt.value < value.validUntil.value

instance (value : ModelAssuranceAssessmentDefinition) : Decidable value.Accepted :=
  decidable_of_iff _ (ModelAssuranceAssessmentDefinition.accepted_iff value).symm

section Reads

variable (evaluations : EvaluationRepository) (assurances : ModelAssuranceRepository)
    (scope : EvidenceScope)

def assuranceRecord (kind : ModelAssuranceRecordKind) (recordId definitionSha256 : String)
    : Except AssuranceError (ModelAssuranceRecordByKind kind) := do
  let error := AssuranceError.dependency (kind.text ++ ":" ++ recordId)
  let record ← found (assurances.find scope kind recordId) error
  failIf ((recordBase kind record).definitionSha256 ≠ definitionSha256
    ∨ (recordBase kind record).scope ≠ scope) error
  return record

def exactEvaluationRecord {α : Type} (base : α → RecordBase) (input : Option α) (definitionSha256 : String)
    (dependency : String) : Except AssuranceError α := do
  let record ← found input (.dependency dependency)
  failIf ((base record).definitionSha256 ≠ definitionSha256 ∨ (base record).scope ≠ scope)
    (.dependency dependency)
  return record

structure BaseAssessmentGraph where
  assessment : Assessment
  observations : List RawObservation
  oracles : List OracleSpec
  policy : EvaluationAggregationPolicy

def readObservation (assessment : Assessment) (reference : RecordReference)
    : Except AssuranceError (RawObservation × OracleReference) := do
  let dependency := "raw_observation:" ++ reference.id
  failIf (lookup (·.id) assessment.observations reference.id ≠ some reference) (.dependency dependency)
  let observation ← exactEvaluationRecord scope (·.toRecordBase)
    (evaluations.findRawObservation scope reference.id) reference.definitionSha256 dependency
  let run ← exactEvaluationRecord scope (·.toRecordBase)
    (evaluations.findEvaluationRun scope observation.run.id) observation.run.definitionSha256
    ("evaluation_run:" ++ observation.run.id)
  return (observation, run.oracle)

def oracleKey (value : OracleReference) : String :=
  value.oracleId ++ ":" ++ value.oracleVersionId ++ ":" ++ value.definitionSha256

def readOracle (observed : List OracleReference) (reference : OracleReference)
    : Except AssuranceError OracleSpec := do
  let dependency := "oracle_spec:" ++ reference.oracleVersionId
  failIf (oracleKey reference ∉ observed.map oracleKey) (.dependency dependency)
  exactEvaluationRecord scope (·.toRecordBase) (evaluations.findOracleSpec scope reference.oracleVersionId)
    reference.definitionSha256 dependency

def baseAssessmentGraph (definition : ModelAssuranceAssessmentInput)
    : Except AssuranceError BaseAssessmentGraph := do
  let assessment ← exactEvaluationRecord scope (·.toRecordBase)
    (evaluations.findAssessment scope definition.baseAssessment.id)
    definition.baseAssessment.definitionSha256 "base_assessment"
  let policy ← exactEvaluationRecord scope (·.toRecordBase)
    (evaluations.findAggregationPolicy scope assessment.aggregationPolicy.policyVersionId)
    assessment.aggregationPolicy.definitionSha256 "aggregation_policy"
  let observed ← definition.nonModelEvidence.observations.mapM
    (readObservation evaluations scope assessment)
  let oracles ← definition.nonModelEvidence.oracles.mapM
    (readOracle evaluations scope (observed.map (·.2)))
  return { assessment, observations := observed.map (·.1), oracles, policy }

def readCriticGraph (critique : IndependentCritique)
    : Except AssuranceError (IndependentCritique × QualificationGraph) := do
  let report ← assuranceRecord assurances scope .modelQualificationReport
    critique.modelQualificationReport.id critique.modelQualificationReport.definitionSha256
  let suite ← assuranceRecord assurances scope .modelQualificationSuite report.suite.suiteVersionId
    report.suite.definitionSha256
  let profile ← assuranceRecord assurances scope .modelEvaluatorProfile
    report.modelProfile.modelProfileVersionId report.modelProfile.definitionSha256
  let independence ← assuranceRecord assurances scope .independenceDeclaration
    report.independenceDeclaration.id report.independenceDeclaration.definitionSha256
  let calibration ← assuranceRecord assurances scope .calibrationReport report.calibrationReport.id
    report.calibrationReport.definitionSha256
  let plan ← assuranceRecord assurances scope .blindedEvaluationPlan suite.blindedPlan.blindedPlanVersionId
    suite.blindedPlan.definitionSha256
  let _ ← exactEvaluationRecord scope (·.toRecordBase)
    (evaluations.findQualificationReport scope report.baseQualificationReport.id)
    report.baseQualificationReport.definitionSha256
    ("critic_base_qualification_report:" ++ critique.critiqueId)
  return (critique, { suite, report, profile, independence, calibration, plan })

/-- The declarations of the reviewers, each once; two different ones have different identifiers. -/
def humanDeclarations : List HumanReviewerIndependence → List HumanReviewerIndependence →
    Except AssuranceError (List HumanReviewerIndependence)
  | [], read => .ok read
  | declaration :: declarations, read =>
    match read.find? (·.declarationId == declaration.declarationId) with
    | none => humanDeclarations declarations (read ++ [declaration])
    | some existing => do
      failIf (existing.definitionSha256 ≠ declaration.definitionSha256)
        (.dependency ("human_reviewer_independence:" ++ declaration.declarationId))
      humanDeclarations declarations read

structure AssessmentGraph where
  base : BaseAssessmentGraph
  blindResult : BlindedEvaluationResult
  primary : QualificationGraph
  protocol : HumanReviewProtocol
  critics : List (IndependentCritique × QualificationGraph)
  declarations : List IndependenceDeclaration
  reviews : List HumanReviewRecord
  humanDeclarations : List HumanReviewerIndependence

def AssessmentGraph.critiques (graph : AssessmentGraph) : List IndependentCritique :=
  graph.critics.map (·.1)

def readAssessmentGraph (definition : ModelAssuranceAssessmentInput)
    : Except AssuranceError AssessmentGraph := do
  let base ← baseAssessmentGraph evaluations scope definition
  let plan ← assuranceRecord assurances scope .blindedEvaluationPlan
    definition.blindedPlan.blindedPlanVersionId definition.blindedPlan.definitionSha256
  let blindResult ← assuranceRecord assurances scope .blindedEvaluationResult definition.blindedResult.id
    definition.blindedResult.definitionSha256
  let calibration ← assuranceRecord assurances scope .calibrationReport definition.calibrationReport.id
    definition.calibrationReport.definitionSha256
  let report ← assuranceRecord assurances scope .modelQualificationReport
    definition.modelQualificationReport.id definition.modelQualificationReport.definitionSha256
  let suite ← assuranceRecord assurances scope .modelQualificationSuite report.suite.suiteVersionId
    report.suite.definitionSha256
  let profile ← assuranceRecord assurances scope .modelEvaluatorProfile
    report.modelProfile.modelProfileVersionId report.modelProfile.definitionSha256
  let independence ← assuranceRecord assurances scope .independenceDeclaration
    report.independenceDeclaration.id report.independenceDeclaration.definitionSha256
  let protocol ← assuranceRecord assurances scope .humanReviewProtocol
    definition.humanReviewProtocol.protocolVersionId definition.humanReviewProtocol.definitionSha256
  let critiques ← definition.critiques.mapM (fun reference =>
    assuranceRecord assurances scope .independentCritique reference.id reference.definitionSha256)
  let critics ← critiques.mapM (readCriticGraph evaluations assurances scope)
  let declarations ← definition.independenceDeclarations.mapM (fun reference =>
    assuranceRecord assurances scope .independenceDeclaration reference.id reference.definitionSha256)
  let reviews ← definition.humanReviews.mapM (fun reference =>
    assuranceRecord assurances scope .humanReviewRecord reference.id reference.definitionSha256)
  let declarationResults ← reviews.mapM (fun review =>
    assuranceRecord assurances scope .humanReviewerIndependence review.independenceDeclaration.id
      review.independenceDeclaration.definitionSha256)
  let humanDeclarations ← humanDeclarations declarationResults []
  let _ ← exactEvaluationRecord scope (·.toRecordBase)
    (evaluations.findQualificationReport scope report.baseQualificationReport.id)
    report.baseQualificationReport.definitionSha256 "base_qualification_report"
  return {
    base, blindResult, protocol, critics, declarations, reviews, humanDeclarations
    primary := { suite, report, profile, independence, calibration, plan }
  }

end Reads

def qualificationReason : ModelQualificationApplicabilityReason → ModelAssuranceIneligibilityReason
  | .scopeMismatch => .assuranceScopeMismatch
  | .calibrationNotCurrent => .calibrationStale
  | .independenceNotCurrent => .independenceUnverified
  | .profileNotCurrent => .modelQualificationStale
  | .reportNotCurrent => .modelQualificationStale
  | .suiteNotCurrent => .modelQualificationStale
  | .reportUnqualified => .modelQualificationUnqualified
  | .calibrationUnavailable => .calibrationUnavailable
  | .independenceNotVerified => .independenceUnverified
  | .blindedPlanInvalid => .blindInvalid
  | _ => .modelQualificationInvalid

def addQualificationReasons (values : List ModelQualificationApplicabilityReason)
    : List ModelAssuranceIneligibilityReason :=
  values.map qualificationReason

def calibrationReason : CalibrationIncompatibilityReason → ModelAssuranceIneligibilityReason
  | .scopeMismatch => .assuranceScopeMismatch
  | .calibrationNotCurrent => .calibrationStale
  | .profileNotCurrent => .calibrationStale
  | .calibrationUnavailable => .calibrationUnavailable
  | _ => .calibrationIncompatible

def addCalibrationReasons (values : List CalibrationIncompatibilityReason)
    : List ModelAssuranceIneligibilityReason :=
  values.map calibrationReason

open ModelAssuranceIneligibilityReason in
def addBlindReasons (values : List BlindedResultIntegrityReason) : List ModelAssuranceIneligibilityReason :=
  flag (.attemptFailed ∈ values ∨ .attemptMissing ∈ values) blindIncomplete
    ++ flag (.orderVerdictVariance ∈ values) orderSensitiveResult
    ++ flag (.labelLeakage ∈ values ∨ .orderRationaleVariance ∈ values) unresolvedDisagreement
    ++ flag (.scopeMismatch ∈ values) assuranceScopeMismatch
    ++ flag (∃ value ∈ values, value ∉ [BlindedResultIntegrityReason.attemptFailed, .attemptMissing,
        .labelLeakage, .orderRationaleVariance, .orderVerdictVariance, .scopeMismatch])
      blindInvalid

def critiqueReason : IndependentCritiqueIntegrityReason → ModelAssuranceIneligibilityReason
  | .scopeMismatch => .assuranceScopeMismatch
  | .critiqueCorrelated => .independenceCorrelated
  | .critiqueUnverifiable => .independenceUnverified
  | .declarationMismatch => .independenceUnverified
  | .primaryDeclarationMissing => .independenceUnverified
  | .opposingFinding => .unresolvedDisagreement
  | .uncertainFinding => .unresolvedDisagreement
  | _ => .critiqueInvalid

def addCritiqueReasons (values : List IndependentCritiqueIntegrityReason)
    : List ModelAssuranceIneligibilityReason :=
  values.map critiqueReason

def humanReason : HumanReviewQuorumReason → ModelAssuranceIneligibilityReason
  | .scopeMismatch => .assuranceScopeMismatch
  | .reviewExpired => .humanReviewExpired
  | .independenceNotCurrent => .humanReviewExpired
  | .protocolMismatch => .humanReviewProtocolMismatch
  | .protocolNotCurrent => .humanReviewProtocolMismatch
  | .quorumShortfall => .humanReviewQuorumShortfall
  | .roleRequirementShortfall => .humanReviewQuorumShortfall
  | .independenceGroupShortfall => .humanReviewQuorumShortfall
  | .conflictedReviewer => .humanReviewConflicted
  | .opposingReview => .humanReviewConflicted
  | .unresolvedEscalation => .humanReviewConflicted
  | _ => .humanReviewInvalid

def addHumanReasons (values : List HumanReviewQuorumReason) : List ModelAssuranceIneligibilityReason :=
  values.map humanReason

def injectionQualificationScenarios : List ModelQualificationScenario :=
  [.directPromptInjection, .encodedPromptInjection, .indirectPromptInjection,
    .multilingualPromptInjection, .retrievedPromptInjection, .toolRequestInjection]

def includesCriticalInjectionFailure (values : List ModelQualificationScenario) : Bool :=
  values.any (injectionQualificationScenarios.contains ·)

section Derivation

variable (scope : EvidenceScope) (definition : ModelAssuranceAssessmentInput) (graph : AssessmentGraph)
    (instant : UtcMillisecondTimestamp)

open ModelAssuranceIneligibilityReason in
def baseReasons : List ModelAssuranceIneligibilityReason :=
  (match graph.base.assessment.eligibility with
    | .eligible => []
    | .ineligible reasons =>
      baseAssessmentIneligible :: flag (.criticalCounterevidence ∈ reasons) criticalCounterevidence)
    ++ flag (graph.base.assessment.sourceFreshness ≠ .current) sourceStale
    ++ flag (graph.base.assessment.riskTier ≠ definition.riskTier) assuranceLineageMismatch
    ++ flag (definition.nonModelEvidence.observations = [] ∨ graph.base.oracles.length = 0)
      nonModelEvidenceMissing

open ModelAssuranceIneligibilityReason in
def qualificationReasons (qualification : QualificationGraph) : List ModelAssuranceIneligibilityReason :=
  addQualificationReasons (evaluateModelQualificationApplicability qualification instant).reasons
    ++ flag (includesCriticalInjectionFailure qualification.report.criticalScenarioFailures)
      injectionQualificationFailed

def compatibilityContext (criterion : CriterionReference) (evaluator : EvaluatorReference)
    (qualificationReport : RecordReference) : CalibrationCompatibilityContext where
  criteria := [criterion]
  dataset := graph.base.policy.dataset
  evaluator
  locale := definition.calibrationContext.locale
  populationTags := definition.calibrationContext.populationTags
  qualificationReport
  riskTier := definition.riskTier
  scope
  taskKindId := definition.calibrationContext.taskKindId

def CriticLineage (critique : IndependentCritique) (report : ModelQualificationReport) : Prop :=
  evaluatorKey report.evaluator = evaluatorKey critique.evaluator
    ∧ profileKey report.modelProfile = profileKey critique.modelProfile
    ∧ report.independenceDeclaration = critique.independenceDeclaration
    ∧ report.calibrationReport = critique.calibrationReport

instance (critique : IndependentCritique) (report : ModelQualificationReport)
    : Decidable (CriticLineage critique report) :=
  inferInstanceAs (Decidable (_ ∧ _ ∧ _ ∧ _))

def criticReasons (critic : IndependentCritique × QualificationGraph)
    : Except AssuranceError (List ModelAssuranceIneligibilityReason) := do
  let critique := critic.1
  let qualification := critic.2
  let calibration ← evaluateCalibrationCompatibility qualification.profile qualification.calibration
    (compatibilityContext scope definition graph critique.criterion critique.evaluator
      qualification.calibration.qualificationReport) instant
  return qualificationReasons instant qualification
    ++ addCalibrationReasons calibration.reasons
    ++ flag (¬CriticLineage critique qualification.report) .modelQualificationInvalid

def primaryCalibration : Except AssuranceError (Verdict CalibrationIncompatibilityReason Unit) :=
  evaluateCalibrationCompatibility graph.primary.profile graph.primary.calibration
    (compatibilityContext scope definition graph graph.base.assessment.criterion
      graph.primary.calibration.evaluator graph.primary.calibration.qualificationReport) instant

open ModelAssuranceIneligibilityReason in
def protocolReasons : List ModelAssuranceIneligibilityReason :=
  flag (graph.protocol.riskTier ≠ definition.riskTier
      ∨ criterionKey graph.base.assessment.criterion ∉ graph.protocol.criteria.map criterionKey)
    humanReviewProtocolMismatch

open ModelAssuranceIneligibilityReason in
def lineageReasons : List ModelAssuranceIneligibilityReason :=
  let selectedObservationKeys := definition.nonModelEvidence.observations.map (·.key)
  let critiqueKeys := definition.critiques.map (·.key)
  graph.critiques.flatMap (fun critique =>
      flag (critique.observation.key ∉ selectedObservationKeys) critiqueInvalid)
    ++ graph.reviews.flatMap (fun review =>
      flag (review.assessment.id ≠ graph.base.assessment.assessmentId
          ∨ review.assessment.definitionSha256 ≠ graph.base.assessment.definitionSha256)
        humanReviewInvalid
      ++ flag ((∃ key ∈ selectedObservationKeys, key ∉ review.observations.map (·.key))
          ∨ ∃ key ∈ critiqueKeys, key ∉ review.critiques.map (·.key))
        humanReviewInvalid)

open ModelAssuranceIneligibilityReason in
def ineligibilityReasons : Except AssuranceError (List ModelAssuranceIneligibilityReason) := do
  let critics ← graph.critics.mapM (criticReasons scope definition graph instant)
  let calibration ← primaryCalibration scope definition graph instant
  let critiques ← evaluateIndependentCritiqueIntegrity graph.primary.plan definition.critiques
    graph.critiques graph.declarations instant
  let quorum ← evaluateHumanReviewQuorum graph.protocol graph.reviews graph.humanDeclarations instant
  return baseReasons definition graph
    ++ qualificationReasons instant graph.primary
    ++ critics.flatten
    ++ addCalibrationReasons calibration.reasons
    ++ addBlindReasons (evaluateBlindedResultIntegrity graph.primary.plan graph.blindResult).reasons
    ++ flag (definition.critiques = []) unresolvedDisagreement
    ++ addCritiqueReasons critiques.reasons
    ++ flag (graph.reviews.length = 0) humanReviewMissing
    ++ addHumanReasons quorum.reasons
    ++ protocolReasons definition graph
    ++ lineageReasons definition graph

def minimumEligibleValidity (requested : UtcMillisecondTimestamp) (values : List UtcMillisecondTimestamp)
    : UtcMillisecondTimestamp :=
  values.foldl (fun minimum value => if value.value < minimum.value then value else minimum) requested

def QualificationGraph.validUntils (graph : QualificationGraph) : List UtcMillisecondTimestamp :=
  [graph.calibration.validity.validUntil, graph.independence.validity.validUntil,
    graph.plan.validity.validUntil, graph.profile.validity.validUntil, graph.report.validity.validUntil,
    graph.suite.validity.validUntil]

def listedValidUntils : List UtcMillisecondTimestamp :=
  graph.primary.validUntils
    ++ [graph.protocol.validity.validUntil]
    ++ graph.humanDeclarations.map (·.validity.validUntil)
    ++ graph.reviews.map (·.expiresAt)
    ++ graph.critics.flatMap (·.2.validUntils)

def derivedDefinition (reasons : List ModelAssuranceIneligibilityReason)
    : ModelAssuranceAssessmentDefinition where
  input := definition
  eligible := reasons.isEmpty
  evaluatedAt := instant
  reasons := sortedReasons ModelAssuranceIneligibilityReason.text reasons
  validUntil :=
    if reasons.isEmpty then minimumEligibleValidity definition.validUntil (listedValidUntils graph)
    else definition.validUntil

end Derivation

section Execute

variable (evaluations : EvaluationRepository) (assurances : ModelAssuranceRepository)
    (scope : EvidenceScope)

/-- What an authorized command derives before it is published. The digest of the record is computed from
it, so that the record always has its digest. -/
def deriveAssessment (recordId : String) (definition : ModelAssuranceAssessmentInput)
    (instant : UtcMillisecondTimestamp) : Except AssuranceError ModelAssuranceAssessmentDefinition := do
  failIf (definition.assessmentExtensionId ≠ recordId)
    (.invalidRecordInput "Model-assurance route identifier and immutable definition do not match")
  let graph ← readAssessmentGraph evaluations assurances scope definition
  let reasons ← ineligibilityReasons scope definition graph instant
  let derived := derivedDefinition definition graph instant reasons
  parseWith derived.Accepted (.invalidRecordInput "Invalid model_assurance_assessment record") derived

end Execute

end Assurance
end ProofStack
