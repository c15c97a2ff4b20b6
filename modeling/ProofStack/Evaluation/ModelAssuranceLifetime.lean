import ProofStack.Evaluation.ModelAssuranceValidity

/-!
This module contains how long a derived assessment may be relied on.
-/

namespace ProofStack
namespace Assurance

open Checks Reasons Sequence

section Derived

variable {evaluations : EvaluationRepository} {assurances : ModelAssuranceRepository} {scope : EvidenceScope}
    {recordId : String} {definition : ModelAssuranceAssessmentInput} {graph : AssessmentGraph}
    {before after : UtcMillisecondTimestamp}

theorem deriveAssessment_eligible {derived : ModelAssuranceAssessmentDefinition}
    (h : deriveAssessment evaluations assurances scope recordId definition before = .ok derived)
    (heligible : derived.eligible = true)
    : ∃ graph, definition.assessmentExtensionId = recordId
        ∧ readAssessmentGraph evaluations assurances scope definition = .ok graph
        ∧ Eligible scope definition graph before
        ∧ derived = derivedDefinition definition graph before []
        ∧ derived.Accepted := by
  unfold deriveAssessment at h
  simp only [bind_eq_ok, failIf_eq_ok, not_not, parseWith_eq_ok] at h
  rcases h with ⟨_, hrecordId, graph, hgraph, reasons, hreasons, haccepted, rfl⟩
  have hnil : reasons = [] := List.isEmpty_iff.mp heligible
  subst hnil
  exact ⟨graph, hrecordId, hgraph, ineligibilityReasons_eq_nil.mp hreasons, rfl, haccepted⟩

theorem deriveAssessment_of_eligible
    (hrecordId : definition.assessmentExtensionId = recordId)
    (hgraph : readAssessmentGraph evaluations assurances scope definition = .ok graph)
    (h : Eligible scope definition graph after)
    (haccepted : (derivedDefinition definition graph after []).Accepted)
    : deriveAssessment evaluations assurances scope recordId definition after
      = .ok (derivedDefinition definition graph after []) := by
  unfold deriveAssessment
  simp only [bind_eq_ok, failIf_eq_ok, not_not, parseWith_eq_ok]
  exact ⟨(), hrecordId, graph, hgraph, [], ineligibilityReasons_eq_nil.mpr h, haccepted, rfl⟩

theorem accepted_of_later (h : (derivedDefinition definition graph before []).Accepted)
    (hlt : after.value < (derivedDefinition definition graph before []).validUntil.value)
    : (derivedDefinition definition graph after []).Accepted where
  __ := h
  validUntil := hlt

/-- Some end of validity that the assessment is bounded by is not after that of the declaration that the
blinded plan names. -/
def PlanDeclarationCovers (definition : ModelAssuranceAssessmentInput) (graph : AssessmentGraph) : Prop :=
  ∀ primary ∈ primaryDeclaration graph.primary.plan graph.declarations,
    ∃ validUntil ∈ definition.validUntil :: listedValidUntils graph,
      validUntil.value ≤ primary.validity.validUntil.value

instance (definition : ModelAssuranceAssessmentInput) (graph : AssessmentGraph)
    : Decidable (PlanDeclarationCovers definition graph) :=
  inferInstanceAs (Decidable (∀ primary ∈ primaryDeclaration _ _, _))

theorem eligible_before_validUntil_iff (evaluations : EvaluationRepository)
    (assurances : ModelAssuranceRepository) (scope : EvidenceScope) (recordId : String)
    (definition : ModelAssuranceAssessmentInput) (instant : UtcMillisecondTimestamp)
    (derived : ModelAssuranceAssessmentDefinition)
    (h : deriveAssessment evaluations assurances scope recordId definition instant = .ok derived)
    (heligible : derived.eligible = true)
    : ∃ graph, readAssessmentGraph evaluations assurances scope definition = .ok graph
        ∧ ((∀ later : UtcMillisecondTimestamp, instant.value ≤ later.value →
            later.value < derived.validUntil.value →
            ∃ again, deriveAssessment evaluations assurances scope recordId definition later = .ok again
              ∧ again.eligible = true)
          ↔ PlanDeclarationCovers definition graph) := by
  rcases deriveAssessment_eligible h heligible with ⟨graph, hrecordId, hgraph, hnow, rfl, haccepted⟩
  have hbound := exists_mem_minimumEligibleValidity definition.validUntil (listedValidUntils graph)
  refine ⟨graph, hgraph, ?_⟩
  constructor
  . intro hlater primary hprimary
    by_contra hcovers
    push Not at hcovers
    -- The assessment would be eligible at the end of the validity of the declaration.
    rcases hnow.primary_current with ⟨_, hfound, hcurrent⟩
    rw [Option.mem_unique hfound hprimary] at hcurrent
    rcases hlater primary.validity.validUntil hcurrent.2.le (hcovers _ hbound.1) with
      ⟨again, hagain, hstill⟩
    rcases deriveAssessment_eligible hagain hstill with ⟨graph', _, hgraph', hthen, _⟩
    rw [hgraph] at hgraph'
    cases hgraph'
    rcases hthen.primary_current with ⟨_, hfound, hcurrent'⟩
    rw [Option.mem_unique hfound hprimary] at hcurrent'
    exact absurd hcurrent'.2 (lt_irrefl _)
  . intro hcovers later hle hlt
    have hlisted : ∀ validUntil ∈ definition.validUntil :: listedValidUntils graph,
        later.value < validUntil.value :=
      fun validUntil hmem => hlt.trans_le (hbound.2 validUntil hmem)
    have hlater : Eligible scope definition graph later := by
      refine hnow.later (readFrom_of_read hgraph) hle ?_ ?_
      . exact fun validUntil hmem => hlisted validUntil (List.mem_cons_of_mem _ hmem)
      . intro primary hprimary
        rcases hcovers primary hprimary with ⟨validUntil, hmem, hvalid⟩
        exact (hlisted validUntil hmem).trans_le hvalid
    exact ⟨_, deriveAssessment_of_eligible hrecordId hgraph hlater (accepted_of_later haccepted hlt), rfl⟩

end Derived

namespace AssessmentSample

def scope : EvidenceScope :=
  ⟨"env_sample", "prj_sample", "ten_sample"⟩

def sha256 (first rest : Char) : String :=
  String.ofList (first :: List.replicate 63 rest)

def day (n : Fin 100) : UtcMillisecondTimestamp where
  value := 1788220800000 + n.val * 86400000
  le_value := by omega
  value_le := by omega

def validFor (first last : Fin 100) (h : first < last) : Validity where
  validFrom := day first
  validUntil := day last
  positive := by
    have hlt : first.val < last.val := h
    simp only [day]
    omega

def criterion : CriterionReference :=
  ⟨"criterion_1", "criterion_set_1", "criterion_set_version_1", sha256 'a' '0'⟩

def dataset : DatasetVersionReference :=
  ⟨"dataset_1", "dataset_version_1", sha256 'a' '1'⟩

def evaluator : EvaluatorReference :=
  ⟨sha256 'a' '2', "evaluator_1", "evaluator_version_1"⟩

def criticEvaluator : EvaluatorReference :=
  ⟨sha256 'b' '2', "evaluator_2", "evaluator_version_2"⟩

def profileOf (evaluator : EvaluatorReference) (id digest : String) : ModelEvaluatorProfile where
  definitionSha256 := digest
  scope
  evaluatorId := evaluator.evaluatorId
  evaluatorVersionId := evaluator.evaluatorVersionId
  locale := "en-us"
  modelProfileId := "profile_" ++ id
  modelProfileVersionId := "profile_version_" ++ id
  riskTiers := [.high]
  supportedCriteria := [criterion.selector]
  validity := validFor 0 60 (by decide)

def profile : ModelEvaluatorProfile :=
  profileOf evaluator "1" (sha256 'a' '3')

def criticProfile : ModelEvaluatorProfile :=
  profileOf criticEvaluator "2" (sha256 'b' '3')

def declarationOf (evaluator : EvaluatorReference) (profile : ModelEvaluatorProfile)
    (owner id digest : String) (validity : Validity) : IndependenceDeclaration where
  definitionSha256 := digest
  scope
  dimensions := fun _ => .declared [owner]
  independenceDeclarationId := id
  reviewStatus := .verified
  subject := ⟨evaluator, profile.reference⟩
  validity

def declaration : IndependenceDeclaration :=
  declarationOf evaluator profile "owner 1" "declaration_1" (sha256 'a' '4') (validFor 1 60 (by decide))

def criticDeclaration : IndependenceDeclaration :=
  declarationOf criticEvaluator criticProfile "owner 2" "declaration_2" (sha256 'b' '4')
    (validFor 1 60 (by decide))

def planDeclaration (last : Fin 100) (h : 1 < last) : IndependenceDeclaration :=
  declarationOf evaluator profile "owner 1" "declaration_3" (sha256 'c' '4') (validFor 1 last h)

def baseReport : RecordReference :=
  ⟨sha256 'a' '5', "qualification_report_1"⟩

def calibrationOf (evaluator : EvaluatorReference) (profile : ModelEvaluatorProfile) (id digest : String)
    : CalibrationReport where
  definitionSha256 := digest
  scope
  calibrationReportId := id
  criteria := [criterion]
  dataset
  distributionShift := .noShiftDetected
  evaluator
  modelProfile := profile.reference
  population := ⟨"en-us", ["adults"], .high, ["task_1"]⟩
  qualificationReport := baseReport
  status := .calibrated
  validity := validFor 2 60 (by decide)

def calibration : CalibrationReport :=
  calibrationOf evaluator profile "calibration_1" (sha256 'a' '6')

def criticCalibration : CalibrationReport :=
  calibrationOf criticEvaluator criticProfile "calibration_2" (sha256 'b' '6')

def plan : BlindedEvaluationPlan where
  definitionSha256 := sha256 'a' '7'
  scope
  attempts := [⟨"attempt_1", "pair_1", "presentation_1", 7⟩, ⟨"attempt_2", "pair_1", "presentation_2", 7⟩]
  blindedPlanId := "plan_1"
  blindedPlanVersionId := "plan_version_1"
  criteria := [criterion]
  independenceDeclaration := ⟨sha256 'c' '4', "declaration_3"⟩
  planStatus := .valid
  publishedAt := day 3
  validity := validFor 3 60 (by decide)

def blindResult : BlindedEvaluationResult where
  definitionSha256 := sha256 'a' '8'
  scope
  attempts := [⟨"attempt_1", "presentation_1", 7, some .pass⟩, ⟨"attempt_2", "presentation_2", 7, some .pass⟩]
  completedAt := day 4
  disagreementReasons := []
  plan := plan.reference
  resultId := "result_1"
  startedAt := day 4
  status := .consistent

def suiteOf (evaluator : EvaluatorReference) (profile : ModelEvaluatorProfile) (id digest : String)
    : ModelQualificationSuite where
  definitionSha256 := digest
  scope
  blindedPlan := plan.reference
  caseCount := 24
  criteria := [criterion.selector]
  dataset
  evaluator
  modelProfile := profile.reference
  publishedAt := day 5
  suiteId := "suite_" ++ id
  suiteVersionId := "suite_version_" ++ id
  validity := validFor 5 60 (by decide)

def suite : ModelQualificationSuite :=
  suiteOf evaluator profile "1" (sha256 'a' '9')

def criticSuite : ModelQualificationSuite :=
  suiteOf criticEvaluator criticProfile "2" (sha256 'b' '9')

def reportOf (suite : ModelQualificationSuite) (calibration : CalibrationReport)
    (declaration : IndependenceDeclaration) (id digest : String) : ModelQualificationReport where
  definitionSha256 := digest
  scope
  baseQualificationReport := baseReport
  calibrationReport := ⟨calibration.definitionSha256, calibration.calibrationReportId⟩
  caseCount := 24
  completedAt := day 6
  criticalScenarioFailures := []
  evaluator := suite.evaluator
  independenceDeclaration := ⟨declaration.definitionSha256, declaration.independenceDeclarationId⟩
  modelProfile := suite.modelProfile
  reportId := id
  startedAt := day 6
  status := .qualified
  suite := suite.reference
  validity := validFor 7 60 (by decide)

def report : ModelQualificationReport :=
  reportOf suite calibration declaration "report_1" (sha256 'c' '0')

def criticReport : ModelQualificationReport :=
  reportOf criticSuite criticCalibration criticDeclaration "report_2" (sha256 'c' '1')

def observation : RecordReference :=
  ⟨sha256 'c' '2', "observation_1"⟩

def oracle : OracleReference :=
  ⟨sha256 'c' '3', "oracle_1", "oracle_version_1"⟩

def critique : IndependentCritique where
  definitionSha256 := sha256 'd' '0'
  scope
  calibrationReport := criticReport.calibrationReport
  completedAt := day 7
  criterion
  critiqueId := "critique_1"
  evaluator := criticEvaluator
  independenceDeclaration := criticReport.independenceDeclaration
  modelProfile := criticProfile.reference
  modelQualificationReport := ⟨criticReport.definitionSha256, "report_2"⟩
  observation
  outcome := .produced [.supports]
  recordedAt := day 7

def evidence : ArtifactContentReference where
  artifactId := "artifact_1"
  classification := .restricted
  mediaType := "application/json"
  redactedAt := none
  sha256 := sha256 'd' '1'
  sizeBytes := 16

def protocol : HumanReviewProtocol where
  definitionSha256 := sha256 'd' '2'
  scope
  criteria := [criterion]
  evidenceBundle := [evidence]
  forbiddenRelationships := ["employee"]
  maximumReviewMilliseconds := 86400000
  minimumCompletedReviews := 1
  minimumIndependentGroups := 1
  protocolId := "protocol_1"
  protocolVersionId := "protocol_version_1"
  reviewerRoles := [⟨1, "role_1"⟩]
  riskTier := .high
  validity := validFor 5 60 (by decide)

def reviewer : HumanReviewerIndependence where
  definitionSha256 := sha256 'd' '3'
  scope
  conflicts := []
  declarationId := "reviewer_declaration_1"
  independenceGroupIds := ["group_1"]
  relationships := []
  reviewerPrincipalId := "usr_reviewer"
  status := .verified
  validity := validFor 5 60 (by decide)

def review : HumanReviewRecord where
  definitionSha256 := sha256 'd' '4'
  scope
  action := .support
  assessment := ⟨sha256 'd' '5', "assessment_1"⟩
  completedAt := day 8
  conflicts := []
  critiques := [⟨critique.definitionSha256, critique.critiqueId⟩]
  expiresAt := day 40
  independenceDeclaration := ⟨reviewer.definitionSha256, reviewer.declarationId⟩
  observations := [observation]
  protocol := protocol.reference
  relationships := []
  reviewId := "review_1"
  reviewedArtifacts := [evidence]
  reviewerPrincipalId := "usr_reviewer"
  reviewerRoleId := "role_1"
  startedAt := day 8
  supersedes := none

def assurances (last : Fin 100) (h : 1 < last) : ModelAssuranceRepository :=
  .ofRecords (fun
    | .blindedEvaluationPlan => [plan]
    | .blindedEvaluationResult => [blindResult]
    | .calibrationReport => [calibration, criticCalibration]
    | .humanReviewProtocol => [protocol]
    | .humanReviewRecord => [review]
    | .humanReviewerIndependence => [reviewer]
    | .independenceDeclaration => [declaration, criticDeclaration, planDeclaration last h]
    | .independentCritique => [critique]
    | .modelEvaluatorProfile => [profile, criticProfile]
    | .modelQualificationReport => [report, criticReport]
    | .modelQualificationSuite => [suite, criticSuite])

def assessment : Assessment where
  definitionSha256 := sha256 'd' '5'
  scope
  aggregationPolicy := ⟨sha256 'd' '6', "policy_version_1"⟩
  assessmentId := "assessment_1"
  criterion
  eligibility := .eligible
  observations := [observation]
  riskTier := .high
  sourceFreshness := .current

def stored {α : Type} (recordId : String) (record : α) (scope' : EvidenceScope) (id : String) : Option α :=
  if scope' = scope ∧ id = recordId then some record else none

def evaluations : EvaluationRepository where
  findAggregationPolicy := stored "policy_version_1" ⟨⟨sha256 'd' '6', scope⟩, dataset⟩
  findAssessment := stored "assessment_1" assessment
  findEvaluationRun := stored "run_1" ⟨⟨sha256 'd' '7', scope⟩, oracle⟩
  findOracleSpec := stored "oracle_version_1" ⟨⟨oracle.definitionSha256, scope⟩⟩
  findQualificationReport := stored "qualification_report_1" ⟨⟨baseReport.definitionSha256, scope⟩⟩
  findRawObservation := stored "observation_1"
    ⟨⟨observation.definitionSha256, scope⟩, sha256 'd' '7', "run_1"⟩

def definition : ModelAssuranceAssessmentInput where
  assessmentExtensionId := "assurance_1"
  baseAssessment := ⟨assessment.definitionSha256, assessment.assessmentId⟩
  blindedPlan := plan.reference
  blindedResult := ⟨blindResult.definitionSha256, blindResult.resultId⟩
  calibrationContext := ⟨"en-us", ["adults"], "task_1"⟩
  calibrationReport := report.calibrationReport
  critiques := [⟨critique.definitionSha256, critique.critiqueId⟩]
  humanReviewProtocol := protocol.reference
  humanReviews := [⟨review.definitionSha256, review.reviewId⟩]
  independenceDeclarations := [⟨sha256 'b' '4', "declaration_2"⟩, ⟨sha256 'c' '4', "declaration_3"⟩]
  modelQualificationReport := ⟨report.definitionSha256, report.reportId⟩
  nonModelEvidence := ⟨[observation], [oracle]⟩
  riskTier := .high
  validUntil := day 30

def derive (last : Fin 100) (h : 1 < last) (instant : UtcMillisecondTimestamp)
    : Except AssuranceError ModelAssuranceAssessmentDefinition :=
  deriveAssessment evaluations (assurances last h) scope "assurance_1" definition instant

-- Which of the two subjects comes first, which takes long to compute, has no reasons.
theorem comparisonReasons_eq (primary declaration : Option IndependenceDeclaration)
    (instant : UtcMillisecondTimestamp)
    : comparisonReasons primary declaration instant
        = match declaration, primary with
          | none, _ => [.declarationMismatch]
          | some _, none => []
          | some declaration, some primary =>
            if unverifiableReasons primary declaration instant ≠ [] then [.critiqueUnverifiable]
            else if subjectKey primary == subjectKey declaration ∨ sharedDimensions primary declaration ≠ [] then
              [.critiqueCorrelated]
            else [] := by
  cases declaration with
  | none => rfl
  | some declaration =>
    cases primary with
    | none => rfl
    | some primary =>
      dsimp only [comparisonReasons, compareEvaluatorIndependence]
      by_cases hreasons : unverifiableReasons primary declaration instant ≠ []
      . rw [if_pos hreasons, if_pos hreasons]
      . rw [if_neg hreasons, if_neg hreasons]
        by_cases hshared : subjectKey primary == subjectKey declaration
            ∨ sharedDimensions primary declaration ≠ []
        . rw [if_pos hshared, if_pos hshared]
        . rw [if_neg hshared, if_neg hshared]
          split
          . next heq => split at heq <;> cases heq
          . next heq => split at heq <;> cases heq
          . rfl

/-- The declaration that the plan names ends on a day on which the assessment is still said to be valid. -/
theorem not_eligible_before_validUntil
    : ∃ derived, derive 12 (by decide) (day 10) = .ok derived ∧ derived.eligible = true
        ∧ (day 10).value ≤ (day 12).value ∧ (day 12).value < derived.validUntil.value
        ∧ ∃ again, derive 12 (by decide) (day 12) = .ok again ∧ again.eligible = false
          ∧ again.reasons = [.independenceUnverified] := by
  have hnow : (derive 12 (by decide) (day 10)).toOption.any (fun derived =>
      derived.eligible && decide ((day 12).value < derived.validUntil.value)) = true := by
    delta derive deriveAssessment ineligibilityReasons evaluateIndependentCritiqueIntegrity
      critiqueIntegrityReasons critiqueReasons
    simp only [comparisonReasons_eq]
    decide +kernel
  have hthen : (derive 12 (by decide) (day 12)).toOption.any (fun again =>
      !again.eligible && again.reasons == [.independenceUnverified]) = true := by
    delta derive deriveAssessment ineligibilityReasons evaluateIndependentCritiqueIntegrity
      critiqueIntegrityReasons critiqueReasons
    simp only [comparisonReasons_eq]
    decide +kernel
  rcases exists_of_any hnow with ⟨derived, hderived, h⟩
  rcases exists_of_any hthen with ⟨again, hagain, h'⟩
  simp only [Bool.and_eq_true, decide_eq_true_eq, Bool.not_eq_true', beq_iff_eq] at h h'
  exact ⟨derived, hderived, h.1, by decide, h.2, again, hagain, h'.1, h'.2⟩

theorem eligible_before_validUntil_day
    : ∃ again, derive 60 (by decide) (day 29) = .ok again ∧ again.eligible = true := by
  have hnow : (derive 60 (by decide) (day 10)).toOption.any (fun derived =>
      derived.eligible && derived.validUntil == day 30) = true := by
    delta derive deriveAssessment ineligibilityReasons evaluateIndependentCritiqueIntegrity
      critiqueIntegrityReasons critiqueReasons
    simp only [comparisonReasons_eq]
    decide +kernel
  have hcovers : (readAssessmentGraph evaluations (assurances 60 (by decide)) scope definition).toOption.all
      (fun graph => decide (PlanDeclarationCovers definition graph)) = true := by
    decide
  rcases exists_of_any hnow with ⟨derived, hderived, h⟩
  simp only [Bool.and_eq_true, beq_iff_eq] at h
  rcases eligible_before_validUntil_iff evaluations (assurances 60 (by decide)) scope "assurance_1" definition
    (day 10) derived hderived h.1 with ⟨graph, hgraph, hiff⟩
  rw [hgraph] at hcovers
  rw [h.2] at hiff
  exact hiff.mpr (of_decide_eq_true hcovers) (day 29) (by decide) (by decide)

end AssessmentSample

end Assurance
end ProofStack
