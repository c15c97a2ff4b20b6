import ProofStack.Checks
import ProofStack.Contracts.Evaluation.ModelAssurance
import ProofStack.Reasons
import ProofStack.Sequence.Keyed

/-!
This module contains the integrity of the evidence of a model evaluator.
-/

namespace ProofStack
namespace Assurance

open Checks Reasons Sequence

inductive AssuranceError where
  | dependency (dependency : String)
  | invalidCalibrationContext
  | invalidCritiqueDeclarations
  | invalidHumanReviewDeclarations
  | invalidRecordInput (message : String)
  deriving DecidableEq

inductive IndependenceUnverifiableReason where
  | declarationNotCurrent
  | declarationNotVerified
  | scopeMismatch
  | unknownMaterialLineage
  deriving DecidableEq

def IndependenceUnverifiableReason.text : IndependenceUnverifiableReason → String
  | .declarationNotCurrent => "declaration_not_current"
  | .declarationNotVerified => "declaration_not_verified"
  | .scopeMismatch => "scope_mismatch"
  | .unknownMaterialLineage => "unknown_material_lineage"

inductive IndependenceComparison where
  | independent (groupKeys : String × String)
  | correlated (sameSubject : Bool) (sharedDimensions : List MaterialIndependenceDimension)
  | unverifiable (reasons : List IndependenceUnverifiableReason)

def subjectKey (declaration : IndependenceDeclaration) : String :=
  evaluatorKey declaration.subject.evaluator ++ ":" ++ profileKey declaration.subject.modelProfile

open IndependenceUnverifiableReason in
def unverifiableReasons (left right : IndependenceDeclaration) (instant : UtcMillisecondTimestamp)
    : List IndependenceUnverifiableReason :=
  flag (left.scope ≠ right.scope) scopeMismatch
    ++ flag (left.reviewStatus ≠ .verified ∨ right.reviewStatus ≠ .verified) declarationNotVerified
    ++ flag (¬left.validity.current instant ∨ ¬right.validity.current instant) declarationNotCurrent
    ++ flag (∃ dimension ∈ materialIndependenceDimensions, left.dimensions dimension = .unknown
        ∨ right.dimensions dimension = .unknown) unknownMaterialLineage

def sharedDimensions (left right : IndependenceDeclaration) : List MaterialIndependenceDimension :=
  materialIndependenceDimensions.filter (fun dimension =>
    match left.dimensions dimension, right.dimensions dimension with
    | .declared identifiers, .declared identifiers' => identifiers'.any (identifiers.contains ·)
    | _, _ => false)

def compareEvaluatorIndependence (left right : IndependenceDeclaration) (instant : UtcMillisecondTimestamp)
    : IndependenceComparison :=
  let reasons := unverifiableReasons left right instant
  let sameSubject := subjectKey left == subjectKey right
  if reasons ≠ [] then
    .unverifiable (sortedReasons IndependenceUnverifiableReason.text reasons)
  else if sameSubject = true ∨ sharedDimensions left right ≠ [] then
    .correlated sameSubject (sharedDimensions left right)
  else if subjectKey left < subjectKey right then
    .independent (subjectKey left, subjectKey right)
  else
    .independent (subjectKey right, subjectKey left)

inductive IndependentCritiqueIntegrityReason where
  | criterionMismatch
  | critiqueCorrelated
  | critiqueDuplicate
  | critiqueIncomplete
  | critiqueMissing
  | critiqueUnexpected
  | critiqueUnverifiable
  | declarationMismatch
  | opposingFinding
  | primaryDeclarationMissing
  | scopeMismatch
  | uncertainFinding
  deriving DecidableEq

def IndependentCritiqueIntegrityReason.text : IndependentCritiqueIntegrityReason → String
  | .criterionMismatch => "criterion_mismatch"
  | .critiqueCorrelated => "critique_correlated"
  | .critiqueDuplicate => "critique_duplicate"
  | .critiqueIncomplete => "critique_incomplete"
  | .critiqueMissing => "critique_missing"
  | .critiqueUnexpected => "critique_unexpected"
  | .critiqueUnverifiable => "critique_unverifiable"
  | .declarationMismatch => "declaration_mismatch"
  | .opposingFinding => "opposing_finding"
  | .primaryDeclarationMissing => "primary_declaration_missing"
  | .scopeMismatch => "scope_mismatch"
  | .uncertainFinding => "uncertain_finding"

def primaryDeclaration (plan : BlindedEvaluationPlan) (declarations : List IndependenceDeclaration)
    : Option IndependenceDeclaration :=
  (lookup (·.independenceDeclarationId) declarations plan.independenceDeclaration.id).filter (fun primary =>
    primary.definitionSha256 = plan.independenceDeclaration.definitionSha256 ∧ primary.scope = plan.scope)

def critiqueDeclaration (critique : IndependentCritique) (declarations : List IndependenceDeclaration)
    : Option IndependenceDeclaration :=
  (lookup (·.independenceDeclarationId) declarations critique.independenceDeclaration.id).filter
    (fun declaration =>
      declaration.definitionSha256 = critique.independenceDeclaration.definitionSha256
        ∧ evaluatorKey declaration.subject.evaluator = evaluatorKey critique.evaluator
        ∧ profileKey declaration.subject.modelProfile = profileKey critique.modelProfile)

/-- Without a primary declaration, a declaration is not compared. -/
def comparisonReasons (primary declaration : Option IndependenceDeclaration) (instant : UtcMillisecondTimestamp)
    : List IndependentCritiqueIntegrityReason :=
  match declaration, primary with
  | none, _ => [.declarationMismatch]
  | some _, none => []
  | some declaration, some primary =>
    match compareEvaluatorIndependence primary declaration instant with
    | .correlated _ _ => [.critiqueCorrelated]
    | .unverifiable _ => [.critiqueUnverifiable]
    | .independent _ => []

open IndependentCritiqueIntegrityReason in
def outcomeReasons : IndependentCritiqueOutcome → List IndependentCritiqueIntegrityReason
  | .produced findings =>
    flag (CritiqueImpact.opposes ∈ findings) opposingFinding
      ++ flag (CritiqueImpact.uncertain ∈ findings) uncertainFinding
  | .abstained => [.critiqueIncomplete]
  | .error => [.critiqueIncomplete]

open IndependentCritiqueIntegrityReason in
def critiqueReasons (plan : BlindedEvaluationPlan) (declarations : List IndependenceDeclaration)
    (instant : UtcMillisecondTimestamp) (critique : IndependentCritique)
    : List IndependentCritiqueIntegrityReason :=
  flag (plan.scope ≠ critique.scope) scopeMismatch
    ++ flag (criterionKey critique.criterion ∉ plan.criteria.map criterionKey) criterionMismatch
    ++ flag (critique.completedAt.value > instant.value ∨ critique.recordedAt.value > instant.value)
      critiqueIncomplete
    ++ comparisonReasons (primaryDeclaration plan declarations)
      (critiqueDeclaration critique declarations) instant
    ++ outcomeReasons critique.outcome

open IndependentCritiqueIntegrityReason in
def critiqueIntegrityReasons (plan : BlindedEvaluationPlan) (expected : List RecordReference)
    (critiques : List IndependentCritique) (declarations : List IndependenceDeclaration)
    (instant : UtcMillisecondTimestamp) : List IndependentCritiqueIntegrityReason :=
  flag (¬(expected.map (·.id)).Nodup ∨ ¬(critiques.map (·.critiqueId)).Nodup) critiqueDuplicate
    ++ expected.flatMap (fun reference =>
      flag ((lookup (·.critiqueId) critiques reference.id).all (fun critique =>
        critique.definitionSha256 != reference.definitionSha256)) critiqueMissing)
    ++ flag (∃ critique ∈ critiques, critique.critiqueId ∉ expected.map (·.id)) critiqueUnexpected
    ++ flag ((primaryDeclaration plan declarations).isNone = true) primaryDeclarationMissing
    ++ critiques.flatMap (critiqueReasons plan declarations instant)

def evaluateIndependentCritiqueIntegrity (plan : BlindedEvaluationPlan) (expected : List RecordReference)
    (critiques : List IndependentCritique) (declarations : List IndependenceDeclaration)
    (instant : UtcMillisecondTimestamp)
    : Except AssuranceError (Verdict IndependentCritiqueIntegrityReason (List String)) := do
  failIf (¬(declarations.map (·.independenceDeclarationId)).Nodup) .invalidCritiqueDeclarations
  return .of IndependentCritiqueIntegrityReason.text
    (critiqueIntegrityReasons plan expected critiques declarations instant)
    ((critiques.map (·.critiqueId)).dedup.mergeSort)

inductive BlindedResultIntegrityReason where
  | attemptFailed
  | attemptMetadataMismatch
  | attemptMissing
  | labelLeakage
  | orderRationaleVariance
  | orderVerdictVariance
  | planInvalid
  | planNotValidForExecution
  | planReferenceMismatch
  | resultBeforePlanPublication
  | scopeMismatch
  | statusDeclarationMismatch
  | unexpectedAttempt
  deriving DecidableEq

def BlindedResultIntegrityReason.text : BlindedResultIntegrityReason → String
  | .attemptFailed => "attempt_failed"
  | .attemptMetadataMismatch => "attempt_metadata_mismatch"
  | .attemptMissing => "attempt_missing"
  | .labelLeakage => "label_leakage"
  | .orderRationaleVariance => "order_rationale_variance"
  | .orderVerdictVariance => "order_verdict_variance"
  | .planInvalid => "plan_invalid"
  | .planNotValidForExecution => "plan_not_valid_for_execution"
  | .planReferenceMismatch => "plan_reference_mismatch"
  | .resultBeforePlanPublication => "result_before_plan_publication"
  | .scopeMismatch => "scope_mismatch"
  | .statusDeclarationMismatch => "status_declaration_mismatch"
  | .unexpectedAttempt => "unexpected_attempt"

inductive BlindedResultIntegrity where
  | consistent (attemptIds comparisonPairIds : List String)
  | disagreement (reasons : List BlindedResultIntegrityReason)
  | invalid (reasons : List BlindedResultIntegrityReason)

def BlindedResultIntegrity.reasons : BlindedResultIntegrity → List BlindedResultIntegrityReason
  | .consistent _ _ => []
  | .disagreement reasons => reasons
  | .invalid reasons => reasons

def executionWithinPlan (plan : BlindedEvaluationPlan) (result : BlindedEvaluationResult) : Prop :=
  plan.validity.validFrom.value ≤ result.startedAt.value
    ∧ result.completedAt.value < plan.validity.validUntil.value

instance (plan : BlindedEvaluationPlan) (result : BlindedEvaluationResult)
    : Decidable (executionWithinPlan plan result) :=
  inferInstanceAs (Decidable (_ ∧ _))

open BlindedResultIntegrityReason in
def attemptReasons (result : BlindedEvaluationResult) (planned : BlindedAttempt)
    : List BlindedResultIntegrityReason :=
  match lookup (·.attemptId) result.attempts planned.attemptId with
  | none => [.attemptMissing]
  | some attempt =>
    flag (attempt.presentationId ≠ planned.presentationId ∨ attempt.seed ≠ planned.seed)
        attemptMetadataMismatch
      ++ flag (attempt.verdict = none) attemptFailed

open BlindedResultIntegrityReason in
def invalidReasons (plan : BlindedEvaluationPlan) (result : BlindedEvaluationResult)
    : List BlindedResultIntegrityReason :=
  flag (plan.scope ≠ result.scope) scopeMismatch
    ++ flag (result.plan ≠ plan.reference) planReferenceMismatch
    ++ flag (plan.planStatus ≠ .valid) planInvalid
    ++ flag (¬executionWithinPlan plan result) planNotValidForExecution
    ++ flag (result.startedAt.value < plan.publishedAt.value) resultBeforePlanPublication
    ++ plan.attempts.flatMap (attemptReasons result)
    ++ flag (∃ attempt ∈ result.attempts, attempt.attemptId ∉ plan.attempts.map (·.attemptId))
      unexpectedAttempt

def pairVaries (plan : BlindedEvaluationPlan) (result : BlindedEvaluationResult) (planned : BlindedAttempt)
    : Bool :=
  let pair := plan.attempts.filter (·.comparisonPairId == planned.comparisonPairId)
  let completed := pair.filterMap (fun attempt =>
    (lookup (·.attemptId) result.attempts attempt.attemptId).bind (·.verdict))
  completed.length == pair.length && 1 < completed.dedup.length

open BlindedResultIntegrityReason in
def disagreementReasons (plan : BlindedEvaluationPlan) (result : BlindedEvaluationResult)
    : List BlindedResultIntegrityReason :=
  flag (plan.attempts.any (pairVaries plan result)) orderVerdictVariance
    ++ flag (.labelLeakage ∈ result.disagreementReasons) labelLeakage
    ++ flag (.orderRationaleVariance ∈ result.disagreementReasons) orderRationaleVariance

open BlindedResultIntegrityReason in
def directlyObservedReasons (result : BlindedEvaluationResult)
    (invalid disagreement : List BlindedResultIntegrityReason) : List BlindedResultIntegrityReason :=
  flag (¬(.attemptMissing ∈ result.disagreementReasons
      ↔ attemptMissing ∈ invalid ∨ attemptFailed ∈ invalid)) statusDeclarationMismatch
    ++ flag (¬(.orderVerdictVariance ∈ result.disagreementReasons
      ↔ orderVerdictVariance ∈ disagreement)) statusDeclarationMismatch
    ++ flag (¬(.unexpectedAttempt ∈ result.disagreementReasons ↔ unexpectedAttempt ∈ invalid))
      statusDeclarationMismatch

def derivedStatus (invalid disagreement : List BlindedResultIntegrityReason) : BlindedResultStatus :=
  if invalid ≠ [] then .invalid else if disagreement ≠ [] then .disagreement else .consistent

def evaluateBlindedResultIntegrity (plan : BlindedEvaluationPlan) (result : BlindedEvaluationResult)
    : BlindedResultIntegrity :=
  let observed := invalidReasons plan result
  let disagreement := disagreementReasons plan result
  let declared := observed ++ directlyObservedReasons result observed disagreement
  let invalid := declared
    ++ flag (result.status ≠ derivedStatus declared disagreement) .statusDeclarationMismatch
  if invalid ≠ [] then
    .invalid (sortedReasons BlindedResultIntegrityReason.text (invalid ++ disagreement))
  else if disagreement ≠ [] then
    .disagreement (sortedReasons BlindedResultIntegrityReason.text disagreement)
  else
    .consistent (plan.attempts.map (·.attemptId))
      ((plan.attempts.map (·.comparisonPairId)).dedup.mergeSort)

end Assurance
end ProofStack
