import ProofStack.Checks
import ProofStack.Contracts.Release.Decision

/-!
This module contains the decision table of a release.
-/

namespace ProofStack
namespace Release

open Checks

inductive PolicyState where
  | active
  | notEffective
  | expired
  | withdrawn
  | superseded
  | authorityUnavailable
  deriving DecidableEq

inductive ReviewState where
  | unavailable
  | insufficient
  | conditionsUnresolved
  | conflicted
  | opposed
  | escalated
  | matched
  deriving DecidableEq

inductive Applicability where
  | match
  | mismatch
  | unknown
  deriving DecidableEq

inductive CandidateAuthority where
  | qualified
  | unqualified
  | unavailable
  deriving DecidableEq

structure ReleasePolicyRule where
  ruleId : String
  predicateKind : ReleasePolicyPredicateKind
  nonWaivable : Bool
  deriving DecidableEq

structure ReleaseRuleClassificationInput where
  rule : ReleasePolicyRule
  result : PolicyEvaluationRuleResult
  applicability : Applicability
  candidateAuthority : CandidateAuthority
  originalPolicyState : PolicyState
  currentPolicyState : PolicyState
  normalApproval : ReviewState
  ruleException : ReviewState
  deriving DecidableEq

inductive InvalidReleaseRuleObservationError where
  | releaseRuleObservationInvalid
  deriving DecidableEq

structure ReleaseRuleClassification where
  status : ReleaseDecisionRuleStatus
  originalOutcome : PolicyEvaluationRuleOutcome
  reason : ReleaseDecisionRuleReason
  deriving DecidableEq

structure DecisionEncoding where
  isNFC : String → Bool
  resultBytes : PolicyEvaluationRuleResult → Nat
  inputBytes : ReleaseDecisionInputDefinition → Nat
  decisionBytes : ReleaseDecisionDefinition → Nat

variable (encoding : DecisionEncoding)

namespace ReleaseRuleClassificationInput

def parse (input : ReleaseRuleClassificationInput)
    : Except InvalidReleaseRuleObservationError ReleaseRuleClassificationInput := do
  let _ ← parseWith (OpaqueIdSchema input.rule.ruleId) .releaseRuleObservationInvalid input.rule
  let _ ← parseWith (input.result.Accepted encoding.isNFC encoding.resultBytes)
    .releaseRuleObservationInvalid input.result
  failIf (input.rule.ruleId ≠ input.result.ruleId
      ∨ input.rule.predicateKind ≠ input.result.predicateKind)
    .releaseRuleObservationInvalid
  return input

def unresolved (value : ReleaseRuleClassificationInput) (reason : ReleaseDecisionRuleReason)
    : ReleaseRuleClassification :=
  ⟨.unresolved, value.result.outcome, reason⟩

def satisfied (value : ReleaseRuleClassificationInput) (reason : ReleaseDecisionRuleReason)
    : ReleaseRuleClassification :=
  ⟨.satisfied, value.result.outcome, reason⟩

def classify (value : ReleaseRuleClassificationInput) : ReleaseRuleClassification :=
  if value.originalPolicyState ≠ .active then value.unresolved .originalPolicyUnavailable
  else if value.currentPolicyState ≠ .active then value.unresolved .currentPolicyUnavailable
  else if value.candidateAuthority ≠ .qualified then value.unresolved .candidateAuthorityUnverified
  else if value.applicability = .mismatch ∨ value.result.outcome = .notApplicable then
    value.unresolved .policyInapplicable
  else if value.applicability = .unknown then value.unresolved .policyApplicabilityUnknown
  else if value.rule.predicateKind = .approvalRequired then
    match value.normalApproval with
    | .opposed => value.unresolved .reviewOpposed
    | .escalated => value.unresolved .reviewEscalated
    | .matched => value.satisfied .normalApprovalApplied
    | .unavailable | .insufficient | .conditionsUnresolved | .conflicted =>
      value.unresolved .normalApprovalUnavailable
  else if value.result.outcome = .satisfied then value.satisfied .evaluationSatisfied
  else if value.result.outcome = .indeterminate then value.unresolved .evidenceIndeterminate
  else if value.rule.nonWaivable then
    ⟨.nonWaivableViolation, value.result.outcome, .nonWaivableViolation⟩
  else
    match value.ruleException with
    | .opposed => value.unresolved .reviewOpposed
    | .escalated => value.unresolved .reviewEscalated
    | .matched => value.satisfied .scopedExceptionApplied
    | .unavailable | .insufficient | .conditionsUnresolved | .conflicted =>
      value.unresolved .exceptionUnavailable

end ReleaseRuleClassificationInput

def classifyReleaseRule (input : ReleaseRuleClassificationInput)
    : Except InvalidReleaseRuleObservationError ReleaseRuleClassification := do
  let value ← input.parse encoding
  return value.classify

inductive InvalidReleaseDecisionInventoryError where
  | releaseDecisionInventoryInvalid
  deriving DecidableEq

structure ReleaseDispositionInput where
  request : ReleaseDecisionInputDefinition
  selectionState : ReleaseDecisionSelectionState
  policies : List ReleaseDecisionPolicyFinding
  deriving DecidableEq

def isPlanned (policy : ReleaseDecisionPolicyFinding) (planned : PlannedReleasePolicyEvaluation)
    : Bool :=
  policy.mode = planned.mode
    && policy.policy.policyId = planned.request.policy.policyId
    && policy.policy.policyVersionId = planned.request.policy.policyVersionId
    && policy.policy.definitionSha256 = planned.request.policy.definitionSha256
    && policy.request.evaluationRequestId = planned.request.evaluationRequestId
    && policy.request.definitionSha256 = planned.requestSha256

def disposition (request : ReleaseDecisionInputDefinition) (state : ReleaseDecisionSelectionState)
    (policies : List ReleaseDecisionPolicyFinding) : ReleaseDecisionDisposition :=
  if state ≠ .current then .hold
  else if request.mode = .observationOnly then .advisory
  else if (policies.filter isMandatory).any (hasStatus .nonWaivableViolation) then .reject
  else if (policies.filter isMandatory).any
      (fun policy => policy.state.isUnavailable || hasStatus .unresolved policy) then .hold
  else .proceed

def deriveReleaseDisposition (input : ReleaseDispositionInput)
    : Except InvalidReleaseDecisionInventoryError ReleaseDecisionDisposition := do
  let request ← parseWith (input.request.Accepted encoding.isNFC encoding.inputBytes)
    .releaseDecisionInventoryInvalid input.request
  failIf (input.policies.length ≠ request.evaluations.length) .releaseDecisionInventoryInvalid
  let policies ← parseWith (∀ policy ∈ input.policies, policy.Accepted)
    .releaseDecisionInventoryInvalid input.policies
  failIf (¬(policies.zip request.evaluations).all (fun pair => isPlanned pair.1 pair.2))
    .releaseDecisionInventoryInvalid
  failIf (¬(policies.filterMap (·.state.jobId)).Nodup
      ∨ ¬(policies.filterMap (·.state.snapshotId)).Nodup
      ∨ ¬(policies.filterMap (·.state.evaluationId)).Nodup)
    .releaseDecisionInventoryInvalid
  failIf ((supports policies).length > request.verificationLimits.maxApprovalRecords
      ∨ ¬((supports policies).map (·.approvalId)).Nodup)
    .releaseDecisionInventoryInvalid
  return disposition request input.selectionState policies

end Release
end ProofStack
