import ProofStack.Contracts.PolicyEvaluation.Job
import ProofStack.Contracts.PolicyEvaluation.RuleResult
import ProofStack.Contracts.Release.PolicySelection

/-!
This module contains the input of a release decision and the decision with its findings.
-/

namespace ProofStack
namespace Release

def maxReleaseDecisionInputDefinitionBytes : Nat := 64 * 1024
def maxReleaseDecisionDefinitionBytes : Nat := 2 * 1024 * 1024

structure ReleaseApprovalReference where
  approvalId : String
  definitionSha256 : String
  deriving DecidableEq

def ReleaseApprovalReference.Accepted (value : ReleaseApprovalReference) : Prop :=
  OpaqueIdSchema value.approvalId ∧ Sha256Schema value.definitionSha256

instance ReleaseApprovalReference.decidableAccepted (value : ReleaseApprovalReference) : Decidable value.Accepted :=
  inferInstanceAs (Decidable (_ ∧ _))

inductive PublisherPrincipalType where
  | user
  | service
  deriving DecidableEq

structure ReleaseDecisionPublisherReceipt where
  principalId : String
  principalType : PublisherPrincipalType
  authenticatedAt : PolicyEvaluationTime
  credentialId : String
  requestId : String
  deriving DecidableEq

def ReleaseDecisionPublisherReceipt.Accepted (value : ReleaseDecisionPublisherReceipt) : Prop :=
  OpaqueIdSchema value.principalId
    ∧ value.authenticatedAt.IsUtcMillisecond
    ∧ OpaqueIdSchema value.credentialId
    ∧ boundedInteger 1 128 (utf16Units value.requestId).length

instance ReleaseDecisionPublisherReceipt.decidableAccepted (value : ReleaseDecisionPublisherReceipt)
    : Decidable value.Accepted :=
  inferInstanceAs (Decidable (_ ∧ _ ∧ _ ∧ _))

structure ReleaseDecisionVerificationLimits where
  maxAcquisitionRecords : Nat
  maxAcquisitionRecordBytes : Nat
  maxApprovalRecords : Nat
  deriving DecidableEq

def ReleaseDecisionVerificationLimits.Accepted (value : ReleaseDecisionVerificationLimits) : Prop :=
  boundedInteger 2 maxPolicyEvaluationAcquisitionRecords value.maxAcquisitionRecords
    ∧ boundedInteger 1 maxPolicyEvaluationAcquisitionRecordBytes value.maxAcquisitionRecordBytes
    ∧ boundedInteger 0 maxReleaseDecisionApprovalReads value.maxApprovalRecords

instance ReleaseDecisionVerificationLimits.decidableAccepted
    (value : ReleaseDecisionVerificationLimits) : Decidable value.Accepted :=
  inferInstanceAs (Decidable (_ ∧ _ ∧ _))

def RequestDefinitionAccepted (value : PolicyEvaluationRequestDefinition) : Prop :=
  value.candidate.Accepted
    ∧ OpaqueIdSchema value.evaluationRequestId
    ∧ value.limits.Accepted
    ∧ value.policy.Accepted

instance (value : PolicyEvaluationRequestDefinition) : Decidable (RequestDefinitionAccepted value) :=
  inferInstanceAs (Decidable (_ ∧ _ ∧ _ ∧ _))

structure PlannedReleasePolicyEvaluation where
  mode : ReleasePolicyMode
  request : PolicyEvaluationRequestDefinition
  requestSha256 : String
  deriving DecidableEq

def PlannedReleasePolicyEvaluation.Accepted (value : PlannedReleasePolicyEvaluation) : Prop :=
  RequestDefinitionAccepted value.request ∧ Sha256Schema value.requestSha256

instance PlannedReleasePolicyEvaluation.decidableAccepted (value : PlannedReleasePolicyEvaluation)
    : Decidable value.Accepted :=
  inferInstanceAs (Decidable (_ ∧ _))

structure ReleaseDecisionInputDefinition where
  decisionInputRequestId : String
  candidate : ReleaseCandidateReference
  selection : ReleasePolicySelectionReference
  rationale : String
  scope : EvidenceScope
  mode : ReleasePolicySelectionMode
  publisher : ReleaseDecisionPublisherReceipt
  createdAt : PolicyEvaluationTime
  expiresAt : PolicyEvaluationTime
  verificationLimits : ReleaseDecisionVerificationLimits
  evaluations : List PlannedReleasePolicyEvaluation
  deriving DecidableEq

namespace ReleaseDecisionInputDefinition

@[mk_iff]
structure Shape (isNFC : String → Bool) (value : ReleaseDecisionInputDefinition) : Prop where
  decisionInputRequestId : OpaqueIdSchema value.decisionInputRequestId
  candidate : value.candidate.Accepted
  selection : value.selection.Accepted ReleasePolicySelectionBody
  rationale : AssuranceRationaleSchema isNFC value.rationale
  scope : EvidenceScopeSchema value.scope
  publisher : value.publisher.Accepted
  verificationLimits : value.verificationLimits.Accepted
  evaluations : ∀ evaluation ∈ value.evaluations, evaluation.Accepted
  evaluations_length : value.evaluations.length ≤ maxReleasePolicySelectionPolicies

instance (isNFC : String → Bool) (value : ReleaseDecisionInputDefinition)
    : Decidable (value.Shape isNFC) :=
  decidable_of_iff _ (shape_iff isNFC value).symm

def issues (definitionBytes : ReleaseDecisionInputDefinition → Nat)
    (value : ReleaseDecisionInputDefinition) : List String :=
  issue (value.expiresAt.orderKey ≤ value.createdAt.orderKey
        ∨ value.expiresAt.orderKey - value.createdAt.orderKey
            > PolicyEvaluationTime.durationUnits maxPolicyEvaluationDeadlineMilliseconds)
      "Input validity must be positive and at most one hour"
    ++ issue (value.publisher.authenticatedAt.orderKey > value.createdAt.orderKey)
      "Input creation cannot precede its original authentication receipt"
    ++ issue (¬(value.mode = .enforce ↔ ∃ evaluation ∈ value.evaluations, evaluation.mode = .mandatory))
      "Enforcement requires a mandatory policy; observation cannot downgrade one"
    ++ issue (¬isStrictlySortedUnique (value.evaluations.map (·.request.policy.policyId)))
      "Planned policies must have distinct logical IDs in ascending order"
    ++ issue (¬(value.evaluations.map (·.request.evaluationRequestId)).Nodup)
      "Planned evaluation request IDs must be distinct"
    ++ issue (∃ evaluation ∈ value.evaluations, evaluation.request.candidate ≠ value.candidate)
      "Every planned request must bind the exact original candidate"
    ++ issue (∃ evaluation ∈ value.evaluations, evaluation.request.evaluationTime ≠ value.createdAt)
      "Every planned request must retain the exact original semantic cut text"
    ++ issue (definitionBytes value > maxReleaseDecisionInputDefinitionBytes)
      "Input definition exceeds its canonical UTF-8 byte ceiling"

def Accepted (isNFC : String → Bool) (definitionBytes : ReleaseDecisionInputDefinition → Nat)
    (value : ReleaseDecisionInputDefinition) : Prop :=
  value.Shape isNFC ∧ value.issues definitionBytes = []

instance (isNFC : String → Bool) (definitionBytes : ReleaseDecisionInputDefinition → Nat)
    (value : ReleaseDecisionInputDefinition) : Decidable (value.Accepted isNFC definitionBytes) :=
  inferInstanceAs (Decidable (_ ∧ _))

end ReleaseDecisionInputDefinition

inductive ReleaseDecisionDisposition where
  | advisory
  | proceed
  | hold
  | reject
  deriving DecidableEq

inductive ReleaseDecisionRuleStatus where
  | satisfied
  | unresolved
  | nonWaivableViolation
  deriving DecidableEq

inductive ReleaseDecisionRuleReason where
  | evaluationSatisfied
  | normalApprovalApplied
  | scopedExceptionApplied
  | originalPolicyUnavailable
  | currentPolicyUnavailable
  | candidateAuthorityUnverified
  | policyInapplicable
  | policyApplicabilityUnknown
  | evidenceIndeterminate
  | nonWaivableViolation
  | normalApprovalUnavailable
  | exceptionUnavailable
  | reviewOpposed
  | reviewEscalated
  deriving DecidableEq

inductive ReleaseDecisionSelectionState where
  | current
  | unavailable
  | notEffective
  | expired
  | withdrawn
  | superseded
  | conflicting
  deriving DecidableEq

structure ReleaseDecisionRuleFinding where
  ruleId : String
  ruleIndex : Nat
  predicateKind : ReleasePolicyPredicateKind
  originalOutcome : PolicyEvaluationRuleOutcome
  nonWaivable : Bool
  status : ReleaseDecisionRuleStatus
  reason : ReleaseDecisionRuleReason
  supportingApprovals : List ReleaseApprovalReference
  deriving DecidableEq

namespace ReleaseDecisionRuleFinding

@[mk_iff]
structure Shape (value : ReleaseDecisionRuleFinding) : Prop where
  ruleId : OpaqueIdSchema value.ruleId
  ruleIndex : boundedInteger 0 (maxPolicyRules - 1) value.ruleIndex
  supportingApprovals : ∀ approval ∈ value.supportingApprovals, approval.Accepted
  supportingApprovals_length : value.supportingApprovals.length ≤ maxPolicyApprovalGroups
  supportingApprovals_sorted :
    isStrictlySortedUnique (value.supportingApprovals.map (·.approvalId))

instance (value : ReleaseDecisionRuleFinding) : Decidable value.Shape :=
  decidable_of_iff _ (shape_iff value).symm

def statusIssues (value : ReleaseDecisionRuleFinding) : List String :=
  match value.status with
  | .satisfied =>
    issue (value.reason ≠ .normalApprovalApplied ∧ value.reason ≠ .scopedExceptionApplied
          ∧ value.reason ≠ .evaluationSatisfied)
        "Satisfied findings require their exact resolution basis"
      ++ issue (value.reason = .normalApprovalApplied
            ∧ (value.predicateKind ≠ .approvalRequired ∨ value.originalOutcome ≠ .indeterminate))
        "Normal approval resolves only the original approval prerequisite"
      ++ issue (value.reason = .scopedExceptionApplied
            ∧ (value.predicateKind = .approvalRequired ∨ value.originalOutcome ≠ .violated
              ∨ value.nonWaivable))
        "A scoped exception resolves only a known waivable non-approval violation"
      ++ issue (value.reason = .evaluationSatisfied
            ∧ (value.originalOutcome ≠ .satisfied ∨ value.predicateKind = .approvalRequired))
        "Evaluation satisfaction must retain its original non-approval outcome"
  | .nonWaivableViolation =>
    issue (value.originalOutcome ≠ .violated ∨ ¬value.nonWaivable
          ∨ value.reason ≠ .nonWaivableViolation ∨ value.predicateKind = .approvalRequired)
      "Non-waivable violations must retain the original known violation"
  | .unresolved =>
    issue (value.reason = .normalApprovalApplied ∨ value.reason = .scopedExceptionApplied
          ∨ value.reason = .evaluationSatisfied ∨ value.reason = .nonWaivableViolation)
      "An unresolved finding cannot claim a resolved requirement"

def issues (value : ReleaseDecisionRuleFinding) : List String :=
  value.statusIssues
    ++ issue (¬((value.reason = .normalApprovalApplied ∨ value.reason = .scopedExceptionApplied)
          ↔ value.supportingApprovals.length > 0))
      "Only applied approvals/exceptions retain nonempty supporting references"
    ++ issue (value.predicateKind = .approvalRequired ∧ value.originalOutcome ≠ .indeterminate)
      "Original approval evaluation remains indeterminate"

def Accepted (value : ReleaseDecisionRuleFinding) : Prop :=
  value.Shape ∧ value.issues = []

instance (value : ReleaseDecisionRuleFinding) : Decidable value.Accepted :=
  inferInstanceAs (Decidable (_ ∧ _))

end ReleaseDecisionRuleFinding

inductive UnavailableReason where
  | requestMissing
  | resultMissing
  | originalGraphUnavailable
  | originalGraphAmbiguous
  | originalGraphInvalid
  deriving DecidableEq

inductive PolicyFindingState where
  | evaluated (job : PolicyEvaluationJobReference) (snapshot : PolicyEvaluationSnapshotReference)
    (evaluation : PolicyEvaluationResultReference) (ruleCount : Nat)
    (rules : List ReleaseDecisionRuleFinding)
  | unavailable (reason : UnavailableReason) (job : Option PolicyEvaluationJobReference)
    (jobStatus : Option PolicyEvaluationJobStatus)
    (snapshot : Option PolicyEvaluationSnapshotReference)
  deriving DecidableEq

structure ReleaseDecisionPolicyFinding where
  policy : ProofStack.ReleasePolicyReference
  request : PolicyEvaluationRequestReference
  mode : ReleasePolicyMode
  state : PolicyFindingState
  deriving DecidableEq

namespace PolicyFindingState

def jobId : PolicyFindingState → Option String
  | .evaluated job _ _ _ _ => some job.jobId
  | .unavailable _ job _ _ => job.map (·.jobId)

def snapshotId : PolicyFindingState → Option String
  | .evaluated _ snapshot _ _ _ => some snapshot.snapshotId
  | .unavailable _ _ _ snapshot => snapshot.map (·.snapshotId)

def evaluationId : PolicyFindingState → Option String
  | .evaluated _ _ evaluation _ _ => some evaluation.evaluationId
  | .unavailable _ _ _ _ => none

def rules : PolicyFindingState → List ReleaseDecisionRuleFinding
  | .evaluated _ _ _ _ rules => rules
  | .unavailable _ _ _ _ => []

def isUnavailable : PolicyFindingState → Bool
  | .evaluated _ _ _ _ _ => false
  | .unavailable _ _ _ _ => true

def Shape : PolicyFindingState → Prop
  | .evaluated job snapshot evaluation ruleCount rules =>
    job.Accepted
      ∧ snapshot.Accepted
      ∧ evaluation.Accepted
      ∧ boundedInteger 1 maxPolicyRules ruleCount
      ∧ boundedInteger 1 maxPolicyRules rules.length
      ∧ ∀ rule ∈ rules, rule.Accepted
  | .unavailable _ job _ snapshot =>
    (∀ reference ∈ job, reference.Accepted) ∧ ∀ reference ∈ snapshot, reference.Accepted

instance (value : PolicyFindingState) : Decidable value.Shape := by
  cases value <;> unfold Shape <;> infer_instance

def issues : PolicyFindingState → List String
  | .unavailable reason job jobStatus snapshot =>
    issue (job.isSome ≠ jobStatus.isSome) "A known original job requires both identity and status"
      ++ issue (snapshot.isSome ∧ job.isNone) "A retained seal requires its owning original job"
      ++ issue (reason = .requestMissing ∧ (job.isSome ∨ snapshot.isSome))
        "A missing original request cannot invent a job or seal"
  | .evaluated _ _ _ ruleCount rules =>
    issue (ruleCount ≠ rules.length) "Every original rule requires one finding"
      ++ issue (¬isStrictlySortedUnique (rules.map (·.ruleId)))
        "Original rules must have unique ordered IDs"
      ++ issue (rules.map (·.ruleIndex) ≠ List.range rules.length)
        "Rule findings require contiguous original indices"

end PolicyFindingState

def ReleaseDecisionPolicyFinding.Accepted (value : ReleaseDecisionPolicyFinding) : Prop :=
  value.policy.Accepted ∧ value.request.Accepted ∧ value.state.Shape ∧ value.state.issues = []

instance ReleaseDecisionPolicyFinding.decidableAccepted (value : ReleaseDecisionPolicyFinding)
    : Decidable value.Accepted :=
  inferInstanceAs (Decidable (_ ∧ _ ∧ _ ∧ _))

structure ReleaseDecisionInputReference where
  decisionInputRequestId : String
  definitionSha256 : String
  deriving DecidableEq

def ReleaseDecisionInputReference.Accepted (value : ReleaseDecisionInputReference) : Prop :=
  OpaqueIdSchema value.decisionInputRequestId ∧ Sha256Schema value.definitionSha256

instance ReleaseDecisionInputReference.decidableAccepted (value : ReleaseDecisionInputReference)
    : Decidable value.Accepted :=
  inferInstanceAs (Decidable (_ ∧ _))

structure ReleaseDecisionAuthoritySnapshotReference where
  authoritySnapshotId : String
  definitionSha256 : String
  deriving DecidableEq

def ReleaseDecisionAuthoritySnapshotReference.Accepted
    (value : ReleaseDecisionAuthoritySnapshotReference) : Prop :=
  OpaqueIdSchema value.authoritySnapshotId ∧ Sha256Schema value.definitionSha256

instance ReleaseDecisionAuthoritySnapshotReference.decidableAccepted
    (value : ReleaseDecisionAuthoritySnapshotReference) : Decidable value.Accepted :=
  inferInstanceAs (Decidable (_ ∧ _))

structure ReleaseDecisionDefinition where
  decisionId : String
  scope : EvidenceScope
  input : ReleaseDecisionInputReference
  candidate : ReleaseCandidateReference
  selection : ReleasePolicySelectionReference
  mode : ReleasePolicySelectionMode
  selectionState : ReleaseDecisionSelectionState
  authoritySnapshot : ReleaseDecisionAuthoritySnapshotReference
  publisher : ReleaseDecisionPublisherReceipt
  decidedAt : PolicyEvaluationTime
  expiresAt : PolicyEvaluationTime
  rationale : String
  disposition : ReleaseDecisionDisposition
  policies : List ReleaseDecisionPolicyFinding
  deriving DecidableEq

def isMandatory (policy : ReleaseDecisionPolicyFinding) : Bool :=
  policy.mode = .mandatory

def hasStatus (status : ReleaseDecisionRuleStatus) (policy : ReleaseDecisionPolicyFinding) : Bool :=
  policy.state.rules.any (·.status = status)

def supports (policies : List ReleaseDecisionPolicyFinding) : List ReleaseApprovalReference :=
  policies.flatMap (fun policy => policy.state.rules.flatMap (·.supportingApprovals))

namespace ReleaseDecisionDefinition

@[mk_iff]
structure Shape (isNFC : String → Bool) (value : ReleaseDecisionDefinition) : Prop where
  decisionId : OpaqueIdSchema value.decisionId
  scope : EvidenceScopeSchema value.scope
  input : value.input.Accepted
  candidate : value.candidate.Accepted
  selection : value.selection.Accepted ReleasePolicySelectionBody
  authoritySnapshot : value.authoritySnapshot.Accepted
  publisher : value.publisher.Accepted
  rationale : AssuranceRationaleSchema isNFC value.rationale
  policies : ∀ policy ∈ value.policies, policy.Accepted
  policies_length : value.policies.length ≤ maxReleasePolicySelectionPolicies

instance (isNFC : String → Bool) (value : ReleaseDecisionDefinition) : Decidable (value.Shape isNFC) :=
  decidable_of_iff _ (shape_iff isNFC value).symm

def timeIssues (value : ReleaseDecisionDefinition) : List String :=
  issue (value.publisher.authenticatedAt.orderKey > value.decidedAt.orderKey
        ∨ value.decidedAt.orderKey ≥ value.expiresAt.orderKey)
      "Decision must follow actual authentication and precede exact expiry"
    ++ issue (value.expiresAt.orderKey - value.decidedAt.orderKey
          > PolicyEvaluationTime.durationUnits maxPolicyEvaluationDeadlineMilliseconds)
      "Decision validity cannot exceed one hour or its owning input/authority intervals"

def inventoryIssues (value : ReleaseDecisionDefinition) : List String :=
  issue (¬isStrictlySortedUnique (value.policies.map (·.policy.policyId)))
      "Decision must retain every unique original policy in order"
    ++ issue (¬(value.mode = .enforce ↔ (value.policies.filter isMandatory).length > 0))
      "Decision mode cannot omit or downgrade mandatory policies"
    ++ issue (¬(value.policies.map (·.request.evaluationRequestId)).Nodup)
      "Decision must retain unique original requests"
    ++ [value.policies.filterMap (·.state.jobId), value.policies.filterMap (·.state.snapshotId),
        value.policies.filterMap (·.state.evaluationId)].flatMap (fun ids =>
          issue (¬ids.Nodup) "Distinct original requests cannot share owning jobs, seals or results")
    ++ issue ((supports value.policies).length > maxReleaseDecisionApprovalReads
          ∨ ¬((supports value.policies).map (·.approvalId)).Nodup)
      "Supporting approvals cannot be reused across rules or exceed the aggregate bound"

def rejected (value : ReleaseDecisionDefinition) : Bool :=
  (value.policies.filter isMandatory).any (hasStatus .nonWaivableViolation)

def unresolved (value : ReleaseDecisionDefinition) : Bool :=
  (value.policies.filter isMandatory).any
    (fun policy => policy.state.isUnavailable || hasStatus .unresolved policy)

def expected (value : ReleaseDecisionDefinition) : ReleaseDecisionDisposition :=
  if value.selectionState ≠ .current then .hold
  else if value.mode = .observationOnly then .advisory
  else if value.rejected then .reject
  else if value.unresolved then .hold
  else .proceed

def issues (definitionBytes : ReleaseDecisionDefinition → Nat) (value : ReleaseDecisionDefinition)
    : List String :=
  value.timeIssues
    ++ value.inventoryIssues
    ++ issue (value.disposition ≠ value.expected)
      "Disposition must preserve the complete conservative decision table"
    ++ issue (definitionBytes value > maxReleaseDecisionDefinitionBytes)
      "Decision exceeds its canonical UTF-8 byte ceiling"

def Accepted (isNFC : String → Bool) (definitionBytes : ReleaseDecisionDefinition → Nat)
    (value : ReleaseDecisionDefinition) : Prop :=
  value.Shape isNFC ∧ value.issues definitionBytes = []

instance (isNFC : String → Bool) (definitionBytes : ReleaseDecisionDefinition → Nat)
    (value : ReleaseDecisionDefinition) : Decidable (value.Accepted isNFC definitionBytes) :=
  inferInstanceAs (Decidable (_ ∧ _))

end ReleaseDecisionDefinition

end Release
end ProofStack
