import Mathlib.Data.String.Basic
import Mathlib.Tactic.MkIffOfInductiveProp
import ProofStack.Contracts.Primitives
import ProofStack.Contracts.PolicyEvaluation.Time

/-!
This module contains the immutable policy evaluation request with its frozen execution limits.
-/

namespace ProofStack

def maxPolicyRules : Nat := 128
def maxPolicyEvaluationAttempts : Nat := 8
def maxPolicyEvaluationAcquisitionRecords : Nat := 100000
def maxPolicyEvaluationAcquisitionRecordBytes : Nat := 64 * 1024 * 1024
def maxPolicyEvaluationArtifactReadBytes : Nat := 256 * 1024 * 1024
def maxPolicyEvaluationRuleEvaluations : Nat := maxPolicyRules * maxPolicyEvaluationAttempts
def maxPolicyEvaluationLeaseMilliseconds : Nat := 60000
def maxPolicyEvaluationHeartbeatMilliseconds : Nat := 10000
def maxPolicyEvaluationAttemptMilliseconds : Nat := 15 * 60000
def maxPolicyEvaluationDeadlineMilliseconds : Nat := 60 * 60000
def maxPolicyEvaluationBackoffMilliseconds : Nat := 60000

inductive PolicyEvaluationRetryableError where
  | leaseExpired
  | sourceRevisionChanged
  | sourceTemporarilyUnavailable
  | workerInterrupted
  deriving DecidableEq, Repr

def PolicyEvaluationRetryableError.text : PolicyEvaluationRetryableError → String
  | .leaseExpired => "lease_expired"
  | .sourceRevisionChanged => "source_revision_changed"
  | .sourceTemporarilyUnavailable => "source_temporarily_unavailable"
  | .workerInterrupted => "worker_interrupted"

structure PolicyEvaluationExecutionLimits where
  heartbeatIntervalMilliseconds : Nat
  leaseDurationMilliseconds : Nat
  maxAcquisitionRecordBytes : Nat
  maxAcquisitionRecords : Nat
  maxArtifactReadBytes : Nat
  maxAttempts : Nat
  maxRuleEvaluations : Nat
  perAttemptTimeoutMilliseconds : Nat
  retryBackoffMilliseconds : Nat
  retryableErrors : List PolicyEvaluationRetryableError
  totalDeadlineMilliseconds : Nat
  deriving DecidableEq

namespace PolicyEvaluationExecutionLimits

@[mk_iff]
structure Shape (value : PolicyEvaluationExecutionLimits) : Prop where
  heartbeatIntervalMilliseconds :
    boundedInteger 100 maxPolicyEvaluationHeartbeatMilliseconds value.heartbeatIntervalMilliseconds
  leaseDurationMilliseconds :
    boundedInteger 1000 maxPolicyEvaluationLeaseMilliseconds value.leaseDurationMilliseconds
  maxAcquisitionRecordBytes :
    boundedInteger 1 maxPolicyEvaluationAcquisitionRecordBytes value.maxAcquisitionRecordBytes
  maxAcquisitionRecords :
    boundedInteger 2 maxPolicyEvaluationAcquisitionRecords value.maxAcquisitionRecords
  maxArtifactReadBytes :
    boundedInteger 0 maxPolicyEvaluationArtifactReadBytes value.maxArtifactReadBytes
  maxAttempts : boundedInteger 1 maxPolicyEvaluationAttempts value.maxAttempts
  maxRuleEvaluations :
    boundedInteger 1 maxPolicyEvaluationRuleEvaluations value.maxRuleEvaluations
  perAttemptTimeoutMilliseconds :
    boundedInteger 1000 maxPolicyEvaluationAttemptMilliseconds value.perAttemptTimeoutMilliseconds
  retryBackoffMilliseconds :
    boundedInteger 0 maxPolicyEvaluationBackoffMilliseconds value.retryBackoffMilliseconds
  retryableErrors_length : value.retryableErrors.length ≤ 4
  retryableErrors_sorted : (value.retryableErrors.map (·.text)).IsChain (· < ·)
  totalDeadlineMilliseconds :
    boundedInteger 1000 maxPolicyEvaluationDeadlineMilliseconds value.totalDeadlineMilliseconds

instance (value : PolicyEvaluationExecutionLimits) : Decidable value.Shape :=
  decidable_of_iff _ (shape_iff value).symm

def issues (value : PolicyEvaluationExecutionLimits) : List String :=
  issue (value.heartbeatIntervalMilliseconds * 3 > value.leaseDurationMilliseconds)
      "The lease must allow at least three heartbeat intervals"
    ++ issue (value.leaseDurationMilliseconds > value.perAttemptTimeoutMilliseconds)
      "A lease cannot exceed the per-attempt timeout"
    ++ issue (value.perAttemptTimeoutMilliseconds > value.totalDeadlineMilliseconds)
      "An attempt cannot exceed the total job deadline"
    ++ issue (value.maxRuleEvaluations > maxPolicyRules * value.maxAttempts)
      "Rule work cannot exceed all declared rules across the allowed attempts"
    ++ (if value.maxAttempts = 1 then
          issue (value.retryableErrors.length ≠ 0 ∨ value.retryBackoffMilliseconds ≠ 0)
            "Single-attempt execution cannot declare retries or backoff"
        else
          issue (value.retryableErrors.length = 0)
              "Multiple attempts require explicit retryable operational errors"
            ++ issue (value.retryBackoffMilliseconds ≥ value.totalDeadlineMilliseconds)
              "Retry backoff must be shorter than the total deadline")

def Accepted (value : PolicyEvaluationExecutionLimits) : Prop :=
  value.Shape ∧ value.issues = []

instance (value : PolicyEvaluationExecutionLimits) : Decidable value.Accepted :=
  inferInstanceAs (Decidable (_ ∧ _))

end PolicyEvaluationExecutionLimits

structure ReleaseCandidateReference where
  candidateId : String
  candidateVersionId : String
  definitionSha256 : String
  deriving DecidableEq

def ReleaseCandidateReference.Accepted (value : ReleaseCandidateReference) : Prop :=
  OpaqueIdSchema value.candidateId
    ∧ OpaqueIdSchema value.candidateVersionId
    ∧ Sha256Schema value.definitionSha256

instance (value : ReleaseCandidateReference) : Decidable value.Accepted :=
  inferInstanceAs (Decidable (_ ∧ _ ∧ _))

structure ReleasePolicyReference where
  definitionSha256 : String
  policyId : String
  policyVersionId : String
  deriving DecidableEq

def ReleasePolicyReference.Accepted (value : ReleasePolicyReference) : Prop :=
  Sha256Schema value.definitionSha256
    ∧ OpaqueIdSchema value.policyId
    ∧ OpaqueIdSchema value.policyVersionId

instance (value : ReleasePolicyReference) : Decidable value.Accepted :=
  inferInstanceAs (Decidable (_ ∧ _ ∧ _))

structure PolicyEvaluationRequestDefinition where
  candidate : ReleaseCandidateReference
  evaluationRequestId : String
  evaluationTime : PolicyEvaluationTime
  limits : PolicyEvaluationExecutionLimits
  policy : ReleasePolicyReference
  deriving DecidableEq

structure PolicyEvaluationRequestReference where
  definitionSha256 : String
  evaluationRequestId : String
  deriving DecidableEq

def PolicyEvaluationRequestReference.Accepted (value : PolicyEvaluationRequestReference) : Prop :=
  Sha256Schema value.definitionSha256 ∧ OpaqueIdSchema value.evaluationRequestId

instance (value : PolicyEvaluationRequestReference) : Decidable value.Accepted :=
  inferInstanceAs (Decidable (_ ∧ _))

structure PolicyEvaluationRequest extends PolicyEvaluationRequestDefinition where
  createdAt : PolicyEvaluationTime
  createdByPrincipalId : String
  definitionSha256 : String
  scope : EvidenceScope
  deriving DecidableEq

namespace PolicyEvaluationRequest

@[mk_iff]
structure Shape (value : PolicyEvaluationRequest) : Prop where
  candidate : value.candidate.Accepted
  evaluationRequestId : OpaqueIdSchema value.evaluationRequestId
  limits : value.limits.Accepted
  policy : value.policy.Accepted
  createdAt : value.createdAt.IsUtcMillisecond
  createdByPrincipalId : OpaqueIdSchema value.createdByPrincipalId
  definitionSha256 : Sha256Schema value.definitionSha256
  scope : EvidenceScopeSchema value.scope

instance (value : PolicyEvaluationRequest) : Decidable value.Shape :=
  decidable_of_iff _ (shape_iff value).symm

def deadlineKey (value : PolicyEvaluationRequest) : Int :=
  value.createdAt.orderKey
    + PolicyEvaluationTime.durationUnits value.limits.totalDeadlineMilliseconds

def issues (value : PolicyEvaluationRequest) : List String :=
  issue (value.deadlineKey > PolicyEvaluationTime.maxServerTime.orderKey)
    "The server receipt must leave room for the complete declared job deadline"

def Accepted (value : PolicyEvaluationRequest) : Prop :=
  value.Shape ∧ value.issues = []

instance (value : PolicyEvaluationRequest) : Decidable value.Accepted :=
  inferInstanceAs (Decidable (_ ∧ _))

end PolicyEvaluationRequest

end ProofStack
