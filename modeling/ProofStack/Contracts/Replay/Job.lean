import ProofStack.Contracts.Artifact
import ProofStack.Contracts.Replay.Plan

/-!
This module contains the fence, the lease and the projection of a replay job, its attempts and the
request and the acknowledgements of its cancellation.
-/

namespace ProofStack
namespace Replay

def safePositiveInteger (value : Nat) : Prop :=
  boundedInteger 1 maxSafeInteger value

instance (value : Nat) : Decidable (safePositiveInteger value) :=
  inferInstanceAs (Decidable (boundedInteger _ _ _))

def safeNonnegativeInteger (value : Nat) : Prop :=
  boundedInteger 0 maxSafeInteger value

instance (value : Nat) : Decidable (safeNonnegativeInteger value) :=
  inferInstanceAs (Decidable (boundedInteger _ _ _))

structure ReplayPlanJobReference where
  definitionSha256 : String
  planId : String
  planVersionId : String
  deriving DecidableEq

def ReplayPlanJobReference.Accepted (value : ReplayPlanJobReference) : Prop :=
  Sha256Schema value.definitionSha256
    ∧ OpaqueIdSchema value.planId
    ∧ OpaqueIdSchema value.planVersionId

instance (value : ReplayPlanJobReference) : Decidable value.Accepted :=
  inferInstanceAs (Decidable (_ ∧ _ ∧ _))

inductive ReplayJobStatus where
  | budgetExhausted
  | cancelled
  | failed
  | queued
  | running
  | succeeded
  | timedOut
  deriving DecidableEq

inductive ReplayJobTerminalStatus where
  | budgetExhausted
  | cancelled
  | failed
  | succeeded
  | timedOut
  deriving DecidableEq

inductive ReplayAttemptStatus where
  | budgetExhausted
  | cancelled
  | failed
  | leaseExpired
  | running
  | succeeded
  | timedOut
  deriving DecidableEq

def ReplayJobTerminalStatus.job : ReplayJobTerminalStatus → ReplayJobStatus
  | .budgetExhausted => .budgetExhausted
  | .cancelled => .cancelled
  | .failed => .failed
  | .succeeded => .succeeded
  | .timedOut => .timedOut

def ReplayJobTerminalStatus.attempt : ReplayJobTerminalStatus → ReplayAttemptStatus
  | .budgetExhausted => .budgetExhausted
  | .cancelled => .cancelled
  | .failed => .failed
  | .succeeded => .succeeded
  | .timedOut => .timedOut

inductive ReplayJobTerminalCode where
  | budgetLimitReached
  | cancellationCommitted
  | completed
  | contractRejected
  | deadlineReached
  | executionFailed
  | retriesExhausted
  deriving DecidableEq

def ReplayJobTerminalStatus.codes : ReplayJobTerminalStatus → List ReplayJobTerminalCode
  | .budgetExhausted => [.budgetLimitReached]
  | .cancelled => [.cancellationCommitted]
  | .failed => [.contractRejected, .executionFailed, .retriesExhausted]
  | .succeeded => [.completed]
  | .timedOut => [.deadlineReached]

structure ReplayWorkerMutationFence where
  attemptId : String
  fencingToken : Nat
  jobId : String
  leaseId : String
  recoveryEpoch : Nat
  workerId : String
  deriving DecidableEq

namespace ReplayWorkerMutationFence

@[mk_iff]
structure Accepted (value : ReplayWorkerMutationFence) : Prop where
  attemptId : OpaqueIdSchema value.attemptId
  fencingToken : safePositiveInteger value.fencingToken
  jobId : OpaqueIdSchema value.jobId
  leaseId : OpaqueIdSchema value.leaseId
  recoveryEpoch : safeNonnegativeInteger value.recoveryEpoch
  workerId : OpaqueIdSchema value.workerId

instance (value : ReplayWorkerMutationFence) : Decidable value.Accepted :=
  decidable_of_iff _ (accepted_iff value).symm

end ReplayWorkerMutationFence

structure ReplayLease where
  acquiredAt : UtcMillisecondTimestamp
  attemptSequence : Nat
  expiresAt : UtcMillisecondTimestamp
  heartbeatAt : UtcMillisecondTimestamp
  mutationFence : ReplayWorkerMutationFence
  scope : EvidenceScope
  deriving DecidableEq

namespace ReplayLease

@[mk_iff]
structure Shape (value : ReplayLease) : Prop where
  attemptSequence : safeNonnegativeInteger value.attemptSequence
  mutationFence : value.mutationFence.Accepted
  scope : EvidenceScopeSchema value.scope

instance (value : ReplayLease) : Decidable value.Shape :=
  decidable_of_iff _ (shape_iff value).symm

def issues (value : ReplayLease) : List String :=
  issue (value.heartbeatAt.value < value.acquiredAt.value)
      "Lease heartbeat cannot precede acquisition"
    ++ issue (value.expiresAt.value ≤ value.heartbeatAt.value)
      "Lease expiry must follow its latest heartbeat"

def Accepted (value : ReplayLease) : Prop :=
  value.Shape ∧ value.issues = []

instance (value : ReplayLease) : Decidable value.Accepted :=
  inferInstanceAs (Decidable (_ ∧ _))

end ReplayLease

structure ReplayJobTerminalRecord where
  attemptId : Option String
  code : ReplayJobTerminalCode
  committedAt : UtcMillisecondTimestamp
  status : ReplayJobTerminalStatus
  deriving DecidableEq

namespace ReplayJobTerminalRecord

def issues (value : ReplayJobTerminalRecord) : List String :=
  issue (value.status ≠ .cancelled ∧ value.attemptId = none)
      "A non-cancelled terminal job requires the deciding attempt"
    ++ issue (value.code ∉ value.status.codes) "Terminal code must match the terminal status"

def Accepted (value : ReplayJobTerminalRecord) : Prop :=
  (∀ attemptId ∈ value.attemptId, OpaqueIdSchema attemptId) ∧ value.issues = []

instance (value : ReplayJobTerminalRecord) : Decidable value.Accepted :=
  inferInstanceAs (Decidable (_ ∧ _))

end ReplayJobTerminalRecord

structure ReplayJob where
  createdAt : UtcMillisecondTimestamp
  createdByPrincipalId : String
  currentLease : Option ReplayLease
  jobId : String
  lastFencingToken : Nat
  latestAttemptSequence : Option Nat
  plan : ReplayPlanJobReference
  recoveryEpoch : Nat
  scope : EvidenceScope
  startedAt : Option UtcMillisecondTimestamp
  stateVersion : Nat
  status : ReplayJobStatus
  terminal : Option ReplayJobTerminalRecord
  deriving DecidableEq

namespace ReplayJob

@[mk_iff]
structure Shape (value : ReplayJob) : Prop where
  createdByPrincipalId : OpaqueIdSchema value.createdByPrincipalId
  currentLease : ∀ lease ∈ value.currentLease, lease.Accepted
  jobId : OpaqueIdSchema value.jobId
  lastFencingToken : safeNonnegativeInteger value.lastFencingToken
  latestAttemptSequence : ∀ sequence ∈ value.latestAttemptSequence, safeNonnegativeInteger sequence
  plan : value.plan.Accepted
  recoveryEpoch : safeNonnegativeInteger value.recoveryEpoch
  scope : EvidenceScopeSchema value.scope
  stateVersion : safePositiveInteger value.stateVersion
  terminal : ∀ terminal ∈ value.terminal, terminal.Accepted

instance (value : ReplayJob) : Decidable value.Shape :=
  decidable_of_iff _ (shape_iff value).symm

def IsQueuedCancellation (value : ReplayJob) : Prop :=
  value.status = .cancelled ∧ ∃ terminal ∈ value.terminal, terminal.attemptId = none

instance (value : ReplayJob) : Decidable value.IsQueuedCancellation :=
  inferInstanceAs (Decidable (_ ∧ _))

def queuedCancellationIssues (value : ReplayJob) : List String :=
  issue
      (value.lastFencingToken ≠ 0
        ∨ value.currentLease ≠ none
        ∨ value.latestAttemptSequence ≠ none
        ∨ value.startedAt ≠ none
        ∨ ¬∃ terminal ∈ value.terminal, terminal.status = .cancelled)
      "A queued cancellation cannot contain execution state"
    ++ issue (∃ terminal ∈ value.terminal, terminal.committedAt.value < value.createdAt.value)
      "Queued cancellation cannot precede job creation"

def runningIssues (value : ReplayJob) : List String :=
  match value.currentLease, value.terminal with
  | some lease, none =>
    issue
      (lease.mutationFence.jobId ≠ value.jobId
        ∨ lease.mutationFence.fencingToken ≠ value.lastFencingToken
        ∨ lease.mutationFence.recoveryEpoch ≠ value.recoveryEpoch
        ∨ some lease.attemptSequence ≠ value.latestAttemptSequence
        ∨ lease.scope ≠ value.scope)
      "Current lease must match the job, recovery epoch, and latest attempt"
  | _, _ => ["Running jobs require one current lease and no terminal record"]

def terminalIssues (value : ReplayJob) : List String :=
  match value.currentLease, value.terminal with
  | none, some terminal =>
    issue (terminal.status.job ≠ value.status) "Terminal record status must equal job status"
      ++ issue (terminal.committedAt.value < (value.startedAt.getD value.createdAt).value)
        "Terminal transition cannot precede job execution"
  | _, _ => ["Terminal jobs require one terminal record and no current lease"]

def issues (value : ReplayJob) : List String :=
  if value.status = .queued then
    issue
      (value.lastFencingToken ≠ 0
        ∨ value.currentLease ≠ none
        ∨ value.latestAttemptSequence ≠ none
        ∨ value.startedAt ≠ none
        ∨ value.terminal ≠ none)
      "Queued jobs cannot contain lease, attempt, start, or terminal state"
  else if value.IsQueuedCancellation then
    value.queuedCancellationIssues
  else
    issue (value.startedAt = none ∨ value.latestAttemptSequence = none)
        "Started jobs require start time and latest attempt sequence"
      ++ issue (value.lastFencingToken = 0)
        "Started jobs must retain their latest positive fencing token"
      ++ issue (∃ startedAt ∈ value.startedAt, startedAt.value < value.createdAt.value)
        "Job start cannot precede creation"
      ++ if value.status = .running then value.runningIssues else value.terminalIssues

def Accepted (value : ReplayJob) : Prop :=
  value.Shape ∧ value.issues = []

instance (value : ReplayJob) : Decidable value.Accepted :=
  inferInstanceAs (Decidable (_ ∧ _))

end ReplayJob

inductive ReplayEffectCertainty where
  | confirmed
  | mayHaveOccurred
  | none
  deriving DecidableEq

inductive ReplayEffectRetrySafety where
  | notRetryable
  | readOnly (evidenceSha256 : String)
  | destinationIdempotencyVerified (evidenceSha256 idempotencyKeySha256 : String)
  deriving DecidableEq

def ReplayEffectRetrySafety.Accepted : ReplayEffectRetrySafety → Bool
  | .notRetryable => true
  | .readOnly evidenceSha256 => Sha256Schema evidenceSha256
  | .destinationIdempotencyVerified evidenceSha256 idempotencyKeySha256 =>
    Sha256Schema evidenceSha256 && Sha256Schema idempotencyKeySha256

inductive ReplayAttemptErrorCode where
  | accountingViolation
  | authorityDenied
  | boundaryRateLimited
  | boundaryTemporarilyUnavailable
  | budgetExhausted
  | cancelled
  | contractMismatch
  | credentialUnavailable
  | deadlineExceeded
  | effectUncertain
  | fixtureUnavailable
  | isolationFailed
  | leaseExpired
  | targetContentUnavailable
  | targetProcessInterrupted
  | targetTemporaryFailure
  | workerInternalError
  deriving DecidableEq

structure ReplayAttemptEffect where
  effectCertainty : ReplayEffectCertainty
  effectRetrySafety : Option ReplayEffectRetrySafety
  deriving DecidableEq

structure ReplayAttemptError extends ReplayAttemptEffect where
  code : ReplayAttemptErrorCode
  detailsSha256 : Option String
  message : String
  deriving DecidableEq

namespace ReplayAttemptError

def maxMessageCharacters : Nat := 1024

@[mk_iff]
structure Shape (value : ReplayAttemptError) : Prop where
  detailsSha256 : ∀ detailsSha256 ∈ value.detailsSha256, Sha256Schema detailsSha256
  effectRetrySafety : ∀ safety ∈ value.effectRetrySafety, safety.Accepted
  message : canonicalHumanText maxMessageCharacters value.message

instance (value : ReplayAttemptError) : Decidable value.Shape :=
  decidable_of_iff _ (shape_iff value).symm

def issues (value : ReplayAttemptError) : List String :=
  issue (value.effectCertainty = .none ↔ value.effectRetrySafety.isSome)
    "External effect certainty requires one explicit retry-safety decision"

def Accepted (value : ReplayAttemptError) : Prop :=
  value.Shape ∧ value.issues = []

instance (value : ReplayAttemptError) : Decidable value.Accepted :=
  inferInstanceAs (Decidable (_ ∧ _))

end ReplayAttemptError

inductive ReplayAttemptRetryDisposition where
  | notRetryable
  | retryEligible
  | retryScheduled
  deriving DecidableEq

-- A successful attempt has no error and a running one no outcome.
def ReplayAttemptStatus.errorCodes : ReplayAttemptStatus → List ReplayAttemptErrorCode
  | .budgetExhausted => [.accountingViolation, .budgetExhausted]
  | .cancelled => [.cancelled]
  | .failed =>
    [.authorityDenied, .boundaryRateLimited, .boundaryTemporarilyUnavailable, .contractMismatch,
      .credentialUnavailable, .effectUncertain, .fixtureUnavailable, .isolationFailed,
      .targetContentUnavailable, .targetProcessInterrupted, .targetTemporaryFailure,
      .workerInternalError]
  | .leaseExpired => [.leaseExpired]
  | .timedOut => [.deadlineExceeded]
  | .running => []
  | .succeeded => []

def ReplayAttemptErrorCode.retryable : List ReplayAttemptErrorCode :=
  [.boundaryRateLimited, .boundaryTemporarilyUnavailable, .targetProcessInterrupted,
    .targetTemporaryFailure]

structure ReplayAttempt where
  attemptId : String
  attemptSequence : Nat
  endedAt : Option UtcMillisecondTimestamp
  error : Option ReplayAttemptError
  isolationProfile : ReplayIsolationProfileReference
  jobId : String
  mutationFence : ReplayWorkerMutationFence
  plan : ReplayPlanJobReference
  result : Option ArtifactContentReference
  retryDisposition : Option ReplayAttemptRetryDisposition
  runtimeProfile : ReplayRuntimeProfileReference
  scope : EvidenceScope
  startedAt : UtcMillisecondTimestamp
  status : ReplayAttemptStatus
  targetRelease : TargetReleaseReference
  workerBuildSha256 : String
  workerProtocol : WorkerProtocolReference
  deriving DecidableEq

namespace ReplayAttempt

@[mk_iff]
structure Shape (value : ReplayAttempt) : Prop where
  attemptId : OpaqueIdSchema value.attemptId
  attemptSequence : safeNonnegativeInteger value.attemptSequence
  error : ∀ error ∈ value.error, error.Accepted
  isolationProfile : value.isolationProfile.Accepted
  jobId : OpaqueIdSchema value.jobId
  mutationFence : value.mutationFence.Accepted
  plan : value.plan.Accepted
  result : ∀ result ∈ value.result, result.Accepted
  runtimeProfile : value.runtimeProfile.Accepted
  scope : EvidenceScopeSchema value.scope
  targetRelease : value.targetRelease.Accepted
  workerBuildSha256 : Sha256Schema value.workerBuildSha256
  workerProtocol : value.workerProtocol.Accepted

instance (value : ReplayAttempt) : Decidable value.Shape :=
  decidable_of_iff _ (shape_iff value).symm

def unsuccessfulIssues (value : ReplayAttempt) : List String :=
  issue (value.error = none ∨ value.result ≠ none)
      "Unsuccessful attempts require an error and cannot publish a result"
    ++ issue (∃ error ∈ value.error, error.code ∉ value.status.errorCodes)
      "Attempt error code must match its terminal status"
    ++ issue
      ((∃ error ∈ value.error, error.effectRetrySafety = some .notRetryable)
        ∧ value.retryDisposition ≠ some .notRetryable)
      "An external effect without verified retry safety blocks automatic retry"
    ++ issue
      (value.retryDisposition ≠ none
        ∧ value.retryDisposition ≠ some .notRetryable
        ∧ value.status ≠ .leaseExpired
        ∧ ¬∃ error ∈ value.error, error.code ∈ ReplayAttemptErrorCode.retryable)
      "Only predeclared retryable error classes can schedule another attempt"
    ++ issue
      (value.status ∈ [.budgetExhausted, .cancelled, .timedOut]
        ∧ value.retryDisposition ≠ none
        ∧ value.retryDisposition ≠ some .notRetryable)
      "Terminal control outcomes cannot remain merely retry-eligible"
    ++ issue (value.status = .leaseExpired ∧ value.retryDisposition = some .retryEligible)
      "Lease expiry must record whether a retry was scheduled"

def closedIssues (value : ReplayAttempt) : List String :=
  issue (value.endedAt = none ∨ value.retryDisposition = none)
      "Terminal attempts require end time and retry disposition"
    ++ issue (∃ endedAt ∈ value.endedAt, endedAt.value < value.startedAt.value)
      "Attempt end cannot precede its start"
    ++ if value.status = .succeeded then
        issue
          (value.result = none
            ∨ value.error ≠ none
            ∨ value.retryDisposition ≠ some .notRetryable)
          "Successful attempts require a result and no error or retry"
      else
        value.unsuccessfulIssues

def issues (value : ReplayAttempt) : List String :=
  issue
      (value.mutationFence.attemptId ≠ value.attemptId
        ∨ value.mutationFence.jobId ≠ value.jobId
        ∨ value.targetRelease.workerProtocol.name ≠ value.workerProtocol.name
        ∨ value.targetRelease.workerProtocol.version ≠ value.workerProtocol.version)
      "Attempt identity and worker protocol must match its fence and target release"
    ++ if value.status = .running then
        issue
          (value.endedAt ≠ none
            ∨ value.error ≠ none
            ∨ value.result ≠ none
            ∨ value.retryDisposition ≠ none)
          "Running attempts cannot contain terminal outcome fields"
      else
        value.closedIssues

def Accepted (value : ReplayAttempt) : Prop :=
  value.Shape ∧ value.issues = []

instance (value : ReplayAttempt) : Decidable value.Accepted :=
  inferInstanceAs (Decidable (_ ∧ _))

end ReplayAttempt

inductive ReplayCancellationReasonCode where
  | operatorRequest
  | policyIntervention
  | safetyIntervention
  | superseded
  deriving DecidableEq

def maxReplayCancellationReasonCharacters : Nat := 512

structure RequestReplayCancellation where
  cancellationId : String
  reason : String
  reasonCode : ReplayCancellationReasonCode
  deriving DecidableEq

def RequestReplayCancellation.Accepted (value : RequestReplayCancellation) : Prop :=
  OpaqueIdSchema value.cancellationId
    ∧ canonicalHumanText maxReplayCancellationReasonCharacters value.reason

instance (value : RequestReplayCancellation) : Decidable value.Accepted :=
  inferInstanceAs (Decidable (_ ∧ _))

structure ReplayCancellationRequest extends RequestReplayCancellation where
  jobId : String
  requestedAt : UtcMillisecondTimestamp
  requestedByPrincipalId : String
  scope : EvidenceScope
  deriving DecidableEq

namespace ReplayCancellationRequest

@[mk_iff]
structure Accepted (value : ReplayCancellationRequest) : Prop where
  input : value.toRequestReplayCancellation.Accepted
  jobId : OpaqueIdSchema value.jobId
  requestedByPrincipalId : OpaqueIdSchema value.requestedByPrincipalId
  scope : EvidenceScopeSchema value.scope

instance (value : ReplayCancellationRequest) : Decidable value.Accepted :=
  decidable_of_iff _ (accepted_iff value).symm

end ReplayCancellationRequest

inductive ReplayCancellationAction where
  | observedAfterUninterruptibleCompletion
  | stopRequested
  | stoppedBeforeTargetStart
  deriving DecidableEq

structure ReplayCancellationAcknowledgement where
  acknowledgedAt : UtcMillisecondTimestamp
  acknowledgementId : String
  action : ReplayCancellationAction
  cancellationId : String
  mutationFence : ReplayWorkerMutationFence
  scope : EvidenceScope
  deriving DecidableEq

namespace ReplayCancellationAcknowledgement

@[mk_iff]
structure Accepted (value : ReplayCancellationAcknowledgement) : Prop where
  acknowledgementId : OpaqueIdSchema value.acknowledgementId
  cancellationId : OpaqueIdSchema value.cancellationId
  mutationFence : value.mutationFence.Accepted
  scope : EvidenceScopeSchema value.scope

instance (value : ReplayCancellationAcknowledgement) : Decidable value.Accepted :=
  decidable_of_iff _ (accepted_iff value).symm

end ReplayCancellationAcknowledgement

end Replay
end ProofStack
