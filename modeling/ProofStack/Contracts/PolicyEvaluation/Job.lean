import ProofStack.Contracts.PolicyEvaluation.Request

/-!
This module contains the fence, the lease, the attempts and the mutable scheduler projection of a
policy evaluation job.
-/

namespace ProofStack

structure PolicyEvaluationWorkerMutationFence where
  jobId : String
  attemptId : String
  workerId : String
  leaseId : String
  fencingToken : Nat
  recoveryEpoch : Nat
  deriving DecidableEq

namespace PolicyEvaluationWorkerMutationFence

@[mk_iff]
structure Accepted (value : PolicyEvaluationWorkerMutationFence) : Prop where
  jobId : OpaqueIdSchema value.jobId
  attemptId : OpaqueIdSchema value.attemptId
  workerId : OpaqueIdSchema value.workerId
  leaseId : OpaqueIdSchema value.leaseId
  fencingToken : boundedInteger 1 maxSafeInteger value.fencingToken
  recoveryEpoch : boundedInteger 0 maxSafeInteger value.recoveryEpoch

instance (value : PolicyEvaluationWorkerMutationFence) : Decidable value.Accepted :=
  decidable_of_iff _ (accepted_iff value).symm

end PolicyEvaluationWorkerMutationFence

structure PolicyEvaluationLease where
  scope : EvidenceScope
  mutationFence : PolicyEvaluationWorkerMutationFence
  attemptSequence : Nat
  acquiredAt : PolicyEvaluationTime
  heartbeatAt : PolicyEvaluationTime
  expiresAt : PolicyEvaluationTime
  attemptDeadlineAt : PolicyEvaluationTime
  jobDeadlineAt : PolicyEvaluationTime
  deriving DecidableEq

namespace PolicyEvaluationLease

@[mk_iff]
structure Shape (value : PolicyEvaluationLease) : Prop where
  scope : EvidenceScopeSchema value.scope
  mutationFence : value.mutationFence.Accepted
  attemptSequence : boundedInteger 0 (maxPolicyEvaluationAttempts - 1) value.attemptSequence

instance (value : PolicyEvaluationLease) : Decidable value.Shape :=
  decidable_of_iff _ (shape_iff value).symm

def issues (value : PolicyEvaluationLease) : List String :=
  issue (value.heartbeatAt.orderKey < value.acquiredAt.orderKey)
      "Heartbeat cannot precede original lease acquisition"
    ++ issue (value.expiresAt.orderKey ≤ value.heartbeatAt.orderKey)
      "Expiry must follow the latest heartbeat strictly"
    ++ issue (value.expiresAt.orderKey > value.attemptDeadlineAt.orderKey)
      "Lease cannot extend original attempt deadline"
    ++ issue (value.attemptDeadlineAt.orderKey > value.jobDeadlineAt.orderKey)
      "Attempt cannot extend original job deadline"

def Accepted (value : PolicyEvaluationLease) : Prop :=
  value.Shape ∧ value.issues = []

instance (value : PolicyEvaluationLease) : Decidable value.Accepted :=
  inferInstanceAs (Decidable (_ ∧ _))

end PolicyEvaluationLease

structure PolicyEvaluationUsage where
  reads : Nat
  records : Nat
  recordBytes : Nat
  references : Nat
  referenceBytes : Nat
  artifactReadBytes : Nat
  ruleEvaluations : Nat
  deriving DecidableEq

namespace PolicyEvaluationUsage

def zero : PolicyEvaluationUsage := ⟨0, 0, 0, 0, 0, 0, 0⟩

def keys : List (PolicyEvaluationUsage → Nat) :=
  [reads, records, recordBytes, references, referenceBytes, artifactReadBytes, ruleEvaluations]

def add (left right : PolicyEvaluationUsage) : PolicyEvaluationUsage where
  reads := left.reads + right.reads
  records := left.records + right.records
  recordBytes := left.recordBytes + right.recordBytes
  references := left.references + right.references
  referenceBytes := left.referenceBytes + right.referenceBytes
  artifactReadBytes := left.artifactReadBytes + right.artifactReadBytes
  ruleEvaluations := left.ruleEvaluations + right.ruleEvaluations

@[mk_iff]
structure Shape (value : PolicyEvaluationUsage) : Prop where
  reads : boundedInteger 0 maxPolicyEvaluationAcquisitionRecords value.reads
  records : boundedInteger 0 maxPolicyEvaluationAcquisitionRecords value.records
  recordBytes : boundedInteger 0 maxPolicyEvaluationAcquisitionRecordBytes value.recordBytes
  references : boundedInteger 0 maxPolicyEvaluationAcquisitionRecords value.references
  referenceBytes : boundedInteger 0 maxPolicyEvaluationAcquisitionRecordBytes value.referenceBytes
  artifactReadBytes : boundedInteger 0 maxPolicyEvaluationArtifactReadBytes value.artifactReadBytes
  ruleEvaluations : boundedInteger 0 maxPolicyEvaluationRuleEvaluations value.ruleEvaluations

instance (value : PolicyEvaluationUsage) : Decidable value.Shape :=
  decidable_of_iff _ (shape_iff value).symm

def issues (value : PolicyEvaluationUsage) : List String :=
  issue (value.recordBytes + value.referenceBytes > maxPolicyEvaluationAcquisitionRecordBytes)
    "Record and repeated-reference bytes share one cumulative ceiling"

def Accepted (value : PolicyEvaluationUsage) : Prop :=
  value.Shape ∧ value.issues = []

instance (value : PolicyEvaluationUsage) : Decidable value.Accepted :=
  inferInstanceAs (Decidable (_ ∧ _))

def keyIssues (above below : PolicyEvaluationUsage) (message : String) : List String :=
  keys.flatMap (fun key => issue (key above > key below) message)

end PolicyEvaluationUsage

structure PolicyEvaluationSnapshotReference where
  snapshotId : String
  definitionSha256 : String
  deriving DecidableEq

def PolicyEvaluationSnapshotReference.Accepted (value : PolicyEvaluationSnapshotReference) : Prop :=
  OpaqueIdSchema value.snapshotId ∧ Sha256Schema value.definitionSha256

instance (value : PolicyEvaluationSnapshotReference) : Decidable value.Accepted :=
  inferInstanceAs (Decidable (_ ∧ _))

structure PolicyEvaluationResultReference where
  evaluationId : String
  definitionSha256 : String
  deriving DecidableEq

def PolicyEvaluationResultReference.Accepted (value : PolicyEvaluationResultReference) : Prop :=
  OpaqueIdSchema value.evaluationId ∧ Sha256Schema value.definitionSha256

instance (value : PolicyEvaluationResultReference) : Decidable value.Accepted :=
  inferInstanceAs (Decidable (_ ∧ _))

inductive PolicyEvaluationClosureStatus where
  | failed
  | cancelled
  | timedOut
  | budgetExhausted
  deriving DecidableEq

inductive PolicyEvaluationClosureReason where
  | contractRejected
  | acquisitionFailed
  | executionFailed
  | cancellationCommitted
  | deadlineReached
  | budgetLimitReached
  deriving DecidableEq

def PolicyEvaluationClosureStatus.codes
    : PolicyEvaluationClosureStatus → List PolicyEvaluationClosureReason
  | .failed => [.contractRejected, .acquisitionFailed, .executionFailed]
  | .cancelled => [.cancellationCommitted]
  | .timedOut => [.deadlineReached]
  | .budgetExhausted => [.budgetLimitReached]

inductive PolicyEvaluationClosure where
  | completed (committedAt : PolicyEvaluationTime)
  | interrupted (reason : PolicyEvaluationRetryableError) (committedAt : PolicyEvaluationTime)
  | ended (status : PolicyEvaluationClosureStatus) (reason : PolicyEvaluationClosureReason)
    (committedAt : PolicyEvaluationTime)
  deriving DecidableEq

def PolicyEvaluationClosure.committedAt : PolicyEvaluationClosure → PolicyEvaluationTime
  | .completed committedAt => committedAt
  | .interrupted _ committedAt => committedAt
  | .ended _ _ committedAt => committedAt

def PolicyEvaluationClosure.isCompleted : PolicyEvaluationClosure → Bool
  | .completed _ => true
  | _ => false

inductive PolicyEvaluationPhase where
  | acquiring
  | computing
  deriving DecidableEq

structure PolicyEvaluationAttempt where
  scope : EvidenceScope
  mutationFence : PolicyEvaluationWorkerMutationFence
  attemptSequence : Nat
  startedAt : PolicyEvaluationTime
  deadlineAt : PolicyEvaluationTime
  phase : PolicyEvaluationPhase
  snapshot : Option PolicyEvaluationSnapshotReference
  usageAtStart : PolicyEvaluationUsage
  usageAtClose : Option PolicyEvaluationUsage
  closure : Option PolicyEvaluationClosure
  deriving DecidableEq

namespace PolicyEvaluationAttempt

@[mk_iff]
structure Shape (value : PolicyEvaluationAttempt) : Prop where
  scope : EvidenceScopeSchema value.scope
  mutationFence : value.mutationFence.Accepted
  attemptSequence : boundedInteger 0 (maxPolicyEvaluationAttempts - 1) value.attemptSequence
  snapshot : ∀ snapshot ∈ value.snapshot, snapshot.Accepted
  usageAtStart : value.usageAtStart.Accepted
  usageAtClose : ∀ usage ∈ value.usageAtClose, usage.Accepted

instance (value : PolicyEvaluationAttempt) : Decidable value.Shape :=
  decidable_of_iff _ (shape_iff value).symm

def closureIssues (value : PolicyEvaluationAttempt) (closure : PolicyEvaluationClosure)
    : List String :=
  issue (closure.committedAt.orderKey < value.startedAt.orderKey)
      "Attempt closure cannot precede its original start"
    ++ (match closure with
        | .completed _ =>
          issue (value.phase ≠ .computing) "Acquisition alone cannot complete a policy evaluation"
        | .interrupted reason _ =>
          issue (value.phase = .computing ∧ reason = .sourceRevisionChanged)
            "A post-seal retry cannot recapture a fresher source cut"
        | .ended status reason _ =>
          issue (reason ∉ status.codes) "Closure must retain its original operational cause")

def issues (value : PolicyEvaluationAttempt) : List String :=
  issue (value.deadlineAt.orderKey ≤ value.startedAt.orderKey)
      "Attempt requires its positive frozen execution window"
    ++ issue (¬(value.phase = .computing ↔ value.snapshot.isSome))
      "Computing requires the original sealed snapshot; acquiring cannot carry one"
    ++ issue (¬(value.closure = none ↔ value.usageAtClose = none))
      "Every closed attempt retains its cumulative usage receipt"
    ++ value.closure.elim [] value.closureIssues
    ++ value.usageAtClose.elim [] (fun usageAtClose =>
      value.usageAtStart.keyIssues usageAtClose
        "Failed, cancelled and repeated work cannot refund cumulative usage")

def Accepted (value : PolicyEvaluationAttempt) : Prop :=
  value.Shape ∧ value.issues = []

instance (value : PolicyEvaluationAttempt) : Decidable value.Accepted :=
  inferInstanceAs (Decidable (_ ∧ _))

end PolicyEvaluationAttempt

inductive PolicyEvaluationCancellationReason where
  | operatorRequested
  | supersededRequest
  | incidentResponse
  deriving DecidableEq

structure PolicyEvaluationCancellation where
  jobId : String
  cancellationId : String
  scope : EvidenceScope
  requestedAt : PolicyEvaluationTime
  requestedByPrincipalId : String
  reason : PolicyEvaluationCancellationReason
  deriving DecidableEq

def PolicyEvaluationCancellation.Accepted (value : PolicyEvaluationCancellation) : Prop :=
  OpaqueIdSchema value.jobId
    ∧ OpaqueIdSchema value.cancellationId
    ∧ EvidenceScopeSchema value.scope
    ∧ OpaqueIdSchema value.requestedByPrincipalId

instance (value : PolicyEvaluationCancellation) : Decidable value.Accepted :=
  inferInstanceAs (Decidable (_ ∧ _ ∧ _ ∧ _))

structure PolicyEvaluationAcquisitionUsage where
  reads : Nat
  records : Nat
  references : Nat
  recordBytes : Nat
  referenceBytes : Nat
  deriving DecidableEq

namespace PolicyEvaluationAcquisitionUsage

@[mk_iff]
structure Accepted (value : PolicyEvaluationAcquisitionUsage) : Prop where
  reads : boundedInteger 0 maxPolicyEvaluationAcquisitionRecords value.reads
  records : boundedInteger 0 maxPolicyEvaluationAcquisitionRecords value.records
  references : boundedInteger 0 maxPolicyEvaluationAcquisitionRecords value.references
  recordBytes : boundedInteger 0 maxPolicyEvaluationAcquisitionRecordBytes value.recordBytes
  referenceBytes : boundedInteger 0 maxPolicyEvaluationAcquisitionRecordBytes value.referenceBytes
  bytes : ¬value.recordBytes + value.referenceBytes > maxPolicyEvaluationAcquisitionRecordBytes

instance (value : PolicyEvaluationAcquisitionUsage) : Decidable value.Accepted :=
  decidable_of_iff _ (accepted_iff value).symm

end PolicyEvaluationAcquisitionUsage

structure PolicyEvaluationAcquisitionLimits where
  reads : Nat
  records : Nat
  references : Nat
  recordAndReferenceBytes : Nat
  deriving DecidableEq

namespace PolicyEvaluationAcquisitionLimits

@[mk_iff]
structure Accepted (value : PolicyEvaluationAcquisitionLimits) : Prop where
  reads : boundedInteger 0 maxPolicyEvaluationAcquisitionRecords value.reads
  records : boundedInteger 0 maxPolicyEvaluationAcquisitionRecords value.records
  references : boundedInteger 0 maxPolicyEvaluationAcquisitionRecords value.references
  recordAndReferenceBytes :
    boundedInteger 0 maxPolicyEvaluationAcquisitionRecordBytes value.recordAndReferenceBytes

instance (value : PolicyEvaluationAcquisitionLimits) : Decidable value.Accepted :=
  decidable_of_iff _ (accepted_iff value).symm

end PolicyEvaluationAcquisitionLimits

structure PolicyEvaluationAcquisitionAllowance where
  allowanceId : String
  mutationFence : PolicyEvaluationWorkerMutationFence
  reservedAt : PolicyEvaluationTime
  usageAtReservation : PolicyEvaluationAcquisitionUsage
  limits : PolicyEvaluationAcquisitionLimits
  deriving DecidableEq

def PolicyEvaluationAcquisitionAllowance.Accepted (value : PolicyEvaluationAcquisitionAllowance)
    : Prop :=
  OpaqueIdSchema value.allowanceId
    ∧ value.mutationFence.Accepted
    ∧ value.usageAtReservation.Accepted
    ∧ value.limits.Accepted

instance (value : PolicyEvaluationAcquisitionAllowance) : Decidable value.Accepted :=
  inferInstanceAs (Decidable (_ ∧ _ ∧ _ ∧ _))

inductive PolicyEvaluationJobStatus where
  | queued
  | acquiring
  | sealed
  | running
  | retryReady
  | completed
  | failed
  | timedOut
  | budgetExhausted
  | cancelled
  deriving DecidableEq

inductive PolicyEvaluationJobTerminalStatus where
  | completed
  | failed
  | timedOut
  | budgetExhausted
  | cancelled
  deriving DecidableEq

def PolicyEvaluationJobTerminalStatus.toStatus
    : PolicyEvaluationJobTerminalStatus → PolicyEvaluationJobStatus
  | .completed => .completed
  | .failed => .failed
  | .timedOut => .timedOut
  | .budgetExhausted => .budgetExhausted
  | .cancelled => .cancelled

def PolicyEvaluationJobStatus.isTerminal : PolicyEvaluationJobStatus → Bool
  | .completed | .failed | .timedOut | .budgetExhausted | .cancelled => true
  | .queued | .acquiring | .sealed | .running | .retryReady => false

def PolicyEvaluationJobStatus.isLeased : PolicyEvaluationJobStatus → Bool
  | .acquiring | .sealed | .running => true
  | .queued | .retryReady | .completed | .failed | .timedOut | .budgetExhausted | .cancelled => false

inductive PolicyEvaluationJobTerminalCode where
  | evaluationCompleted
  | contractRejected
  | acquisitionFailed
  | executionFailed
  | retriesExhausted
  | deadlineReached
  | budgetLimitReached
  | cancellationCommitted
  deriving DecidableEq

def PolicyEvaluationJobTerminalStatus.codes
    : PolicyEvaluationJobTerminalStatus → List PolicyEvaluationJobTerminalCode
  | .completed => [.evaluationCompleted]
  | .failed => [.contractRejected, .acquisitionFailed, .executionFailed, .retriesExhausted]
  | .timedOut => [.deadlineReached]
  | .budgetExhausted => [.budgetLimitReached]
  | .cancelled => [.cancellationCommitted]

structure PolicyEvaluationJobTerminal where
  status : PolicyEvaluationJobTerminalStatus
  code : PolicyEvaluationJobTerminalCode
  attemptId : Option String
  committedAt : PolicyEvaluationTime
  deriving DecidableEq

namespace PolicyEvaluationJobTerminal

def issues (value : PolicyEvaluationJobTerminal) : List String :=
  issue (value.code ∉ value.status.codes)
      "Terminal status must retain its original operational cause"
    ++ issue (value.status = .completed ∧ value.attemptId = none)
      "Completion requires its deciding attempt"

def Accepted (value : PolicyEvaluationJobTerminal) : Prop :=
  (∀ attemptId ∈ value.attemptId, OpaqueIdSchema attemptId) ∧ value.issues = []

instance (value : PolicyEvaluationJobTerminal) : Decidable value.Accepted :=
  inferInstanceAs (Decidable (_ ∧ _))

end PolicyEvaluationJobTerminal

structure PolicyEvaluationJobDefinition where
  jobId : String
  request : PolicyEvaluationRequestReference
  deriving DecidableEq

structure PolicyEvaluationJobReference where
  jobId : String
  definitionSha256 : String
  deriving DecidableEq

def PolicyEvaluationJobReference.Accepted (value : PolicyEvaluationJobReference) : Prop :=
  OpaqueIdSchema value.jobId ∧ Sha256Schema value.definitionSha256

instance (value : PolicyEvaluationJobReference) : Decidable value.Accepted :=
  inferInstanceAs (Decidable (_ ∧ _))

structure PolicyEvaluationJob extends PolicyEvaluationJobDefinition where
  definitionSha256 : String
  scope : EvidenceScope
  createdAt : PolicyEvaluationTime
  createdByPrincipalId : String
  deadlineAt : PolicyEvaluationTime
  updatedAt : PolicyEvaluationTime
  stateVersion : Nat
  recoveryEpoch : Nat
  lastFencingToken : Nat
  attemptCount : Nat
  status : PolicyEvaluationJobStatus
  currentLease : Option PolicyEvaluationLease
  snapshot : Option PolicyEvaluationSnapshotReference
  result : Option PolicyEvaluationResultReference
  retryAt : Option PolicyEvaluationTime
  terminal : Option PolicyEvaluationJobTerminal
  deriving DecidableEq

namespace PolicyEvaluationJob

@[mk_iff]
structure Shape (value : PolicyEvaluationJob) : Prop where
  jobId : OpaqueIdSchema value.jobId
  request : value.request.Accepted
  definitionSha256 : Sha256Schema value.definitionSha256
  scope : EvidenceScopeSchema value.scope
  createdByPrincipalId : OpaqueIdSchema value.createdByPrincipalId
  stateVersion : boundedInteger 1 maxSafeInteger value.stateVersion
  recoveryEpoch : boundedInteger 0 maxSafeInteger value.recoveryEpoch
  lastFencingToken : boundedInteger 0 maxSafeInteger value.lastFencingToken
  attemptCount : boundedInteger 0 maxPolicyEvaluationAttempts value.attemptCount
  currentLease : ∀ lease ∈ value.currentLease, lease.Accepted
  snapshot : ∀ snapshot ∈ value.snapshot, snapshot.Accepted
  result : ∀ result ∈ value.result, result.Accepted
  terminal : ∀ terminal ∈ value.terminal, terminal.Accepted

instance (value : PolicyEvaluationJob) : Decidable value.Shape :=
  decidable_of_iff _ (shape_iff value).symm

def leaseIssues (value : PolicyEvaluationJob) (lease : PolicyEvaluationLease) : List String :=
  issue
    (lease.mutationFence.jobId ≠ value.jobId
      ∨ lease.mutationFence.fencingToken ≠ value.lastFencingToken
      ∨ lease.mutationFence.recoveryEpoch ≠ value.recoveryEpoch
      ∨ lease.scope.tenantId ≠ value.scope.tenantId
      ∨ lease.scope.projectId ≠ value.scope.projectId
      ∨ lease.scope.environmentId ≠ value.scope.environmentId
      ∨ lease.attemptSequence + 1 ≠ value.attemptCount
      ∨ lease.jobDeadlineAt ≠ value.deadlineAt
      ∨ lease.acquiredAt.orderKey < value.createdAt.orderKey
      ∨ lease.heartbeatAt.orderKey > value.updatedAt.orderKey)
    "Current lease must bind exact scope/job/attempt/fence/epoch and frozen deadline"

def terminalIssues (value : PolicyEvaluationJob) (terminal : PolicyEvaluationJobTerminal)
    : List String :=
  issue
    (terminal.status.toStatus ≠ value.status
      ∨ terminal.committedAt.orderKey > value.updatedAt.orderKey
      ∨ terminal.committedAt.orderKey < value.createdAt.orderKey)
    "Terminal receipt must match job status and original receipt order"

def retryIssues (value : PolicyEvaluationJob) (retryAt : PolicyEvaluationTime) : List String :=
  issue
    (value.attemptCount = 0
      ∨ retryAt.orderKey < value.updatedAt.orderKey
      ∨ retryAt.orderKey ≥ value.deadlineAt.orderKey)
    "Retry cannot precede closure, omit prior work or extend the original job deadline"

def issues (value : PolicyEvaluationJob) : List String :=
  issue
      (value.updatedAt.orderKey < value.createdAt.orderKey
        ∨ value.deadlineAt.orderKey ≤ value.createdAt.orderKey)
      "Job receipts cannot precede creation or remove its positive execution window"
    ++ issue (value.status.isTerminal ≠ value.terminal.isSome)
      "Terminal scheduler state requires exactly one terminal record"
    ++ value.terminal.elim [] value.terminalIssues
    ++ issue (value.status.isLeased ≠ value.currentLease.isSome)
      "Only active acquiring/sealed/running states own a current lease"
    ++ value.currentLease.elim [] value.leaseIssues
    ++ issue (¬(value.attemptCount = 0 ↔ value.lastFencingToken = 0))
      "Claimed execution must retain its positive fence and attempt count"
    ++ issue ((value.status = .queued ∨ value.status = .acquiring) ∧ value.snapshot.isSome)
      "Pre-seal scheduler state cannot contain a sealed snapshot"
    ++ issue
      ((value.status = .sealed ∨ value.status = .running ∨ value.status = .completed)
        ∧ value.snapshot = none)
      "Post-seal scheduler state requires its immutable snapshot"
    ++ issue (¬(value.status = .completed ↔ value.result.isSome))
      "Only completed jobs retain an immutable policy result"
    ++ issue (¬(value.status = .retryReady ↔ value.retryAt.isSome))
      "Retry readiness requires its explicit finite retry receipt"
    ++ value.retryAt.elim [] value.retryIssues
    ++ issue (value.status = .queued ∧ value.attemptCount ≠ 0)
      "Initial queued state cannot erase an earlier attempt"
    ++ value.terminal.elim [] (fun terminal =>
      issue (¬(value.attemptCount = 0 ↔ terminal.attemptId = none))
        "Terminal receipt must preserve whether any attempt actually started")

def Accepted (value : PolicyEvaluationJob) : Prop :=
  value.Shape ∧ value.issues = []

instance (value : PolicyEvaluationJob) : Decidable value.Accepted :=
  inferInstanceAs (Decidable (_ ∧ _))

end PolicyEvaluationJob

end ProofStack
