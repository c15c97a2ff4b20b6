import ProofStack.Contracts.PolicyEvaluation.Job

/-!
This module contains the complete bounded scheduler graph of a policy evaluation job.
-/

namespace ProofStack

structure PolicyEvaluationJobSnapshot where
  request : PolicyEvaluationRequest
  job : PolicyEvaluationJob
  attempts : List PolicyEvaluationAttempt
  cancellation : Option PolicyEvaluationCancellation
  usage : PolicyEvaluationUsage
  -- Historical graphs have no such field: the outer option is its presence, the inner one its value.
  acquisitionAllowance : Option (Option PolicyEvaluationAcquisitionAllowance)
  deriving DecidableEq

namespace PolicyEvaluationJobSnapshot

def allowance (value : PolicyEvaluationJobSnapshot) : Option PolicyEvaluationAcquisitionAllowance :=
  value.acquisitionAllowance.join

def latest (value : PolicyEvaluationJobSnapshot) : Option PolicyEvaluationAttempt :=
  value.attempts.getLast?

@[mk_iff]
structure Shape (value : PolicyEvaluationJobSnapshot) : Prop where
  request : value.request.Accepted
  job : value.job.Accepted
  attempts : ∀ attempt ∈ value.attempts, attempt.Accepted
  attempts_length : value.attempts.length ≤ maxPolicyEvaluationAttempts
  cancellation : ∀ cancellation ∈ value.cancellation, cancellation.Accepted
  usage : value.usage.Accepted
  allowance : ∀ allowance ∈ value.allowance, allowance.Accepted

instance (value : PolicyEvaluationJobSnapshot) : Decidable value.Shape :=
  decidable_of_iff _ (shape_iff value).symm

def allowanceIssues (value : PolicyEvaluationJobSnapshot)
    (allowance : PolicyEvaluationAcquisitionAllowance) : List String :=
  let before := allowance.usageAtReservation
  let limits := value.request.limits
  let startedAt := (value.latest.map (·.startedAt)).getD value.job.createdAt
  issue
    (value.job.status ≠ .acquiring
      ∨ value.job.snapshot.isSome
      ∨ value.cancellation.isSome
      ∨ some allowance.mutationFence ≠ value.job.currentLease.map (·.mutationFence)
      ∨ allowance.reservedAt.orderKey > value.job.updatedAt.orderKey
      ∨ allowance.reservedAt.orderKey < startedAt.orderKey
      ∨ before.reads ≠ value.usage.reads
      ∨ before.records ≠ value.usage.records
      ∨ before.references ≠ value.usage.references
      ∨ before.recordBytes ≠ value.usage.recordBytes
      ∨ before.referenceBytes ≠ value.usage.referenceBytes
      ∨ (allowance.limits.reads : Int) ≠ limits.maxAcquisitionRecords - before.reads
      ∨ (allowance.limits.records : Int) ≠ limits.maxAcquisitionRecords - before.records
      ∨ (allowance.limits.references : Int) ≠ limits.maxAcquisitionRecords - before.references
      ∨ (allowance.limits.recordAndReferenceBytes : Int)
          ≠ limits.maxAcquisitionRecordBytes - before.recordBytes - before.referenceBytes)
    "Acquisition allowance must bind one acquiring fence and its exact remaining frozen metadata budget"

structure AttemptHistory where
  previousFence : Nat
  previousEpoch : Nat
  previousClosed : Option PolicyEvaluationTime
  boundSnapshot : Option PolicyEvaluationSnapshotReference
  attemptIds : List String
  leaseIds : List String
  index : Nat
  priorUsageAtClose : Option PolicyEvaluationUsage

namespace AttemptHistory

def start : AttemptHistory where
  previousFence := 0
  previousEpoch := 0
  previousClosed := none
  boundSnapshot := none
  attemptIds := []
  leaseIds := []
  index := 0
  priorUsageAtClose := none

def next (history : AttemptHistory) (attempt : PolicyEvaluationAttempt) : AttemptHistory where
  previousFence := attempt.mutationFence.fencingToken
  previousEpoch := attempt.mutationFence.recoveryEpoch
  previousClosed := attempt.closure.map (·.committedAt)
  boundSnapshot := attempt.snapshot.or history.boundSnapshot
  attemptIds := attempt.mutationFence.attemptId :: history.attemptIds
  leaseIds := attempt.mutationFence.leaseId :: history.leaseIds
  index := history.index + 1
  priorUsageAtClose := attempt.usageAtClose

def ofAttempts (attempts : List PolicyEvaluationAttempt) : AttemptHistory :=
  attempts.foldl next start

def snapshotIssues (history : AttemptHistory) (attempt : PolicyEvaluationAttempt) : List String :=
  match attempt.snapshot with
  | some snapshot =>
    issue (history.boundSnapshot.isSome ∧ some snapshot ≠ history.boundSnapshot)
      "Every post-seal attempt must reuse the same immutable snapshot"
  | none =>
    issue (history.boundSnapshot.isSome) "Retries cannot return to source acquisition after sealing"

end AttemptHistory

def attemptDeadlineKey (request : PolicyEvaluationRequest) (startedAt : PolicyEvaluationTime) : Int :=
  let maximum :=
    startedAt.orderKey
      + PolicyEvaluationTime.durationUnits request.limits.perAttemptTimeoutMilliseconds
  if maximum < request.deadlineKey then maximum else request.deadlineKey

def attemptIssues (request : PolicyEvaluationRequest) (job : PolicyEvaluationJob)
    (usage : PolicyEvaluationUsage) (history : AttemptHistory) (attempt : PolicyEvaluationAttempt)
    : List String :=
  issue
      (attempt.mutationFence.attemptId ∈ history.attemptIds
        ∨ attempt.mutationFence.leaseId ∈ history.leaseIds)
      "Attempt and lease identities cannot be reused across history"
    ++ issue
      (attempt.scope ≠ job.scope
        ∨ attempt.mutationFence.jobId ≠ job.jobId
        ∨ attempt.attemptSequence ≠ history.index
        ∨ attempt.mutationFence.fencingToken ≤ history.previousFence
        ∨ attempt.mutationFence.recoveryEpoch < history.previousEpoch
        ∨ attempt.mutationFence.recoveryEpoch > job.recoveryEpoch
        ∨ attempt.startedAt.orderKey < job.createdAt.orderKey
        ∨ attempt.startedAt.orderKey > job.updatedAt.orderKey)
      "Attempt history requires exact scope/job, contiguous sequence and monotone fence/epoch"
    ++ issue
      (history.index > 0
        ∧ ∀ closed ∈ history.previousClosed, closed.orderKey > attempt.startedAt.orderKey)
      "A replaced attempt must be closed no later than the next original start"
    ++ issue (attempt.deadlineAt.orderKey ≠ attemptDeadlineKey request attempt.startedAt)
      "Attempt timeout cannot be extended or selected independently of the original request"
    ++ issue (∃ closure ∈ attempt.closure, closure.committedAt.orderKey > job.updatedAt.orderKey)
      "Job receipt cannot precede a contained attempt closure"
    ++ history.snapshotIssues attempt
    ++ attempt.usageAtClose.elim [] (fun usageAtClose =>
      usageAtClose.keyIssues usage "Job cannot discard a closed attempt's spent budget")
    ++ attempt.usageAtStart.keyIssues usage "Job cannot discard an open attempt's starting budget"
    ++ history.priorUsageAtClose.elim [] (fun prior =>
      prior.keyIssues attempt.usageAtStart "Retries cannot reset cumulative usage")

@[simp]
def historyIssues (request : PolicyEvaluationRequest) (job : PolicyEvaluationJob)
    (usage : PolicyEvaluationUsage) (history : AttemptHistory)
    : List PolicyEvaluationAttempt → List String
  | [] => []
  | attempt :: attempts =>
    attemptIssues request job usage history attempt
      ++ historyIssues request job usage (history.next attempt) attempts

def requestIssues (value : PolicyEvaluationJobSnapshot) : List String :=
  issue
      (value.request.scope ≠ value.job.scope
        ∨ value.request.evaluationRequestId ≠ value.job.request.evaluationRequestId
        ∨ value.request.definitionSha256 ≠ value.job.request.definitionSha256
        ∨ value.job.createdAt.orderKey < value.request.createdAt.orderKey
        ∨ value.job.createdByPrincipalId ≠ value.request.createdByPrincipalId)
      "Job must preserve its exact request, scope and original creator"
    ++ issue (value.job.deadlineAt.orderKey ≠ value.request.deadlineKey)
      "Job deadline derives once from the original request receipt and frozen limit"

def limitIssues (value : PolicyEvaluationJobSnapshot) : List String :=
  issue
      (value.job.attemptCount ≠ value.attempts.length
        ∨ value.attempts.length > value.request.limits.maxAttempts)
      "Every claimed attempt remains in complete original bounded history"
    ++ issue
      (value.job.status = .retryReady
        ∧ value.attempts.length ≥ value.request.limits.maxAttempts)
      "Retry readiness cannot exceed the original finite attempt ceiling"
    ++ issue
      (value.usage.records > value.request.limits.maxAcquisitionRecords
        ∨ value.usage.reads > value.request.limits.maxAcquisitionRecords
        ∨ value.usage.references > value.request.limits.maxAcquisitionRecords
        ∨ value.usage.recordBytes + value.usage.referenceBytes
            > value.request.limits.maxAcquisitionRecordBytes
        ∨ value.usage.artifactReadBytes > value.request.limits.maxArtifactReadBytes
        ∨ value.usage.ruleEvaluations > value.request.limits.maxRuleEvaluations)
      "Cumulative job usage cannot exceed its original frozen request limits"

def latestIssues (value : PolicyEvaluationJobSnapshot) : List String :=
  issue
      (∃ latest ∈ value.latest,
        latest.mutationFence.fencingToken ≠ value.job.lastFencingToken
          ∨ value.job.snapshot ≠ (AttemptHistory.ofAttempts value.attempts).boundSnapshot)
      "Job must retain latest fence and immutable snapshot history"
    ++ issue
      (∃ lease ∈ value.job.currentLease,
        ∀ latest ∈ value.latest,
          latest.closure.isSome
            ∨ latest.mutationFence ≠ lease.mutationFence
            ∨ latest.deadlineAt ≠ lease.attemptDeadlineAt
            ∨ latest.startedAt ≠ lease.acquiredAt)
      "Current lease must own the exact still-open latest attempt"
    ++ issue
      (∃ lease ∈ value.job.currentLease,
        lease.expiresAt.orderKey - lease.heartbeatAt.orderKey
          > PolicyEvaluationTime.durationUnits value.request.limits.leaseDurationMilliseconds)
      "Heartbeat cannot extend the original request's frozen lease duration"
    ++ issue (value.job.currentLease = none ∧ ∃ latest ∈ value.latest, latest.closure = none)
      "An unleased job cannot leave its latest attempt open"

def terminalIssues (value : PolicyEvaluationJobSnapshot) : List String :=
  issue
      (∃ terminal ∈ value.job.terminal, ∃ attemptId ∈ terminal.attemptId,
        ∀ latest ∈ value.latest,
          attemptId ≠ latest.mutationFence.attemptId ∨ latest.closure = none)
      "Terminal receipt must identify the latest closed deciding attempt"
    ++ issue
      (value.job.status = .completed
        ∧ ¬∃ latest ∈ value.latest, ∃ closure ∈ latest.closure, closure.isCompleted)
      "A completed job requires a completed computing attempt, not an interrupted one"
    ++ issue
      (∃ latest ∈ value.latest, ∃ closure ∈ latest.closure,
        closure.isCompleted ∧ closure.committedAt.orderKey ≥ latest.deadlineAt.orderKey)
      "Completion cannot revive authority at or after the frozen attempt timeout"

def cancellationIssues (value : PolicyEvaluationJobSnapshot) : List String :=
  issue (value.job.status = .cancelled ∧ value.cancellation = none)
      "Cancelled jobs require retained cancellation intent"
    ++ issue
      (∃ cancellation ∈ value.cancellation,
        cancellation.scope ≠ value.job.scope
          ∨ cancellation.jobId ≠ value.job.jobId
          ∨ cancellation.requestedAt.orderKey < value.job.createdAt.orderKey
          ∨ cancellation.requestedAt.orderKey > value.job.updatedAt.orderKey)
      "Cancellation must preserve exact job/scope and its original receipt"

def issues (value : PolicyEvaluationJobSnapshot) : List String :=
  value.allowance.elim [] value.allowanceIssues
    ++ value.requestIssues
    ++ value.limitIssues
    ++ historyIssues value.request value.job value.usage .start value.attempts
    ++ value.latestIssues
    ++ value.terminalIssues
    ++ value.cancellationIssues

def Accepted (value : PolicyEvaluationJobSnapshot) : Prop :=
  value.Shape ∧ value.issues = []

instance (value : PolicyEvaluationJobSnapshot) : Decidable value.Accepted :=
  inferInstanceAs (Decidable (_ ∧ _))

end PolicyEvaluationJobSnapshot

end ProofStack
