import ProofStack.Contracts.PolicyEvaluation.History

/-!
This module contains the scheduler transitions of a policy evaluation job.
-/

namespace ProofStack
namespace Policy

open PolicyEvaluationTime

inductive PolicyEvaluationSchedulerReason where
  | stateConflict
  | deadlineReached
  | retryNotReady
  | retriesExhausted
  | staleFence
  | leaseExpired
  | identifierReused
  | counterExhausted
  | heartbeatNotReady
  | emptyReservation
  | budgetExhausted
  deriving DecidableEq

inductive PolicyEvaluationError where
  | schema (issues : List String)
  | transition (reason : PolicyEvaluationSchedulerReason)
  | history (message : String)
  | invalidJobGraph (message : String)
  | invalidRequestRecord (message : String)
  | snapshotIntegrity (reason : String)
  | jobNotFound
  | requestConflict
  | other (message : String)
  deriving DecidableEq

def failIf (condition : Prop) [Decidable condition] (error : PolicyEvaluationError)
    : Except PolicyEvaluationError Unit :=
  if condition then .error error else .ok ()

def rejectIf (condition : Prop) [Decidable condition] (reason : PolicyEvaluationSchedulerReason)
    : Except PolicyEvaluationError Unit :=
  failIf condition (.transition reason)

def parseWith (accepted : Prop) [Decidable accepted] : Except PolicyEvaluationError Unit :=
  failIf (¬accepted) (.schema [])

def parseSnapshot (value : PolicyEvaluationJobSnapshot)
    : Except PolicyEvaluationError PolicyEvaluationJobSnapshot :=
  if value.Accepted then .ok value else .error (.schema value.issues)

def liveLease (job : PolicyEvaluationJob) (now : PolicyEvaluationTime) (recoveryEpoch : Nat)
    (fence : PolicyEvaluationWorkerMutationFence)
    : Except PolicyEvaluationError PolicyEvaluationLease :=
  match job.currentLease with
  | none => .error (.transition .stateConflict)
  | some lease => do
    rejectIf (job.status.isLeased = false) .stateConflict
    rejectIf (recoveryEpoch ≠ job.recoveryEpoch ∨ fence ≠ lease.mutationFence) .staleFence
    rejectIf (now.orderKey < job.updatedAt.orderKey) .stateConflict
    rejectIf (now.orderKey ≥ lease.expiresAt.orderKey) .leaseExpired
    rejectIf
      (now.orderKey ≥ lease.attemptDeadlineAt.orderKey ∨ now.orderKey ≥ job.deadlineAt.orderKey)
      .deadlineReached
    return lease

def requirePolicyEvaluationLiveFence (snapshot : PolicyEvaluationJobSnapshot)
    (now : PolicyEvaluationTime) (recoveryEpoch : Nat)
    (fence : PolicyEvaluationWorkerMutationFence)
    : Except PolicyEvaluationError PolicyEvaluationLease := do
  let snapshot ← parseSnapshot snapshot
  parseWith fence.Accepted
  liveLease snapshot.job now recoveryEpoch fence

def touch (job : PolicyEvaluationJob) (now : PolicyEvaluationTime) : PolicyEvaluationJob :=
  { job with updatedAt := now, stateVersion := job.stateVersion + 1 }

section Claim

def startAttempt (snapshot : PolicyEvaluationJobSnapshot) (now : PolicyEvaluationTime)
    (fence : PolicyEvaluationWorkerMutationFence) : PolicyEvaluationJobSnapshot :=
  let job := snapshot.job
  let limits := snapshot.request.limits
  let attemptDeadline :=
    now.addMillisecondsUpTo limits.perAttemptTimeoutMilliseconds job.deadlineAt
  let expiry := now.addMillisecondsUpTo limits.leaseDurationMilliseconds attemptDeadline
  { snapshot with
    attempts := snapshot.attempts ++ [{
      scope := job.scope
      mutationFence := fence
      attemptSequence := snapshot.attempts.length
      startedAt := now
      deadlineAt := attemptDeadline
      phase := if job.snapshot = none then .acquiring else .computing
      snapshot := job.snapshot
      usageAtStart := snapshot.usage
      usageAtClose := none
      closure := none }]
    job := { touch job now with
      currentLease := some {
        scope := job.scope
        mutationFence := fence
        attemptSequence := snapshot.attempts.length
        acquiredAt := now
        heartbeatAt := now
        expiresAt := expiry
        attemptDeadlineAt := attemptDeadline
        jobDeadlineAt := job.deadlineAt }
      status := if job.snapshot = none then .acquiring else .running
      attemptCount := snapshot.attempts.length + 1
      lastFencingToken := fence.fencingToken
      retryAt := none } }

def claimPolicyEvaluationJob.draft (snapshot : PolicyEvaluationJobSnapshot)
    (now : PolicyEvaluationTime) (recoveryEpoch : Nat) (attemptId leaseId workerId : String)
    : Except PolicyEvaluationError PolicyEvaluationJobSnapshot := do
  let result ← parseSnapshot snapshot
  let job := result.job
  let limits := result.request.limits
  rejectIf (recoveryEpoch > maxSafeInteger ∨ recoveryEpoch ≠ job.recoveryEpoch) .staleFence
  rejectIf (job.status ≠ .queued ∧ job.status ≠ .retryReady) .stateConflict
  rejectIf (now.orderKey < job.updatedAt.orderKey) .stateConflict
  rejectIf (now.orderKey ≥ job.deadlineAt.orderKey) .deadlineReached
  rejectIf (∃ retryAt ∈ job.retryAt, now.orderKey < retryAt.orderKey) .retryNotReady
  rejectIf (result.attempts.length ≥ limits.maxAttempts) .retriesExhausted
  parseWith (OpaqueIdSchema attemptId)
  parseWith (OpaqueIdSchema leaseId)
  parseWith (OpaqueIdSchema workerId)
  rejectIf
    (∃ attempt ∈ result.attempts,
      attempt.mutationFence.attemptId = attemptId ∨ attempt.mutationFence.leaseId = leaseId)
    .identifierReused
  rejectIf (job.lastFencingToken ≥ maxSafeInteger) .counterExhausted
  let fence : PolicyEvaluationWorkerMutationFence :=
    { jobId := job.jobId
      attemptId := attemptId
      leaseId := leaseId
      workerId := workerId
      recoveryEpoch := recoveryEpoch
      fencingToken := job.lastFencingToken + 1 }
  rejectIf (job.stateVersion ≥ maxSafeInteger) .counterExhausted
  return startAttempt result now fence

def claimPolicyEvaluationJob (snapshot : PolicyEvaluationJobSnapshot)
    (now : PolicyEvaluationTime) (recoveryEpoch : Nat) (attemptId leaseId workerId : String)
    : Except PolicyEvaluationError PolicyEvaluationJobSnapshot := do
  let draft ←
    claimPolicyEvaluationJob.draft snapshot now recoveryEpoch attemptId leaseId workerId
  parseSnapshot draft

def renewLease (snapshot : PolicyEvaluationJobSnapshot) (now : PolicyEvaluationTime)
    (lease : PolicyEvaluationLease) : PolicyEvaluationJobSnapshot :=
  let duration := snapshot.request.limits.leaseDurationMilliseconds
  { snapshot with
    job := { touch snapshot.job now with
      currentLease := some { lease with
        heartbeatAt := now
        expiresAt := now.addMillisecondsUpTo duration lease.attemptDeadlineAt } } }

def heartbeatPolicyEvaluationJob.draft (snapshot : PolicyEvaluationJobSnapshot)
    (now : PolicyEvaluationTime) (recoveryEpoch : Nat)
    (fence : PolicyEvaluationWorkerMutationFence)
    : Except PolicyEvaluationError PolicyEvaluationJobSnapshot := do
  let result ← parseSnapshot snapshot
  let job := result.job
  let limits := result.request.limits
  parseWith fence.Accepted
  let lease ← liveLease job now recoveryEpoch fence
  rejectIf
    (now.orderKey
      < lease.heartbeatAt.orderKey + durationUnits limits.heartbeatIntervalMilliseconds)
    .heartbeatNotReady
  rejectIf (job.stateVersion ≥ maxSafeInteger) .counterExhausted
  return renewLease result now lease

def heartbeatPolicyEvaluationJob (snapshot : PolicyEvaluationJobSnapshot)
    (now : PolicyEvaluationTime) (recoveryEpoch : Nat)
    (fence : PolicyEvaluationWorkerMutationFence)
    : Except PolicyEvaluationError PolicyEvaluationJobSnapshot := do
  let draft ← heartbeatPolicyEvaluationJob.draft snapshot now recoveryEpoch fence
  parseSnapshot draft

end Claim

section Budget

def limitsExceeded (limits : PolicyEvaluationExecutionLimits) (usage : PolicyEvaluationUsage)
    : Prop :=
  usage.records > limits.maxAcquisitionRecords
    ∨ usage.reads > limits.maxAcquisitionRecords
    ∨ usage.references > limits.maxAcquisitionRecords
    ∨ usage.recordBytes + usage.referenceBytes > limits.maxAcquisitionRecordBytes
    ∨ usage.artifactReadBytes > limits.maxArtifactReadBytes
    ∨ usage.ruleEvaluations > limits.maxRuleEvaluations

instance (limits : PolicyEvaluationExecutionLimits) (usage : PolicyEvaluationUsage)
    : Decidable (limitsExceeded limits usage) :=
  inferInstanceAs (Decidable (_ ∨ _))

def reservePolicyEvaluationUsage.draft (snapshot : PolicyEvaluationJobSnapshot)
    (now : PolicyEvaluationTime) (recoveryEpoch : Nat)
    (fence : PolicyEvaluationWorkerMutationFence) (delta : PolicyEvaluationUsage)
    : Except PolicyEvaluationError PolicyEvaluationJobSnapshot := do
  let result ← parseSnapshot snapshot
  let job := result.job
  parseWith fence.Accepted
  parseWith delta.Accepted
  let _ ← liveLease job now recoveryEpoch fence
  rejectIf (∀ key ∈ PolicyEvaluationUsage.keys, key delta = 0) .emptyReservation
  rejectIf
    (result.allowance.isSome
      ∧ (delta.reads ≠ 0 ∨ delta.records ≠ 0 ∨ delta.references ≠ 0 ∨ delta.recordBytes ≠ 0
          ∨ delta.referenceBytes ≠ 0))
    .stateConflict
  rejectIf (delta.ruleEvaluations > 0 ∧ job.status ≠ .running) .stateConflict
  let next := result.usage.add delta
  rejectIf (limitsExceeded result.request.limits next) .budgetExhausted
  rejectIf (job.stateVersion ≥ maxSafeInteger) .counterExhausted
  return { result with usage := next, job := touch job now }

def reservePolicyEvaluationUsage (snapshot : PolicyEvaluationJobSnapshot)
    (now : PolicyEvaluationTime) (recoveryEpoch : Nat)
    (fence : PolicyEvaluationWorkerMutationFence) (delta : PolicyEvaluationUsage)
    : Except PolicyEvaluationError PolicyEvaluationJobSnapshot := do
  let draft ← reservePolicyEvaluationUsage.draft snapshot now recoveryEpoch fence delta
  parseSnapshot draft

end Budget

section Acquisition

def policyEvaluationMetadataUsage (snapshot : PolicyEvaluationJobSnapshot)
    : PolicyEvaluationAcquisitionUsage where
  reads := snapshot.usage.reads
  records := snapshot.usage.records
  references := snapshot.usage.references
  recordBytes := snapshot.usage.recordBytes
  referenceBytes := snapshot.usage.referenceBytes

def remainingAcquisitionLimits (snapshot : PolicyEvaluationJobSnapshot)
    : PolicyEvaluationAcquisitionLimits where
  reads := snapshot.request.limits.maxAcquisitionRecords - snapshot.usage.reads
  records := snapshot.request.limits.maxAcquisitionRecords - snapshot.usage.records
  references := snapshot.request.limits.maxAcquisitionRecords - snapshot.usage.references
  recordAndReferenceBytes :=
    snapshot.request.limits.maxAcquisitionRecordBytes - snapshot.usage.recordBytes
      - snapshot.usage.referenceBytes

def reservePolicyEvaluationAcquisition.draft (snapshot : PolicyEvaluationJobSnapshot)
    (now : PolicyEvaluationTime) (recoveryEpoch : Nat)
    (fence : PolicyEvaluationWorkerMutationFence) (allowanceId : String)
    : Except PolicyEvaluationError PolicyEvaluationJobSnapshot := do
  let snapshot ← parseSnapshot snapshot
  let _ ← requirePolicyEvaluationLiveFence snapshot now recoveryEpoch fence
  rejectIf
    (snapshot.job.status ≠ .acquiring ∨ snapshot.job.snapshot.isSome ∨ snapshot.allowance.isSome)
    .stateConflict
  -- The parsed snapshot is within its limits, so the differences are not truncated.
  let limits := remainingAcquisitionLimits snapshot
  rejectIf (limits.reads < 1 ∨ limits.records < 1 ∨ limits.recordAndReferenceBytes < 1)
    .budgetExhausted
  rejectIf (snapshot.job.stateVersion ≥ maxSafeInteger) .counterExhausted
  parseWith (OpaqueIdSchema allowanceId)
  return { snapshot with
    acquisitionAllowance :=
      some (some {
        allowanceId := allowanceId
        mutationFence := fence
        reservedAt := now
        usageAtReservation := policyEvaluationMetadataUsage snapshot
        limits := limits })
    job := touch snapshot.job now }

def reservePolicyEvaluationAcquisition (snapshot : PolicyEvaluationJobSnapshot)
    (now : PolicyEvaluationTime) (recoveryEpoch : Nat)
    (fence : PolicyEvaluationWorkerMutationFence) (allowanceId : String)
    : Except PolicyEvaluationError PolicyEvaluationJobSnapshot := do
  let draft ← reservePolicyEvaluationAcquisition.draft snapshot now recoveryEpoch fence allowanceId
  parseSnapshot draft

def fullAllowanceUsage (allowance : PolicyEvaluationAcquisitionAllowance)
    : PolicyEvaluationAcquisitionUsage where
  reads := allowance.limits.reads
  records := allowance.limits.records
  references := allowance.limits.references
  recordBytes := allowance.limits.recordAndReferenceBytes
  referenceBytes := 0

def charge (snapshot : PolicyEvaluationJobSnapshot) (usage : PolicyEvaluationAcquisitionUsage)
    : PolicyEvaluationJobSnapshot :=
  { snapshot with
    usage := { snapshot.usage with
      reads := snapshot.usage.reads + usage.reads
      records := snapshot.usage.records + usage.records
      references := snapshot.usage.references + usage.references
      recordBytes := snapshot.usage.recordBytes + usage.recordBytes
      referenceBytes := snapshot.usage.referenceBytes + usage.referenceBytes }
    acquisitionAllowance := some none }

def chargeUncertainPolicyEvaluationAcquisition (snapshot : PolicyEvaluationJobSnapshot)
    : PolicyEvaluationJobSnapshot :=
  match snapshot.allowance with
  | none => snapshot
  | some allowance => charge snapshot (fullAllowanceUsage allowance)

def closeAttempt (usage : PolicyEvaluationUsage) (closure : PolicyEvaluationClosure)
    (latest : PolicyEvaluationAttempt) : PolicyEvaluationAttempt :=
  if latest.closure = none then
    { latest with closure := some closure, usageAtClose := some usage }
  else
    latest

def closeLatest (snapshot : PolicyEvaluationJobSnapshot) (closure : PolicyEvaluationClosure)
    : PolicyEvaluationJobSnapshot :=
  { snapshot with attempts := snapshot.attempts.modifyLast (closeAttempt snapshot.usage closure) }

def closeUncertain (snapshot : PolicyEvaluationJobSnapshot) (closure : PolicyEvaluationClosure)
    : PolicyEvaluationJobSnapshot :=
  closeLatest (chargeUncertainPolicyEvaluationAcquisition snapshot) closure

def latestAttemptId (snapshot : PolicyEvaluationJobSnapshot) : Option String :=
  snapshot.latest.map (·.mutationFence.attemptId)

def terminate (snapshot : PolicyEvaluationJobSnapshot) (now : PolicyEvaluationTime)
    (status : PolicyEvaluationJobTerminalStatus) (code : PolicyEvaluationJobTerminalCode)
    : PolicyEvaluationJobSnapshot :=
  { snapshot with
    job := { touch snapshot.job now with
      status := status.toStatus
      currentLease := none
      retryAt := none
      terminal := some {
        status := status
        code := code
        attemptId := latestAttemptId snapshot
        committedAt := now } } }

def settlePolicyEvaluationAcquisition.draft (snapshot : PolicyEvaluationJobSnapshot)
    (now : PolicyEvaluationTime) (recoveryEpoch : Nat)
    (fence : PolicyEvaluationWorkerMutationFence) (allowanceId : String)
    (usage : Option PolicyEvaluationAcquisitionUsage)
    : Except PolicyEvaluationError PolicyEvaluationJobSnapshot := do
  let snapshot ← parseSnapshot snapshot
  let _ ← requirePolicyEvaluationLiveFence snapshot now recoveryEpoch fence
  match snapshot.allowance with
  | none => .error (.transition .stateConflict)
  | some allowance => do
    parseWith (OpaqueIdSchema allowanceId)
    rejectIf (allowance.allowanceId ≠ allowanceId ∨ allowance.mutationFence ≠ fence)
      .stateConflict
    parseWith (∀ value ∈ usage, value.Accepted)
    let observed := usage.getD (fullAllowanceUsage allowance)
    rejectIf
      (observed.reads > allowance.limits.reads
        ∨ observed.records > allowance.limits.records
        ∨ observed.references > allowance.limits.references
        ∨ observed.recordBytes + observed.referenceBytes
            > allowance.limits.recordAndReferenceBytes)
      .budgetExhausted
    rejectIf (snapshot.job.stateVersion ≥ maxSafeInteger) .counterExhausted
    let charged := charge snapshot observed
    match usage with
    | some _ => return { charged with job := touch charged.job now }
    | none =>
      rejectIf (¬∃ latest ∈ charged.latest, latest.closure = none) .stateConflict
      let closed := closeLatest charged (.ended .budgetExhausted .budgetLimitReached now)
      return terminate closed now .budgetExhausted .budgetLimitReached

def settlePolicyEvaluationAcquisition (snapshot : PolicyEvaluationJobSnapshot)
    (now : PolicyEvaluationTime) (recoveryEpoch : Nat)
    (fence : PolicyEvaluationWorkerMutationFence) (allowanceId : String)
    (usage : Option PolicyEvaluationAcquisitionUsage)
    : Except PolicyEvaluationError PolicyEvaluationJobSnapshot := do
  let draft ←
    settlePolicyEvaluationAcquisition.draft snapshot now recoveryEpoch fence allowanceId usage
  parseSnapshot draft

end Acquisition

section Seal

def sealPolicyEvaluationJob.draft (snapshot : PolicyEvaluationJobSnapshot)
    (now : PolicyEvaluationTime) (recoveryEpoch : Nat)
    (fence : PolicyEvaluationWorkerMutationFence)
    (sealedSnapshot : PolicyEvaluationSnapshotReference)
    : Except PolicyEvaluationError PolicyEvaluationJobSnapshot := do
  let result ← parseSnapshot snapshot
  let _ ← requirePolicyEvaluationLiveFence result now recoveryEpoch fence
  parseWith sealedSnapshot.Accepted
  let job := result.job
  rejectIf
    (job.status ≠ .acquiring
      ∨ job.snapshot.isSome
      ∨ ¬∃ latest ∈ result.latest,
          latest.closure = none ∧ latest.phase = .acquiring ∧ latest.snapshot = none)
    .stateConflict
  rejectIf (job.stateVersion ≥ maxSafeInteger) .counterExhausted
  return { result with
    attempts :=
      result.attempts.modifyLast (fun latest =>
        { latest with phase := .computing, snapshot := some sealedSnapshot })
    job := { touch job now with snapshot := some sealedSnapshot, status := .sealed } }

def sealPolicyEvaluationJob (snapshot : PolicyEvaluationJobSnapshot)
    (now : PolicyEvaluationTime) (recoveryEpoch : Nat)
    (fence : PolicyEvaluationWorkerMutationFence)
    (sealedSnapshot : PolicyEvaluationSnapshotReference)
    : Except PolicyEvaluationError PolicyEvaluationJobSnapshot := do
  let draft ← sealPolicyEvaluationJob.draft snapshot now recoveryEpoch fence sealedSnapshot
  parseSnapshot draft

def startPolicyEvaluationComputation.draft (snapshot : PolicyEvaluationJobSnapshot)
    (now : PolicyEvaluationTime) (recoveryEpoch : Nat)
    (fence : PolicyEvaluationWorkerMutationFence)
    : Except PolicyEvaluationError PolicyEvaluationJobSnapshot := do
  let result ← parseSnapshot snapshot
  let _ ← requirePolicyEvaluationLiveFence result now recoveryEpoch fence
  let job := result.job
  rejectIf
    (job.status ≠ .sealed
      ∨ job.snapshot = none
      ∨ ¬∃ latest ∈ result.latest, latest.closure = none ∧ latest.phase = .computing)
    .stateConflict
  rejectIf (job.stateVersion ≥ maxSafeInteger) .counterExhausted
  return { result with job := { touch job now with status := .running } }

def startPolicyEvaluationComputation (snapshot : PolicyEvaluationJobSnapshot)
    (now : PolicyEvaluationTime) (recoveryEpoch : Nat)
    (fence : PolicyEvaluationWorkerMutationFence)
    : Except PolicyEvaluationError PolicyEvaluationJobSnapshot := do
  let draft ← startPolicyEvaluationComputation.draft snapshot now recoveryEpoch fence
  parseSnapshot draft

def completedWith (snapshot : PolicyEvaluationJobSnapshot) (now : PolicyEvaluationTime)
    (result : PolicyEvaluationResultReference) : PolicyEvaluationJobSnapshot :=
  let closed := terminate (closeLatest snapshot (.completed now)) now .completed .evaluationCompleted
  { closed with job := { closed.job with result := some result } }

def completePolicyEvaluationJob.draft (snapshot : PolicyEvaluationJobSnapshot)
    (now : PolicyEvaluationTime) (recoveryEpoch : Nat)
    (fence : PolicyEvaluationWorkerMutationFence) (result : PolicyEvaluationResultReference)
    (ruleCount : Nat)
    : Except PolicyEvaluationError PolicyEvaluationJobSnapshot := do
  let snapshot ← parseSnapshot snapshot
  let _ ← requirePolicyEvaluationLiveFence snapshot now recoveryEpoch fence
  parseWith result.Accepted
  let job := snapshot.job
  rejectIf
    (job.status ≠ .running
      ∨ job.snapshot = none
      ∨ job.result.isSome
      ∨ (¬∃ latest ∈ snapshot.latest,
          latest.phase = .computing ∧ latest.closure = none ∧ latest.snapshot = job.snapshot)
      ∨ ruleCount < 1
      ∨ ruleCount > maxPolicyRules)
    .stateConflict
  rejectIf
    (∃ latest ∈ snapshot.latest,
      (snapshot.usage.ruleEvaluations : Int) - latest.usageAtStart.ruleEvaluations < ruleCount)
    .budgetExhausted
  rejectIf (job.stateVersion ≥ maxSafeInteger) .counterExhausted
  return completedWith snapshot now result

def completePolicyEvaluationJob (snapshot : PolicyEvaluationJobSnapshot)
    (now : PolicyEvaluationTime) (recoveryEpoch : Nat)
    (fence : PolicyEvaluationWorkerMutationFence) (result : PolicyEvaluationResultReference)
    (ruleCount : Nat)
    : Except PolicyEvaluationError PolicyEvaluationJobSnapshot := do
  let draft ← completePolicyEvaluationJob.draft snapshot now recoveryEpoch fence result ruleCount
  parseSnapshot draft

end Seal

section Close

def cancelledWith (snapshot : PolicyEvaluationJobSnapshot) (intent : PolicyEvaluationCancellation)
    : PolicyEvaluationJobSnapshot :=
  let now := intent.requestedAt
  let closed := closeUncertain snapshot (.ended .cancelled .cancellationCommitted now)
  let cancelled := terminate closed now .cancelled .cancellationCommitted
  { cancelled with cancellation := some intent, job := { cancelled.job with result := none } }

def cancelPolicyEvaluationJob.draft (snapshot : PolicyEvaluationJobSnapshot)
    (intent : PolicyEvaluationCancellation)
    : Except PolicyEvaluationError PolicyEvaluationJobSnapshot := do
  let result ← parseSnapshot snapshot
  parseWith intent.Accepted
  let job := result.job
  rejectIf
    (intent.jobId ≠ job.jobId
      ∨ intent.scope.tenantId ≠ job.scope.tenantId
      ∨ intent.scope.projectId ≠ job.scope.projectId
      ∨ intent.scope.environmentId ≠ job.scope.environmentId)
    .stateConflict
  match result.cancellation with
  | some previous => do
    rejectIf
      (previous.cancellationId ≠ intent.cancellationId
        ∨ previous.reason ≠ intent.reason
        ∨ previous.requestedByPrincipalId ≠ intent.requestedByPrincipalId)
      .stateConflict
    return result
  | none => do
    rejectIf job.status.isTerminal .stateConflict
    let now := intent.requestedAt
    rejectIf (now.orderKey < job.updatedAt.orderKey) .stateConflict
    rejectIf (job.stateVersion ≥ maxSafeInteger) .counterExhausted
    return cancelledWith result intent

def cancelPolicyEvaluationJob (snapshot : PolicyEvaluationJobSnapshot)
    (intent : PolicyEvaluationCancellation)
    : Except PolicyEvaluationError PolicyEvaluationJobSnapshot := do
  let draft ← cancelPolicyEvaluationJob.draft snapshot intent
  parseSnapshot draft

def retryOrFail (snapshot : PolicyEvaluationJobSnapshot) (now : PolicyEvaluationTime)
    (reason : PolicyEvaluationRetryableError) : PolicyEvaluationJobSnapshot :=
  let job := snapshot.job
  let limits := snapshot.request.limits
  let retryAt := now.addMillisecondsUpTo limits.retryBackoffMilliseconds job.deadlineAt
  if retryAt.orderKey ≥ job.deadlineAt.orderKey
      ∨ snapshot.attempts.length ≥ limits.maxAttempts
      ∨ reason ∉ limits.retryableErrors then
    terminate snapshot now .failed .retriesExhausted
  else
    { snapshot with
      job := { touch job now with
        currentLease := none
        status := .retryReady
        retryAt := some retryAt } }

def interruptPolicyEvaluationJob.draft (snapshot : PolicyEvaluationJobSnapshot)
    (now : PolicyEvaluationTime) (recoveryEpoch : Nat)
    (fence : PolicyEvaluationWorkerMutationFence) (reason : PolicyEvaluationRetryableError)
    : Except PolicyEvaluationError PolicyEvaluationJobSnapshot := do
  let result ← parseSnapshot snapshot
  parseWith fence.Accepted
  let job := result.job
  match job.currentLease with
  | none => .error (.transition .stateConflict)
  | some lease => do
    rejectIf
      ((¬∃ latest ∈ result.latest, latest.closure = none) ∨ job.status.isLeased = false)
      .stateConflict
    rejectIf (recoveryEpoch ≠ job.recoveryEpoch ∨ fence ≠ lease.mutationFence) .staleFence
    rejectIf (now.orderKey < job.updatedAt.orderKey) .stateConflict
    rejectIf (now.orderKey ≥ lease.expiresAt.orderKey) .leaseExpired
    rejectIf (reason = .leaseExpired) .stateConflict
    rejectIf (job.snapshot.isSome ∧ reason = .sourceRevisionChanged) .stateConflict
    rejectIf (job.stateVersion ≥ maxSafeInteger) .counterExhausted
    let closed := closeUncertain result (.interrupted reason now)
    if result.allowance.isSome then
      return terminate closed now .budgetExhausted .budgetLimitReached
    else
      return retryOrFail closed now reason

def interruptPolicyEvaluationJob (snapshot : PolicyEvaluationJobSnapshot)
    (now : PolicyEvaluationTime) (recoveryEpoch : Nat)
    (fence : PolicyEvaluationWorkerMutationFence) (reason : PolicyEvaluationRetryableError)
    : Except PolicyEvaluationError PolicyEvaluationJobSnapshot := do
  let draft ← interruptPolicyEvaluationJob.draft snapshot now recoveryEpoch fence reason
  parseSnapshot draft

def leaseHasExpired (job : PolicyEvaluationJob) (now : PolicyEvaluationTime) : Prop :=
  ∃ lease ∈ job.currentLease, now.orderKey ≥ lease.expiresAt.orderKey

instance (job : PolicyEvaluationJob) (now : PolicyEvaluationTime)
    : Decidable (leaseHasExpired job now) :=
  inferInstanceAs (Decidable (∃ lease ∈ job.currentLease, _))

def reclaimPolicyEvaluationJob.draft (snapshot : PolicyEvaluationJobSnapshot)
    (now : PolicyEvaluationTime) (recoveryEpoch : Nat)
    : Except PolicyEvaluationError PolicyEvaluationJobSnapshot := do
  let result ← parseSnapshot snapshot
  let job := result.job
  rejectIf (recoveryEpoch ≠ job.recoveryEpoch) .staleFence
  if job.terminal.isSome then
    return result
  else
    rejectIf (now.orderKey < job.updatedAt.orderKey) .stateConflict
    rejectIf (leaseHasExpired job now ∧ result.latest = none) .stateConflict
    rejectIf (¬now.orderKey ≥ job.deadlineAt.orderKey ∧ ¬leaseHasExpired job now) .stateConflict
    rejectIf (job.stateVersion ≥ maxSafeInteger) .counterExhausted
    if now.orderKey ≥ job.deadlineAt.orderKey then
      let closed := closeUncertain result (.ended .timedOut .deadlineReached now)
      return terminate closed now .timedOut .deadlineReached
    else
      let closed := closeUncertain result (.interrupted .leaseExpired now)
      if result.allowance.isSome then
        return terminate closed now .budgetExhausted .budgetLimitReached
      else
        return retryOrFail closed now .leaseExpired

def reclaimPolicyEvaluationJob (snapshot : PolicyEvaluationJobSnapshot)
    (now : PolicyEvaluationTime) (recoveryEpoch : Nat)
    : Except PolicyEvaluationError PolicyEvaluationJobSnapshot := do
  let draft ← reclaimPolicyEvaluationJob.draft snapshot now recoveryEpoch
  parseSnapshot draft

end Close

section Recovery

def recoveryClosure (job : PolicyEvaluationJob) (now : PolicyEvaluationTime)
    : PolicyEvaluationClosure :=
  if now.orderKey ≥ job.deadlineAt.orderKey then
    .ended .timedOut .deadlineReached now
  else if job.stateVersion = maxPolicyEvaluationJobHistoryEntries - 1 then
    .ended .budgetExhausted .budgetLimitReached now
  else
    .interrupted .workerInterrupted now

def advanceEpoch (snapshot : PolicyEvaluationJobSnapshot) (recoveryEpoch : Nat)
    : PolicyEvaluationJobSnapshot :=
  { snapshot with job := { snapshot.job with recoveryEpoch := recoveryEpoch } }

def postponedRetry (job : PolicyEvaluationJob) (now : PolicyEvaluationTime)
    : Option PolicyEvaluationTime :=
  match job.retryAt with
  | none => none
  | some retryAt =>
    if job.status = .retryReady ∧ retryAt.orderKey < now.orderKey then some now else some retryAt

def recoverPolicyEvaluationJob.draft (snapshot : PolicyEvaluationJobSnapshot)
    (now : PolicyEvaluationTime) (recoveryEpoch : Nat)
    : Except PolicyEvaluationError PolicyEvaluationJobSnapshot := do
  let result ← parseSnapshot snapshot
  let job := result.job
  failIf
    (recoveryEpoch > maxSafeInteger
      ∨ recoveryEpoch ≤ job.recoveryEpoch
      ∨ now.orderKey < job.updatedAt.orderKey)
    (.history "Recovery requires a forward trusted epoch and native receipt")
  if job.terminal.isSome then
    return result
  else
    failIf (job.stateVersion ≥ maxPolicyEvaluationJobHistoryEntries)
      (.history "Recovery history capacity is exhausted")
    let closed := closeUncertain result (recoveryClosure job now)
    let advanced := advanceEpoch closed recoveryEpoch
    if now.orderKey ≥ job.deadlineAt.orderKey then
      return terminate advanced now .timedOut .deadlineReached
    else if job.stateVersion = maxPolicyEvaluationJobHistoryEntries - 1
        ∨ result.allowance.isSome then
      return terminate advanced now .budgetExhausted .budgetLimitReached
    else if job.currentLease.isSome then
      return retryOrFail advanced now .workerInterrupted
    else
      return { advanced with
        job := { touch advanced.job now with retryAt := postponedRetry job now } }

def recoverPolicyEvaluationJob (snapshot : PolicyEvaluationJobSnapshot)
    (now : PolicyEvaluationTime) (recoveryEpoch : Nat)
    : Except PolicyEvaluationError PolicyEvaluationJobSnapshot := do
  let draft ← recoverPolicyEvaluationJob.draft snapshot now recoveryEpoch
  parseSnapshot draft

def exhaustPolicyEvaluationJobHistory.draft (snapshot : PolicyEvaluationJobSnapshot)
    (now : PolicyEvaluationTime)
    : Except PolicyEvaluationError PolicyEvaluationJobSnapshot := do
  let snapshot ← parseSnapshot snapshot
  let job := snapshot.job
  failIf
    (job.terminal.isSome
      ∨ job.stateVersion ≠ maxPolicyEvaluationJobHistoryEntries - 1
      ∨ now.orderKey < job.updatedAt.orderKey)
    (.history "History exhaustion requires the exact final reserved slot and forward native receipt")
  let closed := closeUncertain snapshot (.ended .budgetExhausted .budgetLimitReached now)
  return terminate closed now .budgetExhausted .budgetLimitReached

def exhaustPolicyEvaluationJobHistory (snapshot : PolicyEvaluationJobSnapshot)
    (now : PolicyEvaluationTime)
    : Except PolicyEvaluationError PolicyEvaluationJobSnapshot := do
  let draft ← exhaustPolicyEvaluationJobHistory.draft snapshot now
  parseSnapshot draft

end Recovery

inductive PolicyEvaluationTransition where
  | claim (now : PolicyEvaluationTime) (recoveryEpoch : Nat) (attemptId leaseId workerId : String)
  | heartbeat (now : PolicyEvaluationTime) (recoveryEpoch : Nat)
    (fence : PolicyEvaluationWorkerMutationFence)
  | reserveUsage (now : PolicyEvaluationTime) (recoveryEpoch : Nat)
    (fence : PolicyEvaluationWorkerMutationFence) (delta : PolicyEvaluationUsage)
  | reserveAcquisition (now : PolicyEvaluationTime) (recoveryEpoch : Nat)
    (fence : PolicyEvaluationWorkerMutationFence) (allowanceId : String)
  | settleAcquisition (now : PolicyEvaluationTime) (recoveryEpoch : Nat)
    (fence : PolicyEvaluationWorkerMutationFence) (allowanceId : String)
    (usage : Option PolicyEvaluationAcquisitionUsage)
  | sealSnapshot (now : PolicyEvaluationTime) (recoveryEpoch : Nat)
    (fence : PolicyEvaluationWorkerMutationFence)
    (sealedSnapshot : PolicyEvaluationSnapshotReference)
  | startComputation (now : PolicyEvaluationTime) (recoveryEpoch : Nat)
    (fence : PolicyEvaluationWorkerMutationFence)
  | complete (now : PolicyEvaluationTime) (recoveryEpoch : Nat)
    (fence : PolicyEvaluationWorkerMutationFence) (result : PolicyEvaluationResultReference)
    (ruleCount : Nat)
  | cancel (intent : PolicyEvaluationCancellation)
  | interrupt (now : PolicyEvaluationTime) (recoveryEpoch : Nat)
    (fence : PolicyEvaluationWorkerMutationFence) (reason : PolicyEvaluationRetryableError)
  | reclaim (now : PolicyEvaluationTime) (recoveryEpoch : Nat)
  | recover (now : PolicyEvaluationTime) (recoveryEpoch : Nat)
  | exhaustHistory (now : PolicyEvaluationTime)

namespace PolicyEvaluationTransition

def now : PolicyEvaluationTransition → PolicyEvaluationTime
  | .claim now _ _ _ _ => now
  | .heartbeat now _ _ => now
  | .reserveUsage now _ _ _ => now
  | .reserveAcquisition now _ _ _ => now
  | .settleAcquisition now _ _ _ _ => now
  | .sealSnapshot now _ _ _ => now
  | .startComputation now _ _ => now
  | .complete now _ _ _ _ => now
  | .cancel intent => intent.requestedAt
  | .interrupt now _ _ _ => now
  | .reclaim now _ => now
  | .recover now _ => now
  | .exhaustHistory now => now

def fence : PolicyEvaluationTransition → Option PolicyEvaluationWorkerMutationFence
  | .claim _ _ _ _ _ => none
  | .heartbeat _ _ fence => some fence
  | .reserveUsage _ _ fence _ => some fence
  | .reserveAcquisition _ _ fence _ => some fence
  | .settleAcquisition _ _ fence _ _ => some fence
  | .sealSnapshot _ _ fence _ => some fence
  | .startComputation _ _ fence => some fence
  | .complete _ _ fence _ _ => some fence
  | .cancel _ => none
  | .interrupt _ _ fence _ => some fence
  | .reclaim _ _ => none
  | .recover _ _ => none
  | .exhaustHistory _ => none

def draft (transition : PolicyEvaluationTransition) (snapshot : PolicyEvaluationJobSnapshot)
    : Except PolicyEvaluationError PolicyEvaluationJobSnapshot :=
  match transition with
  | .claim now epoch attemptId leaseId workerId =>
    claimPolicyEvaluationJob.draft snapshot now epoch attemptId leaseId workerId
  | .heartbeat now epoch fence => heartbeatPolicyEvaluationJob.draft snapshot now epoch fence
  | .reserveUsage now epoch fence delta =>
    reservePolicyEvaluationUsage.draft snapshot now epoch fence delta
  | .reserveAcquisition now epoch fence allowanceId =>
    reservePolicyEvaluationAcquisition.draft snapshot now epoch fence allowanceId
  | .settleAcquisition now epoch fence allowanceId usage =>
    settlePolicyEvaluationAcquisition.draft snapshot now epoch fence allowanceId usage
  | .sealSnapshot now epoch fence reference =>
    sealPolicyEvaluationJob.draft snapshot now epoch fence reference
  | .startComputation now epoch fence =>
    startPolicyEvaluationComputation.draft snapshot now epoch fence
  | .complete now epoch fence result ruleCount =>
    completePolicyEvaluationJob.draft snapshot now epoch fence result ruleCount
  | .cancel intent => cancelPolicyEvaluationJob.draft snapshot intent
  | .interrupt now epoch fence reason =>
    interruptPolicyEvaluationJob.draft snapshot now epoch fence reason
  | .reclaim now epoch => reclaimPolicyEvaluationJob.draft snapshot now epoch
  | .recover now epoch => recoverPolicyEvaluationJob.draft snapshot now epoch
  | .exhaustHistory now => exhaustPolicyEvaluationJobHistory.draft snapshot now

def apply (transition : PolicyEvaluationTransition) (snapshot : PolicyEvaluationJobSnapshot)
    : Except PolicyEvaluationError PolicyEvaluationJobSnapshot :=
  match transition with
  | .claim now epoch attemptId leaseId workerId =>
    claimPolicyEvaluationJob snapshot now epoch attemptId leaseId workerId
  | .heartbeat now epoch fence => heartbeatPolicyEvaluationJob snapshot now epoch fence
  | .reserveUsage now epoch fence delta =>
    reservePolicyEvaluationUsage snapshot now epoch fence delta
  | .reserveAcquisition now epoch fence allowanceId =>
    reservePolicyEvaluationAcquisition snapshot now epoch fence allowanceId
  | .settleAcquisition now epoch fence allowanceId usage =>
    settlePolicyEvaluationAcquisition snapshot now epoch fence allowanceId usage
  | .sealSnapshot now epoch fence reference =>
    sealPolicyEvaluationJob snapshot now epoch fence reference
  | .startComputation now epoch fence =>
    startPolicyEvaluationComputation snapshot now epoch fence
  | .complete now epoch fence result ruleCount =>
    completePolicyEvaluationJob snapshot now epoch fence result ruleCount
  | .cancel intent => cancelPolicyEvaluationJob snapshot intent
  | .interrupt now epoch fence reason =>
    interruptPolicyEvaluationJob snapshot now epoch fence reason
  | .reclaim now epoch => reclaimPolicyEvaluationJob snapshot now epoch
  | .recover now epoch => recoverPolicyEvaluationJob snapshot now epoch
  | .exhaustHistory now => exhaustPolicyEvaluationJobHistory snapshot now

end PolicyEvaluationTransition

end Policy
end ProofStack
