import Mathlib.Logic.Function.Basic
import ProofStack.Replay.Budget
import ProofStack.Replay.JobState
import ProofStack.Replay.Retry
import ProofStack.StateMachine.Atomic

/-!
This module contains the replay job repository and its outbox intents.
-/

namespace ProofStack
namespace Replay

open Checks

inductive ReplayJobEventType where
  | cancellationRequested
  | created
  | terminal
  deriving DecidableEq

inductive ReplayJobIntentPayload where
  | created (plan : ReplayPlanJobReference) (environmentId jobId projectId : String)
  | cancellationRequested (cancellationId environmentId jobId projectId : String)
    (reasonCode : ReplayCancellationReasonCode)
  | terminal (code : ReplayJobTerminalCode) (environmentId jobId projectId : String)
    (stateVersion : Nat) (status : ReplayJobStatus)
  deriving DecidableEq

structure ReplayJobOutboxIntent where
  aggregateId : String
  createdAt : UtcMillisecondTimestamp
  eventType : ReplayJobEventType
  payload : ReplayJobIntentPayload
  tenantId : String
  deriving DecidableEq

def buildReplayJobCreatedOutboxIntent (job : ReplayJob) : Except ReplayError ReplayJobOutboxIntent :=
  do
  let job ← parseJob job
  return {
    aggregateId := job.jobId
    createdAt := job.createdAt
    eventType := .created
    payload := .created job.plan job.scope.environmentId job.jobId job.scope.projectId
    tenantId := job.scope.tenantId }

def buildReplayJobCancellationRequestedOutboxIntent (job : ReplayJob)
    (request : ReplayCancellationRequest) : Except ReplayError ReplayJobOutboxIntent := do
  let job ← parseJob job
  let request ← parseRequest request
  failIf (request.jobId ≠ job.jobId ∨ request.scope ≠ job.scope)
    (.type "Replay cancellation outbox scope does not match its job")
  return {
    aggregateId := job.jobId
    createdAt := request.requestedAt
    eventType := .cancellationRequested
    payload :=
      .cancellationRequested request.cancellationId job.scope.environmentId job.jobId
        job.scope.projectId request.reasonCode
    tenantId := job.scope.tenantId }

def buildReplayJobTerminalOutboxIntent (job : ReplayJob) : Except ReplayError ReplayJobOutboxIntent :=
  do
  let job ← parseJob job
  let terminal ← found job.terminal (.type "Replay terminal outbox requires a terminal job")
  return {
    aggregateId := job.jobId
    createdAt := terminal.committedAt
    eventType := .terminal
    payload :=
      .terminal terminal.code job.scope.environmentId job.jobId job.scope.projectId job.stateVersion
        job.status
    tenantId := job.scope.tenantId }

open StateMachine

abbrev ReplayIntentKey : Type := ReplayJobEventType × String

structure StoredReplayJob extends ReplayJobSnapshot where
  intents : ReplayIntentKey → Option ReplayJobOutboxIntent

-- The keys are those of the map of a tenant and of the job in it.
structure ReplayJobStore where
  jobs : String × String → Option StoredReplayJob
  failedIntentKinds : List ReplayJobIntentKind

def ReplayJobStore.empty : ReplayJobStore where
  jobs := fun _ => none
  failedIntentKinds := []

structure ReplayDefinitions where
  findReplayPlan : EvidenceScope → String → Option ReplayPlan
  findTargetRelease : EvidenceScope → String → Option TargetRelease

section Commands

/-- An object together with the order in which its keys are written. The order is only kept where an
operation compares the text of an object with the text of a stored one. -/
structure Written (α : Type) (schemaKeys : α → List String) where
  value : α
  keys : List String
  keys_perm : keys.Perm (schemaKeys value)

variable {α : Type} {schemaKeys : α → List String}

namespace Written

-- A stored object has been parsed, which writes its keys in the order of the schema.
def sameJson (stored : α) (written : Written α schemaKeys) : Prop :=
  stored = written.value ∧ schemaKeys stored = written.keys

instance [DecidableEq α] (stored : α) (written : Written α schemaKeys)
    : Decidable (sameJson stored written) :=
  inferInstanceAs (Decidable (_ ∧ _))

def InSchemaOrder (written : Written α schemaKeys) : Prop :=
  written.keys = schemaKeys written.value

def ofValue (value : α) : Written α schemaKeys where
  value := value
  keys := schemaKeys value
  keys_perm := List.Perm.refl _

end Written

def planKeys (_ : ReplayPlanJobReference) : List String :=
  ["definitionSha256", "planId", "planVersionId"]

def fenceKeys (_ : ReplayWorkerMutationFence) : List String :=
  ["attemptId", "fencingToken", "jobId", "leaseId", "recoveryEpoch", "workerId"]

def workKeys : ReplayBudgetWorkReference → List String
  | .attemptStart => ["kind"]
  | .boundaryCall _ _ => ["boundaryId", "boundaryKind", "kind"]
  | .artifactEmission _ => ["artifactId", "kind"]

def amountKeys (_ : ReplayBudgetDimension → Int) : List String :=
  replayBudgetDimensions.map (·.text)

structure CreateReplayJobCommand where
  createdByPrincipalId : String
  jobId : String
  plan : Written ReplayPlanJobReference planKeys
  scope : EvidenceScope

structure ClaimDurableReplayJobCommand where
  attemptId : String
  jobId : String
  leaseDurationMilliseconds : Int
  leaseId : String
  scope : EvidenceScope
  workerBuildSha256 : String
  workerId : String
  workerProtocol : WorkerProtocolReference

structure HeartbeatDurableReplayJobCommand where
  leaseDurationMilliseconds : Int
  scope : EvidenceScope
  workerFence : ReplayWorkerMutationFence

structure RequestDurableReplayCancellationCommand where
  input : RequestReplayCancellation
  jobId : String
  requestedByPrincipalId : String
  scope : EvidenceScope

structure AcknowledgeDurableReplayCancellationCommand where
  acknowledgementId : String
  action : ReplayCancellationAction
  scope : EvidenceScope
  workerFence : ReplayWorkerMutationFence

structure ReserveDurableReplayBudgetCommand where
  requested : Written (ReplayBudgetDimension → Int) amountKeys
  reservationId : String
  scope : EvidenceScope
  work : Written ReplayBudgetWorkReference workKeys
  workerFence : Written ReplayWorkerMutationFence fenceKeys

structure ReconcileDurableReplayBudgetCommand where
  reconciliationId : String
  reservationId : String
  scope : EvidenceScope
  usage : ReplayUsageMeasurements
  workerFence : ReplayWorkerMutationFence

structure AppendReplayExecutionObservationCommand where
  observationId : String
  payload : ReplayExecutionObservationPayload
  scope : EvidenceScope
  workerFence : ReplayWorkerMutationFence

structure AppendReplayUsageObservationCommand where
  boundaryId : Option String
  measurements : List ReplayDimensionUsage
  observationId : String
  scope : EvidenceScope
  sourceEventSha256 : String
  workerFence : ReplayWorkerMutationFence

structure CompleteDurableReplayJobCommand where
  code : ReplayJobTerminalCode
  error : Option ReplayAttemptError
  result : Option ArtifactContentReference
  scope : EvidenceScope
  status : ReplayJobTerminalStatus
  workerFence : ReplayWorkerMutationFence

inductive ReplayCommand where
  | createJob (command : CreateReplayJobCommand)
  | claimJob (command : ClaimDurableReplayJobCommand)
  | heartbeatJob (command : HeartbeatDurableReplayJobCommand)
  | requestCancellation (command : RequestDurableReplayCancellationCommand)
  | acknowledgeCancellation (command : AcknowledgeDurableReplayCancellationCommand)
  | reserveBudget (command : ReserveDurableReplayBudgetCommand)
  | reconcileBudget (command : ReconcileDurableReplayBudgetCommand)
  | appendExecutionObservation (command : AppendReplayExecutionObservationCommand)
  | appendUsageObservation (command : AppendReplayUsageObservationCommand)
  | completeJob (command : CompleteDurableReplayJobCommand)

namespace ReplayCommand

def workerFence : ReplayCommand → Option ReplayWorkerMutationFence
  | .createJob _ => none
  | .claimJob _ => none
  | .heartbeatJob command => some command.workerFence
  | .requestCancellation _ => none
  | .acknowledgeCancellation command => some command.workerFence
  | .reserveBudget command => some command.workerFence.value
  | .reconcileBudget command => some command.workerFence
  | .appendExecutionObservation command => some command.workerFence
  | .appendUsageObservation command => some command.workerFence
  | .completeJob command => some command.workerFence

def scope : ReplayCommand → EvidenceScope
  | .createJob command => command.scope
  | .claimJob command => command.scope
  | .heartbeatJob command => command.scope
  | .requestCancellation command => command.scope
  | .acknowledgeCancellation command => command.scope
  | .reserveBudget command => command.scope
  | .reconcileBudget command => command.scope
  | .appendExecutionObservation command => command.scope
  | .appendUsageObservation command => command.scope
  | .completeJob command => command.scope

def jobId : ReplayCommand → String
  | .createJob command => command.jobId
  | .claimJob command => command.jobId
  | .heartbeatJob command => command.workerFence.jobId
  | .requestCancellation command => command.jobId
  | .acknowledgeCancellation command => command.workerFence.jobId
  | .reserveBudget command => command.workerFence.value.jobId
  | .reconcileBudget command => command.workerFence.jobId
  | .appendExecutionObservation command => command.workerFence.jobId
  | .appendUsageObservation command => command.workerFence.jobId
  | .completeJob command => command.workerFence.jobId

def key (command : ReplayCommand) : String × String :=
  (command.scope.tenantId, command.jobId)

end ReplayCommand

inductive ReplayNotClaimedReason where
  | retryNotReady
  | terminalized
  deriving DecidableEq

inductive ReplayJobResult where
  | created (created : Bool)
  | claimed (workerFence : ReplayWorkerMutationFence)
  | notClaimed (reason : ReplayNotClaimedReason)
  | cancellationRequested (created : Bool)
  | accepted
  deriving DecidableEq

/-- What an operation decides: the job whose snapshot it returns and, when the job is to be stored,
the intents that are published with it. -/
structure ReplayOutcome where
  result : ReplayJobResult
  stored : StoredReplayJob
  published : Option (List ReplayJobIntentKind)

end Commands

section Parts

def maxArrayLength : Nat := 2 ^ 32 - 1

-- A longer array cannot be built.
def push {α : Type} (values : List α) (value : α) : Except ReplayError (List α) := do
  failIf (values.length ≥ maxArrayLength) .arrayLength
  return values ++ [value]

def intentKey (intent : ReplayJobOutboxIntent) : ReplayIntentKey :=
  (intent.eventType, intent.aggregateId)

def withIntent (stored : StoredReplayJob) (intent : ReplayJobOutboxIntent) : StoredReplayJob :=
  { stored with intents := Function.update stored.intents (intentKey intent) (some intent) }

def requireIntent (stored : StoredReplayJob) (expected : ReplayJobOutboxIntent)
    : Except ReplayError Unit :=
  failIf (stored.intents (intentKey expected) ≠ some expected)
    (.repositoryContract "Replay job publication intent is unavailable")

def requireJob (store : ReplayJobStore) (scope : EvidenceScope) (jobId : String)
    : Except ReplayError StoredReplayJob := do
  let stored ← found (store.jobs (scope.tenantId, jobId)) .jobNotFound
  failIf (stored.job.scope ≠ scope) .jobNotFound
  return stored

def exactPlanReference (job : ReplayJob) (plan : ReplayPlan) : Prop :=
  job.plan.planId = plan.planId
    ∧ job.plan.planVersionId = plan.planVersionId
    ∧ job.plan.definitionSha256 = plan.definitionSha256
    ∧ job.scope = plan.scope

instance (job : ReplayJob) (plan : ReplayPlan) : Decidable (exactPlanReference job plan) :=
  inferInstanceAs (Decidable (_ ∧ _))

def requirePlan (definitions : ReplayDefinitions) (job : ReplayJob) : Except ReplayError ReplayPlan :=
  do
  let plan ←
    found (definitions.findReplayPlan job.scope job.plan.planVersionId) .definitionLineage
  failIf (¬exactPlanReference job plan) .definitionLineage
  return plan

def requireTargetRelease (definitions : ReplayDefinitions) (plan : ReplayPlan)
    : Except ReplayError Unit := do
  let target ←
    found (definitions.findTargetRelease plan.scope plan.targetRelease.targetReleaseId)
      .definitionLineage
  failIf
    (target.definitionSha256 ≠ plan.targetRelease.definitionSha256
      ∨ target.targetId ≠ plan.targetRelease.targetId
      ∨ target.targetAdapter ≠ plan.targetRelease.targetAdapter
      ∨ target.workerProtocol ≠ plan.targetRelease.workerProtocol)
    .definitionLineage

-- The sequence is that of the attempt which has been read at its place.
def replaceAttempt (attempts : List ReplayAttempt) (attempt : ReplayAttempt) : List ReplayAttempt :=
  attempts.set attempt.attemptSequence attempt

def currentAttempt (stored : StoredReplayJob) : Except ReplayError ReplayAttempt := do
  let sequence ←
    found stored.job.latestAttemptSequence
      (.repositoryContract "Current replay attempt sequence is unavailable")
  found stored.attempts[sequence]? (.repositoryContract "Current replay attempt is unavailable")

def expiredEffect (plan : ReplayPlan) : ReplayAttemptEffect :=
  let live := plan.boundaries.filterMap (fun boundary =>
    match boundary.execution with
    | .liveProvider sideEffect => some sideEffect
    | _ => none)
  if live = [] then
    { effectCertainty := .none, effectRetrySafety := none }
  else if ∀ sideEffect ∈ live, sideEffect = .readOnly then
    { effectCertainty := .mayHaveOccurred
      effectRetrySafety := some (.readOnly plan.definitionSha256) }
  else
    { effectCertainty := .mayHaveOccurred, effectRetrySafety := some .notRetryable }

def terminalCloseReason (reason : ReplayRetryBlockedReason)
    : ReplayJobTerminalStatus × ReplayJobTerminalCode :=
  match reason with
  | .deadlineInsufficient => (.timedOut, .deadlineReached)
  | .effectNotRetrySafe => (.failed, .executionFailed)
  | _ => (.failed, .retriesExhausted)

def ReplayBudgetReservation.requested (reservation : ReplayBudgetReservation)
    : ReplayBudgetDimension → Int :=
  fun dimension => (reservation.dimensions dimension).reservedAmount

def reservations (ledger : List ReplayBudgetLedgerEntry) : List ReplayBudgetReservation :=
  ledger.filterMap (fun entry =>
    match entry with
    | .reservation entry => some entry
    | .reconciliation _ => none)

def reconciliations (ledger : List ReplayBudgetLedgerEntry) : List ReplayBudgetReconciliation :=
  ledger.filterMap (fun entry =>
    match entry with
    | .reservation _ => none
    | .reconciliation entry => some entry)

def reservationOf (ledger : List ReplayBudgetLedgerEntry) (reservationId : String)
    : Option ReplayBudgetReservation :=
  (reservations ledger).find? (fun entry => entry.reservationId = reservationId)

def reconciliationOf (ledger : List ReplayBudgetLedgerEntry) (reservationId : String)
    : Option ReplayBudgetReconciliation :=
  (reconciliations ledger).find? (fun entry => entry.reservationId = reservationId)

def hasOpenBudgetReservation (stored : StoredReplayJob) : Bool :=
  (reservations stored.budgetLedger).any (fun entry =>
    (reconciliationOf stored.budgetLedger entry.reservationId).isNone)

def terminalizeExpiredAttempt (stored : StoredReplayJob) (effect : ReplayAttemptEffect)
    (now : UtcMillisecondTimestamp) (status : ReplayJobTerminalStatus) (code : ReplayJobTerminalCode)
    : Except ReplayError StoredReplayJob := do
  let attempt ← currentAttempt stored
  let (attempt, job) ← closeExpiredReplayAttempt stored.job attempt effect status code now
  let intent ← buildReplayJobTerminalOutboxIntent job
  return withIntent
    { stored with attempts := replaceAttempt stored.attempts attempt, job := job } intent

inductive ExpiryDecision where
  | unexpired
  | terminalize (status : ReplayJobTerminalStatus) (code : ReplayJobTerminalCode)
  | retryNotReady
  | retry

def decideExpiry (stored : StoredReplayJob) (plan : ReplayPlan) (now : UtcMillisecondTimestamp)
    : Except ReplayError ExpiryDecision := do
  if stored.job.status ≠ .running then
    return .unexpired
  else
    let lease ←
      found stored.job.currentLease (.repositoryContract "Running replay job has no lease")
    if now.value < lease.expiresAt.value then
      return .unexpired
    else
      let attempt ← currentAttempt stored
      if stored.cancellationRequest.isSome then
        return .terminalize .cancelled .cancellationCommitted
      else if hasOpenBudgetReservation stored then
        return .terminalize .failed .executionFailed
      else
        let startedAt ←
          found stored.job.startedAt (.repositoryContract "Running replay job has no start time")
        let retry ← decideReplayRetry
          { attemptSequence := attempt.attemptSequence
            error := leaseExpiredError (expiredEffect plan)
            evaluatedAt := now
            failedAt := lease.expiresAt
            jobStartedAt := startedAt
            policy := plan.retryPolicy }
        match retry with
        | .blocked reason =>
          let (status, code) := terminalCloseReason reason
          return .terminalize status code
        | .eligible _ notBefore =>
          if now.value < notBefore.value then
            return .retryNotReady
          else
            return .retry

end Parts

section Operations

variable (store : ReplayJobStore) (definitions : ReplayDefinitions)
variable (reading : Option UtcMillisecondTimestamp)

def createJob (command : CreateReplayJobCommand) : Except ReplayError ReplayOutcome := do
  let reference := command.plan.value
  let plan ←
    found (definitions.findReplayPlan command.scope reference.planVersionId) .definitionLineage
  failIf
    (plan.planId ≠ reference.planId ∨ plan.definitionSha256 ≠ reference.definitionSha256)
    .definitionLineage
  let now ← parseTimestamp reading
  let candidate ←
    createQueuedReplayJob command.scope command.createdByPrincipalId command.jobId reference now
  match store.jobs (command.scope.tenantId, command.jobId) with
  | some existing => do
    failIf
      (existing.job.scope ≠ command.scope
        ∨ existing.job.createdByPrincipalId ≠ command.createdByPrincipalId
        ∨ ¬command.plan.sameJson existing.job.plan)
      .jobConflict
    let intent ← buildReplayJobCreatedOutboxIntent existing.job
    requireIntent existing intent
    return { result := .created false, stored := existing, published := none }
  | none => do
    let intent ← buildReplayJobCreatedOutboxIntent candidate
    let stored : StoredReplayJob :=
      { attempts := []
        budgetLedger := []
        cancellationAcknowledgements := []
        cancellationRequest := none
        executionObservations := []
        intents := fun _ => none
        job := candidate
        usageObservations := [] }
    return {
      result := .created true
      stored := withIntent stored intent
      published := some [.jobCreated] }

def claimStored (command : ClaimDurableReplayJobCommand) (stored : StoredReplayJob)
    (plan : ReplayPlan) (now : UtcMillisecondTimestamp) (effect : Option ReplayAttemptEffect)
    : Except ReplayError ReplayOutcome := do
  let current ←
    if stored.job.status = .running then some <$> currentAttempt stored else pure none
  let claimed ← claimReplayJob stored.job
    { attemptId := command.attemptId
      currentAttempt := current
      expiredEffect := effect
      isolationProfile := plan.isolationProfile
      leaseDurationMilliseconds := command.leaseDurationMilliseconds
      leaseId := command.leaseId
      maxAttempts := plan.retryPolicy.maxAttempts
      now := now
      runtimeProfile := plan.runtimeProfile
      targetRelease := plan.targetRelease
      workerBuildSha256 := command.workerBuildSha256
      workerId := command.workerId
      workerProtocol := command.workerProtocol }
  let attempts ← push (claimed.expiredAttempt.elim stored.attempts (replaceAttempt stored.attempts))
    claimed.attempt
  return {
    result := .claimed claimed.lease.mutationFence
    stored := { stored with attempts := attempts, job := claimed.job }
    published := some [] }

def claimJob (command : ClaimDurableReplayJobCommand) : Except ReplayError ReplayOutcome := do
  let stored ← requireJob store command.scope command.jobId
  let plan ← requirePlan definitions stored.job
  requireTargetRelease definitions plan
  failIf (command.workerProtocol ≠ plan.workerProtocol) .definitionLineage
  failIf (command.leaseDurationMilliseconds > plan.retryPolicy.perAttemptTimeoutMilliseconds)
    .jobConflict
  failIf (∃ attempt ∈ stored.attempts, attempt.attemptId = command.attemptId) .jobConflict
  let now ← parseTimestamp reading
  let decision ← decideExpiry stored plan now
  match decision with
  | .terminalize status code => do
    let next ← terminalizeExpiredAttempt stored (expiredEffect plan) now status code
    return { result := .notClaimed .terminalized, stored := next, published := some [.jobTerminal] }
  | .retryNotReady =>
    return { result := .notClaimed .retryNotReady, stored := stored, published := none }
  | .unexpired => claimStored command stored plan now none
  | .retry => claimStored command stored plan now (some (expiredEffect plan))

def heartbeatJob (command : HeartbeatDurableReplayJobCommand) : Except ReplayError ReplayOutcome := do
  let stored ← requireJob store command.scope command.workerFence.jobId
  let plan ← requirePlan definitions stored.job
  failIf (command.leaseDurationMilliseconds > plan.retryPolicy.perAttemptTimeoutMilliseconds)
    .jobConflict
  let now ← parseTimestamp reading
  let job ←
    heartbeatReplayJob stored.job command.workerFence now command.leaseDurationMilliseconds
  return { result := .accepted, stored := { stored with job := job }, published := some [] }

def recordCancellation (stored : StoredReplayJob) (cancelled : RequestReplayCancellationResult)
    : Except ReplayError ReplayOutcome := do
  let intent ← buildReplayJobCancellationRequestedOutboxIntent cancelled.job cancelled.request
  let next := withIntent
    { stored with cancellationRequest := some cancelled.request, job := cancelled.job } intent
  if cancelled.job.terminal.isSome then
    let terminalIntent ← buildReplayJobTerminalOutboxIntent cancelled.job
    return {
      result := .cancellationRequested true
      stored := withIntent next terminalIntent
      published := some [.cancellationRequested, .jobTerminal] }
  else
    return {
      result := .cancellationRequested true
      stored := next
      published := some [.cancellationRequested] }

def requestCancellation (command : RequestDurableReplayCancellationCommand)
    : Except ReplayError ReplayOutcome := do
  let stored ← requireJob store command.scope command.jobId
  if stored.job.terminal.isSome ∧ stored.cancellationRequest = none then
    return { result := .cancellationRequested false, stored := stored, published := none }
  else
    let now ← parseTimestamp reading
    let cancelled ←
      requestReplayCancellation stored.job stored.cancellationRequest command.input
        command.requestedByPrincipalId now
    if cancelled.created then
      recordCancellation stored cancelled
    else
      let intent ← buildReplayJobCancellationRequestedOutboxIntent stored.job cancelled.request
      requireIntent stored intent
      if stored.job.terminal.isSome then
        let terminalIntent ← buildReplayJobTerminalOutboxIntent stored.job
        requireIntent stored terminalIntent
      return { result := .cancellationRequested false, stored := stored, published := none }

def acknowledgeCancellation (command : AcknowledgeDurableReplayCancellationCommand)
    : Except ReplayError ReplayOutcome := do
  let stored ← requireJob store command.scope command.workerFence.jobId
  let request ← found stored.cancellationRequest .jobConflict
  let now ← parseTimestamp reading
  let acknowledgement ←
    acknowledgeReplayCancellation stored.job request command.workerFence command.acknowledgementId
      command.action now
  match stored.cancellationAcknowledgements.find? (fun existing =>
    existing.acknowledgementId = command.acknowledgementId) with
  | some existing => do
    failIf
      (acknowledgement.action ≠ existing.action
        ∨ acknowledgement.cancellationId ≠ existing.cancellationId
        ∨ acknowledgement.mutationFence ≠ existing.mutationFence
        ∨ acknowledgement.scope ≠ existing.scope)
      .jobConflict
    return { result := .accepted, stored := stored, published := none }
  | none => do
    let acknowledgements ← push stored.cancellationAcknowledgements acknowledgement
    return {
      result := .accepted
      stored := { stored with cancellationAcknowledgements := acknowledgements }
      published := some [] }

def reserveBudget (command : ReserveDurableReplayBudgetCommand)
    : Except ReplayError ReplayOutcome := do
  let fence := command.workerFence.value
  let stored ← requireJob store command.scope fence.jobId
  let plan ← requirePlan definitions stored.job
  let now ← parseTimestamp reading
  let _ ← assertReplayWorkerMutationFence stored.job fence now
  match reservationOf stored.budgetLedger command.reservationId with
  | some existing => do
    failIf
      (¬command.workerFence.sameJson existing.mutationFence
        ∨ ¬command.work.sameJson existing.work
        ∨ ¬command.requested.sameJson existing.requested)
      .jobConflict
    return { result := .accepted, stored := stored, published := none }
  | none => do
    let summary ← summarizeReplayBudgetLedger stored.budgetLedger
    let reservation ← reserveReplayBudget
      { budget := plan.budget
        committed := summary.committed
        ledgerSequence := stored.budgetLedger.length
        mutationFence := fence
        requested := command.requested.value
        reservationId := command.reservationId
        reservedAt := now
        scope := command.scope
        work := command.work.value }
    let ledger ← push stored.budgetLedger (.reservation reservation)
    return {
      result := .accepted
      stored := { stored with budgetLedger := ledger }
      published := some [] }

def reconcileBudget (command : ReconcileDurableReplayBudgetCommand)
    : Except ReplayError ReplayOutcome := do
  let stored ← requireJob store command.scope command.workerFence.jobId
  let now ← parseTimestamp reading
  let _ ← assertReplayWorkerMutationFence stored.job command.workerFence now
  let reservation ← found (reservationOf stored.budgetLedger command.reservationId) .jobConflict
  failIf (reservation.mutationFence ≠ command.workerFence) .jobConflict
  let candidate ← reconcileReplayBudget reservation
    { ledgerSequence := stored.budgetLedger.length
      reconciledAt := now
      reconciliationId := command.reconciliationId
      usage := command.usage }
  let existingById :=
    (reconciliations stored.budgetLedger).find? (fun existing =>
      existing.reconciliationId = command.reconciliationId)
  let existingForReservation := reconciliationOf stored.budgetLedger command.reservationId
  match existingById.or existingForReservation with
  | some existing => do
    failIf
      (existing.reconciliationId ≠ candidate.reconciliationId
        ∨ existing.reservationId ≠ candidate.reservationId
        ∨ existing.dimensions ≠ candidate.dimensions
        ∨ existing.mutationFence ≠ candidate.mutationFence)
      .jobConflict
    return { result := .accepted, stored := stored, published := none }
  | none => do
    let ledger ← push stored.budgetLedger (.reconciliation candidate)
    let _ ← summarizeReplayBudgetLedger ledger
    return {
      result := .accepted
      stored := { stored with budgetLedger := ledger }
      published := some [] }

def observationSequence (stored : StoredReplayJob) : Nat :=
  stored.executionObservations.length + stored.usageObservations.length

-- The observations of the other kind with the same identifier have other keys.
def appendExecution (stored : StoredReplayJob) (candidate : ReplayExecutionObservation)
    : Except ReplayError ReplayOutcome := do
  let existing := stored.executionObservations.find? (fun existing =>
    existing.observationId = candidate.observationId)
  match existing with
  | some existing => do
    failIf
      ({ existing with
          observedAt := candidate.observedAt
          observationSequence := candidate.observationSequence } ≠ candidate)
      .jobConflict
    return { result := .accepted, stored := stored, published := none }
  | none => do
    failIf
      (∃ existing ∈ stored.usageObservations, existing.observationId = candidate.observationId)
      .jobConflict
    let observations ← push stored.executionObservations candidate
    return {
      result := .accepted
      stored := { stored with executionObservations := observations }
      published := some [] }

def appendUsage (stored : StoredReplayJob) (candidate : ReplayUsageObservation)
    : Except ReplayError ReplayOutcome := do
  failIf
    (∃ existing ∈ stored.executionObservations, existing.observationId = candidate.observationId)
    .jobConflict
  let existing := stored.usageObservations.find? (fun existing =>
    existing.observationId = candidate.observationId)
  match existing with
  | some existing => do
    failIf
      ({ existing with
          observedAt := candidate.observedAt
          observationSequence := candidate.observationSequence } ≠ candidate)
      .jobConflict
    return { result := .accepted, stored := stored, published := none }
  | none => do
    let observations ← push stored.usageObservations candidate
    return {
      result := .accepted
      stored := { stored with usageObservations := observations }
      published := some [] }

def checkPayload (stored : StoredReplayJob) (plan : ReplayPlan)
    (payload : ReplayExecutionObservationPayload) : Except ReplayError Unit :=
  match payload with
  | .boundary value => do
    let boundary ←
      found (plan.boundaries.find? (fun boundary => boundary.boundaryId = value.boundaryId))
        .jobConflict
    failIf (boundary.kind ≠ value.boundaryKind ∨ boundary.execution.mode ≠ value.mode) .jobConflict
  | .cancellation value =>
    failIf (stored.cancellationRequest.map (·.cancellationId) ≠ some value.cancellationId) .jobConflict
  | _ => .ok ()

def appendExecutionObservation (command : AppendReplayExecutionObservationCommand)
    : Except ReplayError ReplayOutcome := do
  let stored ← requireJob store command.scope command.workerFence.jobId
  let plan ← requirePlan definitions stored.job
  let now ← parseTimestamp reading
  let _ ← assertReplayWorkerMutationFence stored.job command.workerFence now
  checkPayload stored plan command.payload
  let candidate : ReplayExecutionObservation :=
    { mutationFence := command.workerFence
      observationId := command.observationId
      observationSequence := observationSequence stored
      observedAt := now
      payload := command.payload
      scope := command.scope }
  let candidate ← parseWith candidate.Accepted (.schema []) candidate
  appendExecution stored candidate

def appendUsageObservation (command : AppendReplayUsageObservationCommand)
    : Except ReplayError ReplayOutcome := do
  let stored ← requireJob store command.scope command.workerFence.jobId
  let plan ← requirePlan definitions stored.job
  let now ← parseTimestamp reading
  let _ ← assertReplayWorkerMutationFence stored.job command.workerFence now
  failIf
    (∃ boundaryId ∈ command.boundaryId,
      ∀ boundary ∈ plan.boundaries, boundary.boundaryId ≠ boundaryId)
    .jobConflict
  let candidate : ReplayUsageObservation :=
    { boundaryId := command.boundaryId
      measurements := command.measurements
      mutationFence := command.workerFence
      observationId := command.observationId
      observationSequence := observationSequence stored
      observedAt := now
      scope := command.scope
      sourceEventSha256 := command.sourceEventSha256 }
  let candidate ← parseWith candidate.Accepted (.schema []) candidate
  appendUsage stored candidate

def completeJob (command : CompleteDurableReplayJobCommand) : Except ReplayError ReplayOutcome := do
  let stored ← requireJob store command.scope command.workerFence.jobId
  let now ← parseTimestamp reading
  let _ ← assertReplayWorkerMutationFence stored.job command.workerFence now
  let ledger ← summarizeReplayBudgetLedger stored.budgetLedger
  failIf (ledger.openReservationIds ≠ []) (.accounting .accountingConflict)
  failIf
    (ledger.overruns ≠ []
      ∧ command.status ≠ .budgetExhausted
      ∧ stored.cancellationRequest = none)
    (.accounting .accountingConflict)
  failIf
    (stored.cancellationRequest ≠ none
      ∧ ∀ acknowledgement ∈ stored.cancellationAcknowledgements,
          acknowledgement.mutationFence ≠ command.workerFence)
    .jobConflict
  let attempt ← currentAttempt stored
  let (attempt, job) ← completeReplayAttempt stored.job attempt command.workerFence
    { cancellationRequested := stored.cancellationRequest.isSome
      code := command.code
      error := command.error
      now := now
      result := command.result
      status := command.status }
  let intent ← buildReplayJobTerminalOutboxIntent job
  return {
    result := .accepted
    stored :=
      withIntent
        { stored with attempts := replaceAttempt stored.attempts attempt, job := job } intent
    published := some [.jobTerminal] }

def operate : ReplayCommand → Except ReplayError ReplayOutcome
  | .createJob command => createJob store definitions reading command
  | .claimJob command => claimJob store definitions reading command
  | .heartbeatJob command => heartbeatJob store definitions reading command
  | .requestCancellation command => requestCancellation store reading command
  | .acknowledgeCancellation command => acknowledgeCancellation store reading command
  | .reserveBudget command => reserveBudget store definitions reading command
  | .reconcileBudget command => reconcileBudget store reading command
  | .appendExecutionObservation command =>
    appendExecutionObservation store definitions reading command
  | .appendUsageObservation command => appendUsageObservation store definitions reading command
  | .completeJob command => completeJob store reading command

end Operations

section Commit

abbrev Repository (α : Type) : Type := EStateM ReplayError ReplayJobStore α

def failNextIntent (kind : ReplayJobIntentKind) (store : ReplayJobStore) : ReplayJobStore :=
  { store with failedIntentKinds := kind :: store.failedIntentKinds }

def throwInjectedIntentFailure (kind : ReplayJobIntentKind) : Repository Unit := do
  if kind ∈ (← get).failedIntentKinds then
    modify (fun store =>
      { store with failedIntentKinds := store.failedIntentKinds.filter (· ≠ kind) })
    throw (.injectedIntentFailure kind)

def replace (key : String × String) (stored : StoredReplayJob) : Repository Unit :=
  modify (fun store => { store with jobs := Function.update store.jobs key (some stored) })

def commit (key : String × String) (outcome : ReplayOutcome)
    : Repository (ReplayJobResult × ReplayJobSnapshot) := do
  match outcome.published with
  | none => pure ()
  | some kinds =>
    kinds.forM throwInjectedIntentFailure
    replace key outcome.stored
  return (outcome.result, outcome.stored.toReplayJobSnapshot)

def run (definitions : ReplayDefinitions) (reading : Option UtcMillisecondTimestamp)
    (command : ReplayCommand) : Repository (ReplayJobResult × ReplayJobSnapshot) := do
  let outcome ← attempting (operate (← get) definitions reading command)
  commit command.key outcome

inductive ReplayInput where
  | call (definitions : ReplayDefinitions) (reading : Option UtcMillisecondTimestamp)
    (command : ReplayCommand)
  | failNextIntent (kind : ReplayJobIntentKind)

def step (store : ReplayJobStore) (input : ReplayInput) : ReplayJobStore :=
  match input with
  | .call definitions reading command =>
    match run definitions reading command store with
    | .ok _ next => next
    | .error _ next => next
  | .failNextIntent kind => failNextIntent kind store

end Commit

end Replay
end ProofStack
