import ProofStack.Checks
import ProofStack.Contracts.Replay.JobSnapshot

/-!
This module contains the transitions of a replay job.
-/

namespace ProofStack
namespace Replay

open Checks

inductive DurableReplayStateErrorCode where
  | attemptLimitReached
  | cancellationConflict
  | cancellationRequired
  | counterExhausted
  | effectUncertain
  | invalidAttemptState
  | invalidLeaseDuration
  | leaseActive
  | leaseExpired
  | staleFence
  | stateConflict
  deriving DecidableEq

inductive DurableReplayAccountingErrorCode where
  | accountingConflict
  | arithmeticOverflow
  | duplicateEntry
  | invalidAmounts
  | invalidBudget
  | invalidUsage
  | ledgerOrder
  | missingReservation
  deriving DecidableEq

inductive ReplayJobIntentKind where
  | cancellationRequested
  | jobCreated
  | jobTerminal
  deriving DecidableEq

inductive ReplayError where
  | schema (issues : List String)
  | state (code : DurableReplayStateErrorCode)
  | accounting (code : DurableReplayAccountingErrorCode)
  | definitionLineage
  | jobConflict
  | jobNotFound
  | repositoryContract (message : String)
  | type (message : String)
  | arrayLength
  | injectedIntentFailure (kind : ReplayJobIntentKind)
  deriving DecidableEq

def maxLeaseDurationMilliseconds : Int := 24 * 60 * 60 * 1000

def parseTimestamp (reading : Option UtcMillisecondTimestamp)
    : Except ReplayError UtcMillisecondTimestamp :=
  found reading (.schema ["Server timestamps require the canonical UTC millisecond form"])

def parseJob (value : ReplayJob) : Except ReplayError ReplayJob :=
  parseWith value.Accepted (.schema value.issues) value

def parseAttempt (value : ReplayAttempt) : Except ReplayError ReplayAttempt :=
  parseWith value.Accepted (.schema value.issues) value

def parseLease (value : Option ReplayLease) : Except ReplayError ReplayLease := do
  let lease ← found value (.schema [])
  parseWith lease.Accepted (.schema lease.issues) lease

def parseRequest (value : ReplayCancellationRequest) : Except ReplayError ReplayCancellationRequest :=
  parseWith value.Accepted (.schema []) value

def assertLeaseDuration (duration : Int) : Except ReplayError Unit :=
  failIf (duration < 1 ∨ duration > maxLeaseDurationMilliseconds) (.state .invalidLeaseDuration)

def addMilliseconds (timestamp : UtcMillisecondTimestamp) (duration : Int)
    : Except ReplayError UtcMillisecondTimestamp :=
  parseTimestamp (timestamp.addMilliseconds duration)

def nextCounter (value : Nat) : Except ReplayError Nat := do
  failIf (value ≥ maxSafeInteger) (.state .counterExhausted)
  return value + 1

def nextSequence (latestAttemptSequence : Option Nat) : Except ReplayError Nat :=
  match latestAttemptSequence with
  | none => .ok 0
  | some sequence => nextCounter sequence

def assertCurrentFence (job : ReplayJob) (fence : ReplayWorkerMutationFence)
    (now : UtcMillisecondTimestamp) : Except ReplayError ReplayLease := do
  failIf (job.status ≠ .running) (.state .stateConflict)
  let currentLease ← parseLease job.currentLease
  failIf (currentLease.mutationFence ≠ fence) (.state .staleFence)
  failIf (now.value ≥ currentLease.expiresAt.value) (.state .leaseExpired)
  return currentLease

def assertReplayWorkerMutationFence (job : ReplayJob) (fence : ReplayWorkerMutationFence)
    (now : UtcMillisecondTimestamp) : Except ReplayError ReplayLease := do
  let job ← parseJob job
  assertCurrentFence job fence now

def assertCurrentAttempt (job : ReplayJob) (attempt : Option ReplayAttempt)
    : Except ReplayError ReplayAttempt := do
  let currentLease ← parseLease job.currentLease
  let attempt ← found attempt (.state .invalidAttemptState)
  failIf
    (attempt.status ≠ .running
      ∨ attempt.mutationFence ≠ currentLease.mutationFence
      ∨ attempt.scope ≠ job.scope
      ∨ attempt.attemptSequence ≠ currentLease.attemptSequence)
    (.state .invalidAttemptState)
  return attempt

def createQueuedReplayJob (scope : EvidenceScope) (createdByPrincipalId jobId : String)
    (plan : ReplayPlanJobReference) (createdAt : UtcMillisecondTimestamp)
    : Except ReplayError ReplayJob := do
  let plan ← parseWith (OpaqueIdSchema jobId ∧ plan.Accepted) (.schema []) plan
  parseJob
    { createdAt := createdAt
      createdByPrincipalId := createdByPrincipalId
      currentLease := none
      jobId := jobId
      lastFencingToken := 0
      latestAttemptSequence := none
      plan := plan
      recoveryEpoch := 0
      scope := scope
      startedAt := none
      stateVersion := 1
      status := .queued
      terminal := none }

structure ClaimReplayJobOptions where
  attemptId : String
  currentAttempt : Option ReplayAttempt
  expiredEffect : Option ReplayAttemptEffect
  isolationProfile : ReplayIsolationProfileReference
  leaseDurationMilliseconds : Int
  leaseId : String
  maxAttempts : Nat
  now : UtcMillisecondTimestamp
  runtimeProfile : ReplayRuntimeProfileReference
  targetRelease : TargetReleaseReference
  workerBuildSha256 : String
  workerId : String
  workerProtocol : WorkerProtocolReference

structure ClaimReplayJobResult where
  attempt : ReplayAttempt
  expiredAttempt : Option ReplayAttempt
  job : ReplayJob
  lease : ReplayLease

def leaseExpiredError (effect : ReplayAttemptEffect) : ReplayAttemptError where
  toReplayAttemptEffect := effect
  code := .leaseExpired
  detailsSha256 := none
  message := "The worker lease expired before a terminal attempt commit."

def ReplayAttemptEffect.RetrySafe (effect : ReplayAttemptEffect) : Prop :=
  effect.effectCertainty = .none
    ∨ ∃ safety ∈ effect.effectRetrySafety, safety ≠ .notRetryable

instance (effect : ReplayAttemptEffect) : Decidable effect.RetrySafe :=
  inferInstanceAs (Decidable (_ ∨ _))

def assertClaimable (job : ReplayJob) (options : ClaimReplayJobOptions) : Except ReplayError Unit := do
  assertLeaseDuration options.leaseDurationMilliseconds
  failIf (¬safePositiveInteger options.maxAttempts) (.state .attemptLimitReached)
  failIf (job.status ≠ .queued ∧ job.status ≠ .running) (.state .stateConflict)
  if job.status = .running then
    let currentLease ← parseLease job.currentLease
    failIf (options.now.value < currentLease.expiresAt.value) (.state .leaseActive)

def claimedLease (job : ReplayJob) (options : ClaimReplayJobOptions)
    (attemptSequence fencingToken : Nat) : Except ReplayError ReplayLease := do
  let expiresAt ← addMilliseconds options.now options.leaseDurationMilliseconds
  parseLease <| some
    { acquiredAt := options.now
      attemptSequence := attemptSequence
      expiresAt := expiresAt
      heartbeatAt := options.now
      mutationFence :=
        { attemptId := options.attemptId
          fencingToken := fencingToken
          jobId := job.jobId
          leaseId := options.leaseId
          recoveryEpoch := job.recoveryEpoch
          workerId := options.workerId }
      scope := job.scope }

def claimedAttempt (job : ReplayJob) (options : ClaimReplayJobOptions) (lease : ReplayLease)
    : Except ReplayError ReplayAttempt :=
  parseAttempt
    { attemptId := options.attemptId
      attemptSequence := lease.attemptSequence
      endedAt := none
      error := none
      isolationProfile := options.isolationProfile
      jobId := job.jobId
      mutationFence := lease.mutationFence
      plan := job.plan
      result := none
      retryDisposition := none
      runtimeProfile := options.runtimeProfile
      scope := job.scope
      startedAt := options.now
      status := .running
      targetRelease := options.targetRelease
      workerBuildSha256 := options.workerBuildSha256
      workerProtocol := options.workerProtocol }

def expireAttempt (job : ReplayJob) (options : ClaimReplayJobOptions)
    : Except ReplayError (Option ReplayAttempt) := do
  if job.status = .running then
    let currentAttempt ← assertCurrentAttempt job options.currentAttempt
    let effect ← found options.expiredEffect (.state .effectUncertain)
    failIf (¬effect.RetrySafe) (.state .effectUncertain)
    let expiredAttempt ← parseAttempt
      { currentAttempt with
        endedAt := some options.now
        error := some (leaseExpiredError effect)
        retryDisposition := some .retryScheduled
        status := .leaseExpired }
    return some expiredAttempt
  else
    failIf (options.currentAttempt ≠ none) (.state .invalidAttemptState)
    return none

def claimReplayJob (job : ReplayJob) (options : ClaimReplayJobOptions)
    : Except ReplayError ClaimReplayJobResult := do
  let job ← parseJob job
  assertClaimable job options
  let attemptSequence ← nextSequence job.latestAttemptSequence
  failIf (attemptSequence ≥ options.maxAttempts) (.state .attemptLimitReached)
  let fencingToken ← nextCounter job.lastFencingToken
  let stateVersion ← nextCounter job.stateVersion
  let lease ← claimedLease job options attemptSequence fencingToken
  let attempt ← claimedAttempt job options lease
  let expiredAttempt ← expireAttempt job options
  let job ← parseJob
    { job with
      currentLease := some lease
      lastFencingToken := fencingToken
      latestAttemptSequence := some attemptSequence
      startedAt := some (job.startedAt.getD options.now)
      stateVersion := stateVersion
      status := .running }
  return { attempt, expiredAttempt, job, lease }

def heartbeatReplayJob (job : ReplayJob) (fence : ReplayWorkerMutationFence)
    (now : UtcMillisecondTimestamp) (leaseDurationMilliseconds : Int)
    : Except ReplayError ReplayJob := do
  let job ← parseJob job
  assertLeaseDuration leaseDurationMilliseconds
  let currentLease ← assertCurrentFence job fence now
  let expiresAt ← addMilliseconds now leaseDurationMilliseconds
  let lease ← parseLease (some { currentLease with expiresAt := expiresAt, heartbeatAt := now })
  let stateVersion ← nextCounter job.stateVersion
  parseJob { job with currentLease := some lease, stateVersion := stateVersion }

def terminalJob (job : ReplayJob) (attemptId : Option String) (status : ReplayJobTerminalStatus)
    (code : ReplayJobTerminalCode) (now : UtcMillisecondTimestamp) : Except ReplayError ReplayJob := do
  let stateVersion ← nextCounter job.stateVersion
  parseJob
    { job with
      currentLease := none
      stateVersion := stateVersion
      status := status.job
      terminal :=
        some { attemptId := attemptId, code := code, committedAt := now, status := status } }

def closeExpiredReplayAttempt (job : ReplayJob) (attempt : ReplayAttempt)
    (effect : ReplayAttemptEffect) (status : ReplayJobTerminalStatus) (code : ReplayJobTerminalCode)
    (now : UtcMillisecondTimestamp) : Except ReplayError (ReplayAttempt × ReplayJob) := do
  let job ← parseJob job
  let attempt ← parseAttempt attempt
  failIf (job.status ≠ .running) (.state .stateConflict)
  let lease ← parseLease job.currentLease
  let _ ← assertCurrentAttempt job (some attempt)
  failIf (now.value < lease.expiresAt.value) (.state .leaseActive)
  let expiredAttempt ← parseAttempt
    { attempt with
      endedAt := some lease.expiresAt
      error := some (leaseExpiredError effect)
      retryDisposition := some .notRetryable
      status := .leaseExpired }
  let closedJob ← terminalJob job (some attempt.attemptId) status code now
  return (expiredAttempt, closedJob)

structure CompleteReplayAttemptOptions where
  cancellationRequested : Bool
  code : ReplayJobTerminalCode
  error : Option ReplayAttemptError
  now : UtcMillisecondTimestamp
  result : Option ArtifactContentReference
  status : ReplayJobTerminalStatus

def completeReplayAttempt (job : ReplayJob) (attempt : ReplayAttempt)
    (fence : ReplayWorkerMutationFence) (options : CompleteReplayAttemptOptions)
    : Except ReplayError (ReplayAttempt × ReplayJob) := do
  let job ← parseJob job
  let attempt ← parseAttempt attempt
  let _ ← assertCurrentFence job fence options.now
  let _ ← assertCurrentAttempt job (some attempt)
  failIf (options.cancellationRequested ∧ options.status ≠ .cancelled) (.state .cancellationRequired)
  let completedAttempt ← parseAttempt
    { attempt with
      endedAt := some options.now
      error := options.error.or attempt.error
      result := options.result.or attempt.result
      retryDisposition := some .notRetryable
      status := options.status.attempt }
  let completedJob ←
    terminalJob job (some attempt.attemptId) options.status options.code options.now
  return (completedAttempt, completedJob)

structure RequestReplayCancellationResult where
  created : Bool
  job : ReplayJob
  request : ReplayCancellationRequest

def requestReplayCancellation (job : ReplayJob) (existing : Option ReplayCancellationRequest)
    (input : RequestReplayCancellation) (requestedByPrincipalId : String)
    (now : UtcMillisecondTimestamp) : Except ReplayError RequestReplayCancellationResult := do
  let job ← parseJob job
  let input ← parseWith input.Accepted (.schema []) input
  match existing with
  | some existing => do
    let existing ← parseRequest existing
    failIf
      (existing.jobId ≠ job.jobId
        ∨ existing.scope ≠ job.scope
        ∨ existing.toRequestReplayCancellation ≠ input)
      (.state .cancellationConflict)
    return { created := false, job := job, request := existing }
  | none => do
    failIf (job.status ≠ .queued ∧ job.status ≠ .running) (.state .stateConflict)
    let request ← parseRequest
      { toRequestReplayCancellation := input
        jobId := job.jobId
        requestedAt := now
        requestedByPrincipalId := requestedByPrincipalId
        scope := job.scope }
    if job.status = .running then
      return { created := true, job := job, request := request }
    else
      let job ← terminalJob job none .cancelled .cancellationCommitted now
      return { created := true, job := job, request := request }

def acknowledgeReplayCancellation (job : ReplayJob) (request : ReplayCancellationRequest)
    (fence : ReplayWorkerMutationFence) (acknowledgementId : String)
    (action : ReplayCancellationAction) (now : UtcMillisecondTimestamp)
    : Except ReplayError ReplayCancellationAcknowledgement := do
  let job ← parseJob job
  let request ← parseRequest request
  let _ ← assertCurrentFence job fence now
  failIf
    (request.jobId ≠ job.jobId
      ∨ request.scope ≠ job.scope
      ∨ now.value < request.requestedAt.value)
    (.state .cancellationConflict)
  let acknowledgement : ReplayCancellationAcknowledgement :=
    { acknowledgedAt := now
      acknowledgementId := acknowledgementId
      action := action
      cancellationId := request.cancellationId
      mutationFence := fence
      scope := job.scope }
  parseWith acknowledgement.Accepted (.schema []) acknowledgement

end Replay
end ProofStack
