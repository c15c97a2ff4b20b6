import ProofStack.Contracts.Replay.JobSnapshot
import ProofStack.StateMachine.Interleaved

/-!
This module contains the loop that pulls replay jobs from a delivery source and executes them.
-/

namespace ProofStack
namespace Worker

open Replay StateMachine

inductive ReplayDispatchLoopErrorCode where
  | invalidClaimIdentity
  | invalidDelivery
  | invalidDispatchPolicy
  | settlementFailed
  | sourceUnavailable
  deriving DecidableEq

inductive Thrown where
  | loopError (code : ReplayDispatchLoopErrorCode)
  | otherError
  deriving DecidableEq

structure ReplayDispatchCandidate where
  jobId : String
  scope : EvidenceScope
  deriving DecidableEq

inductive CompleteOutcome where
  | attemptTerminal
  | jobTerminal
  deriving DecidableEq

inductive DiscardReason where
  | invalidCandidate
  | jobUnavailable
  deriving DecidableEq

inductive RetryReason where
  | attemptFailed
  | claimDeferred
  | claimFailed
  | workerShuttingDown
  deriving DecidableEq

inductive ReplayDispatchSettlement where
  | complete (outcome : CompleteOutcome)
  | discard (reason : DiscardReason)
  | retry (reason : RetryReason) (retryAfterMilliseconds : Nat)
  deriving DecidableEq

def maxConcurrentAttempts : Nat := 32
def maxDurationMilliseconds : Nat := 86400000
def maxSourceFailureAttempts : Nat := 100
def maxSettlementAttempts : Nat := 10

structure ReplayDispatchLoopOptions where
  claimRetryDelayMilliseconds : Nat
  leaseDurationMilliseconds : Nat
  maxConcurrentAttempts : Nat
  settlementAttempts : Nat
  settlementRetryDelayMilliseconds : Nat
  sourceFailureAttempts : Nat
  sourceRetryDelayMilliseconds : Nat
  workerBuildSha256 : String
  workerId : String
  workerProtocol : WorkerProtocolReference

namespace ReplayDispatchLoopOptions

@[mk_iff]
structure Accepted (options : ReplayDispatchLoopOptions) : Prop where
  maxConcurrentAttempts : boundedInteger 1 Worker.maxConcurrentAttempts options.maxConcurrentAttempts
  leaseDuration : boundedInteger 1 maxDurationMilliseconds options.leaseDurationMilliseconds
  claimRetryDelay : boundedInteger 1 maxDurationMilliseconds options.claimRetryDelayMilliseconds
  sourceFailureAttempts : boundedInteger 1 maxSourceFailureAttempts options.sourceFailureAttempts
  sourceRetryDelay : boundedInteger 1 maxDurationMilliseconds options.sourceRetryDelayMilliseconds
  settlementAttempts : boundedInteger 1 maxSettlementAttempts options.settlementAttempts
  settlementRetryDelay :
    boundedInteger 1 maxDurationMilliseconds options.settlementRetryDelayMilliseconds
  workerBuildSha256 : Sha256Schema options.workerBuildSha256
  workerId : OpaqueIdSchema options.workerId
  workerProtocol : options.workerProtocol.Accepted

instance (options : ReplayDispatchLoopOptions) : Decidable options.Accepted :=
  decidable_of_iff _ (accepted_iff options).symm

end ReplayDispatchLoopOptions

structure DispatchPolicy extends ReplayDispatchLoopOptions where
  accepted : toReplayDispatchLoopOptions.Accepted

def validatePolicy (options : ReplayDispatchLoopOptions) : Except Thrown DispatchPolicy :=
  if h : options.Accepted then .ok ⟨options, h⟩ else .error (.loopError .invalidDispatchPolicy)

structure ClaimIds where
  attemptId : String
  leaseId : String

/-- The value is missing when its creation throws. -/
def claimIds (created : Option ClaimIds) : Except Thrown ClaimIds :=
  match created with
  | some value =>
    if OpaqueIdSchema value.attemptId ∧ OpaqueIdSchema value.leaseId then
      .ok value
    else
      .error (.loopError .invalidClaimIdentity)
  | none => .error (.loopError .invalidClaimIdentity)

/-- What a candidate holds that is an object. A value that is of another type is missing. -/
structure CandidateObject where
  keys : List String
  jobId : Option String
  scope : Option EvidenceScope

def parseCandidate (input : Option CandidateObject) : Option ReplayDispatchCandidate := do
  let value ← input
  guard (value.keys.length = 2 ∧ "jobId" ∈ value.keys ∧ "scope" ∈ value.keys)
  let scope ← value.scope
  let jobId ← value.jobId
  guard (EvidenceScopeSchema scope ∧ OpaqueIdSchema jobId)
  return { jobId, scope }

inductive ReceiveOutcome where
  | delivery (candidate : Option CandidateObject) (created : Option ClaimIds)
  | closed
  | malformed
  | failed (error : Thrown)

inductive ClaimOutcome where
  | notFound
  | failed
  | retryNotReady
  | terminalized
  | claimed (snapshot : ReplayJobSnapshot) (workerFence : ReplayWorkerMutationFence)

inductive ExecuteOutcome where
  | finished (snapshot : ReplayJobSnapshot)
  | failed (error : Thrown)

def validTerminalSnapshot (snapshot : ReplayJobSnapshot) (candidate : ReplayDispatchCandidate)
    : Prop :=
  snapshot.job.Accepted
    ∧ snapshot.job.jobId = candidate.jobId
    ∧ snapshot.job.scope = candidate.scope
    ∧ snapshot.job.terminal ≠ none

instance (snapshot : ReplayJobSnapshot) (candidate : ReplayDispatchCandidate)
    : Decidable (validTerminalSnapshot snapshot candidate) :=
  inferInstanceAs (Decidable (_ ∧ _ ∧ _ ∧ _))

structure DispatchLoopResult where
  claimed : Nat
  completed : Nat
  deferred : Nat
  discarded : Nat
  failed : Nat
  received : Nat
  deriving DecidableEq

structure LoopState where
  sourceClosed : Bool
  aborted : Bool
  result : DispatchLoopResult
  deriving DecidableEq

structure SettlementAttempt where
  settlement : ReplayDispatchSettlement
  succeeded : Bool
  deriving DecidableEq

inductive WorkerState where
  | starting
  | receiving (consecutiveSourceFailures : Nat)
  | waiting (consecutiveSourceFailures : Nat)
  | claiming (candidate : ReplayDispatchCandidate) (ids : ClaimIds)
  | executing (candidate : ReplayDispatchCandidate)
  | settling (settlement : ReplayDispatchSettlement) (attempts : List SettlementAttempt)
      (continues : Bool)
  | pausing (settlement : ReplayDispatchSettlement) (attempts : List SettlementAttempt)
      (continues : Bool)
  | returned
  | threw (error : Thrown)

structure WorkerProcess where
  log : List (List SettlementAttempt)
  state : WorkerState

inductive Answer where
  | begun
  | received (outcome : ReceiveOutcome)
  | waited
  | claimed (outcome : ClaimOutcome)
  | executed (outcome : ExecuteOutcome)
  | settled (succeeded : Bool)
  | paused
  | workersReturned
  | workerThrew (error : Thrown)
  | workersSettled
  | aborted

namespace WorkerProcess

variable (policy : DispatchPolicy) (s : LoopState) (worker : WorkerProcess)

def loopHead (consecutiveSourceFailures : Nat) : LoopState × WorkerProcess :=
  if s.sourceClosed || s.aborted then
    (s, { worker with state := .returned })
  else
    (s, { worker with state := .receiving consecutiveSourceFailures })

def settle (settlement : ReplayDispatchSettlement) (continues : Bool) : WorkerProcess :=
  { worker with state := .settling settlement [] continues }

def abandon (attempts : List SettlementAttempt) (error : Thrown) : WorkerProcess :=
  { log := worker.log ++ [attempts], state := .threw error }

def processDelivery (input : Option CandidateObject) (created : Option ClaimIds)
    : LoopState × WorkerProcess :=
  let result := { s.result with received := s.result.received + 1 }
  match parseCandidate input with
  | none =>
    ({ s with result := { result with discarded := result.discarded + 1 } },
      worker.settle (.discard .invalidCandidate) true)
  | some candidate =>
    match claimIds created with
    | .error error => ({ s with result }, worker.abandon [] error)
    | .ok ids => ({ s with result }, { worker with state := .claiming candidate ids })

def afterReceive (consecutiveSourceFailures : Nat) : ReceiveOutcome → LoopState × WorkerProcess
  | .delivery candidate created =>
    if s.aborted then
      ({ s with result := { s.result with
          received := s.result.received + 1
          deferred := s.result.deferred + 1 } },
        worker.settle (.retry .workerShuttingDown policy.claimRetryDelayMilliseconds) false)
    else
      worker.processDelivery s candidate created
  | .closed => ({ s with sourceClosed := true }, { worker with state := .returned })
  | .malformed => (s, { worker with state := .threw (.loopError .invalidDelivery) })
  | .failed error =>
    if error = .loopError .invalidDelivery then
      (s, { worker with state := .threw error })
    else if s.aborted then
      (s, { worker with state := .returned })
    else if consecutiveSourceFailures + 1 ≥ policy.sourceFailureAttempts then
      (s, { worker with state := .threw (.loopError .sourceUnavailable) })
    else
      (s, { worker with state := .waiting (consecutiveSourceFailures + 1) })

def afterClaim (candidate : ReplayDispatchCandidate) : ClaimOutcome → LoopState × WorkerProcess
  | .notFound =>
    ({ s with result := { s.result with discarded := s.result.discarded + 1 } },
      worker.settle (.discard .jobUnavailable) true)
  | .failed =>
    ({ s with result := { s.result with failed := s.result.failed + 1 } },
      worker.settle (.retry .claimFailed policy.claimRetryDelayMilliseconds) true)
  | .terminalized =>
    ({ s with result := { s.result with completed := s.result.completed + 1 } },
      worker.settle (.complete .jobTerminal) true)
  | .retryNotReady =>
    ({ s with result := { s.result with deferred := s.result.deferred + 1 } },
      worker.settle (.retry .claimDeferred policy.claimRetryDelayMilliseconds) true)
  | .claimed _ _ =>
    ({ s with result := { s.result with claimed := s.result.claimed + 1 } },
      { worker with state := .executing candidate })

def attemptFailed : LoopState × WorkerProcess :=
  ({ s with result := { s.result with failed := s.result.failed + 1 } },
    worker.settle (.retry .attemptFailed policy.leaseDurationMilliseconds) true)

def afterExecute (candidate : ReplayDispatchCandidate) : ExecuteOutcome → LoopState × WorkerProcess
  | .finished snapshot =>
    if validTerminalSnapshot snapshot candidate then
      ({ s with result := { s.result with completed := s.result.completed + 1 } },
        worker.settle (.complete .attemptTerminal) true)
    else
      worker.attemptFailed policy s
  | .failed error =>
    -- Such an error is taken for the failure of the settlement after the execution.
    if error = .loopError .settlementFailed then
      (s, worker.abandon [] error)
    else
      worker.attemptFailed policy s

def afterSettle (settlement : ReplayDispatchSettlement) (attempts : List SettlementAttempt)
    (continues : Bool) (succeeded : Bool) : LoopState × WorkerProcess :=
  let attempts := attempts ++ [⟨settlement, succeeded⟩]
  if succeeded then
    let worker := { worker with log := worker.log ++ [attempts] }
    if continues then worker.loopHead s 0 else (s, { worker with state := .returned })
  else if attempts.length < policy.settlementAttempts then
    (s, { worker with state := .pausing settlement attempts continues })
  else
    (s, worker.abandon attempts (.loopError .settlementFailed))

def advance (answer : Answer) : LoopState × WorkerProcess :=
  match worker.state, answer with
  | .starting, .begun => worker.loopHead s 0
  | .receiving failures, .received outcome => worker.afterReceive policy s failures outcome
  | .waiting failures, .waited => worker.loopHead s failures
  | .claiming candidate _, .claimed outcome => worker.afterClaim policy s candidate outcome
  | .executing candidate, .executed outcome => worker.afterExecute policy s candidate outcome
  | .settling settlement attempts continues, .settled succeeded =>
    worker.afterSettle policy s settlement attempts continues succeeded
  | .pausing settlement attempts continues, .paused =>
    (s, { worker with state := .settling settlement attempts continues })
  | _, _ => (s, worker)

end WorkerProcess

inductive MainState where
  | awaiting
  | stopping (error : Thrown)
  | returned (result : DispatchLoopResult)
  | threw (error : Thrown)

inductive Process where
  | worker (worker : WorkerProcess)
  | main (state : MainState)
  | caller

@[simp]
def advance (policy : DispatchPolicy) (s : LoopState) (process : Process) (answer : Answer)
    : LoopState × Process :=
  match process, answer with
  | .worker worker, _ => ((worker.advance policy s answer).1, .worker (worker.advance policy s answer).2)
  | .main .awaiting, .workersReturned => (s, .main (.returned s.result))
  | .main .awaiting, .workerThrew error => ({ s with aborted := true }, .main (.stopping error))
  | .main (.stopping error), .workersSettled => (s, .main (.threw error))
  | .caller, .aborted => ({ s with aborted := true }, .caller)
  | _, _ => (s, process)

def WorkerState.isSettled : WorkerState → Bool
  | .returned | .threw _ => true
  | _ => false

/-- The promises that the loop awaits settle when its workers do. -/
def Permitted (processes : List Process) : Process → Answer → Prop
  | .main .awaiting, .workersReturned =>
    ∀ worker, .worker worker ∈ processes → worker.state = .returned
  | .main .awaiting, .workerThrew error =>
    ∃ worker, .worker worker ∈ processes ∧ worker.state = .threw error
  | .main (.stopping _), .workersSettled =>
    ∀ worker, .worker worker ∈ processes → worker.state.isSettled
  | _, _ => True

def start (policy : DispatchPolicy) (aborted : Bool) : Interleaved LoopState Process :=
  { shared := { sourceClosed := false, aborted, result := ⟨0, 0, 0, 0, 0, 0⟩ }
    processes := .main .awaiting :: .caller
      :: List.replicate policy.maxConcurrentAttempts (.worker { log := [], state := .starting }) }

end Worker
end ProofStack
