import ProofStack.Replay.JobState

/-!
This module contains the decision whether an expired attempt of a replay job is retried.
-/

namespace ProofStack
namespace Replay

open Checks

inductive ReplayRetryBlockedReason where
  | attemptLimitReached
  | automaticRetryDisabled
  | deadlineInsufficient
  | effectNotRetrySafe
  | errorNotDeclared
  deriving DecidableEq

inductive ReplayRetryDecision where
  | blocked (reason : ReplayRetryBlockedReason)
  | eligible (delayMilliseconds : Nat) (notBefore : UtcMillisecondTimestamp)
  deriving DecidableEq

structure DecideReplayRetryOptions where
  attemptSequence : Nat
  error : ReplayAttemptError
  evaluatedAt : UtcMillisecondTimestamp
  failedAt : UtcMillisecondTimestamp
  jobStartedAt : UtcMillisecondTimestamp
  policy : ReplayRetryPolicy

def exponentialDelay (maximum multiplier : Nat) : (attemptSequence : Nat) → (delay : Nat) → Nat
  | 0, delay => delay
  | attemptSequence + 1, delay =>
    exponentialDelay maximum multiplier attemptSequence (min (delay * multiplier) maximum)

def retryDelay (policy : ReplayRetryPolicy) (attemptSequence : Nat) : Nat :=
  match policy.backoff with
  | .none => 0
  | .fixed delayMilliseconds => delayMilliseconds
  | .exponential initialDelayMilliseconds maximumDelayMilliseconds multiplier =>
    exponentialDelay maximumDelayMilliseconds multiplier attemptSequence initialDelayMilliseconds

def ReplayRetryableError.code : ReplayRetryableError → ReplayAttemptErrorCode
  | .boundaryRateLimited => .boundaryRateLimited
  | .boundaryTemporarilyUnavailable => .boundaryTemporarilyUnavailable
  | .targetProcessInterrupted => .targetProcessInterrupted
  | .targetTemporaryFailure => .targetTemporaryFailure

-- An expired lease is retried like an interrupted target process.
def errorDeclared (policy : ReplayRetryPolicy) (error : ReplayAttemptError) : Prop :=
  (if error.code = .leaseExpired then .targetProcessInterrupted else error.code)
    ∈ policy.retryableErrors.map (·.code)

instance (policy : ReplayRetryPolicy) (error : ReplayAttemptError)
    : Decidable (errorDeclared policy error) :=
  inferInstanceAs (Decidable (_ ∈ _))

def isSafeInteger (value : Int) : Prop :=
  -maxSafeInteger ≤ value ∧ value ≤ maxSafeInteger

instance (value : Int) : Decidable (isSafeInteger value) :=
  inferInstanceAs (Decidable (_ ∧ _))

def decideReplayRetry (options : DecideReplayRetryOptions) : Except ReplayError ReplayRetryDecision :=
  do
  let policy ← parseWith options.policy.Accepted (.schema options.policy.issues) options.policy
  let error ← parseWith options.error.Accepted (.schema options.error.issues) options.error
  let failedAt := options.failedAt.value
  let startedAt := options.jobStartedAt.value
  let evaluatedAt := options.evaluatedAt.value
  let delayMilliseconds := retryDelay policy options.attemptSequence
  let notBeforeValue := failedAt + delayMilliseconds
  let deadlineValue := startedAt + policy.totalDeadlineMilliseconds
  let nextAttemptStartsAt := max notBeforeValue evaluatedAt
  let nextAttemptCompletesAt := nextAttemptStartsAt + policy.perAttemptTimeoutMilliseconds
  if options.attemptSequence > maxSafeInteger then
    return .blocked .attemptLimitReached
  else if ¬policy.automatic then
    return .blocked .automaticRetryDisabled
  else if options.attemptSequence + 1 ≥ policy.maxAttempts then
    return .blocked .attemptLimitReached
  else if ¬errorDeclared policy error then
    return .blocked .errorNotDeclared
  else if ¬error.RetrySafe then
    return .blocked .effectNotRetrySafe
  else if
    failedAt < startedAt
      ∨ evaluatedAt < failedAt
      ∨ ¬isSafeInteger notBeforeValue
      ∨ ¬isSafeInteger deadlineValue
      ∨ ¬isSafeInteger nextAttemptStartsAt
      ∨ ¬isSafeInteger nextAttemptCompletesAt
      ∨ nextAttemptCompletesAt > deadlineValue
  then
    return .blocked .deadlineInsufficient
  else
    let notBefore ← parseTimestamp (UtcMillisecondTimestamp.ofMilliseconds notBeforeValue)
    return .eligible delayMilliseconds notBefore

end Replay
end ProofStack
