import Mathlib.Data.Fintype.Pi
import Mathlib.Tactic.MkIffOfInductiveProp
import ProofStack.Contracts.Text

/-!
This module contains the parts of an immutable replay plan that the replay job state is decided with.
-/

namespace ProofStack
namespace Replay

def isTokenStart (c : Char) : Bool :=
  isLowerAscii c || isDigitAscii c || ('A' ≤ c && c ≤ 'Z')

def tokenSchema (others : List Char) (maximumLength : Nat) (token : String) : Bool :=
  match token.toList with
  | [] => false
  | c :: cs =>
    isTokenStart c
      && cs.all (fun c => isTokenStart c || others.contains c)
      && cs.length < maximumLength

def ProtocolTokenSchema (token : String) : Bool :=
  tokenSchema ['.', '_', '+', ':', '/', '@', '-'] 256 token

def ProtocolVersionSchema (version : String) : Bool :=
  tokenSchema ['.', '_', '+', '-'] 64 version

structure ReplayReleaseTargetAdapterReference where
  name : String
  protocolVersion : String
  version : String
  deriving DecidableEq

def ReplayReleaseTargetAdapterReference.Accepted (value : ReplayReleaseTargetAdapterReference)
    : Prop :=
  ProtocolTokenSchema value.name
    ∧ ProtocolVersionSchema value.protocolVersion
    ∧ ProtocolVersionSchema value.version

instance (value : ReplayReleaseTargetAdapterReference) : Decidable value.Accepted :=
  inferInstanceAs (Decidable (_ ∧ _ ∧ _))

structure WorkerProtocolReference where
  name : String
  version : String
  deriving DecidableEq

def WorkerProtocolReference.Accepted (value : WorkerProtocolReference) : Prop :=
  ProtocolTokenSchema value.name ∧ ProtocolVersionSchema value.version

instance (value : WorkerProtocolReference) : Decidable value.Accepted :=
  inferInstanceAs (Decidable (_ ∧ _))

structure TargetReleaseReference where
  definitionSha256 : String
  targetAdapter : ReplayReleaseTargetAdapterReference
  targetId : String
  targetReleaseId : String
  workerProtocol : WorkerProtocolReference
  deriving DecidableEq

namespace TargetReleaseReference

@[mk_iff]
structure Accepted (value : TargetReleaseReference) : Prop where
  definitionSha256 : Sha256Schema value.definitionSha256
  targetAdapter : value.targetAdapter.Accepted
  targetId : OpaqueIdSchema value.targetId
  targetReleaseId : OpaqueIdSchema value.targetReleaseId
  workerProtocol : value.workerProtocol.Accepted

instance (value : TargetReleaseReference) : Decidable value.Accepted :=
  decidable_of_iff _ (accepted_iff value).symm

end TargetReleaseReference

structure TargetRelease where
  definitionSha256 : String
  targetAdapter : ReplayReleaseTargetAdapterReference
  targetId : String
  workerProtocol : WorkerProtocolReference
  deriving DecidableEq

structure ReplayRuntimeProfileReference where
  definitionSha256 : String
  family : String
  id : String
  version : String
  deriving DecidableEq

def ReplayRuntimeProfileReference.Accepted (value : ReplayRuntimeProfileReference) : Prop :=
  Sha256Schema value.definitionSha256
    ∧ ProtocolTokenSchema value.family
    ∧ OpaqueIdSchema value.id
    ∧ ProtocolVersionSchema value.version

instance (value : ReplayRuntimeProfileReference) : Decidable value.Accepted :=
  inferInstanceAs (Decidable (_ ∧ _ ∧ _ ∧ _))

inductive ReplayIsolationKind where
  | container
  | localChildProcess
  deriving DecidableEq

structure ReplayIsolationProfileReference where
  definitionSha256 : String
  id : String
  kind : ReplayIsolationKind
  version : String
  deriving DecidableEq

def ReplayIsolationProfileReference.Accepted (value : ReplayIsolationProfileReference) : Prop :=
  Sha256Schema value.definitionSha256
    ∧ OpaqueIdSchema value.id
    ∧ ProtocolVersionSchema value.version

instance (value : ReplayIsolationProfileReference) : Decidable value.Accepted :=
  inferInstanceAs (Decidable (_ ∧ _ ∧ _))

inductive ReplayBoundaryKind where
  | data
  | model
  | retrieval
  | tool
  deriving DecidableEq

inductive ReplayBoundaryMode where
  | liveProvider
  | recordedStub
  | simulation
  deriving DecidableEq

inductive LiveSideEffect where
  | readOnly
  | idempotentWrite
  | nonIdempotentWrite
  deriving DecidableEq

-- Only a live provider declares a side effect.
inductive ReplayBoundaryExecution where
  | liveProvider (sideEffect : LiveSideEffect)
  | recordedStub
  | simulation
  deriving DecidableEq

def ReplayBoundaryExecution.mode : ReplayBoundaryExecution → ReplayBoundaryMode
  | .liveProvider _ => .liveProvider
  | .recordedStub => .recordedStub
  | .simulation => .simulation

structure ReplayBoundaryDeclaration where
  boundaryId : String
  kind : ReplayBoundaryKind
  execution : ReplayBoundaryExecution
  deriving DecidableEq

inductive ReplayBudgetDimension where
  | concurrentInteractions
  | elapsedMilliseconds
  | emittedArtifactBytes
  | inputTokens
  | jobAttempts
  | modelRequests
  | outputTokens
  | providerCostMicrounits
  | retrievedBytes
  | toolCalls
  deriving DecidableEq

def replayBudgetDimensions : List ReplayBudgetDimension :=
  [.concurrentInteractions, .elapsedMilliseconds, .emittedArtifactBytes, .inputTokens, .jobAttempts,
    .modelRequests, .outputTokens, .providerCostMicrounits, .retrievedBytes, .toolCalls]

theorem mem_replayBudgetDimensions (dimension : ReplayBudgetDimension)
    : dimension ∈ replayBudgetDimensions := by
  cases dimension <;> decide

instance : Fintype ReplayBudgetDimension where
  elems := ⟨replayBudgetDimensions, by decide⟩
  complete := mem_replayBudgetDimensions

def ReplayBudgetDimension.text : ReplayBudgetDimension → String
  | .concurrentInteractions => "concurrentInteractions"
  | .elapsedMilliseconds => "elapsedMilliseconds"
  | .emittedArtifactBytes => "emittedArtifactBytes"
  | .inputTokens => "inputTokens"
  | .jobAttempts => "jobAttempts"
  | .modelRequests => "modelRequests"
  | .outputTokens => "outputTokens"
  | .providerCostMicrounits => "providerCostMicrounits"
  | .retrievedBytes => "retrievedBytes"
  | .toolCalls => "toolCalls"

inductive ReplayBudgetMeasurement where
  | estimated
  | measured
  | providerReported
  | unavailable
  deriving DecidableEq

structure BudgetLimit where
  limit : Nat
  measurement : ReplayBudgetMeasurement
  deriving DecidableEq

def ReplayBudget : Type := ReplayBudgetDimension → BudgetLimit

def ReplayBudget.Accepted (budget : ReplayBudget) : Prop :=
  ∀ dimension, boundedInteger 1 maxSafeInteger (budget dimension).limit

instance (budget : ReplayBudget) : Decidable budget.Accepted :=
  inferInstanceAs (Decidable (∀ _, _))

inductive ReplayRetryableError where
  | boundaryRateLimited
  | boundaryTemporarilyUnavailable
  | targetProcessInterrupted
  | targetTemporaryFailure
  deriving DecidableEq

def ReplayRetryableError.text : ReplayRetryableError → String
  | .boundaryRateLimited => "boundary_rate_limited"
  | .boundaryTemporarilyUnavailable => "boundary_temporarily_unavailable"
  | .targetProcessInterrupted => "target_process_interrupted"
  | .targetTemporaryFailure => "target_temporary_failure"

inductive ReplayBackoff where
  | none
  | fixed (delayMilliseconds : Nat)
  | exponential (initialDelayMilliseconds maximumDelayMilliseconds multiplier : Nat)
  deriving DecidableEq

namespace ReplayBackoff

def Shape : ReplayBackoff → Prop
  | .none => True
  | .fixed delayMilliseconds => boundedInteger 1 3600000 delayMilliseconds
  | .exponential initialDelayMilliseconds maximumDelayMilliseconds multiplier =>
    boundedInteger 1 3600000 initialDelayMilliseconds
      ∧ boundedInteger 1 3600000 maximumDelayMilliseconds
      ∧ boundedInteger 2 16 multiplier

instance (value : ReplayBackoff) : Decidable value.Shape :=
  match value with
  | .none => inferInstanceAs (Decidable True)
  | .fixed _ => inferInstanceAs (Decidable (boundedInteger _ _ _))
  | .exponential _ _ _ => inferInstanceAs (Decidable (_ ∧ _ ∧ _))

def issues : ReplayBackoff → List String
  | .exponential initialDelayMilliseconds maximumDelayMilliseconds _ =>
    issue (maximumDelayMilliseconds < initialDelayMilliseconds)
      "Maximum backoff delay must not be below its initial delay"
  | _ => []

end ReplayBackoff

inductive IdempotencyRequirement where
  | destinationSupported
  | noExternalEffect
  | readOnly
  deriving DecidableEq

structure ReplayRetryPolicy where
  automatic : Bool
  backoff : ReplayBackoff
  idempotencyRequirement : IdempotencyRequirement
  maxAttempts : Nat
  perAttemptTimeoutMilliseconds : Nat
  retryableErrors : List ReplayRetryableError
  totalDeadlineMilliseconds : Nat
  deriving DecidableEq

namespace ReplayRetryPolicy

def maxReplayAttempts : Nat := 32

@[mk_iff]
structure Shape (value : ReplayRetryPolicy) : Prop where
  backoff : value.backoff.Shape
  maxAttempts : boundedInteger 1 maxReplayAttempts value.maxAttempts
  perAttemptTimeoutMilliseconds :
    boundedInteger 1 maxSafeInteger value.perAttemptTimeoutMilliseconds
  retryableErrors_length : value.retryableErrors.length ≤ 4
  retryableErrors_sorted : value.retryableErrors.IsChain (fun left right => left.text < right.text)
  totalDeadlineMilliseconds : boundedInteger 1 maxSafeInteger value.totalDeadlineMilliseconds

instance (value : ReplayRetryPolicy) : Decidable value.Shape :=
  decidable_of_iff _ (shape_iff value).symm

def issues (value : ReplayRetryPolicy) : List String :=
  value.backoff.issues
    ++ issue (value.perAttemptTimeoutMilliseconds > value.totalDeadlineMilliseconds)
      "Per-attempt timeout must not exceed the total deadline"
    ++ issue (value.maxAttempts = 1 ∧ value.automatic)
      "Single-attempt policies cannot enable automatic retry"
    ++ issue (¬value.automatic ∧ value.retryableErrors ≠ [])
      "Disabled automatic retry cannot declare retryable errors"
    ++ issue (¬value.automatic ∧ value.backoff ≠ .none)
      "Disabled automatic retry requires no backoff"

def Accepted (value : ReplayRetryPolicy) : Prop :=
  value.Shape ∧ value.issues = []

instance (value : ReplayRetryPolicy) : Decidable value.Accepted :=
  inferInstanceAs (Decidable (_ ∧ _))

end ReplayRetryPolicy

structure ReplayPlan where
  boundaries : List ReplayBoundaryDeclaration
  budget : ReplayBudget
  definitionSha256 : String
  isolationProfile : ReplayIsolationProfileReference
  planId : String
  planVersionId : String
  retryPolicy : ReplayRetryPolicy
  runtimeProfile : ReplayRuntimeProfileReference
  scope : EvidenceScope
  targetRelease : TargetReleaseReference
  workerProtocol : WorkerProtocolReference

end Replay
end ProofStack
