import ProofStack.Contracts.Replay.Accounting
import ProofStack.Contracts.Replay.Boundary
import ProofStack.Contracts.Replay.PlanDefinition

/-!
This module contains the requests to a boundary that is executed in any of the modes, and the results of
their execution.
-/

namespace ProofStack
namespace Replay
namespace Execution

open Boundary Definition

structure NormalizedRequest where
  adapter : ReplayTargetAdapterReference
  bytes : String
  encoding : String
  deriving DecidableEq

structure ReplayBoundaryExecutionRequest where
  boundaryRequestId : String
  kind : ReplayBoundaryKind
  normalizedRequest : NormalizedRequest
  schemaVersion : String
  deriving DecidableEq

@[mk_iff]
structure ReplayBoundaryExecutionRequest.Accepted (value : ReplayBoundaryExecutionRequest) : Prop where
  boundaryRequestId : OpaqueIdSchema value.boundaryRequestId
  adapter : value.normalizedRequest.adapter.Accepted
  bytes : ReplayBase64UrlBytesSchema value.normalizedRequest.bytes
  encoding : value.normalizedRequest.encoding = "base64url"
  schemaVersion : value.schemaVersion = "0.1"

instance (value : ReplayBoundaryExecutionRequest) : Decidable value.Accepted :=
  decidable_of_iff _ (ReplayBoundaryExecutionRequest.accepted_iff value).symm

structure ReplayBoundaryActualRequestMetadata where
  adapter : ReplayTargetAdapterReference
  boundaryRequestId : String
  kind : ReplayBoundaryKind
  normalizedRequestSha256 : String
  sizeBytes : Nat
  deriving DecidableEq

@[mk_iff]
structure ReplayBoundaryActualRequestMetadata.Accepted (value : ReplayBoundaryActualRequestMetadata)
    : Prop where
  adapter : value.adapter.Accepted
  boundaryRequestId : OpaqueIdSchema value.boundaryRequestId
  normalizedRequestSha256 : Sha256Schema value.normalizedRequestSha256
  sizeBytes : boundedInteger 1 maxArtifactContentBytes value.sizeBytes

instance (value : ReplayBoundaryActualRequestMetadata) : Decidable value.Accepted :=
  decidable_of_iff _ (ReplayBoundaryActualRequestMetadata.accepted_iff value).symm

structure ReplayBoundaryNormalizedResponse where
  adapter : ReplayTargetAdapterReference
  bytes : String
  encoding : String
  normalizedResponseSha256 : String
  sizeBytes : Nat
  deriving DecidableEq

@[mk_iff]
structure ReplayBoundaryNormalizedResponse.Accepted (value : ReplayBoundaryNormalizedResponse) : Prop where
  adapter : value.adapter.Accepted
  bytes : ReplayBase64UrlBytesSchema value.bytes
  encoding : value.encoding = "base64url"
  normalizedResponseSha256 : Sha256Schema value.normalizedResponseSha256
  sizeBytes : boundedInteger 1 maxArtifactContentBytes value.sizeBytes

instance (value : ReplayBoundaryNormalizedResponse) : Decidable value.Accepted :=
  decidable_of_iff _ (ReplayBoundaryNormalizedResponse.accepted_iff value).symm

structure BoundaryUsage where
  dimension : ReplayBudgetDimension
  usage : ReplayUsageMeasurement
  deriving DecidableEq

def ReplayBoundaryExecutionUsageSchema (usage : List BoundaryUsage) : Prop :=
  (∀ measurement ∈ usage, measurement.usage.Accepted)
    ∧ boundedInteger 1 replayBudgetDimensions.length usage.length
    ∧ (usage.map (·.dimension.text)).IsChain (· < ·)

instance (usage : List BoundaryUsage) : Decidable (ReplayBoundaryExecutionUsageSchema usage) :=
  inferInstanceAs (Decidable (_ ∧ _ ∧ _))

inductive ReplayBoundaryExecutionOutput where
  | recordedArtifacts (response : RecordedBoundaryResponse)
  | normalizedResponse (response : ReplayBoundaryNormalizedResponse)
  deriving DecidableEq

namespace ReplayBoundaryExecutionOutput

def isRecorded : ReplayBoundaryExecutionOutput → Bool
  | .recordedArtifacts _ => true
  | .normalizedResponse _ => false

def Accepted : ReplayBoundaryExecutionOutput → Prop
  | .recordedArtifacts response => response.Accepted
  | .normalizedResponse response => response.Accepted

instance (value : ReplayBoundaryExecutionOutput) : Decidable value.Accepted :=
  match value with
  | .recordedArtifacts response => inferInstanceAs (Decidable response.Accepted)
  | .normalizedResponse response => inferInstanceAs (Decidable response.Accepted)

end ReplayBoundaryExecutionOutput

inductive ExecutionOrigin where
  | live
  | recorded
  | simulated
  deriving DecidableEq

def executionOriginByMode : ReplayBoundaryMode → ExecutionOrigin
  | .liveProvider => .live
  | .recordedStub => .recorded
  | .simulation => .simulated

structure ReplayBoundaryExecutionResult where
  actualRequest : ReplayBoundaryActualRequestMetadata
  boundaryId : String
  declaration : Definition.ReplayBoundaryDeclaration
  effectCertainty : ReplayEffectCertainty
  effectRetrySafety : Option ReplayEffectRetrySafety
  executionOrigin : ExecutionOrigin
  mode : ReplayBoundaryMode
  output : ReplayBoundaryExecutionOutput
  schemaVersion : String
  usage : List BoundaryUsage
  deriving DecidableEq

namespace ReplayBoundaryExecutionResult

def isIdempotencyVerified : Option ReplayEffectRetrySafety → Bool
  | some (.destinationIdempotencyVerified _ _) => true
  | _ => false

def sideEffectIssues (value : ReplayBoundaryExecutionResult) : Definition.LiveSideEffect → List String
  | .readOnly =>
    issue (value.effectCertainty ≠ .none) "A read-only live boundary cannot report a write effect"
  | .idempotentWrite _ _ =>
    issue (value.effectCertainty ≠ .confirmed ∨ ¬isIdempotencyVerified value.effectRetrySafety)
      "A successful idempotent write requires confirmed destination idempotency"
  | .nonIdempotentWrite _ _ =>
    issue (value.effectCertainty ≠ .confirmed ∨ value.effectRetrySafety ≠ some .notRetryable)
      "A successful non-idempotent write must remain explicitly non-retryable"

def usageMatches (source : ReplayBudgetMeasurement) : ReplayUsageMeasurement → Bool
  | .unavailable _ => source == .unavailable
  | .observed _ .estimated => source == .estimated
  | .observed _ .measured => source == .measured
  | .observed _ .providerReported => source == .providerReported

def liveIssues (value : ReplayBoundaryExecutionResult) : List String :=
  match value.declaration.execution with
  | .liveProvider provider =>
    value.sideEffectIssues provider.sideEffect
      ++ value.usage.flatMap (fun measurement =>
        issue (¬usageMatches provider.usageSource measurement.usage)
          "Live usage evidence must preserve the declared measurement source")
  | _ => []

def issues (value : ReplayBoundaryExecutionResult) : List String :=
  issue (value.boundaryId ≠ value.declaration.boundaryId
      ∨ value.actualRequest.kind ≠ value.declaration.kind)
      "Boundary result identity must match the immutable declaration"
    ++ issue (value.mode ≠ value.declaration.execution.mode
        ∨ value.executionOrigin ≠ executionOriginByMode value.declaration.execution.mode)
      "Boundary result mode and origin must preserve the immutable declaration"
    ++ issue (value.output.isRecorded ≠ (value.declaration.execution.mode == .recordedStub))
      "Only a recorded boundary can return recorded artifact lineage"
    ++ issue (value.effectCertainty = .none ↔ value.effectRetrySafety.isSome)
      "External effect certainty requires one explicit retry-safety decision"
    ++ issue (value.declaration.execution.mode ≠ .liveProvider ∧ value.effectCertainty ≠ .none)
      "Recorded and simulated boundaries cannot report a live external effect"
    ++ value.liveIssues

@[mk_iff]
structure Accepted (value : ReplayBoundaryExecutionResult) : Prop where
  actualRequest : value.actualRequest.Accepted
  boundaryId : OpaqueIdSchema value.boundaryId
  declaration : value.declaration.Accepted
  effectRetrySafety : ∀ safety ∈ value.effectRetrySafety, safety.Accepted
  output : value.output.Accepted
  schemaVersion : value.schemaVersion = "0.1"
  usage : ReplayBoundaryExecutionUsageSchema value.usage
  issues : value.issues = []

instance (value : ReplayBoundaryExecutionResult) : Decidable value.Accepted :=
  decidable_of_iff _ (accepted_iff value).symm

end ReplayBoundaryExecutionResult

end Execution
end Replay
end ProofStack
