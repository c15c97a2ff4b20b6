import ProofStack.Contracts.Replay.Definition

/-!
This module contains the definition of a replay plan.
-/

namespace ProofStack
namespace Replay
namespace Definition

inductive LiveSideEffect where
  | readOnly
  | idempotentWrite (idempotencyKeyScheme : String) (sandboxDestination : Bool)
  | nonIdempotentWrite (automaticRetry : Bool) (riskAcceptance : ArtifactContentReference)
  deriving DecidableEq

def LiveSideEffect.Accepted : LiveSideEffect → Prop
  | .readOnly => True
  | .idempotentWrite idempotencyKeyScheme sandboxDestination =>
    ProtocolTokenSchema idempotencyKeyScheme ∧ sandboxDestination = true
  | .nonIdempotentWrite automaticRetry riskAcceptance =>
    automaticRetry = false ∧ riskAcceptance.Accepted

instance (value : LiveSideEffect) : Decidable value.Accepted :=
  match value with
  | .readOnly => inferInstanceAs (Decidable True)
  | .idempotentWrite _ _ => inferInstanceAs (Decidable (_ ∧ _))
  | .nonIdempotentWrite _ _ => inferInstanceAs (Decidable (_ ∧ _))

structure LiveProvider where
  credentialId : String
  credentialVersionId : String
  destinationHostname : String
  destinationPort : Nat
  destinationScheme : String
  endpointProfileDefinitionSha256 : String
  endpointProfileId : String
  endpointProfileVersion : String
  operation : String
  requestBytes : Nat
  responseBytes : Nat
  sideEffect : LiveSideEffect
  usageSource : ReplayBudgetMeasurement
  deriving DecidableEq

@[mk_iff]
structure LiveProvider.Accepted (value : LiveProvider) : Prop where
  credentialId : OpaqueIdSchema value.credentialId
  credentialVersionId : OpaqueIdSchema value.credentialVersionId
  destinationHostname : DnsHostnameSchema value.destinationHostname
  destinationPort : value.destinationPort = 443
  destinationScheme : value.destinationScheme = "https"
  endpointProfileDefinitionSha256 : Sha256Schema value.endpointProfileDefinitionSha256
  endpointProfileId : OpaqueIdSchema value.endpointProfileId
  endpointProfileVersion : ProtocolVersionSchema value.endpointProfileVersion
  operation : ProtocolTokenSchema value.operation
  requestBytes : boundedInteger 1 maxSafeInteger value.requestBytes
  responseBytes : boundedInteger 1 maxSafeInteger value.responseBytes
  sideEffect : value.sideEffect.Accepted

instance (value : LiveProvider) : Decidable value.Accepted :=
  decidable_of_iff _ (LiveProvider.accepted_iff value).symm

structure RecordedStub where
  invocation : RecordedBoundaryReplayInvocationDefinition
  invocationDefinitionSha256 : String
  deriving DecidableEq

def RecordedStub.Accepted (value : RecordedStub) : Prop :=
  value.invocation.Accepted ∧ Sha256Schema value.invocationDefinitionSha256

instance (value : RecordedStub) : Decidable value.Accepted :=
  inferInstanceAs (Decidable (_ ∧ _))

structure Simulation where
  configurationSha256 : String
  qualification : ArtifactContentReference
  seedHex : String
  simulatorRelease : TargetReleaseReference
  deriving DecidableEq

@[mk_iff]
structure Simulation.Accepted (value : Simulation) : Prop where
  configurationSha256 : Sha256Schema value.configurationSha256
  qualification : value.qualification.Accepted
  seedHex : Sha256Schema value.seedHex
  simulatorRelease : value.simulatorRelease.Accepted

instance (value : Simulation) : Decidable value.Accepted :=
  decidable_of_iff _ (Simulation.accepted_iff value).symm

inductive BoundaryExecution where
  | liveProvider (provider : LiveProvider)
  | recordedStub (stub : RecordedStub)
  | simulation (declaration : Simulation)
  deriving DecidableEq

namespace BoundaryExecution

def mode : BoundaryExecution → ReplayBoundaryMode
  | .liveProvider _ => .liveProvider
  | .recordedStub _ => .recordedStub
  | .simulation _ => .simulation

def Accepted (kind : ReplayBoundaryKind) : BoundaryExecution → Prop
  | .liveProvider provider => provider.Accepted
  | .recordedStub stub => stub.Accepted ∧ (kind = .model ∨ kind = .tool)
  | .simulation declaration => declaration.Accepted

instance (kind : ReplayBoundaryKind) (value : BoundaryExecution) : Decidable (value.Accepted kind) :=
  match value with
  | .liveProvider provider => inferInstanceAs (Decidable provider.Accepted)
  | .recordedStub stub => inferInstanceAs (Decidable (stub.Accepted ∧ (kind = .model ∨ kind = .tool)))
  | .simulation declaration => inferInstanceAs (Decidable declaration.Accepted)

end BoundaryExecution

structure ReplayBoundaryDeclaration where
  boundaryId : String
  execution : BoundaryExecution
  kind : ReplayBoundaryKind
  deriving DecidableEq

def ReplayBoundaryDeclaration.Accepted (value : ReplayBoundaryDeclaration) : Prop :=
  OpaqueIdSchema value.boundaryId ∧ value.execution.Accepted value.kind

instance (value : ReplayBoundaryDeclaration) : Decidable value.Accepted :=
  inferInstanceAs (Decidable (_ ∧ _))

structure ReplayDatasetReference where
  datasetId : String
  datasetVersionId : String
  definitionSha256 : String
  deriving DecidableEq

def ReplayDatasetReference.Accepted (value : ReplayDatasetReference) : Prop :=
  OpaqueIdSchema value.datasetId
    ∧ OpaqueIdSchema value.datasetVersionId
    ∧ Sha256Schema value.definitionSha256

instance (value : ReplayDatasetReference) : Decidable value.Accepted :=
  inferInstanceAs (Decidable (_ ∧ _ ∧ _))

structure ReplayPlanDefinition where
  boundaries : List ReplayBoundaryDeclaration
  budget : ReplayBudget
  dataset : ReplayDatasetReference
  isolationProfile : ReplayIsolationProfileReference
  planId : String
  planVersionId : String
  retryPolicy : ReplayRetryPolicy
  runtimeProfile : ReplayRuntimeProfileReference
  schemaVersion : String
  scope : EvidenceScope
  targetRelease : TargetReleaseReference
  workerProtocol : WorkerProtocolReference

namespace ReplayPlanDefinition

def boundaryIssues (value : ReplayPlanDefinition) (boundary : ReplayBoundaryDeclaration)
    : List String :=
  match boundary.execution with
  | .recordedStub stub =>
    issue (value.targetRelease.targetAdapter.name ≠ stub.invocation.targetAdapter.name
        ∨ value.targetRelease.targetAdapter.version ≠ stub.invocation.targetAdapter.version)
      "Recorded invocation target adapter must match the exact target release"
  | .liveProvider provider =>
    match provider.sideEffect with
    | .nonIdempotentWrite _ _ =>
      issue (value.retryPolicy.automatic ∨ value.retryPolicy.maxAttempts ≠ 1)
        "Non-idempotent live writes prohibit automatic or multi-attempt execution"
    | .idempotentWrite _ _ =>
      issue (value.retryPolicy.automatic
          ∧ value.retryPolicy.idempotencyRequirement ≠ .destinationSupported)
        "Retrying live writes requires destination-supported idempotency"
    | .readOnly => []
  | .simulation _ => []

def issues (value : ReplayPlanDefinition) : List String :=
  issue (value.workerProtocol ≠ value.targetRelease.workerProtocol)
      "Plan and target release worker protocols must match exactly"
    ++ issue (value.retryPolicy.maxAttempts > (value.budget .jobAttempts).limit)
      "Retry attempts must fit within the job-attempt budget"
    ++ issue (value.retryPolicy.totalDeadlineMilliseconds > (value.budget .elapsedMilliseconds).limit)
      "Retry deadline must fit within the elapsed-time budget"
    ++ value.boundaries.flatMap value.boundaryIssues

def maxReplayBoundaries : Nat := 64

@[mk_iff]
structure Accepted (value : ReplayPlanDefinition) : Prop where
  boundaries : ∀ boundary ∈ value.boundaries, boundary.Accepted
  boundaries_length : boundedInteger 1 maxReplayBoundaries value.boundaries.length
  boundaries_sorted : isStrictlySortedUnique (value.boundaries.map (·.boundaryId))
  budget : value.budget.Accepted
  dataset : value.dataset.Accepted
  isolationProfile : value.isolationProfile.Accepted
  planId : OpaqueIdSchema value.planId
  planVersionId : OpaqueIdSchema value.planVersionId
  retryPolicy : value.retryPolicy.Accepted
  runtimeProfile : value.runtimeProfile.Accepted
  schemaVersion : value.schemaVersion = "0.1"
  scope : EvidenceScopeSchema value.scope
  targetRelease : value.targetRelease.Accepted
  workerProtocol : value.workerProtocol.Accepted
  issues : value.issues = []

instance (value : ReplayPlanDefinition) : Decidable value.Accepted :=
  decidable_of_iff _ (accepted_iff value).symm

end ReplayPlanDefinition

end Definition
end Replay
end ProofStack
