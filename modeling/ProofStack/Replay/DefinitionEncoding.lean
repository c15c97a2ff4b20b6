import ProofStack.Contracts.Replay.PlanDefinition
import ProofStack.Replay.BinaryEncoding

/-!
This module contains the bytes of the definitions of replay plans and target releases, as the server
encodes them.
-/

namespace ProofStack
namespace Replay
namespace Encoder

open Checks Definition Encoding

def recordedBoundaryReplayInvocationDomain : String := "proofstack.recorded-boundary-replay.v1"

def encodeRecordedBoundaryReplayInvocationDefinition
    (input : RecordedBoundaryReplayInvocationDefinition) : Except EncodingError Bytes := do
  let definition ← parseWith input.Accepted .schema input
  concatenate [
    encodeString recordedBoundaryReplayInvocationDomain,
    encodeString definition.schemaVersion,
    encodeString definition.invocationId,
    encodeString definition.fixture.fixtureId,
    encodeString definition.fixture.fixtureVersionId,
    encodeString definition.fixture.definitionSha256,
    encodeString definition.targetAdapter.name,
    encodeString definition.targetAdapter.version,
    encodeString definition.runtime.boundaryMode,
    encodeString definition.runtime.clock.mode,
    encodeString definition.runtime.clock.instant,
    encodeString definition.runtime.random.mode,
    encodeString definition.runtime.random.algorithm,
    encodeString definition.runtime.random.seedHex,
    encodeString definition.runtime.locale,
    encodeString definition.runtime.timeZone,
    encodeString definition.runtime.networkPolicy,
    encodeString definition.runtime.isolationMode]

def targetReleaseDefinitionDomain : String := "proofstack.target-release.v1"

def replayPlanDefinitionDomain : String := "proofstack.replay-plan.v1"

def encodeScope (scope : EvidenceScope) : Except EncodingError Bytes :=
  concatenate [
    encodeString scope.tenantId,
    encodeString scope.projectId,
    encodeString scope.environmentId]

def encodeArtifactReference (reference : ArtifactContentReference) : Except EncodingError Bytes :=
  concatenate [
    encodeString reference.artifactId,
    encodeString reference.classification.text,
    encodeString reference.mediaType,
    encodeOptional reference.redactedAt (fun stage => encodeString stage.text),
    encodeString reference.sha256,
    encodeUnsignedSafeInteger reference.sizeBytes]

def encodeWorkerProtocol (protocol : WorkerProtocolReference) : Except EncodingError Bytes :=
  concatenate [encodeString protocol.name, encodeString protocol.version]

def encodeTargetAdapter (adapter : ReplayReleaseTargetAdapterReference) : Except EncodingError Bytes :=
  concatenate [
    encodeString adapter.name,
    encodeString adapter.version,
    encodeString adapter.protocolVersion]

def encodeTargetReleaseReference (reference : TargetReleaseReference) : Except EncodingError Bytes :=
  concatenate [
    encodeString reference.targetId,
    encodeString reference.targetReleaseId,
    encodeString reference.definitionSha256,
    encodeTargetAdapter reference.targetAdapter,
    encodeWorkerProtocol reference.workerProtocol]

def encodeTargetExecution : TargetExecution → Except EncodingError Bytes
  | .artifact reference bundleFormat =>
    concatenate [
      encodeString "artifact",
      encodeString bundleFormat.text,
      encodeArtifactReference reference]
  | .preinstalled implementationId implementationSha256 =>
    concatenate [
      encodeString "preinstalled",
      encodeString implementationId,
      encodeString implementationSha256]

def encodeSubprocessPolicy : SubprocessPolicy → Except EncodingError Bytes
  | .denied => encodeString "denied"
  | .allowlisted allowedImplementations =>
    concatenate [
      encodeString "allowlisted",
      encodeSequence allowedImplementations (fun implementation =>
        concatenate [
          encodeString implementation.implementationId,
          encodeString implementation.executableSha256])]

def targetReleaseParts (definition : TargetReleaseDefinition) : List (Except EncodingError Bytes) :=
  [ encodeString targetReleaseDefinitionDomain,
    encodeString definition.schemaVersion,
    encodeScope definition.scope,
    encodeString definition.targetId,
    encodeString definition.targetReleaseId,
    encodeTargetAdapter definition.targetAdapter,
    encodeString (Host.wellFormed definition.source.repositoryUrl),
    encodeString definition.source.revision,
    encodeString definition.build.builderId,
    encodeString definition.build.invocationSha256,
    encodeString definition.build.executableSha256,
    encodeString definition.build.dependencySnapshotSha256,
    encodeArtifactReference definition.build.provenance,
    encodeTargetExecution definition.execution,
    encodeString definition.runtime.family,
    encodeString definition.runtime.version,
    encodeString definition.runtime.platform.text,
    encodeString definition.runtime.architecture.text,
    encodeString definition.runtime.entryPoint,
    encodeSequence definition.environmentVariableNames encodeString,
    encodeSequence definition.mounts (fun mount =>
      concatenate [
        encodeString mount.mountId,
        encodeString mount.targetPath,
        encodeString mount.access.text]),
    encodeSubprocessPolicy definition.subprocessPolicy,
    encodeUnsignedSafeInteger definition.outputLimits.stdoutBytes,
    encodeUnsignedSafeInteger definition.outputLimits.stderrBytes,
    encodeUnsignedSafeInteger definition.outputLimits.emittedArtifactBytes,
    encodeSequence definition.supportedBoundaryKinds (fun kind => encodeString kind.text),
    encodeSequence definition.supportedBoundaryModes (fun mode => encodeString mode.text),
    encodeWorkerProtocol definition.workerProtocol]

def encodeTargetReleaseDefinition (isUrl : Host.Text → Bool) (input : TargetReleaseDefinition)
    : Except EncodingError Bytes := do
  let definition ← parseWith (input.Accepted isUrl) .schema input
  concatenate (targetReleaseParts definition)

def encodeVersionedDefinitionReference (definitionSha256 id version : String)
    : Except EncodingError Bytes :=
  concatenate [encodeString id, encodeString version, encodeString definitionSha256]

def encodeReplayBudget (budget : ReplayBudget) : Except EncodingError Bytes :=
  concatenate ([
    budget .concurrentInteractions,
    budget .elapsedMilliseconds,
    budget .emittedArtifactBytes,
    budget .inputTokens,
    budget .jobAttempts,
    budget .modelRequests,
    budget .outputTokens,
    budget .providerCostMicrounits,
    budget .retrievedBytes,
    budget .toolCalls].map (fun dimension =>
      concatenate [
        encodeUnsignedSafeInteger dimension.limit,
        encodeString dimension.measurement.text]))

def encodeBackoff : ReplayBackoff → Except EncodingError Bytes
  | .none => encodeString "none"
  | .fixed delayMilliseconds =>
    concatenate [encodeString "fixed", encodeUnsignedSafeInteger delayMilliseconds]
  | .exponential initialDelayMilliseconds maximumDelayMilliseconds multiplier =>
    concatenate [
      encodeString "exponential",
      encodeUnsignedSafeInteger initialDelayMilliseconds,
      encodeUnsignedSafeInteger maximumDelayMilliseconds,
      encodeUnsignedSafeInteger multiplier]

def encodeRetryPolicy (policy : ReplayRetryPolicy) : Except EncodingError Bytes := do
  let backoff ← encodeBackoff policy.backoff
  concatenate [
    encodeBoolean policy.automatic,
    encodeUnsignedSafeInteger policy.maxAttempts,
    encodeUnsignedSafeInteger policy.perAttemptTimeoutMilliseconds,
    encodeUnsignedSafeInteger policy.totalDeadlineMilliseconds,
    encodeString policy.idempotencyRequirement.text,
    encodeSequence policy.retryableErrors (fun error => encodeString error.text),
    .ok backoff]

def encodeLiveSideEffect : Definition.LiveSideEffect → Except EncodingError Bytes
  | .readOnly => encodeString "read_only"
  | .idempotentWrite idempotencyKeyScheme sandboxDestination =>
    concatenate [
      encodeString "idempotent_write",
      encodeBoolean sandboxDestination,
      encodeString idempotencyKeyScheme]
  | .nonIdempotentWrite automaticRetry riskAcceptance =>
    concatenate [
      encodeString "non_idempotent_write",
      encodeBoolean automaticRetry,
      encodeArtifactReference riskAcceptance]

def encodeBoundary (boundary : Definition.ReplayBoundaryDeclaration) : Except EncodingError Bytes := do
  let common ← [
    encodeString boundary.boundaryId,
    encodeString boundary.kind.text,
    encodeString boundary.execution.mode.text].mapM id
  match boundary.execution with
  | .recordedStub stub =>
    concatenate (common.map .ok ++ [
      encodeString stub.invocationDefinitionSha256,
      encodeRecordedBoundaryReplayInvocationDefinition stub.invocation >>= encodeBytes])
  | .simulation declaration =>
    concatenate (common.map .ok ++ [
      encodeTargetReleaseReference declaration.simulatorRelease,
      encodeString declaration.configurationSha256,
      encodeString declaration.seedHex,
      encodeArtifactReference declaration.qualification])
  | .liveProvider provider =>
    concatenate (common.map .ok ++ [
      encodeString provider.endpointProfileId,
      encodeString provider.endpointProfileVersion,
      encodeString provider.endpointProfileDefinitionSha256,
      encodeString provider.operation,
      encodeString provider.credentialId,
      encodeString provider.credentialVersionId,
      encodeString provider.destinationScheme,
      encodeString provider.destinationHostname,
      encodeUnsignedSafeInteger provider.destinationPort,
      encodeUnsignedSafeInteger provider.requestBytes,
      encodeUnsignedSafeInteger provider.responseBytes,
      encodeString provider.usageSource.text,
      encodeLiveSideEffect provider.sideEffect])

def replayPlanParts (definition : ReplayPlanDefinition) : List (Except EncodingError Bytes) :=
  [ encodeString replayPlanDefinitionDomain,
    encodeString definition.schemaVersion,
    encodeScope definition.scope,
    encodeString definition.planId,
    encodeString definition.planVersionId,
    encodeTargetReleaseReference definition.targetRelease,
    encodeString definition.dataset.datasetId,
    encodeString definition.dataset.datasetVersionId,
    encodeString definition.dataset.definitionSha256,
    encodeVersionedDefinitionReference definition.runtimeProfile.definitionSha256
      definition.runtimeProfile.id definition.runtimeProfile.version,
    encodeString definition.runtimeProfile.family,
    encodeVersionedDefinitionReference definition.isolationProfile.definitionSha256
      definition.isolationProfile.id definition.isolationProfile.version,
    encodeString definition.isolationProfile.kind.text,
    encodeReplayBudget definition.budget,
    encodeRetryPolicy definition.retryPolicy,
    encodeSequence definition.boundaries encodeBoundary,
    encodeWorkerProtocol definition.workerProtocol]

def encodeReplayPlanDefinition (input : ReplayPlanDefinition) : Except EncodingError Bytes := do
  let definition ← parseWith input.Accepted .schema input
  concatenate (replayPlanParts definition)

end Encoder
end Replay
end ProofStack
