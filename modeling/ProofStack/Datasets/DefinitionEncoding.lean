import ProofStack.Contracts.Dataset
import ProofStack.Contracts.Replay.Definition
import ProofStack.Replay.BinaryEncoding

/-!
This module contains the canonical bytes of the definitions of fixture and dataset versions.
-/

namespace ProofStack

namespace Interaction

def InteractionAttemptOutcome.text : InteractionAttemptOutcome → String
  | .succeeded => "succeeded"
  | .failed => "failed"
  | .timedOut => "timed_out"
  | .cancelled => "cancelled"
  | .indeterminate => "indeterminate"

def InteractionSideEffect.text : InteractionSideEffect → String
  | .none => "none"
  | .readOnly => "read_only"
  | .idempotentWrite => "idempotent_write"
  | .nonIdempotentWrite => "non_idempotent_write"
  | .unknown => "unknown"

def ModelOperation.text : ModelOperation → String
  | .chat => "chat"
  | .generateContent => "generate_content"
  | .textCompletion => "text_completion"

end Interaction

namespace Artifacts

def ArtifactRedactionSummary.status : ArtifactRedactionSummary → String
  | .notPerformed => "not_performed"
  | .notRequired => "not_required"
  | .applied _ => "applied"

def ArtifactRedactionSummary.appliedRecords : ArtifactRedactionSummary → Option (List ArtifactRedactionRecord)
  | .applied records => some records
  | _ => none

end Artifacts

namespace Datasets

open Artifacts Checks Encoding Interaction Replay.Encoder

def regressionFixtureDefinitionDomain : String := "proofstack.fixture-version.v1"
def regressionDatasetDefinitionDomain : String := "proofstack.dataset-version.v1"
def recordedInteractionFixtureDefinitionDomain : String := "proofstack.fixture-version.v2"

abbrev Encoded : Type := Except EncodingError Bytes

def encodeRegressionFixtureVersionDefinition (isNFC : String → Bool)
    (input : RegressionFixtureVersionDefinition) : Encoded := do
  let definition ← parseWith (input.Accepted isNFC) .schema input
  concatenate [
    encodeString regressionFixtureDefinitionDomain,
    encodeString definition.schemaVersion,
    encodeString definition.scope.tenantId,
    encodeString definition.scope.projectId,
    encodeString definition.scope.environmentId,
    encodeString definition.fixtureId,
    encodeString definition.fixtureVersionId,
    encodeString definition.name,
    encodeOptional definition.description encodeString,
    encodeOptional definition.predecessor (fun predecessor =>
      concatenate [encodeString predecessor.fixtureVersionId, encodeString predecessor.definitionSha256]),
    encodeString definition.source.traceId,
    encodeSequence definition.source.eventIds encodeString,
    encodeString definition.source.sourceCompleteness,
    encodeString definition.replayability]

def encodeRegressionDatasetVersionDefinition (isNFC : String → Bool)
    (input : RegressionDatasetVersionDefinition) : Encoded := do
  let definition ← parseWith (input.Accepted isNFC) .schema input
  concatenate [
    encodeString regressionDatasetDefinitionDomain,
    encodeString definition.schemaVersion,
    encodeString definition.scope.tenantId,
    encodeString definition.scope.projectId,
    encodeString definition.scope.environmentId,
    encodeString definition.datasetId,
    encodeString definition.datasetVersionId,
    encodeString definition.name,
    encodeOptional definition.description encodeString,
    encodeOptional definition.predecessor (fun predecessor =>
      concatenate [encodeString predecessor.datasetVersionId, encodeString predecessor.definitionSha256]),
    encodeSequence definition.fixtureVersions (fun fixtureVersion =>
      concatenate [
        encodeString fixtureVersion.fixtureId,
        encodeString fixtureVersion.fixtureVersionId,
        encodeString fixtureVersion.definitionSha256])]

def encodeRedactionRecord (record : ArtifactRedactionRecord) : Encoded :=
  concatenate [
    encodeString record.stage.text,
    encodeString record.rulesetId,
    encodeString record.rulesetVersion,
    encodeUnsigned32 record.matchCount,
    encodeSequence record.changedPaths encodeString]

def encodeArtifactBinding (binding : InteractionArtifactBinding) : Encoded :=
  concatenate [
    encodeString binding.role.text,
    encodeString binding.contentReference.artifactId,
    encodeString binding.contentReference.classification.text,
    encodeString binding.contentReference.mediaType,
    encodeOptional binding.contentReference.redactedAt (fun stage => encodeString stage.text),
    encodeString binding.contentReference.sha256,
    encodeUnsigned32 binding.contentReference.sizeBytes,
    encodeString binding.redaction.status,
    encodeOptional binding.redaction.appliedRecords (fun records =>
      encodeSequence records encodeRedactionRecord),
    encodeString "retain"]

def encodeToolContractReference (reference : InteractionToolContractReference) : Encoded :=
  concatenate [
    encodeString reference.toolId,
    encodeString reference.toolVersion,
    encodeString reference.definitionSha256,
    encodeString reference.artifactId]

def encodePromptReference (reference : InteractionPromptReference) : Encoded :=
  concatenate [
    encodeString reference.promptId,
    encodeString reference.promptVersion,
    encodeString reference.definitionSha256,
    encodeString reference.artifactId]

def encodeNormalizedRequest (reference : InteractionNormalizedRequestReference) : Encoded :=
  concatenate [
    encodeString reference.adapterName,
    encodeString reference.adapterVersion,
    encodeString reference.sha256,
    encodeString reference.artifactId]

def encodeAttemptBase (attempt : AttemptBase) : Encoded :=
  concatenate [
    encodeString attempt.attemptId,
    encodeUnsigned32 attempt.sequence,
    encodeString attempt.startedAt.text,
    encodeString attempt.endedAt.text,
    encodeString attempt.outcome.text,
    encodeOptional attempt.errorType encodeString]

def encodeModelAttempt (attempt : ModelInteractionAttempt) : Encoded :=
  concatenate [
    encodeAttemptBase attempt.base,
    encodeString attempt.provider.name,
    encodeString attempt.provider.operation.text,
    encodeString attempt.provider.requestedModel,
    encodeOptional attempt.provider.returnedModel encodeString,
    encodeString attempt.provider.endpointProfileId,
    encodeString attempt.provider.endpointProfileVersion,
    encodeOptional attempt.providerRequestId encodeString,
    encodeBoolean attempt.providerMayHaveProcessed,
    encodeBoolean attempt.streaming,
    encodeNormalizedRequest attempt.normalizedRequest,
    encodeString attempt.artifacts.providerConfigurationArtifactId,
    encodeString attempt.artifacts.providerRequestArtifactId,
    encodeOptional attempt.artifacts.providerResponseArtifactId encodeString,
    encodeString attempt.artifacts.inputMessagesArtifactId,
    encodeOptional attempt.artifacts.outputMessagesArtifactId encodeString,
    encodeOptional attempt.artifacts.systemInstructionsArtifactId encodeString,
    encodeOptional attempt.artifacts.promptVariablesArtifactId encodeString,
    encodeOptional attempt.artifacts.streamingFramesArtifactId encodeString]

def encodeToolAttempt (attempt : ToolInteractionAttempt) : Encoded :=
  concatenate [
    encodeAttemptBase attempt.base,
    encodeString attempt.sideEffect.text,
    encodeBoolean attempt.effectMayHaveOccurred,
    encodeNormalizedRequest attempt.normalizedRequest,
    encodeString attempt.argumentsArtifactId,
    encodeOptional attempt.resultArtifactId encodeString]

def encodeInteraction : CapturedInteraction → Encoded
  | .model interaction =>
    concatenate [
      encodeString "model",
      encodeString interaction.interactionId,
      encodeUnsigned32 interaction.sequence,
      encodeString interaction.terminalOutcome.text,
      encodePromptReference interaction.prompt,
      encodeSequence interaction.toolContracts encodeToolContractReference,
      encodeSequence interaction.attempts encodeModelAttempt]
  | .tool interaction =>
    concatenate [
      encodeString "tool",
      encodeString interaction.interactionId,
      encodeUnsigned32 interaction.sequence,
      encodeString interaction.terminalOutcome.text,
      encodeString interaction.callId,
      encodeToolContractReference interaction.tool,
      encodeSequence interaction.attempts encodeToolAttempt]

def encodeCaptureManifest (manifest : InteractionCaptureManifest) : Encoded :=
  concatenate [
    encodeString manifest.schemaVersion,
    encodeString manifest.source.boundary,
    encodeString manifest.source.captureAdapter.name,
    encodeString manifest.source.captureAdapter.version,
    encodeString manifest.source.sourceFormat.name,
    encodeString manifest.source.sourceFormat.version,
    encodeString manifest.source.status,
    encodeSequence manifest.source.limitations (fun limitation => encodeString limitation.text),
    encodeSequence manifest.artifacts encodeArtifactBinding,
    encodeSequence manifest.interactions encodeInteraction]

def encodeRecordedInteractionFixtureVersionDefinition (isNFC : String → Bool)
    (input : RecordedInteractionFixtureVersionDefinition) : Encoded := do
  let definition ← parseWith (input.Accepted isNFC) .schema input
  concatenate [
    encodeString recordedInteractionFixtureDefinitionDomain,
    encodeString definition.schemaVersion,
    encodeString definition.scope.tenantId,
    encodeString definition.scope.projectId,
    encodeString definition.scope.environmentId,
    encodeString definition.fixtureId,
    encodeString definition.fixtureVersionId,
    encodeString definition.name,
    encodeOptional definition.description encodeString,
    encodeString definition.predecessor.fixtureVersionId,
    encodeString definition.predecessor.definitionSha256,
    encodeString definition.source.kind,
    encodeString definition.source.traceId,
    encodeSequence definition.source.eventIds encodeString,
    encodeUnsigned32 definition.source.observedEventCount,
    encodeString definition.source.sourceCompleteness,
    encodeString definition.replayability,
    encodeCaptureManifest definition.interactionCapture]

end Datasets
end ProofStack
