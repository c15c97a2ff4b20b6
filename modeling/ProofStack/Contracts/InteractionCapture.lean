import ProofStack.Contracts.Interaction
import ProofStack.Sequence.Keyed

/-!
This module contains the manifest of the interactions that a fixture records.
-/

namespace ProofStack
namespace Interaction

open Artifacts Replay Sequence

def maxCaptureInteractions : Nat := 512
def maxCaptureArtifacts : Nat := 2048
def maxCaptureToolContracts : Nat := 64

-- The texts are those of identifiers, whose order is the order of their characters.
def isStrictlySorted (values : List String) : Prop :=
  values.IsChain (· < ·)

instance (values : List String) : Decidable (isStrictlySorted values) :=
  inferInstanceAs (Decidable (List.IsChain _ _))

def isContiguousSequence (values : List Nat) : Prop :=
  values = List.range values.length

instance (values : List Nat) : Decidable (isContiguousSequence values) :=
  inferInstanceAs (Decidable (_ = _))

def InteractionArtifactRole.text : InteractionArtifactRole → String
  | .modelInputMessages => "model.input_messages"
  | .modelNormalizedRequest => "model.normalized_request"
  | .modelOutputMessages => "model.output_messages"
  | .modelProviderConfiguration => "model.provider_configuration"
  | .modelProviderRequest => "model.provider_request"
  | .modelProviderResponse => "model.provider_response"
  | .modelStreamingFrames => "model.streaming_frames"
  | .modelSystemInstructions => "model.system_instructions"
  | .promptTemplate => "prompt.template"
  | .promptVariables => "prompt.variables"
  | .toolArguments => "tool.arguments"
  | .toolContract => "tool.contract"
  | .toolNormalizedRequest => "tool.normalized_request"
  | .toolResult => "tool.result"

inductive InteractionCompletenessLimitation where
  | transportMetadataExcluded
  | providerInternalStateUnobserved
  | hiddenReasoningExcluded
  | uninstrumentedSubprocessesUnobserved
  | undeclaredSideEffectsUnobserved
  deriving DecidableEq

namespace InteractionCompletenessLimitation

def text : InteractionCompletenessLimitation → String
  | .transportMetadataExcluded => "transport_metadata_excluded"
  | .providerInternalStateUnobserved => "provider_internal_state_unobserved"
  | .hiddenReasoningExcluded => "hidden_reasoning_excluded"
  | .uninstrumentedSubprocessesUnobserved => "uninstrumented_subprocesses_unobserved"
  | .undeclaredSideEffectsUnobserved => "undeclared_side_effects_unobserved"

def rank : InteractionCompletenessLimitation → Nat
  | .transportMetadataExcluded => 0
  | .providerInternalStateUnobserved => 1
  | .hiddenReasoningExcluded => 2
  | .uninstrumentedSubprocessesUnobserved => 3
  | .undeclaredSideEffectsUnobserved => 4

end InteractionCompletenessLimitation

structure CaptureReference where
  name : String
  version : String
  deriving DecidableEq

def CaptureReference.Accepted (value : CaptureReference) : Prop :=
  ProtocolTokenSchema value.name ∧ ProtocolVersionSchema value.version

instance (value : CaptureReference) : Decidable value.Accepted :=
  inferInstanceAs (Decidable (_ ∧ _))

structure InteractionCaptureSource where
  boundary : String
  captureAdapter : CaptureReference
  limitations : List InteractionCompletenessLimitation
  status : String
  sourceFormat : CaptureReference
  deriving DecidableEq

@[mk_iff]
structure InteractionCaptureSource.Accepted (value : InteractionCaptureSource) : Prop where
  boundary : value.boundary = "application_provider_and_tool"
  captureAdapter : value.captureAdapter.Accepted
  limitations_length : boundedInteger 1 5 value.limitations.length
  limitations_nodup : value.limitations.Nodup
  limitations_ordered : (value.limitations.map (·.rank)).IsChain (· < ·)
  status : value.status = "complete_for_declared_boundary"
  sourceFormat : value.sourceFormat.Accepted

instance (value : InteractionCaptureSource) : Decidable value.Accepted :=
  decidable_of_iff _ (InteractionCaptureSource.accepted_iff value).symm

structure InteractionPromptReference where
  artifactId : String
  definitionSha256 : String
  promptId : String
  promptVersion : String
  deriving DecidableEq

@[mk_iff]
structure InteractionPromptReference.Accepted (value : InteractionPromptReference) : Prop where
  artifactId : OpaqueIdSchema value.artifactId
  definitionSha256 : Sha256Schema value.definitionSha256
  promptId : OpaqueIdSchema value.promptId
  promptVersion : ProtocolVersionSchema value.promptVersion

instance (value : InteractionPromptReference) : Decidable value.Accepted :=
  decidable_of_iff _ (InteractionPromptReference.accepted_iff value).symm

structure InteractionToolContractReference where
  artifactId : String
  definitionSha256 : String
  toolId : String
  toolVersion : String
  deriving DecidableEq

@[mk_iff]
structure InteractionToolContractReference.Accepted (value : InteractionToolContractReference) : Prop where
  artifactId : OpaqueIdSchema value.artifactId
  definitionSha256 : Sha256Schema value.definitionSha256
  toolId : OpaqueIdSchema value.toolId
  toolVersion : ProtocolVersionSchema value.toolVersion

instance (value : InteractionToolContractReference) : Decidable value.Accepted :=
  decidable_of_iff _ (InteractionToolContractReference.accepted_iff value).symm

def identityText (parts : List String) : String :=
  "\x00".intercalate parts

def InteractionPromptReference.identity (value : InteractionPromptReference) : String :=
  identityText [value.promptId, value.promptVersion, value.definitionSha256]

def InteractionToolContractReference.identity (value : InteractionToolContractReference) : String :=
  identityText [value.toolId, value.toolVersion, value.definitionSha256]

def InteractionNormalizedRequestReference.identity (value : InteractionNormalizedRequestReference)
    : String :=
  identityText [value.adapterName, value.adapterVersion, value.sha256]

structure ArtifactReference where
  artifactId : String
  expectedRole : InteractionArtifactRole
  expectedSha256 : Option String

structure ModelInteraction where
  attempts : List ModelInteractionAttempt
  interactionId : String
  prompt : InteractionPromptReference
  sequence : Nat
  terminalOutcome : InteractionAttemptOutcome
  toolContracts : List InteractionToolContractReference
  deriving DecidableEq

structure ToolInteraction where
  attempts : List ToolInteractionAttempt
  callId : String
  interactionId : String
  sequence : Nat
  terminalOutcome : InteractionAttemptOutcome
  tool : InteractionToolContractReference
  deriving DecidableEq

@[mk_iff]
structure ModelInteraction.Accepted (value : ModelInteraction) : Prop where
  attempts : ∀ attempt ∈ value.attempts, attempt.Accepted
  attempts_length : boundedInteger 1 maxCaptureAttemptsPerInteraction value.attempts.length
  interactionId : OpaqueIdSchema value.interactionId
  prompt : value.prompt.Accepted
  sequence : value.sequence < maxCaptureInteractions
  toolContracts : ∀ tool ∈ value.toolContracts, tool.Accepted
  toolContracts_length : value.toolContracts.length ≤ maxCaptureToolContracts
  toolContracts_nodup : (value.toolContracts.map (·.toolId)).Nodup
  toolContracts_ordered : isStrictlySorted (value.toolContracts.map (·.toolId))

instance (value : ModelInteraction) : Decidable value.Accepted :=
  decidable_of_iff _ (ModelInteraction.accepted_iff value).symm

@[mk_iff]
structure ToolInteraction.Accepted (value : ToolInteraction) : Prop where
  attempts : ∀ attempt ∈ value.attempts, attempt.Accepted
  attempts_length : boundedInteger 1 maxCaptureAttemptsPerInteraction value.attempts.length
  callId : ProtocolTokenSchema value.callId
  interactionId : OpaqueIdSchema value.interactionId
  sequence : value.sequence < maxCaptureInteractions
  tool : value.tool.Accepted

instance (value : ToolInteraction) : Decidable value.Accepted :=
  decidable_of_iff _ (ToolInteraction.accepted_iff value).symm

inductive CapturedInteraction where
  | model (value : ModelInteraction)
  | tool (value : ToolInteraction)
  deriving DecidableEq

namespace CapturedInteraction

def Accepted : CapturedInteraction → Prop
  | .model value => value.Accepted
  | .tool value => value.Accepted

instance (value : CapturedInteraction) : Decidable value.Accepted :=
  match value with
  | .model value => inferInstanceAs (Decidable value.Accepted)
  | .tool value => inferInstanceAs (Decidable value.Accepted)

def interactionId : CapturedInteraction → String
  | .model value => value.interactionId
  | .tool value => value.interactionId

def sequence : CapturedInteraction → Nat
  | .model value => value.sequence
  | .tool value => value.sequence

def terminalOutcome : CapturedInteraction → InteractionAttemptOutcome
  | .model value => value.terminalOutcome
  | .tool value => value.terminalOutcome

def attemptBases : CapturedInteraction → List AttemptBase
  | .model value => value.attempts.map (·.base)
  | .tool value => value.attempts.map (·.base)

def callId : CapturedInteraction → Option String
  | .model _ => none
  | .tool value => some value.callId

def prompts : CapturedInteraction → List InteractionPromptReference
  | .model value => [value.prompt]
  | .tool _ => []

def toolContracts : CapturedInteraction → List InteractionToolContractReference
  | .model value => value.toolContracts
  | .tool value => [value.tool]

def normalizedRequests : CapturedInteraction → List InteractionNormalizedRequestReference
  | .model value => value.attempts.map (·.normalizedRequest)
  | .tool value => value.attempts.map (·.normalizedRequest)

def attemptReferences (normalizedRequestRole : InteractionArtifactRole)
    (normalizedRequest : InteractionNormalizedRequestReference)
    (artifacts : List (Option String × InteractionArtifactRole)) : List ArtifactReference :=
  ⟨normalizedRequest.artifactId, normalizedRequestRole, some normalizedRequest.sha256⟩
    :: artifacts.filterMap (fun artifact => artifact.1.map (⟨·, artifact.2, none⟩))

def modelAttemptReferences (attempt : ModelInteractionAttempt) : List ArtifactReference :=
  attemptReferences .modelNormalizedRequest attempt.normalizedRequest
    [(some attempt.artifacts.inputMessagesArtifactId, .modelInputMessages),
      (some attempt.artifacts.providerConfigurationArtifactId, .modelProviderConfiguration),
      (some attempt.artifacts.providerRequestArtifactId, .modelProviderRequest),
      (attempt.artifacts.providerResponseArtifactId, .modelProviderResponse),
      (attempt.artifacts.outputMessagesArtifactId, .modelOutputMessages),
      (attempt.artifacts.promptVariablesArtifactId, .promptVariables),
      (attempt.artifacts.streamingFramesArtifactId, .modelStreamingFrames),
      (attempt.artifacts.systemInstructionsArtifactId, .modelSystemInstructions)]

def toolAttemptReferences (attempt : ToolInteractionAttempt) : List ArtifactReference :=
  attemptReferences .toolNormalizedRequest attempt.normalizedRequest
    [(some attempt.argumentsArtifactId, .toolArguments), (attempt.resultArtifactId, .toolResult)]

def artifactReferences : CapturedInteraction → List ArtifactReference
  | .model value =>
    ⟨value.prompt.artifactId, .promptTemplate, some value.prompt.definitionSha256⟩
      :: value.toolContracts.map (fun tool => ⟨tool.artifactId, .toolContract, some tool.definitionSha256⟩)
      ++ value.attempts.flatMap modelAttemptReferences
  | .tool value =>
    ⟨value.tool.artifactId, .toolContract, some value.tool.definitionSha256⟩
      :: value.attempts.flatMap toolAttemptReferences

def issues (value : CapturedInteraction) : List String :=
  issue (¬isContiguousSequence (value.attemptBases.map (·.sequence)))
      "Interaction attempts must use a contiguous zero-based sequence"
    ++ issue (value.attemptBases.getLast?.map (·.outcome) ≠ some value.terminalOutcome)
      "terminalOutcome must equal the last physical attempt outcome"

end CapturedInteraction

structure InteractionCaptureManifest where
  artifacts : List InteractionArtifactBinding
  interactions : List CapturedInteraction
  schemaVersion : String
  source : InteractionCaptureSource
  deriving DecidableEq

namespace InteractionCaptureManifest

def artifactIds (value : InteractionCaptureManifest) : List String :=
  value.artifacts.map (·.contentReference.artifactId)

def artifactReferences (value : InteractionCaptureManifest) : List ArtifactReference :=
  value.interactions.flatMap (·.artifactReferences)

def requireArtifactRole (artifacts : List InteractionArtifactBinding) (reference : ArtifactReference)
    : List String :=
  match lookup (·.contentReference.artifactId) artifacts reference.artifactId with
  | none => ["Referenced interaction artifact does not exist"]
  | some binding =>
    issue (binding.role ≠ reference.expectedRole)
        ("Interaction artifact requires role " ++ reference.expectedRole.text)
      ++ issue (∃ digest ∈ reference.expectedSha256, digest ≠ "" ∧ binding.contentReference.sha256 ≠ digest)
        "Interaction artifact digest does not match its versioned reference"

def semanticReferences (label : String) (identities : List (String × String)) : List String :=
  identities.flatMap (fun identity =>
    issue ((identities.find? (fun other => other.1 = identity.1)).any (fun existing =>
        existing.2 ≠ identity.2))
      (label ++ " artifact references must use one semantic identity"))

def issues (value : InteractionCaptureManifest) : List String :=
  issue (¬(value.interactions.map (·.interactionId)).Nodup) "Interaction IDs must be unique"
    ++ issue (¬isContiguousSequence (value.interactions.map (·.sequence)))
      "Interactions must use a contiguous zero-based sequence"
    ++ value.interactions.flatMap (·.issues)
    ++ semanticReferences "Prompt"
      (value.interactions.flatMap (fun interaction =>
        interaction.prompts.map (fun prompt => (prompt.artifactId, prompt.identity))))
    ++ semanticReferences "Tool contract"
      (value.interactions.flatMap (fun interaction =>
        interaction.toolContracts.map (fun tool => (tool.artifactId, tool.identity))))
    ++ semanticReferences "Normalized request"
      (value.interactions.flatMap (fun interaction =>
        interaction.normalizedRequests.map (fun request => (request.artifactId, request.identity))))
    ++ value.artifactReferences.flatMap (requireArtifactRole value.artifacts)
    ++ issue (maxCaptureAttempts < (value.interactions.flatMap (·.attemptBases)).length)
      ("Capture cannot contain more than " ++ toString maxCaptureAttempts ++ " attempts")
    ++ issue (¬((value.interactions.flatMap (·.attemptBases)).map (·.attemptId)).Nodup)
      "Attempt IDs must be unique"
    ++ issue (¬(value.interactions.filterMap (·.callId)).Nodup) "Tool call IDs must be unique"
    ++ value.artifactIds.flatMap (fun artifactId =>
      issue (artifactId ∉ value.artifactReferences.map (·.artifactId))
        "Every owned interaction artifact must be referenced by the manifest")

@[mk_iff]
structure Accepted (value : InteractionCaptureManifest) : Prop where
  artifacts : ∀ binding ∈ value.artifacts, binding.Accepted
  artifacts_length : boundedInteger 1 maxCaptureArtifacts value.artifacts.length
  artifacts_nodup : value.artifactIds.Nodup
  artifacts_ordered : isStrictlySorted value.artifactIds
  interactions : ∀ interaction ∈ value.interactions, interaction.Accepted
  interactions_length : boundedInteger 1 maxCaptureInteractions value.interactions.length
  schemaVersion : value.schemaVersion = "0.1"
  source : value.source.Accepted
  issues : value.issues = []

instance (value : InteractionCaptureManifest) : Decidable value.Accepted :=
  decidable_of_iff _ (accepted_iff value).symm

end InteractionCaptureManifest

end Interaction
end ProofStack
