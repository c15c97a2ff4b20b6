import ProofStack.Contracts.ArtifactLifecycle
import ProofStack.Contracts.Replay.Plan

/-!
This module contains the physical attempts of the interactions with models and tools that a fixture records,
and the artifacts that their contents are kept in.
-/

namespace ProofStack
namespace Interaction

open Artifacts Replay

def maxCaptureAttempts : Nat := 2048

def maxCaptureAttemptsPerInteraction : Nat := 8

inductive InteractionArtifactRole where
  | modelInputMessages
  | modelNormalizedRequest
  | modelOutputMessages
  | modelProviderConfiguration
  | modelProviderRequest
  | modelProviderResponse
  | modelStreamingFrames
  | modelSystemInstructions
  | promptTemplate
  | promptVariables
  | toolArguments
  | toolContract
  | toolNormalizedRequest
  | toolResult
  deriving DecidableEq

structure InteractionArtifactBinding where
  contentReference : ArtifactContentReference
  redaction : ArtifactRedactionSummary
  role : InteractionArtifactRole
  deriving DecidableEq

namespace InteractionArtifactBinding

def issues (value : InteractionArtifactBinding) : List String :=
  issue (value.contentReference.classification = .metadata)
      "Interaction content artifacts require a non-metadata classification"
    ++ issue (value.contentReference.redactedAt ≠ value.redaction.latestStage)
      "contentReference.redactedAt must equal the latest recorded redaction stage"

def Accepted (value : InteractionArtifactBinding) : Prop :=
  value.contentReference.Accepted ∧ value.redaction.Accepted ∧ value.issues = []

instance (value : InteractionArtifactBinding) : Decidable value.Accepted :=
  inferInstanceAs (Decidable (_ ∧ _ ∧ _))

end InteractionArtifactBinding

structure EvidenceTimestamp where
  text : String
  orderKey : Int
  deriving DecidableEq

inductive InteractionAttemptOutcome where
  | succeeded
  | failed
  | timedOut
  | cancelled
  | indeterminate
  deriving DecidableEq

inductive InteractionSideEffect where
  | none
  | readOnly
  | idempotentWrite
  | nonIdempotentWrite
  | unknown
  deriving DecidableEq

structure InteractionNormalizedRequestReference where
  adapterName : String
  adapterVersion : String
  artifactId : String
  sha256 : String
  deriving DecidableEq

@[mk_iff]
structure InteractionNormalizedRequestReference.Accepted (value : InteractionNormalizedRequestReference)
    : Prop where
  adapterName : ProtocolTokenSchema value.adapterName
  adapterVersion : ProtocolVersionSchema value.adapterVersion
  artifactId : OpaqueIdSchema value.artifactId
  sha256 : Sha256Schema value.sha256

instance (value : InteractionNormalizedRequestReference) : Decidable value.Accepted :=
  decidable_of_iff _ (InteractionNormalizedRequestReference.accepted_iff value).symm

inductive ModelOperation where
  | chat
  | generateContent
  | textCompletion
  deriving DecidableEq

structure ModelProvider where
  endpointProfileId : String
  endpointProfileVersion : String
  name : String
  operation : ModelOperation
  requestedModel : String
  returnedModel : Option String
  deriving DecidableEq

@[mk_iff]
structure ModelProvider.Accepted (value : ModelProvider) : Prop where
  endpointProfileId : OpaqueIdSchema value.endpointProfileId
  endpointProfileVersion : ProtocolVersionSchema value.endpointProfileVersion
  name : ProtocolTokenSchema value.name
  requestedModel : ProtocolTokenSchema value.requestedModel
  returnedModel : ∀ model ∈ value.returnedModel, ProtocolTokenSchema model

instance (value : ModelProvider) : Decidable value.Accepted :=
  decidable_of_iff _ (ModelProvider.accepted_iff value).symm

structure AttemptBase where
  attemptId : String
  endedAt : EvidenceTimestamp
  errorType : Option String
  outcome : InteractionAttemptOutcome
  sequence : Nat
  startedAt : EvidenceTimestamp
  deriving DecidableEq

namespace AttemptBase

def refineAttempt (value : AttemptBase) : List String :=
  issue (value.endedAt.orderKey < value.startedAt.orderKey) "endedAt cannot be earlier than startedAt"
    ++ issue (value.outcome = .succeeded ∧ value.errorType.isSome)
      "Successful attempts cannot carry errorType"
    ++ issue (value.outcome ≠ .succeeded ∧ value.errorType.isNone)
      "Unsuccessful attempts require errorType"

@[mk_iff]
structure Accepted (value : AttemptBase) : Prop where
  attemptId : OpaqueIdSchema value.attemptId
  errorType : ∀ errorType ∈ value.errorType, ProtocolTokenSchema errorType
  sequence : value.sequence < maxCaptureAttemptsPerInteraction
  issues : value.refineAttempt = []

instance (value : AttemptBase) : Decidable value.Accepted :=
  decidable_of_iff _ (accepted_iff value).symm

end AttemptBase

structure ModelAttemptArtifacts where
  inputMessagesArtifactId : String
  outputMessagesArtifactId : Option String
  promptVariablesArtifactId : Option String
  providerConfigurationArtifactId : String
  providerRequestArtifactId : String
  providerResponseArtifactId : Option String
  streamingFramesArtifactId : Option String
  systemInstructionsArtifactId : Option String
  deriving DecidableEq

namespace ModelAttemptArtifacts

def artifactIds (value : ModelAttemptArtifacts) : List String :=
  [value.inputMessagesArtifactId, value.providerConfigurationArtifactId, value.providerRequestArtifactId]
    ++ value.outputMessagesArtifactId.toList ++ value.promptVariablesArtifactId.toList
    ++ value.providerResponseArtifactId.toList ++ value.streamingFramesArtifactId.toList
    ++ value.systemInstructionsArtifactId.toList

def responseArtifactIds (value : ModelAttemptArtifacts) : List String :=
  value.outputMessagesArtifactId.toList ++ value.providerResponseArtifactId.toList
    ++ value.streamingFramesArtifactId.toList

end ModelAttemptArtifacts

structure ModelInteractionAttempt where
  base : AttemptBase
  artifacts : ModelAttemptArtifacts
  normalizedRequest : InteractionNormalizedRequestReference
  provider : ModelProvider
  providerMayHaveProcessed : Bool
  providerRequestId : Option String
  streaming : Bool
  deriving DecidableEq

namespace ModelInteractionAttempt

def issues (value : ModelInteractionAttempt) : List String :=
  issue (value.base.outcome = .succeeded ∧ (value.artifacts.providerResponseArtifactId.isNone
      ∨ value.artifacts.outputMessagesArtifactId.isNone))
      "Successful model attempts require provider response and output messages"
    ++ issue (value.streaming ≠ value.artifacts.streamingFramesArtifactId.isSome)
      "Streaming model attempts require exactly one streaming frames artifact"

@[mk_iff]
structure Accepted (value : ModelInteractionAttempt) : Prop where
  base : value.base.Accepted
  artifacts : ∀ artifactId ∈ value.artifacts.artifactIds, OpaqueIdSchema artifactId
  normalizedRequest : value.normalizedRequest.Accepted
  provider : value.provider.Accepted
  providerRequestId : ∀ requestId ∈ value.providerRequestId, ProtocolTokenSchema requestId
  issues : value.issues = []

instance (value : ModelInteractionAttempt) : Decidable value.Accepted :=
  decidable_of_iff _ (accepted_iff value).symm

end ModelInteractionAttempt

structure ToolInteractionAttempt where
  base : AttemptBase
  argumentsArtifactId : String
  resultArtifactId : Option String
  effectMayHaveOccurred : Bool
  normalizedRequest : InteractionNormalizedRequestReference
  sideEffect : InteractionSideEffect
  deriving DecidableEq

namespace ToolInteractionAttempt

def issues (value : ToolInteractionAttempt) : List String :=
  issue (value.base.outcome = .succeeded ∧ value.resultArtifactId.isNone)
      "Successful tool attempts require a result artifact"
    ++ issue ((value.sideEffect = .none ∨ value.sideEffect = .readOnly) ∧ value.effectMayHaveOccurred)
      "Non-writing tool attempts cannot report that an effect may have occurred"
    ++ issue (value.base.outcome = .succeeded
        ∧ (value.sideEffect = .idempotentWrite ∨ value.sideEffect = .nonIdempotentWrite)
        ∧ ¬value.effectMayHaveOccurred)
      "Successful writing tool attempts must report that an effect may have occurred"

@[mk_iff]
structure Accepted (value : ToolInteractionAttempt) : Prop where
  base : value.base.Accepted
  argumentsArtifactId : OpaqueIdSchema value.argumentsArtifactId
  resultArtifactId : ∀ artifactId ∈ value.resultArtifactId, OpaqueIdSchema artifactId
  normalizedRequest : value.normalizedRequest.Accepted
  issues : value.issues = []

instance (value : ToolInteractionAttempt) : Decidable value.Accepted :=
  decidable_of_iff _ (accepted_iff value).symm

end ToolInteractionAttempt

end Interaction
end ProofStack
