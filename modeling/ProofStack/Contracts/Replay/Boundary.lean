import ProofStack.Contracts.Interaction
import ProofStack.Contracts.Replay.Invocation
import ProofStack.Encoding.Bytes

/-!
This module contains the requests to a recorded boundary, the responses that were recorded for them, and
the result of the replay of all of them.
-/

namespace ProofStack
namespace Replay
namespace Boundary

open Encoding Interaction

def base64UrlAlphabet : List Char :=
  "ABCDEFGHIJKLMNOPQRSTUVWXYZabcdefghijklmnopqrstuvwxyz0123456789-_".toList

def isCanonicalBase64Url (text : List Char) : Bool :=
  let lastIndex := text.getLast?.elim 0 base64UrlAlphabet.idxOf
  match text.length % 4 with
  | 1 => false
  | 2 => lastIndex % 16 == 0
  | 3 => lastIndex % 4 == 0
  | _ => true

def ReplayBase64UrlBytesSchema (text : String) : Bool :=
  2 ≤ text.toList.length
    && text.toList.length ≤ (maxArtifactContentBytes * 4 + 2) / 3
    && text.toList.all base64UrlAlphabet.contains
    && isCanonicalBase64Url text.toList

def decodedBase64UrlSize (text : String) : Nat :=
  text.toList.length / 4 * 3
    + match text.toList.length % 4 with
      | 2 => 1
      | 3 => 2
      | _ => 0

def octets : List Nat → Bytes
  | a :: b :: c :: d :: rest =>
    UInt8.ofNat (a * 4 + b / 16) :: UInt8.ofNat (b * 16 + c / 4) :: UInt8.ofNat (c * 64 + d) :: octets rest
  | [a, b, c] => [UInt8.ofNat (a * 4 + b / 16), UInt8.ofNat (b * 16 + c / 4)]
  | [a, b] => [UInt8.ofNat (a * 4 + b / 16)]
  | _ => []

def decodeBase64Url (text : String) : Bytes :=
  octets (text.toList.map base64UrlAlphabet.idxOf)

inductive InteractionKind where
  | model
  | tool
  deriving DecidableEq

structure NormalizedRequest where
  adapterName : String
  adapterVersion : String
  bytes : String
  encoding : String
  deriving DecidableEq

structure RecordedBoundaryRequest where
  boundaryRequestId : String
  kind : InteractionKind
  normalizedRequest : NormalizedRequest
  schemaVersion : String
  deriving DecidableEq

@[mk_iff]
structure RecordedBoundaryRequest.Accepted (value : RecordedBoundaryRequest) : Prop where
  boundaryRequestId : OpaqueIdSchema value.boundaryRequestId
  adapterName : ProtocolTokenSchema value.normalizedRequest.adapterName
  adapterVersion : ProtocolVersionSchema value.normalizedRequest.adapterVersion
  bytes : ReplayBase64UrlBytesSchema value.normalizedRequest.bytes
  encoding : value.normalizedRequest.encoding = "base64url"
  schemaVersion : value.schemaVersion = "0.1"

instance (value : RecordedBoundaryRequest) : Decidable value.Accepted :=
  decidable_of_iff _ (RecordedBoundaryRequest.accepted_iff value).symm

structure RecordedBoundaryActualRequestMetadata where
  adapterName : String
  adapterVersion : String
  boundaryRequestId : String
  kind : InteractionKind
  normalizedRequestSha256 : String
  sizeBytes : Nat
  deriving DecidableEq

@[mk_iff]
structure RecordedBoundaryActualRequestMetadata.Accepted (value : RecordedBoundaryActualRequestMetadata)
    : Prop where
  adapterName : ProtocolTokenSchema value.adapterName
  adapterVersion : ProtocolVersionSchema value.adapterVersion
  boundaryRequestId : OpaqueIdSchema value.boundaryRequestId
  normalizedRequestSha256 : Sha256Schema value.normalizedRequestSha256
  sizeBytes : boundedInteger 1 maxArtifactContentBytes value.sizeBytes

instance (value : RecordedBoundaryActualRequestMetadata) : Decidable value.Accepted :=
  decidable_of_iff _ (RecordedBoundaryActualRequestMetadata.accepted_iff value).symm

structure RecordedBoundaryExpectedRequest where
  adapterName : String
  adapterVersion : String
  attemptId : String
  attemptSequence : Nat
  interactionId : String
  interactionSequence : Nat
  kind : InteractionKind
  normalizedRequestSha256 : String
  deriving DecidableEq

@[mk_iff]
structure RecordedBoundaryExpectedRequest.Accepted (value : RecordedBoundaryExpectedRequest) : Prop where
  adapterName : ProtocolTokenSchema value.adapterName
  adapterVersion : ProtocolVersionSchema value.adapterVersion
  attemptId : OpaqueIdSchema value.attemptId
  attemptSequence : value.attemptSequence ≤ maxSafeInteger
  interactionId : OpaqueIdSchema value.interactionId
  interactionSequence : value.interactionSequence ≤ maxSafeInteger
  normalizedRequestSha256 : Sha256Schema value.normalizedRequestSha256

instance (value : RecordedBoundaryExpectedRequest) : Decidable value.Accepted :=
  decidable_of_iff _ (RecordedBoundaryExpectedRequest.accepted_iff value).symm

def RecordedBoundaryActualRequestMetadata.Matches (actual : RecordedBoundaryActualRequestMetadata)
    (expected : RecordedBoundaryExpectedRequest) : Prop :=
  actual.kind = expected.kind
    ∧ actual.adapterName = expected.adapterName
    ∧ actual.adapterVersion = expected.adapterVersion
    ∧ actual.normalizedRequestSha256 = expected.normalizedRequestSha256

instance (actual : RecordedBoundaryActualRequestMetadata) (expected : RecordedBoundaryExpectedRequest)
    : Decidable (actual.Matches expected) :=
  inferInstanceAs (Decidable (_ ∧ _ ∧ _ ∧ _))

inductive RecordedBoundaryAttempt where
  | model (attempt : ModelInteractionAttempt) (interactionId : String) (interactionSequence : Nat)
  | tool (attempt : ToolInteractionAttempt) (callId interactionId : String) (interactionSequence : Nat)
  deriving DecidableEq

namespace RecordedBoundaryAttempt

def Accepted : RecordedBoundaryAttempt → Prop
  | .model attempt interactionId interactionSequence =>
    attempt.Accepted ∧ OpaqueIdSchema interactionId ∧ interactionSequence ≤ maxSafeInteger
  | .tool attempt callId interactionId interactionSequence =>
    attempt.Accepted ∧ ProtocolTokenSchema callId ∧ OpaqueIdSchema interactionId
      ∧ interactionSequence ≤ maxSafeInteger

instance (value : RecordedBoundaryAttempt) : Decidable value.Accepted :=
  match value with
  | .model _ _ _ => inferInstanceAs (Decidable (_ ∧ _ ∧ _))
  | .tool _ _ _ _ => inferInstanceAs (Decidable (_ ∧ _ ∧ _ ∧ _))

def expectedRequest : RecordedBoundaryAttempt → RecordedBoundaryExpectedRequest
  | .model attempt interactionId interactionSequence => {
      adapterName := attempt.normalizedRequest.adapterName
      adapterVersion := attempt.normalizedRequest.adapterVersion
      attemptId := attempt.base.attemptId
      attemptSequence := attempt.base.sequence
      interactionId
      interactionSequence
      kind := .model
      normalizedRequestSha256 := attempt.normalizedRequest.sha256
    }
  | .tool attempt _ interactionId interactionSequence => {
      adapterName := attempt.normalizedRequest.adapterName
      adapterVersion := attempt.normalizedRequest.adapterVersion
      attemptId := attempt.base.attemptId
      attemptSequence := attempt.base.sequence
      interactionId
      interactionSequence
      kind := .tool
      normalizedRequestSha256 := attempt.normalizedRequest.sha256
    }

def allowedRoles : RecordedBoundaryAttempt → List InteractionArtifactRole
  | .model _ _ _ => [.modelOutputMessages, .modelProviderResponse, .modelStreamingFrames]
  | .tool _ _ _ _ => [.toolResult]

def declaredArtifactIds : RecordedBoundaryAttempt → List String
  | .model attempt _ _ => attempt.artifacts.responseArtifactIds
  | .tool attempt _ _ _ => attempt.resultArtifactId.toList

end RecordedBoundaryAttempt

def maxReplayReturnedArtifacts : Nat := 3

structure RecordedBoundaryResolutionMetadata where
  actualRequest : RecordedBoundaryActualRequestMetadata
  expectedRequest : RecordedBoundaryExpectedRequest
  recordedAttempt : RecordedBoundaryAttempt
  returnedArtifacts : List InteractionArtifactBinding
  deriving DecidableEq

namespace RecordedBoundaryResolutionMetadata

def returnedIds (value : RecordedBoundaryResolutionMetadata) : List String :=
  value.returnedArtifacts.map (·.contentReference.artifactId)

def issues (value : RecordedBoundaryResolutionMetadata) : List String :=
  issue (value.expectedRequest ≠ value.recordedAttempt.expectedRequest)
      "Expected request must preserve the exact recorded attempt lineage"
    ++ issue (¬value.actualRequest.Matches value.expectedRequest)
      "A resolution requires an exact normalized boundary request match"
    ++ issue (∃ binding ∈ value.returnedArtifacts, binding.role ∉ value.recordedAttempt.allowedRoles)
      "A resolution can return only response-side artifacts for its boundary kind"
    ++ issue (value.returnedIds.dedup.length ≠ value.recordedAttempt.declaredArtifactIds.length
        ∨ ∃ artifactId ∈ value.recordedAttempt.declaredArtifactIds, artifactId ∉ value.returnedIds)
      (match value.recordedAttempt with
        | .model _ _ _ => "Model resolution artifacts must match the recorded response-side artifacts"
        | .tool _ _ _ _ => "Tool resolution artifacts must match the recorded result artifact")

@[mk_iff]
structure Accepted (value : RecordedBoundaryResolutionMetadata) : Prop where
  actualRequest : value.actualRequest.Accepted
  expectedRequest : value.expectedRequest.Accepted
  recordedAttempt : value.recordedAttempt.Accepted
  returnedArtifacts : ∀ binding ∈ value.returnedArtifacts, binding.Accepted
  returnedArtifacts_length : value.returnedArtifacts.length ≤ maxReplayReturnedArtifacts
  returnedArtifacts_nodup : value.returnedIds.Nodup
  returnedArtifacts_ordered : value.returnedIds.IsChain (· < ·)
  issues : value.issues = []

instance (value : RecordedBoundaryResolutionMetadata) : Decidable value.Accepted :=
  decidable_of_iff _ (accepted_iff value).symm

end RecordedBoundaryResolutionMetadata

structure RecordedBoundaryArtifactPayload where
  binding : InteractionArtifactBinding
  bytes : String
  encoding : String
  deriving DecidableEq

def RecordedBoundaryArtifactPayload.Accepted (value : RecordedBoundaryArtifactPayload) : Prop :=
  value.binding.Accepted
    ∧ ReplayBase64UrlBytesSchema value.bytes
    ∧ value.encoding = "base64url"
    ∧ issue (decodedBase64UrlSize value.bytes ≠ value.binding.contentReference.sizeBytes)
      "Returned artifact bytes must match the declared byte size" = []

instance (value : RecordedBoundaryArtifactPayload) : Decidable value.Accepted :=
  inferInstanceAs (Decidable (_ ∧ _ ∧ _ ∧ _))

structure RecordedBoundaryResponse where
  artifacts : List RecordedBoundaryArtifactPayload
  resolution : RecordedBoundaryResolutionMetadata
  schemaVersion : String
  deriving DecidableEq

namespace RecordedBoundaryResponse

def issues (value : RecordedBoundaryResponse) : List String :=
  issue (value.artifacts.map (·.binding.contentReference.artifactId) ≠ value.resolution.returnedIds)
      "Response payloads must cover the exact returned artifact metadata in order"
    ++ (value.artifacts.zip value.resolution.returnedArtifacts).flatMap (fun pair =>
      issue (pair.1.binding ≠ pair.2)
        "Response payload bindings must equal the resolved artifact bindings")

@[mk_iff]
structure Accepted (value : RecordedBoundaryResponse) : Prop where
  artifacts : ∀ payload ∈ value.artifacts, payload.Accepted
  artifacts_length : value.artifacts.length ≤ maxReplayReturnedArtifacts
  resolution : value.resolution.Accepted
  schemaVersion : value.schemaVersion = "0.1"
  issues : value.issues = []

instance (value : RecordedBoundaryResponse) : Decidable value.Accepted :=
  decidable_of_iff _ (accepted_iff value).symm

end RecordedBoundaryResponse

inductive RecordedBoundaryMismatchCode where
  | extraBoundaryRequest
  | wrongBoundaryKind
  | wrongAdapterName
  | wrongAdapterVersion
  | normalizedRequestDigestMismatch
  deriving DecidableEq

def maxReplayObservations : Nat := maxCaptureAttempts + 1

structure RecordedBoundaryMismatch where
  actualRequest : RecordedBoundaryActualRequestMetadata
  code : RecordedBoundaryMismatchCode
  expectedRequest : Option RecordedBoundaryExpectedRequest
  deriving DecidableEq

def RecordedBoundaryMismatch.Accepted (value : RecordedBoundaryMismatch) : Prop :=
  value.actualRequest.Accepted
    ∧ (∀ expected ∈ value.expectedRequest, expected.Accepted)
    ∧ issue (¬(value.code = .extraBoundaryRequest ↔ value.expectedRequest = none))
      "Only an extra boundary request can omit the expected request" = []

instance (value : RecordedBoundaryMismatch) : Decidable value.Accepted :=
  inferInstanceAs (Decidable (_ ∧ _ ∧ _))

inductive RecordedBoundaryReplayObservation where
  | matched (resolution : RecordedBoundaryResolutionMetadata) (sequence : Nat)
  | mismatch (details : RecordedBoundaryMismatch) (sequence : Nat)
  deriving DecidableEq

namespace RecordedBoundaryReplayObservation

def sequence : RecordedBoundaryReplayObservation → Nat
  | .matched _ sequence => sequence
  | .mismatch _ sequence => sequence

def boundaryRequestId : RecordedBoundaryReplayObservation → String
  | .matched resolution _ => resolution.actualRequest.boundaryRequestId
  | .mismatch details _ => details.actualRequest.boundaryRequestId

def isMatched : RecordedBoundaryReplayObservation → Bool
  | .matched _ _ => true
  | .mismatch _ _ => false

def Accepted : RecordedBoundaryReplayObservation → Prop
  | .matched resolution sequence => resolution.Accepted ∧ sequence < maxReplayObservations
  | .mismatch details sequence => details.Accepted ∧ sequence < maxReplayObservations

instance (value : RecordedBoundaryReplayObservation) : Decidable value.Accepted :=
  match value with
  | .matched _ _ => inferInstanceAs (Decidable (_ ∧ _))
  | .mismatch _ _ => inferInstanceAs (Decidable (_ ∧ _))

end RecordedBoundaryReplayObservation

inductive RecordedBoundaryReplayVerifiedControl where
  | artifactBytesVerified
  | normalizedRequestsMatched
  | recordedAttemptOrderConsumed
  | resolverHasNoLiveFallback
  | runtimeInterfacesSupplied
  deriving DecidableEq

def recordedBoundaryReplayVerifiedControls : List RecordedBoundaryReplayVerifiedControl :=
  [.artifactBytesVerified, .normalizedRequestsMatched, .recordedAttemptOrderConsumed,
    .resolverHasNoLiveFallback, .runtimeInterfacesSupplied]

inductive RecordedBoundaryReplayLimitation where
  | targetRuntimeNotIsolated
  | ambientFilesystemNotControlled
  | processEgressNotEnforced
  | dependencySnapshotNotVerified
  | runtimeControlsAreCooperative
  | boundaryRequestMismatch
  | recordedAttemptsUnconsumed
  | targetAdapterFailed
  deriving DecidableEq

def recordedBoundaryReplayLimitations : List RecordedBoundaryReplayLimitation :=
  [.targetRuntimeNotIsolated, .ambientFilesystemNotControlled, .processEgressNotEnforced,
    .dependencySnapshotNotVerified, .runtimeControlsAreCooperative, .boundaryRequestMismatch,
    .recordedAttemptsUnconsumed, .targetAdapterFailed]

def canonicalEnumValues {α : Type} [DecidableEq α] (values canonical : List α) : Prop :=
  values.Nodup ∧ (values.map canonical.idxOf).IsChain (· < ·)

instance {α : Type} [DecidableEq α] (values canonical : List α)
    : Decidable (canonicalEnumValues values canonical) :=
  inferInstanceAs (Decidable (_ ∧ _))

inductive ReproducibilityClassification where
  | bounded
  | unknown
  deriving DecidableEq

structure RecordedBoundaryReplayReproducibility where
  classification : ReproducibilityClassification
  limitations : List RecordedBoundaryReplayLimitation
  verifiedControls : List RecordedBoundaryReplayVerifiedControl
  deriving DecidableEq

def RecordedBoundaryReplayReproducibility.Accepted (value : RecordedBoundaryReplayReproducibility) : Prop :=
  boundedInteger 1 recordedBoundaryReplayLimitations.length value.limitations.length
    ∧ canonicalEnumValues value.limitations recordedBoundaryReplayLimitations
    ∧ value.verifiedControls.length ≤ recordedBoundaryReplayVerifiedControls.length
    ∧ canonicalEnumValues value.verifiedControls recordedBoundaryReplayVerifiedControls

instance (value : RecordedBoundaryReplayReproducibility) : Decidable value.Accepted :=
  inferInstanceAs (Decidable (_ ∧ _ ∧ _ ∧ _))

structure RecordedBoundaryReplayRuntimeEvidence where
  fixedClockReadCount : Nat
  randomByteCount : Nat
  randomRequestCount : Nat
  deriving DecidableEq

namespace RecordedBoundaryReplayRuntimeEvidence

def issues (value : RecordedBoundaryReplayRuntimeEvidence) : List String :=
  issue (value.randomRequestCount = 0 ∧ value.randomByteCount ≠ 0)
      "Random bytes require at least one random request"
    ++ issue (value.randomRequestCount > value.randomByteCount)
      "Each random request must produce at least one byte"

def Accepted (value : RecordedBoundaryReplayRuntimeEvidence) : Prop :=
  value.fixedClockReadCount ≤ maxSafeInteger
    ∧ value.randomByteCount ≤ maxSafeInteger
    ∧ value.randomRequestCount ≤ maxSafeInteger
    ∧ value.issues = []

instance (value : RecordedBoundaryReplayRuntimeEvidence) : Decidable value.Accepted :=
  inferInstanceAs (Decidable (_ ∧ _ ∧ _ ∧ _))

end RecordedBoundaryReplayRuntimeEvidence

inductive RecordedBoundaryReplayResultStatus where
  | completed
  | mismatch
  | incomplete
  | targetFailed
  deriving DecidableEq

def baseLimitations : List RecordedBoundaryReplayLimitation :=
  [.targetRuntimeNotIsolated, .ambientFilesystemNotControlled, .processEgressNotEnforced,
    .dependencySnapshotNotVerified, .runtimeControlsAreCooperative]

def statusLimitation : RecordedBoundaryReplayResultStatus → Option RecordedBoundaryReplayLimitation
  | .completed => none
  | .incomplete => some .recordedAttemptsUnconsumed
  | .mismatch => some .boundaryRequestMismatch
  | .targetFailed => some .targetAdapterFailed

def terminalLimitations : List RecordedBoundaryReplayLimitation :=
  [.recordedAttemptsUnconsumed, .boundaryRequestMismatch, .targetAdapterFailed]

structure RecordedBoundaryReplayResult where
  consumedAttemptCount : Nat
  expectedAttemptCount : Nat
  invocation : Definition.RecordedBoundaryReplayInvocationDefinition
  invocationDefinitionSha256 : String
  observations : List RecordedBoundaryReplayObservation
  reproducibility : RecordedBoundaryReplayReproducibility
  runtimeEvidence : RecordedBoundaryReplayRuntimeEvidence
  schemaVersion : String
  status : RecordedBoundaryReplayResultStatus
  deriving DecidableEq

namespace RecordedBoundaryReplayResult

def matchedCount (value : RecordedBoundaryReplayResult) : Nat :=
  value.observations.countP (·.isMatched)

def mismatchCount (value : RecordedBoundaryReplayResult) : Nat :=
  value.observations.countP (fun observation => !observation.isMatched)

def sharedIssues (value : RecordedBoundaryReplayResult) : List String :=
  issue (value.consumedAttemptCount > value.expectedAttemptCount)
      "Consumed attempts cannot exceed expected attempts"
    ++ issue (value.observations.map (·.sequence) ≠ List.range value.observations.length)
      "Replay observations must use a contiguous zero-based sequence"
    ++ issue (¬(value.observations.map (·.boundaryRequestId)).Nodup)
      "Boundary request IDs must be unique inside one invocation"
    ++ issue (value.matchedCount ≠ value.consumedAttemptCount)
      "Consumed attempt count must equal matched observations"
    ++ issue (¬∀ limitation ∈ baseLimitations, limitation ∈ value.reproducibility.limitations)
      "In-process replay results must disclose every base isolation limitation"

def completedIssues (value : RecordedBoundaryReplayResult) : List String :=
  issue (value.consumedAttemptCount ≠ value.expectedAttemptCount
      ∨ (∃ observation ∈ value.observations, observation.isMatched = false)
      ∨ value.reproducibility.classification ≠ .bounded
      ∨ (¬∀ control ∈ recordedBoundaryReplayVerifiedControls,
        control ∈ value.reproducibility.verifiedControls)
      ∨ ∃ limitation ∈ value.reproducibility.limitations, limitation ∈ terminalLimitations)
    "Completed replay requires exact consumption and bounded evidence"

def otherIssues (value : RecordedBoundaryReplayResult) (required : RecordedBoundaryReplayLimitation)
    : List String :=
  issue (value.reproducibility.classification ≠ .unknown)
      "Non-completed replay results require unknown reproducibility"
    ++ issue (required ∉ value.reproducibility.limitations
        ∨ ∃ limitation ∈ value.reproducibility.limitations,
          limitation ∈ terminalLimitations ∧ limitation ≠ required)
      "Replay result must disclose only its matching terminal limitation"
    ++ issue (value.status = .mismatch ∧ (value.mismatchCount ≠ 1
        ∨ value.observations.getLast?.all (·.isMatched)))
      "Mismatch status requires a terminal mismatch observation"
    ++ issue (value.status ≠ .mismatch ∧ ∃ observation ∈ value.observations, observation.isMatched = false)
      "Only mismatch results can contain mismatch observations"
    ++ issue (value.status = .incomplete ∧ value.consumedAttemptCount ≥ value.expectedAttemptCount)
      "Incomplete replay must leave at least one recorded attempt unconsumed"

def issues (value : RecordedBoundaryReplayResult) : List String :=
  value.sharedIssues
    ++ match statusLimitation value.status with
      | none => value.completedIssues
      | some required => value.otherIssues required

@[mk_iff]
structure Accepted (value : RecordedBoundaryReplayResult) : Prop where
  consumedAttemptCount : value.consumedAttemptCount ≤ maxCaptureAttempts
  expectedAttemptCount : boundedInteger 1 maxCaptureAttempts value.expectedAttemptCount
  invocation : value.invocation.Accepted
  invocationDefinitionSha256 : Sha256Schema value.invocationDefinitionSha256
  observations : ∀ observation ∈ value.observations, observation.Accepted
  observations_length : value.observations.length ≤ maxReplayObservations
  reproducibility : value.reproducibility.Accepted
  runtimeEvidence : value.runtimeEvidence.Accepted
  schemaVersion : value.schemaVersion = "0.1"
  issues : value.issues = []

instance (value : RecordedBoundaryReplayResult) : Decidable value.Accepted :=
  decidable_of_iff _ (accepted_iff value).symm

end RecordedBoundaryReplayResult

end Boundary
end Replay
end ProofStack
