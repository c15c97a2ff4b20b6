import ProofStack.Contracts.InteractionCapture
import ProofStack.Contracts.Text

/-!
This module contains the immutable versions of regression fixtures and datasets, and the revocation of
the contents that a fixture has recorded.
-/

namespace ProofStack

namespace Artifacts

@[mk_iff]
structure ArtifactOwnership.Accepted (value : ArtifactOwnership) : Prop where
  artifactId : OpaqueIdSchema value.artifactId
  boundAt : value.boundAt.IsUtcMillisecond
  boundByPrincipalId : OpaqueIdSchema value.boundByPrincipalId
  fixtureId : OpaqueIdSchema value.fixtureId
  fixtureVersionId : OpaqueIdSchema value.fixtureVersionId
  scope : EvidenceScopeSchema value.scope

instance (value : ArtifactOwnership) : Decidable value.Accepted :=
  decidable_of_iff _ (ArtifactOwnership.accepted_iff value).symm

@[mk_iff]
structure ArtifactTombstone.Accepted (value : ArtifactTombstone) : Prop where
  actorPrincipalId : OpaqueIdSchema value.actorPrincipalId
  artifactId : OpaqueIdSchema value.artifactId
  reason : ArtifactTombstoneReasonSchema value.reason
  tombstoneId : OpaqueIdSchema value.tombstoneId

instance (value : ArtifactTombstone) : Decidable value.Accepted :=
  decidable_of_iff _ (ArtifactTombstone.accepted_iff value).symm

end Artifacts

namespace Datasets

open Artifacts Interaction

def maxFixtureSourceEvents : Nat := 1000
def maxDatasetFixtureVersions : Nat := 500

def TraceIdSchema (traceId : String) : Bool :=
  traceId.toList.length == 32
    && traceId.toList.all (fun c => isDigitAscii c || ('a' ≤ c && c ≤ 'f'))
    && !traceId.toList.all (· == '0')

def RegressionVersionNameSchema (isNFC : String → Bool) (name : String) : Bool :=
  boundedCanonicalText isNFC 128 name

def RegressionVersionDescriptionSchema (isNFC : String → Bool) (description : String) : Bool :=
  boundedCanonicalText isNFC 2048 description

def evidenceTimestampOrderKey (value : PolicyEvaluationTime) : Int :=
  value.orderKey / 10 ^ 24

structure RegressionTraceSnapshotDefinition where
  eventIds : List String
  kind : String
  observedEventCount : Nat
  sourceCompleteness : String
  traceId : String
  deriving DecidableEq

def RegressionTraceSnapshotDefinition.refineObservedEventCount (value : RegressionTraceSnapshotDefinition)
    : List String :=
  issue (value.observedEventCount ≠ value.eventIds.length)
    "observedEventCount must equal the number of captured eventIds"

@[mk_iff]
structure RegressionTraceSnapshotDefinition.Accepted (value : RegressionTraceSnapshotDefinition)
    : Prop where
  eventIds : ∀ eventId ∈ value.eventIds, OpaqueIdSchema eventId
  eventIds_length : boundedInteger 1 maxFixtureSourceEvents value.eventIds.length
  eventIds_nodup : value.eventIds.Nodup
  kind : value.kind = "trace_snapshot"
  observedEventCount : boundedInteger 1 maxFixtureSourceEvents value.observedEventCount
  sourceCompleteness : value.sourceCompleteness = "observed_snapshot"
  traceId : TraceIdSchema value.traceId
  issues : value.refineObservedEventCount = []

instance (value : RegressionTraceSnapshotDefinition) : Decidable value.Accepted :=
  decidable_of_iff _ (RegressionTraceSnapshotDefinition.accepted_iff value).symm

structure RegressionTraceSnapshot extends RegressionTraceSnapshotDefinition where
  capturedAt : EvidenceTimestamp
  deriving DecidableEq

structure RegressionFixturePredecessor where
  definitionSha256 : String
  fixtureVersionId : String
  deriving DecidableEq

def RegressionFixturePredecessor.Accepted (value : RegressionFixturePredecessor) : Prop :=
  Sha256Schema value.definitionSha256 ∧ OpaqueIdSchema value.fixtureVersionId

instance (value : RegressionFixturePredecessor) : Decidable value.Accepted :=
  inferInstanceAs (Decidable (_ ∧ _))

def refineFixturePredecessor (fixtureVersionId : String) (predecessor : Option RegressionFixturePredecessor)
    : List String :=
  issue (predecessor.map (·.fixtureVersionId) = some fixtureVersionId)
    "A fixture version cannot name itself as its predecessor"

def refineCaptureTime (source : RegressionTraceSnapshot) (createdAt : PolicyEvaluationTime) : List String :=
  issue (evidenceTimestampOrderKey createdAt < source.capturedAt.orderKey)
    "createdAt cannot be earlier than the trace capture time"

structure RegressionFixtureVersionDefinition where
  description : Option String
  fixtureId : String
  fixtureVersionId : String
  name : String
  predecessor : Option RegressionFixturePredecessor
  replayability : String
  schemaVersion : String
  scope : EvidenceScope
  source : RegressionTraceSnapshotDefinition
  deriving DecidableEq

@[mk_iff]
structure RegressionFixtureVersionDefinition.Accepted (isNFC : String → Bool)
    (value : RegressionFixtureVersionDefinition) : Prop where
  description : ∀ description ∈ value.description, RegressionVersionDescriptionSchema isNFC description
  fixtureId : OpaqueIdSchema value.fixtureId
  fixtureVersionId : OpaqueIdSchema value.fixtureVersionId
  name : RegressionVersionNameSchema isNFC value.name
  predecessor : ∀ predecessor ∈ value.predecessor, predecessor.Accepted
  replayability : value.replayability = "evidence_only"
  schemaVersion : value.schemaVersion = "0.1"
  scope : EvidenceScopeSchema value.scope
  source : value.source.Accepted
  issues : refineFixturePredecessor value.fixtureVersionId value.predecessor = []

instance (isNFC : String → Bool) (value : RegressionFixtureVersionDefinition)
    : Decidable (value.Accepted isNFC) :=
  decidable_of_iff _ (RegressionFixtureVersionDefinition.accepted_iff isNFC value).symm

structure RegressionFixtureVersion where
  createdAt : PolicyEvaluationTime
  createdByPrincipalId : String
  definitionSha256 : String
  description : Option String
  fixtureId : String
  fixtureVersionId : String
  name : String
  predecessor : Option RegressionFixturePredecessor
  replayability : String
  schemaVersion : String
  scope : EvidenceScope
  source : RegressionTraceSnapshot
  deriving DecidableEq

namespace RegressionFixtureVersion

def definition (value : RegressionFixtureVersion) : RegressionFixtureVersionDefinition where
  description := value.description
  fixtureId := value.fixtureId
  fixtureVersionId := value.fixtureVersionId
  name := value.name
  predecessor := value.predecessor
  replayability := value.replayability
  schemaVersion := value.schemaVersion
  scope := value.scope
  source := value.source.toRegressionTraceSnapshotDefinition

/-- The fields that a version shares with its definition have the schemas of the definition. -/
@[mk_iff]
structure Accepted (isNFC : String → Bool) (value : RegressionFixtureVersion) : Prop where
  createdAt : value.createdAt.IsUtcMillisecond
  createdByPrincipalId : OpaqueIdSchema value.createdByPrincipalId
  definitionSha256 : Sha256Schema value.definitionSha256
  definition : value.definition.Accepted isNFC
  issues : refineCaptureTime value.source value.createdAt = []

instance (isNFC : String → Bool) (value : RegressionFixtureVersion) : Decidable (value.Accepted isNFC) :=
  decidable_of_iff _ (accepted_iff isNFC value).symm

end RegressionFixtureVersion

structure RecordedInteractionFixtureVersionDefinition where
  description : Option String
  fixtureId : String
  fixtureVersionId : String
  interactionCapture : InteractionCaptureManifest
  name : String
  predecessor : RegressionFixturePredecessor
  replayability : String
  schemaVersion : String
  scope : EvidenceScope
  source : RegressionTraceSnapshotDefinition
  deriving DecidableEq

@[mk_iff]
structure RecordedInteractionFixtureVersionDefinition.Accepted (isNFC : String → Bool)
    (value : RecordedInteractionFixtureVersionDefinition) : Prop where
  description : ∀ description ∈ value.description, RegressionVersionDescriptionSchema isNFC description
  fixtureId : OpaqueIdSchema value.fixtureId
  fixtureVersionId : OpaqueIdSchema value.fixtureVersionId
  interactionCapture : value.interactionCapture.Accepted
  name : RegressionVersionNameSchema isNFC value.name
  predecessor : value.predecessor.Accepted
  replayability : value.replayability = "recorded_interactions"
  schemaVersion : value.schemaVersion = "0.2"
  scope : EvidenceScopeSchema value.scope
  source : value.source.Accepted
  issues : refineFixturePredecessor value.fixtureVersionId value.predecessor = []

instance (isNFC : String → Bool) (value : RecordedInteractionFixtureVersionDefinition)
    : Decidable (value.Accepted isNFC) :=
  decidable_of_iff _ (RecordedInteractionFixtureVersionDefinition.accepted_iff isNFC value).symm

structure RecordedInteractionFixtureVersion where
  createdAt : PolicyEvaluationTime
  createdByPrincipalId : String
  definitionSha256 : String
  description : Option String
  fixtureId : String
  fixtureVersionId : String
  interactionCapture : InteractionCaptureManifest
  name : String
  predecessor : RegressionFixturePredecessor
  replayability : String
  schemaVersion : String
  scope : EvidenceScope
  source : RegressionTraceSnapshot
  deriving DecidableEq

namespace RecordedInteractionFixtureVersion

def definition (value : RecordedInteractionFixtureVersion)
    : RecordedInteractionFixtureVersionDefinition where
  description := value.description
  fixtureId := value.fixtureId
  fixtureVersionId := value.fixtureVersionId
  interactionCapture := value.interactionCapture
  name := value.name
  predecessor := value.predecessor
  replayability := value.replayability
  schemaVersion := value.schemaVersion
  scope := value.scope
  source := value.source.toRegressionTraceSnapshotDefinition

@[mk_iff]
structure Accepted (isNFC : String → Bool) (value : RecordedInteractionFixtureVersion) : Prop where
  createdAt : value.createdAt.IsUtcMillisecond
  createdByPrincipalId : OpaqueIdSchema value.createdByPrincipalId
  definitionSha256 : Sha256Schema value.definitionSha256
  definition : value.definition.Accepted isNFC
  issues : refineCaptureTime value.source value.createdAt = []

instance (isNFC : String → Bool) (value : RecordedInteractionFixtureVersion)
    : Decidable (value.Accepted isNFC) :=
  decidable_of_iff _ (accepted_iff isNFC value).symm

end RecordedInteractionFixtureVersion

structure RequestedRegressionFixtureVersionReference where
  fixtureId : String
  fixtureVersionId : String
  deriving DecidableEq

structure RegressionFixtureVersionReference extends RequestedRegressionFixtureVersionReference where
  definitionSha256 : String
  deriving DecidableEq

@[mk_iff]
structure RegressionFixtureVersionReference.Accepted (value : RegressionFixtureVersionReference)
    : Prop where
  definitionSha256 : Sha256Schema value.definitionSha256
  fixtureId : OpaqueIdSchema value.fixtureId
  fixtureVersionId : OpaqueIdSchema value.fixtureVersionId

instance (value : RegressionFixtureVersionReference) : Decidable value.Accepted :=
  decidable_of_iff _ (RegressionFixtureVersionReference.accepted_iff value).symm

structure RegressionDatasetPredecessor where
  datasetVersionId : String
  definitionSha256 : String
  deriving DecidableEq

def RegressionDatasetPredecessor.Accepted (value : RegressionDatasetPredecessor) : Prop :=
  OpaqueIdSchema value.datasetVersionId ∧ Sha256Schema value.definitionSha256

instance (value : RegressionDatasetPredecessor) : Decidable value.Accepted :=
  inferInstanceAs (Decidable (_ ∧ _))

def refineDatasetPredecessor (datasetVersionId : String) (predecessor : Option RegressionDatasetPredecessor)
    : List String :=
  issue (predecessor.map (·.datasetVersionId) = some datasetVersionId)
    "A dataset version cannot name itself as its predecessor"

structure RegressionDatasetVersionDefinition where
  datasetId : String
  datasetVersionId : String
  description : Option String
  fixtureVersions : List RegressionFixtureVersionReference
  name : String
  predecessor : Option RegressionDatasetPredecessor
  schemaVersion : String
  scope : EvidenceScope
  deriving DecidableEq

@[mk_iff]
structure RegressionDatasetVersionDefinition.Accepted (isNFC : String → Bool)
    (value : RegressionDatasetVersionDefinition) : Prop where
  datasetId : OpaqueIdSchema value.datasetId
  datasetVersionId : OpaqueIdSchema value.datasetVersionId
  description : ∀ description ∈ value.description, RegressionVersionDescriptionSchema isNFC description
  fixtureVersions : ∀ reference ∈ value.fixtureVersions, reference.Accepted
  fixtureVersions_length : boundedInteger 1 maxDatasetFixtureVersions value.fixtureVersions.length
  fixtureIds_nodup : (value.fixtureVersions.map (·.fixtureId)).Nodup
  fixtureVersionIds_nodup : (value.fixtureVersions.map (·.fixtureVersionId)).Nodup
  name : RegressionVersionNameSchema isNFC value.name
  predecessor : ∀ predecessor ∈ value.predecessor, predecessor.Accepted
  schemaVersion : value.schemaVersion = "0.1"
  scope : EvidenceScopeSchema value.scope
  issues : refineDatasetPredecessor value.datasetVersionId value.predecessor = []

instance (isNFC : String → Bool) (value : RegressionDatasetVersionDefinition)
    : Decidable (value.Accepted isNFC) :=
  decidable_of_iff _ (RegressionDatasetVersionDefinition.accepted_iff isNFC value).symm

structure RegressionDatasetVersion where
  createdAt : PolicyEvaluationTime
  createdByPrincipalId : String
  datasetId : String
  datasetVersionId : String
  definitionSha256 : String
  description : Option String
  fixtureVersions : List RegressionFixtureVersionReference
  name : String
  predecessor : Option RegressionDatasetPredecessor
  schemaVersion : String
  scope : EvidenceScope
  deriving DecidableEq

namespace RegressionDatasetVersion

def definition (value : RegressionDatasetVersion) : RegressionDatasetVersionDefinition where
  datasetId := value.datasetId
  datasetVersionId := value.datasetVersionId
  description := value.description
  fixtureVersions := value.fixtureVersions
  name := value.name
  predecessor := value.predecessor
  schemaVersion := value.schemaVersion
  scope := value.scope

@[mk_iff]
structure Accepted (isNFC : String → Bool) (value : RegressionDatasetVersion) : Prop where
  createdAt : value.createdAt.IsUtcMillisecond
  createdByPrincipalId : OpaqueIdSchema value.createdByPrincipalId
  definitionSha256 : Sha256Schema value.definitionSha256
  definition : value.definition.Accepted isNFC

instance (isNFC : String → Bool) (value : RegressionDatasetVersion) : Decidable (value.Accepted isNFC) :=
  decidable_of_iff _ (accepted_iff isNFC value).symm

end RegressionDatasetVersion

structure InteractionFixtureContentRevocation where
  fixtureId : String
  fixtureVersionId : String
  reason : String
  revocationId : String
  revokedAt : PolicyEvaluationTime
  revokedByPrincipalId : String
  schemaVersion : String
  scope : EvidenceScope
  deriving DecidableEq

@[mk_iff]
structure InteractionFixtureContentRevocation.Accepted (value : InteractionFixtureContentRevocation)
    : Prop where
  fixtureId : OpaqueIdSchema value.fixtureId
  fixtureVersionId : OpaqueIdSchema value.fixtureVersionId
  reason : ArtifactTombstoneReasonSchema value.reason
  revocationId : OpaqueIdSchema value.revocationId
  revokedAt : value.revokedAt.IsUtcMillisecond
  revokedByPrincipalId : OpaqueIdSchema value.revokedByPrincipalId
  schemaVersion : value.schemaVersion = "0.1"
  scope : EvidenceScopeSchema value.scope

instance (value : InteractionFixtureContentRevocation) : Decidable value.Accepted :=
  decidable_of_iff _ (InteractionFixtureContentRevocation.accepted_iff value).symm

end Datasets
end ProofStack
