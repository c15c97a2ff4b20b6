import Mathlib.Data.List.Lex
import ProofStack.Datasets.VersionDefinition
import ProofStack.Sequence.Keyed
import ProofStack.StateMachine.Atomic
import ProofStack.Store.Tenanted

/-!
This module contains the in-memory repository of regression versions.
-/

namespace ProofStack
namespace Datasets

open Artifacts Checks Encoding Interaction StateMachine Store

abbrev LogicalResourceBinding : Type := Binding String EvidenceScope

structure TenantState where
  artifactMetadata : Table String ArtifactMetadata
  artifactOwnerships : Table String ArtifactOwnership
  artifactTombstones : Table String ArtifactTombstone
  datasetResources : Table String LogicalResourceBinding
  datasetVersions : Table String RegressionDatasetVersion
  fixtureResources : Table String LogicalResourceBinding
  fixtureVersions : Table String RegressionFixtureVersion
  publicationIntents : Table String RegressionVersionPublishedOutboxIntent
  recordedContentRevocations : Table String InteractionFixtureContentRevocation
  recordedFixtureVersions : Table String RecordedInteractionFixtureVersion

def emptyTenantState : TenantState where
  artifactMetadata := ∅
  artifactOwnerships := ∅
  artifactTombstones := ∅
  datasetResources := ∅
  datasetVersions := ∅
  fixtureResources := ∅
  fixtureVersions := ∅
  publicationIntents := ∅
  recordedContentRevocations := ∅
  recordedFixtureVersions := ∅

instance : Inhabited TenantState :=
  ⟨emptyTenantState⟩

abbrev MemoryRegressionVersionRepository : Type :=
  Tenanted String TenantState RegressionVersionPublicationKind

def scopesEqual (left right : EvidenceScope) : Prop :=
  left.tenantId = right.tenantId
    ∧ left.projectId = right.projectId
    ∧ left.environmentId = right.environmentId

instance (left right : EvidenceScope) : Decidable (scopesEqual left right) :=
  inferInstanceAs (Decidable (_ ∧ _ ∧ _))

def hasExactStoredScope (storedScope scope : EvidenceScope) : Prop :=
  scopesEqual storedScope scope

instance (storedScope scope : EvidenceScope) : Decidable (hasExactStoredScope storedScope scope) :=
  inferInstanceAs (Decidable (scopesEqual _ _))

def intentKey (intent : RegressionVersionPublishedOutboxIntent) : String :=
  intent.eventType ++ "\x00" ++ intent.aggregateType ++ "\x00" ++ intent.aggregateId

def intentOrderKey (intent : RegressionVersionPublishedOutboxIntent) : List Nat :=
  (utf8 (intentKey intent)).map (·.toNat)

def requireCanonicalIntent (state : TenantState) (expected : RegressionVersionPublishedOutboxIntent)
    : Except RegressionError Unit :=
  failIf (state.publicationIntents.lookup (intentKey expected) ≠ some expected)
    (.regressionRepositoryContract "Stored regression version is missing its canonical publication intent")

section Operations

variable (platform : Platform)

def validateStoredFixtureVersion :=
  fixtureFamily.validateStored platform

def validateStoredDatasetVersion :=
  datasetFamily.validateStored platform

def validateStoredRecordedFixtureVersion :=
  recordedFamily.validateStored platform

def expectedOwnership (version : RecordedInteractionFixtureVersion) (binding : InteractionArtifactBinding)
    : ArtifactOwnership where
  artifactId := binding.contentReference.artifactId
  boundAt := version.createdAt
  boundByPrincipalId := version.createdByPrincipalId
  fixtureId := version.fixtureId
  fixtureVersionId := version.fixtureVersionId
  scope := version.scope

def expectedOwnerships (version : RecordedInteractionFixtureVersion)
    : Except RegressionError (List ArtifactOwnership) :=
  version.interactionCapture.artifacts.mapM (fun binding =>
    parseWith (expectedOwnership version binding).Accepted .zod (expectedOwnership version binding))

structure StoredRecordedInteractionFixtureVersion where
  ownerships : List ArtifactOwnership
  version : RecordedInteractionFixtureVersion

def storedOwnership (state : TenantState) (expected : ArtifactOwnership)
    : Except RegressionError ArtifactOwnership := do
  let missing := .regressionRepositoryContract
    "Stored recorded interaction fixture is missing canonical artifact ownership"
  let ownership ← found (state.artifactOwnerships.lookup expected.artifactId) missing
  failIf (ownership ≠ expected) missing
  return ownership

def storedRecordedFixtureRecord (state : TenantState) (input : RecordedInteractionFixtureVersion)
    : Except RegressionError StoredRecordedInteractionFixtureVersion := do
  let stored ← validateStoredRecordedFixtureVersion platform input
  let ownerships ← (← expectedOwnerships stored.version).mapM (storedOwnership state)
  let intent ← buildRecordedInteractionFixtureVersionPublishedOutboxIntent platform stored.version
  requireCanonicalIntent state intent
  return { ownerships, version := stored.version }

inductive InteractionFixtureContentAvailability where
  | available
  | revoked
  | unavailable
  deriving DecidableEq

structure StoredInteractionFixtureContent where
  contentAvailability : InteractionFixtureContentAvailability
  ownerships : List ArtifactOwnership
  revocation : Option InteractionFixtureContentRevocation
  tombstones : List ArtifactTombstone
  version : RecordedInteractionFixtureVersion
  deriving DecidableEq

def ArtifactTombstoneOf (revocation : InteractionFixtureContentRevocation) (tombstone : ArtifactTombstone)
    : Prop :=
  tombstone.actorPrincipalId = revocation.revokedByPrincipalId
    ∧ tombstone.occurredAt = revocation.revokedAt
    ∧ tombstone.reason = revocation.reason
    ∧ tombstone.trigger = .fixtureRevocation

instance (revocation : InteractionFixtureContentRevocation) (tombstone : ArtifactTombstone)
    : Decidable (ArtifactTombstoneOf revocation tombstone) :=
  inferInstanceAs (Decidable (_ ∧ _ ∧ _ ∧ _))

def storedTombstone (state : TenantState) (revocation : InteractionFixtureContentRevocation)
    (ownership : ArtifactOwnership) : Except RegressionError ArtifactTombstone := do
  let violated := .regressionRepositoryContract
    "Stored interaction fixture tombstones violate the repository contract"
  let tombstone ← found (state.artifactTombstones.lookup ownership.artifactId) violated
  failIf (¬(tombstone.Accepted ∧ ArtifactTombstoneOf revocation tombstone)) violated
  return tombstone

def storedInteractionFixtureContent (state : TenantState) (input : RecordedInteractionFixtureVersion)
    : Except RegressionError StoredInteractionFixtureContent := do
  let record ← storedRecordedFixtureRecord platform state input
  match state.recordedContentRevocations.lookup record.version.fixtureVersionId with
  | some revocation =>
    failIf (¬(revocation.Accepted ∧ revocation.fixtureId = record.version.fixtureId
        ∧ scopesEqual revocation.scope record.version.scope))
      (.regressionRepositoryContract
        "Stored interaction fixture content revocation violates the repository contract")
    let tombstones ← record.ownerships.mapM (storedTombstone state revocation)
    return {
      contentAvailability := .revoked
      ownerships := record.ownerships
      revocation := some revocation
      tombstones
      version := record.version
    }
  | none =>
    let available := record.ownerships.all (fun ownership =>
      (state.artifactMetadata.lookup ownership.artifactId).any (fun metadata =>
        metadata.state = .available))
    return {
      contentAvailability := if available then .available else .unavailable
      ownerships := record.ownerships
      revocation := none
      tombstones := []
      version := record.version
    }

inductive StoredFixtureReferenceTarget where
  | evidence (value : RegressionFixtureVersion)
  | recorded (value : RecordedInteractionFixtureVersion)
  deriving DecidableEq

namespace StoredFixtureReferenceTarget

def fixtureId : StoredFixtureReferenceTarget → String
  | .evidence value => value.fixtureId
  | .recorded value => value.fixtureId

def fixtureVersionId : StoredFixtureReferenceTarget → String
  | .evidence value => value.fixtureVersionId
  | .recorded value => value.fixtureVersionId

def definitionSha256 : StoredFixtureReferenceTarget → String
  | .evidence value => value.definitionSha256
  | .recorded value => value.definitionSha256

def scope : StoredFixtureReferenceTarget → EvidenceScope
  | .evidence value => value.scope
  | .recorded value => value.scope

end StoredFixtureReferenceTarget

def storedFixtureReferenceTarget (state : TenantState) (fixtureVersionId : String)
    : Except RegressionError (Option StoredFixtureReferenceTarget) :=
  match state.fixtureVersions.lookup fixtureVersionId, state.recordedFixtureVersions.lookup fixtureVersionId with
  | some _, some _ => .error (.regressionRepositoryContract
      "A fixture version identifier is stored in multiple version families")
  | some evidence, none => .ok (some (.evidence evidence))
  | none, some recorded => .ok (some (.recorded recorded))
  | none, none => .ok none

def validateFixtureReferenceTarget
    : StoredFixtureReferenceTarget → Except RegressionError StoredFixtureReferenceTarget
  | .evidence value => do return .evidence (← validateStoredFixtureVersion platform value).version
  | .recorded value => do return .recorded (← validateStoredRecordedFixtureVersion platform value).version

def bindingForPublication {V D : Type} (family : VersionFamily V D)
    (resources : Table String LogicalResourceBinding) (versions : Table String V) (version : V)
    : Except RegressionError (Option LogicalResourceBinding) :=
  match resources.lookup (family.lineage.resource version) with
  | none => do
    failIf (family.lineage.predecessor version).isSome .regressionVersionLineage
    return some ⟨family.lineage.key version, family.lineage.scope version⟩
  | some binding => do
    failIf (¬scopesEqual binding.scope (family.lineage.scope version)) .regressionVersionConflict
    let (predecessorId, definitionSha256) ← found (family.lineage.predecessor version)
      .regressionVersionLineage
    let predecessor ← found (versions.lookup predecessorId) .regressionVersionLineage
    let authoritative := (← family.validateStored platform predecessor).version
    failIf (family.lineage.resource authoritative ≠ family.lineage.resource version
        ∨ ¬scopesEqual (family.lineage.scope authoritative) (family.lineage.scope version)
        ∨ family.lineage.digest authoritative ≠ definitionSha256)
      .regressionVersionLineage
    return none

def fixtureBindingForPublication (state : TenantState) (version : RegressionFixtureVersion) :=
  bindingForPublication platform fixtureFamily state.fixtureResources state.fixtureVersions version

def datasetBindingForPublication (state : TenantState) (version : RegressionDatasetVersion) :=
  bindingForPublication platform datasetFamily state.datasetResources state.datasetVersions version

def validateDatasetMember (state : TenantState) (scope : EvidenceScope)
    (reference : RegressionFixtureVersionReference) : Except RegressionError Unit := do
  let target ← found (← storedFixtureReferenceTarget state reference.fixtureVersionId)
    .regressionVersionConflict
  let stored ← validateFixtureReferenceTarget platform target
  failIf (stored.fixtureId ≠ reference.fixtureId ∨ ¬scopesEqual stored.scope scope
      ∨ stored.definitionSha256 ≠ reference.definitionSha256)
    .regressionVersionConflict

def validateDatasetMembership (state : TenantState) (version : RegressionDatasetVersion)
    : Except RegressionError Unit :=
  version.fixtureVersions.forM (validateDatasetMember platform state version.scope)

def interactionFixtureBindingForPublication (state : TenantState) (version : RecordedInteractionFixtureVersion)
    : Except RegressionError Unit := do
  let binding ← found (state.fixtureResources.lookup version.fixtureId) .regressionVersionLineage
  failIf (¬scopesEqual binding.scope version.scope) .regressionVersionConflict
  let predecessor ← found (state.fixtureVersions.lookup version.predecessor.fixtureVersionId)
    .regressionVersionLineage
  let authoritative := (← validateStoredFixtureVersion platform predecessor).version
  failIf (authoritative.fixtureId ≠ version.fixtureId
      ∨ ¬scopesEqual authoritative.scope version.scope
      ∨ authoritative.definitionSha256 ≠ version.predecessor.definitionSha256
      ∨ authoritative.source ≠ version.source)
    .regressionVersionLineage

def IsBindable (state : TenantState) (version : RecordedInteractionFixtureVersion)
    (binding : InteractionArtifactBinding) (metadata : ArtifactMetadata) : Prop :=
  metadata.Accepted
    ∧ scopesEqual metadata.scope version.scope
    ∧ metadata.state = .available
    ∧ metadata.retention = .retain
    ∧ metadata.contentReference = binding.contentReference
    ∧ metadata.redaction = binding.redaction
    ∧ (state.artifactOwnerships.lookup binding.contentReference.artifactId).isNone

instance (state : TenantState) (version : RecordedInteractionFixtureVersion)
    (binding : InteractionArtifactBinding) (metadata : ArtifactMetadata)
    : Decidable (IsBindable state version binding metadata) :=
  inferInstanceAs (Decidable (_ ∧ _ ∧ _ ∧ _ ∧ _ ∧ _ ∧ _))

def requireBindable (state : TenantState) (version : RecordedInteractionFixtureVersion)
    (binding : InteractionArtifactBinding) : Except RegressionError Unit := do
  let metadata ← found (state.artifactMetadata.lookup binding.contentReference.artifactId)
    .regressionArtifactBinding
  failIf (¬IsBindable state version binding metadata) .regressionArtifactBinding

def ownershipsForPublication (state : TenantState) (version : RecordedInteractionFixtureVersion)
    : Except RegressionError (List ArtifactOwnership) := do
  version.interactionCapture.artifacts.forM (requireBindable state version)
  expectedOwnerships version

structure PublishRegressionVersionResult (V : Type) where
  created : Bool
  version : V
  deriving DecidableEq

structure PublishRecordedInteractionFixtureVersionResult where
  created : Bool
  ownerships : List ArtifactOwnership
  version : RecordedInteractionFixtureVersion
  deriving DecidableEq

structure RevokeInteractionFixtureContentResult where
  created : Bool
  content : StoredInteractionFixtureContent
  deriving DecidableEq

abbrev Plan (α : Type) : Type :=
  Planned TenantState RegressionError α

def setIntent (state : TenantState) (intent : RegressionVersionPublishedOutboxIntent) : TenantState :=
  { state with publicationIntents := state.publicationIntents.insert (intentKey intent) intent }

def TenantState.setDatasetVersion (state : TenantState) (binding : Option LogicalResourceBinding)
    (version : RegressionDatasetVersion) : TenantState :=
  { state with
    datasetResources := binding.elim state.datasetResources (state.datasetResources.insert version.datasetId)
    datasetVersions := state.datasetVersions.insert version.datasetVersionId version }

def TenantState.setFixtureVersion (state : TenantState) (binding : Option LogicalResourceBinding)
    (version : RegressionFixtureVersion) : TenantState :=
  { state with
    fixtureResources := binding.elim state.fixtureResources (state.fixtureResources.insert version.fixtureId)
    fixtureVersions := state.fixtureVersions.insert version.fixtureVersionId version }

def TenantState.setRecordedFixtureVersion (state : TenantState) (version : RecordedInteractionFixtureVersion)
    (ownerships : List ArtifactOwnership) : TenantState :=
  { state with
    recordedFixtureVersions := state.recordedFixtureVersions.insert version.fixtureVersionId version
    artifactOwnerships := Table.insertAll (·.artifactId) state.artifactOwnerships ownerships }

def planDatasetVersion
    (validated : ValidatedVersion RegressionDatasetVersion RegressionDatasetVersionDefinition)
    (current : TenantState)
    : Except RegressionError (Plan (PublishRegressionVersionResult RegressionDatasetVersion)) :=
  let version := validated.version
  match current.datasetVersions.lookup version.datasetVersionId with
  | some existing => do
    let stored ← validateStoredDatasetVersion platform existing
    let equal ← areRegressionDatasetVersionDefinitionsEqual platform stored.definition validated.definition
    failIf (¬equal) .regressionVersionConflict
    let intent ← buildRegressionDatasetVersionPublishedOutboxIntent platform stored.version
    requireCanonicalIntent current intent
    return .kept { created := false, version := stored.version }
  | none => do
    let binding ← datasetBindingForPublication platform current version
    validateDatasetMembership platform current version
    let intent ← buildRegressionDatasetVersionPublishedOutboxIntent platform version
    return .replaced (setIntent (current.setDatasetVersion binding version) intent)
      (.ok { created := true, version })

def planFixtureVersion
    (validated : ValidatedVersion RegressionFixtureVersion RegressionFixtureVersionDefinition)
    (current : TenantState)
    : Except RegressionError (Plan (PublishRegressionVersionResult RegressionFixtureVersion)) := do
  let version := validated.version
  failIf (current.recordedFixtureVersions.lookup version.fixtureVersionId).isSome .regressionVersionConflict
  match current.fixtureVersions.lookup version.fixtureVersionId with
  | some existing =>
    let stored ← validateStoredFixtureVersion platform existing
    let equal ← areRegressionFixtureVersionDefinitionsEqual platform stored.definition validated.definition
    failIf (¬equal) .regressionVersionConflict
    let intent ← buildRegressionFixtureVersionPublishedOutboxIntent platform stored.version
    requireCanonicalIntent current intent
    return .kept { created := false, version := stored.version }
  | none =>
    let binding ← fixtureBindingForPublication platform current version
    let intent ← buildRegressionFixtureVersionPublishedOutboxIntent platform version
    return .replaced (setIntent (current.setFixtureVersion binding version) intent)
      (.ok { created := true, version })

def planRecordedInteractionFixtureVersion
    (validated : ValidatedVersion RecordedInteractionFixtureVersion RecordedInteractionFixtureVersionDefinition)
    (current : TenantState)
    : Except RegressionError (Plan PublishRecordedInteractionFixtureVersionResult) :=
  let version := validated.version
  match current.recordedFixtureVersions.lookup version.fixtureVersionId with
  | some existing => do
    let stored ← storedRecordedFixtureRecord platform current existing
    let storedDefinition := (← validateStoredRecordedFixtureVersion platform stored.version).definition
    let equal ← areRecordedInteractionFixtureVersionDefinitionsEqual platform storedDefinition
      validated.definition
    failIf (¬equal) .regressionVersionConflict
    return .kept { created := false, ownerships := stored.ownerships, version := stored.version }
  | none => do
    failIf (current.fixtureVersions.lookup version.fixtureVersionId).isSome .regressionVersionConflict
    interactionFixtureBindingForPublication platform current version
    let ownerships ← ownershipsForPublication current version
    let intent ← buildRecordedInteractionFixtureVersionPublishedOutboxIntent platform version
    return .replaced (setIntent (current.setRecordedFixtureVersion version ownerships) intent)
      (.ok { created := true, ownerships, version })

def tombstoned (metadata : ArtifactMetadata) (tombstone : ArtifactTombstone) : ArtifactMetadata :=
  { metadata with state := .tombstoned, tombstonedAt := some tombstone.occurredAt }

def setTombstone (current : TenantState) (revocation : InteractionFixtureContentRevocation)
    (next : TenantState) (entry : ArtifactTombstone × ArtifactOwnership)
    : Except RegressionError TenantState := do
  let (tombstone, ownership) := entry
  let invalid := .regressionRepositoryContract "Interaction fixture revocation tombstone set is invalid"
  let metadata ← found (current.artifactMetadata.lookup ownership.artifactId) invalid
  failIf (metadata.state ≠ .available ∨ tombstone.artifactId ≠ ownership.artifactId
    ∨ ¬ArtifactTombstoneOf revocation tombstone) invalid
  return { next with
    artifactTombstones := next.artifactTombstones.insert tombstone.artifactId tombstone
    artifactMetadata := next.artifactMetadata.insert tombstone.artifactId (tombstoned metadata tombstone) }

def setRevocation (state : TenantState) (revocation : InteractionFixtureContentRevocation) : TenantState :=
  { state with recordedContentRevocations :=
      state.recordedContentRevocations.insert revocation.fixtureVersionId revocation }

def planContentRevocation (revocation : InteractionFixtureContentRevocation)
    (tombstones : List ArtifactTombstone) (current : TenantState)
    : Except RegressionError (Plan RevokeInteractionFixtureContentResult) := do
  let stored ← found (current.recordedFixtureVersions.lookup revocation.fixtureVersionId)
    .regressionVersionNotFound
  failIf (¬hasExactStoredScope stored.scope revocation.scope ∨ stored.fixtureId ≠ revocation.fixtureId)
    .regressionVersionNotFound
  match current.recordedContentRevocations.lookup revocation.fixtureVersionId with
  | some existing =>
    failIf (existing.reason ≠ revocation.reason) .contentRevocationConflict
    let content ← storedInteractionFixtureContent platform current stored
    return .kept { created := false, content }
  | none =>
    let content ← storedInteractionFixtureContent platform current stored
    failIf (tombstones.length ≠ content.ownerships.length)
      (.regressionRepositoryContract "Interaction fixture revocation tombstone set is incomplete")
    let next ← (tombstones.zip content.ownerships).foldlM (setTombstone current revocation)
      (setRevocation current revocation)
    return .replaced next do
      return { created := true, content := ← storedInteractionFixtureContent platform next stored }

def planInteractionArtifact (metadata : ArtifactMetadata) (current : TenantState)
    : Except RegressionError (Plan Unit) :=
  match current.artifactMetadata.lookup metadata.contentReference.artifactId with
  | some existing => do
    failIf (existing ≠ metadata) .regressionArtifactBinding
    return .kept ()
  | none =>
    return .replaced
      { current with artifactMetadata :=
          current.artifactMetadata.insert metadata.contentReference.artifactId metadata }
      (.ok ())

end Operations

end Datasets
end ProofStack
