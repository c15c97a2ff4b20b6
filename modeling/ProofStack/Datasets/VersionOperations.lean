import ProofStack.Datasets.VersionRepository

/-!
This module contains the operations and the readers of the in-memory repository of regression versions,
and the step that an operation takes whether it returns or throws.
-/

namespace ProofStack
namespace Datasets

open Artifacts Checks Sequence StateMachine Store

section Operations

variable (platform : Platform)

abbrev Operation (α : Type) : Type :=
  EStateM RegressionError MemoryRegressionVersionRepository α

def injected (kind : RegressionVersionPublicationKind)
    : Option (RegressionVersionPublicationKind × RegressionError) :=
  some (kind, .injected kind)

def publishDatasetVersion (candidate : RegressionDatasetVersion)
    : Operation (PublishRegressionVersionResult RegressionDatasetVersion) := do
  let validated ← attempting (validateAndProjectRegressionDatasetVersion platform candidate)
  Tenanted.transact validated.version.scope.tenantId (injected .dataset)
    (planDatasetVersion platform validated)

def publishFixtureVersion (candidate : RegressionFixtureVersion)
    : Operation (PublishRegressionVersionResult RegressionFixtureVersion) := do
  let validated ← attempting (validateAndProjectRegressionFixtureVersion platform candidate)
  Tenanted.transact validated.version.scope.tenantId (injected .fixture)
    (planFixtureVersion platform validated)

def publishRecordedInteractionFixtureVersion (candidate : RecordedInteractionFixtureVersion)
    : Operation PublishRecordedInteractionFixtureVersionResult := do
  let validated ← attempting (validateAndProjectRecordedInteractionFixtureVersion platform candidate)
  Tenanted.transact validated.version.scope.tenantId (injected .interactionFixture)
    (planRecordedInteractionFixtureVersion platform validated)

structure RevokeInteractionFixtureContentCandidate where
  revocation : InteractionFixtureContentRevocation
  tombstones : List ArtifactTombstone

def revokeRecordedInteractionFixtureContent (candidate : RevokeInteractionFixtureContentCandidate)
    : Operation RevokeInteractionFixtureContentResult := do
  let revocation ← attempting (parseWith candidate.revocation.Accepted .zod candidate.revocation)
  let tombstones ← attempting (candidate.tombstones.mapM (fun value => parseWith value.Accepted .zod value))
  Tenanted.transact revocation.scope.tenantId (injected .interactionRevocation)
    (planContentRevocation platform revocation tombstones)

def seedInteractionArtifact (metadataInput : ArtifactMetadata) : Operation Unit := do
  let metadata ← attempting (parseWith metadataInput.Accepted .zod metadataInput)
  Tenanted.transact metadata.scope.tenantId none (planInteractionArtifact metadata)

def failNextPublicationIntent (kind : RegressionVersionPublicationKind) : Operation Unit :=
  modify (·.failNext kind)

inductive Command where
  | publishDatasetVersion (candidate : RegressionDatasetVersion)
  | publishFixtureVersion (candidate : RegressionFixtureVersion)
  | publishRecordedInteractionFixtureVersion (candidate : RecordedInteractionFixtureVersion)
  | revokeRecordedInteractionFixtureContent (candidate : RevokeInteractionFixtureContentCandidate)
  | seedInteractionArtifact (metadata : ArtifactMetadata)
  | failNextPublicationIntent (kind : RegressionVersionPublicationKind)

inductive Response where
  | datasetVersion (result : PublishRegressionVersionResult RegressionDatasetVersion)
  | fixtureVersion (result : PublishRegressionVersionResult RegressionFixtureVersion)
  | recordedFixtureVersion (result : PublishRecordedInteractionFixtureVersionResult)
  | contentRevocation (result : RevokeInteractionFixtureContentResult)
  | done
  deriving DecidableEq

def execute : Command → Operation Response
  | .publishDatasetVersion candidate => .datasetVersion <$> publishDatasetVersion platform candidate
  | .publishFixtureVersion candidate => .fixtureVersion <$> publishFixtureVersion platform candidate
  | .publishRecordedInteractionFixtureVersion candidate =>
    .recordedFixtureVersion <$> publishRecordedInteractionFixtureVersion platform candidate
  | .revokeRecordedInteractionFixtureContent candidate =>
    .contentRevocation <$> revokeRecordedInteractionFixtureContent platform candidate
  | .seedInteractionArtifact metadata => (fun _ => .done) <$> seedInteractionArtifact metadata
  | .failNextPublicationIntent kind => (fun _ => .done) <$> failNextPublicationIntent kind

/-- What a failed operation has written before it throws is kept. -/
def step (s : MemoryRegressionVersionRepository) (command : Command) : MemoryRegressionVersionRepository :=
  after (execute platform command s)

def logicalRoot {V D : Type} (family : VersionFamily V D) (missing inconsistent : String)
    (resources : Table String LogicalResourceBinding) (versions : Table String V) (state : TenantState)
    (resource versionId : String) (scope : EvidenceScope) : Except RegressionError V := do
  let binding ← found (resources.lookup resource) (.regressionRepositoryContract missing)
  let retained ← found (versions.lookup binding.rootVersionId) (.regressionRepositoryContract missing)
  failIf (¬hasExactStoredScope binding.scope scope) (.regressionRepositoryContract missing)
  let root := (← family.validateStored platform retained).version
  failIf ((family.lineage.predecessor root).isSome
      ∨ family.lineage.resource root ≠ resource
      ∨ family.lineage.key root ≠ binding.rootVersionId
      ∨ ¬scopesEqual (family.lineage.scope root) scope)
    (.regressionRepositoryContract inconsistent)
  if family.lineage.key root ≠ versionId then
    requireCanonicalIntent state (← family.buildPublishedOutboxIntent platform root)
  return root

variable (s : MemoryRegressionVersionRepository)

def findDatasetLogicalRoot (scopeInput : EvidenceScope) (datasetVersionIdInput : String)
    : Except RegressionError (Option RegressionDatasetVersion) := do
  let scope ← parseWith (EvidenceScopeSchema scopeInput) .zod scopeInput
  let datasetVersionId ← parseWith (OpaqueIdSchema datasetVersionIdInput) .zod datasetVersionIdInput
  let state := s.tenant scope.tenantId
  match state.datasetVersions.lookup datasetVersionId with
  | none => return none
  | some stored =>
    if ¬hasExactStoredScope stored.scope scope then
      return none
    else
      let version := (← validateStoredDatasetVersion platform stored).version
      requireCanonicalIntent state (← buildRegressionDatasetVersionPublishedOutboxIntent platform version)
      return some (← logicalRoot platform datasetFamily "Stored dataset is missing its exact logical root"
        "Stored dataset logical root is inconsistent" state.datasetResources state.datasetVersions state
        version.datasetId version.datasetVersionId scope)

def fixtureLogicalRoot (state : TenantState) (version : StoredFixtureReferenceTarget)
    : Except RegressionError RegressionFixtureVersion := do
  match version with
  | .evidence value =>
    requireCanonicalIntent state (← buildRegressionFixtureVersionPublishedOutboxIntent platform value)
  | .recorded value =>
    requireCanonicalIntent state
      (← buildRecordedInteractionFixtureVersionPublishedOutboxIntent platform value)
  logicalRoot platform fixtureFamily "Stored fixture is missing its exact logical root"
    "Stored fixture logical root is inconsistent" state.fixtureResources state.fixtureVersions state
    version.fixtureId version.fixtureVersionId version.scope

def findFixtureLogicalRoot (scopeInput : EvidenceScope) (fixtureVersionIdInput : String)
    : Except RegressionError (Option RegressionFixtureVersion) := do
  let scope ← parseWith (EvidenceScopeSchema scopeInput) .zod scopeInput
  let fixtureVersionId ← parseWith (OpaqueIdSchema fixtureVersionIdInput) .zod fixtureVersionIdInput
  let state := s.tenant scope.tenantId
  match state.fixtureVersions.lookup fixtureVersionId with
  | none => return none
  | some stored =>
    if ¬hasExactStoredScope stored.scope scope then
      return none
    else
      let version := (← validateStoredFixtureVersion platform stored).version
      return some (← fixtureLogicalRoot platform state (.evidence version))

def findRecordedInteractionFixtureLogicalRoot (scopeInput : EvidenceScope) (fixtureVersionIdInput : String)
    : Except RegressionError (Option RegressionFixtureVersion) := do
  let scope ← parseWith (EvidenceScopeSchema scopeInput) .zod scopeInput
  let fixtureVersionId ← parseWith (OpaqueIdSchema fixtureVersionIdInput) .zod fixtureVersionIdInput
  let state := s.tenant scope.tenantId
  match state.recordedFixtureVersions.lookup fixtureVersionId with
  | none => return none
  | some stored =>
    if ¬hasExactStoredScope stored.scope scope then
      return none
    else
      let version := (← storedRecordedFixtureRecord platform state stored).version
      return some (← fixtureLogicalRoot platform state (.recorded version))

def findRecordedInteractionFixtureContent (scope : EvidenceScope) (fixtureVersionId : String)
    : Except RegressionError (Option StoredInteractionFixtureContent) := do
  let state := s.tenant scope.tenantId
  match state.recordedFixtureVersions.lookup fixtureVersionId with
  | none => return none
  | some stored =>
    if ¬hasExactStoredScope stored.scope scope then
      return none
    else
      return some (← storedInteractionFixtureContent platform state stored)

def resolveReference (state : TenantState) (scope : EvidenceScope)
    (reference : RequestedRegressionFixtureVersionReference)
    : Except RegressionError (Option RegressionFixtureVersionReference) := do
  match ← storedFixtureReferenceTarget state reference.fixtureVersionId with
  | none => return none
  | some target =>
    if ¬hasExactStoredScope target.scope scope ∨ target.fixtureId ≠ reference.fixtureId then
      return none
    else
      let stored ← validateFixtureReferenceTarget platform target
      return some {
        definitionSha256 := stored.definitionSha256
        fixtureId := stored.fixtureId
        fixtureVersionId := stored.fixtureVersionId
      }

def resolveReferences (state : TenantState) (scope : EvidenceScope)
    : List RequestedRegressionFixtureVersionReference
      → Except RegressionError (Option (List RegressionFixtureVersionReference))
  | [] => return some []
  | reference :: references => do
    match ← resolveReference platform state scope reference with
    | none => return none
    | some resolved => return (← resolveReferences state scope references).map (resolved :: ·)

def resolveFixtureVersionReferences (scope : EvidenceScope)
    (references : List RequestedRegressionFixtureVersionReference)
    : Except RegressionError (Option (List RegressionFixtureVersionReference)) :=
  if references = [] then .ok (some [])
  else
    match s.tenants.lookup scope.tenantId with
    | none => .ok none
    | some state => resolveReferences platform state scope references

def publishedIntents (tenantId : String) : List RegressionVersionPublishedOutboxIntent :=
  sortBy intentOrderKey (s.tenant tenantId).publicationIntents.values

end Operations

end Datasets
end ProofStack
