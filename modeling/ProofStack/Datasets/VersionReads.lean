import ProofStack.Datasets.VersionInvariant
import ProofStack.Datasets.VersionOperations

/-!
This module contains what is read off a consistent state.
-/

namespace ProofStack
namespace Datasets

open Artifacts Checks Interaction Store

variable {platform : Platform} {tenantId : String} {state : TenantState}

theorem requireCanonicalIntent_ok {intent : RegressionVersionPublishedOutboxIntent}
    (h : state.publicationIntents.lookup (intentKey intent) = some intent)
    : requireCanonicalIntent state intent = .ok () := by
  unfold requireCanonicalIntent
  rw [failIf_eq_ok]
  exact not_not_intro h

variable {version : RecordedInteractionFixtureVersion}

theorem expectedOwnership_accepted
    (h : recordedFamily.Valid platform version) {binding : InteractionArtifactBinding}
    (hbinding : binding ∈ version.interactionCapture.artifacts)
    : (expectedOwnership version binding).Accepted where
  artifactId := (h.accepted.definition.interactionCapture.artifacts binding hbinding).1.artifactId
  boundAt := h.accepted.createdAt
  boundByPrincipalId := h.accepted.createdByPrincipalId
  fixtureId := h.accepted.definition.fixtureId
  fixtureVersionId := h.accepted.definition.fixtureVersionId
  scope := h.accepted.definition.scope

theorem expectedOwnerships_ok
    (h : recordedFamily.Valid platform version)
    : expectedOwnerships version = .ok (ownershipsOf version) := by
  apply mapM_of_forall
  intro binding hbinding
  rw [parseWith_eq_ok]
  exact ⟨expectedOwnership_accepted h hbinding, rfl⟩

theorem storedOwnership_ok {ownership : ArtifactOwnership}
    (h : state.artifactOwnerships.lookup ownership.artifactId = some ownership)
    : storedOwnership state ownership = .ok ownership := by
  dsimp only [storedOwnership]
  rw [bind_of_ok (found_eq_ok.mpr h), failIf_bind_of_false (not_not_intro rfl)]
  rfl

theorem storedRecordedFixtureRecord_ok (h : Consistent platform tenantId state) {k : String}
    (hstored : state.recordedFixtureVersions.lookup k = some version)
    : storedRecordedFixtureRecord platform state version = .ok ⟨ownershipsOf version, version⟩ := by
  have hvalid := h.recordings.valid k version hstored
  have hownerships : (ownershipsOf version).mapM (storedOwnership state) = .ok (ownershipsOf version) := by
    rw [mapM_of_forall (g := id)]
    . rw [List.map_id]
    . intro ownership hownership
      exact storedOwnership_ok (h.ownerships.ofVersion k version hstored ownership hownership)
  have hintent := requireCanonicalIntent_ok (h.recordings.intent k version hstored)
  dsimp only [storedRecordedFixtureRecord, validateStoredRecordedFixtureVersion,
    buildRecordedInteractionFixtureVersionPublishedOutboxIntent]
  rw [bind_of_ok hvalid.validateStored]
  dsimp only [VersionFamily.validated]
  rw [bind_of_ok (expectedOwnerships_ok hvalid), bind_of_ok hownerships,
    bind_of_ok hvalid.buildPublishedOutboxIntent, bind_of_ok hintent]
  rfl

def contentOf (state : TenantState) (version : RecordedInteractionFixtureVersion)
    : StoredInteractionFixtureContent :=
  match state.recordedContentRevocations.lookup version.fixtureVersionId with
  | some revocation => {
      contentAvailability := .revoked
      ownerships := ownershipsOf version
      revocation := some revocation
      tombstones := (ownershipsOf version).filterMap (fun ownership =>
        state.artifactTombstones.lookup ownership.artifactId)
      version
    }
  | none => {
      contentAvailability := .available
      ownerships := ownershipsOf version
      revocation := none
      tombstones := []
      version
    }

theorem mapM_storedTombstone {revocation : InteractionFixtureContentRevocation}
    (ownerships : List ArtifactOwnership)
    (h : ∀ ownership ∈ ownerships, TombstonedBy state.artifactMetadata state.artifactTombstones revocation
      ownership.artifactId)
    : ownerships.mapM (storedTombstone state revocation)
        = .ok (ownerships.filterMap (fun ownership =>
            state.artifactTombstones.lookup ownership.artifactId)) := by
  induction ownerships with
  | nil => rfl
  | cons ownership ownerships ih =>
    rw [List.forall_mem_cons] at h
    rcases h.1.metadata with ⟨tombstone, _, htombstone, _, haccepted, hof, _⟩
    have hfirst : storedTombstone state revocation ownership = .ok tombstone := by
      dsimp only [storedTombstone]
      rw [bind_of_ok (found_eq_ok.mpr htombstone),
        failIf_bind_of_false (not_not_intro ⟨haccepted, hof⟩)]
      rfl
    rw [List.mapM_cons, bind_of_ok hfirst, bind_of_ok (ih h.2), List.filterMap_cons, htombstone]
    rfl

theorem storedInteractionFixtureContent_ok (h : Consistent platform tenantId state) {k : String}
    (hstored : state.recordedFixtureVersions.lookup k = some version)
    : storedInteractionFixtureContent platform state version = .ok (contentOf state version) := by
  have hk : version.fixtureVersionId = k := h.recordings.keyed k version hstored
  unfold storedInteractionFixtureContent contentOf
  rw [bind_of_ok (storedRecordedFixtureRecord_ok h hstored)]
  dsimp only
  rw [hk]
  cases hrevocation : state.recordedContentRevocations.lookup k with
  | some revocation =>
    rcases h.contents.revoked k revocation hrevocation with ⟨haccepted, version', hversion, hid, hscope⟩
    rw [hstored] at hversion
    cases hversion
    have htombstones := mapM_storedTombstone (ownershipsOf version)
      (h.contents.tombstoned k version revocation hstored hrevocation)
    dsimp only
    rw [failIf_bind_of_false (not_not_intro ⟨haccepted, hid, scopesEqual_iff.mpr hscope⟩),
      bind_of_ok htombstones]
    rfl
  | none =>
    have hall : (ownershipsOf version).all (fun ownership =>
        (state.artifactMetadata.lookup ownership.artifactId).any (fun metadata =>
          metadata.state = .available)) = true := by
      rw [List.all_eq_true]
      intro ownership hownership
      rcases (h.contents.available k version hstored hrevocation ownership hownership).2 with
        ⟨row, hrow, hstate⟩
      rw [hrow]
      simp [hstate]
    dsimp only
    rw [hall]
    rfl

variable {target : StoredFixtureReferenceTarget}

theorem storedFixtureReferenceTarget_ok (h : Consistent platform tenantId state)
    (hstored : target.Stored state.fixtureVersions state.recordedFixtureVersions)
    : storedFixtureReferenceTarget state target.fixtureVersionId = .ok (some target) := by
  unfold storedFixtureReferenceTarget
  have hdisjoint := h.disjoint target.fixtureVersionId
  cases target with
  | evidence value =>
    have hvalue : state.fixtureVersions.lookup value.fixtureVersionId = some value := hstored
    dsimp only [StoredFixtureReferenceTarget.fixtureVersionId] at hdisjoint ⊢
    rw [hvalue] at hdisjoint ⊢
    rw [hdisjoint.resolve_left (Option.some_ne_none value)]
  | recorded value =>
    have hvalue : state.recordedFixtureVersions.lookup value.fixtureVersionId = some value := hstored
    dsimp only [StoredFixtureReferenceTarget.fixtureVersionId] at hdisjoint ⊢
    rw [hvalue] at hdisjoint ⊢
    rw [hdisjoint.resolve_right (Option.some_ne_none value)]

theorem validateFixtureReferenceTarget_ok (h : Consistent platform tenantId state)
    (hstored : target.Stored state.fixtureVersions state.recordedFixtureVersions)
    : validateFixtureReferenceTarget platform target = .ok target := by
  cases target with
  | evidence value =>
    dsimp only [validateFixtureReferenceTarget, validateStoredFixtureVersion]
    rw [bind_of_ok (h.fixtures.valid _ value hstored).validateStored]
    rfl
  | recorded value =>
    dsimp only [validateFixtureReferenceTarget, validateStoredRecordedFixtureVersion]
    rw [bind_of_ok (h.recordings.valid _ value hstored).validateStored]
    rfl

theorem resolveReference_ok (h : Consistent platform tenantId state) {scope : EvidenceScope}
    {reference : RegressionFixtureVersionReference}
    (hrefers : RefersTo state.fixtureVersions state.recordedFixtureVersions scope reference target)
    : resolveReference platform state scope reference.toRequestedRegressionFixtureVersionReference
        = .ok (some reference) := by
  have hnot : ¬(¬hasExactStoredScope target.scope scope ∨ target.fixtureId ≠ reference.fixtureId) := by
    rw [not_or, not_not, not_not, hasExactStoredScope_iff]
    exact ⟨hrefers.scope, hrefers.fixtureId⟩
  dsimp only [resolveReference]
  rw [← hrefers.fixtureVersionId, bind_of_ok (storedFixtureReferenceTarget_ok h hrefers.stored)]
  dsimp only
  rw [if_neg hnot, bind_of_ok (validateFixtureReferenceTarget_ok h hrefers.stored),
    hrefers.definitionSha256, hrefers.fixtureId, hrefers.fixtureVersionId]
  rfl

theorem resolveReferences_ok (h : Consistent platform tenantId state) {scope : EvidenceScope}
    (references : List RegressionFixtureVersionReference)
    (hrefers : ∀ reference ∈ references, ∃ target,
      RefersTo state.fixtureVersions state.recordedFixtureVersions scope reference target)
    : resolveReferences platform state scope
        (references.map (·.toRequestedRegressionFixtureVersionReference)) = .ok (some references) := by
  induction references with
  | nil => rfl
  | cons reference references ih =>
    rw [List.forall_mem_cons] at hrefers
    rcases hrefers.1 with ⟨target, htarget⟩
    rw [List.map_cons, resolveReferences, bind_of_ok (resolveReference_ok h htarget)]
    dsimp only
    rw [bind_of_ok (ih hrefers.2)]
    rfl

theorem logicalRoot_ok {V D : Type} {family : VersionFamily V D} (missing inconsistent : String)
    {resources : Table String LogicalResourceBinding} {versions : Table String V}
    (hpublished : Published platform family tenantId versions state.publicationIntents)
    {version root : V} {binding : LogicalResourceBinding}
    (hbinding : resources.lookup (family.lineage.resource version) = some binding)
    (hscope : binding.scope = family.lineage.scope version)
    (hroot : versions.lookup binding.rootVersionId = some root)
    (hnone : family.lineage.predecessor root = none)
    (hreaches : family.lineage.Reaches versions version root) (versionId : String)
    : logicalRoot platform family missing inconsistent resources versions state
        (family.lineage.resource version) versionId (family.lineage.scope version) = .ok root := by
  have hvalid := hpublished.valid _ root hroot
  have hsame := hreaches.same
  have hkey : family.lineage.key root = binding.rootVersionId := hpublished.keyed _ root hroot
  have hconsistent : ¬((family.lineage.predecessor root).isSome
      ∨ family.lineage.resource root ≠ family.lineage.resource version
      ∨ family.lineage.key root ≠ binding.rootVersionId
      ∨ ¬scopesEqual (family.lineage.scope root) (family.lineage.scope version)) := by
    rw [hnone, scopesEqual_iff, hkey, hsame.1, hsame.2]
    simp
  unfold logicalRoot
  rw [bind_of_ok (found_eq_ok.mpr hbinding), bind_of_ok (found_eq_ok.mpr hroot),
    failIf_bind_of_false (not_not_intro (hasExactStoredScope_iff.mpr hscope)),
    bind_of_ok hvalid.validateStored]
  dsimp only [VersionFamily.validated]
  rw [failIf_bind_of_false hconsistent]
  split
  . rw [bind_of_ok hvalid.buildPublishedOutboxIntent,
      bind_of_ok (requireCanonicalIntent_ok (hpublished.intent _ root hroot))]
    rfl
  . rfl

end Datasets
end ProofStack
