import ProofStack.Datasets.VersionRevocation

/-!
This module contains what is known of the plan of an operation.
-/

namespace ProofStack
namespace Datasets

open Artifacts Checks Interaction Store

variable {platform : Platform} {tenantId : String} {state current next : TenantState}

structure Extends (state next : TenantState) : Prop where
  fixtures : Grows state.fixtureVersions next.fixtureVersions
  recordings : Grows state.recordedFixtureVersions next.recordedFixtureVersions
  datasets : Grows state.datasetVersions next.datasetVersions
  revocations : Grows state.recordedContentRevocations next.recordedContentRevocations
  tombstones : Grows state.artifactTombstones next.artifactTombstones
  metadata : ∀ artifactId row, state.artifactMetadata.lookup artifactId = some row →
    ∃ row', next.artifactMetadata.lookup artifactId = some row'
      ∧ (row' = row ∨ row'.state = .tombstoned)

theorem Extends.refl (state : TenantState) : Extends state state where
  fixtures := Grows.refl _
  recordings := Grows.refl _
  datasets := Grows.refl _
  revocations := Grows.refl _
  tombstones := Grows.refl _
  metadata _ row hrow := ⟨row, hrow, .inl rfl⟩

theorem Extends.trans {last : TenantState} (h : Extends state next) (h' : Extends next last)
    : Extends state last where
  fixtures := h.fixtures.trans h'.fixtures
  recordings := h.recordings.trans h'.recordings
  datasets := h.datasets.trans h'.datasets
  revocations := h.revocations.trans h'.revocations
  tombstones := h.tombstones.trans h'.tombstones
  metadata artifactId row hrow := by
    rcases h.metadata artifactId row hrow with ⟨row', hrow', hstate⟩
    rcases h'.metadata artifactId row' hrow' with ⟨row'', hrow'', hstate'⟩
    refine ⟨row'', hrow'', ?_⟩
    rcases hstate' with rfl | hstate'
    . exact hstate
    . exact .inr hstate'

structure Advances (platform : Platform) (tenantId : String) (revokes : Option String)
    (state next : TenantState) : Prop where
  consistent : Consistent platform tenantId next
  extends_ : Extends state next
  contents : ∀ k version, state.recordedFixtureVersions.lookup k = some version → revokes ≠ some k →
    contentOf next version = contentOf state version

theorem Advances.refl (h : Consistent platform tenantId state) (revokes : Option String)
    : Advances platform tenantId revokes state state where
  consistent := h
  extends_ := Extends.refl state
  contents _ _ _ _ := rfl

def Performs {α : Type} (platform : Platform) (tenantId : String) (revokes : Option String)
    (stored : TenantState → α → Prop) (current : TenantState) : Plan α → Prop
  | .kept result => stored current result
  | .replaced next result =>
    Advances platform tenantId revokes current next ∧ ∃ value, result = .ok value ∧ stored next value

def VersionStored {V D : Type} (platform : Platform) (family : VersionFamily V D)
    (versions : TenantState → Table String V) (version : V) (state : TenantState)
    (result : PublishRegressionVersionResult V) : Prop :=
  (versions state).lookup (family.lineage.key version) = some result.version
    ∧ family.encoded platform (family.definition result.version)
      = family.encoded platform (family.definition version)

theorem planFixtureVersion_performs (h : Consistent platform tenantId current)
    {version : RegressionFixtureVersion} (hvalid : fixtureFamily.Valid platform version)
    (htenant : version.scope.tenantId = tenantId)
    {planned : Plan (PublishRegressionVersionResult RegressionFixtureVersion)}
    (hplan : planFixtureVersion platform (fixtureFamily.validated version) current = .ok planned)
    : Performs platform tenantId none
        (VersionStored platform fixtureFamily TenantState.fixtureVersions version) current planned := by
  dsimp only [planFixtureVersion, VersionFamily.validated] at hplan
  rw [bind_eq_ok] at hplan
  rcases hplan with ⟨_, hrecorded, hplan⟩
  rw [failIf_eq_ok, Option.not_isSome_iff_eq_none] at hrecorded
  cases hexisting : current.fixtureVersions.lookup version.fixtureVersionId with
  | some existing =>
    have hstored := h.fixtures.valid _ existing hexisting
    rw [hexisting] at hplan
    dsimp only [validateStoredFixtureVersion, areRegressionFixtureVersionDefinitionsEqual] at hplan
    rw [bind_of_ok hstored.validateStored] at hplan
    dsimp only [VersionFamily.validated] at hplan
    rw [bind_of_ok (hstored.areDefinitionsEqual hvalid)] at hplan
    simp only [bind_eq_ok, failIf_eq_ok, pure_eq_ok, decide_eq_true_eq, not_not] at hplan
    rcases hplan with ⟨_, hequal, _, _, _, _, rfl⟩
    exact ⟨hexisting, hequal⟩
  | none =>
    rw [hexisting] at hplan
    dsimp only [buildRegressionFixtureVersionPublishedOutboxIntent] at hplan
    rw [bind_eq_ok] at hplan
    rcases hplan with ⟨binding, hbinding, hplan⟩
    rw [bind_of_ok hvalid.buildPublishedOutboxIntent, pure_eq_ok] at hplan
    subst hplan
    refine ⟨⟨?_, ?_, ?_⟩, _, rfl, AList.lookup_insert _, rfl⟩
    . exact h.setFixtureVersion hvalid htenant hexisting hrecorded hbinding
    . exact { Extends.refl current with fixtures := Grows.insert hexisting version }
    . intro _ _ _ _
      rfl

theorem planFixtureVersion_again (h : Consistent platform tenantId state)
    {version : RegressionFixtureVersion} (hvalid : fixtureFamily.Valid platform version)
    {result : PublishRegressionVersionResult RegressionFixtureVersion}
    (hstored : VersionStored platform fixtureFamily TenantState.fixtureVersions version state result)
    : planFixtureVersion platform (fixtureFamily.validated version) state
        = .ok (.kept { result with created := false }) := by
  rcases hstored with ⟨hlookup, hequal⟩
  have hlookup' : state.fixtureVersions.lookup version.fixtureVersionId = some result.version := hlookup
  have hexisting := h.fixtures.valid _ _ hlookup
  have hrecorded : ¬(state.recordedFixtureVersions.lookup version.fixtureVersionId).isSome := by
    rcases h.disjoint version.fixtureVersionId with hnone | hnone
    . rw [hlookup'] at hnone
      contradiction
    . simp [hnone]
  dsimp only [planFixtureVersion, VersionFamily.validated]
  rw [failIf_bind_of_false hrecorded, hlookup']
  dsimp only [validateStoredFixtureVersion, areRegressionFixtureVersionDefinitionsEqual,
    buildRegressionFixtureVersionPublishedOutboxIntent]
  rw [bind_of_ok hexisting.validateStored]
  dsimp only [VersionFamily.validated]
  rw [bind_of_ok (hexisting.areDefinitionsEqual hvalid), failIf_bind_of_false (by simpa using hequal),
    bind_of_ok hexisting.buildPublishedOutboxIntent,
    bind_of_ok (requireCanonicalIntent_ok (h.fixtures.intent _ _ hlookup))]
  rfl

theorem planDatasetVersion_performs (h : Consistent platform tenantId current)
    {version : RegressionDatasetVersion} (hvalid : datasetFamily.Valid platform version)
    (htenant : version.scope.tenantId = tenantId)
    {planned : Plan (PublishRegressionVersionResult RegressionDatasetVersion)}
    (hplan : planDatasetVersion platform (datasetFamily.validated version) current = .ok planned)
    : Performs platform tenantId none
        (VersionStored platform datasetFamily TenantState.datasetVersions version) current planned := by
  dsimp only [planDatasetVersion, VersionFamily.validated] at hplan
  cases hexisting : current.datasetVersions.lookup version.datasetVersionId with
  | some existing =>
    have hstored := h.datasets.valid _ existing hexisting
    rw [hexisting] at hplan
    dsimp only [validateStoredDatasetVersion, areRegressionDatasetVersionDefinitionsEqual] at hplan
    rw [bind_of_ok hstored.validateStored] at hplan
    dsimp only [VersionFamily.validated] at hplan
    rw [bind_of_ok (hstored.areDefinitionsEqual hvalid)] at hplan
    simp only [bind_eq_ok, failIf_eq_ok, pure_eq_ok, decide_eq_true_eq, not_not] at hplan
    rcases hplan with ⟨_, hequal, _, _, _, _, rfl⟩
    exact ⟨hexisting, hequal⟩
  | none =>
    rw [hexisting] at hplan
    dsimp only [buildRegressionDatasetVersionPublishedOutboxIntent] at hplan
    rw [bind_eq_ok] at hplan
    rcases hplan with ⟨binding, hbinding, hplan⟩
    rw [bind_eq_ok] at hplan
    rcases hplan with ⟨_, hmembers, hplan⟩
    rw [bind_of_ok hvalid.buildPublishedOutboxIntent, pure_eq_ok] at hplan
    subst hplan
    refine ⟨⟨?_, ?_, ?_⟩, _, rfl, AList.lookup_insert _, rfl⟩
    . exact h.setDatasetVersion hvalid htenant hexisting hbinding hmembers
    . exact { Extends.refl current with datasets := Grows.insert hexisting version }
    . intro _ _ _ _
      rfl

theorem planDatasetVersion_again (h : Consistent platform tenantId state)
    {version : RegressionDatasetVersion} (hvalid : datasetFamily.Valid platform version)
    {result : PublishRegressionVersionResult RegressionDatasetVersion}
    (hstored : VersionStored platform datasetFamily TenantState.datasetVersions version state result)
    : planDatasetVersion platform (datasetFamily.validated version) state
        = .ok (.kept { result with created := false }) := by
  rcases hstored with ⟨hlookup, hequal⟩
  have hlookup' : state.datasetVersions.lookup version.datasetVersionId = some result.version := hlookup
  have hexisting := h.datasets.valid _ _ hlookup
  dsimp only [planDatasetVersion, VersionFamily.validated]
  rw [hlookup']
  dsimp only [validateStoredDatasetVersion, areRegressionDatasetVersionDefinitionsEqual,
    buildRegressionDatasetVersionPublishedOutboxIntent]
  rw [bind_of_ok hexisting.validateStored]
  dsimp only [VersionFamily.validated]
  rw [bind_of_ok (hexisting.areDefinitionsEqual hvalid), failIf_bind_of_false (by simpa using hequal),
    bind_of_ok hexisting.buildPublishedOutboxIntent,
    bind_of_ok (requireCanonicalIntent_ok (h.datasets.intent _ _ hlookup))]
  rfl

def RecordingStored (platform : Platform) (version : RecordedInteractionFixtureVersion) (state : TenantState)
    (result : PublishRecordedInteractionFixtureVersionResult) : Prop :=
  state.recordedFixtureVersions.lookup version.fixtureVersionId = some result.version
    ∧ recordedFamily.encoded platform (recordedFamily.definition result.version)
      = recordedFamily.encoded platform (recordedFamily.definition version)
    ∧ result.ownerships = ownershipsOf result.version

variable {version : RecordedInteractionFixtureVersion}

theorem planRecordedInteractionFixtureVersion_performs (h : Consistent platform tenantId current)
    (hvalid : recordedFamily.Valid platform version)
    (htenant : version.scope.tenantId = tenantId)
    {planned : Plan PublishRecordedInteractionFixtureVersionResult}
    (hplan : planRecordedInteractionFixtureVersion platform (recordedFamily.validated version) current
      = .ok planned)
    : Performs platform tenantId none (RecordingStored platform version) current planned := by
  dsimp only [planRecordedInteractionFixtureVersion, VersionFamily.validated] at hplan
  cases hexisting : current.recordedFixtureVersions.lookup version.fixtureVersionId with
  | some existing =>
    have hstored := h.recordings.valid _ existing hexisting
    rw [hexisting] at hplan
    dsimp only [validateStoredRecordedFixtureVersion,
      areRecordedInteractionFixtureVersionDefinitionsEqual] at hplan
    rw [bind_of_ok (storedRecordedFixtureRecord_ok h hexisting)] at hplan
    dsimp only at hplan
    rw [bind_of_ok hstored.validateStored] at hplan
    dsimp only [VersionFamily.validated] at hplan
    rw [bind_of_ok (hstored.areDefinitionsEqual hvalid)] at hplan
    simp only [bind_eq_ok, failIf_eq_ok, pure_eq_ok, decide_eq_true_eq, not_not] at hplan
    rcases hplan with ⟨_, hequal, rfl⟩
    exact ⟨hexisting, hequal, rfl⟩
  | none =>
    rw [hexisting] at hplan
    dsimp only [buildRecordedInteractionFixtureVersionPublishedOutboxIntent] at hplan
    rw [bind_eq_ok] at hplan
    rcases hplan with ⟨_, hfixture, hplan⟩
    rw [failIf_eq_ok, Option.not_isSome_iff_eq_none] at hfixture
    rw [bind_eq_ok] at hplan
    rcases hplan with ⟨_, hbinding, hplan⟩
    rw [bind_eq_ok] at hplan
    rcases hplan with ⟨ownerships, hownerships, hplan⟩
    rw [bind_of_ok hvalid.buildPublishedOutboxIntent, pure_eq_ok] at hplan
    subst hplan
    refine ⟨⟨?_, ?_, ?_⟩, _, rfl, AList.lookup_insert _, rfl, ?_⟩
    . exact h.setRecordedFixtureVersion hvalid htenant hfixture hexisting hbinding hownerships
    . exact { Extends.refl current with recordings := Grows.insert hexisting version }
    . intro _ _ _ _
      rfl
    . exact (ownershipsForPublication_cases hvalid hownerships).1

theorem planRecordedInteractionFixtureVersion_again (h : Consistent platform tenantId state)
    (hvalid : recordedFamily.Valid platform version)
    {result : PublishRecordedInteractionFixtureVersionResult}
    (hstored : RecordingStored platform version state result)
    : planRecordedInteractionFixtureVersion platform (recordedFamily.validated version) state
        = .ok (.kept { result with created := false }) := by
  rcases hstored with ⟨hlookup, hequal, hownerships⟩
  have hexisting := h.recordings.valid _ _ hlookup
  dsimp only [planRecordedInteractionFixtureVersion, VersionFamily.validated]
  rw [hlookup]
  dsimp only [validateStoredRecordedFixtureVersion, areRecordedInteractionFixtureVersionDefinitionsEqual]
  rw [bind_of_ok (storedRecordedFixtureRecord_ok h hlookup)]
  dsimp only
  rw [bind_of_ok hexisting.validateStored]
  dsimp only [VersionFamily.validated]
  rw [bind_of_ok (hexisting.areDefinitionsEqual hvalid), failIf_bind_of_false (by simpa using hequal),
    hownerships]
  rfl

def RevocationStored (revocation : InteractionFixtureContentRevocation) (state : TenantState)
    (result : RevokeInteractionFixtureContentResult) : Prop :=
  ∃ version existing, state.recordedFixtureVersions.lookup revocation.fixtureVersionId = some version
    ∧ version.scope = revocation.scope
    ∧ version.fixtureId = revocation.fixtureId
    ∧ state.recordedContentRevocations.lookup revocation.fixtureVersionId = some existing
    ∧ existing.reason = revocation.reason
    ∧ result.content = contentOf state version

variable {revocation : InteractionFixtureContentRevocation}

theorem Revoked.advances
    {tombstones : List ArtifactTombstone}
    (h : Revoked current version revocation tombstones next) (hcurrent : Consistent platform tenantId current)
    (haccepted : revocation.Accepted) (htombstones : ∀ tombstone ∈ tombstones, tombstone.Accepted)
    : Advances platform tenantId (some revocation.fixtureVersionId) current next := by
  have hsame := h.written.same
  have hrecordings : next.recordedFixtureVersions = current.recordedFixtureVersions := by
    rw [hsame]
    rfl
  have hrevocations : next.recordedContentRevocations
      = current.recordedContentRevocations.insert revocation.fixtureVersionId revocation := by
    rw [hsame]
    rfl
  refine ⟨h.consistent hcurrent haccepted htombstones, ⟨?_, ?_, ?_, ?_, ?_, ?_⟩, ?_⟩
  . rw [hsame]
    exact Grows.refl _
  . rw [hrecordings]
    exact Grows.refl _
  . rw [hsame]
    exact Grows.refl _
  . rw [hrevocations]
    exact Grows.insert h.fresh revocation
  . -- The artifacts of the version have had no tombstones.
    intro artifactId tombstone htombstone
    rw [← htombstone]
    apply (h.written.untouched artifactId ?_).1
    rintro entry hentry rfl
    have hid := hcurrent.contents.available _ version h.stored h.fresh entry.2 (List.of_mem_zip hentry).2
    rw [hid.1] at htombstone
    contradiction
  . intro artifactId row hrow
    by_cases hentry : ∃ entry ∈ tombstones.zip (ownershipsOf version), entry.2.artifactId = artifactId
    . rcases hentry with ⟨entry, hentry, rfl⟩
      rcases h.written.written entry hentry with ⟨tombstone, _, _, _, hmetadata, _⟩
      exact ⟨_, hmetadata, .inr rfl⟩
    . push Not at hentry
      exact ⟨row, (h.written.untouched artifactId hentry).2.trans hrow, .inl rfl⟩
  . intro k other hother hrevokes
    have hne : k ≠ revocation.fixtureVersionId := fun hk => hrevokes (congrArg some hk.symm)
    have hid : other.fixtureVersionId = k := hcurrent.recordings.keyed k other hother
    have htombstone : (ownershipsOf other).filterMap (fun ownership =>
          next.artifactTombstones.lookup ownership.artifactId)
        = (ownershipsOf other).filterMap (fun ownership =>
            current.artifactTombstones.lookup ownership.artifactId) :=
      List.filterMap_congr (fun ownership hownership =>
        (h.untouched hcurrent hother hne hownership).1)
    unfold contentOf
    rw [hid, hrevocations, AList.lookup_insert_ne hne, htombstone]

theorem planContentRevocation_performs (h : Consistent platform tenantId current)
    {tombstones : List ArtifactTombstone}
    (haccepted : revocation.Accepted) (htombstones : ∀ tombstone ∈ tombstones, tombstone.Accepted)
    {planned : Plan RevokeInteractionFixtureContentResult}
    (hplan : planContentRevocation platform revocation tombstones current = .ok planned)
    : Performs platform tenantId (some revocation.fixtureVersionId) (RevocationStored revocation) current
        planned := by
  dsimp only [planContentRevocation] at hplan
  rw [bind_eq_ok] at hplan
  rcases hplan with ⟨version, hversion, hplan⟩
  rw [found_eq_ok] at hversion
  rw [bind_eq_ok] at hplan
  rcases hplan with ⟨_, hmatches, hplan⟩
  simp only [failIf_eq_ok, not_or, not_not, hasExactStoredScope_iff] at hmatches
  cases hexisting : current.recordedContentRevocations.lookup revocation.fixtureVersionId with
  | some existing =>
    rw [hexisting] at hplan
    dsimp only at hplan
    rw [bind_eq_ok] at hplan
    rcases hplan with ⟨_, hreason, hplan⟩
    rw [failIf_eq_ok, not_not] at hreason
    rw [bind_of_ok (storedInteractionFixtureContent_ok h hversion), pure_eq_ok] at hplan
    subst hplan
    exact ⟨version, existing, hversion, hmatches.1, hmatches.2, hexisting, hreason, rfl⟩
  | none =>
    have hid : version.fixtureVersionId = revocation.fixtureVersionId :=
      h.recordings.keyed _ version hversion
    rw [hexisting] at hplan
    dsimp only at hplan
    rw [bind_of_ok (storedInteractionFixtureContent_ok h hversion)] at hplan
    have hownerships : (contentOf current version).ownerships = ownershipsOf version := by
      unfold contentOf
      split <;> rfl
    rw [hownerships, bind_eq_ok] at hplan
    rcases hplan with ⟨_, hlength, hplan⟩
    rw [failIf_eq_ok, not_not] at hlength
    rw [bind_eq_ok] at hplan
    rcases hplan with ⟨next, hwritten, hplan⟩
    rw [pure_eq_ok] at hplan
    subst hplan
    have hrevoked : Revoked current version revocation tombstones next :=
      ⟨hversion, hmatches.1, hmatches.2, hexisting, hlength, tombstonesWritten hwritten⟩
    have hadvances := hrevoked.advances h haccepted htombstones
    have hstored := hadvances.extends_.recordings _ _ hversion
    have hrevocation : next.recordedContentRevocations.lookup revocation.fixtureVersionId
        = some revocation := by
      rw [hrevoked.written.same]
      exact AList.lookup_insert _
    refine ⟨hadvances, { created := true, content := contentOf next version }, ?_, ?_⟩
    . rw [bind_of_ok (storedInteractionFixtureContent_ok hadvances.consistent hstored)]
      rfl
    . exact ⟨version, revocation, hstored, hmatches.1, hmatches.2, hrevocation, rfl, rfl⟩

theorem planContentRevocation_again (h : Consistent platform tenantId state)
    {result : RevokeInteractionFixtureContentResult}
    (hstored : RevocationStored revocation state result) (tombstones : List ArtifactTombstone)
    : planContentRevocation platform revocation tombstones state
        = .ok (.kept { result with created := false }) := by
  rcases hstored with ⟨version, existing, hversion, hscope, hid, hexisting, hreason, hcontent⟩
  have hmatches : ¬(¬hasExactStoredScope version.scope revocation.scope
      ∨ version.fixtureId ≠ revocation.fixtureId) := by
    rw [not_or, not_not, not_not, hasExactStoredScope_iff]
    exact ⟨hscope, hid⟩
  dsimp only [planContentRevocation]
  rw [bind_of_ok (found_eq_ok.mpr hversion), failIf_bind_of_false hmatches, hexisting]
  dsimp only
  rw [failIf_bind_of_false (not_not_intro hreason),
    bind_of_ok (storedInteractionFixtureContent_ok h hversion), hcontent]
  rfl

def SeedStored (metadata : ArtifactMetadata) (state : TenantState) (_ : Unit) : Prop :=
  ∃ row, state.artifactMetadata.lookup metadata.contentReference.artifactId = some row
    ∧ (row = metadata ∨ row.state = .tombstoned)

theorem planInteractionArtifact_performs (h : Consistent platform tenantId current)
    {metadata : ArtifactMetadata} {planned : Plan Unit}
    (hplan : planInteractionArtifact metadata current = .ok planned)
    : Performs platform tenantId none (SeedStored metadata) current planned := by
  dsimp only [planInteractionArtifact] at hplan
  cases hexisting : current.artifactMetadata.lookup metadata.contentReference.artifactId with
  | some existing =>
    rw [hexisting] at hplan
    simp only [bind_eq_ok, failIf_eq_ok, pure_eq_ok, not_not] at hplan
    rcases hplan with ⟨_, hequal, rfl⟩
    exact ⟨existing, hexisting, .inl hequal⟩
  | none =>
    rw [hexisting] at hplan
    cases hplan
    refine ⟨⟨?_, ?_, ?_⟩, (), rfl, metadata, AList.lookup_insert _, .inl rfl⟩
    . exact h.setMetadata hexisting
    . exact { Extends.refl current with
        metadata := fun artifactId row hrow => ⟨row, Grows.insert hexisting metadata _ _ hrow, .inl rfl⟩ }
    . intro _ _ _ _
      rfl

theorem planInteractionArtifact_again {metadata : ArtifactMetadata}
    (hstored : SeedStored metadata state ())
    : planInteractionArtifact metadata state = .ok (.kept ())
        ∨ planInteractionArtifact metadata state = .error .regressionArtifactBinding
          ∧ ∃ row, state.artifactMetadata.lookup metadata.contentReference.artifactId = some row
            ∧ row.state = .tombstoned := by
  rcases hstored with ⟨row, hrow, hstate⟩
  dsimp only [planInteractionArtifact]
  rw [hrow]
  dsimp only
  by_cases hequal : row = metadata
  . left
    rw [failIf_bind_of_false (not_not_intro hequal)]
    rfl
  . right
    rw [failIf_bind_of_true hequal]
    exact ⟨rfl, row, rfl, hstate.resolve_left hequal⟩

end Datasets
end ProofStack
