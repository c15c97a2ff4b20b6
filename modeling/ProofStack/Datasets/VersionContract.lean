import ProofStack.Datasets.VersionRuns

/-!
This module contains the contract of the repository of regression versions, in terms of its readers.
-/

namespace ProofStack
namespace Datasets

open Artifacts Checks Encoding Interaction Sequence StateMachine Store

/-- The root is the version of the resource, and the only one, that has no predecessor. -/
structure IsOnlyRoot {V D : Type} (family : VersionFamily V D) (versions : Table String V)
    (version root : V) : Prop where
  stored : versions.lookup (family.lineage.key root) = some root
  predecessor : family.lineage.predecessor root = none
  resource : family.lineage.resource root = family.lineage.resource version
  scope : family.lineage.scope root = family.lineage.scope version
  only : ∀ k other, versions.lookup k = some other →
    family.lineage.resource other = family.lineage.resource version →
      family.lineage.predecessor other = none → other = root

/-- The artifacts of the contents are available until the contents are revoked, and tombstoned by the
revocation from then on. -/
def ContentsExact (state : TenantState) (content : StoredInteractionFixtureContent) : Prop :=
  match content.revocation with
  | none =>
    content.contentAvailability = .available ∧ ∀ ownership ∈ content.ownerships,
      state.artifactTombstones.lookup ownership.artifactId = none
        ∧ ∃ row, state.artifactMetadata.lookup ownership.artifactId = some row ∧ row.state = .available
  | some revocation =>
    content.contentAvailability = .revoked ∧ ∀ ownership ∈ content.ownerships,
      TombstonedBy state.artifactMetadata state.artifactTombstones revocation ownership.artifactId

def Response.again : Response → Response
  | .datasetVersion result => .datasetVersion { result with created := false }
  | .fixtureVersion result => .fixtureVersion { result with created := false }
  | .recordedFixtureVersion result => .recordedFixtureVersion { result with created := false }
  | .contentRevocation result => .contentRevocation { result with created := false }
  | .done => .done

def Retries (platform : Platform) : Command → Command → Prop
  | .publishDatasetVersion candidate, .publishDatasetVersion retried =>
    retried.definition = candidate.definition ∧ datasetFamily.Valid platform retried
  | .publishFixtureVersion candidate, .publishFixtureVersion retried =>
    retried.definition = candidate.definition ∧ fixtureFamily.Valid platform retried
  | .publishRecordedInteractionFixtureVersion candidate, .publishRecordedInteractionFixtureVersion retried =>
    retried.definition = candidate.definition ∧ recordedFamily.Valid platform retried
  | .revokeRecordedInteractionFixtureContent candidate, .revokeRecordedInteractionFixtureContent retried =>
    retried.revocation.Accepted
      ∧ (∀ tombstone ∈ retried.tombstones, tombstone.Accepted)
      ∧ retried.revocation.scope = candidate.revocation.scope
      ∧ retried.revocation.fixtureId = candidate.revocation.fixtureId
      ∧ retried.revocation.fixtureVersionId = candidate.revocation.fixtureVersionId
      ∧ retried.revocation.reason = candidate.revocation.reason
  | .seedInteractionArtifact metadata, .seedInteractionArtifact retried =>
    retried = metadata ∧ metadata.Accepted
  | _, _ => False

/-- The retry returns the stored record and changes nothing. An artifact that has been tombstoned since
is not seeded again, which changes nothing either. -/
def Repeated (platform : Platform) (s : MemoryRegressionVersionRepository) (response : Response)
    (retried : Command) : Prop :=
  execute platform retried s = .ok response.again s
    ∨ execute platform retried s = .error .regressionArtifactBinding s
      ∧ ∃ metadata row, retried = .seedInteractionArtifact metadata
        ∧ (s.tenant metadata.scope.tenantId).artifactMetadata.lookup metadata.contentReference.artifactId
            = some row
        ∧ row.state = .tombstoned

structure Contract (platform : Platform) (s : MemoryRegressionVersionRepository) : Prop where
  disjoint : ∀ tenantId k, (s.tenant tenantId).fixtureVersions.lookup k = none
    ∨ (s.tenant tenantId).recordedFixtureVersions.lookup k = none
  fixtureRoots : ∀ tenantId k version, (s.tenant tenantId).fixtureVersions.lookup k = some version →
    ∃ root, fixtureFamily.lineage.Reaches (s.tenant tenantId).fixtureVersions version root
      ∧ IsOnlyRoot fixtureFamily (s.tenant tenantId).fixtureVersions version root
      ∧ findFixtureLogicalRoot platform s version.scope k = .ok (some root)
  recordedRoots : ∀ tenantId k version,
    (s.tenant tenantId).recordedFixtureVersions.lookup k = some version →
      ∃ parent root, RecordedFrom (s.tenant tenantId).fixtureVersions version parent
        ∧ fixtureFamily.lineage.Reaches (s.tenant tenantId).fixtureVersions parent root
        ∧ IsOnlyRoot fixtureFamily (s.tenant tenantId).fixtureVersions parent root
        ∧ findRecordedInteractionFixtureLogicalRoot platform s version.scope k = .ok (some root)
  datasetRoots : ∀ tenantId k version, (s.tenant tenantId).datasetVersions.lookup k = some version →
    ∃ root, datasetFamily.lineage.Reaches (s.tenant tenantId).datasetVersions version root
      ∧ IsOnlyRoot datasetFamily (s.tenant tenantId).datasetVersions version root
      ∧ findDatasetLogicalRoot platform s version.scope k = .ok (some root)
  members : ∀ tenantId k version, (s.tenant tenantId).datasetVersions.lookup k = some version →
    (∀ reference ∈ version.fixtureVersions, ∃ target, RefersTo (s.tenant tenantId).fixtureVersions
      (s.tenant tenantId).recordedFixtureVersions version.scope reference target)
    ∧ resolveFixtureVersionReferences platform s version.scope
        (version.fixtureVersions.map (·.toRequestedRegressionFixtureVersionReference))
      = .ok (some version.fixtureVersions)
  fixtureIntents : ∀ tenantId k version, (s.tenant tenantId).fixtureVersions.lookup k = some version →
    (publishedIntents s tenantId).filter (fun intent =>
        intent.aggregateType = regressionFixtureVersionAggregateType ∧ intent.aggregateId = k)
      = [fixtureFamily.intent version]
  recordedIntents : ∀ tenantId k version,
    (s.tenant tenantId).recordedFixtureVersions.lookup k = some version →
      (publishedIntents s tenantId).filter (fun intent =>
          intent.aggregateType = regressionFixtureVersionAggregateType ∧ intent.aggregateId = k)
        = [recordedFamily.intent version]
  datasetIntents : ∀ tenantId k version, (s.tenant tenantId).datasetVersions.lookup k = some version →
    (publishedIntents s tenantId).filter (fun intent =>
        intent.aggregateType = regressionDatasetVersionAggregateType ∧ intent.aggregateId = k)
      = [datasetFamily.intent version]
  owned : ∀ tenantId k k' version other,
    (s.tenant tenantId).recordedFixtureVersions.lookup k = some version →
      (s.tenant tenantId).recordedFixtureVersions.lookup k' = some other →
        ∀ ownership ∈ ownershipsOf version, ∀ ownership' ∈ ownershipsOf other,
          ownership.artifactId = ownership'.artifactId → k = k'
  contents : ∀ tenantId k version,
    (s.tenant tenantId).recordedFixtureVersions.lookup k = some version →
      ∃ content, findRecordedInteractionFixtureContent platform s version.scope k = .ok (some content)
        ∧ content.version = version
        ∧ content.ownerships = ownershipsOf version
        ∧ content.revocation = (s.tenant tenantId).recordedContentRevocations.lookup k
        ∧ ContentsExact (s.tenant tenantId) content
  revoked : ∀ candidate result s',
    execute platform (.revokeRecordedInteractionFixtureContent candidate) s
        = .ok (.contentRevocation result) s' →
      findRecordedInteractionFixtureContent platform s' candidate.revocation.scope
          candidate.revocation.fixtureVersionId
        = .ok (some result.content) ∧ result.content.contentAvailability = .revoked
  unrevoked : ∀ command tenantId k version,
    (s.tenant tenantId).recordedFixtureVersions.lookup k = some version →
      command.revokes tenantId ≠ some k →
        findRecordedInteractionFixtureContent platform (step platform s command) version.scope k
          = findRecordedInteractionFixtureContent platform s version.scope k
  failed : ∀ command error s', execute platform command s = .error error s' → s'.tenants = s.tenants
  repeated : ∀ command response s', execute platform command s = .ok response s' →
    ∀ later, Later (step platform) s' later → ∀ retried, Retries platform command retried →
      Repeated platform later response retried
  retries : ∀ command response s', execute platform command s = .ok response s' →
    (∀ kind, command ≠ .failNextPublicationIntent kind) → Retries platform command command

variable {platform : Platform} {s : MemoryRegressionVersionRepository} {tenantId k : String}

theorem isOnlyRoot_of_rooted {V D : Type} {family : VersionFamily V D}
    {resources : Table String LogicalResourceBinding} {versions : Table String V}
    (h : family.lineage.Rooted resources versions) {version : V} (hstored : versions.lookup k = some version)
    : ∃ binding root, resources.lookup (family.lineage.resource version) = some binding
        ∧ binding.scope = family.lineage.scope version
        ∧ versions.lookup binding.rootVersionId = some root
        ∧ family.lineage.Reaches versions version root
        ∧ IsOnlyRoot family versions version root := by
  rcases h.exists_root hstored with ⟨binding, root, hbinding, hscope, hroot, hnone, hreaches, honly⟩
  have hkey : family.lineage.key root = binding.rootVersionId := h.keyed _ root hroot
  refine ⟨binding, root, hbinding, hscope, hroot, hreaches, ?_, hnone, hreaches.same.1, hreaches.same.2,
    honly⟩
  rw [hkey]
  exact hroot

theorem findFixtureLogicalRoot_ok (hs : AllConsistent platform s) {version : RegressionFixtureVersion}
    (hstored : (s.tenant tenantId).fixtureVersions.lookup k = some version)
    : ∃ root, fixtureFamily.lineage.Reaches (s.tenant tenantId).fixtureVersions version root
        ∧ IsOnlyRoot fixtureFamily (s.tenant tenantId).fixtureVersions version root
        ∧ findFixtureLogicalRoot platform s version.scope k = .ok (some root) := by
  have h := hs tenantId
  have hvalid := h.fixtures.valid k version hstored
  have htenant : version.scope.tenantId = tenantId := h.fixtures.tenant k version hstored
  have hk : version.fixtureVersionId = k := h.fixtures.keyed k version hstored
  have haccepted : EvidenceScopeSchema version.scope := hvalid.accepted.definition.scope
  rcases isOnlyRoot_of_rooted h.fixtureRooted hstored with
    ⟨binding, root, hbinding, hscope, hroot, hreaches, honly⟩
  refine ⟨root, hreaches, honly, ?_⟩
  have hid : OpaqueIdSchema k := by
    rw [← hk]
    exact hvalid.accepted.definition.fixtureVersionId
  have hresult := logicalRoot_ok "Stored fixture is missing its exact logical root"
    "Stored fixture logical root is inconsistent" h.fixtures hbinding hscope hroot honly.predecessor hreaches
    version.fixtureVersionId
  dsimp only [findFixtureLogicalRoot]
  rw [bind_of_ok (parseWith_eq_ok.mpr ⟨haccepted, rfl⟩),
    bind_of_ok (parseWith_eq_ok.mpr ⟨hid, rfl⟩), htenant, hstored]
  dsimp only [validateStoredFixtureVersion, fixtureLogicalRoot,
    buildRegressionFixtureVersionPublishedOutboxIntent]
  rw [if_neg (not_not_intro (hasExactStoredScope_iff.mpr rfl)), bind_of_ok hvalid.validateStored]
  dsimp only [VersionFamily.validated]
  rw [bind_of_ok hvalid.buildPublishedOutboxIntent,
    bind_of_ok (requireCanonicalIntent_ok (h.fixtures.intent k version hstored))]
  exact bind_of_ok hresult

variable {version : RecordedInteractionFixtureVersion}

theorem findRecordedInteractionFixtureLogicalRoot_ok (hs : AllConsistent platform s)
    (hstored : (s.tenant tenantId).recordedFixtureVersions.lookup k = some version)
    : ∃ parent root, RecordedFrom (s.tenant tenantId).fixtureVersions version parent
        ∧ fixtureFamily.lineage.Reaches (s.tenant tenantId).fixtureVersions parent root
        ∧ IsOnlyRoot fixtureFamily (s.tenant tenantId).fixtureVersions parent root
        ∧ findRecordedInteractionFixtureLogicalRoot platform s version.scope k = .ok (some root) := by
  have h := hs tenantId
  have hvalid := h.recordings.valid k version hstored
  have htenant : version.scope.tenantId = tenantId := h.recordings.tenant k version hstored
  have hk : version.fixtureVersionId = k := h.recordings.keyed k version hstored
  have haccepted : EvidenceScopeSchema version.scope := hvalid.accepted.definition.scope
  rcases h.recordedFrom k version hstored with ⟨parent, hparent⟩
  rcases isOnlyRoot_of_rooted h.fixtureRooted hparent.stored with
    ⟨binding, root, hbinding, hscope, hroot, hreaches, honly⟩
  refine ⟨parent, root, hparent, hreaches, honly, ?_⟩
  have hid : OpaqueIdSchema k := by
    rw [← hk]
    exact hvalid.accepted.definition.fixtureVersionId
  have hresult := logicalRoot_ok "Stored fixture is missing its exact logical root"
    "Stored fixture logical root is inconsistent" h.fixtures hbinding hscope hroot honly.predecessor hreaches
    version.fixtureVersionId
  change logicalRoot platform fixtureFamily _ _ _ _ _ parent.fixtureId version.fixtureVersionId parent.scope
    = _ at hresult
  rw [hparent.resource, hparent.scope] at hresult
  dsimp only [findRecordedInteractionFixtureLogicalRoot]
  rw [bind_of_ok (parseWith_eq_ok.mpr ⟨haccepted, rfl⟩),
    bind_of_ok (parseWith_eq_ok.mpr ⟨hid, rfl⟩), htenant, hstored]
  dsimp only [fixtureLogicalRoot, buildRecordedInteractionFixtureVersionPublishedOutboxIntent]
  rw [if_neg (not_not_intro (hasExactStoredScope_iff.mpr rfl)),
    bind_of_ok (storedRecordedFixtureRecord_ok h hstored)]
  dsimp only
  rw [bind_of_ok hvalid.buildPublishedOutboxIntent,
    bind_of_ok (requireCanonicalIntent_ok (h.recordings.intent k version hstored))]
  exact bind_of_ok hresult

theorem findDatasetLogicalRoot_ok (hs : AllConsistent platform s) {version : RegressionDatasetVersion}
    (hstored : (s.tenant tenantId).datasetVersions.lookup k = some version)
    : ∃ root, datasetFamily.lineage.Reaches (s.tenant tenantId).datasetVersions version root
        ∧ IsOnlyRoot datasetFamily (s.tenant tenantId).datasetVersions version root
        ∧ findDatasetLogicalRoot platform s version.scope k = .ok (some root) := by
  have h := hs tenantId
  have hvalid := h.datasets.valid k version hstored
  have htenant : version.scope.tenantId = tenantId := h.datasets.tenant k version hstored
  have hk : version.datasetVersionId = k := h.datasets.keyed k version hstored
  have haccepted : EvidenceScopeSchema version.scope := hvalid.accepted.definition.scope
  rcases isOnlyRoot_of_rooted h.datasetRooted hstored with
    ⟨binding, root, hbinding, hscope, hroot, hreaches, honly⟩
  refine ⟨root, hreaches, honly, ?_⟩
  have hid : OpaqueIdSchema k := by
    rw [← hk]
    exact hvalid.accepted.definition.datasetVersionId
  have hresult := logicalRoot_ok "Stored dataset is missing its exact logical root"
    "Stored dataset logical root is inconsistent" h.datasets hbinding hscope hroot honly.predecessor hreaches
    version.datasetVersionId
  dsimp only [findDatasetLogicalRoot]
  rw [bind_of_ok (parseWith_eq_ok.mpr ⟨haccepted, rfl⟩),
    bind_of_ok (parseWith_eq_ok.mpr ⟨hid, rfl⟩), htenant, hstored]
  dsimp only [validateStoredDatasetVersion, buildRegressionDatasetVersionPublishedOutboxIntent]
  rw [if_neg (not_not_intro (hasExactStoredScope_iff.mpr rfl)), bind_of_ok hvalid.validateStored]
  dsimp only [VersionFamily.validated]
  rw [bind_of_ok hvalid.buildPublishedOutboxIntent,
    bind_of_ok (requireCanonicalIntent_ok (h.datasets.intent k version hstored))]
  exact bind_of_ok hresult

theorem resolveFixtureVersionReferences_ok (hs : AllConsistent platform s) {version : RegressionDatasetVersion}
    (hstored : (s.tenant tenantId).datasetVersions.lookup k = some version)
    : resolveFixtureVersionReferences platform s version.scope
        (version.fixtureVersions.map (·.toRequestedRegressionFixtureVersionReference))
      = .ok (some version.fixtureVersions) := by
  have h := hs tenantId
  have htenant : version.scope.tenantId = tenantId := h.datasets.tenant k version hstored
  have hresolved := resolveReferences_ok h version.fixtureVersions (h.members k version hstored)
  unfold resolveFixtureVersionReferences
  split
  . next hempty =>
    rw [List.map_eq_nil_iff.mp hempty]
  . rw [htenant]
    cases hstate : s.tenants.lookup tenantId with
    | none =>
      have hdefault : s.tenant tenantId = emptyTenantState := by
        unfold Tenanted.tenant
        rw [hstate]
        rfl
      rw [hdefault] at hstored
      contradiction
    | some state =>
      have hsame : s.tenant tenantId = state := by
        unfold Tenanted.tenant
        rw [hstate]
        rfl
      rw [hsame] at hresolved
      exact hresolved

theorem IntentsStored.key_iff {fixtureVersions : Table String RegressionFixtureVersion}
    {recordedFixtureVersions : Table String RecordedInteractionFixtureVersion}
    {datasetVersions : Table String RegressionDatasetVersion}
    {intents : Table String RegressionVersionPublishedOutboxIntent}
    (h : IntentsStored fixtureVersions recordedFixtureVersions datasetVersions intents)
    {intent : RegressionVersionPublishedOutboxIntent} (hintent : intent ∈ intents.values)
    : (intent.aggregateType = regressionFixtureVersionAggregateType ∧ intent.aggregateId = k
          ↔ intentKey intent = fixtureIntentKey k)
        ∧ (intent.aggregateType = regressionDatasetVersionAggregateType ∧ intent.aggregateId = k
          ↔ intentKey intent = datasetIntentKey k) := by
  have hne : regressionFixtureVersionAggregateType ≠ regressionDatasetVersionAggregateType := by decide
  have hfixture : ∀ id, (regressionFixtureVersionAggregateType = regressionFixtureVersionAggregateType
      ∧ id = k ↔ fixtureIntentKey id = fixtureIntentKey k)
      ∧ (regressionFixtureVersionAggregateType = regressionDatasetVersionAggregateType ∧ id = k
        ↔ fixtureIntentKey id = datasetIntentKey k) := by
    intro id
    constructor
    . exact ⟨fun hid => by rw [hid.2], fun hkey => ⟨rfl, intentKeyOf_injective hkey⟩⟩
    . exact ⟨fun hid => absurd hid.1 hne,
        fun hkey => absurd hkey (fixtureIntentKey_ne_datasetIntentKey id k)⟩
  have hdataset : ∀ id, (regressionDatasetVersionAggregateType = regressionFixtureVersionAggregateType
      ∧ id = k ↔ datasetIntentKey id = fixtureIntentKey k)
      ∧ (regressionDatasetVersionAggregateType = regressionDatasetVersionAggregateType ∧ id = k
        ↔ datasetIntentKey id = datasetIntentKey k) := by
    intro id
    constructor
    . exact ⟨fun hid => absurd hid.1.symm hne,
        fun hkey => absurd hkey.symm (fixtureIntentKey_ne_datasetIntentKey k id)⟩
    . exact ⟨fun hid => by rw [hid.2], fun hkey => ⟨rfl, intentKeyOf_injective hkey⟩⟩
  rcases Table.mem_values.mp hintent with ⟨key, hlookup⟩
  rcases h.stored key intent hlookup with ⟨_, version, _, rfl⟩ | ⟨_, version, _, rfl⟩ | ⟨_, version, _, rfl⟩
  . exact hfixture version.fixtureVersionId
  . exact hfixture version.fixtureVersionId
  . exact hdataset version.datasetVersionId

variable {wanted : RegressionVersionPublishedOutboxIntent}

theorem filter_publishedIntents {key : String}
    (h : Table.Keyed intentKey (s.tenant tenantId).publicationIntents)
    (hlookup : (s.tenant tenantId).publicationIntents.lookup key = some wanted)
    {select : RegressionVersionPublishedOutboxIntent → Bool}
    (hselect : ∀ intent ∈ (s.tenant tenantId).publicationIntents.values,
      select intent = true ↔ intentKey intent = key)
    : (publishedIntents s tenantId).filter select = [wanted] := by
  have hperm := (sortBy_perm intentOrderKey (s.tenant tenantId).publicationIntents.values).filter select
  have hfilter : (s.tenant tenantId).publicationIntents.values.filter select = [wanted] := by
    rw [← h.filter_values hlookup]
    apply List.filter_congr
    intro intent hintent
    rw [Bool.eq_iff_iff, decide_eq_true_eq]
    exact hselect intent hintent
  rw [hfilter] at hperm
  exact List.perm_singleton.mp hperm

theorem filter_fixtureIntents (hs : AllConsistent platform s)
    (hlookup : (s.tenant tenantId).publicationIntents.lookup (fixtureIntentKey k) = some wanted)
    : (publishedIntents s tenantId).filter (fun intent =>
          intent.aggregateType = regressionFixtureVersionAggregateType ∧ intent.aggregateId = k)
        = [wanted] := by
  apply filter_publishedIntents (hs tenantId).intents.keyed hlookup
  intro intent hintent
  rw [decide_eq_true_eq]
  exact ((hs tenantId).intents.key_iff hintent).1

theorem filter_datasetIntents (hs : AllConsistent platform s)
    (hlookup : (s.tenant tenantId).publicationIntents.lookup (datasetIntentKey k) = some wanted)
    : (publishedIntents s tenantId).filter (fun intent =>
          intent.aggregateType = regressionDatasetVersionAggregateType ∧ intent.aggregateId = k)
        = [wanted] := by
  apply filter_publishedIntents (hs tenantId).intents.keyed hlookup
  intro intent hintent
  rw [decide_eq_true_eq]
  exact ((hs tenantId).intents.key_iff hintent).2

theorem findRecordedInteractionFixtureContent_ok (hs : AllConsistent platform s)
    {scope : EvidenceScope}
    (hscope : version.scope = scope)
    (hstored : (s.tenant scope.tenantId).recordedFixtureVersions.lookup k = some version)
    : findRecordedInteractionFixtureContent platform s scope k
        = .ok (some (contentOf (s.tenant scope.tenantId) version)) := by
  dsimp only [findRecordedInteractionFixtureContent]
  rw [hstored]
  dsimp only
  rw [if_neg (not_not_intro (hasExactStoredScope_iff.mpr hscope)),
    bind_of_ok (storedInteractionFixtureContent_ok (hs scope.tenantId) hstored)]
  rfl

theorem contentsExact (hs : AllConsistent platform s)
    (hstored : (s.tenant tenantId).recordedFixtureVersions.lookup k = some version)
    : (contentOf (s.tenant tenantId) version).version = version
        ∧ (contentOf (s.tenant tenantId) version).ownerships = ownershipsOf version
        ∧ (contentOf (s.tenant tenantId) version).revocation
            = (s.tenant tenantId).recordedContentRevocations.lookup k
        ∧ ContentsExact (s.tenant tenantId) (contentOf (s.tenant tenantId) version) := by
  have h := hs tenantId
  have hk : version.fixtureVersionId = k := h.recordings.keyed k version hstored
  unfold contentOf
  rw [hk]
  cases hrevocation : (s.tenant tenantId).recordedContentRevocations.lookup k with
  | none => exact ⟨rfl, rfl, rfl, rfl, h.contents.available k version hstored hrevocation⟩
  | some revocation =>
    exact ⟨rfl, rfl, rfl, rfl, h.contents.tombstoned k version revocation hstored hrevocation⟩

variable {s' : MemoryRegressionVersionRepository}

theorem findContent_of_revoked (hs : AllConsistent platform s')
    {candidate : RevokeInteractionFixtureContentCandidate} {result : RevokeInteractionFixtureContentResult}
    (h : Stored platform s' (.revokeRecordedInteractionFixtureContent candidate) (.contentRevocation result))
    : findRecordedInteractionFixtureContent platform s' candidate.revocation.scope
          candidate.revocation.fixtureVersionId = .ok (some result.content)
        ∧ result.content.contentAvailability = .revoked := by
  rcases h with ⟨version, existing, hversion, hscope, _, hexisting, _, hcontent⟩
  have hid : version.fixtureVersionId = candidate.revocation.fixtureVersionId :=
    (hs _).recordings.keyed _ version hversion
  constructor
  . rw [findRecordedInteractionFixtureContent_ok hs hscope hversion, hcontent]
  . rw [hcontent]
    unfold contentOf
    rw [hid, hexisting]

theorem findContent_of_unrevoked (hs : AllConsistent platform s) (command : Command)
    (hstored : (s.tenant tenantId).recordedFixtureVersions.lookup k = some version)
    (hrevokes : command.revokes tenantId ≠ some k)
    : findRecordedInteractionFixtureContent platform (step platform s command) version.scope k
        = findRecordedInteractionFixtureContent platform s version.scope k := by
  have hadvances := step_advances hs command tenantId
  have hnext := hadvances.extends_.recordings _ _ hstored
  have hcontents := hadvances.contents k version hstored hrevokes
  obtain rfl : version.scope.tenantId = tenantId := (hs tenantId).recordings.tenant k version hstored
  rw [findRecordedInteractionFixtureContent_ok hs rfl hstored,
    findRecordedInteractionFixtureContent_ok (allConsistent_step hs command) rfl hnext, hcontents]

theorem execute_publishDatasetVersion_again (hs : AllConsistent platform s)
    {candidate : RegressionDatasetVersion} (hvalid : datasetFamily.Valid platform candidate)
    {result : PublishRegressionVersionResult RegressionDatasetVersion}
    (hstored : Stored platform s (.publishDatasetVersion candidate) (.datasetVersion result))
    : execute platform (.publishDatasetVersion candidate) s
        = .ok (.datasetVersion { result with created := false }) s := by
  have hrun : publishDatasetVersion platform candidate s = .ok { result with created := false } s := by
    dsimp only [publishDatasetVersion, validateAndProjectRegressionDatasetVersion]
    rw [attempting_bind_run hvalid.validateAndProject]
    exact Tenanted.transact_of_kept (planDatasetVersion_again (hs _) hvalid hstored) _
  dsimp only [execute]
  rw [map_eq_pure_bind, bind_run hrun]
  rfl

theorem execute_publishFixtureVersion_again (hs : AllConsistent platform s)
    {candidate : RegressionFixtureVersion} (hvalid : fixtureFamily.Valid platform candidate)
    {result : PublishRegressionVersionResult RegressionFixtureVersion}
    (hstored : Stored platform s (.publishFixtureVersion candidate) (.fixtureVersion result))
    : execute platform (.publishFixtureVersion candidate) s
        = .ok (.fixtureVersion { result with created := false }) s := by
  have hrun : publishFixtureVersion platform candidate s = .ok { result with created := false } s := by
    dsimp only [publishFixtureVersion, validateAndProjectRegressionFixtureVersion]
    rw [attempting_bind_run hvalid.validateAndProject]
    exact Tenanted.transact_of_kept (planFixtureVersion_again (hs _) hvalid hstored) _
  dsimp only [execute]
  rw [map_eq_pure_bind, bind_run hrun]
  rfl

theorem execute_publishRecordedInteractionFixtureVersion_again (hs : AllConsistent platform s)
    {candidate : RecordedInteractionFixtureVersion} (hvalid : recordedFamily.Valid platform candidate)
    {result : PublishRecordedInteractionFixtureVersionResult}
    (hstored : Stored platform s (.publishRecordedInteractionFixtureVersion candidate)
      (.recordedFixtureVersion result))
    : execute platform (.publishRecordedInteractionFixtureVersion candidate) s
        = .ok (.recordedFixtureVersion { result with created := false }) s := by
  have hrun : publishRecordedInteractionFixtureVersion platform candidate s
      = .ok { result with created := false } s := by
    dsimp only [publishRecordedInteractionFixtureVersion, validateAndProjectRecordedInteractionFixtureVersion]
    rw [attempting_bind_run hvalid.validateAndProject]
    exact Tenanted.transact_of_kept (planRecordedInteractionFixtureVersion_again (hs _) hvalid hstored) _
  dsimp only [execute]
  rw [map_eq_pure_bind, bind_run hrun]
  rfl

theorem execute_revokeRecordedInteractionFixtureContent_again (hs : AllConsistent platform s)
    {candidate : RevokeInteractionFixtureContentCandidate} (haccepted : candidate.revocation.Accepted)
    (htombstones : ∀ tombstone ∈ candidate.tombstones, tombstone.Accepted)
    {result : RevokeInteractionFixtureContentResult}
    (hstored : Stored platform s (.revokeRecordedInteractionFixtureContent candidate)
      (.contentRevocation result))
    : execute platform (.revokeRecordedInteractionFixtureContent candidate) s
        = .ok (.contentRevocation { result with created := false }) s := by
  have hparsed : candidate.tombstones.mapM (fun value => parseWith value.Accepted RegressionError.zod value)
      = .ok candidate.tombstones := by
    rw [mapM_of_forall (g := id)]
    . rw [List.map_id]
    . intro tombstone hmem
      exact parseWith_eq_ok.mpr ⟨htombstones tombstone hmem, rfl⟩
  have hrun : revokeRecordedInteractionFixtureContent platform candidate s
      = .ok { result with created := false } s := by
    unfold revokeRecordedInteractionFixtureContent
    rw [attempting_bind_run (parseWith_eq_ok.mpr ⟨haccepted, rfl⟩), attempting_bind_run hparsed]
    exact Tenanted.transact_of_kept (planContentRevocation_again (hs _) hstored _) _
  dsimp only [execute]
  rw [map_eq_pure_bind, bind_run hrun]
  rfl

theorem execute_seedInteractionArtifact_again {metadata : ArtifactMetadata} (haccepted : metadata.Accepted)
    (hstored : Stored platform s (.seedInteractionArtifact metadata) .done)
    : Repeated platform s .done (.seedInteractionArtifact metadata) := by
  dsimp only [Repeated, execute, seedInteractionArtifact, map_eq_pure_bind]
  rcases planInteractionArtifact_again hstored with hplan | ⟨hplan, row, hrow, hstate⟩
  . left
    have hrun : seedInteractionArtifact metadata s = .ok () s := by
      unfold seedInteractionArtifact
      rw [attempting_bind_run (parseWith_eq_ok.mpr ⟨haccepted, rfl⟩)]
      exact Tenanted.transact_of_kept hplan none
    exact bind_run hrun _
  . right
    have hrun : seedInteractionArtifact metadata s = .error .regressionArtifactBinding s := by
      unfold seedInteractionArtifact
      rw [attempting_bind_run (parseWith_eq_ok.mpr ⟨haccepted, rfl⟩)]
      exact Tenanted.transact_of_error hplan none
    exact ⟨bind_run_error hrun _, metadata, row, rfl, hrow, hstate⟩

theorem repeated_of_stored (hs : AllConsistent platform s) {command retried : Command} {response : Response}
    (hstored : Stored platform s command response) (hretries : Retries platform command retried)
    : Repeated platform s response retried := by
  unfold Retries at hretries
  split at hretries
  . next candidate retried =>
    rcases hretries with ⟨hdefinition, hvalid⟩
    have hid : retried.datasetVersionId = candidate.datasetVersionId :=
      congrArg (·.datasetVersionId) hdefinition
    have hscope : retried.scope = candidate.scope := congrArg (·.scope) hdefinition
    cases response with
    | datasetVersion result =>
      left
      apply execute_publishDatasetVersion_again hs hvalid
      dsimp only [Stored, VersionStored, datasetFamily] at hstored ⊢
      rw [hid, hscope, hdefinition]
      exact hstored
    | _ => contradiction
  . next candidate retried =>
    rcases hretries with ⟨hdefinition, hvalid⟩
    have hid : retried.fixtureVersionId = candidate.fixtureVersionId :=
      congrArg (·.fixtureVersionId) hdefinition
    have hscope : retried.scope = candidate.scope := congrArg (·.scope) hdefinition
    cases response with
    | fixtureVersion result =>
      left
      apply execute_publishFixtureVersion_again hs hvalid
      dsimp only [Stored, VersionStored, fixtureFamily] at hstored ⊢
      rw [hid, hscope, hdefinition]
      exact hstored
    | _ => contradiction
  . next candidate retried =>
    rcases hretries with ⟨hdefinition, hvalid⟩
    have hid : retried.fixtureVersionId = candidate.fixtureVersionId :=
      congrArg (·.fixtureVersionId) hdefinition
    have hscope : retried.scope = candidate.scope := congrArg (·.scope) hdefinition
    cases response with
    | recordedFixtureVersion result =>
      left
      apply execute_publishRecordedInteractionFixtureVersion_again hs hvalid
      dsimp only [Stored, RecordingStored, recordedFamily] at hstored ⊢
      rw [hid, hscope, hdefinition]
      exact hstored
    | _ => contradiction
  . next candidate retried =>
    rcases hretries with ⟨haccepted, htombstones, hscope, hfixture, hid, hreason⟩
    cases response with
    | contentRevocation result =>
      left
      apply execute_revokeRecordedInteractionFixtureContent_again hs haccepted htombstones
      dsimp only [Stored, RevocationStored] at hstored ⊢
      rw [hid, hscope, hfixture, hreason]
      exact hstored
    | _ => contradiction
  . next metadata retried =>
    rcases hretries with ⟨rfl, haccepted⟩
    cases response with
    | done => exact execute_seedInteractionArtifact_again haccepted hstored
    | _ => contradiction
  . contradiction

theorem tenants_of_error (hs : AllConsistent platform s) {command : Command} {error : RegressionError}
    (hrun : execute platform command s = .error error s')
    : s'.tenants = s.tenants := by
  have hexecuted := executed hs command
  rw [hrun] at hexecuted
  cases hexecuted with
  | thrown _ _ htenants => exact htenants

theorem stored_of_ok (hs : AllConsistent platform s) {command : Command} {response : Response}
    (hrun : execute platform command s = .ok response s')
    : Stored platform s' command response ∧ AllConsistent platform s' := by
  have hexecuted := executed hs command
  have hnext := allConsistent_step hs command
  unfold step at hnext
  rw [hrun] at hexecuted hnext
  cases hexecuted with
  | returned _ _ hstored _ => exact ⟨hstored, hnext⟩

theorem exists_of_attempting_ok {α ρ : Type} {checked : Except RegressionError ρ}
    {continuation : ρ → Operation α} {respond : α → Response} {response : Response}
    (hrun : (respond <$> (attempting checked >>= continuation)) s = .ok response s')
    : ∃ request, checked = .ok request ∧ (respond <$> continuation request) s = .ok response s' := by
  cases hchecked : checked with
  | error error =>
    rw [hchecked] at hrun
    contradiction
  | ok request =>
    rw [hchecked] at hrun
    exact ⟨request, rfl, hrun⟩

theorem retries_self {command : Command} {response : Response}
    (hrun : execute platform command s = .ok response s')
    (hkind : ∀ kind, command ≠ .failNextPublicationIntent kind)
    : Retries platform command command := by
  cases command with
  | publishDatasetVersion | publishFixtureVersion | publishRecordedInteractionFixtureVersion =>
    rcases exists_of_attempting_ok hrun with ⟨validated, hvalidated, _⟩
    exact ⟨rfl, (VersionFamily.validateAndProject_eq_ok.mp hvalidated).1⟩
  | revokeRecordedInteractionFixtureContent candidate =>
    rcases exists_of_attempting_ok hrun with ⟨revocation, hrevocation, hrest⟩
    rcases exists_of_attempting_ok hrest with ⟨tombstones, htombstones, _⟩
    refine ⟨(parseWith_eq_ok.mp hrevocation).1, ?_, rfl, rfl, rfl, rfl⟩
    intro tombstone hmem
    rcases forall_of_mapM htombstones hmem with ⟨value, _, hvalue⟩
    exact (parseWith_eq_ok.mp hvalue).1
  | seedInteractionArtifact metadata =>
    rcases exists_of_attempting_ok hrun with ⟨accepted, haccepted, _⟩
    exact ⟨rfl, (parseWith_eq_ok.mp haccepted).1⟩
  | failNextPublicationIntent kind => exact absurd rfl (hkind kind)

theorem contract_of_consistent (hs : AllConsistent platform s) : Contract platform s where
  disjoint tenantId k := (hs tenantId).disjoint k
  fixtureRoots _ _ _ hstored := findFixtureLogicalRoot_ok hs hstored
  recordedRoots _ _ _ hstored := findRecordedInteractionFixtureLogicalRoot_ok hs hstored
  datasetRoots _ _ _ hstored := findDatasetLogicalRoot_ok hs hstored
  members tenantId k version hstored :=
    ⟨(hs tenantId).members k version hstored, resolveFixtureVersionReferences_ok hs hstored⟩
  fixtureIntents tenantId k version hstored := by
    have hintent := (hs tenantId).fixtures.intent k version hstored
    obtain rfl : version.fixtureVersionId = k := (hs tenantId).fixtures.keyed k version hstored
    exact filter_fixtureIntents hs hintent
  recordedIntents tenantId k version hstored := by
    have hintent := (hs tenantId).recordings.intent k version hstored
    obtain rfl : version.fixtureVersionId = k := (hs tenantId).recordings.keyed k version hstored
    exact filter_fixtureIntents hs hintent
  datasetIntents tenantId k version hstored := by
    have hintent := (hs tenantId).datasets.intent k version hstored
    obtain rfl : version.datasetVersionId = k := (hs tenantId).datasets.keyed k version hstored
    exact filter_datasetIntents hs hintent
  owned tenantId k k' version other hversion hother ownership hownership ownership' hownership' hid := by
    have hkeyed : ∀ k version, (s.tenant tenantId).recordedFixtureVersions.lookup k = some version →
        version.fixtureVersionId = k := (hs tenantId).recordings.keyed
    rw [← hkeyed k version hversion, ← hkeyed k' other hother]
    exact (hs tenantId).ownerships.unique hversion hother hownership hownership' hid
  contents tenantId k version hstored := by
    obtain rfl : version.scope.tenantId = tenantId :=
      (hs tenantId).recordings.tenant k version hstored
    exact ⟨_, findRecordedInteractionFixtureContent_ok hs rfl hstored, contentsExact hs hstored⟩
  revoked candidate result s' hrun :=
    have hstored := stored_of_ok hs hrun
    findContent_of_revoked hstored.2 hstored.1
  unrevoked command _ _ _ hstored hrevokes := findContent_of_unrevoked hs command hstored hrevokes
  failed _ _ _ hrun := tenants_of_error hs hrun
  repeated _ _ _ hrun _ hlater _ hretries :=
    have hstored := stored_of_ok hs hrun
    repeated_of_stored (allConsistent_of_later hstored.2 hlater) (hstored.1.later hstored.2 hlater) hretries
  retries _ _ _ hrun hkind := retries_self hrun hkind

theorem contract_foldl_step (platform : Platform) (commands : List Command)
    : Contract platform (commands.foldl (step platform) Tenanted.empty) := by
  apply contract_of_consistent
  exact allConsistent_of_later (AllConsistent.empty platform) (Later.foldl commands Tenanted.empty)

end Datasets
end ProofStack
