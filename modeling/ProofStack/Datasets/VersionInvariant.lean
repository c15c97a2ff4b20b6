import ProofStack.Datasets.VersionRepository

/-!
This module contains the invariant of the state of a tenant.
-/

namespace ProofStack
namespace Datasets

open Artifacts Checks Interaction Store

theorem scopesEqual_iff {left right : EvidenceScope} : scopesEqual left right ↔ left = right :=
  EvidenceScope.eq_iff.symm

theorem hasExactStoredScope_iff {storedScope scope : EvidenceScope}
    : hasExactStoredScope storedScope scope ↔ storedScope = scope :=
  scopesEqual_iff

def intentKeyOf (eventType aggregateType aggregateId : String) : String :=
  eventType ++ "\x00" ++ aggregateType ++ "\x00" ++ aggregateId

def fixtureIntentKey (fixtureVersionId : String) : String :=
  intentKeyOf regressionFixtureVersionPublishedEventType regressionFixtureVersionAggregateType
    fixtureVersionId

def datasetIntentKey (datasetVersionId : String) : String :=
  intentKeyOf regressionDatasetVersionPublishedEventType regressionDatasetVersionAggregateType
    datasetVersionId

theorem intentKeyOf_injective {eventType aggregateType left right : String}
    (h : intentKeyOf eventType aggregateType left = intentKeyOf eventType aggregateType right)
    : left = right := by
  unfold intentKeyOf at h
  have hlist := congrArg String.toList h
  simp only [String.toList_append] at hlist
  exact String.toList_injective (List.append_cancel_left hlist)

theorem fixtureIntentKey_ne_datasetIntentKey (fixtureVersionId datasetVersionId : String)
    : fixtureIntentKey fixtureVersionId ≠ datasetIntentKey datasetVersionId := by
  intro h
  have hlist := congrArg String.toList h
  unfold fixtureIntentKey datasetIntentKey intentKeyOf at hlist
  simp only [String.toList_append, List.append_assoc] at hlist
  have htexts := (List.append_inj hlist (by decide)).1
  exact absurd htexts (by decide)

section Parts

variable (platform : Platform) {V D : Type} (family : VersionFamily V D)

structure Published (tenantId : String) (versions : Table String V)
    (intents : Table String RegressionVersionPublishedOutboxIntent) : Prop where
  keyed : Table.Keyed family.lineage.key versions
  valid : ∀ k version, versions.lookup k = some version → family.Valid platform version
  tenant : ∀ k version, versions.lookup k = some version →
    (family.lineage.scope version).tenantId = tenantId
  intent : ∀ k version, versions.lookup k = some version →
    intents.lookup (intentKey (family.intent version)) = some (family.intent version)

structure IntentsStored (fixtureVersions : Table String RegressionFixtureVersion)
    (recordedFixtureVersions : Table String RecordedInteractionFixtureVersion)
    (datasetVersions : Table String RegressionDatasetVersion)
    (intents : Table String RegressionVersionPublishedOutboxIntent) : Prop where
  keyed : Table.Keyed intentKey intents
  stored : ∀ key intent, intents.lookup key = some intent →
    (∃ k version, fixtureVersions.lookup k = some version ∧ intent = fixtureFamily.intent version)
      ∨ (∃ k version, recordedFixtureVersions.lookup k = some version
          ∧ intent = recordedFamily.intent version)
      ∨ ∃ k version, datasetVersions.lookup k = some version ∧ intent = datasetFamily.intent version

structure RecordedFrom (fixtureVersions : Table String RegressionFixtureVersion)
    (version : RecordedInteractionFixtureVersion) (parent : RegressionFixtureVersion) : Prop where
  named : version.predecessor.fixtureVersionId = parent.fixtureVersionId
  digest : version.predecessor.definitionSha256 = parent.definitionSha256
  stored : fixtureVersions.lookup parent.fixtureVersionId = some parent
  resource : parent.fixtureId = version.fixtureId
  scope : parent.scope = version.scope
  source : parent.source = version.source

def StoredFixtureReferenceTarget.Stored (fixtureVersions : Table String RegressionFixtureVersion)
    (recordedFixtureVersions : Table String RecordedInteractionFixtureVersion)
    : StoredFixtureReferenceTarget → Prop
  | .evidence value => fixtureVersions.lookup value.fixtureVersionId = some value
  | .recorded value => recordedFixtureVersions.lookup value.fixtureVersionId = some value

structure RefersTo (fixtureVersions : Table String RegressionFixtureVersion)
    (recordedFixtureVersions : Table String RecordedInteractionFixtureVersion) (scope : EvidenceScope)
    (reference : RegressionFixtureVersionReference) (target : StoredFixtureReferenceTarget) : Prop where
  stored : target.Stored fixtureVersions recordedFixtureVersions
  fixtureVersionId : target.fixtureVersionId = reference.fixtureVersionId
  fixtureId : target.fixtureId = reference.fixtureId
  scope : target.scope = scope
  definitionSha256 : target.definitionSha256 = reference.definitionSha256

def ownershipsOf (version : RecordedInteractionFixtureVersion) : List ArtifactOwnership :=
  version.interactionCapture.artifacts.map (expectedOwnership version)

structure Owned (recordedFixtureVersions : Table String RecordedInteractionFixtureVersion)
    (ownerships : Table String ArtifactOwnership) : Prop where
  ofVersion : ∀ k version, recordedFixtureVersions.lookup k = some version →
    ∀ ownership ∈ ownershipsOf version, ownerships.lookup ownership.artifactId = some ownership
  toVersion : ∀ artifactId ownership, ownerships.lookup artifactId = some ownership →
    ownership.artifactId = artifactId ∧ ∃ version,
      recordedFixtureVersions.lookup ownership.fixtureVersionId = some version
        ∧ ownership ∈ ownershipsOf version

structure TombstonedBy (metadata : Table String ArtifactMetadata) (tombstones : Table String ArtifactTombstone)
    (revocation : InteractionFixtureContentRevocation) (artifactId : String) : Prop where
  metadata : ∃ tombstone row, tombstones.lookup artifactId = some tombstone
    ∧ metadata.lookup artifactId = some row
    ∧ tombstone.Accepted
    ∧ ArtifactTombstoneOf revocation tombstone
    ∧ row.state = .tombstoned
    ∧ row.tombstonedAt = some tombstone.occurredAt

structure Contents (recordedFixtureVersions : Table String RecordedInteractionFixtureVersion)
    (ownerships : Table String ArtifactOwnership) (metadata : Table String ArtifactMetadata)
    (tombstones : Table String ArtifactTombstone)
    (revocations : Table String InteractionFixtureContentRevocation) : Prop where
  revoked : ∀ k revocation, revocations.lookup k = some revocation →
    revocation.Accepted ∧ ∃ version, recordedFixtureVersions.lookup k = some version
      ∧ revocation.fixtureId = version.fixtureId ∧ revocation.scope = version.scope
  available : ∀ k version, recordedFixtureVersions.lookup k = some version → revocations.lookup k = none →
    ∀ ownership ∈ ownershipsOf version,
      tombstones.lookup ownership.artifactId = none
        ∧ ∃ row, metadata.lookup ownership.artifactId = some row ∧ row.state = .available
  tombstoned : ∀ k version revocation, recordedFixtureVersions.lookup k = some version →
    revocations.lookup k = some revocation → ∀ ownership ∈ ownershipsOf version,
      TombstonedBy metadata tombstones revocation ownership.artifactId
  owned : ∀ artifactId tombstone, tombstones.lookup artifactId = some tombstone →
    ∃ ownership, ownerships.lookup artifactId = some ownership

structure Consistent (tenantId : String) (state : TenantState) : Prop where
  fixtures : Published platform fixtureFamily tenantId state.fixtureVersions state.publicationIntents
  recordings : Published platform recordedFamily tenantId state.recordedFixtureVersions
    state.publicationIntents
  datasets : Published platform datasetFamily tenantId state.datasetVersions state.publicationIntents
  intents : IntentsStored state.fixtureVersions state.recordedFixtureVersions state.datasetVersions
    state.publicationIntents
  disjoint : ∀ k, state.fixtureVersions.lookup k = none ∨ state.recordedFixtureVersions.lookup k = none
  fixtureRooted : fixtureFamily.lineage.Rooted state.fixtureResources state.fixtureVersions
  datasetRooted : datasetFamily.lineage.Rooted state.datasetResources state.datasetVersions
  recordedFrom : ∀ k version, state.recordedFixtureVersions.lookup k = some version →
    ∃ parent, RecordedFrom state.fixtureVersions version parent
  members : ∀ k version, state.datasetVersions.lookup k = some version →
    ∀ reference ∈ version.fixtureVersions, ∃ target,
      RefersTo state.fixtureVersions state.recordedFixtureVersions version.scope reference target
  ownerships : Owned state.recordedFixtureVersions state.artifactOwnerships
  contents : Contents state.recordedFixtureVersions state.artifactOwnerships state.artifactMetadata
    state.artifactTombstones state.recordedContentRevocations

end Parts

section Published

variable {platform : Platform} {V D : Type} {family : VersionFamily V D} {tenantId : String}
variable {versions : Table String V} {intents intents' : Table String RegressionVersionPublishedOutboxIntent}
variable {version : V}

theorem Published.empty : Published platform family tenantId ∅ intents where
  keyed := Table.Keyed.empty
  valid _ _ h := by contradiction
  tenant _ _ h := by contradiction
  intent _ _ h := by contradiction

theorem Published.mono (h : Published platform family tenantId versions intents)
    (hgrows : ∀ key row, intents.lookup key = some row → intents'.lookup key = some row)
    : Published platform family tenantId versions intents' where
  keyed := h.keyed
  valid := h.valid
  tenant := h.tenant
  intent k version hstored := hgrows _ _ (h.intent k version hstored)

theorem Published.insert (h : Published platform family tenantId versions intents)
    (hvalid : family.Valid platform version)
    (htenant : (family.lineage.scope version).tenantId = tenantId)
    (hintent : intents.lookup (intentKey (family.intent version)) = some (family.intent version))
    : Published platform family tenantId (versions.insert (family.lineage.key version) version)
        intents where
  keyed := h.keyed.insert version
  valid k other hother := by
    rcases Table.lookup_insert_eq_some hother with ⟨_, rfl⟩ | ⟨_, hother⟩
    . exact hvalid
    . exact h.valid k other hother
  tenant k other hother := by
    rcases Table.lookup_insert_eq_some hother with ⟨_, rfl⟩ | ⟨_, hother⟩
    . exact htenant
    . exact h.tenant k other hother
  intent k other hother := by
    rcases Table.lookup_insert_eq_some hother with ⟨_, rfl⟩ | ⟨_, hother⟩
    . exact hintent
    . exact h.intent k other hother

end Published

theorem Consistent.empty (platform : Platform) (tenantId : String)
    : Consistent platform tenantId emptyTenantState where
  fixtures := Published.empty
  recordings := Published.empty
  datasets := Published.empty
  intents := ⟨Table.Keyed.empty, fun _ _ h => by contradiction⟩
  disjoint _ := .inl rfl
  fixtureRooted := Lineage.Rooted.empty
  datasetRooted := Lineage.Rooted.empty
  recordedFrom _ _ h := by contradiction
  members _ _ h := by contradiction
  ownerships := ⟨fun _ _ h => by contradiction, fun _ _ h => by contradiction⟩
  contents := ⟨fun _ _ h => by contradiction, fun _ _ h => by contradiction,
    fun _ _ _ h => by contradiction, fun _ _ h => by contradiction⟩

section Intents

variable {fixtureVersions : Table String RegressionFixtureVersion}
variable {recordedFixtureVersions : Table String RecordedInteractionFixtureVersion}
variable {datasetVersions : Table String RegressionDatasetVersion}
variable {intents : Table String RegressionVersionPublishedOutboxIntent}

theorem IntentsStored.key_cases
    (h : IntentsStored fixtureVersions recordedFixtureVersions datasetVersions intents) {key : String}
    {intent : RegressionVersionPublishedOutboxIntent} (hlookup : intents.lookup key = some intent)
    : (∃ k version, fixtureVersions.lookup k = some version ∧ key = fixtureIntentKey version.fixtureVersionId)
        ∨ (∃ k version, recordedFixtureVersions.lookup k = some version
            ∧ key = fixtureIntentKey version.fixtureVersionId)
        ∨ ∃ k version, datasetVersions.lookup k = some version
            ∧ key = datasetIntentKey version.datasetVersionId := by
  have hkey := h.keyed key intent hlookup
  rcases h.stored key intent hlookup with ⟨k, version, hversion, rfl⟩ | ⟨k, version, hversion, rfl⟩
    | ⟨k, version, hversion, rfl⟩
  . exact .inl ⟨k, version, hversion, hkey.symm⟩
  . exact .inr (.inl ⟨k, version, hversion, hkey.symm⟩)
  . exact .inr (.inr ⟨k, version, hversion, hkey.symm⟩)

theorem IntentsStored.fixture_fresh
    (h : IntentsStored fixtureVersions recordedFixtureVersions datasetVersions intents)
    (hfixtures : Table.Keyed fixtureFamily.lineage.key fixtureVersions)
    (hrecordings : Table.Keyed recordedFamily.lineage.key recordedFixtureVersions) {k : String}
    (hfixture : fixtureVersions.lookup k = none) (hrecorded : recordedFixtureVersions.lookup k = none)
    : intents.lookup (fixtureIntentKey k) = none := by
  cases hlookup : intents.lookup (fixtureIntentKey k) with
  | none => rfl
  | some intent =>
    rcases h.key_cases hlookup with ⟨k', version, hversion, hkey⟩ | ⟨k', version, hversion, hkey⟩
      | ⟨k', version, hversion, hkey⟩
    . have hid : version.fixtureVersionId = k' := hfixtures k' version hversion
      rw [intentKeyOf_injective hkey, hid, hversion] at hfixture
      contradiction
    . have hid : version.fixtureVersionId = k' := hrecordings k' version hversion
      rw [intentKeyOf_injective hkey, hid, hversion] at hrecorded
      contradiction
    . exact absurd hkey (fixtureIntentKey_ne_datasetIntentKey _ _)

theorem IntentsStored.dataset_fresh
    (h : IntentsStored fixtureVersions recordedFixtureVersions datasetVersions intents)
    (hdatasets : Table.Keyed datasetFamily.lineage.key datasetVersions) {k : String}
    (hdataset : datasetVersions.lookup k = none)
    : intents.lookup (datasetIntentKey k) = none := by
  cases hlookup : intents.lookup (datasetIntentKey k) with
  | none => rfl
  | some intent =>
    rcases h.key_cases hlookup with ⟨k', version, hversion, hkey⟩ | ⟨k', version, hversion, hkey⟩
      | ⟨k', version, hversion, hkey⟩
    . exact absurd hkey.symm (fixtureIntentKey_ne_datasetIntentKey _ _)
    . exact absurd hkey.symm (fixtureIntentKey_ne_datasetIntentKey _ _)
    . have hid : version.datasetVersionId = k' := hdatasets k' version hversion
      rw [intentKeyOf_injective hkey, hid, hversion] at hdataset
      contradiction

end Intents

end Datasets
end ProofStack
