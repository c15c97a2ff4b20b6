import ProofStack.Datasets.VersionPublications

/-!
This module contains what the revocation of a content does.
-/

namespace ProofStack
namespace Datasets

open Artifacts Checks Interaction Store

variable {platform : Platform} {tenantId : String} {current : TenantState}
variable {revocation : InteractionFixtureContentRevocation}

theorem Owned.unique {recordedFixtureVersions : Table String RecordedInteractionFixtureVersion}
    {ownerships : Table String ArtifactOwnership} (h : Owned recordedFixtureVersions ownerships)
    {k k' : String} {version other : RecordedInteractionFixtureVersion}
    (hversion : recordedFixtureVersions.lookup k = some version)
    (hother : recordedFixtureVersions.lookup k' = some other) {ownership ownership' : ArtifactOwnership}
    (hownership : ownership ∈ ownershipsOf version) (hownership' : ownership' ∈ ownershipsOf other)
    (hid : ownership.artifactId = ownership'.artifactId)
    : version.fixtureVersionId = other.fixtureVersionId := by
  have hfirst := h.ofVersion k version hversion ownership hownership
  have hsecond := h.ofVersion k' other hother ownership' hownership'
  rw [hid, hsecond] at hfirst
  obtain rfl : ownership' = ownership := Option.some.inj hfirst
  rcases artifactId_of_mem_ownershipsOf hownership with ⟨binding, _, hexpected, _⟩
  rcases artifactId_of_mem_ownershipsOf hownership' with ⟨binding', _, hexpected', _⟩
  exact congrArg (·.fixtureVersionId) (hexpected.symm.trans hexpected')

structure TombstonesWritten (current : TenantState) (revocation : InteractionFixtureContentRevocation)
    (entries : List (ArtifactTombstone × ArtifactOwnership)) (start next : TenantState) : Prop where
  same : next = { start with
    artifactTombstones := next.artifactTombstones
    artifactMetadata := next.artifactMetadata }
  written : ∀ entry ∈ entries, ∃ tombstone ∈ entries.map (·.1), ∃ row,
    next.artifactTombstones.lookup entry.2.artifactId = some tombstone
      ∧ next.artifactMetadata.lookup entry.2.artifactId = some (tombstoned row tombstone)
      ∧ ArtifactTombstoneOf revocation tombstone
  untouched : ∀ artifactId, (∀ entry ∈ entries, entry.2.artifactId ≠ artifactId) →
    next.artifactTombstones.lookup artifactId = start.artifactTombstones.lookup artifactId
      ∧ next.artifactMetadata.lookup artifactId = start.artifactMetadata.lookup artifactId

theorem setTombstone_cases {start next : TenantState} {entry : ArtifactTombstone × ArtifactOwnership}
    (h : setTombstone current revocation start entry = .ok next)
    : ∃ row, entry.1.artifactId = entry.2.artifactId
        ∧ ArtifactTombstoneOf revocation entry.1
        ∧ next = { start with
            artifactTombstones := start.artifactTombstones.insert entry.2.artifactId entry.1
            artifactMetadata :=
              start.artifactMetadata.insert entry.2.artifactId (tombstoned row entry.1) } := by
  dsimp only [setTombstone] at h
  simp only [bind_eq_ok, found_eq_ok, failIf_eq_ok, pure_eq_ok, not_or, not_not] at h
  rcases h with ⟨row, _, _, ⟨_, hid, hof⟩, rfl⟩
  rw [hid]
  exact ⟨row, rfl, hof, rfl⟩

theorem tombstonesWritten {entries : List (ArtifactTombstone × ArtifactOwnership)} {start next : TenantState}
    (h : entries.foldlM (setTombstone current revocation) start = .ok next)
    : TombstonesWritten current revocation entries start next := by
  induction entries generalizing start with
  | nil =>
    cases h
    exact ⟨rfl, fun _ hentry => absurd hentry List.not_mem_nil, fun _ _ => ⟨rfl, rfl⟩⟩
  | cons entry entries ih =>
    rw [List.foldlM_cons, bind_eq_ok] at h
    rcases h with ⟨middle, hfirst, hrest⟩
    rcases setTombstone_cases hfirst with ⟨row, hid, hof, rfl⟩
    have hwritten := ih hrest
    constructor
    . rw [hwritten.same]
    . intro other hother
      -- A later entry for the same artifact replaces this one.
      by_cases hlater : ∃ later ∈ entries, later.2.artifactId = other.2.artifactId
      . rcases hlater with ⟨later, hlater, hsame⟩
        rcases hwritten.written later hlater with ⟨tombstone, hmem, hlookups⟩
        rw [hsame] at hlookups
        exact ⟨tombstone, List.mem_cons_of_mem _ hmem, hlookups⟩
      . push Not at hlater
        obtain rfl : other = entry := by
          rcases List.mem_cons.mp hother with heq | hmem
          . exact heq
          . exact absurd rfl (hlater other hmem)
        rcases hwritten.untouched other.2.artifactId hlater with ⟨htombstone, hmetadata⟩
        refine ⟨other.1, List.mem_cons_self, row, ?_, ?_, hof⟩
        . rw [htombstone]
          exact AList.lookup_insert _
        . rw [hmetadata]
          exact AList.lookup_insert _
    . intro artifactId hne
      rw [List.forall_mem_cons] at hne
      rcases hwritten.untouched artifactId hne.2 with ⟨htombstone, hmetadata⟩
      rw [htombstone, hmetadata]
      exact ⟨AList.lookup_insert_ne hne.1.symm, AList.lookup_insert_ne hne.1.symm⟩

structure Revoked (current : TenantState) (version : RecordedInteractionFixtureVersion)
    (revocation : InteractionFixtureContentRevocation) (tombstones : List ArtifactTombstone)
    (next : TenantState) : Prop where
  stored : current.recordedFixtureVersions.lookup revocation.fixtureVersionId = some version
  scope : version.scope = revocation.scope
  fixtureId : version.fixtureId = revocation.fixtureId
  fresh : current.recordedContentRevocations.lookup revocation.fixtureVersionId = none
  length : tombstones.length = (ownershipsOf version).length
  written : TombstonesWritten current revocation (tombstones.zip (ownershipsOf version))
    (setRevocation current revocation) next

namespace Revoked

variable {version : RecordedInteractionFixtureVersion} {tombstones : List ArtifactTombstone}
variable {next : TenantState}

theorem exists_entry (h : Revoked current version revocation tombstones next) {ownership : ArtifactOwnership}
    (hownership : ownership ∈ ownershipsOf version)
    : ∃ entry ∈ tombstones.zip (ownershipsOf version), entry.2 = ownership := by
  rw [← List.map_snd_zip (Nat.le_of_eq h.length.symm)] at hownership
  exact List.mem_map.mp hownership

theorem untouched (h : Revoked current version revocation tombstones next)
    (hcurrent : Consistent platform tenantId current) {k : String} {other : RecordedInteractionFixtureVersion}
    (hother : current.recordedFixtureVersions.lookup k = some other)
    (hk : k ≠ revocation.fixtureVersionId) {ownership : ArtifactOwnership}
    (hownership : ownership ∈ ownershipsOf other)
    : next.artifactTombstones.lookup ownership.artifactId
          = current.artifactTombstones.lookup ownership.artifactId
        ∧ next.artifactMetadata.lookup ownership.artifactId
          = current.artifactMetadata.lookup ownership.artifactId := by
  apply h.written.untouched
  intro entry hentry hid
  have hmem : entry.2 ∈ ownershipsOf version := (List.of_mem_zip hentry).2
  have hsame := hcurrent.ownerships.unique h.stored hother hmem hownership hid
  have hversion : version.fixtureVersionId = revocation.fixtureVersionId :=
    hcurrent.recordings.keyed _ version h.stored
  have hkey : other.fixtureVersionId = k := hcurrent.recordings.keyed k other hother
  exact hk (hkey.symm.trans (hsame.symm.trans hversion))

theorem contents (h : Revoked current version revocation tombstones next)
    (hcurrent : Consistent platform tenantId current) (haccepted : revocation.Accepted)
    (htombstones : ∀ tombstone ∈ tombstones, tombstone.Accepted)
    : Contents current.recordedFixtureVersions current.artifactOwnerships next.artifactMetadata
        next.artifactTombstones
        (current.recordedContentRevocations.insert revocation.fixtureVersionId revocation) := by
  constructor
  . intro k other hother
    rcases Table.lookup_insert_eq_some hother with ⟨rfl, rfl⟩ | ⟨_, hother⟩
    . exact ⟨haccepted, version, h.stored, h.fixtureId.symm, h.scope.symm⟩
    . exact hcurrent.contents.revoked k other hother
  . intro k other hother hnone ownership hownership
    rw [AList.lookup_insert_eq_none] at hnone
    rcases h.untouched hcurrent hother hnone.1 hownership with ⟨htombstone, hmetadata⟩
    rw [htombstone, hmetadata]
    exact hcurrent.contents.available k other hother hnone.2 ownership hownership
  . intro k other revocation' hother hrevocation ownership hownership
    rcases Table.lookup_insert_eq_some hrevocation with ⟨rfl, rfl⟩ | ⟨hk, hrevocation⟩
    . rw [h.stored] at hother
      cases hother
      rcases h.exists_entry hownership with ⟨entry, hentry, rfl⟩
      rcases h.written.written entry hentry with ⟨tombstone, hmem, row, htombstone, hrow, hof⟩
      have htombstone' : tombstone ∈ tombstones := by
        rw [List.map_fst_zip (Nat.le_of_eq h.length)] at hmem
        exact hmem
      exact ⟨tombstone, _, htombstone, hrow, htombstones tombstone htombstone', hof, rfl, rfl⟩
    . rcases h.untouched hcurrent hother hk hownership with ⟨htombstone, hmetadata⟩
      rcases (hcurrent.contents.tombstoned k other revocation' hother hrevocation ownership
        hownership).metadata with ⟨tombstone, row, hlookup, hrow, hrest⟩
      exact ⟨tombstone, row, htombstone.trans hlookup, hmetadata.trans hrow, hrest⟩
  . intro artifactId tombstone htombstone
    by_cases hentry : ∃ entry ∈ tombstones.zip (ownershipsOf version), entry.2.artifactId = artifactId
    . rcases hentry with ⟨entry, hentry, rfl⟩
      have hmem : entry.2 ∈ ownershipsOf version := (List.of_mem_zip hentry).2
      exact ⟨entry.2, hcurrent.ownerships.ofVersion _ version h.stored entry.2 hmem⟩
    . push Not at hentry
      rw [(h.written.untouched artifactId hentry).1] at htombstone
      exact hcurrent.contents.owned artifactId tombstone htombstone

theorem consistent (h : Revoked current version revocation tombstones next)
    (hcurrent : Consistent platform tenantId current) (haccepted : revocation.Accepted)
    (htombstones : ∀ tombstone ∈ tombstones, tombstone.Accepted)
    : Consistent platform tenantId next := by
  have hcontents := h.contents hcurrent haccepted htombstones
  rw [h.written.same]
  exact { hcurrent with contents := hcontents }

end Revoked

theorem Consistent.setMetadata (h : Consistent platform tenantId current) {metadata : ArtifactMetadata}
    (hfresh : current.artifactMetadata.lookup metadata.contentReference.artifactId = none)
    : Consistent platform tenantId
        { current with artifactMetadata :=
            current.artifactMetadata.insert metadata.contentReference.artifactId metadata } := by
  have hgrows : Grows current.artifactMetadata
      (current.artifactMetadata.insert metadata.contentReference.artifactId metadata) :=
    Grows.insert hfresh metadata
  refine { h with contents := ⟨h.contents.revoked, ?_, ?_, h.contents.owned⟩ }
  . intro k version hversion hnone ownership hownership
    rcases h.contents.available k version hversion hnone ownership hownership with
      ⟨htombstone, row, hrow, hstate⟩
    exact ⟨htombstone, row, hgrows _ _ hrow, hstate⟩
  . intro k version revocation hversion hrevocation ownership hownership
    rcases (h.contents.tombstoned k version revocation hversion hrevocation ownership
      hownership).metadata with ⟨tombstone, row, htombstone, hrow, hrest⟩
    exact ⟨tombstone, row, htombstone, hgrows _ _ hrow, hrest⟩

end Datasets
end ProofStack
