import ProofStack.Datasets.VersionReads

/-!
This module contains what a publication, a revocation and a seed do to the state of a tenant.
-/

namespace ProofStack
namespace Datasets

open Artifacts Checks Interaction Store

def Grows {α : Type} (table table' : Table String α) : Prop :=
  ∀ k row, table.lookup k = some row → table'.lookup k = some row

theorem Grows.refl {α : Type} (table : Table String α) : Grows table table :=
  fun _ _ h => h

theorem Grows.trans {α : Type} {table table' table'' : Table String α} (h : Grows table table')
    (h' : Grows table' table'')
    : Grows table table'' :=
  fun k row hrow => h' k row (h k row hrow)

theorem Grows.insert {α : Type} {table : Table String α} {k : String} (hfresh : table.lookup k = none)
    (row : α)
    : Grows table (table.insert k row) :=
  fun _ _ => Table.lookup_insert_of_fresh hfresh

theorem Grows.insertAll {α : Type} {table : Table String α} {key : α → String} {rows : List α}
    (hfresh : ∀ row ∈ rows, table.lookup (key row) = none)
    : Grows table (Table.insertAll key table rows) := by
  intro k row hrow
  rw [Table.lookup_insertAll_of_ne]
  . exact hrow
  . rintro other hother rfl
    rw [hfresh other hother] at hrow
    contradiction

section Parts

variable {fixtureVersions fixtureVersions' : Table String RegressionFixtureVersion}
variable {recordedFixtureVersions recordedFixtureVersions' : Table String RecordedInteractionFixtureVersion}
variable {datasetVersions datasetVersions' : Table String RegressionDatasetVersion}
variable {intents : Table String RegressionVersionPublishedOutboxIntent}

theorem RecordedFrom.mono {version : RecordedInteractionFixtureVersion} {parent : RegressionFixtureVersion}
    (h : RecordedFrom fixtureVersions version parent) (hgrows : Grows fixtureVersions fixtureVersions')
    : RecordedFrom fixtureVersions' version parent :=
  { h with stored := hgrows _ _ h.stored }

theorem RefersTo.mono {scope : EvidenceScope} {reference : RegressionFixtureVersionReference}
    {target : StoredFixtureReferenceTarget}
    (h : RefersTo fixtureVersions recordedFixtureVersions scope reference target)
    (hgrows : Grows fixtureVersions fixtureVersions')
    (hrecorded : Grows recordedFixtureVersions recordedFixtureVersions')
    : RefersTo fixtureVersions' recordedFixtureVersions' scope reference target := by
  refine { h with stored := ?_ }
  have hstored := h.stored
  cases target with
  | evidence value => exact hgrows _ _ hstored
  | recorded value => exact hrecorded _ _ hstored

theorem IntentsStored.insert
    (h : IntentsStored fixtureVersions recordedFixtureVersions datasetVersions intents)
    (hfixtures : Grows fixtureVersions fixtureVersions')
    (hrecordings : Grows recordedFixtureVersions recordedFixtureVersions')
    (hdatasets : Grows datasetVersions datasetVersions') {intent : RegressionVersionPublishedOutboxIntent}
    (hstored : (∃ k version, fixtureVersions'.lookup k = some version
          ∧ intent = fixtureFamily.intent version)
        ∨ (∃ k version, recordedFixtureVersions'.lookup k = some version
            ∧ intent = recordedFamily.intent version)
        ∨ ∃ k version, datasetVersions'.lookup k = some version ∧ intent = datasetFamily.intent version)
    : IntentsStored fixtureVersions' recordedFixtureVersions' datasetVersions'
        (intents.insert (intentKey intent) intent) := by
  constructor
  . exact h.keyed.insert intent
  . intro key other hother
    rcases Table.lookup_insert_eq_some hother with ⟨_, rfl⟩ | ⟨_, hother⟩
    . exact hstored
    . rcases h.stored key other hother with ⟨k, version, hversion, hintent⟩
        | ⟨k, version, hversion, hintent⟩ | ⟨k, version, hversion, hintent⟩
      . exact .inl ⟨k, version, hfixtures _ _ hversion, hintent⟩
      . exact .inr (.inl ⟨k, version, hrecordings _ _ hversion, hintent⟩)
      . exact .inr (.inr ⟨k, version, hdatasets _ _ hversion, hintent⟩)

end Parts

section Bindings

variable {platform : Platform} {V D : Type} {family : VersionFamily V D} {tenantId : String}
variable {resources : Table String LogicalResourceBinding} {versions : Table String V}
variable {intents : Table String RegressionVersionPublishedOutboxIntent} {version : V}
variable {binding : Option LogicalResourceBinding}

theorem bindingForPublication_cases (hpublished : Published platform family tenantId versions intents)
    (h : bindingForPublication platform family resources versions version = .ok binding)
    : (resources.lookup (family.lineage.resource version) = none
        ∧ family.lineage.predecessor version = none
        ∧ binding = some ⟨family.lineage.key version, family.lineage.scope version⟩)
      ∨ ∃ bound parent, resources.lookup (family.lineage.resource version) = some bound
          ∧ bound.scope = family.lineage.scope version
          ∧ family.lineage.Continues versions version parent
          ∧ binding = none := by
  unfold bindingForPublication at h
  cases hresource : resources.lookup (family.lineage.resource version) with
  | none =>
    rw [hresource] at h
    simp only [bind_eq_ok, failIf_eq_ok, pure_eq_ok, Option.not_isSome_iff_eq_none] at h
    rcases h with ⟨_, hnone, hbinding⟩
    exact .inl ⟨rfl, hnone, hbinding.symm⟩
  | some bound =>
    rw [hresource] at h
    simp only [bind_eq_ok, failIf_eq_ok, found_eq_ok, pure_eq_ok, not_not, Prod.exists] at h
    rcases h with ⟨_, hscope, predecessorId, definitionSha256, hpredecessor, parent, hparent, validated,
      hvalidated, _, hsame, hbinding⟩
    rw [(hpublished.valid _ parent hparent).validateStored] at hvalidated
    cases hvalidated
    simp only [VersionFamily.validated, not_or, not_not, scopesEqual_iff] at hsame hscope
    have hkey := hpublished.keyed _ parent hparent
    refine .inr ⟨bound, parent, rfl, hscope, ⟨?_, ?_, hsame.1, hsame.2.1⟩, hbinding.symm⟩
    . rw [hpredecessor, hkey, hsame.2.2]
    . rw [hkey]
      exact hparent

theorem rooted_publication (hpublished : Published platform family tenantId versions intents)
    (hrooted : family.lineage.Rooted resources versions)
    (hfresh : versions.lookup (family.lineage.key version) = none)
    (h : bindingForPublication platform family resources versions version = .ok binding)
    : family.lineage.Rooted
        (binding.elim resources (fun bound => resources.insert (family.lineage.resource version) bound))
        (versions.insert (family.lineage.key version) version) := by
  rcases bindingForPublication_cases hpublished h with ⟨hresource, hnone, rfl⟩
    | ⟨bound, parent, hresource, hscope, hcontinues, rfl⟩
  . exact hrooted.insert_root hresource hfresh hnone
  . exact hrooted.insert_child hresource hscope hfresh hcontinues

end Bindings

variable {platform : Platform} {tenantId : String} {state : TenantState}

theorem Consistent.fixtureIntent_fresh (h : Consistent platform tenantId state) {k : String}
    (hfixture : state.fixtureVersions.lookup k = none)
    (hrecorded : state.recordedFixtureVersions.lookup k = none)
    : state.publicationIntents.lookup (fixtureIntentKey k) = none :=
  h.intents.fixture_fresh h.fixtures.keyed h.recordings.keyed hfixture hrecorded

theorem Consistent.setFixtureVersion (h : Consistent platform tenantId state)
    {version : RegressionFixtureVersion} {binding : Option LogicalResourceBinding}
    (hvalid : fixtureFamily.Valid platform version) (htenant : version.scope.tenantId = tenantId)
    (hfixture : state.fixtureVersions.lookup version.fixtureVersionId = none)
    (hrecorded : state.recordedFixtureVersions.lookup version.fixtureVersionId = none)
    (hbinding : fixtureBindingForPublication platform state version = .ok binding)
    : Consistent platform tenantId
        (setIntent (state.setFixtureVersion binding version) (fixtureFamily.intent version)) := by
  have hversions : Grows state.fixtureVersions
      (state.fixtureVersions.insert version.fixtureVersionId version) := Grows.insert hfixture version
  have hintents : Grows state.publicationIntents
      (state.publicationIntents.insert (intentKey (fixtureFamily.intent version))
        (fixtureFamily.intent version)) :=
    Grows.insert (h.fixtureIntent_fresh hfixture hrecorded) _
  constructor
  . exact (h.fixtures.mono hintents).insert hvalid htenant (AList.lookup_insert _)
  . exact h.recordings.mono hintents
  . exact h.datasets.mono hintents
  . exact h.intents.insert hversions (Grows.refl _) (Grows.refl _)
      (.inl ⟨_, version, AList.lookup_insert _, rfl⟩)
  . intro k
    by_cases hk : k = version.fixtureVersionId
    . right
      rw [hk]
      exact hrecorded
    . rcases h.disjoint k with hnone | hnone
      . left
        exact (AList.lookup_insert_ne hk).trans hnone
      . exact .inr hnone
  . exact rooted_publication h.fixtures h.fixtureRooted hfixture hbinding
  . exact h.datasetRooted
  . intro k other hother
    rcases h.recordedFrom k other hother with ⟨parent, hparent⟩
    exact ⟨parent, hparent.mono hversions⟩
  . intro k other hother reference hreference
    rcases h.members k other hother reference hreference with ⟨target, htarget⟩
    exact ⟨target, htarget.mono hversions (Grows.refl _)⟩
  . exact h.ownerships
  . exact h.contents

theorem validateDatasetMember_cases (h : Consistent platform tenantId state) {scope : EvidenceScope}
    {reference : RegressionFixtureVersionReference}
    (hmember : validateDatasetMember platform state scope reference = .ok ())
    : ∃ target, RefersTo state.fixtureVersions state.recordedFixtureVersions scope reference target := by
  dsimp only [validateDatasetMember] at hmember
  simp only [bind_eq_ok, found_eq_ok, failIf_eq_ok, not_or, not_not, scopesEqual_iff] at hmember
  rcases hmember with ⟨_, hfound, target, rfl, validated, hvalidated, hid, hscope, hdigest⟩
  have hstored : target.Stored state.fixtureVersions state.recordedFixtureVersions
      ∧ target.fixtureVersionId = reference.fixtureVersionId := by
    unfold storedFixtureReferenceTarget at hfound
    split at hfound
    . contradiction
    . next evidence hevidence _ =>
      cases hfound
      have hkey : evidence.fixtureVersionId = reference.fixtureVersionId :=
        h.fixtures.keyed _ evidence hevidence
      refine ⟨?_, hkey⟩
      dsimp only [StoredFixtureReferenceTarget.Stored]
      rw [hkey]
      exact hevidence
    . next recorded _ hrecorded =>
      cases hfound
      have hkey : recorded.fixtureVersionId = reference.fixtureVersionId :=
        h.recordings.keyed _ recorded hrecorded
      refine ⟨?_, hkey⟩
      dsimp only [StoredFixtureReferenceTarget.Stored]
      rw [hkey]
      exact hrecorded
    . cases hfound
  rw [validateFixtureReferenceTarget_ok h hstored.1] at hvalidated
  cases hvalidated
  exact ⟨target, hstored.1, hstored.2, hid, hscope, hdigest⟩

theorem forM_eq_ok {α : Type} {rows : List α} {check : α → Except RegressionError Unit}
    (h : rows.forM check = .ok ())
    : ∀ row ∈ rows, check row = .ok () := by
  induction rows with
  | nil => simp
  | cons row rows ih =>
    change (check row >>= fun _ => rows.forM check) = .ok () at h
    rw [bind_eq_ok] at h
    rcases h with ⟨_, hrow, hrows⟩
    rw [List.forall_mem_cons]
    exact ⟨hrow, ih hrows⟩

theorem Consistent.setDatasetVersion (h : Consistent platform tenantId state)
    {version : RegressionDatasetVersion} {binding : Option LogicalResourceBinding}
    (hvalid : datasetFamily.Valid platform version) (htenant : version.scope.tenantId = tenantId)
    (hfresh : state.datasetVersions.lookup version.datasetVersionId = none)
    (hbinding : datasetBindingForPublication platform state version = .ok binding)
    (hmembers : validateDatasetMembership platform state version = .ok ())
    : Consistent platform tenantId
        (setIntent (state.setDatasetVersion binding version) (datasetFamily.intent version)) := by
  have hversions : Grows state.datasetVersions
      (state.datasetVersions.insert version.datasetVersionId version) := Grows.insert hfresh version
  have hintents : Grows state.publicationIntents
      (state.publicationIntents.insert (intentKey (datasetFamily.intent version))
        (datasetFamily.intent version)) :=
    Grows.insert (h.intents.dataset_fresh h.datasets.keyed hfresh) _
  constructor
  . exact h.fixtures.mono hintents
  . exact h.recordings.mono hintents
  . exact (h.datasets.mono hintents).insert hvalid htenant (AList.lookup_insert _)
  . exact h.intents.insert (Grows.refl _) (Grows.refl _) hversions
      (.inr (.inr ⟨_, version, AList.lookup_insert _, rfl⟩))
  . exact h.disjoint
  . exact h.fixtureRooted
  . exact rooted_publication h.datasets h.datasetRooted hfresh hbinding
  . exact h.recordedFrom
  . intro k other hother reference hreference
    rcases Table.lookup_insert_eq_some hother with ⟨_, rfl⟩ | ⟨_, hother⟩
    . exact validateDatasetMember_cases h (forM_eq_ok hmembers reference hreference)
    . exact h.members k other hother reference hreference
  . exact h.ownerships
  . exact h.contents

theorem artifactId_of_mem_ownershipsOf {version : RecordedInteractionFixtureVersion}
    {ownership : ArtifactOwnership} (h : ownership ∈ ownershipsOf version)
    : ∃ binding ∈ version.interactionCapture.artifacts,
        ownership = expectedOwnership version binding
          ∧ ownership.artifactId = binding.contentReference.artifactId := by
  rcases List.mem_map.mp h with ⟨binding, hbinding, rfl⟩
  exact ⟨binding, hbinding, rfl, rfl⟩

theorem eq_of_mem_ownershipsOf {version : RecordedInteractionFixtureVersion}
    : ∀ ownership ∈ ownershipsOf version, ∀ other ∈ ownershipsOf version,
        ownership.artifactId = other.artifactId → ownership = other := by
  intro ownership hownership other hother hid
  rcases artifactId_of_mem_ownershipsOf hownership with ⟨binding, _, rfl, _⟩
  rcases artifactId_of_mem_ownershipsOf hother with ⟨binding', _, rfl, _⟩
  dsimp only [expectedOwnership] at hid ⊢
  rw [hid]

theorem interactionFixtureBinding_cases (h : Consistent platform tenantId state)
    {version : RecordedInteractionFixtureVersion}
    (hbinding : interactionFixtureBindingForPublication platform state version = .ok ())
    : ∃ parent, RecordedFrom state.fixtureVersions version parent := by
  dsimp only [interactionFixtureBindingForPublication, validateStoredFixtureVersion] at hbinding
  simp only [bind_eq_ok, found_eq_ok, failIf_eq_ok, not_or, not_not] at hbinding
  rcases hbinding with ⟨_, _, _, _, parent, hparent, validated, hvalidated, hsame⟩
  rw [(h.fixtures.valid _ parent hparent).validateStored] at hvalidated
  cases hvalidated
  simp only [VersionFamily.validated, scopesEqual_iff] at hsame
  have hkey : parent.fixtureVersionId = version.predecessor.fixtureVersionId :=
    h.fixtures.keyed _ parent hparent
  refine ⟨parent, hkey.symm, hsame.2.2.1.symm, ?_, hsame.1, hsame.2.1, hsame.2.2.2⟩
  rw [hkey]
  exact hparent

theorem ownershipsForPublication_cases {version : RecordedInteractionFixtureVersion}
    {ownerships : List ArtifactOwnership} (hvalid : recordedFamily.Valid platform version)
    (h : ownershipsForPublication state version = .ok ownerships)
    : ownerships = ownershipsOf version
        ∧ ∀ ownership ∈ ownershipsOf version,
            state.artifactOwnerships.lookup ownership.artifactId = none
              ∧ ∃ row, state.artifactMetadata.lookup ownership.artifactId = some row
                  ∧ row.state = .available := by
  dsimp only [ownershipsForPublication] at h
  rw [bind_eq_ok] at h
  rcases h with ⟨_, hbindable, hownerships⟩
  rw [expectedOwnerships_ok hvalid] at hownerships
  cases hownerships
  refine ⟨rfl, ?_⟩
  intro ownership hownership
  rcases artifactId_of_mem_ownershipsOf hownership with ⟨binding, hmem, _, hid⟩
  have hrow := forM_eq_ok hbindable binding hmem
  dsimp only [requireBindable] at hrow
  simp only [bind_eq_ok, found_eq_ok, failIf_eq_ok, not_not] at hrow
  rcases hrow with ⟨row, hrow, _, _, hstate, _, _, _, hnone⟩
  rw [hid]
  exact ⟨Option.isNone_iff_eq_none.mp hnone, row, hrow, hstate⟩

theorem Owned.insert {recordedFixtureVersions : Table String RecordedInteractionFixtureVersion}
    {ownerships : Table String ArtifactOwnership} (h : Owned recordedFixtureVersions ownerships)
    {version : RecordedInteractionFixtureVersion}
    (hrecorded : recordedFixtureVersions.lookup version.fixtureVersionId = none)
    (hfree : ∀ ownership ∈ ownershipsOf version, ownerships.lookup ownership.artifactId = none)
    : Owned (recordedFixtureVersions.insert version.fixtureVersionId version)
        (Table.insertAll (·.artifactId) ownerships (ownershipsOf version)) := by
  have hgrows : Grows ownerships (Table.insertAll (·.artifactId) ownerships (ownershipsOf version)) :=
    Grows.insertAll hfree
  constructor
  . intro k other hother ownership hownership
    rcases Table.lookup_insert_eq_some hother with ⟨_, rfl⟩ | ⟨_, hother⟩
    . exact Table.lookup_insertAll_of_mem eq_of_mem_ownershipsOf hownership
    . exact hgrows _ _ (h.ofVersion k other hother ownership hownership)
  . intro artifactId ownership hownership
    by_cases hnew : ∃ other ∈ ownershipsOf version, other.artifactId = artifactId
    . rcases hnew with ⟨other, hother, rfl⟩
      have hlookup : (Table.insertAll (·.artifactId) ownerships (ownershipsOf version)).lookup
          other.artifactId = some other := Table.lookup_insertAll_of_mem eq_of_mem_ownershipsOf hother
      rw [hownership] at hlookup
      obtain rfl : ownership = other := Option.some.inj hlookup
      rcases artifactId_of_mem_ownershipsOf hother with ⟨binding, _, hexpected, _⟩
      have hid : ownership.fixtureVersionId = version.fixtureVersionId := by
        rw [hexpected]
        rfl
      refine ⟨rfl, version, ?_, hother⟩
      rw [hid]
      exact AList.lookup_insert _
    . push Not at hnew
      rw [Table.lookup_insertAll_of_ne hnew] at hownership
      rcases h.toVersion artifactId ownership hownership with ⟨hid, other, hother, hmem⟩
      exact ⟨hid, other, Table.lookup_insert_of_fresh hrecorded hother, hmem⟩

theorem Contents.insert {recordedFixtureVersions : Table String RecordedInteractionFixtureVersion}
    {ownerships ownerships' : Table String ArtifactOwnership} {metadata : Table String ArtifactMetadata}
    {tombstones : Table String ArtifactTombstone}
    {revocations : Table String InteractionFixtureContentRevocation}
    (h : Contents recordedFixtureVersions ownerships metadata tombstones revocations)
    {version : RecordedInteractionFixtureVersion}
    (hrecorded : recordedFixtureVersions.lookup version.fixtureVersionId = none)
    (hfree : ∀ ownership ∈ ownershipsOf version, ownerships.lookup ownership.artifactId = none
      ∧ ∃ row, metadata.lookup ownership.artifactId = some row ∧ row.state = .available)
    (hgrows : Grows ownerships ownerships')
    : Contents (recordedFixtureVersions.insert version.fixtureVersionId version) ownerships' metadata
        tombstones revocations := by
  -- A revocation belongs to a stored version, and a tombstone to an owned artifact.
  have hnew : revocations.lookup version.fixtureVersionId = none := by
    cases hlookup : revocations.lookup version.fixtureVersionId with
    | none => rfl
    | some revocation =>
      rcases (h.revoked _ revocation hlookup).2 with ⟨other, hother, _⟩
      rw [hrecorded] at hother
      contradiction
  have hclean : ∀ ownership ∈ ownershipsOf version, tombstones.lookup ownership.artifactId = none := by
    intro ownership hownership
    cases hlookup : tombstones.lookup ownership.artifactId with
    | none => rfl
    | some tombstone =>
      rcases h.owned _ tombstone hlookup with ⟨other, hother⟩
      rw [(hfree ownership hownership).1] at hother
      contradiction
  constructor
  . intro k revocation hrevocation
    rcases h.revoked k revocation hrevocation with ⟨haccepted, other, hother, hrest⟩
    exact ⟨haccepted, other, Table.lookup_insert_of_fresh hrecorded hother, hrest⟩
  . intro k other hother hnone ownership hownership
    rcases Table.lookup_insert_eq_some hother with ⟨_, rfl⟩ | ⟨_, hother⟩
    . exact ⟨hclean ownership hownership, (hfree ownership hownership).2⟩
    . exact h.available k other hother hnone ownership hownership
  . intro k other revocation hother hrevocation ownership hownership
    rcases Table.lookup_insert_eq_some hother with ⟨rfl, rfl⟩ | ⟨_, hother⟩
    . rw [hnew] at hrevocation
      contradiction
    . exact h.tombstoned k other revocation hother hrevocation ownership hownership
  . intro artifactId tombstone htombstone
    rcases h.owned artifactId tombstone htombstone with ⟨ownership, hownership⟩
    exact ⟨ownership, hgrows _ _ hownership⟩

theorem Consistent.setRecordedFixtureVersion (h : Consistent platform tenantId state)
    {version : RecordedInteractionFixtureVersion} {ownerships : List ArtifactOwnership}
    (hvalid : recordedFamily.Valid platform version) (htenant : version.scope.tenantId = tenantId)
    (hfixture : state.fixtureVersions.lookup version.fixtureVersionId = none)
    (hrecorded : state.recordedFixtureVersions.lookup version.fixtureVersionId = none)
    (hbinding : interactionFixtureBindingForPublication platform state version = .ok ())
    (hownerships : ownershipsForPublication state version = .ok ownerships)
    : Consistent platform tenantId
        (setIntent (state.setRecordedFixtureVersion version ownerships)
          (recordedFamily.intent version)) := by
  rcases ownershipsForPublication_cases hvalid hownerships with ⟨rfl, hfree⟩
  have hversions : Grows state.recordedFixtureVersions
      (state.recordedFixtureVersions.insert version.fixtureVersionId version) :=
    Grows.insert hrecorded version
  have hintents : Grows state.publicationIntents
      (state.publicationIntents.insert (intentKey (recordedFamily.intent version))
        (recordedFamily.intent version)) :=
    Grows.insert (h.fixtureIntent_fresh hfixture hrecorded) _
  have howned : Grows state.artifactOwnerships
      (Table.insertAll (·.artifactId) state.artifactOwnerships (ownershipsOf version)) :=
    Grows.insertAll (fun ownership hownership => (hfree ownership hownership).1)
  constructor
  . exact h.fixtures.mono hintents
  . exact (h.recordings.mono hintents).insert hvalid htenant (AList.lookup_insert _)
  . exact h.datasets.mono hintents
  . exact h.intents.insert (Grows.refl _) hversions (Grows.refl _)
      (.inr (.inl ⟨_, version, AList.lookup_insert _, rfl⟩))
  . intro k
    by_cases hk : k = version.fixtureVersionId
    . left
      rw [hk]
      exact hfixture
    . rcases h.disjoint k with hnone | hnone
      . exact .inl hnone
      . right
        exact (AList.lookup_insert_ne hk).trans hnone
  . exact h.fixtureRooted
  . exact h.datasetRooted
  . intro k other hother
    rcases Table.lookup_insert_eq_some hother with ⟨_, rfl⟩ | ⟨_, hother⟩
    . exact interactionFixtureBinding_cases h hbinding
    . exact h.recordedFrom k other hother
  . intro k other hother reference hreference
    rcases h.members k other hother reference hreference with ⟨target, htarget⟩
    exact ⟨target, htarget.mono (Grows.refl _) hversions⟩
  . exact h.ownerships.insert hrecorded (fun ownership hownership => (hfree ownership hownership).1)
  . exact h.contents.insert hrecorded hfree howned

end Datasets
end ProofStack
