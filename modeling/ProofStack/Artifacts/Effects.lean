import ProofStack.Artifacts.Operations

/-!
This module contains what a single step of an operation can do to the catalog and to the object store.
-/

namespace ProofStack
namespace Artifacts

open Checks StateMachine

section Catalog

variable {catalog catalog' : ArtifactCatalog} {scope : EvidenceScope} {artifactId : String}

def ArtifactState.rank : ArtifactState → Nat
  | .reserved => 0
  | .available => 1
  | .tombstoned => 2
  | .purged => 3

structure Moved (catalog : ArtifactCatalog) (key : ArtifactKey) (stored stored' : StoredArtifact)
    (catalog' : ArtifactCatalog) : Prop where
  moved : catalog' = catalog.set key stored'
  found : catalog.artifacts key = some stored
  sameKey : stored'.entry.key = stored.entry.key
  sameObjectKey : stored'.entry.objectKey = stored.entry.objectKey

variable {entry : ArtifactCatalogEntry}

theorem find_eq_some (h : catalog.find scope artifactId = some entry)
    : ∃ stored, catalog.artifacts (artifactKey scope artifactId) = some stored ∧ stored.entry = entry := by
  unfold ArtifactCatalog.find at h
  split at h
  . next stored hstored =>
    split at h
    . cases h
      exact ⟨stored, hstored, rfl⟩
    . contradiction
  . contradiction

theorem required_eq_ok {stored : StoredArtifact} (h : catalog.required scope artifactId = .ok stored)
    : catalog.artifacts (artifactKey scope artifactId) = some stored := by
  unfold ArtifactCatalog.required at h
  split at h
  . next stored' hstored =>
    split at h
    . cases h
      exact hstored
    . contradiction
  . contradiction

theorem reserve_effect {candidate : ArtifactCatalogEntry} {result : Bool × ArtifactCatalogEntry}
    (h : catalog.reserve candidate = .ok (result, catalog'))
    : catalog' = catalog
        ∨ catalog.artifacts candidate.key = none
            ∧ candidate.state = .reserved
            ∧ catalog'.artifacts
                = Function.update catalog.artifacts candidate.key (some ⟨candidate, none, none⟩) := by
  simp only [ArtifactCatalog.reserve, bind_eq_ok, failIf_eq_ok, not_or, not_not] at h
  obtain ⟨_, ⟨hstate, _⟩, h⟩ := h
  split at h
  . next hnone =>
    rw [pure_eq_ok] at h
    cases h
    exact .inr ⟨hnone, hstate, rfl⟩
  . simp only [bind_eq_ok, pure_eq_ok] at h
    obtain ⟨_, _, h⟩ := h
    cases h
    exact .inl rfl

theorem activate_effect {receipt : ArtifactObjectReceipt} {availableAt : PolicyEvaluationTime}
    (h : catalog.activate scope artifactId receipt availableAt = .ok (entry, catalog'))
    : catalog' = catalog
        ∨ ∃ stored stored', Moved catalog (artifactKey scope artifactId) stored stored' catalog'
            ∧ stored.entry.state = .reserved
            ∧ stored'.entry.state = .available
            ∧ stored'.entry.objectReceipt = some receipt := by
  simp only [ArtifactCatalog.activate, bind_eq_ok] at h
  obtain ⟨stored, hstored, h⟩ := h
  split at h
  . simp only [bind_eq_ok, pure_eq_ok] at h
    obtain ⟨_, _, h⟩ := h
    cases h
    exact .inl rfl
  . simp only [bind_eq_ok, failIf_eq_ok, not_not, pure_eq_ok] at h
    obtain ⟨_, hstate, h⟩ := h
    cases h
    exact .inr ⟨stored, _, ⟨rfl, required_eq_ok hstored, rfl, rfl⟩, hstate, rfl, rfl⟩

theorem tombstone_effect {tombstone : ArtifactTombstone}
    {result : Bool × ArtifactCatalogEntry × ArtifactTombstone}
    (h : catalog.tombstone scope tombstone = .ok (result, catalog'))
    : catalog' = catalog
        ∨ ∃ stored stored',
            Moved catalog (artifactKey scope tombstone.artifactId) stored stored' catalog'
              ∧ (stored.entry.state = .reserved ∨ stored.entry.state = .available)
              ∧ stored'.entry.state = .tombstoned := by
  simp only [ArtifactCatalog.tombstone, bind_eq_ok] at h
  obtain ⟨stored, hstored, _, _, h⟩ := h
  split at h
  . simp only [bind_eq_ok, pure_eq_ok] at h
    obtain ⟨_, _, h⟩ := h
    cases h
    exact .inl rfl
  . simp only [bind_eq_ok, failIf_eq_ok, not_not, pure_eq_ok] at h
    obtain ⟨_, hallowed, h⟩ := h
    cases h
    exact .inr ⟨stored, _, ⟨rfl, required_eq_ok hstored, rfl, rfl⟩,
      hallowed.imp And.left And.left, rfl⟩

theorem recordPurge_effect {receipt : ArtifactPurgeReceipt}
    (h : catalog.recordPurge scope receipt = .ok (entry, catalog'))
    : catalog' = catalog
        ∨ ∃ stored stored', Moved catalog (artifactKey scope receipt.artifactId) stored stored' catalog'
            ∧ stored.entry.state = .tombstoned
            ∧ stored'.entry.state = .purged := by
  simp only [ArtifactCatalog.recordPurge, bind_eq_ok] at h
  obtain ⟨stored, hstored, h⟩ := h
  split at h
  . rw [pure_eq_ok] at h
    cases h
    exact .inl rfl
  . simp only [bind_eq_ok, failIf_eq_ok, not_not, pure_eq_ok] at h
    obtain ⟨_, hstate, h⟩ := h
    cases h
    exact .inr ⟨stored, _, ⟨rfl, required_eq_ok hstored, rfl, rfl⟩, hstate, rfl⟩

theorem mem_listAbandoned {localeLe : String → String → Bool} {before : PolicyEvaluationTime}
    {limit : Nat} {entries : List ArtifactCatalogEntry}
    (h : catalog.listAbandoned localeLe scope before limit = .ok entries)
    (hentry : entry ∈ entries)
    : matchesScope entry scope
        ∧ ∃ key stored, catalog.artifacts key = some stored ∧ stored.entry = entry := by
  simp only [ArtifactCatalog.listAbandoned, bind_eq_ok, pure_eq_ok] at h
  obtain ⟨_, _, rfl⟩ := h
  have hentry := List.mem_of_mem_take hentry
  unfold ArtifactCatalog.ordered at hentry
  rw [List.mem_insertionSort, List.mem_filter] at hentry
  obtain ⟨hmem, hfilter⟩ := hentry
  simp only [decide_eq_true_eq] at hfilter
  simp only [ArtifactCatalog.entries, List.mem_map, List.mem_filterMap] at hmem
  obtain ⟨stored, ⟨key, _, hstored⟩, heq⟩ := hmem
  exact ⟨hfilter.1, key, stored, hstored, heq⟩

end Catalog

end Artifacts
end ProofStack
