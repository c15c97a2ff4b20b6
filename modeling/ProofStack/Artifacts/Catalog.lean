import Mathlib.Data.List.Sort
import Mathlib.Logic.Function.Basic
import ProofStack.Checks
import ProofStack.Contracts.ArtifactLifecycle

/-!
This module contains the catalog of artifacts and the store of their encrypted objects.
-/

namespace ProofStack
namespace Artifacts

open Checks

def maxArtifactMaintenanceBatchSize : Nat := 100

inductive ArtifactError where
  | artifactConflict
  | artifactNotFound
  | artifactStateTransition
  | artifactOwnedDeletion
  | artifactOwnershipConflict
  | artifactObjectConflict
  | identifierGeneration
  | contentProtection
  | portUnavailable
  | maintenanceLimit (message : String)
  | forbidden (message : String)
  | invalidLifecycleInput (message : String)
  deriving DecidableEq

structure WrappedArtifactDataKey where
  ciphertext : String
  keyId : String
  nonce : String
  tag : String
  deriving DecidableEq

structure ArtifactEncryptionPlan where
  contentNonce : String
  wrappedDataKey : WrappedArtifactDataKey
  deriving DecidableEq

structure ArtifactObjectReceipt where
  sha256 : String
  sizeBytes : Nat
  deriving DecidableEq

structure ArtifactCatalogEntry where
  createdByPrincipalId : String
  encryption : ArtifactEncryptionPlan
  metadata : ArtifactMetadata
  objectKey : String
  objectReceipt : Option ArtifactObjectReceipt
  ownership : Option ArtifactOwnership
  deriving DecidableEq

structure ArtifactPurgeReceipt where
  artifactId : String
  objectWasPresent : Bool
  occurredAt : PolicyEvaluationTime
  purgeId : String
  deriving DecidableEq

structure StoredArtifact where
  entry : ArtifactCatalogEntry
  purgeReceipt : Option ArtifactPurgeReceipt
  tombstone : Option ArtifactTombstone
  deriving DecidableEq

abbrev ArtifactKey : Type := String × String

def artifactKey (scope : EvidenceScope) (artifactId : String) : ArtifactKey :=
  (scope.tenantId, artifactId)

namespace ArtifactCatalogEntry

def artifactId (entry : ArtifactCatalogEntry) : String :=
  entry.metadata.contentReference.artifactId

def key (entry : ArtifactCatalogEntry) : ArtifactKey :=
  artifactKey entry.metadata.scope entry.artifactId

def state (entry : ArtifactCatalogEntry) : ArtifactState :=
  entry.metadata.state

end ArtifactCatalogEntry

structure ArtifactCatalog where
  keys : List ArtifactKey
  artifacts : ArtifactKey → Option StoredArtifact

def ArtifactCatalog.empty : ArtifactCatalog where
  keys := []
  artifacts := fun _ => none

def matchesScope (entry : ArtifactCatalogEntry) (scope : EvidenceScope) : Prop :=
  entry.metadata.scope.tenantId = scope.tenantId
    ∧ entry.metadata.scope.projectId = scope.projectId
    ∧ entry.metadata.scope.environmentId = scope.environmentId

instance (entry : ArtifactCatalogEntry) (scope : EvidenceScope) : Decidable (matchesScope entry scope) :=
  inferInstanceAs (Decidable (_ ∧ _ ∧ _))

def isSameReservation (left right : ArtifactCatalogEntry) : Prop :=
  left.metadata.contentReference = right.metadata.contentReference
    ∧ left.metadata.redaction = right.metadata.redaction
    ∧ left.metadata.retention.expiry = right.metadata.retention.expiry
    ∧ left.metadata.scope = right.metadata.scope

instance (left right : ArtifactCatalogEntry) : Decidable (isSameReservation left right) :=
  inferInstanceAs (Decidable (_ ∧ _ ∧ _ ∧ _))

def isSameTombstone (left right : ArtifactTombstone) : Prop :=
  left.actorPrincipalId = right.actorPrincipalId
    ∧ left.artifactId = right.artifactId
    ∧ left.reason = right.reason
    ∧ left.trigger = right.trigger

instance (left right : ArtifactTombstone) : Decidable (isSameTombstone left right) :=
  inferInstanceAs (Decidable (_ ∧ _ ∧ _ ∧ _))

namespace ArtifactCatalog

variable (catalog : ArtifactCatalog)

def set (key : ArtifactKey) (stored : StoredArtifact) : ArtifactCatalog :=
  { catalog with artifacts := Function.update catalog.artifacts key (some stored) }

def reserve (candidate : ArtifactCatalogEntry)
    : Except ArtifactError ((Bool × ArtifactCatalogEntry) × ArtifactCatalog) := do
  failIf
    (candidate.state ≠ .reserved ∨ candidate.objectReceipt ≠ none ∨ candidate.ownership ≠ none)
    .artifactStateTransition
  match catalog.artifacts candidate.key with
  | none =>
    let stored : StoredArtifact := { entry := candidate, purgeReceipt := none, tombstone := none }
    return ((true, candidate), { catalog.set candidate.key stored with
      keys := catalog.keys ++ [candidate.key] })
  | some existing => do
    failIf (¬isSameReservation existing.entry candidate) .artifactConflict
    return ((false, existing.entry), catalog)

def find (scope : EvidenceScope) (artifactId : String) : Option ArtifactCatalogEntry :=
  match catalog.artifacts (artifactKey scope artifactId) with
  | some stored => if matchesScope stored.entry scope then some stored.entry else none
  | none => none

def required (scope : EvidenceScope) (artifactId : String) : Except ArtifactError StoredArtifact :=
  match catalog.artifacts (artifactKey scope artifactId) with
  | some stored => if matchesScope stored.entry scope then .ok stored else .error .artifactNotFound
  | none => .error .artifactNotFound

def activate (scope : EvidenceScope) (artifactId : String) (objectReceipt : ArtifactObjectReceipt)
    (availableAt : PolicyEvaluationTime)
    : Except ArtifactError (ArtifactCatalogEntry × ArtifactCatalog) := do
  let stored ← catalog.required scope artifactId
  if stored.entry.state = .available then
    failIf (stored.entry.objectReceipt ≠ some objectReceipt) .artifactConflict
    return (stored.entry, catalog)
  else
    failIf (stored.entry.state ≠ .reserved) .artifactStateTransition
    let entry : ArtifactCatalogEntry :=
      { stored.entry with
        metadata :=
          { stored.entry.metadata with availableAt := some availableAt, state := .available }
        objectReceipt := some objectReceipt }
    return (entry, catalog.set (artifactKey scope artifactId) { stored with entry })

def tombstone (scope : EvidenceScope) (tombstone : ArtifactTombstone)
    : Except ArtifactError
        ((Bool × ArtifactCatalogEntry × ArtifactTombstone) × ArtifactCatalog) := do
  let stored ← catalog.required scope tombstone.artifactId
  failIf (stored.entry.ownership ≠ none) .artifactOwnedDeletion
  match stored.tombstone with
  | some existing => do
    failIf (¬isSameTombstone existing tombstone) .artifactConflict
    return ((false, stored.entry, existing), catalog)
  | none => do
    failIf
      (¬(stored.entry.state = .reserved ∧ tombstone.trigger = .abandoned
          ∨ stored.entry.state = .available ∧ tombstone.trigger ≠ .abandoned))
      .artifactStateTransition
    let entry : ArtifactCatalogEntry :=
      { stored.entry with
        metadata :=
          { stored.entry.metadata with
            state := .tombstoned
            tombstonedAt := some tombstone.occurredAt } }
    return ((true, entry, tombstone), catalog.set (artifactKey scope tombstone.artifactId)
      { stored with entry, tombstone := some tombstone })

def recordPurge (scope : EvidenceScope) (receipt : ArtifactPurgeReceipt)
    : Except ArtifactError (ArtifactCatalogEntry × ArtifactCatalog) := do
  let stored ← catalog.required scope receipt.artifactId
  if stored.entry.state = .purged then
    return (stored.entry, catalog)
  else
    failIf (stored.entry.state ≠ .tombstoned) .artifactStateTransition
    let entry : ArtifactCatalogEntry :=
      { stored.entry with
        metadata :=
          { stored.entry.metadata with purgedAt := some receipt.occurredAt, state := .purged } }
    return (entry, catalog.set (artifactKey scope receipt.artifactId)
      { stored with entry, purgeReceipt := some receipt })

def entries : List ArtifactCatalogEntry :=
  (catalog.keys.filterMap catalog.artifacts).map (·.entry)

def assertMaintenanceLimit (limit : Nat) : Except ArtifactError Unit :=
  failIf (limit < 1 ∨ limit > maxArtifactMaintenanceBatchSize)
    (.maintenanceLimit "Artifact maintenance limit must be between 1 and 100")

section Lists

-- Equal instants are ordered by the identifiers, in the order of the locale.
variable (localeLe : String → String → Bool)

def ordered (instant : ArtifactCatalogEntry → Int) (entries : List ArtifactCatalogEntry)
    : List ArtifactCatalogEntry :=
  entries.insertionSort (fun left right =>
    instant left < instant right
      ∨ instant left = instant right ∧ localeLe left.artifactId right.artifactId)

def listExpired (scope : EvidenceScope) (expiresBefore : PolicyEvaluationTime) (limit : Nat)
    : Except ArtifactError (List ArtifactCatalogEntry) := do
  assertMaintenanceLimit limit
  let expired := catalog.entries.filter (fun entry =>
    matchesScope entry scope
      ∧ entry.state = .available
      ∧ ∃ expiry ∈ entry.metadata.retention.expiry, expiry ≤ expiresBefore.orderKey)
  return (ordered localeLe (fun entry => entry.metadata.retention.expiry.getD 0) expired).take limit

def listAbandoned (scope : EvidenceScope) (createdBefore : PolicyEvaluationTime) (limit : Nat)
    : Except ArtifactError (List ArtifactCatalogEntry) := do
  assertMaintenanceLimit limit
  let abandoned := catalog.entries.filter (fun entry =>
    matchesScope entry scope
      ∧ entry.state = .reserved
      ∧ entry.metadata.createdAt.orderKey ≤ createdBefore.orderKey)
  return (ordered localeLe (fun entry => entry.metadata.createdAt.orderKey) abandoned).take limit

def listPendingPurge (scope : EvidenceScope) (limit : Nat)
    : Except ArtifactError (List ArtifactCatalogEntry) := do
  assertMaintenanceLimit limit
  let pending := catalog.entries.filter (fun entry =>
    matchesScope entry scope ∧ entry.state = .tombstoned)
  return (ordered localeLe
    (fun entry => (entry.metadata.tombstonedAt.map (·.orderKey)).getD 0) pending).take limit

end Lists

end ArtifactCatalog

abbrev ArtifactObjects : Type := String → Option (List UInt8)

namespace ArtifactObjects

variable (objects : ArtifactObjects)

def receipt (sha256 : List UInt8 → String) (value : List UInt8) : ArtifactObjectReceipt where
  sha256 := sha256 value
  sizeBytes := value.length

def delete (objectKey : String) : Bool × ArtifactObjects :=
  ((objects objectKey).isSome, Function.update objects objectKey none)

def putIfAbsent (sha256 : List UInt8 → String) (objectKey : String) (ciphertext : List UInt8)
    : (Bool × ArtifactObjectReceipt) × ArtifactObjects :=
  match objects objectKey with
  | some existing => ((false, receipt sha256 existing), objects)
  | none =>
    ((true, receipt sha256 ciphertext), Function.update objects objectKey (some ciphertext))

end ArtifactObjects

end Artifacts
end ProofStack
