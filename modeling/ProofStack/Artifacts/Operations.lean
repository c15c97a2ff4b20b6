import ProofStack.Artifacts.Catalog
import ProofStack.StateMachine.Interleaved

/-!
This module contains the operations on artifacts as processes.
-/

namespace ProofStack
namespace Artifacts

open Checks StateMachine

def minAbandonedReservationAgeMilliseconds : Int := 60 * 60 * 1000

structure ProjectResourceScope where
  projectId : String
  environmentIds : Option (List String)

inductive ResourceScope where
  | tenant
  | restricted (projects : List ProjectResourceScope)

structure PrincipalContext where
  principalId : String
  tenantId : String
  capabilities : List String
  resourceScope : ResourceScope

def requireCapability (principal : PrincipalContext) (requiredCapability : String)
    : Except ArtifactError Unit :=
  failIf (requiredCapability ∉ principal.capabilities)
    (.forbidden ("Missing required capability: " ++ requiredCapability))

def requireEnvironmentAccess (principal : PrincipalContext) (projectId environmentId : String)
    : Except ArtifactError Unit :=
  match principal.resourceScope with
  | .tenant => .ok ()
  | .restricted projects =>
    match projects.find? (fun project => project.projectId = projectId) with
    | none => .error (.forbidden ("Principal cannot access project: " ++ projectId))
    | some project =>
      failIf (∃ environmentIds ∈ project.environmentIds, environmentId ∉ environmentIds)
        (.forbidden ("Principal cannot access environment: " ++ environmentId))

structure ArtifactCommand where
  environmentId : String
  principal : PrincipalContext
  projectId : String

def ArtifactCommand.scope (command : ArtifactCommand) : EvidenceScope where
  environmentId := command.environmentId
  projectId := command.projectId
  tenantId := command.principal.tenantId

inductive ArtifactRequest where
  | reserve (request : ReserveArtifactRequest)
  | upload (artifactId : String)
  | tombstone (artifactId reason : String)
  | purge (artifactId : String)
  | reconcile (abandonedBefore : PolicyEvaluationTime) (limit : Nat)
  | processRetention (limit : Nat)
  | processAbandoned (abandonedBefore : PolicyEvaluationTime) (limit : Nat)
  | retryPurges (limit : Nat)

structure EncryptedArtifactObject where
  bytes : List UInt8
  receipt : ArtifactObjectReceipt

/-- What the clock, the generators and the encryption answer during a step. A call to a catalog or an
object store that cannot be reached has no effect. -/
structure Answer where
  now : Option PolicyEvaluationTime
  reachable : Bool
  plan : Option ArtifactEncryptionPlan
  objectKey : Option String
  lifecycleId : Option String
  encrypted : Except ArtifactError EncryptedArtifactObject
  decrypted : Bool

structure ArtifactMaintenanceResult where
  failedArtifactIds : List String
  inspected : Nat
  purged : Nat
  tombstoned : Nat

structure ReconcileArtifactReservationsResult where
  activated : Nat
  failedArtifactIds : List String
  inspected : Nat
  missingObjects : Nat

inductive Outcome where
  | failed (error : ArtifactError)
  | reserved (created : Bool) (metadata : ArtifactMetadata)
  | uploaded (metadata : ArtifactMetadata)
  | tombstoned (created : Bool) (metadata : ArtifactMetadata) (tombstone : ArtifactTombstone)
  | purged (metadata : ArtifactMetadata)
  | maintained (result : ArtifactMaintenanceResult)
  | reconciled (result : ReconcileArtifactReservationsResult)

structure CleanupJob where
  command : ArtifactCommand
  occurredAt : PolicyEvaluationTime
  reason : String
  trigger : ArtifactTombstoneTrigger

inductive Batch where
  | tombstones (job : CleanupJob) (entries : List ArtifactCatalogEntry)
      (result : ArtifactMaintenanceResult)
  | purges (command : ArtifactCommand) (entries : List ArtifactCatalogEntry)
      (result : ArtifactMaintenanceResult)

inductive Operation where
  | requested (command : ArtifactCommand) (request : ArtifactRequest)
  | reserve (candidate : ArtifactCatalogEntry)
  | write (scope : EvidenceScope) (artifactId objectKey : String)
      (encrypted : EncryptedArtifactObject)
  | activate (scope : EvidenceScope) (artifactId : String) (receipt : ArtifactObjectReceipt)
  | tombstone (job : CleanupJob) (artifactId : String) (entries : List ArtifactCatalogEntry)
      (result : ArtifactMaintenanceResult)
  | purge (command : ArtifactCommand) (artifactId : String) (batch : Option Batch)
  | delete (scope : EvidenceScope) (artifactId objectKey : String) (batch : Option Batch)
  | mark (scope : EvidenceScope) (artifactId : String) (objectWasPresent : Bool)
      (batch : Option Batch)
  | inspect (scope : EvidenceScope) (occurredAt : PolicyEvaluationTime)
      (candidates : List ArtifactCatalogEntry) (result : ReconcileArtifactReservationsResult)
  | repair (scope : EvidenceScope) (occurredAt : PolicyEvaluationTime) (artifactId : String)
      (receipt : ArtifactObjectReceipt) (candidates : List ArtifactCatalogEntry)
      (result : ReconcileArtifactReservationsResult)
  | ended (outcome : Outcome)

structure ArtifactStore where
  catalog : ArtifactCatalog
  objects : ArtifactObjects
  objectKeys : List (ArtifactKey × String)

def ArtifactStore.empty : ArtifactStore where
  catalog := ArtifactCatalog.empty
  objects := fun _ => none
  objectKeys := []

structure ArtifactPorts where
  sha256 : List UInt8 → String
  localeLe : String → String → Bool

section Inputs

def artifactScope (command : ArtifactCommand) (message : String) : Except ArtifactError EvidenceScope :=
  parseWith (EvidenceScopeSchema command.scope) (.invalidLifecycleInput message) command.scope

def artifactMaintenanceScope (command : ArtifactCommand) : Except ArtifactError EvidenceScope := do
  requireCapability command.principal "artifact:delete"
  requireEnvironmentAccess command.principal command.projectId command.environmentId
  artifactScope command "Artifact maintenance scope is invalid"

def clockNow (answer : Answer) (message : String) : Except ArtifactError PolicyEvaluationTime := do
  let now ← found answer.now (.invalidLifecycleInput message)
  return toISOString now

def artifactAbandonedThreshold (value occurredAt : PolicyEvaluationTime)
    : Except ArtifactError PolicyEvaluationTime := do
  failIf (dateParse value > dateParse occurredAt - minAbandonedReservationAgeMilliseconds)
    (.invalidLifecycleInput "Abandoned reservation threshold must be at least one hour in the past")
  return toISOString value

def callCatalog {α : Type} (answer : Answer) (result : Except ArtifactError α)
    : Except ArtifactError α :=
  if answer.reachable then result else .error .portUnavailable

def requestMetadata (command : ArtifactCommand) (request : ReserveArtifactRequest)
    (createdAt : PolicyEvaluationTime) : Except ArtifactError ArtifactMetadata := do
  failIf (¬request.Accepted) (.invalidLifecycleInput "Artifact reservation request is invalid")
  let candidate : ArtifactMetadata :=
    { contentReference :=
        { artifactId := request.artifactId
          classification := request.classification
          mediaType := request.mediaType
          redactedAt := request.redaction.latestStage
          sha256 := request.sha256
          sizeBytes := request.sizeBytes }
      createdAt
      availableAt := none
      tombstonedAt := none
      purgedAt := none
      redaction := request.redaction
      retention := request.retention
      scope := command.scope
      state := .reserved }
  parseWith candidate.Accepted (.invalidLifecycleInput "Artifact reservation scope is invalid")
    candidate

end Inputs

section Batches

def Batch.next : Batch → Operation
  | .tombstones _ [] result => .ended (.maintained result)
  | .tombstones job (entry :: entries) result => .tombstone job entry.artifactId entries result
  | .purges _ [] result => .ended (.maintained result)
  | .purges command (entry :: entries) result =>
    .purge command entry.artifactId (some (.purges command entries result))

def Batch.record (update : ArtifactMaintenanceResult → ArtifactMaintenanceResult) : Batch → Batch
  | .tombstones job entries result => .tombstones job entries (update result)
  | .purges command entries result => .purges command entries (update result)

def ArtifactMaintenanceResult.failed (artifactId : String) (result : ArtifactMaintenanceResult)
    : ArtifactMaintenanceResult :=
  { result with failedArtifactIds := result.failedArtifactIds ++ [artifactId] }

-- A failed purge ends the operation that asked for it, a batch goes on with the next artifact.
def purgeFailed (batch : Option Batch) (artifactId : String) (error : ArtifactError) : Operation :=
  match batch with
  | none => .ended (.failed error)
  | some batch => (batch.record (.failed artifactId)).next

def purgeEnded (batch : Option Batch) (metadata : ArtifactMetadata) : Operation :=
  match batch with
  | none => .ended (.purged metadata)
  | some batch => (batch.record (fun result => { result with purged := result.purged + 1 })).next

def startMaintenance (entries : List ArtifactCatalogEntry) : ArtifactMaintenanceResult where
  failedArtifactIds := []
  inspected := entries.length
  purged := 0
  tombstoned := 0

end Batches

section Steps

variable (ports : ArtifactPorts) (s : ArtifactStore)

def startReservation (command : ArtifactCommand) (request : ReserveArtifactRequest) (answer : Answer)
    : Except ArtifactError (ArtifactStore × Operation) := do
  requireCapability command.principal "artifact:write"
  requireEnvironmentAccess command.principal command.projectId command.environmentId
  let createdAt ← clockNow answer "Artifact reservation clock is invalid"
  let metadata ← requestMetadata command request createdAt
  let existing ← callCatalog answer
    (.ok (s.catalog.find metadata.scope metadata.contentReference.artifactId))
  failIf
    (existing = none ∧ ∃ expiry ∈ metadata.retention.expiry, expiry ≤ createdAt.orderKey)
    (.invalidLifecycleInput "Artifact expiration must be later than its reservation time")
  match existing with
  | some existing =>
    return (s, .reserve
      { createdByPrincipalId := existing.createdByPrincipalId
        encryption := existing.encryption
        metadata
        objectKey := existing.objectKey
        objectReceipt := none
        ownership := none })
  | none => do
    let plan ← found answer.plan .contentProtection
    let objectKey ← found answer.objectKey .identifierGeneration
    let key := artifactKey metadata.scope metadata.contentReference.artifactId
    return ({ s with objectKeys := s.objectKeys ++ [(key, objectKey)] }, .reserve
      { createdByPrincipalId := command.principal.principalId
        encryption := plan
        metadata
        objectKey
        objectReceipt := none
        ownership := none })

def reserveStep (candidate : ArtifactCatalogEntry) (answer : Answer)
    : Except ArtifactError (ArtifactStore × Operation) := do
  let ((created, entry), catalog) ← callCatalog answer (s.catalog.reserve candidate)
  return ({ s with catalog }, .ended (.reserved created entry.metadata))

def startUpload (command : ArtifactCommand) (artifactId : String) (answer : Answer)
    : Except ArtifactError (ArtifactStore × Operation) := do
  requireCapability command.principal "artifact:write"
  requireEnvironmentAccess command.principal command.projectId command.environmentId
  failIf (¬OpaqueIdSchema artifactId) (.invalidLifecycleInput "Artifact upload command is invalid")
  let scope ← artifactScope command "Artifact upload scope is invalid"
  let entry ← callCatalog answer (found (s.catalog.find scope artifactId) .artifactNotFound)
  failIf (entry.state ≠ .reserved ∧ entry.state ≠ .available) .artifactStateTransition
  let encrypted ← answer.encrypted
  return (s, .write scope artifactId entry.objectKey encrypted)

def writeStep (scope : EvidenceScope) (artifactId objectKey : String)
    (encrypted : EncryptedArtifactObject) (answer : Answer) : ArtifactStore × Operation :=
  if answer.reachable then
    let put := s.objects.putIfAbsent ports.sha256 objectKey encrypted.bytes
    let written := { s with objects := put.2 }
    if put.1.2 = encrypted.receipt then
      (written, .activate scope artifactId encrypted.receipt)
    else
      (written, .ended (.failed .artifactObjectConflict))
  else
    (s, .ended (.failed .portUnavailable))

def activateStep (scope : EvidenceScope) (artifactId : String) (receipt : ArtifactObjectReceipt)
    (answer : Answer) : Except ArtifactError (ArtifactStore × Operation) := do
  let availableAt ← clockNow answer "Artifact upload clock is invalid"
  let (activated, catalog) ←
    callCatalog answer (s.catalog.activate scope artifactId receipt availableAt)
  return ({ s with catalog }, .ended (.uploaded activated.metadata))

def tombstoneArtifact (command : ArtifactCommand) (artifactId reason : String) (answer : Answer)
    : Except ArtifactError (ArtifactStore × Operation) := do
  requireCapability command.principal "artifact:delete"
  requireEnvironmentAccess command.principal command.projectId command.environmentId
  failIf (¬OpaqueIdSchema artifactId ∨ ¬ArtifactTombstoneReasonSchema reason)
    (.invalidLifecycleInput "Artifact deletion request is invalid")
  let scope ← artifactScope command "Artifact deletion scope is invalid"
  let occurredAt ← clockNow answer "Artifact deletion clock is invalid"
  let tombstoneId ← found answer.lifecycleId .identifierGeneration
  let ((created, entry, tombstone), catalog) ← callCatalog answer (s.catalog.tombstone scope
    { actorPrincipalId := command.principal.principalId
      artifactId
      occurredAt
      reason
      tombstoneId
      trigger := .manual })
  return ({ s with catalog }, .ended (.tombstoned created entry.metadata tombstone))

def processTombstoneCandidate (job : CleanupJob) (artifactId : String)
    (entries : List ArtifactCatalogEntry) (result : ArtifactMaintenanceResult) (answer : Answer)
    : Except ArtifactError (ArtifactStore × Operation) := do
  let tombstoneId ← found answer.lifecycleId .identifierGeneration
  let ((created, _, _), catalog) ← callCatalog answer (s.catalog.tombstone job.command.scope
    { actorPrincipalId := job.command.principal.principalId
      artifactId
      occurredAt := job.occurredAt
      reason := job.reason
      tombstoneId
      trigger := job.trigger })
  let result :=
    { result with tombstoned := if created then result.tombstoned + 1 else result.tombstoned }
  return ({ s with catalog }, .purge job.command artifactId (some (.tombstones job entries result)))

def purgeStep (command : ArtifactCommand) (artifactId : String) (batch : Option Batch)
    (answer : Answer) : Except ArtifactError (ArtifactStore × Operation) := do
  requireCapability command.principal "artifact:delete"
  requireEnvironmentAccess command.principal command.projectId command.environmentId
  failIf (¬OpaqueIdSchema artifactId)
    (.invalidLifecycleInput "Artifact purge identifier is invalid")
  let scope ← artifactScope command "Artifact purge scope is invalid"
  let entry ← callCatalog answer (found (s.catalog.find scope artifactId) .artifactNotFound)
  if entry.state = .purged then
    return (s, purgeEnded batch entry.metadata)
  else
    failIf (entry.state ≠ .tombstoned) .artifactStateTransition
    return (s, .delete scope artifactId entry.objectKey batch)

def deleteStep (scope : EvidenceScope) (artifactId objectKey : String) (batch : Option Batch)
    (answer : Answer) : ArtifactStore × Operation :=
  if answer.reachable then
    let deleted := s.objects.delete objectKey
    ({ s with objects := deleted.2 }, .mark scope artifactId deleted.1 batch)
  else
    (s, purgeFailed batch artifactId .portUnavailable)

def markStep (scope : EvidenceScope) (artifactId : String) (objectWasPresent : Bool)
    (batch : Option Batch) (answer : Answer)
    : Except ArtifactError (ArtifactStore × Operation) := do
  let occurredAt ← clockNow answer "Artifact purge clock is invalid"
  let purgeId ← found answer.lifecycleId .identifierGeneration
  let (purged, catalog) ← callCatalog answer (s.catalog.recordPurge scope
    { artifactId, objectWasPresent, occurredAt, purgeId })
  return ({ s with catalog }, purgeEnded batch purged.metadata)

def startReconciliation (command : ArtifactCommand) (abandonedBefore : PolicyEvaluationTime)
    (limit : Nat) (answer : Answer) : Except ArtifactError (ArtifactStore × Operation) := do
  let scope ← artifactMaintenanceScope command
  let occurredAt ← clockNow answer "Artifact reconciliation clock is invalid"
  let threshold ← artifactAbandonedThreshold abandonedBefore occurredAt
  let candidates ←
    callCatalog answer (s.catalog.listAbandoned ports.localeLe scope threshold limit)
  return (s, .inspect scope occurredAt candidates
    { activated := 0
      failedArtifactIds := []
      inspected := candidates.length
      missingObjects := 0 })

def inspectStep (scope : EvidenceScope) (occurredAt : PolicyEvaluationTime)
    (candidates : List ArtifactCatalogEntry) (result : ReconcileArtifactReservationsResult)
    (answer : Answer) : Operation :=
  match candidates with
  | [] => .ended (.reconciled result)
  | candidate :: candidates =>
    let failed : Operation := .inspect scope occurredAt candidates
      { result with failedArtifactIds := result.failedArtifactIds ++ [candidate.artifactId] }
    if answer.reachable then
      match s.objects candidate.objectKey with
      | none =>
        .inspect scope occurredAt candidates
          { result with missingObjects := result.missingObjects + 1 }
      | some encrypted =>
        if answer.decrypted then
          .repair scope occurredAt candidate.artifactId
            (ArtifactObjects.receipt ports.sha256 encrypted) candidates result
        else
          failed
    else
      failed

def repairStep (scope : EvidenceScope) (occurredAt : PolicyEvaluationTime) (artifactId : String)
    (receipt : ArtifactObjectReceipt) (candidates : List ArtifactCatalogEntry)
    (result : ReconcileArtifactReservationsResult) (answer : Answer) : ArtifactStore × Operation :=
  match callCatalog answer (s.catalog.activate scope artifactId receipt occurredAt) with
  | .error _ =>
    (s, .inspect scope occurredAt candidates
      { result with failedArtifactIds := result.failedArtifactIds ++ [artifactId] })
  | .ok (_, catalog) =>
    ({ s with catalog }, .inspect scope occurredAt candidates
      { result with activated := result.activated + 1 })

def processRetention (command : ArtifactCommand) (limit : Nat) (answer : Answer)
    : Except ArtifactError (ArtifactStore × Operation) := do
  let scope ← artifactMaintenanceScope command
  let occurredAt ← clockNow answer "Artifact retention clock is invalid"
  let expired ← callCatalog answer (s.catalog.listExpired ports.localeLe scope occurredAt limit)
  let job : CleanupJob :=
    { command
      occurredAt
      reason := "Configured artifact retention period expired"
      trigger := .retention }
  return (s, (Batch.tombstones job expired (startMaintenance expired)).next)

def processAbandoned (command : ArtifactCommand) (abandonedBefore : PolicyEvaluationTime)
    (limit : Nat) (answer : Answer) : Except ArtifactError (ArtifactStore × Operation) := do
  let scope ← artifactMaintenanceScope command
  let occurredAt ← clockNow answer "Artifact cleanup clock is invalid"
  let threshold ← artifactAbandonedThreshold abandonedBefore occurredAt
  let abandoned ←
    callCatalog answer (s.catalog.listAbandoned ports.localeLe scope threshold limit)
  let job : CleanupJob :=
    { command
      occurredAt
      reason := "Artifact reservation was not completed before the cleanup threshold"
      trigger := .abandoned }
  return (s, (Batch.tombstones job abandoned (startMaintenance abandoned)).next)

def retryPurges (command : ArtifactCommand) (limit : Nat) (answer : Answer)
    : Except ArtifactError (ArtifactStore × Operation) := do
  let scope ← artifactMaintenanceScope command
  let pending ← callCatalog answer (s.catalog.listPendingPurge ports.localeLe scope limit)
  return (s, (Batch.purges command pending (startMaintenance pending)).next)

def requestStep (command : ArtifactCommand) (answer : Answer) : ArtifactRequest →
    Except ArtifactError (ArtifactStore × Operation)
  | .reserve request => startReservation s command request answer
  | .upload artifactId => startUpload s command artifactId answer
  | .tombstone artifactId reason => tombstoneArtifact s command artifactId reason answer
  | .purge artifactId => purgeStep s command artifactId none answer
  | .reconcile abandonedBefore limit => startReconciliation ports s command abandonedBefore limit answer
  | .processRetention limit => processRetention ports s command limit answer
  | .processAbandoned abandonedBefore limit =>
    processAbandoned ports s command abandonedBefore limit answer
  | .retryPurges limit => retryPurges ports s command limit answer

def orElse (result : Except ArtifactError (ArtifactStore × Operation))
    (failed : ArtifactError → Operation) : ArtifactStore × Operation :=
  match result with
  | .ok advanced => advanced
  | .error error => (s, failed error)

def advance (answer : Answer) : Operation → ArtifactStore × Operation
  | .requested command request =>
    orElse s (requestStep ports s command answer request) (fun error => .ended (.failed error))
  | .reserve candidate =>
    orElse s (reserveStep s candidate answer) (fun error => .ended (.failed error))
  | .write scope artifactId objectKey encrypted =>
    writeStep ports s scope artifactId objectKey encrypted answer
  | .activate scope artifactId receipt =>
    orElse s (activateStep s scope artifactId receipt answer) (fun error => .ended (.failed error))
  | .tombstone job artifactId entries result =>
    orElse s (processTombstoneCandidate s job artifactId entries result answer)
      (purgeFailed (some (.tombstones job entries result)) artifactId)
  | .purge command artifactId batch =>
    orElse s (purgeStep s command artifactId batch answer) (purgeFailed batch artifactId)
  | .delete scope artifactId objectKey batch => deleteStep s scope artifactId objectKey batch answer
  | .mark scope artifactId objectWasPresent batch =>
    orElse s (markStep s scope artifactId objectWasPresent batch answer) (purgeFailed batch artifactId)
  | .inspect scope occurredAt candidates result =>
    (s, inspectStep ports s scope occurredAt candidates result answer)
  | .repair scope occurredAt artifactId receipt candidates result =>
    repairStep s scope occurredAt artifactId receipt candidates result answer
  | .ended outcome => (s, .ended outcome)

end Steps

abbrev ArtifactSystem : Type := Interleaved ArtifactStore Operation

def ArtifactSystem.initial : ArtifactSystem where
  shared := ArtifactStore.empty
  processes := []

def ArtifactSystem.step (ports : ArtifactPorts) (system : ArtifactSystem)
    (action : Action Operation Answer) : ArtifactSystem :=
  Interleaved.step (fun s operation answer => advance ports s answer operation) system action

end Artifacts
end ProofStack
