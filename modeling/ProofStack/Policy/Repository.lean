import ProofStack.Log.Paged
import ProofStack.Policy.Evidence
import ProofStack.StateMachine.Atomic

/-!
This module contains the policy evaluation job repository.
-/

namespace ProofStack
namespace Policy

open StateMachine

variable (evidence : PolicyEvaluationEvidence)

structure SealedPolicyInput where
  record : evidence.Snapshot
  pageSet : evidence.PageSet

-- A page that has not been written yet reads as an empty one.
structure StoredPolicyJob where
  snapshot : PolicyEvaluationJobSnapshot
  latest : PolicyEvaluationJobHistoryEntry
  pages : List (List PolicyEvaluationJobHistoryEntry)
  outbox : List PolicyEvaluationJobOutboxIntent
  sealedInput : Option (SealedPolicyInput evidence)
  evaluation : Option evidence.Result

abbrev JobKey : Type := EvidenceScope × String

structure PolicyEvaluationJobStore where
  records : JobKey → Option (StoredPolicyJob evidence)
  requests : JobKey → Option JobKey
  reservations : JobKey × String → Option PolicyEvaluationJobHistoryEntry
  snapshotOwners : JobKey → Option String
  resultOwners : JobKey → Option String
  recoveryEpoch : Nat

def PolicyEvaluationJobStore.empty : PolicyEvaluationJobStore evidence where
  records := fun _ => none
  requests := fun _ => none
  reservations := fun _ => none
  snapshotOwners := fun _ => none
  resultOwners := fun _ => none
  recoveryEpoch := 0

abbrev Repository (α : Type) : Type :=
  EStateM PolicyEvaluationError (PolicyEvaluationJobStore evidence) α

variable {evidence}

def parseTime (reading : Option PolicyEvaluationTime)
    : Except PolicyEvaluationError PolicyEvaluationTime :=
  match reading with
  | some now => .ok now
  | none => .error (.schema ["Invalid policy evaluation time"])

structure PolicyEvaluationClock where
  admission : Option PolicyEvaluationTime
  work : Option PolicyEvaluationTime
  commit : Option PolicyEvaluationTime

section Read

def jobKey (scope : EvidenceScope) (id : String) : Except PolicyEvaluationError JobKey := do
  parseWith (EvidenceScopeSchema scope)
  parseWith (OpaqueIdSchema id)
  return (scope, id)

def reservationKey (scope : EvidenceScope) (jobId reservationId : String)
    : Except PolicyEvaluationError (JobKey × String) := do
  let key ← jobKey scope jobId
  parseWith (OpaqueIdSchema reservationId)
  return (key, reservationId)

def inspect (evidence : PolicyEvaluationEvidence) (snapshot : PolicyEvaluationJobSnapshot)
    (scope : EvidenceScope) (id : String)
    : Except PolicyEvaluationError PolicyEvaluationJobSnapshot :=
  validatePolicyEvaluationJobSnapshotRecord evidence.toPolicyEvaluationCodec scope
    ⟨id, snapshot.job.definitionSha256⟩ snapshot

def pageOf (sequence : Nat) : Nat :=
  sequence / policyEvaluationJobHistoryPageSize

def readIdentity (snapshot : PolicyEvaluationJobSnapshot) (scope : EvidenceScope) (id : String)
    (reference : PolicyEvaluationSnapshotReference) : PolicyEvaluationSnapshotReadIdentity where
  scope := scope
  job := ⟨id, snapshot.job.definitionSha256⟩
  request := snapshot.job.request
  snapshot := reference

def inspectStored (stored : StoredPolicyJob evidence) (scope : EvidenceScope) (id : String)
    : Except PolicyEvaluationError PolicyEvaluationJobSnapshot := do
  let codec := evidence.toPolicyEvaluationCodec
  let snapshot ← inspect evidence stored.snapshot scope id
  let head ← policyEvaluationJobHistoryHead codec stored.latest
  let lastPage := stored.pages.getD (pageOf head.sequence) []
  failIf
    (head.scope ≠ scope
      ∨ head.job.jobId ≠ id
      ∨ head.job.definitionSha256 ≠ snapshot.job.definitionSha256
      ∨ lastPage.length ≠ head.sequence % policyEvaluationJobHistoryPageSize + 1
      ∨ lastPage.getLast? ≠ some stored.latest)
    (.history "Stored history head differs from exact scope/job or retained final page")
  let graphSha256 ← digestPolicyEvaluationJobGraph codec snapshot
  failIf (head.graphSha256 ≠ graphSha256 ∨ head.sequence + 1 ≠ snapshot.job.stateVersion)
    (.history "Stored graph differs from its exact retained history head")
  let intents ← buildPolicyEvaluationJobOutboxIntents codec none snapshot
  failIf (stored.outbox ≠ intents)
    (.history "Stored job is missing its canonical atomic outbox intent")
  match stored.sealedInput with
  | none => return snapshot
  | some sealedInput =>
    match snapshot.job.snapshot with
    | none => .error (.history "Stored seal has no owning job reference")
    | some reference => do
      validatePolicyEvaluationStoredSnapshotJob evidence (readIdentity snapshot scope id reference)
        sealedInput.record snapshot
      return snapshot

structure ReadPolicyJob (evidence : PolicyEvaluationEvidence) where
  key : JobKey
  stored : StoredPolicyJob evidence
  snapshot : PolicyEvaluationJobSnapshot

def read (store : PolicyEvaluationJobStore evidence) (scope : EvidenceScope) (id : String)
    : Except PolicyEvaluationError (ReadPolicyJob evidence) := do
  let key ← jobKey scope id
  match store.records key with
  | none => .error .jobNotFound
  | some stored => do
    let snapshot ← inspectStored stored scope id
    return { key, stored, snapshot }

def checkedResult (stored : StoredPolicyJob evidence) (job : PolicyEvaluationJobSnapshot)
    : Except PolicyEvaluationError evidence.Result :=
  let error :=
    PolicyEvaluationError.history "Completed memory result lacks its original deciding evidence"
  match job.job.result, job.job.terminal, stored.evaluation, stored.sealedInput, job.job.snapshot with
  | some reference, some terminal, some evaluation, some sealedInput, some snapshot => do
    let attempt :=
      job.attempts.find? (fun attempt : PolicyEvaluationAttempt =>
        some attempt.mutationFence.attemptId = terminal.attemptId)
    match attempt with
    | none => .error error
    | some attempt => do
      failIf
        (job.job.status ≠ .completed
          ∨ ¬∃ closure ∈ attempt.closure,
              closure.isCompleted ∧ closure.committedAt = terminal.committedAt)
        error
      validatePolicyEvaluationResultRecord evidence
        { scope := job.job.scope
          jobId := job.job.jobId
          request := job.job.request
          snapshot := snapshot
          result := reference
          fence := attempt.mutationFence
          completedAt := terminal.committedAt }
        evaluation sealedInput.record sealedInput.pageSet
      return evaluation
  | _, _, _, _, _ => .error error

def readHistoryPage (store : PolicyEvaluationJobStore evidence)
    (head : PolicyEvaluationJobHistoryHead) (pageIndex : Nat)
    : Except PolicyEvaluationError PolicyEvaluationJobHistoryPage := do
  let codec := evidence.toPolicyEvaluationCodec
  parseWith head.Accepted
  let { stored, .. } ← read store head.scope head.job.jobId
  let page := stored.pages.getD (pageOf head.sequence) []
  match page[head.sequence % policyEvaluationJobHistoryPageSize]? with
  | none => .error (.history "Requested history head is not an exact retained prefix")
  | some anchor => do
    let anchored ← policyEvaluationJobHistoryHead codec anchor
    failIf (anchored ≠ head) (.history "Requested history head is not an exact retained prefix")
    -- A negative end cuts from the back of the page, whose index is past the head then.
    let count :=
      min (policyEvaluationJobHistoryPageSize : Int)
        (head.sequence + 1 - pageIndex * policyEvaluationJobHistoryPageSize)
    let page := stored.pages.getD pageIndex []
    let entries := page.take (if count < 0 then (page.length + count).toNat else count.toNat)
    validatePolicyEvaluationJobHistoryPage codec head { head, pageIndex, entries }

end Read

section Write

namespace PolicyEvaluationJobStore

def setRecord (store : PolicyEvaluationJobStore evidence) (key : JobKey)
    (stored : StoredPolicyJob evidence) : PolicyEvaluationJobStore evidence :=
  { store with records := Function.update store.records key (some stored) }

def setRequest (store : PolicyEvaluationJobStore evidence) (requestKey key : JobKey)
    : PolicyEvaluationJobStore evidence :=
  { store with requests := Function.update store.requests requestKey (some key) }

def setReservation (store : PolicyEvaluationJobStore evidence) (key : JobKey × String)
    (entry : PolicyEvaluationJobHistoryEntry) : PolicyEvaluationJobStore evidence :=
  { store with reservations := Function.update store.reservations key (some entry) }

def setSnapshotOwner (store : PolicyEvaluationJobStore evidence) (key : JobKey) (jobId : String)
    : PolicyEvaluationJobStore evidence :=
  { store with snapshotOwners := Function.update store.snapshotOwners key (some jobId) }

def setResultOwner (store : PolicyEvaluationJobStore evidence) (key : JobKey) (jobId : String)
    : PolicyEvaluationJobStore evidence :=
  { store with resultOwners := Function.update store.resultOwners key (some jobId) }

end PolicyEvaluationJobStore

structure PolicyMaterial (evidence : PolicyEvaluationEvidence) where
  sealedInput : Option (SealedPolicyInput evidence)
  evaluation : Option evidence.Result

def PolicyMaterial.none : PolicyMaterial evidence where
  sealedInput := .none
  evaluation := .none

structure PolicyMutation (evidence : PolicyEvaluationEvidence) where
  work : PolicyEvaluationJobSnapshot → PolicyEvaluationTime →
    Except PolicyEvaluationError (PolicyEvaluationJobSnapshot × PolicyMaterial evidence)
  operation : PolicyEvaluationJobSnapshot → PolicyMaterial evidence →
    Except PolicyEvaluationError PolicyEvaluationJobHistoryOperation
  commitFence : Option PolicyEvaluationWorkerMutationFence

def extendStored (stored : StoredPolicyJob evidence) (material : PolicyMaterial evidence)
    (result : PolicyEvaluationJobSnapshot) (entry : PolicyEvaluationJobHistoryEntry)
    (intents : List PolicyEvaluationJobOutboxIntent) : StoredPolicyJob evidence where
  snapshot := result
  latest := entry
  pages := Log.append stored.pages (pageOf entry.definition.sequence) entry
  outbox := stored.outbox ++ intents
  sealedInput := material.sealedInput.or stored.sealedInput
  evaluation := material.evaluation.or stored.evaluation

def checkCommit (store : PolicyEvaluationJobStore evidence) (snapshot : PolicyEvaluationJobSnapshot)
    (now : PolicyEvaluationTime) (reading : Option PolicyEvaluationTime)
    (commitFence : Option PolicyEvaluationWorkerMutationFence)
    : Except PolicyEvaluationError Unit :=
  match commitFence with
  | none => .ok ()
  | some fence => do
    let commitNow ← parseTime reading
    failIf (commitNow.orderKey < now.orderKey)
      (.history "Memory commit clock precedes its contained publication receipt")
    let _ ← requirePolicyEvaluationLiveFence snapshot commitNow store.recoveryEpoch fence

def checkEvaluation (stored : StoredPolicyJob evidence) (job : PolicyEvaluationJobSnapshot)
    : Except PolicyEvaluationError Unit :=
  match stored.evaluation with
  | none => .ok ()
  | some _ => do
    let _ ← checkedResult stored job

def historyExhausted (result : PolicyEvaluationJobSnapshot) : Prop :=
  result.job.terminal = none ∧ result.job.stateVersion = maxPolicyEvaluationJobHistoryEntries

instance (result : PolicyEvaluationJobSnapshot) : Decidable (historyExhausted result) :=
  inferInstanceAs (Decidable (_ ∧ _))

def transitionOutput (evidence : PolicyEvaluationEvidence) (scope : EvidenceScope) (id : String)
    (mutation : PolicyMutation evidence) (snapshot : PolicyEvaluationJobSnapshot)
    (now : PolicyEvaluationTime) (worked : PolicyEvaluationJobSnapshot)
    (material : PolicyMaterial evidence)
    : Except PolicyEvaluationError
        (PolicyEvaluationJobSnapshot × PolicyEvaluationJobHistoryOperation) :=
  if historyExhausted worked then do
    let exhausted ← exhaustPolicyEvaluationJobHistory snapshot now
    let result ← inspect evidence exhausted scope id
    return (result, .historyLimit)
  else do
    let operation ← mutation.operation worked material
    return (worked, operation)

/-- Everything that `mutate` does before its first write. An unchanged state version is an
idempotent command, which writes nothing. -/
def prepare (store : PolicyEvaluationJobStore evidence) (scope : EvidenceScope) (id : String)
    (clock : PolicyEvaluationClock) (mutation : PolicyMutation evidence)
    : Except PolicyEvaluationError
        (PolicyEvaluationJobSnapshot × Option (JobKey × StoredPolicyJob evidence)
          × PolicyMaterial evidence) := do
  let codec := evidence.toPolicyEvaluationCodec
  let { key, stored, snapshot } ← read store scope id
  let now ← parseTime clock.work
  let (worked, material) ← mutation.work snapshot now
  let worked ← inspect evidence worked scope id
  if worked.job.stateVersion = snapshot.job.stateVersion then
    failIf (worked ≠ snapshot)
      (.history "Idempotent mutation changed retained graph without a transition")
    return (worked, none, material)
  else
    let (result, operation) ←
      transitionOutput evidence scope id mutation snapshot now worked material
    let entry ←
      createPolicyEvaluationJobHistoryEntry codec (some (snapshot, stored.latest)) result operation
    let _ ← replayPolicyEvaluationJobHistoryEntry codec snapshot entry
    let intents ← buildPolicyEvaluationJobOutboxIntents codec (some snapshot) result
    let nextStored := extendStored stored material result entry intents
    let _ ← inspectStored nextStored scope id
    checkEvaluation nextStored result
    checkCommit store snapshot now clock.commit mutation.commitFence
    return (result, some (key, nextStored), material)

def mutate (scope : EvidenceScope) (id : String) (clock : PolicyEvaluationClock)
    (mutation : PolicyMutation evidence)
    : Repository evidence (PolicyEvaluationJobSnapshot × PolicyMaterial evidence) := do
  let (result, pending, material) ← attempting (prepare (← get) scope id clock mutation)
  match pending with
  | none => return (result, material)
  | some (key, nextStored) => do
    modify (·.setRecord key nextStored)
    match nextStored.latest.definition.operation with
    | .reserve _ reservationId _ => do
      let key ← attempting (reservationKey scope id reservationId)
      modify (·.setReservation key nextStored.latest)
    | _ => pure ()
    return (result, material)

def plainMutation
    (work : PolicyEvaluationJobSnapshot → PolicyEvaluationTime →
      Except PolicyEvaluationError PolicyEvaluationJobSnapshot)
    (operation : PolicyEvaluationJobSnapshot →
      Except PolicyEvaluationError PolicyEvaluationJobHistoryOperation)
    : PolicyMutation evidence where
  work := fun snapshot now => do
    let result ← work snapshot now
    return (result, .none)
  operation := fun next _ => operation next
  commitFence := none

end Write

section Operations

def prepareCreation (store : PolicyEvaluationJobStore evidence) (request : PolicyEvaluationRequest)
    (jobId : String) (clock : PolicyEvaluationClock)
    : Except PolicyEvaluationError (JobKey × StoredPolicyJob evidence) := do
  let codec := evidence.toPolicyEvaluationCodec
  let key ← jobKey request.scope jobId
  failIf (store.records key).isSome .requestConflict
  let now ← parseTime clock.work
  let deadlineAt ← requestDeadline request
  let snapshot ←
    parseSnapshot (createdSnapshot codec request jobId now deadlineAt store.recoveryEpoch)
  let admitted ← inspect evidence snapshot snapshot.job.scope snapshot.job.jobId
  let entry ← createPolicyEvaluationJobHistoryEntry codec none admitted .created
  let outbox ← buildPolicyEvaluationJobOutboxIntents codec none admitted
  let stored : StoredPolicyJob evidence :=
    { snapshot := admitted
      latest := entry
      pages := [[entry]]
      outbox := outbox
      sealedInput := none
      evaluation := none }
  let _ ← inspectStored stored request.scope jobId
  return (key, stored)

def createJob (request : PolicyEvaluationRequest) (jobId : String) (clock : PolicyEvaluationClock)
    : Repository evidence Bool := do
  let store ← get
  let request ←
    attempting (validatePolicyEvaluationRequestRecord evidence.toPolicyEvaluationCodec request)
  attempting (parseWith (OpaqueIdSchema jobId))
  let requestKey ← attempting (jobKey request.scope request.evaluationRequestId)
  match store.requests requestKey with
  | some existing =>
    match store.records existing with
    | none => throw (.other "Stored request has no atomic job binding")
    | some stored => do
      let snapshot ← attempting (inspectStored stored request.scope stored.snapshot.job.jobId)
      attempting
        (failIf (snapshot.request.definitionSha256 ≠ request.definitionSha256) .requestConflict)
      return false
  | none => do
    let (key, stored) ← attempting (prepareCreation store request jobId clock)
    modify (·.setRecord key stored)
    modify (·.setRequest requestKey key)
    return true

def claimJob (scope : EvidenceScope) (jobId workerId attemptId leaseId : String)
    (clock : PolicyEvaluationClock) : Repository evidence PolicyEvaluationJobSnapshot := do
  let recoveryEpoch := (← get).recoveryEpoch
  let (next, _) ← mutate scope jobId clock <| plainMutation
    (fun snapshot now =>
      claimPolicyEvaluationJob snapshot now recoveryEpoch attemptId leaseId workerId)
    (fun next =>
      match next.job.currentLease with
      | some lease => .ok (.claim lease.mutationFence)
      | none => .error (.other "Claimed job has no lease"))
  return next

def heartbeatJob (scope : EvidenceScope) (fence : PolicyEvaluationWorkerMutationFence)
    (clock : PolicyEvaluationClock) : Repository evidence PolicyEvaluationJobSnapshot := do
  let recoveryEpoch := (← get).recoveryEpoch
  let (next, _) ← mutate scope fence.jobId clock <| plainMutation
    (fun snapshot now => heartbeatPolicyEvaluationJob snapshot now recoveryEpoch fence)
    (fun _ => .ok (.heartbeat fence))
  return next

-- The random reservation identifier is an argument.
def reserveUsage (scope : EvidenceScope) (fence : PolicyEvaluationWorkerMutationFence)
    (reservationId : String) (delta : PolicyEvaluationUsage) (clock : PolicyEvaluationClock)
    : Repository evidence PolicyEvaluationJobSnapshot := do
  let recoveryEpoch := (← get).recoveryEpoch
  let (next, _) ← mutate scope fence.jobId clock <| plainMutation
    (fun snapshot now => reservePolicyEvaluationUsage snapshot now recoveryEpoch fence delta)
    (fun _ => .ok (.reserve fence reservationId delta))
  return next

def admitLiveFence (store : PolicyEvaluationJobStore evidence) (scope : EvidenceScope)
    (clock : PolicyEvaluationClock) (fence : PolicyEvaluationWorkerMutationFence)
    : Except PolicyEvaluationError (ReadPolicyJob evidence) := do
  let owning ← read store scope fence.jobId
  let now ← parseTime clock.admission
  let _ ← requirePolicyEvaluationLiveFence owning.snapshot now store.recoveryEpoch fence
  return owning

def reserveWork (scope : EvidenceScope) (fence : PolicyEvaluationWorkerMutationFence)
    (reservationId : String) (delta : PolicyEvaluationUsage) (clock : PolicyEvaluationClock)
    : Repository evidence
        (Bool × PolicyEvaluationJobSnapshot × Option PolicyEvaluationJobHistoryEntry) := do
  let store ← get
  attempting (parseWith (OpaqueIdSchema reservationId))
  let owning ← attempting (admitLiveFence store scope clock fence)
  attempting (parseWith delta.Accepted)
  let key ← attempting (reservationKey scope fence.jobId reservationId)
  match store.reservations key with
  | some previous => do
    attempting
      (match previous.definition.operation with
        | .reserve retainedFence _ retainedDelta =>
          failIf (retainedFence ≠ fence ∨ retainedDelta ≠ delta) .requestConflict
        | _ => .error .requestConflict)
    return (false, owning.snapshot, some previous)
  | none => do
    let (next, _) ← mutate scope fence.jobId clock <| plainMutation
      (fun snapshot now =>
        reservePolicyEvaluationUsage snapshot now store.recoveryEpoch fence delta)
      (fun _ => .ok (.reserve fence reservationId delta))
    let { stored, .. } ← attempting (read (← get) scope fence.jobId)
    match stored.latest.definition.operation with
    | .reserve _ _ _ => return (true, next, some stored.latest)
    | _ => return (false, next, none)

def hasReservedAcquisition (stored : StoredPolicyJob evidence) (allowanceId : String) : Bool :=
  stored.pages.any (fun page => page.any (fun entry =>
    match entry.definition.operation with
    | .reserveAcquisition _ reserved => reserved = allowanceId
    | _ => false))

def reserveAcquisition (scope : EvidenceScope) (fence : PolicyEvaluationWorkerMutationFence)
    (allowanceId : String) (clock : PolicyEvaluationClock)
    : Repository evidence (Bool × PolicyEvaluationJobSnapshot) := do
  let store ← get
  attempting (parseWith (OpaqueIdSchema allowanceId))
  let { stored, snapshot, .. } ← attempting (admitLiveFence store scope clock fence)
  match snapshot.allowance with
  | some allowance => do
    attempting (failIf (allowance.allowanceId ≠ allowanceId) .requestConflict)
    return (false, snapshot)
  | none => do
    attempting (failIf (hasReservedAcquisition stored allowanceId) .requestConflict)
    let (next, _) ← mutate scope fence.jobId clock <| plainMutation
      (fun snapshot now =>
        reservePolicyEvaluationAcquisition snapshot now store.recoveryEpoch fence allowanceId)
      (fun _ => .ok (.reserveAcquisition fence allowanceId))
    return (next.allowance.isSome, next)

def settleAcquisition (scope : EvidenceScope) (fence : PolicyEvaluationWorkerMutationFence)
    (allowanceId : String) (usage : Option PolicyEvaluationAcquisitionUsage)
    (clock : PolicyEvaluationClock) : Repository evidence PolicyEvaluationJobSnapshot := do
  let recoveryEpoch := (← get).recoveryEpoch
  let (next, _) ← mutate scope fence.jobId clock <| plainMutation
    (fun snapshot now =>
      settlePolicyEvaluationAcquisition snapshot now recoveryEpoch fence allowanceId usage)
    (fun _ => .ok (.settleAcquisition fence allowanceId usage))
  return next

def sealMutation (recoveryEpoch : Nat) (fence : PolicyEvaluationWorkerMutationFence)
    (pageSet : evidence.PageSet) (principalId : String)
    (reference : PolicyEvaluationSnapshotReference) : PolicyMutation evidence where
  work := fun before now => do
    let _ ← requirePolicyEvaluationLiveFence before now recoveryEpoch fence
    failIf
      (before.job.stateVersion ≥ maxPolicyEvaluationJobHistoryEntries - 1 ∨ before.allowance.isSome)
      (.history "Snapshot publication has no settled owning history capacity")
    let record : evidence.Snapshot :=
      { definition := evidence.pageSetDefinition pageSet
        scope := before.job.scope
        definitionSha256 := evidence.pageSetDefinitionSha256 pageSet
        mutationFence := fence
        sealedAt := now
        recordedAt := now
        sealedByPrincipalId := principalId }
    parseWith (evidence.policyEvaluationSnapshotSchema record = true)
    let inputs ←
      validatePolicyEvaluationSnapshotRecord evidence
        { scope := before.job.scope
          jobId := fence.jobId
          request := before.job.request
          snapshot := reference }
        record pageSet
    failIf (inputs.isConfiguredVersion = false ∨ inputs.request ≠ before.request)
      (.history "Memory snapshot publication requires complete owning configured input")
    let next ← sealPolicyEvaluationJob before now recoveryEpoch fence reference
    return (next, { sealedInput := some ⟨record, pageSet⟩, evaluation := none })
  operation := fun _ _ => .ok (.seal fence reference)
  commitFence := some fence

def publishSnapshot (scope : EvidenceScope) (fence : PolicyEvaluationWorkerMutationFence)
    (pageSet : evidence.PageSet) (principalId : String) (clock : PolicyEvaluationClock)
    : Repository evidence PolicyEvaluationJobSnapshot := do
  let store ← get
  attempting (parseWith fence.Accepted)
  attempting (parseWith (OpaqueIdSchema principalId))
  attempting (failIf (principalId ≠ fence.workerId) .requestConflict)
  let prior := (← attempting (admitLiveFence store scope clock fence)).snapshot
  attempting
    (failIf (prior.job.status ≠ .acquiring ∨ prior.job.snapshot.isSome)
      (.history "Snapshot publication requires an unsealed acquiring attempt"))
  attempting (parseWith (evidence.policyEvaluationSnapshotPageSetSchema pageSet = true))
  let reference : PolicyEvaluationSnapshotReference :=
    { snapshotId := evidence.snapshotId (evidence.pageSetDefinition pageSet)
      definitionSha256 := evidence.pageSetDefinitionSha256 pageSet }
  let ownerKey ← attempting (jobKey scope reference.snapshotId)
  attempting (failIf (store.snapshotOwners ownerKey).isSome .requestConflict)
  let (next, _) ← mutate scope fence.jobId clock
    (sealMutation store.recoveryEpoch fence pageSet principalId reference)
  modify (·.setSnapshotOwner ownerKey fence.jobId)
  return next

def startComputation (scope : EvidenceScope) (fence : PolicyEvaluationWorkerMutationFence)
    (clock : PolicyEvaluationClock) : Repository evidence PolicyEvaluationJobSnapshot := do
  let store ← get
  let { stored, .. } ← attempting (read store scope fence.jobId)
  attempting
    (failIf (stored.sealedInput.isNone) (.history "Computation has no retained original seal"))
  let (next, _) ← mutate scope fence.jobId clock <| plainMutation
    (fun snapshot now =>
      startPolicyEvaluationComputation snapshot now store.recoveryEpoch fence)
    (fun _ => .ok (.startComputation fence))
  return next

def completeMutation (recoveryEpoch : Nat) (fence : PolicyEvaluationWorkerMutationFence)
    (evaluationId : String) (sealedInput : SealedPolicyInput evidence)
    : PolicyMutation evidence where
  work := fun snapshot now => do
    let _ ← requirePolicyEvaluationLiveFence snapshot now recoveryEpoch fence
    failIf (snapshot.job.stateVersion ≥ maxPolicyEvaluationJobHistoryEntries - 1)
      (.history "Result publication has no operational history headroom")
    match snapshot.job.snapshot with
    | none => .error (.snapshotIntegrity "reference_mismatch")
    | some reference => do
      let computation ←
        evidence.prepareSealedPolicyEvaluation evaluationId
          { scope := snapshot.job.scope
            jobId := fence.jobId
            request := snapshot.job.request
            snapshot := reference }
          sealedInput.record sealedInput.pageSet
      failIf
        (snapshot.job.status ≠ .running
          ∨ ∀ attempt ∈ snapshot.latest,
              (snapshot.usage.ruleEvaluations : Int) - attempt.usageAtStart.ruleEvaluations
                < computation.ruleCount)
        (.history "Result omitted its running attempt or prepaid whole rule work")
      let definition ← computation.compute
      let digest := evidence.resultDefinitionSha256 snapshot.job.scope definition
      let evaluation : evidence.Result :=
        { definition := definition
          scope := snapshot.job.scope
          definitionSha256 := digest
          mutationFence := fence
          recordedAt := now
          recordedByPrincipalId := fence.workerId }
      parseWith (evidence.policyEvaluationSchema evaluation = true)
      let next ←
        completePolicyEvaluationJob snapshot now recoveryEpoch fence ⟨evaluationId, digest⟩
          (evidence.ruleCount definition)
      return (next, { sealedInput := none, evaluation := some evaluation })
  operation := fun next material =>
    match next.job.result, material.evaluation with
    | some result, some evaluation =>
      .ok (.complete fence result (evidence.ruleCount evaluation.definition))
    | _, _ => .error (.other "Completed job has no result")
  commitFence := some fence

def publishResult (scope : EvidenceScope) (fence : PolicyEvaluationWorkerMutationFence)
    (evaluationId : String) (pageSet : evidence.PageSet) (clock : PolicyEvaluationClock)
    : Repository evidence (Bool × PolicyEvaluationJobSnapshot) := do
  let store ← get
  attempting (parseWith fence.Accepted)
  attempting (parseWith (OpaqueIdSchema evaluationId))
  let { stored, snapshot := before, .. } ← attempting (read store scope fence.jobId)
  match stored.sealedInput with
  | none => throw (.history "Result has no original stored seal")
  | some sealedInput => do
    attempting
      (failIf (before.job.snapshot = none) (.history "Result has no original stored seal"))
    if before.job.status = .completed then
      attempting (failIf (pageSet ≠ sealedInput.pageSet) .requestConflict)
      let original ← attempting (checkedResult stored before)
      attempting
        (failIf
          (evidence.evaluationId original.definition ≠ evaluationId ∨ original.mutationFence ≠ fence)
          .requestConflict)
      return (false, before)
    else
      let now ← attempting (parseTime clock.admission)
      let _ ← attempting (requirePolicyEvaluationLiveFence before now store.recoveryEpoch fence)
      attempting
        (failIf (before.job.status ≠ .running)
          (.history "Result publication requires its owning running attempt"))
      attempting (failIf (pageSet ≠ sealedInput.pageSet) .requestConflict)
      let ownerKey ← attempting (jobKey scope evaluationId)
      attempting (failIf (store.resultOwners ownerKey).isSome .requestConflict)
      let (next, _) ← mutate scope fence.jobId clock
        (completeMutation store.recoveryEpoch fence evaluationId sealedInput)
      modify (·.setResultOwner ownerKey fence.jobId)
      return (true, next)

def interruptJob (scope : EvidenceScope) (fence : PolicyEvaluationWorkerMutationFence)
    (reason : PolicyEvaluationRetryableError) (clock : PolicyEvaluationClock)
    : Repository evidence PolicyEvaluationJobSnapshot := do
  let recoveryEpoch := (← get).recoveryEpoch
  let (next, _) ← mutate scope fence.jobId clock <| plainMutation
    (fun snapshot now => interruptPolicyEvaluationJob snapshot now recoveryEpoch fence reason)
    (fun _ => .ok (.interrupt fence reason))
  return next

def cancelMutation (scope : EvidenceScope) (jobId cancellationId principalId : String)
    (reason : PolicyEvaluationCancellationReason) : PolicyMutation evidence :=
  plainMutation
    (fun snapshot now =>
      cancelPolicyEvaluationJob snapshot
        { jobId := jobId
          scope := scope
          cancellationId := (snapshot.cancellation.map (·.cancellationId)).getD cancellationId
          requestedAt := now
          requestedByPrincipalId := principalId
          reason := reason })
    (fun next =>
      match next.cancellation with
      | some intent => .ok (.cancel intent)
      | none => .error (.other "Cancelled job has no intent"))

def cancelJob (scope : EvidenceScope) (jobId cancellationId principalId : String)
    (reason : PolicyEvaluationCancellationReason) (clock : PolicyEvaluationClock)
    : Repository evidence PolicyEvaluationJobSnapshot := do
  let (next, _) ← mutate scope jobId clock
    (cancelMutation scope jobId cancellationId principalId reason)
  return next

def reclaimJob (scope : EvidenceScope) (jobId : String) (clock : PolicyEvaluationClock)
    : Repository evidence PolicyEvaluationJobSnapshot := do
  let recoveryEpoch := (← get).recoveryEpoch
  let (next, _) ← mutate scope jobId clock <| plainMutation
    (fun snapshot now => reclaimPolicyEvaluationJob snapshot now recoveryEpoch)
    (fun _ => .ok .reclaim)
  return next

def recoverJob (scope : EvidenceScope) (jobId : String) (clock : PolicyEvaluationClock)
    : Repository evidence PolicyEvaluationJobSnapshot := do
  let recoveryEpoch := (← get).recoveryEpoch
  let (next, _) ← mutate scope jobId clock <| plainMutation
    (fun snapshot now =>
      if snapshot.job.terminal.isSome ∨ snapshot.job.recoveryEpoch = recoveryEpoch then
        .ok snapshot
      else
        recoverPolicyEvaluationJob snapshot now recoveryEpoch)
    (fun next => .ok (.recovery next.job.recoveryEpoch))
  return next

def setRecoveryEpoch (recoveryEpoch : Nat) : Repository evidence Unit :=
  modify (fun store => { store with recoveryEpoch := recoveryEpoch })

end Operations

inductive PolicyEvaluationCommand (evidence : PolicyEvaluationEvidence) where
  | create (request : PolicyEvaluationRequest) (jobId : String)
  | claim (scope : EvidenceScope) (jobId workerId attemptId leaseId : String)
  | heartbeat (scope : EvidenceScope) (fence : PolicyEvaluationWorkerMutationFence)
  | reserveUsage (scope : EvidenceScope) (fence : PolicyEvaluationWorkerMutationFence)
    (reservationId : String) (delta : PolicyEvaluationUsage)
  | reserveWork (scope : EvidenceScope) (fence : PolicyEvaluationWorkerMutationFence)
    (reservationId : String) (delta : PolicyEvaluationUsage)
  | reserveAcquisition (scope : EvidenceScope) (fence : PolicyEvaluationWorkerMutationFence)
    (allowanceId : String)
  | settleAcquisition (scope : EvidenceScope) (fence : PolicyEvaluationWorkerMutationFence)
    (allowanceId : String) (usage : Option PolicyEvaluationAcquisitionUsage)
  | publishSnapshot (scope : EvidenceScope) (fence : PolicyEvaluationWorkerMutationFence)
    (pageSet : evidence.PageSet) (principalId : String)
  | startComputation (scope : EvidenceScope) (fence : PolicyEvaluationWorkerMutationFence)
  | publishResult (scope : EvidenceScope) (fence : PolicyEvaluationWorkerMutationFence)
    (evaluationId : String) (pageSet : evidence.PageSet)
  | interrupt (scope : EvidenceScope) (fence : PolicyEvaluationWorkerMutationFence)
    (reason : PolicyEvaluationRetryableError)
  | cancel (scope : EvidenceScope) (jobId cancellationId principalId : String)
    (reason : PolicyEvaluationCancellationReason)
  | reclaim (scope : EvidenceScope) (jobId : String)
  | recover (scope : EvidenceScope) (jobId : String)
  | setRecoveryEpoch (recoveryEpoch : Nat)

namespace PolicyEvaluationCommand

def target : PolicyEvaluationCommand evidence →
    Option (EvidenceScope × PolicyEvaluationWorkerMutationFence)
  | .heartbeat scope fence => some (scope, fence)
  | .reserveUsage scope fence _ _ => some (scope, fence)
  | .reserveWork scope fence _ _ => some (scope, fence)
  | .reserveAcquisition scope fence _ => some (scope, fence)
  | .settleAcquisition scope fence _ _ => some (scope, fence)
  | .publishSnapshot scope fence _ _ => some (scope, fence)
  | .startComputation scope fence => some (scope, fence)
  | .publishResult scope fence _ _ => some (scope, fence)
  | .interrupt scope fence _ => some (scope, fence)
  | .create _ _ | .claim _ _ _ _ _ | .cancel _ _ _ _ _ | .reclaim _ _ | .recover _ _
  | .setRecoveryEpoch _ => none

-- The results of the operations are not part of a run.
def run (command : PolicyEvaluationCommand evidence) (clock : PolicyEvaluationClock)
    : Repository evidence Unit :=
  match command with
  | .create request jobId => discard (createJob request jobId clock)
  | .claim scope jobId workerId attemptId leaseId =>
    discard (claimJob scope jobId workerId attemptId leaseId clock)
  | .heartbeat scope fence => discard (heartbeatJob scope fence clock)
  | .reserveUsage scope fence reservationId delta =>
    discard (Policy.reserveUsage scope fence reservationId delta clock)
  | .reserveWork scope fence reservationId delta =>
    discard (Policy.reserveWork scope fence reservationId delta clock)
  | .reserveAcquisition scope fence allowanceId =>
    discard (Policy.reserveAcquisition scope fence allowanceId clock)
  | .settleAcquisition scope fence allowanceId usage =>
    discard (Policy.settleAcquisition scope fence allowanceId usage clock)
  | .publishSnapshot scope fence pageSet principalId =>
    discard (Policy.publishSnapshot scope fence pageSet principalId clock)
  | .startComputation scope fence => discard (Policy.startComputation scope fence clock)
  | .publishResult scope fence evaluationId pageSet =>
    discard (Policy.publishResult scope fence evaluationId pageSet clock)
  | .interrupt scope fence reason => discard (interruptJob scope fence reason clock)
  | .cancel scope jobId cancellationId principalId reason =>
    discard (cancelJob scope jobId cancellationId principalId reason clock)
  | .reclaim scope jobId => discard (reclaimJob scope jobId clock)
  | .recover scope jobId => discard (recoverJob scope jobId clock)
  | .setRecoveryEpoch recoveryEpoch => Policy.setRecoveryEpoch recoveryEpoch

end PolicyEvaluationCommand

def PolicyEvaluationJobStore.step (store : PolicyEvaluationJobStore evidence)
    (input : PolicyEvaluationCommand evidence × PolicyEvaluationClock)
    : PolicyEvaluationJobStore evidence :=
  match input.1.run input.2 store with
  | .ok _ store => store
  | .error _ store => store

end Policy
end ProofStack
