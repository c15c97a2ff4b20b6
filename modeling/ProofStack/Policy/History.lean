import ProofStack.Policy.Scheduler

/-!
This module contains the integrity checks of stored job graphs and the history entries that record
the committed transitions.
-/

namespace ProofStack
namespace Policy

structure PolicyEvaluationCodec where
  requestDefinitionSha256 : EvidenceScope → PolicyEvaluationRequestDefinition → String
  jobDefinitionSha256 : EvidenceScope → PolicyEvaluationJobDefinition → String
  graphSha256 : PolicyEvaluationJobSnapshot → String
  entrySha256 : PolicyEvaluationJobHistoryEntryDefinition → String
  entryByteLength : PolicyEvaluationJobHistoryEntry → Nat
  pageByteLength : PolicyEvaluationJobHistoryPage → Nat

section Record

def rethrowAs {α : Type} (error : PolicyEvaluationError) (checked : Except PolicyEvaluationError α)
    : Except PolicyEvaluationError α :=
  match checked with
  | .ok value => .ok value
  | .error _ => .error error

def validatePolicyEvaluationRequestRecord (codec : PolicyEvaluationCodec)
    (record : PolicyEvaluationRequest)
    : Except PolicyEvaluationError PolicyEvaluationRequest := do
  failIf (¬record.Accepted) (.invalidRequestRecord "Invalid policy evaluation request record")
  let definition := record.toPolicyEvaluationRequestDefinition
  failIf (codec.requestDefinitionSha256 record.scope definition ≠ record.definitionSha256)
    (.invalidRequestRecord "Policy evaluation request has an invalid canonical definition digest")
  return record

def validatePolicyEvaluationJobSnapshotRecord (codec : PolicyEvaluationCodec)
    (scope : EvidenceScope) (reference : PolicyEvaluationJobReference)
    (snapshot : PolicyEvaluationJobSnapshot)
    : Except PolicyEvaluationError PolicyEvaluationJobSnapshot :=
  rethrowAs (.invalidJobGraph "Invalid exact policy job graph") do
    let snapshot ← parseSnapshot snapshot
    let _ ← validatePolicyEvaluationRequestRecord codec snapshot.request
    let job := snapshot.job
    let digest := codec.jobDefinitionSha256 job.scope job.toPolicyEvaluationJobDefinition
    failIf
      (digest ≠ job.definitionSha256
        ∨ job.jobId ≠ reference.jobId
        ∨ digest ≠ reference.definitionSha256
        ∨ job.scope ≠ scope)
      (.other "Exact job identity, scope or canonical digest mismatch")
    return snapshot

def jobReference (job : PolicyEvaluationJob) : PolicyEvaluationJobReference where
  jobId := job.jobId
  definitionSha256 := job.definitionSha256

def digestPolicyEvaluationJobGraph (codec : PolicyEvaluationCodec)
    (snapshot : PolicyEvaluationJobSnapshot) : Except PolicyEvaluationError String := do
  let admitted ←
    validatePolicyEvaluationJobSnapshotRecord codec snapshot.job.scope (jobReference snapshot.job)
      snapshot
  return codec.graphSha256 admitted

def createdSnapshot (codec : PolicyEvaluationCodec) (request : PolicyEvaluationRequest)
    (jobId : String) (now : PolicyEvaluationTime) (deadlineAt : PolicyEvaluationTime)
    (recoveryEpoch : Nat) : PolicyEvaluationJobSnapshot where
  request := request
  attempts := []
  cancellation := none
  usage := .zero
  acquisitionAllowance := none
  job := {
    jobId := jobId
    request := ⟨request.definitionSha256, request.evaluationRequestId⟩
    definitionSha256 :=
      codec.jobDefinitionSha256 request.scope
        ⟨jobId, ⟨request.definitionSha256, request.evaluationRequestId⟩⟩
    scope := request.scope
    createdAt := now
    createdByPrincipalId := request.createdByPrincipalId
    updatedAt := now
    deadlineAt := deadlineAt
    stateVersion := 1
    recoveryEpoch := recoveryEpoch
    lastFencingToken := 0
    attemptCount := 0
    status := .queued
    currentLease := none
    snapshot := none
    result := none
    retryAt := none
    terminal := none }

def requestDeadline (request : PolicyEvaluationRequest)
    : Except PolicyEvaluationError PolicyEvaluationTime :=
  match request.createdAt.addMilliseconds request.limits.totalDeadlineMilliseconds with
  | some deadlineAt => .ok deadlineAt
  | none => .error (.schema ["Invalid policy evaluation time"])

end Record

section Entry

def encodePolicyEvaluationJobHistoryEntry (codec : PolicyEvaluationCodec)
    (definition : PolicyEvaluationJobHistoryEntryDefinition)
    : Except PolicyEvaluationError String := do
  parseWith definition.Accepted
  return codec.entrySha256 definition

def validatePolicyEvaluationJobHistoryEntry (codec : PolicyEvaluationCodec)
    (entry : PolicyEvaluationJobHistoryEntry)
    : Except PolicyEvaluationError PolicyEvaluationJobHistoryEntry := do
  parseWith entry.Accepted
  let digest ← encodePolicyEvaluationJobHistoryEntry codec entry.definition
  failIf (entry.entrySha256 ≠ digest) (.history "History entry canonical digest mismatch")
  failIf (codec.entryByteLength entry > maxPolicyEvaluationJobHistoryEntryBytes)
    (.history "History entry exceeds its exact UTF-8 ceiling")
  return entry

def continues (predecessor : PolicyEvaluationJobHistoryEntry)
    (previous next : PolicyEvaluationJobSnapshot) (previousGraphSha256 : String) : Prop :=
  predecessor.definition.graphSha256 = previousGraphSha256
    ∧ predecessor.definition.stateVersion = previous.job.stateVersion
    ∧ predecessor.definition.job.jobId = next.job.jobId
    ∧ predecessor.definition.job.definitionSha256 = next.job.definitionSha256
    ∧ predecessor.definition.scope.tenantId = next.job.scope.tenantId
    ∧ predecessor.definition.scope.projectId = next.job.scope.projectId
    ∧ predecessor.definition.scope.environmentId = next.job.scope.environmentId
    ∧ next.job.stateVersion = previous.job.stateVersion + 1

instance (predecessor : PolicyEvaluationJobHistoryEntry)
    (previous next : PolicyEvaluationJobSnapshot) (previousGraphSha256 : String)
    : Decidable (continues predecessor previous next previousGraphSha256) :=
  inferInstanceAs (Decidable (_ ∧ _))

-- The snapshot and the entry before the new one are both absent or both present.
def createPolicyEvaluationJobHistoryEntry (codec : PolicyEvaluationCodec)
    (before : Option (PolicyEvaluationJobSnapshot × PolicyEvaluationJobHistoryEntry))
    (next : PolicyEvaluationJobSnapshot) (operation : PolicyEvaluationJobHistoryOperation)
    : Except PolicyEvaluationError PolicyEvaluationJobHistoryEntry := do
  let graphSha256 ← digestPolicyEvaluationJobGraph codec next
  let predecessor ←
    match before with
    | none => pure none
    | some (previous, previousEntry) => do
      let previousGraphSha256 ← digestPolicyEvaluationJobGraph codec previous
      let predecessor ← validatePolicyEvaluationJobHistoryEntry codec previousEntry
      failIf (¬continues predecessor previous next previousGraphSha256)
        (.history "History does not continue its exact previous graph")
      pure (some (previousGraphSha256, predecessor))
  let definition : PolicyEvaluationJobHistoryEntryDefinition :=
    { scope := next.job.scope
      job := jobReference next.job
      sequence := next.job.stateVersion - 1
      stateVersion := next.job.stateVersion
      predecessorEntrySha256 := predecessor.map (·.2.entrySha256)
      previousGraphSha256 := predecessor.map (·.1)
      graphSha256 := graphSha256
      previousStatus := before.map (·.1.job.status)
      status := next.job.status
      committedAt := next.job.updatedAt
      operation := operation }
  let entrySha256 ← encodePolicyEvaluationJobHistoryEntry codec definition
  validatePolicyEvaluationJobHistoryEntry codec { definition, entrySha256 }

def policyEvaluationJobHistoryHead (codec : PolicyEvaluationCodec)
    (entry : PolicyEvaluationJobHistoryEntry)
    : Except PolicyEvaluationError PolicyEvaluationJobHistoryHead := do
  let entry ← validatePolicyEvaluationJobHistoryEntry codec entry
  let head : PolicyEvaluationJobHistoryHead :=
    { scope := entry.definition.scope
      job := entry.definition.job
      sequence := entry.definition.sequence
      entrySha256 := entry.entrySha256
      graphSha256 := entry.definition.graphSha256 }
  parseWith head.Accepted
  return head

def validatePolicyEvaluationJobHistoryPage (codec : PolicyEvaluationCodec)
    (expected : PolicyEvaluationJobHistoryHead) (page : PolicyEvaluationJobHistoryPage)
    : Except PolicyEvaluationError PolicyEvaluationJobHistoryPage := do
  parseWith expected.Accepted
  parseWith page.Accepted
  failIf (expected ≠ page.head)
    (.history "History page head differs from the exact requested head")
  for entry in page.entries do
    let _ ← validatePolicyEvaluationJobHistoryEntry codec entry
  failIf (codec.pageByteLength page > maxPolicyEvaluationJobHistoryPageBytes)
    (.history "History page exceeds its exact UTF-8 ceiling")
  return page

end Entry

section Replay

def replayTransition (previous : PolicyEvaluationJobSnapshot)
    (definition : PolicyEvaluationJobHistoryEntryDefinition)
    : Except PolicyEvaluationError PolicyEvaluationJobSnapshot := do
  let now := definition.committedAt
  let recoveryEpoch := previous.job.recoveryEpoch
  match definition.operation with
  | .complete fence result ruleCount =>
    completePolicyEvaluationJob previous now recoveryEpoch fence result ruleCount
  | .seal fence snapshot => sealPolicyEvaluationJob previous now recoveryEpoch fence snapshot
  | .startComputation fence => startPolicyEvaluationComputation previous now recoveryEpoch fence
  | .claim fence => do
    let next ←
      claimPolicyEvaluationJob previous now recoveryEpoch fence.attemptId fence.leaseId fence.workerId
    failIf (next.job.currentLease.map (·.mutationFence) ≠ some fence)
      (.history "Claim history substituted a fence or recovery epoch")
    return next
  | .heartbeat fence => heartbeatPolicyEvaluationJob previous now recoveryEpoch fence
  | .reserve fence _ delta => reservePolicyEvaluationUsage previous now recoveryEpoch fence delta
  | .reserveAcquisition fence allowanceId =>
    reservePolicyEvaluationAcquisition previous now recoveryEpoch fence allowanceId
  | .settleAcquisition fence allowanceId usage =>
    settlePolicyEvaluationAcquisition previous now recoveryEpoch fence allowanceId usage
  | .interrupt fence reason => interruptPolicyEvaluationJob previous now recoveryEpoch fence reason
  | .reclaim => reclaimPolicyEvaluationJob previous now recoveryEpoch
  | .historyLimit => exhaustPolicyEvaluationJobHistory previous now
  | .recovery epoch => recoverPolicyEvaluationJob previous now epoch
  | .cancel intent => cancelPolicyEvaluationJob previous intent
  | .created => .error (.history "Creation cannot replace an already retained graph")

def replayPolicyEvaluationJobHistoryEntry (codec : PolicyEvaluationCodec)
    (previous : PolicyEvaluationJobSnapshot) (entry : PolicyEvaluationJobHistoryEntry)
    : Except PolicyEvaluationError PolicyEvaluationJobSnapshot := do
  let entry ← validatePolicyEvaluationJobHistoryEntry codec entry
  let definition := entry.definition
  let previousGraphSha256 ← digestPolicyEvaluationJobGraph codec previous
  failIf
    (definition.previousGraphSha256 ≠ some previousGraphSha256
      ∨ definition.previousStatus ≠ some previous.job.status
      ∨ definition.stateVersion ≠ previous.job.stateVersion + 1
      ∨ definition.scope ≠ previous.job.scope
      ∨ definition.job.jobId ≠ previous.job.jobId
      ∨ definition.job.definitionSha256 ≠ previous.job.definitionSha256)
    (.history "History does not bind the exact preceding owning graph")
  let next ← replayTransition previous definition
  failIf (next.job.status ≠ definition.status)
    (.history "History does not match independently re-derived transition output")
  let graphSha256 ← digestPolicyEvaluationJobGraph codec next
  failIf (graphSha256 ≠ definition.graphSha256)
    (.history "History does not match independently re-derived transition output")
  return next

end Replay

section Outbox

structure PolicyEvaluationJobOutboxPayload where
  environmentId : String
  projectId : String
  jobId : String
  jobDefinitionSha256 : String
  evaluationRequestId : String
  requestDefinitionSha256 : String
  deriving DecidableEq

inductive PolicyEvaluationJobOutboxEvent where
  | created
  | cancellationRequested (cancellationId requestedByPrincipalId : String)
    (reason : PolicyEvaluationCancellationReason)
  | terminal (status : PolicyEvaluationJobTerminalStatus) (code : PolicyEvaluationJobTerminalCode)
    (stateVersion : Nat) (result : Option PolicyEvaluationResultReference)
  deriving DecidableEq

structure PolicyEvaluationJobOutboxIntent where
  aggregateId : String
  tenantId : String
  createdAt : PolicyEvaluationTime
  payload : PolicyEvaluationJobOutboxPayload
  event : PolicyEvaluationJobOutboxEvent
  deriving DecidableEq

def jobIntent (job : PolicyEvaluationJob) (createdAt : PolicyEvaluationTime)
    (event : PolicyEvaluationJobOutboxEvent) : PolicyEvaluationJobOutboxIntent where
  aggregateId := "pej_" ++ String.ofList (job.definitionSha256.toList.take 60)
  tenantId := job.scope.tenantId
  createdAt := createdAt
  payload := {
    environmentId := job.scope.environmentId
    projectId := job.scope.projectId
    jobId := job.jobId
    jobDefinitionSha256 := job.definitionSha256
    evaluationRequestId := job.request.evaluationRequestId
    requestDefinitionSha256 := job.request.definitionSha256 }
  event := event

def outboxIntents (previous : Option PolicyEvaluationJobSnapshot)
    (next : PolicyEvaluationJobSnapshot) : List PolicyEvaluationJobOutboxIntent :=
  let job := next.job
  (if previous = none then [jobIntent job job.createdAt .created] else [])
    ++ (match next.cancellation with
        | none => []
        | some cancellation =>
          if previous.bind (·.cancellation) = none then
            [jobIntent job cancellation.requestedAt
              (.cancellationRequested cancellation.cancellationId
                cancellation.requestedByPrincipalId cancellation.reason)]
          else
            [])
    ++ (match job.terminal with
        | none => []
        | some terminal =>
          if previous.bind (·.job.terminal) = none then
            [jobIntent job terminal.committedAt
              (.terminal terminal.status terminal.code job.stateVersion job.result)]
          else
            [])

def buildPolicyEvaluationJobOutboxIntents (codec : PolicyEvaluationCodec)
    (previous : Option PolicyEvaluationJobSnapshot) (next : PolicyEvaluationJobSnapshot)
    : Except PolicyEvaluationError (List PolicyEvaluationJobOutboxIntent) := do
  let next ←
    validatePolicyEvaluationJobSnapshotRecord codec next.job.scope (jobReference next.job) next
  return outboxIntents previous next

end Outbox

end Policy
end ProofStack
