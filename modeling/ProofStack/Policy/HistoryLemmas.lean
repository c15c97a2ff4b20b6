import ProofStack.Policy.History
import ProofStack.Policy.SchedulerStep

/-!
This module contains the readings of the history checks and the two facts that tie the history to the
transitions.
-/

namespace ProofStack
namespace Policy

open PolicyEvaluationJobSnapshot

variable {codec : PolicyEvaluationCodec}

@[mk_iff]
structure Recorded (codec : PolicyEvaluationCodec) (snapshot : PolicyEvaluationJobSnapshot)
    : Prop where
  accepted : snapshot.Accepted
  request :
    codec.requestDefinitionSha256 snapshot.request.scope
        snapshot.request.toPolicyEvaluationRequestDefinition
      = snapshot.request.definitionSha256
  job :
    codec.jobDefinitionSha256 snapshot.job.scope snapshot.job.toPolicyEvaluationJobDefinition
      = snapshot.job.definitionSha256

section Record

variable {snapshot result : PolicyEvaluationJobSnapshot} {scope : EvidenceScope}
variable {reference : PolicyEvaluationJobReference}

theorem rethrowAs_eq_ok {α : Type} {error : PolicyEvaluationError}
    {checked : Except PolicyEvaluationError α} {value : α}
    : rethrowAs error checked = .ok value ↔ checked = .ok value := by
  unfold rethrowAs
  cases checked <;> simp

theorem validatePolicyEvaluationRequestRecord_eq_ok {record result : PolicyEvaluationRequest}
    : validatePolicyEvaluationRequestRecord codec record = .ok result
        ↔ record.Accepted
            ∧ codec.requestDefinitionSha256 record.scope
                record.toPolicyEvaluationRequestDefinition = record.definitionSha256
            ∧ record = result := by
  unfold validatePolicyEvaluationRequestRecord
  simp only [bind_eq_ok, failIf_eq_ok, pure_eq_ok, exists_const, not_not, ne_eq]

theorem validatePolicyEvaluationJobSnapshotRecord_eq_ok
    : validatePolicyEvaluationJobSnapshotRecord codec scope reference snapshot = .ok result
        ↔ Recorded codec snapshot
            ∧ snapshot.job.jobId = reference.jobId
            ∧ snapshot.job.definitionSha256 = reference.definitionSha256
            ∧ snapshot.job.scope = scope
            ∧ snapshot = result := by
  unfold validatePolicyEvaluationJobSnapshotRecord
  rw [rethrowAs_eq_ok]
  simp only [bind_eq_ok, parseSnapshot_eq_ok, validatePolicyEvaluationRequestRecord_eq_ok,
    failIf_eq_ok, pure_eq_ok, exists_const, and_assoc, exists_and_left, exists_eq_left', not_or,
    not_not, ne_eq]
  constructor
  . rintro ⟨haccepted, -, hrequest, hdigest, hjob, hreference, hscope, hresult⟩
    exact ⟨⟨haccepted, hrequest, hdigest⟩, hjob, hdigest ▸ hreference, hscope, hresult⟩
  . rintro ⟨⟨haccepted, hrequest, hdigest⟩, hjob, hreference, hscope, hresult⟩
    exact ⟨haccepted, (accepted_iff.mp haccepted).request, hrequest, hdigest, hjob,
      hdigest.trans hreference, hscope, hresult⟩

theorem digestPolicyEvaluationJobGraph_eq_ok {digest : String}
    : digestPolicyEvaluationJobGraph codec snapshot = .ok digest
        ↔ Recorded codec snapshot ∧ codec.graphSha256 snapshot = digest := by
  unfold digestPolicyEvaluationJobGraph
  simp only [bind_eq_ok, validatePolicyEvaluationJobSnapshotRecord_eq_ok, pure_eq_ok, jobReference,
    and_assoc, exists_and_left, exists_eq_left', true_and]

theorem buildPolicyEvaluationJobOutboxIntents_eq_ok {previous : Option PolicyEvaluationJobSnapshot}
    {intents : List PolicyEvaluationJobOutboxIntent}
    : buildPolicyEvaluationJobOutboxIntents codec previous snapshot = .ok intents
        ↔ Recorded codec snapshot ∧ outboxIntents previous snapshot = intents := by
  unfold buildPolicyEvaluationJobOutboxIntents
  simp only [bind_eq_ok, validatePolicyEvaluationJobSnapshotRecord_eq_ok, pure_eq_ok, jobReference,
    and_assoc, exists_and_left, exists_eq_left', true_and]

theorem Recorded.of_step {before after : PolicyEvaluationJobSnapshot} {now : PolicyEvaluationTime}
    (h : Recorded codec before) (hstep : Step before after now) (haccepted : after.Accepted)
    : Recorded codec after where
  accepted := haccepted
  request := by
    rw [hstep.request]
    exact h.request
  job := by
    rw [hstep.identity.scope, hstep.identity.definition, hstep.identity.definitionSha256]
    exact h.job

end Record

@[mk_iff]
structure ValidEntry (codec : PolicyEvaluationCodec) (entry : PolicyEvaluationJobHistoryEntry)
    : Prop where
  accepted : entry.Accepted
  digest : entry.entrySha256 = codec.entrySha256 entry.definition
  bytes : codec.entryByteLength entry ≤ maxPolicyEvaluationJobHistoryEntryBytes

def headOf (entry : PolicyEvaluationJobHistoryEntry) : PolicyEvaluationJobHistoryHead where
  scope := entry.definition.scope
  job := entry.definition.job
  sequence := entry.definition.sequence
  entrySha256 := entry.entrySha256
  graphSha256 := entry.definition.graphSha256

def entryDefinition (codec : PolicyEvaluationCodec)
    (before : Option (PolicyEvaluationJobSnapshot × PolicyEvaluationJobHistoryEntry))
    (next : PolicyEvaluationJobSnapshot) (operation : PolicyEvaluationJobHistoryOperation)
    : PolicyEvaluationJobHistoryEntryDefinition where
  scope := next.job.scope
  job := jobReference next.job
  sequence := next.job.stateVersion - 1
  stateVersion := next.job.stateVersion
  predecessorEntrySha256 := before.map (·.2.entrySha256)
  previousGraphSha256 := before.map (fun before => codec.graphSha256 before.1)
  graphSha256 := codec.graphSha256 next
  previousStatus := before.map (·.1.job.status)
  status := next.job.status
  committedAt := next.job.updatedAt
  operation := operation

section Entry

variable {entry result : PolicyEvaluationJobHistoryEntry}
variable {previous next : PolicyEvaluationJobSnapshot}
variable {operation : PolicyEvaluationJobHistoryOperation}

theorem encodePolicyEvaluationJobHistoryEntry_eq_ok
    {definition : PolicyEvaluationJobHistoryEntryDefinition} {digest : String}
    : encodePolicyEvaluationJobHistoryEntry codec definition = .ok digest
        ↔ definition.Accepted ∧ codec.entrySha256 definition = digest := by
  unfold encodePolicyEvaluationJobHistoryEntry
  simp only [bind_eq_ok, parseWith_eq_ok, pure_eq_ok, exists_const]

theorem validatePolicyEvaluationJobHistoryEntry_eq_ok
    : validatePolicyEvaluationJobHistoryEntry codec entry = .ok result
        ↔ ValidEntry codec entry ∧ entry = result := by
  unfold validatePolicyEvaluationJobHistoryEntry
  simp only [bind_eq_ok, parseWith_eq_ok, encodePolicyEvaluationJobHistoryEntry_eq_ok, failIf_eq_ok,
    pure_eq_ok, exists_const, and_assoc, exists_and_left, exists_eq_left', not_lt, not_not, ne_eq]
  constructor
  . rintro ⟨haccepted, -, hdigest, hbytes, hresult⟩
    exact ⟨⟨haccepted, hdigest, hbytes⟩, hresult⟩
  . rintro ⟨⟨haccepted, hdigest, hbytes⟩, hresult⟩
    exact ⟨haccepted, haccepted.1, hdigest, hbytes, hresult⟩

theorem policyEvaluationJobHistoryHead_eq_ok {head : PolicyEvaluationJobHistoryHead}
    : policyEvaluationJobHistoryHead codec entry = .ok head
        ↔ ValidEntry codec entry ∧ headOf entry = head := by
  unfold policyEvaluationJobHistoryHead
  simp only [bind_eq_ok, validatePolicyEvaluationJobHistoryEntry_eq_ok, parseWith_eq_ok, pure_eq_ok,
    exists_const, and_assoc, exists_and_left, exists_eq_left']
  constructor
  . rintro ⟨hvalid, -, hhead⟩
    exact ⟨hvalid, hhead⟩
  . rintro ⟨hvalid, hhead⟩
    have hshape := hvalid.accepted.1.1
    exact ⟨hvalid, ⟨hshape.scope, hshape.job, hshape.sequence, hvalid.accepted.2,
      hshape.graphSha256⟩, hhead⟩

theorem createPolicyEvaluationJobHistoryEntry_none_eq_ok
    : createPolicyEvaluationJobHistoryEntry codec none next operation = .ok entry
        ↔ Recorded codec next
            ∧ ValidEntry codec entry
            ∧ entry.definition = entryDefinition codec none next operation := by
  unfold createPolicyEvaluationJobHistoryEntry
  simp only [bind_eq_ok, digestPolicyEvaluationJobGraph_eq_ok, pure_eq_ok,
    encodePolicyEvaluationJobHistoryEntry_eq_ok, validatePolicyEvaluationJobHistoryEntry_eq_ok,
    and_assoc, exists_and_left, exists_eq_left', Option.map_none]
  apply and_congr_right
  intro _
  constructor
  . rintro ⟨-, hvalid, rfl⟩
    exact ⟨hvalid, rfl⟩
  . rintro ⟨hvalid, hdefinition⟩
    have haccepted := hvalid.accepted.1
    rw [hdefinition] at haccepted
    have hentry : (⟨entryDefinition codec none next operation,
        codec.entrySha256 (entryDefinition codec none next operation)⟩
        : PolicyEvaluationJobHistoryEntry) = entry := by
      rw [← hdefinition, ← hvalid.digest]
    rw [← hentry] at hvalid
    exact ⟨haccepted, hvalid, hentry⟩

theorem createPolicyEvaluationJobHistoryEntry_some_eq_ok
    {latest : PolicyEvaluationJobHistoryEntry}
    : createPolicyEvaluationJobHistoryEntry codec (some (previous, latest)) next operation
          = .ok entry
        ↔ Recorded codec next
            ∧ Recorded codec previous
            ∧ ValidEntry codec latest
            ∧ continues latest previous next (codec.graphSha256 previous)
            ∧ ValidEntry codec entry
            ∧ entry.definition
                = entryDefinition codec (some (previous, latest)) next operation := by
  unfold createPolicyEvaluationJobHistoryEntry
  simp only [bind_eq_ok, digestPolicyEvaluationJobGraph_eq_ok, pure_eq_ok, failIf_eq_ok,
    encodePolicyEvaluationJobHistoryEntry_eq_ok, validatePolicyEvaluationJobHistoryEntry_eq_ok,
    and_assoc, exists_and_left, exists_eq_left', exists_const, Option.map_some, not_not]
  apply and_congr_right
  intro _
  apply and_congr_right
  intro _
  apply and_congr_right
  intro _
  apply and_congr_right
  intro _
  constructor
  . rintro ⟨-, hvalid, rfl⟩
    exact ⟨hvalid, rfl⟩
  . rintro ⟨hvalid, hdefinition⟩
    have haccepted := hvalid.accepted.1
    rw [hdefinition] at haccepted
    have hentry : (⟨entryDefinition codec (some (previous, latest)) next operation,
        codec.entrySha256 (entryDefinition codec (some (previous, latest)) next operation)⟩
        : PolicyEvaluationJobHistoryEntry) = entry := by
      rw [← hdefinition, ← hvalid.digest]
    rw [← hentry] at hvalid
    exact ⟨haccepted, hvalid, hentry⟩

end Entry

section Replay

structure Binds (codec : PolicyEvaluationCodec) (previous : PolicyEvaluationJobSnapshot)
    (definition : PolicyEvaluationJobHistoryEntryDefinition) : Prop where
  previousGraphSha256 : definition.previousGraphSha256 = some (codec.graphSha256 previous)
  previousStatus : definition.previousStatus = some previous.job.status
  stateVersion : definition.stateVersion = previous.job.stateVersion + 1
  scope : definition.scope = previous.job.scope
  jobId : definition.job.jobId = previous.job.jobId
  definitionSha256 : definition.job.definitionSha256 = previous.job.definitionSha256

variable {previous next : PolicyEvaluationJobSnapshot} {entry : PolicyEvaluationJobHistoryEntry}

theorem replayPolicyEvaluationJobHistoryEntry_eq_ok
    : replayPolicyEvaluationJobHistoryEntry codec previous entry = .ok next
        ↔ ValidEntry codec entry
            ∧ Recorded codec previous
            ∧ Binds codec previous entry.definition
            ∧ replayTransition previous entry.definition = .ok next
            ∧ next.job.status = entry.definition.status
            ∧ Recorded codec next
            ∧ codec.graphSha256 next = entry.definition.graphSha256 := by
  unfold replayPolicyEvaluationJobHistoryEntry
  simp only [bind_eq_ok, validatePolicyEvaluationJobHistoryEntry_eq_ok,
    digestPolicyEvaluationJobGraph_eq_ok, failIf_eq_ok, pure_eq_ok, exists_const, and_assoc,
    exists_and_left, exists_eq_left', not_or, not_not, ne_eq]
  constructor
  . rintro ⟨hvalid, hprevious, h1, h2, h3, h4, h5, h6, output, houtput, hstatus, hrecorded, hgraph,
      rfl⟩
    exact ⟨hvalid, hprevious, ⟨h1, h2, h3, h4, h5, h6⟩, houtput, hstatus, hrecorded, hgraph⟩
  . rintro ⟨hvalid, hprevious, ⟨h1, h2, h3, h4, h5, h6⟩, houtput, hstatus, hrecorded, hgraph⟩
    exact ⟨hvalid, hprevious, h1, h2, h3, h4, h5, h6, next, houtput, hstatus, hrecorded, hgraph,
      rfl⟩

inductive Records (previous next : PolicyEvaluationJobSnapshot)
    : PolicyEvaluationTransition → PolicyEvaluationJobHistoryOperation → Prop where
  | claim (now : PolicyEvaluationTime) (fence : PolicyEvaluationWorkerMutationFence)
    (hfence : next.job.currentLease.map (·.mutationFence) = some fence)
    : Records previous next
        (.claim now previous.job.recoveryEpoch fence.attemptId fence.leaseId fence.workerId)
        (.claim fence)
  | heartbeat (now : PolicyEvaluationTime) (fence : PolicyEvaluationWorkerMutationFence)
    : Records previous next (.heartbeat now previous.job.recoveryEpoch fence) (.heartbeat fence)
  | reserve (now : PolicyEvaluationTime) (fence : PolicyEvaluationWorkerMutationFence)
    (reservationId : String) (delta : PolicyEvaluationUsage)
    : Records previous next (.reserveUsage now previous.job.recoveryEpoch fence delta)
        (.reserve fence reservationId delta)
  | reserveAcquisition (now : PolicyEvaluationTime) (fence : PolicyEvaluationWorkerMutationFence)
    (allowanceId : String)
    : Records previous next (.reserveAcquisition now previous.job.recoveryEpoch fence allowanceId)
        (.reserveAcquisition fence allowanceId)
  | settleAcquisition (now : PolicyEvaluationTime) (fence : PolicyEvaluationWorkerMutationFence)
    (allowanceId : String) (usage : Option PolicyEvaluationAcquisitionUsage)
    : Records previous next
        (.settleAcquisition now previous.job.recoveryEpoch fence allowanceId usage)
        (.settleAcquisition fence allowanceId usage)
  | seal (now : PolicyEvaluationTime) (fence : PolicyEvaluationWorkerMutationFence)
    (reference : PolicyEvaluationSnapshotReference)
    : Records previous next (.sealSnapshot now previous.job.recoveryEpoch fence reference)
        (.seal fence reference)
  | startComputation (now : PolicyEvaluationTime) (fence : PolicyEvaluationWorkerMutationFence)
    : Records previous next (.startComputation now previous.job.recoveryEpoch fence)
        (.startComputation fence)
  | complete (now : PolicyEvaluationTime) (fence : PolicyEvaluationWorkerMutationFence)
    (result : PolicyEvaluationResultReference) (ruleCount : Nat)
    : Records previous next (.complete now previous.job.recoveryEpoch fence result ruleCount)
        (.complete fence result ruleCount)
  | interrupt (now : PolicyEvaluationTime) (fence : PolicyEvaluationWorkerMutationFence)
    (reason : PolicyEvaluationRetryableError)
    : Records previous next (.interrupt now previous.job.recoveryEpoch fence reason)
        (.interrupt fence reason)
  | reclaim (now : PolicyEvaluationTime)
    : Records previous next (.reclaim now previous.job.recoveryEpoch) .reclaim
  | historyLimit (now : PolicyEvaluationTime)
    : Records previous next (.exhaustHistory now) .historyLimit
  | recovery (now : PolicyEvaluationTime) (recoveryEpoch : Nat)
    : Records previous next (.recover now recoveryEpoch) (.recovery recoveryEpoch)
  | cancel (intent : PolicyEvaluationCancellation)
    : Records previous next (.cancel intent) (.cancel intent)

theorem Records.replayTransition {transition : PolicyEvaluationTransition}
    {definition : PolicyEvaluationJobHistoryEntryDefinition}
    (h : Records previous next transition definition.operation)
    (hnow : definition.committedAt = transition.now)
    (happly : transition.apply previous = .ok next)
    : replayTransition previous definition = .ok next := by
  unfold Policy.replayTransition
  rw [hnow]
  cases hoperation : definition.operation <;> rw [hoperation] at h <;> cases h
  case claim fence now hfence =>
    dsimp only
    simp only [bind_eq_ok, failIf_eq_ok, exists_const, pure_eq_ok]
    exact ⟨next, happly, by simp [hfence], rfl⟩
  all_goals exact happly

theorem replay_of_records {transition : PolicyEvaluationTransition}
    {operation : PolicyEvaluationJobHistoryOperation} {latest : PolicyEvaluationJobHistoryEntry}
    (hstep : Step previous next transition.now) (happly : transition.apply previous = .ok next)
    (h : Records previous next transition operation)
    (hentry : createPolicyEvaluationJobHistoryEntry codec (some (previous, latest)) next operation
      = .ok entry)
    : replayPolicyEvaluationJobHistoryEntry codec previous entry = .ok next := by
  rw [createPolicyEvaluationJobHistoryEntry_some_eq_ok] at hentry
  obtain ⟨hnext, hprevious, -, -, hvalid, hdefinition⟩ := hentry
  rw [replayPolicyEvaluationJobHistoryEntry_eq_ok, hdefinition]
  refine ⟨hvalid, hprevious, ?_, ?_, rfl, hnext, rfl⟩
  . constructor
    . rfl
    . rfl
    . exact hstep.stateVersion
    . exact hstep.identity.scope
    . show next.job.jobId = previous.job.jobId
      rw [hstep.identity.definition]
    . exact hstep.identity.definitionSha256
  . apply Records.replayTransition h _ happly
    exact hstep.updatedAt

end Replay

section Outbox

variable {before after : PolicyEvaluationJobSnapshot} {now : PolicyEvaluationTime}

theorem jobIntent_of_step (h : Step before after now) (createdAt : PolicyEvaluationTime)
    (event : PolicyEvaluationJobOutboxEvent)
    : jobIntent after.job createdAt event = jobIntent before.job createdAt event := by
  unfold jobIntent
  rw [h.identity.definition, h.identity.scope, h.identity.definitionSha256]

theorem outboxIntents_append (h : Step before after now)
    : outboxIntents none before ++ outboxIntents (some before) after = outboxIntents none after := by
  have hterminal := h.terminal
  unfold outboxIntents
  simp only [hterminal, jobIntent_of_step h, h.identity.createdAt, Option.bind_some,
    Option.bind_none, reduceCtorEq, if_true, if_false, List.append_nil, List.nil_append]
  rcases h.cancellation with hsame | ⟨hnone, -⟩
  . rw [hsame]
    cases before.cancellation <;> simp
  . simp only [hnone, if_true, List.append_nil]
    cases after.cancellation <;> simp

end Outbox

end Policy
end ProofStack
