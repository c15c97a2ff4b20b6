import ProofStack.Contracts.PolicyEvaluation.JobSnapshot

/-!
This module contains the append only history of a policy evaluation job.
-/

namespace ProofStack

def maxPolicyEvaluationJobHistoryEntries : Nat := 100000
def policyEvaluationJobHistoryPageSize : Nat := 100
def maxPolicyEvaluationJobHistoryEntryBytes : Nat := 4096
def maxPolicyEvaluationJobHistoryPageBytes : Nat := 512 * 1024

inductive PolicyEvaluationJobHistoryOperation where
  | created
  | claim (fence : PolicyEvaluationWorkerMutationFence)
  | heartbeat (fence : PolicyEvaluationWorkerMutationFence)
  | reserve (fence : PolicyEvaluationWorkerMutationFence) (reservationId : String)
    (delta : PolicyEvaluationUsage)
  | reserveAcquisition (fence : PolicyEvaluationWorkerMutationFence) (allowanceId : String)
  | settleAcquisition (fence : PolicyEvaluationWorkerMutationFence) (allowanceId : String)
    (usage : Option PolicyEvaluationAcquisitionUsage)
  | seal (fence : PolicyEvaluationWorkerMutationFence) (snapshot : PolicyEvaluationSnapshotReference)
  | startComputation (fence : PolicyEvaluationWorkerMutationFence)
  | complete (fence : PolicyEvaluationWorkerMutationFence) (result : PolicyEvaluationResultReference)
    (ruleCount : Nat)
  | interrupt (fence : PolicyEvaluationWorkerMutationFence)
    (reason : PolicyEvaluationRetryableError)
  | reclaim
  | historyLimit
  | recovery (recoveryEpoch : Nat)
  | cancel (intent : PolicyEvaluationCancellation)
  deriving DecidableEq

namespace PolicyEvaluationJobHistoryOperation

def fence : PolicyEvaluationJobHistoryOperation → Option PolicyEvaluationWorkerMutationFence
  | .claim fence => some fence
  | .heartbeat fence => some fence
  | .reserve fence _ _ => some fence
  | .reserveAcquisition fence _ => some fence
  | .settleAcquisition fence _ _ => some fence
  | .seal fence _ => some fence
  | .startComputation fence => some fence
  | .complete fence _ _ => some fence
  | .interrupt fence _ => some fence
  | .created | .reclaim | .historyLimit | .recovery _ | .cancel _ => none

def PayloadAccepted : PolicyEvaluationJobHistoryOperation → Prop
  | .reserve _ reservationId delta => OpaqueIdSchema reservationId ∧ delta.Accepted
  | .reserveAcquisition _ allowanceId => OpaqueIdSchema allowanceId
  | .settleAcquisition _ allowanceId usage =>
    OpaqueIdSchema allowanceId ∧ ∀ value ∈ usage, value.Accepted
  | .seal _ snapshot => snapshot.Accepted
  | .complete _ result ruleCount => result.Accepted ∧ boundedInteger 1 maxPolicyRules ruleCount
  | .recovery recoveryEpoch => boundedInteger 1 maxSafeInteger recoveryEpoch
  | .cancel intent => intent.Accepted
  | .created | .claim _ | .heartbeat _ | .startComputation _ | .interrupt _ _ | .reclaim
  | .historyLimit => True

instance : (operation : PolicyEvaluationJobHistoryOperation) → Decidable operation.PayloadAccepted
  | .reserve _ reservationId delta =>
    inferInstanceAs (Decidable (OpaqueIdSchema reservationId ∧ delta.Accepted))
  | .reserveAcquisition _ allowanceId => inferInstanceAs (Decidable (OpaqueIdSchema allowanceId))
  | .settleAcquisition _ allowanceId usage =>
    inferInstanceAs (Decidable (OpaqueIdSchema allowanceId ∧ ∀ value ∈ usage, value.Accepted))
  | .seal _ snapshot => inferInstanceAs (Decidable snapshot.Accepted)
  | .complete _ result ruleCount =>
    inferInstanceAs (Decidable (result.Accepted ∧ boundedInteger 1 maxPolicyRules ruleCount))
  | .recovery recoveryEpoch =>
    inferInstanceAs (Decidable (boundedInteger 1 maxSafeInteger recoveryEpoch))
  | .cancel intent => inferInstanceAs (Decidable intent.Accepted)
  | .created | .claim _ | .heartbeat _ | .startComputation _ | .interrupt _ _ | .reclaim
  | .historyLimit => inferInstanceAs (Decidable True)

def Accepted (operation : PolicyEvaluationJobHistoryOperation) : Prop :=
  (∀ fence ∈ operation.fence, fence.Accepted) ∧ operation.PayloadAccepted

instance (operation : PolicyEvaluationJobHistoryOperation) : Decidable operation.Accepted :=
  inferInstanceAs (Decidable (_ ∧ _))

end PolicyEvaluationJobHistoryOperation

structure PolicyEvaluationJobHistoryEntryDefinition where
  scope : EvidenceScope
  job : PolicyEvaluationJobReference
  sequence : Nat
  predecessorEntrySha256 : Option String
  previousGraphSha256 : Option String
  graphSha256 : String
  stateVersion : Nat
  committedAt : PolicyEvaluationTime
  previousStatus : Option PolicyEvaluationJobStatus
  status : PolicyEvaluationJobStatus
  operation : PolicyEvaluationJobHistoryOperation
  deriving DecidableEq

namespace PolicyEvaluationJobHistoryEntryDefinition

@[mk_iff]
structure Shape (value : PolicyEvaluationJobHistoryEntryDefinition) : Prop where
  scope : EvidenceScopeSchema value.scope
  job : value.job.Accepted
  sequence : boundedInteger 0 (maxPolicyEvaluationJobHistoryEntries - 1) value.sequence
  predecessorEntrySha256 : ∀ sha256 ∈ value.predecessorEntrySha256, Sha256Schema sha256
  previousGraphSha256 : ∀ sha256 ∈ value.previousGraphSha256, Sha256Schema sha256
  graphSha256 : Sha256Schema value.graphSha256
  stateVersion : boundedInteger 1 maxPolicyEvaluationJobHistoryEntries value.stateVersion
  operation : value.operation.Accepted

instance (value : PolicyEvaluationJobHistoryEntryDefinition) : Decidable value.Shape :=
  decidable_of_iff _ (shape_iff value).symm

def operationIssues (value : PolicyEvaluationJobHistoryEntryDefinition) : List String :=
  match value.operation with
  | .reserve _ _ delta =>
    issue (∀ key ∈ PolicyEvaluationUsage.keys, key delta = 0)
      "History reservation cannot erase all work"
  | .cancel intent =>
    issue
      (intent.jobId ≠ value.job.jobId
        ∨ intent.scope.tenantId ≠ value.scope.tenantId
        ∨ intent.scope.projectId ≠ value.scope.projectId
        ∨ intent.scope.environmentId ≠ value.scope.environmentId
        ∨ intent.requestedAt ≠ value.committedAt)
      "Cancellation history must retain original exact-scope intent and receipt"
  | _ => []

def issues (value : PolicyEvaluationJobHistoryEntryDefinition) : List String :=
  issue (value.stateVersion ≠ value.sequence + 1)
      "History has one contiguous entry for each committed state version"
    ++ issue
      (¬(value.sequence = 0 ↔ value.operation = .created)
        ∨ ¬(value.sequence = 0 ↔ value.predecessorEntrySha256 = none)
        ∨ ¬(value.sequence = 0 ↔ value.previousGraphSha256 = none)
        ∨ ¬(value.sequence = 0 ↔ value.previousStatus = none))
      "Creation has no predecessor; every subsequent entry retains exact predecessor hashes/status"
    ++ issue (value.sequence = 0 ∧ value.status ≠ .queued)
      "History creation must retain original queued state"
    ++ issue (∃ fence ∈ value.operation.fence, fence.jobId ≠ value.job.jobId)
      "History fence must retain its exact job identity"
    ++ value.operationIssues

def Accepted (value : PolicyEvaluationJobHistoryEntryDefinition) : Prop :=
  value.Shape ∧ value.issues = []

instance (value : PolicyEvaluationJobHistoryEntryDefinition) : Decidable value.Accepted :=
  inferInstanceAs (Decidable (_ ∧ _))

end PolicyEvaluationJobHistoryEntryDefinition

structure PolicyEvaluationJobHistoryEntry where
  definition : PolicyEvaluationJobHistoryEntryDefinition
  entrySha256 : String
  deriving DecidableEq

def PolicyEvaluationJobHistoryEntry.Accepted (value : PolicyEvaluationJobHistoryEntry) : Prop :=
  value.definition.Accepted ∧ Sha256Schema value.entrySha256

instance (value : PolicyEvaluationJobHistoryEntry) : Decidable value.Accepted :=
  inferInstanceAs (Decidable (_ ∧ _))

structure PolicyEvaluationJobHistoryHead where
  scope : EvidenceScope
  job : PolicyEvaluationJobReference
  sequence : Nat
  entrySha256 : String
  graphSha256 : String
  deriving DecidableEq

namespace PolicyEvaluationJobHistoryHead

@[mk_iff]
structure Accepted (value : PolicyEvaluationJobHistoryHead) : Prop where
  scope : EvidenceScopeSchema value.scope
  job : value.job.Accepted
  sequence : boundedInteger 0 (maxPolicyEvaluationJobHistoryEntries - 1) value.sequence
  entrySha256 : Sha256Schema value.entrySha256
  graphSha256 : Sha256Schema value.graphSha256

instance (value : PolicyEvaluationJobHistoryHead) : Decidable value.Accepted :=
  decidable_of_iff _ (accepted_iff value).symm

end PolicyEvaluationJobHistoryHead

structure PolicyEvaluationJobHistoryPage where
  head : PolicyEvaluationJobHistoryHead
  pageIndex : Nat
  entries : List PolicyEvaluationJobHistoryEntry
  deriving DecidableEq

namespace PolicyEvaluationJobHistoryPage

def first (value : PolicyEvaluationJobHistoryPage) : Nat :=
  value.pageIndex * policyEvaluationJobHistoryPageSize

-- A page past the head has a negative count.
def count (value : PolicyEvaluationJobHistoryPage) : Int :=
  min (policyEvaluationJobHistoryPageSize : Int) (value.head.sequence + 1 - value.first)

@[mk_iff]
structure Shape (value : PolicyEvaluationJobHistoryPage) : Prop where
  head : value.head.Accepted
  pageIndex :
    boundedInteger 0
      (maxPolicyEvaluationJobHistoryEntries / policyEvaluationJobHistoryPageSize - 1)
      value.pageIndex
  entries : ∀ entry ∈ value.entries, entry.Accepted
  entries_length : boundedInteger 1 policyEvaluationJobHistoryPageSize value.entries.length

instance (value : PolicyEvaluationJobHistoryPage) : Decidable value.Shape :=
  decidable_of_iff _ (shape_iff value).symm

def entryIssues (value : PolicyEvaluationJobHistoryPage)
    (previous : Option PolicyEvaluationJobHistoryEntry) (index : Nat)
    (entry : PolicyEvaluationJobHistoryEntry) : List String :=
  let definition := entry.definition
  issue
      (definition.sequence ≠ value.first + index
        ∨ definition.job ≠ value.head.job
        ∨ definition.scope.tenantId ≠ value.head.scope.tenantId
        ∨ definition.scope.projectId ≠ value.head.scope.projectId
        ∨ definition.scope.environmentId ≠ value.head.scope.environmentId)
      "History page cannot omit, reorder or substitute exact scoped entries"
    ++ previous.elim [] (fun previous =>
      issue
        (definition.predecessorEntrySha256 ≠ some previous.entrySha256
          ∨ definition.previousGraphSha256 ≠ some previous.definition.graphSha256
          ∨ definition.previousStatus ≠ some previous.definition.status
          ∨ definition.committedAt.orderKey < previous.definition.committedAt.orderKey)
        "History page requires complete predecessor continuity")

def entriesIssues (value : PolicyEvaluationJobHistoryPage)
    : Option PolicyEvaluationJobHistoryEntry → Nat → List PolicyEvaluationJobHistoryEntry →
        List String
  | _, _, [] => []
  | previous, index, entry :: entries =>
    value.entryIssues previous index entry ++ value.entriesIssues (some entry) (index + 1) entries

def issues (value : PolicyEvaluationJobHistoryPage) : List String :=
  issue (value.count ≤ 0 ∨ (value.entries.length : Int) ≠ value.count)
      "History preserves complete fixed page boundaries"
    ++ value.entriesIssues none 0 value.entries
    ++ issue
      (∃ last ∈ value.entries.getLast?,
        last.definition.sequence = value.head.sequence
          ∧ (last.entrySha256 ≠ value.head.entrySha256
              ∨ last.definition.graphSha256 ≠ value.head.graphSha256))
      "Final history page must reach its exact retained head"

def Accepted (value : PolicyEvaluationJobHistoryPage) : Prop :=
  value.Shape ∧ value.issues = []

instance (value : PolicyEvaluationJobHistoryPage) : Decidable value.Accepted :=
  inferInstanceAs (Decidable (_ ∧ _))

end PolicyEvaluationJobHistoryPage

end ProofStack
