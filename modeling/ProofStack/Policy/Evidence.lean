import ProofStack.Policy.History

/-!
This module contains the sealed input and the computed result that a stored job retains.
-/

namespace ProofStack
namespace Policy

structure PolicyEvaluationSnapshotRecord (Definition : Type) where
  definition : Definition
  scope : EvidenceScope
  definitionSha256 : String
  mutationFence : PolicyEvaluationWorkerMutationFence
  sealedAt : PolicyEvaluationTime
  recordedAt : PolicyEvaluationTime
  sealedByPrincipalId : String

structure PolicyEvaluationResultRecord (Definition : Type) where
  definition : Definition
  scope : EvidenceScope
  definitionSha256 : String
  mutationFence : PolicyEvaluationWorkerMutationFence
  recordedAt : PolicyEvaluationTime
  recordedByPrincipalId : String

structure PolicyEvaluationOwner where
  scope : EvidenceScope
  jobId : String
  request : PolicyEvaluationRequestReference
  snapshot : PolicyEvaluationSnapshotReference

structure PolicyEvaluationSnapshotInputs where
  isConfiguredVersion : Bool
  request : PolicyEvaluationRequest

structure PreparedPolicyEvaluation (Definition : Type) where
  ruleCount : Nat
  compute : Except PolicyEvaluationError Definition

structure PolicyEvaluationEvidence extends PolicyEvaluationCodec where
  SnapshotDefinition : Type
  PageSet : Type
  ResultDefinition : Type
  snapshotDefinitionDecidableEq : DecidableEq SnapshotDefinition
  pageSetDecidableEq : DecidableEq PageSet
  resultDefinitionDecidableEq : DecidableEq ResultDefinition
  snapshotId : SnapshotDefinition → String
  snapshotRequest : SnapshotDefinition → PolicyEvaluationRequestReference
  snapshotDefinitionSha256 : EvidenceScope → SnapshotDefinition → String
  pageSetDefinition : PageSet → SnapshotDefinition
  pageSetDefinitionSha256 : PageSet → String
  evaluationId : ResultDefinition → String
  ruleCount : ResultDefinition → Nat
  resultDefinitionSha256 : EvidenceScope → ResultDefinition → String
  policyEvaluationSnapshotSchema : PolicyEvaluationSnapshotRecord SnapshotDefinition → Bool
  policyEvaluationSnapshotPageSetSchema : PageSet → Bool
  policyEvaluationSchema : PolicyEvaluationResultRecord ResultDefinition → Bool
  validatePolicyEvaluationSnapshot :
    PolicyEvaluationOwner → PageSet → Except PolicyEvaluationError PolicyEvaluationSnapshotInputs
  prepareSealedPolicyEvaluation :
    String → PolicyEvaluationOwner → PolicyEvaluationSnapshotRecord SnapshotDefinition → PageSet →
      Except PolicyEvaluationError (PreparedPolicyEvaluation ResultDefinition)

namespace PolicyEvaluationEvidence

instance (evidence : PolicyEvaluationEvidence) : DecidableEq evidence.SnapshotDefinition :=
  evidence.snapshotDefinitionDecidableEq

instance (evidence : PolicyEvaluationEvidence) : DecidableEq evidence.PageSet :=
  evidence.pageSetDecidableEq

instance (evidence : PolicyEvaluationEvidence) : DecidableEq evidence.ResultDefinition :=
  evidence.resultDefinitionDecidableEq

abbrev Snapshot (evidence : PolicyEvaluationEvidence) : Type :=
  PolicyEvaluationSnapshotRecord evidence.SnapshotDefinition

abbrev Result (evidence : PolicyEvaluationEvidence) : Type :=
  PolicyEvaluationResultRecord evidence.ResultDefinition

end PolicyEvaluationEvidence

section Snapshot

variable (evidence : PolicyEvaluationEvidence)

def validatePolicyEvaluationSnapshotRecord (owner : PolicyEvaluationOwner)
    (record : evidence.Snapshot) (pageSet : evidence.PageSet)
    : Except PolicyEvaluationError PolicyEvaluationSnapshotInputs := do
  failIf (evidence.policyEvaluationSnapshotSchema record = false)
    (.snapshotIntegrity "invalid_snapshot")
  failIf
    (record.scope ≠ owner.scope
      ∨ evidence.snapshotRequest record.definition ≠ owner.request
      ∨ record.mutationFence.jobId ≠ owner.jobId
      ∨ evidence.snapshotId record.definition ≠ owner.snapshot.snapshotId
      ∨ record.definitionSha256 ≠ owner.snapshot.definitionSha256
      ∨ record.sealedByPrincipalId ≠ record.mutationFence.workerId)
    (.snapshotIntegrity "reference_mismatch")
  let inputs ← evidence.validatePolicyEvaluationSnapshot owner pageSet
  failIf (record.definition ≠ evidence.pageSetDefinition pageSet)
    (.snapshotIntegrity "invalid_inputs")
  return inputs

structure PolicyEvaluationSnapshotReadIdentity where
  scope : EvidenceScope
  job : PolicyEvaluationJobReference
  request : PolicyEvaluationRequestReference
  snapshot : PolicyEvaluationSnapshotReference

def policyEvaluationSnapshotReadIdentity (expected : PolicyEvaluationSnapshotReadIdentity)
    : Except PolicyEvaluationError Unit := do
  parseWith (EvidenceScopeSchema expected.scope)
  parseWith expected.job.Accepted
  parseWith expected.request.Accepted
  parseWith expected.snapshot.Accepted
  failIf
    (evidence.jobDefinitionSha256 expected.scope ⟨expected.job.jobId, expected.request⟩
      ≠ expected.job.definitionSha256)
    (.snapshotIntegrity "reference_mismatch")

def validatePolicyEvaluationStoredSnapshotHeader (expected : PolicyEvaluationSnapshotReadIdentity)
    (record : evidence.Snapshot) : Except PolicyEvaluationError Unit := do
  policyEvaluationSnapshotReadIdentity evidence expected
  failIf (evidence.policyEvaluationSnapshotSchema record = false)
    (.snapshotIntegrity "invalid_snapshot")
  failIf
    (record.scope ≠ expected.scope
      ∨ record.mutationFence.jobId ≠ expected.job.jobId
      ∨ evidence.snapshotRequest record.definition ≠ expected.request
      ∨ evidence.snapshotId record.definition ≠ expected.snapshot.snapshotId
      ∨ record.definitionSha256 ≠ expected.snapshot.definitionSha256
      ∨ record.sealedByPrincipalId ≠ record.mutationFence.workerId)
    (.snapshotIntegrity "reference_mismatch")
  failIf
    (evidence.snapshotDefinitionSha256 expected.scope record.definition ≠ record.definitionSha256)
    (.snapshotIntegrity "digest_mismatch")

def validatePolicyEvaluationStoredSnapshotJob (expected : PolicyEvaluationSnapshotReadIdentity)
    (root : evidence.Snapshot) (job : PolicyEvaluationJobSnapshot)
    : Except PolicyEvaluationError Unit := do
  policyEvaluationSnapshotReadIdentity evidence expected
  validatePolicyEvaluationStoredSnapshotHeader evidence expected root
  let job ←
    validatePolicyEvaluationJobSnapshotRecord evidence.toPolicyEvaluationCodec expected.scope
      expected.job job
  let owning :=
    job.attempts.find? (fun attempt : PolicyEvaluationAttempt =>
      attempt.mutationFence.attemptId = root.mutationFence.attemptId)
  failIf
    (job.job.request ≠ expected.request
      ∨ job.job.snapshot ≠ some expected.snapshot
      ∨ ∀ attempt ∈ owning,
          attempt.mutationFence ≠ root.mutationFence
            ∨ attempt.snapshot ≠ some expected.snapshot
            ∨ root.sealedAt.orderKey < attempt.startedAt.orderKey
            ∨ root.recordedAt.orderKey ≥ attempt.deadlineAt.orderKey
            ∨ ∃ closure ∈ attempt.closure,
                root.recordedAt.orderKey > closure.committedAt.orderKey)
    (.snapshotIntegrity "reference_mismatch")

end Snapshot

section Result

variable (evidence : PolicyEvaluationEvidence)

structure PolicyEvaluationResultOwner extends PolicyEvaluationOwner where
  result : PolicyEvaluationResultReference
  fence : PolicyEvaluationWorkerMutationFence
  completedAt : PolicyEvaluationTime

def validatePolicyEvaluationResultRecord (expected : PolicyEvaluationResultOwner)
    (record : evidence.Result) (snapshotRecord : evidence.Snapshot) (pageSet : evidence.PageSet)
    : Except PolicyEvaluationError Unit :=
  rethrowAs (.other "Invalid owning policy result") do
    parseWith (evidence.policyEvaluationSchema record = true)
    parseWith (evidence.policyEvaluationSnapshotSchema snapshotRecord = true)
    failIf
      (record.scope ≠ expected.scope
        ∨ record.mutationFence.jobId ≠ expected.jobId
        ∨ expected.fence.jobId ≠ expected.jobId
        ∨ evidence.evaluationId record.definition ≠ expected.result.evaluationId
        ∨ record.definitionSha256 ≠ expected.result.definitionSha256
        ∨ record.recordedAt ≠ expected.completedAt
        ∨ record.recordedByPrincipalId ≠ expected.fence.workerId
        ∨ record.mutationFence ≠ { expected.fence with jobId := record.mutationFence.jobId })
      (.other "Stored result substituted owning scope, receipt or execution identity")
    failIf
      (evidence.resultDefinitionSha256 record.scope record.definition ≠ record.definitionSha256)
      (.other "Result canonical definition digest mismatch")
    let prepared ←
      evidence.prepareSealedPolicyEvaluation (evidence.evaluationId record.definition)
        expected.toPolicyEvaluationOwner snapshotRecord pageSet
    let definition ← prepared.compute
    failIf (record.definition ≠ definition)
      (.other "Result differs from deterministic sealed evidence")
    failIf (record.recordedAt.orderKey < snapshotRecord.sealedAt.orderKey)
      (.other "Result receipt precedes its owning seal")

end Result

end Policy
end ProofStack
