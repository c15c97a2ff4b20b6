import ProofStack.Policy.History
import ProofStack.Policy.SchedulerAccepted
import ProofStack.StateMachine.Run

/-!
This module contains the laws of whole runs of the scheduler transitions.
-/

namespace ProofStack
namespace Policy

open PolicyEvaluationTime PolicyEvaluationJobSnapshot StateMachine

structure LeaseStep (before after : PolicyEvaluationJob) : Prop where
  lastFencingToken_le : before.lastFencingToken ≤ after.lastFencingToken
  lease : ∀ renewed ∈ after.currentLease,
    before.lastFencingToken < renewed.mutationFence.fencingToken
      ∨ ∃ lease ∈ before.currentLease,
          renewed.mutationFence = lease.mutationFence
            ∧ lease.expiresAt.orderKey ≤ renewed.expiresAt.orderKey

section Lease

variable {before after : PolicyEvaluationJobSnapshot} {now : PolicyEvaluationTime}

theorem LeaseStep.refl (job : PolicyEvaluationJob) : LeaseStep job job where
  lastFencingToken_le := Nat.le_refl _
  lease := by
    intro lease hlease
    exact .inr ⟨lease, hlease, rfl, le_refl _⟩

theorem LeaseStep.of_lease_eq {before after : PolicyEvaluationJob}
    (htoken : after.lastFencingToken = before.lastFencingToken)
    (hlease : after.currentLease = before.currentLease)
    : LeaseStep before after where
  lastFencingToken_le := by rw [htoken]
  lease := by
    intro lease hmem
    rw [hlease] at hmem
    exact .inr ⟨lease, hmem, rfl, le_refl _⟩

theorem Closing.leaseStep {closure : PolicyEvaluationClosure} (h : Closing before after now closure)
    : LeaseStep before.job after.job where
  lastFencingToken_le := by rw [h.lastFencingToken]
  lease := by
    rw [h.currentLease]
    simp

theorem startAttempt_leaseStep {snapshot : PolicyEvaluationJobSnapshot}
    {fence : PolicyEvaluationWorkerMutationFence} (h : Claims snapshot now fence)
    : LeaseStep snapshot.job (startAttempt snapshot now fence).job where
  lastFencingToken_le := by
    show snapshot.job.lastFencingToken ≤ fence.fencingToken
    rw [h.fencingToken]
    exact Nat.le_succ _
  lease := by
    intro renewed hrenewed
    rw [startAttempt_currentLease] at hrenewed
    cases hrenewed
    left
    show snapshot.job.lastFencingToken < fence.fencingToken
    rw [h.fencingToken]
    exact Nat.lt_succ_self _

theorem renewLease_leaseStep {snapshot : PolicyEvaluationJobSnapshot} {recoveryEpoch : Nat}
    {fence : PolicyEvaluationWorkerMutationFence} {lease : PolicyEvaluationLease}
    (hs : snapshot.Consistent) (h : Live snapshot.job now recoveryEpoch fence lease)
    : LeaseStep snapshot.job (renewLease snapshot now lease).job where
  lastFencingToken_le := Nat.le_refl _
  lease := by
    intro renewed hrenewed
    cases hrenewed
    exact .inr ⟨lease, h.current, rfl, le_renewLease_expiresAt hs h⟩

end Lease

namespace PolicyEvaluationTransition

def ClosesUnknown : PolicyEvaluationTransition → Prop
  | .settleAcquisition _ _ _ _ usage => usage = none
  | .cancel _ | .interrupt _ _ _ _ | .reclaim _ _ | .recover _ _ | .exhaustHistory _ => True
  | _ => False

variable {transition : PolicyEvaluationTransition} {snapshot draft : PolicyEvaluationJobSnapshot}

theorem draft_closing (hcloses : transition.ClosesUnknown)
    (h : transition.draft snapshot = .ok draft)
    : draft = snapshot ∨ ∃ closure, Closing snapshot draft transition.now closure := by
  cases transition with
  | settleAcquisition now epoch fence allowanceId usage =>
    obtain ⟨-, -, -, allowance, -, h⟩ := settlePolicyEvaluationAcquisition.draft_eq_ok h
    rcases h with ⟨observed, husage, -⟩ | ⟨-, rfl⟩
    . have hnone : usage = none := hcloses
      rw [hnone] at husage
      contradiction
    . right
      rw [← advanceEpoch_closeUncertain_self]
      exact ⟨_, terminate_closing snapshot now _ (Nat.le_refl _) _ _⟩
  | cancel intent =>
    obtain ⟨-, -, -, -, h⟩ := cancelPolicyEvaluationJob.draft_eq_ok.mp h
    rcases h with ⟨previous, -, -, -, -, rfl⟩ | ⟨-, -, -, -, rfl⟩
    . exact .inl rfl
    . exact .inr ⟨_, cancelledWith_closing snapshot intent⟩
  | interrupt now epoch fence reason =>
    obtain ⟨-, -, -, -, rfl⟩ := interruptPolicyEvaluationJob.draft_eq_ok h
    right
    rw [← advanceEpoch_closeUncertain_self]
    split
    . exact ⟨_, terminate_closing snapshot now _ (Nat.le_refl _) _ _⟩
    . exact ⟨_, retryOrFail_closing snapshot now _ (Nat.le_refl _) _⟩
  | reclaim now epoch =>
    obtain ⟨-, -, h⟩ := reclaimPolicyEvaluationJob.draft_eq_ok h
    rcases h with ⟨-, rfl⟩ | ⟨-, -, -, ⟨-, rfl⟩ | ⟨-, rfl⟩⟩
    . exact .inl rfl
    . right
      rw [← advanceEpoch_closeUncertain_self]
      exact ⟨_, terminate_closing snapshot now _ (Nat.le_refl _) _ _⟩
    . right
      rw [← advanceEpoch_closeUncertain_self]
      split
      . exact ⟨_, terminate_closing snapshot now _ (Nat.le_refl _) _ _⟩
      . exact ⟨_, retryOrFail_closing snapshot now _ (Nat.le_refl _) _⟩
  | recover now epoch =>
    obtain ⟨-, -, hepoch, -, h⟩ := recoverPolicyEvaluationJob.draft_eq_ok h
    rcases h with ⟨-, rfl⟩ | ⟨-, -, ⟨-, rfl⟩ | rfl | ⟨-, -, rfl⟩ | ⟨hlease, -, -, rfl⟩⟩
    . exact .inl rfl
    . exact .inr ⟨_, terminate_closing snapshot now _ hepoch.le _ _⟩
    . exact .inr ⟨_, terminate_closing snapshot now _ hepoch.le _ _⟩
    . exact .inr ⟨_, retryOrFail_closing snapshot now _ hepoch.le _⟩
    . exact .inr ⟨_, recoverIdle_closing snapshot now _ hepoch.le hlease _⟩
  | exhaustHistory now =>
    obtain ⟨-, -, -, -, rfl⟩ := exhaustPolicyEvaluationJobHistory.draft_eq_ok h
    right
    rw [← advanceEpoch_closeUncertain_self]
    exact ⟨_, terminate_closing snapshot now _ (Nat.le_refl _) _ _⟩
  | _ => exact hcloses.elim

theorem draft_leaseStep (h : transition.draft snapshot = .ok draft)
    : LeaseStep snapshot.job draft.job := by
  by_cases hcloses : transition.ClosesUnknown
  . rcases draft_closing hcloses h with rfl | ⟨closure, hclosing⟩
    . exact LeaseStep.refl _
    . exact hclosing.leaseStep
  cases transition with
  | claim now epoch attemptId leaseId workerId =>
    obtain ⟨-, fence, hclaims, -, -, -, -, rfl⟩ := claimPolicyEvaluationJob.draft_eq_ok h
    exact startAttempt_leaseStep hclaims
  | heartbeat now epoch fence =>
    obtain ⟨hs, lease, hlive, -, -, rfl⟩ := heartbeatPolicyEvaluationJob.draft_eq_ok h
    exact renewLease_leaseStep (accepted_iff.mp hs) hlive
  | reserveUsage now epoch fence delta =>
    obtain ⟨-, -, -, -, -, rfl⟩ := reservePolicyEvaluationUsage.draft_eq_ok h
    exact LeaseStep.of_lease_eq rfl rfl
  | reserveAcquisition now epoch fence allowanceId =>
    obtain ⟨-, -, -, -, -, -, -, rfl⟩ := reservePolicyEvaluationAcquisition.draft_eq_ok h
    exact LeaseStep.of_lease_eq rfl rfl
  | settleAcquisition now epoch fence allowanceId usage =>
    obtain ⟨-, -, -, allowance, -, h⟩ := settlePolicyEvaluationAcquisition.draft_eq_ok h
    rcases h with ⟨observed, -, -, rfl⟩ | ⟨hnone, -⟩
    . exact LeaseStep.of_lease_eq rfl rfl
    . exact (hcloses hnone).elim
  | sealSnapshot now epoch fence reference =>
    obtain ⟨-, -, -, -, -, -, -, rfl⟩ := sealPolicyEvaluationJob.draft_eq_ok h
    exact LeaseStep.of_lease_eq rfl rfl
  | startComputation now epoch fence =>
    obtain ⟨-, -, -, -, rfl⟩ := startPolicyEvaluationComputation.draft_eq_ok h
    exact LeaseStep.of_lease_eq rfl rfl
  | complete now epoch fence result ruleCount =>
    obtain ⟨-, -, -, -, -, -, rfl⟩ := completePolicyEvaluationJob.draft_eq_ok h
    constructor
    . exact Nat.le_refl _
    . simp [completedWith, terminate]
  | _ => exact (hcloses trivial).elim

theorem draft_lastFencingToken
    (hclaim : ∀ now epoch attemptId leaseId workerId,
      transition ≠ .claim now epoch attemptId leaseId workerId)
    (h : transition.draft snapshot = .ok draft)
    : draft.job.lastFencingToken = snapshot.job.lastFencingToken := by
  by_cases hcloses : transition.ClosesUnknown
  . rcases draft_closing hcloses h with rfl | ⟨closure, hclosing⟩
    . rfl
    . exact hclosing.lastFencingToken
  cases transition with
  | claim now epoch attemptId leaseId workerId => exact (hclaim _ _ _ _ _ rfl).elim
  | heartbeat now epoch fence =>
    obtain ⟨-, lease, -, -, -, rfl⟩ := heartbeatPolicyEvaluationJob.draft_eq_ok h
    rfl
  | reserveUsage now epoch fence delta =>
    obtain ⟨-, -, -, -, -, rfl⟩ := reservePolicyEvaluationUsage.draft_eq_ok h
    rfl
  | reserveAcquisition now epoch fence allowanceId =>
    obtain ⟨-, -, -, -, -, -, -, rfl⟩ := reservePolicyEvaluationAcquisition.draft_eq_ok h
    rfl
  | settleAcquisition now epoch fence allowanceId usage =>
    obtain ⟨-, -, -, allowance, -, h⟩ := settlePolicyEvaluationAcquisition.draft_eq_ok h
    rcases h with ⟨observed, -, -, rfl⟩ | ⟨hnone, -⟩
    . rfl
    . exact (hcloses hnone).elim
  | sealSnapshot now epoch fence reference =>
    obtain ⟨-, -, -, -, -, -, -, rfl⟩ := sealPolicyEvaluationJob.draft_eq_ok h
    rfl
  | startComputation now epoch fence =>
    obtain ⟨-, -, -, -, rfl⟩ := startPolicyEvaluationComputation.draft_eq_ok h
    rfl
  | complete now epoch fence result ruleCount =>
    obtain ⟨-, -, -, -, -, -, rfl⟩ := completePolicyEvaluationJob.draft_eq_ok h
    rfl
  | _ => exact (hcloses trivial).elim

theorem draft_live {fence : PolicyEvaluationWorkerMutationFence}
    (hfence : transition.fence = some fence) (h : transition.draft snapshot = .ok draft)
    : ∃ epoch lease, Live snapshot.job transition.now epoch fence lease := by
  cases transition <;> cases hfence
  case heartbeat now epoch =>
    obtain ⟨-, lease, hlive, -⟩ := heartbeatPolicyEvaluationJob.draft_eq_ok h
    exact ⟨epoch, lease, hlive⟩
  case reserveUsage now epoch delta =>
    obtain ⟨-, ⟨lease, hlive⟩, -⟩ := reservePolicyEvaluationUsage.draft_eq_ok h
    exact ⟨epoch, lease, hlive⟩
  case reserveAcquisition now epoch allowanceId =>
    obtain ⟨-, ⟨lease, hlive⟩, -⟩ := reservePolicyEvaluationAcquisition.draft_eq_ok h
    exact ⟨epoch, lease, hlive⟩
  case settleAcquisition now epoch allowanceId usage =>
    obtain ⟨-, ⟨lease, hlive⟩, -⟩ := settlePolicyEvaluationAcquisition.draft_eq_ok h
    exact ⟨epoch, lease, hlive⟩
  case sealSnapshot now epoch reference =>
    obtain ⟨-, ⟨lease, hlive⟩, -⟩ := sealPolicyEvaluationJob.draft_eq_ok h
    exact ⟨epoch, lease, hlive⟩
  case startComputation now epoch =>
    obtain ⟨-, ⟨lease, hlive⟩, -⟩ := startPolicyEvaluationComputation.draft_eq_ok h
    exact ⟨epoch, lease, hlive⟩
  case complete now epoch result ruleCount =>
    obtain ⟨-, ⟨lease, hlive⟩, -⟩ := completePolicyEvaluationJob.draft_eq_ok h
    exact ⟨epoch, lease, hlive⟩
  case interrupt now epoch reason =>
    obtain ⟨-, ⟨lease, hlive⟩, -⟩ := interruptPolicyEvaluationJob.draft_eq_ok h
    exact ⟨epoch, lease, hlive⟩

def exec (snapshot : PolicyEvaluationJobSnapshot) (transition : PolicyEvaluationTransition)
    : PolicyEvaluationJobSnapshot :=
  match transition.apply snapshot with
  | .ok next => next
  | .error _ => snapshot

theorem exec_cases (snapshot : PolicyEvaluationJobSnapshot) (transition : PolicyEvaluationTransition)
    : exec snapshot transition = snapshot
        ∨ (Step snapshot (exec snapshot transition) transition.now
            ∧ (exec snapshot transition).Accepted) := by
  unfold exec
  cases happly : transition.apply snapshot with
  | error => exact .inl rfl
  | ok next =>
    rw [apply_eq_ok] at happly
    rcases draft_step happly.1 with heq | hstep
    . exact .inl heq
    . exact .inr ⟨hstep, happly.2⟩

theorem exec_accepted (snapshot : PolicyEvaluationJobSnapshot)
    (transition : PolicyEvaluationTransition) (h : snapshot.Accepted)
    : (exec snapshot transition).Accepted := by
  rcases exec_cases snapshot transition with heq | ⟨-, haccepted⟩
  . rw [heq]
    exact h
  . exact haccepted

end PolicyEvaluationTransition

section Budget

open PolicyEvaluationTransition

structure ChargesWhole (before after : PolicyEvaluationUsage)
    (limits : PolicyEvaluationAcquisitionLimits) : Prop where
  reads : after.reads = before.reads + limits.reads
  records : after.records = before.records + limits.records
  references : after.references = before.references + limits.references
  bytes :
    after.recordBytes + after.referenceBytes
      = before.recordBytes + before.referenceBytes + limits.recordAndReferenceBytes

structure FillsLimits (limits : PolicyEvaluationExecutionLimits) (usage : PolicyEvaluationUsage)
    (reserved : PolicyEvaluationAcquisitionLimits) : Prop where
  reads : usage.reads + reserved.reads = limits.maxAcquisitionRecords
  records : usage.records + reserved.records = limits.maxAcquisitionRecords
  references : usage.references + reserved.references = limits.maxAcquisitionRecords
  bytes :
    usage.recordBytes + usage.referenceBytes + reserved.recordAndReferenceBytes
      = limits.maxAcquisitionRecordBytes

variable {transition : PolicyEvaluationTransition} {snapshot draft : PolicyEvaluationJobSnapshot}
variable {allowance : PolicyEvaluationAcquisitionAllowance}

theorem chargeUncertain_chargesWhole
    (hallowance : snapshot.allowance = some allowance)
    : ChargesWhole snapshot.usage (chargeUncertainPolicyEvaluationAcquisition snapshot).usage
        allowance.limits := by
  rw [chargeUncertain_of_some hallowance]
  constructor
  . rfl
  . rfl
  . rfl
  . simp only [charge, fullAllowanceUsage]
    omega

theorem draft_keeps_allowance (hknown : ¬transition.ClosesUnknown)
    (h : transition.draft snapshot = .ok draft)
    (hallowance : snapshot.allowance = some allowance)
    : draft.allowance = some allowance
        ∨ ∃ now epoch fence allowanceId observed,
            transition = .settleAcquisition now epoch fence allowanceId (some observed)
              ∧ draft.usage = (charge snapshot observed).usage := by
  cases transition with
  | claim now epoch attemptId leaseId workerId =>
    obtain ⟨-, fence, -, -, -, -, -, rfl⟩ := claimPolicyEvaluationJob.draft_eq_ok h
    exact .inl hallowance
  | heartbeat now epoch fence =>
    obtain ⟨-, lease, -, -, -, rfl⟩ := heartbeatPolicyEvaluationJob.draft_eq_ok h
    exact .inl hallowance
  | reserveUsage now epoch fence delta =>
    obtain ⟨-, -, -, -, -, rfl⟩ := reservePolicyEvaluationUsage.draft_eq_ok h
    exact .inl hallowance
  | reserveAcquisition now epoch fence allowanceId =>
    obtain ⟨-, -, -, -, hnone, -⟩ := reservePolicyEvaluationAcquisition.draft_eq_ok h
    rw [hnone] at hallowance
    contradiction
  | settleAcquisition now epoch fence allowanceId usage =>
    obtain ⟨-, -, -, reserved, -, h⟩ := settlePolicyEvaluationAcquisition.draft_eq_ok h
    rcases h with ⟨observed, rfl, -, rfl⟩ | ⟨hnone, -⟩
    . exact .inr ⟨now, epoch, fence, allowanceId, observed, rfl, rfl⟩
    . exact (hknown hnone).elim
  | sealSnapshot now epoch fence reference =>
    obtain ⟨-, -, -, -, -, -, -, rfl⟩ := sealPolicyEvaluationJob.draft_eq_ok h
    exact .inl hallowance
  | startComputation now epoch fence =>
    obtain ⟨-, -, -, -, rfl⟩ := startPolicyEvaluationComputation.draft_eq_ok h
    exact .inl hallowance
  | complete now epoch fence result ruleCount =>
    obtain ⟨-, -, -, -, -, -, rfl⟩ := completePolicyEvaluationJob.draft_eq_ok h
    exact .inl hallowance
  | _ => exact (hknown trivial).elim

theorem exec_usage_le (snapshot : PolicyEvaluationJobSnapshot)
    (transition : PolicyEvaluationTransition)
    : snapshot.usage ≤ (exec snapshot transition).usage
        ∧ (exec snapshot transition).request = snapshot.request := by
  rcases exec_cases snapshot transition with heq | ⟨hstep, -⟩
  . rw [heq]
    exact ⟨le_refl _, rfl⟩
  . exact ⟨hstep.usage_le, hstep.request⟩

theorem later_usage_le {earlier later : PolicyEvaluationJobSnapshot} (h : Later exec earlier later)
    : earlier.usage ≤ later.usage ∧ later.request = earlier.request := by
  apply Later.relates (P := fun _ => True)
    (R := fun earlier later => earlier.usage ≤ later.usage ∧ later.request = earlier.request) _ _ _ _
    h trivial
  . intro _ _ _
    trivial
  . intro snapshot
    exact ⟨le_refl _, rfl⟩
  . intro first second third h12 h23
    exact ⟨h12.1.trans h23.1, h23.2.trans h12.2⟩
  . intro snapshot transition _
    exact exec_usage_le snapshot transition

theorem Consistent.fillsLimits {value : PolicyEvaluationJobSnapshot} (h : value.Consistent)
    (hallowance : value.allowance = some allowance)
    : FillsLimits value.request.limits value.usage allowance.limits := by
  have hconsistent := h.allowance allowance hallowance
  exact ⟨hconsistent.limits_reads, hconsistent.limits_records, hconsistent.limits_references,
    hconsistent.limits_bytes⟩

theorem usage_never_refunded {codec : PolicyEvaluationCodec} {request : PolicyEvaluationRequest}
    {jobId : String} {now deadlineAt : PolicyEvaluationTime} {recoveryEpoch : Nat}
    (hcreated : (createdSnapshot codec request jobId now deadlineAt recoveryEpoch).Accepted)
    {earlier later : PolicyEvaluationJobSnapshot}
    (hearlier : Later exec (createdSnapshot codec request jobId now deadlineAt recoveryEpoch) earlier)
    (hlater : Later exec earlier later)
    : earlier.usage ≤ later.usage
        ∧ WithinLimits request.limits later.usage
        ∧ (∀ allowance ∈ later.allowance,
            FillsLimits request.limits later.usage allowance.limits)
        ∧ ∀ (transition : PolicyEvaluationTransition) (next : PolicyEvaluationJobSnapshot),
            transition.apply later = .ok next → next ≠ later →
            ∀ allowance ∈ later.allowance,
              (transition.ClosesUnknown →
                ChargesWhole later.usage next.usage allowance.limits ∧ next.allowance = none)
              ∧ (¬transition.ClosesUnknown →
                  next.allowance = some allowance
                    ∨ ∃ now epoch fence allowanceId observed,
                        transition = .settleAcquisition now epoch fence allowanceId (some observed)
                          ∧ next.usage = (charge later observed).usage) := by
  have haccepted := Later.preserves exec_accepted (hearlier.trans hlater) hcreated
  have hconsistent := accepted_iff.mp haccepted
  have hrequest : later.request = request := (later_usage_le (hearlier.trans hlater)).2
  rw [← hrequest]
  refine ⟨(later_usage_le hlater).1, hconsistent.count.usage, ?_, ?_⟩
  . intro allowance hallowance
    exact Consistent.fillsLimits hconsistent hallowance
  . intro transition next happly hne allowance hallowance
    rw [apply_eq_ok] at happly
    constructor
    . intro hcloses
      rcases draft_closing hcloses happly.1 with heq | ⟨closure, hclosing⟩
      . contradiction
      . rw [hclosing.usage]
        exact ⟨chargeUncertain_chargesWhole hallowance, hclosing.allowance⟩
    . intro hknown
      exact draft_keeps_allowance hknown happly.1 hallowance

def sampleCodec : PolicyEvaluationCodec where
  requestDefinitionSha256 := fun _ _ => sampleDigest
  jobDefinitionSha256 := fun _ _ => sampleDigest
  graphSha256 := fun _ => sampleDigest
  entrySha256 := fun _ => sampleDigest
  entryByteLength := fun _ => 1024
  pageByteLength := fun _ => 1024

def sampleClaim : PolicyEvaluationTransition :=
  .claim (secondsAfterEpoch 1 sampleSecond_le) 0 "attempt_one" "lease_one" "worker_one"

theorem usage_never_refunded_sampleClaimed
    : sampleQueued.Accepted
        ∧ Later exec sampleQueued (withSampleAllowance sampleClaimed)
        ∧ FillsLimits sampleRequest.limits (withSampleAllowance sampleClaimed).usage
            ⟨16, 16, 16, 4096⟩ := by
  have hcreated : sampleQueued.Accepted := sampleQueued_accepted
  have hclaimed : exec sampleQueued sampleClaim = sampleClaimed := by
    rw [exec, sampleClaim, apply_sampleQueued]
  have hreserved : exec sampleClaimed sampleReserve = withSampleAllowance sampleClaimed := by
    have hcovered : sampleReserve.Covered sampleClaimed := rfl
    rw [exec, (draft_parses hcovered draft_sampleReserve_sampleClaimed).2]
  have hlater : Later exec sampleQueued (withSampleAllowance sampleClaimed) := by
    rw [← hreserved, ← hclaimed]
    exact ((Later.refl _).next sampleClaim).next sampleReserve
  have hrun := @usage_never_refunded sampleCodec sampleRequest "job_one"
    (secondsAfterEpoch 0 (by decide)) (secondsAfterEpoch 120 (by decide)) 0 hcreated _ _
    (Later.refl _) hlater
  exact ⟨hcreated, hlater, hrun.2.2.1 _ rfl⟩

end Budget

end Policy
end ProofStack
