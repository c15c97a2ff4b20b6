import ProofStack.Contracts.PolicyEvaluation.JobSnapshotLemmas
import ProofStack.Policy.Scheduler

/-!
This module contains the readings of the scheduler transitions.
-/

namespace ProofStack
namespace Policy

open PolicyEvaluationTime PolicyEvaluationJobSnapshot

section Except

theorem bind_eq_ok {α β : Type} {x : Except PolicyEvaluationError α}
    {f : α → Except PolicyEvaluationError β} {b : β}
    : (x >>= f) = .ok b ↔ ∃ a, x = .ok a ∧ f a = .ok b := by
  cases x <;> simp [bind, Except.bind]

theorem pure_eq_ok {α : Type} {a b : α}
    : (pure a : Except PolicyEvaluationError α) = .ok b ↔ a = b := by
  simp [pure, Except.pure]

theorem failIf_eq_ok {condition : Prop} [Decidable condition] {error : PolicyEvaluationError}
    {u : Unit}
    : failIf condition error = .ok u ↔ ¬condition := by
  unfold failIf
  split <;> simp_all

theorem rejectIf_eq_ok {condition : Prop} [Decidable condition]
    {reason : PolicyEvaluationSchedulerReason} {u : Unit}
    : rejectIf condition reason = .ok u ↔ ¬condition := by
  unfold rejectIf
  exact failIf_eq_ok

theorem parseWith_eq_ok {accepted : Prop} [Decidable accepted] {u : Unit}
    : parseWith accepted = .ok u ↔ accepted := by
  unfold parseWith
  rw [failIf_eq_ok, not_not]

theorem parseSnapshot_eq_ok {value result : PolicyEvaluationJobSnapshot}
    : parseSnapshot value = .ok result ↔ value.Accepted ∧ value = result := by
  unfold parseSnapshot
  split <;> simp_all

end Except

structure Live (job : PolicyEvaluationJob) (now : PolicyEvaluationTime) (recoveryEpoch : Nat)
    (fence : PolicyEvaluationWorkerMutationFence) (lease : PolicyEvaluationLease) : Prop where
  current : job.currentLease = some lease
  isLeased : job.status.isLeased = true
  recoveryEpoch : recoveryEpoch = job.recoveryEpoch
  fence : fence = lease.mutationFence
  updated_le : job.updatedAt.orderKey ≤ now.orderKey
  lt_expires : now.orderKey < lease.expiresAt.orderKey
  lt_attemptDeadline : now.orderKey < lease.attemptDeadlineAt.orderKey
  lt_deadline : now.orderKey < job.deadlineAt.orderKey

section Readings

variable {snapshot draft : PolicyEvaluationJobSnapshot} {now : PolicyEvaluationTime}
variable {recoveryEpoch : Nat} {fence : PolicyEvaluationWorkerMutationFence}

theorem liveLease_eq_ok {job : PolicyEvaluationJob} {lease : PolicyEvaluationLease}
    : liveLease job now recoveryEpoch fence = .ok lease ↔ Live job now recoveryEpoch fence lease := by
  unfold liveLease
  cases hlease : job.currentLease with
  | none =>
    simp only [reduceCtorEq, false_iff]
    intro h
    rw [h.current] at hlease
    contradiction
  | some current =>
    simp only [bind_eq_ok, rejectIf_eq_ok, pure_eq_ok, exists_const, not_or, not_not, not_lt,
      not_le, Bool.not_eq_false, ne_eq]
    constructor
    . rintro ⟨h1, ⟨h2, h3⟩, h4, h5, ⟨h6, h7⟩, rfl⟩
      exact ⟨hlease, h1, h2, h3, h4, h5, h6, h7⟩
    . intro h
      have heq : current = lease := by
        rw [h.current] at hlease
        exact (Option.some.inj hlease).symm
      subst heq
      exact ⟨h.isLeased, ⟨h.recoveryEpoch, h.fence⟩, h.updated_le, h.lt_expires,
        ⟨h.lt_attemptDeadline, h.lt_deadline⟩, rfl⟩

theorem requirePolicyEvaluationLiveFence_eq_ok {lease : PolicyEvaluationLease}
    : requirePolicyEvaluationLiveFence snapshot now recoveryEpoch fence = .ok lease
        ↔ snapshot.Accepted
            ∧ fence.Accepted
            ∧ Live snapshot.job now recoveryEpoch fence lease := by
  unfold requirePolicyEvaluationLiveFence
  simp only [bind_eq_ok, parseSnapshot_eq_ok, parseWith_eq_ok, liveLease_eq_ok, exists_const,
    and_assoc, exists_and_left, exists_eq_left']

structure Claims (snapshot : PolicyEvaluationJobSnapshot) (now : PolicyEvaluationTime)
    (fence : PolicyEvaluationWorkerMutationFence) : Prop where
  recoveryEpoch : fence.recoveryEpoch = snapshot.job.recoveryEpoch
  status : snapshot.job.status = .queued ∨ snapshot.job.status = .retryReady
  updated_le : snapshot.job.updatedAt.orderKey ≤ now.orderKey
  lt_deadline : now.orderKey < snapshot.job.deadlineAt.orderKey
  length_lt : snapshot.attempts.length < snapshot.request.limits.maxAttempts
  attemptId : OpaqueIdSchema fence.attemptId
  leaseId : OpaqueIdSchema fence.leaseId
  workerId : OpaqueIdSchema fence.workerId
  fresh : ∀ attempt ∈ snapshot.attempts,
    attempt.mutationFence.attemptId ≠ fence.attemptId
      ∧ attempt.mutationFence.leaseId ≠ fence.leaseId
  jobId : fence.jobId = snapshot.job.jobId
  fencingToken : fence.fencingToken = snapshot.job.lastFencingToken + 1
  fencingToken_le : fence.fencingToken ≤ maxSafeInteger
  stateVersion : snapshot.job.stateVersion < maxSafeInteger

theorem claimPolicyEvaluationJob.draft_eq_ok {attemptId leaseId workerId : String}
    (h : claimPolicyEvaluationJob.draft snapshot now recoveryEpoch attemptId leaseId workerId
      = .ok draft)
    : snapshot.Accepted
        ∧ ∃ fence : PolicyEvaluationWorkerMutationFence,
            Claims snapshot now fence
              ∧ fence.recoveryEpoch = recoveryEpoch
              ∧ fence.attemptId = attemptId
              ∧ fence.leaseId = leaseId
              ∧ fence.workerId = workerId
              ∧ draft = startAttempt snapshot now fence := by
  unfold claimPolicyEvaluationJob.draft at h
  simp only [bind_eq_ok, parseSnapshot_eq_ok, parseWith_eq_ok, rejectIf_eq_ok, pure_eq_ok,
    exists_const, and_assoc, exists_and_left, exists_eq_left', not_or, not_and, not_not, not_lt,
    not_le, not_exists, ne_eq] at h
  obtain ⟨hs, h1, h2, h3, h4, h5, -, h6, h7, h8, h9, h10, h11, h12, rfl⟩ := h
  refine ⟨hs, _, ?_, rfl, rfl, rfl, rfl, rfl⟩
  constructor
  . exact h2
  . tauto
  . exact h4
  . exact h5
  . exact h6
  . exact h7
  . exact h8
  . exact h9
  . exact h10
  . rfl
  . rfl
  . exact h11
  . exact h12

theorem heartbeatPolicyEvaluationJob.draft_eq_ok
    (h : heartbeatPolicyEvaluationJob.draft snapshot now recoveryEpoch fence = .ok draft)
    : snapshot.Accepted
        ∧ ∃ lease,
            Live snapshot.job now recoveryEpoch fence lease
              ∧ lease.heartbeatAt.orderKey
                  + durationUnits snapshot.request.limits.heartbeatIntervalMilliseconds
                ≤ now.orderKey
              ∧ snapshot.job.stateVersion < maxSafeInteger
              ∧ draft = renewLease snapshot now lease := by
  unfold heartbeatPolicyEvaluationJob.draft at h
  simp only [bind_eq_ok, parseSnapshot_eq_ok, parseWith_eq_ok, liveLease_eq_ok, rejectIf_eq_ok,
    pure_eq_ok, exists_const, and_assoc, exists_and_left, exists_eq_left', not_lt, not_le] at h
  obtain ⟨hs, -, lease, hlive, hready, hversion, rfl⟩ := h
  exact ⟨hs, lease, hlive, hready, hversion, rfl⟩

theorem reservePolicyEvaluationUsage.draft_eq_ok {delta : PolicyEvaluationUsage}
    (h : reservePolicyEvaluationUsage.draft snapshot now recoveryEpoch fence delta = .ok draft)
    : snapshot.Accepted
        ∧ (∃ lease, Live snapshot.job now recoveryEpoch fence lease)
        ∧ (snapshot.allowance.isSome →
            delta.reads = 0 ∧ delta.records = 0 ∧ delta.references = 0 ∧ delta.recordBytes = 0
              ∧ delta.referenceBytes = 0)
        ∧ ¬limitsExceeded snapshot.request.limits (snapshot.usage.add delta)
        ∧ snapshot.job.stateVersion < maxSafeInteger
        ∧ draft = { snapshot with
            usage := snapshot.usage.add delta
            job := touch snapshot.job now } := by
  unfold reservePolicyEvaluationUsage.draft at h
  simp only [bind_eq_ok, parseSnapshot_eq_ok, parseWith_eq_ok, liveLease_eq_ok, rejectIf_eq_ok,
    pure_eq_ok, exists_const, and_assoc, exists_and_left, exists_eq_left', not_le, not_and, not_or,
    not_not, ne_eq, exists_and_right] at h
  obtain ⟨hs, -, -, hlive, -, hallowance, -, hlimits, hversion, rfl⟩ := h
  exact ⟨hs, hlive, hallowance, hlimits, hversion, rfl⟩

theorem reservePolicyEvaluationAcquisition.draft_eq_ok {allowanceId : String}
    (h : reservePolicyEvaluationAcquisition.draft snapshot now recoveryEpoch fence allowanceId
      = .ok draft)
    : snapshot.Accepted
        ∧ (∃ lease, Live snapshot.job now recoveryEpoch fence lease)
        ∧ snapshot.job.status = .acquiring
        ∧ snapshot.job.snapshot = none
        ∧ snapshot.allowance = none
        ∧ snapshot.job.stateVersion < maxSafeInteger
        ∧ OpaqueIdSchema allowanceId
        ∧ draft = { snapshot with
            acquisitionAllowance := some (some {
              allowanceId := allowanceId
              mutationFence := fence
              reservedAt := now
              usageAtReservation := policyEvaluationMetadataUsage snapshot
              limits := remainingAcquisitionLimits snapshot })
            job := touch snapshot.job now } := by
  unfold reservePolicyEvaluationAcquisition.draft at h
  simp only [bind_eq_ok, parseSnapshot_eq_ok, parseWith_eq_ok,
    requirePolicyEvaluationLiveFence_eq_ok, rejectIf_eq_ok, pure_eq_ok, exists_const, and_assoc,
    exists_and_left, exists_eq_left', not_lt, not_le, not_or, not_not, ne_eq, exists_and_right,
    Option.not_isSome_iff_eq_none] at h
  obtain ⟨hs, -, -, hlive, h1, h2, h3, -, -, -, h4, h5, rfl⟩ := h
  exact ⟨hs, hlive, h1, h2, h3, h4, h5, rfl⟩

structure Settles (allowance : PolicyEvaluationAcquisitionAllowance)
    (usage : PolicyEvaluationAcquisitionUsage) : Prop where
  reads : usage.reads ≤ allowance.limits.reads
  records : usage.records ≤ allowance.limits.records
  references : usage.references ≤ allowance.limits.references
  bytes : usage.recordBytes + usage.referenceBytes ≤ allowance.limits.recordAndReferenceBytes

theorem chargeUncertain_of_some {allowance : PolicyEvaluationAcquisitionAllowance}
    (h : snapshot.allowance = some allowance)
    : chargeUncertainPolicyEvaluationAcquisition snapshot
        =
      charge snapshot (fullAllowanceUsage allowance) := by
  unfold chargeUncertainPolicyEvaluationAcquisition
  rw [h]

theorem chargeUncertain_of_none (h : snapshot.allowance = none)
    : chargeUncertainPolicyEvaluationAcquisition snapshot = snapshot := by
  unfold chargeUncertainPolicyEvaluationAcquisition
  rw [h]

theorem settlePolicyEvaluationAcquisition.draft_eq_ok {allowanceId : String}
    {usage : Option PolicyEvaluationAcquisitionUsage}
    (h : settlePolicyEvaluationAcquisition.draft snapshot now recoveryEpoch fence allowanceId usage
      = .ok draft)
    : snapshot.Accepted
        ∧ (∃ lease, Live snapshot.job now recoveryEpoch fence lease)
        ∧ snapshot.job.stateVersion < maxSafeInteger
        ∧ ∃ allowance,
            snapshot.allowance = some allowance
              ∧ ((∃ observed,
                    usage = some observed
                      ∧ Settles allowance observed
                      ∧ draft = { charge snapshot observed with job := touch snapshot.job now })
                  ∨ (usage = none
                      ∧ draft =
                        terminate
                          (closeUncertain snapshot (.ended .budgetExhausted .budgetLimitReached now))
                          now .budgetExhausted .budgetLimitReached)) := by
  unfold settlePolicyEvaluationAcquisition.draft at h
  simp only [bind_eq_ok, parseSnapshot_eq_ok, requirePolicyEvaluationLiveFence_eq_ok, and_assoc,
    exists_and_left, exists_eq_left', exists_and_right] at h
  obtain ⟨hs, -, -, hlive, h⟩ := h
  cases hallowance : snapshot.allowance with
  | none =>
    rw [hallowance] at h
    contradiction
  | some allowance =>
    rw [hallowance] at h
    simp only [bind_eq_ok, parseWith_eq_ok, rejectIf_eq_ok, exists_const, not_or, not_lt, not_le]
      at h
    obtain ⟨-, -, -, ⟨h1, h2, h3, h4⟩, hversion, h⟩ := h
    refine ⟨hs, hlive, hversion, allowance, rfl, ?_⟩
    cases usage with
    | some observed =>
      rw [pure_eq_ok] at h
      exact .inl ⟨observed, rfl, ⟨h1, h2, h3, h4⟩, h.symm⟩
    | none =>
      simp only [bind_eq_ok, rejectIf_eq_ok, exists_const, pure_eq_ok] at h
      unfold closeUncertain
      rw [chargeUncertain_of_some hallowance]
      exact .inr ⟨rfl, h.2.symm⟩

theorem sealPolicyEvaluationJob.draft_eq_ok {reference : PolicyEvaluationSnapshotReference}
    (h : sealPolicyEvaluationJob.draft snapshot now recoveryEpoch fence reference = .ok draft)
    : snapshot.Accepted
        ∧ (∃ lease, Live snapshot.job now recoveryEpoch fence lease)
        ∧ reference.Accepted
        ∧ snapshot.job.status = .acquiring
        ∧ snapshot.job.snapshot = none
        ∧ (∃ latest ∈ snapshot.latest,
            latest.closure = none ∧ latest.phase = .acquiring ∧ latest.snapshot = none)
        ∧ snapshot.job.stateVersion < maxSafeInteger
        ∧ draft = { snapshot with
            attempts :=
              snapshot.attempts.modifyLast (fun latest =>
                { latest with phase := .computing, snapshot := some reference })
            job := { touch snapshot.job now with
              snapshot := some reference
              status := .sealed } } := by
  unfold sealPolicyEvaluationJob.draft at h
  simp only [bind_eq_ok, parseSnapshot_eq_ok, parseWith_eq_ok,
    requirePolicyEvaluationLiveFence_eq_ok, rejectIf_eq_ok, pure_eq_ok, exists_const, and_assoc,
    exists_and_left, exists_eq_left', not_le, not_or, not_not, ne_eq, exists_and_right,
    Option.not_isSome_iff_eq_none] at h
  obtain ⟨hs, -, -, hlive, h1, h2, h3, h4, h5, rfl⟩ := h
  exact ⟨hs, hlive, h1, h2, h3, h4, h5, rfl⟩

theorem startPolicyEvaluationComputation.draft_eq_ok
    (h : startPolicyEvaluationComputation.draft snapshot now recoveryEpoch fence = .ok draft)
    : snapshot.Accepted
        ∧ (∃ lease, Live snapshot.job now recoveryEpoch fence lease)
        ∧ snapshot.job.status = .sealed
        ∧ snapshot.job.stateVersion < maxSafeInteger
        ∧ draft = { snapshot with job := { touch snapshot.job now with status := .running } } := by
  unfold startPolicyEvaluationComputation.draft at h
  simp only [bind_eq_ok, parseSnapshot_eq_ok, requirePolicyEvaluationLiveFence_eq_ok,
    rejectIf_eq_ok, pure_eq_ok, exists_const, and_assoc, exists_and_left, exists_eq_left', not_le,
    not_or, not_not, ne_eq, exists_and_right] at h
  obtain ⟨hs, -, -, hlive, h1, -, -, h2, rfl⟩ := h
  exact ⟨hs, hlive, h1, h2, rfl⟩

theorem completePolicyEvaluationJob.draft_eq_ok {result : PolicyEvaluationResultReference}
    {ruleCount : Nat}
    (h : completePolicyEvaluationJob.draft snapshot now recoveryEpoch fence result ruleCount
      = .ok draft)
    : snapshot.Accepted
        ∧ (∃ lease, Live snapshot.job now recoveryEpoch fence lease)
        ∧ result.Accepted
        ∧ snapshot.job.status = .running
        ∧ (∃ latest ∈ snapshot.latest, latest.phase = .computing ∧ latest.closure = none)
        ∧ snapshot.job.stateVersion < maxSafeInteger
        ∧ draft = completedWith snapshot now result := by
  unfold completePolicyEvaluationJob.draft at h
  simp only [bind_eq_ok, parseSnapshot_eq_ok, parseWith_eq_ok,
    requirePolicyEvaluationLiveFence_eq_ok, rejectIf_eq_ok, pure_eq_ok, exists_const, and_assoc,
    exists_and_left, exists_eq_left', not_le, not_or, not_not, ne_eq, exists_and_right] at h
  obtain ⟨hs, -, -, hlive, h1, h2, -, -, ⟨latest, h3, h4, h5, -⟩, -, -, -, h6, rfl⟩ := h
  exact ⟨hs, hlive, h1, h2, ⟨latest, h3, h4, h5⟩, h6, rfl⟩

theorem cancelPolicyEvaluationJob.draft_eq_ok {intent : PolicyEvaluationCancellation}
    : cancelPolicyEvaluationJob.draft snapshot intent = .ok draft
        ↔ snapshot.Accepted
            ∧ intent.Accepted
            ∧ intent.jobId = snapshot.job.jobId
            ∧ intent.scope = snapshot.job.scope
            ∧ ((∃ previous,
                  snapshot.cancellation = some previous
                    ∧ previous.cancellationId = intent.cancellationId
                    ∧ previous.reason = intent.reason
                    ∧ previous.requestedByPrincipalId = intent.requestedByPrincipalId
                    ∧ snapshot = draft)
                ∨ (snapshot.cancellation = none
                    ∧ snapshot.job.status.isTerminal = false
                    ∧ snapshot.job.updatedAt.orderKey ≤ intent.requestedAt.orderKey
                    ∧ snapshot.job.stateVersion < maxSafeInteger
                    ∧ cancelledWith snapshot intent = draft)) := by
  unfold cancelPolicyEvaluationJob.draft
  simp only [bind_eq_ok, parseSnapshot_eq_ok, parseWith_eq_ok, rejectIf_eq_ok, exists_const,
    and_assoc, exists_and_left, exists_eq_left', not_or, not_not, ne_eq]
  rw [EvidenceScope.eq_iff]
  apply and_congr_right
  intro _
  apply and_congr_right
  intro _
  apply and_congr_right
  intro _
  rw [and_assoc, and_assoc]
  apply and_congr_right
  intro _
  apply and_congr_right
  intro _
  apply and_congr_right
  intro _
  cases snapshot.cancellation with
  | some previous =>
    simp only [bind_eq_ok, rejectIf_eq_ok, exists_const, pure_eq_ok, not_or, not_not, and_assoc,
      Option.some.injEq, exists_eq_left', reduceCtorEq, false_and, or_false]
  | none =>
    simp only [bind_eq_ok, rejectIf_eq_ok, exists_const, pure_eq_ok, not_lt, not_le,
      Bool.not_eq_true, reduceCtorEq, false_and, exists_false, false_or, true_and]

theorem interruptPolicyEvaluationJob.draft_eq_ok {reason : PolicyEvaluationRetryableError}
    (h : interruptPolicyEvaluationJob.draft snapshot now recoveryEpoch fence reason = .ok draft)
    : snapshot.Accepted
        ∧ (∃ lease, Live snapshot.job now recoveryEpoch fence lease)
        ∧ (snapshot.job.snapshot.isSome → reason ≠ .sourceRevisionChanged)
        ∧ snapshot.job.stateVersion < maxSafeInteger
        ∧ draft =
            if snapshot.allowance.isSome then
              terminate
                (closeUncertain snapshot (.interrupted reason now))
                now .budgetExhausted .budgetLimitReached
            else
              retryOrFail
                (closeUncertain snapshot (.interrupted reason now))
                now reason := by
  unfold interruptPolicyEvaluationJob.draft at h
  simp only [bind_eq_ok, parseSnapshot_eq_ok, parseWith_eq_ok, exists_const, and_assoc,
    exists_and_left, exists_eq_left'] at h
  obtain ⟨hs, -, h⟩ := h
  cases hlease : snapshot.job.currentLease with
  | none =>
    rw [hlease] at h
    contradiction
  | some lease =>
    rw [hlease] at h
    simp only [bind_eq_ok, rejectIf_eq_ok, exists_const, not_or, not_not, not_and, not_lt, not_le,
      Bool.not_eq_false, ne_eq] at h
    obtain ⟨⟨-, h1⟩, ⟨h2, h3⟩, h4, h5, -, h6, h7, h⟩ := h
    have hconsistent := accepted_iff.mp hs
    have hshape := (PolicyEvaluationLease.accepted_iff.mp
      (hconsistent.jobShape.currentLease lease hlease)).2
    have hdeadline := (hconsistent.job.lease lease hlease).jobDeadlineAt
    refine ⟨hs, ⟨lease, hlease, h1, h2, h3, h4, h5, ?_, ?_⟩, h6, h7, ?_⟩
    . have := hshape.expires_le
      omega
    . have := hshape.expires_le
      have := hshape.deadline_le
      rw [← hdeadline]
      omega
    . split at h
      . next hallowance =>
        rw [if_pos hallowance]
        exact (pure_eq_ok.mp h).symm
      . next hallowance =>
        rw [if_neg hallowance]
        exact (pure_eq_ok.mp h).symm

theorem reclaimPolicyEvaluationJob.draft_eq_ok
    (h : reclaimPolicyEvaluationJob.draft snapshot now recoveryEpoch = .ok draft)
    : snapshot.Accepted
        ∧ recoveryEpoch = snapshot.job.recoveryEpoch
        ∧ ((snapshot.job.terminal.isSome ∧ draft = snapshot)
            ∨ (snapshot.job.terminal = none
                ∧ snapshot.job.updatedAt.orderKey ≤ now.orderKey
                ∧ snapshot.job.stateVersion < maxSafeInteger
                ∧ ((snapshot.job.deadlineAt.orderKey ≤ now.orderKey
                      ∧ draft =
                        terminate
                          (closeUncertain snapshot (.ended .timedOut .deadlineReached now))
                          now .timedOut .deadlineReached)
                    ∨ (leaseHasExpired snapshot.job now
                        ∧ draft =
                          if snapshot.allowance.isSome then
                            terminate
                              (closeUncertain snapshot (.interrupted .leaseExpired now))
                              now .budgetExhausted .budgetLimitReached
                          else
                            retryOrFail
                              (closeUncertain snapshot (.interrupted .leaseExpired now))
                              now .leaseExpired)))) := by
  unfold reclaimPolicyEvaluationJob.draft at h
  simp only [bind_eq_ok, parseSnapshot_eq_ok, rejectIf_eq_ok, exists_const, and_assoc,
    exists_and_left, exists_eq_left', not_not, ne_eq] at h
  obtain ⟨hs, hepoch, h⟩ := h
  refine ⟨hs, hepoch, ?_⟩
  split at h
  . next hterminal => exact .inl ⟨hterminal, (pure_eq_ok.mp h).symm⟩
  . next hterminal =>
    simp only [bind_eq_ok, rejectIf_eq_ok, exists_const, not_lt, not_and, not_not] at h
    obtain ⟨h1, -, h2, h3, h⟩ := h
    refine .inr ⟨by simpa using hterminal, h1, by omega, ?_⟩
    split at h
    . next hdeadline => exact .inl ⟨hdeadline, (pure_eq_ok.mp h).symm⟩
    . next hdeadline =>
      refine .inr ⟨h2 hdeadline, ?_⟩
      split at h
      . next hallowance =>
        rw [if_pos hallowance]
        exact (pure_eq_ok.mp h).symm
      . next hallowance =>
        rw [if_neg hallowance]
        exact (pure_eq_ok.mp h).symm

theorem recoverPolicyEvaluationJob.draft_eq_ok
    (h : recoverPolicyEvaluationJob.draft snapshot now recoveryEpoch = .ok draft)
    : snapshot.Accepted
        ∧ recoveryEpoch ≤ maxSafeInteger
        ∧ snapshot.job.recoveryEpoch < recoveryEpoch
        ∧ snapshot.job.updatedAt.orderKey ≤ now.orderKey
        ∧ ((snapshot.job.terminal.isSome ∧ draft = snapshot)
            ∨ (snapshot.job.terminal = none
                ∧ snapshot.job.stateVersion < maxPolicyEvaluationJobHistoryEntries
                ∧ ((snapshot.job.deadlineAt.orderKey ≤ now.orderKey
                      ∧ draft =
                        terminate
                          (advanceEpoch
                            (closeUncertain snapshot (recoveryClosure snapshot.job now))
                            recoveryEpoch)
                          now .timedOut .deadlineReached)
                    ∨ (draft =
                        terminate
                          (advanceEpoch
                            (closeUncertain snapshot (recoveryClosure snapshot.job now))
                            recoveryEpoch)
                          now .budgetExhausted .budgetLimitReached)
                    ∨ (snapshot.job.currentLease.isSome
                        ∧ snapshot.allowance = none
                        ∧ draft =
                          retryOrFail
                            (advanceEpoch
                              (closeUncertain snapshot (recoveryClosure snapshot.job now))
                              recoveryEpoch)
                            now .workerInterrupted)
                    ∨ (snapshot.job.currentLease = none
                        ∧ snapshot.allowance = none
                        ∧ now.orderKey < snapshot.job.deadlineAt.orderKey
                        ∧ draft =
                          { advanceEpoch
                              (closeUncertain snapshot (recoveryClosure snapshot.job now))
                              recoveryEpoch with
                            job := {
                              touch
                                (advanceEpoch
                                  (closeUncertain snapshot (recoveryClosure snapshot.job now))
                                  recoveryEpoch).job
                                now with
                              retryAt := postponedRetry snapshot.job now } })))) := by
  unfold recoverPolicyEvaluationJob.draft at h
  simp only [bind_eq_ok, parseSnapshot_eq_ok, failIf_eq_ok, exists_const, and_assoc,
    exists_and_left, exists_eq_left', not_or, not_lt, not_le] at h
  obtain ⟨hs, h1, h2, h3, h⟩ := h
  refine ⟨hs, h1, h2, h3, ?_⟩
  split at h
  . next hterminal => exact .inl ⟨hterminal, (pure_eq_ok.mp h).symm⟩
  . next hterminal =>
    simp only [bind_eq_ok, failIf_eq_ok, exists_const, not_le] at h
    obtain ⟨h4, h⟩ := h
    refine .inr ⟨by simpa using hterminal, h4, ?_⟩
    split at h
    . next hdeadline => exact .inl ⟨hdeadline, (pure_eq_ok.mp h).symm⟩
    . next hdeadline =>
      split at h
      . exact .inr (.inl (pure_eq_ok.mp h).symm)
      . next hopen =>
        push Not at hopen
        have hallowance : snapshot.allowance = none := by simpa using hopen.2
        split at h
        . next hlease => exact .inr (.inr (.inl ⟨hlease, hallowance, (pure_eq_ok.mp h).symm⟩))
        . next hlease =>
          refine .inr (.inr (.inr ⟨by simpa using hlease, hallowance, ?_, (pure_eq_ok.mp h).symm⟩))
          omega

theorem exhaustPolicyEvaluationJobHistory.draft_eq_ok
    (h : exhaustPolicyEvaluationJobHistory.draft snapshot now = .ok draft)
    : snapshot.Accepted
        ∧ snapshot.job.terminal = none
        ∧ snapshot.job.stateVersion = maxPolicyEvaluationJobHistoryEntries - 1
        ∧ snapshot.job.updatedAt.orderKey ≤ now.orderKey
        ∧ draft =
            terminate
              (closeUncertain snapshot (.ended .budgetExhausted .budgetLimitReached now))
              now .budgetExhausted .budgetLimitReached := by
  unfold exhaustPolicyEvaluationJobHistory.draft at h
  simp only [bind_eq_ok, parseSnapshot_eq_ok, failIf_eq_ok, pure_eq_ok, exists_const, and_assoc,
    exists_and_left, exists_eq_left', not_or, not_not, not_lt, ne_eq,
    Option.not_isSome_iff_eq_none] at h
  obtain ⟨hs, h1, h2, h3, rfl⟩ := h
  exact ⟨hs, h1, h2, h3, rfl⟩

end Readings

end Policy
end ProofStack
