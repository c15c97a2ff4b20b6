import ProofStack.Policy.SchedulerClosing

/-!
This module contains the proof that the snapshots drafted by the scheduler transitions are accepted by the
snapshot schema.
-/

namespace ProofStack
namespace Policy

open PolicyEvaluationTime PolicyEvaluationJobSnapshot

structure Keeping (before after : PolicyEvaluationJobSnapshot) (now : PolicyEvaluationTime)
    (lease renewed : PolicyEvaluationLease) : Prop where
  request : after.request = before.request
  identity : SameIdentity before.job after.job
  stateVersion : after.job.stateVersion = before.job.stateVersion + 1
  updatedAt : after.job.updatedAt = now
  recoveryEpoch : after.job.recoveryEpoch = before.job.recoveryEpoch
  lastFencingToken : after.job.lastFencingToken = before.job.lastFencingToken
  attemptCount : after.job.attemptCount = before.job.attemptCount
  result : after.job.result = before.job.result
  retryAt : after.job.retryAt = before.job.retryAt
  terminal : after.job.terminal = before.job.terminal
  cancellation : after.cancellation = before.cancellation
  before_lease : before.job.currentLease = some lease
  after_lease : after.job.currentLease = some renewed
  isLeased : after.job.status.isLeased = true
  usage_le : before.usage ≤ after.usage
  withinLimits : WithinLimits before.request.limits after.usage
  scope : renewed.scope = lease.scope
  mutationFence : renewed.mutationFence = lease.mutationFence
  attemptSequence : renewed.attemptSequence = lease.attemptSequence
  acquiredAt : renewed.acquiredAt = lease.acquiredAt
  attemptDeadlineAt : renewed.attemptDeadlineAt = lease.attemptDeadlineAt
  jobDeadlineAt : renewed.jobDeadlineAt = lease.jobDeadlineAt
  heartbeat_le : renewed.heartbeatAt.orderKey ≤ now.orderKey
  consistent : renewed.Consistent
  duration :
    renewed.expiresAt.orderKey - renewed.heartbeatAt.orderKey
      ≤ durationUnits before.request.limits.leaseDurationMilliseconds

section Keeping

variable {before after : PolicyEvaluationJobSnapshot} {now : PolicyEvaluationTime}
variable {lease renewed : PolicyEvaluationLease}

theorem Keeping.grows (h : Keeping before after now lease renewed)
    (hupdated : before.job.updatedAt.orderKey ≤ now.orderKey)
    : Grows before.job before.usage after.job after.usage where
  scope := h.identity.scope
  jobId := by rw [h.identity.definition]
  createdAt := h.identity.createdAt
  recoveryEpoch := by rw [h.recoveryEpoch]
  updatedAt := by
    rw [h.updatedAt]
    exact hupdated
  usage := h.usage_le

theorem Keeping.jobShape (h : Keeping before after now lease renewed) (hs : before.Consistent)
    (hversion : before.job.stateVersion < maxSafeInteger)
    (hsnapshot : ∀ snapshot ∈ after.job.snapshot, snapshot.Accepted)
    : after.job.Shape where
  jobId := by
    rw [h.identity.definition]
    exact hs.jobShape.jobId
  request := by
    rw [h.identity.definition]
    exact hs.jobShape.request
  definitionSha256 := by
    rw [h.identity.definitionSha256]
    exact hs.jobShape.definitionSha256
  scope := by
    rw [h.identity.scope]
    exact hs.jobShape.scope
  createdByPrincipalId := by
    rw [h.identity.createdByPrincipalId]
    exact hs.jobShape.createdByPrincipalId
  stateVersion := by
    rw [h.stateVersion]
    exact ⟨by omega, hversion⟩
  recoveryEpoch := by
    rw [h.recoveryEpoch]
    exact hs.jobShape.recoveryEpoch
  lastFencingToken := by
    rw [h.lastFencingToken]
    exact hs.jobShape.lastFencingToken
  attemptCount := by
    rw [h.attemptCount]
    exact hs.jobShape.attemptCount
  currentLease := by
    intro current hcurrent
    rw [h.after_lease] at hcurrent
    cases hcurrent
    have hshape := (hs.jobShape.currentLease lease h.before_lease).1
    rw [PolicyEvaluationLease.accepted_iff]
    refine ⟨⟨?_, ?_, ?_⟩, h.consistent⟩
    . rw [h.scope]
      exact hshape.scope
    . rw [h.mutationFence]
      exact hshape.mutationFence
    . rw [h.attemptSequence]
      exact hshape.attemptSequence
  snapshot := hsnapshot
  result := by
    rw [h.result]
    exact hs.jobShape.result
  terminal := by
    rw [h.terminal]
    exact hs.jobShape.terminal

theorem Keeping.terminal_eq_none (h : Keeping before after now lease renewed)
    (hs : before.Consistent)
    : before.job.terminal = none ∧ before.job.retryAt = none ∧ before.job.result = none := by
  have hleased := hs.job.isLeased
  have hterminal := hs.job.isTerminal
  have hretry := hs.job.isRetry
  have hresult := hs.job.result
  rw [h.before_lease] at hleased
  cases hstatus : before.job.status <;> simp_all [PolicyEvaluationJobStatus.isLeased,
    PolicyEvaluationJobStatus.isTerminal]

theorem Keeping.job_consistent (h : Keeping before after now lease renewed)
    (hs : before.Consistent) (hupdated : before.job.updatedAt.orderKey ≤ now.orderKey)
    (hunsealed : after.job.status = .acquiring → after.job.snapshot = none)
    (hsealed : after.job.status = .sealed ∨ after.job.status = .running →
      after.job.snapshot.isSome)
    : after.job.Consistent where
  created_le := by
    rw [h.identity.createdAt, h.updatedAt]
    exact hs.job.created_le.trans hupdated
  created_lt := by
    rw [h.identity.createdAt, h.identity.deadlineAt]
    exact hs.job.created_lt
  isTerminal := by
    rw [h.terminal, (h.terminal_eq_none hs).1]
    have := h.isLeased
    cases hstatus : after.job.status <;> simp_all [PolicyEvaluationJobStatus.isLeased,
      PolicyEvaluationJobStatus.isTerminal]
  terminal := by
    rw [h.terminal, (h.terminal_eq_none hs).1]
    simp
  isLeased := by
    rw [h.after_lease, h.isLeased]
    rfl
  lease := by
    intro current hcurrent
    rw [h.after_lease] at hcurrent
    cases hcurrent
    have hlease := hs.job.lease lease h.before_lease
    constructor
    . rw [h.mutationFence, h.identity.definition]
      exact hlease.jobId
    . rw [h.mutationFence, h.lastFencingToken]
      exact hlease.fencingToken
    . rw [h.mutationFence, h.recoveryEpoch]
      exact hlease.recoveryEpoch
    . rw [h.scope, h.identity.scope]
      exact hlease.scope
    . rw [h.attemptSequence, h.attemptCount]
      exact hlease.attemptSequence
    . rw [h.jobDeadlineAt, h.identity.deadlineAt]
      exact hlease.jobDeadlineAt
    . rw [h.acquiredAt, h.identity.createdAt]
      exact hlease.created_le
    . rw [h.updatedAt]
      exact h.heartbeat_le
  claimed := by
    rw [h.attemptCount, h.lastFencingToken]
    exact hs.job.claimed
  unsealed := by
    intro hstatus
    rcases hstatus with hstatus | hstatus
    . have := h.isLeased
      rw [hstatus] at this
      contradiction
    . exact hunsealed hstatus
  isSealed := by
    intro hstatus
    rcases hstatus with hstatus | hstatus | hstatus
    . exact hsealed (.inl hstatus)
    . exact hsealed (.inr hstatus)
    . have := h.isLeased
      rw [hstatus] at this
      contradiction
  result := by
    have := h.isLeased
    rw [h.result, (h.terminal_eq_none hs).2.2]
    cases hstatus : after.job.status <;> simp_all [PolicyEvaluationJobStatus.isLeased]
  isRetry := by
    have := h.isLeased
    rw [h.retryAt, (h.terminal_eq_none hs).2.1]
    cases hstatus : after.job.status <;> simp_all [PolicyEvaluationJobStatus.isLeased]
  retry := by
    rw [h.retryAt, (h.terminal_eq_none hs).2.1]
    simp
  queued := by
    intro hstatus
    have := h.isLeased
    rw [hstatus] at this
    contradiction

structure KeepsAttempts (before after : PolicyEvaluationJobSnapshot) : Prop where
  accepted : ∀ attempt ∈ after.attempts, attempt.Accepted
  length_eq : after.attempts.length = before.attempts.length
  history : HistoryConsistent after.request after.job after.usage after.attempts
  snapshot : after.job.snapshot = (AttemptHistory.ofAttempts after.attempts).boundSnapshot
  latest : ∀ old ∈ before.latest, old.closure = none → ∃ latest ∈ after.latest,
    latest.closure = none
      ∧ latest.mutationFence = old.mutationFence
      ∧ latest.deadlineAt = old.deadlineAt
      ∧ latest.startedAt = old.startedAt

theorem Keeping.keepsAttempts_of_eq (h : Keeping before after now lease renewed)
    (hs : before.Consistent) (hupdated : before.job.updatedAt.orderKey ≤ now.orderKey)
    (hattempts : after.attempts = before.attempts)
    (hsnapshot : after.job.snapshot = before.job.snapshot)
    : KeepsAttempts before after where
  accepted := by
    rw [hattempts]
    exact hs.attempts
  length_eq := by rw [hattempts]
  history := by
    rw [hattempts, h.request]
    exact hs.history.mono (h.grows hupdated)
  snapshot := by
    rw [hattempts, hsnapshot]
    apply hs.latest.snapshot
    obtain ⟨latest, hlatest, -⟩ := hs.latest.lease lease h.before_lease
    rw [← exists_latest_iff]
    exact ⟨latest, hlatest⟩
  latest := by
    intro old hold hopen
    unfold latest at hold ⊢
    rw [hattempts]
    exact ⟨old, hold, hopen, rfl, rfl, rfl⟩

theorem Keeping.snapshot_consistent (h : Keeping before after now lease renewed)
    (hs : before.Consistent) (hupdated : before.job.updatedAt.orderKey ≤ now.orderKey)
    (hversion : before.job.stateVersion < maxSafeInteger)
    (hsnapshot : ∀ snapshot ∈ after.job.snapshot, snapshot.Accepted)
    (hunsealed : after.job.status = .acquiring → after.job.snapshot = none)
    (hsealed : after.job.status = .sealed ∨ after.job.status = .running →
      after.job.snapshot.isSome)
    (hattempts : KeepsAttempts before after)
    (hallowance : ∀ allowance ∈ after.allowance,
      allowance.Accepted ∧ after.AllowanceConsistent allowance)
    : after.Consistent where
  request := by
    rw [h.request]
    exact hs.request
  jobShape := h.jobShape hs hversion hsnapshot
  job := h.job_consistent hs hupdated hunsealed hsealed
  attempts := hattempts.accepted
  attempts_length := by
    rw [hattempts.length_eq]
    exact hs.attempts_length
  cancellationShape := by
    rw [h.cancellation]
    exact hs.cancellationShape
  usage := WithinLimits.accepted hs.request.1.limits h.withinLimits
  allowanceShape := by
    intro allowance hmem
    exact (hallowance allowance hmem).1
  allowance := by
    intro allowance hmem
    exact (hallowance allowance hmem).2
  binding := by
    have hbinding := hs.binding
    rw [h.request]
    constructor
    . rw [h.identity.scope]
      exact hbinding.scope
    . rw [h.identity.definition]
      exact hbinding.evaluationRequestId
    . rw [h.identity.definition]
      exact hbinding.definitionSha256
    . rw [h.identity.createdAt]
      exact hbinding.created_le
    . rw [h.identity.createdByPrincipalId]
      exact hbinding.createdByPrincipalId
    . rw [h.identity.deadlineAt]
      exact hbinding.deadline
  count := by
    constructor
    . rw [h.attemptCount, hattempts.length_eq]
      exact hs.count.attemptCount
    . rw [hattempts.length_eq, h.request]
      exact hs.count.length_le
    . intro hstatus
      have := h.isLeased
      rw [hstatus] at this
      contradiction
    . rw [h.request]
      exact h.withinLimits
  history := hattempts.history
  latest := by
    obtain ⟨old, hold, hopen, hfence, hdeadline, hstarted⟩ := hs.latest.lease lease h.before_lease
    obtain ⟨latest, hlatest, hlopen, hlfence, hldeadline, hlstarted⟩ :=
      hattempts.latest old hold hopen
    constructor
    . intro current hcurrent
      rw [hlatest] at hcurrent
      cases hcurrent
      rw [hlfence, h.lastFencingToken]
      exact hs.latest.fencingToken old hold
    . intro _
      exact hattempts.snapshot
    . intro current hcurrent
      rw [h.after_lease] at hcurrent
      cases hcurrent
      refine ⟨latest, hlatest, hlopen, ?_, ?_, ?_⟩
      . rw [hlfence, hfence, h.mutationFence]
      . rw [hldeadline, hdeadline, h.attemptDeadlineAt]
      . rw [hlstarted, hstarted, h.acquiredAt]
    . intro current hcurrent
      rw [h.after_lease] at hcurrent
      cases hcurrent
      rw [h.request]
      exact h.duration
    . intro hnone
      rw [h.after_lease] at hnone
      contradiction
  terminal := by
    constructor
    . rw [h.terminal, (h.terminal_eq_none hs).1]
      simp
    . intro hstatus
      have := h.isLeased
      rw [hstatus] at this
      contradiction
    . obtain ⟨old, hold, hopen, -⟩ := hs.latest.lease lease h.before_lease
      obtain ⟨latest, hlatest, hlopen, -⟩ := hattempts.latest old hold hopen
      intro current hcurrent closure hclosure
      rw [hlatest] at hcurrent
      cases hcurrent
      rw [hlopen] at hclosure
      contradiction
  cancelled := by
    intro hstatus
    have := h.isLeased
    rw [hstatus] at this
    contradiction
  cancellation := by
    intro cancellation hmem
    rw [h.cancellation] at hmem
    have hcancellation := hs.cancellation cancellation hmem
    constructor
    . rw [h.identity.scope]
      exact hcancellation.scope
    . rw [h.identity.definition]
      exact hcancellation.jobId
    . rw [h.identity.createdAt]
      exact hcancellation.created_le
    . rw [h.updatedAt]
      exact hcancellation.requested_le.trans hupdated

end Keeping

section Live

variable {snapshot after : PolicyEvaluationJobSnapshot} {now : PolicyEvaluationTime}
variable {recoveryEpoch : Nat} {fence : PolicyEvaluationWorkerMutationFence}
variable {lease : PolicyEvaluationLease}

theorem Live.lease_consistent (hs : snapshot.Consistent)
    (h : Live snapshot.job now recoveryEpoch fence lease)
    : lease.Consistent :=
  (PolicyEvaluationLease.accepted_iff.mp (hs.jobShape.currentLease lease h.current)).2

theorem Live.keeping (hs : snapshot.Consistent)
    (h : Live snapshot.job now recoveryEpoch fence lease) (hrequest : after.request = snapshot.request)
    {status : PolicyEvaluationJobStatus} {reference : Option PolicyEvaluationSnapshotReference}
    (hjob : after.job = { touch snapshot.job now with status := status, snapshot := reference })
    (hstatus : status.isLeased = true) (hcancellation : after.cancellation = snapshot.cancellation)
    (husage : snapshot.usage ≤ after.usage)
    (hlimits : WithinLimits snapshot.request.limits after.usage)
    : Keeping snapshot after now lease lease where
  request := hrequest
  identity := by
    rw [hjob]
    constructor <;> rfl
  stateVersion := by
    rw [hjob]
    rfl
  updatedAt := by
    rw [hjob]
    rfl
  recoveryEpoch := by
    rw [hjob]
    rfl
  lastFencingToken := by
    rw [hjob]
    rfl
  attemptCount := by
    rw [hjob]
    rfl
  result := by
    rw [hjob]
    rfl
  retryAt := by
    rw [hjob]
    rfl
  terminal := by
    rw [hjob]
    rfl
  cancellation := hcancellation
  before_lease := h.current
  after_lease := by
    rw [hjob]
    exact h.current
  isLeased := by
    rw [hjob]
    exact hstatus
  usage_le := husage
  withinLimits := hlimits
  scope := rfl
  mutationFence := rfl
  attemptSequence := rfl
  acquiredAt := rfl
  attemptDeadlineAt := rfl
  jobDeadlineAt := rfl
  heartbeat_le := (hs.job.lease lease h.current).heartbeat_le.trans h.updated_le
  consistent := h.lease_consistent hs
  duration := hs.latest.leaseDuration lease h.current

theorem renewLease_keeping (hs : snapshot.Consistent)
    (h : Live snapshot.job now recoveryEpoch fence lease)
    : Keeping snapshot (renewLease snapshot now lease) now lease
        { lease with
          heartbeatAt := now
          expiresAt :=
            now.addMillisecondsUpTo snapshot.request.limits.leaseDurationMilliseconds
              lease.attemptDeadlineAt } where
  request := rfl
  identity := by
    constructor <;> rfl
  stateVersion := rfl
  updatedAt := rfl
  recoveryEpoch := rfl
  lastFencingToken := rfl
  attemptCount := rfl
  result := rfl
  retryAt := rfl
  terminal := rfl
  cancellation := rfl
  before_lease := h.current
  after_lease := rfl
  isLeased := h.isLeased
  usage_le := le_refl _
  withinLimits := hs.count.usage
  scope := rfl
  mutationFence := rfl
  attemptSequence := rfl
  acquiredAt := rfl
  attemptDeadlineAt := rfl
  jobDeadlineAt := rfl
  heartbeat_le := le_refl _
  consistent := by
    have hlease := h.lease_consistent hs
    have hpos := durationUnits_pos
      (Nat.lt_of_lt_of_le (by decide) hs.request.1.limits.1.leaseDurationMilliseconds.1)
    have hheartbeat := (hs.job.lease lease h.current).heartbeat_le
    have hlt := h.lt_attemptDeadline
    constructor
    . exact (hlease.acquired_le.trans hheartbeat).trans h.updated_le
    . dsimp only
      rw [orderKey_addMillisecondsUpTo]
      omega
    . dsimp only
      rw [orderKey_addMillisecondsUpTo]
      omega
    . exact hlease.deadline_le
  duration := by
    dsimp only
    rw [orderKey_addMillisecondsUpTo]
    omega

theorem le_renewLease_expiresAt (hs : snapshot.Consistent)
    (h : Live snapshot.job now recoveryEpoch fence lease)
    : lease.expiresAt.orderKey
        ≤ (now.addMillisecondsUpTo snapshot.request.limits.leaseDurationMilliseconds
            lease.attemptDeadlineAt).orderKey := by
  have hduration := hs.latest.leaseDuration lease h.current
  have hheartbeat := (hs.job.lease lease h.current).heartbeat_le
  have hupdated := h.updated_le
  have hexpires := (h.lease_consistent hs).expires_le
  rw [orderKey_addMillisecondsUpTo]
  omega

theorem Keeping.allowance_consistent {before after : PolicyEvaluationJobSnapshot}
    {lease renewed : PolicyEvaluationLease} {allowance : PolicyEvaluationAcquisitionAllowance}
    (h : Keeping before after now lease renewed)
    (hupdated : before.job.updatedAt.orderKey ≤ now.orderKey)
    (hallowance : before.AllowanceConsistent allowance)
    (hstatus : after.job.status = before.job.status)
    (hsnapshot : after.job.snapshot = before.job.snapshot)
    (hattempts : after.attempts = before.attempts)
    (husage : policyEvaluationMetadataUsage after = policyEvaluationMetadataUsage before)
    : after.AllowanceConsistent allowance := by
  unfold policyEvaluationMetadataUsage at husage
  simp only [PolicyEvaluationAcquisitionUsage.mk.injEq] at husage
  obtain ⟨hreads, hrecords, hreferences, hrecordBytes, hreferenceBytes⟩ := husage
  constructor
  . rw [hstatus]
    exact hallowance.status
  . rw [hsnapshot]
    exact hallowance.snapshot
  . rw [h.cancellation]
    exact hallowance.cancellation
  . rw [hallowance.fence, h.before_lease, h.after_lease]
    simp [h.mutationFence]
  . rw [h.updatedAt]
    exact hallowance.reserved_le.trans hupdated
  . unfold latest
    rw [hattempts, h.identity.createdAt]
    exact hallowance.started_le
  . rw [hreads]
    exact hallowance.reads
  . rw [hrecords]
    exact hallowance.records
  . rw [hreferences]
    exact hallowance.references
  . rw [hrecordBytes]
    exact hallowance.recordBytes
  . rw [hreferenceBytes]
    exact hallowance.referenceBytes
  . rw [hreads, h.request]
    exact hallowance.limits_reads
  . rw [hrecords, h.request]
    exact hallowance.limits_records
  . rw [hreferences, h.request]
    exact hallowance.limits_references
  . rw [hrecordBytes, hreferenceBytes, h.request]
    exact hallowance.limits_bytes

theorem renewLease_consistent (hs : snapshot.Consistent)
    (h : Live snapshot.job now recoveryEpoch fence lease)
    (hversion : snapshot.job.stateVersion < maxSafeInteger)
    : (renewLease snapshot now lease).Consistent := by
  have hkeeping := renewLease_keeping hs h
  apply hkeeping.snapshot_consistent hs h.updated_le hversion
  . exact hs.jobShape.snapshot
  . exact fun hstatus => hs.job.unsealed (.inr hstatus)
  . exact fun hstatus => hs.job.isSealed (hstatus.imp_right .inl)
  . exact hkeeping.keepsAttempts_of_eq hs h.updated_le rfl rfl
  . intro allowance hmem
    refine ⟨hs.allowanceShape allowance hmem, ?_⟩
    exact hkeeping.allowance_consistent h.updated_le (hs.allowance allowance hmem) rfl rfl rfl rfl

theorem not_limitsExceeded {limits : PolicyEvaluationExecutionLimits}
    {usage : PolicyEvaluationUsage} (h : ¬limitsExceeded limits usage)
    : WithinLimits limits usage := by
  unfold limitsExceeded at h
  simp only [not_or, not_lt] at h
  obtain ⟨h1, h2, h3, h4, h5, h6⟩ := h
  exact ⟨h1, h2, h3, h4, h5, h6⟩

theorem Live.touch_consistent (hs : snapshot.Consistent)
    (h : Live snapshot.job now recoveryEpoch fence lease)
    (hversion : snapshot.job.stateVersion < maxSafeInteger) {usage : PolicyEvaluationUsage}
    (husage : snapshot.usage ≤ usage) (hlimits : WithinLimits snapshot.request.limits usage)
    {allowance : Option (Option PolicyEvaluationAcquisitionAllowance)}
    (hallowance : ∀ reserved ∈ allowance.join,
      reserved.Accepted
        ∧ { snapshot with
            usage := usage
            acquisitionAllowance := allowance
            job := touch snapshot.job now : PolicyEvaluationJobSnapshot }.AllowanceConsistent
          reserved)
    : { snapshot with
        usage := usage
        acquisitionAllowance := allowance
        job := touch snapshot.job now : PolicyEvaluationJobSnapshot }.Consistent := by
  have hkeeping : Keeping snapshot
      { snapshot with
        usage := usage
        acquisitionAllowance := allowance
        job := touch snapshot.job now } now lease lease :=
    h.keeping hs rfl rfl h.isLeased rfl husage hlimits
  apply hkeeping.snapshot_consistent hs h.updated_le hversion
  . exact hs.jobShape.snapshot
  . exact fun hstatus => hs.job.unsealed (.inr hstatus)
  . exact fun hstatus => hs.job.isSealed (hstatus.imp_right .inl)
  . exact hkeeping.keepsAttempts_of_eq hs h.updated_le rfl rfl
  . exact hallowance

theorem reserveUsage_consistent (hs : snapshot.Consistent)
    (h : Live snapshot.job now recoveryEpoch fence lease)
    (hversion : snapshot.job.stateVersion < maxSafeInteger) {delta : PolicyEvaluationUsage}
    (hdelta : snapshot.allowance.isSome →
      delta.reads = 0 ∧ delta.records = 0 ∧ delta.references = 0 ∧ delta.recordBytes = 0
        ∧ delta.referenceBytes = 0)
    (hlimits : ¬limitsExceeded snapshot.request.limits (snapshot.usage.add delta))
    : { snapshot with
        usage := snapshot.usage.add delta
        job := touch snapshot.job now : PolicyEvaluationJobSnapshot }.Consistent := by
  have husage : snapshot.usage ≤ snapshot.usage.add delta := by
    rw [PolicyEvaluationUsage.le_iff]
    simp [PolicyEvaluationUsage.add]
  apply h.touch_consistent hs hversion husage (not_limitsExceeded hlimits)
  intro reserved hmem
  refine ⟨hs.allowanceShape reserved hmem, ?_⟩
  have hkeeping : Keeping snapshot
      { snapshot with
        usage := snapshot.usage.add delta
        job := touch snapshot.job now } now lease lease :=
    h.keeping hs rfl rfl h.isLeased rfl husage (not_limitsExceeded hlimits)
  apply hkeeping.allowance_consistent h.updated_le (hs.allowance reserved hmem) rfl rfl rfl
  have hsome : snapshot.allowance.isSome := by
    rw [Option.isSome_iff_exists]
    exact ⟨reserved, hmem⟩
  obtain ⟨h1, h2, h3, h4, h5⟩ := hdelta hsome
  simp [policyEvaluationMetadataUsage, PolicyEvaluationUsage.add, h1, h2, h3, h4, h5]

theorem reserveAcquisition_consistent (hs : snapshot.Consistent)
    (h : Live snapshot.job now recoveryEpoch fence lease)
    (hversion : snapshot.job.stateVersion < maxSafeInteger)
    (hstatus : snapshot.job.status = .acquiring) (hsnapshot : snapshot.job.snapshot = none)
    (hcancellation : snapshot.cancellation = none) {allowanceId : String}
    (hid : OpaqueIdSchema allowanceId)
    : { snapshot with
        acquisitionAllowance := some (some {
          allowanceId := allowanceId
          mutationFence := fence
          reservedAt := now
          usageAtReservation := policyEvaluationMetadataUsage snapshot
          limits := remainingAcquisitionLimits snapshot })
        job := touch snapshot.job now : PolicyEvaluationJobSnapshot }.Consistent := by
  apply h.touch_consistent hs hversion (le_refl _) hs.count.usage
  intro reserved hmem
  cases hmem
  have husage := PolicyEvaluationUsage.accepted_iff.mp hs.usage
  have hwithin := hs.count.usage
  have hrequest := hs.request.1.limits.1
  have hrecords := hrequest.maxAcquisitionRecords.2
  have hbytes := hrequest.maxAcquisitionRecordBytes.2
  refine ⟨⟨hid, ?_, ?_, ?_⟩, ?_⟩
  . rw [h.fence]
    exact (hs.jobShape.currentLease lease h.current).1.mutationFence
  . constructor <;> simp [policyEvaluationMetadataUsage, boundedInteger] <;> omega
  . constructor <;> simp [remainingAcquisitionLimits, boundedInteger] <;> omega
  . obtain ⟨latest, hlatest, -, -, -, hstarted⟩ := hs.latest.lease lease h.current
    have hlease := hs.job.lease lease h.current
    have h1 := hwithin.reads
    have h2 := hwithin.records
    have h3 := hwithin.references
    have h4 := hwithin.bytes
    refine ⟨hstatus, hsnapshot, hcancellation, ?_, le_refl _, ?_, rfl, rfl, rfl, rfl, rfl, ?_, ?_,
      ?_, ?_⟩
    . show some fence = snapshot.job.currentLease.map _
      rw [h.current, h.fence]
      rfl
    . show ((snapshot.latest.map (·.startedAt)).getD snapshot.job.createdAt).orderKey ≤ now.orderKey
      rw [hlatest]
      show latest.startedAt.orderKey ≤ now.orderKey
      rw [hstarted]
      exact ((h.lease_consistent hs).acquired_le.trans hlease.heartbeat_le).trans h.updated_le
    all_goals
      simp only [remainingAcquisitionLimits]
      omega

theorem settle_consistent (hs : snapshot.Consistent)
    (h : Live snapshot.job now recoveryEpoch fence lease)
    (hversion : snapshot.job.stateVersion < maxSafeInteger)
    {allowance : PolicyEvaluationAcquisitionAllowance}
    (hallowance : snapshot.allowance = some allowance)
    {observed : PolicyEvaluationAcquisitionUsage} (hsettles : Settles allowance observed)
    : { charge snapshot observed with
        job := touch snapshot.job now : PolicyEvaluationJobSnapshot }.Consistent := by
  apply h.touch_consistent hs hversion
  . rw [PolicyEvaluationUsage.le_iff]
    simp [charge]
  . exact charge_withinLimits hs hallowance hsettles
  . simp [charge]

theorem start_consistent (hs : snapshot.Consistent)
    (h : Live snapshot.job now recoveryEpoch fence lease)
    (hversion : snapshot.job.stateVersion < maxSafeInteger)
    (hstatus : snapshot.job.status = .sealed)
    : { snapshot with
        job := { touch snapshot.job now with status := .running }
        : PolicyEvaluationJobSnapshot }.Consistent := by
  have hkeeping : Keeping snapshot
      { snapshot with job := { touch snapshot.job now with status := .running } } now lease lease :=
    h.keeping hs rfl rfl rfl rfl (le_refl _) hs.count.usage
  apply hkeeping.snapshot_consistent hs h.updated_le hversion
  . exact hs.jobShape.snapshot
  . simp
  . intro _
    exact hs.job.isSealed (.inl hstatus)
  . exact hkeeping.keepsAttempts_of_eq hs h.updated_le rfl rfl
  . intro allowance hmem
    have := (hs.allowance allowance hmem).status
    rw [hstatus] at this
    contradiction

theorem seal_keepsAttempts (hs : snapshot.Consistent)
    {reference : PolicyEvaluationSnapshotReference} (hreference : reference.Accepted)
    (hupdated : snapshot.job.updatedAt.orderKey ≤ now.orderKey)
    (hlatest : ∃ latest ∈ snapshot.latest,
      latest.closure = none ∧ latest.phase = .acquiring ∧ latest.snapshot = none)
    : KeepsAttempts snapshot
        { snapshot with
          attempts :=
            snapshot.attempts.modifyLast (fun latest =>
              { latest with phase := .computing, snapshot := some reference })
          job := { touch snapshot.job now with snapshot := some reference, status := .sealed } } := by
  obtain ⟨latest, hmem, hopen, hphase, hsnapshot⟩ := hlatest
  have hlatest := hmem
  unfold PolicyEvaluationJobSnapshot.latest at hmem
  rw [Option.mem_def, List.getLast?_eq_some_iff] at hmem
  obtain ⟨attempts, hattempts⟩ := hmem
  have haccepted := hs.attempts latest (by simp [hattempts])
  have hhistory := hs.history
  rw [hattempts, historyConsistent_concat] at hhistory
  obtain ⟨hprevious, hlast⟩ := hhistory
  have hgrows : Grows snapshot.job snapshot.usage
      { touch snapshot.job now with snapshot := some reference, status := .sealed }
      snapshot.usage :=
    ⟨rfl, rfl, rfl, Nat.le_refl _, hupdated, le_refl _⟩
  rw [PolicyEvaluationAttempt.accepted_iff] at haccepted
  obtain ⟨hshape, hconsistent⟩ := haccepted
  constructor
  . dsimp only
    rw [hattempts, List.modifyLast_concat]
    intro attempt hattempt
    rw [List.mem_append, List.mem_singleton] at hattempt
    rcases hattempt with hattempt | rfl
    . exact hs.attempts attempt (by simp [hattempts, hattempt])
    . have hclose := hconsistent.closed.mp hopen
      rw [PolicyEvaluationAttempt.accepted_iff]
      refine ⟨⟨hshape.scope, hshape.mutationFence, hshape.attemptSequence, ?_, hshape.usageAtStart,
        hshape.usageAtClose⟩, hconsistent.window, by simp, hconsistent.closed,
        hconsistent.started_le, ?_, hconsistent.usage_le⟩
      . intro sealed hsealed
        cases hsealed
        exact hreference
      . simp [hopen]
  . simp [hattempts, List.modifyLast_concat]
  . dsimp only
    rw [hattempts, List.modifyLast_concat, historyConsistent_concat]
    have hlast := hlast.mono hgrows
    refine ⟨hprevious.mono hgrows, hlast.attemptId, hlast.leaseId, hlast.scope, hlast.jobId,
      hlast.attemptSequence, hlast.previousFence_lt, hlast.previousEpoch_le, hlast.recoveryEpoch_le,
      hlast.created_le, hlast.started_le, hlast.previousClosed, hlast.deadline, hlast.closure_le,
      ?_, hlast.usageAtClose_le, hlast.usageAtStart_le, hlast.prior_le⟩
    intro hbound
    -- An unsealed latest attempt excludes an earlier sealed one.
    rw [← hlast.snapshot hbound, hsnapshot] at hbound
    contradiction
  . dsimp only
    rw [hattempts, List.modifyLast_concat, ofAttempts_concat]
    rfl
  . intro old hold hopen
    rw [hlatest] at hold
    cases hold
    refine ⟨{ latest with phase := .computing, snapshot := some reference }, ?_, hopen, rfl, rfl,
      rfl⟩
    unfold PolicyEvaluationJobSnapshot.latest
    simp [hattempts, List.modifyLast_concat]

theorem seal_consistent (hs : snapshot.Consistent)
    (h : Live snapshot.job now recoveryEpoch fence lease)
    (hversion : snapshot.job.stateVersion < maxSafeInteger)
    (hallowance : snapshot.allowance = none)
    {reference : PolicyEvaluationSnapshotReference} (hreference : reference.Accepted)
    (hlatest : ∃ latest ∈ snapshot.latest,
      latest.closure = none ∧ latest.phase = .acquiring ∧ latest.snapshot = none)
    : { snapshot with
        attempts :=
          snapshot.attempts.modifyLast (fun latest =>
            { latest with phase := .computing, snapshot := some reference })
        job := { touch snapshot.job now with snapshot := some reference, status := .sealed }
        : PolicyEvaluationJobSnapshot }.Consistent := by
  have hkeeping : Keeping snapshot
      { snapshot with
        attempts :=
          snapshot.attempts.modifyLast (fun latest =>
            { latest with phase := .computing, snapshot := some reference })
        job := { touch snapshot.job now with snapshot := some reference, status := .sealed } }
      now lease lease :=
    h.keeping hs rfl rfl rfl rfl (le_refl _) hs.count.usage
  apply hkeeping.snapshot_consistent hs h.updated_le hversion
  . intro sealed hsealed
    cases hsealed
    exact hreference
  . simp
  . simp
  . exact seal_keepsAttempts hs hreference h.updated_le hlatest
  . intro allowance hmem
    unfold PolicyEvaluationJobSnapshot.allowance at hallowance hmem
    rw [hallowance] at hmem
    contradiction

end Live

section Claim

variable {snapshot : PolicyEvaluationJobSnapshot} {now : PolicyEvaluationTime}
variable {fence : PolicyEvaluationWorkerMutationFence}

def attemptDeadlineAt (snapshot : PolicyEvaluationJobSnapshot) (now : PolicyEvaluationTime)
    : PolicyEvaluationTime :=
  now.addMillisecondsUpTo snapshot.request.limits.perAttemptTimeoutMilliseconds
    snapshot.job.deadlineAt

def claimedLease (snapshot : PolicyEvaluationJobSnapshot) (now : PolicyEvaluationTime)
    (fence : PolicyEvaluationWorkerMutationFence) : PolicyEvaluationLease where
  scope := snapshot.job.scope
  mutationFence := fence
  attemptSequence := snapshot.attempts.length
  acquiredAt := now
  heartbeatAt := now
  expiresAt :=
    now.addMillisecondsUpTo snapshot.request.limits.leaseDurationMilliseconds
      (attemptDeadlineAt snapshot now)
  attemptDeadlineAt := attemptDeadlineAt snapshot now
  jobDeadlineAt := snapshot.job.deadlineAt

def claimedAttempt (snapshot : PolicyEvaluationJobSnapshot) (now : PolicyEvaluationTime)
    (fence : PolicyEvaluationWorkerMutationFence) : PolicyEvaluationAttempt where
  scope := snapshot.job.scope
  mutationFence := fence
  attemptSequence := snapshot.attempts.length
  startedAt := now
  deadlineAt := attemptDeadlineAt snapshot now
  phase := if snapshot.job.snapshot = none then .acquiring else .computing
  snapshot := snapshot.job.snapshot
  usageAtStart := snapshot.usage
  usageAtClose := none
  closure := none

theorem startAttempt_attempts
    : (startAttempt snapshot now fence).attempts
        =
      snapshot.attempts ++ [claimedAttempt snapshot now fence] := by
  rfl

theorem startAttempt_latest
    : (startAttempt snapshot now fence).latest = some (claimedAttempt snapshot now fence) := by
  unfold latest
  rw [startAttempt_attempts, List.getLast?_concat]

theorem startAttempt_currentLease
    : (startAttempt snapshot now fence).job.currentLease
        =
      some (claimedLease snapshot now fence) := by
  rfl

theorem snapshot_eq_of_bound (hs : snapshot.Consistent)
    : ∀ bound ∈ (AttemptHistory.ofAttempts snapshot.attempts).boundSnapshot,
        snapshot.job.snapshot = some bound := by
  intro bound hbound
  rw [← hbound]
  apply hs.latest.snapshot
  intro hnil
  rw [hnil] at hbound
  contradiction

variable (hs : snapshot.Consistent) (h : Claims snapshot now fence)
include hs h

theorem Claims.idle
    : snapshot.job.currentLease = none ∧ snapshot.job.terminal = none
        ∧ snapshot.job.result = none ∧ snapshot.allowance = none := by
  have hleased := hs.job.isLeased
  have hterminal := hs.job.isTerminal
  have hresult := hs.job.result
  have hallowance : ∀ allowance ∈ snapshot.allowance, snapshot.job.status = .acquiring := by
    intro allowance hmem
    exact (hs.allowance allowance hmem).status
  cases hopen : snapshot.allowance with
  | none =>
    rcases h.status with hstatus | hstatus <;> simp_all [PolicyEvaluationJobStatus.isLeased,
      PolicyEvaluationJobStatus.isTerminal]
  | some allowance =>
    have hacquiring := hallowance allowance hopen
    rcases h.status with hstatus | hstatus <;> simp_all

theorem Claims.fence_accepted : fence.Accepted where
  jobId := by
    rw [h.jobId]
    exact hs.jobShape.jobId
  attemptId := h.attemptId
  workerId := h.workerId
  leaseId := h.leaseId
  fencingToken := by
    refine ⟨?_, h.fencingToken_le⟩
    rw [h.fencingToken]
    omega
  recoveryEpoch := by
    rw [h.recoveryEpoch]
    exact hs.jobShape.recoveryEpoch

theorem Claims.attemptDeadline
    : now.orderKey < (attemptDeadlineAt snapshot now).orderKey
        ∧ (attemptDeadlineAt snapshot now).orderKey ≤ snapshot.job.deadlineAt.orderKey := by
  have hpos := durationUnits_pos
    (Nat.lt_of_lt_of_le (by decide) hs.request.1.limits.1.perAttemptTimeoutMilliseconds.1)
  have hlt := h.lt_deadline
  unfold attemptDeadlineAt
  rw [orderKey_addMillisecondsUpTo]
  omega

theorem Claims.length_lt_eight : snapshot.attempts.length < maxPolicyEvaluationAttempts :=
  Nat.lt_of_lt_of_le h.length_lt hs.request.1.limits.1.maxAttempts.2

theorem claimedLease_accepted : (claimedLease snapshot now fence).Accepted := by
  have hlength := h.length_lt_eight hs
  have hdeadline := h.attemptDeadline hs
  have hpos := durationUnits_pos
    (Nat.lt_of_lt_of_le (by decide) hs.request.1.limits.1.leaseDurationMilliseconds.1)
  rw [PolicyEvaluationLease.accepted_iff]
  refine ⟨⟨hs.jobShape.scope, h.fence_accepted hs, ⟨Nat.zero_le _, ?_⟩⟩, le_refl _, ?_, ?_,
    hdeadline.2⟩
  . exact Nat.le_sub_one_of_lt hlength
  . unfold claimedLease
    dsimp only
    rw [orderKey_addMillisecondsUpTo]
    omega
  . unfold claimedLease
    dsimp only
    rw [orderKey_addMillisecondsUpTo]
    omega

theorem claimedAttempt_accepted : (claimedAttempt snapshot now fence).Accepted := by
  have hlength := h.length_lt_eight hs
  rw [PolicyEvaluationAttempt.accepted_iff]
  refine ⟨⟨hs.jobShape.scope, h.fence_accepted hs, ⟨Nat.zero_le _, ?_⟩, hs.jobShape.snapshot,
    hs.usage, by simp [claimedAttempt]⟩, (h.attemptDeadline hs).1, ?_, by simp [claimedAttempt],
    by simp [claimedAttempt], by simp [claimedAttempt], by simp [claimedAttempt]⟩
  . exact Nat.le_sub_one_of_lt hlength
  . unfold claimedAttempt
    cases snapshot.job.snapshot <;> simp

theorem Claims.previousFence
    : (AttemptHistory.ofAttempts snapshot.attempts).previousFence < fence.fencingToken := by
  have hlatest := hs.latest.fencingToken
  unfold latest at hlatest
  rw [h.fencingToken]
  cases hattempts : snapshot.attempts using List.reverseRecOn with
  | nil => exact Nat.succ_pos _
  | append_singleton attempts attempt =>
    rw [hattempts] at hlatest
    have := hlatest attempt (by simp)
    rw [ofAttempts_concat]
    simp only [AttemptHistory.next]
    omega

theorem Claims.previousClosed (hpos : 0 < (AttemptHistory.ofAttempts snapshot.attempts).index)
    : ∃ closed ∈ (AttemptHistory.ofAttempts snapshot.attempts).previousClosed,
        closed.orderKey ≤ now.orderKey := by
  have hclosed := hs.latest.closed (h.idle hs).1
  have hhistory := hs.history
  unfold latest at hclosed
  cases hattempts : snapshot.attempts using List.reverseRecOn with
  | nil => simp [hattempts] at hpos
  | append_singleton attempts attempt =>
    rw [hattempts] at hclosed hhistory
    rw [historyConsistent_concat] at hhistory
    obtain ⟨closure, hclosure⟩ := Option.isSome_iff_exists.mp (hclosed attempt (by simp))
    refine ⟨closure.committedAt, ?_, ?_⟩
    . rw [ofAttempts_concat]
      simp [AttemptHistory.next, hclosure]
    . exact (hhistory.2.closure_le closure hclosure).trans h.updated_le

theorem startAttempt_history
    : HistoryConsistent (startAttempt snapshot now fence).request
        (startAttempt snapshot now fence).job (startAttempt snapshot now fence).usage
        (startAttempt snapshot now fence).attempts := by
  have hgrows : Grows snapshot.job snapshot.usage (startAttempt snapshot now fence).job
      (startAttempt snapshot now fence).usage :=
    ⟨rfl, rfl, rfl, Nat.le_refl _, h.updated_le, le_refl _⟩
  rw [startAttempt_attempts, historyConsistent_concat]
  refine ⟨hs.history.mono hgrows, ?_⟩
  constructor
  . rw [mem_ofAttempts_attemptIds]
    rintro ⟨attempt, hmem, heq⟩
    exact (h.fresh attempt hmem).1 heq
  . rw [mem_ofAttempts_leaseIds]
    rintro ⟨attempt, hmem, heq⟩
    exact (h.fresh attempt hmem).2 heq
  . rfl
  . exact h.jobId
  . rw [ofAttempts_index]
    rfl
  . exact h.previousFence hs
  . show _ ≤ fence.recoveryEpoch
    rw [h.recoveryEpoch]
    exact hs.history.previousEpoch_le
  . exact le_of_eq h.recoveryEpoch
  . exact hs.job.created_le.trans h.updated_le
  . exact le_refl _
  . exact h.previousClosed hs
  . show (attemptDeadlineAt snapshot now).orderKey = attemptDeadlineKey snapshot.request now
    unfold attemptDeadlineAt attemptDeadlineKey
    dsimp only
    rw [orderKey_addMillisecondsUpTo, hs.binding.deadline]
    split <;> omega
  . simp [claimedAttempt]
  . intro hbound
    obtain ⟨bound, hbound⟩ := Option.isSome_iff_exists.mp hbound
    rw [hbound]
    exact snapshot_eq_of_bound hs bound hbound
  . simp [claimedAttempt]
  . exact le_refl _
  . exact hs.history.priorUsage_le

theorem startAttempt_jobShape : (startAttempt snapshot now fence).job.Shape where
  jobId := hs.jobShape.jobId
  request := hs.jobShape.request
  definitionSha256 := hs.jobShape.definitionSha256
  scope := hs.jobShape.scope
  createdByPrincipalId := hs.jobShape.createdByPrincipalId
  stateVersion := ⟨Nat.succ_pos _, h.stateVersion⟩
  recoveryEpoch := hs.jobShape.recoveryEpoch
  lastFencingToken := ⟨Nat.zero_le _, h.fencingToken_le⟩
  attemptCount := ⟨Nat.zero_le _, h.length_lt_eight hs⟩
  currentLease := by
    intro lease hlease
    rw [startAttempt_currentLease] at hlease
    cases hlease
    exact claimedLease_accepted hs h
  snapshot := hs.jobShape.snapshot
  result := hs.jobShape.result
  terminal := hs.jobShape.terminal

theorem startAttempt_job : (startAttempt snapshot now fence).job.Consistent where
  created_le := hs.job.created_le.trans h.updated_le
  created_lt := hs.job.created_lt
  isTerminal := by
    have := (h.idle hs).2.1
    simp only [startAttempt, touch, this]
    split <;> rfl
  terminal := by
    have := (h.idle hs).2.1
    simp [startAttempt, touch, this]
  isLeased := by
    simp only [startAttempt]
    split <;> rfl
  lease := by
    intro lease hlease
    rw [startAttempt_currentLease] at hlease
    cases hlease
    exact ⟨h.jobId, rfl, h.recoveryEpoch, rfl, rfl, rfl, hs.job.created_le.trans h.updated_le,
      le_refl _⟩
  claimed := by
    have := h.fencingToken
    simp only [startAttempt]
    omega
  unsealed := by
    intro hstatus
    simp only [startAttempt, touch] at hstatus ⊢
    by_contra hsealed
    simp [if_neg hsealed] at hstatus
  isSealed := by
    intro hstatus
    simp only [startAttempt, touch] at hstatus ⊢
    by_contra hunsealed
    rw [Option.not_isSome_iff_eq_none] at hunsealed
    simp [if_pos hunsealed] at hstatus
  result := by
    have := (h.idle hs).2.2.1
    simp only [startAttempt, touch, this]
    split <;> simp
  isRetry := by
    simp only [startAttempt]
    split <;> simp
  retry := by simp [startAttempt]
  queued := by
    simp only [startAttempt]
    split <;> simp

omit h in
theorem startAttempt_latestConsistent : (startAttempt snapshot now fence).LatestConsistent where
  fencingToken := by
    rw [startAttempt_latest]
    simp [claimedAttempt, startAttempt]
  snapshot := by
    intro _
    rw [startAttempt_attempts, ofAttempts_concat]
    show snapshot.job.snapshot = snapshot.job.snapshot.or _
    cases hsealed : snapshot.job.snapshot with
    | some reference => rfl
    | none =>
      rw [Option.none_or]
      symm
      by_contra hne
      obtain ⟨bound, hbound⟩ := Option.ne_none_iff_exists'.mp hne
      rw [snapshot_eq_of_bound hs bound hbound] at hsealed
      contradiction
  lease := by
    intro lease hlease
    rw [startAttempt_currentLease] at hlease
    cases hlease
    exact ⟨claimedAttempt snapshot now fence, startAttempt_latest, rfl, rfl, rfl, rfl⟩
  leaseDuration := by
    intro lease hlease
    rw [startAttempt_currentLease] at hlease
    cases hlease
    unfold claimedLease
    dsimp only [startAttempt]
    rw [orderKey_addMillisecondsUpTo]
    omega
  closed := by
    rw [startAttempt_currentLease]
    simp

theorem startAttempt_consistent : (startAttempt snapshot now fence).Consistent where
  request := hs.request
  jobShape := startAttempt_jobShape hs h
  job := startAttempt_job hs h
  attempts := by
    rw [startAttempt_attempts]
    exact List.forall_mem_append.mpr ⟨hs.attempts, List.forall_mem_singleton.mpr (claimedAttempt_accepted hs h)⟩
  attempts_length := by
    rw [startAttempt_attempts, List.length_append]
    exact h.length_lt_eight hs
  cancellationShape := hs.cancellationShape
  usage := hs.usage
  allowanceShape := hs.allowanceShape
  allowance := by
    intro allowance hmem
    have hnone : (startAttempt snapshot now fence).allowance = none := (h.idle hs).2.2.2
    rw [hnone] at hmem
    contradiction
  binding :=
    ⟨hs.binding.scope, hs.binding.evaluationRequestId, hs.binding.definitionSha256,
      hs.binding.created_le, hs.binding.createdByPrincipalId, hs.binding.deadline⟩
  count := by
    constructor
    . rw [startAttempt_attempts, List.length_append]
      rfl
    . rw [startAttempt_attempts, List.length_append]
      exact h.length_lt
    . simp only [startAttempt]
      split <;> simp
    . exact hs.count.usage
  history := startAttempt_history hs h
  latest := startAttempt_latestConsistent hs
  terminal := by
    constructor
    . have := (h.idle hs).2.1
      simp [startAttempt, touch, this]
    . simp only [startAttempt]
      split <;> simp
    . rw [startAttempt_latest]
      simp [claimedAttempt]
  cancelled := by
    simp only [startAttempt]
    split <;> simp
  cancellation := by
    intro cancellation hmem
    have hcancellation := hs.cancellation cancellation hmem
    exact ⟨hcancellation.scope, hcancellation.jobId, hcancellation.created_le,
      hcancellation.requested_le.trans h.updated_le⟩

end Claim

section Transition

variable {snapshot draft : PolicyEvaluationJobSnapshot} {now : PolicyEvaluationTime}

theorem ended_closes (hs : snapshot.Consistent) (hterminal : snapshot.job.terminal = none)
    (hupdated : snapshot.job.updatedAt.orderKey ≤ now.orderKey)
    (hversion : snapshot.job.stateVersion < maxSafeInteger) {recoveryEpoch : Nat}
    (hepoch : snapshot.job.recoveryEpoch ≤ recoveryEpoch) (hmax : recoveryEpoch ≤ maxSafeInteger)
    {closure : PolicyEvaluationClosure} (hcommitted : closure.committedAt = now)
    (hcompleted : closure.isCompleted = false)
    (hsuits : ∀ latest ∈ snapshot.latest, latest.closure = none → closure.Suits latest.phase)
    {status : PolicyEvaluationJobTerminalStatus} {code : PolicyEvaluationJobTerminalCode}
    (hcode : code ∈ status.codes) (hnotCompleted : status ≠ .completed)
    (hnotCancelled : status ≠ .cancelled)
    : (terminate (advanceEpoch (closeUncertain snapshot closure) recoveryEpoch) now status
        code).Consistent := by
  apply (terminate_closing snapshot now closure hepoch status code).consistent hs hupdated
    (terminate_outcome hs hterminal now closure recoveryEpoch hcode hnotCompleted hnotCancelled)
    hcommitted hsuits _ hversion hmax
  simp [hcompleted]

theorem retryOrFail_closes (hs : snapshot.Consistent) (hterminal : snapshot.job.terminal = none)
    (hupdated : snapshot.job.updatedAt.orderKey ≤ now.orderKey)
    (hversion : snapshot.job.stateVersion < maxSafeInteger) {recoveryEpoch : Nat}
    (hepoch : snapshot.job.recoveryEpoch ≤ recoveryEpoch) (hmax : recoveryEpoch ≤ maxSafeInteger)
    (hattempts : snapshot.attempts ≠ []) {closure : PolicyEvaluationClosure}
    (hcommitted : closure.committedAt = now) (hcompleted : closure.isCompleted = false)
    (hsuits : ∀ latest ∈ snapshot.latest, latest.closure = none → closure.Suits latest.phase)
    (reason : PolicyEvaluationRetryableError)
    : (retryOrFail (advanceEpoch (closeUncertain snapshot closure) recoveryEpoch) now
        reason).Consistent := by
  apply (retryOrFail_closing snapshot now closure hepoch reason).consistent hs hupdated
    (retryOrFail_outcome hs hterminal hattempts now closure recoveryEpoch reason) hcommitted hsuits
    _ hversion
  . unfold retryOrFail
    dsimp only
    split <;> exact hmax
  . simp [hcompleted]

theorem attempts_ne_nil_of_leased (hs : snapshot.Consistent) {lease : PolicyEvaluationLease}
    (hlease : snapshot.job.currentLease = some lease)
    : snapshot.attempts ≠ [] := by
  obtain ⟨latest, hlatest, -⟩ := hs.latest.lease lease hlease
  rw [← exists_latest_iff]
  exact ⟨latest, hlatest⟩

theorem recoveryClosure_committedAt (job : PolicyEvaluationJob) (now : PolicyEvaluationTime)
    : (recoveryClosure job now).committedAt = now := by
  unfold recoveryClosure
  repeat' split
  all_goals rfl

theorem recoveryClosure_isCompleted (job : PolicyEvaluationJob) (now : PolicyEvaluationTime)
    : (recoveryClosure job now).isCompleted = false := by
  unfold recoveryClosure
  repeat' split
  all_goals rfl

theorem recoveryClosure_suits (job : PolicyEvaluationJob) (now : PolicyEvaluationTime)
    (phase : PolicyEvaluationPhase)
    : (recoveryClosure job now).Suits phase := by
  unfold recoveryClosure
  repeat' split
  all_goals simp [PolicyEvaluationClosure.Suits, PolicyEvaluationClosureStatus.codes]

theorem sealed_of_computing (hs : snapshot.Consistent) {latest : PolicyEvaluationAttempt}
    (hlatest : snapshot.latest = some latest) (hphase : latest.phase = .computing)
    : snapshot.job.snapshot.isSome := by
  have hmem := List.mem_of_getLast? hlatest
  have hattempt := (PolicyEvaluationAttempt.accepted_iff.mp (hs.attempts latest hmem)).2
  have hsealed := hattempt.phase.mp hphase
  rw [hs.latest.snapshot (List.ne_nil_of_mem hmem)]
  unfold PolicyEvaluationJobSnapshot.latest at hlatest
  obtain ⟨attempts, hattempts⟩ := List.getLast?_eq_some_iff.mp hlatest
  rw [hattempts, ofAttempts_concat]
  simp only [AttemptHistory.next]
  rw [Option.isSome_or, hsealed]
  rfl

namespace PolicyEvaluationTransition

/-- The two transitions that rely on the closing parse: sealing does not look for an open allowance
and reserving an allowance does not look for a retained cancellation. -/
def Covered (snapshot : PolicyEvaluationJobSnapshot) : PolicyEvaluationTransition → Prop
  | .sealSnapshot _ _ _ _ => snapshot.allowance = none
  | .reserveAcquisition _ _ _ _ => snapshot.cancellation = none
  | _ => True

theorem draft_consistent {transition : PolicyEvaluationTransition}
    (hcovered : transition.Covered snapshot) (h : transition.draft snapshot = .ok draft)
    : draft.Consistent := by
  cases transition with
  | claim now epoch attemptId leaseId workerId =>
    obtain ⟨hs, fence, hclaims, -, -, -, -, rfl⟩ := claimPolicyEvaluationJob.draft_eq_ok h
    exact startAttempt_consistent (accepted_iff.mp hs) hclaims
  | heartbeat now epoch fence =>
    obtain ⟨hs, lease, hlive, -, hversion, rfl⟩ := heartbeatPolicyEvaluationJob.draft_eq_ok h
    exact renewLease_consistent (accepted_iff.mp hs) hlive hversion
  | reserveUsage now epoch fence delta =>
    obtain ⟨hs, ⟨lease, hlive⟩, hdelta, hlimits, hversion, rfl⟩ :=
      reservePolicyEvaluationUsage.draft_eq_ok h
    exact reserveUsage_consistent (accepted_iff.mp hs) hlive hversion hdelta hlimits
  | reserveAcquisition now epoch fence allowanceId =>
    obtain ⟨hs, ⟨lease, hlive⟩, hstatus, hsnapshot, -, hversion, hid, rfl⟩ :=
      reservePolicyEvaluationAcquisition.draft_eq_ok h
    exact reserveAcquisition_consistent (accepted_iff.mp hs) hlive hversion hstatus hsnapshot
      hcovered hid
  | settleAcquisition now epoch fence allowanceId usage =>
    obtain ⟨hs, ⟨lease, hlive⟩, hversion, allowance, hallowance, h⟩ :=
      settlePolicyEvaluationAcquisition.draft_eq_ok h
    have hterminal := hlive.terminal hs
    rw [accepted_iff] at hs
    rcases h with ⟨observed, -, hsettles, rfl⟩ | ⟨-, rfl⟩
    . exact settle_consistent hs hlive hversion hallowance hsettles
    . rw [← advanceEpoch_closeUncertain_self]
      apply ended_closes hs hterminal hlive.updated_le hversion (Nat.le_refl _)
        hs.jobShape.recoveryEpoch.2
      all_goals simp [PolicyEvaluationClosure.committedAt, PolicyEvaluationClosure.isCompleted,
        PolicyEvaluationClosure.Suits, PolicyEvaluationClosureStatus.codes,
        PolicyEvaluationJobTerminalStatus.codes]
  | sealSnapshot now epoch fence reference =>
    obtain ⟨hs, ⟨lease, hlive⟩, hreference, -, -, hlatest, hversion, rfl⟩ :=
      sealPolicyEvaluationJob.draft_eq_ok h
    exact seal_consistent (accepted_iff.mp hs) hlive hversion hcovered hreference hlatest
  | startComputation now epoch fence =>
    obtain ⟨hs, ⟨lease, hlive⟩, hstatus, hversion, rfl⟩ :=
      startPolicyEvaluationComputation.draft_eq_ok h
    exact start_consistent (accepted_iff.mp hs) hlive hversion hstatus
  | complete now epoch fence result ruleCount =>
    obtain ⟨hs, ⟨lease, hlive⟩, hresult, hstatus, ⟨latest, hlatest, hphase, hopen⟩, hversion, rfl⟩ :=
      completePolicyEvaluationJob.draft_eq_ok h
    rw [accepted_iff] at hs
    have hallowance : snapshot.allowance = none := by
      by_contra hne
      obtain ⟨allowance, hmem⟩ := Option.ne_none_iff_exists'.mp hne
      have := (hs.allowance allowance hmem).status
      rw [hstatus] at this
      contradiction
    have hunique : ∀ other ∈ snapshot.latest, other = latest := by
      intro other hother
      rw [hlatest] at hother
      exact (Option.some.inj hother).symm
    apply (completedWith_closing hallowance now result).consistent hs hlive.updated_le
      (completedWith_outcome hresult (sealed_of_computing hs hlatest hphase)
        ⟨latest, hlatest, hopen⟩) rfl _ _ hversion hs.jobShape.recoveryEpoch.2
    . intro other hother _
      rw [hunique other hother]
      exact hphase
    . intro other hother _ _
      obtain ⟨leased, hleased, -, -, hdeadline, -⟩ := hs.latest.lease lease hlive.current
      rw [hunique other hother, ← hunique leased hleased, hdeadline]
      exact hlive.lt_attemptDeadline
  | cancel intent =>
    obtain ⟨hs, hintent, hjob, hscope, h⟩ := cancelPolicyEvaluationJob.draft_eq_ok.mp h
    rw [accepted_iff] at hs
    rcases h with ⟨previous, -, -, -, -, rfl⟩ | ⟨-, -, hupdated, hversion, rfl⟩
    . exact hs
    . apply (cancelledWith_closing snapshot intent).consistent hs hupdated
        (cancelledWith_outcome hintent hjob hscope) rfl _ _ hversion
      . simpa [cancelledWith, terminate, touch] using hs.jobShape.recoveryEpoch.2
      . simp [PolicyEvaluationClosure.Suits, PolicyEvaluationClosureStatus.codes]
      . simp [PolicyEvaluationClosure.isCompleted]
  | interrupt now epoch fence reason =>
    obtain ⟨hs, ⟨lease, hlive⟩, hreason, hversion, rfl⟩ :=
      interruptPolicyEvaluationJob.draft_eq_ok h
    have hterminal := hlive.terminal hs
    rw [accepted_iff] at hs
    have hsuits : ∀ latest ∈ snapshot.latest, latest.closure = none →
        (PolicyEvaluationClosure.interrupted reason now).Suits latest.phase := by
      intro latest hlatest _
      rintro ⟨hphase, hchanged⟩
      exact hreason (sealed_of_computing hs hlatest hphase) hchanged
    rw [← advanceEpoch_closeUncertain_self]
    split
    . apply ended_closes hs hterminal hlive.updated_le hversion (Nat.le_refl _)
        hs.jobShape.recoveryEpoch.2 rfl rfl hsuits
      all_goals simp [PolicyEvaluationJobTerminalStatus.codes]
    . exact retryOrFail_closes hs hterminal hlive.updated_le hversion (Nat.le_refl _)
        hs.jobShape.recoveryEpoch.2 (attempts_ne_nil_of_leased hs hlive.current) rfl rfl hsuits reason
  | reclaim now epoch =>
    obtain ⟨hs, -, h⟩ := reclaimPolicyEvaluationJob.draft_eq_ok h
    rw [accepted_iff] at hs
    rcases h with ⟨-, rfl⟩ | ⟨hterminal, hupdated, hversion, h⟩
    . exact hs
    rcases h with ⟨-, rfl⟩ | ⟨⟨lease, hlease, -⟩, rfl⟩
    . rw [← advanceEpoch_closeUncertain_self]
      apply ended_closes hs hterminal hupdated hversion (Nat.le_refl _) hs.jobShape.recoveryEpoch.2
      all_goals simp [PolicyEvaluationClosure.committedAt, PolicyEvaluationClosure.isCompleted,
        PolicyEvaluationClosure.Suits, PolicyEvaluationClosureStatus.codes,
        PolicyEvaluationJobTerminalStatus.codes]
    . rw [← advanceEpoch_closeUncertain_self]
      split
      . apply ended_closes hs hterminal hupdated hversion (Nat.le_refl _)
          hs.jobShape.recoveryEpoch.2
        all_goals simp [PolicyEvaluationClosure.committedAt, PolicyEvaluationClosure.isCompleted,
          PolicyEvaluationClosure.Suits, PolicyEvaluationJobTerminalStatus.codes]
      . apply retryOrFail_closes hs hterminal hupdated hversion (Nat.le_refl _)
          hs.jobShape.recoveryEpoch.2 (attempts_ne_nil_of_leased hs hlease)
        all_goals simp [PolicyEvaluationClosure.committedAt, PolicyEvaluationClosure.isCompleted,
          PolicyEvaluationClosure.Suits]
  | recover now epoch =>
    obtain ⟨hs, hmax, hepoch, hupdated, h⟩ := recoverPolicyEvaluationJob.draft_eq_ok h
    rw [accepted_iff] at hs
    rcases h with ⟨-, rfl⟩ | ⟨hterminal, hcapacity, h⟩
    . exact hs
    have hversion : snapshot.job.stateVersion < maxSafeInteger :=
      Nat.lt_trans hcapacity (by decide)
    have hcommitted := recoveryClosure_committedAt snapshot.job now
    have hcompleted := recoveryClosure_isCompleted snapshot.job now
    have hsuits : ∀ latest ∈ snapshot.latest, latest.closure = none →
        (recoveryClosure snapshot.job now).Suits latest.phase := by
      intro latest _ _
      exact recoveryClosure_suits snapshot.job now latest.phase
    rcases h with ⟨-, rfl⟩ | rfl | ⟨hlease, -, rfl⟩ | ⟨hlease, -, hdeadline, rfl⟩
    . apply ended_closes hs hterminal hupdated hversion hepoch.le hmax hcommitted hcompleted hsuits
      all_goals simp [PolicyEvaluationJobTerminalStatus.codes]
    . apply ended_closes hs hterminal hupdated hversion hepoch.le hmax hcommitted hcompleted hsuits
      all_goals simp [PolicyEvaluationJobTerminalStatus.codes]
    . obtain ⟨lease, hlease⟩ := Option.isSome_iff_exists.mp hlease
      exact retryOrFail_closes hs hterminal hupdated hversion hepoch.le hmax
        (attempts_ne_nil_of_leased hs hlease) hcommitted hcompleted hsuits _
    . apply (recoverIdle_closing snapshot now _ hepoch.le hlease _).consistent hs hupdated
        (recoverIdle_outcome hs hterminal hlease hdeadline _ epoch) hcommitted hsuits _ hversion hmax
      simp [hcompleted]
  | exhaustHistory now =>
    obtain ⟨hs, hterminal, hlast, hupdated, rfl⟩ := exhaustPolicyEvaluationJobHistory.draft_eq_ok h
    rw [accepted_iff] at hs
    have hversion : snapshot.job.stateVersion < maxSafeInteger := by
      rw [hlast]
      decide
    rw [← advanceEpoch_closeUncertain_self]
    apply ended_closes hs hterminal hupdated hversion (Nat.le_refl _) hs.jobShape.recoveryEpoch.2
    all_goals simp [PolicyEvaluationClosure.committedAt, PolicyEvaluationClosure.isCompleted,
      PolicyEvaluationClosure.Suits, PolicyEvaluationClosureStatus.codes,
      PolicyEvaluationJobTerminalStatus.codes]

theorem draft_parses {transition : PolicyEvaluationTransition}
    {snapshot draft : PolicyEvaluationJobSnapshot} (hcovered : transition.Covered snapshot)
    (h : transition.draft snapshot = .ok draft)
    : parseSnapshot draft = .ok draft ∧ transition.apply snapshot = .ok draft := by
  have haccepted := accepted_iff.mpr (draft_consistent hcovered h)
  rw [parseSnapshot_eq_ok, apply_eq_ok]
  exact ⟨⟨haccepted, rfl⟩, h, haccepted⟩

end PolicyEvaluationTransition

end Transition

section Sample

def secondsAfterEpoch (seconds : Nat) (h : seconds ≤ 253402300799) : PolicyEvaluationTime where
  seconds := seconds
  digits := 3
  fraction := 0
  le_seconds := by omega
  seconds_le := by omega
  digits_le := PolicyEvaluationTime.millisecondDigits_le
  fraction_lt := PolicyEvaluationTime.wholeSecond_lt

theorem sampleStart_le : 0 ≤ 253402300799 := by
  decide

theorem sampleSecond_le : 1 ≤ 253402300799 := by
  decide

def sampleDigest : String := String.ofList (List.replicate 64 'a')

def sampleScope : EvidenceScope := ⟨"env_one", "project_one", "tenant_one"⟩

def sampleRequest : PolicyEvaluationRequest where
  candidate := ⟨"candidate_one", "version_one", sampleDigest⟩
  evaluationRequestId := "request_one"
  evaluationTime := secondsAfterEpoch 0 (by decide)
  limits := {
    heartbeatIntervalMilliseconds := 1000
    leaseDurationMilliseconds := 10000
    maxAcquisitionRecordBytes := 4096
    maxAcquisitionRecords := 16
    maxArtifactReadBytes := 4096
    maxAttempts := 2
    maxRuleEvaluations := 8
    perAttemptTimeoutMilliseconds := 60000
    retryBackoffMilliseconds := 1000
    retryableErrors := [.leaseExpired, .workerInterrupted]
    totalDeadlineMilliseconds := 120000 }
  policy := ⟨sampleDigest, "policy_one", "version_one"⟩
  createdAt := secondsAfterEpoch 0 (by decide)
  createdByPrincipalId := "principal_one"
  definitionSha256 := sampleDigest
  scope := sampleScope

def sampleQueued : PolicyEvaluationJobSnapshot where
  request := sampleRequest
  job := {
    jobId := "job_one"
    request := ⟨sampleDigest, "request_one"⟩
    definitionSha256 := sampleDigest
    scope := sampleScope
    createdAt := secondsAfterEpoch 0 (by decide)
    createdByPrincipalId := "principal_one"
    deadlineAt := secondsAfterEpoch 120 (by decide)
    updatedAt := secondsAfterEpoch 0 (by decide)
    stateVersion := 1
    recoveryEpoch := 0
    lastFencingToken := 0
    attemptCount := 0
    status := .queued
    currentLease := none
    snapshot := none
    result := none
    retryAt := none
    terminal := none }
  attempts := []
  cancellation := none
  usage := .zero
  acquisitionAllowance := none

def sampleFence : PolicyEvaluationWorkerMutationFence where
  jobId := "job_one"
  attemptId := "attempt_one"
  workerId := "worker_one"
  leaseId := "lease_one"
  fencingToken := 1
  recoveryEpoch := 0

def sampleClaimed : PolicyEvaluationJobSnapshot :=
  startAttempt sampleQueued (secondsAfterEpoch 1 (by decide)) sampleFence

def sampleCancelling : PolicyEvaluationJobSnapshot :=
  { sampleClaimed with
    cancellation := some {
      jobId := "job_one"
      cancellationId := "cancellation_one"
      scope := sampleScope
      requestedAt := secondsAfterEpoch 1 (by decide)
      requestedByPrincipalId := "principal_one"
      reason := .operatorRequested } }

def sampleReserve : PolicyEvaluationTransition :=
  .reserveAcquisition (secondsAfterEpoch 2 (by decide)) 0 sampleFence "allowance_one"

def withSampleAllowance (snapshot : PolicyEvaluationJobSnapshot) : PolicyEvaluationJobSnapshot :=
  { snapshot with
    acquisitionAllowance := some (some {
      allowanceId := "allowance_one"
      mutationFence := sampleFence
      reservedAt := secondsAfterEpoch 2 (by decide)
      usageAtReservation := ⟨0, 0, 0, 0, 0⟩
      limits := ⟨16, 16, 16, 4096⟩ })
    job := touch snapshot.job (secondsAfterEpoch 2 (by decide)) }

theorem sampleDigest_accepted : Sha256Schema sampleDigest = true :=
  sha256Schema_replicate rfl

theorem sampleRequest_accepted : sampleRequest.Accepted := by
  refine ⟨?_, by decide⟩
  constructor
  case candidate => exact ⟨by decide, by decide, sampleDigest_accepted⟩
  case policy => exact ⟨sampleDigest_accepted, by decide, by decide⟩
  case definitionSha256 => exact sampleDigest_accepted
  all_goals decide

theorem sampleQueued_job_accepted : sampleQueued.job.Accepted := by
  refine ⟨?_, by decide⟩
  constructor
  case request => exact ⟨sampleDigest_accepted, by decide⟩
  case definitionSha256 => exact sampleDigest_accepted
  all_goals decide

theorem sampleQueued_accepted : sampleQueued.Accepted := by
  refine ⟨?_, by decide⟩
  constructor
  case request => exact sampleRequest_accepted
  case job => exact sampleQueued_job_accepted
  all_goals decide

namespace PolicyEvaluationTransition

theorem draft_sampleQueued
    : (claim (secondsAfterEpoch 1 sampleSecond_le) 0 "attempt_one" "lease_one" "worker_one").draft sampleQueued
        = .ok sampleClaimed :=
  bind_eq_ok.mpr ⟨_, parseSnapshot_eq_ok.mpr ⟨sampleQueued_accepted, rfl⟩, rfl⟩

theorem apply_sampleQueued
    : (claim (secondsAfterEpoch 1 sampleSecond_le) 0 "attempt_one" "lease_one" "worker_one").apply sampleQueued
        = .ok sampleClaimed := by
  refine (draft_parses ?_ draft_sampleQueued).2
  trivial

theorem sampleClaimed_accepted : sampleClaimed.Accepted :=
  (apply_eq_ok.mp apply_sampleQueued).2

theorem sampleCancelling_accepted : sampleCancelling.Accepted :=
  ⟨{ sampleClaimed_accepted.1 with cancellation := by decide }, by decide⟩

theorem draft_sampleReserve_sampleClaimed
    : sampleReserve.draft sampleClaimed = .ok (withSampleAllowance sampleClaimed) := by
  have hparse := parseSnapshot_eq_ok.mpr ⟨sampleClaimed_accepted, rfl⟩
  exact bind_eq_ok.mpr ⟨_, hparse, bind_eq_ok.mpr ⟨_, bind_eq_ok.mpr ⟨_, hparse, rfl⟩, rfl⟩⟩

theorem draft_sampleReserve_sampleCancelling
    : sampleReserve.draft sampleCancelling = .ok (withSampleAllowance sampleCancelling) := by
  have hparse := parseSnapshot_eq_ok.mpr ⟨sampleCancelling_accepted, rfl⟩
  exact bind_eq_ok.mpr ⟨_, hparse, bind_eq_ok.mpr ⟨_, bind_eq_ok.mpr ⟨_, hparse, rfl⟩, rfl⟩⟩

theorem draft_parses_sampleClaimed
    : sampleReserve.Covered sampleClaimed
        ∧ sampleReserve.draft sampleClaimed = .ok (withSampleAllowance sampleClaimed)
        ∧ parseSnapshot (withSampleAllowance sampleClaimed)
            = .ok (withSampleAllowance sampleClaimed) := by
  have hdraft := draft_sampleReserve_sampleClaimed
  have hcovered : sampleReserve.Covered sampleClaimed := rfl
  exact ⟨hcovered, hdraft, (draft_parses hcovered hdraft).1⟩

theorem draft_not_parses_sampleCancelling
    : ¬∀ (transition : PolicyEvaluationTransition) (snapshot draft : PolicyEvaluationJobSnapshot),
        snapshot.Accepted →
        (∀ now epoch fence reference,
          transition = .sealSnapshot now epoch fence reference → snapshot.allowance = none) →
        transition.draft snapshot = .ok draft →
        parseSnapshot draft = .ok draft := by
  intro h
  have hparse := h sampleReserve sampleCancelling _ sampleCancelling_accepted (by simp [sampleReserve])
    draft_sampleReserve_sampleCancelling
  rw [parseSnapshot_eq_ok] at hparse
  exact absurd hparse.1.2 (by decide)

end PolicyEvaluationTransition

end Sample

end Policy
end ProofStack
