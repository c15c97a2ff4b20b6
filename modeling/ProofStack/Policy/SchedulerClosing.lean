import ProofStack.Policy.SchedulerStep

/-!
This module contains the proof that a snapshot whose latest attempt has been closed is accepted by the
snapshot schema again.
-/

namespace ProofStack
namespace Policy

open PolicyEvaluationTime PolicyEvaluationJobSnapshot

section Usage

theorem WithinLimits.accepted {limits : PolicyEvaluationExecutionLimits}
    {usage : PolicyEvaluationUsage} (hlimits : limits.Accepted) (h : WithinLimits limits usage)
    : usage.Accepted := by
  rw [PolicyEvaluationUsage.accepted_iff]
  have hshape := hlimits.1
  have h1 := hshape.maxAcquisitionRecords.2
  have h2 := hshape.maxAcquisitionRecordBytes.2
  have h3 := hshape.maxArtifactReadBytes.2
  have h4 := hshape.maxRuleEvaluations.2
  exact ⟨h.reads.trans h1, h.records.trans h1, h.references.trans h1, h.artifactReadBytes.trans h3,
    h.ruleEvaluations.trans h4, h.bytes.trans h2⟩

theorem charge_withinLimits {snapshot : PolicyEvaluationJobSnapshot}
    {allowance : PolicyEvaluationAcquisitionAllowance} {usage : PolicyEvaluationAcquisitionUsage}
    (hs : snapshot.Consistent) (hallowance : snapshot.allowance = some allowance)
    (h : Settles allowance usage)
    : WithinLimits snapshot.request.limits (charge snapshot usage).usage := by
  have ha := hs.allowance allowance hallowance
  have hu := hs.count.usage
  have h1 := ha.limits_reads
  have h2 := ha.limits_records
  have h3 := ha.limits_references
  have h4 := ha.limits_bytes
  have h5 := h.reads
  have h6 := h.records
  have h7 := h.references
  have h8 := h.bytes
  constructor
  . show snapshot.usage.records + usage.records ≤ _
    omega
  . show snapshot.usage.reads + usage.reads ≤ _
    omega
  . show snapshot.usage.references + usage.references ≤ _
    omega
  . show snapshot.usage.recordBytes + usage.recordBytes
      + (snapshot.usage.referenceBytes + usage.referenceBytes) ≤ _
    omega
  . exact hu.artifactReadBytes
  . exact hu.ruleEvaluations

theorem settles_fullAllowanceUsage (allowance : PolicyEvaluationAcquisitionAllowance)
    : Settles allowance (fullAllowanceUsage allowance) := by
  constructor <;> simp [fullAllowanceUsage]

theorem chargeUncertain_withinLimits {snapshot : PolicyEvaluationJobSnapshot}
    (hs : snapshot.Consistent)
    : WithinLimits snapshot.request.limits
        (chargeUncertainPolicyEvaluationAcquisition snapshot).usage := by
  cases hallowance : snapshot.allowance with
  | none =>
    rw [chargeUncertain_of_none hallowance]
    exact hs.count.usage
  | some allowance =>
    rw [chargeUncertain_of_some hallowance]
    exact charge_withinLimits hs hallowance (settles_fullAllowanceUsage allowance)

end Usage

section CloseAttempt

variable {attempt : PolicyEvaluationAttempt} {usage : PolicyEvaluationUsage}
variable {closure : PolicyEvaluationClosure}

theorem closeAttempt_of_closed (h : attempt.closure.isSome)
    : closeAttempt usage closure attempt = attempt := by
  unfold closeAttempt
  rw [if_neg]
  rw [Option.isSome_iff_ne_none] at h
  exact h

theorem closeAttempt_of_open (h : attempt.closure = none)
    : closeAttempt usage closure attempt
        =
      { attempt with closure := some closure, usageAtClose := some usage } := by
  unfold closeAttempt
  rw [if_pos h]

theorem closeAttempt_closed (usage : PolicyEvaluationUsage) (closure : PolicyEvaluationClosure)
    (attempt : PolicyEvaluationAttempt)
    : (closeAttempt usage closure attempt).closure.isSome := by
  unfold closeAttempt
  split
  . rfl
  . next h => simpa [Option.isSome_iff_ne_none] using h

@[simp]
theorem closeAttempt_mutationFence (usage : PolicyEvaluationUsage)
    (closure : PolicyEvaluationClosure) (attempt : PolicyEvaluationAttempt)
    : (closeAttempt usage closure attempt).mutationFence = attempt.mutationFence := by
  unfold closeAttempt
  split <;> rfl

@[simp]
theorem closeAttempt_snapshot (usage : PolicyEvaluationUsage)
    (closure : PolicyEvaluationClosure) (attempt : PolicyEvaluationAttempt)
    : (closeAttempt usage closure attempt).snapshot = attempt.snapshot := by
  unfold closeAttempt
  split <;> rfl

@[simp]
theorem closeAttempt_deadlineAt (usage : PolicyEvaluationUsage)
    (closure : PolicyEvaluationClosure) (attempt : PolicyEvaluationAttempt)
    : (closeAttempt usage closure attempt).deadlineAt = attempt.deadlineAt := by
  unfold closeAttempt
  split <;> rfl

theorem closeAttempt_accepted (h : attempt.Accepted) (husage : usage.Accepted)
    (hstart : attempt.usageAtStart ≤ usage)
    (hcommitted : attempt.startedAt.orderKey ≤ closure.committedAt.orderKey)
    (hsuits : attempt.closure = none → closure.Suits attempt.phase)
    : (closeAttempt usage closure attempt).Accepted := by
  by_cases hopen : attempt.closure = none
  . rw [closeAttempt_of_open hopen]
    rw [PolicyEvaluationAttempt.accepted_iff] at h ⊢
    refine ⟨⟨h.1.scope, h.1.mutationFence, h.1.attemptSequence, h.1.snapshot, h.1.usageAtStart, ?_⟩,
      h.2.window, h.2.phase, by simp, ?_, ?_, ?_⟩
    . intro closed hclosed
      cases hclosed
      exact husage
    . intro closed hclosed
      cases hclosed
      exact hcommitted
    . intro closed hclosed
      cases hclosed
      exact hsuits hopen
    . intro closed hclosed
      cases hclosed
      exact hstart
  . rw [← ne_eq, ← Option.isSome_iff_ne_none] at hopen
    rw [closeAttempt_of_closed hopen]
    exact h

theorem closeAttempt_consistent {request : PolicyEvaluationRequest} {job job' : PolicyEvaluationJob}
    {usage' : PolicyEvaluationUsage} {history : AttemptHistory}
    (h : AttemptConsistent request job usage history attempt)
    (hgrows : Grows job usage job' usage')
    (hcommitted : closure.committedAt.orderKey ≤ job'.updatedAt.orderKey)
    : AttemptConsistent request job' usage' history (closeAttempt usage' closure attempt) := by
  have h := h.mono hgrows
  by_cases hopen : attempt.closure = none
  . rw [closeAttempt_of_open hopen]
    refine ⟨h.attemptId, h.leaseId, h.scope, h.jobId, h.attemptSequence, h.previousFence_lt,
      h.previousEpoch_le, h.recoveryEpoch_le, h.created_le, h.started_le, h.previousClosed,
      h.deadline, ?_, h.snapshot, ?_, h.usageAtStart_le, h.prior_le⟩
    . intro closed hclosed
      cases hclosed
      exact hcommitted
    . intro closed hclosed
      cases hclosed
      exact le_refl _
  . rw [← ne_eq, ← Option.isSome_iff_ne_none] at hopen
    rw [closeAttempt_of_closed hopen]
    exact h

end CloseAttempt

section Closing

variable {before after : PolicyEvaluationJobSnapshot} {now : PolicyEvaluationTime}
variable {closure : PolicyEvaluationClosure}

theorem Closing.grows (h : Closing before after now closure)
    (hupdated : before.job.updatedAt.orderKey ≤ now.orderKey)
    : Grows before.job before.usage after.job after.usage where
  scope := h.identity.scope
  jobId := by rw [h.identity.definition]
  createdAt := h.identity.createdAt
  recoveryEpoch := h.recoveryEpoch_le
  updatedAt := by
    rw [h.updatedAt]
    exact hupdated
  usage := by
    rw [h.usage]
    exact le_chargeUncertain_usage before

theorem Closing.withinLimits (h : Closing before after now closure) (hs : before.Consistent)
    : WithinLimits after.request.limits after.usage := by
  rw [h.request, h.usage]
  exact chargeUncertain_withinLimits hs

theorem Closing.usage_accepted (h : Closing before after now closure) (hs : before.Consistent)
    : after.usage.Accepted := by
  apply WithinLimits.accepted _ (h.withinLimits hs)
  rw [h.request]
  exact hs.request.1.limits

theorem Closing.latest_eq (h : Closing before after now closure)
    : after.latest = before.latest.map (closeAttempt after.usage closure) := by
  unfold latest
  rw [h.attempts]
  cases before.attempts using List.reverseRecOn with
  | nil => rfl
  | append_singleton attempts attempt => simp [List.modifyLast_concat]

theorem Closing.length_eq (h : Closing before after now closure)
    : after.attempts.length = before.attempts.length := by
  rw [h.attempts]
  cases before.attempts using List.reverseRecOn with
  | nil => rfl
  | append_singleton attempts attempt => simp [List.modifyLast_concat]

theorem Closing.boundSnapshot (h : Closing before after now closure)
    : (AttemptHistory.ofAttempts after.attempts).boundSnapshot
        =
      (AttemptHistory.ofAttempts before.attempts).boundSnapshot := by
  rw [h.attempts]
  cases before.attempts using List.reverseRecOn with
  | nil => rfl
  | append_singleton attempts attempt =>
    rw [List.modifyLast_concat, ofAttempts_concat, ofAttempts_concat]
    simp [AttemptHistory.next]

theorem Closing.history (h : Closing before after now closure) (hs : before.Consistent)
    (hupdated : before.job.updatedAt.orderKey ≤ now.orderKey) (hcommitted : closure.committedAt = now)
    : HistoryConsistent after.request after.job after.usage after.attempts := by
  have hhistory := hs.history
  rw [h.attempts, h.request]
  cases hattempts : before.attempts using List.reverseRecOn with
  | nil => exact historyConsistent_nil
  | append_singleton attempts attempt =>
    rw [hattempts, historyConsistent_concat] at hhistory
    rw [List.modifyLast_concat, historyConsistent_concat]
    refine ⟨hhistory.1.mono (h.grows hupdated), closeAttempt_consistent hhistory.2
      (h.grows hupdated) ?_⟩
    rw [hcommitted, h.updatedAt]

theorem Closing.attempts_accepted (h : Closing before after now closure) (hs : before.Consistent)
    (hupdated : before.job.updatedAt.orderKey ≤ now.orderKey) (hcommitted : closure.committedAt = now)
    (hsuits : ∀ latest ∈ before.latest, latest.closure = none → closure.Suits latest.phase)
    : ∀ attempt ∈ after.attempts, attempt.Accepted := by
  have hhistory := hs.history
  have haccepted := hs.attempts
  unfold latest at hsuits
  rw [h.attempts]
  cases hattempts : before.attempts using List.reverseRecOn with
  | nil =>
    intro attempt hmem
    contradiction
  | append_singleton attempts latest =>
    rw [hattempts] at haccepted hsuits
    rw [hattempts, historyConsistent_concat] at hhistory
    rw [List.modifyLast_concat]
    intro attempt hmem
    rw [List.mem_append, List.mem_singleton] at hmem
    rcases hmem with hmem | rfl
    . exact haccepted attempt (List.mem_append_left _ hmem)
    . apply closeAttempt_accepted (haccepted latest (by simp)) (h.usage_accepted hs)
      . exact hhistory.2.usageAtStart_le.trans (h.grows hupdated).usage
      . rw [hcommitted]
        exact hhistory.2.started_le.trans hupdated
      . exact hsuits latest (by simp)

structure Outcome (before after : PolicyEvaluationJobSnapshot) (now : PolicyEvaluationTime)
    (closure : PolicyEvaluationClosure) : Prop where
  isTerminal : after.job.status.isTerminal = after.job.terminal.isSome
  notLeased : after.job.status.isLeased = false
  terminal : ∀ terminal ∈ after.job.terminal,
    terminal.status.toStatus = after.job.status
      ∧ terminal.code ∈ terminal.status.codes
      ∧ terminal.attemptId = latestAttemptId before
      ∧ terminal.committedAt = now
  result : after.job.status = .completed ↔ after.job.result.isSome
  resultShape : ∀ result ∈ after.job.result, result.Accepted
  completed : after.job.status = .completed →
    closure.isCompleted ∧ before.job.snapshot.isSome
      ∧ ∃ latest ∈ before.latest, latest.closure = none
  isRetry : after.job.status = .retryReady ↔ after.job.retryAt.isSome
  retry : ∀ retryAt ∈ after.job.retryAt,
    before.attempts ≠ []
      ∧ now.orderKey ≤ retryAt.orderKey
      ∧ retryAt.orderKey < before.job.deadlineAt.orderKey
      ∧ before.attempts.length < before.request.limits.maxAttempts
  queued : after.job.status = .queued → before.job.status = .queued
  cancelled : after.job.status = .cancelled → after.cancellation.isSome
  cancellation : ∀ cancellation ∈ after.cancellation,
    cancellation ∈ before.cancellation
      ∨ (cancellation.Accepted
          ∧ cancellation.scope = before.job.scope
          ∧ cancellation.jobId = before.job.jobId
          ∧ cancellation.requestedAt = now)

theorem latestAttemptId_accepted (hs : before.Consistent)
    : ∀ attemptId ∈ latestAttemptId before, OpaqueIdSchema attemptId := by
  intro attemptId hmem
  unfold latestAttemptId at hmem
  rw [Option.mem_def, Option.map_eq_some_iff] at hmem
  rcases hmem with ⟨latest, hlatest, rfl⟩
  have haccepted := hs.attempts latest (List.mem_of_getLast? hlatest)
  exact haccepted.1.mutationFence.attemptId

theorem latestAttemptId_eq_none_iff (hs : before.Consistent)
    : before.job.attemptCount = 0 ↔ latestAttemptId before = none := by
  unfold latestAttemptId
  rw [Option.map_eq_none_iff, latest_eq_none_iff, hs.count.attemptCount, List.length_eq_zero_iff]

variable (h : Closing before after now closure) (hs : before.Consistent)
variable (hupdated : before.job.updatedAt.orderKey ≤ now.orderKey)
variable (ho : Outcome before after now closure)
include h hs ho

theorem Closing.jobShape (hversion : before.job.stateVersion < maxSafeInteger)
    (hepoch : after.job.recoveryEpoch ≤ maxSafeInteger)
    : after.job.Shape where
  jobId := by
    rw [h.identity.definition]
    exact hs.jobShape.jobId
  request := by
    rw [h.identity.definition]
    exact hs.jobShape.request
  definitionSha256 := by
    rw [h.identity.definitionSha256]
    exact hs.jobShape.definitionSha256
  scope := by
    rw [h.identity.scope]
    exact hs.jobShape.scope
  createdByPrincipalId := by
    rw [h.identity.createdByPrincipalId]
    exact hs.jobShape.createdByPrincipalId
  stateVersion := by
    rw [h.stateVersion]
    exact ⟨by omega, hversion⟩
  recoveryEpoch := ⟨Nat.zero_le _, hepoch⟩
  lastFencingToken := by
    rw [h.lastFencingToken]
    exact hs.jobShape.lastFencingToken
  attemptCount := by
    rw [h.attemptCount]
    exact hs.jobShape.attemptCount
  currentLease := by
    rw [h.currentLease]
    simp
  snapshot := by
    rw [h.snapshot]
    exact hs.jobShape.snapshot
  result := ho.resultShape
  terminal := by
    intro terminal hmem
    obtain ⟨hstatus, hcode, hattempt, -⟩ := ho.terminal terminal hmem
    constructor
    . rw [hattempt]
      exact latestAttemptId_accepted hs
    . unfold PolicyEvaluationJobTerminal.issues
      simp only [List.append_eq_nil_iff, issue_eq_nil, not_not, not_and]
      refine ⟨hcode, ?_⟩
      intro hcompleted hnone
      rw [hcompleted] at hstatus
      obtain ⟨-, -, latest, hlatest, -⟩ := ho.completed hstatus.symm
      rw [hattempt] at hnone
      unfold latestAttemptId at hnone
      rw [Option.map_eq_none_iff] at hnone
      rw [hnone] at hlatest
      contradiction

include hupdated

theorem Closing.job_consistent : after.job.Consistent where
  created_le := by
    rw [h.identity.createdAt, h.updatedAt]
    exact hs.job.created_le.trans hupdated
  created_lt := by
    rw [h.identity.createdAt, h.identity.deadlineAt]
    exact hs.job.created_lt
  isTerminal := ho.isTerminal
  terminal := by
    intro terminal hmem
    obtain ⟨hstatus, -, hattempt, hcommitted⟩ := ho.terminal terminal hmem
    constructor
    . exact hstatus
    . rw [hcommitted, h.updatedAt]
    . rw [hcommitted, h.identity.createdAt]
      exact hs.job.created_le.trans hupdated
    . rw [h.attemptCount, hattempt]
      exact latestAttemptId_eq_none_iff hs
  isLeased := by
    rw [h.currentLease]
    exact ho.notLeased
  lease := by
    rw [h.currentLease]
    simp
  claimed := by
    rw [h.attemptCount, h.lastFencingToken]
    exact hs.job.claimed
  unsealed := by
    intro hstatus
    rw [h.snapshot]
    rcases hstatus with hstatus | hstatus
    . exact hs.job.unsealed (.inl (ho.queued hstatus))
    . have := ho.notLeased
      rw [hstatus] at this
      contradiction
  isSealed := by
    intro hstatus
    have hleased := ho.notLeased
    rw [h.snapshot]
    rcases hstatus with hstatus | hstatus | hstatus
    . rw [hstatus] at hleased
      contradiction
    . rw [hstatus] at hleased
      contradiction
    . exact (ho.completed hstatus).2.1
  result := ho.result
  isRetry := ho.isRetry
  retry := by
    intro retryAt hmem
    obtain ⟨hne, hle, hlt, -⟩ := ho.retry retryAt hmem
    constructor
    . rw [h.attemptCount, hs.count.attemptCount]
      simpa using hne
    . rw [h.updatedAt]
      exact hle
    . rw [h.identity.deadlineAt]
      exact hlt
  queued := by
    intro hstatus
    rw [h.attemptCount]
    exact hs.job.queued (ho.queued hstatus)

theorem Closing.consistent (hcommitted : closure.committedAt = now)
    (hsuits : ∀ latest ∈ before.latest, latest.closure = none → closure.Suits latest.phase)
    (hintime : ∀ latest ∈ before.latest, latest.closure = none → closure.isCompleted →
      now.orderKey < latest.deadlineAt.orderKey)
    (hversion : before.job.stateVersion < maxSafeInteger)
    (hepoch : after.job.recoveryEpoch ≤ maxSafeInteger)
    : after.Consistent where
  request := by
    rw [h.request]
    exact hs.request
  jobShape := h.jobShape hs ho hversion hepoch
  job := h.job_consistent hs hupdated ho
  attempts := h.attempts_accepted hs hupdated hcommitted hsuits
  attempts_length := by
    rw [h.length_eq]
    exact hs.attempts_length
  cancellationShape := by
    intro cancellation hmem
    rcases ho.cancellation cancellation hmem with hold | hnew
    . exact hs.cancellationShape cancellation hold
    . exact hnew.1
  usage := h.usage_accepted hs
  allowanceShape := by
    rw [h.allowance]
    simp
  allowance := by
    rw [h.allowance]
    simp
  binding := by
    have hbinding := hs.binding
    rw [h.request]
    constructor
    . rw [h.identity.scope]
      exact hbinding.scope
    . rw [h.identity.definition]
      exact hbinding.evaluationRequestId
    . rw [h.identity.definition]
      exact hbinding.definitionSha256
    . rw [h.identity.createdAt]
      exact hbinding.created_le
    . rw [h.identity.createdByPrincipalId]
      exact hbinding.createdByPrincipalId
    . rw [h.identity.deadlineAt]
      exact hbinding.deadline
  count := by
    constructor
    . rw [h.attemptCount, h.length_eq]
      exact hs.count.attemptCount
    . rw [h.length_eq, h.request]
      exact hs.count.length_le
    . intro hstatus
      rw [ho.isRetry, Option.isSome_iff_exists] at hstatus
      rcases hstatus with ⟨retryAt, hmem⟩
      rw [h.length_eq, h.request]
      exact (ho.retry retryAt hmem).2.2.2
    . exact h.withinLimits hs
  history := h.history hs hupdated hcommitted
  latest := by
    constructor
    . intro latest hlatest
      rw [h.latest_eq, Option.mem_def, Option.map_eq_some_iff] at hlatest
      rcases hlatest with ⟨old, hold, rfl⟩
      rw [closeAttempt_mutationFence, h.lastFencingToken]
      exact hs.latest.fencingToken old hold
    . intro hne
      rw [h.snapshot, h.boundSnapshot]
      apply hs.latest.snapshot
      intro hnil
      apply hne
      rw [← List.length_eq_zero_iff, h.length_eq, hnil]
      rfl
    . rw [h.currentLease]
      simp
    . rw [h.currentLease]
      simp
    . intro _ latest hlatest
      rw [h.latest_eq, Option.mem_def, Option.map_eq_some_iff] at hlatest
      rcases hlatest with ⟨old, -, rfl⟩
      exact closeAttempt_closed _ _ _
  terminal := by
    constructor
    . intro terminal hterminal attemptId hattempt
      obtain ⟨-, -, heq, -⟩ := ho.terminal terminal hterminal
      rw [heq] at hattempt
      unfold latestAttemptId at hattempt
      rw [Option.mem_def, Option.map_eq_some_iff] at hattempt
      rcases hattempt with ⟨latest, hlatest, rfl⟩
      refine ⟨closeAttempt after.usage closure latest, ?_, by simp, closeAttempt_closed _ _ _⟩
      rw [h.latest_eq, hlatest]
      rfl
    . intro hstatus
      obtain ⟨hcompleted, -, latest, hlatest, hopen⟩ := ho.completed hstatus
      refine ⟨closeAttempt after.usage closure latest, ?_, closure, ?_, hcompleted⟩
      . rw [h.latest_eq, hlatest]
        rfl
      . rw [closeAttempt_of_open hopen]
        rfl
    . intro latest hlatest committed hcommit hcompleted
      rw [h.latest_eq, Option.mem_def, Option.map_eq_some_iff] at hlatest
      rcases hlatest with ⟨old, hold, rfl⟩
      rw [closeAttempt_deadlineAt]
      by_cases hopen : old.closure = none
      . rw [closeAttempt_of_open hopen] at hcommit
        cases hcommit
        rw [hcommitted]
        exact hintime old hold hopen hcompleted
      . rw [← ne_eq, ← Option.isSome_iff_ne_none] at hopen
        rw [closeAttempt_of_closed hopen] at hcommit
        exact hs.terminal.inTime old hold committed hcommit hcompleted
  cancelled := ho.cancelled
  cancellation := by
    intro cancellation hmem
    rcases ho.cancellation cancellation hmem with hold | ⟨-, hscope, hjob, hrequested⟩
    . have hcancellation := hs.cancellation cancellation hold
      constructor
      . rw [h.identity.scope]
        exact hcancellation.scope
      . rw [h.identity.definition]
        exact hcancellation.jobId
      . rw [h.identity.createdAt]
        exact hcancellation.created_le
      . rw [h.updatedAt]
        exact hcancellation.requested_le.trans hupdated
    . constructor
      . rw [h.identity.scope]
        exact hscope
      . rw [h.identity.definition]
        exact hjob
      . rw [h.identity.createdAt, hrequested]
        exact hs.job.created_le.trans hupdated
      . rw [h.updatedAt, hrequested]

end Closing

section Outcome

variable {snapshot : PolicyEvaluationJobSnapshot} {now : PolicyEvaluationTime}

theorem isTerminal_eq_false (hs : snapshot.Consistent) (hterminal : snapshot.job.terminal = none)
    : snapshot.job.status.isTerminal = false := by
  rw [hs.job.isTerminal, hterminal]
  rfl

theorem result_eq_none (hs : snapshot.Consistent) (hterminal : snapshot.job.terminal = none)
    : snapshot.job.result = none := by
  have hstatus := isTerminal_eq_false hs hterminal
  rw [← Option.not_isSome_iff_eq_none, ← hs.job.result]
  intro hcompleted
  rw [hcompleted] at hstatus
  contradiction

theorem latestAttemptId_closeUncertain (snapshot : PolicyEvaluationJobSnapshot)
    (closure : PolicyEvaluationClosure)
    : latestAttemptId (closeUncertain snapshot closure) = latestAttemptId snapshot := by
  unfold latestAttemptId latest
  rw [closeUncertain_attempts]
  cases snapshot.attempts using List.reverseRecOn with
  | nil => rfl
  | append_singleton attempts attempt => simp [List.modifyLast_concat]

theorem terminate_outcome (hs : snapshot.Consistent) (hterminal : snapshot.job.terminal = none)
    (now : PolicyEvaluationTime) (closure : PolicyEvaluationClosure) (recoveryEpoch : Nat)
    {status : PolicyEvaluationJobTerminalStatus} {code : PolicyEvaluationJobTerminalCode}
    (hcode : code ∈ status.codes) (hcompleted : status ≠ .completed)
    (hcancelled : status ≠ .cancelled)
    : Outcome snapshot
        (terminate (advanceEpoch (closeUncertain snapshot closure) recoveryEpoch) now status code)
        now closure where
  isTerminal := by cases status <;> rfl
  notLeased := by cases status <;> rfl
  terminal := by
    intro terminal hmem
    cases hmem
    exact ⟨rfl, hcode, latestAttemptId_closeUncertain snapshot closure, rfl⟩
  result := by
    have hresult := result_eq_none hs hterminal
    cases status <;> simp_all [terminate, advanceEpoch, touch,
      PolicyEvaluationJobTerminalStatus.toStatus]
  resultShape := by
    have hresult := result_eq_none hs hterminal
    simp [terminate, advanceEpoch, touch, hresult]
  completed := by
    cases status <;> simp_all [terminate, PolicyEvaluationJobTerminalStatus.toStatus]
  isRetry := by
    cases status <;> simp [terminate, PolicyEvaluationJobTerminalStatus.toStatus]
  retry := by simp [terminate]
  queued := by
    cases status <;> simp [terminate, PolicyEvaluationJobTerminalStatus.toStatus]
  cancelled := by
    cases status <;> simp_all [terminate, PolicyEvaluationJobTerminalStatus.toStatus]
  cancellation := by
    intro cancellation hmem
    left
    rw [← closeUncertain_cancellation snapshot closure]
    exact hmem

theorem retryOrFail_outcome (hs : snapshot.Consistent) (hterminal : snapshot.job.terminal = none)
    (hattempts : snapshot.attempts ≠ []) (now : PolicyEvaluationTime)
    (closure : PolicyEvaluationClosure) (recoveryEpoch : Nat)
    (reason : PolicyEvaluationRetryableError)
    : Outcome snapshot
        (retryOrFail (advanceEpoch (closeUncertain snapshot closure) recoveryEpoch) now reason)
        now closure := by
  unfold retryOrFail
  dsimp only
  split
  . apply terminate_outcome hs hterminal
    . simp [PolicyEvaluationJobTerminalStatus.codes]
    . simp
    . simp
  . next hretry =>
    have hresult := result_eq_none hs hterminal
    push Not at hretry
    obtain ⟨hbefore, hlength, -⟩ := hretry
    have hlength : snapshot.attempts.length < snapshot.request.limits.maxAttempts := by
      simpa [advanceEpoch, closeUncertain_attempts,
        (terminate_closing snapshot now closure (Nat.le_refl _) .failed
          .retriesExhausted).length_eq.symm, terminate] using hlength
    constructor
    . simp [advanceEpoch, touch, hterminal, PolicyEvaluationJobStatus.isTerminal]
    . rfl
    . simp [advanceEpoch, touch, hterminal]
    . simp [advanceEpoch, touch, hresult]
    . simp [advanceEpoch, touch, hresult]
    . simp
    . simp
    . intro retryAt hmem
      cases hmem
      refine ⟨hattempts, ?_, ?_, hlength⟩
      . have hnonneg := durationUnits_nonneg snapshot.request.limits.retryBackoffMilliseconds
        simp only [advanceEpoch, closeUncertain_job, closeUncertain_request,
          orderKey_addMillisecondsUpTo] at hbefore ⊢
        omega
      . simpa [advanceEpoch] using hbefore
    . simp
    . simp
    . intro cancellation hmem
      left
      rw [← closeUncertain_cancellation snapshot closure]
      exact hmem

theorem recoverIdle_outcome (hs : snapshot.Consistent) (hterminal : snapshot.job.terminal = none)
    (hlease : snapshot.job.currentLease = none)
    (hdeadline : now.orderKey < snapshot.job.deadlineAt.orderKey)
    (closure : PolicyEvaluationClosure) (recoveryEpoch : Nat)
    : Outcome snapshot
        { advanceEpoch (closeUncertain snapshot closure) recoveryEpoch with
          job := {
            touch (advanceEpoch (closeUncertain snapshot closure) recoveryEpoch).job now with
            retryAt := postponedRetry snapshot.job now } }
        now closure := by
  have hstatus := isTerminal_eq_false hs hterminal
  have hresult := result_eq_none hs hterminal
  have hcompleted : snapshot.job.status ≠ .completed := by
    intro heq
    rw [heq] at hstatus
    contradiction
  have hcancelled : snapshot.job.status ≠ .cancelled := by
    intro heq
    rw [heq] at hstatus
    contradiction
  constructor
  . simp [advanceEpoch, touch, hterminal, hstatus]
  . have := hs.job.isLeased
    simpa [advanceEpoch, touch, hlease] using this
  . simp [advanceEpoch, touch, hterminal]
  . simp [advanceEpoch, touch, hresult, hcompleted]
  . simp [advanceEpoch, touch, hresult]
  . simp [advanceEpoch, touch, hcompleted]
  . have := hs.job.isRetry
    simp only [advanceEpoch, touch, closeUncertain_job, this]
    unfold postponedRetry
    cases snapshot.job.retryAt with
    | none => simp
    | some retryAt => dsimp only; split <;> simp
  . intro retryAt hmem
    dsimp only at hmem
    unfold postponedRetry at hmem
    cases hretry : snapshot.job.retryAt with
    | none => simp [hretry] at hmem
    | some old =>
      have hold := hs.job.retry old hretry
      have hisRetry : snapshot.job.status = .retryReady := by
        rw [hs.job.isRetry, hretry]
        rfl
      have hlength := hs.count.retry hisRetry
      have hne : snapshot.attempts ≠ [] := by
        have := hold.attemptCount
        rw [hs.count.attemptCount] at this
        simpa using this
      rw [hretry] at hmem
      dsimp only at hmem
      split at hmem
      . cases hmem
        exact ⟨hne, le_refl _, hdeadline, hlength⟩
      . next hkeep =>
        cases hmem
        refine ⟨hne, ?_, hold.lt_deadline, hlength⟩
        push Not at hkeep
        exact hkeep hisRetry
  . simp [advanceEpoch, touch]
  . simp [advanceEpoch, touch, hcancelled]
  . intro cancellation hmem
    left
    rw [← closeUncertain_cancellation snapshot closure]
    exact hmem

theorem cancelledWith_outcome {intent : PolicyEvaluationCancellation} (hintent : intent.Accepted)
    (hjob : intent.jobId = snapshot.job.jobId) (hscope : intent.scope = snapshot.job.scope)
    : Outcome snapshot (cancelledWith snapshot intent) intent.requestedAt
        (.ended .cancelled .cancellationCommitted intent.requestedAt) where
  isTerminal := rfl
  notLeased := rfl
  terminal := by
    intro terminal hmem
    cases hmem
    refine ⟨rfl, ?_, latestAttemptId_closeUncertain snapshot _, rfl⟩
    simp [PolicyEvaluationJobTerminalStatus.codes]
  result := by
    simp [cancelledWith, terminate, PolicyEvaluationJobTerminalStatus.toStatus]
  resultShape := by simp [cancelledWith]
  completed := by
    simp [cancelledWith, terminate, PolicyEvaluationJobTerminalStatus.toStatus]
  isRetry := by
    simp [cancelledWith, terminate, PolicyEvaluationJobTerminalStatus.toStatus]
  retry := by simp [cancelledWith, terminate]
  queued := by
    simp [cancelledWith, terminate, PolicyEvaluationJobTerminalStatus.toStatus]
  cancelled := by simp [cancelledWith]
  cancellation := by
    intro cancellation hmem
    cases hmem
    exact .inr ⟨hintent, hscope, hjob, rfl⟩

theorem completedWith_outcome {result : PolicyEvaluationResultReference} (hresult : result.Accepted)
    (hsealed : snapshot.job.snapshot.isSome)
    (hlatest : ∃ latest ∈ snapshot.latest, latest.closure = none)
    : Outcome snapshot (completedWith snapshot now result) now (.completed now) where
  isTerminal := rfl
  notLeased := rfl
  terminal := by
    intro terminal hmem
    cases hmem
    refine ⟨rfl, ?_, ?_, rfl⟩
    . simp [PolicyEvaluationJobTerminalStatus.codes]
    . unfold latestAttemptId latest closeLatest
      cases hattempts : snapshot.attempts using List.reverseRecOn with
      | nil => rfl
      | append_singleton attempts attempt => simp [List.modifyLast_concat]
  result := by
    simp [completedWith, terminate, PolicyEvaluationJobTerminalStatus.toStatus]
  resultShape := by
    intro reference hmem
    cases hmem
    exact hresult
  completed := by
    intro _
    exact ⟨rfl, hsealed, hlatest⟩
  isRetry := by
    simp [completedWith, terminate, PolicyEvaluationJobTerminalStatus.toStatus]
  retry := by simp [completedWith, terminate]
  queued := by
    simp [completedWith, terminate, PolicyEvaluationJobTerminalStatus.toStatus]
  cancelled := by
    simp [completedWith, terminate, PolicyEvaluationJobTerminalStatus.toStatus]
  cancellation := by
    intro cancellation hmem
    left
    exact hmem

end Outcome

end Policy
end ProofStack
