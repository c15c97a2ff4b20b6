import ProofStack.Contracts.PolicyEvaluation.Job

/-!
This module contains the readings of the refinement checks of leases, usages, attempts and jobs.
-/

namespace ProofStack

namespace PolicyEvaluationLease

structure Consistent (value : PolicyEvaluationLease) : Prop where
  acquired_le : value.acquiredAt.orderKey ≤ value.heartbeatAt.orderKey
  heartbeat_lt : value.heartbeatAt.orderKey < value.expiresAt.orderKey
  expires_le : value.expiresAt.orderKey ≤ value.attemptDeadlineAt.orderKey
  deadline_le : value.attemptDeadlineAt.orderKey ≤ value.jobDeadlineAt.orderKey

theorem accepted_iff {value : PolicyEvaluationLease}
    : value.Accepted ↔ value.Shape ∧ value.Consistent := by
  unfold Accepted issues
  simp only [List.append_eq_nil_iff, issue_eq_nil, not_lt, not_le]
  constructor
  . rintro ⟨hshape, ⟨⟨h1, h2⟩, h3⟩, h4⟩
    exact ⟨hshape, h1, h2, h3, h4⟩
  . rintro ⟨hshape, h1, h2, h3, h4⟩
    exact ⟨hshape, ⟨⟨h1, h2⟩, h3⟩, h4⟩

end PolicyEvaluationLease

namespace PolicyEvaluationUsage

instance : LE PolicyEvaluationUsage where
  le left right := ∀ key ∈ keys, key left ≤ key right

theorem le_iff {left right : PolicyEvaluationUsage}
    : left ≤ right
        ↔ left.reads ≤ right.reads
            ∧ left.records ≤ right.records
            ∧ left.recordBytes ≤ right.recordBytes
            ∧ left.references ≤ right.references
            ∧ left.referenceBytes ≤ right.referenceBytes
            ∧ left.artifactReadBytes ≤ right.artifactReadBytes
            ∧ left.ruleEvaluations ≤ right.ruleEvaluations := by
  show (∀ key ∈ keys, key left ≤ key right) ↔ _
  simp [keys]

instance : Preorder PolicyEvaluationUsage where
  le_refl usage := by
    intro key _
    exact Nat.le_refl _
  le_trans left middle right hlm hmr := by
    intro key hkey
    exact Nat.le_trans (hlm key hkey) (hmr key hkey)

@[simp]
theorem keyIssues_eq_nil {above below : PolicyEvaluationUsage} {message : String}
    : above.keyIssues below message = [] ↔ above ≤ below := by
  unfold keyIssues
  simp only [List.flatMap_eq_nil_iff, issue_eq_nil, not_lt]
  rfl

theorem accepted_iff {value : PolicyEvaluationUsage}
    : value.Accepted
        ↔ value.reads ≤ maxPolicyEvaluationAcquisitionRecords
            ∧ value.records ≤ maxPolicyEvaluationAcquisitionRecords
            ∧ value.references ≤ maxPolicyEvaluationAcquisitionRecords
            ∧ value.artifactReadBytes ≤ maxPolicyEvaluationArtifactReadBytes
            ∧ value.ruleEvaluations ≤ maxPolicyEvaluationRuleEvaluations
            ∧ value.recordBytes + value.referenceBytes
                ≤ maxPolicyEvaluationAcquisitionRecordBytes := by
  unfold Accepted issues
  rw [shape_iff]
  simp only [boundedInteger, issue_eq_nil, not_lt, Nat.zero_le, true_and]
  omega

end PolicyEvaluationUsage

namespace PolicyEvaluationClosure

def Suits (phase : PolicyEvaluationPhase) : PolicyEvaluationClosure → Prop
  | .completed _ => phase = .computing
  | .interrupted reason _ => ¬(phase = .computing ∧ reason = .sourceRevisionChanged)
  | .ended status reason _ => reason ∈ status.codes

end PolicyEvaluationClosure

namespace PolicyEvaluationAttempt

structure Consistent (value : PolicyEvaluationAttempt) : Prop where
  window : value.startedAt.orderKey < value.deadlineAt.orderKey
  phase : value.phase = .computing ↔ value.snapshot.isSome
  closed : value.closure = none ↔ value.usageAtClose = none
  started_le : ∀ closure ∈ value.closure, value.startedAt.orderKey ≤ closure.committedAt.orderKey
  suits : ∀ closure ∈ value.closure, closure.Suits value.phase
  usage_le : ∀ usage ∈ value.usageAtClose, value.usageAtStart ≤ usage

theorem closureIssues_eq_nil {value : PolicyEvaluationAttempt} {closure : PolicyEvaluationClosure}
    : value.closureIssues closure = []
        ↔ value.startedAt.orderKey ≤ closure.committedAt.orderKey ∧ closure.Suits value.phase := by
  unfold closureIssues PolicyEvaluationClosure.Suits
  rw [List.append_eq_nil_iff, issue_eq_nil, not_lt]
  apply and_congr_right
  intro _
  cases closure with
  | completed => simp
  | interrupted => simp
  | ended => simp

theorem accepted_iff {value : PolicyEvaluationAttempt}
    : value.Accepted ↔ value.Shape ∧ value.Consistent := by
  unfold Accepted issues
  simp only [List.append_eq_nil_iff, issue_eq_nil, elim_issues_eq_nil, closureIssues_eq_nil,
    PolicyEvaluationUsage.keyIssues_eq_nil, not_le, not_not]
  constructor
  . rintro ⟨hshape, ⟨⟨⟨h1, h2⟩, h3⟩, h4⟩, h5⟩
    refine ⟨hshape, h1, h2, h3, ?_, ?_, h5⟩
    . intro closure hclosure
      exact (h4 closure hclosure).1
    . intro closure hclosure
      exact (h4 closure hclosure).2
  . rintro ⟨hshape, h⟩
    refine ⟨hshape, ⟨⟨⟨h.window, h.phase⟩, h.closed⟩, ?_⟩, h.usage_le⟩
    intro closure hclosure
    exact ⟨h.started_le closure hclosure, h.suits closure hclosure⟩

end PolicyEvaluationAttempt

namespace PolicyEvaluationJob

structure LeaseConsistent (value : PolicyEvaluationJob) (lease : PolicyEvaluationLease) : Prop where
  jobId : lease.mutationFence.jobId = value.jobId
  fencingToken : lease.mutationFence.fencingToken = value.lastFencingToken
  recoveryEpoch : lease.mutationFence.recoveryEpoch = value.recoveryEpoch
  scope : lease.scope = value.scope
  attemptSequence : lease.attemptSequence + 1 = value.attemptCount
  jobDeadlineAt : lease.jobDeadlineAt = value.deadlineAt
  created_le : value.createdAt.orderKey ≤ lease.acquiredAt.orderKey
  heartbeat_le : lease.heartbeatAt.orderKey ≤ value.updatedAt.orderKey

theorem leaseIssues_eq_nil {value : PolicyEvaluationJob} {lease : PolicyEvaluationLease}
    : value.leaseIssues lease = [] ↔ value.LeaseConsistent lease := by
  unfold leaseIssues
  simp only [issue_eq_nil, not_or, not_not, not_lt]
  constructor
  . rintro ⟨h1, h2, h3, h4, h5, h6, h7, h8, h9, h10⟩
    exact ⟨h1, h2, h3, EvidenceScope.eq_iff.mpr ⟨h4, h5, h6⟩, h7, h8, h9, h10⟩
  . intro h
    refine ⟨h.jobId, h.fencingToken, h.recoveryEpoch, ?_, ?_, ?_, h.attemptSequence,
      h.jobDeadlineAt, h.created_le, h.heartbeat_le⟩
    all_goals rw [h.scope]

structure TerminalConsistent (value : PolicyEvaluationJob) (terminal : PolicyEvaluationJobTerminal)
    : Prop where
  status : terminal.status.toStatus = value.status
  committed_le : terminal.committedAt.orderKey ≤ value.updatedAt.orderKey
  created_le : value.createdAt.orderKey ≤ terminal.committedAt.orderKey
  attemptId : value.attemptCount = 0 ↔ terminal.attemptId = none

structure RetryConsistent (value : PolicyEvaluationJob) (retryAt : PolicyEvaluationTime)
    : Prop where
  attemptCount : value.attemptCount ≠ 0
  updated_le : value.updatedAt.orderKey ≤ retryAt.orderKey
  lt_deadline : retryAt.orderKey < value.deadlineAt.orderKey

structure Consistent (value : PolicyEvaluationJob) : Prop where
  created_le : value.createdAt.orderKey ≤ value.updatedAt.orderKey
  created_lt : value.createdAt.orderKey < value.deadlineAt.orderKey
  isTerminal : value.status.isTerminal = value.terminal.isSome
  terminal : ∀ terminal ∈ value.terminal, value.TerminalConsistent terminal
  isLeased : value.status.isLeased = value.currentLease.isSome
  lease : ∀ lease ∈ value.currentLease, value.LeaseConsistent lease
  claimed : value.attemptCount = 0 ↔ value.lastFencingToken = 0
  unsealed : value.status = .queued ∨ value.status = .acquiring → value.snapshot = none
  isSealed : value.status = .sealed ∨ value.status = .running ∨ value.status = .completed →
    value.snapshot.isSome
  result : value.status = .completed ↔ value.result.isSome
  isRetry : value.status = .retryReady ↔ value.retryAt.isSome
  retry : ∀ retryAt ∈ value.retryAt, value.RetryConsistent retryAt
  queued : value.status = .queued → value.attemptCount = 0

theorem accepted_iff {value : PolicyEvaluationJob}
    : value.Accepted ↔ value.Shape ∧ value.Consistent := by
  unfold Accepted issues terminalIssues retryIssues
  simp only [List.append_eq_nil_iff, issue_eq_nil, elim_issues_eq_nil, leaseIssues_eq_nil,
    not_or, not_and, not_not, not_lt, not_le, Option.not_isSome_iff_eq_none,
    ← Option.isSome_iff_ne_none, ne_eq]
  constructor
  . rintro ⟨hshape, ⟨⟨⟨⟨⟨⟨⟨⟨⟨⟨⟨⟨h1, h2⟩, h3⟩, h4⟩, h5⟩, h6⟩, h7⟩, h8⟩, h9⟩, h10⟩, h11⟩, h12⟩, h13⟩⟩
    refine ⟨hshape, h1.1, h1.2, h2, ?_, h4, h5, h6, h7, h8, h9, h10, ?_, h12⟩
    . intro terminal hmem
      obtain ⟨hstatus, hle, hge⟩ := h3 terminal hmem
      exact ⟨hstatus, hle, hge, h13 terminal hmem⟩
    . intro retryAt hmem
      obtain ⟨hcount, hle, hlt⟩ := h11 retryAt hmem
      exact ⟨hcount, hle, hlt⟩
  . rintro ⟨hshape, h⟩
    refine ⟨hshape, ⟨⟨⟨⟨⟨⟨⟨⟨⟨⟨⟨⟨⟨h.created_le, h.created_lt⟩, h.isTerminal⟩, ?_⟩, h.isLeased⟩,
      h.lease⟩, h.claimed⟩, h.unsealed⟩, h.isSealed⟩, h.result⟩, h.isRetry⟩, ?_⟩, h.queued⟩, ?_⟩⟩
    . intro terminal hmem
      have hterminal := h.terminal terminal hmem
      exact ⟨hterminal.status, hterminal.committed_le, hterminal.created_le⟩
    . intro retryAt hmem
      have hretry := h.retry retryAt hmem
      exact ⟨hretry.attemptCount, hretry.updated_le, hretry.lt_deadline⟩
    . intro terminal hmem
      exact (h.terminal terminal hmem).attemptId

end PolicyEvaluationJob

end ProofStack
