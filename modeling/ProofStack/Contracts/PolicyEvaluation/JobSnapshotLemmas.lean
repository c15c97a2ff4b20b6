import ProofStack.Contracts.PolicyEvaluation.JobLemmas
import ProofStack.Contracts.PolicyEvaluation.JobSnapshot

/-!
This module contains the reading of the snapshot schema and the rules that carry the loop over the attempts
through an update.
-/

namespace ProofStack
namespace PolicyEvaluationJobSnapshot

structure AllowanceConsistent (value : PolicyEvaluationJobSnapshot)
    (allowance : PolicyEvaluationAcquisitionAllowance) : Prop where
  status : value.job.status = .acquiring
  snapshot : value.job.snapshot = none
  cancellation : value.cancellation = none
  fence : some allowance.mutationFence = value.job.currentLease.map (·.mutationFence)
  reserved_le : allowance.reservedAt.orderKey ≤ value.job.updatedAt.orderKey
  started_le :
    ((value.latest.map (·.startedAt)).getD value.job.createdAt).orderKey
      ≤ allowance.reservedAt.orderKey
  reads : allowance.usageAtReservation.reads = value.usage.reads
  records : allowance.usageAtReservation.records = value.usage.records
  references : allowance.usageAtReservation.references = value.usage.references
  recordBytes : allowance.usageAtReservation.recordBytes = value.usage.recordBytes
  referenceBytes : allowance.usageAtReservation.referenceBytes = value.usage.referenceBytes
  limits_reads :
    value.usage.reads + allowance.limits.reads = value.request.limits.maxAcquisitionRecords
  limits_records :
    value.usage.records + allowance.limits.records = value.request.limits.maxAcquisitionRecords
  limits_references :
    value.usage.references + allowance.limits.references
      = value.request.limits.maxAcquisitionRecords
  limits_bytes :
    value.usage.recordBytes + value.usage.referenceBytes
        + allowance.limits.recordAndReferenceBytes
      = value.request.limits.maxAcquisitionRecordBytes

variable {value : PolicyEvaluationJobSnapshot}

theorem allowanceIssues_eq_nil
    {allowance : PolicyEvaluationAcquisitionAllowance}
    : value.allowanceIssues allowance = [] ↔ value.AllowanceConsistent allowance := by
  unfold allowanceIssues
  simp only [issue_eq_nil, not_or, not_not, not_lt, Option.not_isSome_iff_eq_none, ne_eq]
  constructor
  . rintro ⟨h1, h2, h3, h4, h5, h6, h7, h8, h9, h10, h11, h12, h13, h14, h15⟩
    refine ⟨h1, h2, h3, h4, h5, h6, h7, h8, h9, h10, h11, ?_, ?_, ?_, ?_⟩
    all_goals omega
  . intro h
    refine ⟨h.status, h.snapshot, h.cancellation, h.fence, h.reserved_le, h.started_le, h.reads,
      h.records, h.references, h.recordBytes, h.referenceBytes, ?_, ?_, ?_, ?_⟩
    . have := h.reads
      have := h.limits_reads
      omega
    . have := h.records
      have := h.limits_records
      omega
    . have := h.references
      have := h.limits_references
      omega
    . have := h.recordBytes
      have := h.referenceBytes
      have := h.limits_bytes
      omega

structure RequestConsistent (request : PolicyEvaluationRequest) (job : PolicyEvaluationJob)
    : Prop where
  scope : request.scope = job.scope
  evaluationRequestId : request.evaluationRequestId = job.request.evaluationRequestId
  definitionSha256 : request.definitionSha256 = job.request.definitionSha256
  created_le : request.createdAt.orderKey ≤ job.createdAt.orderKey
  createdByPrincipalId : job.createdByPrincipalId = request.createdByPrincipalId
  deadline : job.deadlineAt.orderKey = request.deadlineKey

theorem requestIssues_eq_nil
    : value.requestIssues = [] ↔ RequestConsistent value.request value.job := by
  unfold requestIssues
  simp only [List.append_eq_nil_iff, issue_eq_nil, not_or, not_not, not_lt, ne_eq]
  constructor
  . rintro ⟨⟨h1, h2, h3, h4, h5⟩, h6⟩
    exact ⟨h1, h2, h3, h4, h5, h6⟩
  . rintro ⟨h1, h2, h3, h4, h5, h6⟩
    exact ⟨⟨h1, h2, h3, h4, h5⟩, h6⟩

structure WithinLimits (limits : PolicyEvaluationExecutionLimits) (usage : PolicyEvaluationUsage)
    : Prop where
  records : usage.records ≤ limits.maxAcquisitionRecords
  reads : usage.reads ≤ limits.maxAcquisitionRecords
  references : usage.references ≤ limits.maxAcquisitionRecords
  bytes : usage.recordBytes + usage.referenceBytes ≤ limits.maxAcquisitionRecordBytes
  artifactReadBytes : usage.artifactReadBytes ≤ limits.maxArtifactReadBytes
  ruleEvaluations : usage.ruleEvaluations ≤ limits.maxRuleEvaluations

structure CountConsistent (value : PolicyEvaluationJobSnapshot) : Prop where
  attemptCount : value.job.attemptCount = value.attempts.length
  length_le : value.attempts.length ≤ value.request.limits.maxAttempts
  retry : value.job.status = .retryReady →
    value.attempts.length < value.request.limits.maxAttempts
  usage : WithinLimits value.request.limits value.usage

theorem limitIssues_eq_nil
    : value.limitIssues = [] ↔ value.CountConsistent := by
  unfold limitIssues
  simp only [List.append_eq_nil_iff, issue_eq_nil, not_or, not_and, not_not, not_lt, not_le, ne_eq]
  constructor
  . rintro ⟨⟨⟨h1, h2⟩, h3⟩, h4, h5, h6, h7, h8, h9⟩
    exact ⟨h1, h2, h3, h4, h5, h6, h7, h8, h9⟩
  . rintro ⟨h1, h2, h3, h4, h5, h6, h7, h8, h9⟩
    exact ⟨⟨⟨h1, h2⟩, h3⟩, h4, h5, h6, h7, h8, h9⟩

section History

structure AttemptConsistent (request : PolicyEvaluationRequest) (job : PolicyEvaluationJob)
    (usage : PolicyEvaluationUsage) (history : AttemptHistory) (attempt : PolicyEvaluationAttempt)
    : Prop where
  attemptId : attempt.mutationFence.attemptId ∉ history.attemptIds
  leaseId : attempt.mutationFence.leaseId ∉ history.leaseIds
  scope : attempt.scope = job.scope
  jobId : attempt.mutationFence.jobId = job.jobId
  attemptSequence : attempt.attemptSequence = history.index
  previousFence_lt : history.previousFence < attempt.mutationFence.fencingToken
  previousEpoch_le : history.previousEpoch ≤ attempt.mutationFence.recoveryEpoch
  recoveryEpoch_le : attempt.mutationFence.recoveryEpoch ≤ job.recoveryEpoch
  created_le : job.createdAt.orderKey ≤ attempt.startedAt.orderKey
  started_le : attempt.startedAt.orderKey ≤ job.updatedAt.orderKey
  previousClosed : 0 < history.index →
    ∃ closed ∈ history.previousClosed, closed.orderKey ≤ attempt.startedAt.orderKey
  deadline : attempt.deadlineAt.orderKey = attemptDeadlineKey request attempt.startedAt
  closure_le : ∀ closure ∈ attempt.closure, closure.committedAt.orderKey ≤ job.updatedAt.orderKey
  snapshot : history.boundSnapshot.isSome → attempt.snapshot = history.boundSnapshot
  usageAtClose_le : ∀ usageAtClose ∈ attempt.usageAtClose, usageAtClose ≤ usage
  usageAtStart_le : attempt.usageAtStart ≤ usage
  prior_le : ∀ prior ∈ history.priorUsageAtClose, prior ≤ attempt.usageAtStart

theorem snapshotIssues_eq_nil {history : AttemptHistory} {attempt : PolicyEvaluationAttempt}
    : history.snapshotIssues attempt = []
        ↔ (history.boundSnapshot.isSome → attempt.snapshot = history.boundSnapshot) := by
  unfold AttemptHistory.snapshotIssues
  cases hsnapshot : attempt.snapshot with
  | some snapshot => simp
  | none =>
    simp only [issue_eq_nil]
    cases history.boundSnapshot <;> simp

variable {request : PolicyEvaluationRequest} {job : PolicyEvaluationJob}
variable {usage : PolicyEvaluationUsage} {history : AttemptHistory}
variable {attempt : PolicyEvaluationAttempt} {attempts : List PolicyEvaluationAttempt}

theorem attemptIssues_eq_nil
    : attemptIssues request job usage history attempt = []
        ↔ AttemptConsistent request job usage history attempt := by
  unfold attemptIssues
  simp only [List.append_eq_nil_iff, issue_eq_nil, elim_issues_eq_nil, snapshotIssues_eq_nil,
    PolicyEvaluationUsage.keyIssues_eq_nil, not_or, not_and, not_not, not_lt, not_le, not_forall,
    not_exists, ne_eq]
  constructor
  . rintro ⟨⟨⟨⟨⟨⟨⟨⟨⟨h1, h2⟩, h3, h4, h5, h6, h7, h8, h9, h10⟩, h11⟩, h12⟩, h13⟩, h14⟩, h15⟩, h16⟩, h17⟩
    refine ⟨h1, h2, h3, h4, h5, h6, h7, h8, h9, h10, ?_, h12, ?_, h14, h15, h16, h17⟩
    . simpa using h11
    . simpa using h13
  . rintro ⟨h1, h2, h3, h4, h5, h6, h7, h8, h9, h10, h11, h12, h13, h14, h15, h16, h17⟩
    refine ⟨⟨⟨⟨⟨⟨⟨⟨⟨h1, h2⟩, h3, h4, h5, h6, h7, h8, h9, h10⟩, ?_⟩, h12⟩, ?_⟩, h14⟩, h15⟩, h16⟩, h17⟩
    . simpa using h11
    . simpa using h13

def HistoryConsistent (request : PolicyEvaluationRequest) (job : PolicyEvaluationJob)
    (usage : PolicyEvaluationUsage) (attempts : List PolicyEvaluationAttempt) : Prop :=
  historyIssues request job usage .start attempts = []

theorem historyIssues_append (left right : List PolicyEvaluationAttempt)
    : historyIssues request job usage history (left ++ right)
        =
      historyIssues request job usage history left
        ++ historyIssues request job usage (left.foldl AttemptHistory.next history) right := by
  induction left generalizing history with
  | nil => rfl
  | cons attempt left ih =>
    simp only [List.cons_append, historyIssues, List.foldl_cons, List.append_assoc]
    rw [ih]

theorem historyConsistent_nil : HistoryConsistent request job usage [] := by
  rfl

theorem historyConsistent_concat
    : HistoryConsistent request job usage (attempts ++ [attempt])
        ↔ HistoryConsistent request job usage attempts
            ∧ AttemptConsistent request job usage (AttemptHistory.ofAttempts attempts) attempt := by
  unfold HistoryConsistent
  rw [historyIssues_append, List.append_eq_nil_iff]
  apply and_congr_right
  intro _
  simp only [historyIssues, List.append_nil]
  exact attemptIssues_eq_nil

theorem ofAttempts_concat
    : AttemptHistory.ofAttempts (attempts ++ [attempt])
        =
      (AttemptHistory.ofAttempts attempts).next attempt := by
  unfold AttemptHistory.ofAttempts
  rw [List.foldl_append]
  rfl

@[simp]
theorem ofAttempts_index (attempts : List PolicyEvaluationAttempt)
    : (AttemptHistory.ofAttempts attempts).index = attempts.length := by
  induction attempts using List.reverseRecOn with
  | nil => rfl
  | append_singleton attempts attempt ih =>
    rw [ofAttempts_concat]
    simp [AttemptHistory.next, ih]

theorem mem_ofAttempts_attemptIds {id : String}
    : id ∈ (AttemptHistory.ofAttempts attempts).attemptIds
        ↔ ∃ attempt ∈ attempts, attempt.mutationFence.attemptId = id := by
  induction attempts using List.reverseRecOn with
  | nil => simp [AttemptHistory.ofAttempts, AttemptHistory.start]
  | append_singleton attempts attempt ih =>
    rw [ofAttempts_concat]
    simp only [AttemptHistory.next, List.mem_cons, ih, List.mem_append, List.not_mem_nil, or_false,
      or_and_right, exists_or, exists_eq_left]
    rw [or_comm, eq_comm]

theorem mem_ofAttempts_leaseIds {id : String}
    : id ∈ (AttemptHistory.ofAttempts attempts).leaseIds
        ↔ ∃ attempt ∈ attempts, attempt.mutationFence.leaseId = id := by
  induction attempts using List.reverseRecOn with
  | nil => simp [AttemptHistory.ofAttempts, AttemptHistory.start]
  | append_singleton attempts attempt ih =>
    rw [ofAttempts_concat]
    simp only [AttemptHistory.next, List.mem_cons, ih, List.mem_append, List.not_mem_nil, or_false,
      or_and_right, exists_or, exists_eq_left]
    rw [or_comm, eq_comm]

structure Grows (job : PolicyEvaluationJob) (usage : PolicyEvaluationUsage)
    (job' : PolicyEvaluationJob) (usage' : PolicyEvaluationUsage) : Prop where
  scope : job'.scope = job.scope
  jobId : job'.jobId = job.jobId
  createdAt : job'.createdAt = job.createdAt
  recoveryEpoch : job.recoveryEpoch ≤ job'.recoveryEpoch
  updatedAt : job.updatedAt.orderKey ≤ job'.updatedAt.orderKey
  usage : usage ≤ usage'

variable {job' : PolicyEvaluationJob} {usage' : PolicyEvaluationUsage}

theorem AttemptConsistent.mono (hgrows : Grows job usage job' usage')
    (h : AttemptConsistent request job usage history attempt)
    : AttemptConsistent request job' usage' history attempt where
  attemptId := h.attemptId
  leaseId := h.leaseId
  scope := by rw [hgrows.scope, h.scope]
  jobId := by rw [hgrows.jobId, h.jobId]
  attemptSequence := h.attemptSequence
  previousFence_lt := h.previousFence_lt
  previousEpoch_le := h.previousEpoch_le
  recoveryEpoch_le := h.recoveryEpoch_le.trans hgrows.recoveryEpoch
  created_le := by
    rw [hgrows.createdAt]
    exact h.created_le
  started_le := h.started_le.trans hgrows.updatedAt
  previousClosed := h.previousClosed
  deadline := h.deadline
  closure_le := by
    intro closure hclosure
    exact (h.closure_le closure hclosure).trans hgrows.updatedAt
  snapshot := h.snapshot
  usageAtClose_le := by
    intro usageAtClose hclose
    exact (h.usageAtClose_le usageAtClose hclose).trans hgrows.usage
  usageAtStart_le := h.usageAtStart_le.trans hgrows.usage
  prior_le := h.prior_le

theorem HistoryConsistent.mono (hgrows : Grows job usage job' usage')
    (h : HistoryConsistent request job usage attempts)
    : HistoryConsistent request job' usage' attempts := by
  induction attempts using List.reverseRecOn with
  | nil => exact historyConsistent_nil
  | append_singleton attempts attempt ih =>
    rw [historyConsistent_concat] at h ⊢
    exact ⟨ih h.1, h.2.mono hgrows⟩

theorem HistoryConsistent.previousEpoch_le (h : HistoryConsistent request job usage attempts)
    : (AttemptHistory.ofAttempts attempts).previousEpoch ≤ job.recoveryEpoch := by
  cases attempts using List.reverseRecOn with
  | nil => exact Nat.zero_le _
  | append_singleton attempts attempt =>
    rw [historyConsistent_concat] at h
    rw [ofAttempts_concat]
    exact h.2.recoveryEpoch_le

theorem HistoryConsistent.priorUsage_le (h : HistoryConsistent request job usage attempts)
    : ∀ prior ∈ (AttemptHistory.ofAttempts attempts).priorUsageAtClose, prior ≤ usage := by
  cases attempts using List.reverseRecOn with
  | nil => simp [AttemptHistory.ofAttempts, AttemptHistory.start]
  | append_singleton attempts attempt =>
    rw [historyConsistent_concat] at h
    rw [ofAttempts_concat]
    exact h.2.usageAtClose_le

theorem HistoryConsistent.fencingToken_le (h : HistoryConsistent request job usage attempts)
    : ∀ attempt ∈ attempts,
        attempt.mutationFence.fencingToken
          ≤ (AttemptHistory.ofAttempts attempts).previousFence := by
  induction attempts using List.reverseRecOn with
  | nil => simp
  | append_singleton attempts attempt ih =>
    rw [historyConsistent_concat] at h
    rw [ofAttempts_concat]
    intro other hother
    rw [List.mem_append, List.mem_singleton] at hother
    rcases hother with hother | rfl
    . have := ih h.1 other hother
      have := h.2.previousFence_lt
      simp only [AttemptHistory.next]
      omega
    . exact Nat.le_refl _

theorem HistoryConsistent.pairwise_fencingToken (h : HistoryConsistent request job usage attempts)
    : (attempts.map (·.mutationFence.fencingToken)).Pairwise (· < ·) := by
  induction attempts using List.reverseRecOn with
  | nil => simp
  | append_singleton attempts attempt ih =>
    rw [historyConsistent_concat] at h
    rw [List.map_append, List.pairwise_append]
    refine ⟨ih h.1, by simp, ?_⟩
    intro left hleft right hright
    rw [List.mem_map] at hleft
    rcases hleft with ⟨other, hother, rfl⟩
    simp only [List.map_cons, List.map_nil, List.mem_singleton] at hright
    have := h.1.fencingToken_le other hother
    have := h.2.previousFence_lt
    omega

theorem HistoryConsistent.closed_of_mem_dropLast
    (h : HistoryConsistent request job usage attempts)
    : ∀ attempt ∈ attempts.dropLast, attempt.closure.isSome := by
  induction attempts using List.reverseRecOn with
  | nil => simp
  | append_singleton attempts attempt ih =>
    rw [historyConsistent_concat] at h
    rw [List.dropLast_concat]
    intro other hother
    cases attempts using List.reverseRecOn with
    | nil => simp at hother
    | append_singleton attempts latest =>
      rw [List.mem_append, List.mem_singleton] at hother
      rcases hother with hother | rfl
      . apply ih h.1
        rw [List.dropLast_concat]
        exact hother
      . have hclosed := h.2.previousClosed (by simp)
        rw [ofAttempts_concat] at hclosed
        rcases hclosed with ⟨closed, hclosed, -⟩
        simp only [AttemptHistory.next, Option.mem_def, Option.map_eq_some_iff] at hclosed
        rcases hclosed with ⟨closure, hclosure, -⟩
        simp [hclosure]

structure SplitsAtSeal (attempts unsealed reusing : List PolicyEvaluationAttempt)
    (bound : Option PolicyEvaluationSnapshotReference) : Prop where
  append : attempts = unsealed ++ reusing
  snapshot_eq_none : ∀ attempt ∈ unsealed, attempt.snapshot = none
  snapshot_eq : ∀ attempt ∈ reusing, attempt.snapshot = bound
  nonempty : bound.isSome ↔ reusing ≠ []

theorem HistoryConsistent.splitsAtSeal (h : HistoryConsistent request job usage attempts)
    : ∃ unsealed reusing,
        SplitsAtSeal attempts unsealed reusing
          (AttemptHistory.ofAttempts attempts).boundSnapshot := by
  induction attempts using List.reverseRecOn with
  | nil =>
    have hbound : (AttemptHistory.ofAttempts []).boundSnapshot = none := rfl
    exact ⟨[], [], rfl, by simp, by simp, by simp [hbound]⟩
  | append_singleton attempts attempt ih =>
    rw [historyConsistent_concat] at h
    rw [ofAttempts_concat]
    obtain ⟨unsealed, reusing, hsplit⟩ := ih h.1
    have hreuses := h.2.snapshot
    simp only [AttemptHistory.next]
    cases hbound : (AttemptHistory.ofAttempts attempts).boundSnapshot with
    | some reference =>
      rw [hbound] at hsplit hreuses
      have hattempt := hreuses rfl
      rw [hattempt]
      refine ⟨unsealed, reusing ++ [attempt], ?_, hsplit.snapshot_eq_none, ?_, by simp⟩
      . rw [hsplit.append, List.append_assoc]
      . exact List.forall_mem_append.mpr ⟨hsplit.snapshot_eq, List.forall_mem_singleton.mpr hattempt⟩
    | none =>
      rw [hbound] at hsplit
      have hnil : reusing = [] := by
        by_contra hne
        simpa using hsplit.nonempty.mpr hne
      have hunsealed : attempts = unsealed := by
        rw [hsplit.append, hnil, List.append_nil]
      subst hunsealed
      cases hsnapshot : attempt.snapshot with
      | some reference =>
        exact ⟨attempts, [attempt], rfl, hsplit.snapshot_eq_none, by simp [hsnapshot], by simp⟩
      | none =>
        refine ⟨attempts ++ [attempt], [], by simp, ?_, by simp, by simp⟩
        exact List.forall_mem_append.mpr ⟨hsplit.snapshot_eq_none, List.forall_mem_singleton.mpr hsnapshot⟩

end History

structure LatestConsistent (value : PolicyEvaluationJobSnapshot) : Prop where
  fencingToken : ∀ latest ∈ value.latest,
    latest.mutationFence.fencingToken = value.job.lastFencingToken
  snapshot : value.attempts ≠ [] →
    value.job.snapshot = (AttemptHistory.ofAttempts value.attempts).boundSnapshot
  lease : ∀ lease ∈ value.job.currentLease, ∃ latest ∈ value.latest,
    latest.closure = none
      ∧ latest.mutationFence = lease.mutationFence
      ∧ latest.deadlineAt = lease.attemptDeadlineAt
      ∧ latest.startedAt = lease.acquiredAt
  leaseDuration : ∀ lease ∈ value.job.currentLease,
    lease.expiresAt.orderKey - lease.heartbeatAt.orderKey
      ≤ PolicyEvaluationTime.durationUnits value.request.limits.leaseDurationMilliseconds
  closed : value.job.currentLease = none → ∀ latest ∈ value.latest, latest.closure.isSome

theorem latest_eq_none_iff
    : value.latest = none ↔ value.attempts = [] := by
  unfold latest
  exact List.getLast?_eq_none_iff

theorem exists_latest_iff
    : (∃ latest, value.latest = some latest) ↔ value.attempts ≠ [] := by
  rw [← Option.isSome_iff_exists, Option.isSome_iff_ne_none, ne_eq, latest_eq_none_iff]

theorem latestIssues_eq_nil
    : value.latestIssues = [] ↔ value.LatestConsistent := by
  unfold latestIssues
  simp only [List.append_eq_nil_iff, issue_eq_nil, not_or, not_and, not_not, not_lt, not_forall,
    not_exists, exists_prop, ne_eq, Option.not_isSome_iff_eq_none, ← Option.isSome_iff_ne_none]
  constructor
  . rintro ⟨⟨⟨h1, h2⟩, h3⟩, h4⟩
    refine ⟨?_, ?_, h2, h3, h4⟩
    . intro latest hlatest
      exact (h1 latest hlatest).1
    . intro hne
      rw [← exists_latest_iff] at hne
      rcases hne with ⟨latest, hlatest⟩
      exact (h1 latest hlatest).2
  . rintro ⟨h1, h2, h3, h4, h5⟩
    refine ⟨⟨⟨?_, h3⟩, h4⟩, h5⟩
    intro latest hlatest
    refine ⟨h1 latest hlatest, h2 ?_⟩
    rw [← exists_latest_iff]
    exact ⟨latest, hlatest⟩

structure TerminalConsistent (value : PolicyEvaluationJobSnapshot) : Prop where
  attempt : ∀ terminal ∈ value.job.terminal, ∀ attemptId ∈ terminal.attemptId,
    ∃ latest ∈ value.latest,
      attemptId = latest.mutationFence.attemptId ∧ latest.closure.isSome
  completed : value.job.status = .completed →
    ∃ latest ∈ value.latest, ∃ closure ∈ latest.closure, closure.isCompleted
  inTime : ∀ latest ∈ value.latest, ∀ closure ∈ latest.closure, closure.isCompleted →
    closure.committedAt.orderKey < latest.deadlineAt.orderKey

theorem terminalIssues_eq_nil
    : value.terminalIssues = [] ↔ value.TerminalConsistent := by
  unfold terminalIssues
  simp only [List.append_eq_nil_iff, issue_eq_nil, not_or, not_and, not_not, not_le, not_forall,
    not_exists, exists_prop, ne_eq, ← Option.isSome_iff_ne_none]
  constructor
  . rintro ⟨⟨h1, h2⟩, h3⟩
    exact ⟨h1, h2, h3⟩
  . rintro ⟨h1, h2, h3⟩
    exact ⟨⟨h1, h2⟩, h3⟩

structure CancellationConsistent (job : PolicyEvaluationJob)
    (cancellation : PolicyEvaluationCancellation) : Prop where
  scope : cancellation.scope = job.scope
  jobId : cancellation.jobId = job.jobId
  created_le : job.createdAt.orderKey ≤ cancellation.requestedAt.orderKey
  requested_le : cancellation.requestedAt.orderKey ≤ job.updatedAt.orderKey

theorem cancellationIssues_eq_nil
    : value.cancellationIssues = []
        ↔ (value.job.status = .cancelled → value.cancellation.isSome)
            ∧ ∀ cancellation ∈ value.cancellation,
                CancellationConsistent value.job cancellation := by
  unfold cancellationIssues
  simp only [List.append_eq_nil_iff, issue_eq_nil, not_or, not_and, not_not, not_lt, not_exists,
    ne_eq, ← Option.isSome_iff_ne_none]
  apply and_congr_right
  intro _
  apply forall_congr'
  intro cancellation
  apply imp_congr_right
  intro _
  constructor
  . rintro ⟨h1, h2, h3, h4⟩
    exact ⟨h1, h2, h3, h4⟩
  . rintro ⟨h1, h2, h3, h4⟩
    exact ⟨h1, h2, h3, h4⟩

structure Consistent (value : PolicyEvaluationJobSnapshot) : Prop where
  request : value.request.Accepted
  jobShape : value.job.Shape
  job : value.job.Consistent
  attempts : ∀ attempt ∈ value.attempts, attempt.Accepted
  attempts_length : value.attempts.length ≤ maxPolicyEvaluationAttempts
  cancellationShape : ∀ cancellation ∈ value.cancellation, cancellation.Accepted
  usage : value.usage.Accepted
  allowanceShape : ∀ allowance ∈ value.allowance, allowance.Accepted
  allowance : ∀ allowance ∈ value.allowance, value.AllowanceConsistent allowance
  binding : RequestConsistent value.request value.job
  count : value.CountConsistent
  history : HistoryConsistent value.request value.job value.usage value.attempts
  latest : value.LatestConsistent
  terminal : value.TerminalConsistent
  cancelled : value.job.status = .cancelled → value.cancellation.isSome
  cancellation : ∀ cancellation ∈ value.cancellation,
    CancellationConsistent value.job cancellation

theorem accepted_iff
    : value.Accepted ↔ value.Consistent := by
  unfold Accepted issues
  rw [shape_iff]
  simp only [List.append_eq_nil_iff, elim_issues_eq_nil, allowanceIssues_eq_nil,
    requestIssues_eq_nil, limitIssues_eq_nil, latestIssues_eq_nil, terminalIssues_eq_nil,
    cancellationIssues_eq_nil, PolicyEvaluationJob.accepted_iff]
  constructor
  . rintro ⟨⟨h1, ⟨h2, h3⟩, h4, h5, h6, h7, h8⟩, ⟨⟨⟨⟨⟨⟨h9, h10⟩, h11⟩, h12⟩, h13⟩, h14⟩, h15, h16⟩⟩
    exact ⟨h1, h2, h3, h4, h5, h6, h7, h8, h9, h10, h11, h12, h13, h14, h15, h16⟩
  . rintro ⟨h1, h2, h3, h4, h5, h6, h7, h8, h9, h10, h11, h12, h13, h14, h15, h16⟩
    exact ⟨⟨h1, ⟨h2, h3⟩, h4, h5, h6, h7, h8⟩,
      ⟨⟨⟨⟨⟨⟨h9, h10⟩, h11⟩, h12⟩, h13⟩, h14⟩, h15, h16⟩⟩

end PolicyEvaluationJobSnapshot
end ProofStack
