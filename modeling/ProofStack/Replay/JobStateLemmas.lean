import Mathlib.Tactic.Push
import ProofStack.Replay.JobRepository

/-!
This module contains the readings of the transitions of a replay job.
-/

namespace ProofStack
namespace Replay

open Checks

variable {job next : ReplayJob} {attempt closed : ReplayAttempt} {fence : ReplayWorkerMutationFence}
variable {lease : ReplayLease} {now : UtcMillisecondTimestamp}

theorem parseTimestamp_eq_ok {reading : Option UtcMillisecondTimestamp}
    : parseTimestamp reading = .ok now ↔ reading = some now := by
  simp only [parseTimestamp, found_eq_ok]

theorem parseJob_eq_ok : parseJob job = .ok next ↔ job.Accepted ∧ job = next := by
  simp only [parseJob, parseWith_eq_ok]

theorem parseAttempt_eq_ok : parseAttempt attempt = .ok closed ↔ attempt.Accepted ∧ attempt = closed := by
  simp only [parseAttempt, parseWith_eq_ok]

theorem parseLease_eq_ok {value : Option ReplayLease}
    : parseLease value = .ok lease ↔ value = some lease ∧ lease.Accepted := by
  simp only [parseLease, bind_eq_ok, found_eq_ok, parseWith_eq_ok]
  constructor
  . rintro ⟨_, hvalue, haccepted, rfl⟩
    exact ⟨hvalue, haccepted⟩
  . rintro ⟨hvalue, haccepted⟩
    exact ⟨lease, hvalue, haccepted, rfl⟩

theorem parseRequest_eq_ok {request result : ReplayCancellationRequest}
    : parseRequest request = .ok result ↔ request.Accepted ∧ request = result := by
  simp only [parseRequest, parseWith_eq_ok]

theorem nextCounter_eq_ok {value result : Nat}
    : nextCounter value = .ok result ↔ value < maxSafeInteger ∧ value + 1 = result := by
  simp only [nextCounter, bind_eq_ok, failIf_eq_ok, pure_eq_ok, not_le]
  constructor
  . rintro ⟨_, h⟩
    exact h
  . intro h
    exact ⟨(), h⟩

section Accepted

structure LeaseOfJob (job : ReplayJob) (lease : ReplayLease) : Prop where
  jobId : lease.mutationFence.jobId = job.jobId
  fencingToken : lease.mutationFence.fencingToken = job.lastFencingToken
  recoveryEpoch : lease.mutationFence.recoveryEpoch = job.recoveryEpoch
  attemptSequence : job.latestAttemptSequence = some lease.attemptSequence
  scope : lease.scope = job.scope

namespace ReplayJob

theorem started_of_running (h : job.Accepted) (hrunning : job.status = .running)
    : ∃ lease startedAt,
        job.currentLease = some lease
          ∧ lease.Accepted
          ∧ LeaseOfJob job lease
          ∧ job.startedAt = some startedAt
          ∧ job.createdAt.value ≤ startedAt.value
          ∧ job.terminal = none := by
  obtain ⟨hshape, hissues⟩ := h
  have hcancelled : ¬job.IsQueuedCancellation := by
    rintro ⟨hstatus, _⟩
    rw [hrunning] at hstatus
    contradiction
  simp only [issues, hrunning, reduceCtorEq, if_false, if_neg hcancelled, if_true,
    List.append_eq_nil_iff, issue_eq_nil] at hissues
  obtain ⟨⟨⟨hstarted, _⟩, hcreated⟩, hlease⟩ := hissues
  push Not at hstarted
  obtain ⟨startedAt, hstartedAt⟩ := Option.ne_none_iff_exists'.mp hstarted.1
  unfold runningIssues at hlease
  split at hlease
  . next lease hcurrent hterminal =>
    rw [issue_eq_nil] at hlease
    push Not at hlease
    refine ⟨lease, startedAt, hcurrent, hshape.currentLease lease hcurrent, ?_, hstartedAt, ?_, hterminal⟩
    . constructor
      . exact hlease.1
      . exact hlease.2.1
      . exact hlease.2.2.1
      . exact hlease.2.2.2.1.symm
      . exact hlease.2.2.2.2
    . by_contra hlt
      apply hcreated
      exact ⟨startedAt, hstartedAt, by omega⟩
  . contradiction

theorem queued_of_status (h : job.Accepted) (hqueued : job.status = .queued)
    : job.lastFencingToken = 0
        ∧ job.currentLease = none
        ∧ job.latestAttemptSequence = none
        ∧ job.startedAt = none
        ∧ job.terminal = none := by
  have hissues := h.2
  simp only [issues, hqueued, if_true, issue_eq_nil] at hissues
  push Not at hissues
  exact hissues

theorem terminal_of_status (h : job.Accepted) (hqueued : job.status ≠ .queued)
    (hrunning : job.status ≠ .running)
    : job.currentLease = none ∧ ∃ terminal, job.terminal = some terminal
        ∧ terminal.status.job = job.status := by
  have hissues := h.2
  simp only [issues, hqueued, if_false] at hissues
  split at hissues
  . next hcancelled =>
    obtain ⟨hstatus, terminal, hterminal, _⟩ := hcancelled
    simp only [queuedCancellationIssues, List.append_eq_nil_iff, issue_eq_nil] at hissues
    have hclean := hissues.1
    push Not at hclean
    refine ⟨hclean.2.1, terminal, hterminal, ?_⟩
    obtain ⟨other, hother, hcancelled⟩ := hclean.2.2.2.2
    have : other = terminal := by
      rw [hterminal] at hother
      exact (Option.mem_some_iff.mp hother).symm
    rw [← this, hcancelled, hstatus]
    rfl
  . rw [List.append_eq_nil_iff] at hissues
    have hterminal := hissues.2
    unfold terminalIssues at hterminal
    split at hterminal
    . next terminal hlease hterminal' =>
      simp only [List.append_eq_nil_iff, issue_eq_nil, not_not] at hterminal
      exact ⟨hlease, terminal, hterminal', hterminal.1⟩
    . contradiction

theorem terminal_isSome_iff (h : job.Accepted)
    : job.terminal ≠ none ↔ job.status ≠ .queued ∧ job.status ≠ .running := by
  constructor
  . intro hterminal
    constructor
    . intro hqueued
      exact hterminal (queued_of_status h hqueued).2.2.2.2
    . intro hrunning
      obtain ⟨_, _, _, _, _, _, _, hnone⟩ := started_of_running h hrunning
      exact hterminal hnone
  . rintro ⟨hqueued, hrunning⟩
    obtain ⟨_, terminal, hterminal, _⟩ := terminal_of_status h hqueued hrunning
    simp [hterminal]

end ReplayJob

end Accepted

section Transitions

structure FenceLive (job : ReplayJob) (fence : ReplayWorkerMutationFence)
    (now : UtcMillisecondTimestamp) (lease : ReplayLease) : Prop where
  running : job.status = .running
  currentLease : job.currentLease = some lease
  accepted : lease.Accepted
  mutationFence : lease.mutationFence = fence
  unexpired : now.value < lease.expiresAt.value

theorem assertCurrentFence_eq_ok
    : assertCurrentFence job fence now = .ok lease ↔ FenceLive job fence now lease := by
  simp only [assertCurrentFence, bind_eq_ok, failIf_eq_ok, parseLease_eq_ok, pure_eq_ok]
  constructor
  . rintro ⟨_, hrunning, _, ⟨hlease, haccepted⟩, _, hfence, _, hexpired, rfl⟩
    exact ⟨not_not.mp hrunning, hlease, haccepted, not_not.mp hfence, not_le.mp hexpired⟩
  . rintro ⟨hrunning, hlease, haccepted, hfence, hexpired⟩
    exact ⟨(), not_not.mpr hrunning, lease, ⟨hlease, haccepted⟩, (), not_not.mpr hfence, (),
      not_le.mpr hexpired, rfl⟩

theorem assertReplayWorkerMutationFence_eq_ok
    : assertReplayWorkerMutationFence job fence now = .ok lease
        ↔ job.Accepted ∧ FenceLive job fence now lease := by
  simp only [assertReplayWorkerMutationFence, bind_eq_ok, parseJob_eq_ok, assertCurrentFence_eq_ok]
  constructor
  . rintro ⟨_, ⟨haccepted, rfl⟩, h⟩
    exact ⟨haccepted, h⟩
  . rintro ⟨haccepted, h⟩
    exact ⟨job, ⟨haccepted, rfl⟩, h⟩

structure CurrentAttempt (job : ReplayJob) (lease : ReplayLease) (attempt : ReplayAttempt)
    : Prop where
  currentLease : job.currentLease = some lease
  running : attempt.status = .running
  mutationFence : attempt.mutationFence = lease.mutationFence
  scope : attempt.scope = job.scope
  attemptSequence : attempt.attemptSequence = lease.attemptSequence

theorem assertCurrentAttempt_eq_ok {value : Option ReplayAttempt}
    (h : assertCurrentAttempt job value = .ok attempt)
    : value = some attempt ∧ ∃ lease, CurrentAttempt job lease attempt := by
  simp only [assertCurrentAttempt, bind_eq_ok, parseLease_eq_ok, found_eq_ok, failIf_eq_ok,
    pure_eq_ok, not_or, not_not] at h
  obtain ⟨lease, ⟨hlease, _⟩, _, hvalue, _, ⟨hrunning, hfence, hscope, hsequence⟩, rfl⟩ := h
  exact ⟨hvalue, lease, hlease, hrunning, hfence, hscope, hsequence⟩

structure Terminated (job : ReplayJob) (attemptId : Option String) (status : ReplayJobTerminalStatus)
    (code : ReplayJobTerminalCode) (now : UtcMillisecondTimestamp) (next : ReplayJob) : Prop where
  accepted : next.Accepted
  next_eq :
    next
      = { job with
          currentLease := none
          stateVersion := job.stateVersion + 1
          status := status.job
          terminal :=
            some { attemptId := attemptId, code := code, committedAt := now, status := status } }

theorem terminated_of_terminalJob {attemptId : Option String} {status : ReplayJobTerminalStatus}
    {code : ReplayJobTerminalCode} (h : terminalJob job attemptId status code now = .ok next)
    : Terminated job attemptId status code now next := by
  simp only [terminalJob, bind_eq_ok, nextCounter_eq_ok, parseJob_eq_ok] at h
  obtain ⟨_, ⟨_, rfl⟩, haccepted, rfl⟩ := h
  exact ⟨haccepted, rfl⟩

structure AttemptClosed (attempt : ReplayAttempt) (endedAt : UtcMillisecondTimestamp)
    (closed : ReplayAttempt) : Prop where
  accepted : closed.Accepted
  attemptId : closed.attemptId = attempt.attemptId
  attemptSequence : closed.attemptSequence = attempt.attemptSequence
  endedAt_eq : closed.endedAt = some endedAt
  jobId : closed.jobId = attempt.jobId
  mutationFence : closed.mutationFence = attempt.mutationFence
  plan : closed.plan = attempt.plan
  scope : closed.scope = attempt.scope
  startedAt : closed.startedAt = attempt.startedAt
  status : closed.status ≠ .running

theorem closeExpiredReplayAttempt_ok {effect : ReplayAttemptEffect}
    {status : ReplayJobTerminalStatus} {code : ReplayJobTerminalCode}
    (h : closeExpiredReplayAttempt job attempt effect status code now = .ok (closed, next))
    : job.Accepted
        ∧ job.status = .running
        ∧ Terminated job (some attempt.attemptId) status code now next
        ∧ ∃ lease,
            CurrentAttempt job lease attempt
              ∧ lease.expiresAt.value ≤ now.value
              ∧ AttemptClosed attempt lease.expiresAt closed := by
  simp only [closeExpiredReplayAttempt, bind_eq_ok, parseJob_eq_ok, parseAttempt_eq_ok, failIf_eq_ok,
    parseLease_eq_ok, pure_eq_ok, Prod.mk.injEq, not_not, not_lt] at h
  obtain ⟨_, ⟨hjob, rfl⟩, _, ⟨_, rfl⟩, _, hrunning, lease, ⟨hlease, _⟩, _, hcurrent, _, hexpired, _,
    ⟨haccepted, rfl⟩, _, hterminal, rfl, rfl⟩ := h
  obtain ⟨hvalue, other, hcurrent⟩ := assertCurrentAttempt_eq_ok hcurrent
  cases hvalue
  have hother : other = lease := by
    have := hcurrent.currentLease
    rw [hlease] at this
    exact (Option.some.inj this).symm
  subst hother
  refine ⟨hjob, hrunning, terminated_of_terminalJob hterminal, other, hcurrent, hexpired, ?_⟩
  constructor
  . exact haccepted
  all_goals first | rfl | simp

theorem completeReplayAttempt_ok {options : CompleteReplayAttemptOptions}
    (h : completeReplayAttempt job attempt fence options = .ok (closed, next))
    : job.Accepted
        ∧ (options.cancellationRequested → options.status = .cancelled)
        ∧ Terminated job (some attempt.attemptId) options.status options.code options.now next
        ∧ ∃ lease,
            FenceLive job fence options.now lease
              ∧ CurrentAttempt job lease attempt
              ∧ AttemptClosed attempt options.now closed := by
  simp only [completeReplayAttempt, bind_eq_ok, parseJob_eq_ok, parseAttempt_eq_ok, failIf_eq_ok,
    assertCurrentFence_eq_ok, pure_eq_ok, Prod.mk.injEq] at h
  obtain ⟨_, ⟨hjob, rfl⟩, _, ⟨_, rfl⟩, lease, hlive, _, hcurrent, _, hcancelled, _, ⟨haccepted, rfl⟩,
    _, hterminal, rfl, rfl⟩ := h
  obtain ⟨hvalue, other, hcurrent⟩ := assertCurrentAttempt_eq_ok hcurrent
  cases hvalue
  have hother : other = lease := by
    have := hcurrent.currentLease
    rw [hlive.currentLease] at this
    exact (Option.some.inj this).symm
  subst hother
  push Not at hcancelled
  refine ⟨hjob, hcancelled, terminated_of_terminalJob hterminal, other, hlive, hcurrent, ?_⟩
  constructor
  . exact haccepted
  all_goals first | rfl | skip
  dsimp only
  cases options.status <;> simp [ReplayJobTerminalStatus.attempt]

structure Heartbeat (job : ReplayJob) (fence : ReplayWorkerMutationFence)
    (now : UtcMillisecondTimestamp) (next : ReplayJob) (lease renewed : ReplayLease) : Prop where
  job_accepted : job.Accepted
  live : FenceLive job fence now lease
  accepted : next.Accepted
  renewed_accepted : renewed.Accepted
  mutationFence : renewed.mutationFence = lease.mutationFence
  acquiredAt : renewed.acquiredAt = lease.acquiredAt
  heartbeatAt : renewed.heartbeatAt = now
  next_eq :
    next = { job with currentLease := some renewed, stateVersion := job.stateVersion + 1 }

theorem heartbeatReplayJob_ok {duration : Int}
    (h : heartbeatReplayJob job fence now duration = .ok next)
    : ∃ lease renewed, Heartbeat job fence now next lease renewed := by
  simp only [heartbeatReplayJob, bind_eq_ok, parseJob_eq_ok, parseLease_eq_ok,
    assertCurrentFence_eq_ok, nextCounter_eq_ok, Option.some.injEq] at h
  obtain ⟨_, ⟨hjob, rfl⟩, _, _, lease, hlive, expiresAt, _, renewed, ⟨rfl, hrenewed⟩, _, ⟨_, rfl⟩,
    haccepted, rfl⟩ := h
  exact ⟨lease, _, hjob, hlive, haccepted, hrenewed, rfl, rfl, rfl, rfl⟩

theorem nextSequence_eq_ok {latest : Option Nat} {sequence : Nat}
    (h : nextSequence latest = .ok sequence)
    : sequence = latest.elim 0 (· + 1) := by
  unfold nextSequence at h
  split at h
  . cases h
    rfl
  . rw [nextCounter_eq_ok] at h
    exact h.2.symm

/-- How a claim deals with the attempt before the new one: a queued job has none and the lease of a
running job has expired. -/
inductive PreviousAttempt (job : ReplayJob) (options : ClaimReplayJobOptions)
    : Option ReplayAttempt → Prop
  | none (queued : job.status = .queued) (unset : options.currentAttempt = none)
    : PreviousAttempt job options none
  | expired {lease : ReplayLease} {current closed : ReplayAttempt} (running : job.status = .running)
    (given : options.currentAttempt = some current) (currentAttempt : CurrentAttempt job lease current)
    (expired : lease.expiresAt.value ≤ options.now.value)
    (effect : options.expiredEffect ≠ Option.none)
    (attemptClosed : AttemptClosed current options.now closed)
    : PreviousAttempt job options (some closed)

theorem previousAttempt_of_expireAttempt {options : ClaimReplayJobOptions}
    {expired : Option ReplayAttempt} (hclaimable : assertClaimable job options = .ok ())
    (h : expireAttempt job options = .ok expired)
    : PreviousAttempt job options expired := by
  simp only [assertClaimable, bind_eq_ok, failIf_eq_ok] at hclaimable
  obtain ⟨_, _, _, _, _, hstatus, hlease⟩ := hclaimable
  unfold expireAttempt at h
  split at h
  . next hrunning =>
    rw [if_pos hrunning] at hlease
    simp only [bind_eq_ok, parseLease_eq_ok, failIf_eq_ok, not_lt] at hlease
    obtain ⟨lease, ⟨hlease, _⟩, hexpired⟩ := hlease
    simp only [bind_eq_ok, found_eq_ok, failIf_eq_ok, parseAttempt_eq_ok, pure_eq_ok] at h
    obtain ⟨current, hcurrent, effect, heffect, _, _, _, ⟨haccepted, rfl⟩, rfl⟩ := h
    obtain ⟨hgiven, other, hcurrent⟩ := assertCurrentAttempt_eq_ok hcurrent
    have hother : other = lease := by
      have := hcurrent.currentLease
      rw [hlease] at this
      exact (Option.some.inj this).symm
    subst hother
    refine .expired hrunning hgiven hcurrent hexpired (by simp [heffect]) ?_
    constructor
    . exact haccepted
    all_goals first | rfl | simp
  . next hrunning =>
    simp only [bind_eq_ok, failIf_eq_ok, pure_eq_ok, not_not] at h
    obtain ⟨_, hunset, rfl⟩ := h
    push Not at hstatus
    refine .none ?_ hunset
    by_contra hqueued
    exact hrunning (hstatus hqueued)

structure Claimed (job : ReplayJob) (options : ClaimReplayJobOptions) (result : ClaimReplayJobResult)
    : Prop where
  job_accepted : job.Accepted
  accepted : result.job.Accepted
  attempt_accepted : result.attempt.Accepted
  lease_accepted : result.lease.Accepted
  attemptId : result.attempt.attemptId = options.attemptId
  attemptSequence : result.attempt.attemptSequence = job.latestAttemptSequence.elim 0 (· + 1)
  lease_sequence : result.lease.attemptSequence = result.attempt.attemptSequence
  attempt_jobId : result.attempt.jobId = job.jobId
  attempt_plan : result.attempt.plan = job.plan
  attempt_scope : result.attempt.scope = job.scope
  attempt_startedAt : result.attempt.startedAt = options.now
  attempt_running : result.attempt.status = .running
  attempt_fence : result.attempt.mutationFence = result.lease.mutationFence
  fence :
    result.lease.mutationFence
      = { attemptId := options.attemptId
          fencingToken := job.lastFencingToken + 1
          jobId := job.jobId
          leaseId := options.leaseId
          recoveryEpoch := job.recoveryEpoch
          workerId := options.workerId }
  acquiredAt : result.lease.acquiredAt = options.now
  previous : PreviousAttempt job options result.expiredAttempt
  job_eq :
    result.job
      = { job with
          currentLease := some result.lease
          lastFencingToken := job.lastFencingToken + 1
          latestAttemptSequence := some result.attempt.attemptSequence
          startedAt := some (job.startedAt.getD options.now)
          stateVersion := job.stateVersion + 1
          status := .running }

theorem claimed_of_claimReplayJob {options : ClaimReplayJobOptions} {result : ClaimReplayJobResult}
    (h : claimReplayJob job options = .ok result)
    : Claimed job options result := by
  simp only [claimReplayJob, claimedLease, claimedAttempt, bind_eq_ok, parseJob_eq_ok, failIf_eq_ok,
    nextCounter_eq_ok, parseLease_eq_ok, parseAttempt_eq_ok, pure_eq_ok, Option.some.injEq] at h
  obtain ⟨_, ⟨hjob, rfl⟩, _, hclaimable, sequence, hsequence, _, _, _, ⟨_, rfl⟩, _, ⟨_, rfl⟩, _,
    ⟨expiresAt, _, rfl, hlease⟩, _, ⟨hattempt, rfl⟩, expired, hexpired, _, ⟨haccepted, rfl⟩, rfl⟩ := h
  have hprevious := previousAttempt_of_expireAttempt hclaimable hexpired
  have hsequence := nextSequence_eq_ok hsequence
  subst hsequence
  constructor
  . exact hjob
  . exact haccepted
  . exact hattempt
  . exact hlease
  all_goals first | rfl | skip
  exact hprevious

structure CancellationRequested (job : ReplayJob) (input : RequestReplayCancellation)
    (requestedByPrincipalId : String) (now : UtcMillisecondTimestamp)
    (result : RequestReplayCancellationResult) : Prop where
  job_accepted : job.Accepted
  created : result.created = true
  accepted : result.request.Accepted
  request_eq :
    result.request
      = { toRequestReplayCancellation := input
          jobId := job.jobId
          requestedAt := now
          requestedByPrincipalId := requestedByPrincipalId
          scope := job.scope }
  job_eq :
    job.status = .running ∧ result.job = job
      ∨ job.status = .queued
          ∧ Terminated job none .cancelled .cancellationCommitted now result.job

theorem requestReplayCancellation_new {input : RequestReplayCancellation} {principalId : String}
    {result : RequestReplayCancellationResult}
    (h : requestReplayCancellation job none input principalId now = .ok result)
    : CancellationRequested job input principalId now result := by
  simp only [requestReplayCancellation, bind_eq_ok, parseJob_eq_ok, parseWith_eq_ok, failIf_eq_ok,
    parseRequest_eq_ok] at h
  obtain ⟨_, ⟨hjob, rfl⟩, _, ⟨_, rfl⟩, _, hstatus, _, ⟨haccepted, rfl⟩, h⟩ := h
  push Not at hstatus
  split at h
  . next hrunning =>
    rw [pure_eq_ok] at h
    subst h
    exact ⟨hjob, rfl, haccepted, rfl, .inl ⟨hrunning, rfl⟩⟩
  . next hrunning =>
    simp only [bind_eq_ok, pure_eq_ok] at h
    obtain ⟨_, hterminal, rfl⟩ := h
    refine ⟨hjob, rfl, haccepted, rfl, .inr ⟨?_, terminated_of_terminalJob hterminal⟩⟩
    by_contra hqueued
    exact hrunning (hstatus hqueued)

theorem requestReplayCancellation_existing {existing : ReplayCancellationRequest}
    {input : RequestReplayCancellation} {principalId : String}
    {result : RequestReplayCancellationResult}
    : requestReplayCancellation job (some existing) input principalId now = .ok result
        ↔ job.Accepted
            ∧ input.Accepted
            ∧ existing.Accepted
            ∧ existing.jobId = job.jobId
            ∧ existing.scope = job.scope
            ∧ existing.toRequestReplayCancellation = input
            ∧ result = { created := false, job := job, request := existing } := by
  simp only [requestReplayCancellation, bind_eq_ok, parseJob_eq_ok, parseWith_eq_ok, failIf_eq_ok,
    parseRequest_eq_ok, pure_eq_ok, not_or, not_not]
  constructor
  . rintro ⟨_, ⟨hjob, rfl⟩, _, ⟨hinput, rfl⟩, _, ⟨hexisting, rfl⟩, _, ⟨hjobId, hscope, hsame⟩, rfl⟩
    exact ⟨hjob, hinput, hexisting, hjobId, hscope, hsame, rfl⟩
  . rintro ⟨hjob, hinput, hexisting, hjobId, hscope, hsame, rfl⟩
    exact ⟨_, ⟨hjob, rfl⟩, _, ⟨hinput, rfl⟩, _, ⟨hexisting, rfl⟩, (), ⟨hjobId, hscope, hsame⟩, rfl⟩

theorem acknowledgeReplayCancellation_eq_ok {request : ReplayCancellationRequest}
    {acknowledgementId : String} {action : ReplayCancellationAction}
    {acknowledgement : ReplayCancellationAcknowledgement}
    : acknowledgeReplayCancellation job request fence acknowledgementId action now
          = .ok acknowledgement
        ↔ job.Accepted
            ∧ request.Accepted
            ∧ (∃ lease, FenceLive job fence now lease)
            ∧ request.jobId = job.jobId
            ∧ request.scope = job.scope
            ∧ request.requestedAt.value ≤ now.value
            ∧ acknowledgement.Accepted
            ∧ acknowledgement
                = { acknowledgedAt := now
                    acknowledgementId := acknowledgementId
                    action := action
                    cancellationId := request.cancellationId
                    mutationFence := fence
                    scope := job.scope } := by
  simp only [acknowledgeReplayCancellation, bind_eq_ok, parseJob_eq_ok, parseRequest_eq_ok,
    assertCurrentFence_eq_ok, failIf_eq_ok, parseWith_eq_ok, not_or, not_not, not_lt]
  constructor
  . rintro ⟨_, ⟨hjob, rfl⟩, _, ⟨hrequest, rfl⟩, lease, hlive, _, ⟨hjobId, hscope, htime⟩, haccepted,
      rfl⟩
    exact ⟨hjob, hrequest, ⟨lease, hlive⟩, hjobId, hscope, htime, haccepted, rfl⟩
  . rintro ⟨hjob, hrequest, ⟨lease, hlive⟩, hjobId, hscope, htime, haccepted, rfl⟩
    exact ⟨_, ⟨hjob, rfl⟩, _, ⟨hrequest, rfl⟩, lease, hlive, (), ⟨hjobId, hscope, htime⟩, haccepted,
      rfl⟩

end Transitions

end Replay
end ProofStack
