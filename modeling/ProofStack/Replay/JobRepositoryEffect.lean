import ProofStack.Replay.BudgetLedger
import ProofStack.Replay.JobStateLemmas

/-!
This module contains what the operations of the replay job repository do.
-/

namespace ProofStack
namespace Replay

open Checks Sequence StateMachine

variable {store : ReplayJobStore} {definitions : ReplayDefinitions}
variable {reading : Option UtcMillisecondTimestamp} {now : UtcMillisecondTimestamp}
variable {stored next : StoredReplayJob} {outcome : ReplayOutcome} {intent : ReplayJobOutboxIntent}

section Intents

def createdIntent (job : ReplayJob) : ReplayJobOutboxIntent where
  aggregateId := job.jobId
  createdAt := job.createdAt
  eventType := .created
  payload := .created job.plan job.scope.environmentId job.jobId job.scope.projectId
  tenantId := job.scope.tenantId

def cancellationIntent (job : ReplayJob) (request : ReplayCancellationRequest)
    : ReplayJobOutboxIntent where
  aggregateId := job.jobId
  createdAt := request.requestedAt
  eventType := .cancellationRequested
  payload :=
    .cancellationRequested request.cancellationId job.scope.environmentId job.jobId
      job.scope.projectId request.reasonCode
  tenantId := job.scope.tenantId

def terminalIntent (job : ReplayJob) (terminal : ReplayJobTerminalRecord)
    : ReplayJobOutboxIntent where
  aggregateId := job.jobId
  createdAt := terminal.committedAt
  eventType := .terminal
  payload :=
    .terminal terminal.code job.scope.environmentId job.jobId job.scope.projectId job.stateVersion
      job.status
  tenantId := job.scope.tenantId

theorem buildReplayJobCreatedOutboxIntent_eq_ok {job : ReplayJob}
    : buildReplayJobCreatedOutboxIntent job = .ok intent
        ↔ job.Accepted ∧ createdIntent job = intent := by
  simp only [buildReplayJobCreatedOutboxIntent, bind_eq_ok, parseJob_eq_ok, pure_eq_ok]
  constructor
  . rintro ⟨_, ⟨haccepted, rfl⟩, rfl⟩
    exact ⟨haccepted, rfl⟩
  . rintro ⟨haccepted, rfl⟩
    exact ⟨job, ⟨haccepted, rfl⟩, rfl⟩

theorem buildReplayJobCancellationRequestedOutboxIntent_eq_ok {job : ReplayJob}
    {request : ReplayCancellationRequest}
    : buildReplayJobCancellationRequestedOutboxIntent job request = .ok intent
        ↔ job.Accepted
            ∧ request.Accepted
            ∧ request.jobId = job.jobId
            ∧ request.scope = job.scope
            ∧ cancellationIntent job request = intent := by
  simp only [buildReplayJobCancellationRequestedOutboxIntent, bind_eq_ok, parseJob_eq_ok,
    parseRequest_eq_ok, failIf_eq_ok, pure_eq_ok, not_or, not_not]
  constructor
  . rintro ⟨_, ⟨hjob, rfl⟩, _, ⟨hrequest, rfl⟩, _, ⟨hjobId, hscope⟩, rfl⟩
    exact ⟨hjob, hrequest, hjobId, hscope, rfl⟩
  . rintro ⟨hjob, hrequest, hjobId, hscope, rfl⟩
    exact ⟨job, ⟨hjob, rfl⟩, request, ⟨hrequest, rfl⟩, (), ⟨hjobId, hscope⟩, rfl⟩

theorem buildReplayJobTerminalOutboxIntent_eq_ok {job : ReplayJob}
    : buildReplayJobTerminalOutboxIntent job = .ok intent
        ↔ job.Accepted
            ∧ ∃ terminal, job.terminal = some terminal ∧ terminalIntent job terminal = intent := by
  simp only [buildReplayJobTerminalOutboxIntent, bind_eq_ok, parseJob_eq_ok, found_eq_ok, pure_eq_ok]
  constructor
  . rintro ⟨_, ⟨haccepted, rfl⟩, terminal, hterminal, rfl⟩
    exact ⟨haccepted, terminal, hterminal, rfl⟩
  . rintro ⟨haccepted, terminal, hterminal, rfl⟩
    exact ⟨job, ⟨haccepted, rfl⟩, terminal, hterminal, rfl⟩

theorem requireIntent_eq_ok {u : Unit}
    : requireIntent stored intent = .ok u ↔ stored.intents (intentKey intent) = some intent := by
  simp only [requireIntent, failIf_eq_ok, not_not]

end Intents

section Parts

theorem requireJob_eq_ok {scope : EvidenceScope} {jobId : String}
    : requireJob store scope jobId = .ok stored
        ↔ store.jobs (scope.tenantId, jobId) = some stored ∧ stored.job.scope = scope := by
  simp only [requireJob, bind_eq_ok, found_eq_ok, failIf_eq_ok, pure_eq_ok, not_not]
  constructor
  . rintro ⟨_, hjob, _, hscope, rfl⟩
    exact ⟨hjob, hscope⟩
  . rintro ⟨hjob, hscope⟩
    exact ⟨stored, hjob, (), hscope, rfl⟩

theorem push_eq_ok {α : Type} {values result : List α} {value : α} (h : push values value = .ok result)
    : values.length < maxArrayLength ∧ result = values ++ [value] := by
  simp only [push, bind_eq_ok, failIf_eq_ok, pure_eq_ok, not_le] at h
  obtain ⟨_, hlength, rfl⟩ := h
  exact ⟨hlength, rfl⟩

def AttemptAt (stored : StoredReplayJob) (attempt : ReplayAttempt) : Prop :=
  ∃ sequence,
    stored.job.latestAttemptSequence = some sequence ∧ stored.attempts[sequence]? = some attempt

theorem currentAttempt_eq_ok {attempt : ReplayAttempt}
    : currentAttempt stored = .ok attempt ↔ AttemptAt stored attempt := by
  simp only [currentAttempt, bind_eq_ok, found_eq_ok, AttemptAt]

end Parts

section Transition

structure Closes (stored : StoredReplayJob) (now endedAt : UtcMillisecondTimestamp)
    (status : ReplayJobTerminalStatus) (code : ReplayJobTerminalCode) (lease : ReplayLease)
    (attempt closed : ReplayAttempt) (job : ReplayJob) : Prop where
  job_accepted : stored.job.Accepted
  running : stored.job.status = .running
  attemptAt : AttemptAt stored attempt
  current : CurrentAttempt stored.job lease attempt
  endedAt_le : endedAt.value ≤ now.value
  attemptClosed : AttemptClosed attempt endedAt closed
  terminated : Terminated stored.job (some attempt.attemptId) status code now job

def closeJob (stored : StoredReplayJob) (closed : ReplayAttempt) (job : ReplayJob)
    (terminal : ReplayJobTerminalRecord) : StoredReplayJob :=
  withIntent { stored with attempts := replaceAttempt stored.attempts closed, job := job }
    (terminalIntent job terminal)

inductive Transition (now : UtcMillisecondTimestamp) (stored : StoredReplayJob)
    : ReplayCommand → StoredReplayJob → Prop
  | claimed {command : ClaimDurableReplayJobCommand} {options : ClaimReplayJobOptions}
    {result : ClaimReplayJobResult} (claimed : Claimed stored.job options result)
    (attemptId : options.attemptId = command.attemptId) (leaseId : options.leaseId = command.leaseId)
    (now_eq : options.now = now)
    (fresh : ∀ attempt ∈ stored.attempts, attempt.attemptId ≠ command.attemptId)
    (attemptAt : ∀ attempt ∈ options.currentAttempt, AttemptAt stored attempt)
    (uncancelled : stored.job.status = .running → stored.cancellationRequest = none)
    : Transition now stored (.claimJob command)
        { stored with
          attempts :=
            result.expiredAttempt.elim stored.attempts (replaceAttempt stored.attempts)
              ++ [result.attempt]
          job := result.job }
  | expired {command : ClaimDurableReplayJobCommand} {status : ReplayJobTerminalStatus}
    {code : ReplayJobTerminalCode} {lease : ReplayLease} {attempt closed : ReplayAttempt}
    {job : ReplayJob}
    (closes : Closes stored now lease.expiresAt status code lease attempt closed job)
    (cancelled : stored.cancellationRequest = none ↔ status ≠ .cancelled)
    : Transition now stored (.claimJob command)
        (closeJob stored closed job
          { attemptId := some attempt.attemptId, code := code, committedAt := now, status := status })
  | heartbeat {command : HeartbeatDurableReplayJobCommand} {lease renewed : ReplayLease}
    {job : ReplayJob}
    (heartbeat : Heartbeat stored.job command.workerFence now job lease renewed)
    : Transition now stored (.heartbeatJob command) { stored with job := job }
  | requested {command : RequestDurableReplayCancellationCommand}
    {result : RequestReplayCancellationResult} (unset : stored.cancellationRequest = none)
    (requested :
      CancellationRequested stored.job command.input command.requestedByPrincipalId now result)
    (running : stored.job.status = .running)
    : Transition now stored (.requestCancellation command)
        (withIntent { stored with cancellationRequest := some result.request }
          (cancellationIntent stored.job result.request))
  | cancelled {command : RequestDurableReplayCancellationCommand}
    {result : RequestReplayCancellationResult} (unset : stored.cancellationRequest = none)
    (requested :
      CancellationRequested stored.job command.input command.requestedByPrincipalId now result)
    (queued : stored.job.status = .queued)
    (terminated : Terminated stored.job none .cancelled .cancellationCommitted now result.job)
    : Transition now stored (.requestCancellation command)
        (withIntent
          (withIntent { stored with cancellationRequest := some result.request, job := result.job }
            (cancellationIntent result.job result.request))
          (terminalIntent result.job
            { attemptId := none
              code := .cancellationCommitted
              committedAt := now
              status := .cancelled }))
  | acknowledged {command : AcknowledgeDurableReplayCancellationCommand}
    {request : ReplayCancellationRequest} {acknowledgement : ReplayCancellationAcknowledgement}
    (requested : stored.cancellationRequest = some request)
    (acknowledged :
      acknowledgeReplayCancellation stored.job request command.workerFence command.acknowledgementId
          command.action now
        = .ok acknowledgement)
    (fresh :
      ∀ existing ∈ stored.cancellationAcknowledgements,
        existing.acknowledgementId ≠ command.acknowledgementId)
    : Transition now stored (.acknowledgeCancellation command)
        { stored with
          cancellationAcknowledgements := stored.cancellationAcknowledgements ++ [acknowledgement] }
  | reserved {command : ReserveDurableReplayBudgetCommand} {lease : ReplayLease}
    {budget : ReplayBudget} {summary : ReplayBudgetLedgerSummary}
    {reservation : ReplayBudgetReservation} (job_accepted : stored.job.Accepted)
    (live : FenceLive stored.job command.workerFence.value now lease)
    (fresh : reservationOf stored.budgetLedger command.reservationId = none)
    (summarized : summarizeReplayBudgetLedger stored.budgetLedger = .ok summary)
    (reserved :
      reserveReplayBudget
          { budget := budget
            committed := summary.committed
            ledgerSequence := stored.budgetLedger.length
            mutationFence := command.workerFence.value
            requested := command.requested.value
            reservationId := command.reservationId
            reservedAt := now
            scope := command.scope
            work := command.work.value }
        = .ok reservation)
    (room : stored.budgetLedger.length < maxArrayLength)
    : Transition now stored (.reserveBudget command)
        { stored with budgetLedger := stored.budgetLedger ++ [.reservation reservation] }
  | reconciled {command : ReconcileDurableReplayBudgetCommand} {lease : ReplayLease}
    {summary : ReplayBudgetLedgerSummary} {reservation : ReplayBudgetReservation}
    {reconciliation : ReplayBudgetReconciliation} (job_accepted : stored.job.Accepted)
    (live : FenceLive stored.job command.workerFence now lease)
    (opened : reservationOf stored.budgetLedger command.reservationId = some reservation)
    (mutationFence : reservation.mutationFence = command.workerFence)
    (reconciled :
      reconcileReplayBudget reservation
          { ledgerSequence := stored.budgetLedger.length
            reconciledAt := now
            reconciliationId := command.reconciliationId
            usage := command.usage }
        = .ok reconciliation)
    (fresh :
      ∀ existing ∈ reconciliations stored.budgetLedger,
        existing.reconciliationId ≠ command.reconciliationId)
    (unreconciled : reconciliationOf stored.budgetLedger command.reservationId = none)
    (summarized :
      summarizeReplayBudgetLedger (stored.budgetLedger ++ [.reconciliation reconciliation])
        = .ok summary)
    (room : stored.budgetLedger.length < maxArrayLength)
    : Transition now stored (.reconcileBudget command)
        { stored with budgetLedger := stored.budgetLedger ++ [.reconciliation reconciliation] }
  | executionObserved {command : AppendReplayExecutionObservationCommand} {lease : ReplayLease}
    {observation : ReplayExecutionObservation} (job_accepted : stored.job.Accepted)
    (live : FenceLive stored.job command.workerFence now lease)
    (payload :
      ∀ cancellationId ∈ command.payload.cancellationId,
        stored.cancellationRequest.map (·.cancellationId) = some cancellationId)
    (accepted : observation.Accepted)
    (observation_eq :
      observation
        = { mutationFence := command.workerFence
            observationId := command.observationId
            observationSequence := observationSequence stored
            observedAt := now
            payload := command.payload
            scope := command.scope })
    (fresh : command.observationId ∉ stored.observations.map (·.observationId))
    (room : stored.executionObservations.length < maxArrayLength)
    : Transition now stored (.appendExecutionObservation command)
        { stored with executionObservations := stored.executionObservations ++ [observation] }
  | usageObserved {command : AppendReplayUsageObservationCommand} {lease : ReplayLease}
    {observation : ReplayUsageObservation} (job_accepted : stored.job.Accepted)
    (live : FenceLive stored.job command.workerFence now lease) (accepted : observation.Accepted)
    (observation_eq :
      observation
        = { boundaryId := command.boundaryId
            measurements := command.measurements
            mutationFence := command.workerFence
            observationId := command.observationId
            observationSequence := observationSequence stored
            observedAt := now
            scope := command.scope
            sourceEventSha256 := command.sourceEventSha256 })
    (fresh : command.observationId ∉ stored.observations.map (·.observationId))
    (room : stored.usageObservations.length < maxArrayLength)
    : Transition now stored (.appendUsageObservation command)
        { stored with usageObservations := stored.usageObservations ++ [observation] }
  | completed {command : CompleteDurableReplayJobCommand} {lease : ReplayLease}
    {attempt closed : ReplayAttempt} {job : ReplayJob}
    (closes : Closes stored now now command.status command.code lease attempt closed job)
    (live : FenceLive stored.job command.workerFence now lease)
    (cancelled : stored.cancellationRequest ≠ none → command.status = .cancelled)
    (acknowledged :
      stored.cancellationRequest ≠ none →
        ∃ acknowledgement ∈ stored.cancellationAcknowledgements,
          acknowledgement.mutationFence = command.workerFence)
    : Transition now stored (.completeJob command)
        (closeJob stored closed job
          { attemptId := some attempt.attemptId
            code := command.code
            committedAt := now
            status := command.status })

def createdJob (job : ReplayJob) : StoredReplayJob :=
  withIntent
    { attempts := []
      budgetLedger := []
      cancellationAcknowledgements := []
      cancellationRequest := none
      executionObservations := []
      intents := fun _ => none
      job := job
      usageObservations := [] }
    (createdIntent job)

structure Created (command : CreateReplayJobCommand) (now : UtcMillisecondTimestamp) (job : ReplayJob)
    : Prop where
  accepted : job.Accepted
  job_eq :
    job
      = { createdAt := now
          createdByPrincipalId := command.createdByPrincipalId
          currentLease := none
          jobId := command.jobId
          lastFencingToken := 0
          latestAttemptSequence := none
          plan := command.plan.value
          recoveryEpoch := 0
          scope := command.scope
          startedAt := none
          stateVersion := 1
          status := .queued
          terminal := none }

inductive Effect (store : ReplayJobStore) (reading : Option UtcMillisecondTimestamp)
    (command : ReplayCommand) (outcome : ReplayOutcome) : Prop
  | unchanged (job : store.jobs command.key = some outcome.stored)
    (scope : outcome.stored.job.scope = command.scope) (published : outcome.published = none)
    (live :
      ∀ fence ∈ command.workerFence, ∃ now lease,
        reading = some now ∧ FenceLive outcome.stored.job fence now lease)
  | created {create : CreateReplayJobCommand} {now : UtcMillisecondTimestamp} {job : ReplayJob}
    (command_eq : command = .createJob create) (reading_eq : reading = some now)
    (absent : store.jobs command.key = none) (created : Created create now job)
    (stored_eq : outcome.stored = createdJob job) (published : outcome.published ≠ none)
  | stored {now : UtcMillisecondTimestamp} {stored : StoredReplayJob} (reading_eq : reading = some now)
    (job : store.jobs command.key = some stored) (scope : stored.job.scope = command.scope)
    (published : outcome.published ≠ none) (transition : Transition now stored command outcome.stored)

end Transition

section Operations

theorem created_of_createQueuedReplayJob {command : CreateReplayJobCommand} {job : ReplayJob}
    (h :
      createQueuedReplayJob command.scope command.createdByPrincipalId command.jobId
          command.plan.value now
        = .ok job)
    : Created command now job := by
  simp only [createQueuedReplayJob, bind_eq_ok, parseWith_eq_ok, parseJob_eq_ok] at h
  obtain ⟨_, ⟨_, rfl⟩, haccepted, rfl⟩ := h
  exact ⟨haccepted, rfl⟩

theorem effect_of_createJob {command : CreateReplayJobCommand}
    (h : createJob store definitions reading command = .ok outcome)
    : Effect store reading (.createJob command) outcome := by
  simp only [createJob, bind_eq_ok, found_eq_ok, failIf_eq_ok, parseTimestamp_eq_ok] at h
  obtain ⟨_, _, _, _, now, hreading, candidate, hcandidate, h⟩ := h
  split at h
  . next existing hexisting =>
    simp only [bind_eq_ok, failIf_eq_ok, pure_eq_ok, not_or, not_not] at h
    obtain ⟨_, ⟨hscope, _, _⟩, _, _, _, _, rfl⟩ := h
    apply Effect.unchanged hexisting hscope rfl
    simp [ReplayCommand.workerFence]
  . next habsent =>
    simp only [bind_eq_ok, pure_eq_ok, buildReplayJobCreatedOutboxIntent_eq_ok] at h
    obtain ⟨_, ⟨_, rfl⟩, rfl⟩ := h
    have hcreated := created_of_createQueuedReplayJob hcandidate
    exact Effect.created rfl hreading habsent hcreated rfl (by simp)

theorem decideExpiry_eq_ok {plan : ReplayPlan} {decision : ExpiryDecision}
    (h : decideExpiry stored plan now = .ok decision)
    : match decision with
      | .unexpired =>
        stored.job.status = .running →
          ∃ lease, stored.job.currentLease = some lease ∧ now.value < lease.expiresAt.value
      | .terminalize status _ => stored.cancellationRequest = none ↔ status ≠ .cancelled
      | .retryNotReady => True
      | .retry => stored.cancellationRequest = none := by
  unfold decideExpiry at h
  split at h
  . next hrunning =>
    cases h
    intro hcontra
    contradiction
  . simp only [bind_eq_ok, found_eq_ok] at h
    obtain ⟨lease, hlease, h⟩ := h
    split at h
    . next hunexpired =>
      cases h
      intro _
      exact ⟨lease, hlease, hunexpired⟩
    . simp only [bind_eq_ok] at h
      obtain ⟨attempt, _, h⟩ := h
      split at h
      . next hrequested =>
        cases h
        simp only [ne_eq, not_true_eq_false, iff_false]
        intro hnone
        simp [hnone] at hrequested
      . next hrequested =>
        have hnone : stored.cancellationRequest = none := by simpa using hrequested
        split at h
        . cases h
          simp [hnone]
        . simp only [bind_eq_ok] at h
          obtain ⟨_, _, retry, _, h⟩ := h
          cases retry with
          | blocked reason =>
            cases h
            cases reason <;> simp [terminalCloseReason, hnone]
          | eligible attempt notBefore =>
            dsimp only at h
            split at h
            . cases h
              trivial
            . cases h
              exact hnone

def claimOptions (command : ClaimDurableReplayJobCommand) (plan : ReplayPlan)
    (now : UtcMillisecondTimestamp) (effect : Option ReplayAttemptEffect)
    (current : Option ReplayAttempt) : ClaimReplayJobOptions where
  attemptId := command.attemptId
  currentAttempt := current
  expiredEffect := effect
  isolationProfile := plan.isolationProfile
  leaseDurationMilliseconds := command.leaseDurationMilliseconds
  leaseId := command.leaseId
  maxAttempts := plan.retryPolicy.maxAttempts
  now := now
  runtimeProfile := plan.runtimeProfile
  targetRelease := plan.targetRelease
  workerBuildSha256 := command.workerBuildSha256
  workerId := command.workerId
  workerProtocol := command.workerProtocol

variable {command : ClaimDurableReplayJobCommand}

theorem claimStored_eq_ok {plan : ReplayPlan}
    {effect : Option ReplayAttemptEffect}
    (h : claimStored command stored plan now effect = .ok outcome)
    : ∃ current result,
        (∀ attempt ∈ current, AttemptAt stored attempt)
          ∧ claimReplayJob stored.job (claimOptions command plan now effect current) = .ok result
          ∧ outcome
              = { result := .claimed result.lease.mutationFence
                  stored :=
                    { stored with
                      attempts :=
                        result.expiredAttempt.elim stored.attempts (replaceAttempt stored.attempts)
                          ++ [result.attempt]
                      job := result.job }
                  published := some [] } := by
  unfold claimStored at h
  split at h
  . simp only [map_eq_pure_bind, bind_assoc, pure_bind, bind_eq_ok, pure_eq_ok,
      currentAttempt_eq_ok] at h
    obtain ⟨attempt, hattempt, result, hresult, attempts, hattempts, rfl⟩ := h
    obtain ⟨_, rfl⟩ := push_eq_ok hattempts
    refine ⟨some attempt, result, ?_, hresult, rfl⟩
    intro other hother
    cases hother
    exact hattempt
  . simp only [pure_bind, bind_eq_ok, pure_eq_ok] at h
    obtain ⟨result, hresult, attempts, hattempts, rfl⟩ := h
    obtain ⟨_, rfl⟩ := push_eq_ok hattempts
    refine ⟨none, result, ?_, hresult, rfl⟩
    simp

theorem effect_of_claimStored {plan : ReplayPlan}
    {effect : Option ReplayAttemptEffect}
    (hjob : store.jobs (command.scope.tenantId, command.jobId) = some stored)
    (hscope : stored.job.scope = command.scope)
    (hfresh : ∀ attempt ∈ stored.attempts, attempt.attemptId ≠ command.attemptId)
    (huncancelled :
      ∀ lease, stored.job.currentLease = some lease → lease.expiresAt.value ≤ now.value →
        stored.job.status = .running → stored.cancellationRequest = none)
    (h : claimStored command stored plan now effect = .ok outcome)
    : Effect store (some now) (.claimJob command) outcome := by
  obtain ⟨current, result, hattemptAt, hresult, rfl⟩ := claimStored_eq_ok h
  have hclaimed := claimed_of_claimReplayJob hresult
  apply Effect.stored rfl hjob hscope (by simp)
  apply Transition.claimed hclaimed rfl rfl rfl hfresh hattemptAt
  intro hrunning
  have hprevious := hclaimed.previous
  generalize result.expiredAttempt = expired at hprevious
  cases hprevious with
  | none queued _ =>
    rw [hrunning] at queued
    contradiction
  | expired _ _ hcurrentAttempt hexpired _ _ =>
    exact huncancelled _ hcurrentAttempt.currentLease hexpired hrunning

theorem effect_of_claimJob
    (h : claimJob store definitions reading command = .ok outcome)
    : Effect store reading (.claimJob command) outcome := by
  simp only [claimJob, bind_eq_ok, requireJob_eq_ok, failIf_eq_ok, parseTimestamp_eq_ok] at h
  obtain ⟨stored, ⟨hjob, hscope⟩, plan, _, _, _, _, _, _, _, _, hfresh, now, rfl, decision,
    hdecision, h⟩ := h
  push Not at hfresh
  have hdecided := decideExpiry_eq_ok hdecision
  cases decision with
  | unexpired =>
    apply effect_of_claimStored hjob hscope hfresh _ h
    intro lease hlease hexpired hrunning
    obtain ⟨other, hother, hunexpired⟩ := hdecided hrunning
    rw [hlease] at hother
    cases hother
    omega
  | retry =>
    apply effect_of_claimStored hjob hscope hfresh _ h
    intro _ _ _ _
    exact hdecided
  | retryNotReady =>
    cases h
    apply Effect.unchanged hjob hscope rfl
    simp [ReplayCommand.workerFence]
  | terminalize status code =>
    simp only [bind_eq_ok, pure_eq_ok, terminalizeExpiredAttempt, currentAttempt_eq_ok] at h
    obtain ⟨_, ⟨attempt, hattempt, ⟨closed, job⟩, hclosed, _, hintent, rfl⟩, rfl⟩ := h
    obtain ⟨hjobAccepted, hrunning, hterminated, lease, hcurrent, hexpired, hattemptClosed⟩ :=
      closeExpiredReplayAttempt_ok hclosed
    rw [buildReplayJobTerminalOutboxIntent_eq_ok] at hintent
    obtain ⟨_, terminal, hterminal, rfl⟩ := hintent
    rw [hterminated.next_eq] at hterminal
    cases hterminal
    apply Effect.stored rfl hjob hscope (by simp)
    exact Transition.expired
      ⟨hjobAccepted, hrunning, hattempt, hcurrent, hexpired, hattemptClosed, hterminated⟩ hdecided

theorem effect_of_heartbeatJob {command : HeartbeatDurableReplayJobCommand}
    (h : heartbeatJob store definitions reading command = .ok outcome)
    : Effect store reading (.heartbeatJob command) outcome := by
  simp only [heartbeatJob, bind_eq_ok, requireJob_eq_ok, failIf_eq_ok, parseTimestamp_eq_ok,
    pure_eq_ok] at h
  obtain ⟨stored, ⟨hjob, hscope⟩, _, _, _, _, now, rfl, job, hheartbeat, rfl⟩ := h
  obtain ⟨lease, renewed, hheartbeat⟩ := heartbeatReplayJob_ok hheartbeat
  apply Effect.stored rfl hjob hscope (by simp)
  exact Transition.heartbeat hheartbeat

theorem effect_of_recordCancellation {command : RequestDurableReplayCancellationCommand}
    {result : RequestReplayCancellationResult}
    (hjob : store.jobs (command.scope.tenantId, command.jobId) = some stored)
    (hscope : stored.job.scope = command.scope) (hunset : stored.cancellationRequest = none)
    (hrequested :
      CancellationRequested stored.job command.input command.requestedByPrincipalId now result)
    (h : recordCancellation stored result = .ok outcome)
    : Effect store (some now) (.requestCancellation command) outcome := by
  simp only [recordCancellation, bind_eq_ok, buildReplayJobCancellationRequestedOutboxIntent_eq_ok]
    at h
  obtain ⟨_, ⟨_, _, _, _, rfl⟩, h⟩ := h
  cases hrequested.job_eq with
  | inl hrunning =>
    obtain ⟨_, _, _, _, _, _, _, hterminal⟩ :=
      ReplayJob.started_of_running hrequested.job_accepted hrunning.1
    rw [hrunning.2] at h
    rw [if_neg (by simp [hterminal])] at h
    cases h
    apply Effect.stored rfl hjob hscope (by simp)
    exact Transition.requested hunset hrequested hrunning.1
  | inr hqueued =>
    have hterminal := congrArg ReplayJob.terminal hqueued.2.next_eq
    dsimp only at hterminal
    rw [if_pos (by simp [hterminal])] at h
    simp only [bind_eq_ok, buildReplayJobTerminalOutboxIntent_eq_ok, pure_eq_ok] at h
    obtain ⟨_, ⟨_, terminal, hrecord, rfl⟩, rfl⟩ := h
    rw [hterminal] at hrecord
    cases hrecord
    apply Effect.stored rfl hjob hscope (by simp)
    exact Transition.cancelled hunset hrequested hqueued.1 hqueued.2

theorem effect_of_requestCancellation {command : RequestDurableReplayCancellationCommand}
    (h : requestCancellation store reading command = .ok outcome)
    : Effect store reading (.requestCancellation command) outcome := by
  simp only [requestCancellation, bind_eq_ok, requireJob_eq_ok] at h
  obtain ⟨stored, ⟨hjob, hscope⟩, h⟩ := h
  have hunchanged : outcome = { result := .cancellationRequested false, stored, published := none } →
      Effect store reading (.requestCancellation command) outcome := by
    rintro rfl
    apply Effect.unchanged hjob hscope rfl
    simp [ReplayCommand.workerFence]
  split at h
  . rw [pure_eq_ok] at h
    exact hunchanged h.symm
  . simp only [bind_eq_ok, parseTimestamp_eq_ok] at h
    obtain ⟨now, rfl, result, hresult, h⟩ := h
    cases hexisting : stored.cancellationRequest with
    | none =>
      rw [hexisting] at hresult
      have hrequested := requestReplayCancellation_new hresult
      rw [if_pos hrequested.created] at h
      exact effect_of_recordCancellation hjob hscope hexisting hrequested h
    | some existing =>
      rw [hexisting, requestReplayCancellation_existing] at hresult
      obtain ⟨_, _, _, _, _, _, rfl⟩ := hresult
      rw [if_neg (by simp)] at h
      simp only [bind_eq_ok] at h
      obtain ⟨_, _, _, _, h⟩ := h
      split at h
      . simp only [bind_eq_ok, pure_eq_ok] at h
        obtain ⟨_, _, _, _, h⟩ := h
        exact hunchanged h.symm
      . rw [pure_eq_ok] at h
        exact hunchanged h.symm

theorem effect_of_acknowledgeCancellation {command : AcknowledgeDurableReplayCancellationCommand}
    (h : acknowledgeCancellation store reading command = .ok outcome)
    : Effect store reading (.acknowledgeCancellation command) outcome := by
  simp only [acknowledgeCancellation, bind_eq_ok, requireJob_eq_ok, found_eq_ok,
    parseTimestamp_eq_ok] at h
  obtain ⟨stored, ⟨hjob, hscope⟩, request, hrequest, now, rfl, acknowledgement, hacknowledged, h⟩ := h
  split at h
  . simp only [bind_eq_ok, pure_eq_ok] at h
    obtain ⟨_, _, rfl⟩ := h
    apply Effect.unchanged hjob hscope rfl
    rintro fence ⟨⟩
    obtain ⟨_, _, ⟨lease, hlive⟩, _⟩ := acknowledgeReplayCancellation_eq_ok.mp hacknowledged
    exact ⟨now, lease, rfl, hlive⟩
  . next hfresh =>
    simp only [bind_eq_ok, pure_eq_ok] at h
    obtain ⟨_, hpush, rfl⟩ := h
    obtain ⟨hroom, rfl⟩ := push_eq_ok hpush
    apply Effect.stored rfl hjob hscope (by simp)
    apply Transition.acknowledged hrequest hacknowledged
    simpa using hfresh

theorem effect_of_reserveBudget {command : ReserveDurableReplayBudgetCommand}
    (h : reserveBudget store definitions reading command = .ok outcome)
    : Effect store reading (.reserveBudget command) outcome := by
  simp only [reserveBudget, bind_eq_ok, requireJob_eq_ok, parseTimestamp_eq_ok,
    assertReplayWorkerMutationFence_eq_ok] at h
  obtain ⟨stored, ⟨hjob, hscope⟩, plan, _, now, rfl, lease, ⟨haccepted, hlive⟩, h⟩ := h
  split at h
  . simp only [bind_eq_ok, pure_eq_ok] at h
    obtain ⟨_, _, rfl⟩ := h
    apply Effect.unchanged hjob hscope rfl
    rintro fence ⟨⟩
    exact ⟨now, lease, rfl, hlive⟩
  . next hfresh =>
    simp only [bind_eq_ok, pure_eq_ok] at h
    obtain ⟨summary, hsummary, reservation, hreserved, _, hpush, rfl⟩ := h
    obtain ⟨hroom, rfl⟩ := push_eq_ok hpush
    apply Effect.stored rfl hjob hscope (by simp)
    exact Transition.reserved haccepted hlive hfresh hsummary hreserved hroom

theorem effect_of_reconcileBudget {command : ReconcileDurableReplayBudgetCommand}
    (h : reconcileBudget store reading command = .ok outcome)
    : Effect store reading (.reconcileBudget command) outcome := by
  simp only [reconcileBudget, bind_eq_ok, requireJob_eq_ok, parseTimestamp_eq_ok,
    assertReplayWorkerMutationFence_eq_ok, found_eq_ok, failIf_eq_ok, not_not] at h
  obtain ⟨stored, ⟨hjob, hscope⟩, now, rfl, lease, ⟨haccepted, hlive⟩, reservation, hopened, _, hfence,
    candidate, hcandidate, h⟩ := h
  split at h
  . simp only [bind_eq_ok, pure_eq_ok] at h
    obtain ⟨_, _, rfl⟩ := h
    apply Effect.unchanged hjob hscope rfl
    rintro fence ⟨⟩
    exact ⟨now, lease, rfl, hlive⟩
  . next hfresh =>
    rw [Option.or_eq_none_iff] at hfresh
    simp only [bind_eq_ok, pure_eq_ok] at h
    obtain ⟨_, hpush, summary, hsummary, rfl⟩ := h
    obtain ⟨hroom, rfl⟩ := push_eq_ok hpush
    apply Effect.stored rfl hjob hscope (by simp)
    apply Transition.reconciled haccepted hlive hopened hfence hcandidate _ hfresh.2 hsummary hroom
    simpa using hfresh.1

theorem checkPayload_eq_ok {plan : ReplayPlan} {payload : ReplayExecutionObservationPayload} {u : Unit}
    (h : checkPayload stored plan payload = .ok u)
    : ∀ cancellationId ∈ payload.cancellationId,
        stored.cancellationRequest.map (·.cancellationId) = some cancellationId := by
  unfold checkPayload at h
  split at h
  . simp [ReplayExecutionObservationPayload.cancellationId]
  . rw [failIf_eq_ok, not_not] at h
    rintro _ ⟨⟩
    exact h
  . next hboundary hcancellation =>
    cases payload with
    | cancellation value => exact absurd rfl (hcancellation value)
    | boundary value => exact absurd rfl (hboundary value)
    | isolation value => simp [ReplayExecutionObservationPayload.cancellationId]
    | target value => simp [ReplayExecutionObservationPayload.cancellationId]

theorem mem_observationIds {observationId : String}
    : observationId ∈ stored.observations.map (·.observationId)
        ↔ (∃ existing ∈ stored.executionObservations, existing.observationId = observationId)
            ∨ ∃ existing ∈ stored.usageObservations, existing.observationId = observationId := by
  simp [ReplayJobSnapshot.observations, ReplayExecutionObservation.common,
    ReplayUsageObservation.common]

theorem effect_of_appendExecutionObservation {command : AppendReplayExecutionObservationCommand}
    (h : appendExecutionObservation store definitions reading command = .ok outcome)
    : Effect store reading (.appendExecutionObservation command) outcome := by
  simp only [appendExecutionObservation, bind_eq_ok, requireJob_eq_ok, parseTimestamp_eq_ok,
    assertReplayWorkerMutationFence_eq_ok, parseWith_eq_ok] at h
  obtain ⟨stored, ⟨hjob, hscope⟩, plan, _, now, rfl, lease, ⟨haccepted, hlive⟩, _, hpayload, _,
    ⟨hobservation, rfl⟩, h⟩ := h
  simp only [appendExecution] at h
  split at h
  . simp only [bind_eq_ok, pure_eq_ok] at h
    obtain ⟨_, _, rfl⟩ := h
    apply Effect.unchanged hjob hscope rfl
    rintro fence ⟨⟩
    exact ⟨now, lease, rfl, hlive⟩
  . next hfresh =>
    simp only [bind_eq_ok, failIf_eq_ok, pure_eq_ok] at h
    obtain ⟨_, hother, _, hpush, rfl⟩ := h
    obtain ⟨hroom, rfl⟩ := push_eq_ok hpush
    apply Effect.stored rfl hjob hscope (by simp)
    apply Transition.executionObserved haccepted hlive (checkPayload_eq_ok hpayload) hobservation rfl _
      hroom
    rw [mem_observationIds, not_or]
    constructor
    . simpa using hfresh
    . exact hother

theorem effect_of_appendUsageObservation {command : AppendReplayUsageObservationCommand}
    (h : appendUsageObservation store definitions reading command = .ok outcome)
    : Effect store reading (.appendUsageObservation command) outcome := by
  simp only [appendUsageObservation, bind_eq_ok, requireJob_eq_ok, parseTimestamp_eq_ok,
    assertReplayWorkerMutationFence_eq_ok, parseWith_eq_ok] at h
  obtain ⟨stored, ⟨hjob, hscope⟩, plan, _, now, rfl, lease, ⟨haccepted, hlive⟩, _, _, _,
    ⟨hobservation, rfl⟩, h⟩ := h
  simp only [appendUsage, bind_eq_ok, failIf_eq_ok] at h
  obtain ⟨_, hother, h⟩ := h
  split at h
  . simp only [bind_eq_ok, pure_eq_ok] at h
    obtain ⟨_, _, rfl⟩ := h
    apply Effect.unchanged hjob hscope rfl
    rintro fence ⟨⟩
    exact ⟨now, lease, rfl, hlive⟩
  . next hfresh =>
    simp only [bind_eq_ok, pure_eq_ok] at h
    obtain ⟨_, hpush, rfl⟩ := h
    obtain ⟨hroom, rfl⟩ := push_eq_ok hpush
    apply Effect.stored rfl hjob hscope (by simp)
    apply Transition.usageObserved haccepted hlive hobservation rfl _ hroom
    rw [mem_observationIds, not_or]
    constructor
    . exact hother
    . simpa using hfresh

theorem transition_of_completeJob {command : CompleteDurableReplayJobCommand}
    (h : completeJob store reading command = .ok outcome)
    : ∃ now stored,
        reading = some now
          ∧ store.jobs (ReplayCommand.completeJob command).key = some stored
          ∧ stored.job.scope = command.scope
          ∧ outcome.published ≠ none
          ∧ Transition now stored (.completeJob command) outcome.stored := by
  simp only [completeJob, bind_eq_ok, requireJob_eq_ok, parseTimestamp_eq_ok,
    assertReplayWorkerMutationFence_eq_ok, failIf_eq_ok, currentAttempt_eq_ok, pure_eq_ok,
    buildReplayJobTerminalOutboxIntent_eq_ok] at h
  obtain ⟨stored, ⟨hjob, hscope⟩, now, rfl, _, _, _, _, _, _, _, _, _, hacknowledged, attempt, hattempt,
    ⟨closed, job⟩, hcompleted, _, ⟨_, terminal, hterminal, rfl⟩, rfl⟩ := h
  obtain ⟨haccepted, hcancelled, hterminated, lease, hlive, hcurrent, hclosed⟩ :=
    completeReplayAttempt_ok hcompleted
  rw [hterminated.next_eq] at hterminal
  cases hterminal
  refine ⟨now, stored, rfl, hjob, hscope, by simp, ?_⟩
  apply Transition.completed _ hlive
  . simpa [Option.isSome_iff_ne_none] using hcancelled
  . simpa using hacknowledged
  . exact ⟨haccepted, hlive.running, hattempt, hcurrent, le_refl _, hclosed, hterminated⟩

theorem effect_of_completeJob {command : CompleteDurableReplayJobCommand}
    (h : completeJob store reading command = .ok outcome)
    : Effect store reading (.completeJob command) outcome := by
  obtain ⟨now, stored, hreading, hjob, hscope, hpublished, htransition⟩ := transition_of_completeJob h
  exact Effect.stored hreading hjob hscope hpublished htransition

theorem effect_of_operate {command : ReplayCommand}
    (h : operate store definitions reading command = .ok outcome)
    : Effect store reading command outcome := by
  cases command with
  | createJob => exact effect_of_createJob h
  | claimJob => exact effect_of_claimJob h
  | heartbeatJob => exact effect_of_heartbeatJob h
  | requestCancellation => exact effect_of_requestCancellation h
  | acknowledgeCancellation => exact effect_of_acknowledgeCancellation h
  | reserveBudget => exact effect_of_reserveBudget h
  | reconcileBudget => exact effect_of_reconcileBudget h
  | appendExecutionObservation => exact effect_of_appendExecutionObservation h
  | appendUsageObservation => exact effect_of_appendUsageObservation h
  | completeJob => exact effect_of_completeJob h

end Operations

section Commit

def Rejected (store : ReplayJobStore) (error : ReplayError) (next : ReplayJobStore) : Prop :=
  next = store
    ∨ ∃ kind ∈ store.failedIntentKinds,
        error = .injectedIntentFailure kind
          ∧ next = { store with failedIntentKinds := store.failedIntentKinds.filter (· ≠ kind) }

theorem Rejected.jobs {error : ReplayError} {next : ReplayJobStore} (h : Rejected store error next)
    : next.jobs = store.jobs := by
  obtain rfl | ⟨_, _, _, rfl⟩ := h <;> rfl

theorem throwInjectedIntentFailure_run (kind : ReplayJobIntentKind) (store : ReplayJobStore)
    : match throwInjectedIntentFailure kind store with
      | .ok _ next => next = store
      | .error error next => Rejected store error next := by
  have hrun : throwInjectedIntentFailure kind store
      = if kind ∈ store.failedIntentKinds then
          .error (.injectedIntentFailure kind)
            { store with failedIntentKinds := store.failedIntentKinds.filter (· ≠ kind) }
        else
          .ok () store := by
    unfold throwInjectedIntentFailure
    rw [get_bind_run]
    split <;> rfl
  rw [hrun]
  split
  . next h =>
    split at h
    . cases h
    . cases h
      rfl
  . next h =>
    split at h
    . next hkind =>
      cases h
      exact .inr ⟨kind, hkind, rfl, rfl⟩
    . cases h

theorem forM_throwInjectedIntentFailure_run (kinds : List ReplayJobIntentKind)
    (store : ReplayJobStore)
    : match kinds.forM throwInjectedIntentFailure store with
      | .ok _ next => next = store
      | .error error next => Rejected store error next := by
  induction kinds with
  | nil => rfl
  | cons kind kinds ih =>
    have hfirst := throwInjectedIntentFailure_run kind store
    show match EStateM.bind (throwInjectedIntentFailure kind)
        (fun _ => kinds.forM throwInjectedIntentFailure) store with
      | .ok _ next => next = store
      | .error error next => Rejected store error next
    unfold EStateM.bind
    cases hrun : throwInjectedIntentFailure kind store with
    | ok _ next =>
      rw [hrun] at hfirst
      dsimp only at hfirst ⊢
      subst hfirst
      exact ih
    | error error next =>
      rw [hrun] at hfirst
      exact hfirst

def written (store : ReplayJobStore) (key : String × String) (outcome : ReplayOutcome)
    : ReplayJobStore :=
  match outcome.published with
  | none => store
  | some _ => { store with jobs := Function.update store.jobs key (some outcome.stored) }

theorem run_cases (definitions : ReplayDefinitions) (reading : Option UtcMillisecondTimestamp)
    (command : ReplayCommand) (store : ReplayJobStore)
    : match run definitions reading command store with
      | .ok (result, snapshot) next =>
        ∃ outcome,
          operate store definitions reading command = .ok outcome
            ∧ result = outcome.result
            ∧ snapshot = outcome.stored.toReplayJobSnapshot
            ∧ next = written store command.key outcome
      | .error error next => Rejected store error next := by
  unfold run
  rw [get_bind_run]
  cases hoperate : operate store definitions reading command with
  | error error => exact .inl rfl
  | ok outcome =>
    rw [attempting_bind_run rfl]
    unfold commit
    cases hpublished : outcome.published with
    | none =>
      refine ⟨outcome, rfl, rfl, rfl, ?_⟩
      simp only [written, hpublished]
    | some kinds =>
      have hkinds := forM_throwInjectedIntentFailure_run kinds store
      dsimp only
      cases hrun : kinds.forM throwInjectedIntentFailure store with
      | ok _ next =>
        rw [hrun] at hkinds
        dsimp only at hkinds
        subst hkinds
        rw [bind_run hrun]
        refine ⟨outcome, rfl, rfl, rfl, ?_⟩
        simp only [written, hpublished]
      | error error next =>
        rw [hrun] at hkinds
        rw [bind_run_error hrun]
        exact hkinds

theorem step_outcome (store : ReplayJobStore) (input : ReplayInput)
    : (step store input).jobs = store.jobs
        ∨ ∃ definitions reading command outcome,
            input = .call definitions reading command
              ∧ operate store definitions reading command = .ok outcome
              ∧ outcome.published ≠ none
              ∧ (step store input).jobs
                  = Function.update store.jobs command.key (some outcome.stored) := by
  cases input with
  | failNextIntent kind => exact .inl rfl
  | call definitions reading command =>
    have hcases := run_cases definitions reading command store
    unfold step
    dsimp only
    cases hrun : run definitions reading command store with
    | error error next =>
      rw [hrun] at hcases
      exact .inl hcases.jobs
    | ok value next =>
      rw [hrun] at hcases
      obtain ⟨outcome, houtcome, _, _, rfl⟩ := hcases
      unfold written
      cases hpublished : outcome.published with
      | none => exact .inl rfl
      | some kinds =>
        exact .inr ⟨definitions, reading, command, outcome, rfl, houtcome, by simp [hpublished], rfl⟩

theorem step_jobs (store : ReplayJobStore) (input : ReplayInput)
    : (step store input).jobs = store.jobs
        ∨ ∃ definitions reading command outcome,
            input = .call definitions reading command
              ∧ Effect store reading command outcome
              ∧ outcome.published ≠ none
              ∧ (step store input).jobs
                  = Function.update store.jobs command.key (some outcome.stored) := by
  obtain hsame | ⟨definitions, reading, command, outcome, hinput, houtcome, hpublished, hwritten⟩ :=
    step_outcome store input
  . exact .inl hsame
  . exact .inr ⟨definitions, reading, command, outcome, hinput, effect_of_operate houtcome,
      hpublished, hwritten⟩

theorem forM_throwInjectedIntentFailure_ok {kinds : List ReplayJobIntentKind}
    (h : ∀ kind ∈ kinds, kind ∉ store.failedIntentKinds)
    : kinds.forM throwInjectedIntentFailure store = .ok () store := by
  induction kinds with
  | nil => rfl
  | cons kind kinds ih =>
    have hfirst : throwInjectedIntentFailure kind store = .ok () store := by
      unfold throwInjectedIntentFailure
      rw [get_bind_run, if_neg (h kind (by simp))]
      rfl
    show (throwInjectedIntentFailure kind >>= fun _ => kinds.forM throwInjectedIntentFailure) store = _
    rw [bind_run hfirst]
    apply ih
    intro other hother
    exact h other (List.mem_cons_of_mem _ hother)

theorem run_of_operate {command : ReplayCommand}
    (h : operate store definitions reading command = .ok outcome)
    (hkinds : ∀ kinds ∈ outcome.published, ∀ kind ∈ kinds, kind ∉ store.failedIntentKinds)
    : run definitions reading command store
        =
      .ok (outcome.result, outcome.stored.toReplayJobSnapshot)
        (written store command.key outcome) := by
  unfold run
  rw [get_bind_run, attempting_bind_run h]
  unfold commit written
  cases hpublished : outcome.published with
  | none => rfl
  | some kinds =>
    dsimp only
    rw [bind_run (forM_throwInjectedIntentFailure_ok (hkinds kinds hpublished))]
    rfl

end Commit

end Replay
end ProofStack
