import ProofStack.Replay.JobRecords
import ProofStack.StateMachine.Run

/-!
This module contains the invariant of the replay job repository.
-/

namespace ProofStack
namespace Replay

open StateMachine

variable {now : UtcMillisecondTimestamp} {stored later : StoredReplayJob} {command : ReplayCommand}
variable {key : String × String}

section Outbox

/-- The intents that belong to a job: its creation, its cancellation once it is requested and its end
once it is terminal. -/
def outbox (value : ReplayJobSnapshot) (key : ReplayIntentKey) : Option ReplayJobOutboxIntent :=
  if key.2 = value.job.jobId then
    match key.1 with
    | .created => some (createdIntent value.job)
    | .cancellationRequested => value.cancellationRequest.map (cancellationIntent value.job)
    | .terminal => value.job.terminal.map (terminalIntent value.job)
  else
    none

theorem createdIntent_sameJob {job next : ReplayJob} (h : SameJob job next)
    : createdIntent next = createdIntent job := by
  simp only [createdIntent, h.jobId, h.createdAt, h.plan, h.scope]

theorem cancellationIntent_sameJob {job next : ReplayJob} (h : SameJob job next)
    : cancellationIntent next = cancellationIntent job := by
  funext request
  simp only [cancellationIntent, h.jobId, h.scope]

theorem outbox_sameJob {value next : ReplayJobSnapshot} (h : SameJob value.job next.job)
    (hrequest : next.cancellationRequest = value.cancellationRequest)
    (hterminal : value.job.terminal = none) (hnext : next.job.terminal = none)
    : outbox next = outbox value := by
  funext key
  unfold outbox
  rw [h.jobId, hrequest, hterminal, hnext, createdIntent_sameJob h, cancellationIntent_sameJob h]
  rfl

theorem outbox_terminal {value next : ReplayJobSnapshot} (h : SameJob value.job next.job)
    (hrequest : next.cancellationRequest = value.cancellationRequest)
    {terminal : ReplayJobTerminalRecord} (hterminal : next.job.terminal = some terminal)
    : outbox next
        =
      Function.update (outbox value) (.terminal, next.job.jobId)
        (some (terminalIntent next.job terminal)) := by
  funext key
  obtain ⟨eventType, aggregateId⟩ := key
  by_cases haggregate : aggregateId = value.job.jobId
  . cases eventType <;>
      simp [outbox, Function.update, h.jobId, haggregate, hrequest, hterminal,
        createdIntent_sameJob h, cancellationIntent_sameJob h]
  . have hne : (eventType, aggregateId) ≠ (ReplayJobEventType.terminal, next.job.jobId) := by
      rw [h.jobId]
      intro heq
      exact haggregate (Prod.mk.inj heq).2
    rw [Function.update_of_ne hne]
    simp only [outbox, h.jobId, haggregate, if_false]

theorem outbox_requested {value : ReplayJobSnapshot} (request : ReplayCancellationRequest)
    : outbox { value with cancellationRequest := some request }
        =
      Function.update (outbox value) (.cancellationRequested, value.job.jobId)
        (some (cancellationIntent value.job request)) := by
  funext key
  obtain ⟨eventType, aggregateId⟩ := key
  by_cases haggregate : aggregateId = value.job.jobId
  . cases eventType <;> simp [outbox, Function.update, haggregate]
  . have hne : (eventType, aggregateId)
        ≠ (ReplayJobEventType.cancellationRequested, value.job.jobId) := by
      intro heq
      exact haggregate (Prod.mk.inj heq).2
    rw [Function.update_of_ne hne]
    simp only [outbox, haggregate, if_false]

end Outbox

namespace Transition

theorem job_accepted (h : Transition now stored command later) : stored.job.Accepted := by
  cases h with
  | claimed hclaimed => exact hclaimed.job_accepted
  | expired hcloses => exact hcloses.job_accepted
  | heartbeat hheartbeat => exact hheartbeat.job_accepted
  | requested _ hrequested | cancelled _ hrequested => exact hrequested.job_accepted
  | acknowledged _ hacknowledged => exact (acknowledgeReplayCancellation_eq_ok.mp hacknowledged).1
  | reserved haccepted => exact haccepted
  | reconciled haccepted => exact haccepted
  | executionObserved haccepted => exact haccepted
  | usageObserved haccepted => exact haccepted
  | completed hcloses => exact hcloses.job_accepted

theorem status (h : Transition now stored command later)
    : stored.job.status = .queued ∨ stored.job.status = .running := by
  cases h with
  | @claimed command options result hclaimed =>
    have hprevious := hclaimed.previous
    generalize result.expiredAttempt = expired at hprevious
    cases hprevious with
    | none hqueued => exact .inl hqueued
    | expired hrunning => exact .inr hrunning
  | expired hcloses => exact .inr hcloses.running
  | heartbeat hheartbeat => exact .inr hheartbeat.live.running
  | requested _ _ hrunning => exact .inr hrunning
  | cancelled _ _ hqueued => exact .inl hqueued
  | acknowledged _ hacknowledged =>
    obtain ⟨_, _, ⟨_, hlive⟩, _⟩ := acknowledgeReplayCancellation_eq_ok.mp hacknowledged
    exact .inr hlive.running
  | reserved _ hlive => exact .inr hlive.running
  | reconciled _ hlive => exact .inr hlive.running
  | executionObserved _ hlive => exact .inr hlive.running
  | usageObserved _ hlive => exact .inr hlive.running
  | completed hcloses => exact .inr hcloses.running

theorem terminal_eq_none (h : Transition now stored command later) : stored.job.terminal = none := by
  by_contra hterminal
  have hstatus := (ReplayJob.terminal_isSome_iff h.job_accepted).mp hterminal
  obtain hqueued | hrunning := h.status
  . exact hstatus.1 hqueued
  . exact hstatus.2 hrunning

theorem accepted (h : Transition now stored command later) : later.job.Accepted := by
  have haccepted := h.job_accepted
  cases h with
  | claimed hclaimed => exact hclaimed.accepted
  | expired hcloses => exact hcloses.terminated.accepted
  | heartbeat hheartbeat => exact hheartbeat.accepted
  | cancelled _ _ _ hterminated => exact hterminated.accepted
  | completed hcloses => exact hcloses.terminated.accepted
  | _ => exact haccepted

theorem intents (h : Transition now stored command later)
    (hintents : stored.intents = outbox stored.toReplayJobSnapshot)
    : later.intents = outbox later.toReplayJobSnapshot := by
  have hterminal := h.terminal_eq_none
  have hsame := h.sameJob
  cases h with
  | claimed hclaimed =>
    rw [hintents]
    refine (outbox_sameJob hsame rfl hterminal ?_).symm
    dsimp only
    rw [hclaimed.job_eq]
    exact hterminal
  | heartbeat hheartbeat =>
    rw [hintents]
    refine (outbox_sameJob hsame rfl hterminal ?_).symm
    dsimp only
    rw [hheartbeat.next_eq]
    exact hterminal
  | expired hcloses | completed hcloses =>
    refine (?_ : Function.update stored.intents _ _ = _)
    rw [hintents]
    refine (outbox_terminal hsame rfl ?_).symm
    dsimp only [closeJob, withIntent]
    rw [hcloses.terminated.next_eq]
  | requested =>
    refine (?_ : Function.update stored.intents _ _ = _)
    rw [hintents]
    exact (outbox_requested _).symm
  | @cancelled command result hunset hrequested hqueued hterminated =>
    have hterminalOutbox := @outbox_terminal
      { stored with cancellationRequest := some result.request }
      { stored with cancellationRequest := some result.request, job := result.job } hsame rfl _
      (congrArg ReplayJob.terminal hterminated.next_eq)
    rw [outbox_requested, ← hintents] at hterminalOutbox
    dsimp only [withIntent]
    rw [cancellationIntent_sameJob hterminated.sameJob]
    exact hterminalOutbox.symm
  | _ => exact hintents

end Transition

section Invariant

structure CancellationKept (job : ReplayJob) (request : ReplayCancellationRequest) : Prop where
  accepted : request.Accepted
  jobId : request.jobId = job.jobId
  scope : request.scope = job.scope
  status : job.status = .running ∨ job.status = .cancelled

theorem Transition.cancellationKept (h : Transition now stored command later)
    (hkept : ∀ request ∈ stored.cancellationRequest, CancellationKept stored.job request)
    : ∀ request ∈ later.cancellationRequest, CancellationKept later.job request := by
  have hsame := h.sameJob
  -- The request is an old one in all the transitions but two.
  have hbefore : later.job.status = .running ∨ later.job.status = .cancelled →
      ∀ request ∈ stored.cancellationRequest, CancellationKept later.job request := by
    intro hstatus request hrequest
    have hrequest := hkept request hrequest
    exact ⟨hrequest.accepted, hrequest.jobId.trans hsame.jobId.symm,
      hrequest.scope.trans hsame.scope.symm, hstatus⟩
  cases h with
  | claimed hclaimed =>
    apply hbefore
    rw [hclaimed.job_eq]
    exact .inl rfl
  | heartbeat hheartbeat =>
    apply hbefore
    rw [hheartbeat.next_eq]
    exact .inl hheartbeat.live.running
  | @expired command status code lease attempt closed job hcloses hcancelled =>
    intro request hrequest
    change stored.cancellationRequest = some request at hrequest
    apply hbefore _ request hrequest
    have hstatus : status = .cancelled := by
      by_contra hne
      have := hcancelled.mpr hne
      rw [this] at hrequest
      contradiction
    right
    dsimp only [closeJob, withIntent]
    rw [hcloses.terminated.next_eq, hstatus]
    rfl
  | completed hcloses hlive hcancelled =>
    intro request hrequest
    change stored.cancellationRequest = some request at hrequest
    apply hbefore _ request hrequest
    have hstatus := hcancelled (by simp [hrequest])
    right
    dsimp only [closeJob, withIntent]
    rw [hcloses.terminated.next_eq, hstatus]
    rfl
  | requested _ hrequested hrunning =>
    rintro request ⟨⟩
    constructor
    . exact hrequested.accepted
    . rw [hrequested.request_eq]
      rfl
    . rw [hrequested.request_eq]
      rfl
    . exact .inl hrunning
  | cancelled _ hrequested _ hterminated =>
    rintro request ⟨⟩
    constructor
    . exact hrequested.accepted
    . rw [hrequested.request_eq]
      exact hsame.jobId.symm
    . rw [hrequested.request_eq]
      exact hsame.scope.symm
    . right
      dsimp only [withIntent]
      rw [hterminated.next_eq]
      rfl
  | _ => exact hkept

structure Bounded (value : ReplayJobSnapshot) : Prop where
  ledger : value.budgetLedger.length ≤ maxArrayLength
  executions : value.executionObservations.length ≤ maxArrayLength
  usages : value.usageObservations.length ≤ maxArrayLength

theorem Transition.bounded (h : Transition now stored command later)
    (hbounded : Bounded stored.toReplayJobSnapshot)
    : Bounded later.toReplayJobSnapshot := by
  cases h with
  | reserved _ _ _ _ _ hroom | reconciled _ _ _ _ _ _ _ _ hroom =>
    exact { hbounded with ledger := by simpa using Nat.succ_le_of_lt hroom }
  | executionObserved _ _ _ _ _ _ hroom =>
    exact { hbounded with executions := by simpa using Nat.succ_le_of_lt hroom }
  | usageObserved _ _ _ _ _ hroom =>
    exact { hbounded with usages := by simpa using Nat.succ_le_of_lt hroom }
  | _ => exact { hbounded with }

structure Kept (key : String × String) (stored : StoredReplayJob) : Prop where
  tenantId : stored.job.scope.tenantId = key.1
  jobId : stored.job.jobId = key.2
  accepted : stored.job.Accepted
  history : History stored.job stored.attempts
  ledger : LedgerKept stored.job stored.attempts stored.budgetLedger
  cancellation : ∀ request ∈ stored.cancellationRequest, CancellationKept stored.job request
  acknowledgements : AcknowledgementsKept stored.toReplayJobSnapshot
  observations : ObservationsKept stored.toReplayJobSnapshot
  bounded : Bounded stored.toReplayJobSnapshot
  intents : stored.intents = outbox stored.toReplayJobSnapshot

theorem Kept.transition (h : Transition now stored command later)
    (hscope : stored.job.scope = command.scope) (hkept : Kept key stored)
    : Kept key later where
  tenantId := by
    rw [h.sameJob.scope]
    exact hkept.tenantId
  jobId := h.sameJob.jobId.trans hkept.jobId
  accepted := h.accepted
  history := h.history hkept.history
  ledger := h.ledgerKept hscope hkept.history hkept.ledger
  cancellation := h.cancellationKept hkept.cancellation
  acknowledgements := h.acknowledgementsKept hkept.history hkept.acknowledgements
  observations := h.observationsKept hscope hkept.history hkept.observations
  bounded := h.bounded hkept.bounded
  intents := h.intents hkept.intents

theorem Kept.created {command : CreateReplayJobCommand} {job : ReplayJob}
    (h : Created command now job)
    : Kept (command.scope.tenantId, command.jobId) (createdJob job) where
  tenantId := by
    show job.scope.tenantId = _
    rw [h.job_eq]
  jobId := by
    show job.jobId = _
    rw [h.job_eq]
  accepted := h.accepted
  history := by
    apply History.start
    . show job.latestAttemptSequence = none
      rw [h.job_eq]
    . show job.currentLease = none
      rw [h.job_eq]
    . show ∀ terminal ∈ job.terminal, _
      rw [h.job_eq]
      simp
  ledger := ⟨by simp [createdJob, withIntent], .start, rfl⟩
  cancellation := by simp [createdJob, withIntent]
  acknowledgements := by constructor <;> simp [createdJob, withIntent]
  observations := by
    constructor <;> simp [createdJob, withIntent, ReplayJobSnapshot.observations]
  bounded := by constructor <;> simp [createdJob, withIntent]
  intents := by
    have hterminal : job.terminal = none := by rw [h.job_eq]
    funext key
    obtain ⟨eventType, aggregateId⟩ := key
    by_cases haggregate : aggregateId = job.jobId
    . cases eventType <;>
        simp [createdJob, withIntent, outbox, Function.update, intentKey, createdIntent, haggregate,
          hterminal]
    . simp [createdJob, withIntent, outbox, Function.update, intentKey, createdIntent, haggregate]

def Keeps (store : ReplayJobStore) : Prop :=
  ∀ key stored, store.jobs key = some stored → Kept key stored

theorem keeps_empty : Keeps .empty := by
  intro key stored h
  contradiction

theorem keeps_step (store : ReplayJobStore) (input : ReplayInput) (h : Keeps store)
    : Keeps (step store input) := by
  intro key stored hstored
  obtain hsame | ⟨definitions, reading, command, outcome, rfl, heffect, hpublished, hwritten⟩ :=
    step_jobs store input
  . rw [hsame] at hstored
    exact h key stored hstored
  . rw [hwritten] at hstored
    by_cases hkey : key = command.key
    . subst hkey
      rw [Function.update_self] at hstored
      cases hstored
      cases heffect with
      | unchanged _ _ hnone =>
        rw [hnone] at hpublished
        contradiction
      | created hcommand _ _ hcreated hstored =>
        rw [hcommand, hstored]
        exact Kept.created hcreated
      | stored _ hjob hscope _ htransition =>
        exact Kept.transition htransition hscope (h _ _ hjob)
    . rw [Function.update_of_ne hkey] at hstored
      exact h key stored hstored

def Reachable (store : ReplayJobStore) : Prop :=
  Later step .empty store

theorem Reachable.keeps {store : ReplayJobStore} (h : Reachable store) : Keeps store :=
  Later.preserves keeps_step h keeps_empty

end Invariant

end Replay
end ProofStack
