import ProofStack.Replay.JobInvariant

/-!
This module contains the results about all runs of the replay job repository.
-/

namespace ProofStack
namespace Replay

open Checks Sequence StateMachine

variable {store later : ReplayJobStore} {stored : StoredReplayJob} {key : String × String}
variable {definitions : ReplayDefinitions} {reading : Option UtcMillisecondTimestamp}
variable {now : UtcMillisecondTimestamp} {command : ReplayCommand}

section Sample

def samplePlan : ReplayPlan where
  boundaries := []
  budget := sampleBudget
  definitionSha256 := sampleDigest
  isolationProfile := sampleAttempt.isolationProfile
  planId := "plan_one"
  planVersionId := "plan_version_one"
  retryPolicy :=
    { automatic := false
      backoff := .none
      idempotencyRequirement := .noExternalEffect
      maxAttempts := 1
      perAttemptTimeoutMilliseconds := 1000
      retryableErrors := []
      totalDeadlineMilliseconds := 5000 }
  runtimeProfile := sampleAttempt.runtimeProfile
  scope := sampleScope
  targetRelease := sampleTargetRelease
  workerProtocol := sampleWorkerProtocol

def sampleDefinitions : ReplayDefinitions where
  findReplayPlan := fun _ _ => some samplePlan
  findTargetRelease := fun _ _ => some
    { definitionSha256 := sampleDigest
      targetAdapter := sampleTargetRelease.targetAdapter
      targetId := "target_one"
      workerProtocol := sampleWorkerProtocol }

def sampleDefinitionsWith (retryPolicy : ReplayRetryPolicy) : ReplayDefinitions :=
  { sampleDefinitions with
    findReplayPlan := fun _ _ => some { samplePlan with retryPolicy := retryPolicy } }

def sampleCreate : CreateReplayJobCommand where
  createdByPrincipalId := "principal_one"
  jobId := "job_one"
  plan := .ofValue samplePlanReference
  scope := sampleScope

def sampleClaim : ClaimDurableReplayJobCommand where
  attemptId := "attempt_one"
  jobId := "job_one"
  leaseDurationMilliseconds := 1000
  leaseId := "lease_one"
  scope := sampleScope
  workerBuildSha256 := sampleDigest
  workerId := "worker_one"
  workerProtocol := sampleWorkerProtocol

def sampleRetry : ClaimDurableReplayJobCommand :=
  { sampleClaim with attemptId := "attempt_two", leaseId := "lease_two" }

def sampleRequest : RequestDurableReplayCancellationCommand where
  input :=
    { cancellationId := "cancellation_one"
      reason := "Superseded"
      reasonCode := .superseded }
  jobId := "job_one"
  requestedByPrincipalId := "principal_one"
  scope := sampleScope

def sampleKey : String × String := ("tenant_one", "job_one")

def sampleCall (now : UtcMillisecondTimestamp) (command : ReplayCommand) : ReplayInput :=
  .call sampleDefinitions (some now) command

def sampleQueuedJob : ReplayJob :=
  { sampleRunningJob with
    currentLease := none
    lastFencingToken := 0
    latestAttemptSequence := none
    startedAt := none
    stateVersion := 1
    status := .queued }

def sampleCancellationRequest : ReplayCancellationRequest where
  toRequestReplayCancellation := sampleRequest.input
  jobId := "job_one"
  requestedAt := sampleTime 1100 sampleReserved_le
  requestedByPrincipalId := "principal_one"
  scope := sampleScope

def sampleClaimedJob : StoredReplayJob :=
  { createdJob sampleQueuedJob with attempts := [sampleAttempt], job := sampleRunningJob }

def sampleRequestedJob : StoredReplayJob :=
  withIntent { sampleClaimedJob with cancellationRequest := some sampleCancellationRequest }
    (cancellationIntent sampleRunningJob sampleCancellationRequest)

theorem sampleDigest_accepted : Sha256Schema sampleDigest = true :=
  (sha256Schema_ofList _).trans rfl

theorem samplePlanReference_accepted : samplePlanReference.Accepted :=
  ⟨sampleDigest_accepted, by decide, by decide⟩

theorem sampleRunningJob_accepted : sampleRunningJob.Accepted := by
  refine ⟨?_, by decide⟩
  constructor
  case plan => exact samplePlanReference_accepted
  all_goals decide

theorem sampleQueuedJob_accepted : sampleQueuedJob.Accepted := by
  refine ⟨?_, by decide⟩
  constructor
  case plan => exact samplePlanReference_accepted
  all_goals decide

theorem sampleTargetRelease_accepted : sampleTargetRelease.Accepted :=
  ⟨sampleDigest_accepted, by decide, by decide, by decide, by decide⟩

theorem sampleAttempt_accepted : sampleAttempt.Accepted := by
  refine ⟨?_, by decide⟩
  constructor
  case isolationProfile => exact ⟨sampleDigest_accepted, by decide, by decide⟩
  case plan => exact samplePlanReference_accepted
  case runtimeProfile => exact ⟨sampleDigest_accepted, by decide, by decide, by decide⟩
  case targetRelease => exact sampleTargetRelease_accepted
  case workerBuildSha256 => exact sampleDigest_accepted
  all_goals decide

theorem sampleCancellationRequest_accepted : sampleCancellationRequest.Accepted := by
  decide

def sampleStore (stored : StoredReplayJob) : ReplayJobStore where
  jobs := Function.update (fun _ => none) sampleKey (some stored)
  failedIntentKinds := []

theorem sampleStore_jobs (stored : StoredReplayJob)
    : (sampleStore stored).jobs sampleKey = some stored := by
  simp [sampleStore]

theorem step_sampleStore {definitions : ReplayDefinitions} {stored : StoredReplayJob}
    {now : UtcMillisecondTimestamp} {command : ReplayCommand} {outcome : ReplayOutcome}
    (hkey : command.key = sampleKey)
    (hoperate : operate (sampleStore stored) definitions (some now) command = .ok outcome)
    (hpublished : outcome.published ≠ none)
    : step (sampleStore stored) (.call definitions (some now) command)
        =
      sampleStore outcome.stored := by
  have hrun := run_of_operate hoperate (by simp [sampleStore])
  unfold step
  dsimp only
  rw [hrun]
  obtain ⟨kinds, hkinds⟩ := Option.ne_none_iff_exists'.mp hpublished
  simp only [written, hkinds, hkey, sampleStore, Function.update_idem]

theorem run_sampleCreate_with (retryPolicy : ReplayRetryPolicy)
    : run (sampleDefinitionsWith retryPolicy) (some (sampleTime 1000)) (.createJob sampleCreate) .empty
        =
      .ok (.created true, (createdJob sampleQueuedJob).toReplayJobSnapshot)
        (sampleStore (createdJob sampleQueuedJob)) := by
  have hoperate : operate .empty (sampleDefinitionsWith retryPolicy) (some (sampleTime 1000))
        (.createJob sampleCreate)
      = .ok
          { result := .created true
            stored := createdJob sampleQueuedJob
            published := some [.jobCreated] } := by
    simp only [operate, createJob, bind_eq_ok, found_eq_ok, failIf_eq_ok, parseTimestamp_eq_ok,
      createQueuedReplayJob, parseWith_eq_ok, parseJob_eq_ok, ReplayJobStore.empty,
      buildReplayJobCreatedOutboxIntent_eq_ok, pure_eq_ok]
    have hreference : ¬(samplePlan.planId ≠ samplePlanReference.planId
        ∨ samplePlan.definitionSha256 ≠ samplePlanReference.definitionSha256) := by
      decide
    exact ⟨_, rfl, (), hreference, _, rfl, sampleQueuedJob,
      ⟨_, ⟨by decide, rfl⟩, sampleQueuedJob_accepted, rfl⟩, _,
      ⟨sampleQueuedJob_accepted, rfl⟩, rfl⟩
  rw [run_of_operate hoperate (by simp [ReplayJobStore.empty])]
  rfl

theorem run_sampleCreate
    : run sampleDefinitions (some (sampleTime 1000)) (.createJob sampleCreate) .empty
        =
      .ok (.created true, (createdJob sampleQueuedJob).toReplayJobSnapshot)
        (sampleStore (createdJob sampleQueuedJob)) :=
  run_sampleCreate_with samplePlan.retryPolicy

theorem step_sampleCreate_with (retryPolicy : ReplayRetryPolicy)
    : step .empty
        (.call (sampleDefinitionsWith retryPolicy) (some (sampleTime 1000)) (.createJob sampleCreate))
        =
      sampleStore (createdJob sampleQueuedJob) := by
  unfold step
  dsimp only
  rw [run_sampleCreate_with]

theorem step_sampleCreate
    : step .empty (sampleCall (sampleTime 1000) (.createJob sampleCreate))
        =
      sampleStore (createdJob sampleQueuedJob) :=
  step_sampleCreate_with samplePlan.retryPolicy

theorem step_sampleClaim_with {retryPolicy : ReplayRetryPolicy}
    (hattempts : safePositiveInteger retryPolicy.maxAttempts)
    (htimeout : 1000 ≤ retryPolicy.perAttemptTimeoutMilliseconds)
    : step (sampleStore (createdJob sampleQueuedJob))
        (.call (sampleDefinitionsWith retryPolicy) (some (sampleTime 1000)) (.claimJob sampleClaim))
        =
      sampleStore sampleClaimedJob := by
  have hclaim : claimReplayJob sampleQueuedJob
        (claimOptions sampleClaim { samplePlan with retryPolicy := retryPolicy } (sampleTime 1000)
          none none)
      = .ok
          { attempt := sampleAttempt
            expiredAttempt := none
            job := sampleRunningJob
            lease := sampleLease } := by
    simp only [claimReplayJob, claimedLease, claimedAttempt, assertClaimable, assertLeaseDuration,
      expireAttempt, bind_eq_ok, parseJob_eq_ok, failIf_eq_ok, nextCounter_eq_ok, parseLease_eq_ok,
      parseAttempt_eq_ok, pure_eq_ok, Option.some.injEq]
    refine ⟨sampleQueuedJob, ⟨sampleQueuedJob_accepted, rfl⟩, (), ?_, 0, rfl, (), ?_, 1,
      by decide, 2, by decide, sampleLease, ?_, sampleAttempt, ⟨sampleAttempt_accepted, rfl⟩, none, ?_,
      sampleRunningJob, ⟨sampleRunningJob_accepted, rfl⟩, rfl⟩
    . have hduration : ¬((1000 : Int) < 1 ∨ (1000 : Int) > maxLeaseDurationMilliseconds) := by
        decide
      exact ⟨(), hduration, (), not_not.mpr hattempts, (), by decide, rfl⟩
    . exact Nat.not_le.mpr hattempts.1
    . have hexpiresAt : addMilliseconds (sampleTime 1000) 1000 = .ok (sampleTime 2000) := by decide
      exact ⟨sampleTime 2000, hexpiresAt, rfl, by decide⟩
    . rw [if_neg (by decide)]
      simp only [bind_eq_ok, failIf_eq_ok, pure_eq_ok]
      exact ⟨(), not_not.mpr rfl, trivial⟩
  have hoperate : operate (sampleStore (createdJob sampleQueuedJob))
        (sampleDefinitionsWith retryPolicy) (some (sampleTime 1000)) (.claimJob sampleClaim)
      = .ok
          { result := .claimed sampleFence, stored := sampleClaimedJob, published := some [] } := by
    simp only [operate, claimJob, bind_eq_ok, requireJob_eq_ok, failIf_eq_ok, parseTimestamp_eq_ok,
      requirePlan, requireTargetRelease, found_eq_ok, pure_eq_ok]
    have hreference : exactPlanReference sampleQueuedJob samplePlan := by decide
    refine ⟨createdJob sampleQueuedJob, ⟨sampleStore_jobs _, rfl⟩, _,
      ⟨_, rfl, (), not_not.mpr hreference, rfl⟩, (), ⟨_, rfl, ?_⟩, (), not_not.mpr rfl, (), ?_, (),
      by simp [createdJob, withIntent], _, rfl, .unexpired, ?_, ?_⟩
    . rintro (h | h | h | h) <;> exact h rfl
    . change ¬(1000 : Int) > retryPolicy.perAttemptTimeoutMilliseconds
      omega
    . unfold decideExpiry
      rw [if_pos (by decide)]
      rfl
    . unfold claimStored
      rw [if_neg (by decide)]
      simp only [bind_eq_ok, pure_eq_ok]
      exact ⟨none, rfl, _, hclaim, [sampleAttempt], rfl, rfl⟩
  exact step_sampleStore rfl hoperate (by simp)

theorem step_sampleClaim
    : step (sampleStore (createdJob sampleQueuedJob))
        (sampleCall (sampleTime 1000) (.claimJob sampleClaim))
        =
      sampleStore sampleClaimedJob := by
  have hattempts : safePositiveInteger samplePlan.retryPolicy.maxAttempts := by decide
  have htimeout : 1000 ≤ samplePlan.retryPolicy.perAttemptTimeoutMilliseconds := by decide
  exact step_sampleClaim_with hattempts htimeout

theorem step_sampleRequest
    : step (sampleStore sampleClaimedJob)
        (sampleCall (sampleTime 1100) (.requestCancellation sampleRequest))
        =
      sampleStore sampleRequestedJob := by
  have hoperate : operate (sampleStore sampleClaimedJob) sampleDefinitions (some (sampleTime 1100))
        (.requestCancellation sampleRequest)
      = .ok
          { result := .cancellationRequested true
            stored := sampleRequestedJob
            published := some [.cancellationRequested] } := by
    simp only [operate, requestCancellation, bind_eq_ok, requireJob_eq_ok]
    refine ⟨sampleClaimedJob, ⟨sampleStore_jobs _, rfl⟩, ?_⟩
    rw [if_neg (by simp [sampleClaimedJob, sampleRunningJob])]
    simp only [bind_eq_ok, parseTimestamp_eq_ok]
    refine ⟨sampleTime 1100, rfl,
      { created := true, job := sampleRunningJob, request := sampleCancellationRequest }, ?_, ?_⟩
    . simp only [requestReplayCancellation, bind_eq_ok, parseJob_eq_ok, parseWith_eq_ok]
      refine ⟨_, ⟨sampleRunningJob_accepted, rfl⟩, _,
        ⟨sampleCancellationRequest_accepted.input, rfl⟩, ?_⟩
      simp only [sampleClaimedJob, createdJob, withIntent, bind_eq_ok, parseRequest_eq_ok]
      refine ⟨(), by decide, sampleCancellationRequest,
        ⟨sampleCancellationRequest_accepted, rfl⟩, ?_⟩
      rfl
    . rw [if_pos rfl]
      simp only [recordCancellation, bind_eq_ok, buildReplayJobCancellationRequestedOutboxIntent_eq_ok]
      refine ⟨_, ⟨sampleRunningJob_accepted, sampleCancellationRequest_accepted, rfl, rfl, rfl⟩, ?_⟩
      rw [if_neg (by decide)]
      rfl
  exact step_sampleStore rfl hoperate (by simp)

def sampleRequested : ReplayJobStore :=
  sampleStore sampleRequestedJob

theorem sampleRequested_reachable : Reachable sampleRequested := by
  unfold sampleRequested
  rw [← step_sampleRequest, ← step_sampleClaim, ← step_sampleCreate]
  apply Later.next
  apply Later.next
  apply Later.next
  exact Later.refl _

theorem sampleRequested_jobs : sampleRequested.jobs sampleKey = some sampleRequestedJob :=
  sampleStore_jobs _

end Sample

section Fences

theorem History.running_le_one {job : ReplayJob} {attempts : List ReplayAttempt}
    (h : History job attempts)
    : (attempts.filter (fun attempt => attempt.status = .running)).length ≤ 1 := by
  induction attempts using List.reverseRecOn with
  | nil => simp
  | append_singleton earlier last _ =>
    have hearlier : earlier.filter (fun attempt => attempt.status = .running) = [] := by
      rw [List.filter_eq_nil_iff]
      intro attempt hattempt
      simpa using h.earlier_closed attempt hattempt
    rw [List.filter_append, hearlier, List.nil_append]
    apply List.length_filter_le

theorem History.tokens_increase {job : ReplayJob} {attempts : List ReplayAttempt}
    (h : History job attempts)
    : attempts.Pairwise (fun earlier later =>
        earlier.mutationFence.fencingToken < later.mutationFence.fencingToken) := by
  have hchain : (attempts.map (·.mutationFence.fencingToken)).IsChain (· < ·) := by
    rw [List.isChain_map]
    apply h.linked.isChain.imp
    rintro left right ⟨_, _, _, _, _, _, _, hreplaces⟩
    exact (hreplaces left rfl).2.1
  rw [List.isChain_iff_pairwise, List.pairwise_map] at hchain
  exact hchain

theorem Transition.live {next : StoredReplayJob} {fence : ReplayWorkerMutationFence}
    (h : Transition now stored command next) (hfence : command.workerFence = some fence)
    : ∃ lease, FenceLive stored.job fence now lease := by
  cases h with
  | claimed => contradiction
  | expired => contradiction
  | requested => contradiction
  | cancelled => contradiction
  | heartbeat hheartbeat =>
    cases hfence
    exact ⟨_, hheartbeat.live⟩
  | acknowledged _ hacknowledged =>
    cases hfence
    obtain ⟨_, _, hlive, _⟩ := acknowledgeReplayCancellation_eq_ok.mp hacknowledged
    exact hlive
  | reserved _ hlive | reconciled _ hlive | executionObserved _ hlive | usageObserved _ hlive =>
    cases hfence
    exact ⟨_, hlive⟩
  | completed _ hlive =>
    cases hfence
    exact ⟨_, hlive⟩

theorem Effect.live {outcome : ReplayOutcome} {fence : ReplayWorkerMutationFence}
    (h : Effect store reading command outcome) (hfence : command.workerFence = some fence)
    : ∃ stored now lease,
        store.jobs command.key = some stored
          ∧ reading = some now
          ∧ FenceLive stored.job fence now lease := by
  cases h with
  | unchanged hjob _ _ hlive =>
    obtain ⟨now, lease, hreading, hlive⟩ := hlive fence hfence
    exact ⟨_, now, lease, hjob, hreading, hlive⟩
  | created hcommand =>
    rw [hcommand] at hfence
    contradiction
  | stored hreading hjob _ _ htransition =>
    obtain ⟨lease, hlive⟩ := htransition.live hfence
    exact ⟨_, _, lease, hjob, hreading, hlive⟩

theorem Transition.expired_of_claim {next : StoredReplayJob} {claim : ClaimDurableReplayJobCommand}
    (h : Transition now stored (.claimJob claim) next) {lease : ReplayLease}
    (hlease : stored.job.currentLease = some lease)
    : lease.expiresAt.value ≤ now.value := by
  cases h with
  | @claimed _ options result hclaimed _ _ hnow =>
    have hprevious := hclaimed.previous
    generalize result.expiredAttempt = expired at hprevious
    cases hprevious with
    | none hqueued =>
      obtain ⟨_, hnone, _⟩ := ReplayJob.queued_of_status hclaimed.job_accepted hqueued
      rw [hlease] at hnone
      contradiction
    | expired _ _ hcurrent hexpired =>
      rw [hcurrent.currentLease] at hlease
      cases hlease
      rw [← hnow]
      exact hexpired
  | expired hcloses =>
    rw [hcloses.current.currentLease] at hlease
    cases hlease
    exact hcloses.endedAt_le

/-- In every reachable store a job has at most one running attempt and its fencing tokens increase, a
claim does nothing while the lease of the job is unexpired, and a command with a fence that is not the
current one or has expired throws and changes no job. -/
theorem fences_safe (h : Reachable store)
    : (∀ key stored, store.jobs key = some stored →
        (stored.attempts.filter (fun attempt => attempt.status = .running)).length ≤ 1
          ∧ stored.attempts.Pairwise (fun earlier later =>
              earlier.mutationFence.fencingToken < later.mutationFence.fencingToken))
      ∧ (∀ definitions now claim stored lease,
          store.jobs (ReplayCommand.claimJob claim).key = some stored →
          stored.job.currentLease = some lease →
          now.value < lease.expiresAt.value →
          (step store (.call definitions (some now) (.claimJob claim))).jobs = store.jobs)
      ∧ ∀ definitions reading command fence,
          command.workerFence = some fence →
          (∀ stored lease now, store.jobs command.key = some stored →
            stored.job.currentLease = some lease → reading = some now →
            lease.mutationFence ≠ fence ∨ lease.expiresAt.value ≤ now.value) →
          ∃ error next,
            run definitions reading command store = .error error next
              ∧ next.jobs = store.jobs := by
  refine ⟨?_, ?_, ?_⟩
  . intro key stored hstored
    have hhistory := (h.keeps key stored hstored).history
    exact ⟨hhistory.running_le_one, hhistory.tokens_increase⟩
  . intro definitions now claim stored lease hstored hlease hunexpired
    obtain hsame | ⟨_, reading, command, outcome, hinput, heffect, hpublished, _⟩ :=
      step_jobs store (.call definitions (some now) (.claimJob claim))
    . exact hsame
    . cases hinput
      cases heffect with
      | unchanged _ _ hnone => contradiction
      | created hcommand => contradiction
      | stored hreading hjob _ _ htransition =>
        cases hreading
        rw [hstored] at hjob
        cases hjob
        have := htransition.expired_of_claim hlease
        omega
  . intro definitions reading command fence hfence hdead
    have hcases := run_cases definitions reading command store
    cases hrun : run definitions reading command store with
    | error error next =>
      rw [hrun] at hcases
      exact ⟨error, next, rfl, hcases.jobs⟩
    | ok value next =>
      rw [hrun] at hcases
      obtain ⟨outcome, houtcome, _⟩ := hcases
      obtain ⟨stored, now, lease, hjob, hreading, hlive⟩ := (effect_of_operate houtcome).live hfence
      obtain hother | hexpired := hdead stored lease now hjob hlive.currentLease hreading
      . exact absurd hlive.mutationFence hother
      . have := hlive.unexpired
        omega

theorem fences_safe_sampleRequested
    : ∃ error next,
        run sampleDefinitions (some (sampleTime 2000))
            (.heartbeatJob
              { leaseDurationMilliseconds := 1000, scope := sampleScope, workerFence := sampleFence })
            sampleRequested
          = .error error next
          ∧ next.jobs = sampleRequested.jobs := by
  apply (fences_safe sampleRequested_reachable).2.2 _ _ _ sampleFence rfl
  intro stored lease now hstored hlease hnow
  change sampleRequested.jobs sampleKey = some stored at hstored
  rw [sampleRequested_jobs] at hstored
  cases hstored
  cases hnow
  cases hlease
  right
  decide

end Fences

section Jobs

inductive JobStep (store : ReplayJobStore) (key : String × String) (next : ReplayJobStore) : Prop
  | same (jobs : next.jobs key = store.jobs key)
  | created {job : StoredReplayJob} (absent : store.jobs key = none) (present : next.jobs key = some job)
  | changed {now : UtcMillisecondTimestamp} {command : ReplayCommand} {stored job : StoredReplayJob}
    (before : store.jobs key = some stored) (after : next.jobs key = some job)
    (transition : Transition now stored command job)

theorem jobStep (store : ReplayJobStore) (input : ReplayInput) (key : String × String)
    : JobStep store key (step store input) := by
  obtain hsame | ⟨definitions, reading, command, outcome, _, heffect, hpublished, hwritten⟩ :=
    step_jobs store input
  . apply JobStep.same
    rw [hsame]
  . by_cases hkey : key = command.key
    . subst hkey
      have hafter : (step store input).jobs command.key = some outcome.stored := by
        rw [hwritten, Function.update_self]
      cases heffect with
      | unchanged _ _ hnone => contradiction
      | created _ _ habsent => exact .created habsent hafter
      | stored _ hjob _ _ htransition => exact .changed hjob hafter htransition
    . apply JobStep.same
      rw [hwritten, Function.update_of_ne hkey]

theorem step_terminal (input : ReplayInput) (hstored : store.jobs key = some stored)
    (hterminal : stored.job.terminal ≠ none)
    : (step store input).jobs key = some stored := by
  cases jobStep store input key with
  | same hjobs => rw [hjobs, hstored]
  | created habsent =>
    rw [hstored] at habsent
    contradiction
  | changed hbefore _ htransition =>
    rw [hstored] at hbefore
    cases hbefore
    exact absurd htransition.terminal_eq_none hterminal

end Jobs

section Cancellation

def CancellationStays (store next : ReplayJobStore) : Prop :=
  ∀ key stored request, store.jobs key = some stored → stored.cancellationRequest = some request →
    ∃ current,
      next.jobs key = some current
        ∧ current.cancellationRequest = some request
        ∧ current.attempts.map ReplayAttempt.identity = stored.attempts.map ReplayAttempt.identity

theorem CancellationStays.refl (store : ReplayJobStore) : CancellationStays store store := by
  intro key stored request hstored hrequest
  exact ⟨stored, hstored, hrequest, rfl⟩

theorem CancellationStays.trans {next last : ReplayJobStore} (h : CancellationStays store next)
    (h' : CancellationStays next last)
    : CancellationStays store last := by
  intro key stored request hstored hrequest
  obtain ⟨current, hcurrent, hcurrentRequest, hattempts⟩ := h key stored request hstored hrequest
  obtain ⟨final, hfinal, hfinalRequest, hfinalAttempts⟩ :=
    h' key current request hcurrent hcurrentRequest
  exact ⟨final, hfinal, hfinalRequest, hfinalAttempts.trans hattempts⟩

theorem cancellationStays_step (store : ReplayJobStore) (input : ReplayInput) (h : Keeps store)
    : CancellationStays store (step store input) := by
  intro key stored request hstored hrequest
  cases jobStep store input key with
  | same hjobs => exact ⟨stored, hjobs.trans hstored, hrequest, rfl⟩
  | created habsent =>
    rw [hstored] at habsent
    contradiction
  | @changed now command before job hbefore hafter htransition =>
    rw [hstored] at hbefore
    cases hbefore
    have hkept := h key stored hstored
    refine ⟨job, hafter, htransition.request hrequest, ?_⟩
    obtain hsame | ⟨huncancelled, _⟩ := htransition.identity hkept.history
    . exact hsame
    . have hrunning : stored.job.status = .running := by
        obtain hrunning | hcancelled := (hkept.cancellation request hrequest).status
        . exact hrunning
        . obtain hqueued | hrunning := htransition.status
          . rw [hqueued] at hcancelled
            contradiction
          . exact hrunning
      rw [huncancelled hrunning] at hrequest
      contradiction

theorem Kept.cancelled_of_terminal (h : Kept key stored) {request : ReplayCancellationRequest}
    (hrequest : stored.cancellationRequest = some request) {terminal : ReplayJobTerminalRecord}
    (hterminal : stored.job.terminal = some terminal)
    : terminal.status = .cancelled := by
  have hstatus := (ReplayJob.terminal_isSome_iff h.accepted).mp (by simp [hterminal])
  obtain ⟨_, other, hother, hsame⟩ :=
    ReplayJob.terminal_of_status h.accepted hstatus.1 hstatus.2
  rw [hterminal] at hother
  cases hother
  obtain hrunning | hcancelled := (h.cancellation request hrequest).status
  . exact absurd hrunning hstatus.2
  . rw [hcancelled] at hsame
    cases hterminalStatus : terminal.status <;>
      simp_all [ReplayJobTerminalStatus.job]

theorem Kept.completion_acknowledged (h : Kept key stored) {request : ReplayCancellationRequest}
    (hrequest : stored.cancellationRequest = some request)
    {complete : CompleteDurableReplayJobCommand} {next : StoredReplayJob}
    (htransition : Transition now stored (.completeJob complete) next)
    : ∃ attempt ∈ stored.attempts, ∃ acknowledgement ∈ stored.cancellationAcknowledgements,
        attempt.status = .running
          ∧ attempt.mutationFence = complete.workerFence
          ∧ acknowledgement.mutationFence = complete.workerFence
          ∧ acknowledgement.cancellationId = request.cancellationId := by
  cases htransition with
  | @completed _ lease attempt _ _ hcloses hlive _ hacknowledged =>
    obtain ⟨acknowledgement, hmem, hfence⟩ := hacknowledged (by simp [hrequest])
    obtain ⟨other, hother, hid, _⟩ := (h.acknowledgements.kept acknowledgement hmem).requested
    rw [Option.mem_def, hrequest] at hother
    cases hother
    obtain ⟨earlier, hearlier⟩ := h.history.exists_earlier hcloses.attemptAt
    refine ⟨attempt, ?_, acknowledgement, hmem, hcloses.current.running, ?_, hfence, hid⟩
    . rw [hearlier]
      simp
    . have hlease := hcloses.current.currentLease
      rw [hlive.currentLease] at hlease
      cases hlease
      rw [hcloses.current.mutationFence, hlive.mutationFence]

/-- Once a request to cancel a job has been recorded, every later store still has it, no attempt has
started since, the job has not ended but as cancelled, and a worker completes it only after that worker
has acknowledged the request with the fence of the running attempt. -/
theorem cancellation_honoured (h : Reachable store) (hlater : Later step store later)
    {request : ReplayCancellationRequest} (hstored : store.jobs key = some stored)
    (hrequest : stored.cancellationRequest = some request)
    : ∃ current,
        later.jobs key = some current
          ∧ current.cancellationRequest = some request
          ∧ current.attempts.map ReplayAttempt.identity
              = stored.attempts.map ReplayAttempt.identity
          ∧ (∀ terminal ∈ current.job.terminal, terminal.status = .cancelled)
          ∧ ∀ definitions reading complete result next,
              (ReplayCommand.completeJob complete).key = key →
              run definitions reading (.completeJob complete) later = .ok result next →
              ∃ attempt ∈ current.attempts,
                ∃ acknowledgement ∈ current.cancellationAcknowledgements,
                  attempt.status = .running
                    ∧ attempt.mutationFence = complete.workerFence
                    ∧ acknowledgement.mutationFence = complete.workerFence
                    ∧ acknowledgement.cancellationId = request.cancellationId := by
  have hstays : CancellationStays store later :=
    Later.relates keeps_step CancellationStays.refl CancellationStays.trans cancellationStays_step
      hlater h.keeps
  obtain ⟨current, hcurrent, hcurrentRequest, hattempts⟩ := hstays key stored request hstored hrequest
  have hkept : Kept key current := Reachable.keeps (h.trans hlater) key current hcurrent
  refine ⟨current, hcurrent, hcurrentRequest, hattempts, ?_, ?_⟩
  . intro terminal hterminal
    exact hkept.cancelled_of_terminal hcurrentRequest hterminal
  . intro definitions reading complete result next hkey hrun
    have hcases := run_cases definitions reading (.completeJob complete) later
    rw [hrun] at hcases
    obtain ⟨outcome, houtcome, _⟩ := hcases
    obtain ⟨now, stored, _, hjob, _, _, htransition⟩ := transition_of_completeJob houtcome
    rw [hkey, hcurrent] at hjob
    cases hjob
    exact hkept.completion_acknowledged hcurrentRequest htransition

theorem cancellation_honoured_sampleRequested
    : ∃ current,
        (step sampleRequested (sampleCall (sampleTime 2000) (.claimJob sampleRetry))).jobs sampleKey
            = some current
          ∧ current.cancellationRequest = some sampleCancellationRequest
          ∧ ∀ terminal ∈ current.job.terminal, terminal.status = .cancelled := by
  have hlater : Later step sampleRequested
      (step sampleRequested (sampleCall (sampleTime 2000) (.claimJob sampleRetry))) := by
    apply Later.next
    exact Later.refl _
  obtain ⟨current, hcurrent, hsame, _, hterminal, _⟩ :=
    cancellation_honoured sampleRequested_reachable hlater sampleRequested_jobs rfl
  exact ⟨current, hcurrent, hsame, hterminal⟩

end Cancellation

section Atomicity

/-- An operation that throws leaves every job as it was and one that returns leaves each job with the
intents that belong to it. A terminal job is not changed by either. -/
theorem operations_atomic (h : Reachable store)
    : (∀ definitions reading command,
        match run definitions reading command store with
        | .error error next => next.jobs = store.jobs ∧ Rejected store error next
        | .ok _ next =>
          ∀ key stored, next.jobs key = some stored →
            stored.intents = outbox stored.toReplayJobSnapshot)
      ∧ ∀ input key stored, store.jobs key = some stored → stored.job.terminal ≠ none →
          (step store input).jobs key = some stored := by
  constructor
  . intro definitions reading command
    have hcases := run_cases definitions reading command store
    have hkeeps := keeps_step store (.call definitions reading command) h.keeps
    unfold step at hkeeps
    dsimp only at hkeeps
    cases hrun : run definitions reading command store with
    | error error next =>
      rw [hrun] at hcases
      exact ⟨hcases.jobs, hcases⟩
    | ok value next =>
      rw [hrun] at hkeeps
      intro key stored hstored
      exact (hkeeps key stored hstored).intents
  . intro input key stored hstored hterminal
    exact step_terminal input hstored hterminal

theorem operations_atomic_sampleRequested
    : let store := step sampleRequested (.failNextIntent .jobTerminal)
      store.jobs sampleKey = some sampleRequestedJob
        ∧ match run sampleDefinitions (some (sampleTime 2000)) (.claimJob sampleRetry) store with
          | .error _ next => next.jobs = store.jobs
          | .ok _ next =>
            ∀ key stored, next.jobs key = some stored →
              stored.intents = outbox stored.toReplayJobSnapshot := by
  intro store
  have hreachable : Reachable store := Later.next sampleRequested_reachable _
  refine ⟨sampleRequested_jobs, ?_⟩
  -- The elaborator would run a known command.
  generalize ReplayCommand.claimJob sampleRetry = command
  have hatomic := (operations_atomic hreachable).1 sampleDefinitions (some (sampleTime 2000)) command
  split at hatomic
  . exact hatomic.1
  . exact hatomic

end Atomicity

end Replay
end ProofStack
