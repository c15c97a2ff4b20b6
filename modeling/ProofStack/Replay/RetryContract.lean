import ProofStack.Replay.JobRuns

/-!
This module contains the results about the retries of a replay job.
-/

namespace ProofStack
namespace Replay

open Checks StateMachine

variable {store : ReplayJobStore} {stored : StoredReplayJob} {key : String × String}
variable {definitions : ReplayDefinitions} {reading : Option UtcMillisecondTimestamp}
variable {now : UtcMillisecondTimestamp} {plan : ReplayPlan}

section Delay

def backoffDelay : ReplayBackoff → (k : Nat) → Nat
  | .none, _ => 0
  | .fixed delayMilliseconds, _ => delayMilliseconds
  | .exponential initialDelayMilliseconds maximumDelayMilliseconds multiplier, k =>
    min (initialDelayMilliseconds * multiplier ^ k) maximumDelayMilliseconds

theorem min_min_mul {value maximum factor : Nat} (h : 1 ≤ factor)
    : min (min value maximum * factor) maximum = min (value * factor) maximum := by
  obtain hle | hle := Nat.le_total value maximum
  . rw [Nat.min_eq_left hle]
  . have hmaximum : maximum ≤ maximum * factor := Nat.le_mul_of_pos_right maximum h
    have hvalue : maximum * factor ≤ value * factor := Nat.mul_le_mul_right factor hle
    rw [Nat.min_eq_right hle, Nat.min_eq_right hmaximum, Nat.min_eq_right (hmaximum.trans hvalue)]

theorem exponentialDelay_eq {maximum multiplier : Nat} (h : 1 ≤ multiplier) (k : Nat)
    : ∀ delay, exponentialDelay maximum multiplier k (min delay maximum)
        = min (delay * multiplier ^ k) maximum := by
  induction k with
  | zero =>
    intro delay
    rw [Nat.pow_zero, Nat.mul_one]
    rfl
  | succ k ih =>
    intro delay
    unfold exponentialDelay
    rw [min_min_mul h, ih, Nat.mul_assoc, Nat.pow_succ']

theorem retryDelay_eq {policy : ReplayRetryPolicy} (h : policy.Accepted) (k : Nat)
    : retryDelay policy k = backoffDelay policy.backoff k := by
  obtain ⟨hshape, hissues⟩ := h
  have hbackoff := hshape.backoff
  simp only [ReplayRetryPolicy.issues, List.append_eq_nil_iff] at hissues
  unfold retryDelay
  cases hkind : policy.backoff with
  | none => rfl
  | fixed => rfl
  | exponential initial maximum multiplier =>
    rw [hkind] at hbackoff hissues
    obtain ⟨_, _, hmultiplier, _⟩ := hbackoff
    have hinitial : initial ≤ maximum := by simpa [ReplayBackoff.issues] using hissues.1.1.1.1
    have hone : 1 ≤ multiplier := by omega
    have hdelay : exponentialDelay maximum multiplier k (min initial maximum)
        = min (initial * multiplier ^ k) maximum := exponentialDelay_eq hone k initial
    rw [Nat.min_eq_left hinitial] at hdelay
    exact hdelay

end Delay

section Decision

structure EligibleRetry (options : DecideReplayRetryOptions) (delayMilliseconds : Nat)
    (notBefore : UtcMillisecondTimestamp) : Prop where
  automatic : options.policy.automatic = true
  delay : delayMilliseconds = backoffDelay options.policy.backoff options.attemptSequence
  notBefore_value : notBefore.value = options.failedAt.value + delayMilliseconds
  remaining : options.attemptSequence + 1 < options.policy.maxAttempts
  declared : errorDeclared options.policy options.error
  retrySafe : options.error.RetrySafe
  failedAt_le : options.failedAt.value ≤ options.evaluatedAt.value
  deadline :
    max notBefore.value options.evaluatedAt.value + options.policy.perAttemptTimeoutMilliseconds
      ≤ options.jobStartedAt.value + options.policy.totalDeadlineMilliseconds

theorem decideReplayRetry_eligible {options : DecideReplayRetryOptions} {delayMilliseconds : Nat}
    {notBefore : UtcMillisecondTimestamp}
    (h : decideReplayRetry options = .ok (.eligible delayMilliseconds notBefore))
    : EligibleRetry options delayMilliseconds notBefore := by
  simp only [decideReplayRetry, bind_eq_ok, parseWith_eq_ok] at h
  obtain ⟨_, ⟨haccepted, rfl⟩, _, ⟨_, rfl⟩, h⟩ := h
  split at h
  . cases pure_eq_ok.mp h
  . split at h
    . cases pure_eq_ok.mp h
    . next hautomatic =>
      split at h
      . cases pure_eq_ok.mp h
      . next hremaining =>
        split at h
        . cases pure_eq_ok.mp h
        . next hdeclared =>
          split at h
          . cases pure_eq_ok.mp h
          . next hsafe =>
            split at h
            . cases pure_eq_ok.mp h
            . next hdeadline =>
              simp only [bind_eq_ok, parseTimestamp_eq_ok, pure_eq_ok,
                ReplayRetryDecision.eligible.injEq] at h
              obtain ⟨parsed, hparsed, rfl, rfl⟩ := h
              have hvalue := UtcMillisecondTimestamp.value_of_ofMilliseconds hparsed
              push Not at hautomatic hdeclared hsafe hdeadline
              obtain ⟨_, hevaluated, _, _, _, _, hfits⟩ := hdeadline
              constructor
              . simpa using hautomatic
              . exact retryDelay_eq haccepted options.attemptSequence
              . exact hvalue
              . omega
              . exact hdeclared
              . exact hsafe
              . exact hevaluated
              . rw [hvalue]
                exact hfits

end Decision

section Claims

def Retried (definitions : ReplayDefinitions) (stored : StoredReplayJob)
    (now : UtcMillisecondTimestamp) : Prop :=
  ∃ plan lease startedAt attempt delayMilliseconds notBefore,
    requirePlan definitions stored.job = .ok plan
      ∧ stored.job.currentLease = some lease
      ∧ stored.job.startedAt = some startedAt
      ∧ stored.attempts.getLast? = some attempt
      ∧ attempt.attemptSequence + 1 = stored.attempts.length
      ∧ decideReplayRetry
          { attemptSequence := attempt.attemptSequence
            error := leaseExpiredError (expiredEffect plan)
            evaluatedAt := now
            failedAt := lease.expiresAt
            jobStartedAt := startedAt
            policy := plan.retryPolicy }
          = .ok (.eligible delayMilliseconds notBefore)
      ∧ notBefore.value ≤ now.value

theorem retried_of_decideExpiry (hhistory : History stored.job stored.attempts)
    (hplan : requirePlan definitions stored.job = .ok plan)
    (h : decideExpiry stored plan now = .ok .retry)
    : Retried definitions stored now := by
  unfold decideExpiry at h
  split at h
  . cases pure_eq_ok.mp h
  . simp only [bind_eq_ok, found_eq_ok] at h
    obtain ⟨lease, hlease, h⟩ := h
    split at h
    . cases pure_eq_ok.mp h
    . simp only [bind_eq_ok, currentAttempt_eq_ok] at h
      obtain ⟨attempt, hattempt, h⟩ := h
      split at h
      . cases pure_eq_ok.mp h
      . split at h
        . cases pure_eq_ok.mp h
        . simp only [bind_eq_ok, found_eq_ok] at h
          obtain ⟨startedAt, hstartedAt, retry, hretry, h⟩ := h
          obtain ⟨earlier, hearlier⟩ := hhistory.exists_earlier hattempt
          cases retry with
          | blocked reason => cases pure_eq_ok.mp h
          | eligible delayMilliseconds notBefore =>
            dsimp only at h
            split at h
            . cases pure_eq_ok.mp h
            . next hready =>
              rw [hearlier] at hhistory
              refine ⟨plan, lease, startedAt, attempt, delayMilliseconds, notBefore, hplan, hlease,
                hstartedAt, ?_, ?_, hretry, by omega⟩
              . rw [hearlier, List.getLast?_concat]
              . rw [hearlier, hhistory.attemptSequence_last, List.length_append, List.length_singleton]

def Started (claim : ClaimDurableReplayJobCommand) (now : UtcMillisecondTimestamp)
    (attempts : List ReplayAttempt) : Prop :=
  ∃ attempt,
    attempts.getLast? = some attempt
      ∧ attempt.attemptId = claim.attemptId
      ∧ attempt.startedAt = now

variable {claim : ClaimDurableReplayJobCommand}

theorem started_of_claimStored {outcome : ReplayOutcome}
    {effect : Option ReplayAttemptEffect} (h : claimStored claim stored plan now effect = .ok outcome)
    : Started claim now outcome.stored.attempts := by
  obtain ⟨current, result, _, hresult, rfl⟩ := claimStored_eq_ok h
  have hclaimed := claimed_of_claimReplayJob hresult
  refine ⟨result.attempt, ?_, hclaimed.attemptId, hclaimed.attempt_startedAt⟩
  apply List.getLast?_concat

theorem attempts_of_claimStored_none {outcome : ReplayOutcome}
    (hhistory : History stored.job stored.attempts)
    (h : claimStored claim stored plan now none = .ok outcome)
    : stored.attempts = [] := by
  obtain ⟨current, result, _, hresult, rfl⟩ := claimStored_eq_ok h
  have hclaimed := claimed_of_claimReplayJob hresult
  have hprevious := hclaimed.previous
  generalize result.expiredAttempt = expired at hprevious
  cases hprevious with
  | none hqueued _ =>
    obtain ⟨_, _, hlatest, _⟩ := ReplayJob.queued_of_status hclaimed.job_accepted hqueued
    exact hhistory.eq_nil hlatest
  | expired _ _ _ _ heffect _ => exact absurd rfl heffect

theorem retried_of_claimJob {outcome : ReplayOutcome}
    (hjob : store.jobs (ReplayCommand.claimJob claim).key = some stored)
    (hhistory : History stored.job stored.attempts) (hsome : stored.attempts ≠ [])
    (h : claimJob store definitions reading claim = .ok outcome)
    (hmore : stored.attempts.length < outcome.stored.attempts.length)
    : ∃ now, reading = some now
        ∧ Retried definitions stored now
        ∧ Started claim now outcome.stored.attempts := by
  simp only [claimJob, bind_eq_ok, requireJob_eq_ok, failIf_eq_ok, parseTimestamp_eq_ok] at h
  obtain ⟨other, ⟨hother, _⟩, plan, hplan, _, _, _, _, _, _, _, _, now, rfl, decision, hdecision, h⟩ := h
  have hsame : other = stored := Option.some.inj (hother.symm.trans hjob)
  subst hsame
  refine ⟨now, rfl, ?_⟩
  cases decision with
  | unexpired => exact absurd (attempts_of_claimStored_none hhistory h) hsome
  | retry => exact ⟨retried_of_decideExpiry hhistory hplan hdecision, started_of_claimStored h⟩
  | retryNotReady =>
    cases pure_eq_ok.mp h
    exact absurd hmore (Nat.lt_irrefl _)
  | terminalize status code =>
    simp only [bind_eq_ok, pure_eq_ok, terminalizeExpiredAttempt] at h
    obtain ⟨_, ⟨attempt, _, ⟨closed, job⟩, _, intent, _, rfl⟩, rfl⟩ := h
    simp [withIntent, replaceAttempt] at hmore

end Claims

section Runs

theorem Transition.attempts_length {command : ReplayCommand} {next : StoredReplayJob}
    (h : Transition now stored command next)
    : next.attempts.length = stored.attempts.length
        ∨ (∃ claim, command = .claimJob claim)
            ∧ next.attempts.length = stored.attempts.length + 1 := by
  cases h with
  | @claimed claim options result =>
    right
    refine ⟨⟨claim, rfl⟩, ?_⟩
    dsimp only
    rw [List.length_append, List.length_singleton]
    cases result.expiredAttempt with
    | none => rfl
    | some closed => simp [replaceAttempt]
  | expired | completed => simp [closeJob, withIntent, replaceAttempt]
  | _ => exact .inl rfl

theorem Continues.getElem? {earlier later : List ReplayAttempt} (h : Continues earlier later)
    {index : Nat} {attempt : ReplayAttempt} (hattempt : later[index]? = some attempt)
    (hindex : index < earlier.length)
    : ∃ previous, earlier[index]? = some previous ∧ previous.identity = attempt.identity := by
  refine ⟨earlier[index], by simp [hindex], ?_⟩
  obtain ⟨added, hadded⟩ := h
  have hidentity := congrArg (fun attempts => attempts[index]?) hadded
  rw [List.getElem?_append_left (by simpa using hindex), List.getElem?_map, List.getElem?_map,
    hattempt] at hidentity
  simpa [hindex] using hidentity

def ClaimedAt (key : String × String) (store : ReplayJobStore) (input : ReplayInput) (index : Nat)
    (attemptId : String) (startedAt : UtcMillisecondTimestamp) : Prop :=
  ∃ definitions claim stored,
    input = .call definitions (some startedAt) (.claimJob claim)
      ∧ (ReplayCommand.claimJob claim).key = key
      ∧ claim.attemptId = attemptId
      ∧ store.jobs key = some stored
      ∧ stored.attempts.length = index + 1
      ∧ Retried definitions stored startedAt

theorem step_attempt (hkeeps : Keeps store) (input : ReplayInput) {next : StoredReplayJob}
    {index : Nat} {attempt : ReplayAttempt} (hnext : (step store input).jobs key = some next)
    (hattempt : next.attempts[index + 1]? = some attempt)
    : (∃ stored previous,
          store.jobs key = some stored
            ∧ stored.attempts[index + 1]? = some previous
            ∧ previous.identity = attempt.identity)
        ∨ ClaimedAt key store input index attempt.attemptId attempt.startedAt := by
  obtain hsame | ⟨definitions, reading, command, outcome, rfl, houtcome, hpublished, hwritten⟩ :=
    step_outcome store input
  . rw [hsame] at hnext
    exact .inl ⟨next, attempt, hnext, hattempt, rfl⟩
  . rw [hwritten] at hnext
    by_cases hkey : key = command.key
    . subst hkey
      rw [Function.update_self] at hnext
      cases hnext
      cases effect_of_operate houtcome with
      | unchanged _ _ hnone => exact absurd hnone hpublished
      | created _ _ _ _ hcreated =>
        rw [hcreated] at hattempt
        simp [createdJob, withIntent] at hattempt
      | @stored now stored hreading hjob _ _ htransition =>
        have hhistory := (hkeeps _ _ hjob).history
        by_cases hindex : index + 1 < stored.attempts.length
        . obtain ⟨previous, hprevious⟩ :=
            (htransition.continues hhistory).getElem? hattempt hindex
          exact .inl ⟨stored, previous, hjob, hprevious⟩
        . right
          obtain ⟨hbelow, _⟩ := List.getElem?_eq_some_iff.mp hattempt
          obtain hlength | ⟨⟨claim, rfl⟩, hlength⟩ := htransition.attempts_length
          . omega
          . have hsome : stored.attempts ≠ [] := by
              rintro hnil
              rw [hnil, List.length_nil] at hlength
              omega
            obtain ⟨_, rfl, hretried, last, hlast, hattemptId, hstartedAt⟩ :=
              retried_of_claimJob hjob hhistory hsome houtcome (by omega)
            have hsame : last = attempt := by
              rw [List.getLast?_eq_getElem?, show outcome.stored.attempts.length - 1 = index + 1 by omega,
                hattempt] at hlast
              exact (Option.some.inj hlast).symm
            subst hsame
            rw [hstartedAt, hattemptId]
            exact ⟨definitions, claim, stored, rfl, rfl, rfl, hjob, by omega, hretried⟩
    . rw [Function.update_of_ne hkey] at hnext
      exact .inl ⟨next, attempt, hnext, hattempt, rfl⟩

theorem run_attempt (inputs : List ReplayInput)
    : ∀ stored index attempt,
        (inputs.foldl step .empty).jobs key = some stored →
        stored.attempts[index + 1]? = some attempt →
        ∃ earlier input rest,
          inputs = earlier ++ input :: rest
            ∧ ClaimedAt key (earlier.foldl step .empty) input index attempt.attemptId
                attempt.startedAt := by
  induction inputs using List.reverseRecOn with
  | nil =>
    intro stored index attempt hstored
    contradiction
  | append_singleton inputs input ih =>
    intro stored index attempt hstored hattempt
    rw [List.foldl_append] at hstored
    have hreachable : Reachable (inputs.foldl step .empty) := Later.foldl inputs ReplayJobStore.empty
    obtain ⟨before, previous, hbefore, hprevious, hidentity⟩ | hclaimed :=
      step_attempt hreachable.keeps input hstored hattempt
    . obtain ⟨earlier, claim, rest, rfl, hclaimed⟩ := ih before index previous hbefore hprevious
      simp only [ReplayAttempt.identity, Prod.mk.injEq] at hidentity
      rw [hidentity.1, hidentity.2.2] at hclaimed
      exact ⟨earlier, claim, rest ++ [input], by simp, hclaimed⟩
    . exact ⟨inputs, input, [], rfl, hclaimed⟩

/-- The delay of an accepted policy is the capped power of its backoff, an eligible decision has checked
everything about the retry, and in every run each attempt after the first one has been started by a
claim under an eligible decision about the attempt before it whose time has come. -/
theorem retries_eligible
    : (∀ policy k, policy.Accepted → retryDelay policy k = backoffDelay policy.backoff k)
        ∧ (∀ options delayMilliseconds notBefore,
            decideReplayRetry options = .ok (.eligible delayMilliseconds notBefore) →
            EligibleRetry options delayMilliseconds notBefore)
        ∧ ∀ inputs key stored index attempt,
            (inputs.foldl step .empty).jobs key = some stored →
            stored.attempts[index + 1]? = some attempt →
            ∃ earlier input rest,
              inputs = earlier ++ input :: rest
                ∧ ClaimedAt key (earlier.foldl step .empty) input index attempt.attemptId
                    attempt.startedAt :=
  ⟨fun _ k h => retryDelay_eq h k, fun _ _ _ => decideReplayRetry_eligible,
    fun inputs _ => run_attempt inputs⟩

def retryingPolicy : ReplayRetryPolicy :=
  { samplePlan.retryPolicy with
    automatic := true
    backoff := .exponential 100 400 2
    maxAttempts := 3
    retryableErrors := [.targetProcessInterrupted] }

def retryingCall (now : UtcMillisecondTimestamp) (command : ReplayCommand) : ReplayInput :=
  .call (sampleDefinitionsWith retryingPolicy) (some now) command

def retryingRun : List ReplayInput :=
  [ retryingCall (sampleTime 1000 sampleStart_le) (.createJob sampleCreate),
    retryingCall (sampleTime 1000 sampleStart_le) (.claimJob sampleClaim),
    retryingCall (sampleTime 2100) (.claimJob sampleRetry) ]

theorem retryingRun_claimed
    : retryingRun.foldl step .empty
        =
      step (sampleStore sampleClaimedJob)
        (retryingCall (sampleTime 2100) (.claimJob sampleRetry)) := by
  have hcreate : step .empty (retryingCall (sampleTime 1000) (.createJob sampleCreate))
      = sampleStore (createdJob sampleQueuedJob) :=
    step_sampleCreate_with retryingPolicy
  have hattempts : safePositiveInteger retryingPolicy.maxAttempts := by decide
  have htimeout : 1000 ≤ retryingPolicy.perAttemptTimeoutMilliseconds := by decide
  have hclaim : step (sampleStore (createdJob sampleQueuedJob))
        (retryingCall (sampleTime 1000) (.claimJob sampleClaim))
      = sampleStore sampleClaimedJob :=
    step_sampleClaim_with hattempts htimeout
  unfold retryingRun
  rw [List.foldl_cons, List.foldl_cons, List.foldl_cons, List.foldl_nil, hcreate, hclaim]

def retryOptions : ClaimReplayJobOptions :=
  claimOptions sampleRetry { samplePlan with retryPolicy := retryingPolicy } (sampleTime 2100)
    (some (expiredEffect samplePlan)) (some sampleAttempt)

theorem claimReplayJob_retryOptions : ∃ result, claimReplayJob sampleRunningJob retryOptions = .ok result := by
  have hexpiresAt : addMilliseconds (sampleTime 2100) 1000 = .ok (sampleTime 3100) := by decide
  obtain ⟨expired, hexpired⟩ : ∃ expired, expireAttempt sampleRunningJob retryOptions = .ok expired := by
    rw [expireAttempt, if_pos (by decide)]
    simp only [assertCurrentAttempt, bind_eq_ok, parseLease_eq_ok, found_eq_ok, failIf_eq_ok, parseAttempt_eq_ok,
      pure_eq_ok]
    exact ⟨_, sampleAttempt, ⟨sampleLease, ⟨rfl, by decide⟩, _, rfl, (), by decide, rfl⟩, _, rfl, (), by decide, _,
      ⟨⟨{ sampleAttempt_accepted.1 with error := by decide }, by decide⟩, rfl⟩, rfl⟩
  simp only [claimReplayJob, claimedLease, claimedAttempt, bind_eq_ok, parseJob_eq_ok, failIf_eq_ok,
    nextCounter_eq_ok, parseLease_eq_ok, parseAttempt_eq_ok, pure_eq_ok]
  exact ⟨_, _, ⟨sampleRunningJob_accepted, rfl⟩, (), by decide, 1, rfl, (), by decide, 2, by decide, 3, by decide, _,
    ⟨_, hexpiresAt, rfl, by decide⟩, _,
    ⟨⟨{ sampleAttempt_accepted.1 with
        attemptId := by decide, attemptSequence := by decide, mutationFence := by decide }, by decide⟩, rfl⟩,
    _, hexpired, _,
    ⟨⟨{ sampleRunningJob_accepted.1 with
        currentLease := by decide, lastFencingToken := by decide, latestAttemptSequence := by decide,
        stateVersion := by decide }, by decide⟩, rfl⟩, rfl⟩

theorem step_sampleRetry
    : ∃ stored attempt,
        step (sampleStore sampleClaimedJob) (retryingCall (sampleTime 2100) (.claimJob sampleRetry))
          = sampleStore stored
        ∧ stored.attempts[1]? = some attempt
        ∧ attempt.attemptId = "attempt_two" := by
  obtain ⟨result, hresult⟩ := claimReplayJob_retryOptions
  have hattemptId := (claimed_of_claimReplayJob hresult).attemptId
  have hlength : (result.expiredAttempt.elim [sampleAttempt] (replaceAttempt [sampleAttempt])).length = 1 := by
    cases result.expiredAttempt <;> simp [replaceAttempt]
  generalize hattempts : result.expiredAttempt.elim [sampleAttempt] (replaceAttempt [sampleAttempt]) = attempts
    at hlength
  have hpush : push attempts result.attempt = .ok (attempts ++ [result.attempt]) := by
    simp [push, failIf, hlength, maxArrayLength]
  have hoperate : operate (sampleStore sampleClaimedJob) (sampleDefinitionsWith retryingPolicy)
        (some (sampleTime 2100)) (.claimJob sampleRetry)
      = .ok
          { result := .claimed result.lease.mutationFence
            stored := { sampleClaimedJob with attempts := attempts ++ [result.attempt], job := result.job }
            published := some [] } := by
    simp only [operate, claimJob, bind_eq_ok, requireJob_eq_ok, failIf_eq_ok, parseTimestamp_eq_ok,
      requirePlan, requireTargetRelease, found_eq_ok, pure_eq_ok]
    refine ⟨sampleClaimedJob, ⟨sampleStore_jobs _, rfl⟩, _, ⟨_, rfl, (), by decide, rfl⟩, (),
      ⟨_, rfl, by decide⟩, (), not_not.mpr rfl, (), by decide, (), by decide, _, rfl, .retry, rfl, ?_⟩
    unfold claimStored
    rw [if_pos (by decide)]
    refine (bind_of_ok (a := some sampleAttempt) rfl).trans ((bind_of_ok hresult).trans ?_)
    rw [show sampleClaimedJob.attempts = [sampleAttempt] from rfl, hattempts]
    exact bind_of_ok hpush
  refine ⟨_, result.attempt, step_sampleStore rfl hoperate (by simp), ?_, hattemptId⟩
  simp [hlength]

theorem retries_eligible_retryingRun
    : ∃ stored attempt,
        (retryingRun.foldl step .empty).jobs sampleKey = some stored
          ∧ stored.attempts[1]? = some attempt
          ∧ attempt.attemptId = "attempt_two"
          ∧ ∃ earlier input rest,
              retryingRun = earlier ++ input :: rest
                ∧ ClaimedAt sampleKey (earlier.foldl step .empty) input 0 attempt.attemptId
                    attempt.startedAt := by
  obtain ⟨stored, attempt, hretry, hattempt, hattemptId⟩ := step_sampleRetry
  have hstored : (retryingRun.foldl step .empty).jobs sampleKey = some stored := by
    rw [retryingRun_claimed, hretry, sampleStore_jobs]
  exact ⟨stored, attempt, hstored, hattempt, hattemptId,
    retries_eligible.2.2 retryingRun sampleKey stored 0 attempt hstored hattempt⟩

end Runs

end Replay
end ProofStack
