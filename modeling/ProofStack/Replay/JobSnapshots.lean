import ProofStack.Replay.JobRuns
import ProofStack.Sequence.Linked

/-!
This module contains the agreement of the replay job repository with the schema of its snapshots.
-/

namespace ProofStack
namespace Replay

open Checks Sequence StateMachine

variable {stored later : StoredReplayJob} {key : String × String} {command : ReplayCommand}
variable {now : UtcMillisecondTimestamp} {clock : Int}

section Timely

def StartedBy (attempts : List ReplayAttempt) (fence : ReplayWorkerMutationFence)
    (time : UtcMillisecondTimestamp) : Prop :=
  ∃ attempt ∈ attemptOf attempts fence.attemptId,
    attempt.mutationFence = fence ∧ attempt.startedAt.value ≤ time.value

theorem Continues.startedBy {attempts continued : List ReplayAttempt}
    (h : Continues attempts continued) {fence : ReplayWorkerMutationFence}
    {time : UtcMillisecondTimestamp} (hstarted : StartedBy attempts fence time)
    : StartedBy continued fence time := by
  obtain ⟨attempt, hattempt, hfence, hle⟩ := hstarted
  obtain ⟨found, hfound, hsame, hstartedAt⟩ := h.attemptOf hattempt
  refine ⟨found, hfound, hsame.trans hfence, ?_⟩
  rw [hstartedAt]
  exact hle

structure Timely (clock : Int) (value : ReplayJobSnapshot) : Prop where
  createdAt_le : value.job.createdAt.value ≤ clock
  leases_nodup : (value.attempts.map (·.mutationFence.leaseId)).Nodup
  startedAt_le : ∀ attempt ∈ value.attempts, attempt.startedAt.value ≤ clock
  requestedAt_le :
    ∀ request ∈ value.cancellationRequest, value.job.createdAt.value ≤ request.requestedAt.value
  requested :
    (∃ terminal ∈ value.job.terminal, terminal.code = .cancellationCommitted) →
      value.cancellationRequest ≠ none
  acknowledged :
    ∀ acknowledgement ∈ value.cancellationAcknowledgements,
      StartedBy value.attempts acknowledgement.mutationFence acknowledgement.acknowledgedAt
  acknowledgements_ordered :
    value.cancellationAcknowledgements.IsChain ReplayJobSnapshot.InOrder
  observed :
    ∀ observation ∈ value.observations,
      StartedBy value.attempts observation.mutationFence observation.observedAt

end Timely

section Accepted

theorem Kept.validateAttempts_eq_nil (h : Kept key stored)
    (htimely : Timely clock stored.toReplayJobSnapshot)
    : validateAttempts stored.job stored.attempts = [] := by
  unfold validateAttempts
  rw [if_neg, if_neg, if_neg, issue_eq_nil, not_not]
  . exact h.history.terminal
  . rw [not_not]
    exact h.history.lease
  . rw [not_not]
    exact ⟨h.history.linked, h.history.root⟩
  . rw [not_not]
    exact ⟨h.history.ids_nodup, htimely.leases_nodup⟩

theorem Kept.ledgerIssues_eq_nil (h : Kept key stored) : stored.ledgerIssues = [] := by
  obtain ⟨progress, hprogress⟩ := h.ledger.validated
  unfold ReplayJobSnapshot.ledgerIssues
  rw [hprogress]

theorem Kept.cancellationIssues_eq_nil (h : Kept key stored)
    (htimely : Timely clock stored.toReplayJobSnapshot)
    : stored.cancellationIssues = [] := by
  simp only [ReplayJobSnapshot.cancellationIssues, List.append_eq_nil_iff, issue_eq_nil]
  refine ⟨⟨?_, ?_⟩, ?_⟩
  . rintro ⟨hrequest, hrunning, hcancelled⟩
    obtain ⟨request, hrequest⟩ := Option.ne_none_iff_exists'.mp hrequest
    obtain hstatus | hstatus := (h.cancellation request hrequest).status
    . exact hrunning hstatus
    . exact hcancelled hstatus
  . rintro ⟨request, hrequest, hissue⟩
    have hkept := h.cancellation request hrequest
    have hle := htimely.requestedAt_le request hrequest
    obtain hjobId | hscope | hlt := hissue
    . exact hjobId hkept.jobId
    . exact hscope hkept.scope
    . omega
  . rintro ⟨hterminal, hnone⟩
    exact htimely.requested hterminal hnone

theorem Kept.acknowledgementIssues_eq_nil (h : Kept key stored)
    (htimely : Timely clock stored.toReplayJobSnapshot)
    : stored.acknowledgementIssues = [] := by
  simp only [ReplayJobSnapshot.acknowledgementIssues, List.append_eq_nil_iff, issue_eq_nil, not_not,
    issuesAlong_eq_nil]
  refine ⟨h.acknowledgements.ids_nodup, ?_⟩
  apply linked_of_isChain htimely.acknowledgements_ordered
  intro previous index acknowledgement hmem hordered
  have hkept := h.acknowledgements.kept acknowledgement hmem
  obtain ⟨request, hrequest, hid, hrequestedAt⟩ := hkept.requested
  obtain ⟨attempt, hattempt, hfence, hstartedAt⟩ := htimely.acknowledged acknowledgement hmem
  exact ⟨request, hrequest, attempt, hattempt, hid, hfence, hkept.scope, hrequestedAt, hstartedAt,
    hordered⟩

theorem Kept.observationIssues_eq_nil (h : Kept key stored)
    (htimely : Timely clock stored.toReplayJobSnapshot)
    : stored.observationIssues = [] := by
  have hkept := h.observations
  simp only [ReplayJobSnapshot.observationIssues, List.append_eq_nil_iff, issue_eq_nil, not_not]
  refine ⟨⟨hkept.ids_nodup, hkept.executions_sorted, hkept.usages_sorted⟩, ?_⟩
  apply linked_mergeSort hkept.sequences
  intro observation hmem
  obtain ⟨attempt, hattempt, hfence, hstartedAt⟩ := htimely.observed observation hmem
  exact ⟨attempt, hattempt, hfence, (hkept.fenced observation hmem).2, hstartedAt⟩

theorem Kept.snapshot_accepted (h : Kept key stored)
    (htimely : Timely clock stored.toReplayJobSnapshot)
    : stored.toReplayJobSnapshot.Accepted := by
  constructor
  . constructor
    . exact h.history.accepted
    . exact h.ledger.accepted
    . intro acknowledgement hmem
      exact (h.acknowledgements.kept acknowledgement hmem).accepted
    . intro request hrequest
      exact (h.cancellation request hrequest).accepted
    . exact h.observations.executions_accepted
    . exact h.accepted
    . exact h.observations.usages_accepted
  . unfold ReplayJobSnapshot.issues
    dsimp only
    rw [if_neg (by simp [h.validateAttempts_eq_nil htimely]), h.ledgerIssues_eq_nil,
      h.cancellationIssues_eq_nil htimely, h.acknowledgementIssues_eq_nil htimely,
      h.observationIssues_eq_nil htimely]
    simp only [ReplayJobSnapshot.cancellationObservationIssues, List.nil_append,
      List.flatMap_eq_nil_iff, issue_eq_nil, not_not]
    exact h.observations.namesRequest

end Accepted

section Orderly

def FreshLease (stored : StoredReplayJob) : ReplayCommand → Prop
  | .claimJob claim => claim.leaseId ∉ stored.attempts.map (·.mutationFence.leaseId)
  | _ => True

/-- What the operations do not check and the schema asks for: a job is completed as cancelled only
after its cancellation has been requested, and a new acknowledgement comes after the last one in the
order of the schema. -/
def Orderly (stored : StoredReplayJob) (now : UtcMillisecondTimestamp) : ReplayCommand → Prop
  | .completeJob complete => complete.status = .cancelled → stored.cancellationRequest ≠ none
  | .acknowledgeCancellation acknowledge =>
    acknowledge.acknowledgementId
        ∉ stored.cancellationAcknowledgements.map (·.acknowledgementId) →
      ∀ last ∈ stored.cancellationAcknowledgements.getLast?,
        last.acknowledgedAt.value < now.value
          ∨ last.acknowledgedAt.value = now.value
              ∧ last.acknowledgementId < acknowledge.acknowledgementId
  | _ => True

theorem map_leaseId_of_identity {attempts others : List ReplayAttempt}
    (h : others.map ReplayAttempt.identity = attempts.map ReplayAttempt.identity)
    : others.map (·.mutationFence.leaseId) = attempts.map (·.mutationFence.leaseId) := by
  have := congrArg (List.map (fun identity => identity.2.1.leaseId)) h
  rw [List.map_map, List.map_map] at this
  exact this

theorem startedAt_le_of_identity {attempts others : List ReplayAttempt}
    (h : others.map ReplayAttempt.identity = attempts.map ReplayAttempt.identity)
    (hle : ∀ attempt ∈ attempts, attempt.startedAt.value ≤ clock)
    : ∀ attempt ∈ others, attempt.startedAt.value ≤ clock := by
  intro attempt hattempt
  have hmem := List.mem_map_of_mem (f := ReplayAttempt.identity) hattempt
  rw [h, List.mem_map] at hmem
  obtain ⟨other, hother, hsame⟩ := hmem
  have hstartedAt : other.startedAt = attempt.startedAt := congrArg (fun identity => identity.2.2) hsame
  rw [← hstartedAt]
  exact hle other hother

theorem startedBy_of_live {fence : ReplayWorkerMutationFence} {lease : ReplayLease}
    (hlive : FenceLive stored.job fence now lease) (hhistory : History stored.job stored.attempts)
    (hle : ∀ attempt ∈ stored.attempts, attempt.startedAt.value ≤ now.value)
    : StartedBy stored.attempts fence now := by
  obtain ⟨attempt, hattempt, hfence⟩ := Transition.fenced_of_live hlive hhistory
  exact ⟨attempt, hattempt, hfence, hle attempt (List.mem_of_find?_eq_some hattempt)⟩

theorem cancelled_of_code {job : ReplayJob} (h : job.Accepted) {terminal : ReplayJobTerminalRecord}
    (hterminal : job.terminal = some terminal) (hcode : terminal.code = .cancellationCommitted)
    : terminal.status = .cancelled := by
  have hissues := (h.1.terminal terminal hterminal).2
  simp only [ReplayJobTerminalRecord.issues, List.append_eq_nil_iff, issue_eq_nil, not_not] at hissues
  rw [hcode] at hissues
  cases hstatus : terminal.status <;> simp_all [ReplayJobTerminalStatus.codes]

namespace Timely

theorem acknowledged_continues (h : Timely clock stored.toReplayJobSnapshot)
    (hcontinues : Continues stored.attempts later.attempts)
    : ∀ acknowledgement ∈ stored.cancellationAcknowledgements,
        StartedBy later.attempts acknowledgement.mutationFence acknowledgement.acknowledgedAt := by
  intro acknowledgement hmem
  exact hcontinues.startedBy (h.acknowledged acknowledgement hmem)

theorem observed_continues (h : Timely clock stored.toReplayJobSnapshot)
    (hcontinues : Continues stored.attempts later.attempts)
    : ∀ observation ∈ stored.observations,
        StartedBy later.attempts observation.mutationFence observation.observedAt := by
  intro observation hmem
  exact hcontinues.startedBy (h.observed observation hmem)

theorem attempts_identity (h : Timely clock stored.toReplayJobSnapshot) (hclock : clock ≤ now.value)
    {attempts : List ReplayAttempt}
    (hidentity : attempts.map ReplayAttempt.identity = stored.attempts.map ReplayAttempt.identity)
    : (attempts.map (·.mutationFence.leaseId)).Nodup
        ∧ ∀ attempt ∈ attempts, attempt.startedAt.value ≤ now.value := by
  constructor
  . rw [map_leaseId_of_identity hidentity]
    exact h.leases_nodup
  . apply startedAt_le_of_identity hidentity
    intro attempt hattempt
    have := h.startedAt_le attempt hattempt
    omega

theorem mono (h : Timely clock stored.toReplayJobSnapshot) {reading : Int} (hclock : clock ≤ reading)
    : Timely reading stored.toReplayJobSnapshot := by
  refine { h with createdAt_le := ?_, startedAt_le := ?_ }
  . have := h.createdAt_le
    omega
  . intro attempt hattempt
    have := h.startedAt_le attempt hattempt
    omega

theorem requestedAt_sameJob (h : Timely clock stored.toReplayJobSnapshot)
    (hsame : SameJob stored.job later.job)
    : ∀ request ∈ stored.cancellationRequest,
        later.job.createdAt.value ≤ request.requestedAt.value := by
  rw [hsame.createdAt]
  exact h.requestedAt_le

theorem claimed {claim : ClaimDurableReplayJobCommand} {options : ClaimReplayJobOptions}
    {result : ClaimReplayJobResult} {base : List ReplayAttempt}
    (h : Timely clock stored.toReplayJobSnapshot) (hclock : clock ≤ now.value)
    (hclaimed : Claimed stored.job options result)
    (hbase : History.Replaceable stored.job options stored.attempts base)
    (hleaseId : options.leaseId = claim.leaseId) (hnow : options.now = now)
    (hfresh : FreshLease stored (.claimJob claim))
    : ((base ++ [result.attempt]).map (·.mutationFence.leaseId)).Nodup
        ∧ ∀ attempt ∈ base ++ [result.attempt], attempt.startedAt.value ≤ now.value := by
  constructor
  . rw [List.map_append, map_leaseId_of_identity hbase.identity, List.map_cons, List.map_nil,
      ← List.concat_eq_append, List.nodup_concat]
    refine ⟨?_, h.leases_nodup⟩
    rw [hclaimed.attempt_fence, hclaimed.fence, hleaseId]
    exact hfresh
  . intro attempt hattempt
    rw [List.mem_append, List.mem_singleton] at hattempt
    obtain hattempt | rfl := hattempt
    . have := startedAt_le_of_identity hbase.identity h.startedAt_le attempt hattempt
      omega
    . rw [hclaimed.attempt_startedAt, hnow]

theorem transition (h : Timely clock stored.toReplayJobSnapshot) (hclock : clock ≤ now.value)
    (hkept : Kept key stored) (htransition : Transition now stored command later)
    (hlease : FreshLease stored command) (horderly : Orderly stored now command)
    : Timely now.value later.toReplayJobSnapshot := by
  have hsame := htransition.sameJob
  have hcontinues := htransition.continues hkept.history
  have hterminal := htransition.terminal_eq_none
  have haccepted := htransition.accepted
  have hcreatedAt : later.job.createdAt.value ≤ now.value := by
    rw [hsame.createdAt]
    have := h.createdAt_le
    omega
  have hacknowledged := h.acknowledged_continues hcontinues
  have hobserved := h.observed_continues hcontinues
  have hrequestedAt := h.requestedAt_sameJob hsame
  have hmono := h.mono hclock
  cases htransition with
  | claimed hclaimed _ hleaseId hnow _ hattemptAt =>
    have hbase := hkept.history.replaceable hclaimed hattemptAt
    obtain ⟨hleases, hstartedAt⟩ := h.claimed hclock hclaimed hbase hleaseId hnow hlease
    refine ⟨hcreatedAt, hleases, hstartedAt, hrequestedAt, ?_, hacknowledged,
      h.acknowledgements_ordered, hobserved⟩
    rintro ⟨terminal, hmem, _⟩
    dsimp only at hmem
    rw [hclaimed.job_eq] at hmem
    dsimp only at hmem
    rw [hterminal] at hmem
    contradiction
  | heartbeat hheartbeat =>
    refine ⟨hcreatedAt, hmono.leases_nodup, hmono.startedAt_le, hrequestedAt, ?_, hacknowledged,
      h.acknowledgements_ordered, hobserved⟩
    rintro ⟨terminal, hmem, _⟩
    dsimp only at hmem
    rw [hheartbeat.next_eq] at hmem
    dsimp only at hmem
    rw [hterminal] at hmem
    contradiction
  | expired hcloses hcancelled =>
    obtain ⟨hleases, hstartedAt⟩ :=
      h.attempts_identity hclock (Transition.closes_history hcloses hkept.history).2
    refine ⟨hcreatedAt, hleases, hstartedAt, hrequestedAt, ?_, hacknowledged,
      h.acknowledgements_ordered, hobserved⟩
    rintro ⟨terminal, hmem, hcode⟩ hnone
    have hstatus := cancelled_of_code haccepted hmem hcode
    have hrecord := (congrArg ReplayJob.terminal hcloses.terminated.next_eq).symm.trans hmem
    cases hrecord
    exact hcancelled.mp hnone hstatus
  | completed hcloses hlive hcancelled =>
    obtain ⟨hleases, hstartedAt⟩ :=
      h.attempts_identity hclock (Transition.closes_history hcloses hkept.history).2
    refine ⟨hcreatedAt, hleases, hstartedAt, hrequestedAt, ?_, hacknowledged,
      h.acknowledgements_ordered, hobserved⟩
    rintro ⟨terminal, hmem, hcode⟩
    have hstatus := cancelled_of_code haccepted hmem hcode
    have hrecord := (congrArg ReplayJob.terminal hcloses.terminated.next_eq).symm.trans hmem
    cases hrecord
    exact horderly hstatus
  | requested _ hrequested | cancelled _ hrequested =>
    refine ⟨hcreatedAt, hmono.leases_nodup, hmono.startedAt_le, ?_, ?_, hacknowledged,
      h.acknowledgements_ordered, hobserved⟩
    . rintro request ⟨⟩
      rw [hrequested.request_eq]
      exact hcreatedAt
    . simp [withIntent]
  | acknowledged hrequest hacknowledge hfresh =>
    rw [acknowledgeReplayCancellation_eq_ok] at hacknowledge
    obtain ⟨_, _, ⟨lease, hlive⟩, _, _, _, _, rfl⟩ := hacknowledge
    refine ⟨hcreatedAt, hmono.leases_nodup, hmono.startedAt_le, hrequestedAt, hmono.requested, ?_, ?_,
      hobserved⟩
    . exact List.forall_mem_append.mpr ⟨hacknowledged,
        List.forall_mem_singleton.mpr (startedBy_of_live hlive hkept.history hmono.startedAt_le)⟩
    . apply h.acknowledgements_ordered.append (List.IsChain.singleton _)
      rintro last hlast acknowledgement ⟨⟩
      exact horderly (by simpa using hfresh) last hlast
  | reserved => exact { hmono with }
  | reconciled => exact { hmono with }
  | executionObserved _ hlive _ _ hobservation =>
    refine { hmono with observed := ?_ }
    intro observation hmem
    simp only [ReplayJobSnapshot.observations, List.map_append, List.mem_append, List.map_cons,
      List.map_nil, List.mem_singleton] at hmem
    obtain (hmem | rfl) | hmem := hmem
    . exact hobserved observation (List.mem_append_left _ hmem)
    . rw [hobservation]
      exact startedBy_of_live hlive hkept.history hmono.startedAt_le
    . exact hobserved observation (List.mem_append_right _ hmem)
  | usageObserved _ hlive _ hobservation =>
    refine { hmono with observed := ?_ }
    intro observation hmem
    simp only [ReplayJobSnapshot.observations, List.map_append, List.mem_append, List.map_cons,
      List.map_nil, List.mem_singleton] at hmem
    obtain hmem | hmem | rfl := hmem
    . exact hobserved observation (List.mem_append_left _ hmem)
    . exact hobserved observation (List.mem_append_right _ hmem)
    . rw [hobservation]
      exact startedBy_of_live hlive hkept.history hmono.startedAt_le

end Timely

end Orderly

section Server

structure ReplayServer where
  store : ReplayJobStore
  clock : Int

def ReplayInput.reading : ReplayInput → Option UtcMillisecondTimestamp
  | .call _ reading _ => reading
  | .failNextIntent _ => none

namespace ReplayServer

def start (clock : Int) : ReplayServer where
  store := .empty
  clock := clock

def step (server : ReplayServer) (input : ReplayInput) : ReplayServer where
  store := Replay.step server.store input
  clock := input.reading.elim server.clock (·.value)

def Promised (server : ReplayServer) (input : ReplayInput) : Prop :=
  (∀ now ∈ input.reading, server.clock ≤ now.value)
    ∧ ∀ definitions reading command stored, input = .call definitions reading command →
        server.store.jobs command.key = some stored → FreshLease stored command

def OrderlyInput (server : ReplayServer) (input : ReplayInput) : Prop :=
  ∀ definitions now command stored, input = .call definitions (some now) command →
    server.store.jobs command.key = some stored → Orderly stored now command

structure Serves (server : ReplayServer) : Prop where
  keeps : Keeps server.store
  timely :
    ∀ key stored, server.store.jobs key = some stored →
      Timely server.clock stored.toReplayJobSnapshot

theorem serves_start (clock : Int) : Serves (start clock) where
  keeps := keeps_empty
  timely := by
    intro key stored h
    contradiction

theorem clock_le_step {server : ReplayServer} {input : ReplayInput} (h : Promised server input)
    : server.clock ≤ (server.step input).clock := by
  unfold step
  dsimp only
  cases hreading : input.reading with
  | none => exact le_refl _
  | some now => exact h.1 now hreading

theorem timely_created {create : CreateReplayJobCommand} {job : ReplayJob}
    (h : Created create now job)
    : Timely now.value (createdJob job).toReplayJobSnapshot := by
  have hcreatedAt : job.createdAt = now := by rw [h.job_eq]
  have hterminal : job.terminal = none := by rw [h.job_eq]
  constructor <;>
    simp [createdJob, withIntent, ReplayJobSnapshot.observations, hcreatedAt, hterminal]

theorem serves_step (server : ReplayServer) (input : ReplayInput)
    (hallowed : Promised server input ∧ OrderlyInput server input) (h : Serves server)
    : Serves (server.step input) where
  keeps := keeps_step server.store input h.keeps
  timely := by
    obtain ⟨hpromised, horderly⟩ := hallowed
    have hclock := clock_le_step hpromised
    intro key stored hstored
    obtain hsame | ⟨definitions, reading, command, outcome, rfl, heffect, hpublished, hwritten⟩ :=
      step_jobs server.store input
    . have hbefore : server.store.jobs key = some stored := by
        rw [← hsame]
        exact hstored
      exact (h.timely key stored hbefore).mono hclock
    . change (Replay.step _ _).jobs key = some stored at hstored
      rw [hwritten] at hstored
      by_cases hkey : key = command.key
      . subst hkey
        rw [Function.update_self] at hstored
        cases hstored
        cases heffect with
        | unchanged _ _ hnone => contradiction
        | created _ hreading _ hcreated hstored =>
          subst hreading
          rw [hstored]
          exact timely_created hcreated
        | stored hreading hjob _ _ htransition =>
          subst hreading
          exact (h.timely _ _ hjob).transition (hpromised.1 _ rfl) (h.keeps _ _ hjob) htransition
            (hpromised.2 _ _ _ _ rfl hjob) (horderly _ _ _ _ rfl hjob)
      . rw [Function.update_of_ne hkey] at hstored
        exact (h.timely key stored hstored).mono hclock

end ReplayServer

/-- Along every run with a clock that does not go back and new leases, whose inputs are orderly, every
snapshot is accepted by the schema. -/
theorem snapshots_accepted {server : ReplayServer}
    (h :
      LaterWhen (fun server input => server.Promised input ∧ server.OrderlyInput input)
        ReplayServer.step (.start clock) server)
    : ∀ key stored, server.store.jobs key = some stored → stored.toReplayJobSnapshot.Accepted := by
  intro key stored hstored
  have hserves := h.preserves ReplayServer.serves_step (ReplayServer.serves_start clock)
  exact (hserves.keeps key stored hstored).snapshot_accepted (hserves.timely key stored hstored)

section Sample

def sampleServer (stored : StoredReplayJob) (clock : Int) : ReplayServer where
  store := sampleStore stored
  clock := clock

variable {allowed : ReplayServer → ReplayInput → Prop}

theorem sampleServer_created
    (hcreate : allowed (.start 0) (sampleCall (sampleTime 1000) (.createJob sampleCreate)))
    : LaterWhen allowed ReplayServer.step (.start 0) (sampleServer (createdJob sampleQueuedJob) 1000) := by
  have hstart : LaterWhen allowed ReplayServer.step (.start 0) (.start 0) := LaterWhen.refl _
  have h := hstart.next hcreate
  unfold ReplayServer.step at h
  dsimp only [ReplayServer.start] at h
  rw [step_sampleCreate] at h
  exact h

variable {now : UtcMillisecondTimestamp}

theorem sampleServer_step {server : ReplayServer} {stored next : StoredReplayJob} {clock : Int}
    {command : ReplayCommand}
    (h : LaterWhen allowed ReplayServer.step server (sampleServer stored clock))
    (hstep : step (sampleStore stored) (sampleCall now command) = sampleStore next)
    (hallowed : allowed (sampleServer stored clock) (sampleCall now command))
    : LaterWhen allowed ReplayServer.step server (sampleServer next now.value) := by
  have hnext := h.next hallowed
  unfold ReplayServer.step sampleServer at hnext
  dsimp only at hnext
  rw [hstep] at hnext
  exact hnext

theorem promised_sampleCreate
    : (ReplayServer.start 0).Promised (sampleCall (sampleTime 1000) (.createJob sampleCreate)) := by
  constructor
  . rintro now ⟨⟩
    decide
  . rintro definitions reading command stored ⟨⟩ hstored
    contradiction

theorem promised_sampleServer {stored : StoredReplayJob} {clock : Int}
    {command : ReplayCommand} (hclock : clock ≤ now.value) (hkey : command.key = sampleKey)
    (hfresh : FreshLease stored command)
    : (sampleServer stored clock).Promised (sampleCall now command) := by
  constructor
  . rintro reading ⟨⟩
    exact hclock
  . rintro definitions reading other found ⟨⟩ hfound
    rw [hkey] at hfound
    change (sampleStore stored).jobs sampleKey = some found at hfound
    rw [sampleStore_jobs] at hfound
    cases hfound
    exact hfresh

theorem orderly_sampleServer {stored : StoredReplayJob} {clock : Int}
    {command : ReplayCommand} (hkey : command.key = sampleKey) (horderly : Orderly stored now command)
    : (sampleServer stored clock).OrderlyInput (sampleCall now command) := by
  rintro definitions reading other found ⟨⟩ hfound
  rw [hkey] at hfound
  change (sampleStore stored).jobs sampleKey = some found at hfound
  rw [sampleStore_jobs] at hfound
  cases hfound
  exact horderly

theorem snapshots_accepted_sampleRequested
    : sampleRequestedJob.toReplayJobSnapshot.Accepted := by
  have hcreated := @sampleServer_created
    (fun server input => server.Promised input ∧ server.OrderlyInput input)
    ⟨promised_sampleCreate, by rintro _ _ _ _ ⟨⟩ hstored; contradiction⟩
  have hclaimed := sampleServer_step hcreated step_sampleClaim
    ⟨promised_sampleServer (by decide) rfl (by simp [FreshLease, createdJob, withIntent]),
      orderly_sampleServer rfl trivial⟩
  have hrequested := sampleServer_step hclaimed step_sampleRequest
    ⟨promised_sampleServer (by decide) rfl trivial, orderly_sampleServer rfl trivial⟩
  exact snapshots_accepted hrequested sampleKey sampleRequestedJob (sampleStore_jobs _)

def sampleComplete : CompleteDurableReplayJobCommand where
  code := .cancellationCommitted
  error := some
    { code := .cancelled
      detailsSha256 := none
      effectCertainty := .none
      effectRetrySafety := none
      message := "Cancelled" }
  result := none
  scope := sampleScope
  status := .cancelled
  workerFence := sampleFence

def sampleCompletedAttempt : ReplayAttempt :=
  { sampleAttempt with
    endedAt := some (sampleTime 1200 sampleEnd_le)
    error := sampleComplete.error
    retryDisposition := some .notRetryable
    status := .cancelled }

def sampleTerminal : ReplayJobTerminalRecord where
  attemptId := some "attempt_one"
  code := .cancellationCommitted
  committedAt := sampleTime 1200 sampleEnd_le
  status := .cancelled

def sampleCompletedJob : ReplayJob :=
  { sampleRunningJob with
    currentLease := none
    stateVersion := 3
    status := .cancelled
    terminal := some sampleTerminal }

theorem sampleCompletedJob_accepted : sampleCompletedJob.Accepted := by
  decide

theorem fenceLive_sample (hnow : now.value < 2000)
    : FenceLive sampleRunningJob sampleFence now sampleLease where
  running := rfl
  currentLease := rfl
  accepted := sampleRunningJob_accepted.1.currentLease sampleLease rfl
  mutationFence := rfl
  unexpired := hnow

theorem step_sampleComplete
    : step (sampleStore sampleClaimedJob) (sampleCall (sampleTime 1200) (.completeJob sampleComplete))
        =
      sampleStore (closeJob sampleClaimedJob sampleCompletedAttempt sampleCompletedJob sampleTerminal)
      := by
  have hlive : FenceLive sampleRunningJob sampleFence (sampleTime 1200) sampleLease :=
    fenceLive_sample (by decide)
  have hcomplete : completeReplayAttempt sampleRunningJob sampleAttempt sampleFence
        { cancellationRequested := false
          code := sampleComplete.code
          error := sampleComplete.error
          now := sampleTime 1200
          result := none
          status := .cancelled }
      = .ok (sampleCompletedAttempt, sampleCompletedJob) := by
    simp only [completeReplayAttempt, terminalJob, assertCurrentAttempt, bind_eq_ok, parseJob_eq_ok,
      parseAttempt_eq_ok, assertCurrentFence_eq_ok, parseLease_eq_ok, found_eq_ok, failIf_eq_ok,
      nextCounter_eq_ok, pure_eq_ok]
    exact ⟨_, ⟨sampleRunningJob_accepted, rfl⟩, _, ⟨sampleAttempt_accepted, rfl⟩, _, hlive, _,
      ⟨_, ⟨rfl, hlive.accepted⟩, _, rfl, (), by decide, rfl⟩, (), by decide, _,
      ⟨by decide, rfl⟩, _, ⟨_, ⟨by decide, rfl⟩, sampleCompletedJob_accepted, rfl⟩, rfl⟩
  have hoperate : operate (sampleStore sampleClaimedJob) sampleDefinitions (some (sampleTime 1200))
        (.completeJob sampleComplete)
      = .ok
          { result := .accepted
            stored :=
              closeJob sampleClaimedJob sampleCompletedAttempt sampleCompletedJob sampleTerminal
            published := some [.jobTerminal] } := by
    simp only [operate, completeJob, bind_eq_ok, requireJob_eq_ok, parseTimestamp_eq_ok,
      assertReplayWorkerMutationFence_eq_ok, failIf_eq_ok, currentAttempt_eq_ok, pure_eq_ok,
      buildReplayJobTerminalOutboxIntent_eq_ok]
    exact ⟨sampleClaimedJob, ⟨sampleStore_jobs _, rfl⟩, _, rfl, _,
      ⟨sampleRunningJob_accepted, hlive⟩, _, rfl, (), by decide, (), by decide, (), by decide, _,
      ⟨0, rfl, rfl⟩, _, hcomplete, _, ⟨sampleCompletedJob_accepted, _, rfl, rfl⟩, rfl⟩
  exact step_sampleStore rfl hoperate (by simp)

def sampleAcknowledge (acknowledgementId : String) : AcknowledgeDurableReplayCancellationCommand where
  acknowledgementId := acknowledgementId
  action := .stopRequested
  scope := sampleScope
  workerFence := sampleFence

def sampleAcknowledgement (acknowledgementId : String) : ReplayCancellationAcknowledgement where
  acknowledgedAt := sampleTime 1200 sampleEnd_le
  acknowledgementId := acknowledgementId
  action := .stopRequested
  cancellationId := "cancellation_one"
  mutationFence := sampleFence
  scope := sampleScope

def sampleAcknowledgedJob (acknowledgements : List ReplayCancellationAcknowledgement)
    : StoredReplayJob :=
  { sampleRequestedJob with cancellationAcknowledgements := acknowledgements }

theorem step_sampleAcknowledge {acknowledgements : List ReplayCancellationAcknowledgement}
    {acknowledgementId : String} (hid : OpaqueIdSchema acknowledgementId)
    (hfresh :
      ∀ acknowledgement ∈ acknowledgements, acknowledgement.acknowledgementId ≠ acknowledgementId)
    (hlength : acknowledgements.length < maxArrayLength)
    : step (sampleStore (sampleAcknowledgedJob acknowledgements))
        (sampleCall (sampleTime 1200) (.acknowledgeCancellation (sampleAcknowledge acknowledgementId)))
        =
      sampleStore
        (sampleAcknowledgedJob (acknowledgements ++ [sampleAcknowledgement acknowledgementId])) := by
  have hlive : FenceLive sampleRunningJob sampleFence (sampleTime 1200) sampleLease :=
    fenceLive_sample (by decide)
  have haccepted : (sampleAcknowledgement acknowledgementId).Accepted :=
    ⟨hid, sampleCancellationRequest_accepted.input.1, hlive.accepted.1.mutationFence,
      sampleRunningJob_accepted.1.scope⟩
  have hnone : (sampleAcknowledgedJob acknowledgements).cancellationAcknowledgements.find? (fun existing =>
      existing.acknowledgementId = (sampleAcknowledge acknowledgementId).acknowledgementId) = none :=
    List.find?_eq_none.mpr (fun existing hmem hequal => hfresh existing hmem (of_decide_eq_true hequal))
  have hoperate : operate (sampleStore (sampleAcknowledgedJob acknowledgements)) sampleDefinitions
        (some (sampleTime 1200)) (.acknowledgeCancellation (sampleAcknowledge acknowledgementId))
      = .ok
          { result := .accepted
            stored :=
              sampleAcknowledgedJob (acknowledgements ++ [sampleAcknowledgement acknowledgementId])
            published := some [] } := by
    simp only [operate, acknowledgeCancellation, bind_eq_ok, requireJob_eq_ok, found_eq_ok,
      parseTimestamp_eq_ok, acknowledgeReplayCancellation_eq_ok]
    refine ⟨_, ⟨sampleStore_jobs _, rfl⟩, sampleCancellationRequest, rfl, _, rfl,
      sampleAcknowledgement acknowledgementId,
      ⟨sampleRunningJob_accepted, sampleCancellationRequest_accepted, ⟨_, hlive⟩, rfl, rfl, by decide,
        haccepted, rfl⟩, ?_⟩
    rw [hnone]
    simp only [bind_eq_ok, push, failIf_eq_ok, pure_eq_ok]
    exact ⟨_, ⟨(), not_le.mpr hlength, rfl⟩, rfl⟩
  exact step_sampleStore rfl hoperate (by simp)

/-- A worker completes the sample job as cancelled although nobody has requested that, and it
acknowledges a request twice at one instant. -/
theorem snapshots_not_accepted_sampleComplete
    : (∃ server stored,
        LaterWhen ReplayServer.Promised ReplayServer.step (.start 0) server
          ∧ server.store.jobs sampleKey = some stored
          ∧ stored.job.status = .cancelled
          ∧ stored.cancellationRequest = none
          ∧ ¬stored.toReplayJobSnapshot.Accepted)
      ∧ ∃ server stored,
          LaterWhen ReplayServer.Promised ReplayServer.step (.start 0) server
            ∧ server.store.jobs sampleKey = some stored
            ∧ stored.cancellationAcknowledgements.map (·.acknowledgementId)
                = ["acknowledgement_two", "acknowledgement_one"]
            ∧ ¬stored.toReplayJobSnapshot.Accepted := by
  have hcreated := sampleServer_created promised_sampleCreate
  have hclaimed := sampleServer_step hcreated step_sampleClaim
    (promised_sampleServer (by decide) rfl (by simp [FreshLease, createdJob, withIntent]))
  constructor
  . have hcompleted := sampleServer_step hclaimed step_sampleComplete
      (promised_sampleServer (by decide) rfl trivial)
    refine ⟨_, _, hcompleted, sampleStore_jobs _, rfl, rfl, ?_⟩
    intro haccepted
    have hissues := haccepted.2
    revert hissues
    decide
  . have hrequested := sampleServer_step hclaimed step_sampleRequest
      (promised_sampleServer (by decide) rfl trivial)
    have hfirst := sampleServer_step hrequested
      (@step_sampleAcknowledge [] "acknowledgement_two" (by decide) (by simp) (by decide))
      (promised_sampleServer (by decide) rfl trivial)
    have hsecond := sampleServer_step hfirst
      (@step_sampleAcknowledge _ "acknowledgement_one" (by decide) (by decide)
        (by decide))
      (promised_sampleServer (by decide) rfl trivial)
    refine ⟨_, _, hsecond, sampleStore_jobs _, rfl, ?_⟩
    intro haccepted
    have hissues := haccepted.2
    revert hissues
    decide

end Sample

end Server

end Replay
end ProofStack
