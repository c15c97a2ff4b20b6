import ProofStack.Replay.JobRepositoryEffect

/-!
This module contains the history of the attempts of a replay job.
-/

namespace ProofStack
namespace Replay

open Sequence

variable {job next : ReplayJob} {attempts : List ReplayAttempt} {attempt closed : ReplayAttempt}
variable {now : UtcMillisecondTimestamp} {stored : StoredReplayJob}

namespace ReplayAttempt

theorem not_running_of_endedAt (h : attempt.Accepted) (hended : attempt.endedAt ≠ none)
    : attempt.status ≠ .running := by
  intro hrunning
  have := h.2
  simp only [issues, List.append_eq_nil_iff, hrunning, if_true, issue_eq_nil] at this
  exact this.2 (.inl hended)

def identity (attempt : ReplayAttempt)
    : String × ReplayWorkerMutationFence × UtcMillisecondTimestamp :=
  (attempt.attemptId, attempt.mutationFence, attempt.startedAt)

end ReplayAttempt

section AttemptOf

theorem attemptOf_eq_some (hids : (attempts.map (·.attemptId)).Nodup) (hmem : attempt ∈ attempts)
    : attemptOf attempts attempt.attemptId = some attempt := by
  unfold attemptOf
  induction attempts with
  | nil => contradiction
  | cons head tail ih =>
    rw [List.map_cons, List.nodup_cons] at hids
    cases hmem with
    | head => simp
    | tail _ hmem =>
      have hne : head.attemptId ≠ attempt.attemptId := by
        intro heq
        apply hids.1
        rw [heq]
        exact List.mem_map_of_mem hmem
      rw [List.find?_cons_of_neg (by simpa using hne)]
      exact ih hids.2 hmem

theorem attemptOf_map_identity (attempts : List ReplayAttempt) (attemptId : String)
    : (attemptOf attempts attemptId).map ReplayAttempt.identity
        =
      (attempts.map ReplayAttempt.identity).find? (fun identity => identity.1 = attemptId) := by
  unfold attemptOf
  rw [List.find?_map]
  rfl

def Continues (earlier later : List ReplayAttempt) : Prop :=
  earlier.map ReplayAttempt.identity <+: later.map ReplayAttempt.identity

theorem Continues.attemptOf {later : List ReplayAttempt} (h : Continues attempts later)
    {attemptId : String} (hfound : attemptOf attempts attemptId = some attempt)
    : ∃ found, Replay.attemptOf later attemptId = some found
        ∧ found.mutationFence = attempt.mutationFence
        ∧ found.startedAt = attempt.startedAt := by
  obtain ⟨added, hadded⟩ := h
  have hlater := attemptOf_map_identity later attemptId
  rw [← hadded, List.find?_append, ← attemptOf_map_identity, hfound] at hlater
  simp only [Option.map_some, Option.some_or, Option.map_eq_some_iff] at hlater
  obtain ⟨found, hfound, hidentity⟩ := hlater
  simp only [ReplayAttempt.identity, Prod.mk.injEq] at hidentity
  exact ⟨found, hfound, hidentity.2.1, hidentity.2.2⟩

theorem Continues.fenced {later : List ReplayAttempt} (h : Continues attempts later)
    {fence : ReplayWorkerMutationFence} (hfenced : Fenced attempts fence)
    : Fenced later fence := by
  obtain ⟨attempt, hattempt, hfence⟩ := hfenced
  obtain ⟨found, hfound, hsame, _⟩ := h.attemptOf hattempt
  exact ⟨found, hfound, hsame.trans hfence⟩

end AttemptOf

structure SameJob (job next : ReplayJob) : Prop where
  createdAt : next.createdAt = job.createdAt
  createdByPrincipalId : next.createdByPrincipalId = job.createdByPrincipalId
  jobId : next.jobId = job.jobId
  plan : next.plan = job.plan
  recoveryEpoch : next.recoveryEpoch = job.recoveryEpoch
  scope : next.scope = job.scope
  lastFencingToken_le : job.lastFencingToken ≤ next.lastFencingToken

theorem SameJob.refl (job : ReplayJob) : SameJob job job := by
  constructor <;> rfl

theorem Terminated.sameJob {attemptId : Option String} {status : ReplayJobTerminalStatus}
    {code : ReplayJobTerminalCode} (h : Terminated job attemptId status code now next)
    : SameJob job next := by
  rw [h.next_eq]
  constructor <;> rfl

theorem Claimed.sameJob {options : ClaimReplayJobOptions} {result : ClaimReplayJobResult}
    (h : Claimed job options result)
    : SameJob job result.job := by
  rw [h.job_eq]
  constructor <;> first | rfl | apply Nat.le_succ

theorem Heartbeat.sameJob {fence : ReplayWorkerMutationFence} {lease renewed : ReplayLease}
    (h : Heartbeat job fence now next lease renewed)
    : SameJob job next := by
  rw [h.next_eq]
  constructor <;> rfl

theorem SameJob.validAttempt (h : SameJob job next) {before : Option ReplayAttempt} {index : Nat}
    (hvalid : ValidAttempt job before index attempt)
    : ValidAttempt next before index attempt := by
  obtain ⟨hjobId, hindex, hscope, hplan, hepoch, htoken, hprevious⟩ := hvalid
  refine ⟨?_, hindex, ?_, ?_, ?_, ?_, hprevious⟩
  . rw [h.jobId, hjobId]
  . rw [h.scope, hscope]
  . rw [h.plan, hplan]
  . rw [h.recoveryEpoch]
    exact hepoch
  . have := h.lastFencingToken_le
    omega

theorem rootAgrees_append {earlier : List ReplayAttempt}
    : RootAgrees job (earlier ++ [attempt])
        ↔ job.latestAttemptSequence = some earlier.length
            ∧ attempt.mutationFence.fencingToken = job.lastFencingToken := by
  simp [RootAgrees]

structure History (job : ReplayJob) (attempts : List ReplayAttempt) : Prop where
  accepted : ∀ attempt ∈ attempts, attempt.Accepted
  ids_nodup : (attempts.map (·.attemptId)).Nodup
  linked : Linked (ValidAttempt job) none 0 attempts
  root : RootAgrees job attempts
  lease : ∀ lease ∈ job.currentLease, OwnsLatest job attempts lease
  terminal :
    ∀ terminal ∈ job.terminal, ∀ attemptId ∈ terminal.attemptId,
      ClosesLatest attempts terminal attemptId
  closed : job.currentLease = none → ∀ attempt ∈ attempts, attempt.status ≠ .running

namespace History

theorem start (hjob : job.latestAttemptSequence = none) (hlease : job.currentLease = none)
    (hterminal : ∀ terminal ∈ job.terminal, terminal.attemptId = none)
    : History job [] where
  accepted := by simp
  ids_nodup := by simp
  linked := trivial
  root := by simp [RootAgrees, hjob]
  lease := by simp [hlease]
  terminal := by
    intro terminal hmem attemptId hattemptId
    rw [hterminal terminal hmem] at hattemptId
    contradiction
  closed := by simp

theorem eq_nil (h : History job attempts) (hnone : job.latestAttemptSequence = none)
    : attempts = [] := by
  have := h.root.1
  rw [hnone] at this
  by_contra hne
  rw [if_neg hne] at this
  contradiction

theorem exists_earlier (h : History stored.job stored.attempts) (hattempt : AttemptAt stored attempt)
    : ∃ earlier, stored.attempts = earlier ++ [attempt] := by
  obtain ⟨sequence, hlatest, hget⟩ := hattempt
  have hroot := h.root.1
  rw [hlatest] at hroot
  split at hroot
  . contradiction
  . cases hroot
    rw [← List.getLast?_eq_getElem?] at hget
    obtain ⟨earlier, hearlier⟩ := List.getLast?_eq_some_iff.mp hget
    exact ⟨earlier, hearlier⟩

variable {earlier : List ReplayAttempt}

section Last

theorem attemptSequence_last (h : History job (earlier ++ [attempt]))
    : attempt.attemptSequence = earlier.length := by
  have := (linked_append.mp h.linked).2.2.1
  omega

theorem earlier_closed (h : History job (earlier ++ [attempt]))
    : ∀ other ∈ earlier, other.status ≠ .running := by
  intro other hother
  obtain ⟨successor, _, hvalid⟩ := exists_successor h.linked.isChain hother
  obtain ⟨_, _, _, _, _, _, hreplaces⟩ := hvalid
  obtain ⟨⟨endedAt, hended, _⟩, _⟩ := hreplaces other rfl
  apply ReplayAttempt.not_running_of_endedAt
  . apply h.accepted
    exact List.mem_append_left _ hother
  . simp [Option.mem_def.mp hended]

/-- The last attempt may be replaced by what it is once it has been closed. -/
structure ClosedLast (job : ReplayJob) (earlier : List ReplayAttempt) (closed : ReplayAttempt)
    : Prop where
  accepted : ∀ attempt ∈ earlier ++ [closed], attempt.Accepted
  ids_nodup : ((earlier ++ [closed]).map (·.attemptId)).Nodup
  linked : Linked (ValidAttempt job) none 0 (earlier ++ [closed])
  root : RootAgrees job (earlier ++ [closed])
  closed : ∀ attempt ∈ earlier ++ [closed], attempt.status ≠ .running

variable {endedAt : UtcMillisecondTimestamp}

theorem closedLast (h : History job (earlier ++ [attempt]))
    (hclosed : AttemptClosed attempt endedAt closed)
    : ClosedLast job earlier closed where
  accepted :=
    List.forall_mem_append.mpr ⟨(List.forall_mem_append.mp h.accepted).1,
      List.forall_mem_singleton.mpr hclosed.accepted⟩
  ids_nodup := by
    have := h.ids_nodup
    simpa only [List.map_append, List.map_cons, List.map_nil, hclosed.attemptId] using this
  linked := by
    obtain ⟨hearlier, hjobId, hindex, hscope, hplan, hepoch, htoken, hprevious⟩ :=
      linked_append.mp h.linked
    rw [linked_append]
    refine ⟨hearlier, ?_⟩
    unfold ValidAttempt ReplacesPrevious
    rw [hclosed.jobId, hclosed.attemptSequence, hclosed.scope, hclosed.plan, hclosed.mutationFence,
      hclosed.startedAt]
    exact ⟨hjobId, hindex, hscope, hplan, hepoch, htoken, hprevious⟩
  root := by
    have hroot := h.root
    rw [rootAgrees_append] at hroot ⊢
    rw [hclosed.mutationFence]
    exact hroot
  closed := List.forall_mem_append.mpr ⟨h.earlier_closed, List.forall_mem_singleton.mpr hclosed.status⟩

theorem replaceAttempt_last (h : History job (earlier ++ [attempt]))
    (hclosed : AttemptClosed attempt endedAt closed)
    : replaceAttempt (earlier ++ [attempt]) closed = earlier ++ [closed] := by
  unfold replaceAttempt
  rw [hclosed.attemptSequence, h.attemptSequence_last]
  simp

theorem identity_last
    (hclosed : AttemptClosed attempt endedAt closed)
    : (earlier ++ [closed]).map ReplayAttempt.identity
        =
      (earlier ++ [attempt]).map ReplayAttempt.identity := by
  simp only [List.map_append, List.map_cons, List.map_nil, ReplayAttempt.identity, hclosed.attemptId,
    hclosed.mutationFence, hclosed.startedAt]

end Last

theorem terminated (h : ClosedLast job earlier closed) {code : ReplayJobTerminalCode}
    {status : ReplayJobTerminalStatus} {endedAt : UtcMillisecondTimestamp}
    (hended : closed.endedAt = some endedAt) (hle : endedAt.value ≤ now.value)
    (hterminated : Terminated job (some closed.attemptId) status code now next)
    : History next (earlier ++ [closed]) where
  accepted := h.accepted
  ids_nodup := h.ids_nodup
  linked := h.linked.mono (fun _ _ _ _ hvalid => hterminated.sameJob.validAttempt hvalid)
  root := by
    rw [hterminated.next_eq]
    exact h.root
  lease := by
    rw [hterminated.next_eq]
    simp
  terminal := by
    rw [hterminated.next_eq]
    rintro terminal ⟨⟩ attemptId ⟨⟩
    have hlast : closed ∈ earlier ++ [closed] := by simp
    refine ⟨closed, attemptOf_eq_some h.ids_nodup hlast, ⟨closed, by simp, rfl⟩, h.closed _ hlast,
      endedAt, hended, hle⟩
  closed := by
    intro _
    exact h.closed

structure Replaceable (job : ReplayJob) (options : ClaimReplayJobOptions)
    (attempts base : List ReplayAttempt) : Prop where
  accepted : ∀ attempt ∈ base, attempt.Accepted
  identity : base.map ReplayAttempt.identity = attempts.map ReplayAttempt.identity
  linked : Linked (ValidAttempt job) none 0 base
  sequence : job.latestAttemptSequence.elim 0 (· + 1) = base.length
  last : ∀ last ∈ base.getLast?, last.endedAt = some options.now
  terminal : job.terminal = none

theorem map_attemptId_of_identity {base : List ReplayAttempt}
    (h : base.map ReplayAttempt.identity = attempts.map ReplayAttempt.identity)
    : base.map (·.attemptId) = attempts.map (·.attemptId) := by
  have := congrArg (List.map Prod.fst) h
  rw [List.map_map, List.map_map] at this
  exact this

theorem replaceable (h : History stored.job stored.attempts) {options : ClaimReplayJobOptions}
    {result : ClaimReplayJobResult} (hclaimed : Claimed stored.job options result)
    (hattempt : ∀ attempt ∈ options.currentAttempt, AttemptAt stored attempt)
    : Replaceable stored.job options stored.attempts
        (result.expiredAttempt.elim stored.attempts (replaceAttempt stored.attempts)) := by
  have hprevious := hclaimed.previous
  generalize result.expiredAttempt = expired at hprevious
  cases hprevious with
  | none hqueued _ =>
    obtain ⟨_, _, hlatest, _, hterminal⟩ := ReplayJob.queued_of_status hclaimed.job_accepted hqueued
    have hnil := h.eq_nil hlatest
    rw [hnil]
    constructor <;> simp [Linked, hlatest, hterminal]
  | @expired lease current closed hrunning hgiven hcurrent hexpired heffect hclosed =>
    obtain ⟨_, _, _, _, _, _, _, hterminal⟩ :=
      ReplayJob.started_of_running hclaimed.job_accepted hrunning
    obtain ⟨earlier, hearlier⟩ := h.exists_earlier (hattempt current hgiven)
    rw [hearlier] at h ⊢
    have hlast := h.closedLast hclosed
    rw [Option.elim_some, h.replaceAttempt_last hclosed]
    constructor
    . exact hlast.accepted
    . exact identity_last hclosed
    . exact hlast.linked
    . have hroot := h.root
      rw [rootAgrees_append] at hroot
      simp [hroot.1]
    . intro last hmem
      rw [List.getLast?_concat] at hmem
      cases hmem
      exact hclosed.endedAt_eq
    . exact hterminal

theorem claimed (h : History job attempts) {base : List ReplayAttempt}
    {options : ClaimReplayJobOptions} {result : ClaimReplayJobResult}
    (hclaimed : Claimed job options result) (hbase : Replaceable job options attempts base)
    (hfresh : ∀ attempt ∈ attempts, attempt.attemptId ≠ options.attemptId)
    : History result.job (base ++ [result.attempt]) := by
  have hids : ((base ++ [result.attempt]).map (·.attemptId)).Nodup := by
    rw [List.map_append, map_attemptId_of_identity hbase.identity, List.map_cons, List.map_nil,
      ← List.concat_eq_append, List.nodup_concat]
    refine ⟨?_, h.ids_nodup⟩
    rw [hclaimed.attemptId]
    simpa using hfresh
  have hlast : result.attempt ∈ base ++ [result.attempt] := by simp
  constructor
  case accepted =>
    exact List.forall_mem_append.mpr ⟨hbase.accepted, List.forall_mem_singleton.mpr hclaimed.attempt_accepted⟩
  case ids_nodup => exact hids
  case linked =>
    rw [linked_append]
    refine ⟨hbase.linked.mono (fun _ _ _ _ hvalid => hclaimed.sameJob.validAttempt hvalid), ?_⟩
    have hsame := hclaimed.sameJob
    have hfence := hclaimed.attempt_fence.trans hclaimed.fence
    have htoken : result.job.lastFencingToken = job.lastFencingToken + 1 := by
      rw [hclaimed.job_eq]
    refine ⟨?_, ?_, ?_, ?_, ?_, ?_, ?_⟩
    . rw [hclaimed.attempt_jobId, hsame.jobId]
    . rw [hclaimed.attemptSequence, hbase.sequence]
      omega
    . rw [hclaimed.attempt_scope, hsame.scope]
    . rw [hclaimed.attempt_plan, hsame.plan]
    . rw [hfence, hsame.recoveryEpoch]
    . rw [hfence, htoken]
    . intro previous hprevious
      rw [Option.or_none] at hprevious
      obtain ⟨_, _, hvalid⟩ := hbase.linked.mem (List.mem_of_getLast? hprevious)
      obtain ⟨_, _, _, _, hepoch, hbelow, _⟩ := hvalid
      refine ⟨⟨options.now, hbase.last previous hprevious, ?_⟩, ?_, ?_⟩
      . rw [hclaimed.attempt_startedAt]
      . rw [hfence]
        exact Nat.lt_succ_of_le hbelow
      . rw [hfence]
        exact hepoch
  case root =>
    rw [rootAgrees_append, hclaimed.attempt_fence, hclaimed.fence, hclaimed.job_eq]
    refine ⟨?_, rfl⟩
    rw [hclaimed.attemptSequence, hbase.sequence]
  case lease =>
    rw [hclaimed.job_eq]
    rintro lease ⟨⟩
    refine ⟨⟨result.attempt, ?_, hclaimed.attempt_fence⟩, ?_, result.attempt, by simp,
      hclaimed.attempt_running, hclaimed.attempt_fence⟩
    . rw [hclaimed.fence]
      dsimp only
      rw [← hclaimed.attemptId]
      exact attemptOf_eq_some hids hlast
    . rw [hclaimed.fence]
  case terminal =>
    rw [hclaimed.job_eq]
    simp [hbase.terminal]
  case closed =>
    rw [hclaimed.job_eq]
    simp

theorem heartbeat (h : History job attempts) {fence : ReplayWorkerMutationFence}
    {lease renewed : ReplayLease} (hheartbeat : Heartbeat job fence now next lease renewed)
    : History next attempts where
  accepted := h.accepted
  ids_nodup := h.ids_nodup
  linked := h.linked.mono (fun _ _ _ _ hvalid => hheartbeat.sameJob.validAttempt hvalid)
  root := by
    rw [hheartbeat.next_eq]
    exact h.root
  lease := by
    rw [hheartbeat.next_eq]
    rintro other ⟨⟩
    unfold OwnsLatest
    rw [hheartbeat.mutationFence]
    exact h.lease lease hheartbeat.live.currentLease
  terminal := by
    rw [hheartbeat.next_eq]
    exact h.terminal
  closed := by
    rw [hheartbeat.next_eq]
    simp

end History

namespace Transition

variable {command : ReplayCommand} {later : StoredReplayJob}

theorem sameJob (h : Transition now stored command later)
    : SameJob stored.job later.job := by
  cases h with
  | claimed hclaimed => exact hclaimed.sameJob
  | expired hcloses => exact hcloses.terminated.sameJob
  | heartbeat hheartbeat => exact hheartbeat.sameJob
  | cancelled _ _ _ hterminated => exact hterminated.sameJob
  | completed hcloses => exact hcloses.terminated.sameJob
  | _ => exact SameJob.refl _

theorem closes_history {status : ReplayJobTerminalStatus} {code : ReplayJobTerminalCode}
    {endedAt : UtcMillisecondTimestamp} {lease : ReplayLease}
    (h : Closes stored now endedAt status code lease attempt closed next)
    (hhistory : History stored.job stored.attempts)
    : History next (replaceAttempt stored.attempts closed)
        ∧ (replaceAttempt stored.attempts closed).map ReplayAttempt.identity
            = stored.attempts.map ReplayAttempt.identity := by
  obtain ⟨earlier, hearlier⟩ := hhistory.exists_earlier h.attemptAt
  rw [hearlier] at hhistory ⊢
  rw [hhistory.replaceAttempt_last h.attemptClosed]
  constructor
  . apply History.terminated (hhistory.closedLast h.attemptClosed) h.attemptClosed.endedAt_eq
      h.endedAt_le
    rw [h.attemptClosed.attemptId]
    exact h.terminated
  . exact History.identity_last h.attemptClosed

theorem history (h : Transition now stored command later)
    (hhistory : History stored.job stored.attempts)
    : History later.job later.attempts := by
  cases h with
  | claimed hclaimed hattemptId _ _ hfresh hattemptAt _ =>
    apply hhistory.claimed hclaimed (hhistory.replaceable hclaimed hattemptAt)
    rw [hattemptId]
    exact hfresh
  | expired hcloses => exact (closes_history hcloses hhistory).1
  | heartbeat hheartbeat => exact hhistory.heartbeat hheartbeat
  | cancelled _ hrequested hqueued hterminated =>
    obtain ⟨_, _, hlatest, _⟩ := ReplayJob.queued_of_status hrequested.job_accepted hqueued
    have hnil := hhistory.eq_nil hlatest
    dsimp only [withIntent]
    rw [hnil, hterminated.next_eq]
    apply History.start
    . exact hlatest
    . rfl
    . rintro _ ⟨⟩
      rfl
  | completed hcloses => exact (closes_history hcloses hhistory).1
  | _ => exact hhistory

theorem identity (h : Transition now stored command later)
    (hhistory : History stored.job stored.attempts)
    : later.attempts.map ReplayAttempt.identity = stored.attempts.map ReplayAttempt.identity
        ∨ (stored.job.status = .running → stored.cancellationRequest = none)
            ∧ Continues stored.attempts later.attempts := by
  cases h with
  | claimed hclaimed _ _ _ _ hattemptAt huncancelled =>
    right
    refine ⟨huncancelled, ?_⟩
    unfold Continues
    dsimp only
    rw [List.map_append, (hhistory.replaceable hclaimed hattemptAt).identity]
    apply List.prefix_append
  | expired hcloses | completed hcloses => exact .inl (closes_history hcloses hhistory).2
  | _ => exact .inl rfl

theorem continues (h : Transition now stored command later)
    (hhistory : History stored.job stored.attempts)
    : Continues stored.attempts later.attempts := by
  obtain hsame | ⟨_, hcontinues⟩ := h.identity hhistory
  . unfold Continues
    rw [hsame]
  . exact hcontinues

end Transition

end Replay
end ProofStack
