import ProofStack.Policy.RepositoryInvariant

/-!
This module contains the laws of whole runs of the store, for any order of commands from any number of
workers and for any readings of the clocks.
-/

namespace ProofStack
namespace Policy

open PolicyEvaluationTime PolicyEvaluationJobSnapshot PolicyEvaluationJobStore StateMachine

variable {evidence : PolicyEvaluationEvidence} {store : PolicyEvaluationJobStore evidence}
variable {scope : EvidenceScope} {id : String} {stored next : StoredPolicyJob evidence}

section Fencing

structure Fenced (snapshot : PolicyEvaluationJobSnapshot) : Prop where
  increasing : (snapshot.attempts.map (·.mutationFence.fencingToken)).Pairwise (· < ·)
  closed : ∀ attempt ∈ snapshot.attempts.dropLast, attempt.closure.isSome
  lease : ∀ lease ∈ snapshot.job.currentLease, ∃ attempt ∈ snapshot.latest,
    attempt.closure = none
      ∧ attempt.mutationFence = lease.mutationFence
      ∧ lease.expiresAt.orderKey ≤ attempt.deadlineAt.orderKey
      ∧ attempt.deadlineAt.orderKey ≤ snapshot.job.deadlineAt.orderKey

theorem Accepted.fenced {snapshot : PolicyEvaluationJobSnapshot} (h : snapshot.Accepted)
    : Fenced snapshot := by
  have hconsistent := accepted_iff.mp h
  constructor
  . exact hconsistent.history.pairwise_fencingToken
  . exact hconsistent.history.closed_of_mem_dropLast
  . intro lease hlease
    obtain ⟨attempt, hlatest, hopen, hfence, hdeadline, -⟩ := hconsistent.latest.lease lease hlease
    have haccepted := hconsistent.jobShape.currentLease lease hlease
    have hbounds := (PolicyEvaluationLease.accepted_iff.mp haccepted).2
    have hjob := (hconsistent.job.lease lease hlease).jobDeadlineAt
    refine ⟨attempt, hlatest, hopen, hfence, ?_, ?_⟩
    . rw [hdeadline]
      exact hbounds.expires_le
    . rw [hdeadline, ← hjob]
      exact hbounds.deadline_le

theorem Committed.not_spent {fence : PolicyEvaluationWorkerMutationFence}
    {now : PolicyEvaluationTime} (h : Committed (some fence) scope id now stored next)
    : ¬Spent stored.snapshot.job fence := by
  intro hspent
  obtain ⟨epoch, lease, hlive⟩ := h.live fence rfl
  exact hspent.replaced lease hlive.current hlive.fence.symm

theorem Kept.spent_of_replaced {later : StoredPolicyJob evidence} {lease : PolicyEvaluationLease}
    (hstored : Kept scope id stored) (hlease : stored.snapshot.job.currentLease = some lease)
    (hfollows : Follows stored later)
    (hreplaced : ∀ current ∈ later.snapshot.job.currentLease,
      current.mutationFence ≠ lease.mutationFence)
    : Spent later.snapshot.job lease.mutationFence where
  fencingToken_le := by
    have hconsistent := accepted_iff.mp hstored.inspected.recorded.accepted
    rw [(hconsistent.job.lease lease hlease).fencingToken]
    exact hfollows.lastFencingToken_le
  replaced := hreplaced

theorem Committed.renewed {fence : PolicyEvaluationWorkerMutationFence} {now : PolicyEvaluationTime}
    (h : Committed (some fence) scope id now stored next)
    : ∀ renewed ∈ next.snapshot.job.currentLease, ∃ lease ∈ stored.snapshot.job.currentLease,
        renewed.mutationFence = lease.mutationFence
          ∧ lease.expiresAt.orderKey ≤ renewed.expiresAt.orderKey := by
  intro renewed hrenewed
  rcases h.leaseStep.lease renewed hrenewed with hnew | hsame
  . have hconsistent := accepted_iff.mp h.after.recorded.accepted
    have htoken := (hconsistent.job.lease renewed hrenewed).fencingToken
    rw [h.lastFencingToken rfl] at htoken
    omega
  . exact hsame

theorem fence_commits_only_while_live (hrun : Later step (empty evidence) store)
    : (∀ scope id stored, store.records (scope, id) = some stored → Fenced stored.snapshot)
        ∧ (∀ command clock scope fence,
            command.target = some (scope, fence) →
            store.step (command, clock) ≠ store →
            ∃ stored lease now,
              store.records (scope, fence.jobId) = some stored
                ∧ stored.snapshot.job.currentLease = some lease
                ∧ fence = lease.mutationFence
                ∧ clock.work = some now
                ∧ stored.snapshot.job.updatedAt.orderKey ≤ now.orderKey
                ∧ now.orderKey < lease.expiresAt.orderKey)
        ∧ (∀ scope id stored lease,
            store.records (scope, id) = some stored →
            stored.snapshot.job.currentLease = some lease →
            ∀ closed stored',
              Later step store closed →
              closed.records (scope, id) = some stored' →
              (∀ current ∈ stored'.snapshot.job.currentLease,
                current.mutationFence ≠ lease.mutationFence) →
              ∀ later command clock,
                Later step closed later →
                command.target = some (scope, lease.mutationFence) →
                later.step (command, clock) = later)
        ∧ (∀ command clock scope fence stored next,
            command.target = some (scope, fence) →
            store.records (scope, fence.jobId) = some stored →
            (store.step (command, clock)).records (scope, fence.jobId) = some next →
            ∀ renewed ∈ next.snapshot.job.currentLease,
              ∃ lease ∈ stored.snapshot.job.currentLease,
                renewed.mutationFence = lease.mutationFence
                  ∧ lease.expiresAt.orderKey ≤ renewed.expiresAt.orderKey) := by
  have hinvariant := later_invariant hrun
  refine ⟨?_, ?_, ?_, ?_⟩
  . intro scope id stored hstored
    exact Accepted.fenced (hinvariant scope id stored hstored).inspected.recorded.accepted
  . intro command clock scope fence htarget hchanged
    obtain ⟨stored, next, now, hstored, hclock, hcommitted⟩ :=
      @step_target _ _ _ _ (command, clock) htarget hchanged
    obtain ⟨epoch, lease, hlive⟩ := hcommitted.live fence rfl
    exact ⟨stored, lease, now, hstored, hlive.current, hlive.fence, hclock, hlive.updated_le,
      hlive.lt_expires⟩
  . intro scope id stored lease hstored hlease closed stored' hclosed hstored' hreplaced later command
      clock hlater htarget
    have hkept := hinvariant scope id stored hstored
    have hjobId : lease.mutationFence.jobId = id := by
      have hconsistent := accepted_iff.mp hkept.inspected.recorded.accepted
      rw [(hconsistent.job.lease lease hlease).jobId]
      exact hkept.inspected.jobId_eq
    obtain ⟨_, hrecord, hfollows⟩ := later_follows hclosed hstored
    rw [hstored'] at hrecord
    cases hrecord
    have hspent := hkept.spent_of_replaced hlease hfollows hreplaced
    obtain ⟨current, hcurrent, hlast⟩ := later_follows hlater hstored'
    by_contra hchanged
    obtain ⟨_, next, now, hstored'', -, hcommitted⟩ :=
      @step_target _ _ _ _ (command, clock) htarget hchanged
    rw [hjobId, hcurrent] at hstored''
    cases hstored''
    exact hcommitted.not_spent (hlast.spent _ hspent)
  . intro command clock scope fence stored next htarget hstored hnext renewed hrenewed
    rcases step_record hstored (command, clock) with hsame | ⟨_, now, hrecord, -, hcommitted⟩
    . rw [hnext] at hsame
      cases hsame
      exact ⟨renewed, hrenewed, rfl, le_refl _⟩
    . rw [hnext] at hrecord
      cases hrecord
      rw [htarget] at hcommitted
      exact hcommitted.renewed renewed hrenewed

theorem fence_commits_only_while_live_sampleStore
    : sampleStore.records (sampleScope, "job_one") = some sampleStored
        ∧ Fenced sampleStored.snapshot :=
  ⟨sampleStore_record,
    (fence_commits_only_while_live sampleStore_reachable).1 _ _ _ sampleStore_record⟩

end Fencing

section AppendOnly

structure Extends (before after : PolicyEvaluationJobSnapshot) : Prop where
  terminal : before.job.terminal = none
  stateVersion : after.job.stateVersion = before.job.stateVersion + 1
  attempts : AttemptsStep before.attempts after.attempts
  snapshot : before.job.snapshot.isSome → after.job.snapshot = before.job.snapshot

theorem run_error {command : PolicyEvaluationCommand evidence} {clock : PolicyEvaluationClock}
    {error : PolicyEvaluationError} {store' : PolicyEvaluationJobStore evidence}
    (h : command.run clock store = .error error store')
    : store' = store := by
  have hatomic : Atomic (command.run clock) store
      (fun _ store' => Effect command.target clock store store') := command.run_atomic
  unfold Atomic at hatomic
  rw [h] at hatomic
  exact hatomic

theorem Kept.splitsAtSeal (h : Kept scope id stored) (hne : stored.snapshot.attempts ≠ [])
    : ∃ unsealed reusing,
        SplitsAtSeal stored.snapshot.attempts unsealed reusing stored.snapshot.job.snapshot := by
  have hconsistent := accepted_iff.mp h.inspected.recorded.accepted
  rw [hconsistent.latest.snapshot hne]
  exact hconsistent.history.splitsAtSeal

theorem stored_jobs_only_extend (hrun : Later step (empty evidence) store)
    : (∀ input scope id stored,
          store.records (scope, id) = some stored →
          ∃ next,
            (store.step input).records (scope, id) = some next
              ∧ (next = stored ∨ Extends stored.snapshot next.snapshot))
        ∧ (∀ (command : PolicyEvaluationCommand evidence) clock error store',
            command.run clock store = .error error store' → store' = store)
        ∧ (∀ later scope id stored,
            Later step store later →
            store.records (scope, id) = some stored →
            ∃ stored',
              later.records (scope, id) = some stored'
                ∧ (stored.snapshot.job.terminal.isSome → stored' = stored)
                ∧ (stored.snapshot.job.snapshot.isSome →
                    stored'.snapshot.job.snapshot = stored.snapshot.job.snapshot)
                ∧ (stored'.snapshot.attempts ≠ [] →
                    ∃ unsealed reusing,
                      SplitsAtSeal stored'.snapshot.attempts unsealed reusing
                        stored'.snapshot.job.snapshot)) := by
  refine ⟨?_, ?_, ?_⟩
  . intro input scope id stored hstored
    rcases step_record hstored input with hsame | ⟨next, now, hnext, -, hcommitted⟩
    . exact ⟨stored, hsame, .inl rfl⟩
    . have hstep := hcommitted.step
      exact ⟨next, hnext,
        .inr ⟨hstep.terminal, hstep.stateVersion, hstep.attempts, hstep.snapshot⟩⟩
  . intro command clock error store' hrun
    exact run_error hrun
  . intro later scope id stored hlater hstored
    obtain ⟨stored', hstored', hfollows⟩ := later_follows hlater hstored
    have hkept := later_invariant (hrun.trans hlater) scope id stored' hstored'
    exact ⟨stored', hstored', hfollows.terminal, hfollows.snapshot, hkept.splitsAtSeal⟩

theorem stored_jobs_only_extend_sampleStore
    : sampleStore.records (sampleScope, "job_one") = some sampleStored
        ∧ ∀ input, ∃ next,
            (sampleStore.step input).records (sampleScope, "job_one") = some next
              ∧ (next = sampleStored ∨ Extends sampleStored.snapshot next.snapshot) :=
  ⟨sampleStore_record, fun input =>
    (stored_jobs_only_extend sampleStore_reachable).1 input _ _ _ sampleStore_record⟩

end AppendOnly

section Replay

theorem history_replays_to_snapshot (hrun : Later step (empty evidence) store)
    (hstored : store.records (scope, id) = some stored)
    : (∃ created first entries,
          stored.pages.flatten = first :: entries
            ∧ createPolicyEvaluationJobHistoryEntry evidence.toPolicyEvaluationCodec none created
                .created
              = .ok first
            ∧ entries.foldlM
                (replayPolicyEvaluationJobHistoryEntry evidence.toPolicyEvaluationCodec) created
              = .ok stored.snapshot
            -- Without collisions the digest of the creation entry determines the first graph.
            ∧ ((∀ other, evidence.graphSha256 other = evidence.graphSha256 created → other = created) →
                ∀ other, evidence.graphSha256 other = first.definition.graphSha256 →
                  entries.foldlM
                      (replayPolicyEvaluationJobHistoryEntry evidence.toPolicyEvaluationCodec) other
                    = .ok stored.snapshot))
        ∧ ∀ transition next operation entry,
            PolicyEvaluationTransition.apply transition stored.snapshot = .ok next →
            next ≠ stored.snapshot →
            Records stored.snapshot next transition operation →
            createPolicyEvaluationJobHistoryEntry evidence.toPolicyEvaluationCodec
                (some (stored.snapshot, stored.latest)) next operation
              = .ok entry →
            replayPolicyEvaluationJobHistoryEntry evidence.toPolicyEvaluationCodec stored.snapshot
                entry
              = .ok next := by
  constructor
  . have hchronicle := (later_invariant hrun scope id stored hstored).chronicle
    revert hchronicle
    generalize stored.pages.flatten = entries
    rintro ⟨hfirst, hreplay⟩
    refine ⟨_, _, _, rfl, hfirst, hreplay, ?_⟩
    intro hcollision other hdigest
    have hdefinition := (createPolicyEvaluationJobHistoryEntry_none_eq_ok.mp hfirst).2.2
    rw [hdefinition] at hdigest
    rw [hcollision other hdigest]
    exact hreplay
  . intro transition next operation entry happly hne hrecords hentry
    have hdraft := (PolicyEvaluationTransition.apply_eq_ok.mp happly).1
    rcases PolicyEvaluationTransition.draft_step hdraft with hsame | hstep
    . contradiction
    . exact replay_of_records hstep happly hrecords hentry

theorem history_replays_to_snapshot_sampleStore
    : sampleStored.pages.flatten = [sampleEntry]
        ∧ ∃ created first entries,
            sampleStored.pages.flatten = first :: entries
              ∧ createPolicyEvaluationJobHistoryEntry sampleCodec none created .created = .ok first
              ∧ entries.foldlM (replayPolicyEvaluationJobHistoryEntry sampleCodec) created
                  = .ok sampleStored.snapshot := by
  obtain ⟨created, first, entries, hentries, hfirst, hreplay, -⟩ :=
    (history_replays_to_snapshot sampleStore_reachable sampleStore_record).1
  exact ⟨rfl, created, first, entries, hentries, hfirst, hreplay⟩

end Replay

section Outbox

namespace PolicyEvaluationJobOutboxEvent

def isCreated : PolicyEvaluationJobOutboxEvent → Bool
  | .created => true
  | _ => false

def isCancellation : PolicyEvaluationJobOutboxEvent → Bool
  | .cancellationRequested _ _ _ => true
  | _ => false

def isTerminal : PolicyEvaluationJobOutboxEvent → Bool
  | .terminal _ _ _ _ => true
  | _ => false

end PolicyEvaluationJobOutboxEvent

structure CompleteOutbox (snapshot : PolicyEvaluationJobSnapshot)
    (outbox : List PolicyEvaluationJobOutboxIntent) : Prop where
  intents : outbox = outboxIntents none snapshot
  created : outbox.countP (·.event.isCreated) = 1
  cancellation :
    outbox.countP (·.event.isCancellation) = if snapshot.cancellation.isSome then 1 else 0
  terminal : outbox.countP (·.event.isTerminal) = if snapshot.job.terminal.isSome then 1 else 0

theorem completeOutbox (snapshot : PolicyEvaluationJobSnapshot)
    : CompleteOutbox snapshot (outboxIntents none snapshot) := by
  constructor
  . rfl
  all_goals
    unfold outboxIntents
    dsimp only
    cases snapshot.cancellation <;> cases snapshot.job.terminal <;> rfl

theorem outbox_complete (hrun : Later step (empty evidence) store)
    : (∀ scope id stored,
          store.records (scope, id) = some stored →
          CompleteOutbox stored.snapshot stored.outbox
            ∧ (∀ input next,
                (store.step input).records (scope, id) = some next →
                next = stored
                  ∨ next.outbox
                      = stored.outbox ++ outboxIntents (some stored.snapshot) next.snapshot)
            -- The check of the outbox rejects no transition.
            ∧ ∀ transition next,
                PolicyEvaluationTransition.apply transition stored.snapshot = .ok next →
                next ≠ stored.snapshot →
                stored.outbox ++ outboxIntents (some stored.snapshot) next
                  = outboxIntents none next)
        ∧ ∀ (command : PolicyEvaluationCommand evidence) clock error store',
            command.run clock store = .error error store' → store' = store := by
  constructor
  . intro scope id stored hstored
    have houtbox := (later_invariant hrun scope id stored hstored).inspected.outbox
    refine ⟨?_, ?_, ?_⟩
    . rw [houtbox]
      exact completeOutbox stored.snapshot
    . intro input next hnext
      rcases step_record hstored input with hsame | ⟨_, now, hrecord, -, hcommitted⟩
      . rw [hnext] at hsame
        cases hsame
        exact .inl rfl
      . rw [hnext] at hrecord
        cases hrecord
        exact .inr hcommitted.outbox
    . intro transition next happly hne
      have hdraft := (PolicyEvaluationTransition.apply_eq_ok.mp happly).1
      rcases PolicyEvaluationTransition.draft_step hdraft with hsame | hstep
      . contradiction
      . rw [houtbox]
        exact outboxIntents_append hstep
  . intro command clock error store' hrun
    exact run_error hrun

theorem outbox_complete_sampleStore
    : sampleStore.records (sampleScope, "job_one") = some sampleStored
        ∧ CompleteOutbox sampleStored.snapshot sampleStored.outbox :=
  ⟨sampleStore_record,
    ((outbox_complete sampleStore_reachable).1 _ _ _ sampleStore_record).1⟩

end Outbox

end Policy
end ProofStack
