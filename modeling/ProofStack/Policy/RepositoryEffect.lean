import ProofStack.Policy.RepositoryLemmas

/-!
This module contains the effects of the commands on the store.
-/

namespace ProofStack
namespace Policy

open PolicyEvaluationJobSnapshot StateMachine

variable {evidence : PolicyEvaluationEvidence}

section Mutate

structure Created (scope : EvidenceScope) (id : String) (stored : StoredPolicyJob evidence)
    : Prop where
  inspected : Inspected stored scope id
  snapshot :
    ∃ request now deadlineAt recoveryEpoch,
      stored.snapshot
        = createdSnapshot evidence.toPolicyEvaluationCodec request id now deadlineAt recoveryEpoch
  entry :
    createPolicyEvaluationJobHistoryEntry evidence.toPolicyEvaluationCodec none stored.snapshot
        .created
      = .ok stored.latest
  pages : stored.pages = [[stored.latest]]
  sealedInput : stored.sealedInput = none
  evaluation : stored.evaluation = none

variable {store store' : PolicyEvaluationJobStore evidence} {scope : EvidenceScope} {id : String}
variable {clock : PolicyEvaluationClock} {mutation : PolicyMutation evidence}
variable {fence : Option PolicyEvaluationWorkerMutationFence}

inductive Mutated (fence : Option PolicyEvaluationWorkerMutationFence)
    (clock : PolicyEvaluationClock) (mutation : PolicyMutation evidence)
    (store : PolicyEvaluationJobStore evidence) (scope : EvidenceScope) (id : String)
    : PolicyEvaluationJobStore evidence → Prop where
  | same {stored : StoredPolicyJob evidence} {now : PolicyEvaluationTime}
    {material : PolicyMaterial evidence} (hopened : Opened store scope id stored)
    (hwork : mutation.work stored.snapshot now = .ok (stored.snapshot, material))
    : Mutated fence clock mutation store scope id store
  | commit {store' : PolicyEvaluationJobStore evidence} {stored next : StoredPolicyJob evidence}
    {now : PolicyEvaluationTime} (hopened : Opened store scope id stored)
    (hclock : clock.work = some now) (hcommitted : Committed fence scope id now stored next)
    (hrecords : store'.records = Function.update store.records (scope, id) (some next))
    : Mutated fence clock mutation store scope id store'

theorem Mutated.opened (h : Mutated fence clock mutation store scope id store')
    : ∃ stored, Opened store' scope id stored := by
  cases h with
  | same hopened _ => exact ⟨_, hopened⟩
  | commit hopened _ hcommitted hrecords =>
    refine ⟨_, hopened.scope_schema, hopened.id_schema, ?_, hcommitted.after⟩
    rw [hrecords, Function.update_self]

theorem mutate_atomic (hlawful : Lawful mutation fence)
    : Atomic (mutate scope id clock mutation) store
        (fun _ store' => Mutated fence clock mutation store scope id store') := by
  unfold mutate
  apply Atomic.get_bind
  apply Atomic.attempting_bind
  rintro ⟨result, pending, material⟩ hprepare
  obtain ⟨stored, now, worked, hopened, hclock, hwork, -, -, -, h⟩ := prepare_eq_ok.mp hprepare
  rcases h with ⟨rfl, rfl, rfl⟩ | ⟨hversion, operation, entry, hprepares, rfl⟩
  . apply Atomic.pure
    exact .same hopened hwork
  . have hcommitted := hprepares.committed_of_lawful hlawful hopened.inspected hwork hversion
    dsimp only
    -- The identifier of a reservation is one that the entry has been parsed with.
    have hreservation : ∀ fence reservationId delta,
        entry.definition.operation = .reserve fence reservationId delta →
        reservationKey scope id reservationId = .ok ((scope, id), reservationId) := by
      intro fence reservationId delta hoperation
      have haccepted := hcommitted.after.latest.accepted.1.1.operation.2
      have hpayload : entry.definition.operation.PayloadAccepted := haccepted
      rw [hoperation] at hpayload
      rw [reservationKey_eq_ok]
      exact ⟨hopened.scope_schema, hopened.id_schema, hpayload.1, rfl⟩
    have hlatest : (extended stored material result entry).latest = entry := rfl
    rw [hlatest]
    split
    . next fence reservationId delta hoperation =>
      rw [hreservation fence reservationId delta hoperation]
      exact .commit hopened hclock hcommitted rfl
    . exact .commit hopened hclock hcommitted rfl

inductive Effect (target : Option (EvidenceScope × PolicyEvaluationWorkerMutationFence))
    (clock : PolicyEvaluationClock) (store : PolicyEvaluationJobStore evidence)
    : PolicyEvaluationJobStore evidence → Prop where
  | unchanged : Effect target clock store store
  | epoch (recoveryEpoch : Nat) (htarget : target = none)
    : Effect target clock store { store with recoveryEpoch := recoveryEpoch }
  | create {store' : PolicyEvaluationJobStore evidence} {scope : EvidenceScope} {id : String}
    {stored : StoredPolicyJob evidence} (htarget : target = none)
    (habsent : store.records (scope, id) = none) (hcreated : Created scope id stored)
    (hrecords : store'.records = Function.update store.records (scope, id) (some stored))
    : Effect target clock store store'
  | commit {store' : PolicyEvaluationJobStore evidence} {scope : EvidenceScope} {id : String}
    {stored next : StoredPolicyJob evidence} {now : PolicyEvaluationTime}
    (htarget : ∀ carried ∈ target, (carried.1, carried.2.jobId) = (scope, id))
    (hstored : store.records (scope, id) = some stored) (hclock : clock.work = some now)
    (hcommitted : Committed (target.map (·.2)) scope id now stored next)
    (hrecords : store'.records = Function.update store.records (scope, id) (some next))
    : Effect target clock store store'

theorem Mutated.effect {target : Option (EvidenceScope × PolicyEvaluationWorkerMutationFence)}
    (htarget : ∀ carried ∈ target, (carried.1, carried.2.jobId) = (scope, id))
    (h : Mutated (target.map (·.2)) clock mutation store scope id store')
    : Effect target clock store store' := by
  cases h with
  | same => exact .unchanged
  | commit hopened hclock hcommitted hrecords =>
    exact .commit htarget hopened.record hclock hcommitted hrecords

theorem mutate_effect {α : Type}
    {target : Option (EvidenceScope × PolicyEvaluationWorkerMutationFence)}
    {output : PolicyEvaluationJobSnapshot × PolicyMaterial evidence → α}
    (hlawful : Lawful mutation (target.map (·.2)))
    (htarget : ∀ carried ∈ target, (carried.1, carried.2.jobId) = (scope, id))
    : Atomic (mutate scope id clock mutation >>= fun value => pure (output value)) store
        (fun _ store' => Effect target clock store store') := by
  apply Atomic.bind (mutate_atomic hlawful)
  intro value store' hmutated
  exact ⟨output value, store', rfl, hmutated.effect htarget⟩

end Mutate

section Commands

variable {store : PolicyEvaluationJobStore evidence} {scope : EvidenceScope}
variable {clock : PolicyEvaluationClock} {fence : PolicyEvaluationWorkerMutationFence}

theorem prepareCreation_eq_ok {request : PolicyEvaluationRequest} {jobId : String} {key : JobKey}
    {stored : StoredPolicyJob evidence}
    (h : prepareCreation store request jobId clock = .ok (key, stored))
    : key = (request.scope, jobId)
        ∧ store.records (request.scope, jobId) = none
        ∧ Created request.scope jobId stored := by
  unfold prepareCreation at h
  simp only [bind_eq_ok, jobKey_eq_ok, failIf_eq_ok, parseTime_eq_ok, parseSnapshot_eq_ok,
    inspect_eq_ok, buildPolicyEvaluationJobOutboxIntents_eq_ok, inspectStored_eq_ok, pure_eq_ok,
    Prod.mk.injEq, Option.not_isSome_iff_eq_none] at h
  obtain ⟨_, ⟨-, -, rfl⟩, _, habsent, now, -, deadlineAt, -, _, ⟨-, rfl⟩, _, ⟨-, -, -, rfl⟩, entry,
    hentry, _, ⟨-, rfl⟩, _, ⟨hinspected, -⟩, rfl, rfl⟩ := h
  exact ⟨rfl, habsent, hinspected, ⟨request, now, deadlineAt, _, rfl⟩, hentry, rfl, rfl, rfl⟩

theorem createJob_atomic (request : PolicyEvaluationRequest) (jobId : String)
    : Atomic (createJob request jobId clock) store
        (fun _ store' => Effect none clock store store') := by
  unfold createJob
  apply Atomic.get_bind
  apply Atomic.attempting_bind
  intro admitted _
  apply Atomic.attempting_bind
  intro _ _
  apply Atomic.attempting_bind
  intro requestKey _
  split
  . split
    . apply Atomic.throw
    . apply Atomic.attempting_bind
      intro snapshot _
      apply Atomic.attempting_bind
      intro _ _
      apply Atomic.pure
      exact .unchanged
  . apply Atomic.attempting_bind
    rintro ⟨key, stored⟩ hprepare
    obtain ⟨rfl, habsent, hcreated⟩ := prepareCreation_eq_ok hprepare
    exact .create rfl habsent hcreated rfl

theorem reserveWork_atomic (reservationId : String) (delta : PolicyEvaluationUsage)
    : Atomic (reserveWork scope fence reservationId delta clock) store
        (fun _ store' => Effect (some (scope, fence)) clock store store') := by
  unfold reserveWork
  apply Atomic.get_bind
  apply Atomic.attempting_bind
  intro _ _
  apply Atomic.attempting_bind
  intro owning _
  apply Atomic.attempting_bind
  intro _ _
  apply Atomic.attempting_bind
  intro key _
  split
  . apply Atomic.attempting_bind
    intro _ _
    apply Atomic.pure
    exact .unchanged
  . apply Atomic.bind (mutate_atomic (lawful_reserveUsage reservationId delta))
    rintro ⟨next, _⟩ store' hmutated
    dsimp only
    obtain ⟨stored, hopened⟩ := hmutated.opened
    have heffect : Effect (some (scope, fence)) clock store store' := hmutated.effect (by simp)
    have hread := read_eq_ok.mpr ⟨stored, hopened, rfl⟩
    rw [get_bind_run, attempting_bind_run hread]
    dsimp only
    generalize stored.latest.definition.operation = operation
    cases operation <;> exact ⟨_, _, rfl, heffect⟩

theorem reserveAcquisition_atomic (allowanceId : String)
    : Atomic (reserveAcquisition scope fence allowanceId clock) store
        (fun _ store' => Effect (some (scope, fence)) clock store store') := by
  unfold reserveAcquisition
  apply Atomic.get_bind
  apply Atomic.attempting_bind
  intro _ _
  apply Atomic.attempting_bind
  rintro ⟨_, stored, snapshot⟩ _
  dsimp only
  split
  . apply Atomic.attempting_bind
    intro _ _
    apply Atomic.pure
    exact .unchanged
  . apply Atomic.attempting_bind
    intro _ _
    exact mutate_effect (lawful_reserveAcquisition allowanceId) (by simp)

theorem publishSnapshot_atomic (pageSet : evidence.PageSet) (principalId : String)
    : Atomic (publishSnapshot scope fence pageSet principalId clock) store
        (fun _ store' => Effect (some (scope, fence)) clock store store') := by
  unfold publishSnapshot
  apply Atomic.get_bind
  apply Atomic.attempting_bind
  intro _ _
  apply Atomic.attempting_bind
  intro _ _
  apply Atomic.attempting_bind
  intro _ _
  apply Atomic.attempting_bind
  intro prior _
  apply Atomic.attempting_bind
  intro _ _
  apply Atomic.attempting_bind
  intro _ _
  apply Atomic.attempting_bind
  intro ownerKey _
  apply Atomic.attempting_bind
  intro _ _
  apply Atomic.bind (mutate_atomic (lawful_seal _ _ _))
  intro value store' hmutated
  refine ⟨_, _, rfl, ?_⟩
  cases hmutated with
  | same _ hwork => exact (sealMutation_work_ne hwork).elim
  | commit hopened hclock hcommitted hrecords =>
    exact .commit (by simp) hopened.record hclock hcommitted hrecords

theorem startComputation_atomic
    : Atomic (startComputation scope fence clock) store
        (fun _ store' => Effect (some (scope, fence)) clock store store') := by
  unfold startComputation
  apply Atomic.get_bind
  apply Atomic.attempting_bind
  intro owning _
  apply Atomic.attempting_bind
  intro _ _
  exact mutate_effect lawful_startComputation (by simp)

theorem publishResult_atomic (evaluationId : String) (pageSet : evidence.PageSet)
    : Atomic (publishResult scope fence evaluationId pageSet clock) store
        (fun _ store' => Effect (some (scope, fence)) clock store store') := by
  unfold publishResult
  apply Atomic.get_bind
  apply Atomic.attempting_bind
  intro _ _
  apply Atomic.attempting_bind
  intro _ _
  apply Atomic.attempting_bind
  rintro ⟨_, stored, snapshot⟩ _
  dsimp only
  split
  . apply Atomic.throw
  . apply Atomic.attempting_bind
    intro _ _
    split
    . apply Atomic.attempting_bind
      intro _ _
      apply Atomic.attempting_bind
      intro original _
      apply Atomic.attempting_bind
      intro _ _
      apply Atomic.pure
      exact .unchanged
    . apply Atomic.attempting_bind
      intro now _
      apply Atomic.attempting_bind
      intro _ _
      apply Atomic.attempting_bind
      intro _ _
      apply Atomic.attempting_bind
      intro _ _
      apply Atomic.attempting_bind
      intro ownerKey _
      apply Atomic.attempting_bind
      intro _ _
      apply Atomic.bind (mutate_atomic (lawful_complete _ _))
      intro value store' hmutated
      refine ⟨_, _, rfl, ?_⟩
      cases hmutated with
      | same _ hwork => exact (completeMutation_work_ne hwork).elim
      | commit hopened hclock hcommitted hrecords =>
        exact .commit (by simp) hopened.record hclock hcommitted hrecords

namespace PolicyEvaluationCommand

theorem run_atomic (command : PolicyEvaluationCommand evidence)
    : Atomic (command.run clock) store
        (fun _ store' => Effect command.target clock store store') := by
  unfold run
  cases command with
  | create request jobId => exact Atomic.discard (createJob_atomic request jobId)
  | claim scope jobId workerId attemptId leaseId =>
    apply Atomic.discard
    apply Atomic.get_bind
    exact mutate_effect (lawful_claim attemptId leaseId workerId) (by simp [target])
  | heartbeat scope fence =>
    apply Atomic.discard
    apply Atomic.get_bind
    exact mutate_effect lawful_heartbeat (by simp [target])
  | reserveUsage scope fence reservationId delta =>
    apply Atomic.discard
    apply Atomic.get_bind
    exact mutate_effect (lawful_reserveUsage reservationId delta) (by simp [target])
  | reserveWork scope fence reservationId delta =>
    exact Atomic.discard (reserveWork_atomic reservationId delta)
  | reserveAcquisition scope fence allowanceId =>
    exact Atomic.discard (reserveAcquisition_atomic allowanceId)
  | settleAcquisition scope fence allowanceId usage =>
    apply Atomic.discard
    apply Atomic.get_bind
    exact mutate_effect (lawful_settleAcquisition allowanceId usage) (by simp [target])
  | publishSnapshot scope fence pageSet principalId =>
    exact Atomic.discard (publishSnapshot_atomic pageSet principalId)
  | startComputation scope fence => exact Atomic.discard startComputation_atomic
  | publishResult scope fence evaluationId pageSet =>
    exact Atomic.discard (publishResult_atomic evaluationId pageSet)
  | interrupt scope fence reason =>
    apply Atomic.discard
    apply Atomic.get_bind
    exact mutate_effect (lawful_interrupt reason) (by simp [target])
  | cancel scope jobId cancellationId principalId reason =>
    apply Atomic.discard
    exact mutate_effect (lawful_cancel scope jobId cancellationId principalId reason) (by simp [target])
  | reclaim scope jobId =>
    apply Atomic.discard
    apply Atomic.get_bind
    exact mutate_effect lawful_reclaim (by simp [target])
  | recover scope jobId =>
    apply Atomic.discard
    apply Atomic.get_bind
    exact mutate_effect lawful_recover (by simp [target])
  | setRecoveryEpoch recoveryEpoch => exact .epoch recoveryEpoch rfl

end PolicyEvaluationCommand

theorem step_effect (store : PolicyEvaluationJobStore evidence)
    (input : PolicyEvaluationCommand evidence × PolicyEvaluationClock)
    : Effect input.1.target input.2 store (store.step input) := by
  have hatomic : Atomic (input.1.run input.2) store
      (fun _ store' => Effect input.1.target input.2 store store') := input.1.run_atomic
  unfold Atomic at hatomic
  unfold PolicyEvaluationJobStore.step
  split at hatomic
  . next hrun =>
    rw [hrun]
    exact hatomic
  . next hrun =>
    rw [hrun, hatomic]
    exact .unchanged

end Commands

end Policy
end ProofStack
