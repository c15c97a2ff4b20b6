import ProofStack.Policy.HistoryLemmas
import ProofStack.Policy.Repository
import ProofStack.Policy.SchedulerRuns

/-!
This module contains the readings of the repository.
-/

namespace ProofStack
namespace Policy

open PolicyEvaluationJobSnapshot StateMachine

variable {evidence : PolicyEvaluationEvidence}

section Read

variable {scope : EvidenceScope} {id : String}

theorem parseTime_eq_ok {reading : Option PolicyEvaluationTime} {now : PolicyEvaluationTime}
    : parseTime reading = .ok now ↔ reading = some now := by
  unfold parseTime
  cases reading <;> simp

theorem jobKey_eq_ok {key : JobKey}
    : jobKey scope id = .ok key
        ↔ EvidenceScopeSchema scope ∧ OpaqueIdSchema id = true ∧ (scope, id) = key := by
  unfold jobKey
  simp only [bind_eq_ok, parseWith_eq_ok, pure_eq_ok, exists_const]

theorem reservationKey_eq_ok {reservationId : String} {key : JobKey × String}
    : reservationKey scope id reservationId = .ok key
        ↔ EvidenceScopeSchema scope
            ∧ OpaqueIdSchema id = true
            ∧ OpaqueIdSchema reservationId = true
            ∧ ((scope, id), reservationId) = key := by
  unfold reservationKey
  simp only [bind_eq_ok, jobKey_eq_ok, parseWith_eq_ok, pure_eq_ok, exists_const, and_assoc,
    exists_and_left, exists_eq_left']

theorem inspect_eq_ok {snapshot result : PolicyEvaluationJobSnapshot}
    : inspect evidence snapshot scope id = .ok result
        ↔ Recorded evidence.toPolicyEvaluationCodec snapshot
            ∧ snapshot.job.jobId = id
            ∧ snapshot.job.scope = scope
            ∧ snapshot = result := by
  unfold inspect
  rw [validatePolicyEvaluationJobSnapshotRecord_eq_ok]
  simp only [true_and]

structure Inspected (stored : StoredPolicyJob evidence) (scope : EvidenceScope) (id : String)
    : Prop where
  recorded : Recorded evidence.toPolicyEvaluationCodec stored.snapshot
  jobId_eq : stored.snapshot.job.jobId = id
  scope_eq : stored.snapshot.job.scope = scope
  latest : ValidEntry evidence.toPolicyEvaluationCodec stored.latest
  latest_scope : stored.latest.definition.scope = scope
  latest_job : stored.latest.definition.job = jobReference stored.snapshot.job
  lastPage_length :
    (stored.pages.getD (pageOf stored.latest.definition.sequence) []).length
      = stored.latest.definition.sequence % policyEvaluationJobHistoryPageSize + 1
  lastPage :
    (stored.pages.getD (pageOf stored.latest.definition.sequence) []).getLast?
      = some stored.latest
  graph :
    stored.latest.definition.graphSha256
      = evidence.toPolicyEvaluationCodec.graphSha256 stored.snapshot
  sequence : stored.latest.definition.sequence + 1 = stored.snapshot.job.stateVersion
  outbox : stored.outbox = outboxIntents none stored.snapshot
  sealedInput : ∀ sealedInput ∈ stored.sealedInput,
    ∃ reference ∈ stored.snapshot.job.snapshot,
      validatePolicyEvaluationStoredSnapshotJob evidence
        (readIdentity stored.snapshot scope id reference) sealedInput.record stored.snapshot
      = .ok ()

theorem inspectStored_eq_ok {stored : StoredPolicyJob evidence}
    {result : PolicyEvaluationJobSnapshot}
    : inspectStored stored scope id = .ok result
        ↔ Inspected stored scope id ∧ stored.snapshot = result := by
  unfold inspectStored
  simp only [bind_eq_ok, inspect_eq_ok, policyEvaluationJobHistoryHead_eq_ok,
    digestPolicyEvaluationJobGraph_eq_ok, buildPolicyEvaluationJobOutboxIntents_eq_ok, failIf_eq_ok,
    exists_const, and_assoc, exists_and_left, exists_eq_left', not_or, not_not, ne_eq, headOf]
  constructor
  . rintro ⟨h1, h2, h3, h4, h5, h6, h7, h8, h9, -, h10, h11, -, h12, h⟩
    have hsealed : (∀ sealedInput ∈ stored.sealedInput,
        ∃ reference ∈ stored.snapshot.job.snapshot,
          validatePolicyEvaluationStoredSnapshotJob evidence
            (readIdentity stored.snapshot scope id reference) sealedInput.record stored.snapshot
          = .ok ()) ∧ stored.snapshot = result := by
      cases hinput : stored.sealedInput with
      | none =>
        rw [hinput] at h
        simp only [pure_eq_ok] at h
        exact ⟨by simp, h⟩
      | some sealedInput =>
        rw [hinput] at h
        cases hreference : stored.snapshot.job.snapshot with
        | none =>
          rw [hreference] at h
          contradiction
        | some reference =>
          rw [hreference] at h
          simp only [bind_eq_ok, pure_eq_ok, exists_and_right] at h
          obtain ⟨⟨⟨⟩, hvalid⟩, hresult⟩ := h
          simpa using ⟨hvalid, hresult⟩
    refine ⟨⟨h1, h2, h3, h4, h5, ?_, h8, h9, h10, h11, h12, hsealed.1⟩, hsealed.2⟩
    cases hjob : stored.latest.definition.job
    rw [hjob] at h6 h7
    unfold jobReference
    rw [← h7, h2, ← h6]
  . rintro ⟨h, rfl⟩
    refine ⟨h.recorded, h.jobId_eq, h.scope_eq, h.latest, h.latest_scope, ?_, ?_, h.lastPage_length,
      h.lastPage, h.recorded, h.graph, h.sequence, h.recorded, h.outbox, ?_⟩
    . rw [h.latest_job]
      exact h.jobId_eq
    . rw [h.latest_job]
      rfl
    . have hsealed := h.sealedInput
      cases hinput : stored.sealedInput with
      | none => rfl
      | some sealedInput =>
        rw [hinput] at hsealed
        obtain ⟨reference, hreference, hvalid⟩ := hsealed sealedInput rfl
        rw [hreference]
        simp only [bind_eq_ok, pure_eq_ok]
        exact ⟨(), hvalid, trivial⟩

structure Opened (store : PolicyEvaluationJobStore evidence) (scope : EvidenceScope) (id : String)
    (stored : StoredPolicyJob evidence) : Prop where
  scope_schema : EvidenceScopeSchema scope
  id_schema : OpaqueIdSchema id = true
  record : store.records (scope, id) = some stored
  inspected : Inspected stored scope id

theorem read_eq_ok {store : PolicyEvaluationJobStore evidence} {owning : ReadPolicyJob evidence}
    : read store scope id = .ok owning
        ↔ ∃ stored, Opened store scope id stored ∧ ⟨(scope, id), stored, stored.snapshot⟩ = owning := by
  unfold read
  simp only [bind_eq_ok, jobKey_eq_ok, and_assoc, exists_and_left, exists_eq_left']
  constructor
  . rintro ⟨hscope, hid, h⟩
    cases hrecord : store.records (scope, id) with
    | none =>
      rw [hrecord] at h
      contradiction
    | some stored =>
      rw [hrecord] at h
      simp only [bind_eq_ok, inspectStored_eq_ok, pure_eq_ok, and_assoc, exists_and_left,
        exists_eq_left'] at h
      exact ⟨stored, ⟨hscope, hid, hrecord, h.1⟩, h.2⟩
  . rintro ⟨stored, ⟨hscope, hid, hrecord, hinspected⟩, h⟩
    rw [hrecord]
    simp only [bind_eq_ok, inspectStored_eq_ok, pure_eq_ok, and_assoc, exists_and_left,
      exists_eq_left']
    exact ⟨hscope, hid, hinspected, h⟩

end Read

section Mutation

structure Works (mutation : PolicyMutation evidence)
    (fence : Option PolicyEvaluationWorkerMutationFence) (snapshot : PolicyEvaluationJobSnapshot)
    (now : PolicyEvaluationTime) (worked : PolicyEvaluationJobSnapshot)
    (material : PolicyMaterial evidence) (transition : PolicyEvaluationTransition) : Prop where
  now_eq : transition.now = now
  fence_eq : transition.fence = fence
  apply : transition.apply snapshot = .ok worked
  records : ∀ operation, mutation.operation worked material = .ok operation →
    Records snapshot worked transition operation
  sealedInput : ∀ sealedInput ∈ material.sealedInput, sealedInput.record.recordedAt = now
  evaluation : material.evaluation.isSome → worked.job.terminal.isSome

def Lawful (mutation : PolicyMutation evidence)
    (fence : Option PolicyEvaluationWorkerMutationFence) : Prop :=
  ∀ {snapshot now worked material},
    mutation.work snapshot now = .ok (worked, material) →
    worked.job.stateVersion ≠ snapshot.job.stateVersion →
    ∃ transition, Works mutation fence snapshot now worked material transition

variable {recoveryEpoch : Nat} {fence : PolicyEvaluationWorkerMutationFence}

theorem Lawful.plain {fence : Option PolicyEvaluationWorkerMutationFence}
    {work : PolicyEvaluationJobSnapshot → PolicyEvaluationTime →
      Except PolicyEvaluationError PolicyEvaluationJobSnapshot}
    {operation : PolicyEvaluationJobSnapshot →
      Except PolicyEvaluationError PolicyEvaluationJobHistoryOperation}
    (h : ∀ {snapshot now worked},
      work snapshot now = .ok worked →
      worked.job.stateVersion ≠ snapshot.job.stateVersion →
      ∃ transition : PolicyEvaluationTransition,
        transition.now = now
          ∧ transition.fence = fence
          ∧ transition.apply snapshot = .ok worked
          ∧ ∀ recorded, operation worked = .ok recorded →
              Records snapshot worked transition recorded)
    : Lawful (plainMutation work operation : PolicyMutation evidence) fence := by
  intro snapshot now worked material hwork hversion
  simp only [plainMutation, bind_eq_ok, pure_eq_ok, Prod.mk.injEq] at hwork
  obtain ⟨_, hwork, rfl, rfl⟩ := hwork
  obtain ⟨transition, hnow, hfence, happly, hrecords⟩ := h hwork hversion
  refine ⟨transition, hnow, hfence, happly, hrecords, ?_, ?_⟩
  . simp [PolicyMaterial.none]
  . simp [PolicyMaterial.none]

theorem Lawful.fenced
    {work : PolicyEvaluationJobSnapshot → PolicyEvaluationTime →
      Except PolicyEvaluationError PolicyEvaluationJobSnapshot}
    {operation : PolicyEvaluationJobHistoryOperation}
    (transition : PolicyEvaluationTime → Nat → PolicyEvaluationTransition)
    (hnow : ∀ now epoch, (transition now epoch).now = now)
    (hfence : ∀ now epoch, (transition now epoch).fence = some fence)
    (hwork : ∀ snapshot now, work snapshot now = (transition now recoveryEpoch).apply snapshot)
    (hepoch : ∀ {snapshot now draft},
      (transition now recoveryEpoch).draft snapshot = .ok draft →
      recoveryEpoch = snapshot.job.recoveryEpoch)
    (hrecords : ∀ previous next now,
      Records previous next (transition now previous.job.recoveryEpoch) operation)
    : Lawful (plainMutation work (fun _ => .ok operation) : PolicyMutation evidence)
        (some fence) := by
  apply Lawful.plain
  intro snapshot now worked hok _
  rw [hwork] at hok
  refine ⟨transition now recoveryEpoch, hnow _ _, hfence _ _, hok, ?_⟩
  intro recorded hrecorded
  cases hrecorded
  rw [hepoch (PolicyEvaluationTransition.apply_eq_ok.mp hok).1]
  apply hrecords

theorem lawful_claim (attemptId leaseId workerId : String)
    : @Lawful evidence
        (plainMutation
          (fun snapshot now =>
            claimPolicyEvaluationJob snapshot now recoveryEpoch attemptId leaseId workerId)
          (fun next =>
            match next.job.currentLease with
            | some lease => .ok (.claim lease.mutationFence)
            | none => .error (.other "Claimed job has no lease")))
        none := by
  apply Lawful.plain
  intro snapshot now worked hok _
  have happly : (PolicyEvaluationTransition.claim now recoveryEpoch attemptId leaseId
      workerId).apply snapshot = .ok worked := hok
  obtain ⟨-, fence, hclaims, rfl, rfl, rfl, rfl, rfl⟩ :=
    claimPolicyEvaluationJob.draft_eq_ok (PolicyEvaluationTransition.apply_eq_ok.mp happly).1
  refine ⟨_, rfl, rfl, happly, ?_⟩
  intro recorded hrecorded
  rw [startAttempt_currentLease] at hrecorded
  cases hrecorded
  rw [hclaims.recoveryEpoch]
  apply Records.claim
  rw [startAttempt_currentLease]
  rfl

theorem lawful_heartbeat
    : @Lawful evidence
        (plainMutation
          (fun snapshot now => heartbeatPolicyEvaluationJob snapshot now recoveryEpoch fence)
          (fun _ => .ok (.heartbeat fence)))
        (some fence) := by
  apply Lawful.fenced (fun now epoch => .heartbeat now epoch fence) (fun _ _ => rfl)
    (fun _ _ => rfl) (fun _ _ => rfl)
  . intro snapshot now draft h
    obtain ⟨-, lease, hlive, -⟩ := heartbeatPolicyEvaluationJob.draft_eq_ok h
    exact hlive.recoveryEpoch
  . intro previous next now
    exact .heartbeat now fence

theorem lawful_reserveUsage (reservationId : String) (delta : PolicyEvaluationUsage)
    : @Lawful evidence
        (plainMutation
          (fun snapshot now => reservePolicyEvaluationUsage snapshot now recoveryEpoch fence delta)
          (fun _ => .ok (.reserve fence reservationId delta)))
        (some fence) := by
  apply Lawful.fenced (fun now epoch => .reserveUsage now epoch fence delta) (fun _ _ => rfl)
    (fun _ _ => rfl) (fun _ _ => rfl)
  . intro snapshot now draft h
    obtain ⟨-, ⟨lease, hlive⟩, -⟩ := reservePolicyEvaluationUsage.draft_eq_ok h
    exact hlive.recoveryEpoch
  . intro previous next now
    exact .reserve now fence reservationId delta

theorem lawful_reserveAcquisition (allowanceId : String)
    : @Lawful evidence
        (plainMutation
          (fun snapshot now =>
            reservePolicyEvaluationAcquisition snapshot now recoveryEpoch fence allowanceId)
          (fun _ => .ok (.reserveAcquisition fence allowanceId)))
        (some fence) := by
  apply Lawful.fenced (fun now epoch => .reserveAcquisition now epoch fence allowanceId)
    (fun _ _ => rfl) (fun _ _ => rfl) (fun _ _ => rfl)
  . intro snapshot now draft h
    obtain ⟨-, ⟨lease, hlive⟩, -⟩ := reservePolicyEvaluationAcquisition.draft_eq_ok h
    exact hlive.recoveryEpoch
  . intro previous next now
    exact .reserveAcquisition now fence allowanceId

theorem lawful_settleAcquisition (allowanceId : String)
    (usage : Option PolicyEvaluationAcquisitionUsage)
    : @Lawful evidence
        (plainMutation
          (fun snapshot now =>
            settlePolicyEvaluationAcquisition snapshot now recoveryEpoch fence allowanceId usage)
          (fun _ => .ok (.settleAcquisition fence allowanceId usage)))
        (some fence) := by
  apply Lawful.fenced (fun now epoch => .settleAcquisition now epoch fence allowanceId usage)
    (fun _ _ => rfl) (fun _ _ => rfl) (fun _ _ => rfl)
  . intro snapshot now draft h
    obtain ⟨-, ⟨lease, hlive⟩, -⟩ := settlePolicyEvaluationAcquisition.draft_eq_ok h
    exact hlive.recoveryEpoch
  . intro previous next now
    exact .settleAcquisition now fence allowanceId usage

theorem lawful_startComputation
    : @Lawful evidence
        (plainMutation
          (fun snapshot now => startPolicyEvaluationComputation snapshot now recoveryEpoch fence)
          (fun _ => .ok (.startComputation fence)))
        (some fence) := by
  apply Lawful.fenced (fun now epoch => .startComputation now epoch fence) (fun _ _ => rfl)
    (fun _ _ => rfl) (fun _ _ => rfl)
  . intro snapshot now draft h
    obtain ⟨-, ⟨lease, hlive⟩, -⟩ := startPolicyEvaluationComputation.draft_eq_ok h
    exact hlive.recoveryEpoch
  . intro previous next now
    exact .startComputation now fence

theorem lawful_interrupt (reason : PolicyEvaluationRetryableError)
    : @Lawful evidence
        (plainMutation
          (fun snapshot now => interruptPolicyEvaluationJob snapshot now recoveryEpoch fence reason)
          (fun _ => .ok (.interrupt fence reason)))
        (some fence) := by
  apply Lawful.fenced (fun now epoch => .interrupt now epoch fence reason) (fun _ _ => rfl)
    (fun _ _ => rfl) (fun _ _ => rfl)
  . intro snapshot now draft h
    obtain ⟨-, ⟨lease, hlive⟩, -⟩ := interruptPolicyEvaluationJob.draft_eq_ok h
    exact hlive.recoveryEpoch
  . intro previous next now
    exact .interrupt now fence reason

theorem lawful_cancel (scope : EvidenceScope) (jobId cancellationId principalId : String)
    (reason : PolicyEvaluationCancellationReason)
    : @Lawful evidence (cancelMutation scope jobId cancellationId principalId reason) none := by
  apply Lawful.plain
  intro snapshot now worked hok hversion
  have happly : (PolicyEvaluationTransition.cancel
      { jobId := jobId
        scope := scope
        cancellationId := (snapshot.cancellation.map (·.cancellationId)).getD cancellationId
        requestedAt := now
        requestedByPrincipalId := principalId
        reason := reason }).apply snapshot = .ok worked := hok
  refine ⟨_, rfl, rfl, happly, ?_⟩
  intro recorded hrecorded
  obtain ⟨-, -, -, -, h⟩ :=
    cancelPolicyEvaluationJob.draft_eq_ok.mp (PolicyEvaluationTransition.apply_eq_ok.mp happly).1
  rcases h with ⟨previous, -, -, -, -, rfl⟩ | ⟨-, -, -, -, rfl⟩
  . contradiction
  . cases hrecorded
    apply Records.cancel

theorem lawful_reclaim
    : @Lawful evidence
        (plainMutation
          (fun snapshot now => reclaimPolicyEvaluationJob snapshot now recoveryEpoch)
          (fun _ => .ok .reclaim))
        none := by
  apply Lawful.plain
  intro snapshot now worked hok _
  have happly : (PolicyEvaluationTransition.reclaim now recoveryEpoch).apply snapshot = .ok worked :=
    hok
  refine ⟨_, rfl, rfl, happly, ?_⟩
  intro recorded hrecorded
  cases hrecorded
  obtain ⟨-, hepoch, -⟩ :=
    reclaimPolicyEvaluationJob.draft_eq_ok (PolicyEvaluationTransition.apply_eq_ok.mp happly).1
  rw [hepoch]
  apply Records.reclaim

theorem retryOrFail_recoveryEpoch (snapshot : PolicyEvaluationJobSnapshot)
    (now : PolicyEvaluationTime) (reason : PolicyEvaluationRetryableError)
    : (retryOrFail snapshot now reason).job.recoveryEpoch = snapshot.job.recoveryEpoch := by
  unfold retryOrFail
  dsimp only
  split <;> rfl

variable {now : PolicyEvaluationTime}

theorem recoverPolicyEvaluationJob.recoveryEpoch_of_draft
    {snapshot draft : PolicyEvaluationJobSnapshot}
    (h : recoverPolicyEvaluationJob.draft snapshot now recoveryEpoch = .ok draft)
    : draft = snapshot ∨ draft.job.recoveryEpoch = recoveryEpoch := by
  obtain ⟨-, -, -, -, h⟩ := recoverPolicyEvaluationJob.draft_eq_ok h
  rcases h with ⟨-, hsame⟩ | ⟨-, -, ⟨-, rfl⟩ | rfl | ⟨-, -, rfl⟩ | ⟨-, -, -, rfl⟩⟩
  . exact .inl hsame
  . exact .inr rfl
  . exact .inr rfl
  . exact .inr (retryOrFail_recoveryEpoch _ _ _)
  . exact .inr rfl

theorem lawful_recover
    : @Lawful evidence
        (plainMutation
          (fun snapshot now =>
            if snapshot.job.terminal.isSome ∨ snapshot.job.recoveryEpoch = recoveryEpoch then
              .ok snapshot
            else
              recoverPolicyEvaluationJob snapshot now recoveryEpoch)
          (fun next => .ok (.recovery next.job.recoveryEpoch)))
        none := by
  apply Lawful.plain
  intro snapshot now worked hok hversion
  split at hok
  . cases hok
    contradiction
  . have happly : (PolicyEvaluationTransition.recover now recoveryEpoch).apply snapshot
        = .ok worked := hok
    refine ⟨_, rfl, rfl, happly, ?_⟩
    intro recorded hrecorded
    cases hrecorded
    rcases recoverPolicyEvaluationJob.recoveryEpoch_of_draft
      (PolicyEvaluationTransition.apply_eq_ok.mp happly).1 with rfl | hepoch
    . contradiction
    . rw [hepoch]
      apply Records.recovery

variable {material : PolicyMaterial evidence}

theorem sealMutation_work_eq_ok {pageSet : evidence.PageSet} {principalId : String}
    {reference : PolicyEvaluationSnapshotReference} {snapshot worked : PolicyEvaluationJobSnapshot}
    (h : (sealMutation recoveryEpoch fence pageSet principalId reference).work snapshot now
      = .ok (worked, material))
    : (PolicyEvaluationTransition.sealSnapshot now recoveryEpoch fence reference).apply snapshot
          = .ok worked
        ∧ (∀ sealedInput ∈ material.sealedInput, sealedInput.record.recordedAt = now)
        ∧ material.evaluation = none := by
  simp only [sealMutation, bind_eq_ok, pure_eq_ok, Prod.mk.injEq] at h
  obtain ⟨_, -, _, -, _, -, _, -, _, -, _, hseal, rfl, rfl⟩ := h
  exact ⟨hseal, by simp, rfl⟩

theorem completeMutation_work_eq_ok {evaluationId : String}
    {sealedInput : SealedPolicyInput evidence} {snapshot worked : PolicyEvaluationJobSnapshot}
    (h : (completeMutation recoveryEpoch fence evaluationId sealedInput).work snapshot now
      = .ok (worked, material))
    : ∃ evaluation : evidence.Result,
        (PolicyEvaluationTransition.complete now recoveryEpoch fence
            ⟨evaluationId, evaluation.definitionSha256⟩
            (evidence.ruleCount evaluation.definition)).apply snapshot
          = .ok worked
        ∧ material = { sealedInput := none, evaluation := some evaluation } := by
  simp only [completeMutation, bind_eq_ok] at h
  obtain ⟨_, -, _, -, h⟩ := h
  cases hreference : snapshot.job.snapshot with
  | none =>
    rw [hreference] at h
    contradiction
  | some reference =>
    rw [hreference] at h
    simp only [bind_eq_ok, pure_eq_ok, Prod.mk.injEq] at h
    obtain ⟨_, -, _, -, definition, -, _, -, _, hcomplete, rfl, rfl⟩ := h
    exact ⟨
      { definition := definition
        scope := snapshot.job.scope
        definitionSha256 := evidence.resultDefinitionSha256 snapshot.job.scope definition
        mutationFence := fence
        recordedAt := now
        recordedByPrincipalId := fence.workerId },
      hcomplete, rfl⟩

theorem sealMutation_work_ne {pageSet : evidence.PageSet} {principalId : String}
    {reference : PolicyEvaluationSnapshotReference} {snapshot : PolicyEvaluationJobSnapshot}
    : (sealMutation recoveryEpoch fence pageSet principalId reference).work snapshot now
        ≠ .ok (snapshot, material) := by
  intro h
  have happly := (sealMutation_work_eq_ok h).1
  obtain ⟨-, -, -, -, -, -, -, hsame⟩ :=
    sealPolicyEvaluationJob.draft_eq_ok (PolicyEvaluationTransition.apply_eq_ok.mp happly).1
  have hversion := congrArg (·.job.stateVersion) hsame
  exact Nat.succ_ne_self _ hversion.symm

theorem completeMutation_work_ne {evaluationId : String} {sealedInput : SealedPolicyInput evidence}
    {snapshot : PolicyEvaluationJobSnapshot}
    : (completeMutation recoveryEpoch fence evaluationId sealedInput).work snapshot now
        ≠ .ok (snapshot, material) := by
  intro h
  obtain ⟨evaluation, happly, -⟩ := completeMutation_work_eq_ok h
  obtain ⟨-, -, -, -, -, -, hsame⟩ :=
    completePolicyEvaluationJob.draft_eq_ok (PolicyEvaluationTransition.apply_eq_ok.mp happly).1
  have hversion := congrArg (·.job.stateVersion) hsame
  exact Nat.succ_ne_self _ hversion.symm

theorem lawful_seal (pageSet : evidence.PageSet) (principalId : String)
    (reference : PolicyEvaluationSnapshotReference)
    : Lawful (sealMutation recoveryEpoch fence pageSet principalId reference) (some fence) := by
  intro snapshot now worked material hwork _
  obtain ⟨happly, hsealed, hevaluation⟩ := sealMutation_work_eq_ok hwork
  refine ⟨_, rfl, rfl, happly, ?_, hsealed, by simp [hevaluation]⟩
  intro recorded hrecorded
  cases hrecorded
  obtain ⟨-, ⟨lease, hlive⟩, -⟩ :=
    sealPolicyEvaluationJob.draft_eq_ok (PolicyEvaluationTransition.apply_eq_ok.mp happly).1
  rw [hlive.recoveryEpoch]
  apply Records.seal

theorem lawful_complete (evaluationId : String) (sealedInput : SealedPolicyInput evidence)
    : Lawful (completeMutation recoveryEpoch fence evaluationId sealedInput) (some fence) := by
  intro snapshot now worked material hwork _
  obtain ⟨evaluation, happly, rfl⟩ := completeMutation_work_eq_ok hwork
  obtain ⟨-, ⟨lease, hlive⟩, -, -, -, -, rfl⟩ :=
    completePolicyEvaluationJob.draft_eq_ok (PolicyEvaluationTransition.apply_eq_ok.mp happly).1
  refine ⟨_, rfl, rfl, happly, ?_, by simp, fun _ => rfl⟩
  intro recorded hrecorded
  have hoperation : PolicyEvaluationJobHistoryOperation.complete fence
      ⟨evaluationId, evaluation.definitionSha256⟩ (evidence.ruleCount evaluation.definition)
      = recorded := Except.ok.inj hrecorded
  rw [← hoperation, hlive.recoveryEpoch]
  apply Records.complete

end Mutation

section Prepare

variable {store : PolicyEvaluationJobStore evidence} {scope : EvidenceScope} {id : String}
variable {clock : PolicyEvaluationClock} {mutation : PolicyMutation evidence}
variable {snapshot worked result : PolicyEvaluationJobSnapshot} {now : PolicyEvaluationTime}
variable {material : PolicyMaterial evidence} {operation : PolicyEvaluationJobHistoryOperation}

theorem transitionOutput_eq_ok
    : transitionOutput evidence scope id mutation snapshot now worked material
          = .ok (result, operation)
        ↔ (historyExhausted worked
              ∧ exhaustPolicyEvaluationJobHistory snapshot now = .ok result
              ∧ Recorded evidence.toPolicyEvaluationCodec result
              ∧ result.job.jobId = id
              ∧ result.job.scope = scope
              ∧ operation = .historyLimit)
            ∨ (¬historyExhausted worked
                ∧ mutation.operation worked material = .ok operation
                ∧ result = worked) := by
  unfold transitionOutput
  split
  . next hexhausted =>
    simp only [bind_eq_ok, inspect_eq_ok, pure_eq_ok, Prod.mk.injEq, hexhausted, true_and,
      not_true_eq_false, false_and, or_false]
    constructor
    . rintro ⟨exhausted, hexhaust, _, ⟨hrecorded, hid, hscope, rfl⟩, rfl, rfl⟩
      exact ⟨hexhaust, hrecorded, hid, hscope, rfl⟩
    . rintro ⟨hexhaust, hrecorded, hid, hscope, rfl⟩
      exact ⟨result, hexhaust, result, ⟨hrecorded, hid, hscope, rfl⟩, rfl, rfl⟩
  . next hexhausted =>
    simp only [bind_eq_ok, pure_eq_ok, Prod.mk.injEq, hexhausted, false_and, not_false_eq_true,
      true_and, false_or]
    constructor
    . rintro ⟨_, hoperation, rfl, rfl⟩
      exact ⟨hoperation, rfl⟩
    . rintro ⟨hoperation, rfl⟩
      exact ⟨operation, hoperation, rfl, rfl⟩

def extended (stored : StoredPolicyJob evidence) (material : PolicyMaterial evidence)
    (result : PolicyEvaluationJobSnapshot) (entry : PolicyEvaluationJobHistoryEntry)
    : StoredPolicyJob evidence :=
  extendStored stored material result entry (outboxIntents (some stored.snapshot) result)

structure Prepares (store : PolicyEvaluationJobStore evidence) (scope : EvidenceScope) (id : String)
    (clock : PolicyEvaluationClock) (mutation : PolicyMutation evidence)
    (stored : StoredPolicyJob evidence) (now : PolicyEvaluationTime)
    (worked : PolicyEvaluationJobSnapshot) (material : PolicyMaterial evidence)
    (result : PolicyEvaluationJobSnapshot) (operation : PolicyEvaluationJobHistoryOperation)
    (entry : PolicyEvaluationJobHistoryEntry) : Prop where
  output :
    transitionOutput evidence scope id mutation stored.snapshot now worked material
      = .ok (result, operation)
  created :
    createPolicyEvaluationJobHistoryEntry evidence.toPolicyEvaluationCodec
        (some (stored.snapshot, stored.latest)) result operation
      = .ok entry
  replayed :
    ∃ next,
      replayPolicyEvaluationJobHistoryEntry evidence.toPolicyEvaluationCodec stored.snapshot entry
        = .ok next
  recorded : Recorded evidence.toPolicyEvaluationCodec result
  inspected : Inspected (extended stored material result entry) scope id
  checked : checkEvaluation (extended stored material result entry) result = .ok ()
  committed : checkCommit store stored.snapshot now clock.commit mutation.commitFence = .ok ()

theorem prepare_eq_ok {pending : Option (JobKey × StoredPolicyJob evidence)}
    : prepare store scope id clock mutation = .ok (result, pending, material)
        ↔ ∃ stored now worked,
            Opened store scope id stored
              ∧ clock.work = some now
              ∧ mutation.work stored.snapshot now = .ok (worked, material)
              ∧ Recorded evidence.toPolicyEvaluationCodec worked
              ∧ worked.job.jobId = id
              ∧ worked.job.scope = scope
              ∧ ((worked = stored.snapshot ∧ result = worked ∧ pending = none)
                  ∨ (worked.job.stateVersion ≠ stored.snapshot.job.stateVersion
                      ∧ ∃ operation entry,
                          Prepares store scope id clock mutation stored now worked material result
                              operation entry
                            ∧ pending
                                = some ((scope, id), extended stored material result entry))) := by
  unfold prepare
  simp only [bind_eq_ok, read_eq_ok, parseTime_eq_ok, inspect_eq_ok]
  constructor
  . rintro ⟨_, ⟨stored, hopened, rfl⟩, now, hclock, ⟨worked, _⟩, hwork, _,
      ⟨hrecorded, hid, hscope, rfl⟩, h⟩
    dsimp only at hwork hrecorded hid hscope h
    split at h
    . simp only [bind_eq_ok, failIf_eq_ok, pure_eq_ok, Prod.mk.injEq, exists_const, not_not,
        ne_eq] at h
      obtain ⟨hsame, rfl, rfl, rfl⟩ := h
      exact ⟨stored, now, _, hopened, hclock, hwork, hrecorded, hid, hscope, .inl ⟨hsame, rfl, rfl⟩⟩
    . next hversion =>
      simp only [bind_eq_ok, buildPolicyEvaluationJobOutboxIntents_eq_ok, inspectStored_eq_ok,
        pure_eq_ok, Prod.mk.injEq] at h
      obtain ⟨⟨_, operation⟩, houtput, entry, hentry, replayed, hreplay, _, ⟨hresult, rfl⟩, _,
        ⟨hinspected, -⟩, ⟨⟩, hchecked, ⟨⟩, hcommitted, rfl, rfl, rfl⟩ := h
      refine ⟨stored, now, worked, hopened, hclock, hwork, hrecorded, hid, hscope, .inr ⟨hversion, ?_⟩⟩
      exact ⟨operation, entry,
        ⟨houtput, hentry, ⟨replayed, hreplay⟩, hresult, hinspected, hchecked, hcommitted⟩, rfl⟩
  . rintro ⟨stored, now, worked, hopened, hclock, hwork, hrecorded, hid, hscope, h⟩
    refine ⟨_, ⟨stored, hopened, rfl⟩, now, hclock, _, hwork, _, ⟨hrecorded, hid, hscope, rfl⟩, ?_⟩
    dsimp only
    rcases h with ⟨rfl, rfl, rfl⟩ | ⟨hversion, operation, entry, hprepares, rfl⟩
    . simp [failIf]
    . rw [if_neg hversion]
      simp only [bind_eq_ok, buildPolicyEvaluationJobOutboxIntents_eq_ok, inspectStored_eq_ok,
        pure_eq_ok, Prod.mk.injEq]
      obtain ⟨replayed, hreplay⟩ := hprepares.replayed
      exact ⟨_, hprepares.output, entry, hprepares.created, replayed, hreplay, _,
        ⟨hprepares.recorded, rfl⟩, _, ⟨hprepares.inspected, rfl⟩, (), hprepares.checked, (),
        hprepares.committed, rfl, rfl, trivial⟩

structure Committed (fence : Option PolicyEvaluationWorkerMutationFence) (scope : EvidenceScope)
    (id : String) (now : PolicyEvaluationTime) (stored next : StoredPolicyJob evidence)
    : Prop where
  before : Inspected stored scope id
  after : Inspected next scope id
  step : Step stored.snapshot next.snapshot now
  leaseStep : LeaseStep stored.snapshot.job next.snapshot.job
  live : ∀ current ∈ fence, ∃ epoch lease, Live stored.snapshot.job now epoch current lease
  lastFencingToken :
    fence.isSome →
    next.snapshot.job.lastFencingToken = stored.snapshot.job.lastFencingToken
  replay :
    replayPolicyEvaluationJobHistoryEntry evidence.toPolicyEvaluationCodec stored.snapshot
        next.latest
      = .ok next.snapshot
  pages :
    next.pages
      = Log.append stored.pages (pageOf next.latest.definition.sequence) next.latest
  outbox : next.outbox = stored.outbox ++ outboxIntents (some stored.snapshot) next.snapshot
  sealedInput :
    next.sealedInput = stored.sealedInput
      ∨ ∀ sealedInput ∈ next.sealedInput, sealedInput.record.recordedAt = now
  evaluation : next.evaluation = stored.evaluation ∨ next.snapshot.job.terminal.isSome
  full :
    next.snapshot.job.stateVersion = maxPolicyEvaluationJobHistoryEntries →
    next.snapshot.job.terminal.isSome

theorem Works.output {fence : Option PolicyEvaluationWorkerMutationFence}
    {transition : PolicyEvaluationTransition}
    (h : Works mutation fence snapshot now worked material transition)
    (houtput : transitionOutput evidence scope id mutation snapshot now worked material
      = .ok (result, operation))
    : (∃ transition : PolicyEvaluationTransition,
          transition.now = now
            ∧ transition.apply snapshot = .ok result
            ∧ Records snapshot result transition operation)
        ∧ (fence.isSome → result.job.lastFencingToken = snapshot.job.lastFencingToken)
        ∧ (material.evaluation.isSome → result.job.terminal.isSome)
        ∧ (result.job.stateVersion = maxPolicyEvaluationJobHistoryEntries →
            result.job.terminal.isSome) := by
  rw [transitionOutput_eq_ok] at houtput
  rcases houtput with ⟨hexhausted, hexhaust, -, -, -, rfl⟩ | ⟨hexhausted, hoperation, rfl⟩
  . have happly : (PolicyEvaluationTransition.exhaustHistory now).apply snapshot = .ok result :=
      hexhaust
    have hdraft := (PolicyEvaluationTransition.apply_eq_ok.mp happly).1
    have htoken := PolicyEvaluationTransition.draft_lastFencingToken (by simp) hdraft
    obtain ⟨-, -, -, -, rfl⟩ := exhaustPolicyEvaluationJobHistory.draft_eq_ok hdraft
    exact ⟨⟨_, rfl, happly, .historyLimit now⟩, fun _ => htoken, fun _ => rfl, fun _ => rfl⟩
  . refine ⟨⟨transition, h.now_eq, h.apply, h.records _ hoperation⟩, ?_, h.evaluation, ?_⟩
    . intro hfence
      apply PolicyEvaluationTransition.draft_lastFencingToken _
        (PolicyEvaluationTransition.apply_eq_ok.mp h.apply).1
      rintro now epoch attemptId leaseId workerId rfl
      rw [← h.fence_eq] at hfence
      contradiction
    . intro hversion
      by_contra hterminal
      apply hexhausted
      exact ⟨by simpa using hterminal, hversion⟩

theorem Prepares.committed_of_lawful {stored : StoredPolicyJob evidence}
    {fence : Option PolicyEvaluationWorkerMutationFence}
    {entry : PolicyEvaluationJobHistoryEntry} (hlawful : Lawful mutation fence)
    (hstored : Inspected stored scope id)
    (hwork : mutation.work stored.snapshot now = .ok (worked, material))
    (hversion : worked.job.stateVersion ≠ stored.snapshot.job.stateVersion)
    (h : Prepares store scope id clock mutation stored now worked material result operation entry)
    : Committed fence scope id now stored (extended stored material result entry) := by
  obtain ⟨working, hworks⟩ := hlawful hwork hversion
  obtain ⟨⟨transition, rfl, happly, hrecords⟩, htoken, hevaluation, hfull⟩ :=
    hworks.output h.output
  have hdraft := (PolicyEvaluationTransition.apply_eq_ok.mp happly).1
  have hcreated := createPolicyEvaluationJobHistoryEntry_some_eq_ok.mp h.created
  have hcontinues : result.job.stateVersion = stored.snapshot.job.stateVersion + 1 :=
    hcreated.2.2.2.1.2.2.2.2.2.2.2
  have hstep : Step stored.snapshot result transition.now := by
    rcases PolicyEvaluationTransition.draft_step hdraft with rfl | hstep
    . omega
    . exact hstep
  constructor
  . exact hstored
  . exact h.inspected
  . exact hstep
  . exact PolicyEvaluationTransition.draft_leaseStep hdraft
  . intro current hcurrent
    rw [← hworks.now_eq]
    exact PolicyEvaluationTransition.draft_live (hworks.fence_eq.trans hcurrent)
      (PolicyEvaluationTransition.apply_eq_ok.mp hworks.apply).1
  . exact htoken
  . exact replay_of_records hstep happly hrecords h.created
  . rfl
  . rfl
  . show material.sealedInput.or stored.sealedInput = _ ∨ _
    cases hmaterial : material.sealedInput with
    | none => exact .inl rfl
    | some sealedInput =>
      right
      intro sealedInput' hmem
      apply hworks.sealedInput
      rw [hmaterial]
      have hnext : (extended stored material result entry).sealedInput = some sealedInput := by
        show material.sealedInput.or stored.sealedInput = _
        rw [hmaterial]
        rfl
      rwa [hnext] at hmem
  . show material.evaluation.or stored.evaluation = _ ∨ _
    cases hmaterial : material.evaluation with
    | none => exact .inl rfl
    | some evaluation =>
      right
      apply hevaluation
      rw [hmaterial]
      rfl
  . exact hfull

end Prepare

end Policy
end ProofStack
