import Mathlib.Data.List.ModifyLast
import ProofStack.Policy.SchedulerLemmas

/-!
This module contains what a scheduler transition can do to a snapshot, as a relation between the snapshot
before and the snapshot after it.
-/

namespace ProofStack
namespace Policy

open PolicyEvaluationTime PolicyEvaluationJobSnapshot

structure SameIdentity (before after : PolicyEvaluationJob) : Prop where
  definition :
    after.toPolicyEvaluationJobDefinition = before.toPolicyEvaluationJobDefinition
  definitionSha256 : after.definitionSha256 = before.definitionSha256
  scope : after.scope = before.scope
  createdAt : after.createdAt = before.createdAt
  createdByPrincipalId : after.createdByPrincipalId = before.createdByPrincipalId
  deadlineAt : after.deadlineAt = before.deadlineAt

inductive AttemptStep (before : PolicyEvaluationAttempt) : PolicyEvaluationAttempt → Prop where
  | close (closure : PolicyEvaluationClosure) (usage : PolicyEvaluationUsage)
    (hopen : before.closure = none)
    : AttemptStep before { before with closure := some closure, usageAtClose := some usage }
  | sealInput (reference : PolicyEvaluationSnapshotReference) (hopen : before.closure = none)
    (hunsealed : before.snapshot = none)
    : AttemptStep before { before with phase := .computing, snapshot := some reference }

inductive AttemptsStep : List PolicyEvaluationAttempt → List PolicyEvaluationAttempt → Prop where
  | same (attempts : List PolicyEvaluationAttempt) : AttemptsStep attempts attempts
  | start (attempts : List PolicyEvaluationAttempt) (attempt : PolicyEvaluationAttempt)
    : AttemptsStep attempts (attempts ++ [attempt])
  | change (attempts : List PolicyEvaluationAttempt) {before after : PolicyEvaluationAttempt}
    (h : AttemptStep before after)
    : AttemptsStep (attempts ++ [before]) (attempts ++ [after])

structure Step (before after : PolicyEvaluationJobSnapshot) (now : PolicyEvaluationTime)
    : Prop where
  request : after.request = before.request
  identity : SameIdentity before.job after.job
  terminal : before.job.terminal = none
  stateVersion : after.job.stateVersion = before.job.stateVersion + 1
  updatedAt : after.job.updatedAt = now
  updated_le : before.job.updatedAt.orderKey ≤ now.orderKey
  recoveryEpoch_le : before.job.recoveryEpoch ≤ after.job.recoveryEpoch
  usage_le : before.usage ≤ after.usage
  snapshot : before.job.snapshot.isSome → after.job.snapshot = before.job.snapshot
  cancellation :
    after.cancellation = before.cancellation
      ∨ (before.cancellation = none ∧ after.job.terminal.isSome)
  attempts : AttemptsStep before.attempts after.attempts

structure Closing (before after : PolicyEvaluationJobSnapshot) (now : PolicyEvaluationTime)
    (closure : PolicyEvaluationClosure) : Prop where
  request : after.request = before.request
  identity : SameIdentity before.job after.job
  stateVersion : after.job.stateVersion = before.job.stateVersion + 1
  updatedAt : after.job.updatedAt = now
  recoveryEpoch_le : before.job.recoveryEpoch ≤ after.job.recoveryEpoch
  lastFencingToken : after.job.lastFencingToken = before.job.lastFencingToken
  attemptCount : after.job.attemptCount = before.job.attemptCount
  currentLease : after.job.currentLease = none
  snapshot : after.job.snapshot = before.job.snapshot
  usage : after.usage = (chargeUncertainPolicyEvaluationAcquisition before).usage
  allowance : after.allowance = none
  attempts : after.attempts = before.attempts.modifyLast (closeAttempt after.usage closure)

section Closing

variable {before after : PolicyEvaluationJobSnapshot} {now : PolicyEvaluationTime}
variable {closure : PolicyEvaluationClosure}

theorem chargeUncertain_job (snapshot : PolicyEvaluationJobSnapshot)
    : (chargeUncertainPolicyEvaluationAcquisition snapshot).job = snapshot.job := by
  unfold chargeUncertainPolicyEvaluationAcquisition
  cases snapshot.allowance <;> rfl

theorem chargeUncertain_request (snapshot : PolicyEvaluationJobSnapshot)
    : (chargeUncertainPolicyEvaluationAcquisition snapshot).request = snapshot.request := by
  unfold chargeUncertainPolicyEvaluationAcquisition
  cases snapshot.allowance <;> rfl

theorem chargeUncertain_attempts (snapshot : PolicyEvaluationJobSnapshot)
    : (chargeUncertainPolicyEvaluationAcquisition snapshot).attempts = snapshot.attempts := by
  unfold chargeUncertainPolicyEvaluationAcquisition
  cases snapshot.allowance <;> rfl

theorem chargeUncertain_cancellation (snapshot : PolicyEvaluationJobSnapshot)
    : (chargeUncertainPolicyEvaluationAcquisition snapshot).cancellation
        =
      snapshot.cancellation := by
  unfold chargeUncertainPolicyEvaluationAcquisition
  cases snapshot.allowance <;> rfl

theorem chargeUncertain_allowance (snapshot : PolicyEvaluationJobSnapshot)
    : (chargeUncertainPolicyEvaluationAcquisition snapshot).allowance = none := by
  unfold chargeUncertainPolicyEvaluationAcquisition
  cases h : snapshot.allowance with
  | none => exact h
  | some allowance => rfl

theorem le_chargeUncertain_usage (snapshot : PolicyEvaluationJobSnapshot)
    : snapshot.usage ≤ (chargeUncertainPolicyEvaluationAcquisition snapshot).usage := by
  unfold chargeUncertainPolicyEvaluationAcquisition
  cases snapshot.allowance with
  | none => exact le_refl _
  | some allowance =>
    rw [PolicyEvaluationUsage.le_iff]
    simp [charge]

@[simp]
theorem closeUncertain_job (snapshot : PolicyEvaluationJobSnapshot)
    (closure : PolicyEvaluationClosure)
    : (closeUncertain snapshot closure).job = snapshot.job :=
  chargeUncertain_job snapshot

@[simp]
theorem closeUncertain_request (snapshot : PolicyEvaluationJobSnapshot)
    (closure : PolicyEvaluationClosure)
    : (closeUncertain snapshot closure).request = snapshot.request :=
  chargeUncertain_request snapshot

@[simp]
theorem closeUncertain_cancellation (snapshot : PolicyEvaluationJobSnapshot)
    (closure : PolicyEvaluationClosure)
    : (closeUncertain snapshot closure).cancellation = snapshot.cancellation :=
  chargeUncertain_cancellation snapshot

theorem closeUncertain_attempts (snapshot : PolicyEvaluationJobSnapshot)
    (closure : PolicyEvaluationClosure)
    : (closeUncertain snapshot closure).attempts
        =
      snapshot.attempts.modifyLast
        (closeAttempt (chargeUncertainPolicyEvaluationAcquisition snapshot).usage closure) := by
  unfold closeUncertain closeLatest
  dsimp
  rw [chargeUncertain_attempts]

variable {recoveryEpoch : Nat}

theorem terminate_closing (before : PolicyEvaluationJobSnapshot) (now : PolicyEvaluationTime)
    (closure : PolicyEvaluationClosure)
    (hepoch : before.job.recoveryEpoch ≤ recoveryEpoch)
    (status : PolicyEvaluationJobTerminalStatus) (code : PolicyEvaluationJobTerminalCode)
    : Closing before
        (terminate (advanceEpoch (closeUncertain before closure) recoveryEpoch) now status code)
        now closure where
  request := closeUncertain_request before closure
  identity := by
    constructor <;> simp [terminate, advanceEpoch, touch]
  stateVersion := by simp [terminate, advanceEpoch, touch]
  updatedAt := rfl
  recoveryEpoch_le := hepoch
  lastFencingToken := by simp [terminate, advanceEpoch, touch]
  attemptCount := by simp [terminate, advanceEpoch, touch]
  currentLease := rfl
  snapshot := by simp [terminate, advanceEpoch, touch]
  usage := rfl
  allowance := chargeUncertain_allowance before
  attempts := closeUncertain_attempts before closure

theorem retryOrFail_closing (before : PolicyEvaluationJobSnapshot) (now : PolicyEvaluationTime)
    (closure : PolicyEvaluationClosure)
    (hepoch : before.job.recoveryEpoch ≤ recoveryEpoch) (reason : PolicyEvaluationRetryableError)
    : Closing before
        (retryOrFail (advanceEpoch (closeUncertain before closure) recoveryEpoch) now reason)
        now closure := by
  unfold retryOrFail
  dsimp only
  split
  . apply terminate_closing
    exact hepoch
  . constructor
    . exact closeUncertain_request before closure
    . constructor <;> simp [advanceEpoch, touch]
    . simp [advanceEpoch, touch]
    . rfl
    . exact hepoch
    . simp [advanceEpoch, touch]
    . simp [advanceEpoch, touch]
    . rfl
    . simp [advanceEpoch, touch]
    . rfl
    . exact chargeUncertain_allowance before
    . exact closeUncertain_attempts before closure

theorem recoverIdle_closing (before : PolicyEvaluationJobSnapshot) (now : PolicyEvaluationTime)
    (closure : PolicyEvaluationClosure)
    (hepoch : before.job.recoveryEpoch ≤ recoveryEpoch)
    (hlease : before.job.currentLease = none) (retryAt : Option PolicyEvaluationTime)
    : Closing before
        { advanceEpoch (closeUncertain before closure) recoveryEpoch with
          job := {
            touch (advanceEpoch (closeUncertain before closure) recoveryEpoch).job now with
            retryAt := retryAt } }
        now closure where
  request := closeUncertain_request before closure
  identity := by
    constructor <;> simp [advanceEpoch, touch]
  stateVersion := by simp [advanceEpoch, touch]
  updatedAt := rfl
  recoveryEpoch_le := hepoch
  lastFencingToken := by simp [advanceEpoch, touch]
  attemptCount := by simp [advanceEpoch, touch]
  currentLease := by simp [advanceEpoch, touch, hlease]
  snapshot := by simp [advanceEpoch, touch]
  usage := rfl
  allowance := chargeUncertain_allowance before
  attempts := closeUncertain_attempts before closure

theorem cancelledWith_closing (before : PolicyEvaluationJobSnapshot)
    (intent : PolicyEvaluationCancellation)
    : Closing before (cancelledWith before intent) intent.requestedAt
        (.ended .cancelled .cancellationCommitted intent.requestedAt) := by
  constructor
  . exact closeUncertain_request before
      (.ended .cancelled .cancellationCommitted intent.requestedAt)
  . constructor <;> simp [cancelledWith, terminate, touch]
  . simp [cancelledWith, terminate, touch]
  . rfl
  . simp [cancelledWith, terminate, touch]
  . simp [cancelledWith, terminate, touch]
  . simp [cancelledWith, terminate, touch]
  . rfl
  . simp [cancelledWith, terminate, touch]
  . rfl
  . exact chargeUncertain_allowance before
  . exact closeUncertain_attempts before _

theorem completedWith_closing {before : PolicyEvaluationJobSnapshot}
    (hallowance : before.allowance = none) (now : PolicyEvaluationTime)
    (result : PolicyEvaluationResultReference)
    : Closing before (completedWith before now result) now (.completed now) where
  request := rfl
  identity := by
    constructor <;> rfl
  stateVersion := rfl
  updatedAt := rfl
  recoveryEpoch_le := Nat.le_refl _
  lastFencingToken := rfl
  attemptCount := rfl
  currentLease := rfl
  snapshot := rfl
  usage := by
    rw [chargeUncertain_of_none hallowance]
    rfl
  allowance := hallowance
  attempts := rfl

theorem closeAttempt_cases (usage : PolicyEvaluationUsage) (closure : PolicyEvaluationClosure)
    (attempt : PolicyEvaluationAttempt)
    : closeAttempt usage closure attempt = attempt
        ∨ AttemptStep attempt (closeAttempt usage closure attempt) := by
  unfold closeAttempt
  split
  . next hopen => exact .inr (.close closure usage hopen)
  . exact .inl rfl

theorem attemptsStep_modifyLast_closeAttempt (usage : PolicyEvaluationUsage)
    (closure : PolicyEvaluationClosure) (attempts : List PolicyEvaluationAttempt)
    : AttemptsStep attempts (attempts.modifyLast (closeAttempt usage closure)) := by
  cases attempts using List.reverseRecOn with
  | nil => exact .same []
  | append_singleton attempts attempt =>
    rw [List.modifyLast_concat]
    rcases closeAttempt_cases usage closure attempt with heq | hstep
    . rw [heq]
      exact .same _
    . exact .change attempts hstep

theorem Closing.step (h : Closing before after now closure) (hterminal : before.job.terminal = none)
    (hupdated : before.job.updatedAt.orderKey ≤ now.orderKey)
    (hcancellation : after.cancellation = before.cancellation
      ∨ (before.cancellation = none ∧ after.job.terminal.isSome))
    : Step before after now where
  request := h.request
  identity := h.identity
  terminal := hterminal
  stateVersion := h.stateVersion
  updatedAt := h.updatedAt
  updated_le := hupdated
  recoveryEpoch_le := h.recoveryEpoch_le
  usage_le := by
    rw [h.usage]
    exact le_chargeUncertain_usage before
  snapshot := by
    intro _
    exact h.snapshot
  cancellation := hcancellation
  attempts := by
    rw [h.attempts]
    exact attemptsStep_modifyLast_closeAttempt _ _ _

end Closing

section Transition

variable {snapshot draft : PolicyEvaluationJobSnapshot} {now : PolicyEvaluationTime}
variable {recoveryEpoch : Nat} {fence : PolicyEvaluationWorkerMutationFence}

theorem terminal_eq_none_of_leased (hs : snapshot.Accepted)
    (hleased : snapshot.job.status.isLeased = true)
    : snapshot.job.terminal = none := by
  have h := (accepted_iff.mp hs).job.isTerminal
  cases hstatus : snapshot.job.status <;> simp_all [PolicyEvaluationJobStatus.isLeased,
    PolicyEvaluationJobStatus.isTerminal]

variable {lease : PolicyEvaluationLease}

theorem Live.terminal (hs : snapshot.Accepted)
    (h : Live snapshot.job now recoveryEpoch fence lease)
    : snapshot.job.terminal = none :=
  terminal_eq_none_of_leased hs h.isLeased

theorem touch_step (hterminal : snapshot.job.terminal = none)
    (hupdated : snapshot.job.updatedAt.orderKey ≤ now.orderKey)
    (usage : PolicyEvaluationUsage) (husage : snapshot.usage ≤ usage)
    (allowance : Option (Option PolicyEvaluationAcquisitionAllowance))
    : Step snapshot
        { snapshot with
          usage := usage
          acquisitionAllowance := allowance
          job := touch snapshot.job now }
        now where
  request := rfl
  identity := by
    constructor <;> rfl
  terminal := hterminal
  stateVersion := rfl
  updatedAt := rfl
  updated_le := hupdated
  recoveryEpoch_le := Nat.le_refl _
  usage_le := husage
  snapshot := by
    intro _
    rfl
  cancellation := .inl rfl
  attempts := .same _

theorem startAttempt_step (hs : snapshot.Accepted) (h : Claims snapshot now fence)
    : Step snapshot (startAttempt snapshot now fence) now where
  request := rfl
  identity := by
    constructor <;> rfl
  terminal := by
    have := (accepted_iff.mp hs).job.isTerminal
    rcases h.status with hstatus | hstatus <;> simp_all [PolicyEvaluationJobStatus.isTerminal]
  stateVersion := rfl
  updatedAt := rfl
  updated_le := h.updated_le
  recoveryEpoch_le := Nat.le_refl _
  usage_le := le_refl _
  snapshot := by
    intro _
    rfl
  cancellation := .inl rfl
  attempts := .start _ _

theorem renewLease_step (hs : snapshot.Accepted)
    (h : Live snapshot.job now recoveryEpoch fence lease)
    : Step snapshot (renewLease snapshot now lease) now where
  request := rfl
  identity := by
    constructor <;> rfl
  terminal := h.terminal hs
  stateVersion := rfl
  updatedAt := rfl
  updated_le := h.updated_le
  recoveryEpoch_le := Nat.le_refl _
  usage_le := le_refl _
  snapshot := by
    intro _
    rfl
  cancellation := .inl rfl
  attempts := .same _

theorem seal_step {reference : PolicyEvaluationSnapshotReference}
    (hs : snapshot.Accepted) (h : Live snapshot.job now recoveryEpoch fence lease)
    (hunsealed : snapshot.job.snapshot = none)
    (hlatest : ∃ latest ∈ snapshot.latest,
      latest.closure = none ∧ latest.phase = .acquiring ∧ latest.snapshot = none)
    : Step snapshot
        { snapshot with
          attempts :=
            snapshot.attempts.modifyLast (fun latest =>
              { latest with phase := .computing, snapshot := some reference })
          job := { touch snapshot.job now with snapshot := some reference, status := .sealed } }
        now where
  request := rfl
  identity := by
    constructor <;> rfl
  terminal := h.terminal hs
  stateVersion := rfl
  updatedAt := rfl
  updated_le := h.updated_le
  recoveryEpoch_le := Nat.le_refl _
  usage_le := le_refl _
  snapshot := by
    simp [hunsealed]
  cancellation := .inl rfl
  attempts := by
    rcases hlatest with ⟨latest, hmem, hopen, -, hsnapshot⟩
    unfold PolicyEvaluationJobSnapshot.latest at hmem
    rw [Option.mem_def, List.getLast?_eq_some_iff] at hmem
    rcases hmem with ⟨attempts, hattempts⟩
    dsimp only
    rw [hattempts, List.modifyLast_concat]
    exact .change attempts (.sealInput reference hopen hsnapshot)

theorem start_step (hs : snapshot.Accepted)
    (h : Live snapshot.job now recoveryEpoch fence lease)
    : Step snapshot { snapshot with job := { touch snapshot.job now with status := .running } }
        now where
  request := rfl
  identity := by
    constructor <;> rfl
  terminal := h.terminal hs
  stateVersion := rfl
  updatedAt := rfl
  updated_le := h.updated_le
  recoveryEpoch_le := Nat.le_refl _
  usage_le := le_refl _
  snapshot := by
    intro _
    rfl
  cancellation := .inl rfl
  attempts := .same _

theorem terminate_step (hterminal : snapshot.job.terminal = none)
    (hupdated : snapshot.job.updatedAt.orderKey ≤ now.orderKey)
    (closure : PolicyEvaluationClosure) {recoveryEpoch : Nat}
    (hepoch : snapshot.job.recoveryEpoch ≤ recoveryEpoch)
    (status : PolicyEvaluationJobTerminalStatus) (code : PolicyEvaluationJobTerminalCode)
    : Step snapshot
        (terminate (advanceEpoch (closeUncertain snapshot closure) recoveryEpoch) now status code)
        now := by
  apply (terminate_closing snapshot now closure hepoch status code).step hterminal hupdated
  left
  exact closeUncertain_cancellation snapshot closure

theorem retryOrFail_cancellation (snapshot : PolicyEvaluationJobSnapshot)
    (now : PolicyEvaluationTime) (reason : PolicyEvaluationRetryableError)
    : (retryOrFail snapshot now reason).cancellation = snapshot.cancellation := by
  unfold retryOrFail
  dsimp only
  split <;> rfl

theorem retryOrFail_step (hterminal : snapshot.job.terminal = none)
    (hupdated : snapshot.job.updatedAt.orderKey ≤ now.orderKey)
    (closure : PolicyEvaluationClosure) {recoveryEpoch : Nat}
    (hepoch : snapshot.job.recoveryEpoch ≤ recoveryEpoch) (reason : PolicyEvaluationRetryableError)
    : Step snapshot
        (retryOrFail (advanceEpoch (closeUncertain snapshot closure) recoveryEpoch) now reason)
        now := by
  apply (retryOrFail_closing snapshot now closure hepoch reason).step hterminal hupdated
  left
  rw [retryOrFail_cancellation]
  exact closeUncertain_cancellation snapshot closure

theorem advanceEpoch_closeUncertain_self (snapshot : PolicyEvaluationJobSnapshot)
    (closure : PolicyEvaluationClosure)
    : advanceEpoch (closeUncertain snapshot closure) snapshot.job.recoveryEpoch
        =
      closeUncertain snapshot closure := by
  unfold advanceEpoch
  rw [← closeUncertain_job snapshot closure]

end Transition

namespace PolicyEvaluationTransition

theorem draft_step {transition : PolicyEvaluationTransition}
    {snapshot draft : PolicyEvaluationJobSnapshot} (h : transition.draft snapshot = .ok draft)
    : draft = snapshot ∨ Step snapshot draft transition.now := by
  cases transition with
  | claim now epoch attemptId leaseId workerId =>
    obtain ⟨hs, fence, hclaims, -, -, -, -, rfl⟩ := claimPolicyEvaluationJob.draft_eq_ok h
    exact .inr (startAttempt_step hs hclaims)
  | heartbeat now epoch fence =>
    obtain ⟨hs, lease, hlive, -, -, rfl⟩ := heartbeatPolicyEvaluationJob.draft_eq_ok h
    exact .inr (renewLease_step hs hlive)
  | reserveUsage now epoch fence delta =>
    obtain ⟨hs, ⟨lease, hlive⟩, -, -, -, rfl⟩ := reservePolicyEvaluationUsage.draft_eq_ok h
    right
    apply touch_step (hlive.terminal hs) hlive.updated_le
    rw [PolicyEvaluationUsage.le_iff]
    simp [PolicyEvaluationUsage.add]
  | reserveAcquisition now epoch fence allowanceId =>
    obtain ⟨hs, ⟨lease, hlive⟩, -, -, -, -, -, rfl⟩ :=
      reservePolicyEvaluationAcquisition.draft_eq_ok h
    right
    exact touch_step (hlive.terminal hs) hlive.updated_le _ (le_refl _) _
  | settleAcquisition now epoch fence allowanceId usage =>
    obtain ⟨hs, ⟨lease, hlive⟩, -, allowance, -, h⟩ :=
      settlePolicyEvaluationAcquisition.draft_eq_ok h
    right
    rcases h with ⟨observed, -, -, rfl⟩ | ⟨-, rfl⟩
    . apply touch_step (hlive.terminal hs) hlive.updated_le
      rw [PolicyEvaluationUsage.le_iff]
      simp [charge]
    . rw [← advanceEpoch_closeUncertain_self]
      exact terminate_step (hlive.terminal hs) hlive.updated_le _ (Nat.le_refl _) _ _
  | sealSnapshot now epoch fence reference =>
    obtain ⟨hs, ⟨lease, hlive⟩, -, -, hunsealed, hlatest, -, rfl⟩ :=
      sealPolicyEvaluationJob.draft_eq_ok h
    exact .inr (seal_step hs hlive hunsealed hlatest)
  | startComputation now epoch fence =>
    obtain ⟨hs, ⟨lease, hlive⟩, -, -, rfl⟩ := startPolicyEvaluationComputation.draft_eq_ok h
    exact .inr (start_step hs hlive)
  | complete now epoch fence result ruleCount =>
    obtain ⟨hs, ⟨lease, hlive⟩, -, hstatus, -, -, rfl⟩ := completePolicyEvaluationJob.draft_eq_ok h
    right
    have hallowance : snapshot.allowance = none := by
      by_contra hne
      rw [← ne_eq, ← Option.isSome_iff_ne_none, Option.isSome_iff_exists] at hne
      rcases hne with ⟨allowance, hmem⟩
      have := ((accepted_iff.mp hs).allowance allowance hmem).status
      simp_all
    exact (completedWith_closing hallowance now result).step (hlive.terminal hs) hlive.updated_le
      (.inl rfl)
  | cancel intent =>
    obtain ⟨hs, -, -, -, h⟩ := cancelPolicyEvaluationJob.draft_eq_ok.mp h
    rcases h with ⟨previous, -, -, -, -, rfl⟩ | ⟨hnone, hstatus, hupdated, -, rfl⟩
    . exact .inl rfl
    . right
      have hterminal := (accepted_iff.mp hs).job.isTerminal
      apply (cancelledWith_closing snapshot intent).step
      . simp_all
      . exact hupdated
      . exact .inr ⟨hnone, rfl⟩
  | interrupt now epoch fence reason =>
    obtain ⟨hs, ⟨lease, hlive⟩, -, -, rfl⟩ := interruptPolicyEvaluationJob.draft_eq_ok h
    right
    rw [← advanceEpoch_closeUncertain_self]
    split
    . exact terminate_step (hlive.terminal hs) hlive.updated_le _ (Nat.le_refl _) _ _
    . exact retryOrFail_step (hlive.terminal hs) hlive.updated_le _ (Nat.le_refl _) _
  | reclaim now epoch =>
    obtain ⟨hs, -, h⟩ := reclaimPolicyEvaluationJob.draft_eq_ok h
    rcases h with ⟨-, rfl⟩ | ⟨hterminal, hupdated, -, h⟩
    . exact .inl rfl
    . right
      rcases h with ⟨-, rfl⟩ | ⟨-, rfl⟩
      . rw [← advanceEpoch_closeUncertain_self]
        exact terminate_step hterminal hupdated _ (Nat.le_refl _) _ _
      . rw [← advanceEpoch_closeUncertain_self]
        split
        . exact terminate_step hterminal hupdated _ (Nat.le_refl _) _ _
        . exact retryOrFail_step hterminal hupdated _ (Nat.le_refl _) _
  | recover now epoch =>
    obtain ⟨hs, -, hepoch, hupdated, h⟩ := recoverPolicyEvaluationJob.draft_eq_ok h
    rcases h with ⟨-, rfl⟩ | ⟨hterminal, -, h⟩
    . exact .inl rfl
    . right
      rcases h with ⟨-, rfl⟩ | rfl | ⟨-, -, rfl⟩ | ⟨hlease, -, -, rfl⟩
      . exact terminate_step hterminal hupdated _ hepoch.le _ _
      . exact terminate_step hterminal hupdated _ hepoch.le _ _
      . exact retryOrFail_step hterminal hupdated _ hepoch.le _
      . apply (recoverIdle_closing snapshot now _ hepoch.le hlease _).step hterminal hupdated
        left
        exact closeUncertain_cancellation snapshot (recoveryClosure snapshot.job now)
  | exhaustHistory now =>
    obtain ⟨hs, hterminal, -, hupdated, rfl⟩ := exhaustPolicyEvaluationJobHistory.draft_eq_ok h
    right
    rw [← advanceEpoch_closeUncertain_self]
    exact terminate_step hterminal hupdated _ (Nat.le_refl _) _ _

theorem apply_eq_ok {transition : PolicyEvaluationTransition}
    {snapshot next : PolicyEvaluationJobSnapshot}
    : transition.apply snapshot = .ok next
        ↔ transition.draft snapshot = .ok next ∧ next.Accepted := by
  have hbind : ∀ x : Except PolicyEvaluationError PolicyEvaluationJobSnapshot,
      (x >>= parseSnapshot) = .ok next ↔ x = .ok next ∧ next.Accepted := by
    intro x
    simp only [bind_eq_ok, parseSnapshot_eq_ok]
    constructor
    . rintro ⟨draft, hdraft, haccepted, rfl⟩
      exact ⟨hdraft, haccepted⟩
    . rintro ⟨hdraft, haccepted⟩
      exact ⟨next, hdraft, haccepted, rfl⟩
  cases transition <;> exact hbind _

end PolicyEvaluationTransition

end Policy
end ProofStack
