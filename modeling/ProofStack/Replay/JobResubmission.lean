import ProofStack.Replay.JobRuns

/-!
This module contains what happens to a command of the replay job repository that is submitted again after it
has been accepted.
-/

namespace ProofStack
namespace Replay

open Checks Sequence StateMachine

variable {store : ReplayJobStore} {definitions : ReplayDefinitions}
variable {reading : Option UtcMillisecondTimestamp} {now : UtcMillisecondTimestamp}
variable {stored later : StoredReplayJob} {outcome : ReplayOutcome} {key : String × String}
variable {command : ReplayCommand}

section Growth

structure Adds (value next : ReplayJobSnapshot) : Prop where
  ledger : value.budgetLedger <+: next.budgetLedger
  acknowledgements : value.cancellationAcknowledgements <+: next.cancellationAcknowledgements
  executions : value.executionObservations <+: next.executionObservations
  usages : value.usageObservations <+: next.usageObservations

theorem Transition.adds (h : Transition now stored command later)
    : Adds stored.toReplayJobSnapshot later.toReplayJobSnapshot := by
  cases h with
  | acknowledged =>
    exact ⟨List.prefix_rfl, List.prefix_append _ _, List.prefix_rfl, List.prefix_rfl⟩
  | reserved | reconciled => exact ⟨List.prefix_append _ _, List.prefix_rfl, List.prefix_rfl, List.prefix_rfl⟩
  | executionObserved =>
    exact ⟨List.prefix_rfl, List.prefix_rfl, List.prefix_append _ _, List.prefix_rfl⟩
  | usageObserved =>
    exact ⟨List.prefix_rfl, List.prefix_rfl, List.prefix_rfl, List.prefix_append _ _⟩
  | _ => exact ⟨List.prefix_rfl, List.prefix_rfl, List.prefix_rfl, List.prefix_rfl⟩

theorem find?_of_prefix {α : Type} {p : α → Bool} {earlier all : List α} (h : earlier <+: all) {x : α}
    (hfind : earlier.find? p = some x)
    : all.find? p = some x := by
  obtain ⟨added, rfl⟩ := h
  rw [List.find?_append, hfind]
  rfl

theorem reservationOf_of_prefix {earlier all : List ReplayBudgetLedgerEntry} (h : earlier <+: all)
    {reservationId : String} {reservation : ReplayBudgetReservation}
    (hfound : reservationOf earlier reservationId = some reservation)
    : reservationOf all reservationId = some reservation :=
  find?_of_prefix (h.filterMap _) hfound

end Growth

section Recorded

namespace ReplayCommand

def json : ReplayCommand → ReplayCommand
  | .createJob command => .createJob { command with plan := .ofValue command.plan.value }
  | .reserveBudget command =>
    .reserveBudget
      { command with
        requested := .ofValue command.requested.value
        work := .ofValue command.work.value
        workerFence := .ofValue command.workerFence.value }
  | command => command

def Repeatable : ReplayCommand → Prop
  | .claimJob _ => False
  | .heartbeatJob _ => False
  | .completeJob _ => False
  | _ => True

end ReplayCommand

structure Settles (command : ReconcileDurableReplayBudgetCommand)
    (reservation : ReplayBudgetReservation) (reconciliation : ReplayBudgetReconciliation) : Prop where
  reservationId : reconciliation.reservationId = command.reservationId
  mutationFence : reconciliation.mutationFence = command.workerFence
  reservation_fence : reservation.mutationFence = command.workerFence
  dimensions :
    ∀ dimension,
      reconciliation.dimensions dimension
        = reconcileDimension (reservation.dimensions dimension).reservedAmount
            (command.usage dimension)

def Recorded (definitions : ReplayDefinitions) (stored : StoredReplayJob) : ReplayCommand → Prop
  | .createJob command =>
    (∃ plan,
      definitions.findReplayPlan command.scope command.plan.value.planVersionId = some plan
        ∧ plan.planId = command.plan.value.planId
        ∧ plan.definitionSha256 = command.plan.value.definitionSha256)
      ∧ (∃ createdAt job,
          createQueuedReplayJob command.scope command.createdByPrincipalId command.jobId
              command.plan.value createdAt
            = .ok job)
      ∧ stored.job.createdByPrincipalId = command.createdByPrincipalId
      ∧ stored.job.plan = command.plan.value
  | .requestCancellation command =>
    stored.job.terminal ≠ none ∧ stored.cancellationRequest = none
      ∨ ∃ request ∈ stored.cancellationRequest, request.toRequestReplayCancellation = command.input
  | .acknowledgeCancellation command =>
    ∃ acknowledgement,
      stored.cancellationAcknowledgements.find? (fun existing =>
          existing.acknowledgementId = command.acknowledgementId)
        = some acknowledgement
        ∧ acknowledgement.action = command.action
        ∧ acknowledgement.mutationFence = command.workerFence
  | .reserveBudget command =>
    (∃ plan, requirePlan definitions stored.job = .ok plan)
      ∧ ∃ reservation,
          reservationOf stored.budgetLedger command.reservationId = some reservation
            ∧ reservation.mutationFence = command.workerFence.value
            ∧ reservation.work = command.work.value
            ∧ reservation.requested = command.requested.value
  | .reconcileBudget command =>
    ∃ reservation reconciliation,
      reservationOf stored.budgetLedger command.reservationId = some reservation
        ∧ (reconciliations stored.budgetLedger).find? (fun existing =>
              existing.reconciliationId = command.reconciliationId)
            = some reconciliation
        ∧ Settles command reservation reconciliation
  | .appendExecutionObservation command =>
    (∃ plan, requirePlan definitions stored.job = .ok plan
      ∧ checkPayload stored plan command.payload = .ok ())
      ∧ ∃ observation,
          stored.executionObservations.find? (fun existing =>
              existing.observationId = command.observationId)
            = some observation
            ∧ observation.mutationFence = command.workerFence
            ∧ observation.payload = command.payload
            ∧ observation.scope = command.scope
  | .appendUsageObservation command =>
    (∃ plan, requirePlan definitions stored.job = .ok plan
      ∧ ∀ boundaryId ∈ command.boundaryId,
          ∃ boundary ∈ plan.boundaries, boundary.boundaryId = boundaryId)
      ∧ ∃ observation,
          stored.usageObservations.find? (fun existing =>
              existing.observationId = command.observationId)
            = some observation
            ∧ observation.boundaryId = command.boundaryId
            ∧ observation.measurements = command.measurements
            ∧ observation.mutationFence = command.workerFence
            ∧ observation.scope = command.scope
            ∧ observation.sourceEventSha256 = command.sourceEventSha256
  | _ => False

theorem recorded_json : Recorded definitions stored command.json ↔ Recorded definitions stored command := by
  cases command <;> rfl

theorem requirePlan_eq_ok {job : ReplayJob} {plan : ReplayPlan}
    : requirePlan definitions job = .ok plan
        ↔ definitions.findReplayPlan job.scope job.plan.planVersionId = some plan
            ∧ exactPlanReference job plan := by
  simp only [requirePlan, bind_eq_ok, found_eq_ok, failIf_eq_ok, pure_eq_ok, not_not]
  constructor
  . rintro ⟨_, hfound, _, hexact, rfl⟩
    exact ⟨hfound, hexact⟩
  . rintro ⟨hfound, hexact⟩
    exact ⟨plan, hfound, (), hexact, rfl⟩

theorem requirePlan_sameJob {job next : ReplayJob} (h : SameJob job next) {plan : ReplayPlan}
    (hplan : requirePlan definitions job = .ok plan)
    : requirePlan definitions next = .ok plan := by
  rw [requirePlan_eq_ok, exactPlanReference] at hplan ⊢
  rw [h.plan, h.scope]
  exact hplan

theorem checkPayload_request {plan : ReplayPlan} {payload : ReplayExecutionObservationPayload}
    (h : Transition now stored command later) (hcheck : checkPayload stored plan payload = .ok ())
    : checkPayload later plan payload = .ok () := by
  cases payload with
  | cancellation value =>
    have hnames := checkPayload_eq_ok hcheck value.cancellationId rfl
    rw [Option.map_eq_some_iff] at hnames
    obtain ⟨request, hrequest, hid⟩ := hnames
    simp only [checkPayload, failIf_eq_ok, not_not]
    rw [h.request hrequest, Option.map_some, hid]
  | boundary value => exact hcheck
  | isolation value => exact hcheck
  | target value => exact hcheck

theorem Recorded.transition {recorded : ReplayCommand} (h : Transition now stored command later)
    (hrecorded : Recorded definitions stored recorded)
    : Recorded definitions later recorded := by
  have hadds := h.adds
  have hsame := h.sameJob
  cases recorded with
  | createJob create =>
    obtain ⟨hplan, hcandidate, hprincipal, hreference⟩ := hrecorded
    exact ⟨hplan, hcandidate, hsame.createdByPrincipalId.trans hprincipal,
      hsame.plan.trans hreference⟩
  | requestCancellation request =>
    obtain ⟨hterminal, _⟩ | ⟨existing, hexisting, hinput⟩ := hrecorded
    . exact absurd h.terminal_eq_none hterminal
    . exact .inr ⟨existing, h.request hexisting, hinput⟩
  | acknowledgeCancellation acknowledge =>
    obtain ⟨acknowledgement, hfound, hsameAction⟩ := hrecorded
    exact ⟨acknowledgement, find?_of_prefix hadds.acknowledgements hfound, hsameAction⟩
  | reserveBudget reserve =>
    obtain ⟨⟨plan, hplan⟩, reservation, hfound, hfields⟩ := hrecorded
    exact ⟨⟨plan, requirePlan_sameJob hsame hplan⟩, reservation,
      reservationOf_of_prefix hadds.ledger hfound, hfields⟩
  | reconcileBudget reconcile =>
    obtain ⟨reservation, reconciliation, hopened, hfound, hsettles⟩ := hrecorded
    exact ⟨reservation, reconciliation, reservationOf_of_prefix hadds.ledger hopened,
      find?_of_prefix (hadds.ledger.filterMap _) hfound, hsettles⟩
  | appendExecutionObservation append =>
    obtain ⟨⟨plan, hplan, hpayload⟩, observation, hfound, hfields⟩ := hrecorded
    exact ⟨⟨plan, requirePlan_sameJob hsame hplan, checkPayload_request h hpayload⟩, observation,
      find?_of_prefix hadds.executions hfound, hfields⟩
  | appendUsageObservation append =>
    obtain ⟨⟨plan, hplan, hboundary⟩, observation, hfound, hfields⟩ := hrecorded
    exact ⟨⟨plan, requirePlan_sameJob hsame hplan, hboundary⟩, observation,
      find?_of_prefix hadds.usages hfound, hfields⟩
  | claimJob => exact hrecorded
  | heartbeatJob => exact hrecorded
  | completeJob => exact hrecorded

end Recorded

section Recording

theorem find?_append_last {α : Type} {p : α → Bool} {values : List α} {value : α}
    (hfresh : values.find? p = none) (hp : p value = true)
    : (values ++ [value]).find? p = some value := by
  rw [List.find?_append, hfresh, Option.none_or, List.find?_singleton, if_pos hp]

theorem recorded_of_createJob {command : CreateReplayJobCommand}
    (h : createJob store definitions reading command = .ok outcome)
    : Recorded definitions outcome.stored (.createJob command) := by
  simp only [createJob, bind_eq_ok, found_eq_ok, failIf_eq_ok, not_or, not_not] at h
  obtain ⟨plan, hplan, _, hreference, now, _, candidate, hcandidate, h⟩ := h
  refine ⟨⟨plan, hplan, hreference⟩, ⟨now, candidate, hcandidate⟩, ?_⟩
  split at h
  . simp only [bind_eq_ok, failIf_eq_ok, pure_eq_ok, not_or, not_not] at h
    obtain ⟨_, ⟨_, hprincipal, hsame⟩, _, _, _, _, rfl⟩ := h
    exact ⟨hprincipal, hsame.1⟩
  . simp only [bind_eq_ok, pure_eq_ok] at h
    obtain ⟨_, _, rfl⟩ := h
    rw [(created_of_createQueuedReplayJob hcandidate).job_eq]
    exact ⟨rfl, rfl⟩

theorem recorded_of_recordCancellation {command : RequestDurableReplayCancellationCommand}
    {result : RequestReplayCancellationResult}
    (hrequested :
      CancellationRequested stored.job command.input command.requestedByPrincipalId now result)
    (h : recordCancellation stored result = .ok outcome)
    : Recorded definitions outcome.stored (.requestCancellation command) := by
  simp only [recordCancellation, bind_eq_ok] at h
  obtain ⟨_, _, h⟩ := h
  have hinput : result.request.toRequestReplayCancellation = command.input := by
    rw [hrequested.request_eq]
  split at h
  . simp only [bind_eq_ok, pure_eq_ok] at h
    obtain ⟨_, _, rfl⟩ := h
    exact .inr ⟨result.request, rfl, hinput⟩
  . cases h
    exact .inr ⟨result.request, rfl, hinput⟩

theorem recorded_of_requestCancellation {command : RequestDurableReplayCancellationCommand}
    (h : requestCancellation store reading command = .ok outcome)
    : Recorded definitions outcome.stored (.requestCancellation command) := by
  simp only [requestCancellation, bind_eq_ok] at h
  obtain ⟨stored, _, h⟩ := h
  split at h
  . next hterminal =>
    cases h
    exact .inl ⟨Option.isSome_iff_ne_none.mp hterminal.1, hterminal.2⟩
  . simp only [bind_eq_ok] at h
    obtain ⟨now, _, result, hresult, h⟩ := h
    cases hexisting : stored.cancellationRequest with
    | none =>
      rw [hexisting] at hresult
      have hrequested := requestReplayCancellation_new hresult
      rw [if_pos hrequested.created] at h
      exact recorded_of_recordCancellation hrequested h
    | some existing =>
      rw [hexisting, requestReplayCancellation_existing] at hresult
      obtain ⟨_, _, _, _, _, hinput, rfl⟩ := hresult
      rw [if_neg (by simp)] at h
      simp only [bind_eq_ok] at h
      obtain ⟨_, _, _, _, h⟩ := h
      have hrecorded : Recorded definitions stored (.requestCancellation command) :=
        .inr ⟨existing, hexisting, hinput⟩
      split at h
      . simp only [bind_eq_ok, pure_eq_ok] at h
        obtain ⟨_, _, _, _, rfl⟩ := h
        exact hrecorded
      . cases h
        exact hrecorded

theorem recorded_of_acknowledgeCancellation {command : AcknowledgeDurableReplayCancellationCommand}
    (h : acknowledgeCancellation store reading command = .ok outcome)
    : Recorded definitions outcome.stored (.acknowledgeCancellation command) := by
  simp only [acknowledgeCancellation, bind_eq_ok, found_eq_ok] at h
  obtain ⟨stored, _, request, _, now, _, acknowledgement, hacknowledged, h⟩ := h
  rw [acknowledgeReplayCancellation_eq_ok] at hacknowledged
  obtain ⟨_, _, _, _, _, _, _, rfl⟩ := hacknowledged
  split at h
  . next existing hfound =>
    simp only [bind_eq_ok, failIf_eq_ok, pure_eq_ok, not_or, not_not] at h
    obtain ⟨_, ⟨haction, _, hfence, _⟩, rfl⟩ := h
    exact ⟨existing, hfound, haction.symm, hfence.symm⟩
  . next hfresh =>
    simp only [bind_eq_ok, pure_eq_ok] at h
    obtain ⟨_, hpush, rfl⟩ := h
    obtain ⟨_, rfl⟩ := push_eq_ok hpush
    exact ⟨_, find?_append_last hfresh (by simp), rfl, rfl⟩

theorem reserveReplayBudget_fields {options : ReserveReplayBudgetOptions}
    {reservation : ReplayBudgetReservation} (h : reserveReplayBudget options = .ok reservation)
    : reservation.mutationFence = options.mutationFence
        ∧ reservation.work = options.work
        ∧ reservation.requested = options.requested := by
  simp only [reserveReplayBudget, parseReservation, bind_eq_ok, parseWith_eq_ok,
    parseAmounts_eq_ok] at h
  obtain ⟨_, _, _, _, requested, hrequested, _, rfl⟩ := h
  refine ⟨rfl, rfl, ?_⟩
  funext dimension
  exact (hrequested dimension).1.symm

theorem recorded_of_reserveBudget {command : ReserveDurableReplayBudgetCommand}
    (h : reserveBudget store definitions reading command = .ok outcome)
    : Recorded definitions outcome.stored (.reserveBudget command) := by
  simp only [reserveBudget, bind_eq_ok] at h
  obtain ⟨stored, _, plan, hplan, now, _, _, _, h⟩ := h
  split at h
  . next existing hfound =>
    simp only [bind_eq_ok, failIf_eq_ok, pure_eq_ok, not_or, not_not] at h
    obtain ⟨_, ⟨hfence, hwork, hrequested⟩, rfl⟩ := h
    exact ⟨⟨plan, hplan⟩, existing, hfound, hfence.1, hwork.1, hrequested.1⟩
  . next hfresh =>
    simp only [bind_eq_ok, pure_eq_ok] at h
    obtain ⟨_, _, reservation, hreserved, _, hpush, rfl⟩ := h
    obtain ⟨_, rfl⟩ := push_eq_ok hpush
    refine ⟨⟨plan, hplan⟩, reservation, ?_, reserveReplayBudget_fields hreserved⟩
    rw [reservationOf, reservations_append_reservation]
    apply find?_append_last hfresh
    simpa using (reserved_of_reserveReplayBudget hreserved).reservationId

theorem recorded_of_reconcileBudget {command : ReconcileDurableReplayBudgetCommand}
    (h : reconcileBudget store reading command = .ok outcome)
    : Recorded definitions outcome.stored (.reconcileBudget command) := by
  simp only [reconcileBudget, bind_eq_ok, found_eq_ok, failIf_eq_ok, not_not] at h
  obtain ⟨stored, _, now, _, _, _, reservation, hopened, _, hfence, candidate, hcandidate, h⟩ := h
  have hreconciled := reconciled_of_reconcileReplayBudget hcandidate
  have hid := (reservationOf_eq_some hopened).2
  split at h
  . next existing hexisting =>
    simp only [bind_eq_ok, failIf_eq_ok, pure_eq_ok, not_or, not_not] at h
    obtain ⟨_, ⟨hreconciliationId, hreservationId, hdimensions, hmutationFence⟩, rfl⟩ := h
    refine ⟨reservation, existing, hopened, ?_, ?_⟩
    . obtain hfound | ⟨hnone, hother⟩ := Option.or_eq_some_iff.mp hexisting
      . exact hfound
      . -- The reconciliation of the reservation bears the identifier that no reconciliation bears.
        rw [List.find?_eq_none] at hnone
        have hmem := List.mem_of_find?_eq_some hother
        have := hnone existing hmem
        simp [hreconciliationId, hreconciled.reconciliationId] at this
    . constructor
      . rw [hreservationId, hreconciled.reservationId, hid]
      . rw [hmutationFence, hreconciled.mutationFence, hfence]
      . exact hfence
      . intro dimension
        rw [hdimensions]
        exact hreconciled.dimensions dimension
  . next hfresh =>
    rw [Option.or_eq_none_iff] at hfresh
    simp only [bind_eq_ok, pure_eq_ok] at h
    obtain ⟨_, hpush, _, _, rfl⟩ := h
    obtain ⟨_, rfl⟩ := push_eq_ok hpush
    refine ⟨reservation, candidate, ?_, ?_, ?_⟩
    . exact reservationOf_of_prefix (List.prefix_append _ _) hopened
    . dsimp only
      rw [reconciliations_append_reconciliation]
      apply find?_append_last hfresh.1
      simpa using hreconciled.reconciliationId
    . constructor
      . rw [hreconciled.reservationId, hid]
      . rw [hreconciled.mutationFence, hfence]
      . exact hfence
      . exact hreconciled.dimensions

theorem recorded_of_appendExecutionObservation {command : AppendReplayExecutionObservationCommand}
    (h : appendExecutionObservation store definitions reading command = .ok outcome)
    : Recorded definitions outcome.stored (.appendExecutionObservation command) := by
  simp only [appendExecutionObservation, bind_eq_ok, parseWith_eq_ok] at h
  obtain ⟨stored, _, plan, hplan, now, _, _, _, _, hpayload, _, ⟨_, rfl⟩, h⟩ := h
  simp only [appendExecution] at h
  split at h
  . next existing hfound =>
    simp only [bind_eq_ok, failIf_eq_ok, pure_eq_ok, not_not] at h
    obtain ⟨_, hsame, rfl⟩ := h
    rw [ReplayExecutionObservation.mk.injEq] at hsame
    obtain ⟨hfence, _, _, _, hsamePayload, hscope⟩ := hsame
    exact ⟨⟨plan, hplan, hpayload⟩, existing, hfound, hfence, hsamePayload, hscope⟩
  . next hfresh =>
    simp only [bind_eq_ok, pure_eq_ok] at h
    obtain ⟨_, _, _, hpush, rfl⟩ := h
    obtain ⟨_, rfl⟩ := push_eq_ok hpush
    exact ⟨⟨plan, hplan, hpayload⟩, _, find?_append_last hfresh (by simp), rfl, rfl, rfl⟩

theorem recorded_of_appendUsageObservation {command : AppendReplayUsageObservationCommand}
    (h : appendUsageObservation store definitions reading command = .ok outcome)
    : Recorded definitions outcome.stored (.appendUsageObservation command) := by
  simp only [appendUsageObservation, bind_eq_ok, parseWith_eq_ok, failIf_eq_ok] at h
  obtain ⟨stored, _, plan, hplan, now, _, _, _, _, hboundary, _, ⟨_, rfl⟩, h⟩ := h
  push Not at hboundary
  simp only [appendUsage, bind_eq_ok, failIf_eq_ok] at h
  obtain ⟨_, _, h⟩ := h
  split at h
  . next existing hfound =>
    simp only [bind_eq_ok, failIf_eq_ok, pure_eq_ok, not_not] at h
    obtain ⟨_, hsame, rfl⟩ := h
    rw [ReplayUsageObservation.mk.injEq] at hsame
    obtain ⟨hboundaryId, hmeasurements, hfence, _, _, _, hscope, hsource⟩ := hsame
    exact ⟨⟨plan, hplan, hboundary⟩, existing, hfound, hboundaryId, hmeasurements, hfence, hscope,
      hsource⟩
  . next hfresh =>
    simp only [bind_eq_ok, pure_eq_ok] at h
    obtain ⟨_, hpush, rfl⟩ := h
    obtain ⟨_, rfl⟩ := push_eq_ok hpush
    exact ⟨⟨plan, hplan, hboundary⟩, _, find?_append_last hfresh (by simp), rfl, rfl, rfl, rfl, rfl⟩

theorem recorded_of_operate (hrepeatable : command.Repeatable)
    (h : operate store definitions reading command = .ok outcome)
    : Recorded definitions outcome.stored command := by
  cases command with
  | createJob => exact recorded_of_createJob h
  | claimJob => contradiction
  | heartbeatJob => contradiction
  | requestCancellation => exact recorded_of_requestCancellation h
  | acknowledgeCancellation => exact recorded_of_acknowledgeCancellation h
  | reserveBudget => exact recorded_of_reserveBudget h
  | reconcileBudget => exact recorded_of_reconcileBudget h
  | appendExecutionObservation => exact recorded_of_appendExecutionObservation h
  | appendUsageObservation => exact recorded_of_appendUsageObservation h
  | completeJob => contradiction

end Recording

section Later

namespace ReplayDefinitions

def Extends (definitions other : ReplayDefinitions) : Prop :=
  ∀ scope planVersionId plan,
    definitions.findReplayPlan scope planVersionId = some plan →
      other.findReplayPlan scope planVersionId = some plan

end ReplayDefinitions

variable {other : ReplayDefinitions}

theorem requirePlan_extends (h : definitions.Extends other) {job : ReplayJob} {plan : ReplayPlan}
    (hplan : requirePlan definitions job = .ok plan)
    : requirePlan other job = .ok plan := by
  rw [requirePlan_eq_ok] at hplan ⊢
  exact ⟨h _ _ _ hplan.1, hplan.2⟩

theorem Recorded.extends (h : definitions.Extends other) (hrecorded : Recorded definitions stored command)
    : Recorded other stored command := by
  cases command with
  | createJob create =>
    obtain ⟨⟨plan, hplan, hreference⟩, hjob⟩ := hrecorded
    exact ⟨⟨plan, h _ _ _ hplan, hreference⟩, hjob⟩
  | reserveBudget reserve =>
    obtain ⟨⟨plan, hplan⟩, hreservation⟩ := hrecorded
    exact ⟨⟨plan, requirePlan_extends h hplan⟩, hreservation⟩
  | appendExecutionObservation append =>
    obtain ⟨⟨plan, hplan, hpayload⟩, hobservation⟩ := hrecorded
    exact ⟨⟨plan, requirePlan_extends h hplan, hpayload⟩, hobservation⟩
  | appendUsageObservation append =>
    obtain ⟨⟨plan, hplan, hboundary⟩, hobservation⟩ := hrecorded
    exact ⟨⟨plan, requirePlan_extends h hplan, hboundary⟩, hobservation⟩
  | requestCancellation request => exact hrecorded
  | acknowledgeCancellation acknowledge => exact hrecorded
  | reconcileBudget reconcile => exact hrecorded
  | claimJob => exact hrecorded
  | heartbeatJob => exact hrecorded
  | completeJob => exact hrecorded

def Holds (definitions : ReplayDefinitions) (command : ReplayCommand) (store : ReplayJobStore) : Prop :=
  ∃ stored,
    store.jobs command.key = some stored
      ∧ stored.job.scope = command.scope
      ∧ Recorded definitions stored command

theorem Effect.scope (h : Effect store reading command outcome)
    : outcome.stored.job.scope = command.scope := by
  cases h with
  | unchanged _ hscope => exact hscope
  | @created create now job hcommand _ _ hcreated hstored =>
    rw [hstored, hcommand]
    show job.scope = create.scope
    rw [hcreated.job_eq]
  | stored _ _ hscope _ htransition => exact htransition.sameJob.scope.trans hscope

theorem holds_written (hrepeatable : command.Repeatable)
    (h : operate store definitions reading command = .ok outcome)
    : Holds definitions command (written store command.key outcome) := by
  refine ⟨outcome.stored, ?_, (effect_of_operate h).scope, recorded_of_operate hrepeatable h⟩
  unfold written
  cases hpublished : outcome.published with
  | none =>
    cases effect_of_operate h with
    | unchanged hjob => exact hjob
    | created _ _ _ _ _ hsome => contradiction
    | stored _ _ _ hsome => contradiction
  | some kinds => exact Function.update_self _ _ _

theorem holds_step (store : ReplayJobStore) (input : ReplayInput)
    (h : Holds definitions command store)
    : Holds definitions command (step store input) := by
  obtain ⟨stored, hjob, hscope, hrecorded⟩ := h
  obtain hsame | ⟨_, _, next, outcome, rfl, heffect, hpublished, hwritten⟩ := step_jobs store input
  . exact ⟨stored, by rw [hsame, hjob], hscope, hrecorded⟩
  . unfold Holds
    rw [hwritten]
    by_cases hkey : command.key = next.key
    . refine ⟨outcome.stored, by rw [hkey, Function.update_self], ?_⟩
      rw [hkey] at hjob
      cases heffect with
      | unchanged _ _ hnone => contradiction
      | created _ _ habsent =>
        rw [hjob] at habsent
        contradiction
      | stored _ hbefore _ _ htransition =>
        rw [hjob] at hbefore
        cases hbefore
        exact ⟨htransition.sameJob.scope.trans hscope, hrecorded.transition htransition⟩
    . exact ⟨stored, by rw [Function.update_of_ne hkey, hjob], hscope, hrecorded⟩

end Later

section Again

namespace ReplayCommand

def repeatedResult : ReplayCommand → ReplayJobResult
  | .createJob _ => .created false
  | .requestCancellation _ => .cancellationRequested false
  | _ => .accepted

def Recognized (stored : StoredReplayJob) (now : UtcMillisecondTimestamp) : ReplayCommand → Prop
  | .createJob command => command.plan.InSchemaOrder
  | .reserveBudget command =>
    command.workerFence.InSchemaOrder
      ∧ command.work.InSchemaOrder
      ∧ command.requested.InSchemaOrder
  | .acknowledgeCancellation _ =>
    ∀ request ∈ stored.cancellationRequest, request.requestedAt.value ≤ now.value
  | _ => True

end ReplayCommand

theorem sameJson_iff {α : Type} {schemaKeys : α → List String} {written : Written α schemaKeys}
    {value : α} (h : value = written.value)
    : written.sameJson value ↔ written.InSchemaOrder := by
  subst h
  simp only [Written.sameJson, Written.InSchemaOrder, true_and]
  exact eq_comm

theorem createQueuedReplayJob_again {scope : EvidenceScope} {principalId jobId : String}
    {plan : ReplayPlanJobReference} {createdAt : UtcMillisecondTimestamp} {job : ReplayJob}
    (h : createQueuedReplayJob scope principalId jobId plan createdAt = .ok job)
    : createQueuedReplayJob scope principalId jobId plan now = .ok { job with createdAt := now } := by
  simp only [createQueuedReplayJob, bind_eq_ok, parseWith_eq_ok, parseJob_eq_ok] at h ⊢
  obtain ⟨_, ⟨hplan, rfl⟩, haccepted, rfl⟩ := h
  refine ⟨plan, ⟨hplan, rfl⟩, ⟨?_, ?_⟩, rfl⟩
  . exact { haccepted.1 with }
  . exact haccepted.2

theorem createJob_again {command : CreateReplayJobCommand}
    (hjob : store.jobs (command.scope.tenantId, command.jobId) = some stored)
    (hscope : stored.job.scope = command.scope) (hkept : Kept key stored)
    (hrecorded : Recorded definitions stored (.createJob command))
    : createJob store definitions (some now) command = .ok outcome
        ↔ command.plan.InSchemaOrder
            ∧ { result := .created false, stored, published := none } = outcome := by
  obtain ⟨⟨plan, hplan, hplanId, hdigest⟩, ⟨_, candidate, hcandidate⟩, hprincipal, hreference⟩ :=
    hrecorded
  have hintent : stored.intents (intentKey (createdIntent stored.job))
      = some (createdIntent stored.job) := by
    rw [hkept.intents]
    simp [outbox, intentKey, createdIntent]
  simp only [createJob, bind_eq_ok, found_eq_ok, failIf_eq_ok, parseTimestamp_eq_ok, hjob, pure_eq_ok,
    buildReplayJobCreatedOutboxIntent_eq_ok, requireIntent_eq_ok, not_or, not_not,
    sameJson_iff hreference]
  constructor
  . rintro ⟨_, _, _, _, _, _, _, _, _, ⟨_, _, horder⟩, _, _, _, _, rfl⟩
    exact ⟨horder, rfl⟩
  . rintro ⟨horder, rfl⟩
    exact ⟨plan, hplan, (), ⟨hplanId, hdigest⟩, now, rfl, _, createQueuedReplayJob_again hcandidate,
      (), ⟨hscope, hprincipal, horder⟩, _, ⟨hkept.accepted, rfl⟩, (), hintent, rfl⟩

theorem requestCancellation_again {command : RequestDurableReplayCancellationCommand}
    (hjob : store.jobs (command.scope.tenantId, command.jobId) = some stored)
    (hscope : stored.job.scope = command.scope) (hkept : Kept key stored)
    (hrecorded : Recorded definitions stored (.requestCancellation command))
    : requestCancellation store (some now) command
        = .ok { result := .cancellationRequested false, stored, published := none } := by
  simp only [requestCancellation, bind_eq_ok, requireJob_eq_ok]
  refine ⟨stored, ⟨hjob, hscope⟩, ?_⟩
  obtain ⟨hterminal, hnone⟩ | ⟨request, hrequest, hinput⟩ := hrecorded
  . rw [if_pos ⟨Option.isSome_iff_ne_none.mpr hterminal, hnone⟩]
    rfl
  . have hrequestKept := hkept.cancellation request hrequest
    have hrequest : stored.cancellationRequest = some request := hrequest
    have hagain : requestReplayCancellation stored.job stored.cancellationRequest command.input
          command.requestedByPrincipalId now
        = .ok { created := false, job := stored.job, request := request } := by
      rw [hrequest, requestReplayCancellation_existing]
      have hinputAccepted : command.input.Accepted := hinput ▸ hrequestKept.accepted.input
      exact ⟨hkept.accepted, hinputAccepted, hrequestKept.accepted, hrequestKept.jobId,
        hrequestKept.scope, hinput, rfl⟩
    have hintent : stored.intents (intentKey (cancellationIntent stored.job request))
        = some (cancellationIntent stored.job request) := by
      rw [hkept.intents]
      simp [outbox, intentKey, cancellationIntent, hrequest]
    rw [if_neg (by simp [hrequest])]
    simp only [bind_eq_ok, parseTimestamp_eq_ok]
    refine ⟨now, rfl, _, hagain, ?_⟩
    rw [if_neg (by simp)]
    simp only [bind_eq_ok, buildReplayJobCancellationRequestedOutboxIntent_eq_ok,
      requireIntent_eq_ok]
    refine ⟨_, ⟨hkept.accepted, hrequestKept.accepted, hrequestKept.jobId, hrequestKept.scope, rfl⟩,
      (), hintent, ?_⟩
    split
    . next hterminal =>
      obtain ⟨terminal, hterminal⟩ := Option.isSome_iff_exists.mp hterminal
      simp only [bind_eq_ok, buildReplayJobTerminalOutboxIntent_eq_ok, requireIntent_eq_ok, pure_eq_ok]
      refine ⟨_, ⟨hkept.accepted, terminal, hterminal, rfl⟩, (), ?_, trivial⟩
      rw [hkept.intents]
      simp [outbox, intentKey, terminalIntent, hterminal]
    . rfl

variable {lease : ReplayLease}

theorem acknowledgeCancellation_again {command : AcknowledgeDurableReplayCancellationCommand}
    (hjob : store.jobs (command.scope.tenantId, command.workerFence.jobId) = some stored)
    (hscope : stored.job.scope = command.scope) (hkept : Kept key stored)
    (hlive : FenceLive stored.job command.workerFence now lease)
    (hrecorded : Recorded definitions stored (.acknowledgeCancellation command))
    : acknowledgeCancellation store (some now) command = .ok outcome
        ↔ (∀ request ∈ stored.cancellationRequest, request.requestedAt.value ≤ now.value)
            ∧ { result := .accepted, stored, published := none } = outcome := by
  obtain ⟨acknowledgement, hfound, haction, hfence⟩ := hrecorded
  have hacknowledged := hkept.acknowledgements.kept _ (List.mem_of_find?_eq_some hfound)
  obtain ⟨request, hrequest, hcancellationId, _⟩ := hacknowledged.requested
  have hid : acknowledgement.acknowledgementId = command.acknowledgementId := by
    simpa using List.find?_some hfound
  have hrequestKept := hkept.cancellation request hrequest
  have hrequest : stored.cancellationRequest = some request := hrequest
  simp only [acknowledgeCancellation, bind_eq_ok, requireJob_eq_ok, found_eq_ok,
    parseTimestamp_eq_ok, acknowledgeReplayCancellation_eq_ok, hrequest, Option.mem_def,
    Option.some.injEq, forall_eq']
  constructor
  . rintro ⟨_, ⟨hsame, _⟩, other, hother, _, rfl, _, ⟨_, _, _, _, _, htime, _, rfl⟩, h⟩
    rw [hjob] at hsame
    cases hsame
    rw [hrequest] at hother
    cases hother
    simp only [hfound, bind_eq_ok, pure_eq_ok] at h
    obtain ⟨_, _, rfl⟩ := h
    exact ⟨htime, rfl⟩
  . rintro ⟨htime, rfl⟩
    refine ⟨stored, ⟨hjob, hscope⟩, request, hrequest, now, rfl, _,
      ⟨hkept.accepted, hrequestKept.accepted, ⟨lease, hlive⟩, hrequestKept.jobId, hrequestKept.scope,
        htime, ?_, rfl⟩, ?_⟩
    . have haccepted := hacknowledged.accepted
      rw [← hid, ← haction, ← hfence, ← hcancellationId, ← hacknowledged.scope]
      exact { haccepted with }
    . simp only [hfound, bind_eq_ok, failIf_eq_ok, pure_eq_ok, not_or, not_not]
      exact ⟨(), ⟨haction.symm, hcancellationId.symm, hfence.symm, hacknowledged.scope.symm⟩, trivial⟩

theorem reserveBudget_again {command : ReserveDurableReplayBudgetCommand}
    (hjob : store.jobs (command.scope.tenantId, command.workerFence.value.jobId) = some stored)
    (hscope : stored.job.scope = command.scope) (hkept : Kept key stored)
    (hlive : FenceLive stored.job command.workerFence.value now lease)
    (hrecorded : Recorded definitions stored (.reserveBudget command))
    : reserveBudget store definitions (some now) command = .ok outcome
        ↔ (command.workerFence.InSchemaOrder
              ∧ command.work.InSchemaOrder
              ∧ command.requested.InSchemaOrder)
            ∧ { result := .accepted, stored, published := none } = outcome := by
  obtain ⟨⟨plan, hplan⟩, reservation, hfound, hfence, hwork, hrequested⟩ := hrecorded
  simp only [reserveBudget, bind_eq_ok, requireJob_eq_ok, parseTimestamp_eq_ok,
    assertReplayWorkerMutationFence_eq_ok]
  constructor
  . rintro ⟨_, ⟨hsame, _⟩, _, _, _, _, _, _, h⟩
    rw [hjob] at hsame
    cases hsame
    simp only [hfound, bind_eq_ok, failIf_eq_ok, pure_eq_ok, not_or, not_not, sameJson_iff hfence,
      sameJson_iff hwork, sameJson_iff hrequested] at h
    obtain ⟨_, horder, rfl⟩ := h
    exact ⟨horder, rfl⟩
  . rintro ⟨horder, rfl⟩
    refine ⟨stored, ⟨hjob, hscope⟩, plan, hplan, now, rfl, lease, ⟨hkept.accepted, hlive⟩, ?_⟩
    simp only [hfound, bind_eq_ok, failIf_eq_ok, pure_eq_ok, not_or, not_not, sameJson_iff hfence,
      sameJson_iff hwork, sameJson_iff hrequested]
    exact ⟨(), horder, trivial⟩

theorem safeNonnegativeInteger_of_room {place : Nat} (h : place ≤ maxArrayLength + maxArrayLength)
    : safeNonnegativeInteger place := by
  unfold maxArrayLength at h
  unfold safeNonnegativeInteger boundedInteger maxSafeInteger
  omega

theorem reconcileReplayBudget_again {command : ReconcileDurableReplayBudgetCommand}
    {reservation : ReplayBudgetReservation} {reconciliation : ReplayBudgetReconciliation}
    (hkept : Kept key stored) (hopened : reservation ∈ reservations stored.budgetLedger)
    (hid : reservation.reservationId = command.reservationId)
    (hfound : reconciliation ∈ reconciliations stored.budgetLedger)
    (hreconciliationId : reconciliation.reconciliationId = command.reconciliationId)
    (hsettles : Settles command reservation reconciliation)
    : reconcileReplayBudget reservation
          { ledgerSequence := stored.budgetLedger.length
            reconciledAt := now
            reconciliationId := command.reconciliationId
            usage := command.usage }
        = .ok
            { reconciliation with
              ledgerSequence := stored.budgetLedger.length
              reconciledAt := now
              scope := reservation.scope } := by
  have hreservation : reservation.Accepted :=
    hkept.ledger.accepted (.reservation reservation) (mem_reservations.mp hopened)
  have hreconciliation : reconciliation.Accepted := by
    apply hkept.ledger.accepted (.reconciliation reconciliation)
    simp only [reconciliations, List.mem_filterMap] at hfound
    obtain ⟨entry, hentry, hsome⟩ := hfound
    cases entry with
    | reservation => contradiction
    | reconciliation other =>
      cases hsome
      exact hentry
  have hdimensions : (fun dimension =>
      reconcileDimension (reservation.dimensions dimension).reservedAmount (command.usage dimension))
        = reconciliation.dimensions := by
    funext dimension
    exact (hsettles.dimensions dimension).symm
  have husage : ∀ dimension, (command.usage dimension).Accepted := by
    intro dimension
    have haccepted := (hreconciliation.dimensions dimension).1.actualUsage
    rw [hsettles.dimensions, reconcileDimension_actualUsage] at haccepted
    exact haccepted
  simp only [reconcileReplayBudget, parseReservation, parseReconciliation, parseUsage, bind_eq_ok,
    parseWith_eq_ok, mapDimensions_eq_ok]
  refine ⟨reservation, ⟨hreservation, rfl⟩, command.usage, ?_, ?_, ?_⟩
  . intro dimension
    exact ⟨husage dimension, rfl⟩
  . rw [hdimensions]
    constructor
    . exact hreconciliation.dimensions
    . apply safeNonnegativeInteger_of_room
      exact le_add_right hkept.bounded.ledger
    . exact hreservation.mutationFence
    . exact hreconciliationId ▸ hreconciliation.reconciliationId
    . exact hreservation.reservationId
    . exact hreservation.scope
  . rw [hdimensions, hsettles.reservation_fence, ← hsettles.mutationFence, hid,
      ← hsettles.reservationId, ← hreconciliationId]

theorem reconcileBudget_again {command : ReconcileDurableReplayBudgetCommand}
    (hjob : store.jobs (command.scope.tenantId, command.workerFence.jobId) = some stored)
    (hscope : stored.job.scope = command.scope) (hkept : Kept key stored)
    (hlive : FenceLive stored.job command.workerFence now lease)
    (hrecorded : Recorded definitions stored (.reconcileBudget command))
    : reconcileBudget store (some now) command
        = .ok { result := .accepted, stored, published := none } := by
  obtain ⟨reservation, reconciliation, hopened, hfound, hsettles⟩ := hrecorded
  obtain ⟨hreservation, hid⟩ := reservationOf_eq_some hopened
  have hreconciliationId : reconciliation.reconciliationId = command.reconciliationId := by
    simpa using List.find?_some hfound
  have hcandidate := @reconcileReplayBudget_again now _ _ _ _ _ hkept hreservation hid
    (List.mem_of_find?_eq_some hfound) hreconciliationId hsettles
  simp only [reconcileBudget, bind_eq_ok, requireJob_eq_ok, parseTimestamp_eq_ok,
    assertReplayWorkerMutationFence_eq_ok, found_eq_ok, failIf_eq_ok, not_not]
  refine ⟨stored, ⟨hjob, hscope⟩, now, rfl, lease, ⟨hkept.accepted, hlive⟩, reservation, hopened, (),
    hsettles.reservation_fence, _, hcandidate, ?_⟩
  rw [hfound, Option.some_or]
  simp [bind, Except.bind, failIf, pure, Except.pure]

theorem appendExecutionObservation_again {command : AppendReplayExecutionObservationCommand}
    (hjob : store.jobs (command.scope.tenantId, command.workerFence.jobId) = some stored)
    (hscope : stored.job.scope = command.scope) (hkept : Kept key stored)
    (hlive : FenceLive stored.job command.workerFence now lease)
    (hrecorded : Recorded definitions stored (.appendExecutionObservation command))
    : appendExecutionObservation store definitions (some now) command
        = .ok { result := .accepted, stored, published := none } := by
  obtain ⟨⟨plan, hplan, hpayload⟩, observation, hfound, hfence, hsamePayload, hsameScope⟩ := hrecorded
  have hid : observation.observationId = command.observationId := by
    simpa using List.find?_some hfound
  have haccepted := hkept.observations.executions_accepted _ (List.mem_of_find?_eq_some hfound)
  simp only [appendExecutionObservation, bind_eq_ok, requireJob_eq_ok, parseTimestamp_eq_ok,
    assertReplayWorkerMutationFence_eq_ok, parseWith_eq_ok]
  refine ⟨stored, ⟨hjob, hscope⟩, plan, hplan, now, rfl, lease, ⟨hkept.accepted, hlive⟩, (), hpayload,
    _, ⟨?_, rfl⟩, ?_⟩
  . rw [← hfence, ← hid, ← hsamePayload, ← hsameScope]
    refine { haccepted with observationSequence := ?_ }
    apply safeNonnegativeInteger_of_room
    exact Nat.add_le_add hkept.bounded.executions hkept.bounded.usages
  . simp only [appendExecution, hfound, bind_eq_ok, failIf_eq_ok, pure_eq_ok, not_not]
    refine ⟨(), ?_, trivial⟩
    rw [← hfence, ← hid, ← hsamePayload, ← hsameScope]

theorem appendUsageObservation_again {command : AppendReplayUsageObservationCommand}
    (hjob : store.jobs (command.scope.tenantId, command.workerFence.jobId) = some stored)
    (hscope : stored.job.scope = command.scope) (hkept : Kept key stored)
    (hlive : FenceLive stored.job command.workerFence now lease)
    (hrecorded : Recorded definitions stored (.appendUsageObservation command))
    : appendUsageObservation store definitions (some now) command
        = .ok { result := .accepted, stored, published := none } := by
  obtain ⟨⟨plan, hplan, hboundary⟩, observation, hfound, hboundaryId, hmeasurements, hfence, hsameScope,
    hsource⟩ := hrecorded
  have hid : observation.observationId = command.observationId := by
    simpa using List.find?_some hfound
  have hmem := List.mem_of_find?_eq_some hfound
  have haccepted := hkept.observations.usages_accepted _ hmem
  simp only [appendUsageObservation, bind_eq_ok, requireJob_eq_ok, parseTimestamp_eq_ok,
    assertReplayWorkerMutationFence_eq_ok, parseWith_eq_ok, failIf_eq_ok]
  refine ⟨stored, ⟨hjob, hscope⟩, plan, hplan, now, rfl, lease, ⟨hkept.accepted, hlive⟩, (), ?_,
    _, ⟨?_, rfl⟩, ?_⟩
  . push Not
    exact hboundary
  . rw [← hboundaryId, ← hmeasurements, ← hfence, ← hid, ← hsameScope, ← hsource]
    refine { haccepted with observationSequence := ?_ }
    apply safeNonnegativeInteger_of_room
    exact Nat.add_le_add hkept.bounded.executions hkept.bounded.usages
  . simp only [appendUsage, hfound, bind_eq_ok, failIf_eq_ok, pure_eq_ok, not_not]
    refine ⟨(), ?_, (), ?_, trivial⟩
    . -- No identifier is borne by observations of both kinds.
      rintro ⟨other, hother, hsameId⟩
      have hnodup := hkept.observations.ids_nodup
      rw [ReplayJobSnapshot.observations, List.map_append, List.nodup_append] at hnodup
      apply hnodup.2.2 command.observationId _ command.observationId _ rfl
      . simp only [List.map_map, List.mem_map, Function.comp_apply]
        exact ⟨other, hother, hsameId⟩
      . simp only [List.map_map, List.mem_map, Function.comp_apply]
        exact ⟨observation, hmem, hid⟩
    . rw [← hboundaryId, ← hmeasurements, ← hfence, ← hid, ← hsameScope, ← hsource]

def StillLive (store : ReplayJobStore) (now : UtcMillisecondTimestamp) (command : ReplayCommand) : Prop :=
  ∀ fence ∈ command.workerFence, ∃ stored lease,
    store.jobs command.key = some stored ∧ FenceLive stored.job fence now lease

theorem operate_again (hrepeatable : command.Repeatable) (hjob : store.jobs command.key = some stored)
    (hscope : stored.job.scope = command.scope) (hkept : Kept key stored)
    (hlive : StillLive store now command) (hrecorded : Recorded definitions stored command)
    : operate store definitions (some now) command = .ok outcome
        ↔ command.Recognized stored now
            ∧ { result := command.repeatedResult, stored, published := none } = outcome := by
  have hlease : ∀ fence ∈ command.workerFence, ∃ lease, FenceLive stored.job fence now lease := by
    intro fence hfence
    obtain ⟨other, lease, hother, hlive⟩ := hlive fence hfence
    rw [hjob] at hother
    cases hother
    exact ⟨lease, hlive⟩
  cases command with
  | createJob command => exact createJob_again hjob hscope hkept hrecorded
  | claimJob => contradiction
  | heartbeatJob => contradiction
  | requestCancellation command =>
    rw [operate, requestCancellation_again hjob hscope hkept hrecorded]
    simp [ReplayCommand.Recognized, ReplayCommand.repeatedResult]
  | acknowledgeCancellation command =>
    obtain ⟨lease, hlive⟩ := hlease _ rfl
    exact acknowledgeCancellation_again hjob hscope hkept hlive hrecorded
  | reserveBudget command =>
    obtain ⟨lease, hlive⟩ := hlease _ rfl
    exact reserveBudget_again hjob hscope hkept hlive hrecorded
  | reconcileBudget command =>
    obtain ⟨lease, hlive⟩ := hlease _ rfl
    rw [operate, reconcileBudget_again hjob hscope hkept hlive hrecorded]
    simp [ReplayCommand.Recognized, ReplayCommand.repeatedResult]
  | appendExecutionObservation command =>
    obtain ⟨lease, hlive⟩ := hlease _ rfl
    rw [operate, appendExecutionObservation_again hjob hscope hkept hlive hrecorded]
    simp [ReplayCommand.Recognized, ReplayCommand.repeatedResult]
  | appendUsageObservation command =>
    obtain ⟨lease, hlive⟩ := hlease _ rfl
    rw [operate, appendUsageObservation_again hjob hscope hkept hlive hrecorded]
    simp [ReplayCommand.Recognized, ReplayCommand.repeatedResult]
  | completeJob => contradiction

end Again

section Main

/-- The command is answered with the snapshot that its job has and nothing is stored. -/
def AnsweredAgain (definitions : ReplayDefinitions) (now : UtcMillisecondTimestamp)
    (store : ReplayJobStore) (command : ReplayCommand) : Prop :=
  ∃ stored,
    store.jobs command.key = some stored
      ∧ run definitions (some now) command store
          = .ok (command.repeatedResult, stored.toReplayJobSnapshot) store

theorem json_key (command : ReplayCommand) : command.json.key = command.key := by
  cases command <;> rfl

theorem json_scope (command : ReplayCommand) : command.json.scope = command.scope := by
  cases command <;> rfl

theorem json_repeatable (command : ReplayCommand) : command.json.Repeatable ↔ command.Repeatable := by
  cases command <;> rfl

theorem holds_json {again : ReplayCommand} (h : again.json = command.json)
    (hholds : Holds definitions command store)
    : Holds definitions again store := by
  obtain ⟨stored, hjob, hscope, hrecorded⟩ := hholds
  refine ⟨stored, ?_, ?_, ?_⟩
  . rw [← json_key, h, json_key, hjob]
  . rw [← json_scope, h, json_scope, hscope]
  . rw [← recorded_json, h, recorded_json]
    exact hrecorded

theorem resubmission_recognized {store next last : ReplayJobStore} {other : ReplayDefinitions}
    {again : ReplayCommand} {value : ReplayJobResult × ReplayJobSnapshot} (hreachable : Reachable store)
    (haccepted : run definitions reading command store = .ok value next)
    (hrepeatable : command.Repeatable) (hlater : Later step next last)
    (hextends : definitions.Extends other) (hjson : again.json = command.json)
    (hlive : StillLive last now again)
    : AnsweredAgain other now last again
        ↔ ∀ stored ∈ last.jobs again.key, again.Recognized stored now := by
  have hcases := run_cases definitions reading command store
  rw [haccepted] at hcases
  obtain ⟨outcome, houtcome, _, _, rfl⟩ := hcases
  have hnext : Later step store (written store command.key outcome) := by
    have hstep : step store (.call definitions reading command) = written store command.key outcome := by
      simp only [step, haccepted]
    rw [← hstep]
    exact Later.next (Later.refl _) _
  have hlast : Reachable last := Later.trans hreachable (Later.trans hnext hlater)
  have hholds := Later.preserves holds_step hlater (holds_written hrepeatable houtcome)
  obtain ⟨stored, hjob, hscope, hrecorded⟩ := holds_json hjson hholds
  have hagain : again.Repeatable := by
    rw [← json_repeatable, hjson, json_repeatable]
    exact hrepeatable
  have hoperate {outcome : ReplayOutcome} :=
    @operate_again last other now stored outcome _ again hagain hjob hscope (hlast.keeps _ _ hjob) hlive
      (hrecorded.extends hextends)
  have hcurrent : (∀ stored ∈ last.jobs again.key, again.Recognized stored now)
      ↔ again.Recognized stored now := by
    simp [hjob]
  rw [hcurrent]
  constructor
  . rintro ⟨_, _, hrun⟩
    have hcases := run_cases other (some now) again last
    rw [hrun] at hcases
    obtain ⟨_, houtcome, _⟩ := hcases
    exact (hoperate.mp houtcome).1
  . intro hrecognized
    have hrun := run_of_operate (hoperate.mpr ⟨hrecognized, rfl⟩) (by simp)
    exact ⟨stored, hjob, hrun⟩

def sampleReordered : CreateReplayJobCommand :=
  { sampleCreate with
    plan :=
      { value := samplePlanReference
        keys := ["planId", "planVersionId", "definitionSha256"]
        keys_perm := by decide } }

theorem resubmission_recognized_sampleCreate
    : AnsweredAgain sampleDefinitions (sampleTime 1100) sampleRequested (.createJob sampleCreate) := by
  have hlater : Later step (sampleStore (createdJob sampleQueuedJob)) sampleRequested := by
    unfold sampleRequested
    rw [← step_sampleRequest, ← step_sampleClaim]
    apply Later.next
    apply Later.next
    exact Later.refl _
  apply (resubmission_recognized (Later.refl _) run_sampleCreate trivial hlater (fun _ _ _ h => h) rfl
    (by simp [StillLive, ReplayCommand.workerFence])).mpr
  intro stored _
  rfl

theorem resubmission_conflict_sampleReordered
    : run sampleDefinitions (some (sampleTime 1000)) (.createJob sampleCreate) .empty
          =
        .ok (.created true, (createdJob sampleQueuedJob).toReplayJobSnapshot)
          (sampleStore (createdJob sampleQueuedJob))
        ∧ (ReplayCommand.createJob sampleReordered).json = (ReplayCommand.createJob sampleCreate).json
        ∧ StillLive (sampleStore (createdJob sampleQueuedJob)) (sampleTime 1000)
            (.createJob sampleReordered)
        ∧ run sampleDefinitions (some (sampleTime 1000)) (.createJob sampleReordered)
              (sampleStore (createdJob sampleQueuedJob))
            =
          .error .jobConflict (sampleStore (createdJob sampleQueuedJob))
        ∧ ¬AnsweredAgain sampleDefinitions (sampleTime 1000) (sampleStore (createdJob sampleQueuedJob))
            (.createJob sampleReordered) := by
  have hcandidate : createQueuedReplayJob sampleScope sampleReordered.createdByPrincipalId
        sampleReordered.jobId samplePlanReference (sampleTime 1000)
      = .ok sampleQueuedJob := by
    simp only [createQueuedReplayJob, bind_eq_ok, parseWith_eq_ok, parseJob_eq_ok]
    exact ⟨_, ⟨by decide, rfl⟩, sampleQueuedJob_accepted, rfl⟩
  have hrun : run sampleDefinitions (some (sampleTime 1000)) (.createJob sampleReordered)
        (sampleStore (createdJob sampleQueuedJob))
      = .error .jobConflict (sampleStore (createdJob sampleQueuedJob)) := by
    have hoperate : operate (sampleStore (createdJob sampleQueuedJob)) sampleDefinitions
          (some (sampleTime 1000)) (.createJob sampleReordered)
        = .error .jobConflict := by
      have hplan : ¬(samplePlan.planId ≠ sampleReordered.plan.value.planId
          ∨ samplePlan.definitionSha256 ≠ sampleReordered.plan.value.definitionSha256) := by
        decide
      have hconflict : ¬sampleReordered.plan.sameJson sampleQueuedJob.plan := by
        decide
      unfold operate createJob
      refine (bind_of_ok (a := samplePlan) rfl).trans ?_
      refine (bind_of_ok (a := ()) (failIf_eq_ok.mpr hplan)).trans ?_
      refine (bind_of_ok (a := sampleTime 1000) rfl).trans ?_
      refine (bind_of_ok hcandidate).trans ?_
      exact failIf_bind_of_true (.inr (.inr hconflict))
    unfold run
    rw [get_bind_run, hoperate]
    rfl
  refine ⟨run_sampleCreate, rfl, by simp [StillLive, ReplayCommand.workerFence], hrun, ?_⟩
  rintro ⟨_, _, hok⟩
  rw [hrun] at hok
  cases hok

end Main

end Replay
end ProofStack
