import ProofStack.Replay.JobHistory

/-!
This module contains the records that the attempts of a replay job leave behind.
-/

namespace ProofStack
namespace Replay

open Checks Sequence

variable {job next : ReplayJob} {attempts later : List ReplayAttempt}
variable {ledger : List ReplayBudgetLedgerEntry} {now : UtcMillisecondTimestamp}
variable {stored : StoredReplayJob}

section Ledger

variable {progress : LedgerProgress}

theorem validateBudgetLedger_append {entry : ReplayBudgetLedgerEntry}
    : validateBudgetLedger job attempts (ledger ++ [entry]) = .ok progress
        ↔ ∃ middle,
            validateBudgetLedger job attempts ledger = .ok middle
              ∧ validateEntry job attempts (0 + ledger.length) middle entry = .ok progress :=
  foldIndexed_append_eq_ok

theorem validateBudgetLedger_continues (hscope : next.scope = job.scope)
    (hcontinues : Continues attempts later)
    (h : validateBudgetLedger job attempts ledger = .ok progress)
    : validateBudgetLedger next later ledger = .ok progress := by
  have hstep : ∀ index (left right : LedgerProgress) entry result, True → left = right →
      validateEntry job attempts index left entry = .ok result →
      ∃ result', validateEntry next later index right entry = .ok result' ∧ result = result' := by
    intro index left right entry result _ hsame hentry
    subst hsame
    refine ⟨result, ?_, rfl⟩
    rw [validateEntry_eq_ok] at hentry ⊢
    obtain ⟨hindex, hentryScope, hfenced, hresult⟩ := hentry
    exact ⟨hindex, hentryScope.trans hscope.symm, hcontinues.fenced hfenced, hresult⟩
  obtain ⟨result, hresult, heq⟩ := foldIndexed_follows hstep (fun _ _ => trivial) rfl h
  rw [heq]
  exact hresult

theorem entry_fenced
    (h : validateBudgetLedger job attempts ledger = .ok progress)
    : ∀ entry ∈ ledger, entry.scope = job.scope ∧ Fenced attempts entry.mutationFence := by
  induction ledger using List.reverseRecOn generalizing progress with
  | nil =>
    intro entry hentry
    contradiction
  | append_singleton ledger last ih =>
    rw [validateBudgetLedger_append] at h
    obtain ⟨middle, hmiddle, hlast⟩ := h
    rw [validateEntry_eq_ok] at hlast
    intro entry hentry
    rw [List.mem_append, List.mem_singleton] at hentry
    obtain hentry | rfl := hentry
    . exact ih hmiddle entry hentry
    . exact ⟨hlast.2.1, hlast.2.2.1⟩

variable {reservation : ReplayBudgetReservation}

theorem mem_reservations
    : reservation ∈ reservations ledger ↔ .reservation reservation ∈ ledger := by
  unfold reservations
  rw [List.mem_filterMap]
  constructor
  . rintro ⟨entry, hentry, heq⟩
    cases entry with
    | reservation entry =>
      cases heq
      exact hentry
    | reconciliation entry => contradiction
  . intro hentry
    exact ⟨_, hentry, rfl⟩

structure Seen (ledger : List ReplayBudgetLedgerEntry) (progress : LedgerProgress) : Prop where
  reservations : progress.reservations = reservations ledger
  reconciliationIds :
    progress.reconciliationIds = (reconciliations ledger).map (·.reconciliationId)
  reconciledReservations :
    progress.reconciledReservations = (reconciliations ledger).map (·.reservationId)

theorem seen_of_validateBudgetLedger
    (h : validateBudgetLedger job attempts ledger = .ok progress)
    : Seen ledger progress := by
  induction ledger using List.reverseRecOn generalizing progress with
  | nil =>
    cases h
    exact ⟨rfl, rfl, rfl⟩
  | append_singleton ledger entry ih =>
    rw [validateBudgetLedger_append] at h
    obtain ⟨middle, hmiddle, hentry⟩ := h
    have hseen := ih hmiddle
    rw [validateEntry_eq_ok] at hentry
    obtain ⟨_, _, _, hentry⟩ := hentry
    cases entry with
    | reservation entry =>
      dsimp only at hentry
      rw [validateReservation_eq_ok] at hentry
      rw [hentry.next_eq]
      constructor
      . simp [hseen.reservations]
      . simpa using hseen.reconciliationIds
      . simpa using hseen.reconciledReservations
    | reconciliation entry =>
      dsimp only at hentry
      rw [validateReconciliation_eq_ok] at hentry
      obtain ⟨_, hentry⟩ := hentry
      rw [hentry.next_eq]
      constructor
      . simpa using hseen.reservations
      . simp [hseen.reconciliationIds]
      . simp [hseen.reconciledReservations]

structure LedgerKept (job : ReplayJob) (attempts : List ReplayAttempt)
    (ledger : List ReplayBudgetLedgerEntry) : Prop where
  accepted : ∀ entry ∈ ledger, entry.Accepted
  validated : ∃ progress, validateBudgetLedger job attempts ledger = .ok progress

variable {summary : ReplayBudgetLedgerSummary}

theorem summarizeReplayBudgetLedger_eq_ok
    (h : summarizeReplayBudgetLedger ledger = .ok summary)
    : ∃ progress,
        foldIndexed summarizeEntry 0 .start ledger = .ok progress ∧ progress.summary = summary := by
  simpa only [summarizeReplayBudgetLedger, bind_eq_ok, pure_eq_ok] using h

namespace LedgerKept

theorem continues (h : LedgerKept job attempts ledger) (hscope : next.scope = job.scope)
    (hcontinues : Continues attempts later)
    : LedgerKept next later ledger := by
  obtain ⟨progress, hprogress⟩ := h.validated
  exact ⟨h.accepted, progress, validateBudgetLedger_continues hscope hcontinues hprogress⟩

theorem append (h : LedgerKept job attempts ledger) {entry : ReplayBudgetLedgerEntry}
    {progress result : LedgerProgress} (haccepted : entry.Accepted)
    (hprogress : validateBudgetLedger job attempts ledger = .ok progress)
    (hentry : validateEntry job attempts (0 + ledger.length) progress entry = .ok result)
    : LedgerKept job attempts (ledger ++ [entry]) where
  accepted := List.forall_mem_append.mpr ⟨h.accepted, List.forall_mem_singleton.mpr haccepted⟩
  validated := ⟨result, validateBudgetLedger_append.mpr ⟨progress, hprogress, hentry⟩⟩

theorem reserve (h : LedgerKept job attempts ledger)
    {options : ReserveReplayBudgetOptions}
    (hsummary : summarizeReplayBudgetLedger ledger = .ok summary)
    (hcommitted : options.committed = summary.committed)
    (hsequence : options.ledgerSequence = ledger.length) (hscope : options.scope = job.scope)
    (hfenced : Fenced attempts options.mutationFence)
    (hfresh : reservationOf ledger options.reservationId = none)
    (hreserved : reserveReplayBudget options = .ok reservation)
    : LedgerKept job attempts (ledger ++ [.reservation reservation]) := by
  obtain ⟨progress, hprogress⟩ := h.validated
  obtain ⟨summarized, hsummarized, habreast⟩ := summarized_of_validateBudgetLedger h.accepted hprogress
  obtain ⟨other, hother, rfl⟩ := summarizeReplayBudgetLedger_eq_ok hsummary
  rw [hsummarized] at hother
  cases hother
  have hfields := reserved_of_reserveReplayBudget hreserved
  simp only [reserveReplayBudget, parseReservation, bind_eq_ok, parseWith_eq_ok] at hreserved
  obtain ⟨_, _, _, _, _, _, haccepted, rfl⟩ := hreserved
  apply @append _ _ _ h (.reservation _) _ _ haccepted hprogress
  rw [validateEntry_eq_ok]
  refine ⟨?_, hscope, hfenced, ?_⟩
  . show options.ledgerSequence = _
    omega
  . rw [validateReservation_eq_ok]
    constructor
    case next_eq => rfl
    case fresh =>
      unfold LedgerProgress.reservationOf
      rw [(seen_of_validateBudgetLedger hprogress).reservations]
      exact hfresh
    case committedBefore =>
      intro dimension
      rw [hfields.committedBefore, hcommitted]
      exact congrFun habreast.committed dimension
    case committed_le =>
      intro dimension
      have hdimension := haccepted.dimensions.1 dimension
      have hlimit := hdimension.1.limit.2
      have hissues := hdimension.2
      simp only [ReplayBudgetReservationDimension.issues, issue_eq_nil] at hissues
      have hbefore := hfields.committedBefore dimension
      rw [hcommitted, show summarized.summary.committed = summarized.committed from rfl,
        habreast.committed] at hbefore
      dsimp only at hlimit hissues hbefore ⊢
      omega

theorem reconcile (h : LedgerKept job attempts ledger)
    {options : ReconcileReplayBudgetOptions}
    {reconciliation : ReplayBudgetReconciliation}
    (hreconciled : reconcileReplayBudget reservation options = .ok reconciliation)
    (hopened : reservationOf ledger reservation.reservationId = some reservation)
    (hsequence : options.ledgerSequence = ledger.length)
    (hfresh :
      ∀ existing ∈ reconciliations ledger, existing.reconciliationId ≠ options.reconciliationId)
    (hsummary :
      summarizeReplayBudgetLedger (ledger ++ [.reconciliation reconciliation]) = .ok summary)
    : LedgerKept job attempts (ledger ++ [.reconciliation reconciliation]) := by
  obtain ⟨progress, hprogress⟩ := h.validated
  obtain ⟨summarized, hsummarized, habreast⟩ := summarized_of_validateBudgetLedger h.accepted hprogress
  have hseen := seen_of_validateBudgetLedger hprogress
  have hfields := reconciled_of_reconcileReplayBudget hreconciled
  obtain ⟨_, hfold, _⟩ := summarizeReplayBudgetLedger_eq_ok hsummary
  rw [foldIndexed_append_eq_ok] at hfold
  obtain ⟨middle, hmiddle, hentry⟩ := hfold
  rw [hsummarized] at hmiddle
  cases hmiddle
  rw [summarizeEntry_reconciliation_eq_ok] at hentry
  obtain ⟨_, hopen, ⟨other, hother, happlied⟩, _⟩ := hentry
  have hmem := reservationOf_eq_some hopened
  have hsame : other = reservation := by
    rw [habreast.reservationOf, LedgerProgress.reservationOf, hseen.reservations,
      hfields.reservationId] at hother
    exact Option.some.inj (hother.symm.trans hopened)
  subst hsame
  have hfenced := entry_fenced hprogress (.reservation other) (mem_reservations.mp hmem.1)
  apply @append _ _ _ h (.reconciliation _) _ _ hfields.accepted hprogress
  rw [validateEntry_eq_ok]
  refine ⟨?_, ?_, ?_, ?_⟩
  . show reconciliation.ledgerSequence = _
    rw [hfields.ledgerSequence]
    omega
  . show reconciliation.scope = _
    rw [hfields.scope]
    exact hfenced.1
  . show Fenced attempts reconciliation.mutationFence
    rw [hfields.mutationFence]
    exact hfenced.2
  . rw [validateReconciliation_eq_ok]
    refine ⟨other, ?_⟩
    rw [habreast.committed] at happlied
    constructor
    case next_eq => rfl
    case opened =>
      rw [← habreast.reservationOf]
      exact hother
    case reconciliationId =>
      rw [hseen.reconciliationIds, hfields.reconciliationId]
      simpa using hfresh
    case unreconciled =>
      rw [← habreast.reconciled]
      exact hopen
    case scope => exact hfields.scope
    case mutationFence => exact hfields.mutationFence
    case reservedAmount => exact happlied.reservedAmount
    case released_le => exact happlied.released_le
    case committed_le =>
      intro dimension
      dsimp only
      rw [← happlied.result_eq]
      exact happlied.result_le dimension

end LedgerKept

end Ledger

section Acknowledgements

structure AcknowledgementKept (value : ReplayJobSnapshot)
    (acknowledgement : ReplayCancellationAcknowledgement) : Prop where
  accepted : acknowledgement.Accepted
  requested :
    ∃ request ∈ value.cancellationRequest,
      acknowledgement.cancellationId = request.cancellationId
        ∧ request.requestedAt.value ≤ acknowledgement.acknowledgedAt.value
  fenced : Fenced value.attempts acknowledgement.mutationFence
  scope : acknowledgement.scope = value.job.scope

structure AcknowledgementsKept (value : ReplayJobSnapshot) : Prop where
  kept : ∀ acknowledgement ∈ value.cancellationAcknowledgements, AcknowledgementKept value acknowledgement
  ids_nodup : (value.cancellationAcknowledgements.map (·.acknowledgementId)).Nodup

end Acknowledgements

section Observations

structure ObservationsKept (value : ReplayJobSnapshot) : Prop where
  executions_accepted : ∀ observation ∈ value.executionObservations, observation.Accepted
  usages_accepted : ∀ observation ∈ value.usageObservations, observation.Accepted
  ids_nodup : (value.observations.map (·.observationId)).Nodup
  sequences :
    (value.observations.map (·.observationSequence)).Perm (List.range value.observations.length)
  executions_sorted :
    value.executionObservations.IsChain (fun left right =>
      left.observationSequence < right.observationSequence)
  usages_sorted :
    value.usageObservations.IsChain (fun left right =>
      left.observationSequence < right.observationSequence)
  fenced :
    ∀ observation ∈ value.observations,
      Fenced value.attempts observation.mutationFence ∧ observation.scope = value.job.scope
  namesRequest : ∀ observation ∈ value.executionObservations, value.NamesRequest observation

theorem ObservationsKept.sequence_lt {value : ReplayJobSnapshot} (h : ObservationsKept value)
    {observation : ReplayObservation} (hmem : observation ∈ value.observations)
    : observation.observationSequence < value.observations.length := by
  rw [← List.mem_range, ← h.sequences.mem_iff]
  exact List.mem_map_of_mem hmem

theorem observations_length (value : ReplayJobSnapshot)
    : value.observations.length
        =
      value.executionObservations.length + value.usageObservations.length := by
  simp [ReplayJobSnapshot.observations]

theorem observation_added {value next : ReplayJobSnapshot} (h : ObservationsKept value)
    {added : ReplayObservation} (hperm : next.observations.Perm (value.observations ++ [added]))
    (hfresh : added.observationId ∉ value.observations.map (·.observationId))
    (hsequence : added.observationSequence = value.observations.length)
    : (next.observations.map (·.observationId)).Nodup
        ∧ (next.observations.map (·.observationSequence)).Perm
            (List.range next.observations.length) := by
  constructor
  . rw [(hperm.map _).nodup_iff, List.map_append, List.map_cons, List.map_nil,
      ← List.concat_eq_append, List.nodup_concat]
    exact ⟨hfresh, h.ids_nodup⟩
  . rw [hperm.length_eq, List.length_append, List.length_singleton, List.range_succ]
    apply (hperm.map _).trans
    rw [List.map_append, List.map_cons, List.map_nil, hsequence]
    exact h.sequences.append_right _

theorem isChain_append_last {α : Type} {sequence : α → Nat} {values : List α} {value : α}
    (h : values.IsChain (fun left right => sequence left < sequence right))
    (hlast : ∀ other ∈ values, sequence other < sequence value)
    : (values ++ [value]).IsChain (fun left right => sequence left < sequence right) := by
  apply h.append (List.IsChain.singleton _)
  rintro left hleft right ⟨⟩
  exact hlast left (List.mem_of_getLast? hleft)

end Observations

namespace Transition

variable {command : ReplayCommand} {later : StoredReplayJob}

theorem request (h : Transition now stored command later) {request : ReplayCancellationRequest}
    (hrequest : stored.cancellationRequest = some request)
    : later.cancellationRequest = some request := by
  cases h with
  | requested hunset | cancelled hunset =>
    rw [hunset] at hrequest
    contradiction
  | _ => exact hrequest

theorem fenced_of_live {fence : ReplayWorkerMutationFence} {lease : ReplayLease}
    (hlive : FenceLive stored.job fence now lease) (hhistory : History stored.job stored.attempts)
    : Fenced stored.attempts fence := by
  have := (hhistory.lease lease hlive.currentLease).1
  rw [hlive.mutationFence] at this
  exact this

theorem ledgerKept (h : Transition now stored command later)
    (hscope : stored.job.scope = command.scope) (hhistory : History stored.job stored.attempts)
    (hledger : LedgerKept stored.job stored.attempts stored.budgetLedger)
    : LedgerKept later.job later.attempts later.budgetLedger := by
  have hkept := hledger.continues h.sameJob.scope (h.continues hhistory)
  cases h with
  | reserved haccepted hlive hfresh hsummarized hreserved =>
    exact hledger.reserve hsummarized rfl rfl hscope.symm (fenced_of_live hlive hhistory) hfresh
      hreserved
  | reconciled _ _ hopened _ hreconciled hfresh _ hsummarized =>
    have hid := (reservationOf_eq_some hopened).2
    rw [← hid] at hopened
    exact hledger.reconcile hreconciled hopened rfl hfresh hsummarized
  | _ => exact hkept

theorem acknowledgementKept (h : Transition now stored command later)
    (hhistory : History stored.job stored.attempts)
    {acknowledgement : ReplayCancellationAcknowledgement}
    (hkept : AcknowledgementKept stored.toReplayJobSnapshot acknowledgement)
    : AcknowledgementKept later.toReplayJobSnapshot acknowledgement where
  accepted := hkept.accepted
  requested := by
    obtain ⟨request, hrequest, hmatches⟩ := hkept.requested
    exact ⟨request, h.request hrequest, hmatches⟩
  fenced := (h.continues hhistory).fenced hkept.fenced
  scope := by
    rw [h.sameJob.scope]
    exact hkept.scope

theorem acknowledgementsKept (h : Transition now stored command later)
    (hhistory : History stored.job stored.attempts)
    (hkept : AcknowledgementsKept stored.toReplayJobSnapshot)
    : AcknowledgementsKept later.toReplayJobSnapshot := by
  have hbefore : ∀ acknowledgement ∈ stored.cancellationAcknowledgements,
      AcknowledgementKept later.toReplayJobSnapshot acknowledgement := by
    intro acknowledgement hmem
    exact h.acknowledgementKept hhistory (hkept.kept acknowledgement hmem)
  cases h with
  | @acknowledged command request acknowledgement hrequest hacknowledged hfresh =>
    rw [acknowledgeReplayCancellation_eq_ok] at hacknowledged
    obtain ⟨_, _, ⟨lease, hlive⟩, _, _, htime, haccepted, rfl⟩ := hacknowledged
    constructor
    . exact List.forall_mem_append.mpr ⟨hbefore,
        List.forall_mem_singleton.mpr ⟨haccepted, ⟨request, hrequest, rfl, htime⟩, fenced_of_live hlive hhistory, rfl⟩⟩
    . rw [List.map_append, List.map_cons, List.map_nil, ← List.concat_eq_append, List.nodup_concat]
      refine ⟨?_, hkept.ids_nodup⟩
      simpa using hfresh
  | _ => exact ⟨hbefore, hkept.ids_nodup⟩

theorem observation_fenced (h : Transition now stored command later)
    (hhistory : History stored.job stored.attempts)
    (hkept : ObservationsKept stored.toReplayJobSnapshot) {observation : ReplayObservation}
    (hmem : observation ∈ stored.observations)
    : Fenced later.attempts observation.mutationFence ∧ observation.scope = later.job.scope := by
  obtain ⟨hfenced, hscope⟩ := hkept.fenced observation hmem
  refine ⟨(h.continues hhistory).fenced hfenced, ?_⟩
  rw [h.sameJob.scope]
  exact hscope

theorem namesRequest (h : Transition now stored command later)
    {observation : ReplayExecutionObservation} (hnames : stored.NamesRequest observation)
    : later.NamesRequest observation := by
  intro cancellationId hcancellation
  have hrequest := hnames cancellationId hcancellation
  rw [Option.map_eq_some_iff] at hrequest
  obtain ⟨request, hrequest, hid⟩ := hrequest
  rw [h.request hrequest, Option.map_some, hid]

theorem observationsKept_of_eq (h : Transition now stored command later)
    (hhistory : History stored.job stored.attempts)
    (hkept : ObservationsKept stored.toReplayJobSnapshot)
    (hexecutions : later.executionObservations = stored.executionObservations)
    (husages : later.usageObservations = stored.usageObservations)
    : ObservationsKept later.toReplayJobSnapshot := by
  have hobservations : later.observations = stored.observations := by
    unfold ReplayJobSnapshot.observations
    rw [hexecutions, husages]
  constructor
  . rw [hexecutions]
    exact hkept.executions_accepted
  . rw [husages]
    exact hkept.usages_accepted
  . rw [hobservations]
    exact hkept.ids_nodup
  . rw [hobservations]
    exact hkept.sequences
  . rw [hexecutions]
    exact hkept.executions_sorted
  . rw [husages]
    exact hkept.usages_sorted
  . rw [hobservations]
    intro observation hmem
    exact h.observation_fenced hhistory hkept hmem
  . rw [hexecutions]
    intro observation hmem
    exact h.namesRequest (hkept.namesRequest observation hmem)

theorem observations_fenced (h : Transition now stored command later)
    (hhistory : History stored.job stored.attempts)
    (hkept : ObservationsKept stored.toReplayJobSnapshot) {added : ReplayObservation}
    (hperm : later.observations.Perm (stored.observations ++ [added]))
    (hfenced : Fenced stored.attempts added.mutationFence) (hscope : added.scope = stored.job.scope)
    : ∀ observation ∈ later.observations,
        Fenced later.attempts observation.mutationFence ∧ observation.scope = later.job.scope := by
  intro observation hmem
  rw [hperm.mem_iff, List.mem_append, List.mem_singleton] at hmem
  obtain hmem | rfl := hmem
  . exact h.observation_fenced hhistory hkept hmem
  . refine ⟨(h.continues hhistory).fenced hfenced, ?_⟩
    rw [h.sameJob.scope]
    exact hscope

theorem observationsKept (h : Transition now stored command later)
    (hscope : stored.job.scope = command.scope) (hhistory : History stored.job stored.attempts)
    (hkept : ObservationsKept stored.toReplayJobSnapshot)
    : ObservationsKept later.toReplayJobSnapshot := by
  have hequal := h.observationsKept_of_eq hhistory hkept
  have hlength := observations_length stored.toReplayJobSnapshot
  cases h with
  | @executionObserved command lease observation hjob hlive hpayload haccepted hobservation hfresh
      hroom =>
    have hperm : { stored with
          executionObservations := stored.executionObservations ++ [observation] }.observations.Perm
        (stored.observations ++ [observation.common]) := by
      simp only [ReplayJobSnapshot.observations, List.map_append, List.map_cons, List.map_nil,
        List.append_assoc]
      exact List.perm_append_comm.append_left _
    have hfenced : Fenced stored.attempts observation.common.mutationFence := by
      rw [hobservation]
      exact fenced_of_live hlive hhistory
    have hsequence : observation.observationSequence = stored.observations.length := by
      rw [hobservation, hlength]
      rfl
    obtain ⟨hids, hsequences⟩ := observation_added hkept hperm (by rw [hobservation]; exact hfresh)
      hsequence
    refine { hkept with
      ids_nodup := hids
      sequences := hsequences
      executions_accepted :=
        List.forall_mem_append.mpr ⟨hkept.executions_accepted, List.forall_mem_singleton.mpr haccepted⟩
      executions_sorted := isChain_append_last hkept.executions_sorted ?_
      fenced := ?_
      namesRequest := List.forall_mem_append.mpr ⟨hkept.namesRequest, List.forall_mem_singleton.mpr ?_⟩ }
    . intro other hother
      rw [hsequence]
      apply @ObservationsKept.sequence_lt _ hkept other.common
      exact List.mem_append_left _ (List.mem_map_of_mem hother)
    . apply observations_fenced (.executionObserved hjob hlive hpayload haccepted hobservation hfresh
        hroom)
        hhistory hkept hperm hfenced
      rw [hobservation]
      exact hscope.symm
    . rw [hobservation]
      exact hpayload
  | @usageObserved command lease observation hjob hlive haccepted hobservation hfresh hroom =>
    have hperm : { stored with
          usageObservations := stored.usageObservations ++ [observation] }.observations.Perm
        (stored.observations ++ [observation.common]) := by
      simp only [ReplayJobSnapshot.observations, List.map_append, List.map_cons, List.map_nil,
        List.append_assoc]
      exact List.Perm.refl _
    have hfenced : Fenced stored.attempts observation.common.mutationFence := by
      rw [hobservation]
      exact fenced_of_live hlive hhistory
    have hsequence : observation.observationSequence = stored.observations.length := by
      rw [hobservation, hlength]
      rfl
    obtain ⟨hids, hsequences⟩ := observation_added hkept hperm (by rw [hobservation]; exact hfresh)
      hsequence
    refine { hkept with
      ids_nodup := hids
      sequences := hsequences
      usages_accepted :=
        List.forall_mem_append.mpr ⟨hkept.usages_accepted, List.forall_mem_singleton.mpr haccepted⟩
      usages_sorted := isChain_append_last hkept.usages_sorted ?_
      fenced := ?_ }
    . intro other hother
      rw [hsequence]
      apply @ObservationsKept.sequence_lt _ hkept other.common
      exact List.mem_append_right _ (List.mem_map_of_mem hother)
    . apply observations_fenced (.usageObserved hjob hlive haccepted hobservation hfresh hroom) hhistory
        hkept hperm hfenced
      rw [hobservation]
      exact hscope.symm
  | _ => exact hequal rfl rfl

end Transition

end Replay
end ProofStack
