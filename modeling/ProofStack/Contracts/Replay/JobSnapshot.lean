import ProofStack.Contracts.Replay.Accounting
import ProofStack.Sequence.Fold
import ProofStack.Sequence.Linked

/-!
This module contains the complete state of a replay job together with the checks across its records.
-/

namespace ProofStack
namespace Replay

open Sequence

/-- The first attempt is the only one with its identifier, once the identifiers are known to be
unique. -/
def attemptOf (attempts : List ReplayAttempt) (attemptId : String) : Option ReplayAttempt :=
  attempts.find? (fun attempt => attempt.attemptId = attemptId)

def Fenced (attempts : List ReplayAttempt) (fence : ReplayWorkerMutationFence) : Prop :=
  ∃ attempt ∈ attemptOf attempts fence.attemptId, attempt.mutationFence = fence

instance (attempts : List ReplayAttempt) (fence : ReplayWorkerMutationFence)
    : Decidable (Fenced attempts fence) :=
  inferInstanceAs (Decidable (∃ _ ∈ _, _))

section Attempts

def ReplacesPrevious (previous attempt : ReplayAttempt) : Prop :=
  (∃ endedAt ∈ previous.endedAt, endedAt.value ≤ attempt.startedAt.value)
    ∧ previous.mutationFence.fencingToken < attempt.mutationFence.fencingToken
    ∧ previous.mutationFence.recoveryEpoch ≤ attempt.mutationFence.recoveryEpoch

instance (previous attempt : ReplayAttempt) : Decidable (ReplacesPrevious previous attempt) :=
  inferInstanceAs (Decidable (_ ∧ _))

def ValidAttempt (job : ReplayJob) (before : Option ReplayAttempt) (index : Nat)
    (attempt : ReplayAttempt) : Prop :=
  attempt.jobId = job.jobId
    ∧ attempt.attemptSequence = index
    ∧ attempt.scope = job.scope
    ∧ attempt.plan = job.plan
    ∧ attempt.mutationFence.recoveryEpoch ≤ job.recoveryEpoch
    ∧ attempt.mutationFence.fencingToken ≤ job.lastFencingToken
    ∧ ∀ previous ∈ before, ReplacesPrevious previous attempt

instance (job : ReplayJob) (before : Option ReplayAttempt) (index : Nat) (attempt : ReplayAttempt)
    : Decidable (ValidAttempt job before index attempt) :=
  inferInstanceAs (Decidable (_ ∧ _))

def RootAgrees (job : ReplayJob) (attempts : List ReplayAttempt) : Prop :=
  job.latestAttemptSequence = (if attempts = [] then none else some (attempts.length - 1))
    ∧ ∀ latest ∈ attempts.getLast?, latest.mutationFence.fencingToken = job.lastFencingToken

instance (job : ReplayJob) (attempts : List ReplayAttempt) : Decidable (RootAgrees job attempts) :=
  inferInstanceAs (Decidable (_ ∧ _))

def OwnsLatest (job : ReplayJob) (attempts : List ReplayAttempt) (lease : ReplayLease) : Prop :=
  Fenced attempts lease.mutationFence
    ∧ lease.mutationFence.jobId = job.jobId
    ∧ ∃ latest ∈ attempts.getLast?,
        latest.status = .running ∧ latest.mutationFence = lease.mutationFence

instance (job : ReplayJob) (attempts : List ReplayAttempt) (lease : ReplayLease)
    : Decidable (OwnsLatest job attempts lease) :=
  inferInstanceAs (Decidable (_ ∧ _))

def ClosesLatest (attempts : List ReplayAttempt) (terminal : ReplayJobTerminalRecord)
    (attemptId : String) : Prop :=
  ∃ attempt ∈ attemptOf attempts attemptId,
    (∃ latest ∈ attempts.getLast?, attempt.attemptId = latest.attemptId)
      ∧ attempt.status ≠ .running
      ∧ ∃ endedAt ∈ attempt.endedAt, endedAt.value ≤ terminal.committedAt.value

instance (attempts : List ReplayAttempt) (terminal : ReplayJobTerminalRecord) (attemptId : String)
    : Decidable (ClosesLatest attempts terminal attemptId) :=
  inferInstanceAs (Decidable (∃ _ ∈ _, _))

def validateAttempts (job : ReplayJob) (attempts : List ReplayAttempt) : List String :=
  if ¬((attempts.map (·.attemptId)).Nodup ∧ (attempts.map (·.mutationFence.leaseId)).Nodup) then
    ["Replay attempt and lease identifiers must be unique"]
  else if ¬(Linked (ValidAttempt job) none 0 attempts ∧ RootAgrees job attempts) then
    ["Replay attempt history must be contiguous, closed before replacement, and agree with the job root"]
  else if ¬∀ lease ∈ job.currentLease, OwnsLatest job attempts lease then
    ["The current lease must own the latest attempt"]
  else
    issue
      (¬∀ terminal ∈ job.terminal, ∀ attemptId ∈ terminal.attemptId,
        ClosesLatest attempts terminal attemptId)
      "The terminal record must close the latest attempt"

end Attempts

section BudgetLedger

structure LedgerProgress where
  committed : ReplayBudgetDimension → Nat
  reservations : List ReplayBudgetReservation
  reconciliationIds : List String
  reconciledReservations : List String

def LedgerProgress.start : LedgerProgress where
  committed := fun _ => 0
  reservations := []
  reconciliationIds := []
  reconciledReservations := []

def LedgerProgress.reservationOf (progress : LedgerProgress) (reservationId : String)
    : Option ReplayBudgetReservation :=
  progress.reservations.find? (fun reservation => reservation.reservationId = reservationId)

def validateReservation (progress : LedgerProgress) (entry : ReplayBudgetReservation)
    : Except String LedgerProgress :=
  if (progress.reservationOf entry.reservationId).isSome then
    .error "Budget reservation identifiers must be unique"
  else if
    ∃ dimension,
      (entry.dimensions dimension).committedBefore ≠ progress.committed dimension
        ∨ progress.committed dimension + (entry.dimensions dimension).reservedAmount > maxSafeInteger
  then
    .error "Budget reservation must extend the exact committed total without overflow"
  else
    .ok
      { progress with
        committed := fun dimension =>
          progress.committed dimension + (entry.dimensions dimension).reservedAmount
        reservations := progress.reservations ++ [entry] }

def validateReconciliation (progress : LedgerProgress) (entry : ReplayBudgetReconciliation)
    : Except String LedgerProgress :=
  match progress.reservationOf entry.reservationId with
  | none => .error "Budget reconciliation must close one exact open reservation"
  | some reservation =>
    if
      entry.reconciliationId ∈ progress.reconciliationIds
        ∨ entry.reservationId ∈ progress.reconciledReservations
        ∨ entry.scope ≠ reservation.scope
        ∨ entry.mutationFence ≠ reservation.mutationFence
    then
      .error "Budget reconciliation must close one exact open reservation"
    else if
      ∃ dimension,
        (entry.dimensions dimension).reservedAmount ≠ (reservation.dimensions dimension).reservedAmount
          ∨ progress.committed dimension < (entry.dimensions dimension).releasedAmount
          ∨ progress.committed dimension - (entry.dimensions dimension).releasedAmount
              + (entry.dimensions dimension).overrunAmount > maxSafeInteger
    then
      .error "Budget reconciliation must preserve exact reserved and committed totals"
    else
      .ok
        { progress with
          committed := fun dimension =>
            progress.committed dimension - (entry.dimensions dimension).releasedAmount
              + (entry.dimensions dimension).overrunAmount
          reconciliationIds := progress.reconciliationIds ++ [entry.reconciliationId]
          reconciledReservations := progress.reconciledReservations ++ [entry.reservationId] }

def validateEntry (job : ReplayJob) (attempts : List ReplayAttempt) (index : Nat)
    (progress : LedgerProgress) (entry : ReplayBudgetLedgerEntry) : Except String LedgerProgress :=
  if
    entry.ledgerSequence ≠ index
      ∨ entry.scope ≠ job.scope
      ∨ ¬Fenced attempts entry.mutationFence
  then
    .error "Replay budget history must be contiguous, scoped, and fenced"
  else
    match entry with
    | .reservation entry => validateReservation progress entry
    | .reconciliation entry => validateReconciliation progress entry

def validateBudgetLedger (job : ReplayJob) (attempts : List ReplayAttempt)
    (entries : List ReplayBudgetLedgerEntry) : Except String LedgerProgress :=
  foldIndexed (validateEntry job attempts) 0 .start entries

end BudgetLedger

@[ext]
structure ReplayJobSnapshot where
  attempts : List ReplayAttempt
  budgetLedger : List ReplayBudgetLedgerEntry
  cancellationAcknowledgements : List ReplayCancellationAcknowledgement
  cancellationRequest : Option ReplayCancellationRequest
  executionObservations : List ReplayExecutionObservation
  job : ReplayJob
  usageObservations : List ReplayUsageObservation

instance : DecidableEq ReplayJobSnapshot :=
  fun _ _ => decidable_of_iff _ ReplayJobSnapshot.ext_iff.symm

structure ReplayObservation where
  mutationFence : ReplayWorkerMutationFence
  observationId : String
  observationSequence : Nat
  observedAt : UtcMillisecondTimestamp
  scope : EvidenceScope
  deriving DecidableEq

def ReplayExecutionObservation.common (value : ReplayExecutionObservation) : ReplayObservation where
  mutationFence := value.mutationFence
  observationId := value.observationId
  observationSequence := value.observationSequence
  observedAt := value.observedAt
  scope := value.scope

def ReplayUsageObservation.common (value : ReplayUsageObservation) : ReplayObservation where
  mutationFence := value.mutationFence
  observationId := value.observationId
  observationSequence := value.observationSequence
  observedAt := value.observedAt
  scope := value.scope

namespace ReplayJobSnapshot

@[mk_iff]
structure Shape (value : ReplayJobSnapshot) : Prop where
  attempts : ∀ attempt ∈ value.attempts, attempt.Accepted
  budgetLedger : ∀ entry ∈ value.budgetLedger, entry.Accepted
  cancellationAcknowledgements :
    ∀ acknowledgement ∈ value.cancellationAcknowledgements, acknowledgement.Accepted
  cancellationRequest : ∀ request ∈ value.cancellationRequest, request.Accepted
  executionObservations : ∀ observation ∈ value.executionObservations, observation.Accepted
  job : value.job.Accepted
  usageObservations : ∀ observation ∈ value.usageObservations, observation.Accepted

instance (value : ReplayJobSnapshot) : Decidable value.Shape :=
  decidable_of_iff _ (shape_iff value).symm

def ledgerIssues (value : ReplayJobSnapshot) : List String :=
  match validateBudgetLedger value.job value.attempts value.budgetLedger with
  | .ok _ => []
  | .error message => [message]

def cancellationIssues (value : ReplayJobSnapshot) : List String :=
  issue
      (value.cancellationRequest ≠ none
        ∧ value.job.status ≠ .running
        ∧ value.job.status ≠ .cancelled)
      "A retained cancellation request requires a running or cancelled job"
    ++ issue
      (∃ cancellation ∈ value.cancellationRequest,
        cancellation.jobId ≠ value.job.jobId
          ∨ cancellation.scope ≠ value.job.scope
          ∨ cancellation.requestedAt.value < value.job.createdAt.value)
      "Cancellation must belong to the job and cannot precede its creation"
    ++ issue
      ((∃ terminal ∈ value.job.terminal, terminal.code = .cancellationCommitted)
        ∧ value.cancellationRequest = none)
      "A cancelled job must retain its exact cancellation request"

def InOrder (previous acknowledgement : ReplayCancellationAcknowledgement) : Prop :=
  previous.acknowledgedAt.value < acknowledgement.acknowledgedAt.value
    ∨ previous.acknowledgedAt.value = acknowledgement.acknowledgedAt.value
        ∧ previous.acknowledgementId < acknowledgement.acknowledgementId

instance (previous acknowledgement : ReplayCancellationAcknowledgement)
    : Decidable (InOrder previous acknowledgement) :=
  inferInstanceAs (Decidable (_ ∨ _ ∧ _))

def ValidAcknowledgement (value : ReplayJobSnapshot)
    (before : Option ReplayCancellationAcknowledgement) (_ : Nat)
    (acknowledgement : ReplayCancellationAcknowledgement) : Prop :=
  ∃ cancellation ∈ value.cancellationRequest,
    ∃ attempt ∈ attemptOf value.attempts acknowledgement.mutationFence.attemptId,
      acknowledgement.cancellationId = cancellation.cancellationId
        ∧ attempt.mutationFence = acknowledgement.mutationFence
        ∧ acknowledgement.scope = value.job.scope
        ∧ cancellation.requestedAt.value ≤ acknowledgement.acknowledgedAt.value
        ∧ attempt.startedAt.value ≤ acknowledgement.acknowledgedAt.value
        ∧ ∀ previous ∈ before, InOrder previous acknowledgement

instance (value : ReplayJobSnapshot) (before : Option ReplayCancellationAcknowledgement)
    (index : Nat) (acknowledgement : ReplayCancellationAcknowledgement)
    : Decidable (value.ValidAcknowledgement before index acknowledgement) :=
  inferInstanceAs (Decidable (∃ _ ∈ _, ∃ _ ∈ _, _))

def acknowledgementIssues (value : ReplayJobSnapshot) : List String :=
  issue (¬(value.cancellationAcknowledgements.map (·.acknowledgementId)).Nodup)
      "Cancellation acknowledgement identifiers must be unique"
    ++ issuesAlong
      (fun previous index acknowledgement =>
        issue (¬value.ValidAcknowledgement previous index acknowledgement)
          "Cancellation acknowledgement must match the exact request, fence, scope, and order")
      none 0 value.cancellationAcknowledgements

def observations (value : ReplayJobSnapshot) : List ReplayObservation :=
  value.executionObservations.map (·.common) ++ value.usageObservations.map (·.common)

def ValidObservation (value : ReplayJobSnapshot) (_ : Option ReplayObservation) (index : Nat)
    (observation : ReplayObservation) : Prop :=
  observation.observationSequence = index
    ∧ ∃ attempt ∈ attemptOf value.attempts observation.mutationFence.attemptId,
        attempt.mutationFence = observation.mutationFence
          ∧ observation.scope = value.job.scope
          ∧ attempt.startedAt.value ≤ observation.observedAt.value

instance (value : ReplayJobSnapshot) (previous : Option ReplayObservation) (index : Nat)
    (observation : ReplayObservation)
    : Decidable (value.ValidObservation previous index observation) :=
  inferInstanceAs (Decidable (_ ∧ _))

def observationIssues (value : ReplayJobSnapshot) : List String :=
  let sorted :=
    value.observations.mergeSort (fun left right =>
      decide (left.observationSequence ≤ right.observationSequence))
  issue (¬(value.observations.map (·.observationId)).Nodup)
      "Observation identifiers must be unique"
    ++ issue
      (¬(value.executionObservations.IsChain (fun left right =>
            left.observationSequence < right.observationSequence)
          ∧ value.usageObservations.IsChain (fun left right =>
            left.observationSequence < right.observationSequence)))
      "Observation lists must be strictly ordered"
    ++ issue (¬Linked value.ValidObservation none 0 sorted)
      "Observation history must be contiguous, scoped, fenced, and causally ordered"

def NamesRequest (value : ReplayJobSnapshot) (observation : ReplayExecutionObservation) : Prop :=
  ∀ cancellationId ∈ observation.payload.cancellationId,
    value.cancellationRequest.map (·.cancellationId) = some cancellationId

instance (value : ReplayJobSnapshot) (observation : ReplayExecutionObservation)
    : Decidable (value.NamesRequest observation) :=
  inferInstanceAs (Decidable (∀ _ ∈ _, _))

def cancellationObservationIssues (value : ReplayJobSnapshot) : List String :=
  value.executionObservations.flatMap (fun observation =>
    issue (¬value.NamesRequest observation)
      "Cancellation observations must name the exact durable request")

def issues (value : ReplayJobSnapshot) : List String :=
  let attemptIssues := validateAttempts value.job value.attempts
  if attemptIssues ≠ [] then
    attemptIssues
  else
    value.ledgerIssues
      ++ value.cancellationIssues
      ++ value.acknowledgementIssues
      ++ value.observationIssues
      ++ value.cancellationObservationIssues

def Accepted (value : ReplayJobSnapshot) : Prop :=
  value.Shape ∧ value.issues = []

instance (value : ReplayJobSnapshot) : Decidable value.Accepted :=
  inferInstanceAs (Decidable (_ ∧ _))

end ReplayJobSnapshot

end Replay
end ProofStack
