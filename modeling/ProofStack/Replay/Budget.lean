import ProofStack.Replay.JobState

/-!
This module contains the accounting of a replay budget.
-/

namespace ProofStack
namespace Replay

open Checks Sequence

abbrev ReplayBudgetAmounts : Type := ReplayBudgetDimension → Nat
abbrev ReplayUsageMeasurements : Type := ReplayBudgetDimension → ReplayUsageMeasurement

-- The dimensions are visited in their declared order, so the first failing one decides the error.
def mapDimensions {α : Type} (map : ReplayBudgetDimension → Except ReplayError α)
    : Except ReplayError (ReplayBudgetDimension → α) := do
  let concurrentInteractions ← map .concurrentInteractions
  let elapsedMilliseconds ← map .elapsedMilliseconds
  let emittedArtifactBytes ← map .emittedArtifactBytes
  let inputTokens ← map .inputTokens
  let jobAttempts ← map .jobAttempts
  let modelRequests ← map .modelRequests
  let outputTokens ← map .outputTokens
  let providerCostMicrounits ← map .providerCostMicrounits
  let retrievedBytes ← map .retrievedBytes
  let toolCalls ← map .toolCalls
  return fun
    | .concurrentInteractions => concurrentInteractions
    | .elapsedMilliseconds => elapsedMilliseconds
    | .emittedArtifactBytes => emittedArtifactBytes
    | .inputTokens => inputTokens
    | .jobAttempts => jobAttempts
    | .modelRequests => modelRequests
    | .outputTokens => outputTokens
    | .providerCostMicrounits => providerCostMicrounits
    | .retrievedBytes => retrievedBytes
    | .toolCalls => toolCalls

theorem mapDimensions_eq_ok {α : Type} {map : ReplayBudgetDimension → Except ReplayError α}
    {result : ReplayBudgetDimension → α}
    : mapDimensions map = .ok result ↔ ∀ dimension, map dimension = .ok (result dimension) := by
  constructor
  . intro h
    simp only [mapDimensions, bind_eq_ok, pure_eq_ok] at h
    obtain ⟨_, h1, _, h2, _, h3, _, h4, _, h5, _, h6, _, h7, _, h8, _, h9, _, h10, rfl⟩ := h
    intro dimension
    cases dimension <;> assumption
  . intro h
    simp only [mapDimensions, bind_eq_ok, pure_eq_ok]
    refine ⟨_, h _, _, h _, _, h _, _, h _, _, h _, _, h _, _, h _, _, h _, _, h _, _, h _, ?_⟩
    funext dimension
    cases dimension <;> rfl

def parseAmounts (values : ReplayBudgetDimension → Int) : Except ReplayError ReplayBudgetAmounts :=
  mapDimensions (fun dimension => do
    failIf (values dimension < 0 ∨ values dimension > maxSafeInteger) (.accounting .invalidAmounts)
    return (values dimension).toNat)

def parseUsage (values : ReplayUsageMeasurements) : Except ReplayError ReplayUsageMeasurements :=
  mapDimensions (fun dimension =>
    parseWith (values dimension).Accepted (.accounting .invalidUsage) (values dimension))

def checkedAdd (left right : Nat) : Except ReplayError Nat := do
  failIf ((right : Int) > maxSafeInteger - left) (.accounting .arithmeticOverflow)
  return left + right

def emptyReplayBudgetAmounts : ReplayBudgetAmounts :=
  fun _ => 0

def parseReservation (value : ReplayBudgetReservation) : Except ReplayError ReplayBudgetReservation :=
  parseWith value.Accepted (.schema []) value

def parseReconciliation (value : ReplayBudgetReconciliation)
    : Except ReplayError ReplayBudgetReconciliation :=
  parseWith value.Accepted (.schema []) value

structure ReserveReplayBudgetOptions where
  budget : ReplayBudget
  committed : ReplayBudgetAmounts
  ledgerSequence : Nat
  mutationFence : ReplayWorkerMutationFence
  requested : ReplayBudgetDimension → Int
  reservationId : String
  reservedAt : UtcMillisecondTimestamp
  scope : EvidenceScope
  work : ReplayBudgetWorkReference

def reserveReplayBudget (options : ReserveReplayBudgetOptions)
    : Except ReplayError ReplayBudgetReservation := do
  let budget ← parseWith options.budget.Accepted (.accounting .invalidBudget) options.budget
  let committed ← parseAmounts (fun dimension => options.committed dimension)
  let requested ← parseAmounts options.requested
  parseReservation
    { dimensions := fun dimension =>
        { committedBefore := committed dimension
          limit := (budget dimension).limit
          measurement := (budget dimension).measurement
          reservedAmount := requested dimension }
      ledgerSequence := options.ledgerSequence
      mutationFence := options.mutationFence
      reservationId := options.reservationId
      reservedAt := options.reservedAt
      scope := options.scope
      work := options.work }

def applyReplayBudgetReservation (committed : ReplayBudgetAmounts)
    (reservation : ReplayBudgetReservation) : Except ReplayError ReplayBudgetAmounts := do
  let committed ← parseAmounts (fun dimension => committed dimension)
  let reservation ← parseReservation reservation
  mapDimensions (fun dimension => do
    let entry := reservation.dimensions dimension
    failIf (entry.committedBefore ≠ committed dimension) (.accounting .accountingConflict)
    checkedAdd (committed dimension) entry.reservedAmount)

def reconcileDimension (reservedAmount : Nat) (actualUsage : ReplayUsageMeasurement)
    : ReplayBudgetReconciliationDimension :=
  match actualUsage with
  | .unavailable _ =>
    { actualUsage, disposition := .disputed, overrunAmount := 0, releasedAmount := 0, reservedAmount }
  | .observed amount _ =>
    if amount ≤ reservedAmount then
      { actualUsage
        disposition := .settled
        overrunAmount := 0
        releasedAmount := reservedAmount - amount
        reservedAmount }
    else
      { actualUsage
        disposition := .overrun
        overrunAmount := amount - reservedAmount
        releasedAmount := 0
        reservedAmount }

structure ReconcileReplayBudgetOptions where
  ledgerSequence : Nat
  reconciledAt : UtcMillisecondTimestamp
  reconciliationId : String
  usage : ReplayUsageMeasurements

def reconcileReplayBudget (reservation : ReplayBudgetReservation)
    (options : ReconcileReplayBudgetOptions) : Except ReplayError ReplayBudgetReconciliation := do
  let reservation ← parseReservation reservation
  let usage ← parseUsage options.usage
  parseReconciliation
    { dimensions := fun dimension =>
        reconcileDimension (reservation.dimensions dimension).reservedAmount (usage dimension)
      ledgerSequence := options.ledgerSequence
      mutationFence := reservation.mutationFence
      reconciledAt := options.reconciledAt
      reconciliationId := options.reconciliationId
      reservationId := reservation.reservationId
      scope := reservation.scope }

def applyReplayBudgetReconciliation (committed : ReplayBudgetAmounts)
    (reservation : ReplayBudgetReservation) (reconciliation : ReplayBudgetReconciliation)
    : Except ReplayError ReplayBudgetAmounts := do
  let committed ← parseAmounts (fun dimension => committed dimension)
  let reservation ← parseReservation reservation
  let reconciliation ← parseReconciliation reconciliation
  failIf
    (reconciliation.reservationId ≠ reservation.reservationId
      ∨ reconciliation.ledgerSequence ≤ reservation.ledgerSequence
      ∨ reconciliation.scope ≠ reservation.scope
      ∨ reconciliation.mutationFence ≠ reservation.mutationFence)
    (.accounting .accountingConflict)
  mapDimensions (fun dimension => do
    let reservedAmount := (reservation.dimensions dimension).reservedAmount
    let reconciled := reconciliation.dimensions dimension
    failIf
      (reconciled.reservedAmount ≠ reservedAmount ∨ committed dimension < reconciled.releasedAmount)
      (.accounting .accountingConflict)
    checkedAdd (committed dimension - reconciled.releasedAmount) reconciled.overrunAmount)

structure SummaryProgress where
  committed : ReplayBudgetAmounts
  reservations : List ReplayBudgetReservation
  reconciledReservations : List String
  disputed : List String
  overruns : List String
  reconciliationCount : Nat

namespace SummaryProgress

def start : SummaryProgress where
  committed := emptyReplayBudgetAmounts
  reservations := []
  reconciledReservations := []
  disputed := []
  overruns := []
  reconciliationCount := 0

def reservationOf (progress : SummaryProgress) (reservationId : String)
    : Option ReplayBudgetReservation :=
  progress.reservations.find? (fun reservation => reservation.reservationId = reservationId)

end SummaryProgress

structure ReplayBudgetLedgerSummary where
  committed : ReplayBudgetAmounts
  disputed : List String
  openReservationIds : List String
  overruns : List String
  reconciliationCount : Nat
  reservationCount : Nat

def dimensionsWith (disposition : ReplayBudgetDisposition) (entry : ReplayBudgetReconciliation)
    : List String :=
  (replayBudgetDimensions.filter (fun dimension =>
    (entry.dimensions dimension).disposition = disposition)).map (fun dimension =>
      entry.reservationId ++ ":" ++ dimension.text)

def summarizeReservation (progress : SummaryProgress) (entry : ReplayBudgetReservation)
    : Except ReplayError SummaryProgress := do
  failIf (progress.reservationOf entry.reservationId).isSome (.accounting .duplicateEntry)
  let committed ← applyReplayBudgetReservation progress.committed entry
  return { progress with
    committed := committed
    reservations := progress.reservations ++ [entry] }

def summarizeReconciliation (progress : SummaryProgress) (entry : ReplayBudgetReconciliation)
    : Except ReplayError SummaryProgress := do
  let reservation ←
    found (progress.reservationOf entry.reservationId) (.accounting .missingReservation)
  failIf (entry.reservationId ∈ progress.reconciledReservations) (.accounting .duplicateEntry)
  let committed ← applyReplayBudgetReconciliation progress.committed reservation entry
  return { progress with
    committed := committed
    reconciledReservations := progress.reconciledReservations ++ [entry.reservationId]
    disputed := progress.disputed ++ dimensionsWith .disputed entry
    overruns := progress.overruns ++ dimensionsWith .overrun entry
    reconciliationCount := progress.reconciliationCount + 1 }

def summarizeEntry (index : Nat) (progress : SummaryProgress) (entry : ReplayBudgetLedgerEntry)
    : Except ReplayError SummaryProgress := do
  let entry ← parseWith entry.Accepted (.schema []) entry
  failIf (entry.ledgerSequence ≠ index) (.accounting .ledgerOrder)
  match entry with
  | .reservation entry => summarizeReservation progress entry
  | .reconciliation entry => summarizeReconciliation progress entry

def SummaryProgress.summary (progress : SummaryProgress) : ReplayBudgetLedgerSummary where
  committed := progress.committed
  disputed := progress.disputed
  openReservationIds :=
    (progress.reservations.map (·.reservationId)).filter (fun reservationId =>
      reservationId ∉ progress.reconciledReservations)
  overruns := progress.overruns
  reconciliationCount := progress.reconciliationCount
  reservationCount := progress.reservations.length

def summarizeReplayBudgetLedger (entries : List ReplayBudgetLedgerEntry)
    : Except ReplayError ReplayBudgetLedgerSummary := do
  let progress ← foldIndexed summarizeEntry 0 .start entries
  return progress.summary

end Replay
end ProofStack
