import Mathlib.Tactic.Push
import Mathlib.Tactic.Tauto
import ProofStack.Replay.JobRepository

/-!
This module contains the readings of the accounting of a replay budget, of the checks that the
contract makes of a ledger and of the summary of a ledger.
-/

namespace ProofStack
namespace Replay

open Checks Sequence

theorem checkedAdd_eq_ok {left right total : Nat}
    : checkedAdd left right = .ok total ↔ left + right ≤ maxSafeInteger ∧ total = left + right := by
  simp only [checkedAdd, bind_eq_ok, failIf_eq_ok, pure_eq_ok]
  constructor
  . rintro ⟨_, hle, rfl⟩
    exact ⟨by omega, rfl⟩
  . rintro ⟨hle, rfl⟩
    exact ⟨(), by omega, rfl⟩

theorem parseAmounts_eq_ok {values : ReplayBudgetDimension → Int} {amounts : ReplayBudgetAmounts}
    : parseAmounts values = .ok amounts
        ↔ ∀ dimension,
            values dimension = amounts dimension ∧ amounts dimension ≤ maxSafeInteger := by
  unfold parseAmounts
  rw [mapDimensions_eq_ok]
  apply forall_congr'
  intro dimension
  simp only [bind_eq_ok, failIf_eq_ok, pure_eq_ok]
  constructor
  . rintro ⟨_, hrange, hvalue⟩
    omega
  . intro h
    exact ⟨(), by omega, by omega⟩

theorem parseAmounts_cast_eq_ok {committed amounts : ReplayBudgetAmounts}
    : parseAmounts (fun dimension => committed dimension) = .ok amounts
        ↔ amounts = committed ∧ ∀ dimension, committed dimension ≤ maxSafeInteger := by
  rw [parseAmounts_eq_ok]
  constructor
  . intro h
    have heq : amounts = committed := by
      funext dimension
      have := h dimension
      omega
    subst heq
    exact ⟨rfl, fun dimension => (h dimension).2⟩
  . rintro ⟨rfl, h⟩ dimension
    exact ⟨rfl, h dimension⟩

structure ReservationApplied (committed : ReplayBudgetAmounts) (reservation : ReplayBudgetReservation)
    (result : ReplayBudgetAmounts) : Prop where
  accepted : reservation.Accepted
  committedBefore :
    ∀ dimension, (reservation.dimensions dimension).committedBefore = committed dimension
  result_eq :
    ∀ dimension,
      result dimension = committed dimension + (reservation.dimensions dimension).reservedAmount
  result_le : ∀ dimension, result dimension ≤ maxSafeInteger

variable {reservation : ReplayBudgetReservation}

theorem applyReplayBudgetReservation_eq_ok {committed result : ReplayBudgetAmounts}
    : applyReplayBudgetReservation committed reservation = .ok result
        ↔ ReservationApplied committed reservation result := by
  simp only [applyReplayBudgetReservation, parseReservation, bind_eq_ok, parseAmounts_cast_eq_ok,
    parseWith_eq_ok, mapDimensions_eq_ok, failIf_eq_ok, checkedAdd_eq_ok]
  constructor
  . rintro ⟨_, ⟨rfl, _⟩, _, ⟨haccepted, rfl⟩, h⟩
    constructor
    . exact haccepted
    . intro dimension
      obtain ⟨_, hbefore, _⟩ := h dimension
      exact not_not.mp hbefore
    . intro dimension
      obtain ⟨_, _, _, hresult⟩ := h dimension
      exact hresult
    . intro dimension
      obtain ⟨_, _, hle, hresult⟩ := h dimension
      omega
  . intro h
    refine ⟨_, ⟨rfl, ?_⟩, _, ⟨h.accepted, rfl⟩, ?_⟩
    . intro dimension
      have := h.result_eq dimension
      have := h.result_le dimension
      omega
    . intro dimension
      have hresult := h.result_eq dimension
      have hle := h.result_le dimension
      exact ⟨(), by simp [h.committedBefore], by omega, hresult⟩

structure ReconciliationApplied (committed : ReplayBudgetAmounts)
    (reservation : ReplayBudgetReservation) (reconciliation : ReplayBudgetReconciliation)
    (result : ReplayBudgetAmounts) : Prop where
  committed_le : ∀ dimension, committed dimension ≤ maxSafeInteger
  reservation_accepted : reservation.Accepted
  accepted : reconciliation.Accepted
  reservationId : reconciliation.reservationId = reservation.reservationId
  ledgerSequence : reservation.ledgerSequence < reconciliation.ledgerSequence
  scope : reconciliation.scope = reservation.scope
  mutationFence : reconciliation.mutationFence = reservation.mutationFence
  reservedAmount :
    ∀ dimension,
      (reconciliation.dimensions dimension).reservedAmount
        = (reservation.dimensions dimension).reservedAmount
  released_le :
    ∀ dimension, (reconciliation.dimensions dimension).releasedAmount ≤ committed dimension
  result_eq :
    ∀ dimension,
      result dimension
        = committed dimension - (reconciliation.dimensions dimension).releasedAmount
            + (reconciliation.dimensions dimension).overrunAmount
  result_le : ∀ dimension, result dimension ≤ maxSafeInteger

theorem applyReplayBudgetReconciliation_eq_ok {committed result : ReplayBudgetAmounts}
    {reconciliation : ReplayBudgetReconciliation}
    : applyReplayBudgetReconciliation committed reservation reconciliation = .ok result
        ↔ ReconciliationApplied committed reservation reconciliation result := by
  simp only [applyReplayBudgetReconciliation, parseReservation, parseReconciliation, bind_eq_ok,
    parseAmounts_cast_eq_ok, parseWith_eq_ok, mapDimensions_eq_ok, failIf_eq_ok, checkedAdd_eq_ok,
    not_or, not_not, not_le, not_lt]
  constructor
  . rintro ⟨_, ⟨rfl, hcommitted⟩, _, ⟨hreservation, rfl⟩, _, ⟨haccepted, rfl⟩, _, hmatches, h⟩
    constructor
    . exact hcommitted
    . exact hreservation
    . exact haccepted
    . exact hmatches.1
    . exact hmatches.2.1
    . exact hmatches.2.2.1
    . exact hmatches.2.2.2
    . intro dimension
      obtain ⟨_, hdimension, _⟩ := h dimension
      exact hdimension.1
    . intro dimension
      obtain ⟨_, hdimension, _⟩ := h dimension
      exact hdimension.2
    . intro dimension
      obtain ⟨_, _, _, hresult⟩ := h dimension
      exact hresult
    . intro dimension
      obtain ⟨_, _, hle, hresult⟩ := h dimension
      omega
  . intro h
    refine ⟨_, ⟨rfl, h.committed_le⟩, _, ⟨h.reservation_accepted, rfl⟩, _, ⟨h.accepted, rfl⟩, (), ?_, ?_⟩
    . exact ⟨h.reservationId, h.ledgerSequence, h.scope, h.mutationFence⟩
    . intro dimension
      have hresult := h.result_eq dimension
      have hle := h.result_le dimension
      exact ⟨(), ⟨h.reservedAmount dimension, h.released_le dimension⟩, by omega, hresult⟩

section Ledger

variable {ledger : List ReplayBudgetLedgerEntry}

@[simp]
theorem reservations_append_reservation {entry : ReplayBudgetReservation}
    : reservations (ledger ++ [.reservation entry]) = reservations ledger ++ [entry] := by
  simp [reservations]

variable {entry : ReplayBudgetReconciliation}

@[simp]
theorem reservations_append_reconciliation
    : reservations (ledger ++ [.reconciliation entry]) = reservations ledger := by
  simp [reservations]

@[simp]
theorem reconciliations_append_reservation {entry : ReplayBudgetReservation}
    : reconciliations (ledger ++ [.reservation entry]) = reconciliations ledger := by
  simp [reconciliations]

@[simp]
theorem reconciliations_append_reconciliation
    : reconciliations (ledger ++ [.reconciliation entry]) = reconciliations ledger ++ [entry] := by
  simp [reconciliations]

theorem reservationOf_eq_none {reservationId : String}
    : reservationOf ledger reservationId = none
        ↔ reservationId ∉ (reservations ledger).map (·.reservationId) := by
  simp [reservationOf]

theorem reconciliationOf_eq_none {reservationId : String}
    : reconciliationOf ledger reservationId = none
        ↔ reservationId ∉ (reconciliations ledger).map (·.reservationId) := by
  simp [reconciliationOf]

theorem reservationOf_eq_some {reservationId : String}
    (h : reservationOf ledger reservationId = some reservation)
    : reservation ∈ reservations ledger ∧ reservation.reservationId = reservationId :=
  ⟨List.mem_of_find?_eq_some h, by simpa using List.find?_some h⟩

structure ReservationValidated (progress : LedgerProgress) (entry : ReplayBudgetReservation)
    (next : LedgerProgress) : Prop where
  fresh : progress.reservationOf entry.reservationId = none
  committedBefore :
    ∀ dimension, (entry.dimensions dimension).committedBefore = progress.committed dimension
  committed_le : ∀ dimension, next.committed dimension ≤ maxSafeInteger
  next_eq :
    next
      = { progress with
          committed := fun dimension =>
            progress.committed dimension + (entry.dimensions dimension).reservedAmount
          reservations := progress.reservations ++ [entry] }

theorem validateReservation_eq_ok {progress next : LedgerProgress} {entry : ReplayBudgetReservation}
    : validateReservation progress entry = .ok next ↔ ReservationValidated progress entry next := by
  unfold validateReservation
  constructor
  . intro h
    split at h
    . contradiction
    . next hfresh =>
      split at h
      . contradiction
      . next htotals =>
        cases h
        push Not at htotals
        constructor
        . simpa using hfresh
        . intro dimension
          exact (htotals dimension).1
        . intro dimension
          exact (htotals dimension).2
        . rfl
  . intro h
    rw [if_neg (by simp [h.fresh]), if_neg]
    . rw [h.next_eq]
    . push Not
      intro dimension
      refine ⟨h.committedBefore dimension, ?_⟩
      have := h.committed_le dimension
      rw [h.next_eq] at this
      exact this

structure ReconciliationValidated (progress : LedgerProgress) (entry : ReplayBudgetReconciliation)
    (reservation : ReplayBudgetReservation) (next : LedgerProgress) : Prop where
  opened : progress.reservationOf entry.reservationId = some reservation
  reconciliationId : entry.reconciliationId ∉ progress.reconciliationIds
  unreconciled : entry.reservationId ∉ progress.reconciledReservations
  scope : entry.scope = reservation.scope
  mutationFence : entry.mutationFence = reservation.mutationFence
  reservedAmount :
    ∀ dimension,
      (entry.dimensions dimension).reservedAmount = (reservation.dimensions dimension).reservedAmount
  released_le :
    ∀ dimension, (entry.dimensions dimension).releasedAmount ≤ progress.committed dimension
  committed_le : ∀ dimension, next.committed dimension ≤ maxSafeInteger
  next_eq :
    next
      = { progress with
          committed := fun dimension =>
            progress.committed dimension - (entry.dimensions dimension).releasedAmount
              + (entry.dimensions dimension).overrunAmount
          reconciliationIds := progress.reconciliationIds ++ [entry.reconciliationId]
          reconciledReservations := progress.reconciledReservations ++ [entry.reservationId] }

theorem validateReconciliation_eq_ok {progress next : LedgerProgress}
    : validateReconciliation progress entry = .ok next
        ↔ ∃ reservation, ReconciliationValidated progress entry reservation next := by
  unfold validateReconciliation
  constructor
  . intro h
    split at h
    . contradiction
    . next reservation hopened =>
      split at h
      . contradiction
      . next hmatches =>
        split at h
        . contradiction
        . next htotals =>
          cases h
          push Not at hmatches htotals
          refine ⟨reservation, ?_⟩
          constructor
          . exact hopened
          . exact hmatches.1
          . exact hmatches.2.1
          . exact hmatches.2.2.1
          . exact hmatches.2.2.2
          . intro dimension
            exact (htotals dimension).1
          . intro dimension
            exact (htotals dimension).2.1
          . intro dimension
            exact (htotals dimension).2.2
          . rfl
  . rintro ⟨reservation, h⟩
    rw [h.opened]
    dsimp only
    rw [if_neg, if_neg]
    . rw [h.next_eq]
    . push Not
      intro dimension
      refine ⟨h.reservedAmount dimension, h.released_le dimension, ?_⟩
      have := h.committed_le dimension
      rw [h.next_eq] at this
      exact this
    . push Not
      exact ⟨h.reconciliationId, h.unreconciled, h.scope, h.mutationFence⟩

theorem validateEntry_eq_ok {job : ReplayJob} {attempts : List ReplayAttempt} {index : Nat}
    {progress next : LedgerProgress} {entry : ReplayBudgetLedgerEntry}
    : validateEntry job attempts index progress entry = .ok next
        ↔ entry.ledgerSequence = index
            ∧ entry.scope = job.scope
            ∧ Fenced attempts entry.mutationFence
            ∧ (match entry with
              | .reservation entry => validateReservation progress entry
              | .reconciliation entry => validateReconciliation progress entry) = .ok next := by
  unfold validateEntry
  split
  . next h =>
    simp only [reduceCtorEq, false_iff]
    tauto
  . next h =>
    push Not at h
    tauto

theorem summarizeEntry_reservation_eq_ok {index : Nat} {progress next : SummaryProgress}
    {entry : ReplayBudgetReservation}
    : summarizeEntry index progress (.reservation entry) = .ok next
        ↔ entry.ledgerSequence = index
            ∧ progress.reservationOf entry.reservationId = none
            ∧ ReservationApplied progress.committed entry next.committed
            ∧ next
                = { progress with
                    committed := next.committed
                    reservations := progress.reservations ++ [entry] } := by
  simp only [summarizeEntry, bind_eq_ok, parseWith_eq_ok, failIf_eq_ok]
  constructor
  . rintro ⟨_, ⟨_, rfl⟩, _, hsequence, h⟩
    simp only [summarizeReservation, bind_eq_ok, failIf_eq_ok, pure_eq_ok,
      applyReplayBudgetReservation_eq_ok] at h
    obtain ⟨_, hfresh, committed, happlied, rfl⟩ := h
    exact ⟨not_not.mp hsequence, by simpa using hfresh, happlied, rfl⟩
  . rintro ⟨hsequence, hfresh, happlied, hnext⟩
    refine ⟨_, ⟨happlied.accepted, rfl⟩, (), not_not.mpr hsequence, ?_⟩
    simp only [summarizeReservation, bind_eq_ok, failIf_eq_ok, pure_eq_ok,
      applyReplayBudgetReservation_eq_ok]
    exact ⟨(), by simp [hfresh], _, happlied, hnext.symm⟩

theorem summarizeEntry_reconciliation_eq_ok {index : Nat} {progress next : SummaryProgress}
    : summarizeEntry index progress (.reconciliation entry) = .ok next
        ↔ entry.ledgerSequence = index
            ∧ entry.reservationId ∉ progress.reconciledReservations
            ∧ (∃ reservation,
                progress.reservationOf entry.reservationId = some reservation
                  ∧ ReconciliationApplied progress.committed reservation entry next.committed)
            ∧ next
                = { progress with
                    committed := next.committed
                    reconciledReservations := progress.reconciledReservations ++ [entry.reservationId]
                    disputed := progress.disputed ++ dimensionsWith .disputed entry
                    overruns := progress.overruns ++ dimensionsWith .overrun entry
                    reconciliationCount := progress.reconciliationCount + 1 } := by
  simp only [summarizeEntry, bind_eq_ok, parseWith_eq_ok, failIf_eq_ok]
  constructor
  . rintro ⟨_, ⟨_, rfl⟩, _, hsequence, h⟩
    simp only [summarizeReconciliation, bind_eq_ok, failIf_eq_ok, found_eq_ok, pure_eq_ok,
      applyReplayBudgetReconciliation_eq_ok] at h
    obtain ⟨reservation, hopened, _, hopen, committed, happlied, rfl⟩ := h
    exact ⟨not_not.mp hsequence, hopen, ⟨reservation, hopened, happlied⟩, rfl⟩
  . rintro ⟨hsequence, hopen, ⟨reservation, hopened, happlied⟩, hnext⟩
    refine ⟨_, ⟨happlied.accepted, rfl⟩, (), not_not.mpr hsequence, ?_⟩
    simp only [summarizeReconciliation, bind_eq_ok, failIf_eq_ok, found_eq_ok, pure_eq_ok,
      applyReplayBudgetReconciliation_eq_ok]
    exact ⟨reservation, hopened, (), hopen, _, happlied, hnext.symm⟩

end Ledger

end Replay
end ProofStack
