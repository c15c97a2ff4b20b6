import Mathlib.Algebra.BigOperators.Group.List.Basic
import Mathlib.Algebra.Order.BigOperators.Group.List
import Mathlib.Algebra.Order.Ring.Nat
import ProofStack.Replay.BudgetLemmas

/-!
This module contains what the operations on a replay budget leave committed, for every sequence of
accepted reservations and reconciliations, and the agreement of the summary of a ledger with the
checks of the contract.
-/

namespace ProofStack
namespace Replay

open Checks Sequence

variable {budget : ReplayBudget} {ledger : List ReplayBudgetLedgerEntry}
variable {committed next : ReplayBudgetAmounts}

section Operations

/-- What a reservation keeps committed: the amount it has reserved, until its reconciliation observes
another one. -/
def charge (ledger : List ReplayBudgetLedgerEntry) (dimension : ReplayBudgetDimension)
    (reservation : ReplayBudgetReservation) : Nat :=
  match reconciliationOf ledger reservation.reservationId with
  | none => (reservation.dimensions dimension).reservedAmount
  | some reconciliation =>
    match (reconciliation.dimensions dimension).actualUsage with
    | .observed amount _ => amount
    | .unavailable _ => (reservation.dimensions dimension).reservedAmount

def overrunTotal (ledger : List ReplayBudgetLedgerEntry) (dimension : ReplayBudgetDimension) : Nat :=
  ((reconciliations ledger).map (fun entry => (entry.dimensions dimension).overrunAmount)).sum

/-- The ledgers of the sequences of accepted operations on one budget, with the totals that the
operations leave committed one after the other. -/
inductive Accounted (budget : ReplayBudget)
    : List ReplayBudgetLedgerEntry → ReplayBudgetAmounts → Prop
  | start : Accounted budget [] emptyReplayBudgetAmounts
  | reserve {ledger : List ReplayBudgetLedgerEntry} {committed next : ReplayBudgetAmounts}
    {options : ReserveReplayBudgetOptions} {reservation : ReplayBudgetReservation}
    (before : Accounted budget ledger committed)
    (fresh : reservationOf ledger options.reservationId = none)
    (reserved :
      reserveReplayBudget { options with budget, committed, ledgerSequence := ledger.length }
        = .ok reservation)
    (applied : applyReplayBudgetReservation committed reservation = .ok next)
    : Accounted budget (ledger ++ [.reservation reservation]) next
  | reconcile {ledger : List ReplayBudgetLedgerEntry} {committed next : ReplayBudgetAmounts}
    {options : ReconcileReplayBudgetOptions} {reservation : ReplayBudgetReservation}
    {reconciliation : ReplayBudgetReconciliation}
    (before : Accounted budget ledger committed)
    (opened : reservationOf ledger reservation.reservationId = some reservation)
    (unreconciled : reconciliationOf ledger reservation.reservationId = none)
    (reconciled :
      reconcileReplayBudget reservation { options with ledgerSequence := ledger.length }
        = .ok reconciliation)
    (applied : applyReplayBudgetReconciliation committed reservation reconciliation = .ok next)
    : Accounted budget (ledger ++ [.reconciliation reconciliation]) next

structure Reserved (options : ReserveReplayBudgetOptions) (reservation : ReplayBudgetReservation)
    : Prop where
  accepted : reservation.Accepted
  reservationId : reservation.reservationId = options.reservationId
  ledgerSequence : reservation.ledgerSequence = options.ledgerSequence
  committedBefore :
    ∀ dimension, (reservation.dimensions dimension).committedBefore = options.committed dimension
  within_limit :
    ∀ dimension,
      options.committed dimension + (reservation.dimensions dimension).reservedAmount
        ≤ (options.budget dimension).limit

theorem reserved_of_reserveReplayBudget {options : ReserveReplayBudgetOptions}
    {reservation : ReplayBudgetReservation} (h : reserveReplayBudget options = .ok reservation)
    : Reserved options reservation := by
  simp only [reserveReplayBudget, parseReservation, bind_eq_ok, parseWith_eq_ok,
    parseAmounts_cast_eq_ok] at h
  obtain ⟨_, ⟨_, rfl⟩, _, ⟨rfl, _⟩, requested, _, haccepted, rfl⟩ := h
  constructor
  . exact haccepted
  . rfl
  . rfl
  . intro dimension
    rfl
  . intro dimension
    have := (haccepted.dimensions.1 dimension).2
    simp only [ReplayBudgetReservationDimension.issues, issue_eq_nil] at this
    dsimp only
    omega

def settledAmount (reservedAmount : Nat) (actualUsage : ReplayUsageMeasurement) : Nat :=
  match actualUsage with
  | .observed amount _ => amount
  | .unavailable _ => reservedAmount

theorem reconcileDimension_balance (reservedAmount : Nat) (actualUsage : ReplayUsageMeasurement)
    : (reconcileDimension reservedAmount actualUsage).releasedAmount ≤ reservedAmount
        ∧ reservedAmount + (reconcileDimension reservedAmount actualUsage).overrunAmount
            = settledAmount reservedAmount actualUsage
                + (reconcileDimension reservedAmount actualUsage).releasedAmount := by
  unfold reconcileDimension settledAmount
  split
  . simp
  . split
    . dsimp only
      omega
    . dsimp only
      omega

theorem reconcileDimension_actualUsage (reservedAmount : Nat) (actualUsage : ReplayUsageMeasurement)
    : (reconcileDimension reservedAmount actualUsage).actualUsage = actualUsage := by
  unfold reconcileDimension
  split
  . rfl
  . split <;> rfl

structure Reconciled (reservation : ReplayBudgetReservation) (options : ReconcileReplayBudgetOptions)
    (reconciliation : ReplayBudgetReconciliation) : Prop where
  accepted : reconciliation.Accepted
  reservationId : reconciliation.reservationId = reservation.reservationId
  reconciliationId : reconciliation.reconciliationId = options.reconciliationId
  ledgerSequence : reconciliation.ledgerSequence = options.ledgerSequence
  mutationFence : reconciliation.mutationFence = reservation.mutationFence
  scope : reconciliation.scope = reservation.scope
  dimensions :
    ∀ dimension,
      reconciliation.dimensions dimension
        = reconcileDimension (reservation.dimensions dimension).reservedAmount
            (options.usage dimension)

theorem reconciled_of_reconcileReplayBudget {reservation : ReplayBudgetReservation}
    {options : ReconcileReplayBudgetOptions} {reconciliation : ReplayBudgetReconciliation}
    (h : reconcileReplayBudget reservation options = .ok reconciliation)
    : Reconciled reservation options reconciliation := by
  simp only [reconcileReplayBudget, parseReservation, parseReconciliation, parseUsage, bind_eq_ok,
    parseWith_eq_ok, mapDimensions_eq_ok] at h
  obtain ⟨_, ⟨_, rfl⟩, usage, husage, haccepted, rfl⟩ := h
  have husage : usage = options.usage := by
    funext dimension
    exact (husage dimension).2.symm
  subst husage
  constructor
  . exact haccepted
  all_goals intros; rfl

end Operations

section Totals

theorem charge_append_reservation (dimension : ReplayBudgetDimension)
    (entry : ReplayBudgetReservation)
    : charge (ledger ++ [.reservation entry]) dimension = charge ledger dimension := by
  funext reservation
  simp [charge, reconciliationOf]

variable {reservation : ReplayBudgetReservation}

theorem charge_append_other (dimension : ReplayBudgetDimension) {entry : ReplayBudgetReconciliation}
    (h : entry.reservationId ≠ reservation.reservationId)
    : charge (ledger ++ [.reconciliation entry]) dimension reservation
        =
      charge ledger dimension reservation := by
  simp [charge, reconciliationOf, h]

theorem charge_of_open (dimension : ReplayBudgetDimension)
    (h : reconciliationOf ledger reservation.reservationId = none)
    : charge ledger dimension reservation = (reservation.dimensions dimension).reservedAmount := by
  simp [charge, h]

theorem charge_append_reconciled (dimension : ReplayBudgetDimension)
    {entry : ReplayBudgetReconciliation}
    (hopen : reconciliationOf ledger reservation.reservationId = none)
    (h : entry.reservationId = reservation.reservationId)
    : charge (ledger ++ [.reconciliation entry]) dimension reservation
        =
      settledAmount (reservation.dimensions dimension).reservedAmount
        (entry.dimensions dimension).actualUsage := by
  have hfound : reconciliationOf (ledger ++ [.reconciliation entry]) reservation.reservationId
      = some entry := by
    unfold reconciliationOf at hopen ⊢
    rw [reconciliations_append_reconciliation, List.find?_append, hopen]
    simp [h]
  simp only [charge, hfound]
  rfl

theorem sum_map_replace {α : Type} [DecidableEq α] {xs : List α} {f g : α → Nat} {x : α}
    (hnodup : xs.Nodup) (hx : x ∈ xs) (h : ∀ y ∈ xs, y ≠ x → g y = f y)
    : (xs.map g).sum + f x = (xs.map f).sum + g x := by
  have hf := List.sum_map_erase f hx
  have hg := List.sum_map_erase g hx
  have hrest : (xs.erase x).map g = (xs.erase x).map f := by
    apply List.map_congr_left
    intro y hy
    rw [hnodup.mem_erase_iff] at hy
    apply h
    . exact hy.2
    . exact hy.1
  rw [hrest] at hg
  omega

structure Summarized (ledger : List ReplayBudgetLedgerEntry) (committed : ReplayBudgetAmounts)
    (progress : SummaryProgress) : Prop where
  fold : foldIndexed summarizeEntry 0 .start ledger = .ok progress
  committed : progress.committed = committed
  reservations : progress.reservations = reservations ledger
  reconciled : progress.reconciledReservations = (reconciliations ledger).map (·.reservationId)

structure Books (budget : ReplayBudget) (ledger : List ReplayBudgetLedgerEntry)
    (committed : ReplayBudgetAmounts) : Prop where
  committed_eq :
    ∀ dimension, committed dimension = ((reservations ledger).map (charge ledger dimension)).sum
  committed_le_limit :
    ∀ dimension, committed dimension ≤ (budget dimension).limit + overrunTotal ledger dimension
  ids_nodup : ((reservations ledger).map (·.reservationId)).Nodup
  reconciled_reserved :
    ∀ entry ∈ reconciliations ledger,
      entry.reservationId ∈ (reservations ledger).map (·.reservationId)
  summarized : ∃ progress, Summarized ledger committed progress

theorem Books.open_le (h : Books budget ledger committed)
    (hmem : reservation ∈ reservations ledger)
    (hopen : reconciliationOf ledger reservation.reservationId = none)
    (dimension : ReplayBudgetDimension)
    : (reservation.dimensions dimension).reservedAmount ≤ committed dimension := by
  rw [h.committed_eq, ← charge_of_open dimension hopen]
  apply List.single_le_sum
  . intros
    omega
  . exact List.mem_map_of_mem hmem

theorem Books.start : Books budget [] emptyReplayBudgetAmounts where
  committed_eq := by
    intro dimension
    rfl
  committed_le_limit := by
    intro dimension
    apply Nat.zero_le
  ids_nodup := by simp [reservations]
  reconciled_reserved := by simp [reconciliations]
  summarized := ⟨.start, rfl, rfl, rfl, rfl⟩

theorem Books.reserve {options : ReserveReplayBudgetOptions}
    (h : Books budget ledger committed)
    (hfresh : reservationOf ledger options.reservationId = none)
    (hreserved :
      reserveReplayBudget { options with budget, committed, ledgerSequence := ledger.length }
        = .ok reservation)
    (happlied : applyReplayBudgetReservation committed reservation = .ok next)
    : Books budget (ledger ++ [.reservation reservation]) next := by
  have hreserved := reserved_of_reserveReplayBudget hreserved
  rw [applyReplayBudgetReservation_eq_ok] at happlied
  rw [reservationOf_eq_none] at hfresh
  have hid : reservation.reservationId = options.reservationId := hreserved.reservationId
  rw [← hid] at hfresh
  -- A reconciliation names a reservation of the ledger, which the new one is not.
  have hopen : reconciliationOf ledger reservation.reservationId = none := by
    rw [reconciliationOf_eq_none]
    intro hmem
    obtain ⟨entry, hentry, heq⟩ := List.mem_map.mp hmem
    apply hfresh
    rw [← heq]
    exact h.reconciled_reserved entry hentry
  constructor
  . intro dimension
    rw [reservations_append_reservation, List.map_append, List.sum_append]
    simp only [charge_append_reservation, List.map_cons, List.map_nil, List.sum_cons, List.sum_nil]
    rw [← h.committed_eq, charge_of_open dimension hopen, happlied.result_eq]
    omega
  . intro dimension
    rw [happlied.result_eq]
    have := hreserved.within_limit dimension
    dsimp only at this
    omega
  . rw [reservations_append_reservation, List.map_append, List.map_singleton]
    apply List.Nodup.append h.ids_nodup
    . simp
    . simpa using hfresh
  . intro entry hentry
    rw [reconciliations_append_reservation] at hentry
    rw [reservations_append_reservation, List.map_append]
    apply List.mem_append_left
    exact h.reconciled_reserved entry hentry
  . obtain ⟨progress, hprogress⟩ := h.summarized
    refine ⟨{ progress with
      committed := next, reservations := progress.reservations ++ [reservation] }, ?_, ?_, ?_, ?_⟩
    . rw [foldIndexed_append_eq_ok]
      refine ⟨progress, hprogress.fold, ?_⟩
      rw [summarizeEntry_reservation_eq_ok]
      refine ⟨?_, ?_, ?_, ?_⟩
      . rw [hreserved.ledgerSequence, Nat.zero_add]
      . rw [SummaryProgress.reservationOf, hprogress.reservations]
        exact reservationOf_eq_none.mpr hfresh
      . rw [hprogress.committed]
        exact happlied
      . rfl
    . rfl
    . rw [reservations_append_reservation]
      simp only [hprogress.reservations]
    . rw [reconciliations_append_reservation]
      exact hprogress.reconciled

theorem Books.reconcile {options : ReconcileReplayBudgetOptions}
    {reconciliation : ReplayBudgetReconciliation}
    (h : Books budget ledger committed)
    (hopened : reservationOf ledger reservation.reservationId = some reservation)
    (hopen : reconciliationOf ledger reservation.reservationId = none)
    (hreconciled :
      reconcileReplayBudget reservation { options with ledgerSequence := ledger.length }
        = .ok reconciliation)
    (happlied : applyReplayBudgetReconciliation committed reservation reconciliation = .ok next)
    : Books budget (ledger ++ [.reconciliation reconciliation]) next := by
  have hreconciled := reconciled_of_reconcileReplayBudget hreconciled
  rw [applyReplayBudgetReconciliation_eq_ok] at happlied
  have hmem := (reservationOf_eq_some hopened).1
  have hid := hreconciled.reservationId
  constructor
  . intro dimension
    rw [reservations_append_reconciliation]
    have hsum : ((reservations ledger).map
          (charge (ledger ++ [.reconciliation reconciliation]) dimension)).sum
        + charge ledger dimension reservation
        = ((reservations ledger).map (charge ledger dimension)).sum
          + charge (ledger ++ [.reconciliation reconciliation]) dimension reservation := by
      apply sum_map_replace h.ids_nodup.of_map hmem
      intro other hother hne
      apply charge_append_other
      rw [hid]
      intro heq
      exact hne (List.inj_on_of_nodup_map h.ids_nodup hother hmem heq.symm)
    rw [charge_of_open dimension hopen, charge_append_reconciled dimension hopen hid,
      ← h.committed_eq, hreconciled.dimensions, reconcileDimension_actualUsage] at hsum
    have hbalance := reconcileDimension_balance (reservation.dimensions dimension).reservedAmount
      (options.usage dimension)
    have hle := h.open_le hmem hopen dimension
    rw [happlied.result_eq, hreconciled.dimensions]
    dsimp only at hsum ⊢
    omega
  . intro dimension
    have hlimit := h.committed_le_limit dimension
    rw [happlied.result_eq]
    unfold overrunTotal at hlimit ⊢
    rw [reconciliations_append_reconciliation, List.map_append, List.sum_append]
    simp only [List.map_cons, List.map_nil, List.sum_cons, List.sum_nil]
    omega
  . rw [reservations_append_reconciliation]
    exact h.ids_nodup
  . intro entry hentry
    rw [reconciliations_append_reconciliation, List.mem_append, List.mem_singleton] at hentry
    rw [reservations_append_reconciliation]
    cases hentry with
    | inl hentry => exact h.reconciled_reserved entry hentry
    | inr hentry =>
      rw [hentry, hid]
      exact List.mem_map_of_mem hmem
  . obtain ⟨progress, hprogress⟩ := h.summarized
    refine ⟨{ progress with
      committed := next
      reconciledReservations := progress.reconciledReservations ++ [reconciliation.reservationId]
      disputed := progress.disputed ++ dimensionsWith .disputed reconciliation
      overruns := progress.overruns ++ dimensionsWith .overrun reconciliation
      reconciliationCount := progress.reconciliationCount + 1 }, ?_, ?_, ?_, ?_⟩
    . rw [foldIndexed_append_eq_ok]
      refine ⟨progress, hprogress.fold, ?_⟩
      rw [summarizeEntry_reconciliation_eq_ok]
      refine ⟨?_, ?_, ⟨reservation, ?_, ?_⟩, ?_⟩
      . rw [hreconciled.ledgerSequence, Nat.zero_add]
      . rw [hprogress.reconciled, hid]
        exact reconciliationOf_eq_none.mp hopen
      . rw [SummaryProgress.reservationOf, hprogress.reservations, hid]
        exact hopened
      . rw [hprogress.committed]
        exact happlied
      . rfl
    . rfl
    . rw [reservations_append_reconciliation]
      exact hprogress.reservations
    . rw [reconciliations_append_reconciliation]
      simp only [hprogress.reconciled, List.map_append, List.map_singleton]

theorem Accounted.books (h : Accounted budget ledger committed) : Books budget ledger committed := by
  induction h with
  | start => apply Books.start
  | reserve _ hfresh hreserved happlied ih => exact ih.reserve hfresh hreserved happlied
  | reconcile _ hopened hopen hreconciled happlied ih =>
    exact ih.reconcile hopened hopen hreconciled happlied

end Totals

section Contract

structure Abreast (index : Nat) (checked : LedgerProgress) (progress : SummaryProgress) : Prop where
  committed : progress.committed = checked.committed
  committed_le : ∀ dimension, checked.committed dimension ≤ maxSafeInteger
  reservations : progress.reservations = checked.reservations
  reconciled : progress.reconciledReservations = checked.reconciledReservations
  earlier :
    ∀ reservation ∈ checked.reservations,
      reservation.Accepted ∧ reservation.ledgerSequence < index

theorem Abreast.start : Abreast 0 .start .start where
  committed := rfl
  committed_le := by
    intro dimension
    apply Nat.zero_le
  reservations := rfl
  reconciled := rfl
  earlier := by
    intro reservation hmem
    contradiction

theorem Abreast.reservationOf {index : Nat} {checked : LedgerProgress} {progress : SummaryProgress}
    (h : Abreast index checked progress) (reservationId : String)
    : progress.reservationOf reservationId = checked.reservationOf reservationId := by
  unfold SummaryProgress.reservationOf LedgerProgress.reservationOf
  rw [h.reservations]

theorem Abreast.reserve {index : Nat} {checked checkedNext : LedgerProgress}
    {progress : SummaryProgress} {entry : ReplayBudgetReservation}
    (h : Abreast index checked progress) (haccepted : entry.Accepted)
    (hsequence : entry.ledgerSequence = index)
    (hvalidated : ReservationValidated checked entry checkedNext)
    : ∃ next,
        summarizeEntry index progress (.reservation entry) = .ok next
          ∧ Abreast (index + 1) checkedNext next := by
  refine ⟨{ progress with
    committed := checkedNext.committed
    reservations := progress.reservations ++ [entry] }, ?_, ?_⟩
  . rw [summarizeEntry_reservation_eq_ok]
    refine ⟨hsequence, ?_, ?_, rfl⟩
    . rw [h.reservationOf]
      exact hvalidated.fresh
    . rw [h.committed]
      constructor
      . exact haccepted
      . exact hvalidated.committedBefore
      . intro dimension
        rw [hvalidated.next_eq]
      . exact hvalidated.committed_le
  . constructor
    . rfl
    . exact hvalidated.committed_le
    . rw [hvalidated.next_eq, h.reservations]
    . rw [hvalidated.next_eq]
      exact h.reconciled
    . rw [hvalidated.next_eq]
      intro reservation hmem
      rw [List.mem_append, List.mem_singleton] at hmem
      cases hmem with
      | inl hmem =>
        have := h.earlier reservation hmem
        exact ⟨this.1, by omega⟩
      | inr heq =>
        subst heq
        exact ⟨haccepted, by omega⟩

theorem Abreast.reconcile {index : Nat} {checked checkedNext : LedgerProgress}
    {progress : SummaryProgress} {entry : ReplayBudgetReconciliation}
    {reservation : ReplayBudgetReservation} (h : Abreast index checked progress)
    (haccepted : entry.Accepted) (hsequence : entry.ledgerSequence = index)
    (hvalidated : ReconciliationValidated checked entry reservation checkedNext)
    : ∃ next,
        summarizeEntry index progress (.reconciliation entry) = .ok next
          ∧ Abreast (index + 1) checkedNext next := by
  have hmem : reservation ∈ checked.reservations := List.mem_of_find?_eq_some hvalidated.opened
  have hid : reservation.reservationId = entry.reservationId := by
    simpa using List.find?_some hvalidated.opened
  have hearlier := h.earlier reservation hmem
  refine ⟨{ progress with
    committed := checkedNext.committed
    reconciledReservations := progress.reconciledReservations ++ [entry.reservationId]
    disputed := progress.disputed ++ dimensionsWith .disputed entry
    overruns := progress.overruns ++ dimensionsWith .overrun entry
    reconciliationCount := progress.reconciliationCount + 1 }, ?_, ?_⟩
  . rw [summarizeEntry_reconciliation_eq_ok]
    refine ⟨hsequence, ?_, ⟨reservation, ?_, ?_⟩, rfl⟩
    . rw [h.reconciled]
      exact hvalidated.unreconciled
    . rw [h.reservationOf]
      exact hvalidated.opened
    . rw [h.committed]
      constructor
      . exact h.committed_le
      . exact hearlier.1
      . exact haccepted
      . exact hid.symm
      . omega
      . exact hvalidated.scope
      . exact hvalidated.mutationFence
      . exact hvalidated.reservedAmount
      . exact hvalidated.released_le
      . intro dimension
        rw [hvalidated.next_eq]
      . exact hvalidated.committed_le
  . constructor
    . rfl
    . exact hvalidated.committed_le
    . rw [hvalidated.next_eq]
      exact h.reservations
    . rw [hvalidated.next_eq, h.reconciled]
    . rw [hvalidated.next_eq]
      intro other hother
      have := h.earlier other hother
      exact ⟨this.1, by omega⟩

theorem summarized_of_validateBudgetLedger {job : ReplayJob} {attempts : List ReplayAttempt}
    {checked : LedgerProgress} (haccepted : ∀ entry ∈ ledger, entry.Accepted)
    (h : validateBudgetLedger job attempts ledger = .ok checked)
    : ∃ progress,
        foldIndexed summarizeEntry 0 .start ledger = .ok progress
          ∧ Abreast (0 + ledger.length) checked progress := by
  apply foldIndexed_follows _ haccepted Abreast.start h
  intro index checked progress entry checkedNext haccepted habreast hvalid
  rw [validateEntry_eq_ok] at hvalid
  obtain ⟨hsequence, _, _, hvalid⟩ := hvalid
  cases entry with
  | reservation entry =>
    dsimp only at hvalid
    rw [validateReservation_eq_ok] at hvalid
    exact habreast.reserve haccepted hsequence hvalid
  | reconciliation entry =>
    dsimp only at hvalid
    rw [validateReconciliation_eq_ok] at hvalid
    obtain ⟨reservation, hvalid⟩ := hvalid
    exact habreast.reconcile haccepted hsequence hvalid

end Contract

/-- Along every sequence of accepted operations the committed totals are what the open and the
reconciled reservations are charged, stay within the limit but for the recorded overruns, cover what a
reconciliation releases and are the totals of the summary. The summary also agrees with the contract
on every ledger that the contract accepts. -/
theorem committed_totals_agree (budget : ReplayBudget)
    : (∀ ledger committed, Accounted budget ledger committed →
        (∀ dimension,
          committed dimension = ((reservations ledger).map (charge ledger dimension)).sum)
        ∧ (∀ dimension,
            committed dimension ≤ (budget dimension).limit + overrunTotal ledger dimension)
        ∧ (∀ reservation options reconciliation,
            reservationOf ledger reservation.reservationId = some reservation →
            reconciliationOf ledger reservation.reservationId = none →
            reconcileReplayBudget reservation options = .ok reconciliation →
            ∀ dimension,
              ¬committed dimension < (reconciliation.dimensions dimension).releasedAmount)
        ∧ ∃ summary,
            summarizeReplayBudgetLedger ledger = .ok summary ∧ summary.committed = committed)
      ∧ ∀ job attempts ledger checked,
          (∀ entry ∈ ledger, ReplayBudgetLedgerEntry.Accepted entry) →
          validateBudgetLedger job attempts ledger = .ok checked →
          ∃ summary,
            summarizeReplayBudgetLedger ledger = .ok summary
              ∧ summary.committed = checked.committed := by
  constructor
  . intro ledger committed h
    have hbooks := h.books
    refine ⟨hbooks.committed_eq, hbooks.committed_le_limit, ?_, ?_⟩
    . intro reservation options reconciliation hopened hopen hreconciled dimension
      have hle := hbooks.open_le (reservationOf_eq_some hopened).1 hopen dimension
      have hdimension := (reconciled_of_reconcileReplayBudget hreconciled).dimensions dimension
      have hbalance := reconcileDimension_balance (reservation.dimensions dimension).reservedAmount
        (options.usage dimension)
      rw [hdimension]
      omega
    . obtain ⟨progress, hprogress⟩ := hbooks.summarized
      refine ⟨progress.summary, ?_, hprogress.committed⟩
      simp only [summarizeReplayBudgetLedger, bind_eq_ok, pure_eq_ok]
      exact ⟨progress, hprogress.fold, rfl⟩
  . intro job attempts ledger checked haccepted h
    obtain ⟨progress, hfold, habreast⟩ := summarized_of_validateBudgetLedger haccepted h
    refine ⟨progress.summary, ?_, habreast.committed⟩
    simp only [summarizeReplayBudgetLedger, bind_eq_ok, pure_eq_ok]
    exact ⟨progress, hfold, rfl⟩

section Sample

def sampleDigest : String := "0123456789abcdef0123456789abcdef0123456789abcdef0123456789abcdef"

def sampleScope : EvidenceScope where
  environmentId := "environment_one"
  projectId := "project_one"
  tenantId := "tenant_one"

def sampleFence : ReplayWorkerMutationFence where
  attemptId := "attempt_one"
  fencingToken := 1
  jobId := "job_one"
  leaseId := "lease_one"
  recoveryEpoch := 0
  workerId := "worker_one"

def sampleTime (value : Nat) (h : value ≤ 253402300799999 := by decide)
    : UtcMillisecondTimestamp where
  value := value
  le_value := by omega
  value_le := by omega

theorem sampleStart_le : 1000 ≤ 253402300799999 := by
  decide

theorem sampleReserved_le : 1100 ≤ 253402300799999 := by
  decide

theorem sampleEnd_le : 1200 ≤ 253402300799999 := by
  decide

def samplePlanReference : ReplayPlanJobReference where
  definitionSha256 := sampleDigest
  planId := "plan_one"
  planVersionId := "plan_version_one"

def sampleLease : ReplayLease where
  acquiredAt := sampleTime 1000
  attemptSequence := 0
  expiresAt := sampleTime 2000
  heartbeatAt := sampleTime 1000
  mutationFence := sampleFence
  scope := sampleScope

def sampleRunningJob : ReplayJob where
  createdAt := sampleTime 1000
  createdByPrincipalId := "principal_one"
  currentLease := some sampleLease
  jobId := "job_one"
  lastFencingToken := 1
  latestAttemptSequence := some 0
  plan := samplePlanReference
  recoveryEpoch := 0
  scope := sampleScope
  startedAt := some (sampleTime 1000)
  stateVersion := 2
  status := .running
  terminal := none

def sampleWorkerProtocol : WorkerProtocolReference where
  name := "worker.protocol"
  version := "1.0"

def sampleTargetRelease : TargetReleaseReference where
  definitionSha256 := sampleDigest
  targetAdapter := { name := "target.adapter", protocolVersion := "1.0", version := "1.0" }
  targetId := "target_one"
  targetReleaseId := "target_release_one"
  workerProtocol := sampleWorkerProtocol

def sampleAttempt : ReplayAttempt where
  attemptId := "attempt_one"
  attemptSequence := 0
  endedAt := none
  error := none
  isolationProfile :=
    { definitionSha256 := sampleDigest, id := "isolation_one", kind := .container, version := "1.0" }
  jobId := "job_one"
  mutationFence := sampleFence
  plan := samplePlanReference
  result := none
  retryDisposition := none
  runtimeProfile :=
    { definitionSha256 := sampleDigest, family := "node", id := "runtime_one", version := "1.0" }
  scope := sampleScope
  startedAt := sampleTime 1000
  status := .running
  targetRelease := sampleTargetRelease
  workerBuildSha256 := sampleDigest
  workerProtocol := sampleWorkerProtocol

def sampleBudget : ReplayBudget :=
  fun _ => { limit := 10, measurement := .measured }

def sampleReserveOptions : ReserveReplayBudgetOptions where
  budget := sampleBudget
  committed := emptyReplayBudgetAmounts
  ledgerSequence := 0
  mutationFence := sampleFence
  requested := fun _ => 8
  reservationId := "reservation_one"
  reservedAt := sampleTime 1100
  scope := sampleScope
  work := .attemptStart

def sampleReservation : ReplayBudgetReservation where
  dimensions := fun _ =>
    { committedBefore := 0, limit := 10, measurement := .measured, reservedAmount := 8 }
  ledgerSequence := 0
  mutationFence := sampleFence
  reservationId := "reservation_one"
  reservedAt := sampleTime 1100
  scope := sampleScope
  work := .attemptStart

def sampleReconcileOptions : ReconcileReplayBudgetOptions where
  ledgerSequence := 1
  reconciledAt := sampleTime 1200
  reconciliationId := "reconciliation_one"
  usage := fun _ => .observed 11 .measured

def sampleReconciliation : ReplayBudgetReconciliation where
  dimensions := fun _ => reconcileDimension 8 (.observed 11 .measured)
  ledgerSequence := 1
  mutationFence := sampleFence
  reconciledAt := sampleTime 1200
  reconciliationId := "reconciliation_one"
  reservationId := "reservation_one"
  scope := sampleScope

def sampleLedger : List ReplayBudgetLedgerEntry :=
  [.reservation sampleReservation, .reconciliation sampleReconciliation]

theorem accounted_sampleLedger : Accounted sampleBudget sampleLedger (fun _ => 11) := by
  have hreserved : Accounted sampleBudget ([] ++ [.reservation sampleReservation]) (fun _ => 8) := by
    apply @Accounted.reserve _ _ _ _ sampleReserveOptions _ Accounted.start
    . rfl
    . simp only [reserveReplayBudget, parseReservation, bind_eq_ok, parseWith_eq_ok,
        parseAmounts_eq_ok]
      exact ⟨_, ⟨by decide, rfl⟩, fun _ => 0, by decide, fun _ => 8, by decide, by decide, rfl⟩
    . rw [applyReplayBudgetReservation_eq_ok]
      constructor <;> decide
  apply @Accounted.reconcile _ _ _ _ sampleReconcileOptions sampleReservation _ hreserved
  . decide
  . decide
  . simp only [reconcileReplayBudget, parseReservation, parseReconciliation, parseUsage, bind_eq_ok,
      parseWith_eq_ok, mapDimensions_eq_ok]
    exact ⟨_, ⟨by decide, rfl⟩, fun _ => .observed 11 .measured, by decide, by decide, rfl⟩
  . rw [applyReplayBudgetReconciliation_eq_ok]
    constructor <;> decide

theorem committed_totals_agree_sampleLedger
    : (fun _ => 11 : ReplayBudgetAmounts) .toolCalls
          ≤ (sampleBudget .toolCalls).limit + overrunTotal sampleLedger .toolCalls
        ∧ ∃ summary checked,
            validateBudgetLedger sampleRunningJob [sampleAttempt] sampleLedger = .ok checked
              ∧ summarizeReplayBudgetLedger sampleLedger = .ok summary
              ∧ summary.committed = checked.committed := by
  have hagree := committed_totals_agree sampleBudget
  constructor
  . exact (hagree.1 sampleLedger _ accounted_sampleLedger).2.1 .toolCalls
  . have hvalid :
        (validateBudgetLedger sampleRunningJob [sampleAttempt] sampleLedger).toOption.isSome := by
      decide
    cases hchecked : validateBudgetLedger sampleRunningJob [sampleAttempt] sampleLedger with
    | error message =>
      rw [hchecked] at hvalid
      contradiction
    | ok checked =>
      obtain ⟨summary, hsummary⟩ := hagree.2 _ _ _ checked (by decide) hchecked
      exact ⟨summary, checked, rfl, hsummary⟩

end Sample

end Replay
end ProofStack
