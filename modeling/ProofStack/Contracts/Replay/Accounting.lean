import ProofStack.Contracts.Replay.Job

/-!
This module contains the entries of a replay budget ledger and the observations of a replay job.
-/

namespace ProofStack
namespace Replay

structure ReplayBudgetReservationDimension where
  committedBefore : Nat
  limit : Nat
  measurement : ReplayBudgetMeasurement
  reservedAmount : Nat
  deriving DecidableEq

namespace ReplayBudgetReservationDimension

@[mk_iff]
structure Shape (value : ReplayBudgetReservationDimension) : Prop where
  committedBefore : safeNonnegativeInteger value.committedBefore
  limit : safePositiveInteger value.limit
  reservedAmount : safeNonnegativeInteger value.reservedAmount

instance (value : ReplayBudgetReservationDimension) : Decidable value.Shape :=
  decidable_of_iff _ (shape_iff value).symm

def issues (value : ReplayBudgetReservationDimension) : List String :=
  issue ((value.committedBefore : Int) > value.limit - value.reservedAmount)
    "Reservation would exceed the immutable plan limit"

def Accepted (value : ReplayBudgetReservationDimension) : Prop :=
  value.Shape ∧ value.issues = []

instance (value : ReplayBudgetReservationDimension) : Decidable value.Accepted :=
  inferInstanceAs (Decidable (_ ∧ _))

end ReplayBudgetReservationDimension

abbrev ReplayBudgetReservationVector : Type :=
  ReplayBudgetDimension → ReplayBudgetReservationDimension

namespace ReplayBudgetReservationVector

def issues (value : ReplayBudgetReservationVector) : List String :=
  issue (∀ dimension, (value dimension).reservedAmount = 0)
    "A reservation must reserve at least one budget dimension"

def Accepted (value : ReplayBudgetReservationVector) : Prop :=
  (∀ dimension, (value dimension).Accepted) ∧ issues value = []

instance (value : ReplayBudgetReservationVector) : Decidable (Accepted value) :=
  inferInstanceAs (Decidable (_ ∧ _))

end ReplayBudgetReservationVector

inductive ReplayBudgetWorkReference where
  | attemptStart
  | boundaryCall (boundaryId : String) (boundaryKind : ReplayBoundaryKind)
  | artifactEmission (artifactId : String)
  deriving DecidableEq

def ReplayBudgetWorkReference.Accepted : ReplayBudgetWorkReference → Bool
  | .attemptStart => true
  | .boundaryCall boundaryId _ => OpaqueIdSchema boundaryId
  | .artifactEmission artifactId => OpaqueIdSchema artifactId

@[ext]
structure ReplayBudgetReservation where
  dimensions : ReplayBudgetReservationVector
  ledgerSequence : Nat
  mutationFence : ReplayWorkerMutationFence
  reservationId : String
  reservedAt : UtcMillisecondTimestamp
  scope : EvidenceScope
  work : ReplayBudgetWorkReference

-- The derived instance would get stuck on the equality of two vectors, which are functions.
instance : DecidableEq ReplayBudgetReservation :=
  fun _ _ => decidable_of_iff _ ReplayBudgetReservation.ext_iff.symm

namespace ReplayBudgetReservation

@[mk_iff]
structure Accepted (value : ReplayBudgetReservation) : Prop where
  dimensions : ReplayBudgetReservationVector.Accepted value.dimensions
  ledgerSequence : safeNonnegativeInteger value.ledgerSequence
  mutationFence : value.mutationFence.Accepted
  reservationId : OpaqueIdSchema value.reservationId
  scope : EvidenceScopeSchema value.scope
  work : value.work.Accepted

instance (value : ReplayBudgetReservation) : Decidable value.Accepted :=
  decidable_of_iff _ (accepted_iff value).symm

end ReplayBudgetReservation

inductive ReplayUsageSource where
  | estimated
  | measured
  | providerReported
  deriving DecidableEq

inductive ReplayUsageUnavailableReason where
  | measurementFailed
  | providerDidNotReport
  | sourceUnavailable
  deriving DecidableEq

inductive ReplayUsageMeasurement where
  | observed (amount : Nat) (source : ReplayUsageSource)
  | unavailable (reason : ReplayUsageUnavailableReason)
  deriving DecidableEq

def ReplayUsageMeasurement.Accepted : ReplayUsageMeasurement → Prop
  | .observed amount _ => safeNonnegativeInteger amount
  | .unavailable _ => True

instance (value : ReplayUsageMeasurement) : Decidable value.Accepted :=
  match value with
  | .observed _ _ => inferInstanceAs (Decidable (safeNonnegativeInteger _))
  | .unavailable _ => inferInstanceAs (Decidable True)

inductive ReplayBudgetDisposition where
  | disputed
  | overrun
  | settled
  deriving DecidableEq

structure ReplayBudgetReconciliationDimension where
  actualUsage : ReplayUsageMeasurement
  disposition : ReplayBudgetDisposition
  overrunAmount : Nat
  releasedAmount : Nat
  reservedAmount : Nat
  deriving DecidableEq

namespace ReplayBudgetReconciliationDimension

@[mk_iff]
structure Shape (value : ReplayBudgetReconciliationDimension) : Prop where
  actualUsage : value.actualUsage.Accepted
  overrunAmount : safeNonnegativeInteger value.overrunAmount
  releasedAmount : safeNonnegativeInteger value.releasedAmount
  reservedAmount : safeNonnegativeInteger value.reservedAmount

instance (value : ReplayBudgetReconciliationDimension) : Decidable value.Shape :=
  decidable_of_iff _ (shape_iff value).symm

def issues (value : ReplayBudgetReconciliationDimension) : List String :=
  match value.actualUsage with
  | .unavailable _ =>
    issue
      (value.disposition ≠ .disputed ∨ value.releasedAmount ≠ 0 ∨ value.overrunAmount ≠ 0)
      "Unavailable usage remains fully reserved and disputed"
  | .observed amount _ =>
    if amount ≤ value.reservedAmount then
      issue
        (value.disposition ≠ .settled
          ∨ value.releasedAmount ≠ value.reservedAmount - amount
          ∨ value.overrunAmount ≠ 0)
        "Settled usage must release exactly the unused reservation"
    else
      issue
        (value.disposition ≠ .overrun
          ∨ value.releasedAmount ≠ 0
          ∨ value.overrunAmount ≠ amount - value.reservedAmount)
        "Usage above reservation must preserve the complete overrun"

def Accepted (value : ReplayBudgetReconciliationDimension) : Prop :=
  value.Shape ∧ value.issues = []

instance (value : ReplayBudgetReconciliationDimension) : Decidable value.Accepted :=
  inferInstanceAs (Decidable (_ ∧ _))

end ReplayBudgetReconciliationDimension

abbrev ReplayBudgetReconciliationVector : Type :=
  ReplayBudgetDimension → ReplayBudgetReconciliationDimension

@[ext]
structure ReplayBudgetReconciliation where
  dimensions : ReplayBudgetReconciliationVector
  ledgerSequence : Nat
  mutationFence : ReplayWorkerMutationFence
  reconciledAt : UtcMillisecondTimestamp
  reconciliationId : String
  reservationId : String
  scope : EvidenceScope

instance : DecidableEq ReplayBudgetReconciliation :=
  fun _ _ => decidable_of_iff _ ReplayBudgetReconciliation.ext_iff.symm

namespace ReplayBudgetReconciliation

@[mk_iff]
structure Accepted (value : ReplayBudgetReconciliation) : Prop where
  dimensions : ∀ dimension, (value.dimensions dimension).Accepted
  ledgerSequence : safeNonnegativeInteger value.ledgerSequence
  mutationFence : value.mutationFence.Accepted
  reconciliationId : OpaqueIdSchema value.reconciliationId
  reservationId : OpaqueIdSchema value.reservationId
  scope : EvidenceScopeSchema value.scope

instance (value : ReplayBudgetReconciliation) : Decidable value.Accepted :=
  decidable_of_iff _ (accepted_iff value).symm

end ReplayBudgetReconciliation

inductive ReplayBudgetLedgerEntry where
  | reservation (entry : ReplayBudgetReservation)
  | reconciliation (entry : ReplayBudgetReconciliation)

instance : DecidableEq ReplayBudgetLedgerEntry
  | .reservation left, .reservation right => decidable_of_iff (left = right) (by simp)
  | .reconciliation left, .reconciliation right => decidable_of_iff (left = right) (by simp)
  | .reservation _, .reconciliation _ => isFalse (by simp)
  | .reconciliation _, .reservation _ => isFalse (by simp)

namespace ReplayBudgetLedgerEntry

def ledgerSequence : ReplayBudgetLedgerEntry → Nat
  | .reservation entry => entry.ledgerSequence
  | .reconciliation entry => entry.ledgerSequence

def mutationFence : ReplayBudgetLedgerEntry → ReplayWorkerMutationFence
  | .reservation entry => entry.mutationFence
  | .reconciliation entry => entry.mutationFence

def scope : ReplayBudgetLedgerEntry → EvidenceScope
  | .reservation entry => entry.scope
  | .reconciliation entry => entry.scope

def Accepted : ReplayBudgetLedgerEntry → Prop
  | .reservation entry => entry.Accepted
  | .reconciliation entry => entry.Accepted

instance (value : ReplayBudgetLedgerEntry) : Decidable value.Accepted :=
  match value with
  | .reservation entry => inferInstanceAs (Decidable entry.Accepted)
  | .reconciliation entry => inferInstanceAs (Decidable entry.Accepted)

end ReplayBudgetLedgerEntry

structure ReplayDimensionUsage where
  dimension : ReplayBudgetDimension
  usage : ReplayUsageMeasurement
  deriving DecidableEq

structure ReplayUsageObservation where
  boundaryId : Option String
  measurements : List ReplayDimensionUsage
  mutationFence : ReplayWorkerMutationFence
  observationId : String
  observationSequence : Nat
  observedAt : UtcMillisecondTimestamp
  scope : EvidenceScope
  sourceEventSha256 : String
  deriving DecidableEq

namespace ReplayUsageObservation

@[mk_iff]
structure Accepted (value : ReplayUsageObservation) : Prop where
  boundaryId : ∀ boundaryId ∈ value.boundaryId, OpaqueIdSchema boundaryId
  measurements : ∀ measurement ∈ value.measurements, measurement.usage.Accepted
  measurements_length :
    boundedInteger 1 replayBudgetDimensions.length value.measurements.length
  measurements_sorted :
    value.measurements.IsChain (fun left right => left.dimension.text < right.dimension.text)
  mutationFence : value.mutationFence.Accepted
  observationId : OpaqueIdSchema value.observationId
  observationSequence : safeNonnegativeInteger value.observationSequence
  scope : EvidenceScopeSchema value.scope
  sourceEventSha256 : Sha256Schema value.sourceEventSha256

instance (value : ReplayUsageObservation) : Decidable value.Accepted :=
  decidable_of_iff _ (accepted_iff value).symm

end ReplayUsageObservation

inductive BoundaryOutputOrigin where
  | live
  | recorded
  | simulated
  deriving DecidableEq

def ReplayBoundaryMode.origin : ReplayBoundaryMode → BoundaryOutputOrigin
  | .liveProvider => .live
  | .recordedStub => .recorded
  | .simulation => .simulated

inductive BoundaryExecutionPhase where
  | failed
  | requestStarted
  | responseObserved
  deriving DecidableEq

structure BoundaryExecutionObservation where
  afterCancellationRequest : Bool
  boundaryId : String
  boundaryKind : ReplayBoundaryKind
  effectCertainty : ReplayEffectCertainty
  evidenceSha256 : String
  executionOrigin : BoundaryOutputOrigin
  mode : ReplayBoundaryMode
  phase : BoundaryExecutionPhase
  deriving DecidableEq

def BoundaryExecutionObservation.issues (value : BoundaryExecutionObservation) : List String :=
  issue (value.executionOrigin ≠ value.mode.origin)
      "Boundary output origin must preserve the selected immutable mode"
    ++ issue (value.mode ≠ .liveProvider ∧ value.effectCertainty ≠ .none)
      "Recorded and simulated boundaries cannot claim a live external effect"

inductive TargetExecutionEvent where
  | exited
  | started
  | stderrCapped
  | stdoutCapped
  deriving DecidableEq

structure TargetExecutionObservation where
  afterCancellationRequest : Bool
  evidenceSha256 : String
  event : TargetExecutionEvent
  exitCode : Option Int
  deriving DecidableEq

def TargetExecutionObservation.issues (value : TargetExecutionObservation) : List String :=
  issue (¬(value.event = .exited ↔ value.exitCode ≠ none))
    "Only an exited target observation carries an exit code"

inductive CancellationExecutionEvent where
  | lateCompletionObserved
  | requestObserved
  | stopRequested
  | stoppedBeforeTargetStart
  deriving DecidableEq

structure CancellationExecutionObservation where
  cancellationId : String
  event : CancellationExecutionEvent
  evidenceSha256 : String
  deriving DecidableEq

inductive IsolationControl where
  | environmentAllowlist
  | filesystemMounts
  | networkPolicy
  | noNewPrivileges
  | outputLimits
  | processBoundary
  | resourceLimits
  | subprocessPolicy
  deriving DecidableEq

inductive IsolationVerdict where
  | failed
  | notVerified
  | verified
  deriving DecidableEq

structure IsolationExecutionObservation where
  control : IsolationControl
  evidenceSha256 : String
  verdict : IsolationVerdict
  deriving DecidableEq

inductive ReplayExecutionObservationPayload where
  | boundary (value : BoundaryExecutionObservation)
  | cancellation (value : CancellationExecutionObservation)
  | isolation (value : IsolationExecutionObservation)
  | target (value : TargetExecutionObservation)
  deriving DecidableEq

namespace ReplayExecutionObservationPayload

def cancellationId : ReplayExecutionObservationPayload → Option String
  | .cancellation value => some value.cancellationId
  | _ => none

def Accepted : ReplayExecutionObservationPayload → Prop
  | .boundary value =>
    OpaqueIdSchema value.boundaryId ∧ Sha256Schema value.evidenceSha256 ∧ value.issues = []
  | .cancellation value => OpaqueIdSchema value.cancellationId ∧ Sha256Schema value.evidenceSha256
  | .isolation value => Sha256Schema value.evidenceSha256
  | .target value =>
    Sha256Schema value.evidenceSha256
      ∧ (∀ exitCode ∈ value.exitCode, -1 ≤ exitCode ∧ exitCode ≤ 255)
      ∧ value.issues = []

instance (value : ReplayExecutionObservationPayload) : Decidable value.Accepted :=
  match value with
  | .boundary _ => inferInstanceAs (Decidable (_ ∧ _ ∧ _))
  | .cancellation _ => inferInstanceAs (Decidable (_ ∧ _))
  | .isolation _ => inferInstanceAs (Decidable (_ = true))
  | .target _ => inferInstanceAs (Decidable (_ ∧ _ ∧ _))

end ReplayExecutionObservationPayload

structure ReplayExecutionObservation where
  mutationFence : ReplayWorkerMutationFence
  observationId : String
  observationSequence : Nat
  observedAt : UtcMillisecondTimestamp
  payload : ReplayExecutionObservationPayload
  scope : EvidenceScope
  deriving DecidableEq

namespace ReplayExecutionObservation

@[mk_iff]
structure Accepted (value : ReplayExecutionObservation) : Prop where
  mutationFence : value.mutationFence.Accepted
  observationId : OpaqueIdSchema value.observationId
  observationSequence : safeNonnegativeInteger value.observationSequence
  payload : value.payload.Accepted
  scope : EvidenceScopeSchema value.scope

instance (value : ReplayExecutionObservation) : Decidable value.Accepted :=
  decidable_of_iff _ (accepted_iff value).symm

end ReplayExecutionObservation

end Replay
end ProofStack
