import ProofStack.Checks
import ProofStack.Contracts.Replay.BoundaryExecution
import ProofStack.Replay.Budget

/-!
This module contains the usage of a replay attempt.
-/

namespace ProofStack
namespace Worker

open Checks Replay Execution

inductive ReplayAttemptAccountingErrorCode where
  | arithmeticOverflow
  | invalidUsageEvidence
  deriving DecidableEq

abbrev Accounting (α : Type) : Type := Except ReplayAttemptAccountingErrorCode α

/-- An input without the fields of its schema is absent here, and so is a number that is no integer. -/
structure MeasureReplayAttemptUsageOptions where
  boundaryResults : List (Option ReplayBoundaryExecutionResult)
  elapsedMilliseconds : Option Int
  emittedArtifactBytes : Option Int
  executionObservations : List (Option ReplayExecutionObservationPayload)

inductive BoundaryUsageDimension where
  | inputTokens
  | outputTokens
  | providerCostMicrounits
  deriving DecidableEq

def BoundaryUsageDimension.dimension : BoundaryUsageDimension → ReplayBudgetDimension
  | .inputTokens => .inputTokens
  | .outputTokens => .outputTokens
  | .providerCostMicrounits => .providerCostMicrounits

def safeNonnegativeInteger (input : Option Int) : Accounting Nat := do
  let value ← found input .invalidUsageEvidence
  failIf (¬(-maxSafeInteger ≤ value ∧ value ≤ maxSafeInteger) ∨ value < 0) .invalidUsageEvidence
  return value.toNat

def checkedAdd (left right : Nat) : Accounting Nat := do
  failIf ((right : Int) > (maxSafeInteger : Int) - left) .arithmeticOverflow
  return left + right

def measured (amount : Nat) : ReplayUsageMeasurement :=
  .observed amount .measured

def parseResult (candidate : Option ReplayBoundaryExecutionResult) : Accounting ReplayBoundaryExecutionResult := do
  let result ← found candidate .invalidUsageEvidence
  parseWith result.Accepted .invalidUsageEvidence result

def parseResults (input : List (Option ReplayBoundaryExecutionResult))
    : Accounting (List ReplayBoundaryExecutionResult) :=
  input.mapM parseResult

def parseObservation (candidate : Option ReplayExecutionObservationPayload)
    : Accounting ReplayExecutionObservationPayload := do
  let observation ← found candidate .invalidUsageEvidence
  parseWith observation.Accepted .invalidUsageEvidence observation

def parseObservations (input : List (Option ReplayExecutionObservationPayload))
    : Accounting (List ReplayExecutionObservationPayload) :=
  input.mapM parseObservation

-- The schemas of results and of observations spell the origins alike.
def sameOrigin : BoundaryOutputOrigin → ExecutionOrigin → Bool
  | .live, .live | .recorded, .recorded | .simulated, .simulated => true
  | _, _ => false

def matchesResult (observation : BoundaryExecutionObservation) (result : ReplayBoundaryExecutionResult) : Bool :=
  observation.phase == .responseObserved
    && observation.boundaryId == result.boundaryId
    && observation.boundaryKind == result.actualRequest.kind
    && observation.effectCertainty == result.effectCertainty
    && sameOrigin observation.executionOrigin result.executionOrigin
    && observation.mode == result.mode

/-- The text that the source joins these fields to is that of a JSON array, which separates them. -/
def observationKey (observation : BoundaryExecutionObservation)
    : String × ReplayBoundaryKind × ReplayBoundaryMode × BoundaryOutputOrigin :=
  (observation.boundaryId, observation.boundaryKind, observation.mode, observation.executionOrigin)

def validateLifecycleFrom (pending : Option (String × ReplayBoundaryKind × ReplayBoundaryMode × BoundaryOutputOrigin))
    : List BoundaryExecutionObservation → Accounting Unit
  | [] => return
  | observation :: observations =>
    if observation.phase = .requestStarted then do
      failIf (pending ≠ none) .invalidUsageEvidence
      validateLifecycleFrom (some (observationKey observation)) observations
    else do
      failIf (pending ≠ some (observationKey observation)) .invalidUsageEvidence
      validateLifecycleFrom none observations

def validateBoundaryLifecycle (observations : List BoundaryExecutionObservation) : Accounting Unit :=
  validateLifecycleFrom none observations

def boundaryObservation : ReplayExecutionObservationPayload → Option BoundaryExecutionObservation
  | .boundary observation => some observation
  | _ => none

def correlateResults (observations : List ReplayExecutionObservationPayload)
    (results : List ReplayBoundaryExecutionResult) : Accounting (List BoundaryExecutionObservation) := do
  let boundaryObservations := observations.filterMap boundaryObservation
  validateBoundaryLifecycle boundaryObservations
  let responses := boundaryObservations.filter (·.phase == .responseObserved)
  failIf
    (responses.length ≠ results.length
      ∨ responses.zipIdx.any (fun (observation, index) =>
          match results[index]? with
          | none => true
          | some result => !matchesResult observation result))
    .invalidUsageEvidence
  return boundaryObservations

def uncertainFrom (relevant : BoundaryExecutionObservation → Bool)
    : Bool → List BoundaryExecutionObservation → Bool
  | pending, [] => pending
  | pending, observation :: observations =>
    if !relevant observation then uncertainFrom relevant pending observations
    else match observation.phase with
      | .requestStarted => uncertainFrom relevant true observations
      | .failed => true
      | .responseObserved => uncertainFrom relevant false observations

def uncertainBoundaryUsage (observations : List BoundaryExecutionObservation)
    (relevant : BoundaryExecutionObservation → Bool) : Bool :=
  uncertainFrom relevant false observations

def countStarted (observations : List BoundaryExecutionObservation) (kind : ReplayBoundaryKind) : Accounting Nat :=
  observations.foldlM (fun count observation =>
    if observation.phase = .requestStarted ∧ observation.boundaryKind = kind then checkedAdd count 1
    else pure count) 0

def retrievedBytes (results : List ReplayBoundaryExecutionResult)
    (observations : List BoundaryExecutionObservation) : Accounting ReplayUsageMeasurement :=
  if uncertainBoundaryUsage observations (·.boundaryKind == .retrieval) then
    return .unavailable .measurementFailed
  else do
    let total ← results.foldlM (fun total result =>
      if result.actualRequest.kind ≠ .retrieval then pure total
      else match result.output with
        | .recordedArtifacts _ => .error .invalidUsageEvidence
        | .normalizedResponse response => checkedAdd total response.sizeBytes) 0
    return measured total

def isRelevantResult (dimension : BoundaryUsageDimension) (result : ReplayBoundaryExecutionResult) : Bool :=
  match dimension with
  | .providerCostMicrounits => result.mode == .liveProvider
  | .inputTokens | .outputTokens => result.actualRequest.kind == .model && result.mode != .recordedStub

def relevantResults (results : List ReplayBoundaryExecutionResult) (dimension : BoundaryUsageDimension)
    : List ReplayBoundaryExecutionResult :=
  results.filter (isRelevantResult dimension)

def isRelevantObservation (dimension : BoundaryUsageDimension) (observation : BoundaryExecutionObservation) : Bool :=
  match dimension with
  | .providerCostMicrounits => observation.mode == .liveProvider
  | .inputTokens | .outputTokens => observation.boundaryKind == .model && observation.mode != .recordedStub

def missingReason (result : ReplayBoundaryExecutionResult) : ReplayUsageUnavailableReason :=
  match result.declaration.execution with
  | .liveProvider provider =>
    if provider.usageSource = .providerReported then .providerDidNotReport else .sourceUnavailable
  | _ => .sourceUnavailable

def measurementOf (dimension : BoundaryUsageDimension) (result : ReplayBoundaryExecutionResult)
    : ReplayUsageMeasurement :=
  match result.usage.find? (·.dimension == dimension.dimension) with
  | some entry => entry.usage
  | none => .unavailable (missingReason result)

def reasonOf : ReplayUsageMeasurement → Option ReplayUsageUnavailableReason
  | .observed _ _ => none
  | .unavailable reason => some reason

def observationOf : ReplayUsageMeasurement → Option (Nat × ReplayUsageSource)
  | .observed amount source => some (amount, source)
  | .unavailable _ => none

def unavailableReason (reasons : List ReplayUsageUnavailableReason) : ReplayUsageUnavailableReason :=
  if .measurementFailed ∈ reasons then .measurementFailed
  else if .providerDidNotReport ∈ reasons then .providerDidNotReport
  else .sourceUnavailable

def aggregateBoundaryUsage (results : List ReplayBoundaryExecutionResult) (dimension : BoundaryUsageDimension)
    (observations : List BoundaryExecutionObservation) : Accounting ReplayUsageMeasurement :=
  if uncertainBoundaryUsage observations (isRelevantObservation dimension) then
    return .unavailable .measurementFailed
  else
    let relevant := relevantResults results dimension
    if relevant.length = 0 then return measured 0
    else
      let measurements := relevant.map (measurementOf dimension)
      let missing := measurements.filterMap reasonOf
      if missing.length > 0 then return .unavailable (unavailableReason missing)
      else
        let observed := measurements.filterMap observationOf
        match observed.head? with
        | none => return .unavailable .measurementFailed
        | some (_, source) =>
          if observed.any (·.2 ≠ source) then return .unavailable .measurementFailed
          else do
            let amount ← observed.foldlM (fun amount measurement => checkedAdd amount measurement.1) 0
            return .observed amount source

def workerOwned : List ReplayBudgetDimension :=
  [.concurrentInteractions, .elapsedMilliseconds, .emittedArtifactBytes, .jobAttempts]

def countsOne (entry : BoundaryUsage) : Prop :=
  ∃ source, entry.usage = .observed 1 source

instance (entry : BoundaryUsage) : Decidable (countsOne entry) :=
  match h : entry.usage with
  | .unavailable _ => isFalse (fun ⟨_, hobserved⟩ => by rw [h] at hobserved; contradiction)
  | .observed amount source =>
    if hamount : amount = 1 then isTrue ⟨source, by rw [h, hamount]⟩
    else isFalse (fun ⟨_, hobserved⟩ => by rw [h] at hobserved; cases hobserved; contradiction)

def verifyEntry (result : ReplayBoundaryExecutionResult) (entry : BoundaryUsage) : Accounting Unit := do
  failIf (entry.dimension ∈ workerOwned) .invalidUsageEvidence
  failIf (entry.dimension = .modelRequests ∧ (result.actualRequest.kind ≠ .model ∨ ¬countsOne entry))
    .invalidUsageEvidence
  failIf (entry.dimension = .toolCalls ∧ (result.actualRequest.kind ≠ .tool ∨ ¬countsOne entry))
    .invalidUsageEvidence

def verifyWorkerOwnedUsage (results : List ReplayBoundaryExecutionResult) : Accounting Unit :=
  results.forM (fun result => result.usage.forM (verifyEntry result))

def measureReplayAttemptUsage (options : MeasureReplayAttemptUsageOptions)
    : Accounting ReplayUsageMeasurements := do
  let elapsedMilliseconds ← safeNonnegativeInteger options.elapsedMilliseconds
  let emittedArtifactBytes ← safeNonnegativeInteger options.emittedArtifactBytes
  let results ← parseResults options.boundaryResults
  verifyWorkerOwnedUsage results
  let observations ← parseObservations options.executionObservations
  let boundaryObservations ← correlateResults observations results
  let started := (boundaryObservations.filter (·.phase == .requestStarted)).length
  let inputTokens ← aggregateBoundaryUsage results .inputTokens boundaryObservations
  let modelRequests ← countStarted boundaryObservations .model
  let outputTokens ← aggregateBoundaryUsage results .outputTokens boundaryObservations
  let providerCostMicrounits ← aggregateBoundaryUsage results .providerCostMicrounits boundaryObservations
  let retrieved ← retrievedBytes results boundaryObservations
  let toolCalls ← countStarted boundaryObservations .tool
  return fun
    | .concurrentInteractions => measured (if started = 0 then 0 else 1)
    | .elapsedMilliseconds => measured elapsedMilliseconds
    | .emittedArtifactBytes => measured emittedArtifactBytes
    | .inputTokens => inputTokens
    | .jobAttempts => measured 1
    | .modelRequests => measured modelRequests
    | .outputTokens => outputTokens
    | .providerCostMicrounits => providerCostMicrounits
    | .retrievedBytes => retrieved
    | .toolCalls => measured toolCalls

end Worker
end ProofStack
