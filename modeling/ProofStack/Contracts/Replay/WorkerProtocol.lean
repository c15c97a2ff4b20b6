import ProofStack.Contracts.Replay.BoundaryExecution

/-!
This module contains the messages between a worker and the target process that it replays.
-/

namespace ProofStack
namespace Replay
namespace Process

open Boundary Definition Encoding Execution

def maxReplayTargetRandomBytesPerRequest : Nat := 65536

inductive PendingRequest (Request : Type) where
  | boundary (boundaryId : String) (request : Request) (requestSequence : Nat)
  | clock (boundaryId requestId : String) (requestSequence : Nat)
  | random (boundaryId : String) (length : Nat) (requestId : String) (requestSequence : Nat)
  deriving DecidableEq

namespace PendingRequest

variable {Request : Type}

def boundaryId : PendingRequest Request → String
  | .boundary boundaryId _ _ => boundaryId
  | .clock boundaryId _ _ => boundaryId
  | .random boundaryId _ _ _ => boundaryId

def requestSequence : PendingRequest Request → Nat
  | .boundary _ _ requestSequence => requestSequence
  | .clock _ _ requestSequence => requestSequence
  | .random _ _ _ requestSequence => requestSequence

def isBoundary : PendingRequest Request → Bool
  | .boundary _ _ _ => true
  | _ => false

def Accepted (AcceptedRequest : Request → Prop) (value : PendingRequest Request) : Prop :=
  OpaqueIdSchema value.boundaryId ∧ value.requestSequence ≤ maxSafeInteger
    ∧ match value with
      | .boundary _ request _ => AcceptedRequest request
      | .clock _ requestId _ => OpaqueIdSchema requestId
      | .random _ length requestId _ =>
        boundedInteger 1 maxReplayTargetRandomBytesPerRequest length ∧ OpaqueIdSchema requestId

instance (AcceptedRequest : Request → Prop) [DecidablePred AcceptedRequest] (value : PendingRequest Request)
    : Decidable (value.Accepted AcceptedRequest) :=
  match value with
  | .boundary _ request _ => inferInstanceAs (Decidable (_ ∧ _ ∧ AcceptedRequest request))
  | .clock _ _ _ => inferInstanceAs (Decidable (_ ∧ _ ∧ _))
  | .random _ _ _ _ => inferInstanceAs (Decidable (_ ∧ _ ∧ _ ∧ _))

end PendingRequest

inductive TargetMessageBody (Request : Type) where
  | completed (requestCount : Nat)
  | ready (targetAdapter : ReplayReleaseTargetAdapterReference) (workerProtocol : WorkerProtocolReference)
  | request (pending : PendingRequest Request)
  deriving DecidableEq

structure TargetMessage (Request : Type) where
  body : TargetMessageBody Request
  schemaVersion : String
  sessionId : String
  deriving DecidableEq

namespace TargetMessageBody

variable {Request : Type}

def Accepted (AcceptedRequest : Request → Prop) : TargetMessageBody Request → Prop
  | .completed requestCount => requestCount ≤ maxSafeInteger
  | .ready targetAdapter workerProtocol => targetAdapter.Accepted ∧ workerProtocol.Accepted
  | .request pending => pending.Accepted AcceptedRequest

instance (AcceptedRequest : Request → Prop) [DecidablePred AcceptedRequest]
    (value : TargetMessageBody Request) : Decidable (value.Accepted AcceptedRequest) :=
  match value with
  | .completed _ => inferInstanceAs (Decidable (_ ≤ _))
  | .ready _ _ => inferInstanceAs (Decidable (_ ∧ _))
  | .request pending => inferInstanceAs (Decidable (pending.Accepted AcceptedRequest))

end TargetMessageBody

def TargetMessage.Accepted {Request : Type} (schemaVersion : String) (AcceptedRequest : Request → Prop)
    (value : TargetMessage Request) : Prop :=
  value.body.Accepted AcceptedRequest
    ∧ value.schemaVersion = schemaVersion
    ∧ OpaqueIdSchema value.sessionId

instance {Request : Type} (schemaVersion : String) (AcceptedRequest : Request → Prop)
    [DecidablePred AcceptedRequest] (value : TargetMessage Request)
    : Decidable (value.Accepted schemaVersion AcceptedRequest) :=
  inferInstanceAs (Decidable (_ ∧ _ ∧ _))

structure StartMessage (Boundary : Type) where
  boundaries : List Boundary
  schemaVersion : String
  sessionId : String
  targetRelease : TargetReleaseReference
  deriving DecidableEq

def adapterIssues (targetRelease : TargetReleaseReference)
    (invocation : Option RecordedBoundaryReplayInvocationDefinition) : List String :=
  invocation.elim [] (fun invocation =>
    issue (targetRelease.targetAdapter.name ≠ invocation.targetAdapter.name
        ∨ targetRelease.targetAdapter.version ≠ invocation.targetAdapter.version)
      "Every recorded invocation must match the exact target release adapter")

@[mk_iff]
structure StartMessage.Accepted {Boundary : Type} (schemaVersion : String)
    (AcceptedBoundary : Boundary → Prop) (boundaryId : Boundary → String)
    (invocation : Boundary → Option RecordedBoundaryReplayInvocationDefinition)
    (value : StartMessage Boundary) : Prop where
  boundaries : ∀ boundary ∈ value.boundaries, AcceptedBoundary boundary
  boundaries_length : boundedInteger 1 ReplayPlanDefinition.maxReplayBoundaries value.boundaries.length
  boundaries_sorted : (value.boundaries.map boundaryId).IsChain (· < ·)
  schemaVersion : value.schemaVersion = schemaVersion
  sessionId : OpaqueIdSchema value.sessionId
  targetRelease : value.targetRelease.Accepted
  issues : value.boundaries.flatMap (fun boundary =>
    adapterIssues value.targetRelease (invocation boundary)) = []

instance {Boundary : Type} (schemaVersion : String) (AcceptedBoundary : Boundary → Prop)
    [DecidablePred AcceptedBoundary] (boundaryId : Boundary → String)
    (invocation : Boundary → Option RecordedBoundaryReplayInvocationDefinition)
    (value : StartMessage Boundary)
    : Decidable (value.Accepted schemaVersion AcceptedBoundary boundaryId invocation) :=
  decidable_of_iff _
    (StartMessage.accepted_iff schemaVersion AcceptedBoundary boundaryId invocation value).symm

inductive ReplayTargetProcessStopReason where
  | cancellationRequested
  | deadlineReached
  | leaseLost
  | workerShutdown
  deriving DecidableEq

inductive ReplayTargetProcessAbortCode where
  | boundaryContractRejected
  | boundaryMismatch
  | sessionContractRejected
  | workerInternalError
  deriving DecidableEq

inductive WorkerMessageBody (Boundary Output : Type) where
  | start (message : StartMessage Boundary)
  | boundaryResponse (boundaryId : String) (output : Output) (requestSequence : Nat)
  | clockResponse (boundaryId instant requestId : String) (requestSequence : Nat)
  | randomResponse (boundaryId bytes encoding requestId : String) (requestSequence : Nat)
  | stop (reason : ReplayTargetProcessStopReason)
  | abort (code : ReplayTargetProcessAbortCode)
  deriving DecidableEq

structure WorkerMessage (Boundary Output : Type) where
  body : WorkerMessageBody Boundary Output
  schemaVersion : String
  sessionId : String
  deriving DecidableEq

namespace WorkerMessageBody

variable {Boundary Output : Type}

def Accepted (AcceptedOutput : Output → Prop) : WorkerMessageBody Boundary Output → Prop
  | .start _ => True
  | .boundaryResponse boundaryId output requestSequence =>
    OpaqueIdSchema boundaryId ∧ AcceptedOutput output ∧ requestSequence ≤ maxSafeInteger
  | .clockResponse boundaryId instant requestId requestSequence =>
    OpaqueIdSchema boundaryId ∧ UtcMillisecondTimestampSchema instant ∧ OpaqueIdSchema requestId
      ∧ requestSequence ≤ maxSafeInteger
  | .randomResponse boundaryId bytes encoding requestId requestSequence =>
    OpaqueIdSchema boundaryId ∧ ReplayBase64UrlBytesSchema bytes ∧ encoding = "base64url"
      ∧ OpaqueIdSchema requestId ∧ requestSequence ≤ maxSafeInteger
  | .stop _ => True
  | .abort _ => True

instance (AcceptedOutput : Output → Prop) [DecidablePred AcceptedOutput]
    (value : WorkerMessageBody Boundary Output) : Decidable (value.Accepted AcceptedOutput) :=
  match value with
  | .start _ => inferInstanceAs (Decidable True)
  | .boundaryResponse _ output _ => inferInstanceAs (Decidable (_ ∧ AcceptedOutput output ∧ _))
  | .clockResponse _ _ _ _ => inferInstanceAs (Decidable (_ ∧ _ ∧ _ ∧ _))
  | .randomResponse _ _ _ _ _ => inferInstanceAs (Decidable (_ ∧ _ ∧ _ ∧ _ ∧ _))
  | .stop _ => inferInstanceAs (Decidable True)
  | .abort _ => inferInstanceAs (Decidable True)

end WorkerMessageBody

def WorkerMessage.Accepted {Boundary Output : Type} (schemaVersion : String) (AcceptedOutput : Output → Prop)
    (value : WorkerMessage Boundary Output) : Prop :=
  value.body.Accepted AcceptedOutput
    ∧ value.schemaVersion = schemaVersion
    ∧ OpaqueIdSchema value.sessionId

instance {Boundary Output : Type} (schemaVersion : String) (AcceptedOutput : Output → Prop)
    [DecidablePred AcceptedOutput] (value : WorkerMessage Boundary Output)
    : Decidable (value.Accepted schemaVersion AcceptedOutput) :=
  inferInstanceAs (Decidable (_ ∧ _ ∧ _))

def encodeBase64Url : Bytes → List Char
  | a :: b :: c :: rest =>
    base64UrlAlphabet.getD (a.toNat / 4) 'A' :: base64UrlAlphabet.getD (a.toNat % 4 * 16 + b.toNat / 16) 'A'
      :: base64UrlAlphabet.getD (b.toNat % 16 * 4 + c.toNat / 64) 'A'
      :: base64UrlAlphabet.getD (c.toNat % 64) 'A' :: encodeBase64Url rest
  | [a, b] =>
    [base64UrlAlphabet.getD (a.toNat / 4) 'A', base64UrlAlphabet.getD (a.toNat % 4 * 16 + b.toNat / 16) 'A',
      base64UrlAlphabet.getD (b.toNat % 16 * 4) 'A']
  | [a] => [base64UrlAlphabet.getD (a.toNat / 4) 'A', base64UrlAlphabet.getD (a.toNat % 4 * 16) 'A']
  | [] => []

structure RecordedReplayProcessBoundary where
  boundaryId : String
  invocation : RecordedBoundaryReplayInvocationDefinition
  invocationDefinitionSha256 : String
  deriving DecidableEq

def RecordedReplayProcessBoundary.Accepted (value : RecordedReplayProcessBoundary) : Prop :=
  OpaqueIdSchema value.boundaryId ∧ value.invocation.Accepted
    ∧ Sha256Schema value.invocationDefinitionSha256

instance (value : RecordedReplayProcessBoundary) : Decidable value.Accepted :=
  inferInstanceAs (Decidable (_ ∧ _ ∧ _))

inductive ProcessBoundaryMode where
  | liveProvider
  | recordedStub (stub : RecordedStub)
  | simulation
  deriving DecidableEq

def ProcessBoundaryMode.mode : ProcessBoundaryMode → ReplayBoundaryMode
  | .liveProvider => .liveProvider
  | .recordedStub _ => .recordedStub
  | .simulation => .simulation

structure ReplayProcessBoundaryV2 where
  boundaryId : String
  kind : ReplayBoundaryKind
  execution : ProcessBoundaryMode
  deriving DecidableEq

namespace ReplayProcessBoundaryV2

def recorded (value : ReplayProcessBoundaryV2) : Option RecordedStub :=
  match value.execution with
  | .recordedStub stub => some stub
  | _ => none

def Accepted (value : ReplayProcessBoundaryV2) : Prop :=
  OpaqueIdSchema value.boundaryId
    ∧ ∀ stub ∈ value.recorded, stub.Accepted ∧ (value.kind = .model ∨ value.kind = .tool)

instance (value : ReplayProcessBoundaryV2) : Decidable value.Accepted :=
  inferInstanceAs (Decidable (_ ∧ ∀ stub ∈ value.recorded, _))

end ReplayProcessBoundaryV2

end Process
end Replay
end ProofStack
