import ProofStack.Checks
import ProofStack.Contracts.Replay.WorkerProtocol
import ProofStack.StateMachine.Transcript

/-!
This module contains the session between a worker and the target process that it replays.
-/

namespace ProofStack
namespace Replay
namespace Process

open Boundary Checks Definition Encoding Execution StateMachine

inductive ReplayTargetProcessSessionStatus where
  | aborted
  | awaitingReady
  | awaitingResponse
  | completed
  | created
  | failed
  | ready
  | stopped
  deriving DecidableEq

def ReplayTargetProcessSessionStatus.isClosed : ReplayTargetProcessSessionStatus → Bool
  | .aborted | .completed | .failed | .stopped => true
  | _ => false

inductive ReplayTargetProcessProtocolErrorCode where
  | boundaryRequestMismatch
  | boundaryResultMismatch
  | boundaryResponseMismatch
  | duplicateRequestId
  | invalidStartMessage
  | invalidTargetMessage
  | invalidWorkerMessage
  | randomResponseMismatch
  | requestSequenceMismatch
  | runtimeControlUnavailable
  | sessionClosed
  | sessionMismatch
  | targetAdapterMismatch
  | unexpectedMessage
  | unknownBoundary
  | workerProtocolMismatch
  deriving DecidableEq

inductive SessionError where
  | protocol (code : ReplayTargetProcessProtocolErrorCode)
  | schema
  deriving DecidableEq

/-- A call that is refused either fails the session or leaves it as it is. -/
inductive Refusal where
  | fails (code : ReplayTargetProcessProtocolErrorCode)
  | throws (error : SessionError)
  deriving DecidableEq

/-- What the versions of the session differ in. A boundary that is looked up may be missing. -/
structure Version where
  schemaVersion : String
  Boundary : Type
  Request : Type
  Result : Type
  Output : Type
  boundaryId : Boundary → String
  acceptedBoundary : Boundary → Bool
  invocation : Boundary → Option RecordedBoundaryReplayInvocationDefinition
  boundaryRequestId : Request → String
  acceptedRequest : Request → Bool
  acceptedResult : Result → Bool
  output : Result → Output
  acceptedOutput : Output → Bool
  /-- The results are kept as evidence. -/
  retainsResults : Bool
  checkRequest : Boundary → PendingRequest Request → Except Refusal Unit
  checkResult : Option Boundary → Request → Result → Except Refusal Unit
  clockInstant : Option Boundary → Except Refusal String
  checkRandom : Option Boundary → Except Refusal Unit

namespace Version

abbrev Start (v : Version) : Type := StartMessage v.Boundary

abbrev Target (v : Version) : Type := TargetMessage v.Request

abbrev Worker (v : Version) : Type := WorkerMessage v.Boundary v.Output

def requestId (v : Version) : PendingRequest v.Request → String
  | .boundary _ request _ => v.boundaryRequestId request
  | .clock _ requestId _ => requestId
  | .random _ _ requestId _ => requestId

end Version

structure Session (v : Version) where
  acceptedRequestCount : Nat
  pendingRequest : Option (PendingRequest v.Request)
  results : List v.Result
  seenRequestIds : List String
  startMessageValue : v.Start
  statusValue : ReplayTargetProcessSessionStatus

inductive Reply (v : Version) where
  | started (message : v.Start)
  | target (message : v.Target)
  | worker (message : v.Worker)

namespace Session

variable {v : Version}

def initial (startMessage : v.Start) : Session v where
  acceptedRequestCount := 0
  pendingRequest := none
  results := []
  seenRequestIds := []
  startMessageValue := startMessage
  statusValue := .created

/-- An input without the fields of a start message is absent here, and so are the other inputs below. -/
def create (input : Option v.Start) : Except SessionError (Session v) := do
  let startMessage ← found input (.protocol .invalidStartMessage)
  let startMessage ← parseWith (startMessage.Accepted v.schemaVersion (fun boundary =>
    v.acceptedBoundary boundary = true) v.boundaryId v.invocation) (.protocol .invalidStartMessage)
    startMessage
  return initial startMessage

section Methods

variable (s : Session v)

def failed : Session v :=
  { s with pendingRequest := none, statusValue := .failed }

def close (status : ReplayTargetProcessSessionStatus) : Session v :=
  { s with pendingRequest := none, statusValue := status }

def finishPendingRequest : Session v :=
  { s with
    acceptedRequestCount := s.acceptedRequestCount + 1
    pendingRequest := none
    statusValue := .ready }

def boundaryById (boundaryId : String) : Option v.Boundary :=
  s.startMessageValue.boundaries.find? (fun boundary => v.boundaryId boundary == boundaryId)

def requireOpenTargetSession : Except Refusal Unit := do
  failIf (s.statusValue.isClosed = true) (.throws (.protocol .sessionClosed))
  failIf (s.statusValue = .created) (.fails .unexpectedMessage)

def requireStartedWorkerSession : Except Refusal Unit := do
  failIf (s.statusValue.isClosed = true) (.throws (.protocol .sessionClosed))
  failIf (s.statusValue = .created) (.fails .unexpectedMessage)

def requirePending : Except Refusal (PendingRequest v.Request) := do
  failIf (s.statusValue ≠ .awaitingResponse) (.fails .unexpectedMessage)
  found s.pendingRequest (.fails .unexpectedMessage)

/-- A message that the worker sends is parsed, too; an error of the schema leaves the session. -/
def sends (body : WorkerMessageBody v.Boundary v.Output) : Except Refusal v.Worker :=
  let message : v.Worker := {
    body
    schemaVersion := v.schemaVersion
    sessionId := s.startMessageValue.sessionId
  }
  parseWith (message.Accepted v.schemaVersion (fun output => v.acceptedOutput output = true))
    (.throws .schema) message

def start : Except Refusal (Reply v × Session v) := do
  failIf (s.statusValue ≠ .created) (.fails .unexpectedMessage)
  return (.started s.startMessageValue, { s with statusValue := .awaitingReady })

def acceptRequest (message : v.Target) (pending : PendingRequest v.Request)
    : Except Refusal (Reply v × Session v) := do
  failIf (s.statusValue ≠ .ready) (.fails .unexpectedMessage)
  failIf (pending.requestSequence ≠ s.acceptedRequestCount) (.fails .requestSequenceMismatch)
  let boundary ← found (s.boundaryById pending.boundaryId) (.fails .unknownBoundary)
  v.checkRequest boundary pending
  failIf (v.requestId pending ∈ s.seenRequestIds) (.fails .duplicateRequestId)
  return (.target message, { s with
    seenRequestIds := v.requestId pending :: s.seenRequestIds
    pendingRequest := some pending
    statusValue := .awaitingResponse })

def acceptTargetMessage (input : Option v.Target) : Except Refusal (Reply v × Session v) := do
  s.requireOpenTargetSession
  let message ← found input (.fails .invalidTargetMessage)
  let message ← parseWith (message.Accepted v.schemaVersion (fun request =>
    v.acceptedRequest request = true)) (.fails .invalidTargetMessage) message
  failIf (message.sessionId ≠ s.startMessageValue.sessionId) (.fails .sessionMismatch)
  match message.body with
  | .ready targetAdapter workerProtocol =>
    failIf (s.statusValue ≠ .awaitingReady) (.fails .unexpectedMessage)
    failIf (targetAdapter ≠ s.startMessageValue.targetRelease.targetAdapter)
      (.fails .targetAdapterMismatch)
    failIf (workerProtocol ≠ s.startMessageValue.targetRelease.workerProtocol)
      (.fails .workerProtocolMismatch)
    return (.target message, { s with statusValue := .ready })
  | .completed requestCount =>
    failIf (s.statusValue ≠ .ready) (.fails .unexpectedMessage)
    failIf (requestCount ≠ s.acceptedRequestCount) (.fails .requestSequenceMismatch)
    return (.target message, { s with statusValue := .completed })
  | .request pending => s.acceptRequest message pending

def respondToBoundary (input : Option v.Result) : Except Refusal (Reply v × Session v) := do
  match ← s.requirePending with
  | .boundary boundaryId request requestSequence =>
    let result ← found input (.fails .invalidWorkerMessage)
    let result ← parseWith (v.acceptedResult result = true) (.fails .invalidWorkerMessage) result
    v.checkResult (s.boundaryById boundaryId) request result
    let message ← s.sends (.boundaryResponse boundaryId (v.output result) requestSequence)
    let results := if v.retainsResults then s.results ++ [result] else s.results
    return (.worker message, { s with results }.finishPendingRequest)
  | _ => .error (.fails .unexpectedMessage)

def respondToClock : Except Refusal (Reply v × Session v) := do
  match ← s.requirePending with
  | .clock boundaryId requestId requestSequence =>
    let instant ← v.clockInstant (s.boundaryById boundaryId)
    let message ← s.sends (.clockResponse boundaryId instant requestId requestSequence)
    return (.worker message, s.finishPendingRequest)
  | _ => .error (.fails .unexpectedMessage)

def respondToRandom (bytes : Bytes) : Except Refusal (Reply v × Session v) := do
  match ← s.requirePending with
  | .random boundaryId length requestId requestSequence =>
    v.checkRandom (s.boundaryById boundaryId)
    failIf (bytes.length ≠ length) (.fails .randomResponseMismatch)
    let message ← s.sends (.randomResponse boundaryId (String.ofList (encodeBase64Url bytes)) "base64url"
      requestId requestSequence)
    return (.worker message, s.finishPendingRequest)
  | _ => .error (.fails .unexpectedMessage)

def stop (reason : Option ReplayTargetProcessStopReason) : Except Refusal (Reply v × Session v) := do
  s.requireStartedWorkerSession
  let reason ← found reason (.fails .invalidWorkerMessage)
  let message ← s.sends (.stop reason)
  return (.worker message, s.close .stopped)

def abort (code : Option ReplayTargetProcessAbortCode) : Except Refusal (Reply v × Session v) := do
  s.requireStartedWorkerSession
  let code ← found code (.fails .invalidWorkerMessage)
  let message ← s.sends (.abort code)
  return (.worker message, s.close .aborted)

def protocolFailureMessage : Except Refusal (Reply v × Session v) := do
  failIf (s.statusValue ≠ .failed) (.throws (.protocol .unexpectedMessage))
  let message ← s.sends (.abort .sessionContractRejected)
  return (.worker message, s)

end Methods

inductive Call (v : Version) where
  | start
  | acceptTargetMessage (input : Option v.Target)
  | respondToBoundary (input : Option v.Result)
  | respondToClock
  | respondToRandom (bytes : Bytes)
  | stop (reason : Option ReplayTargetProcessStopReason)
  | abort (code : Option ReplayTargetProcessAbortCode)
  | protocolFailureMessage

def method (s : Session v) : Call v → Except Refusal (Reply v × Session v)
  | .start => s.start
  | .acceptTargetMessage input => s.acceptTargetMessage input
  | .respondToBoundary input => s.respondToBoundary input
  | .respondToClock => s.respondToClock
  | .respondToRandom bytes => s.respondToRandom bytes
  | .stop reason => s.stop reason
  | .abort code => s.abort code
  | .protocolFailureMessage => s.protocolFailureMessage

def call (s : Session v) (command : Call v) : Except SessionError (Reply v) × Session v :=
  match s.method command with
  | .ok (reply, s') => (.ok reply, s')
  | .error (.fails code) => (.error (.protocol code), s.failed)
  | .error (.throws error) => (.error error, s)

end Session

def expectedActualRequest (sha256 : Bytes → String) (request : RecordedBoundaryRequest)
    : RecordedBoundaryActualRequestMetadata where
  adapterName := request.normalizedRequest.adapterName
  adapterVersion := request.normalizedRequest.adapterVersion
  boundaryRequestId := request.boundaryRequestId
  kind := request.kind
  normalizedRequestSha256 := sha256 (decodeBase64Url request.normalizedRequest.bytes)
  sizeBytes := (decodeBase64Url request.normalizedRequest.bytes).length

def version1 (sha256 : Bytes → String) : Version where
  schemaVersion := "0.1"
  Boundary := RecordedReplayProcessBoundary
  Request := RecordedBoundaryRequest
  Result := RecordedBoundaryResponse
  Output := RecordedBoundaryResponse
  boundaryId := (·.boundaryId)
  acceptedBoundary := fun boundary => decide boundary.Accepted
  invocation := fun boundary => some boundary.invocation
  boundaryRequestId := (·.boundaryRequestId)
  acceptedRequest := fun request => decide request.Accepted
  acceptedResult := fun response => decide response.Accepted
  output := id
  acceptedOutput := fun response => decide response.Accepted
  retainsResults := false
  checkRequest := fun _ _ => .ok ()
  checkResult := fun _ request response =>
    failIf (response.resolution.actualRequest ≠ expectedActualRequest sha256 request)
      (.fails .boundaryResponseMismatch)
  clockInstant := fun boundary => do
    let boundary ← found boundary (.fails .unknownBoundary)
    return boundary.invocation.runtime.clock.instant
  checkRandom := fun _ => .ok ()

abbrev ReplayTargetProcessSession (sha256 : Bytes → String) : Type :=
  Session (version1 sha256)

def expectedActualRequestV2 (sha256 : Bytes → String) (request : ReplayBoundaryExecutionRequest)
    : ReplayBoundaryActualRequestMetadata where
  adapter := request.normalizedRequest.adapter
  boundaryRequestId := request.boundaryRequestId
  kind := request.kind
  normalizedRequestSha256 := sha256 (decodeBase64Url request.normalizedRequest.bytes)
  sizeBytes := (decodeBase64Url request.normalizedRequest.bytes).length

def requireRecordedBoundary (boundary : Option ReplayProcessBoundaryV2) : Except Refusal RecordedStub := do
  let boundary ← found boundary (.fails .unknownBoundary)
  found boundary.recorded (.fails .runtimeControlUnavailable)

def declares (declaration : Definition.ReplayBoundaryDeclaration) (boundary : ReplayProcessBoundaryV2)
    : Prop :=
  ∀ stub ∈ boundary.recorded, declaration = ⟨boundary.boundaryId, .recordedStub stub, boundary.kind⟩

instance (declaration : Definition.ReplayBoundaryDeclaration) (boundary : ReplayProcessBoundaryV2)
    : Decidable (declares declaration boundary) :=
  inferInstanceAs (Decidable (∀ stub ∈ boundary.recorded, _))

def checkRequestV2 (boundary : ReplayProcessBoundaryV2)
    : PendingRequest ReplayBoundaryExecutionRequest → Except Refusal Unit
  | .boundary _ request _ => failIf (request.kind ≠ boundary.kind) (.fails .boundaryRequestMismatch)
  | _ => failIf (boundary.recorded = none) (.fails .runtimeControlUnavailable)

def checkResultV2 (sha256 : Bytes → String) (boundary : Option ReplayProcessBoundaryV2)
    (request : ReplayBoundaryExecutionRequest) (result : ReplayBoundaryExecutionResult)
    : Except Refusal Unit := do
  let boundary ← found boundary (.fails .unknownBoundary)
  let projectionMatches := result.boundaryId = boundary.boundaryId
    ∧ result.mode = boundary.execution.mode
    ∧ result.declaration.kind = boundary.kind
    ∧ result.actualRequest = expectedActualRequestV2 sha256 request
  failIf (¬projectionMatches ∨ ¬declares result.declaration boundary) (.fails .boundaryResultMismatch)

def version2 (sha256 : Bytes → String) : Version where
  schemaVersion := "0.2"
  Boundary := ReplayProcessBoundaryV2
  Request := ReplayBoundaryExecutionRequest
  Result := ReplayBoundaryExecutionResult
  Output := ReplayBoundaryExecutionOutput
  boundaryId := (·.boundaryId)
  acceptedBoundary := fun boundary => decide boundary.Accepted
  invocation := fun boundary => boundary.recorded.map (·.invocation)
  boundaryRequestId := (·.boundaryRequestId)
  acceptedRequest := fun request => decide request.Accepted
  acceptedResult := fun result => decide result.Accepted
  output := (·.output)
  acceptedOutput := fun output => decide output.Accepted
  retainsResults := true
  checkRequest := checkRequestV2
  checkResult := checkResultV2 sha256
  clockInstant := fun boundary => do
    let stub ← requireRecordedBoundary boundary
    return stub.invocation.runtime.clock.instant
  checkRandom := fun boundary => do
    let _ ← requireRecordedBoundary boundary

abbrev ReplayTargetProcessV2Session (sha256 : Bytes → String) : Type :=
  Session (version2 sha256)

end Process
end Replay
end ProofStack
