import ProofStack.Checks
import ProofStack.Contracts.Replay.Boundary
import ProofStack.Host.Text
import ProofStack.StateMachine.Transcript

/-!
This module contains the controls that a target reads its clock and its random octets from while it is
replayed.
-/

namespace ProofStack
namespace Replay
namespace Boundary

open Definition Encoding

def maxRandomBytesPerRequest : Nat := 65536

def maxRandomBytesPerInvocation : Nat := 1048576

inductive RuntimeControlErrorCode where
  | randomRequestOutOfRange
  | randomBudgetExhausted
  | runtimeControlsClosed
  deriving DecidableEq

def BlockCipher : Type := String → Nat → Fin 32 → UInt8

structure RuntimeControls where
  blockCounter : Nat
  closed : Bool
  clockReads : Nat
  pending : Bytes
  randomBytesGenerated : Nat
  randomRequests : Nat
  runtimeViolated : Bool

namespace RuntimeControls

def initial : RuntimeControls where
  blockCounter := 0
  closed := false
  clockReads := 0
  pending := []
  randomBytesGenerated := 0
  randomRequests := 0
  runtimeViolated := false

def close (controls : RuntimeControls) : RuntimeControls :=
  { controls with closed := true }

def evidence (controls : RuntimeControls) : RecordedBoundaryReplayRuntimeEvidence where
  fixedClockReadCount := controls.clockReads
  randomByteCount := controls.randomBytesGenerated
  randomRequestCount := controls.randomRequests

def violate {α : Type} (controls : RuntimeControls) (code : RuntimeControlErrorCode)
    : Except RuntimeControlErrorCode α × RuntimeControls :=
  (.error code, { controls with runtimeViolated := true })

def now (profile : RecordedBoundaryReplayRuntimeProfile) (controls : RuntimeControls)
    : Except RuntimeControlErrorCode String × RuntimeControls :=
  if controls.closed then controls.violate .runtimeControlsClosed
  else (.ok profile.clock.instant, { controls with clockReads := controls.clockReads + 1 })

def validateRecordedReplayRandomRequest (randomBytesGenerated : Nat) (length : Host.Number)
    : Except RuntimeControlErrorCode Nat :=
  match length.integer with
  | none => .error .randomRequestOutOfRange
  | some length =>
    if length < 1 ∨ length > maxRandomBytesPerRequest then .error .randomRequestOutOfRange
    else if randomBytesGenerated + length.toNat > maxRandomBytesPerInvocation then
      .error .randomBudgetExhausted
    else .ok length.toNat

def fill (block : Nat → Fin 32 → UInt8) : Nat → Bytes → Nat → Bytes × Bytes × Nat
  | 0, pending, blockCounter => ([], pending, blockCounter)
  | count + 1, byte :: pending, blockCounter =>
    let rest := fill block count pending blockCounter
    (byte :: rest.1, rest.2)
  | count + 1, [], blockCounter =>
    let bytes := List.ofFn (block blockCounter)
    let rest := fill block count bytes.tail (blockCounter + 1)
    (bytes.headD 0 :: rest.1, rest.2)

def randomBytes (cipher : BlockCipher) (profile : RecordedBoundaryReplayRuntimeProfile)
    (controls : RuntimeControls) (length : Host.Number)
    : Except RuntimeControlErrorCode Bytes × RuntimeControls :=
  if controls.closed then controls.violate .runtimeControlsClosed
  else
    match validateRecordedReplayRandomRequest controls.randomBytesGenerated length with
    | .error code => controls.violate code
    | .ok length =>
      let filled := fill (cipher profile.random.seedHex) length controls.pending controls.blockCounter
      (.ok filled.1, { controls with
        blockCounter := filled.2.2
        pending := filled.2.1
        randomBytesGenerated := controls.randomBytesGenerated + length
        randomRequests := controls.randomRequests + 1 })

inductive Call where
  | now
  | randomBytes (length : Host.Number)
  deriving DecidableEq

inductive Reply where
  | instant (text : String)
  | bytes (bytes : Bytes)
  | error (code : RuntimeControlErrorCode)
  deriving DecidableEq

def serve (cipher : BlockCipher) (profile : RecordedBoundaryReplayRuntimeProfile)
    (controls : RuntimeControls) : Call → Reply × RuntimeControls
  | .now =>
    match controls.now profile with
    | (.ok instant, controls) => (.instant instant, controls)
    | (.error code, controls) => (.error code, controls)
  | .randomBytes length =>
    match controls.randomBytes cipher profile length with
    | (.ok bytes, controls) => (.bytes bytes, controls)
    | (.error code, controls) => (.error code, controls)

end RuntimeControls

end Boundary
end Replay
end ProofStack

/-!
This module contains the resolver that answers the requests of a target from what was recorded, and the
replay of a recording against a target.
-/

namespace ProofStack
namespace Replay
namespace Boundary

open Checks Definition Encoding Interaction StateMachine

structure PreparedRecordedBoundaryAttempt where
  expectedRequest : RecordedBoundaryExpectedRequest
  recordedAttempt : RecordedBoundaryAttempt
  returnedArtifacts : List RecordedBoundaryArtifactPayload
  deriving DecidableEq

def PreparedRecordedBoundaryAttempt.response (attempt : PreparedRecordedBoundaryAttempt)
    (actualRequest : RecordedBoundaryActualRequestMetadata) : RecordedBoundaryResponse where
  artifacts := attempt.returnedArtifacts
  resolution := {
    actualRequest
    expectedRequest := attempt.expectedRequest
    recordedAttempt := attempt.recordedAttempt
    returnedArtifacts := attempt.returnedArtifacts.map (·.binding)
  }
  schemaVersion := "0.1"

structure PreparedRecordedBoundaryReplay where
  attempts : List PreparedRecordedBoundaryAttempt
  invocation : RecordedBoundaryReplayInvocationDefinition
  invocationDefinitionSha256 : String
  length_attempts : boundedInteger 1 maxCaptureAttempts attempts.length
  accepted_invocation : invocation.Accepted
  accepted_sha256 : Sha256Schema invocationDefinitionSha256

inductive RecordedBoundaryTargetContractErrorCode where
  | invalidBoundaryRequest
  | duplicateBoundaryRequestId
  | resolverClosed
  deriving DecidableEq

inductive ResolverError where
  | contract (code : RecordedBoundaryTargetContractErrorCode)
  | mismatch (details : RecordedBoundaryMismatch) (sequence : Nat)
  | schema
  deriving DecidableEq

structure RecordedBoundaryResolver where
  closed : Bool
  consumed : Nat
  contractFailure : Option RecordedBoundaryTargetContractErrorCode
  mismatch : Option (RecordedBoundaryMismatch × Nat)
  recordedObservations : List RecordedBoundaryReplayObservation
  requestIds : List String
  deriving DecidableEq

/-- Whatever has not the fields of a request is rejected by the schema. -/
inductive RequestInput where
  | request (value : RecordedBoundaryRequest)
  | other
  deriving DecidableEq

def RequestInput.safeParse : RequestInput → Option RecordedBoundaryRequest
  | .request value => if value.Accepted then some value else none
  | .other => none

namespace RecordedBoundaryResolver

def initial : RecordedBoundaryResolver where
  closed := false
  consumed := 0
  contractFailure := none
  mismatch := none
  recordedObservations := []
  requestIds := []

abbrev Reply : Type := Except ResolverError RecordedBoundaryResponse

def close (resolver : RecordedBoundaryResolver) : RecordedBoundaryResolver :=
  { resolver with closed := true }

def requireOpen (resolver : RecordedBoundaryResolver) : Except ResolverError Unit :=
  match resolver.mismatch, resolver.contractFailure with
  | some (details, sequence), _ => .error (.mismatch details sequence)
  | none, some code => .error (.contract code)
  | none, none => failIf (resolver.closed = true) (.contract .resolverClosed)

def failContract (resolver : RecordedBoundaryResolver) (code : RecordedBoundaryTargetContractErrorCode)
    : Reply × RecordedBoundaryResolver :=
  (.error (.contract code), { resolver with contractFailure := some code, closed := true })

def mismatchCode (actual : RecordedBoundaryActualRequestMetadata)
    (expected : Option RecordedBoundaryExpectedRequest) : Option RecordedBoundaryMismatchCode :=
  match expected with
  | none => some .extraBoundaryRequest
  | some expected =>
    if actual.kind ≠ expected.kind then some .wrongBoundaryKind
    else if actual.adapterName ≠ expected.adapterName then some .wrongAdapterName
    else if actual.adapterVersion ≠ expected.adapterVersion then some .wrongAdapterVersion
    else if actual.normalizedRequestSha256 ≠ expected.normalizedRequestSha256 then
      some .normalizedRequestDigestMismatch
    else none

def actualRequest (sha256 : Bytes → String) (request : RecordedBoundaryRequest)
    : RecordedBoundaryActualRequestMetadata where
  adapterName := request.normalizedRequest.adapterName
  adapterVersion := request.normalizedRequest.adapterVersion
  boundaryRequestId := request.boundaryRequestId
  kind := request.kind
  normalizedRequestSha256 := sha256 (decodeBase64Url request.normalizedRequest.bytes)
  sizeBytes := (decodeBase64Url request.normalizedRequest.bytes).length

def observe (resolver : RecordedBoundaryResolver) (observation : RecordedBoundaryReplayObservation)
    : RecordedBoundaryResolver :=
  { resolver with recordedObservations := resolver.recordedObservations ++ [observation] }

def rejectMismatch (resolver : RecordedBoundaryResolver) (details : RecordedBoundaryMismatch)
    : Reply × RecordedBoundaryResolver :=
  let sequence := resolver.recordedObservations.length
  let observation := RecordedBoundaryReplayObservation.mismatch details sequence
  if observation.Accepted then
    (.error (.mismatch details sequence),
      { resolver.observe observation with mismatch := some (details, sequence), closed := true })
  else (.error .schema, resolver)

def returnRecorded (resolver : RecordedBoundaryResolver) (response : RecordedBoundaryResponse)
    : Reply × RecordedBoundaryResolver :=
  let observation := RecordedBoundaryReplayObservation.matched response.resolution
    resolver.recordedObservations.length
  if response.Accepted ∧ observation.Accepted then
    (.ok response, { resolver.observe observation with consumed := resolver.consumed + 1 })
  else (.error .schema, resolver)

def answer (attempts : List PreparedRecordedBoundaryAttempt) (resolver : RecordedBoundaryResolver)
    (actual : RecordedBoundaryActualRequestMetadata) : Reply × RecordedBoundaryResolver :=
  match mismatchCode actual (attempts[resolver.consumed]?.map (·.expectedRequest)),
    attempts[resolver.consumed]? with
  | some code, expected => resolver.rejectMismatch {
      actualRequest := actual
      code
      expectedRequest := expected.map (·.expectedRequest)
    }
  | none, some attempt => resolver.returnRecorded (attempt.response actual)
  -- an attempt that is absent never matches
  | none, none => (.error .schema, resolver)

def received (resolver : RecordedBoundaryResolver) (request : RecordedBoundaryRequest)
    : RecordedBoundaryResolver :=
  { resolver with requestIds := request.boundaryRequestId :: resolver.requestIds }

def resolve (sha256 : Bytes → String) (attempts : List PreparedRecordedBoundaryAttempt)
    (resolver : RecordedBoundaryResolver) (input : RequestInput) : Reply × RecordedBoundaryResolver :=
  match resolver.requireOpen, input.safeParse with
  | .error error, _ => (.error error, resolver)
  | .ok _, none => resolver.failContract .invalidBoundaryRequest
  | .ok _, some request =>
    if request.boundaryRequestId ∈ resolver.requestIds then
      resolver.failContract .duplicateBoundaryRequestId
    else answer attempts (resolver.received request) (actualRequest sha256 request)

end RecordedBoundaryResolver

inductive RecordedBoundaryReplayPreflightErrorCode where
  | invalidInvocation
  | invalidTargetAdapter
  | targetAdapterMismatch
  | invalidContentExport
  | fixtureIdentityMismatch
  | fixtureDefinitionInvalid
  | fixtureContentUnavailable
  | artifactContentInvalid
  | runtimeProfileUnsupported
  deriving DecidableEq

inductive ReplayError where
  | preflight (code : RecordedBoundaryReplayPreflightErrorCode)
  | schema
  deriving DecidableEq

/-- What a target does while it runs: it calls the resolver and the runtime controls in some order,
whatever they answer, and it returns or throws at last. -/
structure TargetRun where
  calls : List (RequestInput ⊕ RuntimeControls.Call)
  throws : Bool

def completedControls : List RecordedBoundaryReplayVerifiedControl :=
  [.artifactBytesVerified, .normalizedRequestsMatched, .recordedAttemptOrderConsumed,
    .resolverHasNoLiveFallback, .runtimeInterfacesSupplied]

def partialControls : List RecordedBoundaryReplayVerifiedControl :=
  [.artifactBytesVerified, .resolverHasNoLiveFallback, .runtimeInterfacesSupplied]

section Replay

variable (sha256 : Bytes → String) (cipher : BlockCipher)

def serve (prepared : PreparedRecordedBoundaryReplay)
    : RecordedBoundaryResolver × RuntimeControls → RequestInput ⊕ RuntimeControls.Call →
      (RecordedBoundaryResolver.Reply ⊕ RuntimeControls.Reply)
        × RecordedBoundaryResolver × RuntimeControls :=
  beside (RecordedBoundaryResolver.resolve sha256 prepared.attempts)
    (RuntimeControls.serve cipher prepared.invocation.runtime)

def replayStatus (prepared : PreparedRecordedBoundaryReplay) (resolver : RecordedBoundaryResolver)
    (controls : RuntimeControls) (targetFailed : Bool) : RecordedBoundaryReplayResultStatus :=
  if resolver.mismatch.isSome then .mismatch
  else if targetFailed ∨ resolver.contractFailure.isSome ∨ controls.runtimeViolated then .targetFailed
  else if resolver.consumed ≠ prepared.attempts.length then .incomplete
  else .completed

def replayResult (prepared : PreparedRecordedBoundaryReplay) (resolver : RecordedBoundaryResolver)
    (controls : RuntimeControls) (status : RecordedBoundaryReplayResultStatus)
    : RecordedBoundaryReplayResult where
  consumedAttemptCount := resolver.consumed
  expectedAttemptCount := prepared.attempts.length
  invocation := prepared.invocation
  invocationDefinitionSha256 := prepared.invocationDefinitionSha256
  observations := resolver.recordedObservations
  reproducibility := {
    classification := if status = .completed then .bounded else .unknown
    limitations := baseLimitations ++ (statusLimitation status).toList
    verifiedControls := if status = .completed then completedControls else partialControls
  }
  runtimeEvidence := controls.evidence
  schemaVersion := "0.1"
  status

def executeRecordedBoundaryReplay
    (preflight : Except RecordedBoundaryReplayPreflightErrorCode PreparedRecordedBoundaryReplay)
    (target : Option TargetRun) : Except ReplayError RecordedBoundaryReplayResult := do
  let run ← found target (.preflight .invalidTargetAdapter)
  let prepared ← preflight.mapError .preflight
  let context := final (serve sha256 cipher prepared) (.initial, .initial) run.calls
  let resolver := context.1.close
  let controls := context.2.close
  let status := replayStatus prepared resolver controls run.throws
  let result := replayResult prepared resolver controls status
  parseWith result.Accepted .schema result

end Replay

end Boundary
end Replay
end ProofStack
