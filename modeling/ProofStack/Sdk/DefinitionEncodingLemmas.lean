import ProofStack.Replay.DefinitionEncodingLemmas
import ProofStack.Sdk.DefinitionEncoding

/-!
This module contains the proof that the encoder of the client library and the encoder of the server agree.
-/

namespace ProofStack
namespace Sdk

open Checks Encoding Replay Replay.Definition

theorem foldl_length (parts : List Bytes) (total : Nat)
    : parts.foldl (fun total part => total + part.length) total = total + parts.flatten.length := by
  induction parts generalizing total with
  | nil => rfl
  | cons part parts ih =>
    rw [List.foldl_cons, ih, List.flatten_cons, List.length_append]
    omega

theorem concatenateBytes_eq (parts : List Bytes)
    : concatenateBytes parts = Encoder.concatenateBytes parts := by
  unfold concatenateBytes Encoder.concatenateBytes
  dsimp only
  rw [foldl_length, Nat.zero_add]
  have hbuffer := foldl_setBytes parts [] (List.replicate parts.flatten.length 0) (List.length_replicate ..)
  rwa [List.nil_append, List.nil_append, List.length_nil] at hbuffer

theorem agree_concatenate {lefts : List (Except EncodingError Bytes)}
    {rights : List (Except Encoder.EncodingError Bytes)} (h : List.Forall₂ Agree lefts rights)
    : Agree (concatenate lefts) (Encoder.concatenate rights) := by
  apply (Agree.mapM h).bind
  intro parts _
  rw [concatenateBytes_eq]
  exact Agree.ok _

@[simp]
theorem agree_ok (bytes : Bytes)
    : Agree (.ok bytes : Except EncodingError Bytes) (.ok bytes : Except Encoder.EncodingError Bytes) :=
  Agree.ok bytes

@[simp]
theorem agree_encodeBoolean (value : Bool)
    : Agree (encodeBoolean value) (Encoder.encodeBoolean value) :=
  Agree.ok _

@[simp]
theorem agree_encodeUnsigned32 (value : Int)
    : Agree (encodeUnsigned32 value) (Encoder.encodeUnsigned32 value) := by
  unfold encodeUnsigned32 Encoder.encodeUnsigned32 maxUnsigned32 Encoder.maxUnsigned32
  split
  . exact Agree.throw _ _
  . exact Agree.ok _

@[simp]
theorem agree_encodeUnsignedSafeInteger (value : Int)
    : Agree (encodeUnsignedSafeInteger value) (Encoder.encodeUnsignedSafeInteger value) := by
  unfold encodeUnsignedSafeInteger Encoder.encodeUnsignedSafeInteger
  split
  . exact Agree.throw _ _
  . exact Agree.ok _

@[simp]
theorem agree_encodeBytes (value : Bytes)
    : Agree (encodeBytes value) (Encoder.encodeBytes value) :=
  agree_concatenate (by simp)

@[simp]
theorem agree_encodeString (value : String)
    : Agree (encodeString value) (Encoder.encodeString value) :=
  agree_encodeBytes (utf8 value)

section

variable {α : Type} {encode : α → Except EncodingError Bytes}
variable {encode' : α → Except Encoder.EncodingError Bytes}

theorem agree_encodeOptional (value : Option α) (h : ∀ present, Agree (encode present) (encode' present))
    : Agree (encodeOptional value encode) (Encoder.encodeOptional value encode') := by
  cases value with
  | none => exact Agree.ok [0]
  | some present => exact agree_concatenate (by simp [h present])

theorem agree_encodeSequence {values : List α}
    (h : ∀ value ∈ values, Agree (encode value) (encode' value))
    : Agree (encodeSequence values encode) (Encoder.encodeSequence values encode') :=
  agree_concatenate (.cons (agree_encodeUnsigned32 _) (Agree.forall₂_map h))

end

@[simp]
theorem agree_encodeScope (scope : EvidenceScope)
    : Agree (encodeScope scope) (Encoder.encodeScope scope) :=
  agree_concatenate (by simp)

@[simp]
theorem agree_encodeArtifactReference (reference : ArtifactContentReference)
    : Agree (encodeArtifactReference reference) (Encoder.encodeArtifactReference reference) := by
  have hredactedAt := agree_encodeOptional reference.redactedAt
    (fun stage => agree_encodeString stage.text)
  exact agree_concatenate (by simp [hredactedAt])

@[simp]
theorem agree_encodeWorkerProtocol (protocol : WorkerProtocolReference)
    : Agree (encodeWorkerProtocol protocol) (Encoder.encodeWorkerProtocol protocol) :=
  agree_concatenate (by simp)

@[simp]
theorem agree_encodeTargetAdapter (adapter : ReplayReleaseTargetAdapterReference)
    : Agree (encodeTargetAdapter adapter) (Encoder.encodeTargetAdapter adapter) :=
  agree_concatenate (by simp)

@[simp]
theorem agree_encodeTargetReleaseReference (reference : TargetReleaseReference)
    : Agree (encodeTargetReleaseReference reference) (Encoder.encodeTargetReleaseReference reference) :=
  agree_concatenate (by simp)

@[simp]
theorem agree_encodeVersionedDefinitionReference (definitionSha256 id version : String)
    : Agree (encodeVersionedDefinitionReference definitionSha256 id version)
        (Encoder.encodeVersionedDefinitionReference definitionSha256 id version) :=
  agree_concatenate (by simp)

@[simp]
theorem agree_encodeTargetExecution (execution : TargetExecution)
    : Agree (encodeTargetExecution execution) (Encoder.encodeTargetExecution execution) := by
  cases execution with
  | artifact | preinstalled => exact agree_concatenate (by simp)

@[simp]
theorem agree_encodeSubprocessPolicy (policy : SubprocessPolicy)
    : Agree (encodeSubprocessPolicy policy) (Encoder.encodeSubprocessPolicy policy) := by
  cases policy with
  | denied => exact agree_encodeString "denied"
  | allowlisted allowedImplementations =>
    have himplementations : Agree
        (encodeSequence allowedImplementations (fun implementation => concatenate [
          encodeString implementation.implementationId, encodeString implementation.executableSha256]))
        (Encoder.encodeSequence allowedImplementations (fun implementation => Encoder.concatenate [
          Encoder.encodeString implementation.implementationId,
          Encoder.encodeString implementation.executableSha256])) :=
      agree_encodeSequence (fun implementation _ => agree_concatenate (by simp))
    exact agree_concatenate (by simp [himplementations])

theorem agree_targetReleaseParts (definition : TargetReleaseDefinition)
    : List.Forall₂ Agree (targetReleaseParts definition) (Encoder.targetReleaseParts definition) := by
  have hnames : Agree (encodeSequence definition.environmentVariableNames encodeString)
      (Encoder.encodeSequence definition.environmentVariableNames Encoder.encodeString) :=
    agree_encodeSequence (fun name _ => agree_encodeString name)
  have hmounts : Agree
      (encodeSequence definition.mounts (fun mount => concatenate [
        encodeString mount.mountId, encodeString mount.targetPath, encodeString mount.access.text]))
      (Encoder.encodeSequence definition.mounts (fun mount => Encoder.concatenate [
        Encoder.encodeString mount.mountId, Encoder.encodeString mount.targetPath,
        Encoder.encodeString mount.access.text])) :=
    agree_encodeSequence (fun mount _ => agree_concatenate (by simp))
  have hkinds : Agree (encodeSequence definition.supportedBoundaryKinds (fun kind => encodeString kind.text))
      (Encoder.encodeSequence definition.supportedBoundaryKinds
        (fun kind => Encoder.encodeString kind.text)) :=
    agree_encodeSequence (fun kind _ => agree_encodeString kind.text)
  have hmodes : Agree (encodeSequence definition.supportedBoundaryModes (fun mode => encodeString mode.text))
      (Encoder.encodeSequence definition.supportedBoundaryModes
        (fun mode => Encoder.encodeString mode.text)) :=
    agree_encodeSequence (fun mode _ => agree_encodeString mode.text)
  unfold targetReleaseParts Encoder.targetReleaseParts
  simp only [targetReleaseDefinitionDomain, Encoder.targetReleaseDefinitionDomain, List.forall₂_cons,
    List.Forall₂.nil, agree_encodeString, agree_encodeScope, agree_encodeTargetAdapter,
    agree_encodeArtifactReference, agree_encodeTargetExecution, hnames, hmounts, hkinds, hmodes,
    agree_encodeSubprocessPolicy, agree_encodeUnsignedSafeInteger, agree_encodeWorkerProtocol, and_self]

theorem agree_encodeTargetReleaseDefinition (isUrl : Host.Text → Bool) (input : TargetReleaseDefinition)
    : Agree (encodeTargetReleaseDefinition isUrl input)
        (Encoder.encodeTargetReleaseDefinition isUrl input) := by
  unfold encodeTargetReleaseDefinition Encoder.encodeTargetReleaseDefinition parseWith
  split
  . exact agree_concatenate (agree_targetReleaseParts input)
  . exact Agree.throw _ _

@[simp]
theorem agree_encodeReplayBudget (budget : ReplayBudget)
    : Agree (encodeReplayBudget budget) (Encoder.encodeReplayBudget budget) := by
  apply agree_concatenate
  apply Agree.forall₂_map
  intro dimension _
  exact agree_concatenate (by simp)

@[simp]
theorem agree_encodeBackoff (backoff : ReplayBackoff)
    : Agree (encodeBackoff backoff) (Encoder.encodeBackoff backoff) := by
  cases backoff with
  | none => exact agree_encodeString "none"
  | fixed delayMilliseconds => exact agree_concatenate (by simp)
  | exponential initialDelayMilliseconds maximumDelayMilliseconds multiplier =>
    exact agree_concatenate (by simp)

@[simp]
theorem agree_encodeRetryPolicy (policy : ReplayRetryPolicy)
    : Agree (encodeRetryPolicy policy) (Encoder.encodeRetryPolicy policy) := by
  have herrors : Agree (encodeSequence policy.retryableErrors (fun error => encodeString error.text))
      (Encoder.encodeSequence policy.retryableErrors (fun error => Encoder.encodeString error.text)) :=
    agree_encodeSequence (fun error _ => agree_encodeString error.text)
  apply (agree_encodeBackoff policy.backoff).bind
  intro backoff _
  exact agree_concatenate (by simp [herrors])

@[simp]
theorem agree_encodeLiveSideEffect (sideEffect : Definition.LiveSideEffect)
    : Agree (encodeLiveSideEffect sideEffect) (Encoder.encodeLiveSideEffect sideEffect) := by
  cases sideEffect with
  | readOnly => exact agree_encodeString "read_only"
  | idempotentWrite | nonIdempotentWrite => exact agree_concatenate (by simp)

theorem agree_encodeInvocation {definition : RecordedBoundaryReplayInvocationDefinition}
    (h : definition.Accepted)
    : Agree (encodeRecordedBoundaryReplayInvocationDefinition definition)
        (Encoder.encodeRecordedBoundaryReplayInvocationDefinition definition) := by
  unfold Encoder.encodeRecordedBoundaryReplayInvocationDefinition
  rw [bind_of_ok (parseWith_eq_ok.mpr ⟨h, rfl⟩)]
  exact agree_concatenate (by
    simp [recordedBoundaryReplayInvocationDomain, Encoder.recordedBoundaryReplayInvocationDomain])

theorem agree_encodeBoundary {boundary : Definition.ReplayBoundaryDeclaration} (h : boundary.Accepted)
    : Agree (encodeBoundary boundary) (Encoder.encodeBoundary boundary) := by
  rcases boundary with ⟨boundaryId, execution, kind⟩
  unfold encodeBoundary Encoder.encodeBoundary
  apply (Agree.mapM (by simp)).bind
  intro common _
  have hcommon : List.Forall₂ Agree (common.map (Except.ok (ε := EncodingError)))
      (common.map (Except.ok (ε := Encoder.EncodingError))) :=
    Agree.forall₂_map (fun bytes _ => Agree.ok bytes)
  cases execution with
  | recordedStub stub =>
    have hinvocation := (agree_encodeInvocation h.2.1.1).bind (fun bytes _ => agree_encodeBytes bytes)
    refine agree_concatenate (List.rel_append hcommon ?_)
    simp [hinvocation]
  | simulation | liveProvider =>
    refine agree_concatenate (List.rel_append hcommon ?_)
    simp

theorem agree_replayPlanParts {definition : ReplayPlanDefinition} (h : definition.Accepted)
    : List.Forall₂ Agree (replayPlanParts definition) (Encoder.replayPlanParts definition) := by
  have hboundaries : Agree (encodeSequence definition.boundaries encodeBoundary)
      (Encoder.encodeSequence definition.boundaries Encoder.encodeBoundary) :=
    agree_encodeSequence (fun boundary hboundary => agree_encodeBoundary (h.boundaries boundary hboundary))
  unfold replayPlanParts Encoder.replayPlanParts
  simp only [replayPlanDefinitionDomain, Encoder.replayPlanDefinitionDomain, List.forall₂_cons,
    List.Forall₂.nil, agree_encodeString, agree_encodeScope, agree_encodeTargetReleaseReference,
    agree_encodeVersionedDefinitionReference, agree_encodeReplayBudget, agree_encodeRetryPolicy, hboundaries,
    agree_encodeWorkerProtocol, and_self]

theorem agree_encodeReplayPlanDefinition (input : ReplayPlanDefinition)
    : Agree (encodeReplayPlanDefinition input) (Encoder.encodeReplayPlanDefinition input) := by
  unfold encodeReplayPlanDefinition Encoder.encodeReplayPlanDefinition parseWith
  split
  . next h => exact agree_concatenate (agree_replayPlanParts h)
  . exact Agree.throw _ _

theorem replayDefinitionEncoding (isUrl : Host.Text → Bool)
    : (∀ definition : ReplayPlanDefinition, definition.Accepted →
        ∃ bytes, encodeReplayPlanDefinition definition = .ok bytes
          ∧ Encoder.encodeReplayPlanDefinition definition = .ok bytes)
      ∧ (∀ definition : TargetReleaseDefinition, definition.Accepted isUrl →
        ∃ bytes, encodeTargetReleaseDefinition isUrl definition = .ok bytes
          ∧ Encoder.encodeTargetReleaseDefinition isUrl definition = .ok bytes)
      ∧ (∀ input, Agree (encodeReplayPlanDefinition input) (Encoder.encodeReplayPlanDefinition input))
      ∧ (∀ input, Agree (encodeTargetReleaseDefinition isUrl input)
        (Encoder.encodeTargetReleaseDefinition isUrl input))
      ∧ (∀ value, Agree (encodeUnsigned32 value) (Encoder.encodeUnsigned32 value))
      ∧ (∀ value, Agree (encodeUnsignedSafeInteger value) (Encoder.encodeUnsignedSafeInteger value))
      ∧ (∀ text, Agree (encodeString text) (Encoder.encodeString text)) := by
  refine ⟨?_, ?_, agree_encodeReplayPlanDefinition, agree_encodeTargetReleaseDefinition isUrl,
    agree_encodeUnsigned32, agree_encodeUnsignedSafeInteger, agree_encodeString⟩
  . intro definition h
    rcases Encoder.encodeReplayPlanDefinition_encodes h with ⟨bytes, hbytes⟩
    exact ⟨bytes, (agree_encodeReplayPlanDefinition definition bytes).mpr hbytes, hbytes⟩
  . intro definition h
    rcases Encoder.encodeTargetReleaseDefinition_encodes h with ⟨bytes, hbytes⟩
    exact ⟨bytes, (agree_encodeTargetReleaseDefinition isUrl definition bytes).mpr hbytes, hbytes⟩

namespace EncodingSample

def sampleAdapter : ReplayReleaseTargetAdapterReference :=
  ⟨"agent-adapter", "1", "1.0.0"⟩

def sampleProtocol : WorkerProtocolReference :=
  ⟨"replay-worker", "1"⟩

def sampleSha256 : String :=
  "e3b0c44298fc1c149afbf4c8996fb92427ae41e4649b934ca495991b7852b855"

def sampleInvocation : RecordedBoundaryReplayInvocationDefinition where
  fixture := ⟨sampleSha256, "fixture_1", "fixture_version_1"⟩
  invocationId := "invocation_1"
  runtime := {
    boundaryMode := "recorded_stub"
    clock := ⟨"2026-01-01T00:00:00.000Z", "fixed"⟩
    isolationMode := "cooperative_in_process"
    locale := "en-US"
    networkPolicy := "deny_fallback"
    random := ⟨"hmac_sha256_counter_v1", "seeded", sampleSha256⟩
    timeZone := "Europe/Berlin"
  }
  schemaVersion := "0.1"
  targetAdapter := ⟨"agent-adapter", "1.0.0"⟩

def samplePlan : ReplayPlanDefinition where
  boundaries := [⟨"boundary_1", .recordedStub ⟨sampleInvocation, sampleSha256⟩, .tool⟩]
  budget := fun _ => ⟨1000, .measured⟩
  dataset := ⟨"dataset_1", "dataset_version_1", sampleSha256⟩
  isolationProfile := ⟨sampleSha256, "isolation_1", .container, "1"⟩
  planId := "plan_1"
  planVersionId := "plan_version_1"
  retryPolicy := ⟨false, .none, .noExternalEffect, 1, 1000, [], 1000⟩
  runtimeProfile := ⟨sampleSha256, "node", "runtime_1", "22"⟩
  schemaVersion := "0.1"
  scope := ⟨"environment_1", "project_1", "tenant_1"⟩
  targetRelease := ⟨sampleSha256, sampleAdapter, "target_1", "release_1", sampleProtocol⟩
  workerProtocol := sampleProtocol

theorem sampleSha256_accepted : Sha256Schema sampleSha256 = true :=
  (sha256Schema_ofList _).trans rfl

theorem sampleInvocation_accepted : sampleInvocation.Accepted := by
  constructor
  case fixture => exact ⟨sampleSha256_accepted, by decide, by decide⟩
  case runtime =>
    constructor
    case seedHex => exact sampleSha256_accepted
    all_goals decide
  all_goals decide

theorem samplePlan_accepted : samplePlan.Accepted := by
  constructor
  case boundaries =>
    exact List.forall_mem_singleton.mpr
      ⟨by decide, ⟨sampleInvocation_accepted, sampleSha256_accepted⟩, .inr rfl⟩
  case dataset => exact ⟨by decide, by decide, sampleSha256_accepted⟩
  case isolationProfile => exact ⟨sampleSha256_accepted, by decide, by decide⟩
  case runtimeProfile => exact ⟨sampleSha256_accepted, by decide, by decide, by decide⟩
  case targetRelease => exact ⟨sampleSha256_accepted, by decide, by decide, by decide, by decide⟩
  all_goals decide

theorem replayDefinitionEncoding_samplePlan
    : ∃ bytes, encodeReplayPlanDefinition samplePlan = .ok bytes
        ∧ Encoder.encodeReplayPlanDefinition samplePlan = .ok bytes :=
  (replayDefinitionEncoding (fun _ => true)).1 samplePlan samplePlan_accepted

end EncodingSample

end Sdk
end ProofStack
