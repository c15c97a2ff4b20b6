import ProofStack.Replay.DefinitionEncoding

/-!
This module contains the proof that a valid definition is encoded.
-/

namespace ProofStack
namespace Replay
namespace Encoder

open Checks Definition Encoding

def IsShort (text : String) : Prop :=
  text.toList.length ≤ 2048

instance (text : String) : Decidable (IsShort text) :=
  inferInstanceAs (Decidable (_ ≤ _))

theorem isShort_opaqueId {id : String} (h : OpaqueIdSchema id = true) : IsShort id := by
  unfold OpaqueIdSchema at h
  unfold IsShort
  split at h
  . contradiction
  . next hid =>
    simp only [Bool.and_eq_true, decide_eq_true_eq] at h
    rw [hid, List.length_cons]
    omega

theorem isShort_sha256 {digest : String} (h : Sha256Schema digest = true) : IsShort digest := by
  simp only [Sha256Schema, Bool.and_eq_true, beq_iff_eq] at h
  unfold IsShort
  omega

theorem isShort_token {others : List Char} {maximumLength : Nat} (hmaximum : maximumLength ≤ 2048)
    {token : String} (h : tokenSchema others maximumLength token = true)
    : IsShort token := by
  unfold tokenSchema at h
  unfold IsShort
  split at h
  . contradiction
  . next htoken =>
    simp only [Bool.and_eq_true, decide_eq_true_eq] at h
    rw [htoken, List.length_cons]
    omega

theorem isShort_protocolToken {token : String} (h : ProtocolTokenSchema token = true) : IsShort token :=
  isShort_token (by decide) h

theorem isShort_protocolVersion {version : String} (h : ProtocolVersionSchema version = true)
    : IsShort version :=
  isShort_token (by decide) h

theorem isShort_mediaType {mediaType : String} (h : ArtifactMediaTypeSchema mediaType = true)
    : IsShort mediaType := by
  simp only [ArtifactMediaTypeSchema, Bool.and_eq_true, decide_eq_true_eq] at h
  unfold IsShort
  omega

theorem isShort_locale {locale : String} (h : LocaleSchema locale = true) : IsShort locale := by
  unfold LocaleSchema at h
  unfold IsShort
  split at h
  . contradiction
  . simp only [Bool.and_eq_true, decide_eq_true_eq] at h
    omega

theorem isShort_timeZone {timeZone : String} (h : TimeZoneSchema timeZone = true) : IsShort timeZone := by
  simp only [TimeZoneSchema, Bool.or_eq_true, decide_eq_true_eq] at h
  rcases h with rfl | h
  . decide
  . split at h
    . contradiction
    . contradiction
    . simp only [Bool.and_eq_true, decide_eq_true_eq] at h
      unfold IsShort
      omega

theorem isShort_timestamp {instant : String} (h : UtcMillisecondTimestampSchema instant = true)
    : IsShort instant := by
  have htemplate : "9999-99-99T99:99:99.999Z".toList.length = 24 := by decide
  simp only [UtcMillisecondTimestampSchema, matchesTemplate, Bool.and_eq_true, beq_iff_eq, htemplate] at h
  unfold IsShort
  omega

theorem isShort_environmentVariableName {name : String} (h : EnvironmentVariableNameSchema name = true)
    : IsShort name := by
  unfold EnvironmentVariableNameSchema at h
  unfold IsShort
  split at h
  . contradiction
  . next hname =>
    simp only [Bool.and_eq_true, decide_eq_true_eq] at h
    rw [hname, List.length_cons]
    omega

theorem isShort_entryPoint {path : String} (h : RelativeEntryPointSchema path = true) : IsShort path := by
  simp only [RelativeEntryPointSchema, Bool.and_eq_true, decide_eq_true_eq] at h
  unfold IsShort
  omega

theorem isShort_mountPath {path : String} (h : SandboxMountPathSchema path = true) : IsShort path := by
  unfold SandboxMountPathSchema at h
  unfold IsShort
  split at h
  . simp only [Bool.and_eq_true, decide_eq_true_eq] at h
    omega
  . contradiction

theorem isShort_revision {revision : String} (h : RevisionSchema revision = true) : IsShort revision := by
  simp only [RevisionSchema, Bool.and_eq_true, Bool.or_eq_true, beq_iff_eq] at h
  unfold IsShort
  omega

theorem isShort_hostname {hostname : String} (h : DnsHostnameSchema hostname = true)
    : IsShort hostname := by
  simp only [DnsHostnameSchema, Bool.and_eq_true, decide_eq_true_eq] at h
  unfold IsShort
  omega

theorem isShort_repositoryUrl {isUrl : Host.Text → Bool} {url : Host.Text}
    (h : HttpsRepositoryUrlSchema isUrl url = true)
    : IsShort (Host.wellFormed url) := by
  simp only [HttpsRepositoryUrlSchema, Bool.and_eq_true, decide_eq_true_eq] at h
  have hlength := Host.length_scalars_le url
  rw [IsShort, Host.wellFormed, String.toList_ofList]
  omega

theorem concatenate_encodes {parts : List (Except EncodingError Bytes)} (h : parts.Forall Encodes)
    : Encodes (concatenate parts) := by
  rcases mapM_encodes (List.forall_iff_forall_mem.mp h) with ⟨encoded, hencoded⟩
  refine ⟨concatenateBytes encoded, ?_⟩
  unfold concatenate
  rw [bind_of_ok hencoded]
  rfl

theorem concatenate_encodesWithin {bound : Nat} {parts : List (Except EncodingError Bytes)}
    (h : parts.Forall (EncodesWithin bound))
    : EncodesWithin (parts.length * bound) (concatenate parts) := by
  rcases mapM_encodesWithin (List.forall_iff_forall_mem.mp h) with ⟨encoded, hencoded, hlength⟩
  refine ⟨concatenateBytes encoded, ?_, hlength⟩
  unfold concatenate
  rw [bind_of_ok hencoded]
  rfl

theorem encodeUnsigned32_eq {value : Nat} (h : value ≤ maxUnsigned32)
    : encodeUnsigned32 value = .ok (bigEndian 4 value) := by
  unfold encodeUnsigned32
  rw [if_neg (by omega)]
  rfl

theorem encodeUnsignedSafeInteger_encodes {value : Nat} (h : value ≤ maxSafeInteger)
    : Encodes (encodeUnsignedSafeInteger value) := by
  unfold encodeUnsignedSafeInteger
  rw [if_neg (by omega)]
  exact ⟨_, rfl⟩

theorem encodeBytes_eq {value : Bytes} (h : value.length ≤ maxUnsigned32)
    : encodeBytes value = .ok (bigEndian 4 value.length ++ value) := by
  unfold encodeBytes
  rw [encodeUnsigned32_eq h]
  simp [concatenate, concatenateBytes, bind, Except.bind, pure, Except.pure]

theorem encodeString_encodesWithin {text : String} (h : IsShort text)
    : EncodesWithin 8196 (encodeString text) := by
  have hlength := length_utf8 text
  unfold IsShort at h
  refine ⟨_, encodeBytes_eq (by unfold maxUnsigned32; omega), ?_⟩
  rw [List.length_append, length_bigEndian]
  omega

theorem encodeString_encodes {text : String} (h : IsShort text) : Encodes (encodeString text) :=
  (encodeString_encodesWithin h).encodes

theorem encodeSequence_encodes {α : Type} {values : List α} {encode : α → Except EncodingError Bytes}
    (hlength : values.length ≤ 64) (h : ∀ value ∈ values, Encodes (encode value))
    : Encodes (encodeSequence values encode) := by
  apply concatenate_encodes
  rw [List.forall_iff_forall_mem, List.forall_mem_cons, List.forall_mem_map]
  exact ⟨⟨_, encodeUnsigned32_eq (by unfold maxUnsigned32; omega)⟩, h⟩

theorem encodeScope_encodes {scope : EvidenceScope} (h : EvidenceScopeSchema scope)
    : Encodes (encodeScope scope) := by
  exact concatenate_encodes ⟨encodeString_encodes (isShort_opaqueId h.2.2),
    encodeString_encodes (isShort_opaqueId h.2.1),
    encodeString_encodes (isShort_opaqueId h.1)⟩

theorem encodeArtifactReference_encodes {reference : ArtifactContentReference} (h : reference.Accepted)
    : Encodes (encodeArtifactReference reference) := by
  have hclassification : IsShort reference.classification.text := by
    cases reference.classification <;> decide
  have hredactedAt : Encodes (encodeOptional reference.redactedAt (fun stage => encodeString stage.text)) := by
    cases reference.redactedAt with
    | none => exact ⟨_, rfl⟩
    | some stage =>
      have hstage : IsShort stage.text := by
        cases stage <;> decide
      exact concatenate_encodes ⟨⟨_, rfl⟩, encodeString_encodes hstage⟩
  have hsize : reference.sizeBytes ≤ maxSafeInteger := by
    have hbound := h.sizeBytes.2
    unfold maxArtifactContentBytes at hbound
    unfold maxSafeInteger
    omega
  exact concatenate_encodes ⟨encodeString_encodes (isShort_opaqueId h.artifactId), encodeString_encodes hclassification,
    encodeString_encodes (isShort_mediaType h.mediaType), hredactedAt,
    encodeString_encodes (isShort_sha256 h.sha256), encodeUnsignedSafeInteger_encodes hsize⟩

theorem encodeWorkerProtocol_encodes {protocol : WorkerProtocolReference} (h : protocol.Accepted)
    : Encodes (encodeWorkerProtocol protocol) := by
  exact concatenate_encodes ⟨encodeString_encodes (isShort_protocolToken h.1),
    encodeString_encodes (isShort_protocolVersion h.2)⟩

theorem encodeTargetAdapter_encodes {adapter : ReplayReleaseTargetAdapterReference} (h : adapter.Accepted)
    : Encodes (encodeTargetAdapter adapter) := by
  exact concatenate_encodes ⟨encodeString_encodes (isShort_protocolToken h.1),
    encodeString_encodes (isShort_protocolVersion h.2.2),
    encodeString_encodes (isShort_protocolVersion h.2.1)⟩

theorem encodeTargetReleaseReference_encodes {reference : TargetReleaseReference} (h : reference.Accepted)
    : Encodes (encodeTargetReleaseReference reference) := by
  exact concatenate_encodes ⟨encodeString_encodes (isShort_opaqueId h.targetId),
    encodeString_encodes (isShort_opaqueId h.targetReleaseId),
    encodeString_encodes (isShort_sha256 h.definitionSha256), encodeTargetAdapter_encodes h.targetAdapter,
    encodeWorkerProtocol_encodes h.workerProtocol⟩

theorem encodeVersionedDefinitionReference_encodes {definitionSha256 id version : String}
    (hdefinition : Sha256Schema definitionSha256 = true) (hid : OpaqueIdSchema id = true)
    (hversion : ProtocolVersionSchema version = true)
    : Encodes (encodeVersionedDefinitionReference definitionSha256 id version) := by
  exact concatenate_encodes ⟨encodeString_encodes (isShort_opaqueId hid),
    encodeString_encodes (isShort_protocolVersion hversion),
    encodeString_encodes (isShort_sha256 hdefinition)⟩

theorem encodeTargetExecution_encodes {execution : TargetExecution} (h : execution.Accepted)
    : Encodes (encodeTargetExecution execution) := by
  cases execution with
  | artifact reference bundleFormat =>
    have hformat : IsShort bundleFormat.text := by
      cases bundleFormat <;> decide
    exact concatenate_encodes ⟨encodeString_encodes (by decide), encodeString_encodes hformat,
      encodeArtifactReference_encodes h⟩
  | preinstalled implementationId implementationSha256 =>
    exact concatenate_encodes ⟨encodeString_encodes (by decide), encodeString_encodes (isShort_opaqueId h.1),
      encodeString_encodes (isShort_sha256 h.2)⟩

theorem encodeSubprocessPolicy_encodes {policy : SubprocessPolicy} (h : policy.Accepted)
    : Encodes (encodeSubprocessPolicy policy) := by
  cases policy with
  | denied => exact encodeString_encodes (by decide)
  | allowlisted allowedImplementations =>
    have hlength : allowedImplementations.length ≤ 64 := by
      have hbound := h.2.1.2
      unfold maxTargetSubprocesses at hbound
      omega
    refine concatenate_encodes ⟨encodeString_encodes (by decide), encodeSequence_encodes hlength ?_⟩
    intro implementation himplementation
    have haccepted := h.1 implementation himplementation
    exact concatenate_encodes ⟨encodeString_encodes (isShort_opaqueId haccepted.2),
      encodeString_encodes (isShort_sha256 haccepted.1)⟩

theorem encodeMounts_encodes {mounts : List TargetMount} (hlength : mounts.length ≤ 16)
    (h : ∀ mount ∈ mounts, mount.Accepted)
    : Encodes (encodeSequence mounts (fun mount => concatenate [
        encodeString mount.mountId, encodeString mount.targetPath, encodeString mount.access.text])) := by
  apply encodeSequence_encodes (by omega)
  intro mount hmount
  have haccess : IsShort mount.access.text := by
    cases mount.access <;> decide
  exact concatenate_encodes ⟨encodeString_encodes (isShort_opaqueId (h mount hmount).1),
    encodeString_encodes (isShort_mountPath (h mount hmount).2.1), encodeString_encodes haccess⟩

theorem encodeTargetReleaseDefinition_encodes {isUrl : Host.Text → Bool}
    {definition : TargetReleaseDefinition} (h : definition.Accepted isUrl)
    : Encodes (encodeTargetReleaseDefinition isUrl definition) := by
  have hnames : Encodes (encodeSequence definition.environmentVariableNames encodeString) := by
    have hlength := h.environmentVariableNames.2.1.2
    unfold TargetReleaseDefinition.maxTargetEnvironmentNames at hlength
    apply encodeSequence_encodes hlength
    intro name hname
    exact encodeString_encodes (isShort_environmentVariableName (h.environmentVariableNames.1 name hname))
  have hplatform : IsShort definition.runtime.platform.text := by
    cases definition.runtime.platform <;> decide
  have harchitecture : IsShort definition.runtime.architecture.text := by
    cases definition.runtime.architecture <;> decide
  have hkinds : Encodes (encodeSequence definition.supportedBoundaryKinds
      (fun kind => encodeString kind.text)) := by
    have hlength := h.supportedBoundaryKinds.2
    apply encodeSequence_encodes (by omega)
    intro kind _
    exact encodeString_encodes (by cases kind <;> decide)
  have hmodes : Encodes (encodeSequence definition.supportedBoundaryModes
      (fun mode => encodeString mode.text)) := by
    have hlength := h.supportedBoundaryModes.2
    apply encodeSequence_encodes (by omega)
    intro mode _
    exact encodeString_encodes (by cases mode <;> decide)
  have hversion : IsShort definition.schemaVersion := by
    rw [h.schemaVersion]
    decide
  unfold encodeTargetReleaseDefinition
  rw [bind_of_ok (parseWith_eq_ok.mpr ⟨h, rfl⟩)]
  exact concatenate_encodes ⟨encodeString_encodes (by decide), encodeString_encodes hversion,
    encodeScope_encodes h.scope, encodeString_encodes (isShort_opaqueId h.targetId),
    encodeString_encodes (isShort_opaqueId h.targetReleaseId), encodeTargetAdapter_encodes h.targetAdapter,
    encodeString_encodes (isShort_repositoryUrl h.source.1),
    encodeString_encodes (isShort_revision h.source.2),
    encodeString_encodes (isShort_protocolToken h.build.builderId),
    encodeString_encodes (isShort_sha256 h.build.invocationSha256),
    encodeString_encodes (isShort_sha256 h.build.executableSha256),
    encodeString_encodes (isShort_sha256 h.build.dependencySnapshotSha256),
    encodeArtifactReference_encodes h.build.provenance, encodeTargetExecution_encodes h.execution,
    encodeString_encodes (isShort_protocolToken h.runtime.2.1),
    encodeString_encodes (isShort_protocolVersion h.runtime.2.2),
    encodeString_encodes hplatform, encodeString_encodes harchitecture,
    encodeString_encodes (isShort_entryPoint h.runtime.1), hnames,
    encodeMounts_encodes h.mounts_length h.mounts, encodeSubprocessPolicy_encodes h.subprocessPolicy,
    encodeUnsignedSafeInteger_encodes h.outputLimits.2.2.2,
    encodeUnsignedSafeInteger_encodes h.outputLimits.2.1.2,
    encodeUnsignedSafeInteger_encodes h.outputLimits.1.2, hkinds, hmodes,
    encodeWorkerProtocol_encodes h.workerProtocol⟩

theorem encodeReplayBudget_encodes {budget : ReplayBudget} (h : budget.Accepted)
    : Encodes (encodeReplayBudget budget) := by
  have hdimension : ∀ dimension, Encodes (concatenate [
      encodeUnsignedSafeInteger (budget dimension).limit,
      encodeString (budget dimension).measurement.text]) := by
    intro dimension
    have hmeasurement : IsShort (budget dimension).measurement.text := by
      cases (budget dimension).measurement <;> decide
    exact concatenate_encodes ⟨encodeUnsignedSafeInteger_encodes (h dimension).2,
      encodeString_encodes hmeasurement⟩
  exact concatenate_encodes ⟨hdimension _, hdimension _, hdimension _, hdimension _, hdimension _,
    hdimension _, hdimension _, hdimension _, hdimension _, hdimension _⟩

theorem encodeBackoff_encodes {backoff : ReplayBackoff} (h : backoff.Shape)
    : Encodes (encodeBackoff backoff) := by
  have hsmall : ∀ {value : Nat}, value ≤ 3600000 → Encodes (encodeUnsignedSafeInteger value) := by
    intro value hvalue
    exact encodeUnsignedSafeInteger_encodes (by unfold maxSafeInteger; omega)
  cases backoff with
  | none => exact encodeString_encodes (by decide)
  | fixed delayMilliseconds =>
    exact concatenate_encodes ⟨encodeString_encodes (by decide), hsmall h.2⟩
  | exponential initialDelayMilliseconds maximumDelayMilliseconds multiplier =>
    have hmultiplier := h.2.2.2
    exact concatenate_encodes ⟨encodeString_encodes (by decide), hsmall h.1.2, hsmall h.2.1.2,
      hsmall (by omega)⟩

theorem encodeRetryPolicy_encodes {policy : ReplayRetryPolicy} (h : policy.Accepted)
    : Encodes (encodeRetryPolicy policy) := by
  have hattempts : policy.maxAttempts ≤ maxSafeInteger := by
    have hbound := h.1.maxAttempts.2
    unfold ReplayRetryPolicy.maxReplayAttempts at hbound
    unfold maxSafeInteger
    omega
  have hrequirement : IsShort policy.idempotencyRequirement.text := by
    cases policy.idempotencyRequirement <;> decide
  have herrors : Encodes (encodeSequence policy.retryableErrors (fun error => encodeString error.text)) := by
    have hlength := h.1.retryableErrors_length
    apply encodeSequence_encodes (by omega)
    intro error _
    exact encodeString_encodes (by cases error <;> decide)
  rcases encodeBackoff_encodes h.1.backoff with ⟨backoff, hbackoff⟩
  unfold encodeRetryPolicy
  rw [bind_of_ok hbackoff]
  exact concatenate_encodes ⟨⟨_, rfl⟩, encodeUnsignedSafeInteger_encodes hattempts,
    encodeUnsignedSafeInteger_encodes h.1.perAttemptTimeoutMilliseconds.2,
    encodeUnsignedSafeInteger_encodes h.1.totalDeadlineMilliseconds.2, encodeString_encodes hrequirement,
    herrors, ⟨_, rfl⟩⟩

theorem encodeInvocation_encodes {definition : RecordedBoundaryReplayInvocationDefinition}
    (h : definition.Accepted)
    : Encodes (encodeRecordedBoundaryReplayInvocationDefinition definition >>= encodeBytes) := by
  have hruntime := h.runtime
  have hconstants : IsShort definition.schemaVersion ∧ IsShort definition.runtime.boundaryMode
      ∧ IsShort definition.runtime.clock.mode ∧ IsShort definition.runtime.random.mode
      ∧ IsShort definition.runtime.random.algorithm ∧ IsShort definition.runtime.networkPolicy
      ∧ IsShort definition.runtime.isolationMode := by
    rw [h.schemaVersion, hruntime.boundaryMode, hruntime.clockMode, hruntime.randomMode,
      hruntime.algorithm, hruntime.networkPolicy, hruntime.isolationMode]
    decide
  rcases hconstants with ⟨hversion, hboundaryMode, hclockMode, hrandomMode, halgorithm, hpolicy, hisolation⟩
  have hwithin : EncodesWithin (18 * 8196) (encodeRecordedBoundaryReplayInvocationDefinition definition) := by
    unfold encodeRecordedBoundaryReplayInvocationDefinition
    rw [bind_of_ok (parseWith_eq_ok.mpr ⟨h, rfl⟩)]
    exact concatenate_encodesWithin ⟨encodeString_encodesWithin (by decide),
      encodeString_encodesWithin hversion,
      encodeString_encodesWithin (isShort_opaqueId h.invocationId),
      encodeString_encodesWithin (isShort_opaqueId h.fixture.2.1),
      encodeString_encodesWithin (isShort_opaqueId h.fixture.2.2),
      encodeString_encodesWithin (isShort_sha256 h.fixture.1),
      encodeString_encodesWithin (isShort_protocolToken h.targetAdapter.1),
      encodeString_encodesWithin (isShort_protocolVersion h.targetAdapter.2),
      encodeString_encodesWithin hboundaryMode, encodeString_encodesWithin hclockMode,
      encodeString_encodesWithin (isShort_timestamp hruntime.instant),
      encodeString_encodesWithin hrandomMode, encodeString_encodesWithin halgorithm,
      encodeString_encodesWithin (isShort_sha256 hruntime.seedHex),
      encodeString_encodesWithin (isShort_locale hruntime.locale),
      encodeString_encodesWithin (isShort_timeZone hruntime.timeZone),
      encodeString_encodesWithin hpolicy, encodeString_encodesWithin hisolation⟩
  rcases hwithin with ⟨bytes, hbytes, hlength⟩
  rw [bind_of_ok hbytes]
  exact ⟨_, encodeBytes_eq (by unfold maxUnsigned32; omega)⟩

theorem encodeLiveSideEffect_encodes {sideEffect : Definition.LiveSideEffect} (h : sideEffect.Accepted)
    : Encodes (encodeLiveSideEffect sideEffect) := by
  cases sideEffect with
  | readOnly => exact encodeString_encodes (by decide)
  | idempotentWrite idempotencyKeyScheme sandboxDestination =>
    exact concatenate_encodes ⟨encodeString_encodes (by decide), ⟨_, rfl⟩,
      encodeString_encodes (isShort_protocolToken h.1)⟩
  | nonIdempotentWrite automaticRetry riskAcceptance =>
    exact concatenate_encodes ⟨encodeString_encodes (by decide), ⟨_, rfl⟩,
      encodeArtifactReference_encodes h.2⟩

theorem encodeBoundary_encodes {boundary : Definition.ReplayBoundaryDeclaration} (h : boundary.Accepted)
    : Encodes (encodeBoundary boundary) := by
  rcases boundary with ⟨boundaryId, execution, kind⟩
  have hkind : IsShort kind.text := by
    cases kind <;> decide
  have hmode : IsShort execution.mode.text := by
    cases execution.mode <;> decide
  have hcommon : List.Forall Encodes [encodeString boundaryId, encodeString kind.text,
      encodeString execution.mode.text] :=
    ⟨encodeString_encodes (isShort_opaqueId h.1), encodeString_encodes hkind, encodeString_encodes hmode⟩
  rcases mapM_encodes (List.forall_iff_forall_mem.mp hcommon) with ⟨common, hcommon⟩
  -- the common parts are bytes already where they are put in front of the others
  have happend : ∀ parts : List (Except EncodingError Bytes), parts.Forall Encodes →
      Encodes (concatenate (common.map .ok ++ parts)) := by
    intro parts hparts
    apply concatenate_encodes
    rw [List.forall_append, List.forall_map_iff]
    exact ⟨List.forall_iff_forall_mem.mpr (fun bytes _ => ⟨bytes, rfl⟩), hparts⟩
  unfold encodeBoundary
  rw [bind_of_ok hcommon]
  cases execution with
  | recordedStub stub =>
    exact happend _ ⟨encodeString_encodes (isShort_sha256 h.2.1.2), encodeInvocation_encodes h.2.1.1⟩
  | simulation declaration =>
    have hdeclaration : declaration.Accepted := h.2
    exact happend _ ⟨encodeTargetReleaseReference_encodes hdeclaration.simulatorRelease,
      encodeString_encodes (isShort_sha256 hdeclaration.configurationSha256),
      encodeString_encodes (isShort_sha256 hdeclaration.seedHex),
      encodeArtifactReference_encodes hdeclaration.qualification⟩
  | liveProvider provider =>
    have hprovider : provider.Accepted := h.2
    have hscheme : IsShort provider.destinationScheme := by
      rw [hprovider.destinationScheme]
      decide
    have hport : provider.destinationPort ≤ maxSafeInteger := by
      rw [hprovider.destinationPort]
      decide
    have husage : IsShort provider.usageSource.text := by
      cases provider.usageSource <;> decide
    exact happend _ ⟨encodeString_encodes (isShort_opaqueId hprovider.endpointProfileId),
      encodeString_encodes (isShort_protocolVersion hprovider.endpointProfileVersion),
      encodeString_encodes (isShort_sha256 hprovider.endpointProfileDefinitionSha256),
      encodeString_encodes (isShort_protocolToken hprovider.operation),
      encodeString_encodes (isShort_opaqueId hprovider.credentialId),
      encodeString_encodes (isShort_opaqueId hprovider.credentialVersionId),
      encodeString_encodes hscheme, encodeString_encodes (isShort_hostname hprovider.destinationHostname),
      encodeUnsignedSafeInteger_encodes hport,
      encodeUnsignedSafeInteger_encodes hprovider.requestBytes.2,
      encodeUnsignedSafeInteger_encodes hprovider.responseBytes.2, encodeString_encodes husage,
      encodeLiveSideEffect_encodes hprovider.sideEffect⟩

theorem encodeReplayPlanDefinition_encodes {definition : ReplayPlanDefinition} (h : definition.Accepted)
    : Encodes (encodeReplayPlanDefinition definition) := by
  have hversion : IsShort definition.schemaVersion := by
    rw [h.schemaVersion]
    decide
  have hisolation : IsShort definition.isolationProfile.kind.text := by
    cases definition.isolationProfile.kind <;> decide
  have hboundaries : Encodes (encodeSequence definition.boundaries encodeBoundary) := by
    have hlength := h.boundaries_length.2
    unfold ReplayPlanDefinition.maxReplayBoundaries at hlength
    exact encodeSequence_encodes hlength
      (fun boundary hboundary => encodeBoundary_encodes (h.boundaries boundary hboundary))
  unfold encodeReplayPlanDefinition
  rw [bind_of_ok (parseWith_eq_ok.mpr ⟨h, rfl⟩)]
  exact concatenate_encodes ⟨encodeString_encodes (by decide), encodeString_encodes hversion,
    encodeScope_encodes h.scope, encodeString_encodes (isShort_opaqueId h.planId),
    encodeString_encodes (isShort_opaqueId h.planVersionId),
    encodeTargetReleaseReference_encodes h.targetRelease,
    encodeString_encodes (isShort_opaqueId h.dataset.1),
    encodeString_encodes (isShort_opaqueId h.dataset.2.1),
    encodeString_encodes (isShort_sha256 h.dataset.2.2),
    encodeVersionedDefinitionReference_encodes h.runtimeProfile.1 h.runtimeProfile.2.2.1
      h.runtimeProfile.2.2.2,
    encodeString_encodes (isShort_protocolToken h.runtimeProfile.2.1),
    encodeVersionedDefinitionReference_encodes h.isolationProfile.1 h.isolationProfile.2.1
      h.isolationProfile.2.2,
    encodeString_encodes hisolation, encodeReplayBudget_encodes h.budget,
    encodeRetryPolicy_encodes h.retryPolicy, hboundaries, encodeWorkerProtocol_encodes h.workerProtocol⟩

end Encoder
end Replay
end ProofStack
