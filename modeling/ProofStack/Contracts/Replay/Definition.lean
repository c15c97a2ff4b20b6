import ProofStack.Contracts.Artifact
import ProofStack.Contracts.Replay.Invocation
import ProofStack.Contracts.Text
import ProofStack.Host.Text

/-!
This module contains the definitions of a target release and of a replay plan, which are hashed as a whole.
-/

namespace ProofStack

def DataClassification.text : DataClassification → String
  | .metadata => "metadata"
  | .internal => "internal"
  | .confidential => "confidential"
  | .restricted => "restricted"

def RedactionStage.text : RedactionStage → String
  | .source => "source"
  | .ingest => "ingest"
  | .retention => "retention"

namespace Replay
def ReplayBoundaryKind.text : ReplayBoundaryKind → String
  | .data => "data"
  | .model => "model"
  | .retrieval => "retrieval"
  | .tool => "tool"

def ReplayBoundaryMode.text : ReplayBoundaryMode → String
  | .liveProvider => "live_provider"
  | .recordedStub => "recorded_stub"
  | .simulation => "simulation"

def ReplayBudgetMeasurement.text : ReplayBudgetMeasurement → String
  | .estimated => "estimated"
  | .measured => "measured"
  | .providerReported => "provider_reported"
  | .unavailable => "unavailable"

def IdempotencyRequirement.text : IdempotencyRequirement → String
  | .destinationSupported => "destination_supported"
  | .noExternalEffect => "no_external_effect"
  | .readOnly => "read_only"

def ReplayIsolationKind.text : ReplayIsolationKind → String
  | .container => "container"
  | .localChildProcess => "local_child_process"

namespace Definition

def isEnvironmentStart (c : Char) : Bool :=
  ('A' ≤ c && c ≤ 'Z') || c == '_'

def EnvironmentVariableNameSchema (name : String) : Bool :=
  match name.toList with
  | [] => false
  | c :: cs =>
    isEnvironmentStart c && cs.all (fun c => isEnvironmentStart c || isDigitAscii c) && cs.length < 128

def pathSegment (segment : List Char) : Bool :=
  match segment with
  | [] => false
  | c :: cs =>
    isAlphanumericAscii c && cs.all (fun c => isAlphanumericAscii c || ['.', '_', '-'].contains c)

def RelativeEntryPointSchema (path : String) : Bool :=
  (path.toList.splitOn '/').all pathSegment && path.toList.length ≤ 512

def SandboxMountPathSchema (path : String) : Bool :=
  match path.toList.splitOn '/' with
  | first :: root :: kind :: segments =>
    first.isEmpty && root == "proofstack".toList
      && (kind == "inputs".toList || kind == "outputs".toList)
      && segments.all pathSegment && path.toList.length ≤ 512
  | _ => false

/-- No pattern confines a URL to characters: a surrogate may stand alone in it. -/
def HttpsRepositoryUrlSchema (isUrl : Host.Text → Bool) (url : Host.Text) : Bool :=
  isUrl url && url.length ≤ 2048 && (Host.text "https://").isPrefixOf url

def RevisionSchema (revision : String) : Bool :=
  revision.toList.all (fun c => isDigitAscii c || ('a' ≤ c && c ≤ 'f'))
    && (revision.toList.length == 40 || revision.toList.length == 64)

def isHostnameLetter (c : Char) : Bool :=
  isLowerAscii c || isDigitAscii c

def hostnameLabel (label : List Char) : Bool :=
  label.head?.any isHostnameLetter && label.getLast?.any isHostnameLetter
    && label.all (fun c => isHostnameLetter c || c == '-') && label.length ≤ 63

def DnsHostnameSchema (hostname : String) : Bool :=
  (hostname.toList.splitOn '.').all hostnameLabel
    && 2 ≤ (hostname.toList.splitOn '.').length
    && (hostname.toList.splitOn '.').getLast?.any (fun label => label.head?.any isLowerAscii)
    && hostname.toList.length ≤ 253

inductive BundleFormat where
  | tarGzip
  | zip
  deriving DecidableEq

def BundleFormat.text : BundleFormat → String
  | .tarGzip => "tar_gzip"
  | .zip => "zip"

inductive TargetExecution where
  | artifact (reference : ArtifactContentReference) (bundleFormat : BundleFormat)
  | preinstalled (implementationId implementationSha256 : String)
  deriving DecidableEq

def TargetExecution.Accepted : TargetExecution → Prop
  | .artifact reference _ => reference.Accepted
  | .preinstalled implementationId implementationSha256 =>
    OpaqueIdSchema implementationId ∧ Sha256Schema implementationSha256

instance (value : TargetExecution) : Decidable value.Accepted :=
  match value with
  | .artifact reference _ => inferInstanceAs (Decidable reference.Accepted)
  | .preinstalled _ _ => inferInstanceAs (Decidable (_ ∧ _))

inductive MountAccess where
  | readOnly
  | readWrite
  deriving DecidableEq

def MountAccess.text : MountAccess → String
  | .readOnly => "read_only"
  | .readWrite => "read_write"

structure TargetMount where
  access : MountAccess
  mountId : String
  targetPath : String
  deriving DecidableEq

def TargetMount.Accepted (value : TargetMount) : Prop :=
  OpaqueIdSchema value.mountId
    ∧ SandboxMountPathSchema value.targetPath
    ∧ issue (value.access = .readWrite ∧
        ¬"/proofstack/outputs".toList.isPrefixOf value.targetPath.toList)
      "Writable mounts must be confined to /proofstack/outputs" = []

instance (value : TargetMount) : Decidable value.Accepted :=
  inferInstanceAs (Decidable (_ ∧ _ ∧ _))

structure SubprocessImplementation where
  executableSha256 : String
  implementationId : String
  deriving DecidableEq

def SubprocessImplementation.Accepted (value : SubprocessImplementation) : Prop :=
  Sha256Schema value.executableSha256 ∧ OpaqueIdSchema value.implementationId

instance (value : SubprocessImplementation) : Decidable value.Accepted :=
  inferInstanceAs (Decidable (_ ∧ _))

inductive SubprocessPolicy where
  | denied
  | allowlisted (allowedImplementations : List SubprocessImplementation)
  deriving DecidableEq

def maxTargetSubprocesses : Nat := 32

def SubprocessPolicy.Accepted : SubprocessPolicy → Prop
  | .denied => True
  | .allowlisted allowedImplementations =>
    (∀ implementation ∈ allowedImplementations, implementation.Accepted)
      ∧ boundedInteger 1 maxTargetSubprocesses allowedImplementations.length
      ∧ isStrictlySortedUnique (allowedImplementations.map (·.implementationId))

instance (value : SubprocessPolicy) : Decidable value.Accepted :=
  match value with
  | .denied => inferInstanceAs (Decidable True)
  | .allowlisted _ => inferInstanceAs (Decidable (_ ∧ _ ∧ _))

structure TargetBuild where
  builderId : String
  dependencySnapshotSha256 : String
  executableSha256 : String
  invocationSha256 : String
  provenance : ArtifactContentReference
  deriving DecidableEq

@[mk_iff]
structure TargetBuild.Accepted (value : TargetBuild) : Prop where
  builderId : ProtocolTokenSchema value.builderId
  dependencySnapshotSha256 : Sha256Schema value.dependencySnapshotSha256
  executableSha256 : Sha256Schema value.executableSha256
  invocationSha256 : Sha256Schema value.invocationSha256
  provenance : value.provenance.Accepted

instance (value : TargetBuild) : Decidable value.Accepted :=
  decidable_of_iff _ (TargetBuild.accepted_iff value).symm

structure OutputLimits where
  emittedArtifactBytes : Nat
  stderrBytes : Nat
  stdoutBytes : Nat
  deriving DecidableEq

def OutputLimits.Accepted (value : OutputLimits) : Prop :=
  boundedInteger 1 maxSafeInteger value.emittedArtifactBytes
    ∧ boundedInteger 1 maxSafeInteger value.stderrBytes
    ∧ boundedInteger 1 maxSafeInteger value.stdoutBytes

instance (value : OutputLimits) : Decidable value.Accepted :=
  inferInstanceAs (Decidable (_ ∧ _ ∧ _))

inductive Architecture where
  | arm64
  | x64
  deriving DecidableEq

def Architecture.text : Architecture → String
  | .arm64 => "arm64"
  | .x64 => "x64"

inductive Platform where
  | darwin
  | linux
  deriving DecidableEq

def Platform.text : Platform → String
  | .darwin => "darwin"
  | .linux => "linux"

structure TargetRuntime where
  architecture : Architecture
  entryPoint : String
  family : String
  platform : Platform
  version : String
  deriving DecidableEq

def TargetRuntime.Accepted (value : TargetRuntime) : Prop :=
  RelativeEntryPointSchema value.entryPoint
    ∧ ProtocolTokenSchema value.family
    ∧ ProtocolVersionSchema value.version

instance (value : TargetRuntime) : Decidable value.Accepted :=
  inferInstanceAs (Decidable (_ ∧ _ ∧ _))

structure TargetSource where
  repositoryUrl : Host.Text
  revision : String
  deriving DecidableEq

def TargetSource.Accepted (isUrl : Host.Text → Bool) (value : TargetSource) : Prop :=
  HttpsRepositoryUrlSchema isUrl value.repositoryUrl ∧ RevisionSchema value.revision

instance (isUrl : Host.Text → Bool) (value : TargetSource) : Decidable (value.Accepted isUrl) :=
  inferInstanceAs (Decidable (_ ∧ _))

structure TargetReleaseDefinition where
  build : TargetBuild
  environmentVariableNames : List String
  execution : TargetExecution
  mounts : List TargetMount
  outputLimits : OutputLimits
  runtime : TargetRuntime
  schemaVersion : String
  scope : EvidenceScope
  source : TargetSource
  subprocessPolicy : SubprocessPolicy
  supportedBoundaryKinds : List ReplayBoundaryKind
  supportedBoundaryModes : List ReplayBoundaryMode
  targetAdapter : ReplayReleaseTargetAdapterReference
  targetId : String
  targetReleaseId : String
  workerProtocol : WorkerProtocolReference
  deriving DecidableEq

namespace TargetReleaseDefinition

def maxTargetEnvironmentNames : Nat := 64

def maxTargetMounts : Nat := 16

@[mk_iff]
structure Accepted (isUrl : Host.Text → Bool) (value : TargetReleaseDefinition) : Prop where
  build : value.build.Accepted
  environmentVariableNames : sortedUniqueStrings EnvironmentVariableNameSchema 0
    maxTargetEnvironmentNames value.environmentVariableNames
  execution : value.execution.Accepted
  mounts : ∀ mount ∈ value.mounts, mount.Accepted
  mounts_length : value.mounts.length ≤ maxTargetMounts
  mounts_sorted : isStrictlySortedUnique (value.mounts.map (·.mountId))
  mounts_unique : (value.mounts.map (·.targetPath)).Nodup
  outputLimits : value.outputLimits.Accepted
  runtime : value.runtime.Accepted
  schemaVersion : value.schemaVersion = "0.1"
  scope : EvidenceScopeSchema value.scope
  source : value.source.Accepted isUrl
  subprocessPolicy : value.subprocessPolicy.Accepted
  supportedBoundaryKinds : boundedInteger 1 4 value.supportedBoundaryKinds.length
  supportedBoundaryKinds_sorted :
    isStrictlySortedUnique (value.supportedBoundaryKinds.map (·.text))
  supportedBoundaryModes : boundedInteger 1 3 value.supportedBoundaryModes.length
  supportedBoundaryModes_sorted :
    isStrictlySortedUnique (value.supportedBoundaryModes.map (·.text))
  targetAdapter : value.targetAdapter.Accepted
  targetId : OpaqueIdSchema value.targetId
  targetReleaseId : OpaqueIdSchema value.targetReleaseId
  workerProtocol : value.workerProtocol.Accepted

instance (isUrl : Host.Text → Bool) (value : TargetReleaseDefinition) : Decidable (value.Accepted isUrl) :=
  decidable_of_iff _ (accepted_iff isUrl value).symm

end TargetReleaseDefinition

end Definition
end Replay
end ProofStack
