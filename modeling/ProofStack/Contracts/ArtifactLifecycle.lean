import ProofStack.Contracts.Artifact
import ProofStack.Contracts.PolicyEvaluation.Time
import ProofStack.Contracts.Text

/-!
This module contains the metadata of an artifact over its lifecycle and the requests that reserve and
tombstone artifacts.
-/

namespace ProofStack
namespace Artifacts

def maxArtifactRedactionPaths : Nat := 128
def maxArtifactRedactionRecords : Nat := 16
def maxArtifactTombstoneReasonLength : Nat := 512

def hasNoControlCharacters (text : String) : Bool :=
  text.toList.all (fun c => !(c.toNat ≤ 31 || c.toNat == 127))

def isJsonPointerTail : List Char → Bool
  | [] => true
  | '~' :: '0' :: cs => isJsonPointerTail cs
  | '~' :: '1' :: cs => isJsonPointerTail cs
  | '~' :: _ => false
  | _ :: cs => isJsonPointerTail cs

def JsonPointerSchema (text : String) : Bool :=
  text.toList.head? == some '/'
    && isJsonPointerTail text.toList
    && utf16Length text ≤ 1024
    && hasNoControlCharacters text

def isUpperAscii (c : Char) : Bool :=
  'A' ≤ c && c ≤ 'Z'

def RulesetVersionSchema (text : String) : Bool :=
  match text.toList with
  | [] => false
  | c :: cs =>
    (isLowerAscii c || isUpperAscii c || isDigitAscii c)
      && cs.all (fun c =>
        isLowerAscii c || isUpperAscii c || isDigitAscii c || ['.', '_', '+', '-'].contains c)
      && cs.length ≤ 63

def dateParse (value : PolicyEvaluationTime) : Int :=
  value.orderKey / policyEvaluationTimeUnitsPerMillisecond

def toISOString (value : PolicyEvaluationTime) : PolicyEvaluationTime where
  seconds := value.seconds
  digits := 3
  fraction := value.fraction * 10 ^ (30 - value.digits) / 10 ^ 27
  le_seconds := value.le_seconds
  seconds_le := value.seconds_le
  digits_le := PolicyEvaluationTime.millisecondDigits_le
  fraction_lt := by
    apply Nat.div_lt_of_lt_mul
    calc value.fraction * 10 ^ (30 - value.digits)
        < 10 ^ value.digits * 10 ^ (30 - value.digits) :=
          Nat.mul_lt_mul_of_pos_right value.fraction_lt (by positivity)
      _ = 10 ^ 27 * 10 ^ 3 := by
          rw [← Nat.pow_add, ← Nat.pow_add, Nat.add_sub_cancel' value.digits_le]

structure ArtifactRedactionRecord where
  changedPaths : List String
  matchCount : Nat
  rulesetId : String
  rulesetVersion : String
  stage : RedactionStage
  deriving DecidableEq

@[mk_iff]
structure ArtifactRedactionRecord.Accepted (value : ArtifactRedactionRecord) : Prop where
  changedPaths : ∀ path ∈ value.changedPaths, JsonPointerSchema path
  changedPaths_length : value.changedPaths.length ≤ maxArtifactRedactionPaths
  changedPaths_nodup : value.changedPaths.Nodup
  matchCount : boundedInteger 1 1000000 value.matchCount
  rulesetId : OpaqueIdSchema value.rulesetId
  rulesetVersion : RulesetVersionSchema value.rulesetVersion

instance (value : ArtifactRedactionRecord) : Decidable value.Accepted :=
  decidable_of_iff _ (ArtifactRedactionRecord.accepted_iff value).symm

def stageRank : RedactionStage → Nat
  | .source => 0
  | .ingest => 1
  | .retention => 2

inductive ArtifactRedactionSummary where
  | notPerformed
  | notRequired
  | applied (records : List ArtifactRedactionRecord)
  deriving DecidableEq

namespace ArtifactRedactionSummary

def records : ArtifactRedactionSummary → List ArtifactRedactionRecord
  | .applied records => records
  | _ => []

def latestStage (value : ArtifactRedactionSummary) : Option RedactionStage :=
  value.records.getLast?.map (·.stage)

def Accepted (value : ArtifactRedactionSummary) : Prop :=
  (∀ record ∈ value.records, record.Accepted)
    ∧ value.records.length ≤ maxArtifactRedactionRecords
    ∧ value ≠ .applied []
    ∧ (value.records.map (fun record => (record.stage, record.rulesetId, record.rulesetVersion))).Nodup
    ∧ (value.records.map (fun record => stageRank record.stage)).IsChain (· ≤ ·)

instance (value : ArtifactRedactionSummary) : Decidable value.Accepted :=
  inferInstanceAs (Decidable (_ ∧ _ ∧ _ ∧ _ ∧ _))

end ArtifactRedactionSummary

inductive ArtifactRetentionPlan where
  | retain
  | expire (expiresAt : PolicyEvaluationTime)
  deriving DecidableEq

def ArtifactRetentionPlan.expiry : ArtifactRetentionPlan → Option Int
  | .retain => none
  | .expire expiresAt => some expiresAt.orderKey

inductive ArtifactState where
  | reserved
  | available
  | tombstoned
  | purged
  deriving DecidableEq

structure ArtifactMetadata where
  contentReference : ArtifactContentReference
  createdAt : PolicyEvaluationTime
  availableAt : Option PolicyEvaluationTime
  tombstonedAt : Option PolicyEvaluationTime
  purgedAt : Option PolicyEvaluationTime
  redaction : ArtifactRedactionSummary
  retention : ArtifactRetentionPlan
  scope : EvidenceScope
  state : ArtifactState
  deriving DecidableEq

namespace ArtifactMetadata

def lifecycle (value : ArtifactMetadata) : List Int :=
  ([some value.createdAt, value.availableAt, value.tombstonedAt, value.purgedAt].filterMap id).map
    (·.orderKey)

def stateTimestamps (value : ArtifactMetadata) : Prop :=
  match value.state with
  | .reserved => value.availableAt = none ∧ value.tombstonedAt = none ∧ value.purgedAt = none
  | .available =>
    value.availableAt.isSome ∧ value.tombstonedAt = none ∧ value.purgedAt = none
  | .tombstoned => value.tombstonedAt.isSome ∧ value.purgedAt = none
  | .purged => value.tombstonedAt.isSome ∧ value.purgedAt.isSome

instance (value : ArtifactMetadata) : Decidable value.stateTimestamps := by
  unfold stateTimestamps
  cases value.state <;> infer_instance

@[mk_iff]
structure Accepted (value : ArtifactMetadata) : Prop where
  contentReference : value.contentReference.Accepted
  redaction : value.redaction.Accepted
  scope : EvidenceScopeSchema value.scope
  stateTimestamps : value.stateTimestamps
  lifecycle : value.lifecycle.IsChain (· ≤ ·)
  redactedAt : value.contentReference.redactedAt = value.redaction.latestStage

instance (value : ArtifactMetadata) : Decidable value.Accepted :=
  decidable_of_iff _ (accepted_iff value).symm

end ArtifactMetadata

structure ReserveArtifactRequest where
  artifactId : String
  classification : DataClassification
  mediaType : String
  redaction : ArtifactRedactionSummary
  retention : ArtifactRetentionPlan
  sha256 : String
  sizeBytes : Nat
  deriving DecidableEq

@[mk_iff]
structure ReserveArtifactRequest.Accepted (value : ReserveArtifactRequest) : Prop where
  artifactId : OpaqueIdSchema value.artifactId
  mediaType : ArtifactMediaTypeSchema value.mediaType
  redaction : value.redaction.Accepted
  sha256 : Sha256Schema value.sha256
  sizeBytes : boundedInteger 1 maxArtifactContentBytes value.sizeBytes
  source : ∀ record ∈ value.redaction.records, record.stage = .source

instance (value : ReserveArtifactRequest) : Decidable value.Accepted :=
  decidable_of_iff _ (ReserveArtifactRequest.accepted_iff value).symm

def ArtifactTombstoneReasonSchema (reason : String) : Bool :=
  1 ≤ utf16Length reason
    && utf16Length reason ≤ maxArtifactTombstoneReasonLength
    && reason.toList.head?.all (fun c => !isTrimmed c)
    && reason.toList.getLast?.all (fun c => !isTrimmed c)
    && hasNoControlCharacters reason

inductive ArtifactTombstoneTrigger where
  | manual
  | retention
  | abandoned
  | fixtureRevocation
  deriving DecidableEq

structure ArtifactTombstone where
  actorPrincipalId : String
  artifactId : String
  occurredAt : PolicyEvaluationTime
  reason : String
  tombstoneId : String
  trigger : ArtifactTombstoneTrigger
  deriving DecidableEq

structure ArtifactOwnership where
  artifactId : String
  boundAt : PolicyEvaluationTime
  boundByPrincipalId : String
  fixtureId : String
  fixtureVersionId : String
  scope : EvidenceScope
  deriving DecidableEq

end Artifacts
end ProofStack
