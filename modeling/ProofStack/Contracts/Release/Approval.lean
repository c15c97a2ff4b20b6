import ProofStack.Contracts.Dataset
import ProofStack.Contracts.PolicyEvaluation.TimeText
import ProofStack.Contracts.Release.Decision
import ProofStack.Contracts.Release.ReviewerAuthority

/-!
This module contains the approval of a release and what is observed of the controls that compensate for an
exception.
-/

namespace ProofStack
namespace Release

open Artifacts TimeText

def maxReleaseApprovalDefinitionBytes : Nat := 64 * 1024
def maxReleaseApprovalIntentBytes : Nat := maxReleaseApprovalDefinitionBytes - 4 * 1024
def maxCompensatingControls : Nat := 16

section Approval

structure ReleaseApprovalSubject where
  scope : EvidenceScope
  selection : ReleasePolicySelectionReference
  candidate : ReleaseCandidateReference
  policy : ReleasePolicyReference
  request : PolicyEvaluationRequestReference
  snapshot : PolicyEvaluationSnapshotReference
  evaluation : PolicyEvaluationResultReference
  jobId : String
  ruleId : String
  deriving DecidableEq

@[mk_iff]
structure ReleaseApprovalSubject.Accepted (value : ReleaseApprovalSubject) : Prop where
  scope : EvidenceScopeSchema value.scope
  selection : value.selection.Accepted ReleasePolicySelectionBody
  candidate : value.candidate.Accepted
  policy : value.policy.Accepted
  request : value.request.Accepted
  snapshot : value.snapshot.Accepted
  evaluation : value.evaluation.Accepted
  jobId : OpaqueIdSchema value.jobId
  ruleId : OpaqueIdSchema value.ruleId

instance (value : ReleaseApprovalSubject) : Decidable value.Accepted :=
  decidable_of_iff _ (ReleaseApprovalSubject.accepted_iff value).symm

structure ReleaseApprovalReviewerReceipt where
  principalId : String
  authenticatedAt : PolicyEvaluationTime
  credentialId : String
  requestId : String
  deriving DecidableEq

def ReleaseApprovalReviewerReceipt.Accepted (value : ReleaseApprovalReviewerReceipt) : Prop :=
  OpaqueIdSchema value.principalId
    ∧ value.authenticatedAt.IsUtcMillisecond
    ∧ OpaqueIdSchema value.credentialId
    ∧ boundedInteger 1 128 (utf16Units value.requestId).length

instance ReleaseApprovalReviewerReceipt.decidableAccepted (value : ReleaseApprovalReviewerReceipt)
    : Decidable value.Accepted :=
  inferInstanceAs (Decidable (_ ∧ _ ∧ _ ∧ _))

inductive ReleaseApprovalKind where
  | normalApproval
  | ruleException
  deriving DecidableEq

inductive ReleaseApprovalAction where
  | approve
  | oppose
  | escalate
  | abstain
  deriving DecidableEq

structure ReleaseApprovalIntent where
  approvalId : String
  kind : ReleaseApprovalKind
  action : ReleaseApprovalAction
  subject : ReleaseApprovalSubject
  rationale : String
  conditions : List String
  compensatingControls : List ArtifactContentReference
  declaredConflicts : List String
  expiresAt : PolicyEvaluationTime
  supersedes : Option ReleaseApprovalReference
  deriving DecidableEq

structure ReleaseApprovalDefinition extends ReleaseApprovalIntent where
  reviewer : ReleaseApprovalReviewerReceipt
  authority : ReleaseReviewerAuthorityReference
  recordedAt : PolicyEvaluationTime
  deriving DecidableEq

structure ReleaseApproval extends ReleaseApprovalDefinition where
  definitionSha256 : String
  deriving DecidableEq

structure ReleaseApprovalEncoding where
  isNFC : String → Bool
  intentBytes : ReleaseApprovalIntent → Nat
  definitionBytes : ReleaseApprovalDefinition → Nat
  definitionSha256 : EvidenceScope → ReleaseApprovalDefinition → String

variable (encoding : ReleaseApprovalEncoding)

namespace ReleaseApprovalIntent

@[mk_iff]
structure Shape (isNFC : String → Bool) (value : ReleaseApprovalIntent) : Prop where
  approvalId : OpaqueIdSchema value.approvalId
  subject : value.subject.Accepted
  rationale : AssuranceRationaleSchema isNFC value.rationale
  conditions : sortedUniqueStrings (AssuranceSummarySchema isNFC) 0 32 value.conditions
  compensatingControls : ∀ control ∈ value.compensatingControls, control.Accepted
  compensatingControls_length : value.compensatingControls.length ≤ maxCompensatingControls
  compensatingControls_ordered : isStrictlySortedUnique (value.compensatingControls.map artifactKey)
  declaredConflicts : sortedUniqueStrings (AssuranceSummarySchema isNFC) 0 32 value.declaredConflicts
  supersedes : ∀ reference ∈ value.supersedes, reference.Accepted

instance (isNFC : String → Bool) (value : ReleaseApprovalIntent) : Decidable (value.Shape isNFC) :=
  decidable_of_iff _ (shape_iff isNFC value).symm

def issues (intentBytes : ReleaseApprovalIntent → Nat) (value : ReleaseApprovalIntent) : List String :=
  issue (value.supersedes.map (·.approvalId) = some value.approvalId)
    "An approval cannot supersede itself"
    ++ issue (value.kind = .normalApproval ∧ value.compensatingControls ≠ [])
      "Normal approval cannot claim a rule exception's compensating controls"
    ++ issue
      (value.kind = .ruleException ∧ value.action = .approve ∧ value.compensatingControls = [])
      "A proposed exception requires retained compensating-control evidence"
    ++ issue (intentBytes value > maxReleaseApprovalIntentBytes)
      "Approval intent exceeds its canonical UTF-8 byte ceiling"

end ReleaseApprovalIntent

namespace ReleaseApprovalDefinition

@[mk_iff]
structure Shape (isNFC : String → Bool) (value : ReleaseApprovalDefinition) : Prop where
  intent : value.toReleaseApprovalIntent.Shape isNFC
  reviewer : value.reviewer.Accepted
  authority : value.authority.Accepted ReleaseReviewerAuthorityBody

instance (isNFC : String → Bool) (value : ReleaseApprovalDefinition) : Decidable (value.Shape isNFC) :=
  decidable_of_iff _ (shape_iff isNFC value).symm

def issues (value : ReleaseApprovalDefinition) : List String :=
  value.toReleaseApprovalIntent.issues encoding.intentBytes
    ++ issue
      (value.authority.target.reviewerPrincipalId ≠ value.reviewer.principalId
        ∨ value.authority.target.installationId ≠ value.subject.selection.target.installationId
        ∨ value.authority.target.gateTargetId ≠ value.subject.selection.target.gateTargetId)
      "Original reviewer authority must bind the same reviewer and installation target"
    ++ issue (value.recordedAt.orderKey ≥ value.expiresAt.orderKey)
      "Approval action must be recorded before its exact expiry"
    ++ issue (value.reviewer.authenticatedAt.orderKey > value.recordedAt.orderKey)
      "An approval action cannot precede its actual authentication receipt"
    ++ issue (encoding.definitionBytes value > maxReleaseApprovalDefinitionBytes)
      "Approval definition exceeds its canonical UTF-8 byte ceiling"

end ReleaseApprovalDefinition

namespace ReleaseApproval

def Accepted (value : ReleaseApproval) : Prop :=
  value.toReleaseApprovalDefinition.Shape encoding.isNFC
    ∧ Sha256Schema value.definitionSha256
    ∧ value.toReleaseApprovalDefinition.issues encoding = []

instance (value : ReleaseApproval) : Decidable (value.Accepted encoding) :=
  inferInstanceAs (Decidable (_ ∧ _ ∧ _))

def reference (value : ReleaseApproval) : ReleaseApprovalReference where
  approvalId := value.approvalId
  definitionSha256 := value.definitionSha256

end ReleaseApproval

end Approval

section Catalog

/-- The instant of a timestamp that its schema has accepted. -/
def timestampOrder (value : String) : Int :=
  ((readParts value.toList).map Parts.orderKey).getD 0

-- The timestamps are texts because two catalogs are compared with their offsets.
inductive CatalogRetention where
  | retain
  | expire (expiresAt : String)
  deriving DecidableEq

def CatalogRetention.Accepted : CatalogRetention → Prop
  | .retain => True
  | .expire expiresAt => PostgresTimestampSchema expiresAt

instance (value : CatalogRetention) : Decidable value.Accepted := by
  cases value <;> unfold CatalogRetention.Accepted <;> infer_instance

def CatalogRetention.expiresAt : CatalogRetention → Option String
  | .retain => none
  | .expire expiresAt => some expiresAt

structure CatalogMetadata where
  contentReference : ArtifactContentReference
  createdAt : String
  availableAt : Option String
  tombstonedAt : Option String
  purgedAt : Option String
  redaction : ArtifactRedactionSummary
  retention : CatalogRetention
  scope : EvidenceScope
  state : ArtifactState
  deriving DecidableEq

namespace CatalogMetadata

def timestamps (value : CatalogMetadata) : List String :=
  [some value.createdAt, value.availableAt, value.tombstonedAt, value.purgedAt].filterMap id

def stateTimestamps (value : CatalogMetadata) : Prop :=
  match value.state with
  | .reserved => value.availableAt = none ∧ value.tombstonedAt = none ∧ value.purgedAt = none
  | .available => value.availableAt.isSome ∧ value.tombstonedAt = none ∧ value.purgedAt = none
  | .tombstoned => value.tombstonedAt.isSome ∧ value.purgedAt = none
  | .purged => value.tombstonedAt.isSome ∧ value.purgedAt.isSome

instance (value : CatalogMetadata) : Decidable value.stateTimestamps := by
  unfold stateTimestamps
  cases value.state <;> infer_instance

@[mk_iff]
structure Accepted (value : CatalogMetadata) : Prop where
  contentReference : value.contentReference.Accepted
  timestamps : ∀ timestamp ∈ value.timestamps, PostgresTimestampSchema timestamp
  redaction : value.redaction.Accepted
  retention : value.retention.Accepted
  scope : EvidenceScopeSchema value.scope
  stateTimestamps : value.stateTimestamps
  lifecycle : (value.timestamps.map timestampOrder).IsChain (· ≤ ·)
  redactedAt : value.contentReference.redactedAt = value.redaction.latestStage

instance (value : CatalogMetadata) : Decidable value.Accepted :=
  decidable_of_iff _ (accepted_iff value).symm

end CatalogMetadata

structure ArtifactCatalog where
  metadata : CatalogMetadata
  ownership : Option ArtifactOwnership
  recordSha256 : String
  deriving DecidableEq

namespace ArtifactCatalog

def Accepted (value : ArtifactCatalog) : Prop :=
  value.metadata.Accepted
    ∧ (∀ ownership ∈ value.ownership, ownership.Accepted)
    ∧ Sha256Schema value.recordSha256

instance (value : ArtifactCatalog) : Decidable value.Accepted :=
  inferInstanceAs (Decidable (_ ∧ _ ∧ _))

def Binds (value : ArtifactCatalog) (scope : EvidenceScope) (reference : ArtifactContentReference)
    : Prop :=
  value.metadata.scope = scope
    ∧ value.metadata.contentReference = reference
    ∧ ∀ ownership ∈ value.ownership,
        ownership.scope = scope ∧ ownership.artifactId = reference.artifactId

instance (value : ArtifactCatalog) (scope : EvidenceScope) (reference : ArtifactContentReference)
    : Decidable (value.Binds scope reference) :=
  inferInstanceAs (Decidable (_ ∧ _ ∧ _))

end ArtifactCatalog

end Catalog

section Observation

inductive ArtifactUnavailableReason where
  | referenceUnsupported
  | recordInvalid
  | referenceMismatch
  | notYetAvailable
  | reserved
  | tombstoned
  | purged
  | retentionExpired
  | objectMissing
  | contentIntegrityFailed
  deriving DecidableEq

inductive ArtifactObservation where
  | verified (sha256 : String) (sizeBytes : Nat)
  | missing
  | unavailable (reason : ArtifactUnavailableReason)
  deriving DecidableEq

namespace ArtifactObservation

def Accepted : ArtifactObservation → Prop
  | .verified sha256 sizeBytes => Sha256Schema sha256 ∧ boundedInteger 1 maxSafeInteger sizeBytes
  | _ => True

instance (value : ArtifactObservation) : Decidable value.Accepted := by
  cases value <;> unfold Accepted <;> infer_instance

def Retained : ArtifactObservation → Prop
  | .verified _ _ => True
  | .missing => False
  | .unavailable reason => reason ∉ [.referenceUnsupported, .recordInvalid, .referenceMismatch]

instance (value : ArtifactObservation) : Decidable value.Retained := by
  cases value <;> unfold Retained <;> infer_instance

end ArtifactObservation

structure CapturedContent where
  startedAt : PolicyEvaluationTime
  completedAt : PolicyEvaluationTime
  catalog : Option ArtifactCatalog
  observation : ArtifactObservation
  deriving DecidableEq

inductive NotInspectedReason where
  | approvalInactive
  | actionNotApproval
  | authorizationUnavailable
  | acquisitionUnavailable
  deriving DecidableEq

inductive ControlContent where
  | captured (content : CapturedContent)
  | notInspected (reason : NotInspectedReason)
  deriving DecidableEq

def ControlContent.content : ControlContent → Option CapturedContent
  | .captured content => some content
  | .notInspected _ => none

inductive ControlCatalogObservation where
  | observed (record : ArtifactCatalog)
  | missing
  | unavailable
  | invalid (observedRecordSha256 : String)
  deriving DecidableEq

namespace ControlCatalogObservation

def record : ControlCatalogObservation → Option ArtifactCatalog
  | .observed record => some record
  | _ => none

def Accepted : ControlCatalogObservation → Prop
  | .observed record => record.Accepted
  | .invalid observedRecordSha256 => Sha256Schema observedRecordSha256
  | _ => True

instance (value : ControlCatalogObservation) : Decidable value.Accepted := by
  cases value <;> unfold Accepted <;> infer_instance

end ControlCatalogObservation

structure ReleaseDecisionControlObservation where
  approval : ReleaseApprovalReference
  controlIndex : Nat
  scope : EvidenceScope
  reference : ArtifactContentReference
  content : ControlContent
  underGuards : ControlCatalogObservation
  deriving DecidableEq

namespace ReleaseDecisionControlObservation

@[mk_iff]
structure Shape (value : ReleaseDecisionControlObservation) : Prop where
  approval : value.approval.Accepted
  controlIndex : value.controlIndex ≤ 15
  scope : EvidenceScopeSchema value.scope
  reference : value.reference.Accepted
  catalog : ∀ content ∈ value.content.content, ∀ catalog ∈ content.catalog, catalog.Accepted
  observation : ∀ content ∈ value.content.content, content.observation.Accepted
  underGuards : value.underGuards.Accepted

instance (value : ReleaseDecisionControlObservation) : Decidable value.Shape :=
  decidable_of_iff _ (shape_iff value).symm

def catalogs (value : ReleaseDecisionControlObservation) : List ArtifactCatalog :=
  [value.content.content.bind (·.catalog), value.underGuards.record].filterMap id

def capturedIssues (reference : ArtifactContentReference) (content : CapturedContent)
    : List String :=
  issue (content.completedAt.orderKey < content.startedAt.orderKey)
    "Control content receipts must preserve exact native capture order"
    ++ issue (¬(content.observation.Retained ↔ content.catalog.isSome))
      "Control content must retain the owning catalog presence boundary"
    ++ match content.catalog, content.observation with
      | some catalog, .verified sha256 sizeBytes =>
        issue
          (catalog.metadata.state ≠ .available
            ∨ sha256 ≠ reference.sha256
            ∨ sizeBytes ≠ reference.sizeBytes
            ∨ ∃ expiresAt ∈ catalog.metadata.retention.expiresAt,
                timestampOrder expiresAt ≤ content.completedAt.orderKey)
          "Verified control bytes must retain exact descriptor, availability and capture-time expiry"
      | _, _ => []

def issues (value : ReleaseDecisionControlObservation) : List String :=
  value.catalogs.flatMap (fun catalog =>
      issue (¬catalog.Binds value.scope value.reference)
        "Control catalogs must bind exact original scope, content and ownership")
    ++ match value.content with
      | .captured content => capturedIssues value.reference content
      | .notInspected _ => []

def Accepted (value : ReleaseDecisionControlObservation) : Prop :=
  value.Shape ∧ value.issues = []

instance (value : ReleaseDecisionControlObservation) : Decidable value.Accepted :=
  inferInstanceAs (Decidable (_ ∧ _))

end ReleaseDecisionControlObservation

end Observation

end Release
end ProofStack
