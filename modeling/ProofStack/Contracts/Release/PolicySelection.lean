import Mathlib.Tactic.MkIffOfInductiveProp
import ProofStack.Contracts.Artifact
import ProofStack.Contracts.PolicyEvaluation.Time
import ProofStack.Contracts.Text

/-!
This module contains the versions that are published for a target.
-/

namespace ProofStack
namespace Release

-- The logical identifier is that of the selection or of the authority.
structure VersionReference (Target : Type) where
  logicalId : String
  versionId : String
  definitionSha256 : String
  target : Target
  deriving DecidableEq

structure VersionDefinition (Target Body : Type) where
  logicalId : String
  versionId : String
  target : Target
  scope : EvidenceScope
  issuerPrincipalId : String
  body : Body
  effectiveAt : PolicyEvaluationTime
  expiresAt : PolicyEvaluationTime
  predecessor : Option (VersionReference Target)
  deriving DecidableEq

structure PublishedVersion (Target Body : Type) extends VersionDefinition Target Body where
  definitionSha256 : String
  publishedAt : PolicyEvaluationTime
  publishedByPrincipalId : String
  deriving DecidableEq

-- An event without a successor is the withdrawal of a selection or the revocation of an authority.
structure LifecycleEvent (Target : Type) where
  eventId : String
  subject : VersionReference Target
  scope : EvidenceScope
  reason : String
  actorPrincipalId : String
  occurredAt : PolicyEvaluationTime
  successor : Option (VersionReference Target)
  deriving DecidableEq

structure VersionEncoding (Target Body : Type) where
  isNFC : String → Bool
  definitionBytes : VersionDefinition Target Body → Nat
  definitionSha256 : EvidenceScope → VersionDefinition Target Body → String
  recordBytes : PublishedVersion Target Body → Nat
  eventBytes : LifecycleEvent Target → Nat

class VersionContract (Target Body : Type) where
  TargetAccepted : Target → Prop
  BodyAccepted : (String → Bool) → VersionDefinition Target Body → Prop
  maxDefinitionBytes : Nat
  decidableTarget : ∀ target, Decidable (TargetAccepted target)
  decidableBody : ∀ isNFC definition, Decidable (BodyAccepted isNFC definition)

variable {Target Body : Type}

namespace VersionContract

variable [VersionContract Target Body]

instance (target : Target) : Decidable (TargetAccepted Body target) :=
  decidableTarget target

instance (isNFC : String → Bool) (definition : VersionDefinition Target Body)
    : Decidable (BodyAccepted isNFC definition) :=
  decidableBody isNFC definition

end VersionContract

def PublishedVersion.reference (record : PublishedVersion Target Body) : VersionReference Target where
  logicalId := record.logicalId
  versionId := record.versionId
  definitionSha256 := record.definitionSha256
  target := record.target

section Accepted

variable [VersionContract Target Body] [DecidableEq Target]

@[mk_iff]
structure VersionReference.Accepted (Body : Type) [VersionContract Target Body]
    (value : VersionReference Target) : Prop where
  logicalId : OpaqueIdSchema value.logicalId
  versionId : OpaqueIdSchema value.versionId
  definitionSha256 : Sha256Schema value.definitionSha256
  target : VersionContract.TargetAccepted Body value.target

instance (value : VersionReference Target) : Decidable (value.Accepted Body) :=
  decidable_of_iff _ (VersionReference.accepted_iff Body value).symm

@[mk_iff]
structure VersionReference.IsOtherVersion (value other : VersionReference Target) : Prop where
  logicalId : other.logicalId = value.logicalId
  target : other.target = value.target
  versionId : other.versionId ≠ value.versionId

instance (value other : VersionReference Target) : Decidable (value.IsOtherVersion other) :=
  decidable_of_iff _ (VersionReference.isOtherVersion_iff value other).symm

variable (encoding : VersionEncoding Target Body)

namespace PublishedVersion

@[mk_iff]
structure Accepted (value : PublishedVersion Target Body) : Prop where
  reference : value.reference.Accepted Body
  scope : EvidenceScopeSchema value.scope
  issuerPrincipalId : OpaqueIdSchema value.issuerPrincipalId
  body : VersionContract.BodyAccepted encoding.isNFC value.toVersionDefinition
  interval : value.effectiveAt.orderKey < value.expiresAt.orderKey
  predecessor : ∀ reference ∈ value.predecessor, reference.Accepted Body
  predecessor_target : ∀ reference ∈ value.predecessor, value.reference.IsOtherVersion reference
  definitionBytes :
    encoding.definitionBytes value.toVersionDefinition
      ≤ VersionContract.maxDefinitionBytes Target Body
  publisher : value.publishedByPrincipalId = value.issuerPrincipalId
  published : value.publishedAt.orderKey < value.expiresAt.orderKey

instance (value : PublishedVersion Target Body) : Decidable (value.Accepted encoding) :=
  decidable_of_iff _ (accepted_iff encoding value).symm

end PublishedVersion

namespace LifecycleEvent

@[mk_iff]
structure Accepted (value : LifecycleEvent Target) : Prop where
  eventId : OpaqueIdSchema value.eventId
  subject : value.subject.Accepted Body
  scope : EvidenceScopeSchema value.scope
  reason : AssuranceRationaleSchema encoding.isNFC value.reason
  actorPrincipalId : OpaqueIdSchema value.actorPrincipalId
  successor : ∀ reference ∈ value.successor, reference.Accepted Body
  successor_target : ∀ reference ∈ value.successor, value.subject.IsOtherVersion reference

instance (value : LifecycleEvent Target) : Decidable (value.Accepted encoding) :=
  decidable_of_iff _ (accepted_iff encoding value).symm

end LifecycleEvent

end Accepted

end Release
end ProofStack

/-!
This module contains the policy selection of an installed gate and the approvals that a policy
requires.
-/

namespace ProofStack
namespace Release

def maxPolicyApprovalGroups : Nat := 32
def maxPolicyApprovalRoles : Nat := 32
def maxReleasePolicySelectionPolicies : Nat := 16
def maxReleasePolicySelectionPublishers : Nat := 32
def maxReleaseCandidatePopulationTags : Nat := 64
def maxReleasePolicySelectionDefinitionBytes : Nat := 256 * 1024
def maxReleaseDecisionApprovalReads : Nat := 4096

structure PolicyApprovalRequirement where
  excludeCandidateAuthor : Bool
  humanReviewerGroupIds : List String
  independenceGroupIds : List String
  quorum : Nat
  reviewerRoleIds : List String
  deriving DecidableEq

namespace PolicyApprovalRequirement

@[mk_iff]
structure Accepted (value : PolicyApprovalRequirement) : Prop where
  humanReviewerGroupIds :
    sortedUniqueStrings OpaqueIdSchema 0 maxPolicyApprovalGroups value.humanReviewerGroupIds
  independenceGroupIds :
    sortedUniqueStrings OpaqueIdSchema 1 maxPolicyApprovalGroups value.independenceGroupIds
  quorum : boundedInteger 1 maxPolicyApprovalRoles value.quorum
  reviewerRoleIds : sortedUniqueStrings OpaqueIdSchema 1 maxPolicyApprovalRoles value.reviewerRoleIds
  quorum_le : value.quorum ≤ value.independenceGroupIds.length
  human_eligible : ∀ groupId ∈ value.humanReviewerGroupIds, groupId ∈ value.independenceGroupIds

instance (value : PolicyApprovalRequirement) : Decidable value.Accepted :=
  decidable_of_iff _ (accepted_iff value).symm

def IsExceptionRequirement (value : PolicyApprovalRequirement) : Prop :=
  value.Accepted ∧ value.excludeCandidateAuthor ∧ value.humanReviewerGroupIds ≠ []

instance (value : PolicyApprovalRequirement) : Decidable value.IsExceptionRequirement :=
  inferInstanceAs (Decidable (_ ∧ _ ∧ _))

end PolicyApprovalRequirement

inductive ReleasePolicyMode where
  | advisory
  | mandatory
  deriving DecidableEq

structure ReleasePolicyReference where
  definitionSha256 : String
  policyId : String
  policyVersionId : String
  deriving DecidableEq

def ReleasePolicyReference.Accepted (value : ReleasePolicyReference) : Prop :=
  Sha256Schema value.definitionSha256
    ∧ OpaqueIdSchema value.policyId
    ∧ OpaqueIdSchema value.policyVersionId

instance (value : ReleasePolicyReference) : Decidable value.Accepted :=
  inferInstanceAs (Decidable (_ ∧ _ ∧ _))

structure SelectedReleasePolicy where
  policy : ReleasePolicyReference
  mode : ReleasePolicyMode
  exceptionRequirement : Option PolicyApprovalRequirement
  deriving DecidableEq

def SelectedReleasePolicy.Accepted (value : SelectedReleasePolicy) : Prop :=
  value.policy.Accepted
    ∧ ∀ requirement ∈ value.exceptionRequirement, requirement.IsExceptionRequirement

instance (value : SelectedReleasePolicy) : Decidable value.Accepted :=
  inferInstanceAs (Decidable (_ ∧ _))

inductive EvaluationRiskTier where
  | low
  | moderate
  | high
  | critical
  deriving DecidableEq

def SourceJurisdictionSchema (jurisdiction : String) : Bool :=
  match jurisdiction.toList with
  | [] => false
  | c :: cs =>
    isLowerAscii c
      && cs.all (fun c => isLowerAscii c || isDigitAscii c || ['.', '_', '-'].contains c)
      && 1 ≤ cs.length
      && cs.length ≤ 63

def SourceLocaleSchema (locale : String) : Bool :=
  match locale.toList.splitOn '-' with
  | [] => false
  | language :: subtags =>
    language.all isLowerAscii
      && 2 ≤ language.length
      && language.length ≤ 8
      && subtags.all (fun subtag =>
        subtag.all (fun c => isLowerAscii c || isDigitAscii c)
          && 1 ≤ subtag.length
          && subtag.length ≤ 8)

structure ReleaseCandidateTarget where
  environmentId : String
  jurisdiction : Option String
  locale : Option String
  maximumDataClassification : DataClassification
  populationTags : List String
  purpose : String
  riskTier : EvaluationRiskTier
  taskKind : String
  deriving DecidableEq

namespace ReleaseCandidateTarget

@[mk_iff]
structure Accepted (isNFC : String → Bool) (value : ReleaseCandidateTarget) : Prop where
  environmentId : OpaqueIdSchema value.environmentId
  jurisdiction : ∀ jurisdiction ∈ value.jurisdiction, SourceJurisdictionSchema jurisdiction
  locale : ∀ locale ∈ value.locale, SourceLocaleSchema locale
  populationTags :
    sortedUniqueStrings (AssuranceSummarySchema isNFC) 0 maxReleaseCandidatePopulationTags
      value.populationTags
  purpose : AssuranceRationaleSchema isNFC value.purpose
  taskKind : OpaqueIdSchema value.taskKind

instance (isNFC : String → Bool) (value : ReleaseCandidateTarget)
    : Decidable (value.Accepted isNFC) :=
  decidable_of_iff _ (accepted_iff isNFC value).symm

end ReleaseCandidateTarget

inductive ReleasePolicySelectionMode where
  | observationOnly
  | enforce
  deriving DecidableEq

structure ReleasePolicySelectionTarget where
  installationId : String
  gateTargetId : String
  deriving DecidableEq

structure ReleasePolicySelectionBody where
  candidateTarget : ReleaseCandidateTarget
  mode : ReleasePolicySelectionMode
  policies : List SelectedReleasePolicy
  authorizedPublisherPrincipalIds : List String
  authorityEvidence : ArtifactContentReference
  rationale : String
  deriving DecidableEq

abbrev ReleasePolicySelectionReference : Type := VersionReference ReleasePolicySelectionTarget
abbrev ReleasePolicySelection : Type :=
  PublishedVersion ReleasePolicySelectionTarget ReleasePolicySelectionBody
abbrev ReleasePolicySelectionLifecycleEvent : Type := LifecycleEvent ReleasePolicySelectionTarget

def ReleasePolicySelectionTarget.Accepted (value : ReleasePolicySelectionTarget) : Prop :=
  OpaqueIdSchema value.installationId ∧ OpaqueIdSchema value.gateTargetId

instance (value : ReleasePolicySelectionTarget) : Decidable value.Accepted :=
  inferInstanceAs (Decidable (_ ∧ _))

namespace ReleasePolicySelectionBody

@[mk_iff]
structure Accepted (isNFC : String → Bool) (scope : EvidenceScope) (value : ReleasePolicySelectionBody)
    : Prop where
  candidateTarget : value.candidateTarget.Accepted isNFC
  policies : ∀ policy ∈ value.policies, policy.Accepted
  policies_length : value.policies.length ≤ maxReleasePolicySelectionPolicies
  policies_sorted : isStrictlySortedUnique (value.policies.map (·.policy.policyId))
  authorizedPublisherPrincipalIds :
    sortedUniqueStrings OpaqueIdSchema 1 maxReleasePolicySelectionPublishers
      value.authorizedPublisherPrincipalIds
  authorityEvidence : value.authorityEvidence.Accepted
  rationale : AssuranceRationaleSchema isNFC value.rationale
  environmentId : scope.environmentId = value.candidateTarget.environmentId
  mode : value.mode = .enforce ↔ ∃ policy ∈ value.policies, policy.mode = .mandatory

instance (isNFC : String → Bool) (scope : EvidenceScope) (value : ReleasePolicySelectionBody)
    : Decidable (value.Accepted isNFC scope) :=
  decidable_of_iff _ (accepted_iff isNFC scope value).symm

end ReleasePolicySelectionBody

instance : VersionContract ReleasePolicySelectionTarget ReleasePolicySelectionBody where
  TargetAccepted := fun target => target.Accepted
  BodyAccepted := fun isNFC definition => definition.body.Accepted isNFC definition.scope
  maxDefinitionBytes := maxReleasePolicySelectionDefinitionBytes
  decidableTarget := inferInstance
  decidableBody := inferInstance

end Release
end ProofStack
