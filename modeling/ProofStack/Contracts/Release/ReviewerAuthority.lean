import ProofStack.Contracts.Release.PolicySelection

/-!
This module contains the authority of a reviewer to review the releases of an installed gate.
-/

namespace ProofStack
namespace Release

def maxReleaseReviewerAuthorityDefinitionBytes : Nat := 64 * 1024

inductive ReviewerAssurance where
  | operatorVerified
  | syntheticReference
  deriving DecidableEq

inductive ReviewerAuthorityStatus where
  | verified
  | unverifiable
  | rejected
  deriving DecidableEq

structure ReleaseReviewerAuthorityTarget where
  installationId : String
  gateTargetId : String
  reviewerPrincipalId : String
  deriving DecidableEq

structure ReleaseReviewerAuthorityBody where
  roleIds : List String
  independenceGroupIds : List String
  assurance : ReviewerAssurance
  status : ReviewerAuthorityStatus
  affiliations : List String
  relationships : List String
  conflicts : List String
  statusReasons : List String
  reviewBasis : List ArtifactContentReference
  rationale : String
  deriving DecidableEq

abbrev ReleaseReviewerAuthorityReference : Type := VersionReference ReleaseReviewerAuthorityTarget
abbrev ReleaseReviewerAuthority : Type :=
  PublishedVersion ReleaseReviewerAuthorityTarget ReleaseReviewerAuthorityBody
abbrev ReleaseReviewerAuthorityLifecycleEvent : Type := LifecycleEvent ReleaseReviewerAuthorityTarget

def ReleaseReviewerAuthorityTarget.Accepted (value : ReleaseReviewerAuthorityTarget) : Prop :=
  OpaqueIdSchema value.installationId
    ∧ OpaqueIdSchema value.gateTargetId
    ∧ OpaqueIdSchema value.reviewerPrincipalId

instance (value : ReleaseReviewerAuthorityTarget) : Decidable value.Accepted :=
  inferInstanceAs (Decidable (_ ∧ _ ∧ _))

def artifactKey (artifact : ArtifactContentReference) : String :=
  artifact.artifactId ++ ":" ++ artifact.sha256

namespace ReleaseReviewerAuthorityBody

@[mk_iff]
structure Accepted (isNFC : String → Bool) (value : ReleaseReviewerAuthorityBody) : Prop where
  roleIds : sortedUniqueStrings OpaqueIdSchema 1 maxPolicyApprovalRoles value.roleIds
  independenceGroupIds :
    sortedUniqueStrings OpaqueIdSchema 1 maxPolicyApprovalGroups value.independenceGroupIds
  affiliations : sortedUniqueStrings (AssuranceSummarySchema isNFC) 1 32 value.affiliations
  relationships : sortedUniqueStrings (AssuranceSummarySchema isNFC) 0 32 value.relationships
  conflicts : sortedUniqueStrings (AssuranceSummarySchema isNFC) 0 32 value.conflicts
  statusReasons : sortedUniqueStrings (AssuranceSummarySchema isNFC) 0 32 value.statusReasons
  reviewBasis : ∀ artifact ∈ value.reviewBasis, artifact.Accepted
  reviewBasis_length : boundedInteger 1 16 value.reviewBasis.length
  reviewBasis_sorted : isStrictlySortedUnique (value.reviewBasis.map artifactKey)
  rationale : AssuranceRationaleSchema isNFC value.rationale
  verified : value.status = .verified → value.conflicts = [] ∧ value.statusReasons = []
  unverified : value.status ≠ .verified → value.statusReasons ≠ []

instance (isNFC : String → Bool) (value : ReleaseReviewerAuthorityBody)
    : Decidable (value.Accepted isNFC) :=
  decidable_of_iff _ (accepted_iff isNFC value).symm

end ReleaseReviewerAuthorityBody

instance : VersionContract ReleaseReviewerAuthorityTarget ReleaseReviewerAuthorityBody where
  TargetAccepted := fun target => target.Accepted
  BodyAccepted := fun isNFC definition =>
    definition.body.Accepted isNFC
      ∧ definition.target.reviewerPrincipalId ≠ definition.issuerPrincipalId
  maxDefinitionBytes := maxReleaseReviewerAuthorityDefinitionBytes
  decidableTarget := inferInstance
  decidableBody := inferInstance

end Release
end ProofStack
