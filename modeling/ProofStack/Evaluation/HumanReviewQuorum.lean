import ProofStack.Evaluation.ModelAssuranceApplicability

/-!
This module contains the proof of what a satisfied quorum of human reviews rests on, and that the quorum does
not depend on the order of the reviews and of the declarations.
-/

namespace ProofStack
namespace Assurance

open Checks Reasons Sequence

variable {protocol : HumanReviewProtocol} {reviews reviews' : List HumanReviewRecord}
  {declarations declarations' : List HumanReviewerIndependence} {instant : UtcMillisecondTimestamp}

def IsSuperseded (reviews : List HumanReviewRecord) (review : HumanReviewRecord) : Prop :=
  ∃ later ∈ reviews, ∃ reference ∈ later.supersedes,
    reference.id = review.reviewId ∧ reference.definitionSha256 = review.definitionSha256
      ∧ review.reviewerPrincipalId = later.reviewerPrincipalId
      ∧ review.protocol.definitionSha256 = later.protocol.definitionSha256

structure Declares (declaration : HumanReviewerIndependence) (review : HumanReviewRecord) : Prop where
  declarationId : declaration.declarationId = review.independenceDeclaration.id
  definitionSha256 : declaration.definitionSha256 = review.independenceDeclaration.definitionSha256
  reviewer : declaration.reviewerPrincipalId = review.reviewerPrincipalId

structure Reviews (protocol : HumanReviewProtocol) (declarations : List HumanReviewerIndependence)
    (instant : UtcMillisecondTimestamp) (review : HumanReviewRecord) : Prop where
  scope : review.scope = protocol.scope
  reference : review.protocol = protocol.reference
  complete : review.completedAt.value ≤ instant.value
  unexpired : instant.value < review.expiresAt.value
  withinTime : review.completedAt.value - review.startedAt.value ≤ protocol.maximumReviewMilliseconds
  evidence : ∀ reference ∈ protocol.evidenceBundle,
    ∃ reviewed ∈ review.reviewedArtifacts, exactArtifactKey reviewed = exactArtifactKey reference
  declaration : ∃ declaration ∈ declarations, Declares declaration review
    ∧ declaration.scope = protocol.scope ∧ declaration.status = .verified
    ∧ declaration.validity.current instant ∧ declaration.conflicts = []
    ∧ ∀ value ∈ protocol.forbiddenRelationships, value ∉ declaration.relationships
  conflicts : review.conflicts = []
  relationships : ∀ value ∈ protocol.forbiddenRelationships, value ∉ review.relationships
  unopposed : review.action ≠ .oppose ∧ review.action ≠ .requestChanges ∧ review.action ≠ .requireEscalation

def ReachesGroups (protocol : HumanReviewProtocol) (declarations : List HumanReviewerIndependence)
    (reviews : List HumanReviewRecord) : Prop :=
  ∃ groupIds : List String, groupIds.Nodup ∧ protocol.minimumIndependentGroups ≤ groupIds.length
    ∧ ∀ groupId ∈ groupIds, ∃ review ∈ reviews, ∃ declaration ∈ declarations,
        Declares declaration review ∧ groupId ∈ declaration.independenceGroupIds

structure RestsOn (protocol : HumanReviewProtocol) (reviews : List HumanReviewRecord)
    (declarations : List HumanReviewerIndependence) (instant : UtcMillisecondTimestamp)
    (active supporting : List HumanReviewRecord) : Prop where
  mem_active : ∀ review, review ∈ active ↔ review ∈ reviews ∧ ¬IsSuperseded reviews review
  mem_supporting : ∀ review, review ∈ supporting ↔ review ∈ active ∧ review.action = .support
  distinct : (supporting.map (·.reviewerPrincipalId)).Nodup
  minimum : protocol.minimumCompletedReviews ≤ supporting.length
  valid : ∀ review ∈ active, Reviews protocol declarations instant review
  roles : ∀ role ∈ protocol.reviewerRoles,
    role.minimumReviewers ≤ (supporting.filter (·.reviewerRoleId = role.roleId)).length
  groups : ReachesGroups protocol declarations active

theorem evaluateHumanReviewQuorum_holds {quorum : SupportedQuorum}
    : evaluateHumanReviewQuorum protocol reviews declarations instant = .ok (.holds quorum)
        ↔ (declarations.map (·.declarationId)).Nodup
          ∧ quorumReasons protocol reviews declarations instant = []
          ∧ quorum = {
              independenceGroupIds := (reviewGroupIds reviews declarations).dedup.mergeSort
              supportingReviewIds := ((supportingReviews reviews).map (·.reviewId)).mergeSort
            } := by
  simp only [evaluateHumanReviewQuorum, bind_eq_ok, failIf_eq_ok, not_not, pure_eq_ok, Verdict.of]
  constructor
  . rintro ⟨_, hnodup, h⟩
    split at h
    . next hreasons =>
      cases h
      exact ⟨hnodup, hreasons, rfl⟩
    . contradiction
  . rintro ⟨hnodup, hreasons, rfl⟩
    exact ⟨(), hnodup, by rw [if_pos hreasons]⟩

theorem superseded_eq_some {review predecessor : HumanReviewRecord}
    (h : superseded reviews review = some predecessor)
    : predecessor ∈ reviews ∧ ∃ reference ∈ review.supersedes,
        reference.id = predecessor.reviewId ∧ reference.definitionSha256 = predecessor.definitionSha256
          ∧ predecessor.reviewerPrincipalId = review.reviewerPrincipalId
          ∧ predecessor.protocol.definitionSha256 = review.protocol.definitionSha256 := by
  rcases Option.bind_eq_some_iff.mp h with ⟨reference, hreference, hfound⟩
  rcases Option.filter_eq_some_iff.mp hfound with ⟨hlookup, hmatches⟩
  rcases lookup_eq_some hlookup with ⟨hmem, hid⟩
  simp only [decide_eq_true_eq] at hmatches
  exact ⟨hmem, reference, hreference, hid.symm, hmatches.1.symm, hmatches.2⟩

variable {review : HumanReviewRecord}

theorem mem_activeReviews (hids : (reviews.map (·.reviewId)).Nodup)
    : review ∈ activeReviews reviews ↔ review ∈ reviews ∧ ¬IsSuperseded reviews review := by
  unfold activeReviews
  rw [List.mem_filter, decide_eq_true_eq]
  refine and_congr_right (fun hmem => not_congr ?_)
  rw [List.mem_filterMap]
  constructor
  . rintro ⟨later, hlater, hsuperseded⟩
    rcases Option.map_eq_some_iff.mp hsuperseded with ⟨predecessor, hpredecessor, hid⟩
    rcases superseded_eq_some hpredecessor with ⟨hmem', reference, hreference, hmatches⟩
    cases eq_of_key hids hmem' hmem hid
    exact ⟨later, hlater, reference, hreference, hmatches⟩
  . rintro ⟨later, hlater, reference, hreference, hid, hsha256, hreviewer, hprotocol⟩
    refine ⟨later, hlater, Option.map_eq_some_iff.mpr ⟨review, ?_, rfl⟩⟩
    apply Option.bind_eq_some_iff.mpr
    refine ⟨reference, hreference, Option.filter_eq_some_iff.mpr ⟨?_, ?_⟩⟩
    . rw [hid]
      exact lookup_of_mem hids hmem
    . simp only [decide_eq_true_eq]
      exact ⟨hsha256.symm, hreviewer, hprotocol⟩

theorem reviewDeclaration_eq_some {declaration : HumanReviewerIndependence}
    (h : reviewDeclaration review declarations = some declaration)
    : declaration ∈ declarations ∧ Declares declaration review := by
  rcases Option.filter_eq_some_iff.mp h with ⟨hlookup, hmatches⟩
  rcases lookup_eq_some hlookup with ⟨hmem, hid⟩
  simp only [decide_eq_true_eq] at hmatches
  exact ⟨hmem, hid, hmatches.1, hmatches.2⟩

theorem reviews_of_reasons
    (h : reviewReasons protocol declarations instant review = [])
    : Reviews protocol declarations instant review := by
  simp only [reviewReasons, List.append_eq_nil_iff, flag_eq_nil, not_lt, not_le, not_or, not_exists, not_and,
    not_not] at h
  rcases h with ⟨⟨⟨⟨⟨⟨⟨⟨hscope, hprotocol⟩, hcomplete⟩, hexpires⟩, htime⟩, hevidence⟩, hdeclaration⟩,
    hopposes, hchanges⟩, hescalates⟩
  cases hfound : reviewDeclaration review declarations with
  | none =>
    rw [hfound] at hdeclaration
    contradiction
  | some declaration =>
    rcases reviewDeclaration_eq_some hfound with ⟨hmem, hdeclares⟩
    rw [hfound] at hdeclaration
    simp only [reviewDeclarationReasons, List.append_eq_nil_iff, flag_eq_nil, not_or, not_exists, not_and, not_not,
      List.mem_append] at hdeclaration
    rcases hdeclaration with ⟨⟨⟨hdeclared, hverified⟩, hcurrent⟩, hconflicts, hconflicts', hforbidden⟩
    constructor
    case scope => exact hscope
    case reference => exact hprotocol
    case complete => exact hcomplete
    case unexpired => exact hexpires
    case withinTime => exact htime
    case evidence =>
      intro reference hreference
      have hkey := hevidence _ (List.mem_map_of_mem hreference)
      rcases List.mem_map.mp hkey with ⟨reviewed, hreviewed, heq⟩
      exact ⟨reviewed, hreviewed, heq⟩
    case declaration =>
      exact ⟨declaration, hmem, hdeclares, hdeclared, hverified, hcurrent, hconflicts',
        fun value hvalue => (hforbidden value hvalue).2⟩
    case conflicts => exact hconflicts
    case relationships => exact fun value hvalue => (hforbidden value hvalue).1
    case unopposed => exact ⟨hopposes, hchanges, hescalates⟩

theorem reachesGroups_reviewGroupIds
    (h : protocol.minimumIndependentGroups ≤ (reviewGroupIds reviews declarations).dedup.length)
    : ReachesGroups protocol declarations (activeReviews reviews) := by
  refine ⟨_, List.nodup_dedup _, h, ?_⟩
  intro groupId hmem
  rw [List.mem_dedup, reviewGroupIds, List.mem_flatMap] at hmem
  rcases hmem with ⟨declaration, hdeclaration, hgroup⟩
  rcases List.mem_filterMap.mp hdeclaration with ⟨review, hreview, hfound⟩
  rcases reviewDeclaration_eq_some hfound with ⟨hmem, hdeclares⟩
  exact ⟨review, hreview, declaration, hmem, hdeclares, hgroup⟩

theorem restsOn_of_reasons (h : quorumReasons protocol reviews declarations instant = [])
    : RestsOn protocol reviews declarations instant (activeReviews reviews) (supportingReviews reviews) := by
  simp only [quorumReasons, supersessionReasons, shortfallReasons, List.append_eq_nil_iff, List.flatMap_eq_nil_iff,
    flag_eq_nil, not_not, not_lt] at h
  rcases h with ⟨⟨⟨⟨_, hids, _⟩, hdistinct⟩, hreviews⟩, ⟨hminimum, hroles⟩, hgroups⟩
  constructor
  case mem_active => exact fun review => mem_activeReviews hids
  case mem_supporting => simp [supportingReviews]
  case distinct => exact hdistinct.sublist (List.filter_sublist.map _)
  case minimum => exact hminimum
  case valid => exact fun review hmem => reviews_of_reasons (hreviews review hmem)
  case roles => exact hroles
  case groups => exact reachesGroups_reviewGroupIds hgroups

theorem superseded_perm (hids : (reviews.map (·.reviewId)).Nodup) (hperm : reviews.Perm reviews')
    (review : HumanReviewRecord)
    : superseded reviews review = superseded reviews' review := by
  unfold superseded
  congr 1
  funext reference
  rw [lookup_perm hids hperm]

theorem activeReviews_perm (hids : (reviews.map (·.reviewId)).Nodup) (hperm : reviews.Perm reviews')
    : (activeReviews reviews).Perm (activeReviews reviews') := by
  unfold activeReviews
  have hsuperseded : (fun review => (superseded reviews review).map (·.reviewId))
      = fun review => (superseded reviews' review).map (·.reviewId) := by
    funext review
    rw [superseded_perm hids hperm]
  dsimp only
  rw [hsuperseded]
  have hmem : ∀ reviewId,
      reviewId ∈ reviews.filterMap (fun review => (superseded reviews' review).map (·.reviewId))
        ↔ reviewId ∈ reviews'.filterMap (fun review => (superseded reviews' review).map (·.reviewId)) :=
    fun reviewId => (hperm.filterMap _).mem_iff
  have hfilter : (fun review : HumanReviewRecord => decide (review.reviewId
        ∉ reviews.filterMap (fun review => (superseded reviews' review).map (·.reviewId))))
      = fun review => decide (review.reviewId
        ∉ reviews'.filterMap (fun review => (superseded reviews' review).map (·.reviewId))) := by
    funext review
    simp only [hmem]
  rw [hfilter]
  exact hperm.filter _

theorem reviewDeclaration_perm (hids : (declarations.map (·.declarationId)).Nodup)
    (hperm : declarations.Perm declarations') (review : HumanReviewRecord)
    : reviewDeclaration review declarations = reviewDeclaration review declarations' := by
  unfold reviewDeclaration
  rw [lookup_perm hids hperm]

theorem supportingReviews_perm (hids : (reviews.map (·.reviewId)).Nodup) (hperm : reviews.Perm reviews')
    : (supportingReviews reviews).Perm (supportingReviews reviews') :=
  (activeReviews_perm hids hperm).filter _

theorem reviewGroupIds_perm (hids : (reviews.map (·.reviewId)).Nodup)
    (hids' : (declarations.map (·.declarationId)).Nodup) (hperm : reviews.Perm reviews')
    (hperm' : declarations.Perm declarations')
    : (reviewGroupIds reviews declarations).Perm (reviewGroupIds reviews' declarations') := by
  unfold reviewGroupIds
  have hdeclaration : (reviewDeclaration · declarations) = (reviewDeclaration · declarations') := by
    funext review
    exact reviewDeclaration_perm hids' hperm' review
  rw [hdeclaration]
  exact ((activeReviews_perm hids hperm).filterMap _).flatMap_right _

theorem quorumReasons_perm (hids : (reviews.map (·.reviewId)).Nodup)
    (hids' : (declarations.map (·.declarationId)).Nodup) (hperm : reviews.Perm reviews')
    (hperm' : declarations.Perm declarations')
    : (quorumReasons protocol reviews declarations instant).Perm
        (quorumReasons protocol reviews' declarations' instant) := by
  have hactive := activeReviews_perm hids hperm
  have hsupporting := supportingReviews_perm hids hperm
  have hsupersession : supersessionReasons reviews = supersessionReasons reviews' := by
    unfold supersessionReasons
    simp only [superseded_perm hids hperm, (hperm.map _).nodup_iff, hperm.mem_iff]
  have hprincipals : flag (¬((activeReviews reviews).map (·.reviewerPrincipalId)).Nodup)
        HumanReviewQuorumReason.duplicateReviewer
      = flag (¬((activeReviews reviews').map (·.reviewerPrincipalId)).Nodup) .duplicateReviewer := by
    simp only [(hactive.map _).nodup_iff]
  have hreasons : reviewReasons protocol declarations instant = reviewReasons protocol declarations' instant := by
    funext review
    unfold reviewReasons
    rw [reviewDeclaration_perm hids' hperm']
  have hshortfall : shortfallReasons protocol reviews declarations
      = shortfallReasons protocol reviews' declarations' := by
    unfold shortfallReasons
    have hgroups := (reviewGroupIds_perm hids hids' hperm hperm').dedup.length_eq
    have hroles : ∀ role : HumanReviewerRoleRequirement,
        ((supportingReviews reviews).filter (·.reviewerRoleId = role.roleId)).length
          = ((supportingReviews reviews').filter (·.reviewerRoleId = role.roleId)).length :=
      fun role => (hsupporting.filter _).length_eq
    simp only [hsupporting.length_eq, hgroups, hroles]
  unfold quorumReasons
  rw [hsupersession, hprincipals, hreasons, hshortfall]
  exact ((hactive.flatMap_right _).append_left _).append_right _

theorem text_injective : Function.Injective HumanReviewQuorumReason.text := by
  intro reason reason' h
  cases reason <;> cases reason' <;> first | rfl | exact absurd h (by decide)

theorem evaluateHumanReviewQuorum_perm (hids : (reviews.map (·.reviewId)).Nodup) (hperm : reviews.Perm reviews')
    (hperm' : declarations.Perm declarations')
    : evaluateHumanReviewQuorum protocol reviews declarations instant
        = evaluateHumanReviewQuorum protocol reviews' declarations' instant := by
  unfold evaluateHumanReviewQuorum
  by_cases hids' : (declarations.map (·.declarationId)).Nodup
  . have hgroups := (reviewGroupIds_perm hids hids' hperm hperm').dedup
    have hsupporting := (supportingReviews_perm hids hperm).map (·.reviewId)
    rw [failIf_bind_of_false (not_not.mpr hids'),
      failIf_bind_of_false (not_not.mpr ((hperm'.map (·.declarationId)).nodup_iff.mp hids')),
      Verdict.of_eq_of_perm text_injective (quorumReasons_perm hids hids' hperm hperm')]
    congr 3
    . exact mergeSort_eq_of_perm Function.injective_id hgroups
    . exact mergeSort_eq_of_perm Function.injective_id hsupporting
  . have hids'' : ¬(declarations'.map (·.declarationId)).Nodup := by
      rw [← (hperm'.map (·.declarationId)).nodup_iff]
      exact hids'
    rw [failIf_bind_of_true hids', failIf_bind_of_true hids'']

theorem reviewIds_nodup_of_holds {quorum : SupportedQuorum}
    (h : evaluateHumanReviewQuorum protocol reviews declarations instant = .ok (.holds quorum))
    : (reviews.map (·.reviewId)).Nodup := by
  have hreasons := (evaluateHumanReviewQuorum_holds.mp h).2.1
  simp only [quorumReasons, supersessionReasons, List.append_eq_nil_iff, flag_eq_nil, not_not] at hreasons
  exact hreasons.1.1.1.2.1

/-- A satisfied quorum, and what the order of the reviews and of the declarations changes. -/
theorem humanReviewQuorum (protocol : HumanReviewProtocol) (reviews : List HumanReviewRecord)
    (declarations : List HumanReviewerIndependence) (instant : UtcMillisecondTimestamp)
    : (∀ quorum, evaluateHumanReviewQuorum protocol reviews declarations instant = .ok (.holds quorum) →
        ∃ active supporting, RestsOn protocol reviews declarations instant active supporting
          ∧ quorum.supportingReviewIds.Perm (supporting.map (·.reviewId)))
      ∧ ∀ reviews' declarations', reviews.Perm reviews' → declarations.Perm declarations' →
          (∀ quorum, evaluateHumanReviewQuorum protocol reviews declarations instant = .ok (.holds quorum)
            ↔ evaluateHumanReviewQuorum protocol reviews' declarations' instant = .ok (.holds quorum))
          ∧ ((reviews.map (·.reviewId)).Nodup →
              evaluateHumanReviewQuorum protocol reviews declarations instant
                = evaluateHumanReviewQuorum protocol reviews' declarations' instant) := by
  constructor
  . intro quorum h
    rcases evaluateHumanReviewQuorum_holds.mp h with ⟨_, hreasons, rfl⟩
    exact ⟨_, _, restsOn_of_reasons hreasons, List.mergeSort_perm _ _⟩
  . intro reviews' declarations' hperm hperm'
    refine ⟨fun quorum => ⟨fun h => ?_, fun h => ?_⟩,
      fun hids => evaluateHumanReviewQuorum_perm hids hperm hperm'⟩
    . rw [← evaluateHumanReviewQuorum_perm (reviewIds_nodup_of_holds h) hperm hperm']
      exact h
    . rw [← evaluateHumanReviewQuorum_perm (reviewIds_nodup_of_holds h) hperm.symm hperm'.symm]
      exact h

def sampleScope : EvidenceScope :=
  ⟨"environment_1", "project_1", "tenant_1"⟩

def sampleInstant (value : Fin 100001) : UtcMillisecondTimestamp :=
  ⟨value.val, by omega, by omega⟩

def sampleEvidence : ArtifactContentReference :=
  ⟨"artifact_1", .internal, "application/json", none,
    "e3b0c44298fc1c149afbf4c8996fb92427ae41e4649b934ca495991b7852b855", 16⟩

def sampleProtocol : HumanReviewProtocol where
  definitionSha256 := "sha_protocol"
  scope := sampleScope
  criteria := []
  evidenceBundle := [sampleEvidence]
  forbiddenRelationships := ["criterion author"]
  maximumReviewMilliseconds := 1000
  minimumCompletedReviews := 2
  minimumIndependentGroups := 2
  protocolId := "protocol_1"
  protocolVersionId := "protocol_version_1"
  reviewerRoles := [⟨2, "role_domain"⟩]
  riskTier := .low
  validity := ⟨sampleInstant 0, sampleInstant 100000, by decide⟩

def sampleDeclaration (declarationId principalId groupId : String) : HumanReviewerIndependence where
  definitionSha256 := "sha_declaration"
  scope := sampleScope
  conflicts := []
  declarationId := declarationId
  independenceGroupIds := [groupId]
  relationships := []
  reviewerPrincipalId := principalId
  status := .verified
  validity := ⟨sampleInstant 0, sampleInstant 100000, by decide⟩

def sampleReview (action : HumanReviewAction) (reviewId definitionSha256 declarationId principalId : String)
    (supersedes : Option RecordReference) : HumanReviewRecord where
  definitionSha256 := definitionSha256
  scope := sampleScope
  action := action
  assessment := ⟨"sha_assessment", "assessment_1"⟩
  completedAt := sampleInstant 500
  conflicts := []
  critiques := []
  expiresAt := sampleInstant 100000
  independenceDeclaration := ⟨"sha_declaration", declarationId⟩
  observations := []
  protocol := sampleProtocol.reference
  relationships := []
  reviewId := reviewId
  reviewedArtifacts := [sampleEvidence]
  reviewerPrincipalId := principalId
  reviewerRoleId := "role_domain"
  startedAt := sampleInstant 0
  supersedes := supersedes

def sampleDeclarations : List HumanReviewerIndependence :=
  [sampleDeclaration "declaration_1" "user_1" "group_1", sampleDeclaration "declaration_2" "user_2" "group_1",
    sampleDeclaration "declaration_3" "user_3" "group_2"]

def sampleReviews : List HumanReviewRecord :=
  [sampleReview .support "review_1" "sha_1" "declaration_1" "user_1" none,
    sampleReview .support "review_2" "sha_2" "declaration_2" "user_2" none,
    sampleReview .abstain "review_3" "sha_3" "declaration_3" "user_3" none]

def sampleRepeated : List HumanReviewRecord :=
  [sampleReview .oppose "review_1" "sha_1" "declaration_1" "user_1" none,
    sampleReview .support "review_1" "sha_2" "declaration_1" "user_1" none,
    sampleReview .support "review_2" "sha_3" "declaration_1" "user_1" (some ⟨"sha_2", "review_1"⟩)]

def sampleReordered : List HumanReviewRecord :=
  [sampleReview .support "review_1" "sha_2" "declaration_1" "user_1" none,
    sampleReview .oppose "review_1" "sha_1" "declaration_1" "user_1" none,
    sampleReview .support "review_2" "sha_3" "declaration_1" "user_1" (some ⟨"sha_2", "review_1"⟩)]

theorem groupId_of_supporter (hreview : review ∈ sampleReviews)
    (hsupport : review.action = .support) {declaration : HumanReviewerIndependence}
    (hdeclaration : declaration ∈ sampleDeclarations) (hdeclares : Declares declaration review) {groupId : String}
    (hgroup : groupId ∈ declaration.independenceGroupIds)
    : groupId = "group_1" := by
  have hid := hdeclares.declarationId
  have hall : ∀ review ∈ sampleReviews, review.action = .support → ∀ declaration ∈ sampleDeclarations,
      declaration.declarationId = review.independenceDeclaration.id →
      ∀ groupId ∈ declaration.independenceGroupIds, groupId = "group_1" := by decide
  exact hall review hreview hsupport declaration hdeclaration hid groupId hgroup

theorem evaluateHumanReviewQuorum_fails {reason : HumanReviewQuorumReason}
    (hids : (declarations.map (·.declarationId)).Nodup)
    (h : quorumReasons protocol reviews declarations instant ≠ [])
    : ∃ reasons, evaluateHumanReviewQuorum protocol reviews declarations instant = .ok (.fails reasons)
        ∧ (reason ∈ reasons ↔ reason ∈ quorumReasons protocol reviews declarations instant) := by
  refine ⟨sortedReasons HumanReviewQuorumReason.text (quorumReasons protocol reviews declarations instant), ?_, ?_⟩
  . unfold evaluateHumanReviewQuorum
    rw [failIf_bind_of_false (not_not.mpr hids), Verdict.of, if_neg h]
    rfl
  . unfold sortedReasons
    rw [List.mem_mergeSort, List.mem_dedup]

/-- The quorum is satisfied although the supporters are of one group, and the reasons of a quorum that is not
satisfied depend on the order of two reviews with one identifier. -/
theorem humanReviewQuorum_counterexample
    : (∃ quorum, evaluateHumanReviewQuorum sampleProtocol sampleReviews sampleDeclarations (sampleInstant 600)
          = .ok (.holds quorum))
      ∧ ¬ReachesGroups sampleProtocol sampleDeclarations (sampleReviews.filter (·.action = .support))
      ∧ sampleRepeated.Perm sampleReordered
      ∧ (∃ reasons, evaluateHumanReviewQuorum sampleProtocol sampleRepeated sampleDeclarations (sampleInstant 600)
          = .ok (.fails reasons) ∧ .opposingReview ∉ reasons)
      ∧ ∃ reasons, evaluateHumanReviewQuorum sampleProtocol sampleReordered sampleDeclarations (sampleInstant 600)
          = .ok (.fails reasons) ∧ .opposingReview ∈ reasons := by
  refine ⟨⟨_, evaluateHumanReviewQuorum_holds.mpr ⟨by decide, by decide, rfl⟩⟩, ?_, by decide, ?_, ?_⟩
  . rintro ⟨groupIds, hnodup, hlength, hgroups⟩
    have hall : ∀ groupId ∈ groupIds, groupId = "group_1" := by
      intro groupId hmem
      rcases hgroups groupId hmem with ⟨review, hreview, declaration, hdeclaration, hdeclares, hgroup⟩
      rw [List.mem_filter, decide_eq_true_eq] at hreview
      exact groupId_of_supporter hreview.1 hreview.2 hdeclaration hdeclares hgroup
    have hsubset : groupIds ⊆ ["group_1"] := fun groupId hmem => List.mem_singleton.mpr (hall groupId hmem)
    have hle := (hnodup.subperm hsubset).length_le
    have htwo : 2 ≤ groupIds.length := hlength
    rw [List.length_singleton] at hle
    omega
  . have hreasons : quorumReasons sampleProtocol sampleRepeated sampleDeclarations (sampleInstant 600) ≠ [] := by
      decide
    rcases evaluateHumanReviewQuorum_fails (by decide) hreasons with ⟨reasons, hfails, hmem⟩
    exact ⟨reasons, hfails, fun h => absurd (hmem.mp h) (by decide)⟩
  . have hreasons : quorumReasons sampleProtocol sampleReordered sampleDeclarations (sampleInstant 600) ≠ [] := by
      decide
    rcases evaluateHumanReviewQuorum_fails (by decide) hreasons with ⟨reasons, hfails, hmem⟩
    exact ⟨reasons, hfails, hmem.mpr (by decide)⟩

end Assurance
end ProofStack
