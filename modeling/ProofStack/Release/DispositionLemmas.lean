import ProofStack.Release.Disposition

/-!
This module contains the proof that the decision table of the composer and the one of the contract are
the same.
-/

namespace ProofStack
namespace Release

open Checks

def isApplied (reason : ReleaseDecisionRuleReason) : Prop :=
  reason = .normalApprovalApplied ∨ reason = .scopedExceptionApplied

namespace ReleaseRuleClassificationInput

def finding (input : ReleaseRuleClassificationInput) (classification : ReleaseRuleClassification)
    (supportingApprovals : List ReleaseApprovalReference) : ReleaseDecisionRuleFinding where
  ruleId := input.rule.ruleId
  ruleIndex := input.result.ruleIndex
  predicateKind := input.rule.predicateKind
  originalOutcome := classification.originalOutcome
  nonWaivable := input.rule.nonWaivable
  status := classification.status
  reason := classification.reason
  supportingApprovals := supportingApprovals

variable {value : ReleaseRuleClassificationInput} {approvals : List ReleaseApprovalReference}

theorem originalOutcome_classify : value.classify.originalOutcome = value.result.outcome := by
  fun_cases classify <;> rfl

theorem statusIssues_unresolved {reason : ReleaseDecisionRuleReason} (happlied : ¬isApplied reason)
    (hsatisfied : reason ≠ .evaluationSatisfied) (hviolation : reason ≠ .nonWaivableViolation)
    : (value.finding (value.unresolved reason) approvals).statusIssues = [] := by
  unfold isApplied at happlied
  apply issue_eq_nil.mpr
  show ¬(reason = _ ∨ reason = _ ∨ reason = _ ∨ reason = _)
  tauto

theorem statusIssues_finding
    (happroval : value.rule.predicateKind = .approvalRequired → value.result.outcome = .indeterminate)
    : (value.finding value.classify approvals).statusIssues = [] := by
  have hviolated (happlicable : value.result.outcome ≠ .notApplicable)
      (hsatisfied : value.result.outcome ≠ .satisfied) (hindeterminate : value.result.outcome ≠ .indeterminate)
      : value.result.outcome = .violated := by
    cases houtcome : value.result.outcome with
    | violated => rfl
    | satisfied => exact (hsatisfied houtcome).elim
    | indeterminate => exact (hindeterminate houtcome).elim
    | notApplicable => exact (happlicable houtcome).elim
  fun_cases classify
  -- An approval, a satisfied evaluation, a violation that is not waivable and an exception.
  case case8 hkind _ =>
    simp [ReleaseDecisionRuleFinding.statusIssues, finding, satisfied, hkind, happroval hkind]
  case case13 hkind hsatisfied =>
    simp [ReleaseDecisionRuleFinding.statusIssues, finding, satisfied, hkind, hsatisfied]
  case case15 happlicable _ hkind hsatisfied hindeterminate hwaivable =>
    have houtcome := hviolated (fun h => happlicable (.inr h)) hsatisfied hindeterminate
    simp [ReleaseDecisionRuleFinding.statusIssues, finding, hkind, houtcome, hwaivable]
  case case18 happlicable _ hkind hsatisfied hindeterminate hwaivable _ =>
    have houtcome := hviolated (fun h => happlicable (.inr h)) hsatisfied hindeterminate
    simp [ReleaseDecisionRuleFinding.statusIssues, finding, satisfied, hkind, houtcome, hwaivable]
  all_goals exact statusIssues_unresolved (by simp [isApplied]) (by simp) (by simp)

end ReleaseRuleClassificationInput

theorem classifyReleaseRule_eq_ok {encoding : DecisionEncoding} {input : ReleaseRuleClassificationInput}
    {classification : ReleaseRuleClassification}
    (h : classifyReleaseRule encoding input = .ok classification)
    : OpaqueIdSchema input.rule.ruleId
        ∧ input.result.Accepted encoding.isNFC encoding.resultBytes
        ∧ input.rule.predicateKind = input.result.predicateKind
        ∧ classification = input.classify := by
  simp only [classifyReleaseRule, ReleaseRuleClassificationInput.parse, bind_eq_ok, parseWith_eq_ok,
    pure_eq_ok, failIf_eq_ok] at h
  rcases h with ⟨value, ⟨_, ⟨hrule, _⟩, _, ⟨hresult, _⟩, _, hsame, rfl⟩, hclassify⟩
  rw [not_or, not_not, not_not] at hsame
  exact ⟨hrule, hresult, hsame.2, hclassify.symm⟩

theorem classifyReleaseRule_finding {encoding : DecisionEncoding}
    {input : ReleaseRuleClassificationInput} {classification : ReleaseRuleClassification}
    {approvals : List ReleaseApprovalReference}
    (h : classifyReleaseRule encoding input = .ok classification)
    (haccepted : ∀ approval ∈ approvals, approval.Accepted)
    (hlength : approvals.length ≤ maxPolicyApprovalGroups)
    (hsorted : isStrictlySortedUnique (approvals.map (·.approvalId)))
    (happlied : isApplied classification.reason ↔ approvals ≠ [])
    : (input.finding classification approvals).Accepted := by
  rcases classifyReleaseRule_eq_ok h with ⟨hrule, hresult, hkind, rfl⟩
  have happroval : input.rule.predicateKind = .approvalRequired →
      input.result.outcome = .indeterminate := by
    intro hrequired
    exact hresult.indeterminate_of_approval (hkind.symm.trans hrequired)
  constructor
  . exact ⟨hrule, hresult.1.ruleIndex, haccepted, hlength, hsorted⟩
  . have hsupported : ¬¬(isApplied input.classify.reason ↔ approvals.length > 0) := by
      rw [not_not, happlied]
      exact List.length_pos_iff.symm
    have hindeterminate : ¬(input.rule.predicateKind = .approvalRequired
        ∧ input.classify.originalOutcome ≠ .indeterminate) := by
      rw [ReleaseRuleClassificationInput.originalOutcome_classify]
      tauto
    simp only [ReleaseDecisionRuleFinding.issues, List.append_eq_nil_iff, issue_eq_nil]
    refine ⟨⟨?_, hsupported⟩, hindeterminate⟩
    exact ReleaseRuleClassificationInput.statusIssues_finding happroval

section Policies

variable {encoding : DecisionEncoding} {request : ReleaseDecisionInputDefinition}
variable {state : ReleaseDecisionSelectionState} {policies : List ReleaseDecisionPolicyFinding}
variable {result : ReleaseDecisionDisposition}

structure Admitted (encoding : DecisionEncoding) (request : ReleaseDecisionInputDefinition)
    (policies : List ReleaseDecisionPolicyFinding) : Prop where
  requested : request.Accepted encoding.isNFC encoding.inputBytes
  length : policies.length = request.evaluations.length
  findings : ∀ policy ∈ policies, policy.Accepted
  planned : ∀ pair ∈ policies.zip request.evaluations, isPlanned pair.1 pair.2
  jobs : (policies.filterMap (·.state.jobId)).Nodup
  snapshots : (policies.filterMap (·.state.snapshotId)).Nodup
  evaluations : (policies.filterMap (·.state.evaluationId)).Nodup
  supports_length : (supports policies).length ≤ request.verificationLimits.maxApprovalRecords
  supports_nodup : ((supports policies).map (·.approvalId)).Nodup

theorem deriveReleaseDisposition_eq_ok
    (h : deriveReleaseDisposition encoding ⟨request, state, policies⟩ = .ok result)
    : Admitted encoding request policies ∧ result = disposition request state policies := by
  simp only [deriveReleaseDisposition, bind_eq_ok, parseWith_eq_ok, failIf_eq_ok, pure_eq_ok] at h
  rcases h with ⟨_, ⟨hrequest, rfl⟩, _, hlength, _, ⟨hpolicies, rfl⟩, _, hplanned, _, hids, _, hsupports,
    hresult⟩
  rw [not_not] at hlength hplanned
  rw [not_or, not_or, not_not, not_not, not_not] at hids
  rw [not_or, not_not, Nat.not_lt] at hsupports
  exact ⟨⟨hrequest, hlength, hpolicies, List.all_eq_true.mp hplanned, hids.1, hids.2.1, hids.2.2,
    hsupports.1, hsupports.2⟩, hresult.symm⟩

namespace Admitted

variable (h : Admitted encoding request policies)

theorem map_eq_map {α : Type} {f : ReleaseDecisionPolicyFinding → α}
    {g : PlannedReleasePolicyEvaluation → α} (hlength : policies.length = request.evaluations.length)
    (heq : ∀ pair ∈ policies.zip request.evaluations, f pair.1 = g pair.2)
    : policies.map f = request.evaluations.map g := by
  apply List.ext_getElem
  . simpa using hlength
  . intro index hleft hright
    rw [List.length_map] at hleft hright
    have hmem : (policies[index], request.evaluations[index]) ∈ policies.zip request.evaluations := by
      rw [List.mem_iff_getElem]
      exact ⟨index, by simp [hleft, hright], by simp⟩
    simpa using heq _ hmem

include h

theorem map_mode : policies.map (·.mode) = request.evaluations.map (·.mode) := by
  apply map_eq_map h.length
  intro pair hpair
  have hplanned := h.planned pair hpair
  simp only [isPlanned, Bool.and_eq_true, decide_eq_true_eq] at hplanned
  exact hplanned.1.1.1.1.1

theorem map_policyId
    : policies.map (·.policy.policyId) = request.evaluations.map (·.request.policy.policyId) := by
  apply map_eq_map h.length
  intro pair hpair
  have hplanned := h.planned pair hpair
  simp only [isPlanned, Bool.and_eq_true, decide_eq_true_eq] at hplanned
  exact hplanned.1.1.1.1.2

theorem map_requestId
    : policies.map (·.request.evaluationRequestId)
        = request.evaluations.map (·.request.evaluationRequestId) := by
  apply map_eq_map h.length
  intro pair hpair
  have hplanned := h.planned pair hpair
  simp only [isPlanned, Bool.and_eq_true, decide_eq_true_eq] at hplanned
  exact hplanned.1.2

theorem enforce_iff
    : request.mode = .enforce ↔ (policies.filter isMandatory).length > 0 := by
  have hissues := h.requested.2
  simp only [ReleaseDecisionInputDefinition.issues, List.append_eq_nil_iff, issue_eq_nil,
    not_not] at hissues
  have hmode := hissues.1.1.1.1.1.2
  have hmandatory : (∃ evaluation ∈ request.evaluations, evaluation.mode = .mandatory)
      ↔ .mandatory ∈ policies.map (·.mode) := by
    rw [h.map_mode, List.mem_map]
  rw [hmode, hmandatory, List.mem_map, gt_iff_lt, List.length_pos_iff_exists_mem]
  simp [isMandatory]

theorem sorted : isStrictlySortedUnique (policies.map (·.policy.policyId)) := by
  have hissues := h.requested.2
  simp only [ReleaseDecisionInputDefinition.issues, List.append_eq_nil_iff, issue_eq_nil,
    not_not] at hissues
  rw [h.map_policyId]
  exact hissues.1.1.1.1.2

theorem nodup_requestIds : (policies.map (·.request.evaluationRequestId)).Nodup := by
  have hissues := h.requested.2
  simp only [ReleaseDecisionInputDefinition.issues, List.append_eq_nil_iff, issue_eq_nil,
    not_not] at hissues
  rw [h.map_requestId]
  exact hissues.1.1.1.2

theorem supports_le : (supports policies).length ≤ maxReleaseDecisionApprovalReads :=
  h.supports_length.trans h.requested.1.verificationLimits.2.2.2

omit h

variable {decision : ReleaseDecisionDefinition}

theorem inventoryIssues (h : Admitted encoding request policies) (hmode : decision.mode = request.mode)
    (hpolicies : decision.policies = policies)
    : decision.inventoryIssues = [] := by
  subst hpolicies
  have hsupports := h.supports_le
  simp only [ReleaseDecisionDefinition.inventoryIssues, List.append_eq_nil_iff, issue_eq_nil, not_not,
    List.flatMap_cons, List.flatMap_nil, hmode, List.append_nil]
  refine ⟨⟨⟨⟨h.sorted, h.enforce_iff⟩, h.nodup_requestIds⟩, h.jobs, h.snapshots, h.evaluations⟩, ?_⟩
  rw [not_or, not_not]
  exact ⟨by omega, h.supports_nodup⟩

end Admitted

structure AcceptedElsewhere (encoding : DecisionEncoding) (decision : ReleaseDecisionDefinition)
    : Prop where
  decisionId : OpaqueIdSchema decision.decisionId
  scope : EvidenceScopeSchema decision.scope
  input : decision.input.Accepted
  candidate : decision.candidate.Accepted
  selection : decision.selection.Accepted ReleasePolicySelectionBody
  authoritySnapshot : decision.authoritySnapshot.Accepted
  publisher : decision.publisher.Accepted
  rationale : AssuranceRationaleSchema encoding.isNFC decision.rationale
  times : decision.timeIssues = []
  bytes : encoding.decisionBytes decision ≤ maxReleaseDecisionDefinitionBytes

theorem expected_eq_disposition {decision : ReleaseDecisionDefinition}
    (hmode : decision.mode = request.mode) (hstate : decision.selectionState = state)
    (hpolicies : decision.policies = policies)
    : decision.expected = disposition request state policies := by
  subst hpolicies hstate
  rw [ReleaseDecisionDefinition.expected, disposition, hmode]
  rfl

theorem accepted_iff_disposition {decision : ReleaseDecisionDefinition}
    (h : Admitted encoding request policies) (hmode : decision.mode = request.mode)
    (hstate : decision.selectionState = state) (hpolicies : decision.policies = policies)
    : decision.Accepted encoding.isNFC encoding.decisionBytes
        ↔ AcceptedElsewhere encoding decision
          ∧ decision.disposition = disposition request state policies := by
  have hinventory := h.inventoryIssues hmode hpolicies
  have hexpected := expected_eq_disposition hmode hstate hpolicies
  simp only [ReleaseDecisionDefinition.Accepted, ReleaseDecisionDefinition.issues, hinventory, hexpected,
    List.append_eq_nil_iff, issue_eq_nil, not_not, Nat.not_lt, gt_iff_lt]
  constructor
  . rintro ⟨hshape, ⟨⟨htimes, _⟩, hdisposition⟩, hbytes⟩
    exact ⟨⟨hshape.decisionId, hshape.scope, hshape.input, hshape.candidate, hshape.selection,
      hshape.authoritySnapshot, hshape.publisher, hshape.rationale, htimes, hbytes⟩, hdisposition⟩
  . rintro ⟨helsewhere, hdisposition⟩
    refine ⟨?_, ⟨⟨helsewhere.times, trivial⟩, hdisposition⟩, helsewhere.bytes⟩
    constructor
    . exact helsewhere.decisionId
    . exact helsewhere.scope
    . exact helsewhere.input
    . exact helsewhere.candidate
    . exact helsewhere.selection
    . exact helsewhere.authoritySnapshot
    . exact helsewhere.publisher
    . exact helsewhere.rationale
    . rw [hpolicies]
      exact h.findings
    . rw [hpolicies, h.length]
      exact h.requested.1.evaluations_length

def IsSatisfied (policy : ReleaseDecisionPolicyFinding) : Prop :=
  policy.state.isUnavailable = false ∧ ∀ rule ∈ policy.state.rules, rule.status = .satisfied

theorem isSatisfied_iff (policy : ReleaseDecisionPolicyFinding)
    : IsSatisfied policy
        ↔ hasStatus .nonWaivableViolation policy = false
          ∧ (policy.state.isUnavailable || hasStatus .unresolved policy) = false := by
  have hstatus : ∀ rule : ReleaseDecisionRuleFinding, rule.status = .satisfied
      ↔ rule.status ≠ .nonWaivableViolation ∧ rule.status ≠ .unresolved := by
    intro rule
    cases rule.status <;> simp
  simp only [IsSatisfied, hstatus, hasStatus, Bool.or_eq_false_iff, List.any_eq_false,
    decide_eq_true_eq, ne_eq]
  constructor
  . rintro ⟨hevaluated, hrules⟩
    exact ⟨fun rule hrule => (hrules rule hrule).1, hevaluated, fun rule hrule => (hrules rule hrule).2⟩
  . rintro ⟨hviolation, hevaluated, hunresolved⟩
    exact ⟨hevaluated, fun rule hrule => ⟨hviolation rule hrule, hunresolved rule hrule⟩⟩

theorem any_mandatory_eq_false (test : ReleaseDecisionPolicyFinding → Bool)
    : (policies.filter isMandatory).any test = false
        ↔ ∀ policy ∈ policies, policy.mode = .mandatory → test policy = false := by
  simp [isMandatory]

theorem all_isSatisfied_iff
    : (∀ policy ∈ policies, policy.mode = .mandatory → IsSatisfied policy)
        ↔ (policies.filter isMandatory).any (hasStatus .nonWaivableViolation) = false
          ∧ (policies.filter isMandatory).any
              (fun policy => policy.state.isUnavailable || hasStatus .unresolved policy) = false := by
  simp only [isSatisfied_iff, any_mandatory_eq_false]
  constructor
  . intro h
    exact ⟨fun policy hpolicy hmode => (h policy hpolicy hmode).1,
      fun policy hpolicy hmode => (h policy hpolicy hmode).2⟩
  . intro h policy hpolicy hmode
    exact ⟨h.1 policy hpolicy hmode, h.2 policy hpolicy hmode⟩

theorem mode_eq_enforce_iff {mode : ReleasePolicySelectionMode}
    : mode = .enforce ↔ mode ≠ .observationOnly := by
  cases mode <;> simp

theorem disposition_eq_proceed
    : disposition request state policies = .proceed
        ↔ state = .current ∧ request.mode = .enforce
          ∧ ∀ policy ∈ policies, policy.mode = .mandatory → IsSatisfied policy := by
  rw [all_isSatisfied_iff, mode_eq_enforce_iff, disposition]
  generalize (policies.filter isMandatory).any (hasStatus .nonWaivableViolation) = rejected
  generalize (policies.filter isMandatory).any _ = held
  split_ifs <;> simp_all

theorem disposition_eq_reject
    : disposition request state policies = .reject
        ↔ state = .current ∧ request.mode = .enforce
          ∧ ∃ policy ∈ policies, policy.mode = .mandatory
              ∧ ∃ rule ∈ policy.state.rules, rule.status = .nonWaivableViolation := by
  have hviolation : (∃ policy ∈ policies, policy.mode = .mandatory
        ∧ ∃ rule ∈ policy.state.rules, rule.status = .nonWaivableViolation)
      ↔ (policies.filter isMandatory).any (hasStatus .nonWaivableViolation) = true := by
    simp [isMandatory, hasStatus]
  rw [hviolation, mode_eq_enforce_iff, disposition]
  generalize (policies.filter isMandatory).any (hasStatus .nonWaivableViolation) = rejected
  generalize (policies.filter isMandatory).any _ = held
  split_ifs <;> simp_all

end Policies

/-- The decision tables of the composer and of the contract agree, and every rule that the composer
classifies has a finding in the contract. -/
theorem releaseDecisionTable (encoding : DecisionEncoding)
    : (∀ request state policies result,
        deriveReleaseDisposition encoding ⟨request, state, policies⟩ = .ok result →
          (∀ decision : ReleaseDecisionDefinition, decision.mode = request.mode →
            decision.selectionState = state → decision.policies = policies →
              (decision.Accepted encoding.isNFC encoding.decisionBytes
                ↔ AcceptedElsewhere encoding decision ∧ decision.disposition = result))
          ∧ (result = .proceed ↔ state = .current ∧ request.mode = .enforce
              ∧ ∀ policy ∈ policies, policy.mode = .mandatory → IsSatisfied policy)
          ∧ (result = .reject ↔ state = .current ∧ request.mode = .enforce
              ∧ ∃ policy ∈ policies, policy.mode = .mandatory
                ∧ ∃ rule ∈ policy.state.rules, rule.status = .nonWaivableViolation))
      ∧ ∀ input classification (approvals : List ReleaseApprovalReference),
          classifyReleaseRule encoding input = .ok classification →
            (∀ approval ∈ approvals, approval.Accepted) →
            approvals.length ≤ maxPolicyApprovalGroups →
            isStrictlySortedUnique (approvals.map (·.approvalId)) →
            (isApplied classification.reason ↔ approvals ≠ []) →
              (input.finding classification approvals).Accepted := by
  constructor
  . intro request state policies result h
    rcases deriveReleaseDisposition_eq_ok h with ⟨hadmitted, rfl⟩
    refine ⟨?_, disposition_eq_proceed, disposition_eq_reject⟩
    intro decision hmode hstate hpolicies
    exact accepted_iff_disposition hadmitted hmode hstate hpolicies
  . intro input classification approvals h haccepted hlength hsorted happlied
    exact classifyReleaseRule_finding h haccepted hlength hsorted happlied

namespace DecisionSample

def sampleDigest : String :=
  "0123456789abcdef0123456789abcdef0123456789abcdef0123456789abcdef"

def sampleTime (seconds : Int) (hle : -62135596800 ≤ seconds) (hge : seconds ≤ 253402300799)
    : PolicyEvaluationTime where
  seconds := seconds
  digits := 3
  fraction := 0
  le_seconds := hle
  seconds_le := hge
  digits_le := PolicyEvaluationTime.millisecondDigits_le
  fraction_lt := PolicyEvaluationTime.wholeSecond_lt

def sampleCut : PolicyEvaluationTime :=
  sampleTime 1000 (by decide) (by decide)

def sampleEncoding : DecisionEncoding where
  isNFC := fun _ => true
  resultBytes := fun _ => 512
  inputBytes := fun _ => 2048
  decisionBytes := fun _ => 4096

def sampleExecutionLimits : PolicyEvaluationExecutionLimits where
  heartbeatIntervalMilliseconds := 1000
  leaseDurationMilliseconds := 5000
  maxAcquisitionRecordBytes := 64
  maxAcquisitionRecords := 4
  maxArtifactReadBytes := 16
  maxAttempts := 1
  maxRuleEvaluations := 8
  perAttemptTimeoutMilliseconds := 10000
  retryBackoffMilliseconds := 0
  retryableErrors := []
  totalDeadlineMilliseconds := 20000

def samplePolicyReference : ProofStack.ReleasePolicyReference :=
  ⟨sampleDigest, "pol_sample", "plv_sample"⟩

def sampleSelection : ReleasePolicySelectionReference :=
  ⟨"sel_sample", "slv_sample", sampleDigest, ⟨"ins_sample", "gat_sample"⟩⟩

def samplePublisher : ReleaseDecisionPublisherReceipt :=
  ⟨"prn_sample", .service, sampleCut, "crd_sample", "req_sample"⟩

def sampleRequest : ReleaseDecisionInputDefinition where
  decisionInputRequestId := "din_sample"
  candidate := ⟨"cnd_sample", "cdv_sample", sampleDigest⟩
  selection := sampleSelection
  rationale := "Release"
  scope := ⟨"env_sample", "prj_sample", "ten_sample"⟩
  mode := .enforce
  publisher := samplePublisher
  createdAt := sampleCut
  expiresAt := sampleTime 2000 (by decide) (by decide)
  verificationLimits := ⟨2, 1, 1⟩
  evaluations := [{
    mode := .mandatory
    request := {
      candidate := ⟨"cnd_sample", "cdv_sample", sampleDigest⟩
      evaluationRequestId := "evr_sample"
      evaluationTime := sampleCut
      limits := sampleExecutionLimits
      policy := samplePolicyReference }
    requestSha256 := sampleDigest }]

def sampleApproval : ReleaseApprovalReference :=
  ⟨"apr_sample", sampleDigest⟩

def sampleClassificationInput : ReleaseRuleClassificationInput where
  rule := ⟨"rul_sample", .coverageFloor, false⟩
  result := {
    ruleIndex := 0
    ruleId := "rul_sample"
    predicateKind := .coverageFloor
    outcome := .violated
    evidence := .countFloor .decidedCount 1 2 .below
    limitations := [] }
  applicability := .match
  candidateAuthority := .qualified
  originalPolicyState := .active
  currentPolicyState := .active
  normalApproval := .unavailable
  ruleException := .matched

def sampleClassification : ReleaseRuleClassification :=
  ⟨.satisfied, .violated, .scopedExceptionApplied⟩

def sampleFinding : ReleaseDecisionPolicyFinding where
  policy := samplePolicyReference
  request := ⟨sampleDigest, "evr_sample"⟩
  mode := .mandatory
  state := .evaluated ⟨"job_sample", sampleDigest⟩ ⟨"snp_sample", sampleDigest⟩
    ⟨"evl_sample", sampleDigest⟩ 1
    [sampleClassificationInput.finding sampleClassification [sampleApproval]]

def sampleDecision : ReleaseDecisionDefinition where
  decisionId := "dec_sample"
  scope := sampleRequest.scope
  input := ⟨"din_sample", sampleDigest⟩
  candidate := sampleRequest.candidate
  selection := sampleSelection
  mode := .enforce
  selectionState := .current
  authoritySnapshot := ⟨"aus_sample", sampleDigest⟩
  publisher := samplePublisher
  decidedAt := sampleCut
  expiresAt := sampleTime 2000 (by decide) (by decide)
  rationale := "Release"
  disposition := .proceed
  policies := [sampleFinding]

theorem sampleDigest_accepted : Sha256Schema sampleDigest = true :=
  (sha256Schema_ofList _).trans rfl

theorem sampleRequest_accepted : sampleRequest.Accepted sampleEncoding.isNFC sampleEncoding.inputBytes := by
  have hcandidate : sampleRequest.candidate.Accepted := ⟨by decide, by decide, sampleDigest_accepted⟩
  have hpolicy : samplePolicyReference.Accepted := ⟨sampleDigest_accepted, by decide, by decide⟩
  refine ⟨?_, by decide⟩
  constructor
  case candidate => exact hcandidate
  case evaluations =>
    rintro evaluation (_ | ⟨_, ⟨⟩⟩)
    exact ⟨⟨hcandidate, by decide, by decide, hpolicy⟩, sampleDigest_accepted⟩
  all_goals decide

theorem sampleApproval_accepted : sampleApproval.Accepted :=
  ⟨by decide, sampleDigest_accepted⟩

theorem sampleFinding_accepted : sampleFinding.Accepted := by
  refine ⟨⟨sampleDigest_accepted, by decide, by decide⟩, ⟨sampleDigest_accepted, by decide⟩,
    ⟨⟨by decide, sampleDigest_accepted⟩, ⟨by decide, sampleDigest_accepted⟩, ⟨by decide, sampleDigest_accepted⟩,
      by decide, by decide, ?_⟩, by decide⟩
  rintro rule (_ | ⟨_, ⟨⟩⟩)
  refine ⟨?_, by decide⟩
  constructor
  case supportingApprovals =>
    rintro approval (_ | ⟨_, ⟨⟩⟩)
    exact sampleApproval_accepted
  all_goals decide

theorem deriveReleaseDisposition_sampleRequest
    : deriveReleaseDisposition sampleEncoding ⟨sampleRequest, .current, [sampleFinding]⟩
        = .ok .proceed := by
  simp only [deriveReleaseDisposition, bind_eq_ok, parseWith_eq_ok, failIf_eq_ok, pure_eq_ok,
    List.forall_mem_singleton]
  exact ⟨_, ⟨sampleRequest_accepted, rfl⟩, (), by decide, _, ⟨sampleFinding_accepted, rfl⟩, (), by decide,
    (), by decide, (), by decide, rfl⟩

theorem acceptedElsewhere_sampleDecision : AcceptedElsewhere sampleEncoding sampleDecision := by
  have hrequest := sampleRequest_accepted.1
  constructor
  case input => exact ⟨by decide, sampleDigest_accepted⟩
  case candidate => exact hrequest.candidate
  case selection => exact hrequest.selection
  case authoritySnapshot => exact ⟨by decide, sampleDigest_accepted⟩
  all_goals decide

theorem releaseDecisionTable_sampleDecision
    : sampleDecision.Accepted sampleEncoding.isNFC sampleEncoding.decisionBytes
      ∧ (sampleClassificationInput.finding sampleClassification [sampleApproval]).Accepted := by
  have htable := releaseDecisionTable sampleEncoding
  have hderived := htable.1 _ _ _ _ deriveReleaseDisposition_sampleRequest
  constructor
  . exact (hderived.1 sampleDecision rfl rfl rfl).mpr ⟨acceptedElsewhere_sampleDecision, rfl⟩
  . exact htable.2 sampleClassificationInput sampleClassification [sampleApproval] (by decide)
      (by decide) (by decide) (by decide) (by simp [isApplied, sampleClassification])

end DecisionSample

end Release
end ProofStack
