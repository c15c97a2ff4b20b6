import ProofStack.Evaluation.ModelAssuranceAssessment

/-!
This module contains how long an assessment stays eligible.
-/

namespace ProofStack
namespace Assurance

open Checks Reasons Sequence

section Later

variable {before after : UtcMillisecondTimestamp}

theorem applicabilityReasons_of_later {graph : QualificationGraph}
    (h : graph.applicabilityReasons before = []) (hle : before.value ≤ after.value)
    (hlt : ∀ validUntil ∈ graph.validUntils, after.value < validUntil.value)
    : graph.applicabilityReasons after = [] := by
  simp only [QualificationGraph.validUntils, List.forall_mem_cons] at hlt
  rcases hlt with ⟨hcalibration, hindependence, -, hprofile, hreport, hsuite, -⟩
  simp only [QualificationGraph.applicabilityReasons, QualificationGraph.currencyReasons,
    List.append_eq_nil_iff, flag_eq_nil, not_not] at h ⊢
  rcases h with ⟨⟨⟨⟨hscope, ⟨⟨hs, hr⟩, hp⟩, hc⟩, hlineage⟩, hi⟩, hexecution⟩
  refine ⟨⟨⟨⟨hscope, ⟨⟨?_, ?_⟩, ?_⟩, ?_⟩, hlineage⟩, ?_⟩, hexecution⟩
  . exact Validity.current_of_current hs hle hsuite
  . exact Validity.current_of_current hr hle hreport
  . exact Validity.current_of_current hp hle hprofile
  . exact Validity.current_of_current hc hle hcalibration
  . exact Validity.current_of_current hi hle hindependence

theorem compatibilityReasons_of_later {profile : ModelEvaluatorProfile} {calibration : CalibrationReport}
    {context : CalibrationCompatibilityContext}
    (h : compatibilityReasons profile calibration context before = []) (hle : before.value ≤ after.value)
    (hprofile : after.value < profile.validity.validUntil.value)
    (hcalibration : after.value < calibration.validity.validUntil.value)
    : compatibilityReasons profile calibration context after = [] := by
  simp only [compatibilityReasons, List.append_eq_nil_iff, flag_eq_nil, not_not] at h ⊢
  rcases h with ⟨⟨⟨hscope, hp⟩, hc⟩, hcontext⟩
  refine ⟨⟨⟨hscope, ?_⟩, ?_⟩, hcontext⟩
  . exact Validity.current_of_current hp hle hprofile
  . exact Validity.current_of_current hc hle hcalibration

theorem unverifiableReasons_of_later {left right : IndependenceDeclaration}
    (h : unverifiableReasons left right before = []) (hle : before.value ≤ after.value)
    (hleft : after.value < left.validity.validUntil.value)
    (hright : after.value < right.validity.validUntil.value)
    : unverifiableReasons left right after = [] := by
  simp only [unverifiableReasons, List.append_eq_nil_iff, flag_eq_nil, not_not, not_or] at h ⊢
  rcases h with ⟨⟨⟨hscope, hverified⟩, hl, hr⟩, hknown⟩
  refine ⟨⟨⟨hscope, hverified⟩, ?_, ?_⟩, hknown⟩
  . exact Validity.current_of_current hl hle hleft
  . exact Validity.current_of_current hr hle hright

theorem comparisonReasons_eq_nil {primary declaration : IndependenceDeclaration}
    {instant : UtcMillisecondTimestamp}
    : comparisonReasons (some primary) (some declaration) instant = []
      ↔ unverifiableReasons primary declaration instant = []
        ∧ ¬((subjectKey primary == subjectKey declaration) = true
          ∨ sharedDimensions primary declaration ≠ []) := by
  simp only [comparisonReasons, compareEvaluatorIndependence]
  by_cases hreasons : unverifiableReasons primary declaration instant = []
  . rw [if_neg (not_not_intro hreasons)]
    by_cases hshared : (subjectKey primary == subjectKey declaration) = true
        ∨ sharedDimensions primary declaration ≠ []
    . rw [if_pos hshared]
      exact ⟨fun h => absurd h (List.cons_ne_nil _ _), fun h => absurd hshared h.2⟩
    . rw [if_neg hshared]
      by_cases hlt : subjectKey primary < subjectKey declaration
      . rw [if_pos hlt]
        exact ⟨fun _ => ⟨hreasons, hshared⟩, fun _ => rfl⟩
      . rw [if_neg hlt]
        exact ⟨fun _ => ⟨hreasons, hshared⟩, fun _ => rfl⟩
  . rw [if_pos hreasons]
    exact ⟨fun h => absurd h (List.cons_ne_nil _ _), fun h => absurd h.1 hreasons⟩

theorem comparisonReasons_current {primary declaration : IndependenceDeclaration}
    {instant : UtcMillisecondTimestamp}
    (h : comparisonReasons (some primary) (some declaration) instant = [])
    : primary.validity.current instant := by
  have hreasons := (comparisonReasons_eq_nil.mp h).1
  simp only [unverifiableReasons, List.append_eq_nil_iff, flag_eq_nil, not_not, not_or] at hreasons
  exact hreasons.1.2.1

theorem comparisonReasons_of_later {primary declaration : Option IndependenceDeclaration}
    (h : comparisonReasons primary declaration before = []) (hle : before.value ≤ after.value)
    (hprimary : ∀ value ∈ primary, after.value < value.validity.validUntil.value)
    (hdeclaration : ∀ value ∈ declaration, after.value < value.validity.validUntil.value)
    : comparisonReasons primary declaration after = [] := by
  cases declaration with
  | none => contradiction
  | some declaration =>
    cases primary with
    | none => rfl
    | some primary =>
      rw [comparisonReasons_eq_nil] at h ⊢
      exact ⟨unverifiableReasons_of_later h.1 hle (hprimary primary rfl) (hdeclaration declaration rfl), h.2⟩

theorem critiqueIntegrityReasons_of_later {plan : BlindedEvaluationPlan} {expected : List RecordReference}
    {critiques : List IndependentCritique} {declarations : List IndependenceDeclaration}
    (h : critiqueIntegrityReasons plan expected critiques declarations before = [])
    (hle : before.value ≤ after.value)
    (hprimary : ∀ primary ∈ primaryDeclaration plan declarations,
      after.value < primary.validity.validUntil.value)
    (hdeclarations : ∀ critique ∈ critiques, ∀ declaration ∈ critiqueDeclaration critique declarations,
      after.value < declaration.validity.validUntil.value)
    : critiqueIntegrityReasons plan expected critiques declarations after = [] := by
  simp only [critiqueIntegrityReasons, List.append_eq_nil_iff, List.flatMap_eq_nil_iff] at h ⊢
  refine ⟨h.1, ?_⟩
  intro critique hmem
  have hcritique := h.2 critique hmem
  simp only [critiqueReasons, List.append_eq_nil_iff, flag_eq_nil, not_or, not_lt] at hcritique ⊢
  rcases hcritique with ⟨⟨⟨⟨hscope, hcriterion⟩, hcompleted, hrecorded⟩, hcomparison⟩, houtcome⟩
  refine ⟨⟨⟨⟨hscope, hcriterion⟩, hcompleted.trans hle, hrecorded.trans hle⟩, ?_⟩, houtcome⟩
  exact comparisonReasons_of_later hcomparison hle hprimary (hdeclarations critique hmem)

theorem reviewDeclarationReasons_of_later {protocol : HumanReviewProtocol} {review : HumanReviewRecord}
    {declaration : Option HumanReviewerIndependence}
    (h : reviewDeclarationReasons protocol review before declaration = []) (hle : before.value ≤ after.value)
    (hdeclaration : ∀ value ∈ declaration, after.value < value.validity.validUntil.value)
    : reviewDeclarationReasons protocol review after declaration = [] := by
  cases declaration with
  | none => contradiction
  | some declaration =>
    simp only [reviewDeclarationReasons, List.append_eq_nil_iff, flag_eq_nil, not_not] at h ⊢
    rcases h with ⟨⟨⟨hscope, hverified⟩, hcurrent⟩, hconflict⟩
    exact ⟨⟨⟨hscope, hverified⟩, Validity.current_of_current hcurrent hle (hdeclaration declaration rfl)⟩,
      hconflict⟩

theorem quorumReasons_of_later {protocol : HumanReviewProtocol} {reviews : List HumanReviewRecord}
    {declarations : List HumanReviewerIndependence}
    (h : quorumReasons protocol reviews declarations before = []) (hle : before.value ≤ after.value)
    (hprotocol : after.value < protocol.validity.validUntil.value)
    (hreviews : ∀ review ∈ reviews, after.value < review.expiresAt.value)
    (hdeclarations : ∀ declaration ∈ declarations, after.value < declaration.validity.validUntil.value)
    : quorumReasons protocol reviews declarations after = [] := by
  simp only [quorumReasons, List.append_eq_nil_iff, List.flatMap_eq_nil_iff, flag_eq_nil, not_not] at h ⊢
  rcases h with ⟨⟨⟨⟨hcurrent, hsupersession⟩, hnodup⟩, hactive⟩, hshortfall⟩
  refine ⟨⟨⟨⟨Validity.current_of_current hcurrent hle hprotocol, hsupersession⟩, hnodup⟩, ?_⟩, hshortfall⟩
  intro review hmem
  have hreview := hactive review hmem
  simp only [reviewReasons, List.append_eq_nil_iff, flag_eq_nil, not_lt, not_le] at hreview ⊢
  rcases hreview with ⟨⟨⟨⟨⟨⟨⟨⟨hscope, hreference⟩, hcompleted⟩, -⟩, htime⟩, hevidence⟩, hdeclaration⟩,
    haction⟩, hescalation⟩
  refine ⟨⟨⟨⟨⟨⟨⟨⟨hscope, hreference⟩, hcompleted.trans hle⟩, ?_⟩, htime⟩, hevidence⟩, ?_⟩, haction⟩,
    hescalation⟩
  . exact hreviews review (List.mem_filter.mp hmem).1
  . refine reviewDeclarationReasons_of_later hdeclaration hle ?_
    intro declaration hdeclared
    exact hdeclarations declaration (lookup_eq_some (Option.mem_filter_iff.mp hdeclared).1).1

end Later

section Reads

variable {evaluations : EvaluationRepository} {assurances : ModelAssuranceRepository} {scope : EvidenceScope}

theorem find_of_assuranceRecord {kind : ModelAssuranceRecordKind} {recordId definitionSha256 : String}
    {record : ModelAssuranceRecordByKind kind}
    (h : assuranceRecord assurances scope kind recordId definitionSha256 = .ok record)
    : assurances.find scope kind recordId = some record := by
  unfold assuranceRecord at h
  simp only [bind_eq_ok, found_eq_ok, pure_eq_ok] at h
  rcases h with ⟨_, hfind, _, _, rfl⟩
  exact hfind

structure ReadFrom (assurances : ModelAssuranceRepository) (scope : EvidenceScope) (graph : AssessmentGraph)
    : Prop where
  declarations : ∀ declaration ∈ graph.declarations,
    assurances.find scope .independenceDeclaration declaration.independenceDeclarationId = some declaration
  critics : ∀ critic ∈ graph.critics,
    assurances.find scope .independenceDeclaration critic.2.report.independenceDeclaration.id
      = some critic.2.independence

theorem find_of_readCriticGraph {critique : IndependentCritique}
    {critic : IndependentCritique × QualificationGraph}
    (h : readCriticGraph evaluations assurances scope critique = .ok critic)
    : assurances.find scope .independenceDeclaration critic.2.report.independenceDeclaration.id
      = some critic.2.independence := by
  unfold readCriticGraph at h
  simp only [bind_eq_ok, pure_eq_ok] at h
  rcases h with ⟨report, _, suite, _, profile, _, independence, hindependence, calibration, _, plan, _, _, _,
    rfl⟩
  exact find_of_assuranceRecord hindependence

theorem readFrom_of_read {definition : ModelAssuranceAssessmentInput} {graph : AssessmentGraph}
    (h : readAssessmentGraph evaluations assurances scope definition = .ok graph)
    : ReadFrom assurances scope graph := by
  unfold readAssessmentGraph at h
  simp only [bind_eq_ok, pure_eq_ok] at h
  rcases h with ⟨base, _, plan, _, blindResult, _, calibration, _, report, _, suite, _, profile, _,
    independence, _, protocol, _, critiques, _, critics, hcritics, declarations, hdeclarations, reviews, _,
    results, _, humanDeclarations, _, _, _, rfl⟩
  constructor
  case declarations =>
    intro declaration hmem
    rcases exists_of_mapM hdeclarations hmem with ⟨reference, _, hreference⟩
    have hfind := find_of_assuranceRecord hreference
    have hid : declaration.independenceDeclarationId = reference.id := assurances.find_id hfind
    rw [hid]
    exact hfind
  case critics =>
    intro critic hmem
    rcases exists_of_mapM hcritics hmem with ⟨critique, _, hcritique⟩
    exact find_of_readCriticGraph hcritique

end Reads

section Eligible

variable {scope : EvidenceScope} {definition : ModelAssuranceAssessmentInput} {graph : AssessmentGraph}
    {instant : UtcMillisecondTimestamp}

theorem calibration_compatible {profile : ModelEvaluatorProfile} {calibration : CalibrationReport}
    {context : CalibrationCompatibilityContext}
    : (∃ verdict, evaluateCalibrationCompatibility profile calibration context instant = .ok verdict
        ∧ verdict.reasons = [])
      ↔ context.Accepted ∧ compatibilityReasons profile calibration context instant = [] := by
  simp only [evaluateCalibrationCompatibility, bind_eq_ok, failIf_eq_ok, not_not, pure_eq_ok]
  constructor
  . rintro ⟨_, ⟨_, haccepted, rfl⟩, hreasons⟩
    exact ⟨haccepted, (Verdict.reasons_of_eq_nil _).mp hreasons⟩
  . rintro ⟨haccepted, hreasons⟩
    exact ⟨_, ⟨(), haccepted, rfl⟩, (Verdict.reasons_of_eq_nil _).mpr hreasons⟩

theorem critiques_satisfied {plan : BlindedEvaluationPlan} {expected : List RecordReference}
    {critiques : List IndependentCritique} {declarations : List IndependenceDeclaration}
    : (∃ verdict, evaluateIndependentCritiqueIntegrity plan expected critiques declarations instant
          = .ok verdict ∧ verdict.reasons = [])
      ↔ (declarations.map (·.independenceDeclarationId)).Nodup
        ∧ critiqueIntegrityReasons plan expected critiques declarations instant = [] := by
  simp only [evaluateIndependentCritiqueIntegrity, bind_eq_ok, failIf_eq_ok, not_not, pure_eq_ok]
  constructor
  . rintro ⟨_, ⟨_, hnodup, rfl⟩, hreasons⟩
    exact ⟨hnodup, (Verdict.reasons_of_eq_nil _).mp hreasons⟩
  . rintro ⟨hnodup, hreasons⟩
    exact ⟨_, ⟨(), hnodup, rfl⟩, (Verdict.reasons_of_eq_nil _).mpr hreasons⟩

theorem quorum_satisfied {protocol : HumanReviewProtocol} {reviews : List HumanReviewRecord}
    {declarations : List HumanReviewerIndependence}
    : (∃ verdict, evaluateHumanReviewQuorum protocol reviews declarations instant = .ok verdict
        ∧ verdict.reasons = [])
      ↔ (declarations.map (·.declarationId)).Nodup
        ∧ quorumReasons protocol reviews declarations instant = [] := by
  simp only [evaluateHumanReviewQuorum, bind_eq_ok, failIf_eq_ok, not_not, pure_eq_ok]
  constructor
  . rintro ⟨_, ⟨_, hnodup, rfl⟩, hreasons⟩
    exact ⟨hnodup, (Verdict.reasons_of_eq_nil _).mp hreasons⟩
  . rintro ⟨hnodup, hreasons⟩
    exact ⟨_, ⟨(), hnodup, rfl⟩, (Verdict.reasons_of_eq_nil _).mpr hreasons⟩

theorem qualificationReasons_eq_nil {qualification : QualificationGraph}
    : qualificationReasons instant qualification = []
      ↔ qualification.applicabilityReasons instant = []
        ∧ ¬includesCriticalInjectionFailure qualification.report.criticalScenarioFailures = true := by
  rw [qualificationReasons, List.append_eq_nil_iff, addQualificationReasons, List.map_eq_nil_iff,
    evaluateModelQualificationApplicability, Verdict.reasons_of_eq_nil, flag_eq_nil]

structure EligibleCritic (scope : EvidenceScope) (definition : ModelAssuranceAssessmentInput)
    (graph : AssessmentGraph) (instant : UtcMillisecondTimestamp)
    (critic : IndependentCritique × QualificationGraph) : Prop where
  applicable : critic.2.applicabilityReasons instant = []
  injection : ¬includesCriticalInjectionFailure critic.2.report.criticalScenarioFailures = true
  context : (compatibilityContext scope definition graph critic.1.criterion critic.1.evaluator
    critic.2.calibration.qualificationReport).Accepted
  compatible : compatibilityReasons critic.2.profile critic.2.calibration
    (compatibilityContext scope definition graph critic.1.criterion critic.1.evaluator
      critic.2.calibration.qualificationReport) instant = []
  lineage : CriticLineage critic.1 critic.2.report

theorem criticReasons_eq_nil {critic : IndependentCritique × QualificationGraph}
    : criticReasons scope definition graph instant critic = .ok []
      ↔ EligibleCritic scope definition graph instant critic := by
  unfold criticReasons
  simp only [bind_eq_ok, pure_eq_ok, List.append_eq_nil_iff, qualificationReasons_eq_nil,
    addCalibrationReasons, List.map_eq_nil_iff, flag_eq_nil, not_not]
  constructor
  . rintro ⟨verdict, hverdict, ⟨⟨happlicable, hinjection⟩, hreasons⟩, hlineage⟩
    rcases calibration_compatible.mp ⟨verdict, hverdict, hreasons⟩ with ⟨hcontext, hcompatible⟩
    exact ⟨happlicable, hinjection, hcontext, hcompatible, hlineage⟩
  . intro h
    rcases calibration_compatible.mpr ⟨h.context, h.compatible⟩ with ⟨verdict, hverdict, hreasons⟩
    exact ⟨verdict, hverdict, ⟨⟨h.applicable, h.injection⟩, hreasons⟩, h.lineage⟩

structure Eligible (scope : EvidenceScope) (definition : ModelAssuranceAssessmentInput)
    (graph : AssessmentGraph) (instant : UtcMillisecondTimestamp) : Prop where
  base : baseReasons definition graph = []
  applicable : graph.primary.applicabilityReasons instant = []
  injection : ¬includesCriticalInjectionFailure graph.primary.report.criticalScenarioFailures = true
  critics : ∀ critic ∈ graph.critics, EligibleCritic scope definition graph instant critic
  context : (compatibilityContext scope definition graph graph.base.assessment.criterion
    graph.primary.calibration.evaluator graph.primary.calibration.qualificationReport).Accepted
  compatible : compatibilityReasons graph.primary.profile graph.primary.calibration
    (compatibilityContext scope definition graph graph.base.assessment.criterion
      graph.primary.calibration.evaluator graph.primary.calibration.qualificationReport) instant = []
  blind : addBlindReasons (evaluateBlindedResultIntegrity graph.primary.plan graph.blindResult).reasons = []
  critiques_ne : ¬definition.critiques = []
  declarations : (graph.declarations.map (·.independenceDeclarationId)).Nodup
  critiques : critiqueIntegrityReasons graph.primary.plan definition.critiques graph.critiques
    graph.declarations instant = []
  reviews : ¬graph.reviews.length = 0
  humanDeclarations : (graph.humanDeclarations.map (·.declarationId)).Nodup
  quorum : quorumReasons graph.protocol graph.reviews graph.humanDeclarations instant = []
  protocol : protocolReasons definition graph = []
  lineage : lineageReasons definition graph = []

theorem ineligibilityReasons_eq_nil
    : ineligibilityReasons scope definition graph instant = .ok []
      ↔ Eligible scope definition graph instant := by
  unfold ineligibilityReasons
  simp only [bind_eq_ok, pure_eq_ok, List.append_eq_nil_iff, qualificationReasons_eq_nil,
    addCalibrationReasons, addCritiqueReasons, addHumanReasons, List.map_eq_nil_iff, flag_eq_nil,
    List.flatten_eq_nil_iff]
  constructor
  . rintro ⟨critics, hcritics, calibration, hcalibration, critiques, hcritiques, quorum, hquorum,
      ⟨⟨⟨⟨⟨⟨⟨⟨⟨hbase, happlicable, hinjection⟩, hnil⟩, hcompatible⟩, hblind⟩, hne⟩, hintegrity⟩, hreviews⟩,
        hhuman⟩, hprotocol⟩, hlineage⟩
    rcases calibration_compatible.mp ⟨calibration, hcalibration, hcompatible⟩ with ⟨hcontext, hreasons⟩
    rcases critiques_satisfied.mp ⟨critiques, hcritiques, hintegrity⟩ with ⟨hdeclarations, hcritiques⟩
    rcases quorum_satisfied.mp ⟨quorum, hquorum, hhuman⟩ with ⟨hhumans, hquorum⟩
    refine ⟨hbase, happlicable, hinjection, ?_, hcontext, hreasons, hblind, hne, hdeclarations, hcritiques,
      hreviews, hhumans, hquorum, hprotocol, hlineage⟩
    intro critic hmem
    rcases forall_of_mapM hcritics hmem with ⟨reasons, hmem, hreasons⟩
    rw [hnil reasons hmem] at hreasons
    exact criticReasons_eq_nil.mp hreasons
  . intro h
    rcases calibration_compatible.mpr ⟨h.context, h.compatible⟩ with ⟨calibration, hcalibration, hcompatible⟩
    rcases critiques_satisfied.mpr ⟨h.declarations, h.critiques⟩ with ⟨critiques, hcritiques, hintegrity⟩
    rcases quorum_satisfied.mpr ⟨h.humanDeclarations, h.quorum⟩ with ⟨quorum, hquorum, hhuman⟩
    have hcritics : graph.critics.mapM (criticReasons scope definition graph instant)
        = .ok (graph.critics.map (fun _ => [])) :=
      mapM_of_forall (fun critic hmem => criticReasons_eq_nil.mpr (h.critics critic hmem))
    refine ⟨_, hcritics, calibration, hcalibration, critiques, hcritiques, quorum, hquorum,
      ⟨⟨⟨⟨⟨⟨⟨⟨⟨h.base, h.applicable, h.injection⟩, ?_⟩, hcompatible⟩, h.blind⟩, h.critiques_ne⟩, hintegrity⟩,
        h.reviews⟩, hhuman⟩, h.protocol⟩, h.lineage⟩
    intro reasons hmem
    rcases List.mem_map.mp hmem with ⟨_, _, rfl⟩
    rfl

end Eligible

section Validity

theorem exists_mem_minimumEligibleValidity (requested : UtcMillisecondTimestamp)
    (values : List UtcMillisecondTimestamp)
    : minimumEligibleValidity requested values ∈ requested :: values
      ∧ ∀ value ∈ requested :: values,
        (minimumEligibleValidity requested values).value ≤ value.value := by
  induction values generalizing requested with
  | nil => simp [minimumEligibleValidity]
  | cons first values ih =>
    rw [minimumEligibleValidity, List.foldl_cons]
    by_cases hlt : first.value < requested.value
    . rw [if_pos hlt]
      rcases ih first with ⟨hmem, hle⟩
      refine ⟨List.mem_cons_of_mem _ hmem, ?_⟩
      intro value hvalue
      rcases List.mem_cons.mp hvalue with rfl | hvalue
      . exact (hle first List.mem_cons_self).trans hlt.le
      . exact hle value hvalue
    . rw [if_neg hlt]
      rcases ih requested with ⟨hmem, hle⟩
      rw [not_lt] at hlt
      constructor
      . rcases List.mem_cons.mp hmem with hmem | hmem
        . exact List.mem_cons.mpr (Or.inl hmem)
        . exact List.mem_cons_of_mem _ (List.mem_cons_of_mem _ hmem)
      . intro value hvalue
        rcases List.mem_cons.mp hvalue with rfl | hvalue
        . exact hle _ List.mem_cons_self
        . rcases List.mem_cons.mp hvalue with rfl | hvalue
          . exact (hle requested List.mem_cons_self).trans hlt
          . exact hle value (List.mem_cons_of_mem _ hvalue)

variable {evaluations : EvaluationRepository} {assurances : ModelAssuranceRepository} {scope : EvidenceScope}
    {recordId : String} {definition : ModelAssuranceAssessmentInput} {graph : AssessmentGraph}
    {before after : UtcMillisecondTimestamp}

theorem critic_listed {critic : IndependentCritique × QualificationGraph} (hmem : critic ∈ graph.critics)
    {validUntil : UtcMillisecondTimestamp} (h : validUntil ∈ critic.2.validUntils)
    : validUntil ∈ listedValidUntils graph :=
  List.mem_append_right _ (List.mem_flatMap.mpr ⟨critic, hmem, h⟩)

theorem critiqueDeclaration_eq (hread : ReadFrom assurances scope graph)
    (h : Eligible scope definition graph before) {critic : IndependentCritique × QualificationGraph}
    (hmem : critic ∈ graph.critics) {declaration : IndependenceDeclaration}
    (hdeclaration : declaration ∈ critiqueDeclaration critic.1 graph.declarations)
    : declaration = critic.2.independence := by
  have hlookup := lookup_eq_some (Option.mem_filter_iff.mp hdeclaration).1
  have hfind := hread.declarations declaration hlookup.1
  have hcritic := hread.critics critic hmem
  rw [(h.critics critic hmem).lineage.2.2.1, ← hlookup.2, hfind] at hcritic
  exact Option.some.inj hcritic

theorem Eligible.later (hread : ReadFrom assurances scope graph) (h : Eligible scope definition graph before)
    (hle : before.value ≤ after.value)
    (hlt : ∀ validUntil ∈ listedValidUntils graph, after.value < validUntil.value)
    (hprimary : ∀ primary ∈ primaryDeclaration graph.primary.plan graph.declarations,
      after.value < primary.validity.validUntil.value)
    : Eligible scope definition graph after := by
  have hlisted : ∀ validUntil ∈ graph.primary.validUntils, after.value < validUntil.value := by
    intro validUntil hmem
    simp only [listedValidUntils, List.append_assoc] at hlt
    exact hlt validUntil (List.mem_append_left _ hmem)
  have hcritics : ∀ critic ∈ graph.critics, ∀ validUntil ∈ critic.2.validUntils,
      after.value < validUntil.value :=
    fun critic hmem validUntil hvalid => hlt validUntil (critic_listed hmem hvalid)
  constructor
  case base => exact h.base
  case applicable => exact applicabilityReasons_of_later h.applicable hle hlisted
  case injection => exact h.injection
  case critics =>
    intro critic hmem
    have hcritic := h.critics critic hmem
    have hvalid := hcritics critic hmem
    refine ⟨applicabilityReasons_of_later hcritic.applicable hle hvalid, hcritic.injection,
      hcritic.context, ?_, hcritic.lineage⟩
    exact compatibilityReasons_of_later hcritic.compatible hle
      (hvalid _ (by simp [QualificationGraph.validUntils]))
      (hvalid _ (by simp [QualificationGraph.validUntils]))
  case context => exact h.context
  case compatible =>
    exact compatibilityReasons_of_later h.compatible hle
      (hlisted _ (by simp [QualificationGraph.validUntils]))
      (hlisted _ (by simp [QualificationGraph.validUntils]))
  case blind => exact h.blind
  case critiques_ne => exact h.critiques_ne
  case declarations => exact h.declarations
  case critiques =>
    refine critiqueIntegrityReasons_of_later h.critiques hle hprimary ?_
    intro critique hmem declaration hdeclaration
    rcases List.mem_map.mp hmem with ⟨critic, hcritic, rfl⟩
    rw [critiqueDeclaration_eq hread h hcritic hdeclaration]
    exact hcritics critic hcritic _ (by simp [QualificationGraph.validUntils])
  case reviews => exact h.reviews
  case humanDeclarations => exact h.humanDeclarations
  case quorum =>
    refine quorumReasons_of_later h.quorum hle (hlt _ ?_) ?_ ?_
    . simp [listedValidUntils]
    . intro review hmem
      refine hlt _ ?_
      simp only [listedValidUntils, List.mem_append, List.mem_map]
      exact Or.inl (Or.inr ⟨review, hmem, rfl⟩)
    . intro declaration hmem
      refine hlt _ ?_
      simp only [listedValidUntils, List.mem_append, List.mem_map]
      exact Or.inl (Or.inl (Or.inr ⟨declaration, hmem, rfl⟩))
  case protocol => exact h.protocol
  case lineage => exact h.lineage

theorem Eligible.exists_critique (h : Eligible scope definition graph before)
    : ∃ critique, critique ∈ graph.critiques := by
  have hreasons := h.critiques
  simp only [critiqueIntegrityReasons, List.append_eq_nil_iff, List.flatMap_eq_nil_iff, flag_eq_nil]
    at hreasons
  rcases List.exists_mem_of_ne_nil _ h.critiques_ne with ⟨reference, hmem⟩
  have hmissing := hreasons.1.1.1.2 reference hmem
  cases hlookup : lookup (·.critiqueId) graph.critiques reference.id with
  | none =>
    rw [hlookup] at hmissing
    exact absurd rfl hmissing
  | some critique => exact ⟨critique, (lookup_eq_some hlookup).1⟩

theorem Eligible.primary_current (h : Eligible scope definition graph before)
    : ∃ primary ∈ primaryDeclaration graph.primary.plan graph.declarations,
        primary.validity.current before := by
  rcases h.exists_critique with ⟨critique, hmem⟩
  have hreasons := h.critiques
  simp only [critiqueIntegrityReasons, List.append_eq_nil_iff, List.flatMap_eq_nil_iff, flag_eq_nil]
    at hreasons
  rcases hreasons with ⟨⟨_, hsome⟩, hcritiques⟩
  have hcritique := hcritiques critique hmem
  simp only [critiqueReasons, List.append_eq_nil_iff] at hcritique
  have hcomparison := hcritique.1.2
  cases hprimary : primaryDeclaration graph.primary.plan graph.declarations with
  | none =>
    rw [hprimary] at hsome
    exact absurd rfl hsome
  | some primary =>
    rw [hprimary] at hcomparison
    cases hdeclaration : critiqueDeclaration critique graph.declarations with
    | none =>
      rw [hdeclaration] at hcomparison
      contradiction
    | some declaration =>
      rw [hdeclaration] at hcomparison
      exact ⟨primary, rfl, comparisonReasons_current hcomparison⟩

end Validity

end Assurance
end ProofStack
