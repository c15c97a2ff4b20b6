import Mathlib.Data.List.Forall2
import ProofStack.Contracts.Comparison.Case
import ProofStack.Evaluation.ComparisonPairing

/-!
This module contains what the pairing of evidence does.
-/

namespace ProofStack

theorem isStrictlySortedUnique.nodup {values : List String} (h : isStrictlySortedUnique values)
    : values.Nodup := by
  have hpairwise := List.isChain_iff_pairwise.mp h
  exact hpairwise.imp fun hlt heq => absurd hlt (by rw [heq]; exact lt_irrefl _)

namespace Evaluation

open Checks Comparison Reasons Sequence
open Assurance (RecordReference)
open Datasets (RegressionFixtureVersionReference)

variable {isNFC : String → Bool}

section OrderedReasons

variable {ρ : Type} [DecidableEq ρ] {text : ρ → String}

@[simp]
theorem orderedReasons_eq_nil {reasons : List ρ} : orderedReasons text reasons = [] ↔ reasons = [] := by
  unfold orderedReasons
  rw [← List.dedup_eq_nil (l := reasons), ← List.length_eq_zero_iff, (sortBy_perm text _).length_eq,
    List.length_eq_zero_iff]

theorem orderedReasons_of_perm (htext : Function.Injective text) {reasons reasons' : List ρ}
    (h : reasons.Perm reasons')
    : orderedReasons text reasons = orderedReasons text reasons' := by
  apply sortBy_eq_of_perm
  . exact (List.nodup_dedup reasons).map htext
  . exact h.dedup

end OrderedReasons

theorem invalidCaseReason_text_injective : Function.Injective ComparisonInvalidCaseReason.text := by
  intro left right h
  cases left <;> cases right <;> first | rfl | exact absurd h (by decide)

theorem sameStringSet_iff {left right : List String} : sameStringSet left right = true ↔ left.Perm right := by
  unfold sameStringSet
  rw [decide_eq_true_eq]
  constructor
  . intro h
    have hleft := sortBy_perm id left
    rw [h] at hleft
    exact hleft.symm.trans (sortBy_perm id right)
  . intro h
    have hsorted (values : List String) : (sortBy id values).Pairwise (fun value other => value ≤ other) :=
      List.pairwise_insertionSort _ values
    have hperm := (sortBy_perm id left).trans (h.trans (sortBy_perm id right).symm)
    exact hperm.eq_of_pairwise' (hsorted left) (hsorted right)

structure Retains (expected : ComparisonSubjectFixture) (actual : ComparisonEvidenceFixtureSnapshot)
    : Prop where
  fixture : actual.fixture = expected.fixture
  replay : actual.replay = expected.replay
  assessments : ∀ reference,
    reference ∈ actual.assurance.filterMap (·.assessmentReference?) ↔ reference ∈ expected.assessments
  modelAssurance : ∀ reference, reference ∈ actual.assurance.filterMap (·.modelAssuranceReference?)
    ↔ reference ∈ expected.modelAssuranceAssessments
  outcomes : ∀ outcome ∈ actual.evaluationOutcomes, outcome.assessment ∈ expected.assessments

theorem mem_of_key_mem {references : List RecordReference} {reference : RecordReference}
    (hreferences : ∀ other ∈ references, Comparison.RecordReference.Accepted other)
    (hreference : Comparison.RecordReference.Accepted reference)
    : reference.key ∈ references.map (·.key) ↔ reference ∈ references := by
  constructor
  . intro h
    rcases List.mem_map.mp h with ⟨other, hother, hkey⟩
    rw [← recordKey_inj (hreferences other hother) hreference hkey]
    exact hother
  . exact List.mem_map_of_mem

theorem mem_iff_of_perm_keys {left right : List RecordReference}
    (hleft : ∀ other ∈ left, Comparison.RecordReference.Accepted other)
    (hright : ∀ other ∈ right, Comparison.RecordReference.Accepted other)
    (h : (left.map (·.key)).Perm (right.map (·.key))) (reference : RecordReference)
    : reference ∈ left ↔ reference ∈ right := by
  constructor
  . intro hmem
    rw [← mem_of_key_mem hright (hleft reference hmem), ← h.mem_iff]
    exact List.mem_map_of_mem hmem
  . intro hmem
    rw [← mem_of_key_mem hleft (hright reference hmem), h.mem_iff]
    exact List.mem_map_of_mem hmem

variable {actual : ComparisonEvidenceFixtureSnapshot}

theorem assessmentReferences_accepted
    (h : actual.Accepted isNFC)
    : ∀ reference ∈ actual.assurance.filterMap (·.assessmentReference?),
        Comparison.RecordReference.Accepted reference := by
  intro reference hreference
  rcases List.mem_filterMap.mp hreference with ⟨state, hstate, heq⟩
  have haccepted := h.assurance state hstate
  cases state with
  | assessment eligible reasons other =>
    cases heq
    exact haccepted.2.1
  | modelAssurance eligible reasons other => cases heq

theorem modelAssuranceReferences_accepted
    (h : actual.Accepted isNFC)
    : ∀ reference ∈ actual.assurance.filterMap (·.modelAssuranceReference?),
        Comparison.RecordReference.Accepted reference := by
  intro reference hreference
  rcases List.mem_filterMap.mp hreference with ⟨state, hstate, heq⟩
  have haccepted := h.assurance state hstate
  cases state with
  | assessment eligible reasons other => cases heq
  | modelAssurance eligible reasons other =>
    cases heq
    exact haccepted.2.1

theorem fixture_eq_iff {left right : RegressionFixtureVersionReference}
    : left = right ↔ left.fixtureId = right.fixtureId ∧ left.fixtureVersionId = right.fixtureVersionId
        ∧ left.definitionSha256 = right.definitionSha256 := by
  rcases left with ⟨⟨_, _⟩, _⟩
  rcases right with ⟨⟨_, _⟩, _⟩
  simp [and_assoc]

theorem retains_of_no_reasons {expected : ComparisonSubjectFixture}
    (hexpected : expected.Accepted)
    (hactual : actual.Accepted isNFC) (h : fixtureIntegrityReasons expected actual = [])
    : Retains expected actual := by
  simp only [fixtureIntegrityReasons, orderedReasons_eq_nil, List.append_eq_nil_iff, flag_eq_nil, not_not,
    sameStringSet_iff, List.any_eq_true, not_exists, decide_eq_true_eq] at h
  rcases h with ⟨⟨⟨⟨hfixture, hreplay⟩, hassessments⟩, houtcomes⟩, hmodelAssurance⟩
  split at hfixture
  . cases hfixture
  . next hids =>
    rw [not_or, not_not, not_not] at hids
    rw [flag_eq_nil, not_not] at hfixture
    refine ⟨fixture_eq_iff.mpr ⟨hids.1.symm, hids.2.symm, hfixture.symm⟩, hreplay.symm, ?_, ?_, ?_⟩
    . exact fun reference => (mem_iff_of_perm_keys hexpected.assessments.1
        (assessmentReferences_accepted hactual) hassessments reference).symm
    . exact fun reference => (mem_iff_of_perm_keys hexpected.modelAssuranceAssessments.1
        (modelAssuranceReferences_accepted hactual) hmodelAssurance reference).symm
    . intro outcome houtcome
      have hkey := houtcomes outcome
      rw [not_and, not_not] at hkey
      have haccepted := (hactual.evaluationOutcomes outcome houtcome).1
      exact (mem_of_key_mem hexpected.assessments.1 haccepted).mp (hkey houtcome)

structure PairingRow where
  fixtureId : String
  baselineExpected : Option ComparisonSubjectFixture
  candidateExpected : Option ComparisonSubjectFixture
  baselineActual : Option ComparisonEvidenceFixtureSnapshot
  candidateActual : Option ComparisonEvidenceFixtureSnapshot

namespace PairingRow

def reasons (row : PairingRow) : List ComparisonInvalidCaseReason :=
  orderedReasons ComparisonInvalidCaseReason.text
    (sideReasons row.baselineExpected row.baselineActual
      ++ sideReasons row.candidateExpected row.candidateActual)

def case (row : PairingRow) : ComparisonCase :=
  match row.baselineActual, row.candidateActual with
  | none, none =>
    .invalid (row.baselineExpected.map (·.fixture)) (row.candidateExpected.map (·.fixture)) row.fixtureId
      [.unresolvedLineage]
  | some baseline, none =>
    if row.reasons ≠ [] then
      .invalid (some baseline.fixture) (row.candidateExpected.map (·.fixture)) row.fixtureId row.reasons
    else .baselineOnly baseline.fixture (missingReason row.candidateExpected) row.fixtureId
  | none, some candidate =>
    if row.reasons ≠ [] then
      .invalid (row.baselineExpected.map (·.fixture)) (some candidate.fixture) row.fixtureId row.reasons
    else .candidateOnly (missingReason row.baselineExpected) candidate.fixture row.fixtureId
  | some baseline, some candidate =>
    if row.reasons ≠ [] then
      .invalid (some baseline.fixture) (some candidate.fixture) row.fixtureId row.reasons
    else .paired baseline.fixture candidate.fixture row.fixtureId

def exchange (row : PairingRow) : PairingRow where
  fixtureId := row.fixtureId
  baselineExpected := row.candidateExpected
  candidateExpected := row.baselineExpected
  baselineActual := row.candidateActual
  candidateActual := row.baselineActual

end PairingRow

theorem caseForFixture_eq (row : PairingRow)
    : caseForFixture row.fixtureId row.baselineExpected row.candidateExpected row.baselineActual
        row.candidateActual
        = parseCase row.case := by
  unfold caseForFixture PairingRow.case PairingRow.reasons
  cases row.baselineActual <;> cases row.candidateActual <;> simp only [Option.map_none, Option.map_some,
    Option.none_or, Option.some_or, ne_eq] <;> split <;> rfl

theorem reasons_exchange (row : PairingRow) : row.exchange.reasons = row.reasons :=
  orderedReasons_of_perm invalidCaseReason_text_injective List.perm_append_comm

theorem case_paired {row : PairingRow} (h : row.case.state = .paired)
    : ∃ baseline candidate, row.baselineActual = some baseline ∧ row.candidateActual = some candidate
        ∧ sideReasons row.baselineExpected row.baselineActual = []
        ∧ sideReasons row.candidateExpected row.candidateActual = []
        ∧ row.case = .paired baseline.fixture candidate.fixture row.fixtureId := by
  unfold PairingRow.case at h ⊢
  split at h <;> try split at h
  all_goals cases h
  next baseline candidate hbaseline hcandidate hreasons =>
    rw [not_not] at hreasons
    have hsides := hreasons
    rw [PairingRow.reasons, orderedReasons_eq_nil, List.append_eq_nil_iff] at hsides
    refine ⟨baseline, candidate, hbaseline, hcandidate, hsides.1, hsides.2, ?_⟩
    rw [if_neg (not_not.mpr hreasons)]

def pairingRow (input : PairComparisonEvidenceInput) (fixtureId : String) : PairingRow where
  fixtureId := fixtureId
  baselineExpected := expectedFixture input.comparison.baseline.fixtures fixtureId
  candidateExpected := expectedFixture input.comparison.candidate.fixtures fixtureId
  baselineActual := actualFixture input.baseline.fixtures fixtureId
  candidateActual := actualFixture input.candidate.fixtures fixtureId

def pairingRows (input : PairComparisonEvidenceInput) : List PairingRow :=
  (pairingFixtureIds input.comparison).map (pairingRow input)

open ComparisonComparabilityReason in
def comparabilityReasons (comparison : ComparisonDefinition) (cases : List ComparisonCase)
    (assurance : List ComparisonAssuranceState)
    : List ComparisonComparabilityReason :=
  flag (exactDatasetKey comparison.baseline.dataset ≠ exactDatasetKey comparison.candidate.dataset)
      datasetMismatch
    ++ flag (countState cases .paired * 10000 < cases.length * comparison.minimumPairedCoverageBasisPoints)
      insufficientPairedCoverage
    ++ flag (cases.any (·.state = .invalid)) invalidSourceIntegrity
    ++ flag (cases.any (fun entry => entry.state = .baselineOnly ∨ entry.state = .candidateOnly))
      missingSourceEvidence
    ++ flag (cases.any isFixtureMismatch) fixtureMismatch
    ++ flag (assurance.any criticalCounterevidence) unresolvedCriticalCounterevidence
    ++ flag (assurance.any unsupportedAssumptions) unsupportedStatisticalAssumptions

def comparabilityOf (reasons : List ComparisonComparabilityReason) (paired : Nat)
    : ComparisonComparability where
  reasons := reasons
  status :=
    if reasons = [] then .comparable
    else if paired = 0 ∨ .unresolvedCriticalCounterevidence ∈ reasons then .incomparable
    else .partiallyComparable

@[mk_iff]
structure SnapshotOf (isNFC : String → Bool) (comparison : ComparisonDefinition)
    (snapshot : ComparisonEvidenceSnapshot) (role : ComparisonRole) : Prop where
  accepted : snapshot.Accepted isNFC
  ownRole : snapshot.role = role
  ownScope : snapshot.scope = comparison.scope
  reference : snapshot.comparison = comparison.exactComparisonReference
  dataset : snapshot.dataset = (subjectOf comparison role).dataset
  expected : ∀ fixture ∈ snapshot.fixtures,
    expectedFixture (subjectOf comparison role).fixtures fixture.fixture.fixtureId ≠ none

structure PairsTo (isNFC : String → Bool) (input : PairComparisonEvidenceInput)
    (result : ComparisonPairingResult) : Prop where
  comparison : input.comparison.Accepted isNFC
  baseline : SnapshotOf isNFC input.comparison input.baseline .baseline
  candidate : SnapshotOf isNFC input.comparison input.candidate .candidate
  distinct : input.baseline.snapshotId ≠ input.candidate.snapshotId
  cases : result.cases = (pairingRows input).map (·.case)
  cases_accepted : ∀ entry ∈ result.cases, entry.Accepted
  pairing : result.pairing = pairingSummary result.cases
  pairing_accepted : result.pairing.Accepted
  comparability : result.comparability
    = comparabilityOf (orderedReasons ComparisonComparabilityReason.text
        (comparabilityReasons input.comparison result.cases
          (assuranceOf input.baseline ++ assuranceOf input.candidate)))
      (countState result.cases .paired)
  comparability_accepted : result.comparability.Accepted

theorem parseCase_eq_ok {value entry : ComparisonCase}
    : parseCase value = .ok entry ↔ value.Accepted ∧ value = entry :=
  parseWith_eq_ok

theorem mapM_parseCase {rows : List PairingRow} {cases : List ComparisonCase}
    : rows.mapM (fun row => parseCase row.case) = .ok cases
        ↔ cases = rows.map (·.case) ∧ ∀ entry ∈ cases, entry.Accepted := by
  induction rows generalizing cases with
  | nil =>
    simp only [List.mapM_nil, pure_eq_ok, List.map_nil]
    constructor
    . rintro rfl
      exact ⟨rfl, by simp⟩
    . rintro ⟨rfl, _⟩
      rfl
  | cons row rows ih =>
    simp only [List.mapM_cons, bind_eq_ok, ih, parseCase_eq_ok, pure_eq_ok, List.map_cons]
    constructor
    . rintro ⟨_, ⟨hrow, rfl⟩, _, ⟨rfl, hrows⟩, rfl⟩
      refine ⟨rfl, ?_⟩
      rw [List.forall_mem_cons]
      exact ⟨hrow, hrows⟩
    . rintro ⟨rfl, haccepted⟩
      rw [List.forall_mem_cons] at haccepted
      exact ⟨_, ⟨haccepted.1, rfl⟩, _, ⟨rfl, haccepted.2⟩, rfl⟩

theorem mapM_deriveCase {baseline candidate : ComparisonEvidenceSnapshot} {comparison : ComparisonDefinition}
    {cases : List ComparisonCase}
    : (pairingFixtureIds comparison).mapM (deriveCase ⟨baseline, candidate, comparison⟩) = .ok cases
        ↔ cases = (pairingRows ⟨baseline, candidate, comparison⟩).map (·.case)
          ∧ ∀ entry ∈ cases, entry.Accepted := by
  rw [← mapM_parseCase, pairingRows, List.mapM_map]
  have hderive : deriveCase ⟨baseline, candidate, comparison⟩
      = fun fixtureId => parseCase (pairingRow ⟨baseline, candidate, comparison⟩ fixtureId).case := by
    funext fixtureId
    exact caseForFixture_eq (pairingRow ⟨baseline, candidate, comparison⟩ fixtureId)
  rw [hderive]
  rfl

theorem assertSnapshot_eq_ok {comparison : ComparisonDefinition} {snapshot : ComparisonEvidenceSnapshot}
    {role : ComparisonRole}
    : SnapshotOf isNFC comparison snapshot role
        ↔ (snapshot.Accepted isNFC ∧ snapshot.role = role)
          ∧ assertSnapshotEnvelope comparison snapshot role = .ok ()
          ∧ assertNoUnexpectedFixtures (subjectOf comparison role).fixtures snapshot.fixtures role = .ok () := by
  simp only [assertSnapshotEnvelope, assertNoUnexpectedFixtures, bind_eq_ok, failIf_eq_ok, not_not,
    not_exists, not_and, snapshotOf_iff, exists_const, ne_eq]
  tauto

theorem pairComparisonEvidence_eq_ok {input : PairComparisonEvidenceInput}
    {result : ComparisonPairingResult}
    : pairComparisonEvidence isNFC input = .ok result ↔ PairsTo isNFC input result := by
  unfold pairComparisonEvidence
  simp only [bind_eq_ok, parseComparison, parseSnapshot, parseWith_eq_ok, failIf_eq_ok, not_not, pure_eq_ok,
    mapM_deriveCase, deriveComparability]
  constructor
  . rintro ⟨_, ⟨hcomparison, rfl⟩, _, ⟨_, ⟨hbaseline, rfl⟩, _, hbaselineRole, rfl⟩, _,
      ⟨_, ⟨hcandidate, rfl⟩, _, hcandidateRole, rfl⟩, _, hbaselineEnvelope, _, hcandidateEnvelope, _, hdistinct,
      _, hbaselineExpected, _, hcandidateExpected, cases, ⟨hcases, haccepted⟩, _, ⟨hpairing, rfl⟩, _,
      ⟨hcomparability, rfl⟩, rfl⟩
    exact {
      comparison := hcomparison
      baseline := assertSnapshot_eq_ok.mpr ⟨⟨hbaseline, hbaselineRole⟩, hbaselineEnvelope, hbaselineExpected⟩
      candidate :=
        assertSnapshot_eq_ok.mpr ⟨⟨hcandidate, hcandidateRole⟩, hcandidateEnvelope, hcandidateExpected⟩
      distinct := hdistinct
      cases := hcases
      cases_accepted := haccepted
      pairing := rfl
      pairing_accepted := hpairing
      comparability := rfl
      comparability_accepted := hcomparability }
  . intro h
    rcases assertSnapshot_eq_ok.mp h.baseline with ⟨⟨hbaseline, hbaselineRole⟩, henvelope, hexpected⟩
    rcases assertSnapshot_eq_ok.mp h.candidate with ⟨⟨hcandidate, hcandidateRole⟩, henvelope', hexpected'⟩
    have hpairing := h.pairing_accepted
    have hcomparability := h.comparability_accepted
    rw [h.pairing] at hpairing
    rw [h.comparability] at hcomparability
    refine ⟨_, ⟨h.comparison, rfl⟩, _, ⟨_, ⟨hbaseline, rfl⟩, (), hbaselineRole, rfl⟩, _,
      ⟨_, ⟨hcandidate, rfl⟩, (), hcandidateRole, rfl⟩, (), henvelope, (), henvelope', (), h.distinct,
      (), hexpected, (), hexpected', result.cases, ⟨h.cases, h.cases_accepted⟩, _, ⟨hpairing, rfl⟩, _,
      ⟨hcomparability, rfl⟩, ?_⟩
    rw [← h.pairing, ComparisonPairingResult.mk.injEq]
    exact ⟨rfl, h.comparability.symm, rfl⟩

end Evaluation
end ProofStack
