import ProofStack.Evaluation.ComparisonPairingLemmas

/-!
This module contains the contract of the pairing.
-/

namespace ProofStack
namespace Evaluation

open Checks Comparison Reasons Sequence
open Assurance (RecordReference)
open Datasets (RegressionFixtureVersionReference)

variable {isNFC : String → Bool} {input : PairComparisonEvidenceInput} {result : ComparisonPairingResult}

theorem expectedFixture_accepted {subject : ComparisonSubject} {fixtureId : String}
    {expected : ComparisonSubjectFixture} (hsubject : subject.Accepted)
    (h : expectedFixture subject.fixtures fixtureId = some expected)
    : expected.Accepted ∧ expected.fixture.fixtureId = fixtureId := by
  rcases lookup_eq_some h with ⟨hmem, hkey⟩
  exact ⟨hsubject.fixtures expected hmem, hkey⟩

variable {actual : ComparisonEvidenceFixtureSnapshot}

theorem actualFixture_accepted {snapshot : ComparisonEvidenceSnapshot} {fixtureId : String}
    (hsnapshot : snapshot.Accepted isNFC)
    (h : actualFixture snapshot.fixtures fixtureId = some actual)
    : actual.Accepted isNFC ∧ actual.fixture.fixtureId = fixtureId := by
  rcases lookup_eq_some h with ⟨hmem, hkey⟩
  exact ⟨hsnapshot.fixtures actual hmem, hkey⟩

theorem subjectOf_accepted {comparison : ComparisonDefinition} (h : comparison.Accepted isNFC)
    (role : ComparisonRole)
    : (subjectOf comparison role).Accepted := by
  cases role with
  | baseline => exact h.baseline
  | candidate => exact h.candidate

theorem side_retains {role : ComparisonRole} {snapshot : ComparisonEvidenceSnapshot} {fixtureId : String}
    {comparison : ComparisonDefinition}
    (hcomparison : comparison.Accepted isNFC) (h : SnapshotOf isNFC comparison snapshot role)
    (hactual : actualFixture snapshot.fixtures fixtureId = some actual)
    (hreasons : sideReasons (expectedFixture (subjectOf comparison role).fixtures fixtureId)
      (some actual) = [])
    : ∃ expected, expectedFixture (subjectOf comparison role).fixtures fixtureId = some expected
        ∧ Retains expected actual := by
  rcases lookup_eq_some hactual with ⟨hmem, hkey⟩
  have hdeclared := h.expected actual hmem
  rw [hkey] at hdeclared
  rcases Option.ne_none_iff_exists'.mp hdeclared with ⟨expected, hexpected⟩
  rw [hexpected] at hreasons
  have hsubject := subjectOf_accepted hcomparison role
  exact ⟨expected, hexpected, retains_of_no_reasons (expectedFixture_accepted hsubject hexpected).1
    (actualFixture_accepted h.accepted hactual).1 hreasons⟩

structure PairedCase (row : PairingRow) : Prop where
  baseline : ∃ expected actual, row.baselineExpected = some expected ∧ row.baselineActual = some actual
    ∧ Retains expected actual
  candidate : ∃ expected actual, row.candidateExpected = some expected ∧ row.candidateActual = some actual
    ∧ Retains expected actual

theorem PairsTo.paired (h : PairsTo isNFC input result)
    : ∀ row ∈ pairingRows input, row.case.state = .paired → PairedCase row := by
  intro row hrow hstate
  rcases List.mem_map.mp hrow with ⟨fixtureId, _, rfl⟩
  rcases case_paired hstate with ⟨baseline, candidate, hbaseline, hcandidate, hbaselineReasons,
    hcandidateReasons, _⟩
  rw [hbaseline] at hbaselineReasons
  rw [hcandidate] at hcandidateReasons
  rcases side_retains h.comparison h.baseline hbaseline hbaselineReasons
    with ⟨baselineExpected, hbaselineExpected, hretains⟩
  rcases side_retains h.comparison h.candidate hcandidate hcandidateReasons
    with ⟨candidateExpected, hcandidateExpected, hretains'⟩
  exact ⟨⟨baselineExpected, baseline, hbaselineExpected, hbaseline, hretains⟩,
    ⟨candidateExpected, candidate, hcandidateExpected, hcandidate, hretains'⟩⟩

theorem PairsTo.comparable (h : PairsTo isNFC input result)
    (hstatus : result.comparability.status = .comparable)
    : (∀ entry ∈ result.cases, ∃ fixture fixtureId, entry = .paired fixture fixture fixtureId)
        ∧ input.comparison.baseline.dataset = input.comparison.candidate.dataset := by
  have hnone : comparabilityReasons input.comparison result.cases
      (assuranceOf input.baseline ++ assuranceOf input.candidate) = [] := by
    rw [h.comparability, comparabilityOf] at hstatus
    by_contra hsome
    rw [← @orderedReasons_eq_nil _ _ ComparisonComparabilityReason.text] at hsome
    simp only [if_neg hsome] at hstatus
    split at hstatus <;> cases hstatus
  simp only [comparabilityReasons, List.append_eq_nil_iff, flag_eq_nil, not_not, List.any_eq_true,
    not_exists, not_and, decide_eq_true_eq] at hnone
  rcases hnone with ⟨⟨⟨⟨⟨⟨hdataset, _⟩, hinvalid⟩, hmissing⟩, hmismatch⟩, _⟩, _⟩
  refine ⟨?_, datasetKey_inj h.comparison.baseline.dataset h.comparison.candidate.dataset hdataset⟩
  intro entry hentry
  cases entry with
  | paired baseline candidate fixtureId =>
    have haccepted := h.cases_accepted _ hentry
    have hkey := hmismatch _ hentry
    simp only [isFixtureMismatch, decide_eq_true_eq, not_not] at hkey
    have heq := fixtureReferenceKey_inj (haccepted.baseline baseline rfl) (haccepted.candidate candidate rfl) hkey
    exact ⟨baseline, fixtureId, by rw [← heq]⟩
  | baselineOnly => exact absurd (.inl rfl) (hmissing _ hentry)
  | candidateOnly => exact absurd (.inr rfl) (hmissing _ hentry)
  | invalid => exact absurd rfl (hinvalid _ hentry)

def exchangeCase : ComparisonCase → ComparisonCase
  | .paired baseline candidate fixtureId => .paired candidate baseline fixtureId
  | .baselineOnly baseline reason fixtureId => .candidateOnly reason baseline fixtureId
  | .candidateOnly reason candidate fixtureId => .baselineOnly candidate reason fixtureId
  | .invalid baseline candidate fixtureId reasons => .invalid candidate baseline fixtureId reasons

def exchangeSummary (summary : ComparisonPairingSummary) : ComparisonPairingSummary where
  baselineOnlyCount := summary.candidateOnlyCount
  candidateOnlyCount := summary.baselineOnlyCount
  invalidCount := summary.invalidCount
  pairedCount := summary.pairedCount
  requestedCount := summary.requestedCount

def exchangeDefinition (comparison : ComparisonDefinition) : ComparisonDefinition :=
  { comparison with
    baseline := comparison.candidate
    candidate := comparison.baseline }

def exchangeInput (input : PairComparisonEvidenceInput) : PairComparisonEvidenceInput where
  baseline := { input.candidate with role := .baseline }
  candidate := { input.baseline with role := .candidate }
  comparison := exchangeDefinition input.comparison

def exchangeResult (result : ComparisonPairingResult) : ComparisonPairingResult where
  cases := result.cases.map exchangeCase
  comparability := result.comparability
  pairing := exchangeSummary result.pairing

theorem case_exchange (row : PairingRow) : row.exchange.case = exchangeCase row.case := by
  have hreasons := reasons_exchange row
  unfold PairingRow.case
  rw [hreasons]
  unfold PairingRow.exchange
  dsimp only
  cases row.baselineActual <;> cases row.candidateActual <;> dsimp only [exchangeCase]
  all_goals
    by_cases hnone : row.reasons = []
    . simp [hnone]
    . simp [hnone]

@[simp]
theorem exchangeCase_baseline (entry : ComparisonCase) : (exchangeCase entry).baseline? = entry.candidate? := by
  cases entry <;> rfl

@[simp]
theorem exchangeCase_candidate (entry : ComparisonCase) : (exchangeCase entry).candidate? = entry.baseline? := by
  cases entry <;> rfl

@[simp]
theorem exchangeCase_fixtureId (entry : ComparisonCase) : (exchangeCase entry).fixtureId = entry.fixtureId := by
  cases entry <;> rfl

theorem exchangeCase_accepted {entry : ComparisonCase} (h : entry.Accepted) : (exchangeCase entry).Accepted := by
  have hissues := h.issues
  have hshape := h.shape
  refine ⟨?_, ?_, ?_, ?_, ?_⟩
  . rw [exchangeCase_baseline]
    exact h.candidate
  . rw [exchangeCase_candidate]
    exact h.baseline
  . rw [exchangeCase_fixtureId]
    exact h.fixtureId
  . cases entry with
    | invalid baseline candidate fixtureId reasons =>
      simp only [exchangeCase, ComparisonCase.shapeIssues, List.append_eq_nil_iff, issue_eq_nil] at hshape ⊢
      exact ⟨hshape.1, fun hboth => hshape.2 ⟨hboth.2, hboth.1⟩⟩
    | paired | baselineOnly | candidateOnly => rfl
  . rw [ComparisonCase.refineComparisonCase, issue_eq_nil, or_comm] at hissues ⊢
    rw [exchangeCase_baseline, exchangeCase_candidate, exchangeCase_fixtureId, or_comm]
    exact hissues

theorem exchangeDefinition_accepted {comparison : ComparisonDefinition} (h : comparison.Accepted isNFC)
    : (exchangeDefinition comparison).Accepted isNFC := by
  have hissues := h.issues
  have hids (fixtureId : String)
      : fixtureId ∈ (exchangeDefinition comparison).fixtureIds ↔ fixtureId ∈ comparison.fixtureIds := by
    unfold ComparisonDefinition.fixtureIds exchangeDefinition
    rw [List.mem_append, List.mem_append, or_comm]
  simp only [ComparisonDefinition.refineComparisonDefinition, ComparisonDefinition.refineComparisonPopulation,
    List.append_eq_nil_iff, issue_eq_nil] at hissues
  refine ⟨h.candidate, h.baseline, h.comparisonId, h.comparisonVersionId, h.definitionSha256, h.metrics,
    h.metrics_length, h.metrics_sorted, h.minimumPairedCoverageBasisPoints, h.scope, h.strata, h.strata_length,
    h.strata_sorted, ?_⟩
  simp only [ComparisonDefinition.refineComparisonDefinition, ComparisonDefinition.refineComparisonPopulation,
    List.append_eq_nil_iff, issue_eq_nil, hids]
  exact ⟨⟨hissues.1.1, fun heq => hissues.1.2 heq.symm⟩, hissues.2⟩

theorem withRole_accepted {snapshot : ComparisonEvidenceSnapshot} (h : snapshot.Accepted isNFC)
    (role : ComparisonRole)
    : ({ snapshot with role := role } : ComparisonEvidenceSnapshot).Accepted isNFC :=
  ⟨h.comparison, h.dataset, h.fixtures, h.fixtures_length, h.fixtures_sorted, h.omissions, h.omissions_length,
    h.omissions_sorted, h.scope, h.snapshotId, h.issues⟩

theorem snapshotOf_exchange_baseline (h : SnapshotOf isNFC input.comparison input.candidate .candidate)
    : SnapshotOf isNFC (exchangeInput input).comparison (exchangeInput input).baseline .baseline where
  accepted := withRole_accepted h.accepted _
  ownRole := rfl
  ownScope := h.ownScope
  reference := h.reference
  dataset := h.dataset
  expected := h.expected

theorem snapshotOf_exchange_candidate (h : SnapshotOf isNFC input.comparison input.baseline .baseline)
    : SnapshotOf isNFC (exchangeInput input).comparison (exchangeInput input).candidate .candidate where
  accepted := withRole_accepted h.accepted _
  ownRole := rfl
  ownScope := h.ownScope
  reference := h.reference
  dataset := h.dataset
  expected := h.expected

theorem pairingFixtureIds_exchange (comparison : ComparisonDefinition)
    : pairingFixtureIds (exchangeDefinition comparison) = pairingFixtureIds comparison := by
  apply sortBy_eq_of_perm
  . rw [List.map_id]
    exact List.nodup_dedup _
  . exact (List.perm_append_comm).dedup

theorem pairingRows_exchange (input : PairComparisonEvidenceInput)
    : pairingRows (exchangeInput input) = (pairingRows input).map PairingRow.exchange := by
  have hids : pairingFixtureIds (exchangeInput input).comparison = pairingFixtureIds input.comparison :=
    pairingFixtureIds_exchange input.comparison
  unfold pairingRows
  rw [hids, List.map_map]
  rfl

theorem cases_exchange (input : PairComparisonEvidenceInput)
    : (pairingRows (exchangeInput input)).map (·.case)
        = ((pairingRows input).map (·.case)).map exchangeCase := by
  rw [pairingRows_exchange, List.map_map, List.map_map]
  exact List.map_congr_left fun row _ => case_exchange row

def exchangeState : ComparisonCaseState → ComparisonCaseState
  | .baselineOnly => .candidateOnly
  | .candidateOnly => .baselineOnly
  | .invalid => .invalid
  | .paired => .paired

theorem state_exchangeCase (entry : ComparisonCase) (state : ComparisonCaseState)
    : (exchangeCase entry).state = exchangeState state ↔ entry.state = state := by
  cases entry <;> cases state <;> simp [exchangeCase, exchangeState, ComparisonCase.state]

theorem countState_exchange (cases : List ComparisonCase) (state : ComparisonCaseState)
    : countState (cases.map exchangeCase) (exchangeState state) = countState cases state := by
  unfold countState
  rw [List.filter_map, List.length_map]
  simp only [Function.comp_def, state_exchangeCase]

theorem any_exchange {p q : ComparisonCase → Bool} (h : ∀ entry, p (exchangeCase entry) = q entry)
    (cases : List ComparisonCase)
    : (cases.map exchangeCase).any p = cases.any q := by
  rw [List.any_map]
  exact congrArg cases.any (funext h)

theorem comparabilityReasons_exchange (comparison : ComparisonDefinition) (cases : List ComparisonCase)
    (baseline candidate : List ComparisonAssuranceState)
    : comparabilityReasons (exchangeDefinition comparison) (cases.map exchangeCase) (candidate ++ baseline)
        = comparabilityReasons comparison cases (baseline ++ candidate) := by
  have hpaired : countState (cases.map exchangeCase) .paired = countState cases .paired :=
    countState_exchange cases .paired
  have hinvalid : (cases.map exchangeCase).any (·.state = .invalid) = cases.any (·.state = .invalid) :=
    any_exchange (fun entry => by cases entry <;> rfl) cases
  have hmissing : (cases.map exchangeCase).any
        (fun entry => entry.state = .baselineOnly ∨ entry.state = .candidateOnly)
      = cases.any (fun entry => entry.state = .baselineOnly ∨ entry.state = .candidateOnly) :=
    any_exchange (fun entry => by cases entry <;> rfl) cases
  have hmismatch : (cases.map exchangeCase).any isFixtureMismatch = cases.any isFixtureMismatch := by
    apply any_exchange
    intro entry
    cases entry with
    | paired baseline candidate fixtureId =>
      simp only [exchangeCase, isFixtureMismatch, ne_comm]
    | baselineOnly | candidateOnly | invalid => rfl
  have hdataset : (exactDatasetKey (exchangeDefinition comparison).baseline.dataset
        ≠ exactDatasetKey (exchangeDefinition comparison).candidate.dataset)
      ↔ exactDatasetKey comparison.baseline.dataset ≠ exactDatasetKey comparison.candidate.dataset := ne_comm
  unfold comparabilityReasons
  simp only [hpaired, hinvalid, hmissing, hmismatch, hdataset, List.length_map, List.any_append, Bool.or_comm]
  rfl

theorem PairsTo.exchange (h : PairsTo isNFC input result)
    : PairsTo isNFC (exchangeInput input) (exchangeResult result) where
  comparison := exchangeDefinition_accepted h.comparison
  baseline := snapshotOf_exchange_baseline h.candidate
  candidate := snapshotOf_exchange_candidate h.baseline
  distinct := h.distinct.symm
  cases := by
    rw [cases_exchange, ← h.cases]
    rfl
  cases_accepted := by
    intro entry hentry
    rcases List.mem_map.mp hentry with ⟨original, horiginal, rfl⟩
    exact exchangeCase_accepted (h.cases_accepted original horiginal)
  pairing := by
    have hbaselineOnly := countState_exchange result.cases .candidateOnly
    have hcandidateOnly := countState_exchange result.cases .baselineOnly
    have hinvalid := countState_exchange result.cases .invalid
    have hpaired := countState_exchange result.cases .paired
    simp only [exchangeState] at hbaselineOnly hcandidateOnly hinvalid hpaired
    simp only [exchangeResult, h.pairing, exchangeSummary, pairingSummary, hbaselineOnly, hcandidateOnly,
      hinvalid, hpaired, List.length_map]
  pairing_accepted := by
    have haccepted := h.pairing_accepted
    have hissues := haccepted.issues
    rw [issue_eq_nil, not_not] at hissues
    refine ⟨haccepted.candidateOnlyCount, haccepted.baselineOnlyCount, haccepted.invalidCount,
      haccepted.pairedCount, haccepted.requestedCount, ?_⟩
    rw [issue_eq_nil, not_not]
    simp only [exchangeResult, exchangeSummary]
    omega
  comparability := by
    have hpaired := countState_exchange result.cases .paired
    simp only [exchangeState] at hpaired
    have hreasons := comparabilityReasons_exchange input.comparison result.cases (assuranceOf input.baseline)
      (assuranceOf input.candidate)
    simp only [exchangeResult, hpaired]
    rw [h.comparability, ← hreasons]
    rfl
  comparability_accepted := h.comparability_accepted

structure EveryFixtureAccounted (input : PairComparisonEvidenceInput) : Prop where
  baselineDeclared : ∀ fixture ∈ input.comparison.baseline.fixtures,
    (pairingRows input).countP (·.baselineExpected = some fixture) = 1
  candidateDeclared : ∀ fixture ∈ input.comparison.candidate.fixtures,
    (pairingRows input).countP (·.candidateExpected = some fixture) = 1
  baselineRetained : ∀ fixture ∈ input.baseline.fixtures,
    (pairingRows input).countP (·.baselineActual = some fixture) = 1
  candidateRetained : ∀ fixture ∈ input.candidate.fixtures,
    (pairingRows input).countP (·.candidateActual = some fixture) = 1

@[mk_iff]
structure UniqueFixtureIds (input : PairComparisonEvidenceInput) : Prop where
  baselineDeclared : (input.comparison.baseline.fixtures.map (·.fixture.fixtureId)).Nodup
  candidateDeclared : (input.comparison.candidate.fixtures.map (·.fixture.fixtureId)).Nodup
  baselineRetained : (input.baseline.fixtures.map (·.fixture.fixtureId)).Nodup
  candidateRetained : (input.candidate.fixtures.map (·.fixture.fixtureId)).Nodup

theorem nodup_of_sorted {α : Type} {rows : List α} {key : α → String}
    (h : isStrictlySortedUnique (rows.map key))
    : rows.Nodup :=
  List.Nodup.of_map key h.nodup

theorem pairingFixtureIds_nodup (comparison : ComparisonDefinition) : (pairingFixtureIds comparison).Nodup := by
  have hnodup := (sortBy_perm id comparison.fixtureIds.dedup).nodup_iff
  exact hnodup.mpr (List.nodup_dedup _)

theorem mem_pairingFixtureIds {comparison : ComparisonDefinition} {fixtureId : String}
    : fixtureId ∈ pairingFixtureIds comparison ↔ fixtureId ∈ comparison.fixtureIds := by
  unfold pairingFixtureIds
  rw [mem_sortBy, List.mem_dedup]

theorem mem_fixtureIds_of_expected {comparison : ComparisonDefinition} {role : ComparisonRole}
    {expected : ComparisonSubjectFixture} (h : expected ∈ (subjectOf comparison role).fixtures)
    : expected.fixture.fixtureId ∈ comparison.fixtureIds := by
  unfold ComparisonDefinition.fixtureIds
  rw [List.mem_append]
  cases role with
  | baseline => exact .inl (List.mem_map_of_mem h)
  | candidate => exact .inr (List.mem_map_of_mem h)

theorem mem_fixtureIds_of_actual {comparison : ComparisonDefinition} {role : ComparisonRole}
    {snapshot : ComparisonEvidenceSnapshot} (h : SnapshotOf isNFC comparison snapshot role)
    (hactual : actual ∈ snapshot.fixtures)
    : actual.fixture.fixtureId ∈ comparison.fixtureIds := by
  rcases Option.ne_none_iff_exists'.mp (h.expected actual hactual) with ⟨expected, hexpected⟩
  rcases lookup_eq_some hexpected with ⟨hmem, hkey⟩
  rw [← hkey]
  exact mem_fixtureIds_of_expected hmem

theorem accounted_iff {α : Type} [DecidableEq α] {rows : List α} {key : α → String} {keys : List String}
    (hrows : rows.Nodup) (hkeys : keys.Nodup) (hmem : ∀ row ∈ rows, key row ∈ keys)
    : (∀ row ∈ rows, keys.countP (fun k => lookup key rows k = some row) = 1) ↔ (rows.map key).Nodup := by
  rw [← lookup_all_iff hrows]
  constructor
  . exact fun h row hrow => (countP_lookup_eq_one hkeys (hmem row hrow)).mp (h row hrow)
  . exact fun h row hrow => (countP_lookup_eq_one hkeys (hmem row hrow)).mpr (h row hrow)

theorem PairsTo.everyFixtureAccounted_iff (h : PairsTo isNFC input result)
    : EveryFixtureAccounted input ↔ UniqueFixtureIds input := by
  have hkeys := pairingFixtureIds_nodup input.comparison
  have hbaselineDeclared := accounted_iff (nodup_of_sorted h.comparison.baseline.fixtures_sorted) hkeys
    (fun row hrow => mem_pairingFixtureIds.mpr (@mem_fixtureIds_of_expected input.comparison .baseline row hrow))
  have hcandidateDeclared := accounted_iff (nodup_of_sorted h.comparison.candidate.fixtures_sorted) hkeys
    (fun row hrow => mem_pairingFixtureIds.mpr (@mem_fixtureIds_of_expected input.comparison .candidate row hrow))
  have hbaselineRetained := accounted_iff (nodup_of_sorted h.baseline.accepted.fixtures_sorted) hkeys
    (fun row hrow => mem_pairingFixtureIds.mpr (mem_fixtureIds_of_actual h.baseline hrow))
  have hcandidateRetained := accounted_iff (nodup_of_sorted h.candidate.accepted.fixtures_sorted) hkeys
    (fun row hrow => mem_pairingFixtureIds.mpr (mem_fixtureIds_of_actual h.candidate hrow))
  rw [uniqueFixtureIds_iff, ← hbaselineDeclared, ← hcandidateDeclared, ← hbaselineRetained, ← hcandidateRetained]
  constructor
  . rintro ⟨hfirst, hsecond, hthird, hfourth⟩
    simp only [pairingRows, List.countP_map] at hfirst hsecond hthird hfourth
    exact ⟨hfirst, hsecond, hthird, hfourth⟩
  . rintro ⟨hfirst, hsecond, hthird, hfourth⟩
    refine ⟨?_, ?_, ?_, ?_⟩ <;> simp only [pairingRows, List.countP_map]
    . exact hfirst
    . exact hsecond
    . exact hthird
    . exact hfourth

structure PairingContract (isNFC : String → Bool) (input : PairComparisonEvidenceInput)
    (result : ComparisonPairingResult) : Prop where
  cases : result.cases = (pairingRows input).map (·.case)
  total : result.pairing.pairedCount + result.pairing.baselineOnlyCount + result.pairing.candidateOnlyCount
      + result.pairing.invalidCount = result.cases.length
    ∧ result.pairing = pairingSummary result.cases
  paired : ∀ row ∈ pairingRows input, row.case.state = .paired → PairedCase row
  exchanged : pairComparisonEvidence isNFC (exchangeInput input) = .ok (exchangeResult result)
  comparable : result.comparability.status = .comparable →
    (∀ entry ∈ result.cases, ∃ fixture fixtureId, entry = .paired fixture fixture fixtureId)
      ∧ input.comparison.baseline.dataset = input.comparison.candidate.dataset
  accounted : EveryFixtureAccounted input ↔ UniqueFixtureIds input

theorem pairingContract (h : pairComparisonEvidence isNFC input = .ok result)
    : PairingContract isNFC input result := by
  rw [pairComparisonEvidence_eq_ok] at h
  refine ⟨h.cases, ⟨?_, h.pairing⟩, h.paired, pairComparisonEvidence_eq_ok.mpr h.exchange, h.comparable,
    h.everyFixtureAccounted_iff⟩
  have hissues := h.pairing_accepted.issues
  have hrequested := congrArg ComparisonPairingSummary.requestedCount h.pairing
  rw [issue_eq_nil, not_not] at hissues
  simp only [pairingSummary] at hrequested
  omega

namespace TwoVersions

def digest (c : Char) : String :=
  String.ofList (List.replicate 64 c)

def release : Replay.TargetReleaseReference where
  definitionSha256 := digest 'c'
  targetAdapter :=
    { name := "adapter"
      protocolVersion := "1.0"
      version := "1.0" }
  targetId := "target_one"
  targetReleaseId := "release_one"
  workerProtocol :=
    { name := "worker"
      version := "1.0" }

def replay : EvaluationReplayResultReference where
  attemptId := "attempt_one"
  completedAt := "2026-01-01T00:00:00Z"
  jobId := "job_one"
  plan :=
    { definitionSha256 := digest 'd'
      planId := "plan_one"
      planVersionId := "plan_v_one" }
  result :=
    { artifactId := "artifact_one"
      classification := .metadata
      mediaType := "application/json"
      redactedAt := none
      sha256 := digest 'e'
      sizeBytes := 10 }
  targetRelease := release

def fixture (fixtureVersionId : String) : RegressionFixtureVersionReference where
  fixtureId := "fixture_one"
  fixtureVersionId := fixtureVersionId
  definitionSha256 := digest 'f'

def declared (fixtureVersionId : String) : ComparisonSubjectFixture where
  assessments := []
  fixture := fixture fixtureVersionId
  modelAssuranceAssessments := []
  replay := replay

def retained (fixtureVersionId : String) : ComparisonEvidenceFixtureSnapshot where
  artifacts := []
  assurance := []
  evaluationOutcomes := []
  fixture := fixture fixtureVersionId
  numericObservations := []
  replay := replay
  usage := []

def dataset : Assurance.DatasetVersionReference where
  datasetId := "dataset_one"
  datasetVersionId := "dataset_v_one"
  definitionSha256 := digest 'a'

def scope : EvidenceScope where
  environmentId := "environment_one"
  projectId := "project_one"
  tenantId := "tenant_one"

def comparison : ComparisonDefinition where
  baseline := ⟨dataset, [declared "version_one", declared "version_two"]⟩
  candidate := ⟨dataset, [declared "version_two"]⟩
  comparisonId := "comparison_one"
  comparisonVersionId := "comparison_v_one"
  definitionSha256 := digest 'b'
  metrics := [⟨.artifactSet, "metric_one", "stratum_one"⟩]
  minimumPairedCoverageBasisPoints := 1
  predecessorVersionId := none
  scope := scope
  strata := [⟨["fixture_one"], "stratum_one"⟩]

def snapshot (role : ComparisonRole) (snapshotId : String) (versions : List String)
    : ComparisonEvidenceSnapshot where
  comparison := comparison.exactComparisonReference
  dataset := dataset
  fixtures := versions.map retained
  omissions := []
  role := role
  scope := scope
  snapshotId := snapshotId

def evidence : PairComparisonEvidenceInput where
  baseline := snapshot .baseline "snapshot_one" ["version_one", "version_two"]
  candidate := snapshot .candidate "snapshot_two" ["version_two"]
  comparison := comparison

def pairing : ComparisonPairingResult where
  cases := [.paired (fixture "version_two") (fixture "version_two") "fixture_one"]
  comparability :=
    { reasons := []
      status := .comparable }
  pairing :=
    { baselineOnlyCount := 0
      candidateOnlyCount := 0
      invalidCount := 0
      pairedCount := 1
      requestedCount := 1 }

theorem sha256Schema_digest {c : Char} (h : (isDigitAscii c || ('a' ≤ c && c ≤ 'f')) = true)
    : Sha256Schema (digest c) = true :=
  sha256Schema_replicate h

theorem release_accepted : release.Accepted :=
  ⟨sha256Schema_digest rfl, by decide, by decide, by decide, by decide⟩

theorem replay_accepted : replay.Accepted :=
  ⟨by decide, by decide, by decide, ⟨sha256Schema_digest rfl, by decide, by decide⟩,
    ⟨by decide, by decide, sha256Schema_digest rfl, by decide⟩, release_accepted⟩

theorem dataset_accepted : DatasetVersionReference.Accepted dataset :=
  ⟨by decide, by decide, sha256Schema_digest rfl⟩

theorem scope_accepted : EvidenceScopeSchema scope := by
  decide

theorem fixtureId_accepted : OpaqueIdSchema "fixture_one" = true := by
  decide

section Versions

variable {fixtureVersionId : String} (h : OpaqueIdSchema fixtureVersionId = true)
include h

theorem fixture_accepted : (fixture fixtureVersionId).Accepted :=
  ⟨sha256Schema_digest rfl, fixtureId_accepted, h⟩

theorem declared_accepted : (declared fixtureVersionId).Accepted :=
  ⟨⟨nofun, Nat.zero_le _, .nil⟩, fixture_accepted h, ⟨nofun, Nat.zero_le _, .nil⟩, replay_accepted⟩

theorem retained_accepted : (retained fixtureVersionId).Accepted (fun _ => true) := by
  constructor
  case fixture => exact fixture_accepted h
  case replay => exact replay_accepted
  all_goals first | exact .nil | exact Nat.zero_le _ | exact nofun

end Versions

theorem versions_accepted : ∀ fixtureVersionId ∈ ["version_one", "version_two"],
    OpaqueIdSchema fixtureVersionId = true := by
  decide

theorem comparison_accepted : comparison.Accepted (fun _ => true) := by
  constructor
  case baseline =>
    refine ⟨dataset_accepted, ?_, by decide, by decide⟩
    intro declaration hmem
    rcases List.mem_map.mp (show declaration ∈ ["version_one", "version_two"].map declared from hmem)
      with ⟨version, hversion, rfl⟩
    exact declared_accepted (versions_accepted version hversion)
  case candidate =>
    refine ⟨dataset_accepted, ?_, by decide, by decide⟩
    rintro declaration (_ | ⟨_, ⟨⟩⟩)
    exact declared_accepted (by decide)
  case definitionSha256 => exact sha256Schema_digest rfl
  all_goals decide

theorem snapshot_accepted {role : ComparisonRole} {snapshotId : String} {versions : List String}
    (hsnapshot : OpaqueIdSchema snapshotId = true)
    (hversions : ∀ version ∈ versions, OpaqueIdSchema version = true)
    (hlength : boundedInteger 1 maxComparisonSubjectFixtures (versions.map retained).length)
    (hsorted : isStrictlySortedUnique ((versions.map retained).map (subjectFixtureKey ·.fixture)))
    : (snapshot role snapshotId versions).Accepted (fun _ => true) where
  comparison := ⟨comparison_accepted.comparisonId, comparison_accepted.comparisonVersionId,
    comparison_accepted.definitionSha256⟩
  dataset := dataset_accepted
  fixtures := by
    intro fixture hmem
    rcases List.mem_map.mp hmem with ⟨version, hversion, rfl⟩
    exact retained_accepted (hversions version hversion)
  fixtures_length := hlength
  fixtures_sorted := hsorted
  omissions := nofun
  omissions_length := Nat.zero_le _
  omissions_sorted := .nil
  scope := scope_accepted
  snapshotId := hsnapshot
  issues := by
    have hnone : (snapshot role snapshotId versions).retainedArtifacts = [] := by
      simp [ComparisonEvidenceSnapshot.retainedArtifacts, snapshot, retained]
    unfold ComparisonEvidenceSnapshot.refineComparisonEvidenceSnapshot
    rw [hnone]
    rfl

theorem pairs : pairComparisonEvidence (fun _ => true) evidence = .ok pairing := by
  rw [pairComparisonEvidence_eq_ok]
  constructor
  case comparison => exact comparison_accepted
  case baseline =>
    exact ⟨snapshot_accepted (by decide) versions_accepted (by decide) (by decide), rfl, rfl, rfl, rfl,
      by decide⟩
  case candidate =>
    exact ⟨snapshot_accepted (by decide) (by decide) (by decide) (by decide), rfl, rfl, rfl, rfl,
      by decide⟩
  all_goals decide

end TwoVersions

/-- The subjects count as comparable, but one of the two versions that the baseline declares is in no case. -/
theorem twoVersions_merged
    : pairComparisonEvidence (fun _ => true) TwoVersions.evidence = .ok TwoVersions.pairing
        ∧ TwoVersions.pairing.comparability.status = .comparable
        ∧ ¬EveryFixtureAccounted TwoVersions.evidence := by
  refine ⟨TwoVersions.pairs, rfl, ?_⟩
  intro h
  have hcount := h.baselineDeclared (TwoVersions.declared "version_one") (by decide)
  have hnone : (pairingRows TwoVersions.evidence).countP
      (·.baselineExpected = some (TwoVersions.declared "version_one")) = 0 := by
    decide
  omega

theorem twoVersions_contract : PairingContract (fun _ => true) TwoVersions.evidence TwoVersions.pairing :=
  pairingContract TwoVersions.pairs

end Evaluation
end ProofStack
