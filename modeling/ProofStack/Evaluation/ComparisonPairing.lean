import ProofStack.Checks
import ProofStack.Contracts.Comparison.Case
import ProofStack.Reasons

/-!
This module contains the pairing of the evidence of two subjects by the logical identity of their fixtures.
-/

namespace ProofStack
namespace Evaluation

open Checks Comparison Reasons Sequence
open Assurance (RecordReference DatasetVersionReference)
open Datasets (RegressionFixtureVersionReference)

inductive ComparisonPairingErrorCode where
  | comparisonReferenceMismatch
  | datasetReferenceMismatch
  | invalidComparisonDefinition
  | invalidEvidenceSnapshot
  | roleMismatch
  | scopeMismatch
  | snapshotSubjectMismatch
  deriving DecidableEq

inductive ComparisonPairingError where
  | pairing (code : ComparisonPairingErrorCode) (message : String)
  -- what has been derived is not accepted by its schema
  | invalidResult
  deriving DecidableEq

abbrev Pairing (α : Type) := Except ComparisonPairingError α

structure PairComparisonEvidenceInput where
  baseline : ComparisonEvidenceSnapshot
  candidate : ComparisonEvidenceSnapshot
  comparison : ComparisonDefinition

structure ComparisonPairingResult where
  cases : List ComparisonCase
  comparability : ComparisonComparability
  pairing : ComparisonPairingSummary
  deriving DecidableEq

def roleText : ComparisonRole → String
  | .baseline => "baseline"
  | .candidate => "candidate"

def subjectOf (comparison : ComparisonDefinition) : ComparisonRole → ComparisonSubject
  | .baseline => comparison.baseline
  | .candidate => comparison.candidate

def orderedReasons {ρ : Type} [DecidableEq ρ] (text : ρ → String) (reasons : List ρ) : List ρ :=
  sortBy text reasons.dedup

def sameStringSet (left right : List String) : Bool :=
  sortBy id left = sortBy id right

open ComparisonInvalidCaseReason in
def fixtureIntegrityReasons (expected : ComparisonSubjectFixture)
    (actual : ComparisonEvidenceFixtureSnapshot)
    : List ComparisonInvalidCaseReason :=
  let expectedAssessments := expected.assessments.map (·.key)
  let actualAssessments := (actual.assurance.filterMap (·.assessmentReference?)).map (·.key)
  let expectedModelAssurance := expected.modelAssuranceAssessments.map (·.key)
  let actualModelAssurance := (actual.assurance.filterMap (·.modelAssuranceReference?)).map (·.key)
  orderedReasons ComparisonInvalidCaseReason.text
    ((if expected.fixture.fixtureId ≠ actual.fixture.fixtureId
          ∨ expected.fixture.fixtureVersionId ≠ actual.fixture.fixtureVersionId then [unresolvedLineage]
        else flag (expected.fixture.definitionSha256 ≠ actual.fixture.definitionSha256) digestMismatch)
      ++ flag (expected.replay ≠ actual.replay) unresolvedLineage
      ++ flag (¬sameStringSet expectedAssessments actualAssessments) unresolvedLineage
      ++ flag (actual.evaluationOutcomes.any (fun outcome => outcome.assessment.key ∉ expectedAssessments))
        unresolvedLineage
      ++ flag (¬sameStringSet expectedModelAssurance actualModelAssurance) unresolvedLineage)

def parseComparison (isNFC : String → Bool) (value : ComparisonDefinition) : Pairing ComparisonDefinition :=
  parseWith (value.Accepted isNFC)
    (.pairing .invalidComparisonDefinition "The comparison definition is invalid") value

def parseSnapshot (isNFC : String → Bool) (value : ComparisonEvidenceSnapshot) (role : ComparisonRole)
    : Pairing ComparisonEvidenceSnapshot := do
  let parsed ← parseWith (value.Accepted isNFC)
    (.pairing .invalidEvidenceSnapshot ("The " ++ roleText role ++ " snapshot is invalid")) value
  failIf (parsed.role ≠ role)
    (.pairing .roleMismatch ("The " ++ roleText role ++ " snapshot has the wrong role"))
  return parsed

def assertSnapshotEnvelope (comparison : ComparisonDefinition) (snapshot : ComparisonEvidenceSnapshot)
    (role : ComparisonRole)
    : Pairing Unit := do
  failIf (snapshot.scope ≠ comparison.scope)
    (.pairing .scopeMismatch ("The " ++ roleText role ++ " snapshot is outside the comparison scope"))
  failIf (snapshot.comparison ≠ comparison.exactComparisonReference)
    (.pairing .comparisonReferenceMismatch
      ("The " ++ roleText role ++ " snapshot does not bind the exact comparison definition"))
  failIf (snapshot.dataset ≠ (subjectOf comparison role).dataset)
    (.pairing .datasetReferenceMismatch
      ("The " ++ roleText role ++ " snapshot does not bind the exact subject dataset"))

def expectedFixture (fixtures : List ComparisonSubjectFixture) (fixtureId : String)
    : Option ComparisonSubjectFixture :=
  lookup (·.fixture.fixtureId) fixtures fixtureId

def actualFixture (fixtures : List ComparisonEvidenceFixtureSnapshot) (fixtureId : String)
    : Option ComparisonEvidenceFixtureSnapshot :=
  lookup (·.fixture.fixtureId) fixtures fixtureId

def assertNoUnexpectedFixtures (expected : List ComparisonSubjectFixture)
    (actual : List ComparisonEvidenceFixtureSnapshot) (role : ComparisonRole)
    : Pairing Unit :=
  failIf (∃ fixture ∈ actual, expectedFixture expected fixture.fixture.fixtureId = none)
    (.pairing .snapshotSubjectMismatch
      ("The " ++ roleText role ++ " snapshot contains a fixture outside the exact subject"))

def missingReason (expected : Option ComparisonSubjectFixture) : ComparisonMissingCaseReason :=
  if expected.isSome then .snapshotOmission else .fixtureAbsent

def sideReasons : Option ComparisonSubjectFixture → Option ComparisonEvidenceFixtureSnapshot
    → List ComparisonInvalidCaseReason
  | some expected, some actual => fixtureIntegrityReasons expected actual
  | _, _ => []

def parseCase (value : ComparisonCase) : Pairing ComparisonCase :=
  parseWith value.Accepted .invalidResult value

def caseForFixture (fixtureId : String)
    (baselineExpected candidateExpected : Option ComparisonSubjectFixture)
    (baselineActual candidateActual : Option ComparisonEvidenceFixtureSnapshot)
    : Pairing ComparisonCase :=
  let reasons := orderedReasons ComparisonInvalidCaseReason.text
    (sideReasons baselineExpected baselineActual ++ sideReasons candidateExpected candidateActual)
  match baselineActual, candidateActual with
  | none, none =>
    parseCase (.invalid (baselineExpected.map (·.fixture)) (candidateExpected.map (·.fixture)) fixtureId
      [.unresolvedLineage])
  | _, _ =>
    if reasons ≠ [] then
      parseCase (.invalid
        ((baselineActual.map (·.fixture)).or (baselineExpected.map (·.fixture)))
        ((candidateActual.map (·.fixture)).or (candidateExpected.map (·.fixture))) fixtureId reasons)
    else
      match baselineActual, candidateActual with
      | some baseline, some candidate => parseCase (.paired baseline.fixture candidate.fixture fixtureId)
      | some baseline, none =>
        parseCase (.baselineOnly baseline.fixture (missingReason candidateExpected) fixtureId)
      | none, some candidate =>
        parseCase (.candidateOnly (missingReason baselineExpected) candidate.fixture fixtureId)
      | none, none => .error .invalidResult

def criticalCounterevidence : ComparisonAssuranceState → Bool
  | .assessment _ reasons _ => Assurance.AssessmentEligibilityReason.criticalCounterevidence ∈ reasons
  | .modelAssurance _ reasons _ => Assurance.ModelAssuranceIneligibilityReason.criticalCounterevidence ∈ reasons

def unsupportedAssumptions : ComparisonAssuranceState → Bool
  | .assessment _ reasons _ => Assurance.AssessmentEligibilityReason.unsupportedStatisticalAssumptions ∈ reasons
  | .modelAssurance .. => false

def assuranceOf (snapshot : ComparisonEvidenceSnapshot) : List ComparisonAssuranceState :=
  snapshot.fixtures.flatMap (·.assurance)

def isFixtureMismatch : ComparisonCase → Bool
  | .paired baseline candidate _ => fixtureReferenceKey baseline ≠ fixtureReferenceKey candidate
  | _ => false

def countState (cases : List ComparisonCase) (state : ComparisonCaseState) : Nat :=
  (cases.filter (·.state = state)).length

open ComparisonComparabilityReason in
def deriveComparability (comparison : ComparisonDefinition) (cases : List ComparisonCase)
    (baseline candidate : ComparisonEvidenceSnapshot)
    : Pairing ComparisonComparability :=
  let assurance := assuranceOf baseline ++ assuranceOf candidate
  let paired := countState cases .paired
  let reasons := orderedReasons ComparisonComparabilityReason.text
    (flag (exactDatasetKey comparison.baseline.dataset ≠ exactDatasetKey comparison.candidate.dataset)
        datasetMismatch
      ++ flag (paired * 10000 < cases.length * comparison.minimumPairedCoverageBasisPoints)
        insufficientPairedCoverage
      ++ flag (cases.any (·.state = .invalid)) invalidSourceIntegrity
      ++ flag (cases.any (fun entry => entry.state = .baselineOnly ∨ entry.state = .candidateOnly))
        missingSourceEvidence
      ++ flag (cases.any isFixtureMismatch) fixtureMismatch
      ++ flag (assurance.any criticalCounterevidence) unresolvedCriticalCounterevidence
      ++ flag (assurance.any unsupportedAssumptions) unsupportedStatisticalAssumptions)
  let value : ComparisonComparability :=
    { reasons := reasons
      status :=
        if reasons = [] then .comparable
        else if paired = 0 ∨ unresolvedCriticalCounterevidence ∈ reasons then .incomparable
        else .partiallyComparable }
  parseWith value.Accepted .invalidResult value

def pairingFixtureIds (comparison : ComparisonDefinition) : List String :=
  sortBy id comparison.fixtureIds.dedup

def deriveCase (input : PairComparisonEvidenceInput) (fixtureId : String) : Pairing ComparisonCase :=
  caseForFixture fixtureId
    (expectedFixture input.comparison.baseline.fixtures fixtureId)
    (expectedFixture input.comparison.candidate.fixtures fixtureId)
    (actualFixture input.baseline.fixtures fixtureId)
    (actualFixture input.candidate.fixtures fixtureId)

def pairingSummary (cases : List ComparisonCase) : ComparisonPairingSummary where
  baselineOnlyCount := countState cases .baselineOnly
  candidateOnlyCount := countState cases .candidateOnly
  invalidCount := countState cases .invalid
  pairedCount := countState cases .paired
  requestedCount := cases.length

def pairComparisonEvidence (isNFC : String → Bool) (input : PairComparisonEvidenceInput)
    : Pairing ComparisonPairingResult := do
  let comparison ← parseComparison isNFC input.comparison
  let baseline ← parseSnapshot isNFC input.baseline .baseline
  let candidate ← parseSnapshot isNFC input.candidate .candidate
  assertSnapshotEnvelope comparison baseline .baseline
  assertSnapshotEnvelope comparison candidate .candidate
  failIf (baseline.snapshotId = candidate.snapshotId)
    (.pairing .snapshotSubjectMismatch "Baseline and candidate must use distinct evidence snapshots")
  assertNoUnexpectedFixtures comparison.baseline.fixtures baseline.fixtures .baseline
  assertNoUnexpectedFixtures comparison.candidate.fixtures candidate.fixtures .candidate
  let cases ← (pairingFixtureIds comparison).mapM (deriveCase ⟨baseline, candidate, comparison⟩)
  let pairing ← parseWith (pairingSummary cases).Accepted .invalidResult (pairingSummary cases)
  let comparability ← deriveComparability comparison cases baseline candidate
  return ⟨cases, comparability, pairing⟩

end Evaluation
end ProofStack
