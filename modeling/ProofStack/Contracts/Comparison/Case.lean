import ProofStack.Contracts.Comparison.Snapshot
import ProofStack.Encoding.Separates

/-!
This module contains the cases of a comparison.
-/

namespace ProofStack
namespace Comparison

open Datasets (RegressionFixtureVersionReference)
open Replay (safeNonnegativeInteger)

def maxComparisonResultReasons : Nat := 32

inductive ComparisonMissingCaseReason where
  | fixtureAbsent
  | snapshotOmission
  | sourceUnavailable
  deriving DecidableEq

inductive ComparisonInvalidCaseReason where
  | ambiguousPairing
  | digestMismatch
  | invalidSourceIntegrity
  | nonterminalReplay
  | scopeMismatch
  | unresolvedLineage
  deriving DecidableEq

def ComparisonInvalidCaseReason.text : ComparisonInvalidCaseReason → String
  | .ambiguousPairing => "ambiguous_pairing"
  | .digestMismatch => "digest_mismatch"
  | .invalidSourceIntegrity => "invalid_source_integrity"
  | .nonterminalReplay => "nonterminal_replay"
  | .scopeMismatch => "scope_mismatch"
  | .unresolvedLineage => "unresolved_lineage"

inductive ComparisonCase where
  | paired (baseline candidate : RegressionFixtureVersionReference) (fixtureId : String)
  | baselineOnly (baseline : RegressionFixtureVersionReference)
    (candidateMissingReason : ComparisonMissingCaseReason) (fixtureId : String)
  | candidateOnly (baselineMissingReason : ComparisonMissingCaseReason)
    (candidate : RegressionFixtureVersionReference) (fixtureId : String)
  | invalid (baseline candidate : Option RegressionFixtureVersionReference) (fixtureId : String)
    (reasons : List ComparisonInvalidCaseReason)
  deriving DecidableEq

inductive ComparisonCaseState where
  | baselineOnly
  | candidateOnly
  | invalid
  | paired
  deriving DecidableEq

namespace ComparisonCase

def state : ComparisonCase → ComparisonCaseState
  | .paired .. => .paired
  | .baselineOnly .. => .baselineOnly
  | .candidateOnly .. => .candidateOnly
  | .invalid .. => .invalid

def fixtureId : ComparisonCase → String
  | .paired _ _ fixtureId => fixtureId
  | .baselineOnly _ _ fixtureId => fixtureId
  | .candidateOnly _ _ fixtureId => fixtureId
  | .invalid _ _ fixtureId _ => fixtureId

def baseline? : ComparisonCase → Option RegressionFixtureVersionReference
  | .paired baseline _ _ => some baseline
  | .baselineOnly baseline _ _ => some baseline
  | .candidateOnly .. => none
  | .invalid baseline _ _ _ => baseline

def candidate? : ComparisonCase → Option RegressionFixtureVersionReference
  | .paired _ candidate _ => some candidate
  | .baselineOnly .. => none
  | .candidateOnly _ candidate _ => some candidate
  | .invalid _ candidate _ _ => candidate

def shapeIssues : ComparisonCase → List String
  | .paired .. | .baselineOnly .. | .candidateOnly .. => []
  | .invalid baseline candidate _ reasons =>
    issue (reasons = [] ∨ 6 < reasons.length) "Invalid-case reasons must be bounded"
      ++ issue (¬isStrictlySortedUnique (reasons.map (·.text)))
        "Invalid-case reasons must be unique and ordered"
      ++ issue (baseline = none ∧ candidate = none)
        "An invalid case must retain at least one exact fixture reference"

def refineComparisonCase (value : ComparisonCase) : List String :=
  issue ((∃ baseline ∈ value.baseline?, baseline.fixtureId ≠ value.fixtureId)
      ∨ ∃ candidate ∈ value.candidate?, candidate.fixtureId ≠ value.fixtureId)
    "Comparison case references must retain the logical fixture identity"

@[mk_iff]
structure Accepted (value : ComparisonCase) : Prop where
  baseline : ∀ baseline ∈ value.baseline?, baseline.Accepted
  candidate : ∀ candidate ∈ value.candidate?, candidate.Accepted
  fixtureId : OpaqueIdSchema value.fixtureId
  shape : value.shapeIssues = []
  issues : value.refineComparisonCase = []

instance (value : ComparisonCase) : Decidable value.Accepted :=
  decidable_of_iff _ (accepted_iff value).symm

end ComparisonCase

structure ComparisonPairingSummary where
  baselineOnlyCount : Nat
  candidateOnlyCount : Nat
  invalidCount : Nat
  pairedCount : Nat
  requestedCount : Nat
  deriving DecidableEq

@[mk_iff]
structure ComparisonPairingSummary.Accepted (value : ComparisonPairingSummary) : Prop where
  baselineOnlyCount : safeNonnegativeInteger value.baselineOnlyCount
  candidateOnlyCount : safeNonnegativeInteger value.candidateOnlyCount
  invalidCount : safeNonnegativeInteger value.invalidCount
  pairedCount : safeNonnegativeInteger value.pairedCount
  requestedCount : safeNonnegativeInteger value.requestedCount
  issues : issue (value.baselineOnlyCount + value.candidateOnlyCount + value.invalidCount
      + value.pairedCount ≠ value.requestedCount)
    "Pairing counts must reconstruct the exact requested count" = []

instance (value : ComparisonPairingSummary) : Decidable value.Accepted :=
  decidable_of_iff _ (ComparisonPairingSummary.accepted_iff value).symm

inductive ComparisonComparabilityReason where
  | calibrationMismatch
  | criterionMismatch
  | datasetMismatch
  | fixtureMismatch
  | insufficientPairedCoverage
  | invalidSourceIntegrity
  | methodMismatch
  | missingSourceEvidence
  | populationMismatch
  | unitMismatch
  | unresolvedCriticalCounterevidence
  | unsupportedStatisticalAssumptions
  deriving DecidableEq

def ComparisonComparabilityReason.text : ComparisonComparabilityReason → String
  | .calibrationMismatch => "calibration_mismatch"
  | .criterionMismatch => "criterion_mismatch"
  | .datasetMismatch => "dataset_mismatch"
  | .fixtureMismatch => "fixture_mismatch"
  | .insufficientPairedCoverage => "insufficient_paired_coverage"
  | .invalidSourceIntegrity => "invalid_source_integrity"
  | .methodMismatch => "method_mismatch"
  | .missingSourceEvidence => "missing_source_evidence"
  | .populationMismatch => "population_mismatch"
  | .unitMismatch => "unit_mismatch"
  | .unresolvedCriticalCounterevidence => "unresolved_critical_counterevidence"
  | .unsupportedStatisticalAssumptions => "unsupported_statistical_assumptions"

inductive ComparisonComparabilityStatus where
  | comparable
  | incomparable
  | partiallyComparable
  deriving DecidableEq

structure ComparisonComparability where
  reasons : List ComparisonComparabilityReason
  status : ComparisonComparabilityStatus
  deriving DecidableEq

@[mk_iff]
structure ComparisonComparability.Accepted (value : ComparisonComparability) : Prop where
  reasons_length : value.reasons.length ≤ maxComparisonResultReasons
  reasons_sorted : isStrictlySortedUnique (value.reasons.map (·.text))
  issues : issue (¬(value.status = .comparable ↔ value.reasons = []))
    "Comparability status and reasons must agree" = []

instance (value : ComparisonComparability) : Decidable value.Accepted :=
  decidable_of_iff _ (ComparisonComparability.accepted_iff value).symm

end Comparison
end ProofStack

/-!
This module contains the keys of references: an identifier contains no colon, so that the key of a reference
stands for no other reference.
-/

namespace ProofStack
namespace Comparison

open Assurance (RecordReference CriterionReference DatasetVersionReference)
open Datasets (RegressionFixtureVersionReference)
open Encoding

theorem colon_notMem {id : String} (h : OpaqueIdSchema id = true) : ':' ∉ id.toList := by
  intro hmem
  unfold OpaqueIdSchema at h
  split at h
  . contradiction
  . next c cs heq =>
    simp only [Bool.and_eq_true, List.all_eq_true] at h
    rw [heq, List.mem_cons] at hmem
    rcases hmem with rfl | hmem
    . exact absurd h.1.1.1 (by decide)
    . exact absurd (h.1.1.2 ':' hmem) (by decide)

theorem recordKey_inj {left right : RecordReference} (hleft : RecordReference.Accepted left)
    (hright : RecordReference.Accepted right) (h : left.key = right.key)
    : left = right := by
  rcases colon_inj (colon_notMem hleft.1) (colon_notMem hright.1) h with ⟨hid, hdigest⟩
  cases left
  cases right
  simp_all

theorem datasetKey_inj {left right : DatasetVersionReference} (hleft : DatasetVersionReference.Accepted left)
    (hright : DatasetVersionReference.Accepted right) (h : exactDatasetKey left = exactDatasetKey right)
    : left = right := by
  rcases colon_inj₃ (colon_notMem hleft.1) (colon_notMem hright.1) (colon_notMem hleft.2.1)
    (colon_notMem hright.2.1) h with ⟨hdataset, hversion, hdigest⟩
  cases left
  cases right
  simp_all

theorem fixtureReferenceKey_inj {left right : RegressionFixtureVersionReference} (hleft : left.Accepted)
    (hright : right.Accepted) (h : fixtureReferenceKey left = fixtureReferenceKey right)
    : left = right := by
  rcases colon_inj₃ (colon_notMem hleft.fixtureId) (colon_notMem hright.fixtureId)
    (colon_notMem hleft.fixtureVersionId) (colon_notMem hright.fixtureVersionId) h
    with ⟨hfixture, hversion, hdigest⟩
  rcases left with ⟨⟨_, _⟩, _⟩
  rcases right with ⟨⟨_, _⟩, _⟩
  simp_all

theorem sha256_colon_notMem {digest : String} (h : Sha256Schema digest = true) : ':' ∉ digest.toList := by
  unfold Sha256Schema at h
  rw [Bool.and_eq_true, List.all_eq_true] at h
  intro hmem
  exact absurd (h.1 ':' hmem) (by decide)

theorem criterionKey_inj {left right : CriterionReference} (hleft : CriterionReference.Accepted left)
    (hright : CriterionReference.Accepted right) (h : exactCriterionKey left = exactCriterionKey right)
    : left = right := by
  rcases hleft with ⟨_, hset, hversion, hdigest⟩
  rcases hright with ⟨_, hset', hversion', hdigest'⟩
  unfold exactCriterionKey at h
  have hassoc (s t u v : String) : s ++ ":" ++ t ++ ":" ++ u ++ ":" ++ v = s ++ ":" ++ t ++ ":" ++ (u ++ ":" ++ v) := by
    simp only [String.append_assoc]
  rw [hassoc, hassoc right.criterionSet.criterionSetId] at h
  rcases colon_inj₃ (colon_notMem hset) (colon_notMem hset') (colon_notMem hversion)
    (colon_notMem hversion') h with ⟨hsets, hversions, hrest⟩
  rcases colon_inj (sha256_colon_notMem hdigest) (sha256_colon_notMem hdigest') hrest
    with ⟨hdigests, hcriteria⟩
  rcases left with ⟨_, _, _, _⟩
  rcases right with ⟨_, _, _, _⟩
  simp_all

end Comparison
end ProofStack
