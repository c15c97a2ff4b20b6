import ProofStack.Contracts.Comparison.Case

/-!
This module contains the transitions between the verdicts of a comparison.
-/

namespace ProofStack
namespace Comparison

open Assurance (CriterionReference EvaluationVerdict)
open Replay (safeNonnegativeInteger safePositiveInteger)

def EvaluationVerdict.text : EvaluationVerdict → String
  | .abstain => "abstain"
  | .error => "error"
  | .fail => "fail"
  | .notApplicable => "not_applicable"
  | .pass => "pass"

structure ComparisonVerdictTransition where
  baseline : EvaluationVerdict
  candidate : EvaluationVerdict
  count : Nat
  criterion : CriterionReference
  deriving DecidableEq

def ComparisonVerdictTransition.Accepted (value : ComparisonVerdictTransition) : Prop :=
  safePositiveInteger value.count ∧ CriterionReference.Accepted value.criterion

instance (value : ComparisonVerdictTransition) : Decidable value.Accepted :=
  inferInstanceAs (Decidable (_ ∧ _))

inductive ComparisonVerdictTransitionUnavailableReason where
  | ambiguousAggregatePairing
  | assessmentMismatch
  | invalidPairedEvidence
  | missingPairedEvidence
  | outcomeCountMismatch
  deriving DecidableEq

def ComparisonVerdictTransitionUnavailableReason.text : ComparisonVerdictTransitionUnavailableReason → String
  | .ambiguousAggregatePairing => "ambiguous_aggregate_pairing"
  | .assessmentMismatch => "assessment_mismatch"
  | .invalidPairedEvidence => "invalid_paired_evidence"
  | .missingPairedEvidence => "missing_paired_evidence"
  | .outcomeCountMismatch => "outcome_count_mismatch"

end Comparison
end ProofStack
