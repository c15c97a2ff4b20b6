import ProofStack.Evaluation.ComparisonPairingContract
import ProofStack.Evaluation.ExactAggregationBounds

/-!
This module contains what the derivations of a comparison share.
-/

namespace ProofStack
namespace Evaluation

open Checks Comparison

inductive ComparisonDerivationError where
  | arithmetic (error : ComparisonExactArithmeticError)
  | pairing (error : ComparisonPairingError)
  -- what has been derived is not accepted by its schema
  | invalidResult
  | range (message : String)
  | type (message : String)
  deriving DecidableEq

abbrev Derivation (α : Type) := Except ComparisonDerivationError α

def derivePairing (isNFC : String → Bool) (input : PairComparisonEvidenceInput)
    : Derivation ComparisonPairingResult :=
  (pairComparisonEvidence isNFC input).mapError .pairing

def fixtureMap (snapshot : ComparisonEvidenceSnapshot) (fixtureId : String)
    : Option ComparisonEvidenceFixtureSnapshot :=
  actualFixture snapshot.fixtures fixtureId

theorem fixtureMap_accepted {isNFC : String → Bool} {snapshot : ComparisonEvidenceSnapshot} {fixtureId : String}
    {fixture : ComparisonEvidenceFixtureSnapshot} (hsnapshot : snapshot.Accepted isNFC)
    (h : fixtureMap snapshot fixtureId = some fixture)
    : fixture.Accepted isNFC :=
  (actualFixture_accepted hsnapshot h).1

end Evaluation
end ProofStack
