import ProofStack.Combinatorics.Transport
import ProofStack.Contracts.Comparison.VerdictTransition
import ProofStack.Evaluation.ComparisonDerivation
import ProofStack.Store.Table

/-!
This module contains the transitions between the verdicts of two subjects.
-/

namespace ProofStack
namespace Evaluation

open Checks Comparison Reasons Sequence
open Assurance (CriterionReference EvaluationVerdict)
open Store (Table)

structure ExactTransitionCount where
  baseline : EvaluationVerdict
  candidate : EvaluationVerdict
  count : Nat
  criterion : CriterionReference
  deriving DecidableEq

abbrev ExactTransitions := Table String ExactTransitionCount

def verdictFields : List EvaluationVerdict :=
  [.abstain, .error, .fail, .notApplicable, .pass]

def exactAssessmentKey (outcome : ComparisonEvaluationOutcome) : String :=
  outcome.assessment.key

def outcomesForCriterion (fixture : Option ComparisonEvidenceFixtureSnapshot) (criterionKey : String)
    : List ComparisonEvaluationOutcome :=
  match fixture with
  | some fixture => fixture.evaluationOutcomes.filter (fun outcome =>
      exactCriterionKey outcome.criterion = criterionKey)
  | none => []

def checkedCount (value : Nat) (label : String) : Derivation Nat := do
  failIf (maxSafeInteger < value) (.range (label ++ " exceeds the exact safe comparison count range"))
  return value

def nonzeroVerdicts (counts : ComparisonVerdictCounts) : List EvaluationVerdict :=
  verdictFields.filter (fun verdict => counts.count verdict > 0)

def transitionKey (criterion : CriterionReference) (baseline candidate : EvaluationVerdict) : String :=
  exactCriterionKey criterion ++ ":" ++ EvaluationVerdict.text baseline ++ ":"
    ++ EvaluationVerdict.text candidate

def addTransition (criterion : CriterionReference) (transitions : ExactTransitions)
    (baseline candidate : EvaluationVerdict) (count : Nat)
    : ExactTransitions :=
  let key := transitionKey criterion baseline candidate
  match transitions.lookup key with
  | some existing => transitions.insert key { existing with count := existing.count + count }
  | none => transitions.insert key ⟨baseline, candidate, count, criterion⟩

def addUniqueAggregateTransitions (transitions : ExactTransitions) (criterion : CriterionReference)
    (baseline candidate : ComparisonVerdictCounts)
    : ExactTransitions × Bool :=
  let baselineVerdicts := nonzeroVerdicts baseline
  let candidateVerdicts := nonzeroVerdicts candidate
  if baseline.total = 0 then (transitions, true)
  else
    match baselineVerdicts, candidateVerdicts with
    | [baselineVerdict], _ =>
      (candidateVerdicts.foldl (fun transitions candidateVerdict => addTransition criterion transitions
        baselineVerdict candidateVerdict (candidate.count candidateVerdict)) transitions, true)
    | _, [candidateVerdict] =>
      (baselineVerdicts.foldl (fun transitions baselineVerdict => addTransition criterion transitions
        baselineVerdict candidateVerdict (baseline.count baselineVerdict)) transitions, true)
    | _, _ => (transitions, false)

def exactAssessmentMap (outcomes : List ComparisonEvaluationOutcome)
    : Table String ComparisonEvaluationOutcome :=
  Table.insertAll exactAssessmentKey ∅ outcomes

def sameOrderedKeys (baseline candidate : Table String ComparisonEvaluationOutcome) : Bool :=
  baseline.keys.length = candidate.keys.length ∧ ∀ key ∈ baseline.keys, key ∈ candidate.keys

abbrev FixtureMap := String → Option ComparisonEvidenceFixtureSnapshot

def invalidCaseContainsCriterion (comparisonCase : ComparisonCase) (criterionKey : String)
    (baselineFixtures candidateFixtures : FixtureMap)
    : Bool :=
  comparisonCase.state = .invalid
    ∧ (outcomesForCriterion (baselineFixtures comparisonCase.fixtureId) criterionKey ≠ []
      ∨ outcomesForCriterion (candidateFixtures comparisonCase.fixtureId) criterionKey ≠ [])

structure CriterionProgress where
  pairedCount : Nat
  pairedFixtureCount : Nat
  reasons : List ComparisonVerdictTransitionUnavailableReason
  transitions : ExactTransitions

def CriterionProgress.addReason (progress : CriterionProgress)
    (reason : ComparisonVerdictTransitionUnavailableReason)
    : CriterionProgress :=
  { progress with reasons := progress.reasons ++ [reason] }

def addOutcome (criterion : CriterionReference)
    (candidateByAssessment : Table String ComparisonEvaluationOutcome) (progress : CriterionProgress)
    (entry : Sigma (fun _ : String => ComparisonEvaluationOutcome))
    : CriterionProgress :=
  let baselineOutcome := entry.2
  match candidateByAssessment.lookup entry.1 with
  -- the two maps have the same keys
  | none => progress
  | some candidateOutcome =>
    if baselineOutcome.counts.total ≠ candidateOutcome.counts.total then
      progress.addReason .outcomeCountMismatch
    else
      let added := addUniqueAggregateTransitions progress.transitions criterion baselineOutcome.counts
        candidateOutcome.counts
      if added.2 = false then { progress with transitions := added.1 }.addReason .ambiguousAggregatePairing
      else
        { progress with
          pairedCount := progress.pairedCount + baselineOutcome.counts.total
          transitions := added.1 }

def addPairedCase (criterion : CriterionReference) (progress : CriterionProgress)
    (baselineOutcomes candidateOutcomes : List ComparisonEvaluationOutcome)
    : CriterionProgress :=
  if baselineOutcomes = [] ∨ candidateOutcomes = [] then progress.addReason .missingPairedEvidence
  else
    let baselineByAssessment := exactAssessmentMap baselineOutcomes
    let candidateByAssessment := exactAssessmentMap candidateOutcomes
    if sameOrderedKeys baselineByAssessment candidateByAssessment = false then
      progress.addReason .assessmentMismatch
    else baselineByAssessment.entries.foldl (addOutcome criterion candidateByAssessment) progress

def addCase (criterion : CriterionReference) (baselineFixtures candidateFixtures : FixtureMap)
    (progress : CriterionProgress) (comparisonCase : ComparisonCase)
    : CriterionProgress :=
  let criterionKey := exactCriterionKey criterion
  let progress :=
    if invalidCaseContainsCriterion comparisonCase criterionKey baselineFixtures candidateFixtures then
      progress.addReason .invalidPairedEvidence
    else progress
  if comparisonCase.state ≠ .paired then progress
  else
    addPairedCase criterion { progress with pairedFixtureCount := progress.pairedFixtureCount + 1 }
      (outcomesForCriterion (baselineFixtures comparisonCase.fixtureId) criterionKey)
      (outcomesForCriterion (candidateFixtures comparisonCase.fixtureId) criterionKey)

structure CriterionDerivation where
  pairedCount : Option Nat
  reasons : List ComparisonVerdictTransitionUnavailableReason
  transitions : List ComparisonVerdictTransition
  deriving DecidableEq

def parseTransition (value : ExactTransitionCount) : Derivation ComparisonVerdictTransition := do
  let count ← checkedCount value.count "Verdict transition count"
  let transition : ComparisonVerdictTransition := ⟨value.baseline, value.candidate, count, value.criterion⟩
  parseWith transition.Accepted .invalidResult transition

def deriveCriterionTransitions (criterion : CriterionReference) (cases : List ComparisonCase)
    (baselineFixtures candidateFixtures : FixtureMap)
    : Derivation CriterionDerivation :=
  let progress := cases.foldl (addCase criterion baselineFixtures candidateFixtures) ⟨0, 0, [], ∅⟩
  let reasons := progress.reasons ++ flag (progress.pairedFixtureCount = 0) .missingPairedEvidence
  if reasons ≠ [] then
    .ok ⟨none, orderedReasons ComparisonVerdictTransitionUnavailableReason.text reasons, []⟩
  else do
    let pairedCount ← checkedCount progress.pairedCount "Paired verdict transition total"
    let transitions ← ((sortBy Sigma.fst progress.transitions.entries).map Sigma.snd).mapM parseTransition
    return ⟨some pairedCount, [], transitions⟩

end Evaluation
end ProofStack

/-!
This module contains what the transitions of one assessment and of one criterion add up to.
-/

namespace ProofStack
namespace Evaluation

open Checks Combinatorics Comparison Reasons Sequence
open Assurance (CriterionReference EvaluationVerdict)
open Store (Table)

instance : Fintype EvaluationVerdict where
  elems := verdictFields.toFinset
  complete := fun verdict => by cases verdict <;> decide

theorem sum_verdictFields (f : EvaluationVerdict → Nat) : (verdictFields.map f).sum = ∑ verdict, f verdict := by
  have hnodup : verdictFields.Nodup := by decide
  exact (List.sum_toFinset f hnodup).symm

theorem transitionKey_inj {criterion : CriterionReference} {a b a' b' : EvaluationVerdict}
    (h : transitionKey criterion a b = transitionKey criterion a' b')
    : a = a' ∧ b = b' := by
  have hlist := congrArg String.toList h
  simp only [transitionKey, String.toList_append, List.append_assoc, List.append_cancel_left_eq] at hlist
  revert hlist
  cases a <;> cases a' <;> cases b <;> cases b' <;> decide

def tallyAt (transitions : ExactTransitions) (key : String) : Nat :=
  (transitions.lookup key).elim 0 (·.count)

variable {criterion : CriterionReference} {transitions : ExactTransitions}

theorem tallyAt_addTransition (a b : EvaluationVerdict) (count : Nat) (key : String)
    : tallyAt (addTransition criterion transitions a b count) key
        = tallyAt transitions key + if key = transitionKey criterion a b then count else 0 := by
  unfold addTransition tallyAt
  dsimp only
  split
  . next existing hexisting =>
    rw [Table.lookup_insert]
    split
    . next hkey =>
      rw [hkey, hexisting]
      rfl
    . rfl
  . next hnone =>
    rw [Table.lookup_insert]
    split
    . next hkey =>
      rw [hkey, hnone]
      simp
    . rfl

theorem tallyAt_foldl (cell : EvaluationVerdict → EvaluationVerdict × EvaluationVerdict)
    (count : EvaluationVerdict → Nat) (verdicts : List EvaluationVerdict) (key : String)
    : tallyAt (verdicts.foldl (fun transitions verdict => addTransition criterion transitions (cell verdict).1
          (cell verdict).2 (count verdict)) transitions) key
        = tallyAt transitions key + (verdicts.map (fun verdict =>
            if key = transitionKey criterion (cell verdict).1 (cell verdict).2 then count verdict
            else 0)).sum := by
  induction verdicts generalizing transitions with
  | nil => simp
  | cons verdict verdicts ih =>
    rw [List.foldl_cons, ih, tallyAt_addTransition, List.map_cons, List.sum_cons]
    omega

theorem sum_nonzeroVerdicts (counts : ComparisonVerdictCounts) (p : EvaluationVerdict → Prop) [DecidablePred p]
    : ((nonzeroVerdicts counts).map (fun verdict => if p verdict then counts.count verdict else 0)).sum
        = ∑ verdict, if p verdict then counts.count verdict else 0 := by
  rw [← sum_verdictFields]
  unfold nonzeroVerdicts
  induction verdictFields with
  | nil => rfl
  | cons verdict verdicts ih =>
    rw [List.filter_cons]
    split
    . rw [List.map_cons, List.map_cons, List.sum_cons, List.sum_cons, ih]
    . next hzero =>
      have : counts.count verdict = 0 := by simpa using hzero
      rw [List.map_cons, List.sum_cons, ih, this]
      simp

variable {counts : ComparisonVerdictCounts}

theorem mem_nonzeroVerdicts {verdict : EvaluationVerdict}
    : verdict ∈ nonzeroVerdicts counts ↔ counts.count verdict ≠ 0 := by
  unfold nonzeroVerdicts
  rw [List.mem_filter, decide_eq_true_eq, gt_iff_lt, Nat.pos_iff_ne_zero]
  have hmem : verdict ∈ verdictFields := by cases verdict <;> decide
  simp [hmem]

theorem nonzeroVerdicts_nodup (counts : ComparisonVerdictCounts) : (nonzeroVerdicts counts).Nodup := by
  have hnodup : verdictFields.Nodup := by decide
  exact hnodup.filter _

theorem concentrated_iff
    : Concentrated counts.count ↔ (nonzeroVerdicts counts).length ≤ 1 := by
  constructor
  . intro h
    match hverdicts : nonzeroVerdicts counts with
    | [] | [_] => simp
    | first :: second :: rest =>
      have hnodup := nonzeroVerdicts_nodup counts
      rw [hverdicts, List.nodup_cons] at hnodup
      have hfirst : counts.count first ≠ 0 := mem_nonzeroVerdicts.mp (by simp [hverdicts])
      have hsecond : counts.count second ≠ 0 := mem_nonzeroVerdicts.mp (by simp [hverdicts])
      rw [h first second hfirst hsecond] at hnodup
      exact absurd List.mem_cons_self hnodup.1
  . intro h a b ha hb
    exact eq_of_length_le_one h (mem_nonzeroVerdicts.mpr ha) (mem_nonzeroVerdicts.mpr hb)

def Complete (counts : ComparisonVerdictCounts) : Prop :=
  ∑ verdict, counts.count verdict = counts.total

theorem complete_of_accepted (h : counts.Accepted) : Complete counts := by
  have hissues := h.2.2
  rw [issue_eq_nil, not_not] at hissues
  unfold Complete
  rw [← sum_verdictFields, ← hissues]
  simp [verdictFields, ComparisonVerdictCounts.count]
  omega

structure Adds (criterion : CriterionReference) (before after : ExactTransitions)
    (matrix : EvaluationVerdict → EvaluationVerdict → Nat) : Prop where
  cells : ∀ a b, tallyAt after (transitionKey criterion a b)
    = tallyAt before (transitionKey criterion a b) + matrix a b
  others : ∀ key, (∀ a b, key ≠ transitionKey criterion a b) → after.lookup key = before.lookup key

theorem lookup_addTransition_of_ne {a b : EvaluationVerdict} {count : Nat} {key : String}
    (h : key ≠ transitionKey criterion a b)
    : (addTransition criterion transitions a b count).lookup key = transitions.lookup key := by
  unfold addTransition
  dsimp only
  split <;> rw [Table.lookup_insert, if_neg h]

theorem lookup_foldl_of_ne (cell : EvaluationVerdict → EvaluationVerdict × EvaluationVerdict)
    (count : EvaluationVerdict → Nat) (verdicts : List EvaluationVerdict) {key : String}
    (h : ∀ a b, key ≠ transitionKey criterion a b)
    : (verdicts.foldl (fun transitions verdict => addTransition criterion transitions (cell verdict).1
          (cell verdict).2 (count verdict)) transitions).lookup key = transitions.lookup key := by
  induction verdicts generalizing transitions with
  | nil => rfl
  | cons verdict verdicts ih => rw [List.foldl_cons, ih, lookup_addTransition_of_ne (h _ _)]

theorem adds_nonzeroVerdicts (counts : ComparisonVerdictCounts)
    (cell : EvaluationVerdict → EvaluationVerdict × EvaluationVerdict)
    : Adds criterion transitions
        ((nonzeroVerdicts counts).foldl (fun transitions verdict => addTransition criterion transitions
          (cell verdict).1 (cell verdict).2 (counts.count verdict)) transitions)
        (fun a b => ∑ verdict, if (a, b) = cell verdict then counts.count verdict else 0) := by
  constructor
  . intro a b
    rw [tallyAt_foldl, sum_nonzeroVerdicts]
    congr 1
    apply Finset.sum_congr rfl
    intro verdict _
    have hcell : transitionKey criterion a b = transitionKey criterion (cell verdict).1 (cell verdict).2
        ↔ (a, b) = cell verdict := by
      constructor
      . intro h
        exact Prod.ext (transitionKey_inj h).1 (transitionKey_inj h).2
      . intro h
        rw [← h]
    simp only [hcell]
  . intro key hkey
    exact lookup_foldl_of_ne cell counts.count _ hkey

theorem Adds.zero (criterion : CriterionReference) (transitions : ExactTransitions)
    : Adds criterion transitions transitions (fun _ _ => 0) :=
  ⟨fun _ _ => rfl, fun _ _ => rfl⟩

section Unique

variable {baseline candidate : ComparisonVerdictCounts}

theorem ne_zero_iff_of_singleton {only : EvaluationVerdict}
    (h : nonzeroVerdicts counts = [only]) (verdict : EvaluationVerdict)
    : counts.count verdict = 0 ↔ verdict ≠ only := by
  rw [← not_iff_not, not_not, ← ne_eq, ← mem_nonzeroVerdicts, h, List.mem_singleton]

theorem sum_row_eq_fillRow {only : EvaluationVerdict} (h : nonzeroVerdicts baseline = [only])
    (a b : EvaluationVerdict)
    : (∑ verdict, if (a, b) = (only, verdict) then candidate.count verdict else 0)
        = fillRow baseline.count candidate.count a b := by
  unfold fillRow
  simp only [Prod.mk.injEq, ne_zero_iff_of_singleton h]
  by_cases ha : a = only
  . simp [ha]
  . simp [ha]

theorem nonzeroVerdicts_ne_nil (hcomplete : Complete baseline) (htotal : baseline.total ≠ 0)
    : nonzeroVerdicts baseline ≠ [] := by
  intro hnil
  apply htotal
  rw [← hcomplete]
  apply Finset.sum_eq_zero
  intro verdict _
  by_contra hverdict
  have hmem := mem_nonzeroVerdicts.mpr hverdict
  rw [hnil] at hmem
  contradiction

theorem not_concentrated (hcomplete : Complete baseline) (htotal : baseline.total ≠ 0)
    (hmany : ∀ only, nonzeroVerdicts baseline ≠ [only])
    : ¬Concentrated baseline.count := by
  rw [concentrated_iff]
  have hnil := nonzeroVerdicts_ne_nil hcomplete htotal
  match h : nonzeroVerdicts baseline with
  | [] => exact absurd h hnil
  | [only] => exact absurd h (hmany only)
  | _ :: _ :: _ => simp

theorem addUniqueAggregateTransitions_cases (transitions : ExactTransitions) (criterion : CriterionReference)
    (hbaseline : Complete baseline) (hcandidate : Complete candidate)
    (htotal : baseline.total = candidate.total)
    : (∃ m, addUniqueAggregateTransitions transitions criterion baseline candidate
            = ((addUniqueAggregateTransitions transitions criterion baseline candidate).1, true)
          ∧ HasMargins m baseline.count candidate.count
          ∧ (Concentrated baseline.count ∨ Concentrated candidate.count)
          ∧ Adds criterion transitions
              (addUniqueAggregateTransitions transitions criterion baseline candidate).1 m)
        ∨ addUniqueAggregateTransitions transitions criterion baseline candidate = (transitions, false)
          ∧ ¬Concentrated baseline.count ∧ ¬Concentrated candidate.count := by
  have hsums : ∑ a, baseline.count a = ∑ b, candidate.count b := by rw [hbaseline, hcandidate, htotal]
  unfold addUniqueAggregateTransitions
  dsimp only
  split
  . next hzero =>
    have hrows : ∀ a, baseline.count a = 0 := by
      intro a
      rw [Complete, hzero] at hbaseline
      exact Finset.sum_eq_zero_iff.mp hbaseline a (Finset.mem_univ a)
    have hconcentrated : Concentrated baseline.count := fun a _ ha => absurd (hrows a) ha
    have hfill : fillRow baseline.count candidate.count = fun _ _ => 0 := by
      funext a b
      rw [fillRow, if_pos (hrows a)]
    refine .inl ⟨fillRow baseline.count candidate.count, rfl, hasMargins_fillRow hconcentrated hsums,
      .inl hconcentrated, ?_⟩
    rw [hfill]
    exact Adds.zero criterion transitions
  . next hne =>
    split
    . next only hbaselineVerdicts =>
      have hconcentrated : Concentrated baseline.count := concentrated_iff.mpr (by simp [hbaselineVerdicts])
      refine .inl ⟨fillRow baseline.count candidate.count, rfl, hasMargins_fillRow hconcentrated hsums,
        .inl hconcentrated, ?_⟩
      have hadds := @adds_nonzeroVerdicts criterion transitions candidate (fun verdict => (only, verdict))
      simp only [sum_row_eq_fillRow hbaselineVerdicts] at hadds
      exact hadds
    . next only hcandidateVerdicts hnot =>
      have hconcentrated : Concentrated candidate.count :=
        concentrated_iff.mpr (by simp [hcandidateVerdicts])
      refine .inl ⟨fun a b => fillRow candidate.count baseline.count b a, rfl,
        (hasMargins_fillRow hconcentrated hsums.symm).transpose, .inr hconcentrated, ?_⟩
      have hadds := @adds_nonzeroVerdicts criterion transitions baseline (fun verdict => (verdict, only))
      have hswap (a b verdict : EvaluationVerdict) : (a, b) = (verdict, only) ↔ (b, a) = (only, verdict) := by
        simp only [Prod.mk.injEq, and_comm]
      simp only [hswap, sum_row_eq_fillRow hcandidateVerdicts] at hadds
      exact hadds
    . next hbaselineMany hcandidateMany =>
      exact .inr ⟨rfl, not_concentrated hbaseline hne hbaselineMany,
        not_concentrated hcandidate (htotal ▸ hne) hcandidateMany⟩

theorem addUniqueAggregateTransitions_spec (transitions : ExactTransitions) (criterion : CriterionReference)
    (hbaseline : Complete baseline) (hcandidate : Complete candidate)
    (htotal : baseline.total = candidate.total)
    : let added := addUniqueAggregateTransitions transitions criterion baseline candidate
      (added.2 = true ↔ ∃! m, HasMargins m baseline.count candidate.count)
        ∧ (∀ m, added.2 = true → HasMargins m baseline.count candidate.count →
            Adds criterion transitions added.1 m)
        ∧ (added.2 = false → added.1 = transitions) := by
  have hsums : ∑ a, baseline.count a = ∑ b, candidate.count b := by rw [hbaseline, hcandidate, htotal]
  intro added
  have hunique := existsUnique_hasMargins_iff hsums
  rcases addUniqueAggregateTransitions_cases transitions criterion hbaseline hcandidate htotal with h | h
  . rcases h with ⟨m, hadded, hm, hconcentrated, hadds⟩
    have htrue : added.2 = true := congrArg Prod.snd hadded
    refine ⟨iff_of_true htrue (hunique.mpr hconcentrated), ?_, ?_⟩
    . intro m' _ hm'
      rw [(hunique.mpr hconcentrated).unique hm' hm]
      exact hadds
    . intro hfalse
      rw [htrue] at hfalse
      contradiction
  . rcases h with ⟨hadded, hrow, hcolumn⟩
    have hfalse : added.2 = false := congrArg Prod.snd hadded
    refine ⟨iff_of_false (by simp [hfalse]) (fun h => (hunique.mp h).elim hrow hcolumn), ?_, ?_⟩
    . intro m' htrue
      rw [hfalse] at htrue
      contradiction
    . exact fun _ => congrArg Prod.fst hadded

end Unique

end Evaluation
end ProofStack
