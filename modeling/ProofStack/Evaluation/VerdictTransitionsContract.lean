import ProofStack.Evaluation.VerdictTransitions

/-!
This module contains the contract of the transitions between verdicts.
-/

namespace ProofStack
namespace Evaluation

open Checks Combinatorics Comparison Reasons Sequence
open Assurance (CriterionReference EvaluationVerdict)
open Store (Table)

structure OutcomesOf (outcomes : List ComparisonEvaluationOutcome) : Prop where
  accepted : ∀ outcome ∈ outcomes, outcome.Accepted
  keys : (outcomes.map exactAssessmentKey).Nodup

theorem outcomesOf_fixture {isNFC : String → Bool} {fixture : ComparisonEvidenceFixtureSnapshot}
    (h : fixture.Accepted isNFC) (criterionKey : String)
    : OutcomesOf (outcomesForCriterion (some fixture) criterionKey) := by
  have haccepted : ∀ outcome ∈ outcomesForCriterion (some fixture) criterionKey,
      outcome ∈ fixture.evaluationOutcomes ∧ exactCriterionKey outcome.criterion = criterionKey := by
    intro outcome hmem
    unfold outcomesForCriterion at hmem
    simpa using hmem
  constructor
  . exact fun outcome hmem => h.evaluationOutcomes outcome (haccepted outcome hmem).1
  . have hnodup : (outcomesForCriterion (some fixture) criterionKey).Nodup :=
      (nodup_of_sorted h.evaluationOutcomes_sorted).filter _
    apply List.Nodup.map_on _ hnodup
    intro outcome hmem outcome' hmem' hkey
    rcases haccepted outcome hmem with ⟨hmem, hcriterion⟩
    rcases haccepted outcome' hmem' with ⟨hmem', hcriterion'⟩
    have hsame := criterionKey_inj (h.evaluationOutcomes outcome hmem).2.2
      (h.evaluationOutcomes outcome' hmem').2.2 (hcriterion.trans hcriterion'.symm)
    apply List.inj_on_of_nodup_map h.evaluationOutcomes_sorted.nodup hmem hmem'
    unfold exactAssessmentKey at hkey
    unfold ComparisonEvidenceFixtureSnapshot.outcomeKey
    rw [hsame, hkey]

theorem outcomesOf_fixtureMap {isNFC : String → Bool} {snapshot : ComparisonEvidenceSnapshot}
    (h : snapshot.Accepted isNFC) (fixtureId criterionKey : String)
    : OutcomesOf (outcomesForCriterion (fixtureMap snapshot fixtureId) criterionKey) := by
  cases hfixture : fixtureMap snapshot fixtureId with
  | none => exact ⟨nofun, List.nodup_nil⟩
  | some fixture => exact outcomesOf_fixture (fixtureMap_accepted h hfixture) criterionKey

variable {outcomes : List ComparisonEvaluationOutcome}

theorem OutcomesOf.values_perm (h : OutcomesOf outcomes)
    : (Table.values (exactAssessmentMap outcomes)).Perm outcomes := by
  have hperm : (Table.values (exactAssessmentMap outcomes)).Perm (outcomes ++ Table.values ∅) :=
    Table.insertAll_values_perm h.keys (fun _ _ => AList.notMem_empty _)
  exact hperm.trans (by simp [Table.values])

theorem OutcomesOf.complete (h : OutcomesOf outcomes)
    {key : String} {outcome : ComparisonEvaluationOutcome}
    (hlookup : (exactAssessmentMap outcomes).lookup key = some outcome)
    : Complete outcome.counts := by
  have hmem := h.values_perm.mem_iff.mp (Table.mem_values.mpr ⟨key, hlookup⟩)
  exact complete_of_accepted (h.accepted outcome hmem).2.1

theorem keys_perm_of_sameOrderedKeys {baseline candidate : Table String ComparisonEvaluationOutcome}
    (h : sameOrderedKeys baseline candidate = true)
    : baseline.keys.Perm candidate.keys := by
  unfold sameOrderedKeys at h
  rw [decide_eq_true_eq] at h
  exact (baseline.keys_nodup.subperm h.2).perm_of_length_le h.1.ge

variable {criterion : CriterionReference}

def OfCriterion (criterion : CriterionReference) (transitions : ExactTransitions) : Prop :=
  ∀ key row, transitions.lookup key = some row →
    row.criterion = criterion ∧ key = transitionKey criterion row.baseline row.candidate

variable {transitions : ExactTransitions}

theorem OfCriterion.addTransition (h : OfCriterion criterion transitions)
    (a b : EvaluationVerdict) (count : Nat)
    : OfCriterion criterion (addTransition criterion transitions a b count) := by
  intro key row hlookup
  unfold Evaluation.addTransition at hlookup
  dsimp only at hlookup
  split at hlookup
  . next existing hexisting =>
    rcases Table.lookup_insert_eq_some hlookup with ⟨rfl, rfl⟩ | ⟨_, hlookup⟩
    . exact h _ existing hexisting
    . exact h key row hlookup
  . rcases Table.lookup_insert_eq_some hlookup with ⟨rfl, rfl⟩ | ⟨_, hlookup⟩
    . exact ⟨rfl, rfl⟩
    . exact h key row hlookup

theorem OfCriterion.foldl (h : OfCriterion criterion transitions)
    (cell : EvaluationVerdict → EvaluationVerdict × EvaluationVerdict) (count : EvaluationVerdict → Nat)
    (verdicts : List EvaluationVerdict)
    : OfCriterion criterion (verdicts.foldl (fun transitions verdict => Evaluation.addTransition criterion
        transitions (cell verdict).1 (cell verdict).2 (count verdict)) transitions) := by
  induction verdicts generalizing transitions with
  | nil => exact h
  | cons verdict verdicts ih => exact ih (h.addTransition _ _ _)

theorem OfCriterion.addUnique (h : OfCriterion criterion transitions)
    (baseline candidate : ComparisonVerdictCounts)
    : OfCriterion criterion (addUniqueAggregateTransitions transitions criterion baseline candidate).1 := by
  unfold addUniqueAggregateTransitions
  dsimp only
  split
  . exact h
  . split
    . next only _ => exact h.foldl (fun verdict => (only, verdict)) candidate.count (nonzeroVerdicts candidate)
    . next only _ _ => exact h.foldl (fun verdict => (verdict, only)) baseline.count (nonzeroVerdicts baseline)
    . exact h

structure Accounts (criterion : CriterionReference) (progress : CriterionProgress)
    (row column : EvaluationVerdict → Nat) (paired : Nat) : Prop where
  margins : HasMargins (fun a b => tallyAt progress.transitions (transitionKey criterion a b)) row column
  paired : progress.pairedCount = paired
  ofCriterion : OfCriterion criterion progress.transitions

theorem Accounts.start (criterion : CriterionReference)
    : Accounts criterion ⟨0, 0, [], ∅⟩ (fun _ => 0) (fun _ => 0) 0 :=
  ⟨HasMargins.zero, rfl, fun _ _ h => absurd h (by simp)⟩

theorem reasons_prefix_addOutcome (candidateByAssessment : Table String ComparisonEvaluationOutcome)
    (progress : CriterionProgress) (entry : Sigma (fun _ : String => ComparisonEvaluationOutcome))
    : progress.reasons <+: (addOutcome criterion candidateByAssessment progress entry).reasons := by
  unfold addOutcome
  dsimp only
  split
  . exact List.prefix_rfl
  . split
    . exact List.prefix_append _ _
    . split
      . exact List.prefix_append _ _
      . exact List.prefix_rfl

theorem reasons_prefix_foldl {α : Type} {step : CriterionProgress → α → CriterionProgress}
    (hstep : ∀ progress row, progress.reasons <+: (step progress row).reasons) (rows : List α)
    (progress : CriterionProgress)
    : progress.reasons <+: (rows.foldl step progress).reasons := by
  induction rows generalizing progress with
  | nil => exact List.prefix_rfl
  | cons row rows ih => exact (hstep progress row).trans (ih (step progress row))

theorem reasons_prefix_addPairedCase (progress : CriterionProgress)
    (baselineOutcomes candidateOutcomes : List ComparisonEvaluationOutcome)
    : progress.reasons <+: (addPairedCase criterion progress baselineOutcomes candidateOutcomes).reasons := by
  unfold addPairedCase
  split
  . exact List.prefix_append _ _
  . dsimp only
    split
    . exact List.prefix_append _ _
    . exact reasons_prefix_foldl (reasons_prefix_addOutcome _) _ progress

theorem reasons_prefix_addCase (baselineFixtures candidateFixtures : FixtureMap) (progress : CriterionProgress)
    (comparisonCase : ComparisonCase)
    : progress.reasons
        <+: (addCase criterion baselineFixtures candidateFixtures progress comparisonCase).reasons := by
  unfold addCase
  dsimp only
  have hinvalid : progress.reasons <+: (if invalidCaseContainsCriterion comparisonCase
      (exactCriterionKey criterion) baselineFixtures candidateFixtures = true
      then progress.addReason .invalidPairedEvidence else progress).reasons := by
    split
    . exact List.prefix_append _ _
    . exact List.prefix_rfl
  split
  . exact hinvalid
  . refine hinvalid.trans (List.IsPrefix.trans ?_ (reasons_prefix_addPairedCase _ _ _))
    exact List.prefix_rfl

theorem eq_nil_of_prefix {α : Type} {rows rows' : List α} (h : rows <+: rows') (hnil : rows' = []) : rows = [] := by
  rw [hnil] at h
  exact List.prefix_nil.mp h

section Step

variable {progress : CriterionProgress} {row column : EvaluationVerdict → Nat} {paired : Nat}

theorem Accounts.addOutcome (h : Accounts criterion progress row column paired)
    {candidateByAssessment : Table String ComparisonEvaluationOutcome}
    {entry : Sigma (fun _ : String => ComparisonEvaluationOutcome)}
    {candidateOutcome : ComparisonEvaluationOutcome}
    (hlookup : candidateByAssessment.lookup entry.1 = some candidateOutcome)
    (hbaseline : Complete entry.2.counts) (hcandidate : Complete candidateOutcome.counts)
    (hreasons : (addOutcome criterion candidateByAssessment progress entry).reasons = [])
    : Accounts criterion (addOutcome criterion candidateByAssessment progress entry)
        (fun a => row a + entry.2.counts.count a) (fun b => column b + candidateOutcome.counts.count b)
        (paired + entry.2.counts.total) := by
  unfold Evaluation.addOutcome at hreasons ⊢
  simp only [hlookup] at hreasons ⊢
  split at hreasons
  . simp [CriterionProgress.addReason] at hreasons
  . next htotal =>
    rw [not_not] at htotal
    split at hreasons
    . simp [CriterionProgress.addReason] at hreasons
    . next hadded =>
      rw [if_neg (not_not.mpr htotal), if_neg hadded]
      have hspec := addUniqueAggregateTransitions_spec progress.transitions criterion hbaseline hcandidate htotal
      rw [Bool.not_eq_false] at hadded
      rcases (hspec.1.mp hadded).exists with ⟨m, hm⟩
      have hadds := hspec.2.1 m hadded hm
      refine ⟨?_, congrArg (· + entry.2.counts.total) h.paired, h.ofCriterion.addUnique _ _⟩
      simp only [hadds.cells]
      exact h.margins.add hm

theorem Accounts.foldl_addOutcome (h : Accounts criterion progress row column paired)
    {candidateByAssessment : Table String ComparisonEvaluationOutcome}
    {entries : List (Sigma (fun _ : String => ComparisonEvaluationOutcome))}
    (hentries : ∀ entry ∈ entries, Complete entry.2.counts
      ∧ ∃ outcome, candidateByAssessment.lookup entry.1 = some outcome ∧ Complete outcome.counts)
    (hreasons : (entries.foldl (Evaluation.addOutcome criterion candidateByAssessment) progress).reasons = [])
    : Accounts criterion (entries.foldl (Evaluation.addOutcome criterion candidateByAssessment) progress)
        (fun a => row a + (entries.map (fun entry => entry.2.counts.count a)).sum)
        (fun b => column b + (entries.map (fun entry =>
          (candidateByAssessment.lookup entry.1).elim 0 (·.counts.count b))).sum)
        (paired + (entries.map (fun entry => entry.2.counts.total)).sum) := by
  induction entries generalizing progress row column paired with
  | nil => simpa using h
  | cons entry entries ih =>
    rw [List.forall_mem_cons] at hentries
    rcases hentries with ⟨⟨hbaseline, candidateOutcome, hlookup, hcandidate⟩, hrest⟩
    rw [List.foldl_cons] at hreasons ⊢
    have hnext := eq_nil_of_prefix (reasons_prefix_foldl (reasons_prefix_addOutcome _) entries _) hreasons
    have hstep := ih (h.addOutcome hlookup hbaseline hcandidate hnext) hrest hreasons
    simpa only [List.map_cons, List.sum_cons, hlookup, Option.elim_some, Nat.add_assoc] using hstep

theorem Accounts.addPairedCase (h : Accounts criterion progress row column paired)
    {baselineOutcomes candidateOutcomes : List ComparisonEvaluationOutcome}
    (hbaseline : OutcomesOf baselineOutcomes) (hcandidate : OutcomesOf candidateOutcomes)
    (hreasons : (addPairedCase criterion progress baselineOutcomes candidateOutcomes).reasons = [])
    : Accounts criterion (addPairedCase criterion progress baselineOutcomes candidateOutcomes)
        (fun a => row a + (baselineOutcomes.map (·.counts.count a)).sum)
        (fun b => column b + (candidateOutcomes.map (·.counts.count b)).sum)
        (paired + (baselineOutcomes.map (·.counts.total)).sum) := by
  unfold Evaluation.addPairedCase at hreasons ⊢
  split at hreasons
  . simp [CriterionProgress.addReason] at hreasons
  . next hsome =>
    rw [if_neg hsome]
    dsimp only at hreasons ⊢
    split at hreasons
    . simp [CriterionProgress.addReason] at hreasons
    . next hkeys =>
      rw [if_neg hkeys]
      rw [Bool.not_eq_false] at hkeys
      have hperm := keys_perm_of_sameOrderedKeys hkeys
      have hentries : ∀ entry ∈ (exactAssessmentMap baselineOutcomes).entries, Complete entry.2.counts
          ∧ ∃ outcome, (exactAssessmentMap candidateOutcomes).lookup entry.1 = some outcome
            ∧ Complete outcome.counts := by
        intro entry hentry
        have hkey : entry.1 ∈ (exactAssessmentMap candidateOutcomes).keys :=
          hperm.mem_iff.mp (List.mem_map_of_mem hentry)
        rcases Option.isSome_iff_exists.mp (AList.lookup_isSome.mpr hkey) with ⟨outcome, hlookup⟩
        exact ⟨hbaseline.complete (AList.mem_lookup_iff.mpr hentry), outcome, hlookup,
          hcandidate.complete hlookup⟩
      have hvalues (f : ComparisonEvaluationOutcome → Nat)
          : ((exactAssessmentMap baselineOutcomes).entries.map (fun entry => f entry.2)).sum
              = (baselineOutcomes.map f).sum := by
        rw [← (hbaseline.values_perm.map f).sum_eq, Table.values, List.map_map]
        rfl
      have hcandidates (f : ComparisonEvaluationOutcome → Nat)
          : ((exactAssessmentMap baselineOutcomes).entries.map (fun entry =>
                ((exactAssessmentMap candidateOutcomes).lookup entry.1).elim 0 f)).sum
              = (candidateOutcomes.map f).sum := by
        rw [← (hcandidate.values_perm.map f).sum_eq, Table.sum_values_eq_keys,
          ← (hperm.map _).sum_eq, AList.keys, List.keys, List.map_map]
        rfl
      have hcounts (verdict : EvaluationVerdict) := hvalues (·.counts.count verdict)
      have htotal := hvalues (·.counts.total)
      have hfold := h.foldl_addOutcome hentries hreasons
      simp only [hcounts, htotal, hcandidates] at hfold
      exact hfold

end Step

section Cases

variable {baseline candidate : ComparisonEvidenceSnapshot} {isNFC : String → Bool}

def pairedOutcomes (fixtures : FixtureMap) (cases : List ComparisonCase) (criterion : CriterionReference)
    : List ComparisonEvaluationOutcome :=
  (cases.filter (·.state = .paired)).flatMap (fun comparisonCase =>
    outcomesForCriterion (fixtures comparisonCase.fixtureId) (exactCriterionKey criterion))

theorem pairedOutcomes_cons (fixtures : FixtureMap) (comparisonCase : ComparisonCase)
    (cases : List ComparisonCase) (criterion : CriterionReference)
    : pairedOutcomes fixtures (comparisonCase :: cases) criterion
        = (if comparisonCase.state = .paired then
            outcomesForCriterion (fixtures comparisonCase.fixtureId) (exactCriterionKey criterion)
          else []) ++ pairedOutcomes fixtures cases criterion := by
  unfold pairedOutcomes
  rw [List.filter_cons]
  by_cases h : comparisonCase.state = .paired <;> simp [h]

variable {row column : EvaluationVerdict → Nat}
variable {progress : CriterionProgress}

theorem Accounts.addCase {paired : Nat}
    (h : Accounts criterion progress row column paired) (hbaseline : baseline.Accepted isNFC)
    (hcandidate : candidate.Accepted isNFC) (comparisonCase : ComparisonCase)
    (hreasons : (addCase criterion (fixtureMap baseline) (fixtureMap candidate) progress comparisonCase).reasons
      = [])
    : Accounts criterion (addCase criterion (fixtureMap baseline) (fixtureMap candidate) progress comparisonCase)
        (fun a => row a
          + ((pairedOutcomes (fixtureMap baseline) [comparisonCase] criterion).map (·.counts.count a)).sum)
        (fun b => column b
          + ((pairedOutcomes (fixtureMap candidate) [comparisonCase] criterion).map (·.counts.count b)).sum)
        (paired
          + ((pairedOutcomes (fixtureMap baseline) [comparisonCase] criterion).map (·.counts.total)).sum) := by
  simp only [pairedOutcomes_cons]
  unfold Evaluation.addCase at hreasons ⊢
  dsimp only at hreasons ⊢
  split at hreasons
  . next hstate =>
    rw [if_pos hstate]
    simp only [hstate, if_false]
    split at hreasons
    . simp [CriterionProgress.addReason] at hreasons
    . next hvalid =>
      rw [if_neg hvalid]
      simpa [pairedOutcomes] using h
  . next hstate =>
    rw [not_not] at hstate
    have hvalid : ¬invalidCaseContainsCriterion comparisonCase (exactCriterionKey criterion)
        (fixtureMap baseline) (fixtureMap candidate) = true := by
      simp [invalidCaseContainsCriterion, hstate]
    rw [if_neg (not_not.mpr hstate), if_neg hvalid]
    rw [if_neg hvalid] at hreasons
    have hprogress : Accounts criterion
        { progress with pairedFixtureCount := progress.pairedFixtureCount + 1 } row column paired :=
      ⟨h.margins, h.paired, h.ofCriterion⟩
    have hadded := hprogress.addPairedCase (outcomesOf_fixtureMap hbaseline _ _)
      (outcomesOf_fixtureMap hcandidate _ _) hreasons
    simpa [hstate, pairedOutcomes] using hadded

theorem Accounts.foldl_addCase
    {paired : Nat} (h : Accounts criterion progress row column paired) (hbaseline : baseline.Accepted isNFC)
    (hcandidate : candidate.Accepted isNFC) (cases : List ComparisonCase)
    (hreasons : (cases.foldl (Evaluation.addCase criterion (fixtureMap baseline) (fixtureMap candidate))
      progress).reasons = [])
    : Accounts criterion
        (cases.foldl (Evaluation.addCase criterion (fixtureMap baseline) (fixtureMap candidate)) progress)
        (fun a => row a + ((pairedOutcomes (fixtureMap baseline) cases criterion).map (·.counts.count a)).sum)
        (fun b => column b
          + ((pairedOutcomes (fixtureMap candidate) cases criterion).map (·.counts.count b)).sum)
        (paired + ((pairedOutcomes (fixtureMap baseline) cases criterion).map (·.counts.total)).sum) := by
  induction cases generalizing progress row column paired with
  | nil => simpa [pairedOutcomes] using h
  | cons comparisonCase cases ih =>
    rw [List.foldl_cons] at hreasons ⊢
    have hnext := eq_nil_of_prefix (reasons_prefix_foldl (reasons_prefix_addCase _ _) cases _) hreasons
    have hstep := ih (h.addCase hbaseline hcandidate comparisonCase hnext) hreasons
    have hsplit (fixtures : FixtureMap) : pairedOutcomes fixtures (comparisonCase :: cases) criterion
        = pairedOutcomes fixtures [comparisonCase] criterion ++ pairedOutcomes fixtures cases criterion := by
      rw [pairedOutcomes_cons, pairedOutcomes_cons]
      simp [pairedOutcomes]
    simpa only [hsplit, List.map_append, List.sum_append, Nat.add_assoc] using hstep

theorem checkedCount_eq_ok {value count : Nat} {label : String} (h : checkedCount value label = .ok count)
    : count = value := by
  unfold checkedCount at h
  rw [bind_eq_ok] at h
  rcases h with ⟨_, _, h⟩
  exact (pure_eq_ok.mp h).symm

theorem parseTransition_eq_ok {row : ExactTransitionCount} {transition : ComparisonVerdictTransition}
    (h : parseTransition row = .ok transition)
    : transition = ⟨row.baseline, row.candidate, row.count, row.criterion⟩ := by
  unfold parseTransition at h
  rw [bind_eq_ok] at h
  rcases h with ⟨count, hcount, h⟩
  rw [parseWith_eq_ok] at h
  rw [← h.2, checkedCount_eq_ok hcount]

structure CriterionContract (criterion : CriterionReference) (cases : List ComparisonCase)
    (baseline candidate : ComparisonEvidenceSnapshot) (transitions : List ComparisonVerdictTransition)
    (pairedCount : Nat) : Prop where
  total : (transitions.map (·.count)).sum = pairedCount
  baselineTotal : ((pairedOutcomes (fixtureMap baseline) cases criterion).map (·.counts.total)).sum
    = pairedCount
  candidateTotal : ((pairedOutcomes (fixtureMap candidate) cases criterion).map (·.counts.total)).sum
    = pairedCount
  row : ∀ a, ((transitions.filter (·.baseline = a)).map (·.count)).sum
    = ((pairedOutcomes (fixtureMap baseline) cases criterion).map (·.counts.count a)).sum
  column : ∀ b, ((transitions.filter (·.candidate = b)).map (·.count)).sum
    = ((pairedOutcomes (fixtureMap candidate) cases criterion).map (·.counts.count b)).sum
  criterion : ∀ transition ∈ transitions, transition.criterion = criterion

theorem tallyAt_of (h : OfCriterion criterion transitions)
    (p : EvaluationVerdict → EvaluationVerdict → Prop) [DecidableRel p] (a b : EvaluationVerdict)
    : (transitions.lookup (transitionKey criterion a b)).elim 0
          (fun row => if p row.baseline row.candidate then row.count else 0)
        = if p a b then tallyAt transitions (transitionKey criterion a b) else 0 := by
  unfold tallyAt
  cases hlookup : transitions.lookup (transitionKey criterion a b) with
  | none => simp
  | some row =>
    rcases transitionKey_inj (h _ row hlookup).2 with ⟨rfl, rfl⟩
    rfl

theorem sum_transitions (h : OfCriterion criterion transitions)
    (p : EvaluationVerdict → EvaluationVerdict → Prop) [DecidableRel p]
    : ((Table.values transitions).map (fun row => if p row.baseline row.candidate then row.count else 0)).sum
        = ∑ a, ∑ b, if p a b then tallyAt transitions (transitionKey criterion a b) else 0 := by
  have hinjective : Function.Injective (fun cell : EvaluationVerdict × EvaluationVerdict =>
      transitionKey criterion cell.1 cell.2) :=
    fun _ _ hkey => Prod.ext (transitionKey_inj hkey).1 (transitionKey_inj hkey).2
  rw [Table.sum_values hinjective, Fintype.sum_prod_type]
  . simp only [tallyAt_of h]
  . intro key hkey
    rcases Option.isSome_iff_exists.mp (AList.lookup_isSome.mpr hkey) with ⟨row, hlookup⟩
    exact ⟨(row.baseline, row.candidate), (h key row hlookup).2.symm⟩

theorem Accounts.total {paired : Nat}
    (h : Accounts criterion progress row column paired)
    : ((Table.values progress.transitions).map (·.count)).sum = ∑ a, row a := by
  have hsum := sum_transitions h.ofCriterion (fun _ _ => True)
  simp only [if_true, h.margins.row] at hsum
  exact hsum

theorem Accounts.rows {paired : Nat}
    (h : Accounts criterion progress row column paired) (a : EvaluationVerdict)
    : ((Table.values progress.transitions).map (fun transition =>
        if transition.baseline = a then transition.count else 0)).sum = row a := by
  rw [sum_transitions h.ofCriterion (fun baseline _ => baseline = a), ← h.margins.row a]
  rw [Finset.sum_eq_single a]
  . simp
  . intro a' _ hne
    simp [hne]
  . simp

theorem Accounts.columns {paired : Nat}
    (h : Accounts criterion progress row column paired) (b : EvaluationVerdict)
    : ((Table.values progress.transitions).map (fun transition =>
        if transition.candidate = b then transition.count else 0)).sum = column b := by
  rw [sum_transitions h.ofCriterion (fun _ candidate => candidate = b), ← h.margins.column b]
  simp

theorem sum_count
    (h : ∀ outcome ∈ outcomes, Complete outcome.counts)
    : ∑ verdict, (outcomes.map (·.counts.count verdict)).sum = (outcomes.map (·.counts.total)).sum := by
  induction outcomes with
  | nil => simp
  | cons outcome outcomes ih =>
    rw [List.forall_mem_cons] at h
    simp only [List.map_cons, List.sum_cons, Finset.sum_add_distrib, ih h.2]
    rw [h.1]

theorem pairedOutcomes_complete {snapshot : ComparisonEvidenceSnapshot} (h : snapshot.Accepted isNFC)
    (cases : List ComparisonCase) (criterion : CriterionReference)
    : ∀ outcome ∈ pairedOutcomes (fixtureMap snapshot) cases criterion, Complete outcome.counts := by
  intro outcome hmem
  unfold pairedOutcomes at hmem
  rcases List.mem_flatMap.mp hmem with ⟨comparisonCase, _, houtcome⟩
  exact complete_of_accepted ((outcomesOf_fixtureMap h _ _).accepted outcome houtcome).2.1

theorem sum_filter_map {α : Type} (rows : List α) (p : α → Prop) [DecidablePred p] (f : α → Nat)
    : ((rows.filter (fun row => p row)).map f).sum = (rows.map (fun row => if p row then f row else 0)).sum := by
  induction rows with
  | nil => rfl
  | cons row rows ih =>
    rw [List.filter_cons]
    by_cases h : p row <;> simp [h, ih]

def transitionOf (row : ExactTransitionCount) : ComparisonVerdictTransition :=
  ⟨row.baseline, row.candidate, row.count, row.criterion⟩

theorem transitions_perm {result : List ComparisonVerdictTransition}
    (h : ((sortBy Sigma.fst transitions.entries).map Sigma.snd).mapM parseTransition = .ok result)
    : result.Perm ((Table.values transitions).map transitionOf) := by
  rw [mapM_eq_ok_map (fun row transition => parseTransition_eq_ok) h]
  exact ((sortBy_perm Sigma.fst transitions.entries).map Sigma.snd).map transitionOf

theorem criterionContract {cases : List ComparisonCase} {derivation : CriterionDerivation} {pairedCount : Nat}
    (hbaseline : baseline.Accepted isNFC) (hcandidate : candidate.Accepted isNFC)
    (h : deriveCriterionTransitions criterion cases (fixtureMap baseline) (fixtureMap candidate)
      = .ok derivation)
    (havailable : derivation.pairedCount = some pairedCount)
    : CriterionContract criterion cases baseline candidate derivation.transitions pairedCount := by
  unfold deriveCriterionTransitions at h
  dsimp only at h
  split at h
  . cases h
    contradiction
  . next hreasons =>
    rw [not_not, List.append_eq_nil_iff] at hreasons
    have haccounts := (Accounts.start criterion).foldl_addCase hbaseline hcandidate cases hreasons.1
    simp only [Nat.zero_add] at haccounts
    simp only [bind_eq_ok, pure_eq_ok] at h
    rcases h with ⟨count, hcount, transitions, htransitions, rfl⟩
    cases havailable
    have hpaired := (checkedCount_eq_ok hcount).trans haccounts.paired
    have hperm := transitions_perm htransitions
    have hsum (f : ComparisonVerdictTransition → Nat) := (hperm.map f).sum_eq
    simp only [List.map_map] at hsum
    have hbaselineTotal := sum_count (pairedOutcomes_complete hbaseline cases criterion)
    have hcandidateTotal := sum_count (pairedOutcomes_complete hcandidate cases criterion)
    refine ⟨?_, hpaired.symm, ?_, ?_, ?_, ?_⟩
    . rw [hpaired, ← hbaselineTotal, ← haccounts.total]
      exact hsum (·.count)
    . rw [hpaired, ← hcandidateTotal, ← hbaselineTotal]
      exact haccounts.margins.total.symm
    . intro a
      rw [sum_filter_map, ← haccounts.rows a]
      exact hsum (fun transition => if transition.baseline = a then transition.count else 0)
    . intro b
      rw [sum_filter_map, ← haccounts.columns b]
      exact hsum (fun transition => if transition.candidate = b then transition.count else 0)
    . intro transition hmem
      rcases List.mem_map.mp (hperm.mem_iff.mp hmem) with ⟨row, hrow, rfl⟩
      rcases Table.mem_values.mp hrow with ⟨key, hlookup⟩
      exact (haccounts.ofCriterion key row hlookup).1

end Cases

section Criteria

variable {isNFC : String → Bool} {input : PairComparisonEvidenceInput} {cases : List ComparisonCase}

end Criteria

structure AggregateContract (transitions : ExactTransitions) (criterion : CriterionReference)
    (baseline candidate : ComparisonVerdictCounts) : Prop where
  succeeds_iff : (addUniqueAggregateTransitions transitions criterion baseline candidate).2 = true
    ↔ ∃! m, HasMargins m baseline.count candidate.count
  adds : (addUniqueAggregateTransitions transitions criterion baseline candidate).2 = true →
    ∀ m, HasMargins m baseline.count candidate.count →
      Adds criterion transitions (addUniqueAggregateTransitions transitions criterion baseline candidate).1 m
  unchanged : (addUniqueAggregateTransitions transitions criterion baseline candidate).2 = false →
    (addUniqueAggregateTransitions transitions criterion baseline candidate).1 = transitions

theorem aggregateContract (transitions : ExactTransitions) (criterion : CriterionReference)
    {baseline candidate : ComparisonVerdictCounts} (hbaseline : Complete baseline)
    (hcandidate : Complete candidate) (htotal : baseline.total = candidate.total)
    : AggregateContract transitions criterion baseline candidate := by
  have hspec := addUniqueAggregateTransitions_spec transitions criterion hbaseline hcandidate htotal
  exact ⟨hspec.1, fun hadded m hm => hspec.2.1 m hadded hm, hspec.2.2⟩

theorem verdictTransitionsContract
    : (∀ (transitions : ExactTransitions) (criterion : CriterionReference)
          (baseline candidate : ComparisonVerdictCounts),
        Complete baseline → Complete candidate → baseline.total = candidate.total →
          AggregateContract transitions criterion baseline candidate)
      ∧ ∀ (isNFC : String → Bool) (criterion : CriterionReference) (cases : List ComparisonCase)
          (baseline candidate : ComparisonEvidenceSnapshot) (derivation : CriterionDerivation) (pairedCount : Nat),
        baseline.Accepted isNFC → candidate.Accepted isNFC →
          deriveCriterionTransitions criterion cases (fixtureMap baseline) (fixtureMap candidate)
            = .ok derivation →
          derivation.pairedCount = some pairedCount →
          CriterionContract criterion cases baseline candidate derivation.transitions pairedCount := by
  constructor
  . intro transitions criterion baseline candidate hbaseline hcandidate htotal
    exact aggregateContract transitions criterion hbaseline hcandidate htotal
  . intro isNFC criterion cases baseline candidate derivation pairedCount hbaseline hcandidate h havailable
    exact criterionContract hbaseline hcandidate h havailable

namespace TwoVerdicts

open TwoVersions (digest dataset scope replay fixture sha256Schema_digest)

def accuracy : CriterionReference where
  criterionId := "criterion_one"
  criterionSet :=
    { criterionSetId := "criteria_one"
      criterionSetVersionId := "criteria_v_one"
      definitionSha256 := digest 'a' }

def counts (failed passed : Nat) : ComparisonVerdictCounts where
  abstain := 0
  error := 0
  fail := failed
  notApplicable := 0
  pass := passed
  total := failed + passed

def outcome (failed passed : Nat) : ComparisonEvaluationOutcome where
  assessment :=
    { definitionSha256 := digest 'b'
      id := "assessment_one" }
  counts := counts failed passed
  criterion := accuracy

def retained (failed passed : Nat) : ComparisonEvidenceFixtureSnapshot :=
  { TwoVersions.retained "version_one" with
    evaluationOutcomes := [outcome failed passed] }

def snapshot (role : ComparisonRole) (failed passed : Nat) : ComparisonEvidenceSnapshot :=
  { TwoVersions.snapshot role "snapshot_one" [] with
    fixtures := [retained failed passed] }

def cases : List ComparisonCase :=
  [.paired (fixture "version_one") (fixture "version_one") "fixture_one"]

def derivation : CriterionDerivation where
  pairedCount := some 3
  reasons := []
  transitions := [⟨.fail, .pass, 2, accuracy⟩, ⟨.pass, .pass, 1, accuracy⟩]

theorem derives
    : deriveCriterionTransitions accuracy cases (fixtureMap (snapshot .baseline 2 1))
        (fixtureMap (snapshot .candidate 0 3)) = .ok derivation := by
  decide +kernel

theorem accuracy_accepted : CriterionReference.Accepted accuracy :=
  ⟨by decide, by decide, by decide, sha256Schema_digest rfl⟩

theorem outcome_accepted {failed passed : Nat} (h : (counts failed passed).Accepted)
    : (outcome failed passed).Accepted :=
  ⟨⟨show OpaqueIdSchema "assessment_one" = true by decide, sha256Schema_digest rfl⟩, h, accuracy_accepted⟩

theorem retained_accepted {failed passed : Nat} (h : (counts failed passed).Accepted)
    : (retained failed passed).Accepted (fun _ => true) where
  __ := TwoVersions.retained_accepted (show OpaqueIdSchema "version_one" = true by decide)
  evaluationOutcomes := by
    rintro entry (_ | ⟨_, ⟨⟩⟩)
    exact outcome_accepted h
  evaluationOutcomes_length := show 1 ≤ maxComparisonSubjectAssessments by decide
  evaluationOutcomes_sorted := List.isChain_singleton _

theorem snapshot_accepted {role : ComparisonRole} {failed passed : Nat} (h : (counts failed passed).Accepted)
    : (snapshot role failed passed).Accepted (fun _ => true) where
  __ := @TwoVersions.snapshot_accepted role "snapshot_one" ["version_one"] (by decide) (by decide) (by decide)
    (by decide)
  fixtures := by
    rintro entry (_ | ⟨_, ⟨⟩⟩)
    exact retained_accepted h
  fixtures_length := show boundedInteger 1 maxComparisonSubjectFixtures 1 by decide
  fixtures_sorted := List.isChain_singleton _
  issues := rfl

end TwoVerdicts

theorem twoVerdicts_contract
    : AggregateContract ∅ TwoVerdicts.accuracy (TwoVerdicts.counts 2 1) (TwoVerdicts.counts 0 3)
        ∧ CriterionContract TwoVerdicts.accuracy TwoVerdicts.cases (TwoVerdicts.snapshot .baseline 2 1)
            (TwoVerdicts.snapshot .candidate 0 3) TwoVerdicts.derivation.transitions 3 :=
  ⟨verdictTransitionsContract.1 _ _ _ _ (complete_of_accepted (by decide))
      (complete_of_accepted (by decide)) rfl,
    verdictTransitionsContract.2 (fun _ => true) _ _ _ _ _ _ (TwoVerdicts.snapshot_accepted (by decide))
      (TwoVerdicts.snapshot_accepted (by decide)) TwoVerdicts.derives rfl⟩

end Evaluation
end ProofStack
