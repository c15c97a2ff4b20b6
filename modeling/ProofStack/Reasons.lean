import Mathlib.Data.List.Dedup
import Mathlib.Data.List.Sort

/-!
This module contains verdicts with the reasons against them.
-/

namespace ProofStack
namespace Reasons

variable {ρ δ : Type}

def flag (condition : Prop) [Decidable condition] (reason : ρ) : List ρ :=
  if condition then [reason] else []

@[simp]
theorem flag_eq_nil {condition : Prop} [Decidable condition] {reason : ρ}
    : flag condition reason = [] ↔ ¬condition := by
  unfold flag
  split <;> simp_all

theorem mergeSort_eq_of_perm {text : ρ → String} (htext : Function.Injective text) {left right : List ρ}
    (h : left.Perm right)
    : left.mergeSort (fun reason reason' => text reason ≤ text reason')
        = right.mergeSort (fun reason reason' => text reason ≤ text reason') := by
  have hsorted : ∀ reasons : List ρ,
      (reasons.mergeSort (fun reason reason' => text reason ≤ text reason')).Pairwise
        (fun reason reason' => text reason ≤ text reason') := by
    intro reasons
    have hpairwise : (reasons.mergeSort (fun reason reason' => text reason ≤ text reason')).Pairwise
        (fun reason reason' => decide (text reason ≤ text reason') = true) := by
      apply List.pairwise_mergeSort
      . intro first second third hfirst hsecond
        exact decide_eq_true (String.le_trans (of_decide_eq_true hfirst) (of_decide_eq_true hsecond))
      . intro left right
        simpa using String.le_total (text left) (text right)
    exact hpairwise.imp (fun h => of_decide_eq_true h)
  apply List.Perm.eq_of_pairwise _ (hsorted left) (hsorted right)
  . exact (List.mergeSort_perm left _).trans (h.trans (List.mergeSort_perm right _).symm)
  . intro reason reason' _ _ hle hge
    exact htext (String.le_antisymm hle hge)

section Sorted

variable [DecidableEq ρ] (text : ρ → String)

def sortedReasons (reasons : List ρ) : List ρ :=
  reasons.dedup.mergeSort (fun reason reason' => text reason ≤ text reason')

@[simp]
theorem sortedReasons_eq_nil {reasons : List ρ} : sortedReasons text reasons = [] ↔ reasons = [] := by
  unfold sortedReasons
  rw [← List.length_eq_zero_iff, List.length_mergeSort, List.length_eq_zero_iff, List.dedup_eq_nil]

theorem sortedReasons_eq_of_perm {text : ρ → String} (htext : Function.Injective text) {left right : List ρ}
    (h : left.Perm right)
    : sortedReasons text left = sortedReasons text right :=
  mergeSort_eq_of_perm htext h.dedup

end Sorted

/-- What is evaluated either holds, with some data, or fails for some reasons. -/
inductive Verdict (ρ δ : Type) where
  | holds (data : δ)
  | fails (reasons : List ρ)

namespace Verdict

def reasons : Verdict ρ δ → List ρ
  | .holds _ => []
  | .fails reasons => reasons

section Of

variable [DecidableEq ρ] (text : ρ → String)

def of (reasons : List ρ) (data : δ) : Verdict ρ δ :=
  if reasons = [] then .holds data else .fails (sortedReasons text reasons)

@[simp]
theorem reasons_of_eq_nil {reasons : List ρ} {data : δ} : (of text reasons data).reasons = [] ↔ reasons = [] := by
  unfold of
  split
  . next h => simp [Verdict.reasons, h]
  . next h => simp [Verdict.reasons, h]

theorem of_eq_of_perm {text : ρ → String} (htext : Function.Injective text) {left right : List ρ} {data : δ}
    (h : left.Perm right)
    : of text left data = of text right data := by
  have hnil : left = [] ↔ right = [] := by rw [← List.length_eq_zero_iff, h.length_eq, List.length_eq_zero_iff]
  unfold of
  simp only [hnil, sortedReasons_eq_of_perm htext h]

end Of

end Verdict

end Reasons
end ProofStack
