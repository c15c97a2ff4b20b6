import Mathlib.Logic.Relation
import ProofStack.Sequence.Keyed

/-!
This module contains rows that may name another row as their parent.
-/

namespace ProofStack
namespace Sequence

variable {α κ ε : Type} [DecidableEq κ] {rows : List α}

structure Ancestry (α κ ε : Type) where
  key : α → κ
  named : α → Option κ
  check : α → α → Except ε Unit

inductive WalkEnd (ε : Type) where
  | ended
  | missing
  | repeated
  | failed (error : ε)
  deriving DecidableEq

namespace Ancestry

variable (ancestry : Ancestry α κ ε)

theorem unvisited_decreases {visited : List κ} {row : α} (h : row ∈ rows)
    (hvisited : ancestry.key row ∉ visited)
    : (rows.filter (fun other => ancestry.key other ∉ ancestry.key row :: visited)).length
        < (rows.filter (fun other => ancestry.key other ∉ visited)).length := by
  have hfilter : rows.filter (fun other => ancestry.key other ∉ ancestry.key row :: visited)
      = (rows.filter (fun other => ancestry.key other ∉ visited)).filter (fun other =>
          ancestry.key other ≠ ancestry.key row) := by
    rw [List.filter_filter]
    apply List.filter_congr
    simp
  rw [hfilter, List.length_filter_lt_length_iff_exists]
  refine ⟨row, ?_, by simp⟩
  simp [h, hvisited]

/-- The walk ends at a row without a parent, at a parent that is missing, at a row that has been
completed before or at a row that the walk has visited itself. -/
def walk (rows : List α) (completed visited : List κ) (current : { row // row ∈ rows })
    : WalkEnd ε × List κ :=
  if ancestry.key current ∈ completed then
    (.ended, visited)
  else if _hvisited : ancestry.key current ∈ visited then
    (.repeated, visited)
  else
    let visited' := ancestry.key current :: visited
    match ancestry.named current with
    | none => (.ended, visited')
    | some k =>
      match hparent : lookup ancestry.key rows k with
      | none => (.missing, visited')
      | some parent =>
        match ancestry.check current parent with
        | .error error => (.failed error, visited')
        | .ok () => walk rows completed visited' ⟨parent, (lookup_eq_some hparent).1⟩
termination_by (rows.filter (fun other => ancestry.key other ∉ visited)).length
decreasing_by exact unvisited_decreases ancestry current.2 _hvisited

def walks (rows : List α) : (completed : List κ) → List { row // row ∈ rows } → List (WalkEnd ε)
  | _, [] => []
  | completed, row :: remaining =>
    let walked := ancestry.walk rows completed [] row
    walked.1 :: walks rows (completed ++ walked.2) remaining

def IsParent (rows : List α) (parent child : α) : Prop :=
  ∃ k, ancestry.named child = some k ∧ lookup ancestry.key rows k = some parent

structure Walked (rows : List α) (missing : Prop) (row : α) : Prop where
  grounded : Acc (ancestry.IsParent rows) row
  checked : ∀ parent, ancestry.IsParent rows parent row → ancestry.check row parent = .ok ()
  present : ∀ k, ancestry.named row = some k → lookup ancestry.key rows k = none → missing

def Settled (walkEnd : WalkEnd ε) : Prop :=
  walkEnd = .ended ∨ walkEnd = .missing

variable {ancestry} {completed visited : List κ} {missing : Prop}

theorem walked_cons (hnodup : (rows.map ancestry.key).Nodup) (current : { row // row ∈ rows })
    (hwalked : ancestry.Walked rows missing current)
    : ∀ row ∈ rows,
        ancestry.key row ∈ ancestry.key current :: visited →
          ancestry.key row ∈ visited ∨ ancestry.Walked rows missing row := by
  intro row hrow hmem
  cases List.mem_cons.mp hmem with
  | inl hkey =>
    rw [eq_of_key hnodup hrow current.2 hkey]
    exact .inr hwalked
  | inr hmem => exact .inl hmem

theorem walked_of_walk (hnodup : (rows.map ancestry.key).Nodup)
    (hcompleted : ∀ row ∈ rows, ancestry.key row ∈ completed → ancestry.Walked rows missing row)
    (current : { row // row ∈ rows })
    (hsettled : Settled (ancestry.walk rows completed visited current).1)
    (hmissing : (ancestry.walk rows completed visited current).1 = .missing → missing)
    : ancestry.Walked rows missing current
        ∧ ∀ row ∈ rows,
            ancestry.key row ∈ (ancestry.walk rows completed visited current).2 →
              ancestry.key row ∈ visited ∨ ancestry.Walked rows missing row := by
  fun_induction ancestry.walk rows completed visited current with
  | case1 visited current h =>
    exact ⟨hcompleted current current.2 h, fun row _ h => .inl h⟩
  | case2 => simp [Settled] at hsettled
  | case3 visited current _ _ visited' hnamed =>
    have hwalked : ancestry.Walked rows missing current := by
      constructor
      . constructor
        rintro parent ⟨k, hk, _⟩
        simp [hnamed] at hk
      . rintro parent ⟨k, hk, _⟩
        simp [hnamed] at hk
      . intro k hk
        simp [hnamed] at hk
    exact ⟨hwalked, walked_cons hnodup current hwalked⟩
  | case4 visited current _ _ visited' k hnamed hparent =>
    have hwalked : ancestry.Walked rows missing current := by
      constructor
      . constructor
        rintro parent ⟨k', hk, hlookup⟩
        rw [hnamed] at hk
        cases hk
        rw [hparent] at hlookup
        contradiction
      . rintro parent ⟨k', hk, hlookup⟩
        rw [hnamed] at hk
        cases hk
        rw [hparent] at hlookup
        contradiction
      . intro _ _ _
        exact hmissing rfl
    exact ⟨hwalked, walked_cons hnodup current hwalked⟩
  | case5 => simp [Settled] at hsettled
  | case6 visited current _ _ visited' k hnamed parent hparent hcheck ih =>
    obtain ⟨hwalkedParent, hvisited⟩ := ih hsettled hmissing
    have honly : ∀ other, ancestry.IsParent rows other current → other = parent := by
      rintro other ⟨k', hk, hlookup⟩
      rw [hnamed] at hk
      cases hk
      rw [hparent] at hlookup
      cases hlookup
      rfl
    have hwalked : ancestry.Walked rows missing current := by
      constructor
      . constructor
        intro other hother
        rw [honly other hother]
        exact hwalkedParent.grounded
      . intro other hother
        rw [honly other hother]
        exact hcheck
      . intro k' hk hlookup
        rw [hnamed] at hk
        cases hk
        rw [hparent] at hlookup
        contradiction
    refine ⟨hwalked, ?_⟩
    intro row hrow hmem
    cases hvisited row hrow hmem with
    | inl hmem => exact walked_cons hnodup current hwalked row hrow hmem
    | inr h => exact .inr h

theorem walked_of_walks (hnodup : (rows.map ancestry.key).Nodup)
    {remaining : List { row // row ∈ rows }} {completed : List κ}
    (hcompleted : ∀ row ∈ rows, ancestry.key row ∈ completed → ancestry.Walked rows missing row)
    (hsettled : ∀ walkEnd ∈ ancestry.walks rows completed remaining, Settled walkEnd)
    (hmissing : .missing ∈ ancestry.walks rows completed remaining → missing)
    : ∀ row ∈ remaining, ancestry.Walked rows missing row := by
  induction remaining generalizing completed with
  | nil => simp
  | cons current remaining ih =>
    simp only [walks, List.mem_cons, forall_eq_or_imp] at hsettled hmissing
    obtain ⟨hwalked, hvisited⟩ := walked_of_walk hnodup hcompleted current hsettled.1
      (fun h => hmissing (.inl h.symm))
    simp only [List.mem_cons, forall_eq_or_imp]
    refine ⟨hwalked, ih ?_ hsettled.2 (fun h => hmissing (.inr h))⟩
    intro row hrow hmem
    cases List.mem_append.mp hmem with
    | inl hmem => exact hcompleted row hrow hmem
    | inr hmem =>
      cases hvisited row hrow hmem with
      | inl hmem => simp at hmem
      | inr h => exact h

theorem not_transGen_self {r : α → α → Prop} {row : α} (h : Acc r row)
    : ¬Relation.TransGen r row row := by
  have htransGen := h.transGen
  clear h
  induction htransGen with
  | intro row _ ih =>
    intro hcycle
    exact ih row hcycle hcycle

end Ancestry

end Sequence
end ProofStack
