import Mathlib.Data.Set.Basic
import Mathlib.Logic.Relation
import Mathlib.Order.Bounds.Defs

/-!
This module contains the closure of a set under a relation.
-/

namespace ProofStack
namespace Logic

variable {α : Type}

def reachable (next : α → α → Prop) (seeds : Set α) : Set α :=
  {x | ∃ seed ∈ seeds, Relation.ReflTransGen next seed x}

def ClosedUnder (next : α → α → Prop) (S : Set α) : Prop :=
  ∀ x ∈ S, ∀ y, next x y → y ∈ S

variable {next : α → α → Prop} {seeds S : Set α}

theorem subset_reachable : seeds ⊆ reachable next seeds :=
  fun seed hseed => ⟨seed, hseed, .refl⟩

theorem closedUnder_reachable : ClosedUnder next (reachable next seeds) := by
  rintro x ⟨seed, hseed, hreach⟩ y hnext
  exact ⟨seed, hseed, hreach.tail hnext⟩

theorem reachable_subset (hseeds : seeds ⊆ S) (hclosed : ClosedUnder next S) : reachable next seeds ⊆ S := by
  rintro x ⟨seed, hseed, hreach⟩
  induction hreach with
  | refl => exact hseeds hseed
  | tail _ hnext ih => exact hclosed _ ih _ hnext

theorem isLeast_reachable : IsLeast {S | seeds ⊆ S ∧ ClosedUnder next S} (reachable next seeds) :=
  ⟨⟨subset_reachable, closedUnder_reachable⟩, fun _ h => reachable_subset h.1 h.2⟩

theorem eq_reachable (hseeds : seeds ⊆ S) (hclosed : ClosedUnder next S) (hreached : S ⊆ reachable next seeds)
    : S = reachable next seeds :=
  Set.Subset.antisymm hreached (reachable_subset hseeds hclosed)

theorem reachable_union (left right : Set α)
    : reachable next (left ∪ right) = reachable next left ∪ reachable next right := by
  ext x
  constructor
  . rintro ⟨seed, hseed | hseed, hreach⟩
    . exact .inl ⟨seed, hseed, hreach⟩
    . exact .inr ⟨seed, hseed, hreach⟩
  . rintro (⟨seed, hseed, hreach⟩ | ⟨seed, hseed, hreach⟩)
    . exact ⟨seed, .inl hseed, hreach⟩
    . exact ⟨seed, .inr hseed, hreach⟩

end Logic
end ProofStack
