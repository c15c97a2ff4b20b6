import Mathlib.Algebra.Order.BigOperators.Group.Finset
import Mathlib.Data.Finset.Card

/-!
This module contains the linear programming view of the assignment problem.
-/

namespace Assignment

variable {R C M : Type*}

structure Feasible [AddCommGroup M] [LE M] (rows : Finset R) (columns : Finset C)
    (cost : R → C → M) (u : R → M) (v : C → M) : Prop where
  le_cost : ∀ r ∈ rows, ∀ c ∈ columns, u r + v c ≤ cost r c
  nonpos : ∀ c ∈ columns, v c ≤ 0

structure Assigns (rows : Finset R) (columns : Finset C) (σ : R → C) : Prop where
  mapsTo : ∀ r ∈ rows, σ r ∈ columns
  injOn : Set.InjOn σ rows

variable {rows : Finset R} {columns : Finset C} {cost : R → C → M} {u : R → M} {v : C → M}
variable [DecidableEq C] [AddCommGroup M]

theorem Assigns.sum_image {σ : R → C} (h : Assigns rows columns σ) (f : C → M)
    : ∑ c ∈ rows.image σ, f c = ∑ r ∈ rows, f (σ r) := by
  apply Finset.sum_image
  exact h.injOn

theorem Assigns.image_subset {σ : R → C} (h : Assigns rows columns σ)
    : rows.image σ ⊆ columns := by
  intro c hc
  rw [Finset.mem_image] at hc
  rcases hc with ⟨r, hr, rfl⟩
  exact h.mapsTo r hr

variable [LinearOrder M] [IsOrderedAddMonoid M]

theorem Feasible.sum_le {σ : R → C} (hf : Feasible rows columns cost u v)
    (hσ : Assigns rows columns σ)
    : ∑ r ∈ rows, u r + ∑ c ∈ columns, v c ≤ ∑ r ∈ rows, cost r (σ r) := by
  have himage : ∑ c ∈ columns, v c ≤ ∑ r ∈ rows, v (σ r) := by
    rw [← hσ.sum_image]
    apply Finset.sum_le_sum_of_subset_of_nonpos' hσ.image_subset
    intro c hc _
    exact hf.nonpos c hc
  calc ∑ r ∈ rows, u r + ∑ c ∈ columns, v c
      ≤ ∑ r ∈ rows, u r + ∑ r ∈ rows, v (σ r) := by gcongr
    _ = ∑ r ∈ rows, (u r + v (σ r)) := by rw [Finset.sum_add_distrib]
    _ ≤ ∑ r ∈ rows, cost r (σ r) := by
      apply Finset.sum_le_sum
      intro r hr
      exact hf.le_cost r hr (σ r) (hσ.mapsTo r hr)

theorem Feasible.le_of_tight {σ τ : R → C} (hf : Feasible rows columns cost u v)
    (hτ : Assigns rows columns τ) (htight : ∀ r ∈ rows, u r + v (τ r) = cost r (τ r))
    (hfree : ∀ c ∈ columns, c ∉ rows.image τ → v c = 0) (hσ : Assigns rows columns σ)
    : ∑ r ∈ rows, cost r (τ r) ≤ ∑ r ∈ rows, cost r (σ r) := by
  have himage : ∑ c ∈ columns, v c = ∑ r ∈ rows, v (τ r) := by
    rw [← hτ.sum_image]
    symm
    apply Finset.sum_subset hτ.image_subset
    exact hfree
  calc ∑ r ∈ rows, cost r (τ r)
      = ∑ r ∈ rows, (u r + v (τ r)) := by
        apply Finset.sum_congr rfl
        intro r hr
        rw [htight r hr]
    _ = ∑ r ∈ rows, u r + ∑ c ∈ columns, v c := by
        rw [Finset.sum_add_distrib, himage]
    _ ≤ ∑ r ∈ rows, cost r (σ r) := hf.sum_le hσ

end Assignment
