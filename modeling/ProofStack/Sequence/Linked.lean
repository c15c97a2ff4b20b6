import Mathlib.Data.List.Chain
import Mathlib.Data.List.Range
import Mathlib.Data.List.Sort

/-!
This module contains checks along a sequence, where the check of an element knows its index and the element
before it.
-/

namespace ProofStack
namespace Sequence

variable {α : Type} {R : Option α → Nat → α → Prop}

def Linked (R : Option α → Nat → α → Prop) (previous : Option α) (index : Nat) : List α → Prop
  | [] => True
  | x :: xs => R previous index x ∧ Linked R (some x) (index + 1) xs

instance decidableLinked [∀ previous index x, Decidable (R previous index x)]
    : (previous : Option α) → (index : Nat) → (xs : List α) → Decidable (Linked R previous index xs)
  | _, _, [] => inferInstanceAs (Decidable True)
  | _, index, x :: xs =>
    have := decidableLinked (some x) (index + 1) xs
    inferInstanceAs (Decidable (_ ∧ _))

def issuesAlong (check : Option α → Nat → α → List String) (previous : Option α) (index : Nat)
    : List α → List String
  | [] => []
  | x :: xs => check previous index x ++ issuesAlong check (some x) (index + 1) xs

variable {previous : Option α}
variable {xs : List α}
variable {index : Nat}

theorem issuesAlong_eq_nil {check : Option α → Nat → α → List String}
    : issuesAlong check previous index xs = []
        ↔ Linked (fun previous index x => check previous index x = []) previous index xs := by
  induction xs generalizing previous index with
  | nil => simp [issuesAlong, Linked]
  | cons x xs ih => simp [issuesAlong, Linked, ih]

theorem linked_append {x : α}
    : Linked R previous index (xs ++ [x])
        ↔ Linked R previous index xs ∧ R (xs.getLast?.or previous) (index + xs.length) x := by
  induction xs generalizing previous index with
  | nil => simp [Linked]
  | cons y ys ih =>
    have hlast : (y :: ys).getLast?.or previous = ys.getLast?.or (some y) := by
      cases ys <;> simp [List.getLast?_cons]
    have hlength : index + (y :: ys).length = index + 1 + ys.length := by
      simp only [List.length_cons]
      omega
    rw [hlast, hlength]
    simp only [List.cons_append, Linked, ih]
    exact and_assoc.symm

theorem Linked.mono {R' : Option α → Nat → α → Prop}
    (h : Linked R previous index xs)
    (himp : ∀ previous index x, x ∈ xs → R previous index x → R' previous index x)
    : Linked R' previous index xs := by
  induction xs generalizing previous index with
  | nil => trivial
  | cons x xs ih =>
    refine ⟨himp _ _ _ (by simp) h.1, ih h.2 ?_⟩
    intro previous index y hy
    exact himp previous index y (List.mem_cons_of_mem _ hy)

theorem Linked.mem (h : Linked R previous index xs)
    {x : α} (hx : x ∈ xs)
    : ∃ previous index, R previous index x := by
  induction xs generalizing previous index with
  | nil => contradiction
  | cons y ys ih =>
    cases hx with
    | head => exact ⟨_, _, h.1⟩
    | tail _ hx => exact ih h.2 hx

theorem Linked.isChain
    (h : Linked R previous index xs)
    : xs.IsChain (fun left right => ∃ index, R (some left) index right) := by
  induction xs generalizing previous index with
  | nil => exact List.IsChain.nil
  | cons x xs ih =>
    cases xs with
    | nil => exact List.IsChain.singleton _
    | cons y ys =>
      rw [List.isChain_cons_cons]
      exact ⟨⟨_, h.2.1⟩, ih h.2⟩

theorem linked_of_isChain {S : α → α → Prop}
    (hchain : (previous.toList ++ xs).IsChain S)
    (himp : ∀ previous index x, x ∈ xs → (∀ left ∈ previous, S left x) → R previous index x)
    : Linked R previous index xs := by
  induction xs generalizing previous index with
  | nil => trivial
  | cons x xs ih =>
    have hrest : ((some x).toList ++ xs).IsChain S := hchain.right_of_append
    refine ⟨himp _ _ x (by simp) ?_, ih hrest ?_⟩
    . rintro left ⟨⟩
      exact (List.isChain_cons_cons.mp hchain).1
    . intro previous index y hy
      exact himp previous index y (List.mem_cons_of_mem _ hy)

theorem exists_successor {S : α → α → Prop} {last : α}
    (h : (xs ++ [last]).IsChain S) {x : α} (hx : x ∈ xs)
    : ∃ y, S x y := by
  induction xs with
  | nil => contradiction
  | cons y ys ih =>
    rw [List.cons_append, List.isChain_cons] at h
    cases hx with
    | tail _ hx => exact ih h.2 hx
    | head =>
      cases ys with
      | nil => exact ⟨last, h.1 last rfl⟩
      | cons z zs => exact ⟨z, h.1 z rfl⟩

end Sequence
end ProofStack

/-!
This module contains sequences whose elements carry a number.
-/

namespace ProofStack
namespace Sequence

variable {α : Type} {number : α → Nat} {xs : List α}

theorem map_mergeSort_eq_range (h : (xs.map number).Perm (List.range xs.length))
    : (xs.mergeSort (fun left right => decide (number left ≤ number right))).map number
        =
      List.range xs.length := by
  have hperm : ((xs.mergeSort (fun left right => decide (number left ≤ number right))).map number).Perm
      (List.range xs.length) :=
    ((List.mergeSort_perm xs _).map number).trans h
  apply hperm.eq_of_pairwise' _ List.pairwise_le_range
  rw [List.pairwise_map]
  have hsorted : (xs.mergeSort (fun left right => decide (number left ≤ number right))).Pairwise
      (fun left right => decide (number left ≤ number right) = true) := by
    apply List.pairwise_mergeSort
    . simp only [decide_eq_true_eq]
      omega
    . simp only [Bool.or_eq_true, decide_eq_true_eq]
      omega
  apply hsorted.imp
  simp

theorem linked_of_map_eq_range {P : α → Prop} {previous : Option α} {index : Nat}
    (h : xs.map number = List.range' index xs.length) (hall : ∀ x ∈ xs, P x)
    : Linked (fun _ index x => number x = index ∧ P x) previous index xs := by
  induction xs generalizing previous index with
  | nil => trivial
  | cons x xs ih =>
    rw [List.map_cons, List.length_cons, List.range'_succ, List.cons.injEq] at h
    refine ⟨⟨h.1, hall x (by simp)⟩, ih h.2 ?_⟩
    intro y hy
    exact hall y (List.mem_cons_of_mem _ hy)

theorem linked_mergeSort {P : α → Prop} (h : (xs.map number).Perm (List.range xs.length))
    (hall : ∀ x ∈ xs, P x)
    : Linked (fun _ index x => number x = index ∧ P x) none 0
        (xs.mergeSort (fun left right => decide (number left ≤ number right))) := by
  apply linked_of_map_eq_range
  . rw [map_mergeSort_eq_range h, List.length_mergeSort, List.range_eq_range']
  . intro x hx
    rw [List.mem_mergeSort] at hx
    exact hall x hx

end Sequence
end ProofStack
