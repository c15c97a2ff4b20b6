import ProofStack.Checks

/-!
This module contains loops over a sequence that carry an accumulator, know the index of the element and may
fail.
-/

namespace ProofStack
namespace Sequence

open Checks

variable {ε ε' α σ σ' : Type}

def foldIndexed (f : Nat → σ → α → Except ε σ) : Nat → σ → List α → Except ε σ
  | _, state, [] => .ok state
  | index, state, x :: xs => do
    let state ← f index state x
    foldIndexed f (index + 1) state xs

variable {f : Nat → σ → α → Except ε σ} {g : Nat → σ' → α → Except ε' σ'}

theorem foldIndexed_cons_eq_ok {index : Nat} {state result : σ} {x : α} {xs : List α}
    : foldIndexed f index state (x :: xs) = .ok result
        ↔ ∃ middle, f index state x = .ok middle ∧ foldIndexed f (index + 1) middle xs = .ok result :=
  bind_eq_ok

theorem foldIndexed_append_eq_ok {index : Nat} {state result : σ} {xs : List α} {x : α}
    : foldIndexed f index state (xs ++ [x]) = .ok result
        ↔ ∃ middle,
            foldIndexed f index state xs = .ok middle
              ∧ f (index + xs.length) middle x = .ok result := by
  induction xs generalizing index state with
  | nil =>
    rw [List.nil_append, foldIndexed_cons_eq_ok]
    simp [foldIndexed]
  | cons y ys ih =>
    have hlength : index + (y :: ys).length = index + 1 + ys.length := by
      simp only [List.length_cons]
      omega
    rw [hlength]
    simp only [List.cons_append, foldIndexed_cons_eq_ok, ih]
    constructor
    . rintro ⟨next, hnext, middle, hmiddle, hlast⟩
      exact ⟨middle, ⟨next, hnext, hmiddle⟩, hlast⟩
    . rintro ⟨middle, ⟨next, hnext, hmiddle⟩, hlast⟩
      exact ⟨next, hnext, middle, hmiddle, hlast⟩

theorem foldIndexed_follows {R : Nat → σ → σ' → Prop} {P : α → Prop}
    (hstep : ∀ index state state' x next, P x → R index state state' → f index state x = .ok next →
      ∃ next', g index state' x = .ok next' ∧ R (index + 1) next next')
    {index : Nat} {state result : σ} {state' : σ'} {xs : List α} (hxs : ∀ x ∈ xs, P x)
    (hstate : R index state state') (h : foldIndexed f index state xs = .ok result)
    : ∃ result',
        foldIndexed g index state' xs = .ok result' ∧ R (index + xs.length) result result' := by
  induction xs generalizing index state state' with
  | nil =>
    cases h
    exact ⟨state', rfl, hstate⟩
  | cons x xs ih =>
    rw [foldIndexed_cons_eq_ok] at h
    obtain ⟨middle, hmiddle, hrest⟩ := h
    obtain ⟨middle', hmiddle', hrelated⟩ := hstep _ _ _ _ _ (hxs x (by simp)) hstate hmiddle
    obtain ⟨result', hresult', hrelated'⟩ :=
      ih (fun y hy => hxs y (List.mem_cons_of_mem _ hy)) hrelated hrest
    refine ⟨result', ?_, ?_⟩
    . rw [foldIndexed_cons_eq_ok]
      exact ⟨middle', hmiddle', hresult'⟩
    . have hlength : index + (x :: xs).length = index + 1 + xs.length := by
        simp only [List.length_cons]
        omega
      rw [hlength]
      exact hrelated'

end Sequence
end ProofStack
