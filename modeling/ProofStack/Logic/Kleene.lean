import Mathlib.Data.List.Basic
import Mathlib.Data.List.Forall2

/-!
This module contains the strong three-valued logic.
-/

namespace ProofStack

inductive Kleene where
  | yes
  | no
  | unknown
  deriving DecidableEq

namespace Kleene

def neg : Kleene → Kleene
  | .yes => .no
  | .no => .yes
  | .unknown => .unknown

def conj (values : List Kleene) : Kleene :=
  if .no ∈ values then .no else if .unknown ∈ values then .unknown else .yes

def disj (values : List Kleene) : Kleene :=
  if .yes ∈ values then .yes else if .unknown ∈ values then .unknown else .no

@[simp]
theorem neg_neg (value : Kleene) : value.neg.neg = value := by
  cases value <;> rfl

theorem neg_injective : Function.Injective neg := by
  intro left right h
  rw [← neg_neg left, h, neg_neg]

theorem mem_map_neg {values : List Kleene} {value : Kleene}
    : value ∈ values.map neg ↔ value.neg ∈ values := by
  rw [← List.mem_map_of_injective neg_injective (l := values), neg_neg]

theorem neg_conj (values : List Kleene) : (conj values).neg = disj (values.map neg) := by
  unfold conj disj
  rw [apply_ite neg, apply_ite neg]
  simp only [mem_map_neg]
  rfl

theorem neg_disj (values : List Kleene) : (disj values).neg = conj (values.map neg) := by
  rw [← neg_neg (conj (values.map neg)), neg_conj, List.map_map]
  congr 2
  symm
  exact (List.map_congr_left fun value _ => neg_neg value).trans (List.map_id values)

def Below (value other : Kleene) : Prop :=
  value = .unknown ∨ value = other

theorem Below.refl (value : Kleene) : Below value value :=
  .inr rfl

theorem Below.neg {value other : Kleene} (h : Below value other) : Below value.neg other.neg := by
  rcases h with rfl | rfl
  . exact .inl rfl
  . exact .refl _

variable {values others : List Kleene}

theorem eq_of_below_of_mem (h : List.Forall₂ Below values others)
    {value : Kleene} (hknown : value ≠ .unknown) (hmem : value ∈ values)
    : value ∈ others := by
  induction h with
  | nil => contradiction
  | cons hbelow _ ih =>
    rcases List.mem_cons.mp hmem with rfl | hmem
    . rcases hbelow with hunknown | rfl
      . contradiction
      . exact List.mem_cons_self
    . exact List.mem_cons_of_mem _ (ih hmem)

theorem forall₂_below_eq (h : List.Forall₂ Below values others)
    (hknown : .unknown ∉ values)
    : values = others := by
  induction h with
  | nil => rfl
  | cons hbelow _ ih =>
    rw [List.mem_cons, not_or] at hknown
    rcases hbelow with hunknown | rfl
    . exact absurd hunknown.symm hknown.1
    . rw [ih hknown.2]

theorem conj_below (h : List.Forall₂ Below values others)
    : Below (conj values) (conj others) := by
  unfold conj
  split
  . next hno =>
    rw [if_pos (eq_of_below_of_mem h (by decide) hno)]
    exact .refl _
  . next hno =>
    split
    . exact .inl rfl
    . next hunknown =>
      obtain rfl := forall₂_below_eq h hunknown
      rw [if_neg hno, if_neg hunknown]
      exact .refl _

theorem disj_below (h : List.Forall₂ Below values others)
    : Below (disj values) (disj others) := by
  unfold disj
  split
  . next hyes =>
    rw [if_pos (eq_of_below_of_mem h (by decide) hyes)]
    exact .refl _
  . next hyes =>
    split
    . exact .inl rfl
    . next hunknown =>
      obtain rfl := forall₂_below_eq h hunknown
      rw [if_neg hyes, if_neg hunknown]
      exact .refl _

end Kleene
end ProofStack
