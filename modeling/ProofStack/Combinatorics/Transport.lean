import Mathlib.Algebra.BigOperators.Group.Finset.Piecewise
import Mathlib.Algebra.Order.BigOperators.Group.Finset
import Mathlib.Data.Fintype.BigOperators

/-!
This module contains matrices of natural numbers with given row and column sums.
-/

namespace ProofStack
namespace Combinatorics

variable {V : Type} [Fintype V] {m : V → V → Nat} {row column : V → Nat}

structure HasMargins (m : V → V → Nat) (row column : V → Nat) : Prop where
  row : ∀ a, ∑ b, m a b = row a
  column : ∀ b, ∑ a, m a b = column b

theorem HasMargins.transpose (h : HasMargins m row column) : HasMargins (fun a b => m b a) column row :=
  ⟨h.column, h.row⟩

theorem HasMargins.total (h : HasMargins m row column) : ∑ a, row a = ∑ b, column b := by
  simp only [← h.row, ← h.column]
  exact Finset.sum_comm

theorem HasMargins.add {m' : V → V → Nat} {row' column' : V → Nat} (h : HasMargins m row column)
    (h' : HasMargins m' row' column')
    : HasMargins (fun a b => m a b + m' a b) (fun a => row a + row' a) (fun b => column b + column' b) := by
  constructor
  . intro a
    rw [Finset.sum_add_distrib, h.row, h'.row]
  . intro b
    rw [Finset.sum_add_distrib, h.column, h'.column]

theorem HasMargins.zero : HasMargins (fun _ _ : V => 0) (fun _ => 0) (fun _ => 0) :=
  ⟨fun _ => Finset.sum_const_zero, fun _ => Finset.sum_const_zero⟩

def Concentrated (margin : V → Nat) : Prop :=
  ∀ a b, margin a ≠ 0 → margin b ≠ 0 → a = b

theorem HasMargins.row_ne_zero (h : HasMargins m row column) {a b : V} (hm : m a b ≠ 0) : row a ≠ 0 := by
  rw [← h.row a]
  intro hsum
  exact hm (Finset.sum_eq_zero_iff.mp hsum b (Finset.mem_univ b))

theorem HasMargins.exists_of_row (h : HasMargins m row column) {a : V} (hrow : row a ≠ 0)
    : ∃ b, m a b ≠ 0 := by
  rw [← h.row a] at hrow
  rcases Finset.exists_ne_zero_of_sum_ne_zero hrow with ⟨b, _, hb⟩
  exact ⟨b, hb⟩

theorem HasMargins.exists_of_column (h : HasMargins m row column) {b : V} (hcolumn : column b ≠ 0)
    : ∃ a, m a b ≠ 0 :=
  h.transpose.exists_of_row hcolumn

def fillRow (row column : V → Nat) (a b : V) : Nat :=
  if row a = 0 then 0 else column b

theorem HasMargins.eq_fillRow (hrow : Concentrated row) (h : HasMargins m row column)
    : m = fillRow row column := by
  funext a b
  unfold fillRow
  split
  . next hzero =>
    by_contra hm
    exact h.row_ne_zero hm hzero
  . next hne =>
    rw [← h.column b]
    symm
    apply Finset.sum_eq_single a
    . intro a' _ ha'
      by_contra hm
      exact ha' (hrow a' a (h.row_ne_zero hm) hne)
    . simp

theorem hasMargins_fillRow (hrow : Concentrated row) (htotal : ∑ a, row a = ∑ b, column b)
    : HasMargins (fillRow row column) row column := by
  by_cases hall : ∀ a, row a = 0
  . simp only [hall, Finset.sum_const_zero] at htotal
    have hcolumn := Finset.sum_eq_zero_iff.mp htotal.symm
    constructor
    . simp [fillRow, hall]
    . intro b
      simp [fillRow, hall, hcolumn b (Finset.mem_univ b)]
  . rw [not_forall] at hall
    rcases hall with ⟨a₀, ha₀⟩
    have hzero : ∀ a, a ≠ a₀ → row a = 0 := by
      intro a ha
      by_contra hne
      exact ha (hrow a a₀ hne ha₀)
    constructor
    . intro a
      unfold fillRow
      split
      . next hrow0 => rw [hrow0, Finset.sum_const_zero]
      . next hne =>
        obtain rfl := hrow a a₀ hne ha₀
        rw [← htotal]
        exact Finset.sum_eq_single a (fun a' _ ha' => hzero a' ha') (by simp)
    . intro b
      have hsingle : ∑ a, fillRow row column a b = fillRow row column a₀ b := by
        apply Finset.sum_eq_single a₀
        . intro a _ ha
          simp [fillRow, hzero a ha]
        . simp
      rw [hsingle, fillRow, if_neg ha₀]

theorem existsUnique_of_concentrated (hrow : Concentrated row) (htotal : ∑ a, row a = ∑ b, column b)
    : ∃! m, HasMargins m row column :=
  ⟨fillRow row column, hasMargins_fillRow hrow htotal, fun _ h => h.eq_fillRow hrow⟩

section Exchange

variable [DecidableEq V] {a a' b b' : V}

def unitAt (a b u v : V) : Nat :=
  if u = a ∧ v = b then 1 else 0

theorem sum_unitAt_row (a b u : V) : ∑ v, unitAt a b u v = if u = a then 1 else 0 := by
  unfold unitAt
  split
  . next h => simp [h]
  . next h => simp [h]

theorem sum_unitAt_column (a b v : V) : ∑ u, unitAt a b u v = if v = b then 1 else 0 := by
  unfold unitAt
  split
  . next h => simp [h]
  . next h => simp [h]

def exchange (m : V → V → Nat) (a a' b b' u v : V) : Nat :=
  m u v + (unitAt a b' u v + unitAt a' b u v) - (unitAt a b u v + unitAt a' b' u v)

omit [Fintype V] in
theorem exchange_add (hne : a ≠ a') (hab : m a b ≠ 0) (hab' : m a' b' ≠ 0) (u v : V)
    : exchange m a a' b b' u v + (unitAt a b u v + unitAt a' b' u v)
        = m u v + (unitAt a b' u v + unitAt a' b u v) := by
  have hle : unitAt a b u v + unitAt a' b' u v ≤ m u v := by
    unfold unitAt
    split
    . next h =>
      rw [if_neg (fun h' => hne (h.1.symm.trans h'.1)), h.1, h.2]
      omega
    . split
      . next h =>
        rw [h.1, h.2]
        omega
      . omega
  unfold exchange
  omega

theorem HasMargins.exchange (h : HasMargins m row column) (hne : a ≠ a') (hab : m a b ≠ 0) (hab' : m a' b' ≠ 0)
    : HasMargins (exchange m a a' b b') row column := by
  have hcell := exchange_add hne hab hab'
  constructor
  . intro u
    have hsum := Finset.sum_congr rfl (fun v (_ : v ∈ Finset.univ) => hcell u v)
    simp only [Finset.sum_add_distrib, sum_unitAt_row, h.row u] at hsum
    omega
  . intro v
    have hsum := Finset.sum_congr rfl (fun u (_ : u ∈ Finset.univ) => hcell u v)
    simp only [Finset.sum_add_distrib, sum_unitAt_column, h.column v] at hsum
    omega

omit [Fintype V] in
theorem exchange_ne (hne : a ≠ a') (hne' : b ≠ b') (hab : m a b ≠ 0) (hab' : m a' b' ≠ 0)
    : Combinatorics.exchange m a a' b b' ≠ m := by
  intro heq
  have hcell := exchange_add hne hab hab' a b
  rw [heq] at hcell
  simp [unitAt, hne, hne'] at hcell

theorem HasMargins.exists_cells (h : HasMargins m row column) (hrow : ¬Concentrated row)
    (hcolumn : ¬Concentrated column)
    : ∃ a a' b b', a ≠ a' ∧ b ≠ b' ∧ m a b ≠ 0 ∧ m a' b' ≠ 0 := by
  simp only [Concentrated, not_forall] at hrow hcolumn
  rcases hrow with ⟨a, a', ha, ha', hne⟩
  rcases hcolumn with ⟨c, c', hc, hc', hne'⟩
  rcases h.exists_of_row ha with ⟨b, hb⟩
  rcases h.exists_of_row ha' with ⟨b', hb'⟩
  by_cases heq : b = b'
  . subst heq
    -- both rows use the column, so that a third cell is taken from another one
    have hother : ∃ d, d ≠ b ∧ column d ≠ 0 := by
      by_cases hcb : c = b
      . subst hcb
        exact ⟨c', fun heq => hne' heq.symm, hc'⟩
      . exact ⟨c, hcb, hc⟩
    rcases hother with ⟨d, hdb, hd⟩
    rcases h.exists_of_column hd with ⟨x, hx⟩
    by_cases hxa : x = a
    . subst hxa
      exact ⟨a', x, b, d, fun heq => hne heq.symm, hdb.symm, hb', hx⟩
    . exact ⟨a, x, b, d, fun heq => hxa heq.symm, hdb.symm, hb, hx⟩
  . exact ⟨a, a', b, b', hne, heq, hb, hb'⟩

end Exchange

/-- With equal totals, the margins determine the matrix iff one of the two is concentrated. -/
theorem existsUnique_hasMargins_iff (htotal : ∑ a, row a = ∑ b, column b)
    : (∃! m, HasMargins m row column) ↔ Concentrated row ∨ Concentrated column := by
  classical
  constructor
  . rintro ⟨m, hm, hunique⟩
    by_contra hneither
    rw [not_or] at hneither
    rcases hm.exists_cells hneither.1 hneither.2 with ⟨a, a', b, b', hne, hne', hab, hab'⟩
    exact exchange_ne hne hne' hab hab' (hunique _ (hm.exchange hne hab hab'))
  . rintro (hrow | hcolumn)
    . exact existsUnique_of_concentrated hrow htotal
    . rcases existsUnique_of_concentrated hcolumn htotal.symm with ⟨m, hm, hunique⟩
      refine ⟨fun a b => m b a, hm.transpose, fun m' hm' => ?_⟩
      rw [← hunique _ hm'.transpose]

end Combinatorics
end ProofStack
