import Mathlib.Data.Finset.Card
import Mathlib.Order.Interval.Finset.Nat
import Mathlib.Tactic.Ring
import ProofStack.Assignment.Basic
import ProofStack.Assignment.Hungarian

/-!
This module contains the correctness proof of the Hungarian method.
-/

namespace Assignment
namespace Hungarian

variable {cost : Nat → Nat → Int} {columns : Nat}

section Scan

variable {s : Search} {row : Nat} {used : Nat → Bool} {acc : Scan}

theorem scanCandidate_minimum (candidate j : Nat)
    : (scanCandidate s cost row used acc candidate).minimum j
        =
      if j = candidate ∧ used j = false then
        min (acc.minimum j) (s.reduced cost row j)
      else
        acc.minimum j := by
  unfold scanCandidate
  by_cases hj : j = candidate
  . subst hj
    split
    . simp_all
    . dsimp
      split <;> split <;> simp_all [min_def]
  . split
    . simp [hj]
    . dsimp
      split <;> split <;> simp [hj]

theorem scanCandidate_previous (candidate j : Nat)
    : (scanCandidate s cost row used acc candidate).previous j
        =
      if j = candidate ∧ used j = false ∧ (s.reduced cost row j : WithTop Int) < acc.minimum j then
        s.column
      else
        acc.previous j := by
  unfold scanCandidate
  by_cases hj : j = candidate
  . subst hj
    split
    . simp_all
    . dsimp
      split <;> split <;> simp_all
  . split
    . simp [hj]
    . dsimp
      split <;> split <;> simp [hj]

theorem scanCandidate_delta_le (candidate : Nat)
    : (scanCandidate s cost row used acc candidate).delta ≤ acc.delta := by
  unfold scanCandidate
  split
  . rfl
  . dsimp
    split <;> split <;> simp_all [le_of_lt]

theorem scanCandidate_delta_le_minimum {candidate : Nat} (h : used candidate = false)
    : (scanCandidate s cost row used acc candidate).delta
        ≤
      (scanCandidate s cost row used acc candidate).minimum candidate := by
  unfold scanCandidate
  rw [h]
  dsimp
  split <;> split <;> simp_all

theorem scanCandidate_next (s : Search) (cost : Nat → Nat → Int) (row : Nat) (used : Nat → Bool)
    (acc : Scan) (candidate : Nat)
    : let res := scanCandidate s cost row used acc candidate
      (res.delta = acc.delta ∧ res.next = acc.next)
        ∨
      (res.next = candidate ∧ used candidate = false ∧ res.minimum candidate = res.delta) := by
  unfold scanCandidate
  split
  . simp
  . dsimp
    split <;> split <;> simp_all

theorem foldl_scanCandidate_minimum (l : List Nat) (hl : l.Nodup) (acc : Scan) (j : Nat)
    : (l.foldl (scanCandidate s cost row used) acc).minimum j
        =
      if j ∈ l ∧ used j = false then
        min (acc.minimum j) (s.reduced cost row j)
      else
        acc.minimum j := by
  induction l generalizing acc with
  | nil => simp
  | cons c l ih =>
    rw [List.nodup_cons] at hl
    rw [List.foldl_cons]
    rw [ih hl.2]
    rw [scanCandidate_minimum]
    grind

theorem foldl_scanCandidate_previous (l : List Nat) (hl : l.Nodup) (acc : Scan) (j : Nat)
    : (l.foldl (scanCandidate s cost row used) acc).previous j
        =
      if j ∈ l ∧ used j = false ∧ (s.reduced cost row j : WithTop Int) < acc.minimum j then
        s.column
      else
        acc.previous j := by
  induction l generalizing acc with
  | nil => simp
  | cons c l ih =>
    rw [List.nodup_cons] at hl
    rw [List.foldl_cons]
    rw [ih hl.2]
    rw [scanCandidate_previous, scanCandidate_minimum]
    grind

theorem foldl_scanCandidate_delta_le (l : List Nat) (acc : Scan)
    : (l.foldl (scanCandidate s cost row used) acc).delta ≤ acc.delta := by
  induction l generalizing acc with
  | nil => simp
  | cons c l ih =>
    rw [List.foldl_cons]
    apply le_trans
    . apply ih
    . apply scanCandidate_delta_le

theorem foldl_scanCandidate_delta_le_minimum (l : List Nat) (hl : l.Nodup) (acc : Scan)
    : ∀ j ∈ l, used j = false →
        (l.foldl (scanCandidate s cost row used) acc).delta
          ≤
        (l.foldl (scanCandidate s cost row used) acc).minimum j := by
  induction l generalizing acc with
  | nil => simp
  | cons c l ih =>
    intro j hj hused
    rw [List.nodup_cons] at hl
    rw [List.foldl_cons]
    cases List.mem_cons.mp hj with
    | inl heq =>
      subst heq
      rw [foldl_scanCandidate_minimum l hl.2]
      simp only [hl.1, false_and, if_false]
      apply le_trans
      . apply foldl_scanCandidate_delta_le
      . apply scanCandidate_delta_le_minimum hused
    | inr hmem =>
      apply ih hl.2
      . assumption
      . assumption

theorem foldl_scanCandidate_next (s : Search) (cost : Nat → Nat → Int) (row : Nat)
    (used : Nat → Bool) (l : List Nat) (hl : l.Nodup) (acc : Scan)
    : let res := l.foldl (scanCandidate s cost row used) acc
      (res.delta = acc.delta ∧ res.next = acc.next)
        ∨
      (res.next ∈ l ∧ used res.next = false ∧ res.minimum res.next = res.delta) := by
  induction l generalizing acc with
  | nil => simp
  | cons c l ih =>
    rw [List.nodup_cons] at hl
    rw [List.foldl_cons]
    specialize ih hl.2 (scanCandidate s cost row used acc c)
    dsimp at ih ⊢
    cases ih with
    | inl h =>
      rw [h.1, h.2]
      cases scanCandidate_next s cost row used acc c with
      | inl h => exact .inl h
      | inr h =>
        right
        rw [h.1, foldl_scanCandidate_minimum l hl.2]
        simp [hl.1, h.2]
    | inr h =>
      right
      exact ⟨List.mem_cons_of_mem _ h.1, h.2⟩

theorem mem_candidates (j : Nat) : j ∈ List.range' 1 columns ↔ 1 ≤ j ∧ j ≤ columns := by
  rw [List.mem_range'_1]
  omega

theorem scan_minimum (j : Nat)
    : (scan s cost columns row used).minimum j
        =
      if (1 ≤ j ∧ j ≤ columns) ∧ used j = false then
        min (s.minimum j) (s.reduced cost row j)
      else
        s.minimum j := by
  unfold scan
  rw [foldl_scanCandidate_minimum _ (List.nodup_range')]
  simp only [mem_candidates]

theorem scan_previous (j : Nat)
    : (scan s cost columns row used).previous j
        =
      if (1 ≤ j ∧ j ≤ columns) ∧ used j = false ∧ (s.reduced cost row j : WithTop Int) < s.minimum j then
        s.column
      else
        s.previous j := by
  unfold scan
  rw [foldl_scanCandidate_previous _ (List.nodup_range')]
  simp only [mem_candidates]

theorem scan_delta_le_minimum (s : Search) (cost : Nat → Nat → Int) (row : Nat) {j : Nat}
    (hj : 1 ≤ j ∧ j ≤ columns) (hused : used j = false)
    : (scan s cost columns row used).delta ≤ (scan s cost columns row used).minimum j := by
  unfold scan
  apply foldl_scanCandidate_delta_le_minimum _ (List.nodup_range')
  . rw [mem_candidates]
    assumption
  . assumption

theorem scan_next (s : Search) (cost : Nat → Nat → Int) (columns row : Nat) (used : Nat → Bool)
    : let res := scan s cost columns row used
      res.delta = ⊤
        ∨
      ((1 ≤ res.next ∧ res.next ≤ columns) ∧ used res.next = false
        ∧ res.minimum res.next = res.delta) := by
  have := foldl_scanCandidate_next s cost row used (List.range' 1 columns) (List.nodup_range')
    { minimum := s.minimum, previous := s.previous, delta := ⊤, next := 0 }
  dsimp at this
  cases this with
  | inl h => exact .inl h.1
  | inr h =>
    right
    rw [mem_candidates] at h
    exact h

end Scan

section Relax

variable {owner : Nat → Nat} {used : Nat → Bool} {delta : Int}

theorem foldl_relaxCandidate_frame (owner : Nat → Nat) (used : Nat → Bool) (delta : Int) (l : List Nat) (s : Search)
    : (l.foldl (relaxCandidate owner used delta) s).previous = s.previous
        ∧
      (l.foldl (relaxCandidate owner used delta) s).used = s.used := by
  induction l generalizing s with
  | nil => simp
  | cons c l ih =>
    rw [List.foldl_cons]
    rw [(ih _).1, (ih _).2]
    unfold relaxCandidate
    split <;> simp

theorem relaxCandidate_columnPotential (s : Search) (candidate j : Nat)
    : (relaxCandidate owner used delta s candidate).columnPotential j
        =
      if j = candidate ∧ used j then s.columnPotential j - delta else s.columnPotential j := by
  unfold relaxCandidate
  by_cases hj : j = candidate
  . subst hj
    split <;> simp_all
  . split <;> simp [hj]

theorem relaxCandidate_minimum (s : Search) (candidate j : Nat)
    : (relaxCandidate owner used delta s candidate).minimum j
        =
      if j = candidate ∧ used j = false then (s.minimum j).map (· - delta) else s.minimum j := by
  unfold relaxCandidate
  by_cases hj : j = candidate
  . subst hj
    split <;> simp_all
  . split <;> simp [hj]

theorem foldl_relaxCandidate_columnPotential (l : List Nat) (hl : l.Nodup) (s : Search) (j : Nat)
    : (l.foldl (relaxCandidate owner used delta) s).columnPotential j
        =
      if j ∈ l ∧ used j then s.columnPotential j - delta else s.columnPotential j := by
  induction l generalizing s with
  | nil => simp
  | cons c l ih =>
    rw [List.nodup_cons] at hl
    rw [List.foldl_cons]
    rw [ih hl.2]
    rw [relaxCandidate_columnPotential]
    grind

theorem foldl_relaxCandidate_minimum (l : List Nat) (hl : l.Nodup) (s : Search) (j : Nat)
    : (l.foldl (relaxCandidate owner used delta) s).minimum j
        =
      if j ∈ l ∧ used j = false then (s.minimum j).map (· - delta) else s.minimum j := by
  induction l generalizing s with
  | nil => simp
  | cons c l ih =>
    rw [List.nodup_cons] at hl
    rw [List.foldl_cons]
    rw [ih hl.2]
    rw [relaxCandidate_minimum]
    grind

theorem foldl_relaxCandidate_rowPotential_of_not_owned (l : List Nat) (s : Search) (i : Nat)
    (hi : ∀ c ∈ l, used c → owner c ≠ i)
    : (l.foldl (relaxCandidate owner used delta) s).rowPotential i = s.rowPotential i := by
  induction l generalizing s with
  | nil => simp
  | cons c l ih =>
    rw [List.foldl_cons]
    rw [ih]
    . unfold relaxCandidate
      split
      . next hused =>
        have := hi c (by simp) hused
        simp [this.symm]
      . simp
    . intro c hc
      apply hi
      simp [hc]

theorem foldl_relaxCandidate_rowPotential_owner (l : List Nat) (hl : l.Nodup) (s : Search)
    (hinj : ∀ c ∈ l, ∀ d ∈ l, used c → used d → owner c = owner d → c = d)
    : ∀ c ∈ l, used c →
        (l.foldl (relaxCandidate owner used delta) s).rowPotential (owner c)
          =
        s.rowPotential (owner c) + delta := by
  induction l generalizing s with
  | nil => simp
  | cons d l ih =>
    intro c hc hused
    rw [List.nodup_cons] at hl
    rw [List.foldl_cons]
    cases List.mem_cons.mp hc with
    | inl heq =>
      subst heq
      rw [foldl_relaxCandidate_rowPotential_of_not_owned]
      . simp [relaxCandidate, hused]
      . intro d hd hdused heq
        have := hinj d (by simp [hd]) c (by simp) hdused hused heq
        simp_all
    | inr hmem =>
      rw [ih hl.2]
      . unfold relaxCandidate
        split
        . next hdused =>
          have : owner c ≠ owner d := by
            intro heq
            have := hinj c hc d (by simp) hused hdused heq
            simp_all
          simp [this]
        . simp
      . intro c hc d hd
        apply hinj
        . simp [hc]
        . simp [hd]
      . assumption
      . assumption

end Relax

def Covers (columns k : Nat) (owner : Nat → Nat) (hole : Nat) : Prop :=
  (∀ c, 1 ≤ c → c ≤ columns → c ≠ hole → owner c ≤ k)
    ∧ (∀ i, 1 ≤ i → i ≤ k → ∃ c, 1 ≤ c ∧ c ≤ columns ∧ c ≠ hole ∧ owner c = i)
    ∧ (∀ c d, 1 ≤ c → c ≤ columns → c ≠ hole → 1 ≤ d → d ≤ columns → d ≠ hole → owner c ≠ 0 →
        owner c = owner d → c = d)

namespace Search

def usedColumns (s : Search) (columns : Nat) : Finset Nat :=
  (Finset.range (columns + 1)).filter (fun j => s.used j)

structure Inv (s : Search) (cost : Nat → Nat → Int) (columns k : Nat) (owner : Nat → Nat)
    : Prop where
  used_le : ∀ j, s.used j → j ≤ columns
  used_owned : ∀ j, s.used j → owner j ≠ 0
  column_unused : s.used s.column = false
  column_le : s.column ≤ columns
  column_eq_zero_iff : s.column = 0 ↔ s.used 0 = false
  used_zero : ∀ j, s.used j → s.used 0
  feasible : ∀ i, (1 ≤ i ∧ i ≤ k) ∨ (i = k + 1 ∧ s.used 0) → ∀ j, 1 ≤ j → j ≤ columns →
    0 ≤ s.reduced cost i j
  tight : ∀ j, 1 ≤ j → j ≤ columns → owner j ≠ 0 → s.reduced cost (owner j) j = 0
  nonpos : ∀ j, 1 ≤ j → j ≤ columns → s.columnPotential j ≤ 0
  free : ∀ j, 1 ≤ j → j ≤ columns → owner j = 0 → s.columnPotential j = 0
  minimum_le : ∀ j, 1 ≤ j → j ≤ columns → s.used j = false → ∀ p, s.used p →
    s.minimum j ≤ (s.reduced cost (owner p) j : WithTop Int)
  minimum_eq : ∀ j, 1 ≤ j → j ≤ columns → s.used j = false →
    s.minimum j = ⊤
      ∨ (s.used (s.previous j) ∧ s.minimum j = (s.reduced cost (owner (s.previous j)) j : Int))
  column_tight : s.column ≠ 0 →
    s.used (s.previous s.column)
      ∧ s.reduced cost (owner (s.previous s.column)) s.column = 0
  tree : ∃ rank : Nat → Nat,
    (∀ j, s.used j → rank j < (s.usedColumns columns).card)
      ∧ ∀ j, s.used j → j ≠ 0 →
          s.used (s.previous j)
            ∧ rank (s.previous j) < rank j
            ∧ s.reduced cost (owner (s.previous j)) j = 0

end Search

structure StepSpec (s s' : Search) (cost : Nat → Nat → Int) (columns : Nat) (owner : Nat → Nat)
    (delta : Int) : Prop where
  used : s'.used = Function.update s.used s.column true
  column_ge : 1 ≤ s'.column
  column_le : s'.column ≤ columns
  column_unused : s'.used s'.column = false
  columnPotential : ∀ j, s'.columnPotential j
    = if j ≤ columns ∧ s'.used j then s.columnPotential j - delta else s.columnPotential j
  rowPotential_owner : ∀ j, j ≤ columns → s'.used j →
    s'.rowPotential (owner j) = s.rowPotential (owner j) + delta
  rowPotential : ∀ i, (∀ j, j ≤ columns → s'.used j → owner j ≠ i) →
    s'.rowPotential i = s.rowPotential i
  previous : ∀ j, s'.previous j
    = if (1 ≤ j ∧ j ≤ columns) ∧ s'.used j = false
        ∧ (s.reduced cost (owner s.column) j : WithTop Int) < s.minimum j then
        s.column
      else
        s.previous j
  minimum : ∀ j, 1 ≤ j → j ≤ columns → s'.used j = false →
    s'.minimum j = (min (s.minimum j) (s.reduced cost (owner s.column) j : Int)).map (· - delta)
  delta_le : ∀ j, 1 ≤ j → j ≤ columns → s'.used j = false →
    (delta : WithTop Int) ≤ min (s.minimum j) (s.reduced cost (owner s.column) j : Int)
  delta_eq : (delta : WithTop Int)
    = min (s.minimum s'.column) (s.reduced cost (owner s.column) s'.column : Int)

theorem scan_delta_ne_top {s : Search} {row : Nat} {used : Nat → Bool} {j : Nat}
    (hj : 1 ≤ j ∧ j ≤ columns) (hused : used j = false)
    : (scan s cost columns row used).delta ≠ ⊤ := by
  intro h
  have hle := scan_delta_le_minimum s cost row hj hused
  rw [h, scan_minimum] at hle
  simp [hj, hused] at hle

theorem Search.step_spec (s : Search) (cost : Nat → Nat → Int) (columns : Nat) (owner : Nat → Nat)
    (hinj : ∀ c d, c ≤ columns → d ≤ columns → Function.update s.used s.column true c →
      Function.update s.used s.column true d → owner c = owner d → c = d)
    (hfree : ∃ j, 1 ≤ j ∧ j ≤ columns ∧ Function.update s.used s.column true j = false)
    : ∃ s' delta, s.step cost columns owner = some s' ∧ StepSpec s s' cost columns owner delta := by
  generalize hused : Function.update s.used s.column true = used at *
  obtain ⟨j, hj1, hj2, hjused⟩ := hfree
  have htop : (scan s cost columns (owner s.column) used).delta ≠ ⊤ :=
    scan_delta_ne_top ⟨hj1, hj2⟩ hjused
  obtain ⟨delta, hdelta⟩ := WithTop.ne_top_iff_exists.mp htop
  have hnext := scan_next s cost columns (owner s.column) used
  dsimp at hnext
  rw [← hdelta] at hnext
  simp only [WithTop.coe_ne_top, false_or, scan_minimum] at hnext
  have hrange : ∀ c, c ∈ List.range (columns + 1) ↔ c ≤ columns := by
    intro c
    rw [List.mem_range]
    omega
  generalize hmid : { s with
    minimum := (scan s cost columns (owner s.column) used).minimum
    previous := (scan s cost columns (owner s.column) used).previous
    used := used } = mid
  have hframe := foldl_relaxCandidate_frame owner used delta (List.range (columns + 1)) mid
  refine ⟨{ (List.range (columns + 1)).foldl (relaxCandidate owner used delta) mid with
    column := (scan s cost columns (owner s.column) used).next }, delta, ?_, ?_⟩
  . unfold step
    dsimp
    rw [hused, hmid]
    rw [← hdelta]
  . have hu : ((List.range (columns + 1)).foldl (relaxCandidate owner used delta) mid).used = used := by
      rw [hframe.2, ← hmid]
    constructor
    . rw [hused]
      exact hu
    . exact hnext.1.1
    . exact hnext.1.2
    . dsimp
      rw [hu]
      exact hnext.2.1
    . intro j
      dsimp
      rw [hu]
      rw [foldl_relaxCandidate_columnPotential _ List.nodup_range]
      rw [← hmid]
      simp only [hrange]
    . intro j hj hjused
      dsimp at hjused ⊢
      rw [hu] at hjused
      rw [foldl_relaxCandidate_rowPotential_owner _ List.nodup_range]
      . rw [← hmid]
      . intro c hc d hd
        rw [hrange] at hc hd
        exact hinj c d hc hd
      . rw [hrange]
        assumption
      . assumption
    . intro i hi
      dsimp at hi ⊢
      rw [hu] at hi
      rw [foldl_relaxCandidate_rowPotential_of_not_owned]
      . rw [← hmid]
      . intro c hc
        rw [hrange] at hc
        exact hi c hc
    . intro j
      dsimp
      rw [hframe.1, hu, ← hmid]
      dsimp
      rw [scan_previous]
    . intro j hj1 hj2 hjused
      dsimp at hjused ⊢
      rw [hu] at hjused
      rw [foldl_relaxCandidate_minimum _ List.nodup_range]
      simp only [hrange, hj2, hjused, and_self, if_true]
      rw [← hmid]
      dsimp
      rw [scan_minimum]
      simp [hj1, hj2, hjused]
    . intro j hj1 hj2 hjused
      dsimp at hjused
      rw [hu] at hjused
      have hle := scan_delta_le_minimum s cost (owner s.column) ⟨hj1, hj2⟩ hjused
      rw [← hdelta, scan_minimum] at hle
      simpa [hj1, hj2, hjused] using hle
    . dsimp
      rw [← hnext.2.2]
      simp [hnext.1, hnext.2.1]

namespace StepSpec

variable {s s' : Search} {owner : Nat → Nat} {delta : Int} {k : Nat}

theorem used_iff (h : StepSpec s s' cost columns owner delta) (j : Nat)
    : s'.used j ↔ s.used j ∨ j = s.column := by
  rw [h.used]
  by_cases hj : j = s.column <;> simp [hj]

theorem unused_iff (h : StepSpec s s' cost columns owner delta) (j : Nat)
    : s'.used j = false ↔ s.used j = false ∧ j ≠ s.column := by
  rw [h.used]
  by_cases hj : j = s.column <;> simp [hj]

theorem reduced_owner (h : StepSpec s s' cost columns owner delta) {p j : Nat} (hp : p ≤ columns)
    (hpused : s'.used p) (hj : j ≤ columns)
    : s'.reduced cost (owner p) j
        =
      if s'.used j then s.reduced cost (owner p) j else s.reduced cost (owner p) j - delta := by
  unfold Search.reduced
  rw [h.rowPotential_owner p hp hpused, h.columnPotential]
  simp only [hj, true_and]
  split <;> ring

theorem reduced_of_not_owned (h : StepSpec s s' cost columns owner delta) {i j : Nat}
    (hi : ∀ p, p ≤ columns → s'.used p → owner p ≠ i) (hj : j ≤ columns)
    : s'.reduced cost i j
        =
      if s'.used j then s.reduced cost i j + delta else s.reduced cost i j := by
  unfold Search.reduced
  rw [h.rowPotential i hi, h.columnPotential]
  simp only [hj, true_and]
  split <;> ring

end StepSpec

section Step

variable {s s' : Search} {owner : Nat → Nat} {delta : Int} {k : Nat}

theorem Covers.owner_inj (h : Covers columns k owner 0) (h0 : owner 0 = k + 1) {c d : Nat}
    (hc : c ≤ columns) (hd : d ≤ columns) (hne : owner c ≠ 0) (heq : owner c = owner d)
    : c = d := by
  obtain ⟨hle, -, hinj⟩ := h
  by_cases hc0 : c = 0
  . by_cases hd0 : d = 0
    . omega
    . have := hle d (by omega) hd hd0
      subst hc0
      omega
  . by_cases hd0 : d = 0
    . have := hle c (by omega) hc hc0
      subst hd0
      omega
    . exact hinj c d (by omega) hc hc0 (by omega) hd hd0 hne heq

theorem Covers.row_of_owner (h : Covers columns k owner 0) (h0 : owner 0 = k + 1) {c : Nat}
    (hc : c ≤ columns) (hne : owner c ≠ 0)
    : (1 ≤ owner c ∧ owner c ≤ k) ∨ (owner c = k + 1 ∧ c = 0) := by
  by_cases hc0 : c = 0
  . right
    subst hc0
    exact ⟨h0, rfl⟩
  . left
    have := h.1 c (by omega) hc hc0
    omega

theorem Search.Inv.reduced_nonneg (hinv : s.Inv cost columns k owner)
    (hcov : Covers columns k owner 0) (h0 : owner 0 = k + 1) {p j : Nat} (hp : s.used p)
    (hj1 : 1 ≤ j) (hj2 : j ≤ columns)
    : 0 ≤ s.reduced cost (owner p) j := by
  apply hinv.feasible
  . have := hcov.row_of_owner h0 (hinv.used_le p hp) (hinv.used_owned p hp)
    cases this with
    | inl h => exact .inl h
    | inr h => exact .inr ⟨h.1, hinv.used_zero p hp⟩
  . assumption
  . assumption

theorem Search.Inv.column_reduced_nonneg (hinv : s.Inv cost columns k owner)
    (hcov : Covers columns k owner 0) (h0 : owner 0 = k + 1) (hown : owner s.column ≠ 0)
    (hcol : s.column ≠ 0) {j : Nat} (hj1 : 1 ≤ j) (hj2 : j ≤ columns)
    : 0 ≤ s.reduced cost (owner s.column) j := by
  apply hinv.feasible
  . have := hcov.row_of_owner h0 hinv.column_le hown
    cases this with
    | inl h => exact .inl h
    | inr h => omega
  . assumption
  . assumption

theorem Search.Inv.delta_nonneg (hinv : s.Inv cost columns k owner)
    (hcov : Covers columns k owner 0) (h0 : owner 0 = k + 1) (hown : owner s.column ≠ 0)
    (hcol : s.column ≠ 0) (hstep : StepSpec s s' cost columns owner delta)
    : 0 ≤ delta := by
  have hunused := (hstep.unused_iff s'.column).mp hstep.column_unused
  have hnext := hinv.column_reduced_nonneg hcov h0 hown hcol hstep.column_ge hstep.column_le
  have hmin := hinv.minimum_eq s'.column hstep.column_ge hstep.column_le hunused.1
  have hdelta := hstep.delta_eq
  rw [← WithTop.coe_le_coe, hdelta]
  apply le_min
  . cases hmin with
    | inl h => simp [h]
    | inr h =>
      rw [h.2, WithTop.coe_le_coe]
      exact hinv.reduced_nonneg hcov h0 h.1 hstep.column_ge hstep.column_le
  . rw [WithTop.coe_le_coe]
    exact hnext

theorem Search.Inv.step_used_owned (hinv : s.Inv cost columns k owner) (hown : owner s.column ≠ 0)
    (hstep : StepSpec s s' cost columns owner delta) {j : Nat} (hj : s'.used j)
    : j ≤ columns ∧ owner j ≠ 0 := by
  rw [hstep.used_iff] at hj
  cases hj with
  | inl h => exact ⟨hinv.used_le j h, hinv.used_owned j h⟩
  | inr h =>
    subst h
    exact ⟨hinv.column_le, hown⟩

theorem Search.Inv.step_used_zero (hinv : s.Inv cost columns k owner)
    (hstep : StepSpec s s' cost columns owner delta)
    : s'.used 0 := by
  rw [hstep.used_iff]
  by_cases h : s.used 0
  . exact .inl h
  . right
    symm
    rw [hinv.column_eq_zero_iff]
    simpa using h

theorem Search.Inv.step_delta_nonneg (hinv : s.Inv cost columns k owner)
    (hcov : Covers columns k owner 0) (h0 : owner 0 = k + 1) (hown : owner s.column ≠ 0)
    (hstep : StepSpec s s' cost columns owner delta) {j : Nat} (hj : s'.used j) (hj0 : 1 ≤ j)
    : 0 ≤ delta := by
  apply hinv.delta_nonneg hcov h0 hown ?_ hstep
  intro hcol
  rw [hstep.used_iff] at hj
  cases hj with
  | inl h =>
    have := hinv.used_zero j h
    rw [hinv.column_eq_zero_iff] at hcol
    simp_all
  | inr h => omega

theorem Search.Inv.step_feasible (hinv : s.Inv cost columns k owner)
    (hcov : Covers columns k owner 0) (h0 : owner 0 = k + 1) (hown : owner s.column ≠ 0)
    (hstep : StepSpec s s' cost columns owner delta) (i : Nat)
    (hi : (1 ≤ i ∧ i ≤ k) ∨ (i = k + 1 ∧ s'.used 0)) (j : Nat) (hj1 : 1 ≤ j) (hj2 : j ≤ columns)
    : 0 ≤ s'.reduced cost i j := by
  by_cases hrow : ∃ p, p ≤ columns ∧ s'.used p ∧ owner p = i
  . obtain ⟨p, hp, hpused, rfl⟩ := hrow
    rw [hstep.reduced_owner hp hpused hj2]
    split
    . next hjused =>
      rw [hstep.used_iff] at hpused
      cases hpused with
      | inl h => exact hinv.reduced_nonneg hcov h0 h hj1 hj2
      | inr h =>
        subst h
        apply hinv.column_reduced_nonneg hcov h0 hown
        . intro hcol
          rw [hstep.used_iff] at hjused
          cases hjused with
          | inl h =>
            have := hinv.used_zero j h
            rw [hinv.column_eq_zero_iff] at hcol
            simp_all
          | inr h => omega
        . assumption
        . assumption
    . next hjused =>
      rw [Bool.not_eq_true] at hjused
      have hdelta := hstep.delta_le j hj1 hj2 hjused
      have hle : (delta : WithTop Int) ≤ (s.reduced cost (owner p) j : Int) := by
        apply le_trans hdelta
        rw [hstep.used_iff] at hpused
        cases hpused with
        | inl h =>
          apply le_trans (min_le_left _ _)
          exact hinv.minimum_le j hj1 hj2 ((hstep.unused_iff j).mp hjused).1 p h
        | inr h =>
          subst h
          apply min_le_right
      rw [WithTop.coe_le_coe] at hle
      omega
  . have hnot : ∀ p, p ≤ columns → s'.used p → owner p ≠ i := by
      intro p hp hpused heq
      exact hrow ⟨p, hp, hpused, heq⟩
    have hik : 1 ≤ i ∧ i ≤ k := by
      cases hi with
      | inl h => exact h
      | inr h =>
        have := hnot 0 (by omega) h.2
        omega
    have hold := hinv.feasible i (.inl hik) j hj1 hj2
    rw [hstep.reduced_of_not_owned hnot hj2]
    split
    . next hjused =>
      have := hinv.step_delta_nonneg hcov h0 hown hstep hjused hj1
      omega
    . exact hold

theorem Search.Inv.step_tight (hinv : s.Inv cost columns k owner)
    (hcov : Covers columns k owner 0) (h0 : owner 0 = k + 1) (hown : owner s.column ≠ 0)
    (hstep : StepSpec s s' cost columns owner delta) (j : Nat) (hj1 : 1 ≤ j) (hj2 : j ≤ columns)
    (hj : owner j ≠ 0)
    : s'.reduced cost (owner j) j = 0 := by
  have hold := hinv.tight j hj1 hj2 hj
  by_cases hjused : s'.used j
  . rw [hstep.reduced_owner hj2 hjused hj2]
    simp [hjused, hold]
  . rw [hstep.reduced_of_not_owned _ hj2]
    . simp [hjused, hold]
    . intro p hp hpused heq
      have := (hinv.step_used_owned hown hstep hpused).2
      have := hcov.owner_inj h0 hp hj2 this heq
      subst this
      exact hjused hpused

theorem Search.Inv.step_nonpos (hinv : s.Inv cost columns k owner)
    (hcov : Covers columns k owner 0) (h0 : owner 0 = k + 1) (hown : owner s.column ≠ 0)
    (hstep : StepSpec s s' cost columns owner delta) (j : Nat) (hj1 : 1 ≤ j) (hj2 : j ≤ columns)
    : s'.columnPotential j ≤ 0 := by
  have hold := hinv.nonpos j hj1 hj2
  rw [hstep.columnPotential]
  split
  . next hjused =>
    have := hinv.step_delta_nonneg hcov h0 hown hstep hjused.2 hj1
    omega
  . exact hold

theorem Search.Inv.step_free (hinv : s.Inv cost columns k owner) (hown : owner s.column ≠ 0)
    (hstep : StepSpec s s' cost columns owner delta) (j : Nat) (hj1 : 1 ≤ j) (hj2 : j ≤ columns)
    (hj : owner j = 0)
    : s'.columnPotential j = 0 := by
  rw [hstep.columnPotential]
  split
  . next hjused => exact absurd hj (hinv.step_used_owned hown hstep hjused.2).2
  . exact hinv.free j hj1 hj2 hj

theorem Search.Inv.step_minimum_le (hinv : s.Inv cost columns k owner) (hown : owner s.column ≠ 0)
    (hstep : StepSpec s s' cost columns owner delta) (j : Nat) (hj1 : 1 ≤ j) (hj2 : j ≤ columns)
    (hj : s'.used j = false) (p : Nat) (hp : s'.used p)
    : s'.minimum j ≤ (s'.reduced cost (owner p) j : Int) := by
  have hpcol := (hinv.step_used_owned hown hstep hp).1
  rw [hstep.minimum j hj1 hj2 hj]
  rw [hstep.reduced_owner hpcol hp hj2]
  have hle : min (s.minimum j) (s.reduced cost (owner s.column) j : Int)
      ≤ (s.reduced cost (owner p) j : Int) := by
    rw [hstep.used_iff] at hp
    cases hp with
    | inl h =>
      apply le_trans (min_le_left _ _)
      exact hinv.minimum_le j hj1 hj2 ((hstep.unused_iff j).mp hj).1 p h
    | inr h =>
      subst h
      apply min_le_right
  obtain ⟨m, hm⟩ : ∃ m : Int, min (s.minimum j) (s.reduced cost (owner s.column) j : Int) = m := by
    apply WithTop.ne_top_iff_exists.mp ?_ |>.imp
    . intro m hm
      exact hm.symm
    . intro htop
      rw [htop] at hle
      simp at hle
  rw [hm, WithTop.coe_le_coe] at hle
  rw [hm, hj]
  simp only [WithTop.map_coe, Bool.false_eq_true, if_false, WithTop.coe_le_coe]
  omega

theorem Search.Inv.step_minimum_eq (hinv : s.Inv cost columns k owner)
    (hstep : StepSpec s s' cost columns owner delta) (j : Nat) (hj1 : 1 ≤ j) (hj2 : j ≤ columns)
    (hj : s'.used j = false)
    : s'.used (s'.previous j)
        ∧ s'.minimum j = (s'.reduced cost (owner (s'.previous j)) j : Int) := by
  have hold := hinv.minimum_eq j hj1 hj2 ((hstep.unused_iff j).mp hj).1
  have hprev := hstep.previous j
  simp only [hj1, hj2, hj, true_and] at hprev
  rw [hstep.minimum j hj1 hj2 hj]
  by_cases hlt : (s.reduced cost (owner s.column) j : WithTop Int) < s.minimum j
  . simp only [hlt, if_true] at hprev
    have hcol : s'.used s.column := by
      rw [hstep.used_iff]
      exact .inr rfl
    rw [hprev, hstep.reduced_owner hinv.column_le hcol hj2]
    refine ⟨hcol, ?_⟩
    rw [min_eq_right (le_of_lt hlt)]
    simp [hj]
  . simp only [hlt, if_false] at hprev
    cases hold with
    | inl h => simp [h] at hlt
    | inr h =>
      have hused : s'.used (s.previous j) := by
        rw [hstep.used_iff]
        exact .inl h.1
      rw [hprev, hstep.reduced_owner (hinv.used_le _ h.1) hused hj2]
      refine ⟨hused, ?_⟩
      rw [min_eq_left (not_lt.mp hlt), h.2]
      simp [hj]

theorem Search.Inv.step_column_tight (hinv : s.Inv cost columns k owner)
    (hstep : StepSpec s s' cost columns owner delta)
    : s'.used (s'.previous s'.column)
        ∧ s'.reduced cost (owner (s'.previous s'.column)) s'.column = 0 := by
  have hmin := hinv.step_minimum_eq hstep s'.column hstep.column_ge hstep.column_le
    hstep.column_unused
  refine ⟨hmin.1, ?_⟩
  have heq := hmin.2
  rw [hstep.minimum _ hstep.column_ge hstep.column_le hstep.column_unused] at heq
  rw [← hstep.delta_eq] at heq
  simp only [WithTop.map_coe, sub_self, WithTop.coe_inj] at heq
  exact heq.symm

theorem Search.Inv.step_previous (hinv : s.Inv cost columns k owner)
    (hstep : StepSpec s s' cost columns owner delta) {j : Nat} (hj : s'.used j) (hj0 : j ≠ 0)
    : s'.previous j = s.previous j ∧ s'.used (s.previous j) ∧ s.used (s.previous j)
        ∧ s.reduced cost (owner (s.previous j)) j = 0 := by
  have hprev := hstep.previous j
  simp only [hj, Bool.true_eq_false, false_and, and_false, if_false] at hprev
  obtain ⟨rank, -, htree⟩ := hinv.tree
  have hold : s.used (s.previous j) ∧ s.reduced cost (owner (s.previous j)) j = 0 := by
    rw [hstep.used_iff] at hj
    cases hj with
    | inl h => exact ⟨(htree j h hj0).1, (htree j h hj0).2.2⟩
    | inr h =>
      subst h
      exact hinv.column_tight hj0
  refine ⟨hprev, ?_, hold.1, hold.2⟩
  rw [hstep.used_iff]
  exact .inl hold.1

theorem StepSpec.usedColumns (hstep : StepSpec s s' cost columns owner delta)
    (hinv : s.Inv cost columns k owner)
    : (s'.usedColumns columns).card = (s.usedColumns columns).card + 1 := by
  have : s'.usedColumns columns = insert s.column (s.usedColumns columns) := by
    ext j
    unfold Search.usedColumns
    rw [Finset.mem_insert, Finset.mem_filter, Finset.mem_filter, Finset.mem_range, hstep.used_iff]
    have := hinv.column_le
    constructor
    . rintro ⟨hj, h | h⟩
      . exact .inr ⟨hj, h⟩
      . exact .inl h
    . rintro (h | h)
      . exact ⟨by omega, .inr h⟩
      . exact ⟨h.1, .inl h.2⟩
  rw [this, Finset.card_insert_of_notMem]
  unfold Search.usedColumns
  simp [hinv.column_unused]

theorem Search.Inv.step_tree (hinv : s.Inv cost columns k owner) (hown : owner s.column ≠ 0)
    (hstep : StepSpec s s' cost columns owner delta)
    : ∃ rank : Nat → Nat,
        (∀ j, s'.used j → rank j < (s'.usedColumns columns).card)
          ∧ ∀ j, s'.used j → j ≠ 0 →
              s'.used (s'.previous j)
                ∧ rank (s'.previous j) < rank j
                ∧ s'.reduced cost (owner (s'.previous j)) j = 0 := by
  obtain ⟨rank, hrank, htree⟩ := hinv.tree
  refine ⟨Function.update rank s.column (s.usedColumns columns).card, ?_, ?_⟩
  . intro j hj
    rw [hstep.usedColumns hinv]
    rw [hstep.used_iff] at hj
    by_cases hcol : j = s.column
    . simp [hcol]
    . have := hrank j (by simpa [hcol] using hj)
      simp only [Function.update_of_ne hcol]
      omega
  . intro j hj hj0
    obtain ⟨hprev, hused', hused, hzero⟩ := hinv.step_previous hstep hj hj0
    have hjcol := (hinv.step_used_owned hown hstep hj).1
    rw [hprev]
    refine ⟨hused', ?_, ?_⟩
    . have hne : s.previous j ≠ s.column := by
        intro heq
        rw [heq, hinv.column_unused] at hused
        simp at hused
      rw [Function.update_of_ne hne]
      by_cases hcol : j = s.column
      . subst hcol
        rw [Function.update_self]
        exact hrank _ hused
      . rw [Function.update_of_ne hcol]
        rw [hstep.used_iff] at hj
        exact (htree j (by simpa [hcol] using hj) hj0).2.1
    . rw [hstep.reduced_owner (hinv.used_le _ hused) hused' hjcol]
      simp [hj, hzero]

theorem Search.Inv.step (hinv : s.Inv cost columns k owner) (hcov : Covers columns k owner 0)
    (h0 : owner 0 = k + 1) (hown : owner s.column ≠ 0)
    (hstep : StepSpec s s' cost columns owner delta)
    : s'.Inv cost columns k owner where
  used_le := fun _ hj => (hinv.step_used_owned hown hstep hj).1
  used_owned := fun _ hj => (hinv.step_used_owned hown hstep hj).2
  column_unused := hstep.column_unused
  column_le := hstep.column_le
  column_eq_zero_iff := by
    have := hinv.step_used_zero hstep
    have := hstep.column_ge
    constructor
    . omega
    . simp_all
  used_zero := fun _ _ => hinv.step_used_zero hstep
  feasible := hinv.step_feasible hcov h0 hown hstep
  tight := hinv.step_tight hcov h0 hown hstep
  nonpos := hinv.step_nonpos hcov h0 hown hstep
  free := hinv.step_free hown hstep
  minimum_le := hinv.step_minimum_le hown hstep
  minimum_eq := fun j hj1 hj2 hj => .inr (hinv.step_minimum_eq hstep j hj1 hj2 hj)
  column_tight := fun _ => hinv.step_column_tight hstep
  tree := hinv.step_tree hown hstep

theorem Search.Inv.usedColumns_card_le (hinv : s.Inv cost columns k owner)
    (hcov : Covers columns k owner 0) (h0 : owner 0 = k + 1)
    : (s.usedColumns columns).card ≤ k + 1 := by
  have : (s.usedColumns columns).card ≤ (Finset.Icc 1 (k + 1)).card := by
    apply Finset.card_le_card_of_injOn owner
    . intro j hj
      simp only [usedColumns, Finset.coe_filter, Set.mem_ofPred_eq] at hj
      have := hcov.row_of_owner h0 (hinv.used_le j hj.2) (hinv.used_owned j hj.2)
      simp only [Finset.coe_Icc, Set.mem_Icc]
      omega
    . intro c hc d hd heq
      simp only [usedColumns, Finset.coe_filter, Set.mem_ofPred_eq] at hc hd
      exact hcov.owner_inj h0 (hinv.used_le c hc.2) (hinv.used_le d hd.2) (hinv.used_owned c hc.2) heq
  simpa using this

theorem Search.Inv.update_used_owned (hinv : s.Inv cost columns k owner)
    (hown : owner s.column ≠ 0) {j : Nat} (hj : Function.update s.used s.column true j)
    : owner j ≠ 0 := by
  by_cases hcol : j = s.column
  . rw [hcol]
    exact hown
  . rw [Function.update_of_ne hcol] at hj
    exact hinv.used_owned j hj

theorem Search.Inv.exists_unused (hinv : s.Inv cost columns k owner)
    (hcov : Covers columns k owner 0) (h0 : owner 0 = k + 1) (hown : owner s.column ≠ 0)
    (hk : k + 1 ≤ columns)
    : ∃ j, 1 ≤ j ∧ j ≤ columns ∧ Function.update s.used s.column true j = false := by
  by_contra hall
  have hused : ∀ j, j ≤ columns → owner j ≠ 0 := by
    intro j hj
    by_cases hj0 : j = 0
    . rw [hj0, h0]
      omega
    . apply hinv.update_used_owned hown
      by_contra hfalse
      exact hall ⟨j, by omega, hj, by simpa using hfalse⟩
  have : (Finset.range (columns + 1)).card ≤ (Finset.Icc 1 (k + 1)).card := by
    apply Finset.card_le_card_of_injOn owner
    . intro j hj
      simp only [Finset.coe_range, Set.mem_Iio] at hj
      have := hcov.row_of_owner h0 (by omega) (hused j (by omega))
      simp only [Finset.coe_Icc, Set.mem_Icc]
      omega
    . intro c hc d hd heq
      simp only [Finset.coe_range, Set.mem_Iio] at hc hd
      exact hcov.owner_inj h0 (by omega) (by omega) (hused c (by omega)) heq
  simp at this
  omega

theorem Search.Inv.exists_step (hinv : s.Inv cost columns k owner)
    (hcov : Covers columns k owner 0) (h0 : owner 0 = k + 1) (hown : owner s.column ≠ 0)
    (hk : k + 1 ≤ columns)
    : ∃ s' delta, s.step cost columns owner = some s' ∧ StepSpec s s' cost columns owner delta := by
  apply Search.step_spec
  . intro c d hc hd hcused _ heq
    exact hcov.owner_inj h0 hc hd (hinv.update_used_owned hown hcused) heq
  . exact hinv.exists_unused hcov h0 hown hk

theorem search_spec (fuel : Nat) (s : Search) (hinv : s.Inv cost columns k owner)
    (hcov : Covers columns k owner 0) (h0 : owner 0 = k + 1) (hown : owner s.column ≠ 0)
    (hk : k + 1 ≤ columns) (hfuel : k + 2 ≤ fuel + (s.usedColumns columns).card)
    : ∃ found, search cost columns owner fuel s = some found
        ∧ found.Inv cost columns k owner
        ∧ found.column ≠ 0
        ∧ owner found.column = 0 := by
  induction fuel generalizing s with
  | zero =>
    have := hinv.usedColumns_card_le hcov h0
    omega
  | succ fuel ih =>
    obtain ⟨s', delta, heq, hstep⟩ := hinv.exists_step hcov h0 hown hk
    have hinv' := hinv.step hcov h0 hown hstep
    unfold search
    rw [heq]
    dsimp
    by_cases hdone : owner s'.column = 0
    . refine ⟨s', by simp [hdone], hinv', ?_, hdone⟩
      have := hstep.column_ge
      omega
    . simp only [hdone, not_false_eq_true, if_true]
      apply ih
      . exact hinv'
      . exact hdone
      . rw [hstep.usedColumns hinv]
        omega

end Step

section Augment

variable {previous : Nat → Nat} {owner : Nat → Nat} {columns column p k : Nat}

theorem Covers.move (h : Covers columns k owner column) (hc1 : 1 ≤ column) (hc2 : column ≤ columns)
    (hp1 : 1 ≤ p) (hp2 : p ≤ columns) (hne : p ≠ column) (hpown : owner p ≠ 0)
    : Covers columns k (Function.update owner column (owner p)) p := by
  obtain ⟨hle, hsurj, hinj⟩ := h
  refine ⟨?_, ?_, ?_⟩
  . intro c h1 h2 h3
    by_cases hc : c = column
    . rw [hc, Function.update_self]
      exact hle p hp1 hp2 hne
    . rw [Function.update_of_ne hc]
      exact hle c h1 h2 hc
  . intro i h1 h2
    obtain ⟨c, hc⟩ := hsurj i h1 h2
    by_cases hcp : c = p
    . refine ⟨column, hc1, hc2, hne.symm, ?_⟩
      rw [Function.update_self]
      rw [← hcp]
      exact hc.2.2.2
    . refine ⟨c, hc.1, hc.2.1, hcp, ?_⟩
      rw [Function.update_of_ne hc.2.2.1]
      exact hc.2.2.2
  . intro c d hcc1 hcc2 hcp hd1 hd2 hdp hcne heq
    by_cases hc : c = column
    . by_cases hd : d = column
      . rw [hc, hd]
      . rw [hc, Function.update_self, Function.update_of_ne hd] at heq
        have := hinj p d hp1 hp2 hne hd1 hd2 hd hpown heq
        omega
    . by_cases hd : d = column
      . rw [hd, Function.update_self, Function.update_of_ne hc] at heq
        have := hinj p c hp1 hp2 hne hcc1 hcc2 hc hpown heq.symm
        omega
      . rw [Function.update_of_ne hc] at hcne
        rw [Function.update_of_ne hc, Function.update_of_ne hd] at heq
        exact hinj c d hcc1 hcc2 hc hd1 hd2 hd hcne heq

theorem Covers.finish (h : Covers columns k owner column) (hc1 : 1 ≤ column)
    (hc2 : column ≤ columns) (h0 : owner 0 = k + 1)
    : Covers columns (k + 1) (Function.update owner column (owner 0)) 0 := by
  obtain ⟨hle, hsurj, hinj⟩ := h
  refine ⟨?_, ?_, ?_⟩
  . intro c h1 h2 _
    by_cases hc : c = column
    . rw [hc, Function.update_self]
      omega
    . rw [Function.update_of_ne hc]
      have := hle c h1 h2 hc
      omega
  . intro i h1 h2
    by_cases hi : i = k + 1
    . refine ⟨column, hc1, hc2, by omega, ?_⟩
      rw [Function.update_self]
      omega
    . obtain ⟨c, hc⟩ := hsurj i h1 (by omega)
      refine ⟨c, hc.1, hc.2.1, by omega, ?_⟩
      rw [Function.update_of_ne hc.2.2.1]
      exact hc.2.2.2
  . intro c d hcc1 hcc2 _ hd1 hd2 _ hcne heq
    by_cases hc : c = column
    . by_cases hd : d = column
      . rw [hc, hd]
      . rw [hc, Function.update_self, Function.update_of_ne hd] at heq
        have := hle d hd1 hd2 hd
        omega
    . by_cases hd : d = column
      . rw [hd, Function.update_self, Function.update_of_ne hc] at heq
        have := hle c hcc1 hcc2 hc
        omega
      . rw [Function.update_of_ne hc] at hcne
        rw [Function.update_of_ne hc, Function.update_of_ne hd] at heq
        exact hinj c d hcc1 hcc2 hc hd1 hd2 hd hcne heq

structure Tree (s : Search) (cost : Nat → Nat → Int) (columns : Nat) (owner : Nat → Nat)
    (node : Nat → Prop) (rank : Nat → Nat) : Prop where
  link : ∀ j, node j → j ≠ 0 →
    s.used (s.previous j)
      ∧ rank (s.previous j) < rank j
      ∧ s.reduced cost (owner (s.previous j)) j = 0
  used : ∀ j, s.used j → node j ∧ j ≤ columns ∧ owner j ≠ 0

theorem Search.Inv.exists_tree {s : Search} (hinv : s.Inv cost columns k owner)
    : ∃ rank : Nat → Nat,
        rank s.column = (s.usedColumns columns).card
          ∧ Tree s cost columns owner (fun j => s.used j ∨ j = s.column) rank := by
  obtain ⟨rank, hrank, htree⟩ := hinv.tree
  have hused : ∀ j, s.used j → j ≠ s.column := by
    intro j hj heq
    rw [heq, hinv.column_unused] at hj
    simp at hj
  refine ⟨Function.update rank s.column (s.usedColumns columns).card, by simp, ?_, ?_⟩
  . intro j hj hj0
    cases hj with
    | inl h =>
      have := htree j h hj0
      rw [Function.update_of_ne (hused j h), Function.update_of_ne (hused _ this.1)]
      exact this
    | inr h =>
      subst h
      have := hinv.column_tight hj0
      rw [Function.update_self, Function.update_of_ne (hused _ this.1)]
      exact ⟨this.1, hrank _ this.1, this.2⟩
  . intro j hj
    exact ⟨.inl hj, hinv.used_le j hj, hinv.used_owned j hj⟩

structure AugmentInv (s : Search) (cost : Nat → Nat → Int) (columns k : Nat) (owner : Nat → Nat)
    (node : Nat → Prop) (rank : Nat → Nat) (owner' : Nat → Nat) (column : Nat) : Prop where
  node : node column
  column_ge : 1 ≤ column
  column_le : column ≤ columns
  covers : Covers columns k owner' column
  zero : owner' 0 = k + 1
  kept : ∀ j, s.used j → rank j < rank column → owner' j = owner j
  tight : ∀ j, 1 ≤ j → j ≤ columns → j ≠ column → owner' j ≠ 0 → s.reduced cost (owner' j) j = 0
  free : ∀ j, 1 ≤ j → j ≤ columns → j ≠ column → owner' j = 0 → owner j = 0

theorem augment_spec {s : Search} {node : Nat → Prop} {rank : Nat → Nat}
    (htree : Tree s cost columns owner node rank) (h0 : owner 0 = k + 1) (fuel : Nat)
    (owner' : Nat → Nat) (column : Nat)
    (hinv : AugmentInv s cost columns k owner node rank owner' column) (hfuel : rank column < fuel)
    : ∃ res, augment s.previous fuel owner' column = some res
        ∧ Covers columns (k + 1) res 0
        ∧ (∀ j, 1 ≤ j → j ≤ columns → res j ≠ 0 → s.reduced cost (res j) j = 0)
        ∧ (∀ j, 1 ≤ j → j ≤ columns → res j = 0 → owner j = 0) := by
  induction fuel generalizing owner' column with
  | zero => omega
  | succ fuel ih =>
    have hc1 := hinv.column_ge
    obtain ⟨hused, hrank, hzero⟩ := htree.link column hinv.node (by omega)
    obtain ⟨hnode, hple, hpown⟩ := htree.used _ hused
    have hkept := hinv.kept _ hused hrank
    unfold augment
    dsimp
    by_cases hp : s.previous column = 0
    . rw [hp] at hzero
      refine ⟨Function.update owner' column (owner' (s.previous column)), by simp [hp], ?_, ?_, ?_⟩
      . rw [hp]
        exact hinv.covers.finish hc1 hinv.column_le hinv.zero
      . intro j h1 h2 hne
        by_cases hj : j = column
        . rw [hj, Function.update_self, hp, hinv.zero, ← h0]
          exact hzero
        . rw [Function.update_of_ne hj] at hne ⊢
          exact hinv.tight j h1 h2 hj hne
      . intro j h1 h2 heq
        by_cases hj : j = column
        . rw [hj, Function.update_self, hp, hinv.zero] at heq
          omega
        . rw [Function.update_of_ne hj] at heq
          exact hinv.free j h1 h2 hj heq
    . have hne : s.previous column ≠ column := by
        intro heq
        rw [heq] at hrank
        omega
      simp only [hp, not_false_eq_true, if_true]
      apply ih
      . constructor
        . exact hnode
        . omega
        . exact hple
        . apply hinv.covers.move
          . exact hc1
          . exact hinv.column_le
          . omega
          . exact hple
          . exact hne
          . rw [hkept]
            exact hpown
        . rw [Function.update_of_ne (by omega)]
          exact hinv.zero
        . intro j hj hjrank
          have : j ≠ column := by
            intro heq
            subst heq
            omega
          rw [Function.update_of_ne this]
          apply hinv.kept
          . exact hj
          . omega
        . intro j h1 h2 hjp hjne
          by_cases hj : j = column
          . rw [hj, Function.update_self, hkept]
            exact hzero
          . rw [Function.update_of_ne hj] at hjne ⊢
            exact hinv.tight j h1 h2 hj hjne
        . intro j h1 h2 hjp heq
          by_cases hj : j = column
          . rw [hj, Function.update_self, hkept] at heq
            exact absurd heq hpown
          . rw [Function.update_of_ne hj] at heq
            exact hinv.free j h1 h2 hj heq
      . omega

end Augment

section Run

structure State.Inv (s : State) (cost : Nat → Nat → Int) (columns k : Nat) : Prop where
  covers : Covers columns k s.owner 0
  feasible : ∀ i, 1 ≤ i → i ≤ k → ∀ j, 1 ≤ j → j ≤ columns →
    s.rowPotential i + s.columnPotential j ≤ cost i j
  tight : ∀ j, 1 ≤ j → j ≤ columns → s.owner j ≠ 0 →
    s.rowPotential (s.owner j) + s.columnPotential j = cost (s.owner j) j
  nonpos : ∀ j, 1 ≤ j → j ≤ columns → s.columnPotential j ≤ 0
  free : ∀ j, 1 ≤ j → j ≤ columns → s.owner j = 0 → s.columnPotential j = 0

theorem State.empty_inv : State.empty.Inv cost columns 0 := by
  constructor
  . refine ⟨?_, ?_, ?_⟩ <;> simp [empty]
    omega
  all_goals
    simp [empty]
    try omega

theorem State.Inv.start {s : State} {k : Nat} (hinv : s.Inv cost columns k)
    : (Search.start s).Inv cost columns k (Function.update s.owner 0 (k + 1)) := by
  have hne : ∀ j, 1 ≤ j → j ≠ 0 := by omega
  constructor <;> try simp [Search.start]
  . intro i h1 h2 j h3 h4
    have := hinv.feasible i h1 h2 j h3 h4
    simp [Search.reduced]
    omega
  . intro j h1 h2
    rw [Function.update_of_ne (hne j h1)]
    intro h3
    have := hinv.tight j h1 h2 h3
    simp [Search.reduced]
    omega
  . exact hinv.nonpos
  . intro j h1 h2
    rw [Function.update_of_ne (hne j h1)]
    exact hinv.free j h1 h2

theorem Covers.congr {owner owner' : Nat → Nat} {k : Nat} (h : Covers columns k owner 0)
    (hagree : ∀ j, 1 ≤ j → owner' j = owner j)
    : Covers columns k owner' 0 := by
  obtain ⟨h1, h2, h3⟩ := h
  refine ⟨?_, ?_, ?_⟩
  . intro c hc
    rw [hagree c hc]
    exact h1 c hc
  . intro i hi1 hi2
    obtain ⟨c, hc⟩ := h2 i hi1 hi2
    refine ⟨c, ?_⟩
    rw [hagree c hc.1]
    exact hc
  . intro c d hc1 hc2 hc3 hd1
    rw [hagree c hc1, hagree d hd1]
    exact h3 c d hc1 hc2 hc3 hd1

theorem Covers.of_free {owner : Nat → Nat} {k column : Nat} (h : Covers columns k owner 0)
    (hfree : owner column = 0)
    : Covers columns k owner column := by
  obtain ⟨h1, h2, h3⟩ := h
  refine ⟨?_, ?_, ?_⟩
  . intro c hc1 hc2 _
    exact h1 c hc1 hc2 (by omega)
  . intro i hi1 hi2
    obtain ⟨c, hc⟩ := h2 i hi1 hi2
    refine ⟨c, hc.1, hc.2.1, ?_, hc.2.2.2⟩
    intro heq
    rw [heq] at hc
    omega
  . intro c d hc1 hc2 _ hd1 hd2 _
    exact h3 c d hc1 hc2 (by omega) hd1 hd2 (by omega)

theorem Search.Inv.augmentInv {s : Search} {owner : Nat → Nat} {k : Nat} {rank : Nat → Nat}
    (hinv : s.Inv cost columns k owner) (hcov : Covers columns k owner 0) (h0 : owner 0 = k + 1)
    (hcol : s.column ≠ 0) (hown : owner s.column = 0)
    : AugmentInv s cost columns k owner (fun j => s.used j ∨ j = s.column) rank owner s.column where
  node := .inr rfl
  column_ge := by omega
  column_le := hinv.column_le
  covers := hcov.of_free hown
  zero := h0
  kept := by
    intros
    rfl
  tight := by
    intro j h1 h2 _ h3
    exact hinv.tight j h1 h2 h3
  free := by
    intros
    assumption

theorem Search.Inv.feasible_of_column_ne_zero {s : Search} {owner : Nat → Nat} {k i j : Nat}
    (hinv : s.Inv cost columns k owner) (hcol : s.column ≠ 0) (hi1 : 1 ≤ i) (hi2 : i ≤ k + 1)
    (hj1 : 1 ≤ j) (hj2 : j ≤ columns)
    : 0 ≤ s.reduced cost i j := by
  apply hinv.feasible
  . by_cases hi : i ≤ k
    . exact .inl ⟨hi1, hi⟩
    . have := hinv.column_eq_zero_iff
      refine .inr ⟨by omega, ?_⟩
      simp_all
  . assumption
  . assumption

theorem insertRow_spec {s : State} {k fuel : Nat} (hinv : s.Inv cost columns k)
    (hk : k + 1 ≤ columns) (hfuel : k + 2 ≤ fuel)
    : ∃ s', insertRow cost columns fuel s (k + 1) = some s' ∧ s'.Inv cost columns (k + 1) := by
  have hstart := hinv.start
  generalize hsearch : Function.update s.owner 0 (k + 1) = owner at *
  have h0 : owner 0 = k + 1 := by simp [← hsearch]
  have hcov : Covers columns k owner 0 := by
    apply hinv.covers.congr
    intro j hj
    rw [← hsearch, Function.update_of_ne (by omega)]
  obtain ⟨found, heq, hfound, hcol, hown⟩ := search_spec fuel (.start s) hstart hcov h0
    (by simp [Search.start, h0]) hk (by omega)
  obtain ⟨rank, hrank, htree⟩ := hfound.exists_tree
  have hcard := hfound.usedColumns_card_le hcov h0
  obtain ⟨res, hres, hcovers, htight, hfree⟩ := augment_spec htree h0 fuel owner found.column
    (hfound.augmentInv hcov h0 hcol hown) (by omega)
  refine ⟨⟨found.rowPotential, found.columnPotential, res, found.previous⟩, ?_, ?_⟩
  . unfold insertRow
    dsimp
    rw [hsearch, heq]
    dsimp
    rw [hres]
  . constructor
    . exact hcovers
    . intro i h1 h2 j h3 h4
      have := hfound.feasible_of_column_ne_zero hcol h1 h2 h3 h4
      unfold Search.reduced at this
      dsimp
      omega
    . intro j h1 h2 h3
      have := htight j h1 h2 h3
      unfold Search.reduced at this
      dsimp
      omega
    . exact hfound.nonpos
    . intro j h1 h2 h3
      exact hfound.free j h1 h2 (hfree j h1 h2 h3)

theorem run_inv {columns fuel : Nat} (rows : Nat) (hrows : rows ≤ columns)
    (hfuel : rows + 1 ≤ fuel)
    : ∃ s, run cost rows columns fuel = some s ∧ s.Inv cost columns rows := by
  unfold run
  induction rows with
  | zero => exact ⟨.empty, by simp, State.empty_inv⟩
  | succ rows ih =>
    obtain ⟨s, heq, hinv⟩ := ih (by omega) (by omega)
    obtain ⟨s', heq', hinv'⟩ := insertRow_spec hinv hrows hfuel
    refine ⟨s', ?_, hinv'⟩
    rw [List.range'_1_concat, List.foldlM_append, heq]
    rw [Nat.add_comm 1 rows]
    simp [heq']

theorem State.Inv.exists_assigns {s : State} {rows : Nat} (hinv : s.Inv cost columns rows)
    : ∃ τ : Nat → Nat,
        Assigns (Finset.Icc 1 rows) (Finset.Icc 1 columns) τ
          ∧ ∀ i ∈ Finset.Icc 1 rows, s.owner (τ i) = i := by
  have hsurj := hinv.covers.2.1
  choose! τ hτ using hsurj
  refine ⟨τ, ⟨?_, ?_⟩, ?_⟩
  . intro i hi
    rw [Finset.mem_Icc] at hi ⊢
    have := hτ i hi.1 hi.2
    omega
  . intro i hi j hj heq
    rw [Finset.mem_coe, Finset.mem_Icc] at hi hj
    rw [← (hτ i hi.1 hi.2).2.2.2, ← (hτ j hj.1 hj.2).2.2.2, heq]
  . intro i hi
    rw [Finset.mem_Icc] at hi
    exact (hτ i hi.1 hi.2).2.2.2

theorem State.Inv.optimal {s : State} {rows : Nat} (hinv : s.Inv cost columns rows)
    {σ τ : Nat → Nat} (hτ : Assigns (Finset.Icc 1 rows) (Finset.Icc 1 columns) τ)
    (hown : ∀ i ∈ Finset.Icc 1 rows, s.owner (τ i) = i)
    (hσ : Assigns (Finset.Icc 1 rows) (Finset.Icc 1 columns) σ)
    : ∑ i ∈ Finset.Icc 1 rows, cost i (τ i) ≤ ∑ i ∈ Finset.Icc 1 rows, cost i (σ i) := by
  have hfeas : Feasible (Finset.Icc 1 rows) (Finset.Icc 1 columns) cost s.rowPotential
      s.columnPotential := by
    constructor
    . intro i hi j hj
      rw [Finset.mem_Icc] at hi hj
      exact hinv.feasible i hi.1 hi.2 j hj.1 hj.2
    . intro j hj
      rw [Finset.mem_Icc] at hj
      exact hinv.nonpos j hj.1 hj.2
  apply hfeas.le_of_tight hτ ?_ ?_ hσ
  . intro i hi
    have hcol := hτ.mapsTo i hi
    have heq := hown i hi
    rw [Finset.mem_Icc] at hi hcol
    have := hinv.tight (τ i) hcol.1 hcol.2 (by omega)
    rw [heq] at this
    exact this
  . intro j hj hnot
    rw [Finset.mem_Icc] at hj
    apply hinv.free j hj.1 hj.2
    by_contra hne
    apply hnot
    rw [Finset.mem_image]
    have hle := hinv.covers.1 j hj.1 hj.2 (by omega)
    have hrow : s.owner j ∈ Finset.Icc 1 rows := by
      rw [Finset.mem_Icc]
      omega
    have hcol := hτ.mapsTo _ hrow
    rw [Finset.mem_Icc] at hcol
    refine ⟨s.owner j, hrow, ?_⟩
    symm
    apply hinv.covers.2.2 j (τ (s.owner j)) hj.1 hj.2 (by omega) hcol.1 hcol.2 (by omega) hne
    rw [hown _ hrow]

end Run

end Hungarian
end Assignment
