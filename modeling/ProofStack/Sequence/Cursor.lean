import Mathlib.Algebra.GroupWithZero.Nat
import Mathlib.Data.List.Induction
import ProofStack.Sequence.Keyed

/-!
This module contains the reading of keyed rows in pages.
-/

namespace ProofStack
namespace Sequence

variable {α κ : Type} [LinearOrder κ] {key : α → κ} {rows rows' : List α}

def IsSorted (key : α → κ) (rows : List α) : Prop :=
  rows.Pairwise (fun left right => key left < key right)

theorem isSorted_sortBy (h : (rows.map key).Nodup) : IsSorted key (sortBy key rows) := by
  have hle : (sortBy key rows).Pairwise (fun left right => key left ≤ key right) :=
    List.pairwise_insertionSort _ rows
  have hne : (sortBy key rows).Pairwise (fun left right => key left ≠ key right) :=
    List.pairwise_map.mp (nodup_sortBy.mpr h)
  exact (hle.and hne).imp (fun hboth => lt_of_le_of_ne hboth.1 hboth.2)

def Behind (key : α → κ) (cursor : Option κ) (row : α) : Prop :=
  ∀ k ∈ cursor, k < key row

instance (cursor : Option κ) (row : α) : Decidable (Behind key cursor row) :=
  inferInstanceAs (Decidable (∀ k ∈ cursor, k < key row))

def rest (key : α → κ) (cursor : Option κ) (rows : List α) : List α :=
  rows.filter (fun row => Behind key cursor row)

theorem rest_none (rows : List α) : rest key none rows = rows := by
  simp [rest, Behind]

theorem mem_rest {cursor : Option κ} {row : α}
    : row ∈ rest key cursor rows ↔ row ∈ rows ∧ Behind key cursor row := by
  simp [rest]

theorem IsSorted.rest (h : IsSorted key rows) (cursor : Option κ)
    : IsSorted key (rest key cursor rows) :=
  List.Pairwise.filter _ h

theorem rest_append {first others : List α} {last : α} (h : IsSorted key (first ++ last :: others))
    : rest key (some (key last)) (first ++ last :: others) = others := by
  unfold IsSorted at h
  rw [List.pairwise_append, List.pairwise_cons] at h
  have hfirst : rest key (some (key last)) first = [] := by
    rw [rest, List.filter_eq_nil_iff]
    intro row hrow
    have hlt := h.2.2 row hrow last List.mem_cons_self
    simp [Behind, hlt.le]
  have hothers : rest key (some (key last)) others = others := by
    rw [rest, List.filter_eq_self]
    intro row hrow
    simpa [Behind] using h.2.1.1 row hrow
  have hlast : rest key (some (key last)) [last] = [] := by
    simp [rest, Behind]
  have hsplit : first ++ last :: others = first ++ ([last] ++ others) := rfl
  unfold rest at hfirst hothers hlast ⊢
  rw [hsplit, List.filter_append, List.filter_append, hfirst, hlast, hothers]
  rfl

theorem rest_getElem (h : IsSorted key rows) {index : Nat} {row : α} (hrow : rows[index]? = some row)
    : rest key (some (key row)) rows = rows.drop (index + 1) := by
  have hlt := (List.getElem?_eq_some_iff.mp hrow).1
  have hrow' := (List.getElem?_eq_some_iff.mp hrow).2
  have hsplit : rows = rows.take index ++ row :: rows.drop (index + 1) := by
    rw [← hrow', ← List.drop_eq_getElem_cons hlt, List.take_append_drop]
  rw [hsplit] at h
  have hrest := rest_append h
  rw [← hsplit] at hrest
  exact hrest

structure Reader (α κ : Type) where
  read : List α
  cursor : Option κ
  hasMore : Bool

def Reader.next (key : α → κ) (reader : Reader α κ) (rows : List α) (limit : Nat) : Reader α κ where
  read := reader.read ++ (rest key reader.cursor rows).take limit
  cursor := (((rest key reader.cursor rows).take limit).getLast?.map key).or reader.cursor
  hasMore := limit < (rest key reader.cursor rows).length

structure Follows (key : α → κ) (initial rows : List α) (reader : Reader α κ) : Prop where
  sorted : IsSorted key reader.read
  subset : ∀ row ∈ reader.read, row ∈ rows
  cursor : reader.cursor = reader.read.getLast?.map key
  kept : ∀ row ∈ initial, ¬Behind key reader.cursor row → row ∈ reader.read
  done : reader.hasMore = false → ∀ row ∈ initial, row ∈ reader.read

def Reader.start (α κ : Type) : Reader α κ where
  read := []
  cursor := none
  hasMore := true

theorem follows_start (initial rows : List α) : Follows key initial rows (Reader.start α κ) where
  sorted := List.Pairwise.nil
  subset := by simp [Reader.start]
  cursor := rfl
  kept := by simp [Behind, Reader.start]
  done := by simp [Reader.start]

namespace Follows

variable {initial : List α} {reader : Reader α κ}

theorem grow (h : Follows key initial rows reader) (hsubset : ∀ row ∈ rows, row ∈ rows')
    : Follows key initial rows' reader where
  sorted := h.sorted
  subset := fun row hrow => hsubset row (h.subset row hrow)
  cursor := h.cursor
  kept := h.kept
  done := h.done

theorem not_behind_of_mem (h : Follows key initial rows reader) {row : α} (hrow : row ∈ reader.read)
    : ¬Behind key reader.cursor row := by
  rw [h.cursor]
  rcases List.eq_nil_or_concat reader.read with hnil | ⟨first, last, hread⟩
  . simp [hnil] at hrow
  . have hsorted := h.sorted
    rw [hread] at hrow hsorted ⊢
    simp only [List.concat_eq_append] at hrow hsorted ⊢
    intro hbehind
    have hlt : key last < key row := hbehind (key last) (by simp)
    rcases List.mem_append.mp hrow with hmem | hmem
    . have hle := (List.pairwise_append.mp hsorted).2.2 row hmem last (List.mem_singleton.mpr rfl)
      exact absurd hlt hle.asymm
    . rw [List.mem_singleton.mp hmem] at hlt
      exact absurd hlt (lt_irrefl _)

theorem cursor_lt (h : Follows key initial rows reader) {row later : α} (hrow : row ∈ reader.read)
    (hlater : Behind key reader.cursor later)
    : key row < key later := by
  have hnot := h.not_behind_of_mem hrow
  unfold Behind at hnot hlater
  push Not at hnot
  rcases hnot with ⟨k, hk, hle⟩
  exact hle.trans_lt (hlater k hk)

theorem next (h : Follows key initial rows reader) (hrows : IsSorted key rows)
    (hinitial : ∀ row ∈ initial, row ∈ rows) (limit : Nat)
    : Follows key initial rows (reader.next key rows limit) := by
  have hpage : IsSorted key ((rest key reader.cursor rows).take limit) :=
    (hrows.rest reader.cursor).sublist (List.take_sublist _ _)
  have hrest : ∀ row ∈ (rest key reader.cursor rows).take limit,
      row ∈ rows ∧ Behind key reader.cursor row := fun row hrow => mem_rest.mp (List.mem_of_mem_take hrow)
  -- a row that is not behind the new cursor is not on a later page
  have hkept : ∀ row ∈ initial,
      ¬Behind key (reader.next key rows limit).cursor row ∨ (reader.next key rows limit).hasMore = false →
        row ∈ (reader.next key rows limit).read := by
    intro row hrow hread
    by_cases hbehind : Behind key reader.cursor row
    . apply List.mem_append_right
      have hmem : row ∈ rest key reader.cursor rows := mem_rest.mpr ⟨hinitial row hrow, hbehind⟩
      rw [← List.take_append_drop limit (rest key reader.cursor rows)] at hmem
      rcases List.mem_append.mp hmem with hmem | hmem
      . exact hmem
      . have hsorted := hrows.rest reader.cursor
        rw [← List.take_append_drop limit (rest key reader.cursor rows)] at hsorted
        have hlater := (List.pairwise_append.mp hsorted).2.2
        cases hread with
        | inl hnot =>
          refine (hnot ?_).elim
          intro k hk
          simp only [Reader.next, Option.mem_def, Option.or_eq_some_iff, Option.map_eq_some_iff] at hk
          rcases hk with ⟨last, hlast, rfl⟩ | ⟨_, hk⟩
          . exact hlater last (List.mem_of_getLast? hlast) row hmem
          . exact hbehind k hk
        | inr hdone =>
          simp only [Reader.next, decide_eq_false_iff_not, Nat.not_lt] at hdone
          rw [List.drop_eq_nil_iff.mpr hdone] at hmem
          exact (List.not_mem_nil hmem).elim
    . apply List.mem_append_left
      exact h.kept row hrow hbehind
  constructor
  . exact List.pairwise_append.mpr ⟨h.sorted, hpage,
      fun row hrow later hlater => h.cursor_lt hrow (hrest later hlater).2⟩
  . intro row hrow
    rcases List.mem_append.mp hrow with hmem | hmem
    . exact h.subset row hmem
    . exact (hrest row hmem).1
  . simp only [Reader.next, List.getLast?_append, Option.map_or, h.cursor]
  . exact fun row hrow hnot => hkept row hrow (.inl hnot)
  . exact fun hdone row hrow => hkept row hrow (.inr hdone)

end Follows

structure Splits (key : α → κ) (rows : List α) (reader : Reader α κ) : Prop where
  append : reader.read ++ rest key reader.cursor rows = rows
  done : reader.hasMore = false → reader.read = rows

theorem splits_start (rows : List α) : Splits key rows (Reader.start α κ) where
  append := rest_none rows
  done := by simp [Reader.start]

theorem Splits.next {reader : Reader α κ} (h : Splits key rows reader) (hrows : IsSorted key rows)
    (limit : Nat)
    : Splits key rows (reader.next key rows limit) := by
  have hsplit : reader.read ++ ((rest key reader.cursor rows).take limit
      ++ (rest key reader.cursor rows).drop limit) = rows := by
    rw [List.take_append_drop]
    exact h.append
  constructor
  . rw [Reader.next]
    dsimp only
    rcases List.eq_nil_or_concat ((rest key reader.cursor rows).take limit) with hnil | ⟨first, last, hpage⟩
    . rw [hnil]
      simpa using h.append
    . rw [List.concat_eq_append] at hpage
      rw [hpage] at hsplit ⊢
      have hrows' : rows = (reader.read ++ first) ++ last :: (rest key reader.cursor rows).drop limit := by
        simpa using hsplit.symm
      have hrest : rest key (some (key last)) rows = (rest key reader.cursor rows).drop limit := by
        have hsorted := hrows
        rw [hrows'] at hsorted
        have hbehind := rest_append hsorted
        rw [← hrows'] at hbehind
        exact hbehind
      simp only [List.getLast?_append, List.getLast?_singleton, Option.some_or, Option.map_some, hrest]
      rw [List.append_assoc]
      exact hsplit
  . intro hdone
    simp only [Reader.next, decide_eq_false_iff_not, Nat.not_lt] at hdone ⊢
    rw [List.take_of_length_le hdone]
    exact h.append

theorem Splits.rest_eq_drop {reader : Reader α κ} (h : Splits key rows reader) {count : Nat}
    (hread : reader.read = rows.take count)
    : rest key reader.cursor rows = rows.drop count := by
  have happend := h.append
  rw [hread] at happend
  exact List.append_cancel_left (happend.trans (List.take_append_drop count rows).symm)

def readPages (key : α → κ) (rows : List α) (limits : List Nat) : Reader α κ :=
  limits.foldl (fun reader limit => reader.next key rows limit) (Reader.start α κ)

theorem readPages_spec (hrows : IsSorted key rows) (limits : List Nat)
    : (readPages key rows limits).read = rows.take limits.sum
        ∧ (limits ≠ [] → (readPages key rows limits).hasMore = decide (limits.sum < rows.length)) := by
  have hrun : Splits key rows (readPages key rows limits)
      ∧ (readPages key rows limits).read = rows.take limits.sum
      ∧ (limits ≠ [] →
          (readPages key rows limits).hasMore = decide (limits.sum < rows.length)) := by
    induction limits using List.reverseRecOn with
    | nil => exact ⟨splits_start rows, by simp [readPages, Reader.start], by simp⟩
    | append_singleton limits limit ih =>
      rcases ih with ⟨hsplits, hread, _⟩
      have hrest := hsplits.rest_eq_drop hread
      have hnext : readPages key rows (limits ++ [limit])
          = (readPages key rows limits).next key rows limit := by
        simp [readPages]
      rw [hnext]
      refine ⟨hsplits.next hrows limit, ?_, ?_⟩
      . rw [Reader.next, hrest, hread, List.sum_append, List.sum_singleton, List.take_add]
      . intro _
        rw [Reader.next, hrest, List.sum_append, List.sum_singleton, List.length_drop]
        simp only [decide_eq_decide]
        omega
  exact hrun.2

end Sequence
end ProofStack
