import Mathlib.Data.List.Nodup
import Mathlib.Data.List.Sort

/-!
This module contains rows that have a key.
-/

namespace ProofStack
namespace Sequence

variable {α κ : Type} {rows rows' : List α} {key : α → κ} {row : α} {k : κ}

theorem eq_of_length_le_one {row' : α} (hlength : rows.length ≤ 1) (h : row ∈ rows) (h' : row' ∈ rows)
    : row = row' := by
  match rows with
  | [] => simp at h
  | [only] =>
    rw [List.mem_singleton] at h h'
    rw [h, h']
  | _ :: _ :: _ => simp at hlength

section Lookup

variable [DecidableEq κ]

def lookup (key : α → κ) (rows : List α) (k : κ) : Option α :=
  rows.reverse.find? (fun row => key row = k)

theorem lookup_eq_some (h : lookup key rows k = some row) : row ∈ rows ∧ key row = k := by
  constructor
  . exact List.mem_reverse.mp (List.mem_of_find?_eq_some h)
  . simpa using List.find?_some h

@[simp]
theorem lookup_eq_none : lookup key rows k = none ↔ ∀ row ∈ rows, key row ≠ k := by
  simp [lookup]

omit [DecidableEq κ] in
theorem eq_of_key (hnodup : (rows.map key).Nodup) {row' : α} (h : row ∈ rows) (h' : row' ∈ rows)
    (hkey : key row = key row')
    : row = row' :=
  List.inj_on_of_nodup_map hnodup h h' hkey

theorem lookup_of_mem (hnodup : (rows.map key).Nodup) (h : row ∈ rows)
    : lookup key rows (key row) = some row := by
  cases hlookup : lookup key rows (key row) with
  | none =>
    rw [lookup_eq_none] at hlookup
    exact absurd rfl (hlookup row h)
  | some found =>
    obtain ⟨hmem, hkey⟩ := lookup_eq_some hlookup
    rw [eq_of_key hnodup hmem h hkey]

theorem lookup_eq_getLast? (key : α → κ) (rows : List α) (k : κ)
    : lookup key rows k = (rows.filter (fun row => key row = k)).getLast? := by
  unfold lookup
  rw [List.getLast?_eq_head?_reverse, ← List.filter_reverse, List.head?_filter]

theorem lookup_perm (hnodup : (rows.map key).Nodup) (hperm : rows.Perm rows') (k : κ)
    : lookup key rows k = lookup key rows' k := by
  cases hlookup : lookup key rows' k with
  | none =>
    rw [lookup_eq_none] at hlookup ⊢
    intro row h
    exact hlookup row (hperm.mem_iff.mp h)
  | some row =>
    obtain ⟨hmem, rfl⟩ := lookup_eq_some hlookup
    exact lookup_of_mem hnodup (hperm.mem_iff.mpr hmem)

theorem lookup_append_singleton (hkey : key row = k) : lookup key (rows ++ [row]) k = some row := by
  simp [lookup, hkey]

theorem lookup_all_iff (hnodup : rows.Nodup)
    : (∀ row ∈ rows, lookup key rows (key row) = some row) ↔ (rows.map key).Nodup := by
  constructor
  . intro h
    apply List.Nodup.map_on _ hnodup
    intro row hrow other hother hkey
    have hsome := h row hrow
    rw [hkey, h other hother] at hsome
    exact (Option.some.inj hsome).symm
  . exact fun hkeys row hrow => lookup_of_mem hkeys hrow

theorem countP_lookup_eq_one [DecidableEq α] {keys : List κ} (hkeys : keys.Nodup) (hmem : key row ∈ keys)
    : keys.countP (fun k => lookup key rows k = some row) = 1 ↔ lookup key rows (key row) = some row := by
  constructor
  . intro h
    have hpos : 0 < keys.countP (fun k => lookup key rows k = some row) := by omega
    rcases List.countP_pos_iff.mp hpos with ⟨k, _, hk⟩
    rw [decide_eq_true_eq] at hk
    rw [(lookup_eq_some hk).2]
    exact hk
  . intro h
    rw [← List.count_eq_one_of_mem hkeys hmem, List.count]
    apply List.countP_congr
    intro k _
    rw [decide_eq_true_eq, beq_iff_eq]
    constructor
    . intro hk
      exact (lookup_eq_some hk).2.symm
    . rintro rfl
      exact h

end Lookup

section SortBy

variable [LinearOrder κ]

def sortBy (key : α → κ) (rows : List α) : List α :=
  rows.insertionSort (fun left right => key left ≤ key right)

instance totalKey : Std.Total (fun left right : α => key left ≤ key right) :=
  ⟨fun left right => le_total (key left) (key right)⟩

instance transKey : IsTrans α (fun left right : α => key left ≤ key right) :=
  ⟨fun _ _ _ => le_trans⟩

theorem sortBy_perm (key : α → κ) (rows : List α) : (sortBy key rows).Perm rows :=
  List.perm_insertionSort _ rows

@[simp]
theorem mem_sortBy : row ∈ sortBy key rows ↔ row ∈ rows :=
  (sortBy_perm key rows).mem_iff

theorem nodup_sortBy : ((sortBy key rows).map key).Nodup ↔ (rows.map key).Nodup :=
  ((sortBy_perm key rows).map key).nodup_iff

theorem sortBy_eq_of_perm (hnodup : (rows.map key).Nodup) (hperm : rows.Perm rows')
    : sortBy key rows = sortBy key rows' := by
  have hsorted (xs : List α) : (sortBy key xs).Pairwise (fun left right => key left ≤ key right) :=
    List.pairwise_insertionSort _ xs
  have hboth : (sortBy key rows).Perm (sortBy key rows') :=
    (sortBy_perm key rows).trans (hperm.trans (sortBy_perm key rows').symm)
  apply hboth.eq_of_pairwise _ (hsorted rows) (hsorted rows')
  intro left right hleft hright hle hge
  rw [mem_sortBy] at hleft hright
  exact eq_of_key hnodup hleft (hperm.mem_iff.mpr hright) (le_antisymm hle hge)

theorem filter_sortBy (key : α → κ) (rows : List α) (k : κ)
    : (sortBy key rows).filter (fun row => key row = k) = rows.filter (fun row => key row = k) := by
  have hpairwise : (rows.filter (fun row => key row = k)).Pairwise (fun left right =>
      key left ≤ key right) := by
    apply List.pairwise_of_forall_mem_list
    intro left hleft right hright
    simp only [List.mem_filter, decide_eq_true_eq] at hleft hright
    rw [hleft.2, hright.2]
  have hsublist : (rows.filter (fun row => key row = k)).Sublist (sortBy key rows) :=
    List.sublist_insertionSort hpairwise List.filter_sublist
  have hfilter := hsublist.filter (fun row => key row = k)
  rw [List.filter_filter] at hfilter
  simp only [Bool.and_self] at hfilter
  have hlength := ((sortBy_perm key rows).filter (fun row => key row = k)).length_eq
  exact (hfilter.eq_of_length hlength.symm).symm

theorem lookup_sortBy (key : α → κ) (rows : List α) (k : κ)
    : lookup key (sortBy key rows) k = lookup key rows k := by
  rw [lookup_eq_getLast?, lookup_eq_getLast?, filter_sortBy]

end SortBy

end Sequence
end ProofStack
