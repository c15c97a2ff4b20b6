import Mathlib.Algebra.BigOperators.Group.Finset.Basic
import Mathlib.Algebra.GroupWithZero.Nat
import Mathlib.Data.Fintype.BigOperators
import Mathlib.Data.List.AList

/-!
This module contains tables, which map keys to rows.
-/

namespace ProofStack
namespace Store

variable {κ α β : Type}

abbrev Table (κ α : Type) : Type :=
  AList (fun _ : κ => α)

namespace Table

def values (table : Table κ α) : List α :=
  table.entries.map (·.2)

variable [DecidableEq κ] {table : Table κ α} {k : κ} {row : α}

theorem lookup_insert (table : Table κ α) (k k' : κ) (row : α)
    : (table.insert k row).lookup k' = if k' = k then some row else table.lookup k' := by
  split
  . next h =>
    subst h
    apply AList.lookup_insert
  . next h => exact AList.lookup_insert_ne h

theorem lookup_insert_eq_some {k' : κ} {row' : α} (h : (table.insert k row).lookup k' = some row')
    : k' = k ∧ row' = row ∨ k' ≠ k ∧ table.lookup k' = some row' := by
  rw [lookup_insert] at h
  split at h
  . next hkey =>
    cases h
    exact .inl ⟨hkey, rfl⟩
  . next hkey => exact .inr ⟨hkey, h⟩

theorem lookup_insert_of_fresh {k' : κ} {row' : α} (hfresh : table.lookup k = none)
    (h : table.lookup k' = some row')
    : (table.insert k row).lookup k' = some row' := by
  rw [lookup_insert, if_neg]
  . exact h
  . rintro rfl
    rw [hfresh] at h
    contradiction

def insertAll (key : α → κ) (table : Table κ α) (rows : List α) : Table κ α :=
  rows.foldl (fun table row => table.insert (key row) row) table

theorem lookup_insertAll_of_ne {key : α → κ} {rows : List α} (h : ∀ row ∈ rows, key row ≠ k)
    : (insertAll key table rows).lookup k = table.lookup k := by
  induction rows generalizing table with
  | nil => rfl
  | cons row rows ih =>
    rw [List.forall_mem_cons] at h
    change (insertAll key (table.insert (key row) row) rows).lookup k = table.lookup k
    rw [ih h.2, lookup_insert, if_neg h.1.symm]

theorem lookup_insertAll_of_mem {key : α → κ} {rows : List α}
    (hkey : ∀ row ∈ rows, ∀ row' ∈ rows, key row = key row' → row = row') (h : row ∈ rows)
    : (insertAll key table rows).lookup (key row) = some row := by
  induction rows generalizing table with
  | nil => contradiction
  | cons first rows ih =>
    have hrest : ∀ row ∈ rows, ∀ row' ∈ rows, key row = key row' → row = row' :=
      fun row hrow row' hrow' =>
        hkey row (List.mem_cons_of_mem _ hrow) row' (List.mem_cons_of_mem _ hrow')
    by_cases hlater : row ∈ rows
    . exact ih hrest hlater
    . obtain rfl : row = first := by
        rcases List.mem_cons.mp h with hrow | hrow
        . exact hrow
        . exact absurd hrow hlater
      have hne : ∀ other ∈ rows, key other ≠ key row := by
        intro other hother heq
        rw [hkey other (List.mem_cons_of_mem _ hother) row List.mem_cons_self heq] at hother
        exact hlater hother
      change (insertAll key (table.insert (key row) row) rows).lookup (key row) = some row
      rw [lookup_insertAll_of_ne hne, AList.lookup_insert]

theorem lookup_insertAll_eq_some {key : α → κ} {rows : List α}
    (h : (insertAll key table rows).lookup k = some row)
    : row ∈ rows ∧ key row = k ∨ (∀ row ∈ rows, key row ≠ k) ∧ table.lookup k = some row := by
  induction rows generalizing table with
  | nil => exact .inr ⟨List.forall_mem_nil _, h⟩
  | cons first rows ih =>
    rcases ih h with ⟨hmem, hkey⟩ | ⟨hne, hlookup⟩
    . exact .inl ⟨List.mem_cons_of_mem _ hmem, hkey⟩
    . rcases lookup_insert_eq_some hlookup with ⟨rfl, rfl⟩ | ⟨hfirst, hlookup⟩
      . exact .inl ⟨List.mem_cons_self, rfl⟩
      . exact .inr ⟨List.forall_mem_cons.mpr ⟨Ne.symm hfirst, hne⟩, hlookup⟩

theorem mem_values : row ∈ table.values ↔ ∃ k, table.lookup k = some row := by
  unfold values
  rw [List.mem_map]
  constructor
  . rintro ⟨⟨k, row⟩, hentry, rfl⟩
    exact ⟨k, AList.mem_lookup_iff.mpr hentry⟩
  . rintro ⟨k, hlookup⟩
    exact ⟨⟨k, row⟩, AList.mem_lookup_iff.mp hlookup, rfl⟩

def Keyed (key : α → κ) (table : Table κ α) : Prop :=
  ∀ k row, table.lookup k = some row → key row = k

variable {key : α → κ}

theorem Keyed.empty : Keyed key (∅ : Table κ α) := by
  intro k row h
  contradiction

theorem Keyed.insert (h : Keyed key table) (row : α) : Keyed key (table.insert (key row) row) := by
  intro k' row' hlookup
  rcases lookup_insert_eq_some hlookup with ⟨rfl, rfl⟩ | ⟨_, hlookup⟩
  . rfl
  . exact h k' row' hlookup

theorem Keyed.filter_values (h : Keyed key table) (hlookup : table.lookup k = some row)
    : table.values.filter (fun other => key other = k) = [row] := by
  have hkeys : table.values.map key = table.keys := by
    unfold values AList.keys List.keys
    rw [List.map_map]
    apply List.map_congr_left
    rintro ⟨k', row'⟩ hentry
    exact h k' row' (AList.mem_lookup_iff.mpr hentry)
  have hnodup : (table.values.map key).Nodup := by
    rw [hkeys]
    exact table.keys_nodup
  have hmem : row ∈ table.values := mem_values.mpr ⟨k, hlookup⟩
  have hkey : key row = k := h k row hlookup
  apply List.perm_singleton.mp
  rw [List.perm_ext_iff_of_nodup (hnodup.of_map key |>.filter _) (List.nodup_singleton row)]
  intro other
  simp only [List.mem_filter, decide_eq_true_eq, List.mem_singleton]
  constructor
  . rintro ⟨hother, hk⟩
    exact List.inj_on_of_nodup_map hnodup hother hmem (hk.trans hkey.symm)
  . rintro rfl
    exact ⟨hmem, hkey⟩

end Table

end Store
end ProofStack

/-!
This module contains sums over the rows of a table.
-/

namespace ProofStack
namespace Store
namespace Table

variable {κ α ι : Type} [DecidableEq κ] {table table' : Table κ α} {k : κ} {row : α} {f : α → Nat}

theorem sum_values_insert (hfresh : k ∉ table)
    : ((values (table.insert k row)).map f).sum = f row + (table.values.map f).sum := by
  unfold values
  rw [AList.entries_insert_of_notMem hfresh, List.map_cons, List.map_cons, List.sum_cons]

theorem sum_values [Fintype ι] [DecidableEq ι] {key : ι → κ} (hinjective : Function.Injective key)
    (hkeys : ∀ k ∈ table, ∃ i, key i = k)
    : (table.values.map f).sum = ∑ i, (table.lookup (key i)).elim 0 f := by
  induction table using AList.insertRec with
  | H0 => simp [values]
  | IH k row table hfresh ih =>
    rw [sum_values_insert hfresh, ih (fun k' hk' => hkeys k' ((AList.mem_insert _).mpr (.inr hk')))]
    rcases hkeys k ((AList.mem_insert _).mpr (.inl rfl)) with ⟨i, rfl⟩
    have hnone : table.lookup (key i) = none := AList.lookup_eq_none.mpr hfresh
    have hrest : ∑ j, (table.lookup (key j)).elim 0 f
        = ∑ j ∈ Finset.univ.erase i, (table.lookup (key j)).elim 0 f := by
      symm
      apply Finset.sum_erase
      rw [hnone]
      rfl
    rw [hrest, ← Finset.add_sum_erase Finset.univ
      (fun j => ((table.insert (key i) row).lookup (key j)).elim 0 f) (Finset.mem_univ i)]
    congr 1
    . rw [lookup_insert, if_pos rfl]
      rfl
    . apply Finset.sum_congr rfl
      intro j hj
      rw [lookup_insert, if_neg (fun h => Finset.ne_of_mem_erase hj (hinjective h))]

theorem sum_values_eq_keys (f : α → Nat) (table : Table κ α)
    : (table.values.map f).sum = (table.keys.map (fun k => (table.lookup k).elim 0 f)).sum := by
  unfold values AList.keys List.keys
  rw [List.map_map, List.map_map]
  congr 1
  apply List.map_congr_left
  rintro ⟨k, row⟩ hentry
  have hlookup : table.lookup k = some row := AList.mem_lookup_iff.mpr hentry
  rw [Function.comp_apply, Function.comp_apply, hlookup]
  rfl

theorem insertAll_values_perm {key : α → κ} {rows : List α} (hnodup : (rows.map key).Nodup)
    (hfresh : ∀ row ∈ rows, key row ∉ table)
    : (values (insertAll key table rows)).Perm (rows ++ table.values) := by
  induction rows generalizing table with
  | nil => rfl
  | cons first rows ih =>
    rw [List.map_cons, List.nodup_cons] at hnodup
    have hfirst := hfresh first List.mem_cons_self
    have hrest : ∀ row ∈ rows, key row ∉ table.insert (key first) first := by
      intro row hrow hmem
      rcases (AList.mem_insert _).mp hmem with hkey | hmem
      . exact hnodup.1 (hkey ▸ List.mem_map_of_mem hrow)
      . exact hfresh row (List.mem_cons_of_mem _ hrow) hmem
    change (values (insertAll key (table.insert (key first) first) rows)).Perm _
    apply (ih hnodup.2 hrest).trans
    unfold values
    rw [AList.entries_insert_of_notMem hfirst, List.map_cons]
    exact List.perm_middle

end Table
end Store
end ProofStack
