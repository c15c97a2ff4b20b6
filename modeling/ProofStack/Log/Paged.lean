import Mathlib.Data.List.GetD

/-!
This module contains append only logs that are kept in pages of a fixed size.
-/

namespace ProofStack
namespace Log

variable {α : Type}

-- A page that has not been written yet is an empty one.
def append (pages : List (List α)) (page : Nat) (entry : α) : List (List α) :=
  if page < pages.length then
    pages.modify page (· ++ [entry])
  else
    pages ++ List.replicate (page - pages.length) [] ++ [[entry]]

inductive Paged (size : Nat) : List (List α) → Prop where
  | intro (full : List (List α)) (last : List α) (hfull : ∀ page ∈ full, page.length = size)
    (hpos : 0 < last.length) (hle : last.length ≤ size)
    : Paged size (full ++ [last])

def Grows (pages pages' : List (List α)) : Prop :=
  ∀ page, pages.getD page [] <+: pages'.getD page []

section Pages

variable {size : Nat} {pages : List (List α)}

theorem length_flatten_of_full (h : ∀ page ∈ pages, page.length = size)
    : pages.flatten.length = pages.length * size := by
  induction pages with
  | nil => simp
  | cons page pages ih =>
    rw [List.flatten_cons, List.length_append, h page List.mem_cons_self]
    rw [ih (fun page hpage => h page (List.mem_cons_of_mem _ hpage))]
    rw [List.length_cons, Nat.succ_mul, Nat.add_comm]

theorem Paged.singleton (entry : α) (hsize : 0 < size) : Paged size [[entry]] :=
  .intro [] [entry] (by simp) (by simp) hsize

structure Extends (size : Nat) (pages : List (List α)) (entry : α) (full : List (List α))
    (last : List α) : Prop where
  length_full : ∀ page ∈ full, page.length = size
  length_lt : last.length < size
  flatten : pages.flatten = full.flatten ++ last
  append : append pages (pages.flatten.length / size) entry = full ++ [last ++ [entry]]

theorem Paged.exists_extends (h : Paged size pages) (entry : α)
    : ∃ full last, Extends size pages entry full last := by
  obtain ⟨full, last, hfull, hpos, hle⟩ := h
  have hlength : (full ++ [last]).flatten.length = full.length * size + last.length := by
    rw [List.flatten_append, List.length_append, length_flatten_of_full hfull]
    simp
  rcases Nat.lt_or_eq_of_le hle with hlt | heq
  . refine ⟨full, last, hfull, hlt, by simp, ?_⟩
    have hpage : (full ++ [last]).flatten.length / size = full.length := by
      rw [hlength, Nat.mul_comm, Nat.mul_add_div (by omega), Nat.div_eq_of_lt hlt]
      rfl
    unfold Log.append
    rw [hpage, if_pos (by simp), List.modify_eq_take_cons_drop (by simp)]
    simp
  . refine ⟨full ++ [last], [], ?_, by simp; omega, by simp, ?_⟩
    . intro page hpage
      rcases List.mem_append.mp hpage with hmem | hmem
      . exact hfull page hmem
      . rw [List.mem_singleton.mp hmem]
        exact heq
    . have hpage : (full ++ [last]).flatten.length / size = full.length + 1 := by
        rw [hlength, heq, ← Nat.succ_mul]
        exact Nat.mul_div_cancel _ (by omega)
      unfold Log.append
      rw [hpage, if_neg (by simp)]
      simp

theorem Paged.append (h : Paged size pages) (entry : α)
    : Paged size (append pages (pages.flatten.length / size) entry)
        ∧ (Log.append pages (pages.flatten.length / size) entry).flatten
            = pages.flatten ++ [entry] := by
  obtain ⟨full, last, hextends⟩ := h.exists_extends entry
  rw [hextends.append]
  constructor
  . refine .intro full (last ++ [entry]) hextends.length_full (by simp) ?_
    rw [List.length_append]
    exact hextends.length_lt
  . rw [hextends.flatten]
    simp

theorem Paged.getD_append (h : Paged size pages) (entry : α)
    : ∃ last : List α,
        (Log.append pages (pages.flatten.length / size) entry).getD (pages.flatten.length / size) []
            = last ++ [entry]
          ∧ last.length = pages.flatten.length % size := by
  obtain ⟨full, last, hextends⟩ := h.exists_extends entry
  have hlength : pages.flatten.length = full.length * size + last.length := by
    rw [hextends.flatten, List.length_append, length_flatten_of_full hextends.length_full]
  refine ⟨last, ?_, ?_⟩
  . have hpage : pages.flatten.length / size = full.length := by
      rw [hlength, Nat.mul_comm, Nat.mul_add_div (by have := hextends.length_lt; omega),
        Nat.div_eq_of_lt hextends.length_lt]
      rfl
    rw [hextends.append, hpage, List.getD_append_right _ _ _ _ (Nat.le_refl _)]
    simp
  . rw [hlength, Nat.mul_comm, Nat.mul_add_mod, Nat.mod_eq_of_lt hextends.length_lt]

theorem Grows.refl (pages : List (List α)) : Grows pages pages :=
  fun _ => List.prefix_rfl

theorem Grows.trans {pages' pages'' : List (List α)} (h : Grows pages pages')
    (h' : Grows pages' pages'')
    : Grows pages pages'' :=
  fun page => (h page).trans (h' page)

theorem Grows.getElem?_eq_some {pages' : List (List α)} (h : Grows pages pages') {page index : Nat}
    {entry : α} (hentry : (pages.getD page [])[index]? = some entry)
    : (pages'.getD page [])[index]? = some entry := by
  obtain ⟨added, hadded⟩ := h page
  obtain ⟨hlt, -⟩ := List.getElem?_eq_some_iff.mp hentry
  rw [← hadded, List.getElem?_append_left hlt, hentry]

theorem Grows.take_eq {pages' : List (List α)} (h : Grows pages pages') {page count : Nat}
    (hcount : count ≤ (pages.getD page []).length)
    : (pages'.getD page []).take count = (pages.getD page []).take count := by
  obtain ⟨added, hadded⟩ := h page
  rw [← hadded, List.take_append_of_le_length hcount]

theorem grows_append (pages : List (List α)) (page : Nat) (entry : α)
    : Grows pages (append pages page entry) := by
  intro index
  unfold append
  split
  . rw [List.getD_eq_getElem?_getD, List.getD_eq_getElem?_getD, List.getElem?_modify]
    cases pages[index]? with
    | none => simp
    | some retained =>
      by_cases heq : page = index <;> simp [heq]
  . rcases Nat.lt_or_ge index pages.length with hlt | hge
    . simp only [List.append_assoc, List.getD_append _ _ _ _ hlt, List.prefix_rfl]
    . rw [List.getD_eq_default _ _ hge]
      exact List.nil_prefix

end Pages

end Log
end ProofStack
