import Mathlib.Logic.Basic

/-!
This module contains the checks that a computation which may throw is made of, and the reading of a
successful computation.
-/

namespace ProofStack
namespace Checks

variable {ε α β : Type}

def failIf (condition : Prop) [Decidable condition] (error : ε) : Except ε Unit :=
  if condition then .error error else .ok ()

def parseWith (accepted : Prop) [Decidable accepted] (error : ε) (value : α) : Except ε α :=
  if accepted then .ok value else .error error

def found (value : Option α) (error : ε) : Except ε α :=
  match value with
  | some value => .ok value
  | none => .error error

variable {f : α → Except ε β}
variable {x : Except ε α}

theorem bind_eq_ok {b : β}
    : (x >>= f) = .ok b ↔ ∃ a, x = .ok a ∧ f a = .ok b := by
  cases x <;> simp [bind, Except.bind]

theorem bind_eq_error {error : ε}
    : (x >>= f) = .error error ↔ x = .error error ∨ ∃ a, x = .ok a ∧ f a = .error error := by
  cases x <;> simp [bind, Except.bind]

theorem bind_of_ok {a : α} (h : x = .ok a) : (x >>= f) = f a := by
  rw [h]
  rfl

theorem exists_of_any {p : α → Bool} (h : x.toOption.any p = true)
    : ∃ a, x = .ok a ∧ p a = true := by
  cases x with
  | error error => contradiction
  | ok a => exact ⟨a, rfl, h⟩

theorem pure_eq_ok {a b : α} : (pure a : Except ε α) = .ok b ↔ a = b := by
  simp [pure, Except.pure]

@[simp]
theorem failIf_eq_ok {condition : Prop} [Decidable condition] {error : ε} {u : Unit}
    : failIf condition error = .ok u ↔ ¬condition := by
  unfold failIf
  split <;> simp_all

theorem failIf_bind_of_true {condition : Prop} [Decidable condition] {error : ε} {f : Unit → Except ε α}
    (h : condition)
    : (failIf condition error >>= f) = .error error := by
  rw [failIf, if_pos h]
  rfl

theorem failIf_bind_of_false {condition : Prop} [Decidable condition] {error : ε} {f : Unit → Except ε α}
    (h : ¬condition)
    : (failIf condition error >>= f) = f () := by
  rw [failIf, if_neg h]
  rfl

@[simp]
theorem parseWith_eq_ok {accepted : Prop} [Decidable accepted] {error : ε} {value result : α}
    : parseWith accepted error value = .ok result ↔ accepted ∧ value = result := by
  unfold parseWith
  split <;> simp_all

@[simp]
theorem found_eq_ok {value : Option α} {error : ε} {result : α}
    : found value error = .ok result ↔ value = some result := by
  unfold found
  split <;> simp_all

theorem mapM_eq_ok_self {check : α → Except ε α} (hcheck : ∀ row result, check row = .ok result → result = row)
    {rows results : List α}
    : rows.mapM check = .ok results ↔ results = rows ∧ ∀ row ∈ rows, check row = .ok row := by
  induction rows generalizing results with
  | nil =>
    rw [List.mapM_nil, pure_eq_ok]
    simp
  | cons row rows ih =>
    simp only [List.mapM_cons, bind_eq_ok, pure_eq_ok, ih]
    constructor
    . rintro ⟨result, hrow, _, ⟨rfl, hrows⟩, rfl⟩
      obtain rfl := hcheck row result hrow
      simp only [List.mem_cons, forall_eq_or_imp]
      exact ⟨trivial, hrow, hrows⟩
    . rintro ⟨rfl, hrows⟩
      simp only [List.mem_cons, forall_eq_or_imp] at hrows
      exact ⟨row, hrows.1, rows, ⟨rfl, hrows.2⟩, rfl⟩

theorem exists_of_mapM {rows : List α} {results : List β} (h : rows.mapM f = .ok results)
    {result : β} (hmem : result ∈ results)
    : ∃ row ∈ rows, f row = .ok result := by
  induction rows generalizing results with
  | nil =>
    rw [List.mapM_nil, pure_eq_ok] at h
    subst h
    contradiction
  | cons row rows ih =>
    simp only [List.mapM_cons, bind_eq_ok, pure_eq_ok] at h
    rcases h with ⟨first, hfirst, rest, hrest, rfl⟩
    rcases List.mem_cons.mp hmem with rfl | hmem
    . exact ⟨row, List.mem_cons_self, hfirst⟩
    . rcases ih hrest hmem with ⟨row', hrow', hf⟩
      exact ⟨row', List.mem_cons_of_mem _ hrow', hf⟩

theorem mapM_eq_ok_map {g : α → β} (hf : ∀ row result, f row = .ok result → result = g row)
    {rows : List α} {results : List β} (h : rows.mapM f = .ok results)
    : results = rows.map g := by
  induction rows generalizing results with
  | nil =>
    rw [List.mapM_nil, pure_eq_ok] at h
    exact h.symm
  | cons row rows ih =>
    simp only [List.mapM_cons, bind_eq_ok, pure_eq_ok] at h
    rcases h with ⟨first, hfirst, rest, hrest, rfl⟩
    rw [List.map_cons, hf row first hfirst, ih hrest]

theorem mapM_of_forall {g : α → β} {rows : List α} (h : ∀ row ∈ rows, f row = .ok (g row))
    : rows.mapM f = .ok (rows.map g) := by
  induction rows with
  | nil => rfl
  | cons row rows ih =>
    simp only [List.forall_mem_cons] at h
    rw [List.mapM_cons, bind_of_ok h.1, bind_of_ok (ih h.2)]
    rfl

theorem forall_of_mapM {rows : List α} {results : List β} (h : rows.mapM f = .ok results)
    {row : α} (hmem : row ∈ rows)
    : ∃ result ∈ results, f row = .ok result := by
  induction rows generalizing results with
  | nil => contradiction
  | cons first rows ih =>
    simp only [List.mapM_cons, bind_eq_ok, pure_eq_ok] at h
    rcases h with ⟨result, hresult, rest, hrest, rfl⟩
    rcases List.mem_cons.mp hmem with rfl | hmem
    . exact ⟨result, List.mem_cons_self, hresult⟩
    . rcases ih hrest hmem with ⟨result', hmem', hf⟩
      exact ⟨result', List.mem_cons_of_mem _ hmem', hf⟩

def OnlyThrows (error : ε) (x : Except ε α) : Prop :=
  ∀ thrown, x = .error thrown → thrown = error

namespace OnlyThrows

variable {error : ε}

theorem pure (a : α) : OnlyThrows error (pure a : Except ε α) := by
  intro _ h
  contradiction

theorem failIf (condition : Prop) [Decidable condition]
    : OnlyThrows error (failIf condition error) := by
  intro thrown h
  unfold Checks.failIf at h
  split at h
  . cases h
    rfl
  . contradiction

theorem bind (h : OnlyThrows error x)
    (hnext : ∀ a, OnlyThrows error (f a))
    : OnlyThrows error (x >>= f) := by
  intro thrown hthrown
  cases x with
  | error first =>
    cases hthrown
    exact h thrown rfl
  | ok a => exact hnext a thrown hthrown

theorem mapM (h : ∀ a, OnlyThrows error (f a)) (rows : List α)
    : OnlyThrows error (rows.mapM f) := by
  induction rows with
  | nil => exact pure []
  | cons row rows ih =>
    rw [List.mapM_cons]
    apply bind (h row)
    intro b
    apply bind ih
    intro bs
    exact pure (b :: bs)

theorem eq_error (h : OnlyThrows error x) (hfails : ∀ a, x ≠ .ok a)
    : x = .error error := by
  cases x with
  | ok a => exact absurd rfl (hfails a)
  | error thrown => rw [h thrown rfl]

end OnlyThrows

end Checks
end ProofStack
