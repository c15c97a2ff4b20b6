import Mathlib.Data.List.TakeWhile
import Mathlib.Data.String.Basic
import ProofStack.Encoding.Bytes

/-!
This module contains what can be told apart from what follows it.
-/

namespace ProofStack
namespace Encoding

variable {c : Char} {l l' r r' : List Char} {a b x y : String}

theorem takeWhile_separator (h : c ∉ l) : (l ++ c :: r).takeWhile (· ≠ c) = l := by
  induction l with
  | nil => simp
  | cons d l ih =>
    rw [List.mem_cons, not_or] at h
    simpa [Ne.symm h.1] using ih h.2

theorem append_separator_inj (hl : c ∉ l) (hl' : c ∉ l') (h : l ++ c :: r = l' ++ c :: r')
    : l = l' ∧ r = r' := by
  have heq : l = l' := by rw [← takeWhile_separator hl, h, takeWhile_separator hl']
  subst heq
  rw [List.append_cancel_left_eq, List.cons.injEq] at h
  exact ⟨rfl, h.2⟩

theorem colon_inj (ha : ':' ∉ a.toList) (hb : ':' ∉ b.toList) (h : a ++ ":" ++ x = b ++ ":" ++ y)
    : a = b ∧ x = y := by
  have hlist := congrArg String.toList h
  simp only [String.toList_append, List.append_assoc] at hlist
  have hparts : a.toList ++ ':' :: x.toList = b.toList ++ ':' :: y.toList := hlist
  rcases append_separator_inj ha hb hparts with ⟨hfirst, hrest⟩
  exact ⟨String.toList_injective hfirst, String.toList_injective hrest⟩

theorem colon_inj₃ {a' b' : String} (ha : ':' ∉ a.toList) (ha' : ':' ∉ a'.toList) (hb : ':' ∉ b.toList)
    (hb' : ':' ∉ b'.toList) (h : a ++ ":" ++ b ++ ":" ++ x = a' ++ ":" ++ b' ++ ":" ++ y)
    : a = a' ∧ b = b' ∧ x = y := by
  have hassoc (s t u : String) : s ++ ":" ++ t ++ ":" ++ u = s ++ ":" ++ (t ++ ":" ++ u) := by
    simp only [String.append_assoc]
  rw [hassoc, hassoc a'] at h
  rcases colon_inj ha ha' h with ⟨hfirst, hrest⟩
  exact ⟨hfirst, colon_inj hb hb' hrest⟩

variable {ε α : Type}

def Separates (left right : Except ε Bytes) (related : Prop) : Prop :=
  ∀ x y s t, left = .ok x → right = .ok y → x ++ s = y ++ t → related ∧ s = t

def SeparatesAll (lefts rights : List (Except ε Bytes)) (related : Prop) : Prop :=
  ∀ xs ys s t, lefts.mapM id = .ok xs → rights.mapM id = .ok ys →
    xs.flatten ++ s = ys.flatten ++ t → related ∧ s = t

namespace Separates

variable {left right : Except ε Bytes} {related related' : Prop}

theorem mono (h : Separates left right related) (himp : related → related')
    : Separates left right related' := by
  intro x y s t hx hy heq
  rcases h x y s t hx hy heq with ⟨hrelated, hrest⟩
  exact ⟨himp hrelated, hrest⟩

end Separates

structure Separated (ε : Type) where
  left : Except ε Bytes
  right : Except ε Bytes
  related : Prop
  separates : Separates left right related

namespace SeparatesAll

variable {left right : Except ε Bytes} {lefts rights : List (Except ε Bytes)} {related related' : Prop}

theorem nil (h : related) : SeparatesAll ([] : List (Except ε Bytes)) [] related := by
  intro xs ys s t hxs hys heq
  cases hxs
  cases hys
  exact ⟨h, heq⟩

theorem cons (h : Separates left right related) (hrest : related → SeparatesAll lefts rights related')
    : SeparatesAll (left :: lefts) (right :: rights) related' := by
  intro xs ys s t hxs hys heq
  rw [List.mapM_cons, Checks.bind_eq_ok] at hxs hys
  rcases hxs with ⟨x, hx, hxs⟩
  rcases hys with ⟨y, hy, hys⟩
  rw [Checks.bind_eq_ok] at hxs hys
  rcases hxs with ⟨xs, hxs, hxs'⟩
  rcases hys with ⟨ys, hys, hys'⟩
  cases hxs'
  cases hys'
  rw [List.flatten_cons, List.flatten_cons, List.append_assoc, List.append_assoc] at heq
  rcases h x y _ _ hx hy heq with ⟨hrelated, hflatten⟩
  exact hrest hrelated xs ys s t hxs hys hflatten

theorem mono (h : SeparatesAll lefts rights related) (himp : related → related')
    : SeparatesAll lefts rights related' := by
  intro xs ys s t hxs hys heq
  rcases h xs ys s t hxs hys heq with ⟨hrelated, hrest⟩
  exact ⟨himp hrelated, hrest⟩

theorem map {f : α → Except ε Bytes} {values values' : List α} (hlength : values.length = values'.length)
    (h : ∀ value value', Separates (f value) (f value') (value = value'))
    : SeparatesAll (values.map f) (values'.map f) (values = values') := by
  induction values generalizing values' with
  | nil =>
    rw [List.length_nil, eq_comm, List.length_eq_zero_iff] at hlength
    rw [hlength]
    exact nil rfl
  | cons value values ih =>
    cases values' with
    | nil => contradiction
    | cons value' values' =>
      rw [List.length_cons, List.length_cons, Nat.add_right_cancel_iff] at hlength
      apply cons (h value value')
      rintro rfl xs ys s t hxs hys heq
      rcases ih hlength xs ys s t hxs hys heq with ⟨rfl, hrest⟩
      exact ⟨rfl, hrest⟩

end SeparatesAll

end Encoding
end ProofStack
