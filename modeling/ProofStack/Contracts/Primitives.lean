import Mathlib.Data.List.Basic
import Mathlib.Data.Nat.Notation

/-!
This module contains the primitive schemas that all contracts are built from.
-/

namespace ProofStack

def issue (condition : Prop) [Decidable condition] (message : String) : List String :=
  if condition then [message] else []

@[simp]
theorem issue_eq_nil {condition : Prop} [Decidable condition] {message : String}
    : issue condition message = [] ↔ ¬condition := by
  unfold issue
  split <;> simp_all

@[simp]
theorem elim_issues_eq_nil {α : Type} {value : Option α} {f : α → List String}
    : value.elim [] f = [] ↔ ∀ x ∈ value, f x = [] := by
  cases value <;> simp

def boundedInteger (minimum maximum value : Nat) : Prop :=
  minimum ≤ value ∧ value ≤ maximum

instance (minimum maximum value : Nat) : Decidable (boundedInteger minimum maximum value) :=
  inferInstanceAs (Decidable (_ ∧ _))

def maxSafeInteger : Nat := 9007199254740991

def isLowerAscii (c : Char) : Bool :=
  'a' ≤ c && c ≤ 'z'

def isDigitAscii (c : Char) : Bool :=
  '0' ≤ c && c ≤ '9'

def OpaqueIdSchema (id : String) : Bool :=
  match id.toList with
  | [] => false
  | c :: cs =>
    isLowerAscii c
      && cs.all (fun c => isLowerAscii c || isDigitAscii c || c == '_')
      && 2 ≤ cs.length
      && cs.length ≤ 63

def Sha256Schema (digest : String) : Bool :=
  digest.toList.all (fun c => isDigitAscii c || ('a' ≤ c && c ≤ 'f'))
    && digest.toList.length == 64

theorem sha256Schema_ofList (cs : List Char)
    : Sha256Schema (String.ofList cs)
        = (cs.all (fun c => isDigitAscii c || ('a' ≤ c && c ≤ 'f')) && cs.length == 64) := by
  rw [Sha256Schema, String.toList_ofList]

theorem sha256Schema_replicate {c : Char} (h : (isDigitAscii c || ('a' ≤ c && c ≤ 'f')) = true)
    : Sha256Schema (String.ofList (List.replicate 64 c)) = true := by
  rw [sha256Schema_ofList, List.all_replicate, List.length_replicate, h]
  rfl

structure EvidenceScope where
  environmentId : String
  projectId : String
  tenantId : String
  deriving DecidableEq, Repr

def EvidenceScopeSchema (scope : EvidenceScope) : Prop :=
  OpaqueIdSchema scope.environmentId ∧ OpaqueIdSchema scope.projectId ∧ OpaqueIdSchema scope.tenantId

instance (scope : EvidenceScope) : Decidable (EvidenceScopeSchema scope) :=
  inferInstanceAs (Decidable (_ ∧ _ ∧ _))

theorem EvidenceScope.eq_iff {left right : EvidenceScope}
    : left = right
        ↔ left.tenantId = right.tenantId
            ∧ left.projectId = right.projectId
            ∧ left.environmentId = right.environmentId := by
  cases left
  cases right
  simp only [EvidenceScope.mk.injEq]
  tauto

end ProofStack
