import Mathlib.Data.Finset.Erase
import Mathlib.Data.Finset.Insert
import ProofStack.StateMachine.Atomic
import ProofStack.Store.Table

/-!
This module contains stores that keep a state for each tenant.
-/

namespace ProofStack
namespace Store

open StateMachine

variable {κ τ φ ε α : Type} [DecidableEq κ]

structure Tenanted (κ τ φ : Type) where
  tenants : Table κ τ
  failedKinds : Finset φ

/-- What an operation does with the state of the tenant. The result of a replacement is read off the
state that has been stored. -/
inductive Planned (τ ε α : Type) where
  | kept (result : α)
  | replaced (next : τ) (result : Except ε α)

namespace Tenanted

def empty : Tenanted κ τ φ where
  tenants := ∅
  failedKinds := ∅

def tenant [Inhabited τ] (s : Tenanted κ τ φ) (k : κ) : τ :=
  (s.tenants.lookup k).getD default

def replace (s : Tenanted κ τ φ) (k : κ) (next : τ) : Tenanted κ τ φ :=
  { s with tenants := s.tenants.insert k next }

theorem tenant_replace [Inhabited τ] (s : Tenanted κ τ φ) (k k' : κ) (next : τ)
    : (s.replace k next).tenant k' = if k' = k then next else s.tenant k' := by
  unfold tenant replace
  dsimp only
  rw [Table.lookup_insert]
  split <;> rfl

variable [DecidableEq φ]

def failNext (s : Tenanted κ τ φ) (kind : φ) : Tenanted κ τ φ :=
  { s with failedKinds := insert kind s.failedKinds }

def throwInjected (failure : Option (φ × ε)) : EStateM ε (Tenanted κ τ φ) Unit := do
  match failure with
  | none => return ()
  | some (kind, error) =>
    let s ← get
    if kind ∈ s.failedKinds then
      set { s with failedKinds := s.failedKinds.erase kind }
      throw error

omit [DecidableEq κ] in
theorem throwInjected_cases (s : Tenanted κ τ φ) (failure : Option (φ × ε))
    : throwInjected failure s = .ok () s
        ∨ ∃ kind error, failure = some (kind, error)
            ∧ throwInjected failure s = .error error { s with failedKinds := s.failedKinds.erase kind } := by
  cases failure with
  | none => exact .inl rfl
  | some failure =>
    rcases failure with ⟨kind, error⟩
    by_cases hkind : kind ∈ s.failedKinds
    . refine .inr ⟨kind, error, rfl, ?_⟩
      dsimp only [throwInjected]
      rw [get_bind_run, if_pos hkind]
      rfl
    . left
      dsimp only [throwInjected]
      rw [get_bind_run, if_neg hkind]
      rfl

def transact [Inhabited τ] (k : κ) (failure : Option (φ × ε)) (plan : τ → Except ε (Planned τ ε α))
    : EStateM ε (Tenanted κ τ φ) α := do
  let s ← get
  match ← attempting (plan (s.tenant k)) with
  | .kept result => return result
  | .replaced next result =>
    throwInjected failure
    modify (fun s => s.replace k next)
    attempting result

variable [Inhabited τ] {s : Tenanted κ τ φ} {k : κ} {plan : τ → Except ε (Planned τ ε α)}

/-- All that a transaction can do: it throws before anything is stored, it returns without a change, or
it stores the next state of the tenant. -/
inductive Transacted (s : Tenanted κ τ φ) (k : κ) (plan : τ → Except ε (Planned τ ε α))
    : EStateM.Result ε (Tenanted κ τ φ) α → Prop
  | thrown (error : ε) (s' : Tenanted κ τ φ) (htenants : s'.tenants = s.tenants)
    : Transacted s k plan (.error error s')
  | kept (result : α) (hplan : plan (s.tenant k) = .ok (.kept result))
    : Transacted s k plan (.ok result s)
  | replaced (next : τ) (result : α) (hplan : plan (s.tenant k) = .ok (.replaced next (.ok result)))
    : Transacted s k plan (.ok result (s.replace k next))
  | unread (next : τ) (error : ε) (hplan : plan (s.tenant k) = .ok (.replaced next (.error error)))
    : Transacted s k plan (.error error (s.replace k next))

theorem transacted (s : Tenanted κ τ φ) (k : κ) (failure : Option (φ × ε))
    (plan : τ → Except ε (Planned τ ε α))
    : Transacted s k plan (transact k failure plan s) := by
  unfold transact
  rw [get_bind_run]
  cases hplan : plan (s.tenant k) with
  | error error => exact .thrown error s rfl
  | ok planned =>
    rw [attempting_bind_run rfl]
    cases planned with
    | kept result => exact .kept result hplan
    | replaced next result =>
      dsimp only
      rcases throwInjected_cases s failure with hrun | ⟨kind, error, _, hrun⟩
      . rw [bind_run hrun]
        cases result with
        | ok result => exact .replaced next result hplan
        | error error => exact .unread next error hplan
      . rw [bind_run_error hrun]
        exact .thrown error _ rfl

theorem transact_of_kept {result : α} (hplan : plan (s.tenant k) = .ok (.kept result))
    (failure : Option (φ × ε))
    : transact k failure plan s = .ok result s := by
  unfold transact
  rw [get_bind_run, attempting_bind_run hplan]
  rfl

theorem transact_of_error {error : ε} (hplan : plan (s.tenant k) = .error error)
    (failure : Option (φ × ε))
    : transact k failure plan s = .error error s := by
  unfold transact
  rw [get_bind_run, hplan]
  rfl

end Tenanted

end Store
end ProofStack
