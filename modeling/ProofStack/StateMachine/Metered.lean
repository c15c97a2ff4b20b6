import Mathlib.Algebra.BigOperators.Group.List.Basic
import ProofStack.StateMachine.Atomic

/-!
This module contains computations that charge a meter while they run.
-/

namespace ProofStack
namespace StateMachine

variable {ε σ α β C : Type} [AddCommMonoid C]

structure Tariff (σ C : Type) [AddCommMonoid C] where
  charge : C → σ → Option σ
  eq_of_charge_zero : ∀ {s s' : σ}, charge 0 s = some s' → s' = s
  charge_add : ∀ (first second : C) (s : σ),
    charge (first + second) s = (charge first s).bind (charge second)

namespace Tariff

variable {tariff : Tariff σ C} {s s' : σ}

def Open (tariff : Tariff σ C) (s : σ) : Prop :=
  tariff.charge 0 s = some s

theorem open_of_charge {cost : C} (h : tariff.charge cost s = some s') : tariff.Open s' := by
  have hadd := tariff.charge_add cost 0 s
  rw [add_zero, h] at hadd
  exact hadd.symm

theorem open_of_charged {cost : C} (h : tariff.charge cost s = some s') : tariff.Open s := by
  have hadd := tariff.charge_add 0 cost s
  rw [zero_add, h] at hadd
  cases hzero : tariff.charge 0 s with
  | none =>
    rw [hzero] at hadd
    contradiction
  | some s'' =>
    have heq := tariff.eq_of_charge_zero hzero
    subst heq
    exact hzero

end Tariff

structure Metered (tariff : Tariff σ C) (computation : EStateM ε σ α) (cost : C)
    (value : Except ε α) : Prop where
  sound : ∀ {s s' : σ} {a : α}, computation s = .ok a s' → value = .ok a
  spent : ∀ {s s' : σ} {a : α},
    tariff.Open s → computation s = .ok a s' → tariff.charge cost s = some s'
  returns : ∀ {s s' : σ} {a : α},
    value = .ok a → tariff.charge cost s = some s' → computation s = .ok a s'
  throws : ∀ {s s' : σ} {error : ε},
    value = .error error → tariff.charge cost s = some s' →
      ∃ s'', computation s = .error error s''

namespace Metered

variable {tariff : Tariff σ C} {computation : EStateM ε σ α} {cost cost' : C} {value : Except ε α}

theorem pure (a : α) : Metered tariff (pure a : EStateM ε σ α) 0 (.ok a) where
  sound := by
    intro s s' b h
    cases h
    rfl
  spent := by
    intro s s' b hopen h
    cases h
    exact hopen
  returns := by
    intro s s' b hvalue hcharge
    cases hvalue
    rw [tariff.eq_of_charge_zero hcharge]
    rfl
  throws := by
    intro s s' error h
    contradiction

theorem attempting (value : Except ε α)
    : Metered tariff (attempting value : EStateM ε σ α) 0 value := by
  cases value with
  | ok a => exact pure a
  | error error =>
    constructor
    . intro s s' a h
      contradiction
    . intro s s' a _ h
      contradiction
    . intro s s' a h
      contradiction
    . intro s s' error' h _
      cases h
      exact ⟨s, rfl⟩

theorem bind (h : Metered tariff computation cost value) {continuation : α → EStateM ε σ β}
    {next : α → Except ε β}
    (hnext : ∀ a, value = .ok a → Metered tariff (continuation a) cost' (next a))
    : Metered tariff (computation >>= continuation) (cost + cost') (value >>= next) where
  sound := by
    intro s s' b hrun
    cases hfirst : computation s with
    | error error s1 =>
      rw [bind_run_error hfirst] at hrun
      contradiction
    | ok a s1 =>
      rw [bind_run hfirst] at hrun
      have hvalue := h.sound hfirst
      rw [hvalue]
      exact (hnext a hvalue).sound hrun
  spent := by
    intro s s' b hopen hrun
    cases hfirst : computation s with
    | error error s1 =>
      rw [bind_run_error hfirst] at hrun
      contradiction
    | ok a s1 =>
      rw [bind_run hfirst] at hrun
      have hspent := h.spent hopen hfirst
      rw [tariff.charge_add, hspent]
      exact (hnext a (h.sound hfirst)).spent (Tariff.open_of_charge hspent) hrun
  returns := by
    intro s s' b hvalue hcharge
    rw [tariff.charge_add, Option.bind_eq_some_iff] at hcharge
    obtain ⟨s1, hfirst, hsecond⟩ := hcharge
    cases value with
    | error error => contradiction
    | ok a =>
      rw [bind_run (h.returns rfl hfirst)]
      exact (hnext a rfl).returns hvalue hsecond
  throws := by
    intro s s' error hvalue hcharge
    rw [tariff.charge_add, Option.bind_eq_some_iff] at hcharge
    obtain ⟨s1, hfirst, hsecond⟩ := hcharge
    cases value with
    | error error' =>
      cases hvalue
      obtain ⟨s2, hthrow⟩ := h.throws rfl hfirst
      exact ⟨s2, bind_run_error hthrow _⟩
    | ok a =>
      rw [bind_run (h.returns rfl hfirst)]
      exact (hnext a rfl).throws hvalue hsecond

theorem andThen {a : α} (h : Metered tariff computation cost (.ok a)) {continuation : α → EStateM ε σ β}
    {next : Except ε β} (hnext : Metered tariff (continuation a) cost' next)
    : Metered tariff (computation >>= continuation) (cost + cost') next := by
  have hbind : Metered tariff (computation >>= continuation) (cost + cost')
      ((Except.ok a : Except ε α) >>= fun _ => next) := by
    apply h.bind
    intro b hb
    cases hb
    exact hnext
  exact hbind

theorem mapM {rows : List α} {computation : α → EStateM ε σ β} {cost : α → C}
    {value : α → Except ε β} (h : ∀ row ∈ rows, Metered tariff (computation row) (cost row) (value row))
    : Metered tariff (rows.mapM computation) (rows.map cost).sum (rows.mapM value) := by
  induction rows with
  | nil => exact pure []
  | cons row rows ih =>
    rw [List.mapM_cons, List.mapM_cons, List.map_cons, List.sum_cons]
    apply (h row (by simp)).bind
    intro b _
    have hrest := ih (fun row hrow => h row (List.mem_cons_of_mem _ hrow))
    rw [← add_zero (rows.map cost).sum]
    apply hrest.bind
    intro bs _
    exact pure (b :: bs)

theorem foldlM {rows : List α} {computation : β → α → EStateM ε σ β} {cost : α → C}
    {value : β → α → Except ε β}
    (h : ∀ row ∈ rows, ∀ b, Metered tariff (computation b row) (cost row) (value b row)) (b : β)
    : Metered tariff (rows.foldlM computation b) (rows.map cost).sum (rows.foldlM value b) := by
  induction rows generalizing b with
  | nil => exact pure b
  | cons row rows ih =>
    rw [List.foldlM_cons, List.foldlM_cons, List.map_cons, List.sum_cons]
    apply (h row (by simp) b).bind
    intro next _
    exact ih (fun row hrow => h row (List.mem_cons_of_mem _ hrow)) next

end Metered

end StateMachine
end ProofStack
