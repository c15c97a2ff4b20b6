import Mathlib.Algebra.Group.Nat.Defs
import ProofStack.StateMachine.Metered

/-!
This module contains the meter that all observations of one verification are charged to.
-/

namespace ProofStack
namespace Release

open StateMachine

inductive VerificationBudgetReason where
  | recordLimit
  | byteLimit
  | approvalLimit
  | invalidObservation
  | sourceReadFailed
  deriving DecidableEq

/-- What an error of its own class is thrown for. -/
inductive VerificationSubject where
  | selectionCensus
  | reviewerCensus
  | identity
  | reviewer
  | normalApproval
  | exceptionControls
  deriving DecidableEq

inductive VerificationError where
  | invalid (subject : VerificationSubject)
  | budget (reason : VerificationBudgetReason)
  deriving DecidableEq

@[ext]
structure VerificationUsage where
  records : Nat
  recordBytes : Nat
  approvalRecords : Nat
  deriving DecidableEq

namespace VerificationUsage

instance : Zero VerificationUsage :=
  ⟨{ records := 0, recordBytes := 0, approvalRecords := 0 }⟩

instance : Add VerificationUsage :=
  ⟨fun left right =>
    { records := left.records + right.records
      recordBytes := left.recordBytes + right.recordBytes
      approvalRecords := left.approvalRecords + right.approvalRecords }⟩

@[simp]
theorem zero_def : (0 : VerificationUsage) = ⟨0, 0, 0⟩ :=
  rfl

@[simp]
theorem add_def (left right : VerificationUsage)
    : left + right
        =
      ⟨left.records + right.records, left.recordBytes + right.recordBytes,
        left.approvalRecords + right.approvalRecords⟩ :=
  rfl

instance : AddCommMonoid VerificationUsage where
  add_assoc := by
    intro a b c
    ext <;> simp [Nat.add_assoc]
  zero_add := by
    intro a
    ext <;> simp
  add_zero := by
    intro a
    ext <;> simp
  add_comm := by
    intro a b
    ext <;> simp [Nat.add_comm]
  nsmul := nsmulRec

def Within (usage limits : VerificationUsage) : Prop :=
  usage.records ≤ limits.records
    ∧ usage.recordBytes ≤ limits.recordBytes
    ∧ usage.approvalRecords ≤ limits.approvalRecords

instance (usage limits : VerificationUsage) : Decidable (usage.Within limits) :=
  inferInstanceAs (Decidable (_ ∧ _))

end VerificationUsage

structure VerificationBudget where
  limits : VerificationUsage
  usage : VerificationUsage
  failed : Option VerificationBudgetReason

abbrev Verification (α : Type) : Type := EStateM VerificationError VerificationBudget α

inductive ObservationKind where
  | metadata
  | approval
  deriving DecidableEq

def observation (kind : ObservationKind) (bytes : Nat) : VerificationUsage where
  records := 1
  recordBytes := bytes
  approvalRecords := if kind = .approval then 1 else 0

def admission (limits next : VerificationUsage) : Option VerificationBudgetReason :=
  if next.records > limits.records then
    some .recordLimit
  else if next.recordBytes > limits.recordBytes then
    some .byteLimit
  else if next.approvalRecords > limits.approvalRecords then
    some .approvalLimit
  else
    none

def observe (kind : ObservationKind) (bytes : Nat) : Verification Unit := do
  let budget ← get
  match budget.failed with
  | some reason => throw (.budget reason)
  | none =>
    let next := budget.usage + observation kind bytes
    match admission budget.limits next with
    | some reason => do
      set { budget with failed := some reason }
      throw (.budget reason)
    | none => set { budget with usage := next }

-- All errors but those of the meter are caught and thrown again as errors of the subject.
def wrapping {α : Type} (subject : VerificationSubject) (verification : Verification α)
    : Verification α :=
  fun budget =>
    match verification budget with
    | .ok value budget' => .ok value budget'
    | .error (.budget reason) budget' => .error (.budget reason) budget'
    | .error (.invalid _) budget' => .error (.invalid subject) budget'

section Tariff

theorem admission_eq_none {limits next : VerificationUsage}
    : admission limits next = none ↔ next.Within limits := by
  unfold admission VerificationUsage.Within
  split
  . simp
    omega
  . split
    . simp
      omega
    . split
      . simp
        omega
      . simp
        omega

def budgetTariff : Tariff VerificationBudget VerificationUsage where
  charge := fun cost budget =>
    if budget.failed = none ∧ (budget.usage + cost).Within budget.limits then
      some { budget with usage := budget.usage + cost }
    else
      none
  eq_of_charge_zero := by
    intro s s' h
    split at h
    . cases h
      rw [add_zero]
    . contradiction
  charge_add := by
    intro first second s
    by_cases hfailed : s.failed = none
    . by_cases hboth : (s.usage + (first + second)).Within s.limits
      . have hfirst : (s.usage + first).Within s.limits := by
          simp only [VerificationUsage.Within, VerificationUsage.add_def] at hboth ⊢
          omega
        rw [if_pos ⟨hfailed, hboth⟩, if_pos ⟨hfailed, hfirst⟩, Option.bind_some]
        dsimp only
        rw [add_assoc, if_pos ⟨hfailed, hboth⟩]
      . rw [if_neg (fun h => hboth h.2)]
        split
        . rw [Option.bind_some]
          dsimp only
          rw [add_assoc, if_neg (fun h => hboth h.2)]
        . rfl
    . rw [if_neg (fun h => hfailed h.1), if_neg (fun h => hfailed h.1)]
      rfl

theorem observe_of_charge {kind : ObservationKind} {bytes : Nat} {budget budget' : VerificationBudget}
    (h : budgetTariff.charge (observation kind bytes) budget = some budget')
    : observe kind bytes budget = .ok () budget' := by
  simp only [budgetTariff] at h
  split at h
  . next hadmitted =>
    cases h
    unfold observe
    rw [get_bind_run]
    simp only [hadmitted.1, admission_eq_none.mpr hadmitted.2]
    rfl
  . contradiction

theorem observe_of_not_charged {kind : ObservationKind} {bytes : Nat} {budget : VerificationBudget}
    (h : budgetTariff.charge (observation kind bytes) budget = none)
    : ∃ reason budget', observe kind bytes budget = .error (.budget reason) budget' := by
  simp only [budgetTariff, ite_eq_right_iff, reduceCtorEq, imp_false, not_and] at h
  unfold observe
  rw [get_bind_run]
  cases hfailed : budget.failed with
  | some reason => exact ⟨reason, budget, rfl⟩
  | none =>
    have hadmission : admission budget.limits (budget.usage + observation kind bytes) ≠ none := by
      rw [ne_eq, admission_eq_none]
      exact h hfailed
    obtain ⟨reason, hreason⟩ := Option.ne_none_iff_exists'.mp hadmission
    simp only [hreason]
    exact ⟨reason, _, rfl⟩

theorem metered_observe (kind : ObservationKind) (bytes : Nat)
    : Metered budgetTariff (observe kind bytes) (observation kind bytes) (.ok ()) where
  sound := by
    intro _ _ _ _
    rfl
  spent := by
    intro s s' a _ hrun
    cases hcharge : budgetTariff.charge (observation kind bytes) s with
    | none =>
      obtain ⟨_, _, herror⟩ := observe_of_not_charged hcharge
      rw [herror] at hrun
      contradiction
    | some s'' =>
      rw [observe_of_charge hcharge] at hrun
      cases hrun
      rfl
  returns := by
    intro s s' a _ hcharge
    exact observe_of_charge hcharge
  throws := by
    intro _ _ _ h
    contradiction

def wrapped {α : Type} (subject : VerificationSubject)
    : Except VerificationError α → Except VerificationError α
  | .ok value => .ok value
  | .error (.budget reason) => .error (.budget reason)
  | .error (.invalid _) => .error (.invalid subject)

theorem wrapping_eq_ok {α : Type} {subject : VerificationSubject} {verification : Verification α}
    {budget budget' : VerificationBudget} {value : α}
    : wrapping subject verification budget = .ok value budget'
        ↔ verification budget = .ok value budget' := by
  unfold wrapping
  cases verification budget with
  | ok => rfl
  | error error => cases error <;> simp

theorem wrapped_eq_ok {α : Type} {subject : VerificationSubject} {value : Except VerificationError α}
    {a : α}
    : wrapped subject value = .ok a ↔ value = .ok a := by
  cases value with
  | ok => rfl
  | error error => cases error <;> simp [wrapped]

theorem metered_wrapping {α : Type} {subject : VerificationSubject} {verification : Verification α}
    {cost : VerificationUsage} {value : Except VerificationError α}
    (h : Metered budgetTariff verification cost value)
    : Metered budgetTariff (wrapping subject verification) cost (wrapped subject value) where
  sound := by
    intro _ _ _ hrun
    exact wrapped_eq_ok.mpr (h.sound (wrapping_eq_ok.mp hrun))
  spent := by
    intro _ _ _ hopen hrun
    exact h.spent hopen (wrapping_eq_ok.mp hrun)
  returns := by
    intro _ _ _ hvalue hcharge
    exact wrapping_eq_ok.mpr (h.returns (wrapped_eq_ok.mp hvalue) hcharge)
  throws := by
    intro s s' error hvalue hcharge
    cases value with
    | ok a => contradiction
    | error inner =>
      obtain ⟨s'', hrun⟩ := h.throws rfl hcharge
      refine ⟨s'', ?_⟩
      unfold wrapping
      rw [hrun]
      cases inner with
      | budget | invalid =>
        cases hvalue
        rfl

end Tariff

end Release
end ProofStack
