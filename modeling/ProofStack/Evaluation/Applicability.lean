import ProofStack.Checks
import ProofStack.Contracts.Evaluation.Applicability
import ProofStack.Logic.Kleene
import ProofStack.Reasons

/-!
This module contains the evaluation of applicability expressions.
-/

namespace ProofStack
namespace Evaluation

open Checks Reasons

structure InternalEvaluation where
  result : ApplicabilityResult
  unresolvedFields : List ApplicabilityContextField
  deriving DecidableEq

def decided (result : ApplicabilityResult) : InternalEvaluation :=
  { result, unresolvedFields := [] }

def undetermined (field : ApplicabilityContextField) : InternalEvaluation :=
  { result := .undetermined, unresolvedFields := [field] }

def mergeUnresolvedFields (evaluations : List InternalEvaluation) : List ApplicabilityContextField :=
  (evaluations.flatMap (·.unresolvedFields)).dedup

def applicableIf (condition : Prop) [Decidable condition] : ApplicabilityResult :=
  if condition then .applicable else .notApplicable

def ApplicabilityContext.value (context : ApplicabilityContext) : ApplicabilityEqualsField → Option String
  | .environmentId => context.environmentId
  | .jurisdiction => context.jurisdiction
  | .locale => context.locale
  | .riskTier => context.riskTier
  | .taskKind => context.taskKind

def evaluateEquals (field : ApplicabilityEqualsField) (value : String) (context : ApplicabilityContext)
    : InternalEvaluation :=
  match context.value field with
  | none => undetermined field.contextField
  | some actual => decided (applicableIf (actual = value))

def evaluateAllOf (operands : List InternalEvaluation) : InternalEvaluation :=
  if operands.any (·.result = .notApplicable) then decided .notApplicable
  else
    let unresolvedFields := mergeUnresolvedFields operands
    if 0 < unresolvedFields.length then { result := .undetermined, unresolvedFields }
    else decided .applicable

def evaluateAnyOf (operands : List InternalEvaluation) : InternalEvaluation :=
  if operands.any (·.result = .applicable) then decided .applicable
  else
    let unresolvedFields := mergeUnresolvedFields operands
    if 0 < unresolvedFields.length then { result := .undetermined, unresolvedFields }
    else decided .notApplicable

def evaluateNot (operand : InternalEvaluation) : InternalEvaluation :=
  if operand.result = .undetermined then operand
  else decided (if operand.result = .applicable then .notApplicable else .applicable)

mutual

@[simp]
def evaluateExpression (context : ApplicabilityContext) : ApplicabilityExpression → InternalEvaluation
  | .equals field value => evaluateEquals field value context
  | .contains value => decided (applicableIf (value ∈ context.populationTags))
  | .not operand => evaluateNot (evaluateExpression context operand)
  | .allOf operands => evaluateAllOf (evaluateExpressions context operands)
  | .anyOf operands => evaluateAnyOf (evaluateExpressions context operands)

@[simp]
def evaluateExpressions (context : ApplicabilityContext)
    : List ApplicabilityExpression → List InternalEvaluation
  | [] => []
  | operand :: operands => evaluateExpression context operand :: evaluateExpressions context operands

end

inductive ApplicabilityInput where
  | context
  | expression
  deriving DecidableEq

structure InvalidApplicabilityInputError where
  input : ApplicabilityInput
  deriving DecidableEq

structure ApplicabilityEvaluation where
  result : ApplicabilityResult
  unresolvedFields : List ApplicabilityContextField
  deriving DecidableEq

def evaluateApplicability (isNFC : String → Bool) (expression : ApplicabilityExpression)
    (context : ApplicabilityContext)
    : Except InvalidApplicabilityInputError ApplicabilityEvaluation := do
  let expression ← parseWith (ApplicabilityExpressionSchema isNFC expression) ⟨.expression⟩ expression
  let context ← parseWith (ApplicabilityContextSchema isNFC context) ⟨.context⟩ context
  let evaluation := evaluateExpression context expression
  return {
    result := evaluation.result
    unresolvedFields :=
      if evaluation.result = .undetermined then
        sortedReasons ApplicabilityContextField.text evaluation.unresolvedFields
      else
        []
  }

variable {context context' : ApplicabilityContext} {expression : ApplicabilityExpression}
variable {isNFC : String → Bool}

theorem evaluateExpressions_eq_map (operands : List ApplicabilityExpression)
    : evaluateExpressions context operands = operands.map (evaluateExpression context) := by
  induction operands with
  | nil => rfl
  | cons operand operands ih => rw [evaluateExpressions, ih, List.map_cons]

def ApplicabilityResult.kleene : ApplicabilityResult → Kleene
  | .applicable => .yes
  | .notApplicable => .no
  | .undetermined => .unknown

@[simp]
theorem ApplicabilityResult.kleene_applicable : ApplicabilityResult.applicable.kleene = .yes :=
  rfl

@[simp]
theorem ApplicabilityResult.kleene_notApplicable : ApplicabilityResult.notApplicable.kleene = .no :=
  rfl

theorem ApplicabilityResult.kleene_injective : Function.Injective ApplicabilityResult.kleene := by
  intro left right h
  cases left <;> cases right <;> first | rfl | contradiction

def InternalEvaluation.Coherent (evaluation : InternalEvaluation) : Prop :=
  evaluation.result = .undetermined ↔ evaluation.unresolvedFields ≠ []

theorem coherent_decided {result : ApplicabilityResult} (h : result ≠ .undetermined)
    : (decided result).Coherent :=
  ⟨fun hundetermined => absurd hundetermined h, fun hfields => absurd rfl hfields⟩

theorem applicableIf_ne (condition : Prop) [Decidable condition] : applicableIf condition ≠ .undetermined := by
  unfold applicableIf
  split <;> decide

theorem coherent_evaluateEquals (field : ApplicabilityEqualsField) (value : String)
    : (evaluateEquals field value context).Coherent := by
  unfold evaluateEquals
  split
  . exact ⟨fun _ => List.cons_ne_nil _ _, fun _ => rfl⟩
  . exact coherent_decided (applicableIf_ne _)

variable {evaluations : List InternalEvaluation}

theorem mergeUnresolvedFields_ne_nil
    (h : ∀ evaluation ∈ evaluations, evaluation.Coherent)
    : 0 < (mergeUnresolvedFields evaluations).length
        ↔ Kleene.unknown ∈ evaluations.map (·.result.kleene) := by
  rw [List.length_pos_iff, mergeUnresolvedFields, Ne, List.dedup_eq_nil, List.flatMap_eq_nil_iff]
  simp only [List.mem_map, not_forall]
  constructor
  . rintro ⟨evaluation, hmem, hfields⟩
    exact ⟨evaluation, hmem, by rw [(h evaluation hmem).mpr hfields]; rfl⟩
  . rintro ⟨evaluation, hmem, hunknown⟩
    exact ⟨evaluation, hmem, (h evaluation hmem).mp (ApplicabilityResult.kleene_injective hunknown)⟩

theorem any_result_iff {result : ApplicabilityResult}
    : evaluations.any (·.result = result) = true ↔ result.kleene ∈ evaluations.map (·.result.kleene) := by
  simp only [List.any_eq_true, decide_eq_true_eq, List.mem_map, ApplicabilityResult.kleene_injective.eq_iff]

theorem evaluateAllOf_spec
    (h : ∀ evaluation ∈ evaluations, evaluation.Coherent)
    : (evaluateAllOf evaluations).Coherent
        ∧ (evaluateAllOf evaluations).result.kleene = Kleene.conj (evaluations.map (·.result.kleene)) := by
  dsimp only [evaluateAllOf, Kleene.conj]
  simp only [any_result_iff, mergeUnresolvedFields_ne_nil h, ApplicabilityResult.kleene_notApplicable]
  split
  . exact ⟨coherent_decided (by decide), rfl⟩
  . split
    . next hunknown =>
      have hfields := List.length_pos_iff.mp ((mergeUnresolvedFields_ne_nil h).mpr hunknown)
      exact ⟨⟨fun _ => hfields, fun _ => rfl⟩, rfl⟩
    . exact ⟨coherent_decided (by decide), rfl⟩

theorem evaluateAnyOf_spec
    (h : ∀ evaluation ∈ evaluations, evaluation.Coherent)
    : (evaluateAnyOf evaluations).Coherent
        ∧ (evaluateAnyOf evaluations).result.kleene = Kleene.disj (evaluations.map (·.result.kleene)) := by
  dsimp only [evaluateAnyOf, Kleene.disj]
  simp only [any_result_iff, mergeUnresolvedFields_ne_nil h, ApplicabilityResult.kleene_applicable]
  split
  . exact ⟨coherent_decided (by decide), rfl⟩
  . split
    . next hunknown =>
      have hfields := List.length_pos_iff.mp ((mergeUnresolvedFields_ne_nil h).mpr hunknown)
      exact ⟨⟨fun _ => hfields, fun _ => rfl⟩, rfl⟩
    . exact ⟨coherent_decided (by decide), rfl⟩

theorem evaluateNot_spec {evaluation : InternalEvaluation} (h : evaluation.Coherent)
    : (evaluateNot evaluation).Coherent
        ∧ (evaluateNot evaluation).result.kleene = evaluation.result.kleene.neg := by
  unfold evaluateNot
  split
  . next hundetermined =>
    rw [hundetermined]
    exact ⟨h, rfl⟩
  . next hdecided =>
    cases hresult : evaluation.result with
    | applicable => exact ⟨coherent_decided (by decide), rfl⟩
    | notApplicable => exact ⟨coherent_decided (by decide), rfl⟩
    | undetermined => exact absurd hresult hdecided

theorem coherent_evaluateExpression (context : ApplicabilityContext) (expression : ApplicabilityExpression)
    : (evaluateExpression context expression).Coherent := by
  induction expression with
  | equals field value => exact coherent_evaluateEquals field value
  | contains value => exact coherent_decided (applicableIf_ne _)
  | not operand ih => exact (evaluateNot_spec ih).1
  | allOf operands ih =>
    rw [evaluateExpression, evaluateExpressions_eq_map]
    exact (evaluateAllOf_spec (List.forall_mem_map.mpr ih)).1
  | anyOf operands ih =>
    rw [evaluateExpression, evaluateExpressions_eq_map]
    exact (evaluateAnyOf_spec (List.forall_mem_map.mpr ih)).1

def truth (context : ApplicabilityContext) (expression : ApplicabilityExpression) : Kleene :=
  (evaluateExpression context expression).result.kleene

theorem truth_equals (field : ApplicabilityEqualsField) (value : String)
    : truth context (.equals field value)
        = (context.value field).elim .unknown (fun actual => (applicableIf (actual = value)).kleene) := by
  unfold truth evaluateExpression evaluateEquals
  cases context.value field <;> rfl

theorem truth_not (operand : ApplicabilityExpression)
    : truth context (.not operand) = (truth context operand).neg :=
  (evaluateNot_spec (coherent_evaluateExpression context operand)).2

theorem coherent_of_mem_map (operands : List ApplicabilityExpression)
    : ∀ evaluation ∈ operands.map (evaluateExpression context), evaluation.Coherent :=
  List.forall_mem_map.mpr fun operand _ => coherent_evaluateExpression context operand

theorem truth_allOf (operands : List ApplicabilityExpression)
    : truth context (.allOf operands) = Kleene.conj (operands.map (truth context)) := by
  have hspec := (evaluateAllOf_spec (@coherent_of_mem_map context operands)).2
  rw [List.map_map] at hspec
  rw [truth, evaluateExpression, evaluateExpressions_eq_map]
  exact hspec

theorem truth_anyOf (operands : List ApplicabilityExpression)
    : truth context (.anyOf operands) = Kleene.disj (operands.map (truth context)) := by
  have hspec := (evaluateAnyOf_spec (@coherent_of_mem_map context operands)).2
  rw [List.map_map] at hspec
  rw [truth, evaluateExpression, evaluateExpressions_eq_map]
  exact hspec

theorem map_truth_not (operands : List ApplicabilityExpression)
    : (operands.map .not).map (truth context) = (operands.map (truth context)).map Kleene.neg := by
  rw [List.map_map, List.map_map]
  apply List.map_congr_left
  intro operand _
  exact truth_not operand

structure ApplicabilityContext.Extends (context context' : ApplicabilityContext) : Prop where
  populationTags : context'.populationTags = context.populationTags
  known : ∀ field value, context.value field = some value → context'.value field = some value

variable {operands : List ApplicabilityExpression}

theorem forall₂_map_below
    (h : ∀ operand ∈ operands, Kleene.Below (truth context operand) (truth context' operand))
    : List.Forall₂ Kleene.Below (operands.map (truth context)) (operands.map (truth context')) := by
  rw [List.forall₂_map_left_iff, List.forall₂_map_right_iff, List.forall₂_same]
  exact h

theorem truth_below (h : context.Extends context') (expression : ApplicabilityExpression)
    : Kleene.Below (truth context expression) (truth context' expression) := by
  induction expression with
  | equals field value =>
    rw [truth_equals, truth_equals]
    cases hvalue : context.value field with
    | none => exact .inl rfl
    | some actual =>
      rw [h.known field actual hvalue]
      exact .refl _
  | contains value =>
    unfold truth evaluateExpression
    rw [h.populationTags]
    exact .refl _
  | not operand ih =>
    rw [truth_not, truth_not]
    exact ih.neg
  | allOf operands ih =>
    rw [truth_allOf, truth_allOf]
    exact Kleene.conj_below (forall₂_map_below ih)
  | anyOf operands ih =>
    rw [truth_anyOf, truth_anyOf]
    exact Kleene.disj_below (forall₂_map_below ih)

variable {evaluation : ApplicabilityEvaluation}

theorem evaluateApplicability_eq_ok
    : evaluateApplicability isNFC expression context = .ok evaluation
        ↔ ApplicabilityExpressionSchema isNFC expression ∧ ApplicabilityContextSchema isNFC context
          ∧ evaluation.result = (evaluateExpression context expression).result
          ∧ evaluation.unresolvedFields
            = if evaluation.result = .undetermined then
                sortedReasons ApplicabilityContextField.text
                  (evaluateExpression context expression).unresolvedFields
              else [] := by
  simp only [evaluateApplicability, bind_eq_ok, parseWith_eq_ok, pure_eq_ok]
  constructor
  . rintro ⟨_, ⟨hexpression, rfl⟩, _, ⟨hcontext, rfl⟩, rfl⟩
    exact ⟨hexpression, hcontext, rfl, rfl⟩
  . rintro ⟨hexpression, hcontext, hresult, hfields⟩
    refine ⟨_, ⟨hexpression, rfl⟩, _, ⟨hcontext, rfl⟩, ?_⟩
    rw [hresult] at hfields
    rw [← hresult] at hfields ⊢
    cases evaluation
    simp_all

theorem result_eq_of_truth_eq {expression expression' : ApplicabilityExpression}
    (h : truth context expression = truth context' expression')
    : (evaluateExpression context expression).result = (evaluateExpression context' expression').result :=
  ApplicabilityResult.kleene_injective h

theorem truth_not_not (operand : ApplicabilityExpression)
    : truth context (.not (.not operand)) = truth context operand := by
  rw [truth_not, truth_not, Kleene.neg_neg]

theorem truth_not_allOf (operands : List ApplicabilityExpression)
    : truth context (.not (.allOf operands)) = truth context (.anyOf (operands.map .not)) := by
  rw [truth_not, truth_allOf, truth_anyOf, map_truth_not, Kleene.neg_conj]

theorem truth_not_anyOf (operands : List ApplicabilityExpression)
    : truth context (.not (.anyOf operands)) = truth context (.allOf (operands.map .not)) := by
  rw [truth_not, truth_anyOf, truth_allOf, map_truth_not, Kleene.neg_disj]

theorem exists_evaluation {expression' : ApplicabilityExpression}
    (h : evaluateApplicability isNFC expression context = .ok evaluation)
    (hadmitted : ApplicabilityExpressionSchema isNFC expression')
    (htruth : truth context expression' = truth context expression)
    : ∃ evaluation', evaluateApplicability isNFC expression' context = .ok evaluation'
        ∧ evaluation'.result = evaluation.result := by
  rcases evaluateApplicability_eq_ok.mp h with ⟨_, hcontext, hresult, _⟩
  have hsame := result_eq_of_truth_eq htruth
  refine ⟨⟨evaluation.result, if evaluation.result = .undetermined then _ else []⟩,
    evaluateApplicability_eq_ok.mpr ⟨hadmitted, hcontext, hresult.trans hsame.symm, rfl⟩, rfl⟩

section Admission

open ApplicabilityExpression

theorem operandNodes_map_not (operands : List ApplicabilityExpression)
    : operandNodes (operands.map .not) = 2 * operands.length + operandNodes operands := by
  induction operands with
  | nil => rfl
  | cons operand operands ih =>
    simp only [List.map_cons, operandNodes, nodes, ih, List.length_cons]
    omega

theorem operandDepth_map_not (h : operands ≠ [])
    : operandDepth (operands.map .not) = 1 + operandDepth operands := by
  induction operands with
  | nil => contradiction
  | cons operand operands ih =>
    cases operands with
    | nil => simp only [List.map_cons, List.map_nil, operandDepth, depth]; omega
    | cons operand' operands =>
      have hrest := ih (List.cons_ne_nil _ _)
      rw [List.map_cons, operandDepth, hrest, depth]
      conv => rhs; rw [operandDepth]
      omega

theorem operandShapes_map_not (operands : List ApplicabilityExpression)
    : operandShapes isNFC (operands.map .not) = operandShapes isNFC operands := by
  induction operands with
  | nil => rfl
  | cons operand operands ih => simp only [List.map_cons, operandShapes, shape, ih]

theorem admitted_of_not_not {operand : ApplicabilityExpression}
    (h : ApplicabilityExpressionSchema isNFC (.not (.not operand)))
    : ApplicabilityExpressionSchema isNFC operand := by
  simp only [ApplicabilityExpressionSchema, nodes, depth, shape] at h ⊢
  exact ⟨by omega, by omega, h.2.2⟩

theorem admitted_of_map_not
    : (ApplicabilityExpressionSchema isNFC (.anyOf (operands.map .not)) →
          ApplicabilityExpressionSchema isNFC (.not (.allOf operands)))
        ∧ (ApplicabilityExpressionSchema isNFC (.allOf (operands.map .not)) →
          ApplicabilityExpressionSchema isNFC (.not (.anyOf operands))) := by
  simp only [ApplicabilityExpressionSchema, nodes, depth, shape, operandNodes_map_not,
    operandShapes_map_not, List.length_map, Bool.and_eq_true, decide_eq_true_eq]
  have hadmitted : 3 + (2 * operands.length + operandNodes operands) ≤ maxApplicabilityNodes
        ∧ 1 + operandDepth (operands.map .not) ≤ maxApplicabilityDepth
        ∧ boundedInteger 1 maxApplicabilityOperands operands.length
          ∧ operandShapes isNFC operands = true →
      2 + (3 + operandNodes operands) ≤ maxApplicabilityNodes
        ∧ 1 + (1 + operandDepth operands) ≤ maxApplicabilityDepth
        ∧ boundedInteger 1 maxApplicabilityOperands operands.length
          ∧ operandShapes isNFC operands = true := by
    rintro ⟨hnodes, hdepth, hlength, hshapes⟩
    have hpos : 1 ≤ operands.length := hlength.1
    rw [operandDepth_map_not (List.ne_nil_of_length_pos hpos)] at hdepth
    exact ⟨by omega, hdepth, hlength, hshapes⟩
  exact ⟨hadmitted, hadmitted⟩

end Admission

theorem evaluateApplicability_of_extends
    (h : evaluateApplicability isNFC expression context = .ok evaluation)
    (hdecided : evaluation.result ≠ .undetermined) (hextends : context.Extends context')
    (hcontext : ApplicabilityContextSchema isNFC context')
    : evaluateApplicability isNFC expression context' = .ok evaluation := by
  rcases evaluateApplicability_eq_ok.mp h with ⟨hexpression, _, hresult, hfields⟩
  rw [if_neg hdecided] at hfields
  have hsame : (evaluateExpression context expression).result
      = (evaluateExpression context' expression).result := by
    rcases truth_below hextends expression with hunknown | hsame
    . have hundetermined : (evaluateExpression context expression).result.kleene
          = ApplicabilityResult.undetermined.kleene := hunknown
      rw [hresult] at hdecided
      exact absurd (ApplicabilityResult.kleene_injective hundetermined) hdecided
    . exact result_eq_of_truth_eq hsame
  refine evaluateApplicability_eq_ok.mpr ⟨hexpression, hcontext, hresult.trans hsame, ?_⟩
  rw [if_neg hdecided]
  exact hfields

theorem undetermined_iff
    (h : evaluateApplicability isNFC expression context = .ok evaluation)
    : evaluation.result = .undetermined ↔ evaluation.unresolvedFields ≠ [] := by
  rcases evaluateApplicability_eq_ok.mp h with ⟨_, _, hresult, hfields⟩
  rw [hfields]
  split
  . next hundetermined =>
    rw [Ne, sortedReasons_eq_nil]
    have hcoherent := (coherent_evaluateExpression context expression).mp (hresult ▸ hundetermined)
    exact ⟨fun _ => hcoherent, fun _ => hundetermined⟩
  . next hdecided => exact ⟨fun h => absurd h hdecided, fun h => absurd rfl h⟩

structure ApplicabilityLaws (isNFC : String → Bool) (context : ApplicabilityContext) : Prop where
  stable : ∀ expression evaluation, evaluateApplicability isNFC expression context = .ok evaluation →
    evaluation.result ≠ .undetermined →
      ∀ context', context.Extends context' → ApplicabilityContextSchema isNFC context' →
        evaluateApplicability isNFC expression context' = .ok evaluation
  undetermined : ∀ expression evaluation,
    evaluateApplicability isNFC expression context = .ok evaluation →
      (evaluation.result = .undetermined ↔ evaluation.unresolvedFields ≠ [])
  doubleNegation : ∀ operand evaluation,
    evaluateApplicability isNFC (.not (.not operand)) context = .ok evaluation →
      ∃ evaluation', evaluateApplicability isNFC operand context = .ok evaluation'
        ∧ evaluation'.result = evaluation.result
  notAllOf : ∀ operands evaluation,
    evaluateApplicability isNFC (.anyOf (operands.map .not)) context = .ok evaluation →
      ∃ evaluation', evaluateApplicability isNFC (.not (.allOf operands)) context = .ok evaluation'
        ∧ evaluation'.result = evaluation.result
  notAnyOf : ∀ operands evaluation,
    evaluateApplicability isNFC (.allOf (operands.map .not)) context = .ok evaluation →
      ∃ evaluation', evaluateApplicability isNFC (.not (.anyOf operands)) context = .ok evaluation'
        ∧ evaluation'.result = evaluation.result
  -- the decisions agree also where one of the two forms is too large to be admitted
  unbounded : ∀ operand operands,
    (evaluateExpression context (.not (.not operand))).result = (evaluateExpression context operand).result
      ∧ (evaluateExpression context (.not (.allOf operands))).result
        = (evaluateExpression context (.anyOf (operands.map .not))).result
      ∧ (evaluateExpression context (.not (.anyOf operands))).result
        = (evaluateExpression context (.allOf (operands.map .not))).result

theorem applicabilityLaws (isNFC : String → Bool) (context : ApplicabilityContext)
    : ApplicabilityLaws isNFC context where
  stable _ _ h hdecided _ hextends hcontext := evaluateApplicability_of_extends h hdecided hextends hcontext
  undetermined _ _ h := undetermined_iff h
  doubleNegation operand _ h :=
    exists_evaluation h (admitted_of_not_not (evaluateApplicability_eq_ok.mp h).1)
      (truth_not_not operand).symm
  notAllOf operands _ h :=
    exists_evaluation h (admitted_of_map_not.1 (evaluateApplicability_eq_ok.mp h).1) (truth_not_allOf operands)
  notAnyOf operands _ h :=
    exists_evaluation h (admitted_of_map_not.2 (evaluateApplicability_eq_ok.mp h).1) (truth_not_anyOf operands)
  unbounded operand operands :=
    ⟨result_eq_of_truth_eq (truth_not_not operand), result_eq_of_truth_eq (truth_not_allOf operands),
      result_eq_of_truth_eq (truth_not_anyOf operands)⟩

example : evaluateExpression
      { environmentId := none, jurisdiction := none, locale := none, populationTags := ["adult"]
        riskTier := none, taskKind := none }
      (.anyOf [.equals .locale "en-us", .not (.equals .riskTier "high"), .contains "minor"])
    = ⟨.undetermined, [.locale, .riskTier]⟩ := by
  decide

end Evaluation
end ProofStack
