import ProofStack.Contracts.Text

/-!
This module contains the applicability expressions of a criterion, the contexts that they are evaluated in,
and the schemas of both.
-/

namespace ProofStack
namespace Evaluation

def maxApplicabilityDepth : Nat := 8
def maxApplicabilityNodes : Nat := 128
def maxApplicabilityOperands : Nat := 8
def maxApplicabilityPopulationTags : Nat := 64

inductive ApplicabilityContextField where
  | environmentId
  | jurisdiction
  | locale
  | populationTags
  | riskTier
  | taskKind
  deriving DecidableEq

def ApplicabilityContextField.text : ApplicabilityContextField → String
  | .environmentId => "environment_id"
  | .jurisdiction => "jurisdiction"
  | .locale => "locale"
  | .populationTags => "population_tags"
  | .riskTier => "risk_tier"
  | .taskKind => "task_kind"

inductive ApplicabilityEqualsField where
  | environmentId
  | jurisdiction
  | locale
  | riskTier
  | taskKind
  deriving DecidableEq

def ApplicabilityEqualsField.contextField : ApplicabilityEqualsField → ApplicabilityContextField
  | .environmentId => .environmentId
  | .jurisdiction => .jurisdiction
  | .locale => .locale
  | .riskTier => .riskTier
  | .taskKind => .taskKind

inductive ApplicabilityExpression where
  | equals (field : ApplicabilityEqualsField) (value : String)
  | contains (value : String)
  | not (operand : ApplicabilityExpression)
  | allOf (operands : List ApplicabilityExpression)
  | anyOf (operands : List ApplicabilityExpression)

structure ApplicabilityContext where
  environmentId : Option String
  jurisdiction : Option String
  locale : Option String
  populationTags : List String
  riskTier : Option String
  taskKind : Option String
  deriving DecidableEq

inductive ApplicabilityResult where
  | applicable
  | notApplicable
  | undetermined
  deriving DecidableEq

def EvaluationRiskTierSchema (value : String) : Bool :=
  ["low", "moderate", "high", "critical"].contains value

def SourceJurisdictionSchema (value : String) : Bool :=
  match value.toList with
  | [] => false
  | c :: cs =>
    isLowerAscii c
      && cs.all (fun c => isLowerAscii c || isDigitAscii c || c == '.' || c == '_' || c == '-')
      && 1 ≤ cs.length
      && cs.length ≤ 63

def hyphenParts : List Char → List (List Char)
  | [] => [[]]
  | c :: cs =>
    match hyphenParts cs with
    | [] => [[c]]
    | part :: parts => if c = '-' then [] :: part :: parts else (c :: part) :: parts

def SourceLocaleSchema (value : String) : Bool :=
  match hyphenParts value.toList with
  | [] => false
  | language :: subtags =>
    language.all isLowerAscii && 2 ≤ language.length && language.length ≤ 8
      && subtags.all (fun subtag =>
        subtag.all (fun c => isLowerAscii c || isDigitAscii c)
          && 1 ≤ subtag.length && subtag.length ≤ 8)

def ApplicabilityEqualsField.schema : ApplicabilityEqualsField → String → Bool
  | .environmentId => OpaqueIdSchema
  | .jurisdiction => SourceJurisdictionSchema
  | .locale => SourceLocaleSchema
  | .riskTier => EvaluationRiskTierSchema
  | .taskKind => OpaqueIdSchema

def ApplicabilityContextSchema (isNFC : String → Bool) (context : ApplicabilityContext) : Prop :=
  (∀ value ∈ context.environmentId, OpaqueIdSchema value)
    ∧ (∀ value ∈ context.jurisdiction, SourceJurisdictionSchema value)
    ∧ (∀ value ∈ context.locale, SourceLocaleSchema value)
    ∧ sortedUniqueStrings (AssuranceSummarySchema isNFC) 0 maxApplicabilityPopulationTags context.populationTags
    ∧ (∀ value ∈ context.riskTier, EvaluationRiskTierSchema value)
    ∧ ∀ value ∈ context.taskKind, OpaqueIdSchema value

instance (isNFC : String → Bool) (context : ApplicabilityContext)
    : Decidable (ApplicabilityContextSchema isNFC context) :=
  inferInstanceAs (Decidable (_ ∧ _))

namespace ApplicabilityExpression

@[induction_eliminator]
theorem inductionOn {P : ApplicabilityExpression → Prop}
    (equals : ∀ field value, P (.equals field value))
    (contains : ∀ value, P (.contains value))
    (not : ∀ operand, P operand → P (.not operand))
    (allOf : ∀ operands, (∀ operand ∈ operands, P operand) → P (.allOf operands))
    (anyOf : ∀ operands, (∀ operand ∈ operands, P operand) → P (.anyOf operands))
    (expression : ApplicabilityExpression)
    : P expression := by
  refine @ApplicabilityExpression.rec P (fun operands => ∀ operand ∈ operands, P operand)
    equals contains not allOf anyOf ?_ ?_ expression
  . intro operand hmem
    contradiction
  . intro operand operands hoperand hoperands operand' hmem
    rcases List.mem_cons.mp hmem with rfl | hmem
    . exact hoperand
    . exact hoperands operand' hmem

mutual

@[simp]
def nodes : ApplicabilityExpression → Nat
  | equals _ _ => 4
  | contains _ => 4
  | not operand => 2 + nodes operand
  | allOf operands => 3 + operandNodes operands
  | anyOf operands => 3 + operandNodes operands

@[simp]
def operandNodes : List ApplicabilityExpression → Nat
  | [] => 0
  | operand :: operands => nodes operand + operandNodes operands

end

mutual

@[simp]
def depth : ApplicabilityExpression → Nat
  | equals _ _ => 1
  | contains _ => 1
  | not operand => 1 + depth operand
  | allOf operands => 1 + operandDepth operands
  | anyOf operands => 1 + operandDepth operands

@[simp]
def operandDepth : List ApplicabilityExpression → Nat
  | [] => 0
  | operand :: operands => max (1 + depth operand) (operandDepth operands)

end

mutual

@[simp]
def shape (isNFC : String → Bool) : ApplicabilityExpression → Bool
  | equals field value => field.schema value
  | contains value => AssuranceSummarySchema isNFC value
  | not operand => shape isNFC operand
  | allOf operands => boundedInteger 1 maxApplicabilityOperands operands.length && operandShapes isNFC operands
  | anyOf operands => boundedInteger 1 maxApplicabilityOperands operands.length && operandShapes isNFC operands

@[simp]
def operandShapes (isNFC : String → Bool) : List ApplicabilityExpression → Bool
  | [] => true
  | operand :: operands => shape isNFC operand && operandShapes isNFC operands

end

end ApplicabilityExpression

open ApplicabilityExpression in
def ApplicabilityExpressionSchema (isNFC : String → Bool) (expression : ApplicabilityExpression) : Prop :=
  expression.nodes ≤ maxApplicabilityNodes
    ∧ expression.depth ≤ maxApplicabilityDepth
    ∧ expression.shape isNFC = true

instance (isNFC : String → Bool) (expression : ApplicabilityExpression)
    : Decidable (ApplicabilityExpressionSchema isNFC expression) :=
  inferInstanceAs (Decidable (_ ∧ _))

end Evaluation
end ProofStack
