import ProofStack.Arithmetic.DecimalText
import ProofStack.Checks
import ProofStack.Sequence.Keyed

/-!
This module contains the dependencies of the rules of a policy.
-/

namespace ProofStack
namespace RuleDependencies

open Arithmetic Sequence

inductive DependencyError where
  | observationConflict
  | referenceLimitExceeded
  | referenceBytesExceeded
  | recordClosure
  -- a walk that took more steps than it can take
  | unfinished
  deriving DecidableEq

inductive ProtocolMatch (Source : Type) where
  | retained (source : Source)
  | unavailable
  deriving DecidableEq

def ProtocolMatch.source? {Source : Type} : ProtocolMatch Source → Option Source
  | .retained source => some source
  | .unavailable => none

structure Edge (Source : Type) where
  parent : Source
  path : String
  target : Option Source
  protocolMatches : List (ProtocolMatch Source)
  deriving DecidableEq

def Edge.targets {Source : Type} (edge : Edge Source) : List Source :=
  edge.target.toList ++ edge.protocolMatches.filterMap ProtocolMatch.source?

inductive FrontierKind where
  | artifact
  | trace
  | retainedDeclaration
  | unresolvedSelector
  deriving DecidableEq

structure Occurrence where
  edgeIndex : Nat
  kind : FrontierKind
  deriving DecidableEq

structure ManifestEntry (Source Observation : Type) where
  source : Source
  observation : Observation
  deriving DecidableEq

/-- What is derived from the roots and the records again: its entries are the sources with what was observed. -/
structure RecordClosure (Source Observation : Type) where
  entries : List (ManifestEntry Source Observation)
  frontier : List Occurrence
  references : Nat
  referenceBytes : Nat
  deriving DecidableEq

structure RecordGraph (Source Observation Context : Type) where
  context : Context
  roots : List Source
  edges : List (Edge Source)
  recordClosure : RecordClosure Source Observation

structure Coordinates where
  seedEdgeIndexes : List Nat
  sourceIndexes : List Nat
  edgeIndexes : List Nat
  frontierIndexes : List Nat
  deriving DecidableEq

def sorted (values : List Nat) : List Nat :=
  values.insertionSort (· ≤ ·)

section Walk

variable {Source κ : Type} [DecidableEq Source] [DecidableEq κ] (key : Source → κ)

def indexOf (sources : List Source) (source : Source) : Except DependencyError Nat :=
  match lookup (fun row => key row.1) sources.zipIdx (key source) with
  | some row => if row.1 = source then .ok row.2 else .error .observationConflict
  | none => .error .observationConflict

/-- What a walk looks up: the sources, the edges, the indexes of the roots and of the parents of all edges,
and the frontier. -/
structure Indexes (Source : Type) where
  sources : List Source
  edges : List (Edge Source)
  roots : List Nat
  parents : List Nat
  frontier : List Occurrence

def dependencyIndexes (sources roots : List Source) (edges : List (Edge Source)) (frontier : List Occurrence)
    : Except DependencyError (Indexes Source) := do
  let roots ← roots.mapM (indexOf key sources)
  let parents ← edges.mapM (fun edge => indexOf key sources edge.parent)
  return { sources, edges, roots := roots.dedup, parents, frontier }

def byParent (parents : List Nat) (parent : Nat) : List Nat :=
  (parents.zipIdx.filter (fun row => row.1 = parent)).map Prod.snd

def frontierByEdge (frontier : List Occurrence) (edgeIndex : Nat) : Option Nat :=
  (lookup (fun row => row.1.edgeIndex) frontier.zipIdx edgeIndex).map Prod.snd

/-- The sets are lists without repetition: nothing depends on their order. -/
structure WalkState where
  pending : List Nat
  sources : List Nat
  edges : List Nat
  frontier : List Nat
  deriving DecidableEq

def visit (parents : List Nat) (state : WalkState) (child : Nat) : WalkState :=
  if child ∈ state.sources then state
  else { state with sources := state.sources.insert child, pending := state.pending ++ byParent parents child }

def visitTarget (indexes : Indexes Source) (state : WalkState) (target : Source)
    : Except DependencyError WalkState := do
  let child ← indexOf key indexes.sources target
  return visit indexes.parents state child

def walkEdge (indexes : Indexes Source) (state : WalkState) (index : Nat) (rest : List Nat)
    : Except DependencyError WalkState :=
  if index ∈ state.edges then .ok { state with pending := rest }
  else
    match indexes.edges[index]? with
    | none => .error .observationConflict
    | some edge => do
      let parent ← indexOf key indexes.sources edge.parent
      edge.targets.foldlM (visitTarget key indexes)
        { pending := rest
          sources := state.sources.insert parent
          edges := state.edges.insert index
          frontier := (frontierByEdge indexes.frontier index).elim state.frontier state.frontier.insert }

def walkLoop (indexes : Indexes Source) : Nat → WalkState → Except DependencyError WalkState
  | fuel, state =>
    match state.pending, fuel with
    | [], _ => .ok state
    | _ :: _, 0 => .error .unfinished
    | index :: rest, fuel + 1 => do
      let next ← walkEdge key indexes state index rest
      walkLoop indexes fuel next

def walk (indexes : Indexes Source) (seeds : List Nat) : Except DependencyError Coordinates := do
  let state ← walkLoop key indexes (seeds.length + indexes.edges.length)
    { pending := sorted seeds, sources := indexes.roots, edges := [], frontier := [] }
  return { seedEdgeIndexes := sorted seeds
           sourceIndexes := sorted state.sources
           edgeIndexes := sorted state.edges
           frontierIndexes := sorted state.frontier }

end Walk

inductive RuleBinding where
  | artifact (inputIndex : Nat)
  | comparison (inputIndex : Nat)
  | assessment (inputIndex : Nat)
  | approval
  deriving DecidableEq

structure RuleInput where
  ruleIndex : Nat
  ruleId : String
  binding : RuleBinding
  deriving DecidableEq

structure PolicyRuleInputs (Source Context : Type) where
  context : Context
  candidate : Source
  policy : Source
  rules : List RuleInput
  ruleIndexes : rules.map RuleInput.ruleIndex = List.range rules.length

structure ArtifactRule where
  ruleIndex : Nat
  ruleId : String
  -- the index of a component that is present
  memberIndex : Option Nat

structure ComparisonRule where
  ruleIndex : Nat
  ruleId : String

structure AssessmentRule (Source : Type) where
  ruleIndex : Nat
  ruleId : String
  source : Source

structure AssessmentMember (Source : Type) where
  source : Source
  candidateEdgeIndex : Nat

structure Reports (Source : Type) where
  -- the edges of the members of the artifact report
  artifactMembers : List Nat
  artifactRules : List ArtifactRule
  comparisonRules : List ComparisonRule
  assessmentMembers : List (AssessmentMember Source)
  assessmentRules : List (AssessmentRule Source)

def ruleOfPath (path : String) : Option Nat :=
  match (path.toList.take 7, path.toList.drop 7) with
  | (start, rest) =>
    let digits := rest.takeWhile Char.isDigit
    if start = "/rules/".toList ∧ digits ≠ [] ∧ (rest.dropWhile Char.isDigit).head? = some '/' then
      some (readNatural digits)
    else
      none

def startsWith (pathStart path : String) : Bool :=
  pathStart.toList.isPrefixOf path.toList

inductive SeedClass where
  | root
  | rule (ruleIndex : Nat)
  | comparison
  | other
  deriving DecidableEq

structure DependencyFrame where
  ruleIndex : Nat
  ruleId : String
  coordinates : Coordinates
  deriving DecidableEq

structure Usage where
  references : Nat
  referenceBytes : Nat
  deriving DecidableEq

structure ReferenceLimits where
  maxReferences : Nat
  maxReferenceBytes : Nat

/-- A value whose canonical encoding is charged. -/
inductive Charged (Source Observation Context : Type) where
  | context (value : Context)
  | entry (value : ManifestEntry Source Observation)
  | occurrence (value : Occurrence)
  | rootContext (value : Coordinates)
  | frame (value : DependencyFrame)

structure RuleDependencyClosure (Source Observation Context : Type) where
  context : Context
  sources : List (ManifestEntry Source Observation)
  frontier : List Occurrence
  rootContext : Coordinates
  rules : List DependencyFrame
  inspectionUsage : Usage
  deriving DecidableEq

section Rules

variable {Source κ Observation Context : Type} [DecidableEq Source] [DecidableEq κ] [DecidableEq Observation]
  [DecidableEq Context] (key : Source → κ)

def seedClass (policy candidate : Source) (edge : Edge Source) : SeedClass :=
  if key edge.parent = key policy then (ruleOfPath edge.path).elim .root .rule
  else if key edge.parent = key candidate then
    if startsWith "/comparisons/" edge.path then .comparison
    else if ["/assessments/", "/modelAssuranceAssessments/", "/buildArtifacts/"].any (startsWith · edge.path) then
      .other
    else .root
  else .other

def seedsOf (policy candidate : Source) (edges : List (Edge Source)) (wanted : SeedClass) : List Nat :=
  (edges.zipIdx.filter (fun row => seedClass key policy candidate row.1 = wanted)).map Prod.snd

def ruleSeeds (policy candidate : Source) (edges : List (Edge Source)) : List (Nat × Nat) :=
  edges.zipIdx.filterMap (fun row =>
    match seedClass key policy candidate row.1 with
    | .rule ruleIndex => some (ruleIndex, row.2)
    | .root | .comparison | .other => none)

def admitCharge (limits : ReferenceLimits) (bytes count : Nat) (usage : Usage) : Except DependencyError Usage :=
  if limits.maxReferences < usage.references + count then .error .referenceLimitExceeded
  else if limits.maxReferenceBytes < usage.referenceBytes + bytes then .error .referenceBytesExceeded
  else .ok ⟨usage.references + count, usage.referenceBytes + bytes⟩

def frameReferences (frame : Coordinates) : Nat :=
  1 + frame.seedEdgeIndexes.length + frame.sourceIndexes.length + frame.edgeIndexes.length
    + frame.frontierIndexes.length

def bindSeeds (reports : Reports Source) (comparisonSeeds own : List Nat) (original : RuleInput)
    : Except DependencyError (List Nat) :=
  match original.binding with
  | .comparison inputIndex =>
    match reports.comparisonRules[inputIndex]? with
    | some entry =>
      if entry.ruleIndex = original.ruleIndex ∧ entry.ruleId = original.ruleId then .ok (own ∪ comparisonSeeds)
      else .error .observationConflict
    | none => .error .observationConflict
  | .assessment inputIndex =>
    match reports.assessmentRules[inputIndex]? with
    | some entry =>
      if entry.ruleIndex = original.ruleIndex ∧ entry.ruleId = original.ruleId then
        match reports.assessmentMembers.find? (fun member => member.source = entry.source) with
        | some member => .ok (own.insert member.candidateEdgeIndex)
        | none => .ok own
      else .error .observationConflict
    | none => .error .observationConflict
  | .artifact inputIndex =>
    match reports.artifactRules[inputIndex]? with
    | some entry =>
      if entry.ruleIndex = original.ruleIndex ∧ entry.ruleId = original.ruleId then
        match entry.memberIndex with
        | some memberIndex =>
          match reports.artifactMembers[memberIndex]? with
          | some candidateEdgeIndex => .ok (own.insert candidateEdgeIndex)
          | none => .error .observationConflict
        | none => .ok own
      else .error .observationConflict
    | none => .error .observationConflict
  | .approval => .ok own

structure RulesState where
  ruleSeeds : List (Nat × Nat)
  rules : List DependencyFrame
  usage : Usage

section Derivation

variable (canonicalLength : Charged Source Observation Context → Nat)
  (deriveCapturedRecordClosure :
    RecordGraph Source Observation Context → Except DependencyError (RecordClosure Source Observation))

def deriveRule (indexes : Indexes Source) (reports : Reports Source) (comparisonSeeds : List Nat)
    (limits : ReferenceLimits) (state : RulesState) (original : RuleInput) : Except DependencyError RulesState := do
  let own := (state.ruleSeeds.filter (fun row => row.1 = original.ruleIndex)).map Prod.snd
  let seeds ← bindSeeds reports comparisonSeeds own original
  let coordinates ← walk key indexes seeds
  let frame : DependencyFrame := ⟨original.ruleIndex, original.ruleId, coordinates⟩
  let usage ← admitCharge limits (canonicalLength (.frame frame)) (frameReferences coordinates) state.usage
  return { ruleSeeds := state.ruleSeeds.filter (fun row => row.1 ≠ original.ruleIndex)
           rules := state.rules ++ [frame]
           usage }

def deriveCapturedRuleDependencies (requestContext : Context)
    (graph : RecordGraph Source Observation Context) (reports : Reports Source)
    (ruleInputs : PolicyRuleInputs Source Context) (limits : ReferenceLimits)
    : Except DependencyError (RuleDependencyClosure Source Observation Context) := do
  Checks.failIf (graph.context ≠ requestContext ∨ ruleInputs.context ≠ graph.context) .observationConflict
  let closure ← deriveCapturedRecordClosure graph
  Checks.failIf (closure ≠ graph.recordClosure) .observationConflict
  let usage ← admitCharge limits (canonicalLength (.context graph.context)) 1
    ⟨closure.references, closure.referenceBytes⟩
  let usage ← closure.entries.foldlM (fun usage entry => admitCharge limits (canonicalLength (.entry entry)) 1 usage)
    usage
  let usage ← closure.frontier.foldlM
    (fun usage occurrence => admitCharge limits (canonicalLength (.occurrence occurrence)) 1 usage) usage
  let indexes ← dependencyIndexes key (closure.entries.map ManifestEntry.source) graph.roots graph.edges
    closure.frontier
  let rootContext ← walk key indexes (seedsOf key ruleInputs.policy ruleInputs.candidate graph.edges .root)
  let usage ← admitCharge limits (canonicalLength (.rootContext rootContext)) (frameReferences rootContext) usage
  let comparisonSeeds := seedsOf key ruleInputs.policy ruleInputs.candidate graph.edges .comparison
  let state ← ruleInputs.rules.foldlM (deriveRule key canonicalLength indexes reports comparisonSeeds limits)
    ⟨ruleSeeds key ruleInputs.policy ruleInputs.candidate graph.edges, [], usage⟩
  Checks.failIf (state.ruleSeeds ≠ []) .observationConflict
  return { context := graph.context
           sources := closure.entries
           frontier := closure.frontier
           rootContext
           rules := state.rules
           inspectionUsage := state.usage }

end Derivation

end Rules

end RuleDependencies
end ProofStack
