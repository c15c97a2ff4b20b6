import Mathlib.Data.List.Basic
import Mathlib.Logic.Relation
import ProofStack.Checks

/-!
This module contains the traversal that bounds the complexity of a value before it is parsed as JSON.
-/

namespace ProofStack
namespace JsonComplexity

def maxJsonArrayItems : Nat := 256

def maxJsonDepth : Nat := 20

def maxJsonNodes : Nat := 10000

def maxJsonObjectKeys : Nat := 256

inductive Kind where
  | array
  | object
  deriving DecidableEq

/-- Nothing but the identity of an object is looked at, and nothing at all of another value. -/
inductive Value (Id : Type) where
  | primitive
  | reference (id : Id)
  deriving DecidableEq

inductive HeapObject (Id : Type) where
  | array (items : List (Value Id))
  | object (members : List (String × Value Id))
  deriving DecidableEq

abbrev Heap (Id : Type) := Id → HeapObject Id

def HeapObject.kind {Id : Type} : HeapObject Id → Kind
  | .array _ => .array
  | .object _ => .object

def HeapObject.children {Id : Type} : HeapObject Id → List (Value Id)
  | .array items => items
  | .object members => members.map Prod.snd

inductive Violation where
  | nodes
  | depth
  | circular
  | arrayItems
  | objectKeys
  deriving DecidableEq

def Violation.message : Violation → String
  | .nodes => s!"JSON values cannot contain more than {maxJsonNodes} nodes"
  | .depth => s!"JSON values cannot exceed {maxJsonDepth} levels"
  | .circular => "JSON values must not contain circular references"
  | .arrayItems => s!"JSON arrays cannot contain more than {maxJsonArrayItems} items"
  | .objectKeys => s!"JSON objects cannot contain more than {maxJsonObjectKeys} keys"

def Kind.maxChildren : Kind → Nat
  | .array => maxJsonArrayItems
  | .object => maxJsonObjectKeys

def Kind.violation : Kind → Violation
  | .array => .arrayItems
  | .object => .objectKeys

structure JsonTraversalFrame (Id : Type) where
  depth : Nat
  leaving : Bool
  value : Value Id
  deriving DecidableEq

-- the first frame of the stack is the one that is popped
structure TraversalState (Id : Type) where
  activeObjects : List Id
  stack : List (JsonTraversalFrame Id)
  visitedNodes : Nat
  deriving DecidableEq

inductive Outcome (Id : Type) where
  | stop (violation : Option Violation)
  | resume (state : TraversalState Id)

variable {Id : Type} [DecidableEq Id]

def deleteActive (activeObjects : List Id) : Value Id → List Id
  | .primitive => activeObjects
  | .reference id => activeObjects.erase id

def next (heap : Heap Id) (state : TraversalState Id) : Outcome Id :=
  match state.stack with
  | [] => .stop none
  | frame :: rest =>
    if frame.leaving then
      .resume { state with activeObjects := deleteActive state.activeObjects frame.value, stack := rest }
    else if maxJsonNodes < state.visitedNodes + 1 then .stop (some .nodes)
    else if maxJsonDepth < frame.depth then .stop (some .depth)
    else
      match frame.value with
      | .primitive => .resume { state with stack := rest, visitedNodes := state.visitedNodes + 1 }
      | .reference id =>
        if id ∈ state.activeObjects then .stop (some .circular)
        else if (heap id).kind.maxChildren < (heap id).children.length then .stop (some (heap id).kind.violation)
        else
          .resume {
            activeObjects := id :: state.activeObjects
            stack := (heap id).children.map (fun value => ⟨frame.depth + 1, false, value⟩)
              ++ { frame with leaving := true } :: rest
            visitedNodes := state.visitedNodes + 1 }

def potential (state : TraversalState Id) : Nat :=
  258 * (maxJsonNodes - state.visitedNodes) + state.stack.length

theorem maxChildren_le (kind : Kind) : kind.maxChildren ≤ 256 := by
  cases kind <;> exact Nat.le_refl 256

theorem next_eq_resume {heap : Heap Id} {state after : TraversalState Id} (h : next heap state = .resume after)
    : ∃ frame rest, state.stack = frame :: rest
        ∧ (frame.leaving = true
            ∧ after = { state with
                activeObjects := deleteActive state.activeObjects frame.value, stack := rest }
          ∨ frame.leaving = false ∧ state.visitedNodes + 1 ≤ maxJsonNodes ∧ frame.value = .primitive
            ∧ after = { state with stack := rest, visitedNodes := state.visitedNodes + 1 }
          ∨ frame.leaving = false ∧ state.visitedNodes + 1 ≤ maxJsonNodes
            ∧ ∃ id, frame.value = .reference id ∧ id ∉ state.activeObjects
              ∧ (heap id).children.length ≤ (heap id).kind.maxChildren
              ∧ after = {
                activeObjects := id :: state.activeObjects
                stack := (heap id).children.map (fun value => ⟨frame.depth + 1, false, value⟩)
                  ++ { frame with leaving := true } :: rest
                visitedNodes := state.visitedNodes + 1 }) := by
  unfold next at h
  split at h
  . cases h
  . next frame rest hstack =>
    refine ⟨frame, rest, hstack, ?_⟩
    split at h
    . next hleaving =>
      cases h
      exact .inl ⟨hleaving, rfl⟩
    . next hleaving =>
      have hentering : frame.leaving = false := Bool.eq_false_iff.mpr hleaving
      split at h
      . cases h
      . next hnodes =>
        split at h
        . cases h
        . split at h
          . next hprimitive =>
            cases h
            exact .inr (.inl ⟨hentering, by omega, hprimitive, rfl⟩)
          . next id hreference =>
            split at h
            . cases h
            . next hinactive =>
              split at h
              . cases h
              . next hwidth =>
                cases h
                exact .inr (.inr ⟨hentering, by omega, id, hreference, hinactive, by omega, rfl⟩)

theorem stack_of_next_eq_stop {heap : Heap Id} {state : TraversalState Id} (h : next heap state = .stop none)
    : state.stack = [] := by
  unfold next at h
  split at h
  . next hstack => exact hstack
  . split at h
    . cases h
    . split at h
      . cases h
      . split at h
        . cases h
        . split at h
          . cases h
          . split at h
            . cases h
            . split at h <;> cases h

theorem potential_next {heap : Heap Id} {state after : TraversalState Id} (h : next heap state = .resume after)
    : potential after < potential state := by
  obtain ⟨frame, rest, hstack, ⟨_, rfl⟩ | ⟨_, hnodes, _, rfl⟩ | ⟨_, hnodes, id, _, _, hwidth, rfl⟩⟩ :=
    next_eq_resume h
  all_goals
    unfold potential
    rw [hstack, List.length_cons]
  . dsimp only
    omega
  . dsimp only
    omega
  . have hmax := maxChildren_le (heap id).kind
    simp only [List.length_append, List.length_map, List.length_cons]
    omega

def traverse (heap : Heap Id) (state : TraversalState Id) : Option Violation :=
  match _hnext : next heap state with
  | .stop violation => violation
  | .resume after => traverse heap after
termination_by potential state
decreasing_by exact potential_next _hnext

def jsonComplexityViolation (heap : Heap Id) (value : Value Id) : Option String :=
  (traverse heap ⟨[], [⟨0, false, value⟩], 0⟩).map Violation.message

inductive JsonTree where
  | leaf
  | node (kind : Kind) (children : List JsonTree)

inductive Unfolds (heap : Heap Id) : Value Id → JsonTree → Prop where
  | primitive : Unfolds heap .primitive .leaf
  | reference (id : Id) (trees : List JsonTree) (hlength : (heap id).children.length = trees.length)
    (hchildren : ∀ pair ∈ (heap id).children.zip trees, Unfolds heap pair.1 pair.2)
    : Unfolds heap (.reference id) (.node (heap id).kind trees)

namespace JsonTree

mutual

def nodes : JsonTree → Nat
  | .leaf => 1
  | .node _ children => 1 + nodesOf children

def nodesOf : List JsonTree → Nat
  | [] => 0
  | child :: children => child.nodes + nodesOf children

end

mutual

def depth : JsonTree → Nat
  | .leaf => 0
  | .node _ children => depthOf children

def depthOf : List JsonTree → Nat
  | [] => 0
  | child :: children => max (child.depth + 1) (depthOf children)

end

mutual

def Narrow : JsonTree → Prop
  | .leaf => True
  | .node kind children => children.length ≤ kind.maxChildren ∧ NarrowAll children

def NarrowAll : List JsonTree → Prop
  | [] => True
  | child :: children => child.Narrow ∧ NarrowAll children

end

structure WithinLimits (tree : JsonTree) : Prop where
  depth_le : tree.depth ≤ maxJsonDepth
  nodes_le : tree.nodes ≤ maxJsonNodes
  narrow : tree.Narrow

def enter (depth visitedNodes : Nat) : Except Violation Nat :=
  if maxJsonNodes < visitedNodes + 1 then .error .nodes
  else if maxJsonDepth < depth then .error .depth
  else .ok (visitedNodes + 1)

mutual

def check (depth visitedNodes : Nat) : JsonTree → Except Violation Nat
  | .leaf => enter depth visitedNodes
  | .node kind children => do
    let visitedNodes ← enter depth visitedNodes
    Checks.failIf (kind.maxChildren < children.length) kind.violation
    checkAll (depth + 1) visitedNodes children

def checkAll (depth visitedNodes : Nat) : List JsonTree → Except Violation Nat
  | [] => .ok visitedNodes
  | child :: children => do
    let visitedNodes ← check depth visitedNodes child
    checkAll depth visitedNodes children

end

theorem enter_eq_ok {depth visitedNodes visited : Nat}
    : enter depth visitedNodes = .ok visited
        ↔ visited = visitedNodes + 1 ∧ visitedNodes + 1 ≤ maxJsonNodes ∧ depth ≤ maxJsonDepth := by
  unfold enter
  split
  . next hnodes =>
    simp only [reduceCtorEq, false_iff, not_and]
    omega
  . split
    . next hdepth =>
      simp only [reduceCtorEq, false_iff, not_and]
      omega
    . next hnodes hdepth =>
      rw [Except.ok.injEq]
      omega

theorem nodes_pos (tree : JsonTree) : 0 < tree.nodes := by
  cases tree with
  | leaf => exact Nat.one_pos
  | node kind children =>
    rw [nodes]
    omega

theorem nodes_le_nodesOf {child : JsonTree} {children : List JsonTree} (h : child ∈ children)
    : child.nodes ≤ nodesOf children := by
  induction children with
  | nil => cases h
  | cons first children ih =>
    rw [nodesOf]
    cases h with
    | head => omega
    | tail _ h =>
      have hle := ih h
      omega

mutual

theorem check_eq_ok (tree : JsonTree) {depth visitedNodes visited : Nat}
    : check depth visitedNodes tree = .ok visited
        ↔ visited = visitedNodes + tree.nodes ∧ visitedNodes + tree.nodes ≤ maxJsonNodes
          ∧ depth + tree.depth ≤ maxJsonDepth ∧ tree.Narrow := by
  match tree with
  | .leaf =>
    rw [check, enter_eq_ok, nodes, JsonTree.depth, Narrow]
    simp
  | .node kind children =>
    have hpos : children = [] ∨ 0 < nodesOf children := by
      cases children with
      | nil => exact .inl rfl
      | cons child children =>
        have hchild := nodes_pos child
        rw [nodesOf]
        exact .inr (by omega)
    rw [check, nodes, JsonTree.depth, Narrow]
    constructor
    . intro h
      obtain ⟨entered, henter, h⟩ := Checks.bind_eq_ok.mp h
      obtain ⟨_, hwidth, h⟩ := Checks.bind_eq_ok.mp h
      obtain ⟨rfl, hnodes, hdepth⟩ := enter_eq_ok.mp henter
      obtain ⟨rfl, hall, hdepths, hnarrow⟩ := (checkAll_eq_ok children hnodes hdepth).mp h
      have hle := Checks.failIf_eq_ok.mp hwidth
      exact ⟨by omega, by omega, hdepths, by omega, hnarrow⟩
    . rintro ⟨rfl, hnodes, hdepth, hwidth, hnarrow⟩
      have henter : enter depth visitedNodes = .ok (visitedNodes + 1) := enter_eq_ok.mpr ⟨rfl, by omega, by omega⟩
      rw [Checks.bind_of_ok henter, Checks.failIf_bind_of_false (by omega),
        checkAll_eq_ok children (by omega) (by omega)]
      exact ⟨by omega, by omega, hdepth, hnarrow⟩

theorem checkAll_eq_ok (children : List JsonTree) {depth visitedNodes visited : Nat}
    (hnodes : visitedNodes ≤ maxJsonNodes) (hdepth : depth ≤ maxJsonDepth)
    : checkAll (depth + 1) visitedNodes children = .ok visited
        ↔ visited = visitedNodes + nodesOf children ∧ visitedNodes + nodesOf children ≤ maxJsonNodes
          ∧ depth + depthOf children ≤ maxJsonDepth ∧ NarrowAll children := by
  match children with
  | [] =>
    rw [checkAll, nodesOf, depthOf, NarrowAll, Except.ok.injEq]
    simp only [Nat.add_zero, and_true]
    omega
  | child :: children =>
    rw [checkAll, nodesOf, depthOf, NarrowAll]
    constructor
    . intro h
      obtain ⟨between, hchild, h⟩ := Checks.bind_eq_ok.mp h
      obtain ⟨rfl, hfirst, hfirstDepth, hfirstNarrow⟩ := (check_eq_ok child).mp hchild
      obtain ⟨rfl, hall, hdepths, hnarrow⟩ := (checkAll_eq_ok children hfirst hdepth).mp h
      exact ⟨by omega, by omega, by omega, hfirstNarrow, hnarrow⟩
    . rintro ⟨rfl, hall, hdepths, hfirstNarrow, hnarrow⟩
      have hchild : check (depth + 1) visitedNodes child = .ok (visitedNodes + child.nodes) :=
        (check_eq_ok child).mpr ⟨rfl, by omega, by omega, hfirstNarrow⟩
      rw [Checks.bind_of_ok hchild, checkAll_eq_ok children (by omega) hdepth]
      exact ⟨by omega, by omega, by omega, hnarrow⟩

end

theorem enter_ne_circular {depth visitedNodes : Nat} : enter depth visitedNodes ≠ .error .circular := by
  unfold enter
  split
  . simp
  . split <;> simp

theorem failIf_ne_circular {condition : Prop} [Decidable condition] {kind : Kind}
    : Checks.failIf condition kind.violation ≠ .error .circular := by
  unfold Checks.failIf
  split
  . cases kind <;> simp [Kind.violation]
  . simp

mutual

theorem check_ne_circular (tree : JsonTree) {depth visitedNodes : Nat}
    : check depth visitedNodes tree ≠ .error .circular := by
  match tree with
  | .leaf =>
    rw [check]
    exact enter_ne_circular
  | .node kind children =>
    rw [check]
    intro h
    rcases Checks.bind_eq_error.mp h with h | ⟨_, _, h⟩
    . exact enter_ne_circular h
    . rcases Checks.bind_eq_error.mp h with h | ⟨_, _, h⟩
      . exact failIf_ne_circular h
      . exact checkAll_ne_circular children h

theorem checkAll_ne_circular (children : List JsonTree) {depth visitedNodes : Nat}
    : checkAll depth visitedNodes children ≠ .error .circular := by
  match children with
  | [] => exact fun h => nomatch h
  | child :: children =>
    rw [checkAll]
    intro h
    rcases Checks.bind_eq_error.mp h with h | ⟨_, _, h⟩
    . exact check_ne_circular child h
    . exact checkAll_ne_circular children h

end

end JsonTree

section Unfolding

variable {heap : Heap Id}

omit [DecidableEq Id]

theorem Unfolds.unique {value : Value Id} {left right : JsonTree} (hleft : Unfolds heap value left)
    (hright : Unfolds heap value right)
    : left = right := by
  induction hleft generalizing right with
  | primitive =>
    cases hright
    rfl
  | reference id trees hlength _ ih =>
    cases hright with
    | reference _ others hothers hchildren =>
      refine congrArg (JsonTree.node _) (List.ext_getElem (hlength.symm.trans hothers) (fun i hi hi' => ?_))
      have hchild : i < (heap id).children.length := by omega
      have hzip : i < ((heap id).children.zip trees).length := by
        rw [List.length_zip]
        omega
      have hzip' : i < ((heap id).children.zip others).length := by
        rw [List.length_zip]
        omega
      have hmem : ((heap id).children[i], trees[i]) ∈ (heap id).children.zip trees := by
        rw [← List.getElem_zip (h := hzip)]
        exact List.getElem_mem _
      have hmem' : ((heap id).children[i], others[i]) ∈ (heap id).children.zip others := by
        rw [← List.getElem_zip (h := hzip')]
        exact List.getElem_mem _
      exact ih _ hmem (hchildren _ hmem')

theorem Unfolds.child {id : Id} {tree : JsonTree} (h : Unfolds heap (.reference id) tree) {value : Value Id}
    (hvalue : value ∈ (heap id).children)
    : ∃ part, Unfolds heap value part ∧ part.nodes < tree.nodes := by
  cases h with
  | reference _ trees hlength hchildren =>
    obtain ⟨i, hi, rfl⟩ := List.mem_iff_getElem.mp hvalue
    have htree : i < trees.length := by omega
    have hzip : i < ((heap id).children.zip trees).length := by
      rw [List.length_zip]
      omega
    have hmem : ((heap id).children[i], trees[i]) ∈ (heap id).children.zip trees := by
      rw [← List.getElem_zip (h := hzip)]
      exact List.getElem_mem _
    have hle := JsonTree.nodes_le_nodesOf (List.getElem_mem htree)
    refine ⟨trees[i], hchildren _ hmem, ?_⟩
    rw [JsonTree.nodes]
    omega

end Unfolding

section Traversal

variable {heap : Heap Id}

theorem traverse_of_stop {state : TraversalState Id} {violation : Option Violation}
    (h : next heap state = .stop violation)
    : traverse heap state = violation := by
  rw [traverse]
  split
  . next other hother =>
    rw [h] at hother
    cases hother
    rfl
  . next after hafter =>
    rw [h] at hafter
    cases hafter

theorem traverse_of_resume {state after : TraversalState Id} (h : next heap state = .resume after)
    : traverse heap state = traverse heap after := by
  rw [traverse]
  split
  . next other hother =>
    rw [h] at hother
    cases hother
  . next other hother =>
    rw [h] at hother
    cases hother
    rfl

/-- What the loop does with the frames of some values in front is what the recursion does with their trees. -/
def Follows (heap : Heap Id) (activeObjects : List Id) (rest : List (JsonTraversalFrame Id))
    (frames : List (JsonTraversalFrame Id)) (visitedNodes : Nat) (result : Except Violation Nat) : Prop :=
  traverse heap ⟨activeObjects, frames ++ rest, visitedNodes⟩
    = match result with
      | .error violation => some violation
      | .ok visited => traverse heap ⟨activeObjects, rest, visited⟩

def Above (heap : Heap Id) (activeObjects : List Id) (tree : JsonTree) : Prop :=
  ∀ id ∈ activeObjects, ∃ above, Unfolds heap (.reference id) above ∧ tree.nodes < above.nodes

variable {value : Value Id}

theorem follows_enter {activeObjects : List Id} {rest : List (JsonTraversalFrame Id)} {depth visitedNodes : Nat}
    {violation : Violation} (h : JsonTree.enter depth visitedNodes = .error violation)
    : traverse heap ⟨activeObjects, ⟨depth, false, value⟩ :: rest, visitedNodes⟩ = some violation := by
  refine traverse_of_stop ?_
  unfold JsonTree.enter at h
  unfold next
  dsimp only
  rw [if_neg Bool.false_ne_true]
  split at h
  . next hnodes =>
    cases h
    rw [if_pos hnodes]
  . next hnodes =>
    split at h
    . next hdepth =>
      cases h
      rw [if_neg hnodes, if_pos hdepth]
    . cases h

theorem Follows.all {activeObjects : List Id} {depth : Nat} {values : List (Value Id)} {trees : List JsonTree}
    (hlength : values.length = trees.length)
    (h : ∀ pair ∈ values.zip trees, ∀ (visitedNodes : Nat) (rest : List (JsonTraversalFrame Id)),
      Follows heap activeObjects rest [⟨depth, false, pair.1⟩] visitedNodes
        (JsonTree.check depth visitedNodes pair.2))
    (visitedNodes : Nat) (rest : List (JsonTraversalFrame Id))
    : Follows heap activeObjects rest (values.map (fun value => ⟨depth, false, value⟩)) visitedNodes
        (JsonTree.checkAll depth visitedNodes trees) := by
  induction values generalizing trees visitedNodes with
  | nil =>
    cases trees with
    | nil =>
      unfold Follows
      rw [JsonTree.checkAll]
      rfl
    | cons tree trees => cases hlength
  | cons value values ih =>
    cases trees with
    | nil => cases hlength
    | cons tree trees =>
      have hfirst := h (value, tree) List.mem_cons_self visitedNodes
        (values.map (fun value => ⟨depth, false, value⟩) ++ rest)
      unfold Follows at hfirst ⊢
      rw [List.map_cons, List.cons_append, JsonTree.checkAll]
      refine hfirst.trans ?_
      dsimp only
      cases hcheck : JsonTree.check depth visitedNodes tree with
      | error violation => rfl
      | ok visited =>
        exact ih (Nat.succ.inj hlength) (fun pair hpair => h pair (List.mem_cons_of_mem _ hpair)) visited

theorem follows_check {tree : JsonTree} (h : Unfolds heap value tree) {activeObjects : List Id}
    (habove : Above heap activeObjects tree) (depth visitedNodes : Nat) (rest : List (JsonTraversalFrame Id))
    : Follows heap activeObjects rest [⟨depth, false, value⟩] visitedNodes
        (JsonTree.check depth visitedNodes tree) := by
  induction h generalizing activeObjects depth visitedNodes rest with
  | primitive =>
    unfold Follows
    rw [JsonTree.check]
    cases henter : JsonTree.enter depth visitedNodes with
    | error violation => exact follows_enter henter
    | ok visited =>
      obtain ⟨rfl, hnodes, hdepth⟩ := JsonTree.enter_eq_ok.mp henter
      refine traverse_of_resume ?_
      unfold next
      dsimp only [List.singleton_append]
      rw [if_neg Bool.false_ne_true, if_neg (by omega), if_neg (by omega)]
  | reference id trees hlength hchildren ih =>
    have hself : Unfolds heap (.reference id) (.node (heap id).kind trees) := .reference id trees hlength hchildren
    unfold Follows
    rw [JsonTree.check]
    cases henter : JsonTree.enter depth visitedNodes with
    | error violation => exact follows_enter henter
    | ok visited =>
      obtain ⟨rfl, hnodes, hdepth⟩ := JsonTree.enter_eq_ok.mp henter
      -- an object on the way unfolds to a greater tree, so this is none of them
      have hinactive : id ∉ activeObjects := by
        intro hmem
        obtain ⟨above, hunfolds, hlt⟩ := habove id hmem
        rw [hself.unique hunfolds] at hlt
        exact Nat.lt_irrefl _ hlt
      by_cases hwidth : (heap id).kind.maxChildren < trees.length
      . have hstop : next heap ⟨activeObjects, [⟨depth, false, .reference id⟩] ++ rest, visitedNodes⟩
            = .stop (some (heap id).kind.violation) := by
          unfold next
          dsimp only [List.singleton_append]
          rw [if_neg Bool.false_ne_true, if_neg (by omega), if_neg (by omega), if_neg hinactive,
            if_pos (by rw [hlength]; exact hwidth)]
        rw [traverse_of_stop hstop]
        simp only [Checks.failIf, if_pos hwidth]
        rfl
      . have hresume : next heap ⟨activeObjects, [⟨depth, false, .reference id⟩] ++ rest, visitedNodes⟩
            = .resume ⟨id :: activeObjects, (heap id).children.map (fun value => ⟨depth + 1, false, value⟩)
                ++ ⟨depth, true, .reference id⟩ :: rest, visitedNodes + 1⟩ := by
          unfold next
          dsimp only [List.singleton_append]
          rw [if_neg Bool.false_ne_true, if_neg (by omega), if_neg (by omega), if_neg hinactive,
            if_neg (by rw [hlength]; exact hwidth)]
        have hinner := Follows.all hlength (fun pair hpair visited others => ih pair hpair (by
          intro other hother
          have hlt : pair.2.nodes < (JsonTree.node (heap id).kind trees).nodes := by
            have hle := JsonTree.nodes_le_nodesOf (List.of_mem_zip hpair).2
            rw [JsonTree.nodes]
            omega
          rcases List.mem_cons.mp hother with rfl | hother
          . exact ⟨_, hself, hlt⟩
          . obtain ⟨above, hunfolds, habove⟩ := habove other hother
            exact ⟨above, hunfolds, Nat.lt_trans hlt habove⟩) (depth + 1) visited others)
          (visitedNodes + 1) (⟨depth, true, .reference id⟩ :: rest)
        unfold Follows at hinner
        rw [traverse_of_resume hresume, hinner]
        simp only [Checks.failIf, if_neg hwidth]
        change _ = match JsonTree.checkAll (depth + 1) (visitedNodes + 1) trees with
          | .error violation => some violation
          | .ok visited => traverse heap ⟨activeObjects, rest, visited⟩
        cases JsonTree.checkAll (depth + 1) (visitedNodes + 1) trees with
        | error violation => rfl
        | ok visited =>
          refine traverse_of_resume ?_
          unfold next
          dsimp only
          rw [if_pos rfl, deleteActive, List.erase_cons_head]

theorem message_ne_circular {violation : Violation} (h : violation ≠ .circular)
    : violation.message ≠ Violation.circular.message := by
  cases violation with
  | circular => exact absurd rfl h
  | nodes => decide
  | depth => decide
  | arrayItems => decide
  | objectKeys => decide

theorem jsonComplexityViolation_of_unfolds {tree : JsonTree} (h : Unfolds heap value tree)
    : (jsonComplexityViolation heap value = none ↔ tree.WithinLimits)
        ∧ jsonComplexityViolation heap value ≠ some Violation.circular.message := by
  have hempty : Above heap [] tree := nofun
  have hrun := follows_check h hempty 0 0 []
  unfold Follows at hrun
  have hdone : ∀ visited, traverse heap ⟨[], [], visited⟩ = none := fun visited => traverse_of_stop rfl
  have hlimits : (∃ visited, JsonTree.check 0 0 tree = .ok visited) ↔ tree.WithinLimits := by
    constructor
    . rintro ⟨visited, hcheck⟩
      obtain ⟨_, hnodes, hdepth, hnarrow⟩ := (JsonTree.check_eq_ok tree).mp hcheck
      exact ⟨by omega, by omega, hnarrow⟩
    . intro hwithin
      have hdepth := hwithin.depth_le
      have hnodes := hwithin.nodes_le
      exact ⟨0 + tree.nodes, (JsonTree.check_eq_ok tree).mpr ⟨rfl, by omega, by omega, hwithin.narrow⟩⟩
  unfold jsonComplexityViolation
  rw [← hlimits, show ([⟨0, false, value⟩] : List (JsonTraversalFrame Id)) = [⟨0, false, value⟩] ++ [] from rfl, hrun]
  cases hcheck : JsonTree.check 0 0 tree with
  | error violation =>
    have hne : violation ≠ .circular := by
      rintro rfl
      exact JsonTree.check_ne_circular tree hcheck
    constructor
    . simp
    . simpa using message_ne_circular hne
  | ok visited =>
    dsimp only
    rw [hdone]
    simp

def Contains (heap : Heap Id) (id part : Id) : Prop :=
  .reference part ∈ (heap id).children

def Cyclic (heap : Heap Id) (value : Value Id) : Prop :=
  ∃ start id, value = .reference start ∧ Relation.ReflTransGen (Contains heap) start id
    ∧ Relation.TransGen (Contains heap) id id

omit [DecidableEq Id] in
theorem Unfolds.of_transGen {id part : Id} (hparts : Relation.TransGen (Contains heap) id part) {tree : JsonTree}
    (h : Unfolds heap (.reference id) tree)
    : ∃ inner, Unfolds heap (.reference part) inner ∧ inner.nodes < tree.nodes := by
  induction hparts with
  | single hpart => exact h.child hpart
  | tail _ hpart ih =>
    obtain ⟨middle, hmiddle, hlt⟩ := ih
    obtain ⟨inner, hinner, hlt'⟩ := hmiddle.child hpart
    exact ⟨inner, hinner, Nat.lt_trans hlt' hlt⟩

omit [DecidableEq Id] in
theorem Cyclic.not_unfolds (h : Cyclic heap value) (tree : JsonTree) : ¬Unfolds heap value tree := by
  obtain ⟨start, id, rfl, hreach, hcycle⟩ := h
  intro hunfolds
  obtain ⟨tree', hid⟩ : ∃ tree', Unfolds heap (.reference id) tree' := by
    rcases Relation.reflTransGen_iff_eq_or_transGen.mp hreach with rfl | hparts
    . exact ⟨tree, hunfolds⟩
    . obtain ⟨inner, hinner, _⟩ := hunfolds.of_transGen hparts
      exact ⟨inner, hinner⟩
  obtain ⟨inner, hinner, hlt⟩ := hid.of_transGen hcycle
  rw [hinner.unique hid] at hlt
  exact Nat.lt_irrefl _ hlt

omit [DecidableEq Id] in
theorem exists_trees {values : List (Value Id)} (h : ∀ value ∈ values, ∃ tree, Unfolds heap value tree)
    : ∃ trees : List JsonTree, values.length = trees.length
        ∧ ∀ pair ∈ values.zip trees, Unfolds heap pair.1 pair.2 := by
  induction values with
  | nil => exact ⟨[], rfl, nofun⟩
  | cons value values ih =>
    obtain ⟨tree, htree⟩ := h value List.mem_cons_self
    obtain ⟨trees, hlength, htrees⟩ := ih (fun other hother => h other (List.mem_cons_of_mem _ hother))
    refine ⟨tree :: trees, congrArg Nat.succ hlength, ?_⟩
    intro pair hpair
    rw [List.zip_cons_cons, List.mem_cons] at hpair
    rcases hpair with rfl | hpair
    . exact htree
    . exact htrees pair hpair

theorem exists_unfolds_of_traverse {state : TraversalState Id} (h : traverse heap state = none)
    {frame : JsonTraversalFrame Id} (hframe : frame ∈ state.stack) (hentering : frame.leaving = false)
    : ∃ tree, Unfolds heap frame.value tree := by
  induction hpotential : potential state using Nat.strongRecOn generalizing state frame with
  | ind bound ih =>
    cases hnext : next heap state with
    | stop violation =>
      rw [traverse_of_stop hnext] at h
      subst h
      rw [stack_of_next_eq_stop hnext] at hframe
      cases hframe
    | resume after =>
      have hlt : potential after < bound := by
        rw [← hpotential]
        exact potential_next hnext
      rw [traverse_of_resume hnext] at h
      have hlater : ∀ other ∈ after.stack, other.leaving = false → ∃ tree, Unfolds heap other.value tree :=
        fun other hother hentering => ih (potential after) hlt h hother hentering rfl
      obtain ⟨first, rest, hstack, hcases⟩ := next_eq_resume hnext
      rw [hstack] at hframe
      rcases hcases with ⟨hleaving, rfl⟩ | ⟨_, _, hprimitive, rfl⟩ | ⟨_, _, id, hreference, _, _, rfl⟩
      . rcases List.mem_cons.mp hframe with rfl | hframe
        . rw [hleaving] at hentering
          cases hentering
        . exact hlater frame hframe hentering
      . rcases List.mem_cons.mp hframe with rfl | hframe
        . rw [hprimitive]
          exact ⟨.leaf, .primitive⟩
        . exact hlater frame hframe hentering
      . rcases List.mem_cons.mp hframe with rfl | hframe
        . have hchildren : ∀ value ∈ (heap id).children, ∃ tree, Unfolds heap value tree := by
            intro value hvalue
            exact hlater ⟨frame.depth + 1, false, value⟩
              (List.mem_append_left _ (List.mem_map.mpr ⟨value, hvalue, rfl⟩)) rfl
          obtain ⟨trees, hlength, htrees⟩ := exists_trees hchildren
          rw [hreference]
          exact ⟨_, .reference id trees hlength htrees⟩
        . exact hlater frame (List.mem_append_right _ (List.mem_cons_of_mem _ hframe)) hentering

theorem jsonComplexityViolation_of_cyclic (h : Cyclic heap value)
    : jsonComplexityViolation heap value ≠ none := by
  intro hnone
  unfold jsonComplexityViolation at hnone
  rw [Option.map_eq_none_iff] at hnone
  obtain ⟨tree, htree⟩ := exists_unfolds_of_traverse hnone List.mem_cons_self rfl
  exact h.not_unfolds tree htree

theorem wellFounded_next (heap : Heap Id) : WellFounded (fun after before => next heap before = .resume after) :=
  Subrelation.wf (fun h => potential_next h) (measure potential).wf

/-- The traversal ends, decides the limits of the tree that a value unfolds to, and reports every cycle. -/
theorem jsonComplexityViolation_decides_limits (heap : Heap Id)
    : WellFounded (fun after before => next heap before = .resume after)
        ∧ (∀ value tree, Unfolds heap value tree →
            (jsonComplexityViolation heap value = none ↔ tree.WithinLimits)
              ∧ jsonComplexityViolation heap value ≠ some Violation.circular.message)
        ∧ ∀ value, Cyclic heap value → jsonComplexityViolation heap value ≠ none :=
  ⟨wellFounded_next heap, fun _ _ => jsonComplexityViolation_of_unfolds, fun _ => jsonComplexityViolation_of_cyclic⟩

end Traversal

namespace ComplexitySample

-- the array 0 has the object 1 twice, and the array 2 is its own item
def heap : Heap Nat
  | 0 => .array [.reference 1, .reference 1]
  | 1 => .object [("key", .primitive)]
  | 2 => .array [.reference 2]
  | _ => .array []

def shared : JsonTree :=
  .node .array [.node .object [.leaf], .node .object [.leaf]]

theorem unfolds_one : Unfolds heap (.reference 1) (.node .object [.leaf]) := by
  refine .reference 1 _ rfl ?_
  intro pair hpair
  rw [show (heap 1).children.zip [JsonTree.leaf] = [(.primitive, .leaf)] from rfl, List.mem_singleton] at hpair
  rw [hpair]
  exact .primitive

theorem unfolds_shared : Unfolds heap (.reference 0) shared := by
  refine .reference 0 _ rfl ?_
  intro pair hpair
  rw [show (heap 0).children.zip [JsonTree.node .object [.leaf], .node .object [.leaf]]
      = [(.reference 1, .node .object [.leaf]), (.reference 1, .node .object [.leaf])] from rfl] at hpair
  simp only [List.mem_cons, List.not_mem_nil, or_false, or_self] at hpair
  rw [hpair]
  exact unfolds_one

theorem withinLimits_shared : shared.WithinLimits where
  depth_le := by decide
  nodes_le := by decide
  narrow := by simp [shared, JsonTree.Narrow, JsonTree.NarrowAll, Kind.maxChildren, maxJsonArrayItems,
    maxJsonObjectKeys]

theorem cyclic_two : Cyclic heap (.reference 2) :=
  ⟨2, 2, rfl, .refl, .single List.mem_cons_self⟩

theorem jsonComplexityViolation_decides_limits_heap
    : jsonComplexityViolation heap (.reference 0) = none ∧ jsonComplexityViolation heap (.reference 2) ≠ none := by
  obtain ⟨_, htrees, hcycles⟩ := jsonComplexityViolation_decides_limits heap
  exact ⟨(htrees _ _ unfolds_shared).1.mpr withinLimits_shared, hcycles _ cyclic_two⟩

end ComplexitySample

end JsonComplexity
end ProofStack
