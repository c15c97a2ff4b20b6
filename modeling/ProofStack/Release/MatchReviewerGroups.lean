import Mathlib.Data.List.Sort
import Mathlib.Data.Rat.Defs
import ProofStack.Assignment.Hungarian
import ProofStack.Contracts.Release.PolicySelection

/-!
This module contains the assignment of distinct reviewers to distinct reviewer groups.
-/

namespace ProofStack
namespace Release

def maxReleaseQuorumReviewers : Nat := maxReleaseDecisionApprovalReads

inductive InvalidReviewerGroupGraphError where
  | invalidReviewerGroupGraph
  deriving DecidableEq, Repr

structure Reviewer where
  principalId : String
  groupIds : List String
  human : Bool
  deriving DecidableEq, Repr

structure ReviewerGroupAssignmentInput where
  groupIds : List String
  reviewers : List Reviewer
  quorum : Rat
  humanGroupIds : List String

structure ReviewerGroupGraph where
  groupIds : List String
  reviewers : List Reviewer
  quorum : Nat
  humanGroupIds : List String
  deriving DecidableEq, Repr

inductive ReviewerGroupAssignmentStatus where
  | matched
  | shortfall
  deriving DecidableEq, Repr

structure MatchedReviewer where
  principalId : String
  groupId : String
  humanGroup : Bool
  deriving DecidableEq, Repr

structure ReviewerGroupAssignment where
  status : ReviewerGroupAssignmentStatus
  matched : List MatchedReviewer
  deriving DecidableEq, Repr

def ids (value : List String) (minimum maximum : Nat)
    : Except InvalidReviewerGroupGraphError (List String) :=
  if value.length < minimum
      ∨ value.length > maximum
      ∨ ¬(value.all OpaqueIdSchema)
      ∨ ¬value.Nodup then
    throw .invalidReviewerGroupGraph
  else
    return value.insertionSort (· ≤ ·)

def parseReviewer (raw : Reviewer) : Except InvalidReviewerGroupGraphError Reviewer := do
  if ¬OpaqueIdSchema raw.principalId then
    throw .invalidReviewerGroupGraph
  let groupIds ← ids raw.groupIds 0 maxPolicyApprovalGroups
  return { raw with groupIds := groupIds }

def parse (value : ReviewerGroupAssignmentInput)
    : Except InvalidReviewerGroupGraphError ReviewerGroupGraph := do
  let groupIds ← ids value.groupIds 1 maxPolicyApprovalGroups
  let humanGroupIds ← ids value.humanGroupIds 0 maxPolicyApprovalGroups
  if humanGroupIds.any (fun id => !groupIds.contains id)
      ∨ value.quorum.den ≠ 1
      ∨ value.quorum < 1
      ∨ value.quorum > groupIds.length
      ∨ value.reviewers.length > maxReleaseQuorumReviewers then
    throw .invalidReviewerGroupGraph
  let reviewers ← value.reviewers.mapM parseReviewer
  let reviewers := reviewers.insertionSort (fun left right => left.principalId ≤ right.principalId)
  if ¬(reviewers.map (·.principalId)).Nodup then
    throw .invalidReviewerGroupGraph
  return {
    groupIds := groupIds
    reviewers := reviewers
    quorum := value.quorum.num.toNat
    humanGroupIds := humanGroupIds }

namespace ReviewerGroupGraph

variable (graph : ReviewerGroupGraph)

def rows : Nat := graph.groupIds.length

def columns : Nat :=
  graph.reviewers.length
    + max (graph.rows - graph.quorum) (graph.rows - graph.reviewers.length)

def group (row : Nat) : String := graph.groupIds.getD (row - 1) ""

def humanGroup (reviewer : Reviewer) (group : String) : Bool :=
  reviewer.human && graph.humanGroupIds.contains group

def cost (row column : Nat) : Int :=
  match graph.reviewers[column - 1]? with
  | none => 0
  | some reviewer =>
    if !reviewer.groupIds.contains (graph.group row) then
      graph.rows + 1
    else if graph.humanGroup reviewer (graph.group row) then
      -1
    else
      0

def matchedAt (owner : Nat → Nat) (column : Nat) : Option MatchedReviewer :=
  let row := owner column
  match graph.reviewers[column - 1]? with
  | none => none
  | some reviewer =>
    if row = 0 then
      none
    else if !reviewer.groupIds.contains (graph.group row) then
      none
    else
      some {
        principalId := reviewer.principalId
        groupId := graph.group row
        humanGroup := graph.humanGroup reviewer (graph.group row) }

def matched (owner : Nat → Nat) : List MatchedReviewer :=
  let matched := (List.range' 1 graph.reviewers.length).filterMap (graph.matchedAt owner)
  matched.insertionSort (fun left right => left.groupId ≤ right.groupId)

def status (matched : List MatchedReviewer) : ReviewerGroupAssignmentStatus :=
  if matched.length ≥ graph.quorum
      ∧ (graph.humanGroupIds.length = 0 ∨ matched.any (·.humanGroup)) then
    .matched
  else
    .shortfall

end ReviewerGroupGraph

def matchDistinctReviewerGroups (fuel : Nat) (input : ReviewerGroupAssignmentInput)
    : Option (Except InvalidReviewerGroupGraphError ReviewerGroupAssignment) :=
  match parse input with
  | .error e => some (.error e)
  | .ok graph =>
    match Assignment.Hungarian.run graph.cost graph.rows graph.columns fuel with
    | none => none
    | some s =>
      let matched := graph.matched s.owner
      some (.ok { status := graph.status matched, matched := matched })

end Release
end ProofStack
