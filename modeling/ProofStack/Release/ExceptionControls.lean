import Mathlib.Data.Int.ConditionallyCompleteOrder
import Mathlib.Data.List.Enum
import Mathlib.Data.List.MinMax
import Mathlib.Order.Lattice.Nat
import ProofStack.Checks
import ProofStack.Contracts.Release.Approval
import ProofStack.Release.VerificationBudget
import ProofStack.Sequence.Keyed

/-!
This module contains the inspection of the controls that compensate for an exception.
-/

namespace ProofStack
namespace Release

open Checks Sequence StateMachine

section Inspection

structure ExceptionControlEncoding extends ReleaseApprovalEncoding where
  approvalRecordBytes : ReleaseApproval → Nat
  observationBytes : ReleaseDecisionControlObservation → Nat
  contentBytes : ControlContent → Nat
  underGuardsBytes : ControlCatalogObservation → Nat

inductive ControlState where
  | retained
  | missing
  | notInspected
  | unverified
  | changed
  | expired
  | unavailable
  deriving DecidableEq

inductive ControlsState where
  | retained
  | unavailable
  deriving DecidableEq

structure ControlRow where
  controlIndex : Nat
  reference : ArtifactContentReference
  state : ControlState
  deriving DecidableEq

structure CapturedExceptionControls where
  state : ControlsState
  observations : List ControlRow
  expiresAt : Option String
  deriving DecidableEq

structure CapturedExceptionControlInput where
  approval : ReleaseApproval
  observations : List ReleaseDecisionControlObservation
  capturedAt : PolicyEvaluationTime

variable (encoding : ExceptionControlEncoding)

def validateReleaseApprovalRecord (scope : EvidenceScope) (reference : ReleaseApprovalReference)
    (record : ReleaseApproval) : Except VerificationError ReleaseApproval := do
  failIf
    (¬record.Accepted encoding.toReleaseApprovalEncoding
      ∨ ¬EvidenceScopeSchema scope
      ∨ ¬reference.Accepted
      ∨ scope ≠ record.subject.scope
      ∨ reference ≠ record.reference
      ∨ record.definitionSha256 ≠ encoding.definitionSha256 scope record.toReleaseApprovalDefinition)
    (.invalid .exceptionControls)
  return record

def validateInput (input : CapturedExceptionControlInput) : Except VerificationError ReleaseApproval := do
  let approval ←
    validateReleaseApprovalRecord encoding input.approval.subject.scope input.approval.reference
      input.approval
  failIf
    (approval.kind ≠ .ruleException
      ∨ approval.recordedAt.orderKey > input.capturedAt.orderKey
      ∨ input.observations.length > 16)
    (.invalid .exceptionControls)
  return approval

def ObservesControl (approval : ReleaseApproval) (capturedAt : PolicyEvaluationTime)
    (source : ReleaseDecisionControlObservation) : Prop :=
  approval.compensatingControls[source.controlIndex]? = some source.reference
    ∧ source.approval = approval.reference
    ∧ source.scope = approval.subject.scope
    ∧ ∀ content ∈ source.content.content, content.completedAt.orderKey ≤ capturedAt.orderKey

instance (approval : ReleaseApproval) (capturedAt : PolicyEvaluationTime)
    (source : ReleaseDecisionControlObservation)
    : Decidable (ObservesControl approval capturedAt source) :=
  inferInstanceAs (Decidable (_ ∧ _ ∧ _ ∧ _))

def observedAt (observed : List ReleaseDecisionControlObservation) (controlIndex : Nat)
    : Option ReleaseDecisionControlObservation :=
  lookup (·.controlIndex) observed controlIndex

-- The catalog that is kept for an artifact is the one of its last observation.
def catalogRead (observed : List ReleaseDecisionControlObservation) (artifactId : String)
    : Option ReleaseDecisionControlObservation :=
  lookup (·.reference.artifactId) observed artifactId

def checkObserved (approval : ReleaseApproval) (capturedAt : PolicyEvaluationTime)
    (observed : List ReleaseDecisionControlObservation) (source : ReleaseDecisionControlObservation)
    : Except VerificationError (List ReleaseDecisionControlObservation) := do
  failIf
    (¬ObservesControl approval capturedAt source
      ∨ (observedAt observed source.controlIndex).isSome
      ∨ ∃ previous ∈ catalogRead observed source.reference.artifactId,
          previous.underGuards ≠ source.underGuards)
    (.invalid .exceptionControls)
  return observed ++ [source]

def admitObservation (admitOriginalRows : Bool) (approval : ReleaseApproval)
    (capturedAt : PolicyEvaluationTime) (observed : List ReleaseDecisionControlObservation)
    (raw : ReleaseDecisionControlObservation)
    : Verification (List ReleaseDecisionControlObservation) := do
  if admitOriginalRows then
    observe .metadata (encoding.observationBytes raw)
  attempting (failIf (¬raw.Accepted) (.invalid .exceptionControls))
  observe .metadata (encoding.contentBytes raw.content)
  observe .metadata (encoding.underGuardsBytes raw.underGuards)
  attempting (checkObserved approval capturedAt observed raw)

def AvailableBy (catalog : ArtifactCatalog) (completedAt : PolicyEvaluationTime) : Prop :=
  catalog.metadata.state = .available
    ∧ (∃ availableAt ∈ catalog.metadata.availableAt,
        timestampOrder availableAt ≤ completedAt.orderKey)
    ∧ timestampOrder catalog.metadata.createdAt ≤ completedAt.orderKey
    ∧ ∀ ownership ∈ catalog.ownership, ownership.boundAt.orderKey ≤ completedAt.orderKey

instance (catalog : ArtifactCatalog) (completedAt : PolicyEvaluationTime)
    : Decidable (AvailableBy catalog completedAt) :=
  inferInstanceAs (Decidable (_ ∧ _ ∧ _ ∧ _))

def inspectCatalog (capturedAt : PolicyEvaluationTime) (content : CapturedContent)
    (captured catalog : ArtifactCatalog) : ControlState :=
  if catalog ≠ captured then
    .changed
  else if ¬AvailableBy catalog content.completedAt then
    .unavailable
  else if
    ∃ expiresAt ∈ catalog.metadata.retention.expiresAt,
      timestampOrder expiresAt ≤ capturedAt.orderKey
  then
    .expired
  else
    .retained

def inspectControl (capturedAt : PolicyEvaluationTime)
    : Option ReleaseDecisionControlObservation → ControlState
  | none => .missing
  | some source =>
    match source.content with
    | .notInspected _ => .notInspected
    | .captured content =>
      match content.observation, content.catalog with
      | .verified _ _, some captured =>
        match source.underGuards with
        | .observed catalog => inspectCatalog capturedAt content captured catalog
        | _ => .unavailable
      | _, _ => .unverified

def ReleaseDecisionControlObservation.expiresAt (source : ReleaseDecisionControlObservation)
    : Option String :=
  source.underGuards.record.bind (·.metadata.retention.expiresAt)

def earlier (expiresAt : Option String) (expiry : String) : Option String :=
  match expiresAt with
  | none => some expiry
  | some current =>
    if timestampOrder expiry < timestampOrder current then some expiry else some current

def inspectRow (capturedAt : PolicyEvaluationTime) (observed : List ReleaseDecisionControlObservation)
    (progress : List ControlRow × Option String) (control : ArtifactContentReference × Nat)
    : List ControlRow × Option String :=
  let (reference, controlIndex) := control
  let source := observedAt observed controlIndex
  let state := inspectControl capturedAt source
  let expiry := if state = .retained then source.bind (·.expiresAt) else none
  (progress.1 ++ [{ controlIndex, reference, state }], expiry.elim progress.2 (earlier progress.2))

def inspectObserved (approval : ReleaseApproval) (capturedAt : PolicyEvaluationTime)
    (observed : List ReleaseDecisionControlObservation) : CapturedExceptionControls :=
  let (observations, expiresAt) :=
    approval.compensatingControls.zipIdx.foldl (inspectRow capturedAt observed) ([], none)
  let retained := observations ≠ [] ∧ ∀ row ∈ observations, row.state = .retained
  { state := if retained then .retained else .unavailable
    observations := observations
    expiresAt := if retained then expiresAt else none }

def inspectControls (admitOriginalRows : Bool) (input : CapturedExceptionControlInput)
    : Verification CapturedExceptionControls :=
  wrapping .exceptionControls do
    let approval ← attempting (validateInput encoding input)
    if admitOriginalRows then
      observe .approval (encoding.approvalRecordBytes approval)
    let observed ←
      input.observations.foldlM (admitObservation encoding admitOriginalRows approval input.capturedAt) []
    return inspectObserved approval input.capturedAt observed

def inspectCapturedExceptionControls (input : CapturedExceptionControlInput)
    : Verification CapturedExceptionControls :=
  inspectControls encoding true input

def inspectCapturedExceptionControlObservations (input : CapturedExceptionControlInput)
    : Verification CapturedExceptionControls :=
  inspectControls encoding false input

end Inspection

section Admission

variable {approval : ReleaseApproval} {capturedAt : PolicyEvaluationTime}
variable {observed : List ReleaseDecisionControlObservation}

/-- Two observations of the same cut: they are of different controls, and the catalog of an artifact that
both are about is read once. -/
def ControlsCompatible (left right : ReleaseDecisionControlObservation) : Prop :=
  left.controlIndex ≠ right.controlIndex
    ∧ (left.reference.artifactId = right.reference.artifactId →
        left.underGuards = right.underGuards)

instance (left right : ReleaseDecisionControlObservation) : Decidable (ControlsCompatible left right) :=
  inferInstanceAs (Decidable (_ ∧ _))

theorem ControlsCompatible.symm {left right : ReleaseDecisionControlObservation} (h : ControlsCompatible left right)
    : ControlsCompatible right left :=
  ⟨h.1.symm, fun hsame => (h.2 hsame.symm).symm⟩

instance : Std.Symm ControlsCompatible :=
  ⟨fun _ _ h => h.symm⟩

theorem underGuards_of_compatible (h : observed.Pairwise ControlsCompatible)
    {left right : ReleaseDecisionControlObservation} (hleft : left ∈ observed) (hright : right ∈ observed)
    (hsame : left.reference.artifactId = right.reference.artifactId)
    : left.underGuards = right.underGuards := by
  by_cases heq : left = right
  . rw [heq]
  . have hcompatible := h.forall hleft hright heq
    exact hcompatible.2 hsame

theorem controlIndex_nodup (h : observed.Pairwise ControlsCompatible)
    : (observed.map (·.controlIndex)).Nodup := by
  rw [List.Nodup, List.pairwise_map]
  exact h.imp (fun hcompatible => hcompatible.1)

theorem checkObserved_eq_ok (hobserved : observed.Pairwise ControlsCompatible)
    {source : ReleaseDecisionControlObservation} {next : List ReleaseDecisionControlObservation}
    : checkObserved approval capturedAt observed source = .ok next
        ↔ ObservesControl approval capturedAt source
            ∧ (∀ previous ∈ observed, ControlsCompatible previous source)
            ∧ observed ++ [source] = next := by
  simp only [checkObserved, bind_eq_ok, failIf_eq_ok, pure_eq_ok, not_or, not_not, not_exists, not_and,
    exists_const]
  constructor
  . rintro ⟨⟨hobserves, hindex, hcatalog⟩, rfl⟩
    refine ⟨hobserves, ?_, rfl⟩
    intro previous hprevious
    have hindex : observedAt observed source.controlIndex = none := by simpa using hindex
    constructor
    . exact lookup_eq_none.mp hindex previous hprevious
    . intro hsame
      cases hread : catalogRead observed source.reference.artifactId with
      | none => exact absurd hsame (lookup_eq_none.mp hread previous hprevious)
      | some last =>
        obtain ⟨hlast, hartifact⟩ := lookup_eq_some hread
        rw [underGuards_of_compatible hobserved hprevious hlast (hsame.trans hartifact.symm)]
        exact hcatalog last hread
  . rintro ⟨hobserves, hcompatible, rfl⟩
    refine ⟨⟨hobserves, ?_, ?_⟩, rfl⟩
    . have hnone : observedAt observed source.controlIndex = none :=
        lookup_eq_none.mpr (fun previous hprevious => (hcompatible previous hprevious).1)
      simp [hnone]
    . intro last hread
      obtain ⟨hlast, hartifact⟩ := lookup_eq_some hread
      exact (hcompatible last hlast).2 hartifact

def checkObservation (approval : ReleaseApproval) (capturedAt : PolicyEvaluationTime)
    (observed : List ReleaseDecisionControlObservation) (raw : ReleaseDecisionControlObservation)
    : Except VerificationError (List ReleaseDecisionControlObservation) := do
  failIf (¬raw.Accepted) (.invalid .exceptionControls)
  checkObserved approval capturedAt observed raw

structure ControlsAdmitted (approval : ReleaseApproval) (capturedAt : PolicyEvaluationTime)
    (observations : List ReleaseDecisionControlObservation) : Prop where
  accepted : ∀ source ∈ observations, source.Accepted
  observes : ∀ source ∈ observations, ObservesControl approval capturedAt source
  compatible : observations.Pairwise ControlsCompatible

theorem ControlsAdmitted.perm {observations observations' : List ReleaseDecisionControlObservation}
    (h : ControlsAdmitted approval capturedAt observations) (hperm : observations.Perm observations')
    : ControlsAdmitted approval capturedAt observations' where
  accepted := fun source hsource => h.accepted source (hperm.mem_iff.mpr hsource)
  observes := fun source hsource => h.observes source (hperm.mem_iff.mpr hsource)
  compatible := hperm.pairwise h.compatible (fun h => h.symm)

theorem pairwise_append_source {source : ReleaseDecisionControlObservation}
    (hobserved : observed.Pairwise ControlsCompatible)
    (h : ∀ previous ∈ observed, ControlsCompatible previous source)
    : (observed ++ [source]).Pairwise ControlsCompatible := by
  rw [List.pairwise_append]
  refine ⟨hobserved, List.pairwise_singleton _ _, ?_⟩
  intro previous hprevious
  exact List.forall_mem_singleton.mpr (h previous hprevious)

theorem foldlM_checkObservation {observations : List ReleaseDecisionControlObservation}
    (hobserved : observed.Pairwise ControlsCompatible) {result : List ReleaseDecisionControlObservation}
    : observations.foldlM (checkObservation approval capturedAt) observed = .ok result
        ↔ ControlsAdmitted approval capturedAt observations
            ∧ (∀ previous ∈ observed, ∀ source ∈ observations, ControlsCompatible previous source)
            ∧ observed ++ observations = result := by
  induction observations generalizing observed with
  | nil =>
    rw [List.foldlM_nil, pure_eq_ok, List.append_nil]
    constructor
    . intro h
      exact ⟨⟨by simp, by simp, .nil⟩, by simp, h⟩
    . rintro ⟨_, _, h⟩
      exact h
  | cons source observations ih =>
    simp only [List.foldlM_cons, checkObservation, bind_eq_ok, failIf_eq_ok, not_not, exists_const,
      checkObserved_eq_ok hobserved]
    constructor
    . rintro ⟨_, ⟨haccepted, hobserves, hcompatible, rfl⟩, hrest⟩
      obtain ⟨hadmitted, hcross, rfl⟩ := (ih (pairwise_append_source hobserved hcompatible)).mp hrest
      refine ⟨⟨?_, ?_, ?_⟩, ?_, by simp⟩
      . exact List.forall_mem_cons.mpr ⟨haccepted, hadmitted.accepted⟩
      . exact List.forall_mem_cons.mpr ⟨hobserves, hadmitted.observes⟩
      . exact List.pairwise_cons.mpr ⟨fun other hother => hcross source (by simp) other hother,
          hadmitted.compatible⟩
      . intro previous hprevious
        exact List.forall_mem_cons.mpr ⟨hcompatible previous hprevious,
          fun other hother => hcross previous (List.mem_append_left _ hprevious) other hother⟩
    . rintro ⟨⟨haccepted, hobserves, hpairwise⟩, hcross, rfl⟩
      rw [List.forall_mem_cons] at haccepted hobserves
      rw [List.pairwise_cons] at hpairwise
      have hcompatible : ∀ previous ∈ observed, ControlsCompatible previous source :=
        fun previous hprevious => hcross previous hprevious source (by simp)
      refine ⟨_, ⟨haccepted.1, hobserves.1, hcompatible, rfl⟩, ?_⟩
      rw [ih (pairwise_append_source hobserved hcompatible)]
      refine ⟨⟨haccepted.2, hobserves.2, hpairwise.2⟩,
        List.forall_mem_append.mpr ⟨?_, List.forall_mem_singleton.mpr hpairwise.1⟩, by simp⟩
      intro previous hprevious other hother
      exact hcross previous hprevious other (List.mem_cons_of_mem _ hother)

end Admission

section Meter

variable {encoding : ExceptionControlEncoding} {input : CapturedExceptionControlInput}
variable {budget budget' : VerificationBudget} {result : CapturedExceptionControls}

def observationCost (encoding : ExceptionControlEncoding) (raw : ReleaseDecisionControlObservation)
    : VerificationUsage :=
  observation .metadata (encoding.observationBytes raw)
    + (observation .metadata (encoding.contentBytes raw.content)
      + observation .metadata (encoding.underGuardsBytes raw.underGuards))

theorem metered_admitObservation (approval : ReleaseApproval) (capturedAt : PolicyEvaluationTime)
    (observed : List ReleaseDecisionControlObservation) (raw : ReleaseDecisionControlObservation)
    : Metered budgetTariff (admitObservation encoding true approval capturedAt observed raw)
        (observationCost encoding raw) (checkObservation approval capturedAt observed raw) := by
  unfold observationCost
  rw [← add_zero (observation _ (encoding.underGuardsBytes _)), ← zero_add (observation _ _ + (_ + 0))]
  apply (metered_observe .metadata _).andThen
  apply (Metered.attempting _).bind
  intro _ _
  apply (metered_observe .metadata _).andThen
  apply (metered_observe .metadata _).andThen
  exact Metered.attempting _

def admittedControls (input : CapturedExceptionControlInput)
    : Except VerificationError CapturedExceptionControls := do
  let observed ← input.observations.foldlM (checkObservation input.approval input.capturedAt) []
  return inspectObserved input.approval input.capturedAt observed

def controlsCost (encoding : ExceptionControlEncoding) (input : CapturedExceptionControlInput)
    : VerificationUsage :=
  observation .approval (encoding.approvalRecordBytes input.approval)
    + (input.observations.map (observationCost encoding)).sum

theorem validateInput_eq_ok {approval : ReleaseApproval} (h : validateInput encoding input = .ok approval)
    : input.approval = approval := by
  simp only [validateInput, validateReleaseApprovalRecord, bind_eq_ok, failIf_eq_ok, pure_eq_ok] at h
  obtain ⟨_, ⟨_, _, rfl⟩, _, _, rfl⟩ := h
  rfl

theorem metered_controls
    : Metered budgetTariff (inspectCapturedExceptionControls encoding input)
        (controlsCost encoding input)
        (wrapped .exceptionControls (validateInput encoding input >>= fun _ => admittedControls input)) := by
  apply metered_wrapping
  unfold controlsCost
  rw [← zero_add (_ + _)]
  apply (Metered.attempting _).bind
  intro approval happroval
  have happroval := validateInput_eq_ok happroval
  subst happroval
  apply (metered_observe .approval _).andThen
  rw [← add_zero (List.sum _)]
  apply (Metered.foldlM (fun raw _ observed => metered_admitObservation _ _ observed raw) []).bind
  intro observed _
  exact Metered.pure _

theorem open_of_inspect
    (h : inspectCapturedExceptionControls encoding input budget = .ok result budget')
    : budgetTariff.Open budget := by
  have hrun := wrapping_eq_ok.mp h
  cases hvalid : validateInput encoding input with
  | error error =>
    rw [hvalid] at hrun
    contradiction
  | ok approval =>
    rw [attempting_bind_run hvalid] at hrun
    cases hobserve : observe .approval (encoding.approvalRecordBytes approval) budget with
    | error error s =>
      rw [if_pos rfl, bind_run_error hobserve] at hrun
      contradiction
    | ok u s =>
      cases hcharge : budgetTariff.charge
        (observation .approval (encoding.approvalRecordBytes approval)) budget with
      | none =>
        obtain ⟨_, _, herror⟩ := observe_of_not_charged hcharge
        rw [hobserve] at herror
        contradiction
      | some s' => exact Tariff.open_of_charged hcharge

theorem inspectCapturedExceptionControls_eq_ok
    : inspectCapturedExceptionControls encoding input budget = .ok result budget'
        ↔ (∃ approval, validateInput encoding input = .ok approval)
            ∧ ControlsAdmitted input.approval input.capturedAt input.observations
            ∧ inspectObserved input.approval input.capturedAt input.observations = result
            ∧ budgetTariff.charge (controlsCost encoding input) budget = some budget' := by
  have hvalue : wrapped .exceptionControls
        (validateInput encoding input >>= fun _ => admittedControls input)
      = .ok result
      ↔ (∃ approval, validateInput encoding input = .ok approval)
          ∧ ControlsAdmitted input.approval input.capturedAt input.observations
          ∧ inspectObserved input.approval input.capturedAt input.observations = result := by
    simp only [wrapped_eq_ok, admittedControls, bind_eq_ok, pure_eq_ok,
      foldlM_checkObservation List.Pairwise.nil]
    simp
  constructor
  . intro h
    obtain ⟨hvalid, hadmitted, hresult⟩ := hvalue.mp (metered_controls.sound h)
    exact ⟨hvalid, hadmitted, hresult, metered_controls.spent (open_of_inspect h) h⟩
  . rintro ⟨hvalid, hadmitted, hresult, hcharge⟩
    exact metered_controls.returns (hvalue.mpr ⟨hvalid, hadmitted, hresult⟩) hcharge

end Meter

section Result

variable {capturedAt : PolicyEvaluationTime} {observed : List ReleaseDecisionControlObservation}
variable {source : ReleaseDecisionControlObservation}

/-- The content of the control has been verified, its catalog is still the captured one, it has been
available when the content was read, and it does not expire at or before the cut. -/
def RetainedControl (capturedAt : PolicyEvaluationTime) (source : ReleaseDecisionControlObservation)
    : Prop :=
  ∃ content catalog,
    source.content = .captured content
      ∧ (∃ sha256 sizeBytes, content.observation = .verified sha256 sizeBytes)
      ∧ content.catalog = some catalog
      ∧ source.underGuards = .observed catalog
      ∧ AvailableBy catalog content.completedAt
      ∧ ∀ expiresAt ∈ catalog.metadata.retention.expiresAt,
          capturedAt.orderKey < timestampOrder expiresAt

theorem inspectCatalog_eq_retained {content : CapturedContent} {captured catalog : ArtifactCatalog}
    : inspectCatalog capturedAt content captured catalog = .retained
        ↔ catalog = captured
            ∧ AvailableBy catalog content.completedAt
            ∧ ∀ expiresAt ∈ catalog.metadata.retention.expiresAt,
                capturedAt.orderKey < timestampOrder expiresAt := by
  unfold inspectCatalog
  split
  . next hne => simp [hne]
  . next heq =>
    split
    . next hunavailable => simp [hunavailable]
    . next havailable =>
      split
      . next hexpired =>
        simp only [reduceCtorEq, false_iff, not_and]
        intro _ _ hlive
        obtain ⟨expiresAt, hmem, hle⟩ := hexpired
        exact absurd (hlive expiresAt hmem) (Int.not_lt.mpr hle)
      . next hlive =>
        push Not at heq havailable hlive
        simp only [true_iff]
        exact ⟨heq, havailable, hlive⟩

theorem inspectControl_some_eq_retained
    : inspectControl capturedAt (some source) = .retained ↔ RetainedControl capturedAt source := by
  unfold inspectControl RetainedControl
  dsimp only
  cases source.content with
  | notInspected reason => simp
  | captured content =>
    simp only [ControlContent.captured.injEq, exists_and_left, exists_eq_left']
    cases content.observation with
    | missing => simp
    | unavailable reason => simp
    | verified sha256 sizeBytes =>
      cases content.catalog with
      | none => simp
      | some captured =>
        cases source.underGuards with
        | missing => simp
        | unavailable => simp
        | invalid observedRecordSha256 => simp
        | observed catalog =>
          simp only [inspectCatalog_eq_retained]
          simp only [Option.some.injEq, ControlCatalogObservation.observed.injEq, exists_eq_left',
            ArtifactObservation.verified.injEq, exists_and_left, exists_eq', true_and]
          constructor
          . rintro ⟨rfl, hcatalog⟩
            exact ⟨rfl, hcatalog⟩
          . rintro ⟨rfl, hcatalog⟩
            exact ⟨rfl, hcatalog⟩

theorem inspectControl_none : inspectControl capturedAt none ≠ .retained := by
  simp [inspectControl]

theorem foldl_earlier (expiries : List String)
    : expiries.foldl earlier none = expiries.argmin timestampOrder := by
  unfold List.argmin
  congr
  funext current expiry
  cases current <;> rfl

def controlRow (capturedAt : PolicyEvaluationTime) (observed : List ReleaseDecisionControlObservation)
    (control : ArtifactContentReference × Nat) : ControlRow where
  controlIndex := control.2
  reference := control.1
  state := inspectControl capturedAt (observedAt observed control.2)

def rowExpiry (capturedAt : PolicyEvaluationTime) (observed : List ReleaseDecisionControlObservation)
    (control : ArtifactContentReference × Nat) : Option String :=
  if (controlRow capturedAt observed control).state = .retained then
    (observedAt observed control.2).bind (·.expiresAt)
  else
    none

theorem foldl_inspectRow (controls : List (ArtifactContentReference × Nat)) (rows : List ControlRow)
    (expiresAt : Option String)
    : controls.foldl (inspectRow capturedAt observed) (rows, expiresAt)
        =
      (rows ++ controls.map (controlRow capturedAt observed),
        (controls.filterMap (rowExpiry capturedAt observed)).foldl earlier expiresAt) := by
  induction controls generalizing rows expiresAt with
  | nil => simp
  | cons control controls ih =>
    rw [List.foldl_cons, List.map_cons, List.filterMap_cons]
    have hstep : inspectRow capturedAt observed (rows, expiresAt) control
        = (rows ++ [controlRow capturedAt observed control],
            (rowExpiry capturedAt observed control).elim expiresAt (earlier expiresAt)) :=
      rfl
    rw [hstep, ih, List.append_assoc, List.singleton_append]
    cases rowExpiry capturedAt observed control <;> rfl

theorem inspectObserved_eq (approval : ReleaseApproval)
    : inspectObserved approval capturedAt observed
        =
      let rows := approval.compensatingControls.zipIdx.map (controlRow capturedAt observed)
      let expiries := approval.compensatingControls.zipIdx.filterMap (rowExpiry capturedAt observed)
      let retained := rows ≠ [] ∧ ∀ row ∈ rows, row.state = .retained
      { state := if retained then .retained else .unavailable
        observations := rows
        expiresAt := if retained then expiries.argmin timestampOrder else none } := by
  unfold inspectObserved
  rw [foldl_inspectRow, foldl_earlier]
  rfl

theorem controlRow_retained (h : observed.Pairwise ControlsCompatible) (control : ArtifactContentReference × Nat)
    : (controlRow capturedAt observed control).state = .retained
        ↔ ∃ source ∈ observed, source.controlIndex = control.2 ∧ RetainedControl capturedAt source := by
  unfold controlRow
  dsimp only
  cases hsource : observedAt observed control.2 with
  | none =>
    simp only [inspectControl_none, false_iff, not_exists, not_and]
    intro source hmem hindex
    exact absurd hindex (lookup_eq_none.mp hsource source hmem)
  | some found =>
    obtain ⟨hfound, hindex⟩ := lookup_eq_some hsource
    rw [inspectControl_some_eq_retained]
    constructor
    . intro hretained
      exact ⟨found, hfound, hindex, hretained⟩
    . rintro ⟨source, hmem, hsame, hretained⟩
      rw [eq_of_key (controlIndex_nodup h) hfound hmem (hindex.trans hsame.symm)]
      exact hretained

theorem RetainedControl.after (h : RetainedControl capturedAt source) {expiry : String}
    (hexpiry : source.expiresAt = some expiry)
    : capturedAt.orderKey < timestampOrder expiry := by
  obtain ⟨content, catalog, _, _, _, hguards, _, hlive⟩ := h
  apply hlive
  rw [ReleaseDecisionControlObservation.expiresAt, hguards] at hexpiry
  exact hexpiry

def AllRetained (approval : ReleaseApproval) (capturedAt : PolicyEvaluationTime)
    (observed : List ReleaseDecisionControlObservation) : Prop :=
  approval.compensatingControls ≠ []
    ∧ ∀ index < approval.compensatingControls.length,
        ∃ source ∈ observed, source.controlIndex = index ∧ RetainedControl capturedAt source

variable {approval : ReleaseApproval}

theorem rows_retained (h : observed.Pairwise ControlsCompatible)
    : (approval.compensatingControls.zipIdx.map (controlRow capturedAt observed) ≠ []
          ∧ ∀ row ∈ approval.compensatingControls.zipIdx.map (controlRow capturedAt observed),
              row.state = .retained)
        ↔ AllRetained approval capturedAt observed := by
  unfold AllRetained
  rw [List.forall_mem_map, List.forall_mem_zipIdx']
  simp only [controlRow_retained h]
  simp

theorem mem_expiries (hadmitted : ControlsAdmitted approval capturedAt observed)
    (hretained : AllRetained approval capturedAt observed) {expiry : String}
    : expiry ∈ approval.compensatingControls.zipIdx.filterMap (rowExpiry capturedAt observed)
        ↔ ∃ source ∈ observed, source.expiresAt = some expiry := by
  have hnodup := controlIndex_nodup hadmitted.compatible
  rw [List.mem_filterMap]
  constructor
  . rintro ⟨control, _, hexpiry⟩
    unfold rowExpiry at hexpiry
    split at hexpiry
    . rw [Option.bind_eq_some_iff] at hexpiry
      obtain ⟨source, hsource, hexpiry⟩ := hexpiry
      exact ⟨source, (lookup_eq_some hsource).1, hexpiry⟩
    . contradiction
  . rintro ⟨source, hsource, hexpiry⟩
    obtain ⟨hbelow, _⟩ :=
      List.getElem?_eq_some_iff.mp (hadmitted.observes source hsource).1
    refine ⟨(source.reference, source.controlIndex), ?_, ?_⟩
    . rw [List.mem_zipIdx_iff_getElem?]
      exact (hadmitted.observes source hsource).1
    . have hstate : (controlRow capturedAt _ (source.reference, source.controlIndex)).state = .retained :=
        (controlRow_retained hadmitted.compatible (source.reference, source.controlIndex)).mpr
          (hretained.2 source.controlIndex hbelow)
      unfold rowExpiry
      rw [if_pos hstate]
      dsimp only
      rw [observedAt, lookup_of_mem hnodup hsource, Option.bind_some, hexpiry]

structure EarliestExpiry (capturedAt : PolicyEvaluationTime)
    (observed : List ReleaseDecisionControlObservation) (expiresAt : Option String) : Prop where
  none_iff : expiresAt = none ↔ ∀ source ∈ observed, source.expiresAt = none
  mem : ∀ expiry ∈ expiresAt, ∃ source ∈ observed, source.expiresAt = some expiry
  minimal :
    ∀ expiry ∈ expiresAt, ∀ source ∈ observed, ∀ other ∈ source.expiresAt,
      timestampOrder expiry ≤ timestampOrder other
  after : ∀ expiry ∈ expiresAt, capturedAt.orderKey < timestampOrder expiry

theorem earliestExpiry_of_retained (hadmitted : ControlsAdmitted approval capturedAt observed)
    (hretained : AllRetained approval capturedAt observed)
    : EarliestExpiry capturedAt observed
        ((approval.compensatingControls.zipIdx.filterMap (rowExpiry capturedAt observed)).argmin
          timestampOrder) where
  none_iff := by
    rw [List.argmin_eq_none, List.eq_nil_iff_forall_not_mem]
    simp only [mem_expiries hadmitted hretained, not_exists, not_and]
    constructor
    . intro h source hsource
      rw [Option.eq_none_iff_forall_ne_some]
      intro expiry hexpiry
      exact h expiry source hsource hexpiry
    . intro h expiry source hsource hexpiry
      rw [h source hsource] at hexpiry
      contradiction
  mem := by
    intro expiry hexpiry
    exact (mem_expiries hadmitted hretained).mp (List.argmin_mem hexpiry)
  minimal := by
    intro expiry hexpiry source hsource other hother
    have hmem := (mem_expiries hadmitted hretained).mpr ⟨source, hsource, hother⟩
    exact List.le_of_mem_argmin hmem hexpiry
  after := by
    intro expiry hexpiry
    obtain ⟨source, hsource, hexpires⟩ :=
      (mem_expiries hadmitted hretained).mp (List.argmin_mem hexpiry)
    obtain ⟨hbelow, _⟩ := List.getElem?_eq_some_iff.mp (hadmitted.observes source hsource).1
    obtain ⟨other, hother, hindex, hretained⟩ := hretained.2 source.controlIndex hbelow
    rw [eq_of_key (controlIndex_nodup hadmitted.compatible) hother hsource hindex] at hretained
    exact hretained.after hexpires

theorem inspectObserved_perm {observed' : List ReleaseDecisionControlObservation}
    (h : observed.Pairwise ControlsCompatible) (hperm : observed.Perm observed')
    : inspectObserved approval capturedAt observed = inspectObserved approval capturedAt observed' := by
  have hlookup : observedAt observed = observedAt observed' := by
    funext index
    exact lookup_perm (controlIndex_nodup h) hperm index
  rw [inspectObserved_eq, inspectObserved_eq]
  unfold rowExpiry controlRow
  rw [hlookup]

end Result

section Contract

variable {encoding : ExceptionControlEncoding} {input : CapturedExceptionControlInput}
variable {budget budget' : VerificationBudget} {result : CapturedExceptionControls}

/-- The controls are retained exactly when the approval declares some and each of them has an
observation that retains it. The expiry that is then reported is the earliest one, and what is returned
does not depend on the order of the observations. -/
theorem exceptionControls_contract
    (h : inspectCapturedExceptionControls encoding input budget = .ok result budget')
    : (result.state = .retained
          ↔ AllRetained input.approval input.capturedAt input.observations)
        ∧ (result.state = .retained →
            EarliestExpiry input.capturedAt input.observations result.expiresAt)
        ∧ (result.state ≠ .retained → result.expiresAt = none)
        ∧ ∀ observations, observations.Perm input.observations →
            inspectCapturedExceptionControls encoding { input with observations } budget
              = .ok result budget' := by
  obtain ⟨⟨approval, hvalid⟩, hadmitted, hresult, hcharge⟩ :=
    inspectCapturedExceptionControls_eq_ok.mp h
  have hstate : result.state = .retained
      ↔ AllRetained input.approval input.capturedAt input.observations := by
    rw [← rows_retained hadmitted.compatible, ← hresult, inspectObserved_eq]
    dsimp only
    split
    . next hrows => exact iff_of_true rfl hrows
    . next hrows => exact iff_of_false (by simp) hrows
  refine ⟨hstate, ?_, ?_, ?_⟩
  . intro hretained
    have hall := hstate.mp hretained
    have hearliest := earliestExpiry_of_retained hadmitted hall
    rw [← hresult, inspectObserved_eq]
    dsimp only
    rw [if_pos ((rows_retained hadmitted.compatible).mpr hall)]
    exact hearliest
  . intro hunavailable
    rw [ne_eq, hstate, ← rows_retained hadmitted.compatible] at hunavailable
    rw [← hresult, inspectObserved_eq]
    dsimp only
    rw [if_neg hunavailable]
  . intro observations hperm
    rw [inspectCapturedExceptionControls_eq_ok]
    refine ⟨⟨approval, ?_⟩, hadmitted.perm hperm.symm, ?_, ?_⟩
    . rw [← hvalid]
      unfold validateInput
      rw [hperm.length_eq]
    . rw [← hresult]
      exact (inspectObserved_perm hadmitted.compatible hperm.symm).symm
    . rw [← hcharge]
      unfold controlsCost
      rw [(hperm.map _).sum_eq]

namespace ControlSample

def sampleDigest : String :=
  String.ofList (List.replicate 64 'a')

def sampleTime (seconds : Nat) (h : seconds ≤ 86400) : PolicyEvaluationTime where
  seconds := seconds
  digits := 3
  fraction := 0
  le_seconds := PolicyEvaluationTime.le_of_firstDay h
  seconds_le := PolicyEvaluationTime.of_firstDay_le h
  digits_le := PolicyEvaluationTime.millisecondDigits_le
  fraction_lt := PolicyEvaluationTime.wholeSecond_lt

theorem sampleReviewed_le : 5 ≤ 86400 := by
  decide

theorem sampleRecorded_le : 10 ≤ 86400 := by
  decide

theorem sampleExpires_le : 900 ≤ 86400 := by
  decide

def sampleScope : EvidenceScope :=
  ⟨"env", "prj", "ten"⟩

def sampleEncoding : ExceptionControlEncoding where
  isNFC := fun _ => true
  intentBytes := fun _ => 1024
  definitionBytes := fun _ => 2048
  definitionSha256 := fun _ _ => sampleDigest
  approvalRecordBytes := fun _ => 2048
  observationBytes := fun _ => 1024
  contentBytes := fun _ => 256
  underGuardsBytes := fun _ => 256

def sampleControl (artifactId : String) : ArtifactContentReference :=
  ⟨artifactId, .internal, "text/csv", none, sampleDigest, 64⟩

def sampleApproval : ReleaseApproval where
  approvalId := "apr"
  kind := .ruleException
  action := .approve
  subject :=
    { scope := sampleScope
      selection := ⟨"sel", "ver", sampleDigest, ⟨"ins", "gat"⟩⟩
      candidate := ⟨"can", "ver", sampleDigest⟩
      policy := ⟨sampleDigest, "pol", "ver"⟩
      request := ⟨sampleDigest, "req"⟩
      snapshot := ⟨"snp", sampleDigest⟩
      evaluation := ⟨"evl", sampleDigest⟩
      jobId := "job"
      ruleId := "rul" }
  rationale := "Guarded."
  conditions := []
  compensatingControls := [sampleControl "one", sampleControl "two"]
  declaredConflicts := []
  expiresAt := sampleTime 900 sampleExpires_le
  supersedes := none
  reviewer := ⟨"rev", sampleTime 5 sampleReviewed_le, "crd", "req"⟩
  authority :=
    ⟨"aut", "ver", sampleDigest, ⟨"ins", "gat", "rev"⟩⟩
  recordedAt := sampleTime 10 sampleRecorded_le
  definitionSha256 := sampleDigest

def sampleCatalog (artifactId : String) (retention : CatalogRetention) : ArtifactCatalog where
  metadata :=
    { contentReference := sampleControl artifactId
      createdAt := "1970-01-01T00:00:01Z"
      availableAt := some "1970-01-01T01:00:02+01:00"
      tombstonedAt := none
      purgedAt := none
      redaction := .notRequired
      retention := retention
      scope := sampleScope
      state := .available }
  ownership := none
  recordSha256 := sampleDigest

def sampleObservation (artifactId : String) (controlIndex : Nat) (retention : CatalogRetention)
    : ReleaseDecisionControlObservation where
  approval := sampleApproval.reference
  controlIndex := controlIndex
  scope := sampleScope
  reference := sampleControl artifactId
  content :=
    .captured
      { startedAt := sampleTime 20 (by decide)
        completedAt := sampleTime 30 (by decide)
        catalog := some (sampleCatalog artifactId retention)
        observation := .verified sampleDigest 64 }
  underGuards := .observed (sampleCatalog artifactId retention)

def sampleInput : CapturedExceptionControlInput where
  approval := sampleApproval
  observations :=
    [ sampleObservation "one" 0 .retain,
      sampleObservation "two" 1 (.expire "1970-01-01T00:10:00Z") ]
  capturedAt := sampleTime 60 (by decide)

def sampleBudget : VerificationBudget where
  limits := ⟨16, 65536, 16⟩
  usage := 0
  failed := none

theorem sampleDigest_accepted : Sha256Schema sampleDigest = true :=
  sha256Schema_replicate rfl

theorem sampleApproval_accepted : sampleApproval.Accepted sampleEncoding.toReleaseApprovalEncoding := by
  have hdigest := sampleDigest_accepted
  refine ⟨⟨⟨by decide, ?_, by decide, by decide, ?_, by decide, by decide, by decide, nofun⟩, by decide,
    ⟨by decide, by decide, hdigest, by decide⟩⟩, hdigest, by decide⟩
  . exact ⟨by decide, ⟨by decide, by decide, hdigest, by decide⟩, ⟨by decide, by decide, hdigest⟩,
      ⟨hdigest, by decide, by decide⟩, ⟨hdigest, by decide⟩, ⟨by decide, hdigest⟩, ⟨by decide, hdigest⟩,
      by decide, by decide⟩
  . exact List.forall_mem_cons.mpr ⟨⟨by decide, by decide, hdigest, by decide⟩,
      List.forall_mem_singleton.mpr ⟨by decide, by decide, hdigest, by decide⟩⟩

theorem sampleObservation_shape {artifactId : String} {controlIndex : Nat} {retention : CatalogRetention}
    (hindex : controlIndex ≤ 15) (hcontrol : (sampleControl artifactId).Accepted)
    (hmetadata : (sampleCatalog artifactId retention).metadata.Accepted)
    : (sampleObservation artifactId controlIndex retention).Shape := by
  have happroval : OpaqueIdSchema "apr" := by decide
  have hscope : EvidenceScopeSchema sampleScope := by decide
  have hcatalog : (sampleCatalog artifactId retention).Accepted := by
    refine ⟨hmetadata, ?_, sampleDigest_accepted⟩
    rintro _ ⟨⟩
  refine ⟨⟨happroval, sampleDigest_accepted⟩, hindex, hscope, hcontrol, ?_, ?_, hcatalog⟩
  . rintro _ ⟨⟩ _ ⟨⟩
    exact hcatalog
  . rintro _ ⟨⟩
    exact ⟨sampleDigest_accepted, by decide⟩

theorem sampleControls_admitted
    : ControlsAdmitted sampleApproval sampleInput.capturedAt sampleInput.observations := by
  have hone : (sampleControl "one").Accepted := ⟨by decide, by decide, sampleDigest_accepted, by decide⟩
  have htwo : (sampleControl "two").Accepted := ⟨by decide, by decide, sampleDigest_accepted, by decide⟩
  constructor
  case accepted =>
    refine List.forall_mem_cons.mpr ⟨⟨sampleObservation_shape (by decide) hone ?_, ?_⟩,
      List.forall_mem_singleton.mpr ⟨sampleObservation_shape (by decide) htwo ?_, ?_⟩⟩
    . exact ⟨hone, by decide, by decide, trivial, by decide, by decide, by decide, rfl⟩
    . decide
    . exact ⟨htwo, by decide, by decide, by decide, by decide, by decide, by decide, rfl⟩
    . decide
  all_goals decide

theorem exceptionControls_contract_sampleInput
    : AllRetained sampleApproval sampleInput.capturedAt sampleInput.observations
        ∧ EarliestExpiry sampleInput.capturedAt sampleInput.observations
            (some "1970-01-01T00:10:00Z")
        ∧ ∃ result budget',
            result.state = .retained
              ∧ inspectCapturedExceptionControls sampleEncoding
                  { sampleInput with observations := sampleInput.observations.reverse } sampleBudget
                = .ok result budget' := by
  have hvalid : validateInput sampleEncoding sampleInput = .ok sampleApproval := by
    simp only [validateInput, validateReleaseApprovalRecord, bind_eq_ok, failIf_eq_ok, pure_eq_ok, not_or, not_not]
    have happroval : sampleInput.approval.reference.Accepted := ⟨by decide, sampleDigest_accepted⟩
    exact ⟨_, ⟨(), ⟨sampleApproval_accepted, by decide, happroval, trivial, trivial, rfl⟩, rfl⟩, (), by decide, rfl⟩
  have hresult : inspectObserved sampleApproval sampleInput.capturedAt sampleInput.observations
      = { state := .retained
          observations :=
            [ ⟨0, sampleControl "one", .retained⟩,
              ⟨1, sampleControl "two", .retained⟩ ]
          expiresAt := some "1970-01-01T00:10:00Z" } := by
    decide
  have hinspect := inspectCapturedExceptionControls_eq_ok.mpr
    ⟨⟨_, hvalid⟩, sampleControls_admitted, hresult, (rfl : budgetTariff.charge _ sampleBudget = some _)⟩
  obtain ⟨hstate, hexpiry, _, hperm⟩ := exceptionControls_contract hinspect
  refine ⟨hstate.mp rfl, hexpiry rfl, _, _, rfl, hperm _ ?_⟩
  apply List.reverse_perm

end ControlSample

end Contract

end Release
end ProofStack
