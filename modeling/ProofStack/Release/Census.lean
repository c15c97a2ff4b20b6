import Mathlib.Data.String.Basic
import ProofStack.Checks
import ProofStack.Contracts.Release.ReviewerAuthority
import ProofStack.Release.VerificationBudget
import ProofStack.Sequence.Ancestry

/-!
This module contains the census of the versions of one target.
-/

namespace ProofStack
namespace Release

open Checks Sequence StateMachine

inductive CensusState where
  | complete
  | unavailable
  | invalid
  deriving DecidableEq

structure VersionCensus (Target Body : Type) where
  state : CensusState
  records : List (PublishedVersion Target Body)
  lifecycle : List (LifecycleEvent Target)

-- The terminated version is a selection that has been withdrawn or an authority that has been revoked.
inductive CapturedState where
  | current
  | unavailable
  | notEffective
  | expired
  | terminated
  | superseded
  | conflicting
  deriving DecidableEq

structure CapturedCensus (Target Body : Type) where
  state : CapturedState
  original : Option (PublishedVersion Target Body)
  active : List (PublishedVersion Target Body)
  records : List (PublishedVersion Target Body)
  lifecycle : List (LifecycleEvent Target)

inductive CensusStop where
  | invalid
  | conflicting
  deriving DecidableEq

structure EventProgress (Target : Type) where
  terminals : List (LifecycleEvent Target)
  incomplete : Bool

variable {Target Body : Type} [DecidableEq Target]

section Rows

variable [VersionContract Target Body] (encoding : VersionEncoding Target Body) (subject : VerificationSubject)
variable (scope : EvidenceScope) (reference : VersionReference Target)
variable (capturedAt : PolicyEvaluationTime)

def validateRecord (record : PublishedVersion Target Body) : Except VerificationError Unit :=
  failIf
    (¬record.Accepted encoding
      ∨ scope ≠ record.scope
      ∨ record.definitionSha256 ≠ encoding.definitionSha256 scope record.toVersionDefinition)
    (.invalid subject)

def checkRecord (record : PublishedVersion Target Body)
    : Except VerificationError (PublishedVersion Target Body) := do
  validateRecord encoding subject scope record
  failIf
    (record.logicalId ≠ reference.logicalId
      ∨ record.target ≠ reference.target
      ∨ record.publishedAt.orderKey > capturedAt.orderKey)
    (.invalid subject)
  return record

def checkLifecycleEvent (event : LifecycleEvent Target)
    : Except VerificationError (LifecycleEvent Target) := do
  failIf
    (¬event.Accepted encoding
      ∨ scope ≠ event.scope
      ∨ event.subject.logicalId ≠ reference.logicalId
      ∨ event.subject.target ≠ reference.target
      ∨ event.occurredAt.orderKey > capturedAt.orderKey)
    (.invalid subject)
  return event

end Rows

section Settle

variable (records : List (PublishedVersion Target Body))

def checkEvent (progress : EventProgress Target) (event : LifecycleEvent Target)
    : Except CensusStop (EventProgress Target) := do
  failIf
    (∃ earlier ∈ progress.terminals, earlier.subject.versionId = event.subject.versionId)
    .conflicting
  let progress := { progress with terminals := progress.terminals ++ [event] }
  match lookup (·.versionId) records event.subject.versionId with
  | none => return { progress with incomplete := true }
  | some target => do
    failIf
      (target.reference ≠ event.subject
        ∨ event.occurredAt.orderKey < target.publishedAt.orderKey)
      .invalid
    match event.successor with
    | none => return progress
    | some named =>
      match lookup (·.versionId) records named.versionId with
      | none => return { progress with incomplete := true }
      | some successor => do
        failIf
          (successor.reference ≠ named
            ∨ successor.predecessor ≠ some event.subject
            ∨ successor.publishedAt.orderKey > event.occurredAt.orderKey)
          .invalid
        return progress

def predecessors : Ancestry (PublishedVersion Target Body) String CensusStop where
  key := (·.versionId)
  named := fun record => record.predecessor.map (·.versionId)
  check := fun record parent =>
    failIf
      (some parent.reference ≠ record.predecessor
        ∨ parent.publishedAt.orderKey > record.publishedAt.orderKey)
      .invalid

-- The walks that follow an early return are not looked at.
def checkLineage (incomplete : Bool) : Except CensusStop Bool :=
  (predecessors.walks records [] records.attach).foldlM (fun incomplete walkEnd =>
    match walkEnd with
    | .ended => .ok incomplete
    | .missing => .ok true
    | .repeated => .error .conflicting
    | .failed stop => .error stop) incomplete

def activeAt (terminals : List (LifecycleEvent Target)) (capturedAt : PolicyEvaluationTime)
    (record : PublishedVersion Target Body) : Prop :=
  (∀ event ∈ terminals, event.subject.versionId ≠ record.versionId)
    ∧ record.effectiveAt.orderKey ≤ capturedAt.orderKey
    ∧ capturedAt.orderKey < record.expiresAt.orderKey

instance (terminals : List (LifecycleEvent Target)) (capturedAt : PolicyEvaluationTime)
    (record : PublishedVersion Target Body) : Decidable (activeAt terminals capturedAt record) :=
  inferInstanceAs (Decidable (_ ∧ _ ∧ _))

def decideState (terminals : List (LifecycleEvent Target)) (capturedAt : PolicyEvaluationTime)
    (original : PublishedVersion Target Body) : CapturedState × List (PublishedVersion Target Body) :=
  let active := records.filter (fun record => activeAt terminals capturedAt record)
  if active.length > 1 then
    (.conflicting, active)
  else
    match lookup (·.subject.versionId) terminals original.versionId with
    | some terminal => (if terminal.successor.isSome then .superseded else .terminated, active)
    | none =>
      if capturedAt.orderKey < original.effectiveAt.orderKey then
        (.notEffective, active)
      else if capturedAt.orderKey ≥ original.expiresAt.orderKey then
        (.expired, active)
      else
        (.current, active)

def settle (state : CensusState) (lifecycle : List (LifecycleEvent Target))
    (reference : VersionReference Target) (capturedAt : PolicyEvaluationTime)
    : Except CensusStop (CapturedState × List (PublishedVersion Target Body)) := do
  let original := lookup (·.versionId) records reference.versionId
  failIf (∃ record ∈ original, record.reference ≠ reference) .invalid
  failIf
    (¬(records.map (·.versionId)).Nodup ∨ ¬(lifecycle.map (·.eventId)).Nodup)
    .conflicting
  let progress ←
    lifecycle.foldlM (checkEvent records)
      { terminals := [], incomplete := state ≠ .complete ∨ original = none }
  let incomplete ← checkLineage records progress.incomplete
  match original with
  | none => return (.unavailable, [])
  | some original =>
    if incomplete then
      return (.unavailable, [])
    else
      return decideState records progress.terminals capturedAt original

end Settle

def resolveRows (subject : VerificationSubject) (reference : VersionReference Target)
    (capturedAt : PolicyEvaluationTime) (state : CensusState)
    (records : List (PublishedVersion Target Body)) (lifecycle : List (LifecycleEvent Target))
    : Except VerificationError (CapturedCensus Target Body) :=
  let records := sortBy (·.versionId) records
  let lifecycle := sortBy (·.eventId) lifecycle
  let original := lookup (·.versionId) records reference.versionId
  match settle records state lifecycle reference capturedAt with
  | .error .invalid => .error (.invalid subject)
  | .error .conflicting =>
    .ok { state := .conflicting, original, active := [], records, lifecycle }
  | .ok (state, active) => .ok { state, original, active, records, lifecycle }

def resolveCapturedCensus [VersionContract Target Body] (encoding : VersionEncoding Target Body)
    (subject : VerificationSubject)
    (scope : EvidenceScope) (reference : VersionReference Target) (capturedAt : PolicyEvaluationTime)
    (census : VersionCensus Target Body) : Verification (CapturedCensus Target Body) := do
  attempting
    (failIf (¬EvidenceScopeSchema scope ∨ ¬reference.Accepted Body) (.invalid subject))
  let records ← census.records.mapM (fun raw => do
    observe .metadata (encoding.recordBytes raw)
    attempting (checkRecord encoding subject scope reference capturedAt raw))
  let lifecycle ← census.lifecycle.mapM (fun raw => do
    observe .metadata (encoding.eventBytes raw)
    attempting (checkLifecycleEvent encoding subject scope reference capturedAt raw))
  attempting (resolveRows subject reference capturedAt census.state records lifecycle)

abbrev ReleaseSelectionCensus : Type :=
  VersionCensus ReleasePolicySelectionTarget ReleasePolicySelectionBody

abbrev ReleaseReviewerCensus : Type :=
  VersionCensus ReleaseReviewerAuthorityTarget ReleaseReviewerAuthorityBody

def resolveCapturedReleaseSelectionCensus
    (encoding : VersionEncoding ReleasePolicySelectionTarget ReleasePolicySelectionBody)
    (scope : EvidenceScope) (reference : ReleasePolicySelectionReference)
    (capturedAt : PolicyEvaluationTime) (census : ReleaseSelectionCensus)
    : Verification (CapturedCensus ReleasePolicySelectionTarget ReleasePolicySelectionBody) :=
  resolveCapturedCensus encoding .selectionCensus scope reference capturedAt census

def resolveCapturedReleaseReviewerCensus
    (encoding : VersionEncoding ReleaseReviewerAuthorityTarget ReleaseReviewerAuthorityBody)
    (scope : EvidenceScope) (reference : ReleaseReviewerAuthorityReference)
    (capturedAt : PolicyEvaluationTime) (census : ReleaseReviewerCensus)
    : Verification (CapturedCensus ReleaseReviewerAuthorityTarget ReleaseReviewerAuthorityBody) :=
  resolveCapturedCensus encoding .reviewerCensus scope reference capturedAt census

end Release
end ProofStack

/-!
This module contains what the resolution of a census has checked when it answers.
-/

namespace ProofStack
namespace Release

open Checks Sequence StateMachine

variable {Target Body : Type} [DecidableEq Target]
variable {records : List (PublishedVersion Target Body)} {lifecycle : List (LifecycleEvent Target)}
variable {reference : VersionReference Target} {capturedAt : PolicyEvaluationTime}

section Events

structure EventSound (records : List (PublishedVersion Target Body)) (event : LifecycleEvent Target)
    : Prop where
  target :
    ∃ target ∈ records,
      target.reference = event.subject
        ∧ target.publishedAt.orderKey ≤ event.occurredAt.orderKey
  successor :
    ∀ named ∈ event.successor, ∃ successor ∈ records,
      successor.reference = named
        ∧ successor.predecessor = some event.subject
        ∧ successor.publishedAt.orderKey ≤ event.occurredAt.orderKey

structure EventChecked (records : List (PublishedVersion Target Body))
    (progress : EventProgress Target) (event : LifecycleEvent Target) (next : EventProgress Target)
    : Prop where
  fresh : ∀ earlier ∈ progress.terminals, earlier.subject.versionId ≠ event.subject.versionId
  terminals : next.terminals = progress.terminals ++ [event]
  incomplete : progress.incomplete → next.incomplete
  sound : next.incomplete = false → EventSound records event

theorem eventChecked_of_checkEvent {progress next : EventProgress Target} {event : LifecycleEvent Target}
    (h : checkEvent records progress event = .ok next)
    : EventChecked records progress event next := by
  simp only [checkEvent, bind_eq_ok, failIf_eq_ok, not_exists, not_and] at h
  obtain ⟨_, hfresh, h⟩ := h
  split at h
  . rw [pure_eq_ok] at h
    subst h
    exact ⟨hfresh, rfl, fun _ => rfl, fun h => by contradiction⟩
  . next target htarget =>
    obtain ⟨htargetMem, _⟩ := lookup_eq_some htarget
    simp only [bind_eq_ok, failIf_eq_ok, not_or, not_not, not_lt] at h
    obtain ⟨_, htargetExact, h⟩ := h
    have hsubject : ∃ target ∈ records, target.reference = event.subject
        ∧ target.publishedAt.orderKey ≤ event.occurredAt.orderKey :=
      ⟨target, htargetMem, htargetExact⟩
    split at h
    . next hnone =>
      rw [pure_eq_ok] at h
      subst h
      exact ⟨hfresh, rfl, id, fun _ => ⟨hsubject, by simp [hnone]⟩⟩
    . next named hnamed =>
      split at h
      . rw [pure_eq_ok] at h
        subst h
        exact ⟨hfresh, rfl, fun _ => rfl, fun h => by contradiction⟩
      . next successor hsuccessor =>
        obtain ⟨hsuccessorMem, _⟩ := lookup_eq_some hsuccessor
        simp only [bind_eq_ok, failIf_eq_ok, pure_eq_ok, not_or, not_not, not_lt] at h
        obtain ⟨_, hsuccessorExact, rfl⟩ := h
        refine ⟨hfresh, rfl, id, fun _ => ⟨hsubject, ?_⟩⟩
        intro other hother
        rw [hnamed] at hother
        cases hother
        exact ⟨successor, hsuccessorMem, hsuccessorExact⟩

structure EventsChecked (records : List (PublishedVersion Target Body))
    (progress : EventProgress Target) (lifecycle : List (LifecycleEvent Target))
    (next : EventProgress Target) : Prop where
  terminals : next.terminals = progress.terminals ++ lifecycle
  incomplete : progress.incomplete → next.incomplete
  sound : next.incomplete = false → ∀ event ∈ lifecycle, EventSound records event

theorem eventsChecked_of_foldlM {progress next : EventProgress Target}
    (h : lifecycle.foldlM (checkEvent records) progress = .ok next)
    : EventsChecked records progress lifecycle next := by
  induction lifecycle generalizing progress with
  | nil =>
    cases h
    exact ⟨by simp, id, by simp⟩
  | cons event lifecycle ih =>
    simp only [List.foldlM_cons, bind_eq_ok] at h
    obtain ⟨middle, hevent, hrest⟩ := h
    have hchecked := eventChecked_of_checkEvent hevent
    have hrest := ih hrest
    constructor
    . rw [hrest.terminals, hchecked.terminals, List.append_assoc, List.singleton_append]
    . intro hincomplete
      exact hrest.incomplete (hchecked.incomplete hincomplete)
    . intro hcomplete other hother
      cases List.mem_cons.mp hother with
      | inl hevent =>
        subst hevent
        apply hchecked.sound
        cases hmiddle : middle.incomplete with
        | false => rfl
        | true =>
          rw [hrest.incomplete hmiddle] at hcomplete
          contradiction
      | inr hother => exact hrest.sound hcomplete other hother

end Events

section Lineage

theorem settled_of_foldlM {walkEnds : List (WalkEnd CensusStop)} {incomplete result : Bool}
    (h : walkEnds.foldlM (fun incomplete walkEnd =>
        match walkEnd with
        | .ended => .ok incomplete
        | .missing => .ok true
        | .repeated => .error .conflicting
        | .failed stop => .error stop) incomplete
      = Except.ok result)
    : (∀ walkEnd ∈ walkEnds, Ancestry.Settled walkEnd)
        ∧ (incomplete → result)
        ∧ (.missing ∈ walkEnds → result) := by
  induction walkEnds generalizing incomplete with
  | nil =>
    cases h
    simp
  | cons walkEnd walkEnds ih =>
    simp only [List.foldlM_cons, bind_eq_ok] at h
    obtain ⟨middle, hstep, hrest⟩ := h
    obtain ⟨hsettled, hincomplete, hmissing⟩ := ih hrest
    cases walkEnd with
    | ended =>
      cases hstep
      simp only [List.mem_cons, forall_eq_or_imp, reduceCtorEq, false_or]
      exact ⟨⟨.inl rfl, hsettled⟩, hincomplete, hmissing⟩
    | missing =>
      cases hstep
      simp only [List.mem_cons, forall_eq_or_imp, true_or, forall_const]
      exact ⟨⟨.inr rfl, hsettled⟩, fun _ => hincomplete rfl, hincomplete rfl⟩
    | repeated => contradiction
    | failed stop => contradiction

def Precedes (records : List (PublishedVersion Target Body))
    (parent record : PublishedVersion Target Body) : Prop :=
  parent ∈ records ∧ record.predecessor = some parent.reference

structure LineageSound (records : List (PublishedVersion Target Body)) : Prop where
  predecessor :
    ∀ record ∈ records, ∀ named ∈ record.predecessor, ∃ parent ∈ records,
      parent.reference = named ∧ parent.publishedAt.orderKey ≤ record.publishedAt.orderKey
  acyclic : ∀ record ∈ records, ¬Relation.TransGen (Precedes records) record record

theorem isParent_of_precedes (hnodup : (records.map (·.versionId)).Nodup)
    {parent record : PublishedVersion Target Body} (h : Precedes records parent record)
    : predecessors.IsParent records parent record := by
  obtain ⟨hmem, hpredecessor⟩ := h
  refine ⟨parent.versionId, by simp [predecessors, hpredecessor, PublishedVersion.reference], ?_⟩
  exact lookup_of_mem hnodup hmem

theorem lineageSound_of_checkLineage (hnodup : (records.map (·.versionId)).Nodup) {incomplete : Bool}
    (h : checkLineage records incomplete = .ok false)
    : incomplete = false ∧ LineageSound records := by
  obtain ⟨hsettled, hincomplete, hmissing⟩ := settled_of_foldlM h
  have hattached : ∀ record ∈ records.attach, predecessors.Walked records False record :=
    Ancestry.walked_of_walks hnodup (by simp) hsettled (fun h => by simpa using hmissing h)
  have hwalked : ∀ record ∈ records, predecessors.Walked records False record := by
    intro record hrecord
    exact hattached ⟨record, hrecord⟩ (List.mem_attach _ _)
  refine ⟨by simpa using hincomplete, ?_, ?_⟩
  . intro record hrecord named hnamed
    have hnamed : record.predecessor = some named := hnamed
    cases hlookup : lookup (·.versionId) records named.versionId with
    | none =>
      exact ((hwalked record hrecord).present named.versionId (by simp [predecessors, hnamed])
        hlookup).elim
    | some parent =>
      obtain ⟨hparent, _⟩ := lookup_eq_some hlookup
      have hchecked := (hwalked record hrecord).checked parent
        ⟨named.versionId, by simp [predecessors, hnamed], hlookup⟩
      simp only [predecessors, failIf_eq_ok, not_or, not_not, not_lt, hnamed,
        Option.some.injEq] at hchecked
      exact ⟨parent, hparent, hchecked⟩
  . intro record hrecord hcycle
    apply Ancestry.not_transGen_self (hwalked record hrecord).grounded
    exact Relation.TransGen.mono (fun _ _ h => isParent_of_precedes hnodup h) _ _ hcycle

end Lineage

section Current

structure CurrentIn (census : VersionCensus Target Body) (reference : VersionReference Target)
    (capturedAt : PolicyEvaluationTime) : Prop where
  complete : census.state = .complete
  versionIds_nodup : (census.records.map (·.versionId)).Nodup
  eventIds_nodup : (census.lifecycle.map (·.eventId)).Nodup
  current :
    ∃ record ∈ census.records,
      record.reference = reference
        ∧ record.effectiveAt.orderKey ≤ capturedAt.orderKey
        ∧ capturedAt.orderKey < record.expiresAt.orderKey
        ∧ ∀ other ∈ census.records, activeAt census.lifecycle capturedAt other → other = record
  unterminated : ∀ event ∈ census.lifecycle, event.subject.versionId ≠ reference.versionId
  events : ∀ event ∈ census.lifecycle, EventSound census.records event
  lineage : LineageSound census.records

omit [DecidableEq Target] in
theorem decideState_current {terminals : List (LifecycleEvent Target)}
    {original : PublishedVersion Target Body} {active : List (PublishedVersion Target Body)}
    (h : decideState records terminals capturedAt original = (.current, active))
    : (records.filter (fun record => activeAt terminals capturedAt record)).length ≤ 1
        ∧ activeAt terminals capturedAt original := by
  unfold decideState at h
  dsimp only at h
  split at h
  . simp at h
  . next hlength =>
    split at h
    . split at h <;> simp at h
    . next hterminal =>
      rw [lookup_eq_none] at hterminal
      split at h
      . simp at h
      . split at h
        . simp at h
        . refine ⟨by omega, hterminal, ?_⟩
          omega

theorem currentIn_of_settle {state : CensusState} {active : List (PublishedVersion Target Body)}
    (h : settle records state lifecycle reference capturedAt = .ok (.current, active))
    : CurrentIn { state, records, lifecycle } reference capturedAt := by
  simp only [settle, bind_eq_ok, failIf_eq_ok, not_or, not_not, not_exists, not_and] at h
  obtain ⟨_, horiginal, _, ⟨hversions, hevents⟩, progress, hprogress, incomplete, hlineage, h⟩ := h
  have hchecked := eventsChecked_of_foldlM hprogress
  split at h
  . rw [pure_eq_ok] at h
    simp at h
  . next original hlookup =>
    obtain ⟨hmem, hversionId⟩ := lookup_eq_some hlookup
    have hreference := horiginal original hlookup
    split at h
    . rw [pure_eq_ok] at h
      simp at h
    . next hincomplete =>
      rw [pure_eq_ok] at h
      rw [Bool.not_eq_true] at hincomplete
      rw [hincomplete] at hlineage
      obtain ⟨hcomplete, hsound⟩ := lineageSound_of_checkLineage hversions hlineage
      obtain ⟨hlength, hactive⟩ := decideState_current h
      rw [hchecked.terminals, List.nil_append] at hactive hlength
      have hstart : state = .complete := by
        by_contra hstate
        have := hchecked.incomplete (by simp [hstate])
        rw [hcomplete] at this
        contradiction
      constructor
      . exact hstart
      . exact hversions
      . exact hevents
      . refine ⟨original, hmem, hreference, hactive.2.1, hactive.2.2, ?_⟩
        intro other hother hotherActive
        have hfilter {record : PublishedVersion Target Body} (hrecord : record ∈ records)
            (hactive : activeAt lifecycle capturedAt record)
            : record ∈ records.filter (fun record => activeAt lifecycle capturedAt record) := by
          simp [hrecord, hactive]
        exact eq_of_length_le_one hlength (hfilter hother hotherActive) (hfilter hmem hactive)
      . intro event hevent
        rw [← hversionId]
        exact hactive.1 event hevent
      . exact hchecked.sound hcomplete
      . exact hsound

end Current

section Perm

variable {records' : List (PublishedVersion Target Body)} {lifecycle' : List (LifecycleEvent Target)}

omit [DecidableEq Target]

theorem EventSound.of_perm (hperm : records.Perm records') {event : LifecycleEvent Target}
    (h : EventSound records event)
    : EventSound records' event := by
  constructor
  . obtain ⟨target, hmem, htarget⟩ := h.target
    exact ⟨target, hperm.mem_iff.mp hmem, htarget⟩
  . intro named hnamed
    obtain ⟨successor, hmem, hsuccessor⟩ := h.successor named hnamed
    exact ⟨successor, hperm.mem_iff.mp hmem, hsuccessor⟩

theorem LineageSound.of_perm (hperm : records.Perm records') (h : LineageSound records)
    : LineageSound records' := by
  constructor
  . intro record hrecord named hnamed
    obtain ⟨parent, hmem, hparent⟩ := h.predecessor record (hperm.mem_iff.mpr hrecord) named hnamed
    exact ⟨parent, hperm.mem_iff.mp hmem, hparent⟩
  . intro record hrecord hcycle
    apply h.acyclic record (hperm.mem_iff.mpr hrecord)
    exact Relation.TransGen.mono (fun _ _ h => ⟨hperm.mem_iff.mpr h.1, h.2⟩) _ _ hcycle

theorem CurrentIn.of_perm {state : CensusState} (hrecords : records.Perm records')
    (hlifecycle : lifecycle.Perm lifecycle')
    (h : CurrentIn { state, records, lifecycle } reference capturedAt)
    : CurrentIn { state, records := records', lifecycle := lifecycle' } reference capturedAt := by
  constructor
  . exact h.complete
  . exact (hrecords.map _).nodup_iff.mp h.versionIds_nodup
  . exact (hlifecycle.map _).nodup_iff.mp h.eventIds_nodup
  . obtain ⟨record, hmem, hreference, heffective, hexpires, honly⟩ := h.current
    refine ⟨record, hrecords.mem_iff.mp hmem, hreference, heffective, hexpires, ?_⟩
    intro other hother hactive
    apply honly other (hrecords.mem_iff.mpr hother)
    exact ⟨fun event hevent => hactive.1 event (hlifecycle.mem_iff.mp hevent), hactive.2⟩
  . intro event hevent
    exact h.unterminated event (hlifecycle.mem_iff.mpr hevent)
  . intro event hevent
    exact (h.events event (hlifecycle.mem_iff.mpr hevent)).of_perm hrecords
  . exact h.lineage.of_perm hrecords

end Perm

section Removal

def NamedIn (census : VersionCensus Target Body) (versionId : String) : Prop :=
  (∃ record ∈ census.records, ∃ named ∈ record.predecessor, named.versionId = versionId)
    ∨ ∃ event ∈ census.lifecycle,
        event.subject.versionId = versionId
          ∨ ∃ named ∈ event.successor, named.versionId = versionId

omit [DecidableEq Target] in
theorem CurrentIn.exists_of_namedIn {census : VersionCensus Target Body} {versionId : String}
    (h : CurrentIn census reference capturedAt) (hnamed : NamedIn census versionId)
    : ∃ record ∈ census.records, record.versionId = versionId := by
  obtain ⟨record, hrecord, named, hmem, rfl⟩ | ⟨event, hevent, rfl | ⟨named, hmem, rfl⟩⟩ := hnamed
  . obtain ⟨parent, hparent, rfl, _⟩ := h.lineage.predecessor record hrecord named hmem
    exact ⟨parent, hparent, rfl⟩
  . obtain ⟨target, htarget, hreference, _⟩ := (h.events event hevent).target
    refine ⟨target, htarget, ?_⟩
    rw [← hreference]
    rfl
  . obtain ⟨successor, hsuccessor, rfl, _⟩ := (h.events event hevent).successor named hmem
    exact ⟨successor, hsuccessor, rfl⟩

end Removal

end Release
end ProofStack
