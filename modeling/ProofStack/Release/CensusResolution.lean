import ProofStack.Release.Census

/-!
This module contains the answers of the census resolvers.
-/

namespace ProofStack
namespace Release

open Checks Sequence StateMachine

variable {Target Body : Type} [DecidableEq Target] [VersionContract Target Body]
variable {encoding : VersionEncoding Target Body} {subject : VerificationSubject}
variable {scope : EvidenceScope} {reference : VersionReference Target}
variable {capturedAt : PolicyEvaluationTime} {census : VersionCensus Target Body}

section Value

structure RecordAdmitted (encoding : VersionEncoding Target Body) (scope : EvidenceScope)
    (reference : VersionReference Target) (capturedAt : PolicyEvaluationTime)
    (record : PublishedVersion Target Body) : Prop where
  accepted : record.Accepted encoding
  sameScope : scope = record.scope
  definitionSha256 :
    record.definitionSha256 = encoding.definitionSha256 scope record.toVersionDefinition
  logicalId : record.logicalId = reference.logicalId
  target : record.target = reference.target
  published : record.publishedAt.orderKey ≤ capturedAt.orderKey

structure EventAdmitted (encoding : VersionEncoding Target Body) (scope : EvidenceScope)
    (reference : VersionReference Target) (capturedAt : PolicyEvaluationTime)
    (event : LifecycleEvent Target) : Prop where
  accepted : event.Accepted encoding
  sameScope : scope = event.scope
  logicalId : event.subject.logicalId = reference.logicalId
  target : event.subject.target = reference.target
  occurred : event.occurredAt.orderKey ≤ capturedAt.orderKey

theorem checkRecord_eq_ok {record result : PublishedVersion Target Body}
    : checkRecord encoding subject scope reference capturedAt record = .ok result
        ↔ RecordAdmitted encoding scope reference capturedAt record ∧ record = result := by
  simp only [checkRecord, validateRecord, bind_eq_ok, failIf_eq_ok, pure_eq_ok, not_or, not_not,
    not_lt]
  constructor
  . rintro ⟨_, ⟨haccepted, hscope, hdigest⟩, _, ⟨hlogicalId, htarget, hpublished⟩, rfl⟩
    exact ⟨⟨haccepted, hscope, hdigest, hlogicalId, htarget, hpublished⟩, rfl⟩
  . rintro ⟨h, rfl⟩
    exact ⟨(), ⟨h.accepted, h.sameScope, h.definitionSha256⟩, (), ⟨h.logicalId, h.target, h.published⟩, rfl⟩

theorem checkLifecycleEvent_eq_ok {event result : LifecycleEvent Target}
    : checkLifecycleEvent encoding subject scope reference capturedAt event = .ok result
        ↔ EventAdmitted encoding scope reference capturedAt event ∧ event = result := by
  simp only [checkLifecycleEvent, bind_eq_ok, failIf_eq_ok, pure_eq_ok, not_or, not_not, not_lt]
  constructor
  . rintro ⟨_, ⟨haccepted, hscope, hlogicalId, htarget, hoccurred⟩, rfl⟩
    exact ⟨⟨haccepted, hscope, hlogicalId, htarget, hoccurred⟩, rfl⟩
  . rintro ⟨h, rfl⟩
    exact ⟨(), ⟨h.accepted, h.sameScope, h.logicalId, h.target, h.occurred⟩, rfl⟩

structure RowsAdmitted (encoding : VersionEncoding Target Body) (scope : EvidenceScope)
    (reference : VersionReference Target) (capturedAt : PolicyEvaluationTime)
    (census : VersionCensus Target Body) : Prop where
  scopeAccepted : EvidenceScopeSchema scope
  referenceAccepted : reference.Accepted Body
  records : ∀ record ∈ census.records, RecordAdmitted encoding scope reference capturedAt record
  lifecycle : ∀ event ∈ census.lifecycle, EventAdmitted encoding scope reference capturedAt event

def censusValue (encoding : VersionEncoding Target Body) (subject : VerificationSubject)
    (scope : EvidenceScope) (reference : VersionReference Target) (capturedAt : PolicyEvaluationTime)
    (census : VersionCensus Target Body) : Except VerificationError (CapturedCensus Target Body) := do
  failIf (¬EvidenceScopeSchema scope ∨ ¬reference.Accepted Body) (.invalid subject)
  let records ← census.records.mapM (checkRecord encoding subject scope reference capturedAt)
  let lifecycle ←
    census.lifecycle.mapM (checkLifecycleEvent encoding subject scope reference capturedAt)
  resolveRows subject reference capturedAt census.state records lifecycle

def censusCost (encoding : VersionEncoding Target Body) (census : VersionCensus Target Body)
    : VerificationUsage :=
  (census.records.map (fun record => observation .metadata (encoding.recordBytes record))).sum
    + (census.lifecycle.map (fun event => observation .metadata (encoding.eventBytes event))).sum

theorem metered_observe_attempting {α : Type} (bytes : Nat) (value : Except VerificationError α)
    : Metered budgetTariff
        (do
          observe .metadata bytes
          attempting value)
        (observation .metadata bytes) value := by
  have h := (metered_observe .metadata bytes).bind (fun _ _ => Metered.attempting value)
  rw [add_zero] at h
  exact h

theorem metered_resolveCapturedCensus
    : Metered budgetTariff (resolveCapturedCensus encoding subject scope reference capturedAt census)
        (censusCost encoding census) (censusValue encoding subject scope reference capturedAt census) := by
  unfold censusCost
  rw [← zero_add (_ + _), ← add_zero (census.lifecycle.map _).sum]
  apply (Metered.attempting _).bind
  intro _ _
  apply (Metered.mapM (fun record _ => metered_observe_attempting _ _)).bind
  intro _ _
  apply (Metered.mapM (fun event _ => metered_observe_attempting _ _)).bind
  intro _ _
  exact Metered.attempting _

theorem censusValue_of_admitted (h : RowsAdmitted encoding scope reference capturedAt census)
    : censusValue encoding subject scope reference capturedAt census
        =
      resolveRows subject reference capturedAt census.state census.records census.lifecycle := by
  have hrecords : census.records.mapM (checkRecord encoding subject scope reference capturedAt)
      = .ok census.records := by
    rw [mapM_eq_ok_self (fun _ _ h => (checkRecord_eq_ok.mp h).2.symm)]
    exact ⟨rfl, fun record hrecord => checkRecord_eq_ok.mpr ⟨h.records record hrecord, rfl⟩⟩
  have hlifecycle : census.lifecycle.mapM
        (checkLifecycleEvent encoding subject scope reference capturedAt)
      = .ok census.lifecycle := by
    rw [mapM_eq_ok_self (fun _ _ h => (checkLifecycleEvent_eq_ok.mp h).2.symm)]
    exact ⟨rfl, fun event hevent => checkLifecycleEvent_eq_ok.mpr ⟨h.lifecycle event hevent, rfl⟩⟩
  have hinput : failIf (¬EvidenceScopeSchema scope ∨ ¬reference.Accepted Body)
        (VerificationError.invalid subject)
      = .ok () := by
    rw [failIf_eq_ok]
    simp [h.scopeAccepted, h.referenceAccepted]
  unfold censusValue
  rw [bind_of_ok hinput, bind_of_ok hrecords, bind_of_ok hlifecycle]

theorem admitted_of_censusValue {captured : CapturedCensus Target Body}
    (h : censusValue encoding subject scope reference capturedAt census = .ok captured)
    : RowsAdmitted encoding scope reference capturedAt census := by
  simp only [censusValue, bind_eq_ok, failIf_eq_ok, not_or, not_not] at h
  obtain ⟨_, ⟨hscope, hreference⟩, _, hrecords, _, hlifecycle, _⟩ := h
  rw [mapM_eq_ok_self (fun _ _ h => (checkRecord_eq_ok.mp h).2.symm)] at hrecords
  rw [mapM_eq_ok_self (fun _ _ h => (checkLifecycleEvent_eq_ok.mp h).2.symm)] at hlifecycle
  constructor
  . exact hscope
  . exact hreference
  . intro record hrecord
    exact (checkRecord_eq_ok.mp (hrecords.2 record hrecord)).1
  . intro event hevent
    exact (checkLifecycleEvent_eq_ok.mp (hlifecycle.2 event hevent)).1

end Value

section Sample

def sampleDigest (c : Char) : String := String.ofList (List.replicate 64 c)

def sampleTime (seconds : Nat) (h : seconds ≤ 86400) : PolicyEvaluationTime where
  seconds := seconds
  digits := 3
  fraction := 0
  le_seconds := PolicyEvaluationTime.le_of_firstDay h
  seconds_le := PolicyEvaluationTime.of_firstDay_le h
  digits_le := PolicyEvaluationTime.millisecondDigits_le
  fraction_lt := PolicyEvaluationTime.wholeSecond_lt

def sampleScope : EvidenceScope := ⟨"env_one", "project_one", "tenant_one"⟩

def sampleCut : PolicyEvaluationTime := sampleTime 100 (by decide)

def sampleSelectionEncoding
    : VersionEncoding ReleasePolicySelectionTarget ReleasePolicySelectionBody where
  isNFC := fun _ => true
  definitionBytes := fun _ => 1024
  definitionSha256 := fun _ definition =>
    if definition.body.rationale = "The gate is observed." then sampleDigest 'a' else sampleDigest 'b'
  recordBytes := fun _ => 2048
  eventBytes := fun _ => 512

def sampleSelection (rationale digest : String) : ReleasePolicySelection where
  logicalId := "selection_one"
  versionId := "version_one"
  target := ⟨"installation_one", "gate_one"⟩
  scope := sampleScope
  issuerPrincipalId := "operator_one"
  body :=
    { candidateTarget :=
        { environmentId := "env_one"
          jurisdiction := none
          locale := none
          maximumDataClassification := .internal
          populationTags := []
          purpose := "Summaries."
          riskTier := .low
          taskKind := "summary" }
      mode := .observationOnly
      policies := []
      authorizedPublisherPrincipalIds := ["operator_one"]
      authorityEvidence := ⟨"artifact_one", .internal, "text/plain", none, sampleDigest 'c', 64⟩
      rationale }
  effectiveAt := sampleTime 10 (by decide)
  expiresAt := sampleTime 900 (by decide)
  predecessor := none
  definitionSha256 := digest
  publishedAt := sampleTime 5 (by decide)
  publishedByPrincipalId := "operator_one"

def sampleObserved : ReleasePolicySelection :=
  sampleSelection "The gate is observed." (sampleDigest 'a')

-- The other record has the same version identifier and another definition.
def sampleSubstituted : ReleasePolicySelection :=
  sampleSelection "The gate is observed again." (sampleDigest 'b')

def sampleCensus (records : List ReleasePolicySelection) : ReleaseSelectionCensus :=
  ⟨.complete, records, []⟩

def sampleBudget : VerificationBudget :=
  ⟨⟨16, 65536, 16⟩, 0, none⟩

theorem admitted_sampleObserved
    : RecordAdmitted sampleSelectionEncoding sampleScope sampleObserved.reference sampleCut
        sampleObserved :=
  ⟨by decide, rfl, by decide, rfl, rfl, by decide⟩

theorem admitted_sampleSubstituted
    : RecordAdmitted sampleSelectionEncoding sampleScope sampleObserved.reference sampleCut
        sampleSubstituted :=
  ⟨by decide, rfl, by decide, rfl, rfl, by decide⟩

theorem admitted_sampleCensus {records : List ReleasePolicySelection}
    (h : ∀ record ∈ records, record = sampleObserved ∨ record = sampleSubstituted)
    : RowsAdmitted sampleSelectionEncoding sampleScope sampleObserved.reference sampleCut
        (sampleCensus records) where
  scopeAccepted := by decide
  referenceAccepted := by decide
  records := by
    intro record hrecord
    obtain rfl | rfl := h record hrecord
    . exact admitted_sampleObserved
    . exact admitted_sampleSubstituted
  lifecycle := by
    intro event hevent
    cases hevent

end Sample

section Current

def AnswersCurrent
    (resolve : VersionReference Target → PolicyEvaluationTime → VersionCensus Target Body →
      Verification (CapturedCensus Target Body))
    (reference : VersionReference Target) (cut : PolicyEvaluationTime)
    (census : VersionCensus Target Body) (budget : VerificationBudget) : Prop :=
  ∃ captured budget',
    resolve reference cut census budget = .ok captured budget' ∧ captured.state = .current

omit [VersionContract Target Body] in
theorem settle_of_resolveRows {state : CensusState} {records : List (PublishedVersion Target Body)}
    {lifecycle : List (LifecycleEvent Target)} {captured : CapturedCensus Target Body}
    (h : resolveRows subject reference capturedAt state records lifecycle = .ok captured)
    (hcurrent : captured.state = .current)
    : ∃ active,
        settle (sortBy (·.versionId) records) state (sortBy (·.eventId) lifecycle) reference capturedAt
          =
        .ok (.current, active) := by
  unfold resolveRows at h
  dsimp only at h
  split at h
  . contradiction
  . cases h
    contradiction
  . next settled active hsettle =>
    cases h
    dsimp only at hcurrent
    subst hcurrent
    exact ⟨active, hsettle⟩

theorem currentIn_of_answersCurrent {budget : VerificationBudget}
    (h : AnswersCurrent (resolveCapturedCensus encoding subject scope) reference capturedAt census
      budget)
    : CurrentIn census reference capturedAt := by
  obtain ⟨captured, budget', hrun, hcurrent⟩ := h
  have hvalue := metered_resolveCapturedCensus.sound hrun
  rw [censusValue_of_admitted (admitted_of_censusValue hvalue)] at hvalue
  obtain ⟨active, hsettle⟩ := settle_of_resolveRows hvalue hcurrent
  exact (currentIn_of_settle hsettle).of_perm (sortBy_perm _ _) (sortBy_perm _ _)

/-- The resolver answers and its answer is not current whenever something speaks against the version. -/
structure FailsClosed
    (resolve : VersionReference Target → PolicyEvaluationTime → VersionCensus Target Body →
      Verification (CapturedCensus Target Body)) : Prop where
  terminates (reference : VersionReference Target) (cut : PolicyEvaluationTime)
      (census : VersionCensus Target Body) (budget : VerificationBudget) :
    (∃ captured budget', resolve reference cut census budget = .ok captured budget')
      ∨ ∃ error budget', resolve reference cut census budget = .error error budget'
  current (reference : VersionReference Target) (cut : PolicyEvaluationTime)
      (census : VersionCensus Target Body) (budget : VerificationBudget) :
    AnswersCurrent resolve reference cut census budget → CurrentIn census reference cut
  event_added (reference : VersionReference Target) (cut : PolicyEvaluationTime)
      (census : VersionCensus Target Body) (budget : VerificationBudget)
      (before after : List (LifecycleEvent Target)) (event : LifecycleEvent Target) :
    event.subject.versionId = reference.versionId →
      ¬AnswersCurrent resolve reference cut
        { census with lifecycle := before ++ event :: after } budget
  record_removed (reference : VersionReference Target) (cut : PolicyEvaluationTime)
      (census : VersionCensus Target Body) (budget budget' : VerificationBudget)
      (before after : List (PublishedVersion Target Body)) (record : PublishedVersion Target Body) :
    census.records = before ++ record :: after →
      NamedIn { census with records := before ++ after } record.versionId →
        AnswersCurrent resolve reference cut census budget →
          ¬AnswersCurrent resolve reference cut { census with records := before ++ after } budget'

theorem failsClosed_resolveCapturedCensus
    : FailsClosed (resolveCapturedCensus encoding subject scope) where
  terminates := by
    intro reference cut census budget
    cases resolveCapturedCensus encoding subject scope reference cut census budget with
    | ok captured budget' => exact .inl ⟨captured, budget', rfl⟩
    | error error budget' => exact .inr ⟨error, budget', rfl⟩
  current := by
    intro reference cut census budget h
    exact currentIn_of_answersCurrent h
  event_added := by
    intro reference cut census budget before after event hsubject h
    exact (currentIn_of_answersCurrent h).unterminated event (by simp) hsubject
  record_removed := by
    intro reference cut census budget budget' before after record hrecords hnamed hcurrent h
    obtain ⟨other, hother, hversionId⟩ := (currentIn_of_answersCurrent h).exists_of_namedIn hnamed
    have hnodup := (currentIn_of_answersCurrent hcurrent).versionIds_nodup
    rw [hrecords, List.map_append, List.map_cons, List.nodup_middle, List.nodup_cons,
      ← List.map_append] at hnodup
    apply hnodup.1
    rw [← hversionId]
    exact List.mem_map_of_mem hother

/-- Both resolvers answer that a version is current only if nothing speaks against it. -/
theorem resolveCapturedReleaseCensus_failsClosed
    (selectionEncoding : VersionEncoding ReleasePolicySelectionTarget ReleasePolicySelectionBody)
    (reviewerEncoding : VersionEncoding ReleaseReviewerAuthorityTarget ReleaseReviewerAuthorityBody)
    (scope : EvidenceScope)
    : FailsClosed (resolveCapturedReleaseSelectionCensus selectionEncoding scope)
        ∧ FailsClosed (resolveCapturedReleaseReviewerCensus reviewerEncoding scope) :=
  ⟨failsClosed_resolveCapturedCensus, failsClosed_resolveCapturedCensus⟩

theorem settle_sampleObserved
    : settle [sampleObserved] .complete [] sampleObserved.reference sampleCut
        =
      .ok (.current, [sampleObserved]) := by
  have hlineage : checkLineage [sampleObserved] false = .ok false := by
    simp [checkLineage, Ancestry.walks, Ancestry.walk, predecessors, sampleObserved, sampleSelection]
  refine (bind_of_ok (a := ()) (by decide)).trans ?_
  refine (bind_of_ok (a := ()) (by decide)).trans ?_
  refine (bind_of_ok (a := (⟨[], false⟩ : EventProgress ReleasePolicySelectionTarget)) rfl).trans ?_
  refine (bind_of_ok hlineage).trans ?_
  decide

theorem answersCurrent_sampleCensus
    : AnswersCurrent (resolveCapturedReleaseSelectionCensus sampleSelectionEncoding sampleScope)
        sampleObserved.reference sampleCut (sampleCensus [sampleObserved]) sampleBudget := by
  have hvalue : censusValue sampleSelectionEncoding .selectionCensus sampleScope
        sampleObserved.reference sampleCut (sampleCensus [sampleObserved])
      = .ok ⟨.current, some sampleObserved, [sampleObserved], [sampleObserved], []⟩ := by
    rw [censusValue_of_admitted (admitted_sampleCensus (by simp))]
    unfold resolveRows
    dsimp only [sampleCensus]
    rw [show sortBy (·.versionId) [sampleObserved] = [sampleObserved] from rfl,
      show sortBy (·.eventId) ([] : List ReleasePolicySelectionLifecycleEvent) = [] from rfl,
      settle_sampleObserved]
    rfl
  exact ⟨_, _, metered_resolveCapturedCensus.returns hvalue rfl, rfl⟩

theorem resolveCapturedReleaseCensus_failsClosed_sampleCensus
    : CurrentIn (sampleCensus [sampleObserved]) sampleObserved.reference sampleCut :=
  (resolveCapturedReleaseCensus_failsClosed sampleSelectionEncoding
      ⟨fun _ => true, fun _ => 1024, fun _ _ => sampleDigest 'a', fun _ => 2048, fun _ => 512⟩
      sampleScope).1.current _ _ _ _ answersCurrent_sampleCensus

end Current

section Order

structure SameRows (census census' : VersionCensus Target Body) : Prop where
  state : census'.state = census.state
  records : census'.records.Perm census.records
  lifecycle : census'.lifecycle.Perm census.lifecycle

def outcome
    (result : EStateM.Result VerificationError VerificationBudget (CapturedCensus Target Body))
    : Except VerificationError CapturedState :=
  match result with
  | .ok captured _ => .ok captured.state
  | .error error _ => .error error

def SufficientBudget (encoding : VersionEncoding Target Body) (census : VersionCensus Target Body)
    (budget : VerificationBudget) : Prop :=
  budget.failed = none ∧ (budget.usage + censusCost encoding census).Within budget.limits

def OrderIndependent
    (resolve : VersionCensus Target Body → Verification (CapturedCensus Target Body))
    (census : VersionCensus Target Body) (budget : VerificationBudget) : Prop :=
  ∀ census', SameRows census census' → outcome (resolve census' budget) = outcome (resolve census budget)

def AgreeOn (records : List (PublishedVersion Target Body)) (reference : VersionReference Target)
    : Prop :=
  ∀ record ∈ records, ∀ other ∈ records,
    record.versionId = reference.versionId → other.versionId = reference.versionId →
      record.reference = reference → other.reference = reference

def OriginalDiffers (records : List (PublishedVersion Target Body)) (reference : VersionReference Target)
    : Prop :=
  ∃ original, lookup (·.versionId) records reference.versionId = some original
    ∧ original.reference ≠ reference

instance (records : List (PublishedVersion Target Body)) (reference : VersionReference Target)
    : Decidable (OriginalDiffers records reference) :=
  inferInstanceAs (Decidable (∃ _ ∈ lookup _ records reference.versionId, _))

variable {census' : VersionCensus Target Body} {budget : VerificationBudget}

omit [DecidableEq Target] [VersionContract Target Body] in
theorem censusCost_sameRows (h : SameRows census census')
    : censusCost encoding census' = censusCost encoding census := by
  unfold censusCost
  rw [(h.records.map _).sum_eq, (h.lifecycle.map _).sum_eq]

omit [DecidableEq Target] [VersionContract Target Body] in
theorem SufficientBudget.of_sameRows (hbudget : SufficientBudget encoding census budget)
    (h : SameRows census census')
    : SufficientBudget encoding census' budget := by
  unfold SufficientBudget
  rw [censusCost_sameRows h]
  exact hbudget

omit [DecidableEq Target] in
theorem RowsAdmitted.of_sameRows (hadmitted : RowsAdmitted encoding scope reference capturedAt census)
    (h : SameRows census census')
    : RowsAdmitted encoding scope reference capturedAt census' where
  scopeAccepted := hadmitted.scopeAccepted
  referenceAccepted := hadmitted.referenceAccepted
  records := by
    intro record hrecord
    exact hadmitted.records record (h.records.mem_iff.mp hrecord)
  lifecycle := by
    intro event hevent
    exact hadmitted.lifecycle event (h.lifecycle.mem_iff.mp hevent)

omit [DecidableEq Target] [VersionContract Target Body] in
theorem SameRows.symm (h : SameRows census census') : SameRows census' census :=
  ⟨h.state.symm, h.records.symm, h.lifecycle.symm⟩

theorem outcome_resolveCapturedCensus (hbudget : SufficientBudget encoding census budget)
    : outcome (resolveCapturedCensus encoding subject scope reference capturedAt census budget)
        =
      (censusValue encoding subject scope reference capturedAt census).map (·.state) := by
  have hcharge : ∃ budget', budgetTariff.charge (censusCost encoding census) budget = some budget' := by
    refine ⟨{ budget with usage := budget.usage + censusCost encoding census }, ?_⟩
    exact if_pos hbudget
  obtain ⟨budget', hcharge⟩ := hcharge
  have hmetered : Metered budgetTariff
      (resolveCapturedCensus encoding subject scope reference capturedAt census)
      (censusCost encoding census) (censusValue encoding subject scope reference capturedAt census) :=
    metered_resolveCapturedCensus
  cases hvalue : censusValue encoding subject scope reference capturedAt census with
  | ok captured =>
    rw [hmetered.returns hvalue hcharge]
    rfl
  | error error =>
    obtain ⟨_, hthrows⟩ := hmetered.throws hvalue hcharge
    rw [hthrows]
    rfl

variable {records : List (PublishedVersion Target Body)}
variable {lifecycle : List (LifecycleEvent Target)}
variable {state : CensusState}

omit [VersionContract Target Body] in
theorem onlyThrows_resolveRows
    : OnlyThrows (.invalid subject)
        (resolveRows subject reference capturedAt state records lifecycle) := by
  intro thrown h
  unfold resolveRows at h
  dsimp only at h
  split at h
  . cases h
    rfl
  . contradiction
  . contradiction

theorem onlyThrows_censusValue
    : OnlyThrows (.invalid subject)
        (censusValue encoding subject scope reference capturedAt census) := by
  apply OnlyThrows.bind (OnlyThrows.failIf _)
  intro _
  apply OnlyThrows.bind
  . apply OnlyThrows.mapM
    intro record
    exact (OnlyThrows.failIf _).bind (fun _ => (OnlyThrows.failIf _).bind (fun _ => OnlyThrows.pure _))
  . intro records
    apply OnlyThrows.bind
    . apply OnlyThrows.mapM
      intro event
      exact (OnlyThrows.failIf _).bind (fun _ => OnlyThrows.pure _)
    . intro lifecycle
      exact onlyThrows_resolveRows

theorem censusValue_of_not_admitted (h : ¬RowsAdmitted encoding scope reference capturedAt census)
    : censusValue encoding subject scope reference capturedAt census = .error (.invalid subject) := by
  apply onlyThrows_censusValue.eq_error
  intro captured hvalue
  exact h (admitted_of_censusValue hvalue)

omit [VersionContract Target Body] in
theorem settle_of_repeated
    (h : ¬(records.map (·.versionId)).Nodup ∨ ¬(lifecycle.map (·.eventId)).Nodup)
    : settle records state lifecycle reference capturedAt
        =
      .error
        (if OriginalDiffers records reference then .invalid else .conflicting) := by
  unfold settle
  by_cases hdiffers : OriginalDiffers records reference
  . rw [if_pos hdiffers]
    exact failIf_bind_of_true hdiffers
  . rw [if_neg hdiffers]
    refine (bind_of_ok (a := ()) (failIf_eq_ok.mpr hdiffers)).trans ?_
    exact failIf_bind_of_true h

omit [DecidableEq Target] [VersionContract Target Body] in
theorem originalDiffers_sortBy
    : OriginalDiffers (sortBy (·.versionId) records) reference ↔ OriginalDiffers records reference := by
  unfold OriginalDiffers
  rw [lookup_sortBy]

omit [VersionContract Target Body] in
theorem resolveRows_of_repeated
    (h : ¬(records.map (·.versionId)).Nodup ∨ ¬(lifecycle.map (·.eventId)).Nodup)
    : (resolveRows subject reference capturedAt state records lifecycle).map (·.state)
        =
      if OriginalDiffers records reference then
        .error (.invalid subject)
      else
        .ok .conflicting := by
  have hsorted : ¬((sortBy (·.versionId) records).map (·.versionId)).Nodup
      ∨ ¬((sortBy (·.eventId) lifecycle).map (·.eventId)).Nodup := by
    rw [nodup_sortBy, nodup_sortBy]
    exact h
  unfold resolveRows
  dsimp only
  rw [settle_of_repeated hsorted]
  simp only [originalDiffers_sortBy]
  by_cases hdiffers : OriginalDiffers records reference
  . rw [if_pos hdiffers, if_pos hdiffers]
    rfl
  . rw [if_neg hdiffers, if_neg hdiffers]
    rfl

omit [DecidableEq Target] [VersionContract Target Body] in
theorem originalDiffers_iff_of_agreeOn
    (h : AgreeOn records reference)
    : OriginalDiffers records reference
        ↔ ∃ record ∈ records, record.versionId = reference.versionId ∧ record.reference ≠ reference := by
  constructor
  . rintro ⟨record, hlookup, hdiffers⟩
    obtain ⟨hmem, hversionId⟩ := lookup_eq_some hlookup
    exact ⟨record, hmem, hversionId, hdiffers⟩
  . rintro ⟨record, hmem, hversionId, hdiffers⟩
    cases hlookup : lookup (·.versionId) records reference.versionId with
    | none =>
      rw [lookup_eq_none] at hlookup
      exact absurd hversionId (hlookup record hmem)
    | some last =>
      obtain ⟨hlast, hlastId⟩ := lookup_eq_some hlookup
      refine ⟨last, hlookup, ?_⟩
      intro hsame
      exact hdiffers (h last hlast record hmem hlastId hversionId hsame)

omit [VersionContract Target Body] in
theorem resolveRows_sameRows (hagree : AgreeOn census.records reference) (h : SameRows census census')
    : (resolveRows subject reference capturedAt census'.state census'.records census'.lifecycle).map
          (·.state)
        =
      (resolveRows subject reference capturedAt census.state census.records census.lifecycle).map
        (·.state) := by
  by_cases hnodup :
      (census.records.map (·.versionId)).Nodup ∧ (census.lifecycle.map (·.eventId)).Nodup
  . unfold resolveRows
    rw [sortBy_eq_of_perm hnodup.1 h.records.symm, sortBy_eq_of_perm hnodup.2 h.lifecycle.symm, h.state]
  . rw [not_and_or] at hnodup
    have hnodup' := hnodup
    rw [← (h.records.map _).nodup_iff, ← (h.lifecycle.map _).nodup_iff] at hnodup'
    have hagree' : AgreeOn census'.records reference := by
      intro record hrecord other hother
      exact hagree record (h.records.mem_iff.mp hrecord) other (h.records.mem_iff.mp hother)
    rw [resolveRows_of_repeated hnodup, resolveRows_of_repeated hnodup']
    simp only [originalDiffers_iff_of_agreeOn hagree, originalDiffers_iff_of_agreeOn hagree', h.records.mem_iff]

omit [VersionContract Target Body] in
theorem resolveRows_last (records : List (PublishedVersion Target Body))
    {last : PublishedVersion Target Body} (hlast : last.versionId = reference.versionId)
    (hrepeated : ∃ other ∈ records, other.versionId = reference.versionId)
    : (resolveRows subject reference capturedAt state (records ++ [last]) lifecycle).map (·.state)
        =
      if last.reference = reference then .ok .conflicting else .error (.invalid subject) := by
  obtain ⟨other, hother, hotherId⟩ := hrepeated
  have hnodup : ¬((records ++ [last]).map (·.versionId)).Nodup := by
    rw [List.map_append, List.nodup_append]
    rintro ⟨_, _, hdisjoint⟩
    exact hdisjoint _ (List.mem_map_of_mem hother) _ (List.mem_map_of_mem (List.mem_singleton_self last))
      (hotherId.trans hlast.symm)
  have hdiffers : OriginalDiffers (records ++ [last]) reference ↔ last.reference ≠ reference := by
    have hlookup : lookup (·.versionId) (records ++ [last]) reference.versionId = some last :=
      lookup_append_singleton hlast
    simp [OriginalDiffers, hlookup]
  rw [resolveRows_of_repeated (.inl hnodup)]
  simp only [hdiffers, ne_eq, ite_not]

omit [DecidableEq Target] [VersionContract Target Body] in
theorem exists_sameRows_last {record : PublishedVersion Target Body} (h : record ∈ census.records)
    : ∃ others,
        SameRows census { census with records := others ++ [record] }
          ∧ ∀ other ∈ census.records, other ≠ record → other ∈ others := by
  obtain ⟨before, after, hrecords⟩ := List.append_of_mem h
  refine ⟨before ++ after, ⟨rfl, ?_, List.Perm.refl _⟩, ?_⟩
  . dsimp only
    rw [hrecords]
    exact (List.perm_append_singleton _ _).trans List.perm_middle.symm
  . intro other hother hne
    rw [hrecords] at hother
    simpa [hne] using hother

theorem outcome_of_last (subject : VerificationSubject) {others : List (PublishedVersion Target Body)}
    {last other : PublishedVersion Target Body}
    (hbudget : SufficientBudget encoding census budget)
    (hadmitted : RowsAdmitted encoding scope reference capturedAt census)
    (hsame : SameRows census { census with records := others ++ [last] })
    (hlast : last.versionId = reference.versionId) (hother : other ∈ others)
    (hotherId : other.versionId = reference.versionId)
    : outcome (resolveCapturedCensus encoding subject scope reference capturedAt
          { census with records := others ++ [last] } budget)
        =
      if last.reference = reference then .ok .conflicting else .error (.invalid subject) := by
  rw [outcome_resolveCapturedCensus (hbudget.of_sameRows hsame),
    censusValue_of_admitted (hadmitted.of_sameRows hsame)]
  exact resolveRows_last others hlast ⟨other, hother, hotherId⟩

theorem orderIndependent_iff (hbudget : SufficientBudget encoding census budget)
    : OrderIndependent (resolveCapturedCensus encoding subject scope reference capturedAt) census budget
        ↔
      (RowsAdmitted encoding scope reference capturedAt census → AgreeOn census.records reference) := by
  constructor
  . intro hindependent hadmitted record hrecord other hother hrecordId hotherId hreference
    by_contra hdiffers
    have hne : other ≠ record := by
      rintro rfl
      exact hdiffers hreference
    -- One order keeps the referenced version in the map and the other keeps the version that differs.
    obtain ⟨others, hsame, hmem⟩ := exists_sameRows_last hrecord
    obtain ⟨others', hsame', hmem'⟩ := exists_sameRows_last hother
    have hkept := outcome_of_last subject hbudget hadmitted hsame hrecordId
      (hmem other hother hne) hotherId
    have hlost := outcome_of_last subject hbudget hadmitted hsame' hotherId
      (hmem' record hrecord hne.symm) hrecordId
    rw [hindependent _ hsame, if_pos hreference] at hkept
    rw [hindependent _ hsame', if_neg hdiffers, hkept] at hlost
    contradiction
  . intro hagree census' hsame
    rw [outcome_resolveCapturedCensus hbudget,
      outcome_resolveCapturedCensus (hbudget.of_sameRows hsame)]
    by_cases hadmitted : RowsAdmitted encoding scope reference capturedAt census
    . rw [censusValue_of_admitted hadmitted, censusValue_of_admitted (hadmitted.of_sameRows hsame)]
      exact resolveRows_sameRows (hagree hadmitted) hsame
    . rw [censusValue_of_not_admitted hadmitted, censusValue_of_not_admitted (fun hadmitted' =>
        hadmitted (hadmitted'.of_sameRows hsame.symm))]

/-- The order of the rows of a census matters only to two records of the referenced version of which
one is not what the reference names. -/
theorem resolveCapturedReleaseCensus_orderIndependent
    (selectionEncoding : VersionEncoding ReleasePolicySelectionTarget ReleasePolicySelectionBody)
    (reviewerEncoding : VersionEncoding ReleaseReviewerAuthorityTarget ReleaseReviewerAuthorityBody)
    (scope : EvidenceScope) (cut : PolicyEvaluationTime) (budget : VerificationBudget)
    : (∀ (reference : ReleasePolicySelectionReference) (census : ReleaseSelectionCensus),
        SufficientBudget selectionEncoding census budget →
          (OrderIndependent
              (resolveCapturedReleaseSelectionCensus selectionEncoding scope reference cut) census
              budget
            ↔
          (RowsAdmitted selectionEncoding scope reference cut census →
            AgreeOn census.records reference)))
        ∧ ∀ (reference : ReleaseReviewerAuthorityReference) (census : ReleaseReviewerCensus),
            SufficientBudget reviewerEncoding census budget →
              (OrderIndependent
                  (resolveCapturedReleaseReviewerCensus reviewerEncoding scope reference cut) census
                  budget
                ↔
              (RowsAdmitted reviewerEncoding scope reference cut census →
                AgreeOn census.records reference)) := by
  constructor
  . intro reference census hbudget
    exact orderIndependent_iff hbudget
  . intro reference census hbudget
    exact orderIndependent_iff hbudget

theorem resolveCapturedReleaseCensus_orderIndependent_sampleCensus
    : OrderIndependent
        (resolveCapturedReleaseSelectionCensus sampleSelectionEncoding sampleScope
          sampleObserved.reference sampleCut)
        (sampleCensus [sampleObserved, sampleObserved]) sampleBudget := by
  have hbudget : SufficientBudget sampleSelectionEncoding
      (sampleCensus [sampleObserved, sampleObserved]) sampleBudget :=
    ⟨rfl, by decide⟩
  apply ((resolveCapturedReleaseCensus_orderIndependent sampleSelectionEncoding
      ⟨fun _ => true, fun _ => 1024, fun _ _ => sampleDigest 'a', fun _ => 2048, fun _ => 512⟩
      sampleScope sampleCut sampleBudget).1 _ _ hbudget).mpr
  intro _ _ _ other hother _ _ _
  simp only [sampleCensus, List.mem_cons, List.not_mem_nil, or_false, or_self] at hother
  rw [hother]

theorem outcome_sampleSubstituted
    : SufficientBudget sampleSelectionEncoding (sampleCensus [sampleSubstituted, sampleObserved])
          sampleBudget
        ∧ SameRows (sampleCensus [sampleSubstituted, sampleObserved])
            (sampleCensus [sampleObserved, sampleSubstituted])
        ∧ outcome (resolveCapturedReleaseSelectionCensus sampleSelectionEncoding sampleScope
              sampleObserved.reference sampleCut (sampleCensus [sampleSubstituted, sampleObserved])
              sampleBudget)
            = .ok .conflicting
        ∧ outcome (resolveCapturedReleaseSelectionCensus sampleSelectionEncoding sampleScope
              sampleObserved.reference sampleCut (sampleCensus [sampleObserved, sampleSubstituted])
              sampleBudget)
            = .error (.invalid .selectionCensus) := by
  have hbudget : SufficientBudget sampleSelectionEncoding
      (sampleCensus [sampleSubstituted, sampleObserved]) sampleBudget :=
    ⟨rfl, by decide⟩
  have hadmitted : RowsAdmitted sampleSelectionEncoding sampleScope sampleObserved.reference sampleCut
      (sampleCensus [sampleSubstituted, sampleObserved]) :=
    admitted_sampleCensus (by simp)
  have hsame : SameRows (sampleCensus [sampleSubstituted, sampleObserved])
      (sampleCensus [sampleObserved, sampleSubstituted]) :=
    ⟨rfl, List.Perm.swap _ _ _, List.Perm.refl _⟩
  refine ⟨hbudget, hsame, ?_, ?_⟩
  . rw [resolveCapturedReleaseSelectionCensus, outcome_resolveCapturedCensus hbudget,
      censusValue_of_admitted hadmitted]
    exact resolveRows_last [sampleSubstituted] rfl ⟨_, List.mem_singleton_self _, rfl⟩
  . rw [resolveCapturedReleaseSelectionCensus, outcome_resolveCapturedCensus (hbudget.of_sameRows hsame),
      censusValue_of_admitted (hadmitted.of_sameRows hsame)]
    exact (resolveRows_last [sampleObserved] rfl ⟨_, List.mem_singleton_self _, rfl⟩).trans
      (if_neg (by decide))

end Order

end Release
end ProofStack
