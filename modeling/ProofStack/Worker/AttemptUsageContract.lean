import ProofStack.Worker.AttemptUsage

/-!
This module contains the proof that the usage of an attempt is measured request by request.
-/

namespace ProofStack
namespace Worker

open Checks Replay Execution

inductive Ending where
  | answered (response : BoundaryExecutionObservation) (result : ReplayBoundaryExecutionResult)
  | failed (failure : BoundaryExecutionObservation)
  | pending

structure BoundaryRequest where
  started : BoundaryExecutionObservation
  ending : Ending

namespace BoundaryRequest

def observations (request : BoundaryRequest) : List BoundaryExecutionObservation :=
  match request.ending with
  | .answered response _ => [request.started, response]
  | .failed failure => [request.started, failure]
  | .pending => [request.started]

def result (request : BoundaryRequest) : Option ReplayBoundaryExecutionResult :=
  match request.ending with
  | .answered _ result => some result
  | _ => none

structure WellFormed (request : BoundaryRequest) : Prop where
  started : request.started.phase = .requestStarted
  answered : ∀ response result, request.ending = .answered response result →
    matchesResult response result = true ∧ observationKey response = observationKey request.started
  failed : ∀ failure, request.ending = .failed failure →
    failure.phase = .failed ∧ observationKey failure = observationKey request.started

end BoundaryRequest

structure RequestsOf (observations : List BoundaryExecutionObservation)
    (results : List ReplayBoundaryExecutionResult) (requests : List BoundaryRequest) : Prop where
  observations : observations = requests.flatMap (·.observations)
  results : results = requests.filterMap (·.result)
  wellFormed : ∀ request ∈ requests, request.WellFormed
  pending : ∀ request ∈ requests.dropLast, request.ending ≠ .pending

variable {observations : List BoundaryExecutionObservation}
variable {results : List ReplayBoundaryExecutionResult}
variable {requests : List BoundaryRequest}
variable {request : BoundaryRequest}

theorem RequestsOf.cons
    (h : RequestsOf observations results requests) (hrequest : request.WellFormed)
    (hpending : request.ending ≠ .pending)
    : RequestsOf (request.observations ++ observations) (request.result.toList ++ results)
        (request :: requests) where
  observations := by rw [List.flatMap_cons, ← h.observations]
  results := by
    rw [h.results]
    cases hresult : request.result <;> simp [hresult]
  wellFormed := List.forall_mem_cons.mpr ⟨hrequest, h.wellFormed⟩
  pending := by
    intro other hmem
    cases requests with
    | nil => contradiction
    | cons next requests =>
      rw [List.dropLast_cons_cons] at hmem
      rcases List.mem_cons.mp hmem with rfl | hmem
      . exact hpending
      . exact h.pending other hmem

variable {result : ReplayBoundaryExecutionResult}

theorem phase_of_matchesResult {observation : BoundaryExecutionObservation}
    (h : matchesResult observation result = true)
    : observation.phase = .responseObserved ∧ observation.boundaryKind = result.actualRequest.kind
        ∧ observation.mode = result.mode := by
  simp only [matchesResult, Bool.and_eq_true, beq_iff_eq] at h
  exact ⟨h.1.1.1.1.1, h.1.1.1.2, h.2⟩

theorem validateLifecycleFrom_none {observation : BoundaryExecutionObservation}
    (h : validateLifecycleFrom none (observation :: observations) = .ok ())
    : observation.phase = .requestStarted
        ∧ validateLifecycleFrom (some (observationKey observation)) observations = .ok () := by
  rw [validateLifecycleFrom] at h
  split at h
  . next hstarted =>
    rcases bind_eq_ok.mp h with ⟨_, _, hrest⟩
    exact ⟨hstarted, hrest⟩
  . rcases bind_eq_ok.mp h with ⟨_, hfail, _⟩
    exact absurd (by simp) (failIf_eq_ok.mp hfail)

theorem validateLifecycleFrom_some {started observation : BoundaryExecutionObservation}
    (h : validateLifecycleFrom (some (observationKey started)) (observation :: observations) = .ok ())
    : observation.phase ≠ .requestStarted ∧ observationKey observation = observationKey started
        ∧ validateLifecycleFrom none observations = .ok () := by
  rw [validateLifecycleFrom] at h
  split at h
  . rcases bind_eq_ok.mp h with ⟨_, hfail, _⟩
    exact absurd (by simp) (failIf_eq_ok.mp hfail)
  . next hphase =>
    rcases bind_eq_ok.mp h with ⟨_, hfail, hrest⟩
    have hkey := failIf_eq_ok.mp hfail
    rw [not_not, Option.some.injEq] at hkey
    exact ⟨hphase, hkey.symm, hrest⟩

theorem exists_requestsOf
    : ∀ (observations : List BoundaryExecutionObservation) (results : List ReplayBoundaryExecutionResult),
      validateLifecycleFrom none observations = .ok () →
      List.Forall₂ (fun observation result => matchesResult observation result = true)
        (observations.filter (·.phase == .responseObserved)) results →
      ∃ requests, RequestsOf observations results requests
  | [], results, _, hresults => by
    cases hresults
    exact ⟨[], rfl, rfl, by simp, by simp⟩
  | [started], results, hlifecycle, hresults => by
    have hstarted := (validateLifecycleFrom_none hlifecycle).1
    simp only [List.filter_cons, hstarted, List.filter_nil] at hresults
    cases hresults
    refine ⟨[⟨started, .pending⟩], rfl, rfl, ?_, by simp⟩
    rw [List.forall_mem_singleton]
    exact ⟨hstarted, fun _ _ h => by contradiction, fun _ h => by contradiction⟩
  | started :: next :: observations, results, hlifecycle, hresults => by
    rcases validateLifecycleFrom_none hlifecycle with ⟨hstarted, hpending⟩
    rcases validateLifecycleFrom_some hpending with ⟨hnext, hkey, hrest⟩
    rw [List.filter_cons_of_neg (by simp [hstarted])] at hresults
    cases hphase : next.phase with
    | requestStarted => contradiction
    | failed =>
      rw [List.filter_cons_of_neg (by simp [hphase])] at hresults
      rcases exists_requestsOf observations results hrest hresults with ⟨requests, hrequests⟩
      have hrequest : BoundaryRequest.WellFormed ⟨started, .failed next⟩ := by
        refine ⟨hstarted, fun _ _ h => by contradiction, ?_⟩
        intro failure hfailure
        cases hfailure
        exact ⟨hphase, hkey⟩
      exact ⟨_, hrequests.cons hrequest (fun h => by contradiction)⟩
    | responseObserved =>
      rw [List.filter_cons_of_pos (by simp [hphase])] at hresults
      cases hresults with
      | cons hmatches hresults =>
        next result results =>
        rcases exists_requestsOf observations results hrest hresults with ⟨requests, hrequests⟩
        have hrequest : BoundaryRequest.WellFormed ⟨started, .answered next result⟩ := by
          refine ⟨hstarted, ?_, fun _ h => by contradiction⟩
          intro response result' hanswered
          cases hanswered
          exact ⟨hmatches, hkey⟩
        exact ⟨_, hrequests.cons hrequest (fun h => by contradiction)⟩

theorem correlateResults_eq_ok {observations : List ReplayExecutionObservationPayload}
    {boundaryObservations : List BoundaryExecutionObservation}
    (h : correlateResults observations results = .ok boundaryObservations)
    : boundaryObservations = observations.filterMap boundaryObservation
        ∧ ∃ requests, RequestsOf boundaryObservations results requests := by
  rcases bind_eq_ok.mp h with ⟨_, hlifecycle, h⟩
  rcases bind_eq_ok.mp h with ⟨_, hresults, h⟩
  rw [pure_eq_ok] at h
  subst h
  rw [failIf_eq_ok, not_or, not_not] at hresults
  refine ⟨rfl, exists_requestsOf _ results hlifecycle ?_⟩
  rw [List.forall₂_iff_get]
  refine ⟨hresults.1, fun index hleft hright => ?_⟩
  have hany := hresults.2
  simp only [List.any_eq_true, not_exists, not_and, Bool.not_eq_true] at hany
  have hmatches := hany (_, index) (List.mk_mem_zipIdx_iff_getElem?.mpr (List.getElem?_eq_getElem hleft))
  simp only [List.getElem?_eq_getElem hright, Bool.not_eq_false'] at hmatches
  exact hmatches

def RespectsKeys (relevant : BoundaryExecutionObservation → Bool) : Prop :=
  ∀ observation other, observationKey observation = observationKey other → relevant observation = relevant other

theorem respectsKeys_isRelevantObservation (dimension : BoundaryUsageDimension)
    : RespectsKeys (isRelevantObservation dimension) := by
  intro observation other hkey
  simp only [observationKey, Prod.mk.injEq] at hkey
  unfold isRelevantObservation
  rw [hkey.2.1, hkey.2.2.1]

theorem respectsKeys_boundaryKind (kind : ReplayBoundaryKind)
    : RespectsKeys (·.boundaryKind == kind) := by
  intro observation other hkey
  simp only [observationKey, Prod.mk.injEq] at hkey
  simp only [hkey.2.1]

theorem uncertainFrom_requests {relevant : BoundaryExecutionObservation → Bool} (hrelevant : RespectsKeys relevant)
    (hwellFormed : ∀ request ∈ requests, request.WellFormed)
    (hpending : ∀ request ∈ requests.dropLast, request.ending ≠ .pending)
    : uncertainFrom relevant false (requests.flatMap (·.observations)) = true
        ↔ ∃ request ∈ requests, relevant request.started = true ∧ request.result = none := by
  induction requests with
  | nil => simp [uncertainFrom]
  | cons request requests ih =>
    rw [List.forall_mem_cons] at hwellFormed
    rcases hwellFormed with ⟨hrequest, hwellFormed⟩
    have hrest : ∀ other ∈ requests.dropLast, other.ending ≠ .pending := by
      intro other hmem
      apply hpending
      cases requests with
      | nil => contradiction
      | cons next requests => exact List.mem_cons_of_mem _ hmem
    rw [List.flatMap_cons, List.exists_mem_cons_iff]
    cases hending : request.ending with
    | answered response result =>
      rcases hrequest.answered response result hending with ⟨hmatches, hkey⟩
      have hphase := (phase_of_matchesResult hmatches).1
      have hsame := hrelevant _ _ hkey
      have hobservations : request.observations = [request.started, response] := by
        rw [BoundaryRequest.observations, hending]
      have hresult : request.result = some result := by rw [BoundaryRequest.result, hending]
      simp only [hobservations, hresult, List.cons_append, List.nil_append, uncertainFrom, hrequest.started, hphase,
        hsame]
      cases hstarted : relevant request.started <;> simpa using ih hwellFormed hrest
    | failed failure =>
      rcases hrequest.failed failure hending with ⟨hphase, hkey⟩
      have hsame := hrelevant _ _ hkey
      have hobservations : request.observations = [request.started, failure] := by
        rw [BoundaryRequest.observations, hending]
      have hresult : request.result = none := by rw [BoundaryRequest.result, hending]
      simp only [hobservations, hresult, List.cons_append, List.nil_append, uncertainFrom, hrequest.started, hphase,
        hsame]
      cases hstarted : relevant request.started with
      | true => simp
      | false => simpa using ih hwellFormed hrest
    | pending =>
      have hobservations : request.observations = [request.started] := by
        rw [BoundaryRequest.observations, hending]
      have hresult : request.result = none := by rw [BoundaryRequest.result, hending]
      cases requests with
      | nil =>
        simp only [hobservations, hresult, List.flatMap_nil, List.append_nil, uncertainFrom, hrequest.started]
        cases hstarted : relevant request.started <;> simp
      | cons next requests => exact absurd hending (hpending request (by simp))

theorem isRelevantResult_of_answered (h : request.WellFormed)
    (hresult : request.result = some result)
    (dimension : BoundaryUsageDimension)
    : isRelevantResult dimension result = isRelevantObservation dimension request.started := by
  unfold BoundaryRequest.result at hresult
  split at hresult
  . next response result' hending =>
    cases hresult
    rcases h.answered response result hending with ⟨hmatches, hkey⟩
    rcases phase_of_matchesResult hmatches with ⟨_, hkind, hmode⟩
    rw [← respectsKeys_isRelevantObservation dimension _ _ hkey]
    unfold isRelevantResult isRelevantObservation
    rw [hkind, hmode]
  . contradiction

theorem relevantResults_eq
    (hwellFormed : ∀ request ∈ requests, request.WellFormed) (dimension : BoundaryUsageDimension)
    : relevantResults (requests.filterMap (·.result)) dimension
        = (requests.filter (isRelevantObservation dimension ·.started)).filterMap (·.result) := by
  unfold relevantResults
  rw [List.filter_filterMap, List.filterMap_filter]
  apply List.filterMap_congr
  intro request hmem
  cases hresult : request.result with
  | none => simp
  | some result =>
    rw [← isRelevantResult_of_answered (hwellFormed request hmem) hresult]
    cases hrelevant : isRelevantResult dimension result <;> simp [Option.filter, hrelevant]

theorem checkedAdd_eq_ok {left right total : Nat}
    : checkedAdd left right = .ok total ↔ total = left + right ∧ left + right ≤ maxSafeInteger := by
  unfold checkedAdd
  simp only [bind_eq_ok, failIf_eq_ok, pure_eq_ok]
  constructor
  . rintro ⟨_, hroom, rfl⟩
    exact ⟨rfl, by omega⟩
  . rintro ⟨rfl, hroom⟩
    exact ⟨(), by omega, rfl⟩

theorem foldlM_checkedAdd {α : Type} {f : α → Nat} {values : List α} {start total : Nat}
    (h : values.foldlM (fun amount value => checkedAdd amount (f value)) start = .ok total)
    : total = start + (values.map f).sum := by
  induction values generalizing start with
  | nil => exact (pure_eq_ok.mp h).symm
  | cons value values ih =>
    rcases bind_eq_ok.mp h with ⟨middle, hmiddle, hrest⟩
    rw [ih hrest, (checkedAdd_eq_ok.mp hmiddle).1, List.map_cons, List.sum_cons]
    omega

def Reports (dimension : BoundaryUsageDimension) (request : BoundaryRequest) (amount : Nat)
    (source : ReplayUsageSource) : Prop :=
  ∃ result, request.result = some result ∧ ⟨dimension.dimension, .observed amount source⟩ ∈ result.usage

theorem usage_unique (h : result.Accepted) {entry other : BoundaryUsage}
    (hentry : entry ∈ result.usage) (hother : other ∈ result.usage) (hdimension : entry.dimension = other.dimension)
    : entry = other := by
  have hsorted := List.isChain_iff_pairwise.mp h.usage.2.2
  have hnodup : (result.usage.map (·.dimension.text)).Nodup := by
    apply hsorted.imp
    rintro left _ hlt rfl
    exact String.lt_irrefl left hlt
  exact List.inj_on_of_nodup_map hnodup hentry hother (by rw [hdimension])

variable {dimension : BoundaryUsageDimension}
variable {source : ReplayUsageSource}

theorem measurementOf_eq_observed (h : result.Accepted)
    {amount : Nat}
    : measurementOf dimension result = .observed amount source
        ↔ ⟨dimension.dimension, .observed amount source⟩ ∈ result.usage := by
  unfold measurementOf
  split
  . next entry hfound =>
    have hentry := List.mem_of_find?_eq_some hfound
    have hdimension : entry.dimension = dimension.dimension := by
      simpa using List.find?_some hfound
    constructor
    . intro husage
      have heq : entry = ⟨dimension.dimension, .observed amount source⟩ := by rw [← hdimension, ← husage]
      exact heq ▸ hentry
    . intro hmem
      rw [usage_unique h hentry hmem hdimension]
  . next hmissing =>
    rw [List.find?_eq_none] at hmissing
    constructor
    . intro hunavailable
      contradiction
    . intro hmem
      exact absurd (by simp) (hmissing _ hmem)

theorem reports_iff (h : ∀ result ∈ request.result, result.Accepted)
    {amount : Nat}
    : Reports dimension request amount source
        ↔ ∃ result, request.result = some result ∧ measurementOf dimension result = .observed amount source := by
  unfold Reports
  constructor
  . rintro ⟨result, hresult, hmem⟩
    exact ⟨result, hresult, (measurementOf_eq_observed (h result hresult)).mpr hmem⟩
  . rintro ⟨result, hresult, hmeasurement⟩
    exact ⟨result, hresult, (measurementOf_eq_observed (h result hresult)).mp hmeasurement⟩

theorem forall₂_observationOf {measurements : List ReplayUsageMeasurement}
    (hmissing : measurements.filterMap reasonOf = [])
    (hsource : ∀ observed ∈ measurements.filterMap observationOf, observed.2 = source)
    : List.Forall₂ (fun measurement amount => measurement = .observed amount source) measurements
        ((measurements.filterMap observationOf).map (·.1)) := by
  induction measurements with
  | nil => exact .nil
  | cons measurement measurements ih =>
    cases measurement with
    | unavailable reason => simp [reasonOf] at hmissing
    | observed amount source' =>
      simp only [List.filterMap_cons, reasonOf] at hmissing
      simp only [List.filterMap_cons, observationOf, List.forall_mem_cons] at hsource
      simp only [List.filterMap_cons, observationOf, List.map_cons]
      exact .cons (by rw [hsource.1]) (ih hmissing hsource.2)

theorem eq_map_observed
    {amounts : List Nat}
    (h : List.Forall₂ (fun result amount => measurementOf dimension result = .observed amount source) results amounts)
    : results.map (measurementOf dimension) = amounts.map (.observed · source) := by
  induction h with
  | nil => rfl
  | cons hresult _ ih => rw [List.map_cons, List.map_cons, hresult, ih]

theorem aggregateBoundaryUsage_observed
    {amount : Nat}
    (h : aggregateBoundaryUsage results dimension observations = .ok (.observed amount source))
    : uncertainBoundaryUsage observations (isRelevantObservation dimension) = false
        ∧ ∃ amounts,
            List.Forall₂ (fun result amount => measurementOf dimension result = .observed amount source)
              (relevantResults results dimension) amounts
            ∧ amount = amounts.sum := by
  unfold aggregateBoundaryUsage at h
  split at h
  . cases pure_eq_ok.mp h
  next hcertain =>
  refine ⟨by simpa using hcertain, ?_⟩
  dsimp only at h
  split at h
  . next hnone =>
    rw [List.length_eq_zero_iff] at hnone
    cases pure_eq_ok.mp h
    exact ⟨[], by rw [hnone]; exact .nil, rfl⟩
  split at h
  . cases pure_eq_ok.mp h
  next hmissing =>
  rw [gt_iff_lt, not_lt, Nat.le_zero, List.length_eq_zero_iff] at hmissing
  split at h
  . cases pure_eq_ok.mp h
  next _ source' _ =>
  split at h
  . cases pure_eq_ok.mp h
  next hsource =>
  simp only [ne_eq, List.any_eq_true, decide_eq_true_eq, not_exists, not_and, not_not] at hsource
  rcases bind_eq_ok.mp h with ⟨total, htotal, hobserved⟩
  cases pure_eq_ok.mp hobserved
  refine ⟨_, List.forall₂_map_left_iff.mp (forall₂_observationOf hmissing hsource), ?_⟩
  rw [foldlM_checkedAdd htotal, Nat.zero_add]

variable {measurement : ReplayUsageMeasurement}

theorem aggregateBoundaryUsage_of_observed
    {amounts : List Nat}
    (h : aggregateBoundaryUsage results dimension observations = .ok measurement)
    (hcertain : uncertainBoundaryUsage observations (isRelevantObservation dimension) = false)
    (hamounts : List.Forall₂ (fun result amount => measurementOf dimension result = .observed amount source)
      (relevantResults results dimension) amounts)
    : ∃ amount source', measurement = .observed amount source' := by
  have hreasons : (amounts.map (ReplayUsageMeasurement.observed · source)).filterMap reasonOf = [] := by
    simp [List.filterMap_map, reasonOf, Function.comp_def]
  have hobservations : (amounts.map (ReplayUsageMeasurement.observed · source)).filterMap observationOf
      = amounts.map (·, source) := by
    rw [List.filterMap_map, ← List.filterMap_eq_map]
    rfl
  unfold aggregateBoundaryUsage at h
  rw [hcertain] at h
  simp only [Bool.false_eq_true, if_false, eq_map_observed hamounts, hreasons, hobservations] at h
  split at h
  . cases pure_eq_ok.mp h
    exact ⟨0, .measured, rfl⟩
  next hsome =>
  cases hamounts' : amounts with
  | nil =>
    rw [hamounts'] at hamounts
    rw [List.forall₂_nil_right_iff.mp hamounts] at hsome
    exact absurd rfl hsome
  | cons first rest =>
    rw [hamounts'] at h
    simp only [List.length_nil, gt_iff_lt, lt_irrefl, if_false, List.map_cons, List.head?_cons] at h
    split at h
    . next hmixed => simp at hmixed
    rcases bind_eq_ok.mp h with ⟨total, _, hobserved⟩
    cases pure_eq_ok.mp hobserved
    exact ⟨total, source, rfl⟩

theorem exists_forall₂ {α β : Type} {R : α → β → Prop} {values : List α} (h : ∀ value ∈ values, ∃ other, R value other)
    : ∃ others, List.Forall₂ R values others := by
  induction values with
  | nil => exact ⟨[], .nil⟩
  | cons value values ih =>
    rw [List.forall_mem_cons] at h
    rcases h.1 with ⟨other, hother⟩
    rcases ih h.2 with ⟨others, hothers⟩
    exact ⟨other :: others, .cons hother hothers⟩

theorem forall₂_results {R : ReplayBoundaryExecutionResult → Nat → Prop}
    (hanswered : ∀ request ∈ requests, request.result ≠ none) {amounts : List Nat}
    : List.Forall₂ R (requests.filterMap (·.result)) amounts
        ↔ List.Forall₂ (fun request amount => ∃ result, request.result = some result ∧ R result amount)
            requests amounts := by
  induction requests generalizing amounts with
  | nil => simp
  | cons request requests ih =>
    rw [List.forall_mem_cons] at hanswered
    rcases Option.ne_none_iff_exists'.mp hanswered.1 with ⟨result, hresult⟩
    rw [List.filterMap_cons_some hresult, List.forall₂_cons_left_iff, List.forall₂_cons_left_iff]
    simp only [ih hanswered.2, hresult, Option.some.injEq, exists_eq_left']

theorem foldlM_countStarted {kind : ReplayBoundaryKind}
    {start count : Nat}
    (h : observations.foldlM (fun count observation =>
        if observation.phase = .requestStarted ∧ observation.boundaryKind = kind then checkedAdd count 1
        else pure count) start = .ok count)
    : count = start + observations.countP (fun observation =>
        observation.phase = .requestStarted ∧ observation.boundaryKind = kind) := by
  induction observations generalizing start with
  | nil => exact (pure_eq_ok.mp h).symm
  | cons observation observations ih =>
    rcases bind_eq_ok.mp h with ⟨middle, hmiddle, hrest⟩
    rw [ih hrest]
    dsimp only at hmiddle
    split at hmiddle
    . next hcounted =>
      rw [(checkedAdd_eq_ok.mp hmiddle).1, List.countP_cons_of_pos (by simpa using hcounted)]
      omega
    . next hcounted =>
      rw [← pure_eq_ok.mp hmiddle, List.countP_cons_of_neg (by simpa using hcounted)]

theorem countP_started {kind : ReplayBoundaryKind}
    (h : ∀ request ∈ requests, request.WellFormed)
    : (requests.flatMap (·.observations)).countP (fun observation =>
        observation.phase = .requestStarted ∧ observation.boundaryKind = kind)
        = requests.countP (·.started.boundaryKind = kind) := by
  induction requests with
  | nil => rfl
  | cons request requests ih =>
    rw [List.forall_mem_cons] at h
    have hstarted := h.1.started
    have hone : request.observations.countP (fun observation =>
        observation.phase = .requestStarted ∧ observation.boundaryKind = kind)
        = if request.started.boundaryKind = kind then 1 else 0 := by
      unfold BoundaryRequest.observations
      split
      . next response result hending =>
        have hphase := (phase_of_matchesResult (h.1.answered response result hending).1).1
        simp [List.countP_cons, hstarted, hphase]
      . next failure hending =>
        have hphase := (h.1.failed failure hending).1
        simp [List.countP_cons, hstarted, hphase]
      . simp [List.countP_cons, hstarted]
    rw [List.flatMap_cons, List.countP_append, ih h.2, hone, List.countP_cons, Nat.add_comm]
    simp

theorem retrievedBytes_observed_iff
    (h : retrievedBytes results observations = .ok measurement)
    : (∃ amount source, measurement = .observed amount source)
        ↔ uncertainBoundaryUsage observations (·.boundaryKind == .retrieval) = false := by
  unfold retrievedBytes at h
  split at h
  . next huncertain =>
    cases pure_eq_ok.mp h
    simp [huncertain]
  . next hcertain =>
    rcases bind_eq_ok.mp h with ⟨total, _, hmeasured⟩
    cases pure_eq_ok.mp hmeasured
    simp [hcertain, measured]

structure MeasuresRequests (requests : List BoundaryRequest) (usage : ReplayUsageMeasurements) : Prop where
  observed_iff : ∀ dimension : BoundaryUsageDimension,
    (∃ amount source, usage dimension.dimension = .observed amount source)
      ↔ ∃ source, ∀ request ∈ requests, isRelevantObservation dimension request.started = true →
          ∃ amount, Reports dimension request amount source
  amount : ∀ (dimension : BoundaryUsageDimension) (amount : Nat) (source : ReplayUsageSource),
    usage dimension.dimension = .observed amount source →
      ∃ amounts,
        List.Forall₂ (fun request amount => Reports dimension request amount source)
          (requests.filter (isRelevantObservation dimension ·.started)) amounts
        ∧ amount = amounts.sum
  retrieved_iff : (∃ amount source, usage .retrievedBytes = .observed amount source)
    ↔ ∀ request ∈ requests, request.started.boundaryKind = .retrieval → request.result ≠ none
  modelRequests : usage .modelRequests = measured (requests.countP (·.started.boundaryKind = .model))
  toolCalls : usage .toolCalls = measured (requests.countP (·.started.boundaryKind = .tool))

section Requests

variable {observations : List BoundaryExecutionObservation} {results : List ReplayBoundaryExecutionResult}
  {requests : List BoundaryRequest} (hrequests : RequestsOf observations results requests)

include hrequests

theorem uncertainBoundaryUsage_eq_false {relevant : BoundaryExecutionObservation → Bool}
    (hrelevant : RespectsKeys relevant)
    : uncertainBoundaryUsage observations relevant = false
        ↔ ∀ request ∈ requests, relevant request.started = true → request.result ≠ none := by
  rw [uncertainBoundaryUsage, hrequests.observations, Bool.eq_false_iff, ne_eq,
    uncertainFrom_requests hrelevant hrequests.wellFormed hrequests.pending]
  simp only [not_exists, not_and, ne_eq]

theorem countStarted_requests {kind : ReplayBoundaryKind} {count : Nat}
    (h : countStarted observations kind = .ok count)
    : count = requests.countP (·.started.boundaryKind = kind) := by
  rw [foldlM_countStarted h, Nat.zero_add, hrequests.observations, countP_started hrequests.wellFormed]

variable (hresults : ∀ result ∈ results, result.Accepted)

include hresults

theorem reports_iff_measurementOf (hmem : request ∈ requests)
    {amount : Nat}
    : Reports dimension request amount source
        ↔ ∃ result, request.result = some result ∧ measurementOf dimension result = .observed amount source := by
  apply reports_iff
  intro result hresult
  apply hresults
  rw [hrequests.results]
  exact List.mem_filterMap.mpr ⟨request, hmem, hresult⟩

theorem forall₂_reports {amounts : List Nat}
    (hanswered : ∀ request ∈ requests, isRelevantObservation dimension request.started = true →
      request.result ≠ none)
    : List.Forall₂ (fun result amount => measurementOf dimension result = .observed amount source)
        (relevantResults results dimension) amounts
        ↔ List.Forall₂ (fun request amount => Reports dimension request amount source)
            (requests.filter (isRelevantObservation dimension ·.started)) amounts := by
  rw [hrequests.results, relevantResults_eq hrequests.wellFormed, forall₂_results]
  . have hmem : ∀ request ∈ requests.filter (isRelevantObservation dimension ·.started), request ∈ requests :=
      fun request hmem => (List.mem_filter.mp hmem).1
    constructor
    . intro h
      apply (List.forall₂_and_left _ _ |>.mpr ⟨hmem, h⟩).imp
      intro request amount hrequest
      exact (reports_iff_measurementOf hrequests hresults hrequest.1).mpr hrequest.2
    . intro h
      apply (List.forall₂_and_left _ _ |>.mpr ⟨hmem, h⟩).imp
      intro request amount hrequest
      exact (reports_iff_measurementOf hrequests hresults hrequest.1).mp hrequest.2
  . intro request hmem
    rw [List.mem_filter] at hmem
    exact hanswered request hmem.1 hmem.2

theorem aggregateBoundaryUsage_amount {amount : Nat}
    (h : aggregateBoundaryUsage results dimension observations = .ok (.observed amount source))
    : ∃ amounts,
        List.Forall₂ (fun request amount => Reports dimension request amount source)
          (requests.filter (isRelevantObservation dimension ·.started)) amounts
        ∧ amount = amounts.sum := by
  rcases aggregateBoundaryUsage_observed h with ⟨hcertain, amounts, hamounts, hsum⟩
  rw [uncertainBoundaryUsage_eq_false hrequests (respectsKeys_isRelevantObservation dimension)] at hcertain
  exact ⟨amounts, (forall₂_reports hrequests hresults hcertain).mp hamounts, hsum⟩

theorem aggregateBoundaryUsage_observed_iff
    (h : aggregateBoundaryUsage results dimension observations = .ok measurement)
    : (∃ amount source, measurement = .observed amount source)
        ↔ ∃ source, ∀ request ∈ requests, isRelevantObservation dimension request.started = true →
            ∃ amount, Reports dimension request amount source := by
  constructor
  . rintro ⟨amount, source, rfl⟩
    rcases aggregateBoundaryUsage_amount hrequests hresults h with ⟨amounts, hamounts, _⟩
    refine ⟨source, fun request hmem hrelevant => ?_⟩
    have hfiltered : request ∈ requests.filter (isRelevantObservation dimension ·.started) := by
      rw [List.mem_filter]
      exact ⟨hmem, hrelevant⟩
    rcases List.forall₂_iff_get.mp hamounts with ⟨hlength, hget⟩
    rcases List.mem_iff_get.mp hfiltered with ⟨index, rfl⟩
    exact ⟨_, hget index.1 index.2 (hlength ▸ index.2)⟩
  . rintro ⟨source, hreports⟩
    have hanswered : ∀ request ∈ requests, isRelevantObservation dimension request.started = true →
        request.result ≠ none := by
      intro request hmem hrelevant
      rcases hreports request hmem hrelevant with ⟨_, result, hresult, _⟩
      rw [hresult]
      exact Option.some_ne_none result
    have hexists : ∃ amounts, List.Forall₂ (fun request amount => Reports dimension request amount source)
        (requests.filter (isRelevantObservation dimension ·.started)) amounts := by
      apply exists_forall₂
      intro request hmem
      rw [List.mem_filter] at hmem
      exact hreports request hmem.1 hmem.2
    rcases hexists with ⟨amounts, hamounts⟩
    have hcertain := (uncertainBoundaryUsage_eq_false hrequests
      (respectsKeys_isRelevantObservation dimension)).mpr hanswered
    exact aggregateBoundaryUsage_of_observed h hcertain
      ((forall₂_reports hrequests hresults hanswered).mpr hamounts)

end Requests

theorem mapM_parse_eq_ok {ε α : Type} {error : ε} {Accepted : α → Prop} [DecidablePred Accepted]
    {input : List (Option α)} {values : List α}
    : input.mapM (fun candidate => do
          let value ← found candidate error
          parseWith (Accepted value) error value)
        = .ok values
      ↔ input = values.map some ∧ ∀ value ∈ values, Accepted value := by
  induction input generalizing values with
  | nil =>
    rw [List.mapM_nil, pure_eq_ok]
    constructor
    . rintro rfl
      exact ⟨rfl, nofun⟩
    . rintro ⟨h, -⟩
      exact (List.map_eq_nil_iff.mp h.symm).symm
  | cons candidate input ih =>
    simp only [List.mapM_cons, bind_eq_ok, pure_eq_ok, found_eq_ok, parseWith_eq_ok, ih]
    constructor
    . rintro ⟨value, ⟨_, rfl, haccepted, rfl⟩, rest, ⟨rfl, hrest⟩, rfl⟩
      exact ⟨rfl, List.forall_mem_cons.mpr ⟨haccepted, hrest⟩⟩
    . rintro ⟨hinput, haccepted⟩
      obtain ⟨value, rest, rfl, hvalue, hrest⟩ := List.map_eq_cons_iff.mp hinput.symm
      rw [List.forall_mem_cons] at haccepted
      exact ⟨value, ⟨value, hvalue.symm, haccepted.1, rfl⟩, rest, ⟨hrest.symm, haccepted.2⟩, rfl⟩

/-- The accepted evidence is a sequence of requests, and the usage is measured request by request. -/
theorem measureReplayAttemptUsage_contract (options : MeasureReplayAttemptUsageOptions)
    (usage : ReplayUsageMeasurements) (h : measureReplayAttemptUsage options = .ok usage)
    : ∃ (observations : List ReplayExecutionObservationPayload) (results : List ReplayBoundaryExecutionResult)
        (requests : List BoundaryRequest),
        options.executionObservations = observations.map some
        ∧ options.boundaryResults = results.map some
        ∧ RequestsOf (observations.filterMap boundaryObservation) results requests
        ∧ MeasuresRequests requests usage := by
  unfold measureReplayAttemptUsage at h
  rcases bind_eq_ok.mp h with ⟨_, _, h⟩
  rcases bind_eq_ok.mp h with ⟨_, _, h⟩
  rcases bind_eq_ok.mp h with ⟨results, hresults, h⟩
  rcases bind_eq_ok.mp h with ⟨_, _, h⟩
  rcases bind_eq_ok.mp h with ⟨observations, hobservations, h⟩
  rcases bind_eq_ok.mp h with ⟨boundaryObservations, hcorrelated, h⟩
  dsimp only at h
  rcases bind_eq_ok.mp h with ⟨inputTokens, hinput, h⟩
  rcases bind_eq_ok.mp h with ⟨modelRequests, hmodel, h⟩
  rcases bind_eq_ok.mp h with ⟨outputTokens, houtput, h⟩
  rcases bind_eq_ok.mp h with ⟨providerCost, hcost, h⟩
  rcases bind_eq_ok.mp h with ⟨retrieved, hretrieved, h⟩
  rcases bind_eq_ok.mp h with ⟨toolCalls, htool, h⟩
  rw [pure_eq_ok] at h
  subst h
  rcases mapM_parse_eq_ok.mp hresults with ⟨hinputResults, haccepted⟩
  rcases correlateResults_eq_ok hcorrelated with ⟨rfl, requests, hrequests⟩
  refine ⟨observations, results, requests, (mapM_parse_eq_ok.mp hobservations).1, hinputResults, hrequests, ?_⟩
  constructor
  case observed_iff =>
    intro dimension
    cases dimension with
    | inputTokens => exact aggregateBoundaryUsage_observed_iff hrequests haccepted hinput
    | outputTokens => exact aggregateBoundaryUsage_observed_iff hrequests haccepted houtput
    | providerCostMicrounits => exact aggregateBoundaryUsage_observed_iff hrequests haccepted hcost
  case amount =>
    intro dimension amount source husage
    cases dimension with
    | inputTokens => exact aggregateBoundaryUsage_amount hrequests haccepted (hinput.trans (congrArg _ husage))
    | outputTokens => exact aggregateBoundaryUsage_amount hrequests haccepted (houtput.trans (congrArg _ husage))
    | providerCostMicrounits =>
      exact aggregateBoundaryUsage_amount hrequests haccepted (hcost.trans (congrArg _ husage))
  case retrieved_iff =>
    rw [retrievedBytes_observed_iff hretrieved,
      uncertainBoundaryUsage_eq_false hrequests (respectsKeys_boundaryKind .retrieval)]
    simp only [beq_iff_eq]
  case modelRequests => rw [countStarted_requests hrequests hmodel]
  case toolCalls => rw [countStarted_requests hrequests htool]

def sampleSha256 : String :=
  "e3b0c44298fc1c149afbf4c8996fb92427ae41e4649b934ca495991b7852b855"

def sampleDeclaration : Definition.ReplayBoundaryDeclaration where
  boundaryId := "boundary_1"
  execution := .liveProvider {
    credentialId := "credential_1"
    credentialVersionId := "credential_version_1"
    destinationHostname := "api.example.com"
    destinationPort := 443
    destinationScheme := "https"
    endpointProfileDefinitionSha256 := sampleSha256
    endpointProfileId := "profile_1"
    endpointProfileVersion := "1.0.0"
    operation := "chat"
    requestBytes := 1024
    responseBytes := 1024
    sideEffect := .readOnly
    usageSource := .measured
  }
  kind := .model

def sampleResult : ReplayBoundaryExecutionResult where
  actualRequest := ⟨⟨"agent-adapter", "1.0.0"⟩, "request_1", .model, sampleSha256, 1⟩
  boundaryId := "boundary_1"
  declaration := sampleDeclaration
  effectCertainty := .none
  effectRetrySafety := none
  executionOrigin := .live
  mode := .liveProvider
  output := .normalizedResponse ⟨⟨"agent-adapter", "1.0.0"⟩, "AA", "base64url", sampleSha256, 1⟩
  schemaVersion := "0.1"
  usage := [⟨.inputTokens, .observed 12 .measured⟩, ⟨.outputTokens, .observed 7 .measured⟩]

def sampleObservation (phase : BoundaryExecutionPhase) : ReplayExecutionObservationPayload :=
  .boundary ⟨false, "boundary_1", .model, .none, sampleSha256, .live, .liveProvider, phase⟩

def sampleToolStarted : ReplayExecutionObservationPayload :=
  .boundary ⟨false, "boundary_2", .tool, .none, sampleSha256, .simulated, .simulation, .requestStarted⟩

def sampleAttemptOptions : MeasureReplayAttemptUsageOptions where
  boundaryResults := [some sampleResult]
  elapsedMilliseconds := some 250
  emittedArtifactBytes := some 0
  executionObservations :=
    [some (sampleObservation .requestStarted), some (sampleObservation .responseObserved), some sampleToolStarted]

def sampleUsage : ReplayUsageMeasurements
  | .concurrentInteractions => measured 1
  | .elapsedMilliseconds => measured 250
  | .emittedArtifactBytes => measured 0
  | .inputTokens => .observed 12 .measured
  | .jobAttempts => measured 1
  | .modelRequests => measured 1
  | .outputTokens => .observed 7 .measured
  | .providerCostMicrounits => .unavailable .sourceUnavailable
  | .retrievedBytes => measured 0
  | .toolCalls => measured 1

theorem sampleSha256_accepted : Sha256Schema sampleSha256 = true :=
  (sha256Schema_ofList _).trans rfl

theorem sampleResult_accepted : sampleResult.Accepted := by
  constructor
  case actualRequest => exact ⟨by decide, by decide, sampleSha256_accepted, by decide⟩
  case declaration =>
    refine ⟨by decide, ?_⟩
    constructor
    case endpointProfileDefinitionSha256 => exact sampleSha256_accepted
    all_goals decide
  case output => exact ⟨by decide, by decide, rfl, sampleSha256_accepted, by decide⟩
  all_goals decide

theorem measureReplayAttemptUsage_sample
    : ∃ usage, measureReplayAttemptUsage sampleAttemptOptions = .ok usage
        ∧ (∀ dimension, usage dimension = sampleUsage dimension)
        ∧ ∃ (observations : List ReplayExecutionObservationPayload) (results : List ReplayBoundaryExecutionResult)
            (requests : List BoundaryRequest),
            sampleAttemptOptions.executionObservations = observations.map some
            ∧ sampleAttemptOptions.boundaryResults = results.map some
            ∧ RequestsOf (observations.filterMap boundaryObservation) results requests
            ∧ MeasuresRequests requests usage := by
  have hresults : parseResults sampleAttemptOptions.boundaryResults = .ok [sampleResult] :=
    mapM_parse_eq_ok.mpr ⟨rfl, List.forall_mem_singleton.mpr sampleResult_accepted⟩
  have hobservations : parseObservations sampleAttemptOptions.executionObservations
      = .ok [sampleObservation .requestStarted, sampleObservation .responseObserved, sampleToolStarted] := by
    refine mapM_parse_eq_ok.mpr ⟨rfl, ?_⟩
    simp only [List.forall_mem_cons]
    exact ⟨⟨by decide, sampleSha256_accepted, by decide⟩, ⟨by decide, sampleSha256_accepted, by decide⟩,
      ⟨by decide, sampleSha256_accepted, by decide⟩, nofun⟩
  have hmeasured : (measureReplayAttemptUsage sampleAttemptOptions).toOption.any (fun usage =>
      replayBudgetDimensions.all (fun dimension => usage dimension = sampleUsage dimension)) = true := by
    unfold measureReplayAttemptUsage
    rw [hresults, hobservations]
    decide
  rcases exists_of_any hmeasured with ⟨usage, husage, hvalues⟩
  refine ⟨usage, husage, ?_, measureReplayAttemptUsage_contract sampleAttemptOptions usage husage⟩
  intro dimension
  simpa using List.all_eq_true.mp hvalues dimension (mem_replayBudgetDimensions dimension)

end Worker
end ProofStack
