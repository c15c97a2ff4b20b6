import ProofStack.Replay.BoundaryResolver

/-!
This module contains what one call of the resolver can do, and the invariant of a resolver.
-/

namespace ProofStack
namespace Replay
namespace Boundary

open Checks Encoding StateMachine

def ResolverError.isViolation : ResolverError → Bool
  | .contract _ => true
  | .mismatch _ _ => true
  | .schema => false

namespace RecordedBoundaryResolver

inductive Resolved (sha256 : Bytes → String) (attempts : List PreparedRecordedBoundaryAttempt)
    (resolver : RecordedBoundaryResolver) : RequestInput → Reply → RecordedBoundaryResolver → Prop where
  | refused {input : RequestInput} {error : ResolverError} (hopen : resolver.requireOpen = .error error)
    : Resolved sha256 attempts resolver input (.error error) resolver
  | violated {input : RequestInput} {code : RecordedBoundaryTargetContractErrorCode}
      (hopen : resolver.requireOpen = .ok ())
    : Resolved sha256 attempts resolver input (.error (.contract code))
        { resolver with contractFailure := some code, closed := true }
  | mismatched {request : RecordedBoundaryRequest} {details : RecordedBoundaryMismatch}
      (hopen : resolver.requireOpen = .ok ()) (hfresh : request.boundaryRequestId ∉ resolver.requestIds)
      (hdetails : details.actualRequest = actualRequest sha256 request)
      (haccepted : (RecordedBoundaryReplayObservation.mismatch details
        resolver.recordedObservations.length).Accepted)
    : Resolved sha256 attempts resolver (.request request)
        (.error (.mismatch details resolver.recordedObservations.length))
        { (resolver.received request).observe (.mismatch details resolver.recordedObservations.length) with
          mismatch := some (details, resolver.recordedObservations.length), closed := true }
  | matched {request : RecordedBoundaryRequest} {attempt : PreparedRecordedBoundaryAttempt}
      (hopen : resolver.requireOpen = .ok ()) (hfresh : request.boundaryRequestId ∉ resolver.requestIds)
      (hattempt : attempts[resolver.consumed]? = some attempt)
      (hmatches : (actualRequest sha256 request).Matches attempt.expectedRequest)
      (haccepted : (RecordedBoundaryReplayObservation.matched
        (attempt.response (actualRequest sha256 request)).resolution
        resolver.recordedObservations.length).Accepted)
    : Resolved sha256 attempts resolver (.request request)
        (.ok (attempt.response (actualRequest sha256 request)))
        { (resolver.received request).observe (.matched
            (attempt.response (actualRequest sha256 request)).resolution
            resolver.recordedObservations.length) with consumed := resolver.consumed + 1 }
  | failed {request : RecordedBoundaryRequest} (hopen : resolver.requireOpen = .ok ())
    : Resolved sha256 attempts resolver (.request request) (.error .schema) (resolver.received request)

theorem mismatchCode_eq_none {actual : RecordedBoundaryActualRequestMetadata}
    {expected : Option RecordedBoundaryExpectedRequest}
    : mismatchCode actual expected = none ↔ ∃ request ∈ expected, actual.Matches request := by
  cases expected with
  | none => simp [mismatchCode]
  | some expected =>
    unfold mismatchCode RecordedBoundaryActualRequestMetadata.Matches
    simp only [Option.mem_some_iff, exists_eq_left']
    split
    . next h => simp [h]
    . split
      . next h => simp [h]
      . split
        . next h => simp [h]
        . split
          . next h => simp [h]
          . simp_all

variable {sha256 : Bytes → String} {attempts : List PreparedRecordedBoundaryAttempt}
  {resolver : RecordedBoundaryResolver}

theorem resolved_answer {request : RecordedBoundaryRequest} (hopen : resolver.requireOpen = .ok ())
    (hfresh : request.boundaryRequestId ∉ resolver.requestIds)
    : Resolved sha256 attempts resolver (.request request)
        (answer attempts (resolver.received request) (actualRequest sha256 request)).1
        (answer attempts (resolver.received request) (actualRequest sha256 request)).2 := by
  unfold answer
  split
  . dsimp only [rejectMismatch]
    split
    . next haccepted => exact .mismatched hopen hfresh rfl haccepted
    . exact .failed hopen
  . next attempt hcode hattempt =>
    rw [hattempt, mismatchCode_eq_none] at hcode
    rcases hcode with ⟨expected, hexpected, hmatches⟩
    cases hexpected
    dsimp only [returnRecorded]
    split
    . next haccepted => exact .matched hopen hfresh hattempt hmatches haccepted.2
    . exact .failed hopen
  . exact .failed hopen

theorem safeParse_eq_some {input : RequestInput} {request : RecordedBoundaryRequest}
    (h : input.safeParse = some request)
    : input = .request request := by
  unfold RequestInput.safeParse at h
  split at h
  . split at h
    . cases h
      rfl
    . contradiction
  . contradiction

theorem resolved_resolve (input : RequestInput)
    : Resolved sha256 attempts resolver input (resolve sha256 attempts resolver input).1
        (resolve sha256 attempts resolver input).2 := by
  unfold resolve
  split
  . next hopen => exact .refused hopen
  . next hopen hparse => exact .violated hopen
  . next hopen hparse =>
    cases safeParse_eq_some hparse
    split
    . exact .violated hopen
    . next hfresh => exact resolved_answer hopen hfresh

theorem requireOpen_eq_ok
    : resolver.requireOpen = .ok ()
      ↔ resolver.mismatch = none ∧ resolver.contractFailure = none ∧ resolver.closed = false := by
  unfold requireOpen
  cases resolver.mismatch with
  | some mismatch => simp
  | none =>
    cases resolver.contractFailure with
    | some code => simp
    | none => simp

structure Observed (observations : List RecordedBoundaryReplayObservation) (requestIds : List String)
    : Prop where
  accepted : ∀ observation ∈ observations, observation.Accepted
  sequences : observations.map (·.sequence) = List.range observations.length
  ids_nodup : (observations.map (·.boundaryRequestId)).Nodup
  ids_received : ∀ observation ∈ observations, observation.boundaryRequestId ∈ requestIds

namespace Observed

variable {observations : List RecordedBoundaryReplayObservation} {requestIds : List String}

theorem receive (h : Observed observations requestIds) (requestId : String)
    : Observed observations (requestId :: requestIds) where
  accepted := h.accepted
  sequences := h.sequences
  ids_nodup := h.ids_nodup
  ids_received := fun observation hobservation =>
    List.mem_cons_of_mem requestId (h.ids_received observation hobservation)

theorem push (h : Observed observations requestIds) {observation : RecordedBoundaryReplayObservation}
    (haccepted : observation.Accepted) (hsequence : observation.sequence = observations.length)
    (hfresh : observation.boundaryRequestId ∉ requestIds)
    : Observed (observations ++ [observation]) (observation.boundaryRequestId :: requestIds) where
  accepted := by
    rw [List.forall_mem_append, List.forall_mem_singleton]
    exact ⟨h.accepted, haccepted⟩
  sequences := by
    rw [List.map_append, h.sequences, List.length_append, List.length_singleton, List.range_succ,
      List.map_singleton, hsequence]
  ids_nodup := by
    rw [List.map_append, List.map_singleton, ← List.concat_eq_append, List.nodup_concat]
    refine ⟨?_, h.ids_nodup⟩
    rw [List.mem_map]
    rintro ⟨other, hother, hid⟩
    exact hfresh (hid ▸ h.ids_received other hother)
  ids_received := by
    rw [List.forall_mem_append, List.forall_mem_singleton]
    exact ⟨(h.receive _).ids_received, List.mem_cons_self⟩

end Observed

structure WellFormed (attempts : List PreparedRecordedBoundaryAttempt) (resolver : RecordedBoundaryResolver)
    : Prop where
  consumed_le : resolver.consumed ≤ attempts.length
  observed : Observed resolver.recordedObservations resolver.requestIds
  matched : ∃ matched, resolver.recordedObservations
      = matched ++ (resolver.mismatch.map (fun mismatch =>
        RecordedBoundaryReplayObservation.mismatch mismatch.1 mismatch.2)).toList
    ∧ (∀ observation ∈ matched, observation.isMatched = true)
    ∧ matched.length = resolver.consumed

theorem wellFormed_initial (attempts : List PreparedRecordedBoundaryAttempt)
    : WellFormed attempts initial where
  consumed_le := Nat.zero_le _
  observed := ⟨List.forall_mem_nil _, rfl, List.nodup_nil, List.forall_mem_nil _⟩
  matched := ⟨[], rfl, List.forall_mem_nil _, rfl⟩

theorem Resolved.wellFormed {input : RequestInput} {reply : Reply} {resolver' : RecordedBoundaryResolver}
    (h : Resolved sha256 attempts resolver input reply resolver') (hresolver : WellFormed attempts resolver)
    : WellFormed attempts resolver' := by
  cases h with
  | refused hopen => exact hresolver
  | violated hopen => exact ⟨hresolver.consumed_le, hresolver.observed, hresolver.matched⟩
  | mismatched hopen hfresh hdetails haccepted =>
    rename_i request details
    have hid : details.actualRequest.boundaryRequestId = request.boundaryRequestId := by
      rw [hdetails]
      rfl
    have hpush := hresolver.observed.push haccepted rfl (by rw [← hid] at hfresh; exact hfresh)
    have hobserved : Observed (resolver.recordedObservations
        ++ [.mismatch details resolver.recordedObservations.length])
        (request.boundaryRequestId :: resolver.requestIds) := hid ▸ hpush
    rcases hresolver.matched with ⟨matched, hobservations, hmatched, hlength⟩
    rw [(requireOpen_eq_ok.mp hopen).1] at hobservations
    refine ⟨hresolver.consumed_le, hobserved, matched, ?_, hmatched, hlength⟩
    change resolver.recordedObservations ++ _ = _
    rw [hobservations]
    simp
  | matched hopen hfresh hattempt hmatches haccepted =>
    rename_i request attempt
    have hobserved := hresolver.observed.push haccepted rfl hfresh
    have hmismatch := (requireOpen_eq_ok.mp hopen).1
    have hlt := (List.getElem?_eq_some_iff.mp hattempt).1
    rcases hresolver.matched with ⟨matched, hobservations, hmatched, hlength⟩
    rw [hmismatch] at hobservations
    refine ⟨hlt, hobserved, resolver.recordedObservations ++ [.matched
      (attempt.response (actualRequest sha256 request)).resolution resolver.recordedObservations.length],
      ?_, ?_, ?_⟩
    . change resolver.recordedObservations ++ _ = _ ++ (resolver.mismatch.map _).toList
      rw [hmismatch, Option.map_none, Option.toList_none, List.append_nil]
    . rw [hobservations, List.forall_mem_append, List.forall_mem_singleton]
      simp only [Option.map_none, Option.toList_none, List.append_nil]
      exact ⟨hmatched, rfl⟩
    . rw [hobservations]
      simp only [Option.map_none, Option.toList_none, List.append_nil, List.length_append, hlength]
      rfl
  | failed hopen =>
    exact ⟨hresolver.consumed_le, hresolver.observed.receive _, hresolver.matched⟩

def successes (history : List (RequestInput × Reply)) : List (RequestInput × RecordedBoundaryResponse) :=
  history.filterMap (fun entry => entry.2.toOption.map (fun response => (entry.1, response)))

def Violates (history : List (RequestInput × Reply)) : Prop :=
  ∃ entry ∈ history, ∃ error, entry.2 = .error error ∧ error.isViolation = true

def ReturnsAttempt (sha256 : Bytes → String) (exchange : RequestInput × RecordedBoundaryResponse)
    (attempt : PreparedRecordedBoundaryAttempt) : Prop :=
  ∃ request, exchange.1 = .request request
    ∧ (actualRequest sha256 request).Matches attempt.expectedRequest
    ∧ exchange.2 = attempt.response (actualRequest sha256 request)

def latched (resolver : RecordedBoundaryResolver) : Bool :=
  resolver.mismatch.isSome || resolver.contractFailure.isSome

structure Agrees (sha256 : Bytes → String) (attempts : List PreparedRecordedBoundaryAttempt)
    (history : List (RequestInput × Reply)) (resolver : RecordedBoundaryResolver) : Prop where
  returned : List.Forall₂ (ReturnsAttempt sha256) (successes history) (attempts.take resolver.consumed)
  latched : resolver.latched = true ↔ Violates history
  closed : resolver.closed = true → resolver.latched = true

theorem successes_append (history history' : List (RequestInput × Reply))
    : successes (history ++ history') = successes history ++ successes history' :=
  List.filterMap_append

theorem successes_append_error (history : List (RequestInput × Reply)) (input : RequestInput)
    (error : ResolverError)
    : successes (history ++ [(input, .error error)]) = successes history := by
  rw [successes_append]
  exact List.append_nil _

theorem violates_append_singleton {history : List (RequestInput × Reply)} {input : RequestInput}
    {reply : Reply}
    : Violates (history ++ [(input, reply)])
      ↔ Violates history ∨ ∃ error, reply = .error error ∧ error.isViolation = true := by
  simp only [Violates, List.mem_append, List.mem_singleton, or_and_right, exists_or, exists_eq_left]

theorem latched_eq_false_of_open (hopen : resolver.requireOpen = .ok ()) : resolver.latched = false := by
  rcases requireOpen_eq_ok.mp hopen with ⟨hmismatch, hfailure, _⟩
  rw [latched, hmismatch, hfailure]
  rfl

theorem latched_of_requireOpen {error : ResolverError} (hopen : resolver.requireOpen = .error error)
    (hclosed : resolver.closed = true → resolver.latched = true)
    : resolver.latched = true ∧ error.isViolation = true := by
  unfold requireOpen at hopen
  split at hopen
  . next hmismatch =>
    cases hopen
    rw [latched, hmismatch]
    exact ⟨rfl, rfl⟩
  . next hmismatch hfailure =>
    cases hopen
    rw [latched, hmismatch, hfailure]
    exact ⟨rfl, rfl⟩
  . unfold failIf at hopen
    split at hopen
    . next h =>
      cases hopen
      exact ⟨hclosed h, rfl⟩
    . contradiction

theorem Resolved.agrees {history : List (RequestInput × Reply)} {input : RequestInput} {reply : Reply}
    {resolver' : RecordedBoundaryResolver} (h : Resolved sha256 attempts resolver input reply resolver')
    (hagrees : Agrees sha256 attempts history resolver)
    : Agrees sha256 attempts (history ++ [(input, reply)]) resolver' := by
  cases h with
  | refused hopen =>
    have hlatched := latched_of_requireOpen hopen hagrees.closed
    refine ⟨?_, ?_, hagrees.closed⟩
    . rw [successes_append_error]
      exact hagrees.returned
    . rw [violates_append_singleton]
      exact ⟨fun _ => Or.inr ⟨_, rfl, hlatched.2⟩, fun _ => hlatched.1⟩
  | violated | mismatched =>
    refine ⟨?_, ?_, ?_⟩
    . rw [successes_append_error]
      exact hagrees.returned
    . rw [violates_append_singleton]
      exact ⟨fun _ => Or.inr ⟨_, rfl, rfl⟩, fun _ => by simp [latched]⟩
    . intro _
      simp [latched]
  | matched hopen hfresh hattempt hmatches haccepted =>
    have hlatched := latched_eq_false_of_open hopen
    have hclosed := (requireOpen_eq_ok.mp hopen).2.2
    refine ⟨?_, ?_, ?_⟩
    . change List.Forall₂ _ _ (attempts.take (resolver.consumed + 1))
      rw [successes_append, List.take_add_one, hattempt]
      exact List.rel_append hagrees.returned (.cons ⟨_, rfl, hmatches, rfl⟩ .nil)
    . rw [violates_append_singleton, ← hagrees.latched]
      change resolver.latched = true ↔ _
      simp [hlatched]
    . intro h
      exact absurd (hclosed ▸ h) Bool.false_ne_true
  | failed hopen =>
    refine ⟨?_, ?_, hagrees.closed⟩
    . rw [successes_append_error]
      exact hagrees.returned
    . rw [violates_append_singleton, ← hagrees.latched]
      change resolver.latched = true ↔ _
      simp [ResolverError.isViolation]

theorem agrees_initial (sha256 : Bytes → String) (attempts : List PreparedRecordedBoundaryAttempt)
    : Agrees sha256 attempts [] initial where
  returned := .nil
  latched := by simp [latched, initial, Violates]
  closed := by simp [initial]

theorem holds_resolve (sha256 : Bytes → String) (attempts : List PreparedRecordedBoundaryAttempt)
    (inputs : List RequestInput)
    : Agrees sha256 attempts (transcript (resolve sha256 attempts) initial inputs)
        (final (resolve sha256 attempts) initial inputs)
      ∧ WellFormed attempts (final (resolve sha256 attempts) initial inputs) := by
  refine Transcript.holds (I := fun history resolver =>
    Agrees sha256 attempts history resolver ∧ WellFormed attempts resolver) ?_
    ⟨agrees_initial sha256 attempts, wellFormed_initial attempts⟩ inputs
  intro history resolver input h
  have hresolved : Resolved sha256 attempts resolver input _ _ := resolved_resolve input
  exact ⟨hresolved.agrees h.1, hresolved.wellFormed h.2⟩

theorem successes_of_latched (hlatched : resolver.latched = true) (inputs : List RequestInput)
    : successes (transcript (resolve sha256 attempts) resolver inputs) = [] := by
  have hstep : ∀ resolver input, latched resolver = true →
      (resolve sha256 attempts resolver input).1.toOption = none
        ∧ latched (resolve sha256 attempts resolver input).2 = true := by
    intro resolver input hlatched
    have hresolved : Resolved sha256 attempts resolver input _ _ := resolved_resolve input
    generalize resolve sha256 attempts resolver input = result at hresolved ⊢
    cases result with
    | mk reply resolver' =>
      cases hresolved with
      | refused hopen => exact ⟨rfl, hlatched⟩
      | _ hopen => exact absurd (latched_eq_false_of_open hopen) (by rw [hlatched]; decide)
  rw [successes, List.filterMap_eq_nil_iff]
  intro entry hentry
  have hnone : entry.2.toOption = none :=
    Transcript.forall (P := fun resolver => latched resolver = true)
      (Q := fun _ reply => reply.toOption = none) hstep hlatched inputs entry hentry
  rw [hnone]
  rfl

end RecordedBoundaryResolver

end Boundary
end Replay
end ProofStack
