import ProofStack.Replay.BoundaryResolverLemmas

/-!
This module contains the proof that a replay is completed iff every recorded attempt was returned in its
order, nothing was violated and the target did not throw.
-/

namespace ProofStack
namespace Replay
namespace Boundary

open Checks Definition Encoding Interaction StateMachine

namespace RuntimeControls

def Reply.isError : Reply → Bool
  | .error _ => true
  | _ => false

def Violates (history : List (Call × Reply)) : Prop :=
  ∃ entry ∈ history, entry.2.isError = true

structure Agrees (history : List (Call × Reply)) (controls : RuntimeControls) : Prop where
  open_ : controls.closed = false
  violated : controls.runtimeViolated = true ↔ Violates history
  clockReads_le : controls.clockReads ≤ history.length
  generated_le : controls.randomBytesGenerated ≤ maxRandomBytesPerInvocation
  requests_le : controls.randomRequests ≤ controls.randomBytesGenerated
  requests_pos : controls.randomRequests = 0 → controls.randomBytesGenerated = 0

variable {cipher : BlockCipher} {profile : RecordedBoundaryReplayRuntimeProfile}
  {history : List (Call × Reply)} {controls : RuntimeControls}

theorem violates_append_singleton {call : Call} {reply : Reply}
    : Violates (history ++ [(call, reply)]) ↔ Violates history ∨ reply.isError = true := by
  simp only [Violates, List.mem_append, List.mem_singleton, or_and_right, exists_or, exists_eq_left]

theorem validateRecordedReplayRandomRequest_eq_ok {generated count : Nat} {length : Host.Number}
    (h : validateRecordedReplayRandomRequest generated length = .ok count)
    : 1 ≤ count ∧ generated + count ≤ maxRandomBytesPerInvocation := by
  unfold validateRecordedReplayRandomRequest at h
  split at h
  . contradiction
  . split at h
    . contradiction
    . split at h
      . contradiction
      . next hrange hbudget =>
        cases h
        omega

theorem Agrees.violate (hagrees : Agrees history controls) (call : Call) (code : RuntimeControlErrorCode)
    : Agrees (history ++ [(call, .error code)]) { controls with runtimeViolated := true } where
  open_ := hagrees.open_
  violated := by
    rw [violates_append_singleton]
    exact ⟨fun _ => Or.inr rfl, fun _ => rfl⟩
  clockReads_le := by
    rw [List.length_append]
    exact Nat.le_add_right_of_le hagrees.clockReads_le
  generated_le := hagrees.generated_le
  requests_le := hagrees.requests_le
  requests_pos := hagrees.requests_pos

theorem agrees_serve (hagrees : Agrees history controls) (call : Call)
    : Agrees (history ++ [(call, (controls.serve cipher profile call).1)])
        (controls.serve cipher profile call).2 := by
  have hclocks : controls.clockReads + 1 ≤ history.length + 1 := Nat.succ_le_succ hagrees.clockReads_le
  cases call with
  | now =>
    have hserve : controls.serve cipher profile .now
        = (.instant profile.clock.instant, { controls with clockReads := controls.clockReads + 1 }) := by
      rw [serve, now, if_neg (by rw [hagrees.open_]; decide)]
    rw [hserve]
    refine ⟨hagrees.open_, ?_, ?_, hagrees.generated_le, hagrees.requests_le, hagrees.requests_pos⟩
    . rw [violates_append_singleton, ← hagrees.violated]
      simp [Reply.isError]
    . rw [List.length_append]
      exact hclocks
  | randomBytes length =>
    rw [serve, randomBytes, if_neg (by rw [hagrees.open_]; decide)]
    cases hvalid : validateRecordedReplayRandomRequest controls.randomBytesGenerated length with
    | error code => exact hagrees.violate _ code
    | ok count =>
      have hcount := validateRecordedReplayRandomRequest_eq_ok hvalid
      have hrequests := hagrees.requests_le
      refine ⟨hagrees.open_, ?_, ?_, hcount.2, ?_, ?_⟩
      . rw [violates_append_singleton, ← hagrees.violated]
        simp [Reply.isError]
      . rw [List.length_append]
        exact Nat.le_add_right_of_le hagrees.clockReads_le
      . change controls.randomRequests + 1 ≤ controls.randomBytesGenerated + count
        omega
      . intro h
        contradiction

theorem agrees_initial : Agrees [] initial where
  open_ := rfl
  violated := by simp [initial, Violates]
  clockReads_le := Nat.le_refl 0
  generated_le := Nat.zero_le _
  requests_le := Nat.le_refl 0
  requests_pos := fun _ => rfl

theorem holds_serve (cipher : BlockCipher) (profile : RecordedBoundaryReplayRuntimeProfile)
    (calls : List Call)
    : Agrees (transcript (serve cipher profile) initial calls)
        (final (serve cipher profile) initial calls) :=
  Transcript.holds (I := Agrees) (fun _ _ call hagrees => agrees_serve hagrees call) agrees_initial calls

theorem Agrees.accepted (hagrees : Agrees history controls) (hlength : history.length ≤ maxSafeInteger)
    : controls.evidence.Accepted := by
  have hclocks := hagrees.clockReads_le
  have hgenerated := hagrees.generated_le
  have hrequests := hagrees.requests_le
  have hpos := hagrees.requests_pos
  unfold maxRandomBytesPerInvocation at hgenerated
  unfold maxSafeInteger at hlength
  refine ⟨?_, ?_, ?_, ?_⟩
  . change controls.clockReads ≤ maxSafeInteger
    unfold maxSafeInteger
    omega
  . change controls.randomBytesGenerated ≤ maxSafeInteger
    unfold maxSafeInteger
    omega
  . change controls.randomRequests ≤ maxSafeInteger
    unfold maxSafeInteger
    omega
  . rw [RecordedBoundaryReplayRuntimeEvidence.issues, List.append_eq_nil_iff, issue_eq_nil, issue_eq_nil]
    change ¬(controls.randomRequests = 0 ∧ controls.randomBytesGenerated ≠ 0)
      ∧ ¬controls.randomRequests > controls.randomBytesGenerated
    omega

end RuntimeControls

open RecordedBoundaryResolver in
theorem status_eq_completed {prepared : PreparedRecordedBoundaryReplay}
    {resolver : RecordedBoundaryResolver} {controls : RuntimeControls} {targetFailed : Bool}
    : replayStatus prepared resolver controls targetFailed = .completed
      ↔ resolver.consumed = prepared.attempts.length ∧ resolver.latched = false
        ∧ controls.runtimeViolated = false ∧ targetFailed = false := by
  unfold replayStatus latched
  cases resolver.mismatch with
  | some mismatch => simp
  | none =>
    cases resolver.contractFailure with
    | some code => simp
    | none =>
      cases controls.runtimeViolated <;> cases targetFailed <;> simp

theorem reproducibility_accepted (status : RecordedBoundaryReplayResultStatus)
    : RecordedBoundaryReplayReproducibility.Accepted {
        classification := if status = .completed then .bounded else .unknown
        limitations := baseLimitations ++ (statusLimitation status).toList
        verifiedControls := if status = .completed then completedControls else partialControls
      } := by
  cases status <;> decide

section Result

variable {prepared : PreparedRecordedBoundaryReplay} {resolver : RecordedBoundaryResolver}
  {controls : RuntimeControls} {status : RecordedBoundaryReplayResultStatus}

theorem matchedCount_replayResult (h : resolver.WellFormed prepared.attempts)
    : (replayResult prepared resolver controls status).matchedCount = resolver.consumed := by
  rcases h.matched with ⟨matched, hobservations, hmatched, hlength⟩
  rw [RecordedBoundaryReplayResult.matchedCount, replayResult, hobservations, List.countP_append,
    List.countP_eq_length.mpr hmatched, hlength]
  cases resolver.mismatch <;> rfl

theorem mismatch_replayResult (h : resolver.WellFormed prepared.attempts)
    (hmismatch : resolver.mismatch.isSome = true)
    : (replayResult prepared resolver controls status).mismatchCount = 1
      ∧ resolver.recordedObservations.getLast?.all (·.isMatched) = false := by
  rcases h.matched with ⟨matched, hobservations, hmatched, _⟩
  rcases Option.isSome_iff_exists.mp hmismatch with ⟨mismatch, hmismatch⟩
  rw [hmismatch] at hobservations
  have hnone : matched.countP (fun observation => !observation.isMatched) = 0 := by
    rw [List.countP_eq_zero]
    intro observation hobservation
    simp [hmatched observation hobservation]
  constructor
  . rw [RecordedBoundaryReplayResult.mismatchCount, replayResult, hobservations, List.countP_append, hnone]
    rfl
  . rw [hobservations]
    simp [RecordedBoundaryReplayObservation.isMatched]

theorem allMatched_replayResult (h : resolver.WellFormed prepared.attempts)
    (hmismatch : resolver.mismatch.isSome = false)
    : ¬∃ observation ∈ resolver.recordedObservations, observation.isMatched = false := by
  rcases h.matched with ⟨matched, hobservations, hmatched, _⟩
  rw [Option.isSome_eq_false_iff, Option.isNone_iff_eq_none] at hmismatch
  rw [hmismatch, Option.map_none, Option.toList_none, List.append_nil] at hobservations
  rintro ⟨observation, hobservation, hnot⟩
  rw [hobservations] at hobservation
  rw [hmatched observation hobservation] at hnot
  contradiction

theorem length_observations_le (h : resolver.WellFormed prepared.attempts)
    : resolver.recordedObservations.length ≤ maxReplayObservations := by
  rcases h.matched with ⟨matched, hobservations, _, hlength⟩
  have hconsumed := h.consumed_le
  have hattempts := prepared.length_attempts.2
  have hlast : (resolver.mismatch.map (fun mismatch =>
      RecordedBoundaryReplayObservation.mismatch mismatch.1 mismatch.2)).toList.length ≤ 1 := by
    cases resolver.mismatch <;> simp
  rw [hobservations, List.length_append, hlength]
  unfold maxReplayObservations
  omega

theorem sharedIssues_replayResult (h : resolver.WellFormed prepared.attempts)
    : (replayResult prepared resolver controls status).sharedIssues = [] := by
  have hconsumed := h.consumed_le
  simp only [RecordedBoundaryReplayResult.sharedIssues, List.append_eq_nil_iff, issue_eq_nil,
    matchedCount_replayResult h]
  refine ⟨⟨⟨⟨?_, ?_⟩, ?_⟩, ?_⟩, ?_⟩
  . exact Nat.not_lt.mpr hconsumed
  . exact not_not_intro h.observed.sequences
  . exact not_not_intro h.observed.ids_nodup
  . exact not_not_intro rfl
  . apply not_not_intro
    intro limitation hlimitation
    exact List.mem_append_left _ hlimitation

theorem completedIssues_replayResult (h : resolver.WellFormed prepared.attempts)
    (hmismatch : resolver.mismatch.isSome = false) (hconsumed : resolver.consumed = prepared.attempts.length)
    : (replayResult prepared resolver controls .completed).completedIssues = [] := by
  rw [RecordedBoundaryReplayResult.completedIssues, issue_eq_nil]
  rintro (hcount | hobservation | hclassification | hcontrols | hlimitation)
  . exact hcount hconsumed
  . exact allMatched_replayResult h hmismatch hobservation
  . exact hclassification rfl
  . exact hcontrols (fun control hcontrol => hcontrol)
  . revert hlimitation
    change ¬∃ limitation ∈ baseLimitations ++ [], limitation ∈ terminalLimitations
    decide

theorem otherIssues_replayResult (h : resolver.WellFormed prepared.attempts)
    {required : RecordedBoundaryReplayLimitation} (hrequired : statusLimitation status = some required)
    (hmismatch : status = .mismatch ↔ resolver.mismatch.isSome = true)
    (hincomplete : status = .incomplete → resolver.consumed ≠ prepared.attempts.length)
    : (replayResult prepared resolver controls status).otherIssues required = [] := by
  have hlimitations : required ∈ baseLimitations ++ (statusLimitation status).toList
      ∧ ¬∃ limitation ∈ baseLimitations ++ (statusLimitation status).toList,
        limitation ∈ terminalLimitations ∧ limitation ≠ required := by
    cases status <;> cases hrequired <;> decide
  simp only [RecordedBoundaryReplayResult.otherIssues, List.append_eq_nil_iff, issue_eq_nil]
  refine ⟨⟨⟨⟨?_, ?_⟩, ?_⟩, ?_⟩, ?_⟩
  . cases status with
    | completed => contradiction
    | _ => exact not_not_intro rfl
  . rintro (habsent | hother)
    . exact habsent hlimitations.1
    . exact hlimitations.2 hother
  . rintro ⟨hstatus, hissue⟩
    have hresult : (replayResult prepared resolver controls status).mismatchCount = 1 ∧ _ :=
      mismatch_replayResult h (hmismatch.mp hstatus)
    rcases hissue with hcount | hlast
    . exact hcount hresult.1
    . exact absurd (hresult.2 ▸ hlast) Bool.false_ne_true
  . rintro ⟨hstatus, hobservation⟩
    have hnone : resolver.mismatch.isSome = false := by
      rw [← Bool.not_eq_true, ← hmismatch]
      exact hstatus
    exact allMatched_replayResult h hnone hobservation
  . rintro ⟨hstatus, hcount⟩
    have hconsumed := h.consumed_le
    have hne := hincomplete hstatus
    change resolver.consumed ≥ prepared.attempts.length at hcount
    omega

theorem issues_replayResult (h : resolver.WellFormed prepared.attempts) (targetFailed : Bool)
    (hstatus : replayStatus prepared resolver controls targetFailed = status)
    : (replayResult prepared resolver controls status).issues = [] := by
  have hmismatch : status = .mismatch ↔ resolver.mismatch.isSome = true := by
    rw [← hstatus, replayStatus]
    split
    . next h => simp [h]
    . next h =>
      simp only [h]
      split
      . simp
      . split <;> simp
  have hincomplete : status = .incomplete → resolver.consumed ≠ prepared.attempts.length := by
    rw [← hstatus, replayStatus]
    split
    . simp
    . split
      . simp
      . split <;> simp_all
  rw [RecordedBoundaryReplayResult.issues, sharedIssues_replayResult h, List.nil_append]
  cases hlimitation : statusLimitation status with
  | some required =>
    have hstatusOf : (replayResult prepared resolver controls status).status = status := rfl
    rw [hstatusOf, hlimitation]
    exact otherIssues_replayResult h hlimitation hmismatch hincomplete
  | none =>
    have hcompleted : status = .completed := by
      cases status with
      | completed => rfl
      | _ => contradiction
    subst hcompleted
    have hparts := status_eq_completed.mp hstatus
    have hnone : resolver.mismatch.isSome = false := by
      rw [← Bool.not_eq_true, ← hmismatch]
      decide
    exact completedIssues_replayResult h hnone hparts.1

theorem accepted_replayResult (h : resolver.WellFormed prepared.attempts)
    (hevidence : controls.evidence.Accepted) (targetFailed : Bool)
    (hstatus : replayStatus prepared resolver controls targetFailed = status)
    : (replayResult prepared resolver controls status).Accepted where
  consumedAttemptCount := Nat.le_trans h.consumed_le prepared.length_attempts.2
  expectedAttemptCount := prepared.length_attempts
  invocation := prepared.accepted_invocation
  invocationDefinitionSha256 := prepared.accepted_sha256
  observations := h.observed.accepted
  observations_length := length_observations_le h
  reproducibility := reproducibility_accepted status
  runtimeEvidence := hevidence
  schemaVersion := rfl
  issues := issues_replayResult h targetFailed hstatus

end Result

section Runs

open RecordedBoundaryResolver

variable (sha256 : Bytes → String) (cipher : BlockCipher) (prepared : PreparedRecordedBoundaryReplay)

def boundaryExchanges (run : TargetRun) : List (RequestInput × RecordedBoundaryResolver.Reply) :=
  (transcript (serve sha256 cipher prepared) (.initial, .initial) run.calls).filterMap leftEntry

def controlExchanges (run : TargetRun) : List (RuntimeControls.Call × RuntimeControls.Reply) :=
  (transcript (serve sha256 cipher prepared) (.initial, .initial) run.calls).filterMap rightEntry

structure Completes (run : TargetRun) : Prop where
  returned : List.Forall₂ (ReturnsAttempt sha256) (successes (boundaryExchanges sha256 cipher prepared run))
    prepared.attempts
  boundaries : ¬Violates (boundaryExchanges sha256 cipher prepared run)
  controls : ¬RuntimeControls.Violates (controlExchanges sha256 cipher prepared run)

theorem returned_iff {history : List (RequestInput × RecordedBoundaryResolver.Reply)}
    {resolver : RecordedBoundaryResolver} (hagrees : Agrees sha256 prepared.attempts history resolver)
    (hresolver : resolver.WellFormed prepared.attempts)
    : List.Forall₂ (ReturnsAttempt sha256) (successes history) prepared.attempts
      ↔ resolver.consumed = prepared.attempts.length := by
  have hlength := hagrees.returned.length_eq
  rw [List.length_take, Nat.min_eq_left hresolver.consumed_le] at hlength
  constructor
  . intro h
    rw [← hlength]
    exact h.length_eq
  . intro h
    have hreturned := hagrees.returned
    rwa [h, List.take_length] at hreturned

theorem status_completed_iff (run : TargetRun)
    : replayStatus prepared (final (serve sha256 cipher prepared) (.initial, .initial) run.calls).1
        (final (serve sha256 cipher prepared) (.initial, .initial) run.calls).2 run.throws = .completed
      ↔ Completes sha256 cipher prepared run ∧ run.throws = false := by
  have hboundaries : boundaryExchanges sha256 cipher prepared run
      = transcript (resolve sha256 prepared.attempts) initial (run.calls.filterMap Sum.getLeft?) :=
    filterMap_leftEntry _ run.calls
  have hcontrols : controlExchanges sha256 cipher prepared run
      = transcript (RuntimeControls.serve cipher prepared.invocation.runtime) .initial
        (run.calls.filterMap Sum.getRight?) :=
    filterMap_rightEntry _ run.calls
  have hresolver := holds_resolve sha256 prepared.attempts (run.calls.filterMap Sum.getLeft?)
  have hruntime := RuntimeControls.holds_serve cipher prepared.invocation.runtime
    (run.calls.filterMap Sum.getRight?)
  rw [← hboundaries] at hresolver
  rw [← hcontrols] at hruntime
  rw [status_eq_completed, serve, final_beside, ← returned_iff sha256 prepared hresolver.1 hresolver.2,
    ← Bool.not_eq_true, ← Bool.not_eq_true, hresolver.1.latched, hruntime.violated]
  constructor
  . rintro ⟨hreturned, hviolates, hviolates', hthrows⟩
    exact ⟨⟨hreturned, hviolates, hviolates'⟩, hthrows⟩
  . rintro ⟨h, hthrows⟩
    exact ⟨h.returned, h.boundaries, h.controls, hthrows⟩

theorem status_of_execute {run : TargetRun} {result : RecordedBoundaryReplayResult}
    (h : executeRecordedBoundaryReplay sha256 cipher (.ok prepared) (some run) = .ok result)
    : result.status
      = replayStatus prepared (final (serve sha256 cipher prepared) (.initial, .initial) run.calls).1
        (final (serve sha256 cipher prepared) (.initial, .initial) run.calls).2 run.throws := by
  have hresult := (parseWith_eq_ok.mp h).2
  rw [← hresult]
  rfl

theorem executeRecordedBoundaryReplay_returns (run : TargetRun) (hlength : run.calls.length ≤ maxSafeInteger)
    : ∃ result, executeRecordedBoundaryReplay sha256 cipher (.ok prepared) (some run) = .ok result := by
  have hresolver := (holds_resolve sha256 prepared.attempts (run.calls.filterMap Sum.getLeft?)).2
  have hruntime := RuntimeControls.holds_serve cipher prepared.invocation.runtime
    (run.calls.filterMap Sum.getRight?)
  have hcalls : (transcript (RuntimeControls.serve cipher prepared.invocation.runtime) .initial
      (run.calls.filterMap Sum.getRight?)).length ≤ maxSafeInteger := by
    rw [length_transcript]
    exact Nat.le_trans (List.length_filterMap_le _ _) hlength
  have haccepted := accepted_replayResult hresolver (hruntime.accepted hcalls) run.throws rfl
  refine ⟨_, parseWith_eq_ok.mpr ⟨?_, rfl⟩⟩
  rw [serve, final_beside]
  exact haccepted

theorem successes_after_violation (inputs : List RequestInput)
    {before after : List (RequestInput × RecordedBoundaryResolver.Reply)} {input : RequestInput}
    {error : ResolverError}
    (h : transcript (resolve sha256 prepared.attempts) initial inputs
      = before ++ (input, .error error) :: after)
    (hviolation : error.isViolation = true)
    : successes after = [] := by
  rcases Transcript.split h with ⟨earlier, command, later, _, hbefore, hentry, hafter⟩
  have hagrees := (holds_resolve sha256 prepared.attempts (earlier ++ [command])).1
  rw [transcript_append, final_append] at hagrees
  have hlatched := hagrees.latched.mpr
    ⟨(input, .error error), List.mem_append_right _ (hentry ▸ List.mem_singleton_self _), error, rfl,
      hviolation⟩
  rw [hafter]
  exact successes_of_latched hlatched later

theorem recordedBoundaryReplay
    : (∀ (inputs : List RequestInput) (position : Nat) (exchange : RequestInput × RecordedBoundaryResponse),
        (successes (transcript (resolve sha256 prepared.attempts) initial inputs))[position]? = some exchange →
        ∃ attempt, prepared.attempts[position]? = some attempt ∧ ReturnsAttempt sha256 exchange attempt)
      ∧ (∀ (inputs : List RequestInput)
        (before after : List (RequestInput × RecordedBoundaryResolver.Reply)) (input : RequestInput)
        (error : ResolverError),
        transcript (resolve sha256 prepared.attempts) initial inputs
          = before ++ (input, .error error) :: after →
        error.isViolation = true → successes after = [])
      ∧ ∀ run : TargetRun,
        (∀ result, executeRecordedBoundaryReplay sha256 cipher (.ok prepared) (some run) = .ok result →
          (result.status = .completed ↔ Completes sha256 cipher prepared run ∧ run.throws = false))
        ∧ (run.calls.length ≤ maxSafeInteger →
          ∃ result, executeRecordedBoundaryReplay sha256 cipher (.ok prepared) (some run) = .ok result) := by
  refine ⟨?_, ?_, ?_⟩
  . intro inputs position exchange hexchange
    have hreturned := (holds_resolve sha256 prepared.attempts inputs).1.returned
    rw [List.forall₂_iff_get] at hreturned
    rcases List.getElem?_eq_some_iff.mp hexchange with ⟨hlt, rfl⟩
    have hlt' : position < (prepared.attempts.take _).length := hreturned.1 ▸ hlt
    refine ⟨(prepared.attempts.take _)[position], ?_, hreturned.2 position hlt hlt'⟩
    rw [List.getElem_take]
    exact List.getElem?_eq_getElem _
  . intro inputs before after input error h hviolation
    exact successes_after_violation sha256 prepared inputs h hviolation
  . intro run
    refine ⟨?_, executeRecordedBoundaryReplay_returns sha256 cipher prepared run⟩
    intro result hresult
    rw [status_of_execute sha256 cipher prepared hresult]
    exact status_completed_iff sha256 cipher prepared run

end Runs

namespace BoundarySample

open RecordedBoundaryResolver

def digest (_ : Bytes) : String :=
  "ba7816bf8f01cfea414140de5dae2223b00361a396177a9cb410ff61f20015ad"

theorem digest_accepted (bytes : Bytes) : Sha256Schema (digest bytes) = true :=
  (sha256Schema_ofList _).trans rfl

def cipher : BlockCipher :=
  fun _ _ _ => 0

def timestamp : EvidenceTimestamp :=
  ⟨"2026-01-01T00:00:00Z", 1767225600000000⟩

def recordedAttempt : RecordedBoundaryAttempt :=
  .tool {
    base := ⟨"attempt_1", timestamp, some "timeout", .failed, 0, timestamp⟩
    argumentsArtifactId := "artifact_1"
    resultArtifactId := none
    effectMayHaveOccurred := false
    normalizedRequest := ⟨"tool-adapter", "1", "artifact_2", digest []⟩
    sideEffect := .readOnly
  } "call-1" "interaction_1" 0

def prepared : PreparedRecordedBoundaryReplay where
  attempts := [⟨recordedAttempt.expectedRequest, recordedAttempt, []⟩]
  invocation := {
    fixture := ⟨digest [], "fixture_1", "fixture_version_1"⟩
    invocationId := "invocation_1"
    runtime := {
      boundaryMode := "recorded_stub"
      clock := ⟨"2026-01-01T00:00:00.000Z", "fixed"⟩
      isolationMode := "cooperative_in_process"
      locale := "en-US"
      networkPolicy := "deny_fallback"
      random := ⟨"hmac_sha256_counter_v1", "seeded", digest []⟩
      timeZone := "Europe/Berlin"
    }
    schemaVersion := "0.1"
    targetAdapter := ⟨"agent-adapter", "1.0.0"⟩
  }
  invocationDefinitionSha256 := digest []
  length_attempts := by decide
  accepted_invocation := by
    constructor
    case fixture => exact ⟨digest_accepted [], by decide, by decide⟩
    case runtime =>
      constructor
      case seedHex => exact digest_accepted []
      all_goals decide
    all_goals decide
  accepted_sha256 := digest_accepted []

def request : RecordedBoundaryRequest where
  boundaryRequestId := "request_1"
  kind := .tool
  normalizedRequest := ⟨"tool-adapter", "1", "YWJj", "base64url"⟩
  schemaVersion := "0.1"

def run (throws : Bool) : TargetRun where
  calls := [.inl (.request request)]
  throws

theorem status_run
    : replayStatus prepared (final (serve digest cipher prepared) (.initial, .initial) (run false).calls).1
        (final (serve digest cipher prepared) (.initial, .initial) (run false).calls).2 false
      = .completed := by
  decide

theorem completes_run (throws : Bool) : Completes digest cipher prepared (run throws) := by
  rcases (status_completed_iff digest cipher prepared (run false)).mp status_run with ⟨h, _⟩
  exact ⟨h.returned, h.boundaries, h.controls⟩

theorem not_completed_throws
    : ∃ result, executeRecordedBoundaryReplay digest cipher (.ok prepared) (some (run true)) = .ok result
        ∧ result.status = .targetFailed ∧ Completes digest cipher prepared (run true) := by
  rcases executeRecordedBoundaryReplay_returns digest cipher prepared (run true) (by decide)
    with ⟨result, hresult⟩
  refine ⟨result, hresult, ?_, completes_run true⟩
  have hlatched := (status_eq_completed.mp status_run).2.1
  rw [latched, Bool.or_eq_false_iff] at hlatched
  rw [status_of_execute digest cipher prepared hresult]
  change replayStatus prepared (final (serve digest cipher prepared) (.initial, .initial) (run false).calls).1 _ true
    = _
  rw [replayStatus, hlatched.1, if_neg Bool.false_ne_true, if_pos (.inl rfl)]

theorem recordedBoundaryReplay_run
    : ∃ result, executeRecordedBoundaryReplay digest cipher (.ok prepared) (some (run false)) = .ok result
        ∧ result.status = .completed := by
  have hrun := (recordedBoundaryReplay digest cipher prepared).2.2 (run false)
  rcases hrun.2 (by decide) with ⟨result, hresult⟩
  exact ⟨result, hresult, (hrun.1 result hresult).mpr ⟨completes_run false, rfl⟩⟩

end BoundarySample

end Boundary
end Replay
end ProofStack
