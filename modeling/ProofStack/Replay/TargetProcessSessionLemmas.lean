import ProofStack.Replay.TargetProcessSession

/-!
This module contains what one call of a session can do, and which calls leave a closed session as it is.
-/

namespace ProofStack
namespace Replay
namespace Process

open Checks StateMachine

namespace Session

variable {v : Version} {s : Session v}

namespace Call

def isResponse : Call v → Bool
  | .respondToBoundary _ => true
  | .respondToClock => true
  | .respondToRandom _ => true
  | _ => false

def isUnguarded : Call v → Bool
  | .start => true
  | command => command.isResponse

end Call

inductive Performed (s : Session v) : Call v → Except SessionError (Reply v) → Session v → Prop where
  | fails {command : Call v} {code : ReplayTargetProcessProtocolErrorCode}
    : Performed s command (.error (.protocol code)) s.failed
  | throws {command : Call v} {error : SessionError} : Performed s command (.error error) s
  | started (hstatus : s.statusValue = .created)
    : Performed s .start (.ok (.started s.startMessageValue)) { s with statusValue := .awaitingReady }
  | ready {message : v.Target} {targetAdapter : ReplayReleaseTargetAdapterReference}
      {workerProtocol : WorkerProtocolReference} (hbody : message.body = .ready targetAdapter workerProtocol)
      (hstatus : s.statusValue = .awaitingReady)
    : Performed s (.acceptTargetMessage (some message)) (.ok (.target message))
        { s with statusValue := .ready }
  | completed {message : v.Target} {requestCount : Nat} (hbody : message.body = .completed requestCount)
      (hstatus : s.statusValue = .ready) (hcount : requestCount = s.acceptedRequestCount)
    : Performed s (.acceptTargetMessage (some message)) (.ok (.target message))
        { s with statusValue := .completed }
  | accepted {message : v.Target} {pending : PendingRequest v.Request}
      (hbody : message.body = .request pending) (hstatus : s.statusValue = .ready)
      (hsequence : pending.requestSequence = s.acceptedRequestCount)
      (hfresh : v.requestId pending ∉ s.seenRequestIds)
    : Performed s (.acceptTargetMessage (some message)) (.ok (.target message))
        { s with
          seenRequestIds := v.requestId pending :: s.seenRequestIds
          pendingRequest := some pending
          statusValue := .awaitingResponse }
  | responded {command : Call v} {message : v.Worker} (results : List v.Result)
      (hcommand : command.isResponse = true) (hstatus : s.statusValue = .awaitingResponse)
    : Performed s command (.ok (.worker message)) { s with results }.finishPendingRequest
  | closed {command : Call v} {message : v.Worker} {status : ReplayTargetProcessSessionStatus}
      (hcommand : command.isResponse = false) (hopen : s.statusValue.isClosed = false)
      (hstatus : status = .stopped ∨ status = .aborted)
    : Performed s command (.ok (.worker message)) (s.close status)
  | reported {message : v.Worker} (hstatus : s.statusValue = .failed)
    : Performed s .protocolFailureMessage (.ok (.worker message)) s

theorem requireStartedWorkerSession_eq_ok {u : Unit} (h : s.requireStartedWorkerSession = .ok u)
    : s.statusValue.isClosed = false := by
  unfold requireStartedWorkerSession at h
  rcases bind_eq_ok.mp h with ⟨_, hclosed, _⟩
  simpa using failIf_eq_ok.mp hclosed

theorem requirePending_eq_ok {pending : PendingRequest v.Request} (h : s.requirePending = .ok pending)
    : s.statusValue = .awaitingResponse ∧ s.pendingRequest = some pending := by
  unfold requirePending at h
  simp only [bind_eq_ok, failIf_eq_ok, found_eq_ok, not_not] at h
  rcases h with ⟨_, hstatus, hpending⟩
  exact ⟨hstatus, hpending⟩

variable {result : Reply v × Session v}

theorem acceptRequest_performed {message : v.Target} {pending : PendingRequest v.Request}
    (hbody : message.body = .request pending)
    (h : s.acceptRequest message pending = .ok result)
    : Performed s (.acceptTargetMessage (some message)) (.ok result.1) result.2 := by
  unfold acceptRequest at h
  simp only [bind_eq_ok, failIf_eq_ok, not_not, pure_eq_ok] at h
  rcases h with ⟨_, hstatus, _, hsequence, boundary, _, _, _, _, hfresh, rfl⟩
  exact .accepted hbody hstatus hsequence hfresh

theorem acceptTargetMessage_performed {input : Option v.Target}
    (h : s.acceptTargetMessage input = .ok result)
    : Performed s (.acceptTargetMessage input) (.ok result.1) result.2 := by
  unfold acceptTargetMessage at h
  simp only [bind_eq_ok, found_eq_ok, parseWith_eq_ok, failIf_eq_ok, not_not] at h
  rcases h with ⟨_, _, message, rfl, _, ⟨_, rfl⟩, _, _, h⟩
  split at h
  . next hbody =>
    simp only [bind_eq_ok, failIf_eq_ok, not_not, pure_eq_ok] at h
    rcases h with ⟨_, hstatus, _, _, _, _, rfl⟩
    exact .ready hbody hstatus
  . next hbody =>
    simp only [bind_eq_ok, failIf_eq_ok, not_not, pure_eq_ok] at h
    rcases h with ⟨_, hstatus, _, hcount, rfl⟩
    exact .completed hbody hstatus hcount
  . next hbody => exact acceptRequest_performed hbody h

theorem respondToBoundary_performed {input : Option v.Result}
    (h : s.respondToBoundary input = .ok result)
    : Performed s (.respondToBoundary input) (.ok result.1) result.2 := by
  unfold respondToBoundary at h
  rcases bind_eq_ok.mp h with ⟨pending, hpending, h⟩
  cases pending with
  | boundary boundaryId request requestSequence =>
    simp only [bind_eq_ok, pure_eq_ok] at h
    rcases h with ⟨_, _, _, _, _, _, message, _, rfl⟩
    exact .responded _ rfl (requirePending_eq_ok hpending).1
  | clock boundaryId requestId requestSequence => contradiction
  | random boundaryId length requestId requestSequence => contradiction

theorem respondToClock_performed (h : s.respondToClock = .ok result)
    : Performed s .respondToClock (.ok result.1) result.2 := by
  unfold respondToClock at h
  rcases bind_eq_ok.mp h with ⟨pending, hpending, h⟩
  cases pending with
  | boundary boundaryId request requestSequence => contradiction
  | clock boundaryId requestId requestSequence =>
    simp only [bind_eq_ok, pure_eq_ok] at h
    rcases h with ⟨_, _, message, _, rfl⟩
    exact .responded s.results rfl (requirePending_eq_ok hpending).1
  | random boundaryId length requestId requestSequence => contradiction

theorem respondToRandom_performed {bytes : Encoding.Bytes}
    (h : s.respondToRandom bytes = .ok result)
    : Performed s (.respondToRandom bytes) (.ok result.1) result.2 := by
  unfold respondToRandom at h
  rcases bind_eq_ok.mp h with ⟨pending, hpending, h⟩
  cases pending with
  | boundary boundaryId request requestSequence => contradiction
  | clock boundaryId requestId requestSequence => contradiction
  | random boundaryId length requestId requestSequence =>
    simp only [bind_eq_ok, pure_eq_ok] at h
    rcases h with ⟨_, _, _, _, message, _, rfl⟩
    exact .responded s.results rfl (requirePending_eq_ok hpending).1

theorem method_performed {command : Call v} (h : s.method command = .ok result)
    : Performed s command (.ok result.1) result.2 := by
  cases command with
  | start =>
    simp only [method, start, bind_eq_ok, failIf_eq_ok, not_not, pure_eq_ok] at h
    rcases h with ⟨_, hstatus, rfl⟩
    exact .started hstatus
  | acceptTargetMessage input => exact acceptTargetMessage_performed h
  | respondToBoundary input => exact respondToBoundary_performed h
  | respondToClock => exact respondToClock_performed h
  | respondToRandom bytes => exact respondToRandom_performed h
  | stop reason =>
    simp only [method, stop, bind_eq_ok, pure_eq_ok] at h
    rcases h with ⟨_, hopen, _, _, message, _, rfl⟩
    exact .closed rfl (requireStartedWorkerSession_eq_ok hopen) (Or.inl rfl)
  | abort code =>
    simp only [method, abort, bind_eq_ok, pure_eq_ok] at h
    rcases h with ⟨_, hopen, _, _, message, _, rfl⟩
    exact .closed rfl (requireStartedWorkerSession_eq_ok hopen) (Or.inr rfl)
  | protocolFailureMessage =>
    simp only [method, protocolFailureMessage, bind_eq_ok, failIf_eq_ok, not_not, pure_eq_ok] at h
    rcases h with ⟨_, hstatus, message, _, rfl⟩
    exact .reported hstatus

theorem call_performed (s : Session v) (command : Call v)
    : Performed s command (s.call command).1 (s.call command).2 := by
  unfold call
  cases hmethod : s.method command with
  | ok result => exact method_performed hmethod
  | error refusal =>
    cases refusal with
    | fails code => exact .fails
    | throws error => exact .throws

theorem sends_cases (s : Session v) (body : WorkerMessageBody v.Boundary v.Output)
    : (∃ message, s.sends body = .ok message) ∨ s.sends body = .error (.throws .schema) := by
  unfold sends parseWith
  dsimp only
  split
  . exact Or.inl ⟨_, rfl⟩
  . exact Or.inr rfl

theorem method_of_closed {command : Call v} (hclosed : s.statusValue.isClosed = true)
    (hguarded : command.isUnguarded = false)
    : (s.call command).2 = s := by
  cases command with
  | start => contradiction
  | acceptTargetMessage input =>
    have hmethod : s.method (.acceptTargetMessage input) = .error (.throws (.protocol .sessionClosed)) := by
      simp only [method, acceptTargetMessage, requireOpenTargetSession, failIf, if_pos hclosed]
      rfl
    rw [call, hmethod]
  | respondToBoundary input => contradiction
  | respondToClock => contradiction
  | respondToRandom bytes => contradiction
  | stop reason =>
    have hmethod : s.method (.stop reason) = .error (.throws (.protocol .sessionClosed)) := by
      simp only [method, stop, requireStartedWorkerSession, failIf, if_pos hclosed]
      rfl
    rw [call, hmethod]
  | abort code =>
    have hmethod : s.method (.abort code) = .error (.throws (.protocol .sessionClosed)) := by
      simp only [method, abort, requireStartedWorkerSession, failIf, if_pos hclosed]
      rfl
    rw [call, hmethod]
  | protocolFailureMessage =>
    by_cases hstatus : s.statusValue = .failed
    . rcases sends_cases s (.abort .sessionContractRejected) with ⟨message, hsends⟩ | hsends
      . have hmethod : s.method .protocolFailureMessage = .ok (.worker message, s) := by
          rw [method, protocolFailureMessage, failIf, if_neg (not_not_intro hstatus), hsends]
          rfl
        rw [call, hmethod]
      . have hmethod : s.method .protocolFailureMessage = .error (.throws .schema) := by
          rw [method, protocolFailureMessage, failIf, if_neg (not_not_intro hstatus), hsends]
          rfl
        rw [call, hmethod]
    . rw [call, method, protocolFailureMessage, failIf_bind_of_true hstatus]

theorem method_of_unguarded {command : Call v} (hclosed : s.statusValue.isClosed = true)
    (hunguarded : command.isUnguarded = true)
    : (s.call command).2 = s.failed := by
  have hcreated : s.statusValue ≠ .created := by
    intro h
    rw [h] at hclosed
    contradiction
  have hawaiting : s.statusValue ≠ .awaitingResponse := by
    intro h
    rw [h] at hclosed
    contradiction
  have hpending : s.requirePending = .error (.fails .unexpectedMessage) := by
    rw [requirePending, failIf_bind_of_true hawaiting]
  cases command with
  | start =>
    have hmethod : s.method .start = .error (.fails .unexpectedMessage) := by
      rw [method, start, failIf_bind_of_true hcreated]
    rw [call, hmethod]
  | respondToBoundary input =>
    have hmethod : s.method (.respondToBoundary input) = .error (.fails .unexpectedMessage) := by
      rw [method, respondToBoundary, hpending]
      rfl
    rw [call, hmethod]
  | respondToClock =>
    have hmethod : s.method .respondToClock = .error (.fails .unexpectedMessage) := by
      rw [method, respondToClock, hpending]
      rfl
    rw [call, hmethod]
  | respondToRandom bytes =>
    have hmethod : s.method (.respondToRandom bytes) = .error (.fails .unexpectedMessage) := by
      rw [method, respondToRandom, hpending]
      rfl
    rw [call, hmethod]
  | acceptTargetMessage input => contradiction
  | stop reason => contradiction
  | abort code => contradiction
  | protocolFailureMessage => contradiction

end Session

end Process
end Replay
end ProofStack
