import Mathlib.Data.List.Chain
import ProofStack.Replay.TargetProcessSessionLemmas

/-!
This module contains what holds of the runs of a session.
-/

namespace ProofStack
namespace Replay
namespace Process

open Checks StateMachine

namespace Session

variable {v : Version}

inductive Event (v : Version) where
  | accepted (request : PendingRequest v.Request)
  | responded (message : v.Worker)

namespace Event

def isRequest : Event v → Bool
  | .accepted _ => true
  | .responded _ => false

def request : Event v → Option (PendingRequest v.Request)
  | .accepted request => some request
  | .responded _ => none

def ofEntry : Call v × Except SessionError (Reply v) → Option (Event v)
  | (_, .ok (.target message)) =>
    match message.body with
    | .request pending => some (.accepted pending)
    | _ => none
  | (command, .ok (.worker message)) => if command.isResponse then some (.responded message) else none
  | _ => none

end Event

def Alternates (events : List (Event v)) : Prop :=
  events.IsChain (fun event event' => event.isRequest ≠ event'.isRequest)
    ∧ ∀ event ∈ events.head?, event.isRequest = true

def endsWithRequest (events : List (Event v)) : Bool :=
  events.getLast?.any Event.isRequest

theorem Alternates.append {events : List (Event v)} {event : Event v} (h : Alternates events)
    (hevent : event.isRequest = !endsWithRequest events)
    : Alternates (events ++ [event]) := by
  rcases h with ⟨hchain, hhead⟩
  cases hlast : events.getLast? with
  | none =>
    rw [List.getLast?_eq_none_iff] at hlast
    subst hlast
    exact ⟨List.isChain_singleton event, fun _ hmem => Option.some.inj hmem ▸ hevent⟩
  | some last =>
    have hdiffers : last.isRequest ≠ event.isRequest := by
      rw [hevent, endsWithRequest, hlast]
      simp
    refine ⟨List.isChain_append.mpr ⟨hchain, List.isChain_singleton event, ?_⟩, ?_⟩
    . intro event' hmem event'' hmem'
      rw [hlast] at hmem
      exact Option.some.inj hmem ▸ Option.some.inj hmem' ▸ hdiffers
    . intro event' hmem
      have hne : events ≠ [] := by
        intro hnil
        rw [hnil] at hlast
        contradiction
      rw [List.head?_append_of_ne_nil _ hne] at hmem
      exact hhead event' hmem

def history (s : Session v) (calls : List (Call v)) : List (Event v) :=
  (transcript call s calls).filterMap Event.ofEntry

def requests (events : List (Event v)) : List (PendingRequest v.Request) :=
  events.filterMap Event.request

def after (s : Session v) (calls : List (Call v)) : Session v :=
  final call s calls

structure Recorded (events : List (Event v)) (s : Session v) : Prop where
  alternates : Alternates events
  sequences : (requests events).map (·.requestSequence) = List.range (requests events).length
  requestIds : (requests events).map v.requestId = s.seenRequestIds.reverse
  nodup : s.seenRequestIds.Nodup
  pending : s.statusValue ≠ .awaitingResponse → s.pendingRequest = none
  turn : s.statusValue.isClosed = false →
    endsWithRequest events = decide (s.statusValue = .awaitingResponse)
  counted : s.statusValue.isClosed = false →
    (requests events).length = s.acceptedRequestCount + (endsWithRequest events).toNat

namespace Recorded

variable {events : List (Event v)} {s : Session v}

theorem initial (startMessage : v.Start) : Recorded [] (initial startMessage) where
  alternates := ⟨List.isChain_nil, fun _ hmem => nomatch hmem⟩
  sequences := rfl
  requestIds := rfl
  nodup := List.nodup_nil
  pending := fun _ => rfl
  turn := fun _ => rfl
  counted := fun _ => rfl

theorem close (h : Recorded events s) {status : ReplayTargetProcessSessionStatus}
    (hclosed : status.isClosed = true)
    : Recorded events (s.close status) where
  alternates := h.alternates
  sequences := h.sequences
  requestIds := h.requestIds
  nodup := h.nodup
  pending := fun _ => rfl
  turn := fun hopen => absurd hclosed (ne_true_of_eq_false hopen)
  counted := fun hopen => absurd hclosed (ne_true_of_eq_false hopen)

theorem withStatus (h : Recorded events s) {previous status : ReplayTargetProcessSessionStatus}
    (hprevious : s.statusValue = previous) (hopen : previous.isClosed = false)
    (hanswered : previous ≠ .awaitingResponse) (hnext : status ≠ .awaitingResponse)
    : Recorded events { s with statusValue := status } := by
  subst hprevious
  constructor
  case alternates => exact h.alternates
  case sequences => exact h.sequences
  case requestIds => exact h.requestIds
  case nodup => exact h.nodup
  case pending => exact fun _ => h.pending hanswered
  case turn => exact fun _ => by rw [h.turn hopen, decide_eq_false hanswered, decide_eq_false hnext]
  case counted => exact fun _ => h.counted hopen

theorem accepted (h : Recorded events s) {pending : PendingRequest v.Request}
    (hstatus : s.statusValue = .ready) (hsequence : pending.requestSequence = s.acceptedRequestCount)
    (hfresh : v.requestId pending ∉ s.seenRequestIds)
    : Recorded (events ++ [.accepted pending])
        { s with
          seenRequestIds := v.requestId pending :: s.seenRequestIds
          pendingRequest := some pending
          statusValue := .awaitingResponse } := by
  have hopen : s.statusValue.isClosed = false := by rw [hstatus]; rfl
  have hends : endsWithRequest events = false := by rw [h.turn hopen, hstatus]; rfl
  have hlength : (requests events).length = s.acceptedRequestCount := by
    rw [h.counted hopen, hends]
    rfl
  have hrequests : requests (events ++ [.accepted pending]) = requests events ++ [pending] :=
    List.filterMap_append
  have hlast : endsWithRequest (events ++ [.accepted pending]) = true := by
    rw [endsWithRequest, List.getLast?_concat]
    rfl
  constructor
  case alternates =>
    refine h.alternates.append ?_
    rw [hends]
    rfl
  case sequences =>
    rw [hrequests, List.map_append, h.sequences, List.length_append, hlength]
    simp only [List.map_cons, List.map_nil, List.length_cons, List.length_nil, List.range_succ, hsequence]
  case requestIds =>
    rw [hrequests, List.map_append, h.requestIds, List.reverse_cons]
    rfl
  case nodup => exact List.nodup_cons.mpr ⟨hfresh, h.nodup⟩
  case pending => exact fun hne => absurd rfl hne
  case turn => exact fun _ => hlast
  case counted =>
    intro _
    rw [hlast, hrequests, List.length_append, hlength]
    rfl

theorem responded (h : Recorded events s) {message : v.Worker} (results : List v.Result)
    (hstatus : s.statusValue = .awaitingResponse)
    : Recorded (events ++ [.responded message]) { s with results }.finishPendingRequest := by
  have hopen : s.statusValue.isClosed = false := by rw [hstatus]; rfl
  have hends : endsWithRequest events = true := by rw [h.turn hopen, hstatus]; rfl
  have hlength : (requests events).length = s.acceptedRequestCount + 1 := by
    rw [h.counted hopen, hends]
    rfl
  have hrequests : requests (events ++ [.responded message]) = requests events := by
    rw [requests, List.filterMap_append]
    exact List.append_nil _
  have hlast : endsWithRequest (events ++ [.responded message]) = false := by
    rw [endsWithRequest, List.getLast?_concat]
    rfl
  constructor
  case alternates =>
    refine h.alternates.append ?_
    rw [hends]
    rfl
  case sequences => rw [hrequests, h.sequences]
  case requestIds => rw [hrequests, h.requestIds]; rfl
  case nodup => exact h.nodup
  case pending => exact fun _ => rfl
  case turn => exact fun _ => hlast
  case counted =>
    intro _
    rw [hlast, hrequests, hlength]
    rfl

theorem step (events : List (Event v)) (s : Session v) (command : Call v) (h : Recorded events s)
    : Recorded (events ++ (Event.ofEntry (command, (s.call command).1)).toList) (s.call command).2 := by
  have hperformed := call_performed s command
  generalize (s.call command).1 = reply at hperformed ⊢
  generalize (s.call command).2 = s' at hperformed ⊢
  cases hperformed with
  | fails => exact (List.append_nil events).symm ▸ h.close rfl
  | throws => exact (List.append_nil events).symm ▸ h
  | started hstatus =>
    exact (List.append_nil events).symm ▸ h.withStatus hstatus rfl (by decide) (by decide)
  | ready hbody hstatus | completed hbody hstatus =>
    rw [Event.ofEntry, hbody]
    exact (List.append_nil events).symm ▸ h.withStatus hstatus rfl (by decide) (by decide)
  | accepted hbody hstatus hsequence hfresh =>
    rw [Event.ofEntry, hbody]
    exact h.accepted hstatus hsequence hfresh
  | responded results hcommand hstatus =>
    rw [Event.ofEntry, if_pos hcommand]
    exact h.responded results hstatus
  | closed hcommand hopen hstatus =>
    rw [Event.ofEntry, if_neg (ne_true_of_eq_false hcommand)]
    refine (List.append_nil events).symm ▸ h.close ?_
    rcases hstatus with rfl | rfl <;> rfl
  | reported hstatus => exact (List.append_nil events).symm ▸ h

theorem run (startMessage : v.Start) (calls : List (Call v))
    : Recorded ((Session.initial startMessage).history calls) ((Session.initial startMessage).after calls) := by
  refine Transcript.holds (I := fun entries s => Recorded (entries.filterMap Event.ofEntry) s) ?_
    (initial startMessage) calls
  intro entries s command h
  rw [List.filterMap_append]
  exact step _ s command h

end Recorded

structure Contract (s : Session v) (calls : List (Call v)) : Prop where
  alternates : Alternates (s.history calls)
  sequences : (requests (s.history calls)).map (·.requestSequence)
    = List.range (requests (s.history calls)).length
  requestIds : ((requests (s.history calls)).map v.requestId).Nodup
  completes : ∀ command, (s.after calls).statusValue ≠ .completed →
    (s.after (calls ++ [command])).statusValue = .completed →
    ∃ message requestCount, command = .acceptTargetMessage (some message)
      ∧ message.body = .completed requestCount
      ∧ requestCount = (requests (s.history calls)).length
      ∧ (s.after calls).pendingRequest = none

def KeepsOutcome (s : Session v) (calls : List (Call v)) : Prop :=
  ∀ earlier command later, calls = earlier ++ command :: later →
    (s.after earlier).statusValue.isClosed = true →
    (s.after (earlier ++ [command])).statusValue = (s.after earlier).statusValue

def RespectsOutcome (s : Session v) (calls : List (Call v)) : Prop :=
  ∀ earlier command later, calls = earlier ++ command :: later →
    (s.after earlier).statusValue ∈
      [ReplayTargetProcessSessionStatus.completed, .stopped, .aborted] →
    command.isUnguarded = false

theorem after_append_singleton (s : Session v) (calls : List (Call v)) (command : Call v)
    : s.after (calls ++ [command]) = ((s.after calls).call command).2 := by
  rw [after, final_append]
  rfl

theorem completed_of_call {s : Session v} {command : Call v} (hbefore : s.statusValue ≠ .completed)
    (hafter : (s.call command).2.statusValue = .completed)
    : s.statusValue = .ready ∧ ∃ message, command = .acceptTargetMessage (some message)
        ∧ message.body = .completed s.acceptedRequestCount := by
  have hperformed := call_performed s command
  generalize (s.call command).1 = reply at hperformed
  generalize (s.call command).2 = s' at hperformed hafter
  cases hperformed with
  | completed hbody hstatus hcount => exact ⟨hstatus, _, rfl, hcount ▸ hbody⟩
  | closed hcommand hopen hstatus =>
    rcases hstatus with rfl | rfl
    . contradiction
    . contradiction
  | throws => exact absurd hafter hbefore
  | reported hstatus => exact absurd hafter hbefore
  | fails => contradiction
  | started hstatus => contradiction
  | ready hbody hstatus => contradiction
  | accepted hbody hstatus hsequence hfresh => contradiction
  | responded results hcommand hstatus => contradiction

theorem contract (startMessage : v.Start) (calls : List (Call v))
    : Contract (initial startMessage) calls := by
  have h := Recorded.run startMessage calls
  constructor
  case alternates => exact h.alternates
  case sequences => exact h.sequences
  case requestIds =>
    rw [h.requestIds, List.nodup_reverse]
    exact h.nodup
  case completes =>
    intro command hbefore hafter
    rw [after_append_singleton] at hafter
    rcases completed_of_call hbefore hafter with ⟨hready, message, hcommand, hbody⟩
    have hopen : ((initial startMessage).after calls).statusValue.isClosed = false := by rw [hready]; rfl
    have hanswered : ((initial startMessage).after calls).statusValue ≠ .awaitingResponse := by
      rw [hready]
      decide
    refine ⟨message, _, hcommand, hbody, ?_, h.pending hanswered⟩
    rw [h.counted hopen, h.turn hopen, decide_eq_false hanswered]
    rfl

theorem keepsOutcome_iff (s : Session v) (calls : List (Call v))
    : s.KeepsOutcome calls ↔ s.RespectsOutcome calls := by
  constructor
  . intro h earlier command later hcalls hstatus
    cases hunguarded : command.isUnguarded with
    | false => rfl
    | true =>
      have hclosed : (s.after earlier).statusValue.isClosed = true := by
        simp only [List.mem_cons, List.not_mem_nil, or_false] at hstatus
        rcases hstatus with hstatus | hstatus | hstatus <;> rw [hstatus] <;> rfl
      have hkept := h earlier command later hcalls hclosed
      rw [after_append_singleton, method_of_unguarded hclosed hunguarded] at hkept
      rw [← hkept] at hstatus
      contradiction
  . intro h earlier command later hcalls hclosed
    rw [after_append_singleton]
    cases hunguarded : command.isUnguarded with
    | false => rw [method_of_closed hclosed hunguarded]
    | true =>
      rw [method_of_unguarded hclosed hunguarded]
      cases hstatus : (s.after earlier).statusValue with
      | failed => rfl
      | completed | stopped | aborted =>
        have hguarded := h earlier command later hcalls (by rw [hstatus]; decide)
        exact absurd hunguarded (ne_true_of_eq_false hguarded)
      | awaitingReady | awaitingResponse | created | ready => rw [hstatus] at hclosed; contradiction

theorem initial_of_create {input : Option v.Start} {s : Session v} (h : create input = .ok s)
    : ∃ startMessage, s = initial startMessage := by
  unfold create at h
  simp only [bind_eq_ok, pure_eq_ok] at h
  rcases h with ⟨_, _, startMessage, _, rfl⟩
  exact ⟨startMessage, rfl⟩

theorem create_of_accepted {startMessage : v.Start}
    (h : startMessage.Accepted v.schemaVersion (fun boundary => v.acceptedBoundary boundary = true)
      v.boundaryId v.invocation)
    : create (some startMessage) = .ok (initial startMessage) := by
  unfold create
  simp only [bind_eq_ok, pure_eq_ok]
  exact ⟨startMessage, rfl, startMessage, parseWith_eq_ok.mpr ⟨h, rfl⟩, rfl⟩

end Session

/-- Every run keeps the contract of its session, and keeps its outcome where no start and no response is
called after it. -/
theorem targetProcessSessions_keep_contract (sha256 : Encoding.Bytes → String)
    : (∀ input (s : ReplayTargetProcessSession sha256), Session.create input = .ok s → ∀ calls,
        s.Contract calls ∧ (s.KeepsOutcome calls ↔ s.RespectsOutcome calls))
      ∧ ∀ input (s : ReplayTargetProcessV2Session sha256), Session.create input = .ok s → ∀ calls,
        s.Contract calls ∧ (s.KeepsOutcome calls ↔ s.RespectsOutcome calls) := by
  constructor
  . intro input s hcreate calls
    rcases Session.initial_of_create hcreate with ⟨startMessage, rfl⟩
    exact ⟨Session.contract startMessage calls, Session.keepsOutcome_iff _ calls⟩
  . intro input s hcreate calls
    rcases Session.initial_of_create hcreate with ⟨startMessage, rfl⟩
    exact ⟨Session.contract startMessage calls, Session.keepsOutcome_iff _ calls⟩

namespace SessionSample

open Boundary Definition

def digest (_ : Encoding.Bytes) : String :=
  "ba7816bf8f01cfea414140de5dae2223b00361a396177a9cb410ff61f20015ad"

def targetRelease : TargetReleaseReference where
  definitionSha256 := digest []
  targetAdapter := ⟨"agent-adapter", "1", "1.0.0"⟩
  targetId := "target_1"
  targetReleaseId := "target_release_1"
  workerProtocol := ⟨"worker-protocol", "1"⟩

def boundary : RecordedReplayProcessBoundary where
  boundaryId := "boundary_1"
  invocation := {
    fixture := ⟨digest [], "fixture_1", "fixture_version_1"⟩
    invocationId := "invocation_1"
    runtime := {
      boundaryMode := "recorded_stub"
      clock := ⟨"2026-01-01T00:00:00.000Z", "fixed"⟩
      isolationMode := "cooperative_in_process"
      locale := "en-US"
      networkPolicy := "deny_fallback"
      random := ⟨"hmac_sha256_counter_v1", "seeded", digest []⟩
      timeZone := "Europe/Berlin"
    }
    schemaVersion := "0.1"
    targetAdapter := ⟨"agent-adapter", "1.0.0"⟩
  }
  invocationDefinitionSha256 := digest []

def startMessage : (version1 digest).Start where
  boundaries := [boundary]
  schemaVersion := "0.1"
  sessionId := "session_1"
  targetRelease

def startMessageV2 : (version2 digest).Start where
  boundaries := [⟨"boundary_1", .tool, .simulation⟩]
  schemaVersion := "0.2"
  sessionId := "session_1"
  targetRelease

def completingCalls {v : Version} : List (Session.Call v) :=
  [.start,
    .acceptTargetMessage (some {
      body := .ready targetRelease.targetAdapter targetRelease.workerProtocol
      schemaVersion := v.schemaVersion
      sessionId := "session_1"
    }),
    .acceptTargetMessage (some {
      body := .completed 0
      schemaVersion := v.schemaVersion
      sessionId := "session_1"
    })]

theorem digest_accepted (bytes : Encoding.Bytes) : Sha256Schema (digest bytes) = true :=
  (sha256Schema_ofList _).trans rfl

theorem targetRelease_accepted : targetRelease.Accepted :=
  ⟨digest_accepted [], by decide, by decide, by decide, by decide⟩

theorem boundary_accepted : boundary.Accepted := by
  refine ⟨by decide, ?_, digest_accepted []⟩
  constructor
  case fixture => exact ⟨digest_accepted [], by decide, by decide⟩
  case runtime =>
    constructor
    case seedHex => exact digest_accepted []
    all_goals decide
  all_goals decide

theorem create_startMessage
    : Session.create (some startMessage) = .ok (Session.initial startMessage)
      ∧ Session.create (some startMessageV2) = .ok (Session.initial startMessageV2) := by
  constructor
  . apply Session.create_of_accepted
    constructor
    case boundaries => exact List.forall_mem_singleton.mpr (decide_eq_true boundary_accepted)
    case targetRelease => exact targetRelease_accepted
    all_goals decide
  . apply Session.create_of_accepted
    constructor
    case targetRelease => exact targetRelease_accepted
    all_goals decide

theorem not_keepsOutcome_respondToClock
    : (∃ s : ReplayTargetProcessSession digest, Session.create (some startMessage) = .ok s
        ∧ (s.after completingCalls).statusValue = .completed
        ∧ (s.after (completingCalls ++ [.respondToClock])).statusValue = .failed
        ∧ ¬s.KeepsOutcome (completingCalls ++ [.respondToClock]))
      ∧ ∃ s : ReplayTargetProcessV2Session digest, Session.create (some startMessageV2) = .ok s
        ∧ (s.after completingCalls).statusValue = .completed
        ∧ (s.after (completingCalls ++ [.respondToClock])).statusValue = .failed
        ∧ ¬s.KeepsOutcome (completingCalls ++ [.respondToClock]) := by
  constructor
  . refine ⟨_, create_startMessage.1, by decide, by decide, ?_⟩
    intro h
    exact absurd (h completingCalls .respondToClock [] rfl (by decide)) (by decide)
  . refine ⟨_, create_startMessage.2, by decide, by decide, ?_⟩
    intro h
    exact absurd (h completingCalls .respondToClock [] rfl (by decide)) (by decide)

theorem respectsOutcome_completingCalls {v : Version} (startMessage : v.Start)
    : (Session.initial startMessage).RespectsOutcome completingCalls := by
  intro earlier command later hcalls hstatus
  cases earlier with
  | nil => contradiction
  | cons first earlier =>
    rw [completingCalls, List.cons_append, List.cons.injEq] at hcalls
    have hmem : command ∈ earlier ++ command :: later := List.mem_append_right _ List.mem_cons_self
    rw [← hcalls.2, List.mem_cons, List.mem_singleton] at hmem
    rcases hmem with rfl | rfl
    . rfl
    . rfl

theorem targetProcessSessions_keep_contract_completingCalls
    : (Session.initial startMessage).KeepsOutcome completingCalls
      ∧ (Session.initial startMessageV2).KeepsOutcome completingCalls := by
  have h := targetProcessSessions_keep_contract digest
  have hrun := h.1 (some startMessage) _ create_startMessage.1 completingCalls
  have hrun' := h.2 (some startMessageV2) _ create_startMessage.2 completingCalls
  exact ⟨hrun.2.mpr (respectsOutcome_completingCalls startMessage),
    hrun'.2.mpr (respectsOutcome_completingCalls startMessageV2)⟩

end SessionSample

end Process
end Replay
end ProofStack
