import Mathlib.Data.List.Lex
import Mathlib.Data.Prod.Lex
import ProofStack.Checks
import ProofStack.Contracts.Text
import ProofStack.Json.RoundTrip
import ProofStack.Sequence.Cursor
import ProofStack.StateMachine.Atomic

/-!
This module contains the in-memory repository of evidence.
-/

namespace ProofStack
namespace Evidence

open Json Sequence StateMachine

structure EvidenceRecord (ν : Type) where
  eventId : String
  sequence : Option Nat
  startedAt : String
  traceId : String
  otherMembers : List (List UInt16 × Json ν)

structure EvidenceEnvelope (ν : Type) where
  evidence : EvidenceRecord ν
  receivedAt : String
  schemaVersion : String
  scope : EvidenceScope

inductive EvidenceError where
  | evidenceConflict (eventId : String)
  | notSerializable
  deriving DecidableEq

structure AppendEvidenceResult where
  acceptedEventIds : List String
  duplicateEventIds : List String
  deriving DecidableEq

structure EvidencePageCursor where
  eventId : String
  sequence : Nat
  startedAt : String
  deriving DecidableEq

structure EvidencePageOptions where
  after : Option EvidencePageCursor
  limit : Nat
  deriving DecidableEq

structure EvidencePage (ν : Type) where
  cursorFound : Bool
  events : List (EvidenceEnvelope ν)
  hasMore : Bool

variable {ν : Type}

def evidenceKey (envelope : EvidenceEnvelope ν) : String :=
  envelope.scope.tenantId ++ ":" ++ envelope.evidence.eventId

def cloneForJsonStorage [NumberText ν] (envelope : EvidenceEnvelope ν)
    : Except EvidenceError (EvidenceEnvelope ν) :=
  match parse (stringify (.object envelope.evidence.otherMembers)) with
  | some (.object members) =>
    .ok { envelope with evidence := { envelope.evidence with otherMembers := members } }
  | _ => .error .notSerializable

def isSameEnvelope [DecidableEq ν] (left right : EvidenceEnvelope ν) : Bool :=
  left.schemaVersion = right.schemaVersion
    && left.scope = right.scope
    && left.evidence.eventId = right.evidence.eventId
    && left.evidence.sequence = right.evidence.sequence
    && left.evidence.startedAt = right.evidence.startedAt
    && left.evidence.traceId = right.evidence.traceId
    && isJsonEquivalent (.object left.evidence.otherMembers) (.object right.evidence.otherMembers)

def matchesScope (envelope : EvidenceEnvelope ν) (scope : EvidenceScope) : Bool :=
  envelope.scope.tenantId = scope.tenantId
    && envelope.scope.projectId = scope.projectId
    && envelope.scope.environmentId = scope.environmentId

def evidenceCursor (envelope : EvidenceEnvelope ν) : EvidencePageCursor where
  eventId := envelope.evidence.eventId
  sequence := envelope.evidence.sequence.getD 0
  startedAt := envelope.evidence.startedAt

section Append

variable [NumberText ν] [DecidableEq ν]

abbrev Events (ν : Type) := List (EvidenceEnvelope ν)

def find (events : Events ν) (key : String) : Option (EvidenceEnvelope ν) :=
  Sequence.lookup evidenceKey events key

structure Pending (ν : Type) where
  events : Events ν
  acceptedEventIds : List String
  duplicateEventIds : List String

def appendEnvelope (events : Events ν) (pending : Pending ν) (envelope : EvidenceEnvelope ν)
    : Except EvidenceError (Pending ν) := do
  let ownedEnvelope ← cloneForJsonStorage envelope
  match (find pending.events (evidenceKey ownedEnvelope)).or (find events (evidenceKey ownedEnvelope)) with
  | none =>
    return { pending with
      events := pending.events ++ [ownedEnvelope]
      acceptedEventIds := pending.acceptedEventIds ++ [ownedEnvelope.evidence.eventId] }
  | some existing =>
    if isSameEnvelope existing ownedEnvelope then
      return { pending with
        duplicateEventIds := pending.duplicateEventIds ++ [ownedEnvelope.evidence.eventId] }
    else
      .error (.evidenceConflict ownedEnvelope.evidence.eventId)

def append (envelopes : List (EvidenceEnvelope ν))
    : EStateM EvidenceError (Events ν) AppendEvidenceResult := do
  let events ← get
  let pending ← attempting (envelopes.foldlM (appendEnvelope events) ⟨[], [], []⟩)
  set (events ++ pending.events)
  return ⟨pending.acceptedEventIds, pending.duplicateEventIds⟩

end Append

section List

variable (evidenceTimestampOrderKey : String → Int)

abbrev CanonicalKey := Int ×ₗ Nat ×ₗ List Nat

def canonicalKey (envelope : EvidenceEnvelope ν) : CanonicalKey :=
  toLex (evidenceTimestampOrderKey envelope.evidence.startedAt,
    toLex (envelope.evidence.sequence.getD 0, utf16Units envelope.evidence.eventId))

def matchesCursor (envelope : EvidenceEnvelope ν) (cursor : EvidencePageCursor) : Bool :=
  (evidenceCursor envelope).eventId = cursor.eventId
    && (evidenceCursor envelope).sequence = cursor.sequence
    && evidenceTimestampOrderKey (evidenceCursor envelope).startedAt
        = evidenceTimestampOrderKey cursor.startedAt

def matchesTrace (scope : EvidenceScope) (traceId : String) (envelope : EvidenceEnvelope ν) : Bool :=
  matchesScope envelope scope && envelope.evidence.traceId = traceId

def ordered (events : Events ν) (scope : EvidenceScope) (traceId : String) : Events ν :=
  sortBy (canonicalKey evidenceTimestampOrderKey) (events.filter (matchesTrace scope traceId))

def window (events : Events ν) (cursorIndex : Option Nat) (limit : Nat) : Events ν :=
  match cursorIndex with
  | none => events.take (limit + 1)
  | some index => (events.drop (index + 1)).take (limit + 1)

def pageOf [NumberText ν] (window : Events ν) (limit : Nat) : Except EvidenceError (EvidencePage ν) := do
  let events ← (window.take limit).mapM cloneForJsonStorage
  return { cursorFound := true, events := events, hasMore := window.length > limit }

def listByTrace [NumberText ν] (events : Events ν) (scope : EvidenceScope) (traceId : String)
    (options : EvidencePageOptions) : Except EvidenceError (EvidencePage ν) :=
  match options.after with
  | none =>
    pageOf (window (ordered evidenceTimestampOrderKey events scope traceId) none options.limit)
      options.limit
  | some after =>
    match (ordered evidenceTimestampOrderKey events scope traceId).findIdx?
        (matchesCursor evidenceTimestampOrderKey · after) with
    | none => .ok { cursorFound := false, events := [], hasMore := false }
    | some cursorIndex =>
      pageOf (window (ordered evidenceTimestampOrderKey events scope traceId) (some cursorIndex)
        options.limit) options.limit

end List

end Evidence
end ProofStack

/-!
This module contains the read of a whole trace in one page, with the checks that the page of any
repository has to pass.
-/

namespace ProofStack
namespace Evidence

open Checks

variable {ν : Type}

inductive SnapshotError where
  | range
  | evidenceRepositoryContract (message : String)
  | repository (error : EvidenceError)
  deriving DecidableEq

inductive ReadBoundedTraceSnapshotResult (ν : Type) where
  | found (events : List (EvidenceEnvelope ν))
  | notFound
  | tooLarge (maximumEvents : Nat)

structure CanonicalEvidenceKey where
  eventId : String
  sequence : Nat
  startedAt : Int
  deriving DecidableEq

structure EvidenceSchema (ν : Type) where
  evidenceTimestampOrderKey : String → Int
  safeParse : EvidenceEnvelope ν → Option (EvidenceEnvelope ν)

variable (schema : EvidenceSchema ν)

def canonicalEvidenceKey (envelope : EvidenceEnvelope ν) : CanonicalEvidenceKey where
  eventId := envelope.evidence.eventId
  sequence := envelope.evidence.sequence.getD 0
  startedAt := schema.evidenceTimestampOrderKey envelope.evidence.startedAt

def compareCanonicalOrder (left right : CanonicalEvidenceKey) : Ordering :=
  if left.startedAt < right.startedAt then .lt
  else if left.startedAt > right.startedAt then .gt
  else if left.sequence < right.sequence then .lt
  else if left.sequence > right.sequence then .gt
  else if left.eventId = right.eventId then .eq
  else if utf16Units left.eventId < utf16Units right.eventId then .lt
  else .gt

def contract (message : String) : SnapshotError :=
  .evidenceRepositoryContract message

def validateRepositoryEvents (input : List (EvidenceEnvelope ν)) (maximumEvents : Nat)
    : Except SnapshotError (List (EvidenceEnvelope ν)) := do
  failIf (input.length > maximumEvents)
    (contract "The evidence repository returned more trace events than requested")
  input.mapM (fun event => found (schema.safeParse event)
    (contract "The evidence repository returned an invalid trace event"))

def assertCanonicalEvents (eventIds : List String) (previousKey : Option CanonicalEvidenceKey)
    : List (EvidenceEnvelope ν) → Except SnapshotError Unit
  | [] => .ok ()
  | event :: events => do
    failIf (event.evidence.eventId ∈ eventIds)
      (contract "The evidence repository returned a duplicate trace event")
    failIf (∃ key ∈ previousKey, compareCanonicalOrder key (canonicalEvidenceKey schema event) ≠ .lt)
      (contract "The evidence repository returned trace events outside canonical order")
    assertCanonicalEvents (event.evidence.eventId :: eventIds)
      (some (canonicalEvidenceKey schema event)) events

def readBoundedTraceSnapshot
    (listByTrace : EvidenceScope → String → EvidencePageOptions → Except EvidenceError (EvidencePage ν))
    (scope : EvidenceScope) (traceId : String) (maximumEvents : Nat)
    : Except SnapshotError (ReadBoundedTraceSnapshotResult ν) := do
  failIf (maximumEvents > maxSafeInteger ∨ maximumEvents < 1) .range
  let page ← (listByTrace scope traceId ⟨none, maximumEvents⟩).mapError .repository
  let events ← validateRepositoryEvents schema page.events maximumEvents
  failIf (¬page.cursorFound) (contract "The evidence repository rejected a cursorless trace read")
  failIf (page.hasMore ∧ events.length ≠ maximumEvents)
    (contract "The evidence repository reported more trace events after a short page")
  failIf (∃ event ∈ events, ¬matchesTrace scope traceId event)
    (contract "The evidence repository returned an event outside the requested trace scope")
  assertCanonicalEvents schema [] none events
  if page.hasMore then
    return .tooLarge maximumEvents
  else if events.length = 0 then
    return .notFound
  else
    return .found events

end Evidence
end ProofStack
