import ProofStack.Evidence.TraceSnapshotLemmas
import ProofStack.StateMachine.Atomic
import ProofStack.StateMachine.Run

/-!
This module contains the runs of appends and page reads on one evidence repository.
-/

namespace ProofStack
namespace Evidence

open Checks Json Sequence StateMachine

variable {ν : Type} {schema : EvidenceSchema ν} {scope : EvidenceScope} {traceId : String}

theorem traceRows_subset {events events' : Events ν} (h : ∀ row ∈ events, row ∈ events')
    {row : EvidenceEnvelope ν} (hrow : row ∈ traceRows schema events scope traceId)
    : row ∈ traceRows schema events' scope traceId :=
  mem_traceRows.mpr ⟨h row (mem_traceRows.mp hrow).1, (mem_traceRows.mp hrow).2⟩

structure Session (ν : Type) where
  events : Events ν
  read : Events ν
  after : Option EvidencePageCursor
  hasMore : Bool
  refused : Bool

inductive Command (ν : Type) where
  | append (envelopes : List (EvidenceEnvelope ν))
  | readPage (limit : Nat)

def Session.start (events : Events ν) : Session ν where
  events := events
  read := []
  after := none
  hasMore := true
  refused := false

section Session

variable [NumberText ν] {session : Session ν}

def Session.readPage (schema : EvidenceSchema ν) (scope : EvidenceScope) (traceId : String)
    (session : Session ν) (limit : Nat) : Session ν :=
  match listByTrace schema.evidenceTimestampOrderKey session.events scope traceId
      ⟨session.after, limit⟩ with
  | .ok page =>
    if page.cursorFound then
      { session with
        read := session.read ++ page.events
        after := (page.events.getLast?.map evidenceCursor).or session.after
        hasMore := page.hasMore }
    else
      { session with refused := true }
  | .error _ => { session with refused := true }

theorem readPage_events (limit : Nat)
    : (session.readPage schema scope traceId limit).events = session.events := by
  unfold Session.readPage
  split
  . split <;> rfl
  . rfl

def Session.reader (schema : EvidenceSchema ν) (session : Session ν)
    : Reader (EvidenceEnvelope ν) CanonicalKey where
  read := session.read
  cursor := session.after.map (cursorKey schema)
  hasMore := session.hasMore

structure SessionInvariant (schema : EvidenceSchema ν) (scope : EvidenceScope) (traceId : String)
    (initial : Events ν) (session : Session ν) : Prop where
  stored : Stored schema session.events
  kept : ∀ row ∈ initial, row ∈ session.events
  cursor : IsCursor (traceRows schema session.events scope traceId) session.after
  refused : session.refused = false
  follows : Follows (keyOf schema) (traceRows schema initial scope traceId)
    (traceRows schema session.events scope traceId) (session.reader schema)

theorem sessionInvariant_start {events : Events ν} (h : Stored schema events)
    : SessionInvariant schema scope traceId events (Session.start events) where
  stored := h
  kept := fun _ hrow => hrow
  cursor := fun cursor hcursor => (Option.not_mem_none cursor hcursor).elim
  refused := rfl
  follows := follows_start _ _

theorem SessionInvariant.nodup_read {initial : Events ν}
    (h : SessionInvariant schema scope traceId initial session)
    : (session.read.map (·.evidence.eventId)).Nodup := by
  have hrows : ((traceRows schema session.events scope traceId).map (·.evidence.eventId)).Nodup :=
    ((sortBy_perm _ _).map _).nodup_iff.mpr (nodup_eventId h.stored scope traceId)
  have hsorted : session.read.Pairwise (fun left right => keyOf schema left < keyOf schema right) :=
    h.follows.sorted
  rw [List.Nodup, List.pairwise_map]
  apply hsorted.imp_of_mem
  intro left right hleft hright hlt heq
  have hsame := List.inj_on_of_nodup_map hrows (h.follows.subset left hleft)
    (h.follows.subset right hright) heq
  rw [hsame] at hlt
  exact lt_irrefl _ hlt

theorem SessionInvariant.read_or_behind {initial : Events ν}
    (h : SessionInvariant schema scope traceId initial session)
    {row : EvidenceEnvelope ν} (hrow : row ∈ traceRows schema initial scope traceId)
    : row ∈ session.read
        ∨ session.hasMore = true ∧ Behind (keyOf schema) (session.after.map (cursorKey schema)) row := by
  by_cases hbehind : Behind (keyOf schema) (session.after.map (cursorKey schema)) row
  . cases hmore : session.hasMore with
    | true => exact .inr ⟨rfl, hbehind⟩
    | false => exact .inl (h.follows.done hmore row hrow)
  . exact .inl (h.follows.kept row hrow hbehind)

variable [LawfulNumberText ν]

theorem readPage_eq (hstored : Stored schema session.events)
    (hcursor : IsCursor (traceRows schema session.events scope traceId) session.after) (limit : Nat)
    : session.readPage schema scope traceId limit
        = { session with
            read := session.read ++ ((rest (keyOf schema) (session.after.map (cursorKey schema))
              (traceRows schema session.events scope traceId)).take limit)
            after := (((rest (keyOf schema) (session.after.map (cursorKey schema))
              (traceRows schema session.events scope traceId)).take limit).getLast?.map evidenceCursor).or
                session.after
            hasMore := limit < (rest (keyOf schema) (session.after.map (cursorKey schema))
              (traceRows schema session.events scope traceId)).length } := by
  unfold Session.readPage
  rw [listByTrace_eq hstored hcursor]
  rfl

theorem readPage_reader (hstored : Stored schema session.events)
    (hcursor : IsCursor (traceRows schema session.events scope traceId) session.after) (limit : Nat)
    : (session.readPage schema scope traceId limit).reader schema
        = (session.reader schema).next (keyOf schema)
          (traceRows schema session.events scope traceId) limit := by
  rw [readPage_eq hstored hcursor]
  simp only [Session.reader, Reader.next, Option.map_or, Option.map_map]
  rfl

theorem readPage_isCursor (hstored : Stored schema session.events)
    (hcursor : IsCursor (traceRows schema session.events scope traceId) session.after) (limit : Nat)
    : IsCursor (traceRows schema session.events scope traceId)
        (session.readPage schema scope traceId limit).after := by
  rw [readPage_eq hstored hcursor]
  intro cursor hmem
  simp only [Option.mem_def, Option.or_eq_some_iff, Option.map_eq_some_iff] at hmem
  rcases hmem with ⟨row, hrow, rfl⟩ | ⟨_, hafter⟩
  . exact ⟨row, (mem_rest.mp (List.mem_of_mem_take (List.mem_of_getLast? hrow))).1, rfl⟩
  . exact hcursor cursor hafter

theorem readPages_reader (hstored : Stored schema session.events)
    (hcursor : IsCursor (traceRows schema session.events scope traceId) session.after)
    (limits : List Nat)
    : (limits.foldl (Session.readPage schema scope traceId) session).reader schema
        = limits.foldl (fun reader limit => reader.next (keyOf schema)
            (traceRows schema session.events scope traceId) limit) (session.reader schema)
      ∧ (limits.foldl (Session.readPage schema scope traceId) session).refused = session.refused := by
  induction limits generalizing session with
  | nil => exact ⟨rfl, rfl⟩
  | cons limit limits ih =>
    have hnext := readPage_eq hstored hcursor limit
    have hevents : (session.readPage schema scope traceId limit).events = session.events :=
      readPage_events limit
    have hrefused : (session.readPage schema scope traceId limit).refused = session.refused := by
      rw [hnext]
    have hafter := readPage_isCursor hstored hcursor limit
    rw [← hevents] at hstored hafter
    have hothers := ih hstored hafter
    rw [hevents, hrefused, readPage_reader (by rwa [hevents] at hstored) hcursor] at hothers
    exact hothers

theorem readPages_start {events : Events ν} (hstored : Stored schema events) (limits : List Nat)
    : let reading := limits.foldl (Session.readPage schema scope traceId) (Session.start events)
      reading.read = (traceRows schema events scope traceId).take limits.sum
        ∧ (limits ≠ [] → reading.hasMore
          = decide (limits.sum < (traceRows schema events scope traceId).length))
        ∧ reading.refused = false := by
  have hcursor : IsCursor (traceRows schema events scope traceId) (Session.start events).after :=
    fun cursor hcursor => (Option.not_mem_none cursor hcursor).elim
  have hpages : (limits.foldl (Session.readPage schema scope traceId) (Session.start events)).reader schema
      = readPages (keyOf schema) (traceRows schema events scope traceId) limits
    ∧ (limits.foldl (Session.readPage schema scope traceId) (Session.start events)).refused = false :=
    readPages_reader hstored hcursor limits
  have hspec := readPages_spec (isSorted_traceRows hstored scope traceId) limits
  rw [← hpages.1] at hspec
  exact ⟨hspec.1, hspec.2, hpages.2⟩

variable [DecidableEq ν]

def step (schema : EvidenceSchema ν) (scope : EvidenceScope) (traceId : String) (session : Session ν)
    : Command ν → Session ν
  | .append envelopes => { session with events := after (append envelopes session.events) }
  | .readPage limit => session.readPage schema scope traceId limit

def Appends (schema : EvidenceSchema ν) (_ : Session ν) : Command ν → Prop
  | .append envelopes => ∀ envelope ∈ envelopes, IsEnvelope schema envelope
  | .readPage _ => True

abbrev Run (schema : EvidenceSchema ν) (scope : EvidenceScope) (traceId : String)
    : Session ν → Session ν → Prop :=
  LaterWhen (Appends schema) (step schema scope traceId)

variable {envelopes : List (EvidenceEnvelope ν)}

theorem after_append {events : Events ν} (hstored : Stored schema events)
    (henvelopes : ∀ envelope ∈ envelopes, IsEnvelope schema envelope)
    : Stored schema (after (append envelopes events))
        ∧ ∀ row ∈ events, row ∈ after (append envelopes events) := by
  cases hrun : append envelopes events with
  | ok result events' =>
    have hok := append_ok hstored henvelopes hrun
    exact ⟨hok.1, hok.2.1⟩
  | error error events' =>
    obtain rfl := append_error hrun
    exact ⟨hstored, fun _ hrow => hrow⟩

theorem step_events {command : Command ν} (hstored : Stored schema session.events)
    (hallowed : Appends schema session command)
    : Stored schema (step schema scope traceId session command).events
        ∧ ∀ row ∈ session.events, row ∈ (step schema scope traceId session command).events := by
  cases command with
  | append envelopes => exact after_append hstored hallowed
  | readPage limit =>
    have hevents : (step schema scope traceId session (.readPage limit)).events = session.events :=
      readPage_events limit
    rw [hevents]
    exact ⟨hstored, fun _ hrow => hrow⟩

theorem SessionInvariant.step {initial : Events ν} {command : Command ν}
    (h : SessionInvariant schema scope traceId initial session) (hallowed : Appends schema session command)
    : SessionInvariant schema scope traceId initial (step schema scope traceId session command) := by
  cases command with
  | append envelopes =>
    have hafter := after_append h.stored hallowed
    constructor
    . exact hafter.1
    . exact fun row hrow => hafter.2 row (h.kept row hrow)
    . intro cursor hcursor
      rcases h.cursor cursor hcursor with ⟨row, hrow, heq⟩
      exact ⟨row, traceRows_subset hafter.2 hrow, heq⟩
    . exact h.refused
    . exact h.follows.grow (fun row hrow => traceRows_subset hafter.2 hrow)
  | readPage limit =>
    have hnext := readPage_eq h.stored h.cursor limit
    have hevents : (session.readPage schema scope traceId limit).events = session.events :=
      readPage_events limit
    have hrefused : (session.readPage schema scope traceId limit).refused = session.refused := by
      rw [hnext]
    change SessionInvariant schema scope traceId initial (session.readPage schema scope traceId limit)
    constructor
    . rw [hevents]
      exact h.stored
    . rw [hevents]
      exact h.kept
    . rw [hevents]
      exact readPage_isCursor h.stored h.cursor limit
    . rw [hrefused]
      exact h.refused
    . rw [hevents, readPage_reader h.stored h.cursor]
      exact h.follows.next (isSorted_traceRows h.stored scope traceId)
        (fun row hrow => traceRows_subset h.kept hrow) limit

theorem Run.invariant {initial : Events ν} {later : Session ν} (h : Run schema scope traceId session later)
    (hsession : SessionInvariant schema scope traceId initial session)
    : SessionInvariant schema scope traceId initial later :=
  LaterWhen.preserves (fun _ _ hallowed hinvariant => hinvariant.step hallowed) h hsession

theorem Run.isStored {later : Session ν} (h : Run schema scope traceId session later)
    (hstored : Stored schema session.events)
    (his : ∀ envelope ∈ envelopes, IsStored session.events envelope)
    : ∀ envelope ∈ envelopes, IsStored later.events envelope := by
  have hkept : Stored schema later.events ∧ ∀ envelope ∈ envelopes, IsStored later.events envelope := by
    apply LaterWhen.preserves (P := fun s => Stored schema s.events
      ∧ ∀ envelope ∈ envelopes, IsStored s.events envelope) ?_ h ⟨hstored, his⟩
    rintro s command hallowed ⟨hs, hsame⟩
    have hnext : Stored schema (step schema scope traceId s command).events
        ∧ ∀ row ∈ s.events, row ∈ (step schema scope traceId s command).events :=
      step_events hs hallowed
    exact ⟨hnext.1, fun envelope henvelope => (hsame envelope henvelope).mono hnext.1.nodup hnext.2⟩
  exact hkept.2

theorem Run.append_again {later : Session ν} {events' : Events ν}
    (h : Run schema scope traceId { session with events := events' } later)
    (hstored : Stored schema session.events)
    (henvelopes : ∀ envelope ∈ envelopes, IsEnvelope schema envelope) {result : AppendEvidenceResult}
    (happend : append envelopes session.events = .ok result events')
    : append envelopes later.events
        = .ok ⟨[], envelopes.map (·.evidence.eventId)⟩ later.events := by
  have hok := append_ok hstored henvelopes happend
  exact append_stored henvelopes (h.isStored hok.1 hok.2.2)

theorem evidenceRepository_run {history : Session ν}
    (hhistory : Run schema scope traceId (Session.start []) history)
    (hrun : Run schema scope traceId (Session.start history.events) session)
    : (∀ envelopes error events', append envelopes session.events = .error error events' →
        events' = session.events)
      ∧ (∀ envelopes result events' later, (∀ envelope ∈ envelopes, IsEnvelope schema envelope) →
        append envelopes session.events = .ok result events' →
        Run schema scope traceId { session with events := events' } later →
        append envelopes later.events = .ok ⟨[], envelopes.map (·.evidence.eventId)⟩ later.events)
      ∧ IsSorted (keyOf schema) (traceRows schema session.events scope traceId)
      ∧ (∀ limits : List Nat,
        let reading := limits.foldl (Session.readPage schema scope traceId) (Session.start session.events)
        reading.read = (traceRows schema session.events scope traceId).take limits.sum
          ∧ (limits ≠ [] → reading.hasMore
            = decide (limits.sum < (traceRows schema session.events scope traceId).length))
          ∧ reading.refused = false)
      ∧ session.refused = false
      ∧ IsSorted (keyOf schema) session.read
      ∧ (session.read.map (·.evidence.eventId)).Nodup
      ∧ (∀ row ∈ session.read, row ∈ traceRows schema session.events scope traceId)
      ∧ (∀ row ∈ traceRows schema history.events scope traceId, row ∈ session.read
        ∨ session.hasMore = true ∧ Behind (keyOf schema) (session.after.map (cursorKey schema)) row)
      ∧ (∀ maximumEvents, 1 ≤ maximumEvents ∧ maximumEvents ≤ maxSafeInteger →
        ∃ parsed, List.Forall₂ (Parses schema) (traceRows schema session.events scope traceId) parsed
          ∧ readBoundedTraceSnapshot schema (listByTrace schema.evidenceTimestampOrderKey session.events)
              scope traceId maximumEvents
            = .ok (snapshotOf (traceRows schema session.events scope traceId) parsed maximumEvents)) := by
  have hempty : Stored schema ([] : Events ν) := ⟨List.nodup_nil, by simp⟩
  have hstored := (hhistory.invariant (sessionInvariant_start hempty)).stored
  have hsession := hrun.invariant (sessionInvariant_start hstored)
  refine ⟨fun _ _ _ => append_error, ?_, isSorted_traceRows hsession.stored scope traceId, ?_,
    hsession.refused, hsession.follows.sorted, hsession.nodup_read, hsession.follows.subset, ?_,
    fun _ => readBoundedTraceSnapshot_eq hsession.stored⟩
  . intro envelopes result events' later henvelopes hok hlater
    exact hlater.append_again hsession.stored henvelopes hok
  . intro limits
    exact readPages_start hsession.stored limits
  . intro row hrow
    exact hsession.read_or_behind hrow

end Session

namespace RepositorySample

def sampleScope : EvidenceScope :=
  ⟨"tenant", "project", "production"⟩

def sampleTraceId : String :=
  "4bf92f3577b34da6a3ce929d0e0e4736"

def sampleSchema : EvidenceSchema Nat where
  evidenceTimestampOrderKey := fun startedAt =>
    if startedAt = "2026-01-01T00:00:00Z" then 1767225600000000 else 1767225601000000
  safeParse := some

def sampleEnvelope (eventId startedAt : String) : EvidenceEnvelope Nat where
  evidence := ⟨eventId, some 0, startedAt, sampleTraceId, []⟩
  receivedAt := "2026-01-01T00:00:02Z"
  schemaVersion := "0.1"
  scope := sampleScope

theorem sampleEnvelope_isEnvelope (eventId startedAt : String)
    : IsEnvelope sampleSchema (sampleEnvelope eventId startedAt) where
  serializable := .object [] List.Pairwise.nil (by simp)
  parsed := ⟨_, rfl, rfl, rfl, rfl⟩

def sampleHistory : List (Command Nat) :=
  [.append [sampleEnvelope "b" "2026-01-01T00:00:00Z", sampleEnvelope "c" "2026-01-01T00:00:01Z"]]

def sampleCommands : List (Command Nat) :=
  [.readPage 1, .append [sampleEnvelope "a" "2026-01-01T00:00:00Z"], .readPage 1]

theorem evidenceRepository_run_sampleCommands
    : let history := sampleHistory.foldl (step sampleSchema sampleScope sampleTraceId) (Session.start [])
      let session := sampleCommands.foldl (step sampleSchema sampleScope sampleTraceId)
        (Session.start history.events)
      session.refused = false ∧ (session.read.map (·.evidence.eventId)).Nodup := by
  have henvelopes : ∀ eventId startedAt, ∀ envelope ∈ [sampleEnvelope eventId startedAt],
      IsEnvelope sampleSchema envelope := by
    intro eventId startedAt envelope hmem
    rw [List.mem_singleton.mp hmem]
    exact sampleEnvelope_isEnvelope eventId startedAt
  have hpair : ∀ envelope ∈ [sampleEnvelope "b" "2026-01-01T00:00:00Z",
      sampleEnvelope "c" "2026-01-01T00:00:01Z"], IsEnvelope sampleSchema envelope := by
    intro envelope hmem
    rcases List.mem_cons.mp hmem with rfl | hmem
    . exact sampleEnvelope_isEnvelope _ _
    . exact henvelopes _ _ envelope hmem
  have hhistory : Run sampleSchema sampleScope sampleTraceId (Session.start [])
      (sampleHistory.foldl (step sampleSchema sampleScope sampleTraceId) (Session.start [])) :=
    LaterWhen.foldl ⟨hpair, trivial⟩
  have hrun : Run sampleSchema sampleScope sampleTraceId
      (Session.start (sampleHistory.foldl (step sampleSchema sampleScope sampleTraceId)
        (Session.start [])).events)
      (sampleCommands.foldl (step sampleSchema sampleScope sampleTraceId)
        (Session.start (sampleHistory.foldl (step sampleSchema sampleScope sampleTraceId)
          (Session.start [])).events)) :=
    LaterWhen.foldl ⟨trivial, henvelopes _ _, trivial, trivial⟩
  obtain ⟨_, _, _, _, hrefused, _, hnodup, _⟩ := evidenceRepository_run hhistory hrun
  exact ⟨hrefused, hnodup⟩

end RepositorySample

end Evidence
end ProofStack
