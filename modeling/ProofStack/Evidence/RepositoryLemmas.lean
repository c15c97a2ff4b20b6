import ProofStack.Evidence.Repository

/-!
This module contains the proofs about one operation of the evidence repository.
-/

namespace ProofStack
namespace Evidence

open Checks Json Sequence StateMachine

variable {ν : Type} {schema : EvidenceSchema ν} {envelope existing : EvidenceEnvelope ν}
variable {events : Events ν} {scope : EvidenceScope} {traceId : String}

def cursorKey (schema : EvidenceSchema ν) (cursor : EvidencePageCursor) : CanonicalKey :=
  toLex (schema.evidenceTimestampOrderKey cursor.startedAt,
    toLex (cursor.sequence, utf16Units cursor.eventId))

abbrev keyOf (schema : EvidenceSchema ν) : EvidenceEnvelope ν → CanonicalKey :=
  canonicalKey schema.evidenceTimestampOrderKey

theorem matchesCursor_iff (cursor : EvidencePageCursor)
    : matchesCursor schema.evidenceTimestampOrderKey envelope cursor = true
        ↔ keyOf schema envelope = cursorKey schema cursor := by
  have hid : utf16Units envelope.evidence.eventId = utf16Units cursor.eventId
      ↔ envelope.evidence.eventId = cursor.eventId :=
    ⟨utf16Units_injective, congrArg utf16Units⟩
  simp only [matchesCursor, Bool.and_eq_true, decide_eq_true_eq]
  simp only [evidenceCursor, canonicalKey, cursorKey, EmbeddingLike.apply_eq_iff_eq, Prod.mk.injEq, hid]
  tauto

theorem find_or (events pending : Events ν) (key : String)
    : (find pending key).or (find events key) = find (events ++ pending) key := by
  unfold find Sequence.lookup
  rw [List.reverse_append, List.find?_append]

abbrev traceRows (schema : EvidenceSchema ν) (events : Events ν) (scope : EvidenceScope)
    (traceId : String) : Events ν :=
  ordered schema.evidenceTimestampOrderKey events scope traceId

theorem mem_traceRows {row : EvidenceEnvelope ν}
    : row ∈ traceRows schema events scope traceId
        ↔ row ∈ events ∧ matchesTrace scope traceId row = true := by
  unfold traceRows ordered
  rw [mem_sortBy, List.mem_filter]

def IsCursor (rows : Events ν) (after : Option EvidencePageCursor) : Prop :=
  ∀ cursor ∈ after, ∃ row ∈ rows, cursor = evidenceCursor row

section IsStored

variable [DecidableEq ν]

def IsStored (events : Events ν) (envelope : EvidenceEnvelope ν) : Prop :=
  ∃ existing, find events (evidenceKey envelope) = some existing
    ∧ isSameEnvelope existing envelope = true

theorem IsStored.mono {events' : Events ν} (h : IsStored events envelope)
    (hnodup : (events'.map evidenceKey).Nodup) (hsubset : ∀ row ∈ events, row ∈ events')
    : IsStored events' envelope := by
  rcases h with ⟨existing, hfind, hsame⟩
  rcases Sequence.lookup_eq_some hfind with ⟨hmem, hkey⟩
  refine ⟨existing, ?_, hsame⟩
  rw [← hkey]
  exact Sequence.lookup_of_mem hnodup (hsubset existing hmem)

end IsStored

section Envelopes

variable [NumberText ν]

/-- The schema accepts the envelope, whose other members are JSON. What it returns is the envelope
with its defaults. -/
structure IsEnvelope (schema : EvidenceSchema ν) (envelope : EvidenceEnvelope ν) : Prop where
  serializable : Serializable (.object envelope.evidence.otherMembers)
  parsed : ∃ parsed, schema.safeParse envelope = some parsed
    ∧ parsed.scope = envelope.scope
    ∧ parsed.evidence.traceId = envelope.evidence.traceId
    ∧ canonicalEvidenceKey schema parsed = canonicalEvidenceKey schema envelope

structure Stored (schema : EvidenceSchema ν) (events : Events ν) : Prop where
  nodup : (events.map evidenceKey).Nodup
  envelopes : ∀ envelope ∈ events, IsEnvelope schema envelope

theorem nodup_eventId (h : Stored schema events) (scope : EvidenceScope) (traceId : String)
    : ((events.filter (matchesTrace scope traceId)).map (·.evidence.eventId)).Nodup := by
  have hfilter : ((events.filter (matchesTrace scope traceId)).map evidenceKey).Nodup :=
    h.nodup.sublist (List.filter_sublist.map _)
  rw [List.Nodup, List.pairwise_map] at hfilter ⊢
  apply hfilter.imp_of_mem
  intro left right hleft hright hne hid
  apply hne
  have hleft' := (List.mem_filter.mp hleft).2
  have hright' := (List.mem_filter.mp hright).2
  simp only [matchesTrace, matchesScope, Bool.and_eq_true, decide_eq_true_eq] at hleft' hright'
  rw [evidenceKey, evidenceKey, hleft'.1.1.1, hright'.1.1.1, hid]

theorem nodup_canonicalKey (h : Stored schema events) (scope : EvidenceScope) (traceId : String)
    : ((events.filter (matchesTrace scope traceId)).map (keyOf schema)).Nodup := by
  have hids := nodup_eventId h scope traceId
  rw [List.Nodup, List.pairwise_map] at hids ⊢
  apply hids.imp
  intro left right hne heq
  simp only [canonicalKey, EmbeddingLike.apply_eq_iff_eq, Prod.mk.injEq] at heq
  exact hne (utf16Units_injective heq.2.2)

theorem isSorted_traceRows (h : Stored schema events) (scope : EvidenceScope) (traceId : String)
    : IsSorted (keyOf schema) (traceRows schema events scope traceId) :=
  isSorted_sortBy (nodup_canonicalKey h scope traceId)

end Envelopes

section Pages

variable [NumberText ν] [LawfulNumberText ν]

theorem cloneForJsonStorage_eq (h : IsEnvelope schema envelope)
    : cloneForJsonStorage envelope = .ok envelope := by
  unfold cloneForJsonStorage
  rw [parse_stringify h.serializable]

theorem mapM_cloneForJsonStorage {rows : Events ν} (h : ∀ row ∈ rows, IsEnvelope schema row)
    : rows.mapM cloneForJsonStorage = .ok rows := by
  induction rows with
  | nil => rfl
  | cons row rows ih =>
    rw [List.mapM_cons, bind_of_ok (cloneForJsonStorage_eq (h row List.mem_cons_self)),
      bind_of_ok (ih (fun other hother => h other (List.mem_cons_of_mem _ hother)))]
    rfl

def firstPage (rows : Events ν) (limit : Nat) : EvidencePage ν :=
  ⟨true, rows.take limit, limit < rows.length⟩

theorem pageOf_take {rows : Events ν} (h : ∀ row ∈ rows, IsEnvelope schema row) (limit : Nat)
    : pageOf (rows.take (limit + 1)) limit = .ok (firstPage rows limit) := by
  have htake : (rows.take (limit + 1)).take limit = rows.take limit := by
    rw [List.take_take, Nat.min_eq_left (Nat.le_succ limit)]
  have hclone : (rows.take limit).mapM cloneForJsonStorage = .ok (rows.take limit) :=
    mapM_cloneForJsonStorage (fun row hrow => h row (List.mem_of_mem_take hrow))
  unfold pageOf
  rw [htake, bind_of_ok hclone]
  have hmore : decide ((rows.take (limit + 1)).length > limit) = decide (limit < rows.length) := by
    rw [List.length_take, decide_eq_decide]
    omega
  rw [hmore]
  rfl

theorem listByTrace_eq (h : Stored schema events) {after : Option EvidencePageCursor}
    (hcursor : IsCursor (traceRows schema events scope traceId) after) (limit : Nat)
    : listByTrace schema.evidenceTimestampOrderKey events scope traceId ⟨after, limit⟩
        = .ok (firstPage (rest (keyOf schema) (after.map (cursorKey schema))
            (traceRows schema events scope traceId)) limit) := by
  have henvelopes : ∀ row ∈ traceRows schema events scope traceId, IsEnvelope schema row :=
    fun row hrow => h.envelopes row (mem_traceRows.mp hrow).1
  unfold listByTrace
  cases after with
  | none =>
    rw [Option.map_none, rest_none]
    exact pageOf_take henvelopes limit
  | some cursor =>
    rcases hcursor cursor rfl with ⟨row, hrow, rfl⟩
    dsimp only
    split
    . next hnone =>
      rw [List.findIdx?_eq_none_iff] at hnone
      have hmatch : matchesCursor schema.evidenceTimestampOrderKey row (evidenceCursor row) = true :=
        (matchesCursor_iff _).mpr rfl
      rw [hnone row hrow] at hmatch
      contradiction
    . next index hindex =>
      have hfound := List.findIdx?_eq_some_iff_getElem.mp hindex
      rcases hfound with ⟨hlt, hmatch, _⟩
      have hkey := (matchesCursor_iff _).mp hmatch
      have hrest := rest_getElem (isSorted_traceRows h scope traceId)
        (List.getElem?_eq_getElem hlt)
      rw [hkey] at hrest
      rw [Option.map_some, hrest]
      exact pageOf_take (fun other hother => henvelopes other (List.mem_of_mem_drop hother)) limit

end Pages

section Append

variable [NumberText ν] [DecidableEq ν] {envelopes : List (EvidenceEnvelope ν)}
variable {pending pending' : Pending ν}

theorem append_run (events : Events ν) (envelopes : List (EvidenceEnvelope ν))
    : append envelopes events
        = match envelopes.foldlM (appendEnvelope events) ⟨[], [], []⟩ with
          | .ok pending =>
            .ok ⟨pending.acceptedEventIds, pending.duplicateEventIds⟩ (events ++ pending.events)
          | .error error => .error error events := by
  unfold append
  rw [get_bind_run]
  cases hfold : envelopes.foldlM (appendEnvelope events) ⟨[], [], []⟩ with
  | ok pending =>
    rw [attempting_bind_run rfl]
    rfl
  | error error => rfl

theorem append_error {error : EvidenceError} {events' : Events ν}
    (h : append envelopes events = .error error events')
    : events' = events := by
  rw [append_run] at h
  split at h
  . contradiction
  . cases h
    rfl

theorem isSameEnvelope_self (h : IsEnvelope schema envelope)
    : isSameEnvelope envelope envelope = true := by
  simp [isSameEnvelope, h.serializable.isJsonEquivalent_self]

variable [LawfulNumberText ν]

structure Collects (schema : EvidenceSchema ν) (events : Events ν)
    (processed : List (EvidenceEnvelope ν)) (pending : Pending ν) : Prop where
  stored : Stored schema (events ++ pending.events)
  processed : ∀ envelope ∈ processed, IsStored (events ++ pending.events) envelope

theorem Collects.appendEnvelope {processed : List (EvidenceEnvelope ν)}
    (h : Collects schema events processed pending) (henvelope : IsEnvelope schema envelope)
    (hrun : appendEnvelope events pending envelope = .ok pending')
    : Collects schema events (processed ++ [envelope]) pending' := by
  unfold Evidence.appendEnvelope at hrun
  rw [bind_of_ok (cloneForJsonStorage_eq henvelope), find_or] at hrun
  split at hrun
  . next hfind =>
    cases hrun
    have hnew := Sequence.lookup_eq_none.mp hfind
    have hstored : Stored schema (events ++ (pending.events ++ [envelope])) := by
      rw [← List.append_assoc]
      constructor
      . rw [List.map_append, List.nodup_append]
        refine ⟨h.stored.nodup, by simp, ?_⟩
        intro key hkey key' hkey'
        rcases List.mem_map.mp hkey with ⟨row, hrow, rfl⟩
        simp only [List.map_cons, List.map_nil, List.mem_singleton] at hkey'
        rw [hkey']
        exact hnew row hrow
      . intro row hrow
        rcases List.mem_append.mp hrow with hmem | hmem
        . exact h.stored.envelopes row hmem
        . rw [List.mem_singleton.mp hmem]
          exact henvelope
    refine ⟨hstored, ?_⟩
    intro row hrow
    rcases List.mem_append.mp hrow with hmem | hmem
    . apply (h.processed row hmem).mono hstored.nodup
      intro other hother
      rw [← List.append_assoc]
      exact List.mem_append_left _ hother
    . rw [List.mem_singleton.mp hmem]
      refine ⟨envelope, ?_, isSameEnvelope_self henvelope⟩
      exact Sequence.lookup_of_mem hstored.nodup (by simp)
  . next existing hfind =>
    split at hrun
    . next hsame =>
      cases hrun
      refine ⟨h.stored, ?_⟩
      intro row hrow
      rcases List.mem_append.mp hrow with hmem | hmem
      . exact h.processed row hmem
      . rw [List.mem_singleton.mp hmem]
        exact ⟨existing, hfind, hsame⟩
    . contradiction

theorem Collects.foldlM {processed : List (EvidenceEnvelope ν)}
    (h : Collects schema events processed pending)
    (henvelopes : ∀ envelope ∈ envelopes, IsEnvelope schema envelope)
    (hrun : envelopes.foldlM (Evidence.appendEnvelope events) pending = .ok pending')
    : Collects schema events (processed ++ envelopes) pending' := by
  induction envelopes generalizing processed pending with
  | nil =>
    cases hrun
    simpa using h
  | cons envelope envelopes ih =>
    rw [List.foldlM_cons, bind_eq_ok] at hrun
    rcases hrun with ⟨next, hfirst, hothers⟩
    have hnext := h.appendEnvelope (henvelopes envelope List.mem_cons_self) hfirst
    have hall := ih hnext (fun other hother => henvelopes other (List.mem_cons_of_mem _ hother)) hothers
    rwa [List.append_assoc] at hall

theorem append_ok (hstored : Stored schema events)
    (henvelopes : ∀ envelope ∈ envelopes, IsEnvelope schema envelope) {result : AppendEvidenceResult}
    {events' : Events ν} (h : append envelopes events = .ok result events')
    : Stored schema events' ∧ (∀ row ∈ events, row ∈ events')
        ∧ ∀ envelope ∈ envelopes, IsStored events' envelope := by
  rw [append_run] at h
  split at h
  . next pending hfold =>
    cases h
    have hstart : Collects schema events [] ⟨[], [], []⟩ := ⟨by simpa using hstored, by simp⟩
    have hall := hstart.foldlM henvelopes hfold
    exact ⟨hall.stored, fun row hrow => List.mem_append_left _ hrow, hall.processed⟩
  . contradiction

theorem append_stored (henvelopes : ∀ envelope ∈ envelopes, IsEnvelope schema envelope)
    (h : ∀ envelope ∈ envelopes, IsStored events envelope)
    : append envelopes events = .ok ⟨[], envelopes.map (·.evidence.eventId)⟩ events := by
  have hfold : ∀ duplicates, envelopes.foldlM (appendEnvelope events) ⟨[], [], duplicates⟩
      = .ok ⟨[], [], duplicates ++ envelopes.map (·.evidence.eventId)⟩ := by
    induction envelopes with
    | nil => simp [pure, Except.pure]
    | cons envelope envelopes ih =>
      intro duplicates
      rcases h envelope List.mem_cons_self with ⟨existing, hfind, hsame⟩
      have hclone := cloneForJsonStorage_eq (henvelopes envelope List.mem_cons_self)
      have hfirst : appendEnvelope events ⟨[], [], duplicates⟩ envelope
          = .ok ⟨[], [], duplicates ++ [envelope.evidence.eventId]⟩ := by
        unfold appendEnvelope
        rw [bind_of_ok hclone]
        have hnone : find ([] : Events ν) (evidenceKey envelope) = none := rfl
        simp only [hnone, Option.none_or, hfind, hsame, if_true]
        rfl
      rw [List.foldlM_cons, bind_of_ok hfirst,
        ih (fun other hother => henvelopes other (List.mem_cons_of_mem _ hother))
          (fun other hother => h other (List.mem_cons_of_mem _ hother))]
      simp
  rw [append_run, hfold []]
  simp

end Append

end Evidence
end ProofStack
