import ProofStack.Evidence.RepositoryLemmas

/-!
This module contains the proof that the page of the repository passes every check of a snapshot.
-/

namespace ProofStack
namespace Evidence

open Checks Json Sequence StateMachine

variable {ν : Type} {schema : EvidenceSchema ν} {scope : EvidenceScope} {traceId : String}
variable {events rows parsed : Events ν}

theorem compareCanonicalOrder_of_lt {left right : EvidenceEnvelope ν}
    (h : keyOf schema left < keyOf schema right)
    : compareCanonicalOrder (canonicalEvidenceKey schema left) (canonicalEvidenceKey schema right)
        = .lt := by
  simp only [canonicalKey, Prod.Lex.toLex_lt_toLex] at h
  unfold compareCanonicalOrder canonicalEvidenceKey
  dsimp only
  rcases h with hstarted | ⟨hstarted, hsequence | ⟨hsequence, hid⟩⟩
  . rw [if_pos hstarted]
  . rw [hstarted, if_neg (lt_irrefl _), if_neg (lt_irrefl _), if_pos hsequence]
  . have hne : left.evidence.eventId ≠ right.evidence.eventId := by
      intro heq
      rw [heq] at hid
      exact lt_irrefl _ hid
    rw [hstarted, if_neg (lt_irrefl _), if_neg (lt_irrefl _), hsequence, if_neg (lt_irrefl _),
      if_neg (lt_irrefl _), if_neg hne, if_pos hid]

def Parses (schema : EvidenceSchema ν) (row parsed : EvidenceEnvelope ν) : Prop :=
  schema.safeParse row = some parsed
    ∧ parsed.scope = row.scope
    ∧ parsed.evidence.traceId = row.evidence.traceId
    ∧ canonicalEvidenceKey schema parsed = canonicalEvidenceKey schema row

theorem validateRepositoryEvents_eq (h : List.Forall₂ (Parses schema) rows parsed) {maximumEvents : Nat}
    (hlength : rows.length ≤ maximumEvents)
    : validateRepositoryEvents schema rows maximumEvents = .ok parsed := by
  unfold validateRepositoryEvents
  have hchecked : failIf (rows.length > maximumEvents)
      (contract "The evidence repository returned more trace events than requested") = .ok () := by
    rw [failIf_eq_ok]
    omega
  rw [bind_of_ok hchecked]
  clear hchecked hlength
  induction h with
  | nil => rfl
  | @cons row first rows parsed hfirst _ ih =>
    have hfound : found (schema.safeParse row)
        (contract "The evidence repository returned an invalid trace event") = .ok first := by
      rw [found_eq_ok]
      exact hfirst.1
    rw [List.mapM_cons, bind_of_ok hfound, bind_of_ok ih]
    rfl

theorem Parses.map_canonicalEvidenceKey (h : List.Forall₂ (Parses schema) rows parsed)
    : parsed.map (canonicalEvidenceKey schema) = rows.map (canonicalEvidenceKey schema) := by
  induction h with
  | nil => rfl
  | cons hfirst _ ih => rw [List.map_cons, List.map_cons, hfirst.2.2.2, ih]

theorem assertCanonicalEvents_ok {eventIds : List String} {previousKey : Option CanonicalEvidenceKey}
    (hids : ((events.map (canonicalEvidenceKey schema)).map (·.eventId)).Nodup)
    (hnew : ∀ key ∈ events.map (canonicalEvidenceKey schema), key.eventId ∉ eventIds)
    (hsorted : (events.map (canonicalEvidenceKey schema)).Pairwise
      (fun left right => compareCanonicalOrder left right = .lt))
    (hprevious : ∀ previous ∈ previousKey, ∀ key ∈ events.map (canonicalEvidenceKey schema),
      compareCanonicalOrder previous key = .lt)
    : assertCanonicalEvents schema eventIds previousKey events = .ok () := by
  induction events generalizing eventIds previousKey with
  | nil => rfl
  | cons event events ih =>
    simp only [List.map_cons, List.nodup_cons, List.pairwise_cons, List.forall_mem_cons] at hids hnew hsorted
    simp only [List.map_cons, List.forall_mem_cons] at hprevious
    have hnotSeen : event.evidence.eventId ∉ eventIds := hnew.1
    have hordered : ¬∃ key ∈ previousKey,
        compareCanonicalOrder key (canonicalEvidenceKey schema event) ≠ .lt := by
      rintro ⟨key, hkey, hne⟩
      exact hne (hprevious key hkey).1
    unfold assertCanonicalEvents
    rw [bind_of_ok ((failIf_eq_ok (u := ())).mpr hnotSeen), bind_of_ok ((failIf_eq_ok (u := ())).mpr hordered)]
    apply ih hids.2
    . intro key hkey
      rw [List.mem_cons, not_or]
      refine ⟨?_, hnew.2 key hkey⟩
      intro heq
      exact hids.1 (List.mem_map.mpr ⟨key, hkey, heq⟩)
    . exact hsorted.2
    . intro previous hmem key hkey
      obtain rfl := Option.some.inj hmem
      exact hsorted.1 key hkey

theorem matchesTrace_parsed (hrows : ∀ row ∈ rows, matchesTrace scope traceId row = true)
    (h : List.Forall₂ (Parses schema) rows parsed)
    : ¬∃ event ∈ parsed, ¬matchesTrace scope traceId event = true := by
  rintro ⟨event, hevent, hnot⟩
  apply hnot
  rcases List.forall₂_iff_get.mp h with ⟨hlength, hget⟩
  rcases List.mem_iff_get.mp hevent with ⟨index, rfl⟩
  have hindex : index.1 < rows.length := by omega
  have hparses := hget index.1 hindex index.2
  have hmatch := hrows _ (rows.get_mem ⟨index.1, hindex⟩)
  unfold matchesTrace matchesScope at hmatch ⊢
  rw [hparses.2.1, hparses.2.2.1]
  exact hmatch

theorem readBoundedTraceSnapshot_of_page
    {read : EvidenceScope → String → EvidencePageOptions → Except EvidenceError (EvidencePage ν)}
    {page : EvidencePage ν} {maximumEvents : Nat} (hpage : read scope traceId ⟨none, maximumEvents⟩ = .ok page)
    (hrange : ¬(maximumEvents > maxSafeInteger ∨ maximumEvents < 1))
    (hvalid : validateRepositoryEvents schema page.events maximumEvents = .ok events)
    (hfound : page.cursorFound = true) (hfull : ¬(page.hasMore = true ∧ events.length ≠ maximumEvents))
    (hmatches : ¬∃ event ∈ events, ¬matchesTrace scope traceId event = true)
    (hcanonical : assertCanonicalEvents schema [] none events = .ok ())
    : readBoundedTraceSnapshot schema read scope traceId maximumEvents
        = .ok (if page.hasMore then .tooLarge maximumEvents
          else if events.length = 0 then .notFound
          else .found events) := by
  unfold readBoundedTraceSnapshot
  rw [hpage, bind_of_ok ((failIf_eq_ok (u := ())).mpr hrange), Except.mapError, bind_of_ok rfl,
    bind_of_ok hvalid, bind_of_ok ((failIf_eq_ok (u := ())).mpr (not_not.mpr hfound)),
    bind_of_ok ((failIf_eq_ok (u := ())).mpr hfull), bind_of_ok ((failIf_eq_ok (u := ())).mpr hmatches),
    bind_of_ok hcanonical]
  split
  . rfl
  . split <;> rfl

variable [NumberText ν]

theorem exists_parses (h : ∀ row ∈ rows, IsEnvelope schema row)
    : ∃ parsed, List.Forall₂ (Parses schema) rows parsed := by
  induction rows with
  | nil => exact ⟨[], .nil⟩
  | cons row rows ih =>
    rcases ih (fun other hother => h other (List.mem_cons_of_mem _ hother)) with ⟨parsed, hparsed⟩
    rcases (h row List.mem_cons_self).parsed with ⟨first, hfirst⟩
    exact ⟨first :: parsed, .cons hfirst hparsed⟩

theorem assertCanonicalEvents_parsed (hstored : Stored schema events)
    (hrows : rows.Sublist (traceRows schema events scope traceId))
    (h : List.Forall₂ (Parses schema) rows parsed)
    : assertCanonicalEvents schema [] none parsed = .ok () := by
  have hsorted : IsSorted (keyOf schema) rows := (isSorted_traceRows hstored scope traceId).sublist hrows
  apply assertCanonicalEvents_ok
  . rw [Parses.map_canonicalEvidenceKey h, List.map_map]
    have hall : ((traceRows schema events scope traceId).map (·.evidence.eventId)).Nodup :=
      ((sortBy_perm _ _).map _).nodup_iff.mpr (nodup_eventId hstored scope traceId)
    exact hall.sublist (hrows.map _)
  . simp
  . rw [Parses.map_canonicalEvidenceKey h, List.pairwise_map]
    exact hsorted.imp compareCanonicalOrder_of_lt
  . simp

def snapshotOf (rows parsed : Events ν) (maximumEvents : Nat) : ReadBoundedTraceSnapshotResult ν :=
  if maximumEvents < rows.length then
    .tooLarge maximumEvents
  else if rows.length = 0 then
    .notFound
  else
    .found parsed

variable [LawfulNumberText ν]

theorem readBoundedTraceSnapshot_eq (hstored : Stored schema events) {maximumEvents : Nat}
    (hmaximum : 1 ≤ maximumEvents ∧ maximumEvents ≤ maxSafeInteger)
    : ∃ parsed, List.Forall₂ (Parses schema) (traceRows schema events scope traceId) parsed
        ∧ readBoundedTraceSnapshot schema (listByTrace schema.evidenceTimestampOrderKey events)
            scope traceId maximumEvents
          = .ok (snapshotOf (traceRows schema events scope traceId) parsed maximumEvents) := by
  have henvelopes : ∀ row ∈ traceRows schema events scope traceId, IsEnvelope schema row :=
    fun row hrow => hstored.envelopes row (mem_traceRows.mp hrow).1
  rcases exists_parses henvelopes with ⟨parsed, hparsed⟩
  refine ⟨parsed, hparsed, ?_⟩
  have hpage : listByTrace schema.evidenceTimestampOrderKey events scope traceId ⟨none, maximumEvents⟩
      = .ok (firstPage (traceRows schema events scope traceId) maximumEvents) := by
    rw [listByTrace_eq hstored (by simp [IsCursor]), Option.map_none, rest_none]
  -- the checks are made of the rows of the page only
  have hshort : List.Forall₂ (Parses schema)
      ((traceRows schema events scope traceId).take maximumEvents) (parsed.take maximumEvents) :=
    List.forall₂_take maximumEvents hparsed
  have hvalid := validateRepositoryEvents_eq hshort (List.length_take_le maximumEvents _)
  have hmatches := matchesTrace_parsed
    (fun row hrow => (mem_traceRows.mp (List.mem_of_mem_take hrow)).2) hshort
  have hcanonical := assertCanonicalEvents_parsed hstored (List.take_sublist _ _) hshort
  have hlength := hparsed.length_eq
  have hrange : ¬(maximumEvents > maxSafeInteger ∨ maximumEvents < 1) := by omega
  have hfull : ¬(decide (maximumEvents < (traceRows schema events scope traceId).length) = true
      ∧ (parsed.take maximumEvents).length ≠ maximumEvents) := by
    rw [List.length_take, decide_eq_true_eq]
    omega
  rw [readBoundedTraceSnapshot_of_page hpage hrange hvalid rfl hfull hmatches hcanonical]
  unfold snapshotOf firstPage
  simp only [decide_eq_true_eq]
  split
  . rfl
  . next hmany =>
    rw [List.length_take, List.take_of_length_le (by omega), Nat.min_eq_right (by omega), hlength]

end Evidence
end ProofStack
