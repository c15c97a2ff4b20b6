import ProofStack.Policy.RepositoryInvariant

/-!
This module contains the history of a stored job as a reader sees it.
-/

namespace ProofStack
namespace Policy

open PolicyEvaluationJobSnapshot PolicyEvaluationJobStore StateMachine

variable {evidence : PolicyEvaluationEvidence} {store : PolicyEvaluationJobStore evidence}
variable {scope : EvidenceScope} {id : String} {stored next : StoredPolicyJob evidence}

section Page

variable {head : PolicyEvaluationJobHistoryHead} {pageIndex : Nat}
variable {page : PolicyEvaluationJobHistoryPage}

def pageEntries (stored : StoredPolicyJob evidence) (head : PolicyEvaluationJobHistoryHead)
    (pageIndex : Nat) : List PolicyEvaluationJobHistoryEntry :=
  let page := stored.pages.getD pageIndex []
  let count :=
    min (policyEvaluationJobHistoryPageSize : Int)
      (head.sequence + 1 - pageIndex * policyEvaluationJobHistoryPageSize)
  page.take (if count < 0 then (page.length + count).toNat else count.toNat)

structure Anchored (stored : StoredPolicyJob evidence) (head : PolicyEvaluationJobHistoryHead)
    (anchor : PolicyEvaluationJobHistoryEntry) : Prop where
  entry :
    (stored.pages.getD (pageOf head.sequence) [])[head.sequence % policyEvaluationJobHistoryPageSize]?
      = some anchor
  valid : ValidEntry evidence.toPolicyEvaluationCodec anchor
  head_eq : headOf anchor = head

theorem readHistoryPage_eq_ok
    : readHistoryPage store head pageIndex = .ok page
        ↔ head.Accepted
            ∧ ∃ stored anchor,
                Opened store head.scope head.job.jobId stored
                  ∧ Anchored stored head anchor
                  ∧ validatePolicyEvaluationJobHistoryPage evidence.toPolicyEvaluationCodec head
                      ⟨head, pageIndex, pageEntries stored head pageIndex⟩
                    = .ok page := by
  unfold readHistoryPage
  simp only [bind_eq_ok, parseWith_eq_ok, exists_const, read_eq_ok]
  apply and_congr_right
  intro _
  constructor
  . rintro ⟨_, ⟨stored, hopened, rfl⟩, h⟩
    dsimp only at h
    split at h
    . contradiction
    . next anchor hanchor =>
      simp only [bind_eq_ok, policyEvaluationJobHistoryHead_eq_ok, failIf_eq_ok, exists_const,
        not_not, ne_eq] at h
      obtain ⟨_, ⟨hvalid, rfl⟩, hhead, hpage⟩ := h
      exact ⟨stored, anchor, hopened, ⟨hanchor, hvalid, hhead⟩, hpage⟩
  . rintro ⟨stored, anchor, hopened, hanchored, hpage⟩
    refine ⟨_, ⟨stored, hopened, rfl⟩, ?_⟩
    dsimp only
    rw [hanchored.entry]
    simp only [bind_eq_ok, policyEvaluationJobHistoryHead_eq_ok, failIf_eq_ok, exists_const,
      not_not, ne_eq]
    exact ⟨_, ⟨hanchored.valid, rfl⟩, hanchored.head_eq, hpage⟩

theorem validatePolicyEvaluationJobHistoryPage_accepted {codec : PolicyEvaluationCodec}
    {value : PolicyEvaluationJobHistoryPage}
    (h : validatePolicyEvaluationJobHistoryPage codec head value = .ok page)
    : value.Accepted := by
  unfold validatePolicyEvaluationJobHistoryPage at h
  simp only [bind_eq_ok, parseWith_eq_ok, exists_const] at h
  exact h.2.1

theorem length_entries_of_accepted
    {value : PolicyEvaluationJobHistoryPage} (h : value.Accepted)
    : 0 < value.count ∧ (value.entries.length : Int) = value.count := by
  have hissues := h.2
  unfold PolicyEvaluationJobHistoryPage.issues at hissues
  simp only [List.append_eq_nil_iff, issue_eq_nil, not_or, not_le, not_not, ne_eq] at hissues
  exact hissues.1.1

/-- A page that has been validated is complete, so that later entries do not show in it. -/
theorem pageEntries_of_grows {later : StoredPolicyJob evidence}
    (hgrows : Log.Grows stored.pages later.pages)
    (hpage : (⟨head, pageIndex, pageEntries stored head pageIndex⟩
      : PolicyEvaluationJobHistoryPage).Accepted)
    : pageEntries later head pageIndex = pageEntries stored head pageIndex := by
  obtain ⟨hpos, hlength⟩ := length_entries_of_accepted hpage
  unfold PolicyEvaluationJobHistoryPage.count PolicyEvaluationJobHistoryPage.first at hpos hlength
  unfold pageEntries at hlength ⊢
  dsimp only at hpos hlength ⊢
  push_cast at hpos hlength
  rw [if_neg (by omega)] at hlength
  rw [if_neg (by omega), if_neg (by omega)]
  apply hgrows.take_eq
  rw [List.length_take] at hlength
  omega

theorem Anchored.of_grows {later : StoredPolicyJob evidence}
    {anchor : PolicyEvaluationJobHistoryEntry} (h : Anchored stored head anchor)
    (hgrows : Log.Grows stored.pages later.pages)
    : Anchored later head anchor where
  entry := hgrows.getElem?_eq_some h.entry
  valid := h.valid
  head_eq := h.head_eq

theorem readHistoryPage_of_later {later : PolicyEvaluationJobStore evidence}
    (hrun : Later step (empty evidence) store) (hlater : Later step store later)
    (hread : readHistoryPage store head pageIndex = .ok page)
    : readHistoryPage later head pageIndex = .ok page := by
  obtain ⟨haccepted, stored, anchor, hopened, hanchored, hpage⟩ := readHistoryPage_eq_ok.mp hread
  obtain ⟨stored', hstored', hfollows⟩ := later_follows hlater hopened.record
  have hkept := later_invariant (hrun.trans hlater) _ _ stored' hstored'
  have hentries := pageEntries_of_grows hfollows.pages
    (validatePolicyEvaluationJobHistoryPage_accepted hpage)
  rw [← hentries] at hpage
  exact readHistoryPage_eq_ok.mpr ⟨haccepted, stored', anchor,
    ⟨hopened.scope_schema, hopened.id_schema, hstored', hkept.inspected⟩,
    hanchored.of_grows hfollows.pages, hpage⟩

end Page

section Close

structure Encodes (codec : PolicyEvaluationCodec) : Prop where
  graphSha256 : ∀ snapshot, Sha256Schema (codec.graphSha256 snapshot)
  entrySha256 : ∀ definition, Sha256Schema (codec.entrySha256 definition)
  entryByteLength : ∀ entry : PolicyEvaluationJobHistoryEntry, entry.Accepted →
    codec.entryByteLength entry ≤ maxPolicyEvaluationJobHistoryEntryBytes

theorem Encodes.validEntry {codec : PolicyEvaluationCodec} (h : Encodes codec)
    {definition : PolicyEvaluationJobHistoryEntryDefinition} (hdefinition : definition.Accepted)
    : ValidEntry codec ⟨definition, codec.entrySha256 definition⟩ := by
  have haccepted : (⟨definition, codec.entrySha256 definition⟩
      : PolicyEvaluationJobHistoryEntry).Accepted := ⟨hdefinition, h.entrySha256 definition⟩
  exact ⟨haccepted, rfl, h.entryByteLength _ haccepted⟩

structure SealOwned (identity : PolicyEvaluationSnapshotReadIdentity) (root : evidence.Snapshot)
    (job : PolicyEvaluationJobSnapshot) (attempt : PolicyEvaluationAttempt) : Prop where
  find :
    job.attempts.find? (fun attempt => attempt.mutationFence.attemptId = root.mutationFence.attemptId)
      = some attempt
  fence : attempt.mutationFence = root.mutationFence
  snapshot : attempt.snapshot = some identity.snapshot
  started_le : attempt.startedAt.orderKey ≤ root.sealedAt.orderKey
  lt_deadline : root.recordedAt.orderKey < attempt.deadlineAt.orderKey
  recorded_le : ∀ closure ∈ attempt.closure,
    root.recordedAt.orderKey ≤ closure.committedAt.orderKey

theorem validatePolicyEvaluationStoredSnapshotJob_eq_ok
    {identity : PolicyEvaluationSnapshotReadIdentity} {root : evidence.Snapshot}
    {job : PolicyEvaluationJobSnapshot}
    : validatePolicyEvaluationStoredSnapshotJob evidence identity root job = .ok ()
        ↔ policyEvaluationSnapshotReadIdentity evidence identity = .ok ()
            ∧ validatePolicyEvaluationStoredSnapshotHeader evidence identity root = .ok ()
            ∧ Recorded evidence.toPolicyEvaluationCodec job
            ∧ job.job.jobId = identity.job.jobId
            ∧ job.job.definitionSha256 = identity.job.definitionSha256
            ∧ job.job.scope = identity.scope
            ∧ job.job.request = identity.request
            ∧ job.job.snapshot = some identity.snapshot
            ∧ ∃ attempt, SealOwned identity root job attempt := by
  unfold validatePolicyEvaluationStoredSnapshotJob
  simp only [bind_eq_ok, validatePolicyEvaluationJobSnapshotRecord_eq_ok, failIf_eq_ok, and_assoc,
    exists_and_left, exists_eq_left', not_or, not_and, not_not, not_forall, not_exists, not_lt,
    not_le, ne_eq, exists_prop]
  constructor
  . rintro ⟨⟨⟩, hidentity, ⟨⟩, hheader, h1, h2, h3, h4, h5, h6, attempt, h7, h8, h9, h10, h11, h12⟩
    exact ⟨hidentity, hheader, h1, h2, h3, h4, h5, h6, attempt, h11, h7, h8, h9, h10, h12⟩
  . rintro ⟨hidentity, hheader, h1, h2, h3, h4, h5, h6, attempt, h7, h8, h9, h10, h11, h12⟩
    exact ⟨(), hidentity, (), hheader, h1, h2, h3, h4, h5, h6, attempt, h8, h9, h10, h11, h7, h12⟩

theorem find?_modifyLast {α : Type} {p : α → Bool} {f : α → α} (hf : ∀ x, p (f x) = p x)
    {values : List α} {found : α} (h : values.find? p = some found)
    : ∃ changed, (values.modifyLast f).find? p = some changed ∧ (changed = found ∨ changed = f found) := by
  induction values using List.reverseRecOn with
  | nil => contradiction
  | append_singleton values last _ =>
    rw [List.modifyLast_concat]
    rw [List.find?_append] at h ⊢
    cases hvalues : values.find? p with
    | some value =>
      rw [hvalues] at h
      exact ⟨value, rfl, .inl (Option.some.inj h)⟩
    | none =>
      rw [hvalues] at h
      simp only [List.find?_singleton, Option.none_or, hf] at h ⊢
      split at h
      . cases h
        exact ⟨f found, by simp_all, .inr rfl⟩
      . contradiction

theorem SealOwned.of_closing {identity : PolicyEvaluationSnapshotReadIdentity}
    {root : evidence.Snapshot} {before after : PolicyEvaluationJobSnapshot}
    {attempt : PolicyEvaluationAttempt} {now : PolicyEvaluationTime}
    {closure : PolicyEvaluationClosure} (h : SealOwned identity root before attempt)
    (hclosing : Closing before after now closure)
    (hrecorded : root.recordedAt.orderKey ≤ closure.committedAt.orderKey)
    : ∃ attempt, SealOwned identity root after attempt := by
  have hkeeps : ∀ attempt : PolicyEvaluationAttempt,
      decide ((closeAttempt after.usage closure attempt).mutationFence.attemptId
          = root.mutationFence.attemptId)
        = decide (attempt.mutationFence.attemptId = root.mutationFence.attemptId) := by
    intro attempt
    rw [closeAttempt_mutationFence]
  obtain ⟨changed, hfind, hchanged⟩ := find?_modifyLast hkeeps h.find
  rw [← hclosing.attempts] at hfind
  have hcases : changed = attempt
      ∨ changed = { attempt with closure := some closure, usageAtClose := some after.usage } := by
    rcases hchanged with hsame | hclosed
    . exact .inl hsame
    . unfold closeAttempt at hclosed
      split at hclosed
      . exact .inr hclosed
      . exact .inl hclosed
  rcases hcases with rfl | rfl
  . exact ⟨changed, hfind, h.fence, h.snapshot, h.started_le, h.lt_deadline, h.recorded_le⟩
  . exact ⟨_, hfind, h.fence, h.snapshot, h.started_le, h.lt_deadline, by simpa using hrecorded⟩

variable {result : PolicyEvaluationJobSnapshot}

theorem Kept.inspected_extended (h : Kept scope id stored) {now : PolicyEvaluationTime}
    {operation : PolicyEvaluationJobHistoryOperation}
    {entry : PolicyEvaluationJobHistoryEntry} (hstep : Step stored.snapshot result now)
    (hcreated : createPolicyEvaluationJobHistoryEntry evidence.toPolicyEvaluationCodec
      (some (stored.snapshot, stored.latest)) result operation = .ok entry)
    (hsealed : ∀ sealedInput ∈ stored.sealedInput, ∃ reference ∈ result.job.snapshot,
      validatePolicyEvaluationStoredSnapshotJob evidence
        (readIdentity result scope id reference) sealedInput.record result = .ok ())
    : Inspected (extended stored .none result entry) scope id := by
  obtain ⟨hrecorded, -, -, -, hvalid, hdefinition⟩ :=
    createPolicyEvaluationJobHistoryEntry_some_eq_ok.mp hcreated
  have hscope : result.job.scope = scope := hstep.identity.scope.trans h.inspected.scope_eq
  have hsequence : entry.definition.sequence = stored.pages.flatten.length := by
    rw [hdefinition, h.length]
    show result.job.stateVersion - 1 = _
    rw [hstep.stateVersion]
    rfl
  obtain ⟨last, hpage, hlast⟩ := h.paged.getD_append entry
  rw [← hsequence] at hpage hlast
  have hlastPage : (extended stored .none result entry).pages.getD
      (pageOf entry.definition.sequence) [] = last ++ [entry] := hpage
  constructor
  . exact hrecorded
  . show result.job.jobId = id
    rw [hstep.identity.definition]
    exact h.inspected.jobId_eq
  . exact hscope
  . exact hvalid
  . show entry.definition.scope = scope
    rw [hdefinition]
    exact hscope
  . show entry.definition.job = jobReference result.job
    rw [hdefinition]
    rfl
  . show ((extended stored .none result entry).pages.getD
      (pageOf entry.definition.sequence) []).length = _
    rw [hlastPage, List.length_append, hlast]
    rfl
  . show ((extended stored .none result entry).pages.getD
      (pageOf entry.definition.sequence) []).getLast? = some entry
    rw [hlastPage]
    simp
  . show entry.definition.graphSha256 = _
    rw [hdefinition]
    rfl
  . show entry.definition.sequence + 1 = result.job.stateVersion
    rw [hsequence, h.length, hstep.stateVersion]
  . show stored.outbox ++ outboxIntents (some stored.snapshot) result = outboxIntents none result
    rw [h.inspected.outbox, outboxIntents_append hstep]
  . exact hsealed

theorem Kept.stateVersion_lt (h : Kept scope id stored)
    (hopen : stored.snapshot.job.terminal = none)
    : stored.snapshot.job.stateVersion < maxPolicyEvaluationJobHistoryEntries := by
  have hbound := h.inspected.latest.accepted.1.1.sequence
  have hsequence := h.inspected.sequence
  have hfull : stored.snapshot.job.stateVersion ≠ maxPolicyEvaluationJobHistoryEntries := by
    intro hversion
    have hterminal := h.full hversion
    rw [hopen] at hterminal
    contradiction
  have hle := hbound.2
  unfold maxPolicyEvaluationJobHistoryEntries at hle hfull ⊢
  omega

section Cancel

variable {intent : PolicyEvaluationCancellation}

theorem Kept.cancellation_eq_none (h : Kept scope id stored)
    (hopen : stored.snapshot.job.terminal = none)
    : stored.snapshot.cancellation = none := by
  by_contra hsome
  have hterminal := h.cancellation (Option.isSome_iff_ne_none.mpr hsome)
  rw [hopen] at hterminal
  contradiction

theorem Kept.cancel_apply (h : Kept scope id stored) (hopen : stored.snapshot.job.terminal = none)
    (hintent : intent.Accepted) (hjobId : intent.jobId = id) (hscope : intent.scope = scope)
    (hupdated : stored.snapshot.job.updatedAt.orderKey ≤ intent.requestedAt.orderKey)
    : (PolicyEvaluationTransition.cancel intent).apply stored.snapshot
        = .ok (cancelledWith stored.snapshot intent) := by
  have hcancellation := h.cancellation_eq_none hopen
  have haccepted := h.inspected.recorded.accepted
  have hstatus : stored.snapshot.job.status.isTerminal = false := by
    rw [(accepted_iff.mp haccepted).job.isTerminal, hopen]
    rfl
  have hversion : stored.snapshot.job.stateVersion < maxSafeInteger :=
    (h.stateVersion_lt hopen).trans (by decide)
  have hdraft : (PolicyEvaluationTransition.cancel intent).draft stored.snapshot
      = .ok (cancelledWith stored.snapshot intent) :=
    cancelPolicyEvaluationJob.draft_eq_ok.mpr
      ⟨haccepted, hintent, hjobId.trans h.inspected.jobId_eq.symm,
        hscope.trans h.inspected.scope_eq.symm,
        .inr ⟨hcancellation, hstatus, hupdated, hversion, rfl⟩⟩
  have hcovered : (PolicyEvaluationTransition.cancel intent).Covered stored.snapshot := trivial
  rw [PolicyEvaluationTransition.apply_eq_ok]
  exact ⟨hdraft, accepted_iff.mpr (PolicyEvaluationTransition.draft_consistent hcovered hdraft)⟩

theorem cancelledWith_step {snapshot : PolicyEvaluationJobSnapshot}
    (happly : (PolicyEvaluationTransition.cancel intent).apply snapshot
      = .ok (cancelledWith snapshot intent))
    : Step snapshot (cancelledWith snapshot intent) intent.requestedAt := by
  have hdraft := (PolicyEvaluationTransition.apply_eq_ok.mp happly).1
  rcases PolicyEvaluationTransition.draft_step hdraft with hsame | hstep
  . have hversion := (cancelledWith_closing snapshot intent).stateVersion
    rw [hsame] at hversion
    omega
  . exact hstep

theorem Kept.cancel_definition_accepted (h : Kept scope id stored)
    (hencodes : Encodes evidence.toPolicyEvaluationCodec)
    (hopen : stored.snapshot.job.terminal = none) (hintent : intent.Accepted)
    (hjobId : intent.jobId = id) (hscope : intent.scope = scope)
    (hstep : Step stored.snapshot (cancelledWith stored.snapshot intent) intent.requestedAt)
    : (entryDefinition evidence.toPolicyEvaluationCodec (some (stored.snapshot, stored.latest))
        (cancelledWith stored.snapshot intent) (.cancel intent)).Accepted := by
  have hshape := (accepted_iff.mp h.inspected.recorded.accepted).jobShape
  have hlt := h.stateVersion_lt hopen
  have hpos := hshape.stateVersion.1
  have hversion := hstep.stateVersion
  have hresultJobId : (cancelledWith stored.snapshot intent).job.jobId = id := by
    rw [hstep.identity.definition]
    exact h.inspected.jobId_eq
  have hresultScope : (cancelledWith stored.snapshot intent).job.scope = scope :=
    hstep.identity.scope.trans h.inspected.scope_eq
  constructor
  . constructor
    . show EvidenceScopeSchema (cancelledWith stored.snapshot intent).job.scope
      rw [hstep.identity.scope]
      exact hshape.scope
    . constructor
      . show OpaqueIdSchema (cancelledWith stored.snapshot intent).job.jobId = true
        rw [hstep.identity.definition]
        exact hshape.jobId
      . show Sha256Schema (cancelledWith stored.snapshot intent).job.definitionSha256 = true
        rw [hstep.identity.definitionSha256]
        exact hshape.definitionSha256
    . constructor
      . exact Nat.zero_le _
      . show (cancelledWith stored.snapshot intent).job.stateVersion - 1 ≤ _
        rw [hversion]
        omega
    . simp only [entryDefinition, Option.map_some, Option.mem_def, Option.some.injEq]
      rintro _ rfl
      exact h.inspected.latest.accepted.2
    . simp only [entryDefinition, Option.map_some, Option.mem_def, Option.some.injEq]
      rintro _ rfl
      exact hencodes.graphSha256 _
    . exact hencodes.graphSha256 _
    . constructor
      . show 1 ≤ (cancelledWith stored.snapshot intent).job.stateVersion
        omega
      . show (cancelledWith stored.snapshot intent).job.stateVersion ≤ _
        omega
    . exact ⟨by simp [entryDefinition, PolicyEvaluationJobHistoryOperation.fence], hintent⟩
  . have hsequence : (cancelledWith stored.snapshot intent).job.stateVersion - 1 ≠ 0 := by omega
    have hnext : (cancelledWith stored.snapshot intent).job.stateVersion
        = (cancelledWith stored.snapshot intent).job.stateVersion - 1 + 1 := by omega
    simp only [PolicyEvaluationJobHistoryEntryDefinition.issues,
      PolicyEvaluationJobHistoryEntryDefinition.operationIssues, List.append_eq_nil_iff,
      issue_eq_nil, entryDefinition, PolicyEvaluationJobHistoryOperation.fence, jobReference,
      hresultJobId, hresultScope, hjobId, hscope, hstep.updatedAt]
    simp [hsequence, ← hnext]

theorem stateVersion_of_accepted {definition : PolicyEvaluationJobHistoryEntryDefinition}
    (h : definition.Accepted)
    : definition.stateVersion = definition.sequence + 1 := by
  have hissues := h.2
  unfold PolicyEvaluationJobHistoryEntryDefinition.issues at hissues
  simp only [List.append_eq_nil_iff, issue_eq_nil, not_not, ne_eq] at hissues
  exact hissues.1.1.1.1

theorem Kept.continues_step (h : Kept scope id stored)
    {now : PolicyEvaluationTime} (hstep : Step stored.snapshot result now)
    : continues stored.latest stored.snapshot result
        (evidence.toPolicyEvaluationCodec.graphSha256 stored.snapshot) := by
  have hscope : stored.latest.definition.scope = result.job.scope := by
    rw [h.inspected.latest_scope, hstep.identity.scope, h.inspected.scope_eq]
  refine ⟨h.inspected.graph, ?_, ?_, ?_, ?_, ?_, ?_, hstep.stateVersion⟩
  . rw [stateVersion_of_accepted h.inspected.latest.accepted.1]
    exact h.inspected.sequence
  . rw [h.inspected.latest_job, hstep.identity.definition]
    rfl
  . rw [h.inspected.latest_job, hstep.identity.definitionSha256]
    rfl
  all_goals rw [hscope]

theorem Kept.cancel_entry (h : Kept scope id stored)
    (hencodes : Encodes evidence.toPolicyEvaluationCodec)
    (hopen : stored.snapshot.job.terminal = none) (hintent : intent.Accepted)
    (hjobId : intent.jobId = id) (hscope : intent.scope = scope)
    (happly : (PolicyEvaluationTransition.cancel intent).apply stored.snapshot
      = .ok (cancelledWith stored.snapshot intent))
    : ∃ entry,
        createPolicyEvaluationJobHistoryEntry evidence.toPolicyEvaluationCodec
            (some (stored.snapshot, stored.latest)) (cancelledWith stored.snapshot intent)
            (.cancel intent)
          = .ok entry := by
  have hstep := cancelledWith_step happly
  have haccepted := (PolicyEvaluationTransition.apply_eq_ok.mp happly).2
  have hdefinition :=
    h.cancel_definition_accepted hencodes hopen hintent hjobId hscope hstep
  exact ⟨_, createPolicyEvaluationJobHistoryEntry_some_eq_ok.mpr
    ⟨h.inspected.recorded.of_step hstep haccepted, h.inspected.recorded, h.inspected.latest,
      h.continues_step hstep, hencodes.validEntry hdefinition, rfl⟩⟩

theorem Kept.cancel_sealed (h : Kept scope id stored)
    (happly : (PolicyEvaluationTransition.cancel intent).apply stored.snapshot
      = .ok (cancelledWith stored.snapshot intent))
    : ∀ sealedInput ∈ stored.sealedInput,
        ∃ reference ∈ (cancelledWith stored.snapshot intent).job.snapshot,
          validatePolicyEvaluationStoredSnapshotJob evidence
              (readIdentity (cancelledWith stored.snapshot intent) scope id reference)
              sealedInput.record (cancelledWith stored.snapshot intent)
            = .ok () := by
  intro sealedInput hsealed
  have hstep := cancelledWith_step happly
  have hclosing := cancelledWith_closing stored.snapshot intent
  have haccepted := (PolicyEvaluationTransition.apply_eq_ok.mp happly).2
  obtain ⟨reference, hreference, hvalid⟩ := h.inspected.sealedInput sealedInput hsealed
  obtain ⟨hidentity, hheader, -, hjobId, hdigest, hscope, hrequest, hsnapshot, attempt, howned⟩ :=
    validatePolicyEvaluationStoredSnapshotJob_eq_ok.mp hvalid
  have hrecorded :
      sealedInput.record.recordedAt.orderKey
        ≤ (PolicyEvaluationClosure.ended .cancelled .cancellationCommitted
            intent.requestedAt).committedAt.orderKey :=
    (h.sealedInput sealedInput hsealed).trans hstep.updated_le
  have hread : readIdentity (cancelledWith stored.snapshot intent) scope id reference
      = readIdentity stored.snapshot scope id reference := by
    unfold readIdentity
    rw [hstep.identity.definitionSha256, hstep.identity.definition]
  refine ⟨reference, ?_, ?_⟩
  . rw [hclosing.snapshot]
    exact hreference
  . rw [hread, validatePolicyEvaluationStoredSnapshotJob_eq_ok, hstep.identity.definition,
      hstep.identity.definitionSha256, hstep.identity.scope, hclosing.snapshot]
    exact ⟨hidentity, hheader, h.inspected.recorded.of_step hstep haccepted, hjobId, hdigest, hscope,
      hrequest, hsnapshot, howned.of_closing hclosing hrecorded⟩

theorem Kept.cancel_prepares (h : Kept scope id stored)
    (hencodes : Encodes evidence.toPolicyEvaluationCodec)
    (hstored : store.records (scope, id) = some stored)
    (hopen : stored.snapshot.job.terminal = none) (hintent : intent.Accepted)
    (hjobId : intent.jobId = id) (hscope : intent.scope = scope)
    (happly : (PolicyEvaluationTransition.cancel intent).apply stored.snapshot
      = .ok (cancelledWith stored.snapshot intent))
    {clock : PolicyEvaluationClock} (hclock : clock.work = some intent.requestedAt)
    {mutation : PolicyMutation evidence} (hcommitFence : mutation.commitFence = none)
    (hwork : mutation.work stored.snapshot intent.requestedAt
      = .ok (cancelledWith stored.snapshot intent, .none))
    (hoperation : mutation.operation (cancelledWith stored.snapshot intent) .none
      = .ok (.cancel intent))
    : ∃ entry : PolicyEvaluationJobHistoryEntry,
        entry.definition.operation = .cancel intent
          ∧ prepare store scope id clock mutation
              = .ok (cancelledWith stored.snapshot intent,
                  some ((scope, id),
                    extended stored .none (cancelledWith stored.snapshot intent) entry),
                  .none) := by
  have hstep := cancelledWith_step happly
  obtain ⟨entry, hcreated⟩ := h.cancel_entry hencodes hopen hintent hjobId hscope happly
  have hinspected := h.inspected_extended hstep hcreated (h.cancel_sealed happly)
  have hshape := (accepted_iff.mp h.inspected.recorded.accepted).jobShape
  obtain ⟨hrecorded, -, -, -, -, hdefinition⟩ :=
    createPolicyEvaluationJobHistoryEntry_some_eq_ok.mp hcreated
  have hopened : Opened store scope id stored :=
    ⟨h.inspected.scope_eq ▸ hshape.scope, h.inspected.jobId_eq ▸ hshape.jobId, hstored, h.inspected⟩
  have hevaluation : stored.evaluation = none := by
    by_contra hsome
    have hterminal := h.evaluation (Option.isSome_iff_ne_none.mpr hsome)
    rw [hopen] at hterminal
    contradiction
  refine ⟨entry, by rw [hdefinition]; rfl, prepare_eq_ok.mpr ⟨stored, intent.requestedAt, _, hopened,
    hclock, hwork, hrecorded, hinspected.jobId_eq, hinspected.scope_eq,
    .inr ⟨?_, .cancel intent, entry, ?_, rfl⟩⟩⟩
  . rw [hstep.stateVersion]
    omega
  . constructor
    . rw [transitionOutput_eq_ok]
      refine .inr ⟨?_, hoperation, rfl⟩
      rintro ⟨hterminal, -⟩
      contradiction
    . exact hcreated
    . exact ⟨_, replay_of_records hstep happly (.cancel intent) hcreated⟩
    . exact hrecorded
    . exact hinspected
    . have hnone : (extended stored .none (cancelledWith stored.snapshot intent) entry).evaluation
          = none := hevaluation
      unfold checkEvaluation
      rw [hnone]
    . unfold checkCommit
      rw [hcommitFence]

end Cancel

theorem mutate_run {clock : PolicyEvaluationClock} {mutation : PolicyMutation evidence}
    {key : JobKey} {material : PolicyMaterial evidence}
    (hprepare : prepare store scope id clock mutation = .ok (result, some (key, next), material))
    (hoperation : ∀ fence reservationId delta,
      next.latest.definition.operation ≠ .reserve fence reservationId delta)
    : mutate scope id clock mutation store = .ok (result, material) (store.setRecord key next) := by
  unfold mutate
  rw [get_bind_run, attempting_bind_run hprepare]
  simp only
  rfl

theorem Kept.cancelJob_closes {intent : PolicyEvaluationCancellation}
    (h : Kept intent.scope intent.jobId stored)
    (hencodes : Encodes evidence.toPolicyEvaluationCodec)
    (hstored : store.records (intent.scope, intent.jobId) = some stored)
    (hopen : stored.snapshot.job.terminal = none)
    (hcancellationId : OpaqueIdSchema intent.cancellationId = true)
    (hprincipalId : OpaqueIdSchema intent.requestedByPrincipalId = true)
    {clock : PolicyEvaluationClock} (hclock : clock.work = some intent.requestedAt)
    (hupdated : stored.snapshot.job.updatedAt.orderKey ≤ intent.requestedAt.orderKey)
    : ∃ closed store',
        cancelJob intent.scope intent.jobId intent.cancellationId intent.requestedByPrincipalId
            intent.reason clock store
          = .ok closed store'
          ∧ (store'.records (intent.scope, intent.jobId)).map (·.snapshot) = some closed
          ∧ closed.job.terminal.isSome
          ∧ closed.job.stateVersion = stored.snapshot.job.stateVersion + 1 := by
  have hshape := (accepted_iff.mp h.inspected.recorded.accepted).jobShape
  have hintent : intent.Accepted :=
    ⟨h.inspected.jobId_eq ▸ hshape.jobId, hcancellationId, h.inspected.scope_eq ▸ hshape.scope,
      hprincipalId⟩
  have happly := h.cancel_apply hopen hintent rfl rfl hupdated
  have hwork : (cancelMutation intent.scope intent.jobId intent.cancellationId
      intent.requestedByPrincipalId intent.reason : PolicyMutation evidence).work stored.snapshot
        intent.requestedAt
      = .ok (cancelledWith stored.snapshot intent, .none) := by
    simp only [cancelMutation, plainMutation, h.cancellation_eq_none hopen, bind_eq_ok]
    exact ⟨_, happly, rfl⟩
  obtain ⟨entry, hoperation, hprepare⟩ := h.cancel_prepares hencodes hstored hopen hintent rfl rfl
    happly hclock rfl hwork rfl
  have hnotReserve : ∀ fence reservationId delta,
      entry.definition.operation ≠ .reserve fence reservationId delta := by
    rw [hoperation]
    simp
  have hrun := mutate_run hprepare hnotReserve
  refine ⟨cancelledWith stored.snapshot intent,
    store.setRecord (intent.scope, intent.jobId)
      (extended stored .none (cancelledWith stored.snapshot intent) entry), ?_, ?_, rfl, ?_⟩
  . unfold cancelJob
    rw [bind_run hrun]
    rfl
  . show ((Function.update store.records _ _) _).map _ = _
    rw [Function.update_self]
    rfl
  . exact (cancelledWith_step happly).stateVersion

/-- The cancellation stands for the commands that close a job, as it needs no lease. -/
theorem history_keeps_room_and_prefixes (hrun : Later step (empty evidence) store)
    : (∀ scope id stored,
          store.records (scope, id) = some stored →
          stored.pages.flatten.length = stored.snapshot.job.stateVersion
            ∧ (stored.snapshot.job.stateVersion = maxPolicyEvaluationJobHistoryEntries →
                stored.snapshot.job.terminal.isSome)
            ∧ (stored.snapshot.job.terminal = none →
                stored.snapshot.job.stateVersion < maxPolicyEvaluationJobHistoryEntries
                  ∧ (Encodes evidence.toPolicyEvaluationCodec →
                      ∀ cancellationId principalId reason clock now,
                        OpaqueIdSchema cancellationId = true →
                        OpaqueIdSchema principalId = true →
                        clock.work = some now →
                        stored.snapshot.job.updatedAt.orderKey ≤ now.orderKey →
                        ∃ closed store',
                          cancelJob scope id cancellationId principalId reason clock store
                              = .ok closed store'
                            ∧ (store'.records (scope, id)).map (·.snapshot) = some closed
                            ∧ closed.job.terminal.isSome
                            ∧ closed.job.stateVersion = stored.snapshot.job.stateVersion + 1)))
        ∧ ∀ later head pageIndex page,
            Later step store later →
            readHistoryPage store head pageIndex = .ok page →
            readHistoryPage later head pageIndex = .ok page := by
  constructor
  . intro scope id stored hstored
    have hkept := later_invariant hrun scope id stored hstored
    refine ⟨hkept.length, hkept.full, ?_⟩
    intro hopen
    refine ⟨hkept.stateVersion_lt hopen, ?_⟩
    intro hencodes cancellationId principalId reason clock now hcancellationId hprincipalId hclock
      hupdated
    exact @Kept.cancelJob_closes _ _ _ ⟨id, cancellationId, scope, now, principalId, reason⟩ hkept
      hencodes hstored hopen hcancellationId hprincipalId _ hclock hupdated
  . intro later head pageIndex page hlater hread
    exact readHistoryPage_of_later hrun hlater hread

theorem sampleCodec_encodes : Encodes sampleCodec := by
  have hdigest : Sha256Schema sampleDigest = true := by decide
  exact ⟨fun _ => hdigest, fun _ => hdigest, fun _ _ => (by decide : 1024 ≤ 4096)⟩

theorem history_keeps_room_and_prefixes_sampleStore
    : sampleStored.snapshot.job.terminal = none
        ∧ sampleStored.snapshot.job.stateVersion < maxPolicyEvaluationJobHistoryEntries
        ∧ ∃ closed store',
            cancelJob sampleScope "job_one" "cancellation_one" "principal_one" .operatorRequested
                (sampleClock sampleCreatedAt) sampleStore
              = .ok closed store'
              ∧ closed.job.terminal.isSome := by
  obtain ⟨-, -, hroom⟩ :=
    (history_keeps_room_and_prefixes sampleStore_reachable).1 _ _ _ sampleStore_record
  obtain ⟨hlt, hcloses⟩ := hroom rfl
  obtain ⟨closed, store', hrun, -, hterminal, -⟩ :=
    hcloses sampleCodec_encodes "cancellation_one" "principal_one" .operatorRequested
      (sampleClock sampleCreatedAt) sampleCreatedAt (by decide) (by decide) rfl
      (le_refl sampleCreatedAt.orderKey)
  exact ⟨rfl, hlt, closed, store', hrun, hterminal⟩

end Close

end Policy
end ProofStack
