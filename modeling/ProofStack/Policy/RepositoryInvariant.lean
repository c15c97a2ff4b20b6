import ProofStack.Policy.RepositoryEffect

/-!
This module contains the invariant of the reachable stores and the relation between a stored job and
the same job at any later time.
-/

namespace ProofStack
namespace Policy

open PolicyEvaluationJobSnapshot StateMachine

variable {evidence : PolicyEvaluationEvidence}

inductive Chronicle (codec : PolicyEvaluationCodec)
    : List PolicyEvaluationJobHistoryEntry → PolicyEvaluationJobSnapshot → Prop where
  | intro {created snapshot : PolicyEvaluationJobSnapshot}
    {first : PolicyEvaluationJobHistoryEntry} {entries : List PolicyEvaluationJobHistoryEntry}
    (hfirst : createPolicyEvaluationJobHistoryEntry codec none created .created = .ok first)
    (hreplay : entries.foldlM (replayPolicyEvaluationJobHistoryEntry codec) created = .ok snapshot)
    : Chronicle codec (first :: entries) snapshot

theorem Chronicle.append {codec : PolicyEvaluationCodec}
    {entries : List PolicyEvaluationJobHistoryEntry} {snapshot next : PolicyEvaluationJobSnapshot}
    {entry : PolicyEvaluationJobHistoryEntry} (h : Chronicle codec entries snapshot)
    (hreplay : replayPolicyEvaluationJobHistoryEntry codec snapshot entry = .ok next)
    : Chronicle codec (entries ++ [entry]) next := by
  obtain ⟨hfirst, hentries⟩ := h
  rw [List.cons_append]
  apply Chronicle.intro hfirst
  rw [List.foldlM_append, bind_eq_ok]
  exact ⟨snapshot, hentries, by simpa using hreplay⟩

structure Kept (scope : EvidenceScope) (id : String) (stored : StoredPolicyJob evidence)
    : Prop where
  inspected : Inspected stored scope id
  paged : Log.Paged policyEvaluationJobHistoryPageSize stored.pages
  length : stored.pages.flatten.length = stored.snapshot.job.stateVersion
  chronicle : Chronicle evidence.toPolicyEvaluationCodec stored.pages.flatten stored.snapshot
  full :
    stored.snapshot.job.stateVersion = maxPolicyEvaluationJobHistoryEntries →
    stored.snapshot.job.terminal.isSome
  cancellation :
    stored.snapshot.cancellation.isSome → stored.snapshot.job.terminal.isSome
  sealedInput : ∀ sealedInput ∈ stored.sealedInput,
    sealedInput.record.recordedAt.orderKey ≤ stored.snapshot.job.updatedAt.orderKey
  evaluation : stored.evaluation.isSome → stored.snapshot.job.terminal.isSome

section Kept

variable {scope : EvidenceScope} {id : String} {stored next : StoredPolicyJob evidence}

theorem Created.kept (h : Created scope id stored) : Kept scope id stored := by
  obtain ⟨request, now, deadlineAt, recoveryEpoch, hsnapshot⟩ := h.snapshot
  constructor
  . exact h.inspected
  . rw [h.pages]
    exact Log.Paged.singleton _ (by decide)
  . rw [h.pages, hsnapshot]
    rfl
  . rw [h.pages]
    exact .intro h.entry rfl
  . rw [hsnapshot]
    intro hversion
    have hone : 1 = maxPolicyEvaluationJobHistoryEntries := hversion
    contradiction
  . rw [hsnapshot]
    intro hcancellation
    contradiction
  . rw [h.sealedInput]
    simp
  . rw [h.evaluation]
    simp

theorem Committed.kept {fence : Option PolicyEvaluationWorkerMutationFence}
    {now : PolicyEvaluationTime} (h : Committed fence scope id now stored next)
    (hstored : Kept scope id stored)
    : Kept scope id next := by
  have hsequence : next.latest.definition.sequence = stored.pages.flatten.length := by
    have := h.after.sequence
    have := h.step.stateVersion
    have := hstored.length
    omega
  have hpages := h.pages
  unfold pageOf at hpages
  rw [hsequence] at hpages
  obtain ⟨hpaged, hflatten⟩ := hstored.paged.append next.latest
  constructor
  . exact h.after
  . rw [hpages]
    exact hpaged
  . rw [hpages, hflatten, List.length_append, hstored.length, h.step.stateVersion]
    rfl
  . rw [hpages, hflatten]
    exact hstored.chronicle.append h.replay
  . exact h.full
  . rcases h.step.cancellation with hsame | ⟨-, hterminal⟩
    . intro hcancellation
      rw [hsame] at hcancellation
      have hterminal := hstored.cancellation hcancellation
      rw [h.step.terminal] at hterminal
      contradiction
    . exact fun _ => hterminal
  . intro sealedInput hsealed
    rw [h.step.updatedAt]
    rcases h.sealedInput with hsame | hrecorded
    . rw [hsame] at hsealed
      exact (hstored.sealedInput sealedInput hsealed).trans h.step.updated_le
    . rw [hrecorded sealedInput hsealed]
  . rcases h.evaluation with hsame | hterminal
    . intro hevaluation
      rw [hsame] at hevaluation
      have hterminal := hstored.evaluation hevaluation
      rw [h.step.terminal] at hterminal
      contradiction
    . exact fun _ => hterminal

end Kept

namespace PolicyEvaluationJobStore

def Invariant (store : PolicyEvaluationJobStore evidence) : Prop :=
  ∀ scope id stored, store.records (scope, id) = some stored → Kept scope id stored

variable {scope : EvidenceScope}

theorem invariant_update {store store' : PolicyEvaluationJobStore evidence}
    {id : String} {stored : StoredPolicyJob evidence} (h : store.Invariant)
    (hrecords : store'.records = Function.update store.records (scope, id) (some stored))
    (hstored : Kept scope id stored)
    : store'.Invariant := by
  intro scope' id' stored' hstored'
  rw [hrecords] at hstored'
  by_cases hkey : (scope', id') = (scope, id)
  . cases hkey
    rw [Function.update_self] at hstored'
    cases hstored'
    exact hstored
  . rw [Function.update_of_ne hkey] at hstored'
    exact h scope' id' stored' hstored'

theorem step_invariant (store : PolicyEvaluationJobStore evidence)
    (input : PolicyEvaluationCommand evidence × PolicyEvaluationClock) (h : store.Invariant)
    : (store.step input).Invariant := by
  have heffect := step_effect store input
  revert heffect
  generalize store.step input = store'
  intro heffect
  cases heffect with
  | unchanged => exact h
  | epoch => exact h
  | create _ _ hcreated hrecords => exact invariant_update h hrecords hcreated.kept
  | commit _ hstored _ hcommitted hrecords =>
    exact invariant_update h hrecords (hcommitted.kept (h _ _ _ hstored))

variable {store : PolicyEvaluationJobStore evidence}

theorem later_invariant
    (h : Later step (empty evidence) store)
    : store.Invariant := by
  apply Later.preserves step_invariant h
  intro scope id stored hstored
  contradiction

theorem step_record {id : String}
    {stored : StoredPolicyJob evidence} (hstored : store.records (scope, id) = some stored)
    (input : PolicyEvaluationCommand evidence × PolicyEvaluationClock)
    : (store.step input).records (scope, id) = some stored
        ∨ ∃ next now,
            (store.step input).records (scope, id) = some next
              ∧ input.2.work = some now
              ∧ Committed (input.1.target.map (·.2)) scope id now stored next := by
  have heffect := step_effect store input
  revert heffect
  generalize store.step input = store'
  intro heffect
  cases heffect with
  | unchanged => exact .inl hstored
  | epoch => exact .inl hstored
  | @create _ scope' id' _ _ habsent _ hrecords =>
    left
    rw [hrecords, Function.update_of_ne, hstored]
    intro hkey
    rw [hkey, habsent] at hstored
    contradiction
  | @commit _ scope' id' stored' next now _ hstored' hclock hcommitted hrecords =>
    rw [hrecords]
    by_cases hkey : (scope, id) = (scope', id')
    . cases hkey
      rw [hstored] at hstored'
      cases hstored'
      right
      exact ⟨next, now, Function.update_self _ _ _, hclock, hcommitted⟩
    . left
      rw [Function.update_of_ne hkey, hstored]

/-- A command that carries a fence and changes anything commits to the job of that fence. -/
theorem step_target
    {fence : PolicyEvaluationWorkerMutationFence}
    {input : PolicyEvaluationCommand evidence × PolicyEvaluationClock}
    (htarget : input.1.target = some (scope, fence)) (hchanged : store.step input ≠ store)
    : ∃ stored next now,
        store.records (scope, fence.jobId) = some stored
          ∧ input.2.work = some now
          ∧ Committed (some fence) scope fence.jobId now stored next := by
  have heffect := step_effect store input
  revert heffect hchanged
  generalize store.step input = store'
  intro hchanged heffect
  cases heffect with
  | unchanged => contradiction
  | epoch _ hnone | create hnone =>
    rw [hnone] at htarget
    contradiction
  | commit hkey hstored hclock hcommitted =>
    have hkey := hkey _ htarget
    cases hkey
    rw [htarget] at hcommitted
    exact ⟨_, _, _, hstored, hclock, hcommitted⟩

end PolicyEvaluationJobStore

section Follows

structure Spent (job : PolicyEvaluationJob) (fence : PolicyEvaluationWorkerMutationFence)
    : Prop where
  fencingToken_le : fence.fencingToken ≤ job.lastFencingToken
  replaced : ∀ lease ∈ job.currentLease, lease.mutationFence ≠ fence

theorem LeaseStep.spent {before after : PolicyEvaluationJob}
    {fence : PolicyEvaluationWorkerMutationFence} (h : LeaseStep before after)
    (hspent : Spent before fence)
    : Spent after fence where
  fencingToken_le := hspent.fencingToken_le.trans h.lastFencingToken_le
  replaced := by
    rintro renewed hrenewed rfl
    rcases h.lease renewed hrenewed with hnew | ⟨lease, hlease, hsame, -⟩
    . exact absurd hspent.fencingToken_le (Nat.not_le.mpr hnew)
    . exact hspent.replaced lease hlease hsame.symm

structure Follows (stored later : StoredPolicyJob evidence) : Prop where
  pages : Log.Grows stored.pages later.pages
  terminal : stored.snapshot.job.terminal.isSome → later = stored
  snapshot :
    stored.snapshot.job.snapshot.isSome →
    later.snapshot.job.snapshot = stored.snapshot.job.snapshot
  lastFencingToken_le :
    stored.snapshot.job.lastFencingToken ≤ later.snapshot.job.lastFencingToken
  spent : ∀ fence, Spent stored.snapshot.job fence → Spent later.snapshot.job fence

theorem Follows.refl (stored : StoredPolicyJob evidence) : Follows stored stored where
  pages := Log.Grows.refl _
  terminal := fun _ => rfl
  snapshot := fun _ => rfl
  lastFencingToken_le := Nat.le_refl _
  spent := fun _ hspent => hspent

theorem Follows.trans {first second third : StoredPolicyJob evidence} (h : Follows first second)
    (h' : Follows second third)
    : Follows first third where
  pages := h.pages.trans h'.pages
  terminal := by
    intro hterminal
    have hsame := h.terminal hterminal
    subst hsame
    exact h'.terminal hterminal
  snapshot := by
    intro hsome
    have hsame := h.snapshot hsome
    rw [← hsame] at hsome ⊢
    exact h'.snapshot hsome
  lastFencingToken_le := h.lastFencingToken_le.trans h'.lastFencingToken_le
  spent := fun fence hspent => h'.spent fence (h.spent fence hspent)

theorem Committed.follows {fence : Option PolicyEvaluationWorkerMutationFence}
    {scope : EvidenceScope} {id : String} {now : PolicyEvaluationTime}
    {stored next : StoredPolicyJob evidence} (h : Committed fence scope id now stored next)
    : Follows stored next where
  pages := by
    rw [h.pages]
    apply Log.grows_append
  terminal := by
    rw [h.step.terminal]
    simp
  snapshot := h.step.snapshot
  lastFencingToken_le := h.leaseStep.lastFencingToken_le
  spent := fun _ => h.leaseStep.spent

theorem PolicyEvaluationJobStore.later_follows {store later : PolicyEvaluationJobStore evidence}
    (h : Later step store later) {scope : EvidenceScope} {id : String}
    {stored : StoredPolicyJob evidence} (hstored : store.records (scope, id) = some stored)
    : ∃ stored', later.records (scope, id) = some stored' ∧ Follows stored stored' := by
  apply Later.preserves
    (P := fun later => ∃ stored', later.records (scope, id) = some stored' ∧ Follows stored stored')
    _ h ⟨stored, hstored, Follows.refl stored⟩
  rintro later input ⟨stored', hstored', hfollows⟩
  rcases step_record hstored' input with hsame | ⟨next, now, hnext, -, hcommitted⟩
  . exact ⟨stored', hsame, hfollows⟩
  . exact ⟨next, hnext, hfollows.trans hcommitted.follows⟩

end Follows

section Creation

variable {store : PolicyEvaluationJobStore evidence} {request : PolicyEvaluationRequest}
variable {jobId : String} {now deadlineAt : PolicyEvaluationTime}
variable {clock : PolicyEvaluationClock}

def createdJob (evidence : PolicyEvaluationEvidence) (snapshot : PolicyEvaluationJobSnapshot)
    (entry : PolicyEvaluationJobHistoryEntry) : StoredPolicyJob evidence where
  snapshot := snapshot
  latest := entry
  pages := [[entry]]
  outbox := outboxIntents none snapshot
  sealedInput := none
  evaluation := none

theorem prepareCreation_run {snapshot : PolicyEvaluationJobSnapshot} {entry : PolicyEvaluationJobHistoryEntry}
    (habsent : store.records (request.scope, jobId) = none) (hclock : clock.work = some now)
    (hdeadline : requestDeadline request = .ok deadlineAt)
    (hsnapshot : createdSnapshot evidence.toPolicyEvaluationCodec request jobId now deadlineAt
      store.recoveryEpoch = snapshot)
    (hentry : createPolicyEvaluationJobHistoryEntry evidence.toPolicyEvaluationCodec none snapshot .created
      = .ok entry)
    : prepareCreation store request jobId clock
        = .ok ((request.scope, jobId), createdJob evidence snapshot entry) := by
  subst hsnapshot
  obtain ⟨hrecorded, hvalid, hdefinition⟩ :=
    createPolicyEvaluationJobHistoryEntry_none_eq_ok.mp hentry
  have hshape := (accepted_iff.mp hrecorded.accepted).jobShape
  have hinspected : Inspected (createdJob evidence
      (createdSnapshot evidence.toPolicyEvaluationCodec request jobId now deadlineAt
        store.recoveryEpoch) entry) request.scope jobId := by
    have hsequence : entry.definition.sequence = 0 := by
      rw [hdefinition]
      rfl
    constructor
    . exact hrecorded
    . rfl
    . rfl
    . exact hvalid
    . show entry.definition.scope = request.scope
      rw [hdefinition]
      rfl
    . show entry.definition.job = _
      rw [hdefinition]
      rfl
    . show ([[entry]].getD (pageOf entry.definition.sequence) []).length
        = entry.definition.sequence % policyEvaluationJobHistoryPageSize + 1
      rw [hsequence]
      rfl
    . show ([[entry]].getD (pageOf entry.definition.sequence) []).getLast? = _
      rw [hsequence]
      rfl
    . show entry.definition.graphSha256 = _
      rw [hdefinition]
      rfl
    . show entry.definition.sequence + 1 = 1
      rw [hsequence]
    . rfl
    . intro sealedInput hsealed
      contradiction
  unfold prepareCreation
  simp only [bind_eq_ok, jobKey_eq_ok, failIf_eq_ok, parseTime_eq_ok, parseSnapshot_eq_ok,
    inspect_eq_ok, buildPolicyEvaluationJobOutboxIntents_eq_ok, inspectStored_eq_ok, pure_eq_ok,
    Option.not_isSome_iff_eq_none]
  exact ⟨_, ⟨hshape.scope, hshape.jobId, rfl⟩, (), habsent, now, hclock, deadlineAt, hdeadline, _,
    ⟨hrecorded.accepted, rfl⟩, _, ⟨hrecorded, trivial, trivial, rfl⟩, entry, hentry, _,
    ⟨hrecorded, rfl⟩, _, ⟨hinspected, rfl⟩, rfl⟩

theorem step_create {snapshot : PolicyEvaluationJobSnapshot} {entry : PolicyEvaluationJobHistoryEntry}
    (hnew : store.requests (request.scope, request.evaluationRequestId) = none)
    (habsent : store.records (request.scope, jobId) = none) (hclock : clock.work = some now)
    (hdeadline : requestDeadline request = .ok deadlineAt)
    (hsnapshot : createdSnapshot evidence.toPolicyEvaluationCodec request jobId now deadlineAt
      store.recoveryEpoch = snapshot)
    (hentry : createPolicyEvaluationJobHistoryEntry evidence.toPolicyEvaluationCodec none snapshot .created
      = .ok entry)
    : (store.step (.create request jobId, clock)).records (request.scope, jobId)
        = some (createdJob evidence snapshot entry) := by
  obtain ⟨hrecorded, -⟩ := createPolicyEvaluationJobHistoryEntry_none_eq_ok.mp hentry
  rw [← hsnapshot] at hrecorded
  have hconsistent := accepted_iff.mp hrecorded.accepted
  have hvalidate : validatePolicyEvaluationRequestRecord evidence.toPolicyEvaluationCodec request
      = .ok request :=
    validatePolicyEvaluationRequestRecord_eq_ok.mpr ⟨hconsistent.request, hrecorded.request, rfl⟩
  have hkey : jobKey request.scope request.evaluationRequestId
      = .ok (request.scope, request.evaluationRequestId) :=
    jobKey_eq_ok.mpr ⟨hconsistent.jobShape.scope, hconsistent.jobShape.request.2, rfl⟩
  have hparse : parseWith (OpaqueIdSchema jobId = true) = .ok () :=
    parseWith_eq_ok.mpr hconsistent.jobShape.jobId
  have hprepare := prepareCreation_run habsent hclock hdeadline hsnapshot hentry
  have hrun : createJob request jobId clock store
      = .ok true ((store.setRecord (request.scope, jobId) (createdJob evidence snapshot entry)).setRequest
          (request.scope, request.evaluationRequestId) (request.scope, jobId)) := by
    unfold createJob
    rw [get_bind_run, attempting_bind_run hvalidate, attempting_bind_run hparse,
      attempting_bind_run hkey]
    dsimp only
    rw [hnew]
    dsimp only
    rw [attempting_bind_run hprepare]
    rfl
  unfold PolicyEvaluationJobStore.step PolicyEvaluationCommand.run
  dsimp only
  rw [discard_run hrun]
  exact Function.update_self _ _ _

end Creation

section Sample

def sampleEvidence : PolicyEvaluationEvidence where
  toPolicyEvaluationCodec := sampleCodec
  SnapshotDefinition := Unit
  PageSet := Unit
  ResultDefinition := Unit
  snapshotDefinitionDecidableEq := inferInstance
  pageSetDecidableEq := inferInstance
  resultDefinitionDecidableEq := inferInstance
  snapshotId := fun _ => "snapshot_one"
  snapshotRequest := fun _ => ⟨sampleDigest, "request_one"⟩
  snapshotDefinitionSha256 := fun _ _ => sampleDigest
  pageSetDefinition := fun _ => ()
  pageSetDefinitionSha256 := fun _ => sampleDigest
  evaluationId := fun _ => "evaluation_one"
  ruleCount := fun _ => 1
  resultDefinitionSha256 := fun _ _ => sampleDigest
  policyEvaluationSnapshotSchema := fun _ => true
  policyEvaluationSnapshotPageSetSchema := fun _ => true
  policyEvaluationSchema := fun _ => true
  validatePolicyEvaluationSnapshot := fun _ _ => .ok ⟨true, sampleRequest⟩
  prepareSealedPolicyEvaluation := fun _ _ _ _ => .ok ⟨1, .ok ()⟩

def sampleClock (now : PolicyEvaluationTime) : PolicyEvaluationClock :=
  ⟨some now, some now, some now⟩

def sampleCreatedAt : PolicyEvaluationTime :=
  secondsAfterEpoch 0 sampleStart_le

def sampleEntry : PolicyEvaluationJobHistoryEntry :=
  ⟨entryDefinition sampleCodec none sampleQueued .created, sampleDigest⟩

def sampleStore : PolicyEvaluationJobStore sampleEvidence :=
  (PolicyEvaluationJobStore.empty sampleEvidence).step
    (.create sampleRequest "job_one", sampleClock sampleCreatedAt)

def sampleStored : StoredPolicyJob sampleEvidence :=
  createdJob sampleEvidence sampleQueued sampleEntry

theorem sampleStore_reachable
    : Later PolicyEvaluationJobStore.step (PolicyEvaluationJobStore.empty sampleEvidence)
        sampleStore :=
  (Later.refl _).next _

theorem sampleStore_record : sampleStore.records (sampleScope, "job_one") = some sampleStored := by
  have hdeadline : requestDeadline sampleRequest = .ok (secondsAfterEpoch 120 (by decide)) := by
    decide
  have hvalid : ValidEntry sampleCodec sampleEntry := ⟨by decide, rfl, by decide⟩
  have hcreated : createdSnapshot sampleEvidence.toPolicyEvaluationCodec sampleRequest "job_one"
      sampleCreatedAt (secondsAfterEpoch 120 (by decide))
      (PolicyEvaluationJobStore.empty sampleEvidence).recoveryEpoch = sampleQueued := rfl
  have hrecorded : Recorded sampleCodec sampleQueued := ⟨sampleQueued_accepted, rfl, rfl⟩
  have hentry : createPolicyEvaluationJobHistoryEntry sampleCodec none sampleQueued .created
      = .ok sampleEntry :=
    createPolicyEvaluationJobHistoryEntry_none_eq_ok.mpr ⟨hrecorded, hvalid, rfl⟩
  have hrecord := @step_create sampleEvidence (PolicyEvaluationJobStore.empty sampleEvidence)
    sampleRequest "job_one" sampleCreatedAt (secondsAfterEpoch 120 (by decide))
    (sampleClock sampleCreatedAt) _ sampleEntry rfl rfl rfl hdeadline hcreated hentry
  have hscope : sampleRequest.scope = sampleScope := rfl
  rw [hscope] at hrecord
  rw [sampleStore, sampleStored]
  exact hrecord

end Sample

end Policy
end ProofStack
