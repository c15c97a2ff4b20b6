import ProofStack.Artifacts.Effects

/-!
This module contains the lifecycle of artifacts over all interleavings of the operations.
-/

namespace ProofStack
namespace Artifacts

open Checks StateMachine

variable {ports : ArtifactPorts} {strict : Prop} {operations : List Operation} {s s' : ArtifactStore}

def IsRetired (stored : StoredArtifact) : Prop :=
  stored.entry.state = .tombstoned ∨ stored.entry.state = .purged

def IsPurging (operations : List Operation) (s : ArtifactStore) (key : ArtifactKey) : Prop :=
  (∃ stored, s.catalog.artifacts key = some stored ∧ stored.entry.state = .purged)
    ∨ ∃ scope artifactId objectWasPresent batch,
        .mark scope artifactId objectWasPresent batch ∈ operations
          ∧ artifactKey scope artifactId = key

structure StoreInvariant (ports : ArtifactPorts) (strict : Prop) (s : ArtifactStore) : Prop where
  objectKeys : (s.objectKeys.map (·.2)).Nodup
  keyed : ∀ key stored, s.catalog.artifacts key = some stored → stored.entry.key = key
  generated : ∀ key stored, s.catalog.artifacts key = some stored →
    (key, stored.entry.objectKey) ∈ s.objectKeys
  available : ∀ key stored, s.catalog.artifacts key = some stored →
    stored.entry.state = .available →
      ∃ bytes, s.objects stored.entry.objectKey = some bytes
        ∧ stored.entry.objectReceipt = some (ArtifactObjects.receipt ports.sha256 bytes)
  purged : strict → ∀ key stored, s.catalog.artifacts key = some stored →
    stored.entry.state = .purged → s.objects stored.entry.objectKey = none

def Located (s : ArtifactStore) (key : ArtifactKey) (objectKey : String) : Prop :=
  ∃ stored, s.catalog.artifacts key = some stored ∧ stored.entry.objectKey = objectKey

def Backed (ports : ArtifactPorts) (s : ArtifactStore) (key : ArtifactKey)
    (receipt : ArtifactObjectReceipt) : Prop :=
  ∃ stored, s.catalog.artifacts key = some stored
    ∧ (IsRetired stored
      ∨ ∃ bytes, s.objects stored.entry.objectKey = some bytes
          ∧ receipt = ArtifactObjects.receipt ports.sha256 bytes)

def Known (ports : ArtifactPorts) (strict : Prop) (s : ArtifactStore) : Operation → Prop
  | .reserve candidate => (candidate.key, candidate.objectKey) ∈ s.objectKeys
  | .write scope artifactId objectKey _ => Located s (artifactKey scope artifactId) objectKey
  | .activate scope artifactId receipt => Backed ports s (artifactKey scope artifactId) receipt
  | .delete scope artifactId objectKey _ =>
    ∃ stored, s.catalog.artifacts (artifactKey scope artifactId) = some stored
      ∧ stored.entry.objectKey = objectKey
      ∧ IsRetired stored
  | .mark scope artifactId _ _ =>
    ∃ stored, s.catalog.artifacts (artifactKey scope artifactId) = some stored
      ∧ IsRetired stored
      ∧ (strict → s.objects stored.entry.objectKey = none)
  | .inspect scope _ candidates _ =>
    ∀ candidate ∈ candidates,
      Located s (artifactKey scope candidate.artifactId) candidate.objectKey
  | .repair scope _ artifactId receipt candidates _ =>
    Backed ports s (artifactKey scope artifactId) receipt
      ∧ ∀ candidate ∈ candidates,
          Located s (artifactKey scope candidate.artifactId) candidate.objectKey
  | _ => True

structure Guarantee (strict : Prop) (operations : List Operation) (s s' : ArtifactStore) : Prop where
  artifacts : ∀ key stored, s.catalog.artifacts key = some stored →
    ∃ stored', s'.catalog.artifacts key = some stored'
      ∧ stored'.entry.objectKey = stored.entry.objectKey
      ∧ stored.entry.state.rank ≤ stored'.entry.state.rank
  objectKeys : ∀ generated ∈ s.objectKeys, generated ∈ s'.objectKeys
  kept : ∀ key stored bytes, s.catalog.artifacts key = some stored →
    s.objects stored.entry.objectKey = some bytes →
      s'.objects stored.entry.objectKey = some bytes ∨ IsRetired stored
  absent : strict → ∀ key stored, s.catalog.artifacts key = some stored →
    s.objects stored.entry.objectKey = none →
      s'.objects stored.entry.objectKey = none ∨ ¬IsPurging operations s key

section Stability

theorem isRetired_iff_rank {stored : StoredArtifact}
    : IsRetired stored ↔ 2 ≤ stored.entry.state.rank := by
  unfold IsRetired ArtifactState.rank
  cases stored.entry.state <;> simp

theorem Guarantee.located (h : Guarantee strict operations s s') {key : ArtifactKey}
    {objectKey : String} (hlocated : Located s key objectKey)
    : Located s' key objectKey := by
  obtain ⟨stored, hstored, rfl⟩ := hlocated
  obtain ⟨stored', hstored', hobjectKey, _⟩ := h.artifacts key stored hstored
  exact ⟨stored', hstored', hobjectKey⟩

theorem Guarantee.backed (h : Guarantee strict operations s s') {key : ArtifactKey}
    {receipt : ArtifactObjectReceipt} (hbacked : Backed ports s key receipt)
    : Backed ports s' key receipt := by
  obtain ⟨stored, hstored, hbacked⟩ := hbacked
  obtain ⟨stored', hstored', hobjectKey, hrank⟩ := h.artifacts key stored hstored
  have hretired : IsRetired stored → IsRetired stored' := by
    rw [isRetired_iff_rank, isRetired_iff_rank]
    omega
  refine ⟨stored', hstored', ?_⟩
  cases hbacked with
  | inl hbacked => exact .inl (hretired hbacked)
  | inr hbacked =>
    obtain ⟨bytes, hbytes, hreceipt⟩ := hbacked
    cases h.kept key stored bytes hstored hbytes with
    | inl hkept =>
      rw [← hobjectKey] at hkept
      exact .inr ⟨bytes, hkept, hreceipt⟩
    | inr hkept => exact .inl (hretired hkept)

theorem Guarantee.known (h : Guarantee strict operations s s') {operation : Operation}
    (hmem : operation ∈ operations) (hknown : Known ports strict s operation)
    : Known ports strict s' operation := by
  cases operation with
  | requested => trivial
  | tombstone => trivial
  | purge => trivial
  | ended => trivial
  | reserve candidate => exact h.objectKeys _ hknown
  | write scope artifactId objectKey encrypted => exact h.located hknown
  | activate scope artifactId receipt => exact h.backed hknown
  | delete scope artifactId objectKey batch =>
    obtain ⟨stored, hstored, hlocated, hretired⟩ := hknown
    obtain ⟨stored', hstored', hobjectKey, hrank⟩ := h.artifacts _ stored hstored
    rw [isRetired_iff_rank] at hretired
    refine ⟨stored', hstored', hobjectKey.trans hlocated, ?_⟩
    rw [isRetired_iff_rank]
    omega
  | mark scope artifactId objectWasPresent batch =>
    obtain ⟨stored, hstored, hretired, habsent⟩ := hknown
    obtain ⟨stored', hstored', hobjectKey, hrank⟩ := h.artifacts _ stored hstored
    rw [isRetired_iff_rank] at hretired
    refine ⟨stored', hstored', ?_, ?_⟩
    . rw [isRetired_iff_rank]
      omega
    . intro hstrict
      rw [hobjectKey]
      cases h.absent hstrict _ stored hstored (habsent hstrict) with
      | inl habsent => exact habsent
      | inr hpurging =>
        exact (hpurging (.inr ⟨scope, artifactId, objectWasPresent, batch, hmem, rfl⟩)).elim
  | inspect scope occurredAt candidates result =>
    intro candidate hcandidate
    exact h.located (hknown candidate hcandidate)
  | repair scope occurredAt artifactId receipt candidates result =>
    refine ⟨h.backed hknown.1, ?_⟩
    intro candidate hcandidate
    exact h.located (hknown.2 candidate hcandidate)

end Stability

section Effects

inductive Advance (ports : ArtifactPorts) (strict : Prop) (s : ArtifactStore)
    (stored stored' : StoredArtifact) : Prop where
  | activated (hfrom : stored.entry.state = .reserved) (hto : stored'.entry.state = .available)
      (hobject : ∃ bytes, s.objects stored.entry.objectKey = some bytes
        ∧ stored'.entry.objectReceipt = some (ArtifactObjects.receipt ports.sha256 bytes))
  | tombstoned (hfrom : stored.entry.state = .reserved ∨ stored.entry.state = .available)
      (hto : stored'.entry.state = .tombstoned)
  | purged (hfrom : stored.entry.state = .tombstoned) (hto : stored'.entry.state = .purged)
      (habsent : strict → s.objects stored.entry.objectKey = none)

inductive Effect (ports : ArtifactPorts) (strict : Prop) (operations : List Operation)
    (s : ArtifactStore) : ArtifactStore → Prop where
  | unchanged : Effect ports strict operations s s
  | generated (key : ArtifactKey) (objectKey : String)
      (hfresh : ∀ generated ∈ s.objectKeys, generated.2 ≠ objectKey)
      : Effect ports strict operations s { s with objectKeys := s.objectKeys ++ [(key, objectKey)] }
  | reserved (candidate : ArtifactCatalogEntry) (catalog : ArtifactCatalog)
      (hgenerated : (candidate.key, candidate.objectKey) ∈ s.objectKeys)
      (hnone : s.catalog.artifacts candidate.key = none) (hstate : candidate.state = .reserved)
      (hartifacts : catalog.artifacts
        = Function.update s.catalog.artifacts candidate.key (some ⟨candidate, none, none⟩))
      : Effect ports strict operations s { s with catalog }
  | moved (key : ArtifactKey) (stored stored' : StoredArtifact) (catalog : ArtifactCatalog)
      (hmoved : Moved s.catalog key stored stored' catalog)
      (hadvance : Advance ports strict s stored stored')
      : Effect ports strict operations s { s with catalog }
  | written (key : ArtifactKey) (stored : StoredArtifact) (bytes : List UInt8)
      (hfound : s.catalog.artifacts key = some stored)
      (habsent : s.objects stored.entry.objectKey = none)
      (htimely : strict → ¬IsPurging operations s key)
      : Effect ports strict operations s
          { s with objects := Function.update s.objects stored.entry.objectKey (some bytes) }
  | deleted (key : ArtifactKey) (stored : StoredArtifact)
      (hfound : s.catalog.artifacts key = some stored) (hretired : IsRetired stored)
      : Effect ports strict operations s
          { s with objects := Function.update s.objects stored.entry.objectKey none }

theorem StoreInvariant.key_unique (h : StoreInvariant ports strict s) {key key' : ArtifactKey}
    {stored stored' : StoredArtifact} (hfound : s.catalog.artifacts key = some stored)
    (hfound' : s.catalog.artifacts key' = some stored')
    (hobjectKey : stored.entry.objectKey = stored'.entry.objectKey)
    : key = key' := by
  have heq := List.inj_on_of_nodup_map h.objectKeys (h.generated key stored hfound)
    (h.generated key' stored' hfound') hobjectKey
  exact congrArg Prod.fst heq

theorem Moved.artifacts_iff {catalog catalog' : ArtifactCatalog} {key : ArtifactKey}
    {stored stored' : StoredArtifact} (h : Moved catalog key stored stored' catalog')
    {other : ArtifactKey} {found : StoredArtifact}
    : catalog'.artifacts other = some found
        ↔ (other = key ∧ found = stored') ∨ (other ≠ key ∧ catalog.artifacts other = some found) := by
  rw [h.moved]
  by_cases hother : other = key
  . subst hother
    simp [ArtifactCatalog.set, eq_comm]
  . simp [ArtifactCatalog.set, hother]

theorem Advance.rank_le {stored stored' : StoredArtifact} (h : Advance ports strict s stored stored')
    : stored.entry.state.rank ≤ stored'.entry.state.rank := by
  cases h with
  | activated hfrom hto => simp [hfrom, hto, ArtifactState.rank]
  | tombstoned hfrom hto =>
    cases hfrom with
    | inl hfrom | inr hfrom => simp [hfrom, hto, ArtifactState.rank]
  | purged hfrom hto => simp [hfrom, hto, ArtifactState.rank]

theorem guarantee_refl (s : ArtifactStore) : Guarantee strict operations s s where
  artifacts := by
    intro key stored hstored
    exact ⟨stored, hstored, rfl, le_refl _⟩
  objectKeys := by
    intro generated hgenerated
    exact hgenerated
  kept := by
    intro key stored bytes _ hbytes
    exact .inl hbytes
  absent := by
    intro _ key stored _ habsent
    exact .inl habsent

theorem guarantee_of_effect (hinvariant : StoreInvariant ports strict s)
    (h : Effect ports strict operations s s')
    : Guarantee strict operations s s' := by
  have hrefl : Guarantee strict operations s s := guarantee_refl s
  cases h with
  | unchanged => exact hrefl
  | generated key objectKey hfresh =>
    exact { hrefl with objectKeys := fun _ h => List.mem_append_left _ h }
  | reserved candidate catalog hgenerated hnone hstate hartifacts =>
    refine { hrefl with artifacts := ?_ }
    intro key stored hstored
    have hkey : key ≠ candidate.key := by
      rintro rfl
      rw [hnone] at hstored
      contradiction
    refine ⟨stored, ?_, rfl, le_refl _⟩
    dsimp only
    rw [hartifacts, Function.update_of_ne hkey]
    exact hstored
  | moved key stored stored' catalog hmoved hadvance =>
    refine { hrefl with artifacts := ?_ }
    intro other found hfound
    by_cases hother : other = key
    . subst hother
      rw [hmoved.found] at hfound
      cases hfound
      exact ⟨stored', hmoved.artifacts_iff.mpr (.inl ⟨rfl, rfl⟩), hmoved.sameObjectKey,
        hadvance.rank_le⟩
    . exact ⟨found, hmoved.artifacts_iff.mpr (.inr ⟨hother, hfound⟩), rfl, le_refl _⟩
  | written key stored bytes hfound habsent htimely =>
    refine { hrefl with kept := ?_, absent := ?_ }
    . intro other found previous _ hprevious
      have hne : found.entry.objectKey ≠ stored.entry.objectKey := by
        intro heq
        rw [heq, habsent] at hprevious
        contradiction
      left
      dsimp only
      rw [Function.update_of_ne hne]
      exact hprevious
    . intro hstrict other found hother hnone
      by_cases heq : found.entry.objectKey = stored.entry.objectKey
      . obtain rfl := hinvariant.key_unique hother hfound heq
        exact .inr (htimely hstrict)
      . left
        dsimp only
        rw [Function.update_of_ne heq]
        exact hnone
  | deleted key stored hfound hretired =>
    refine { hrefl with kept := ?_, absent := ?_ }
    . intro other found bytes hother hbytes
      by_cases heq : found.entry.objectKey = stored.entry.objectKey
      . obtain rfl := hinvariant.key_unique hother hfound heq
        rw [hfound] at hother
        cases hother
        exact .inr hretired
      . left
        dsimp only
        rw [Function.update_of_ne heq]
        exact hbytes
    . intro _ other found _ hnone
      left
      by_cases heq : found.entry.objectKey = stored.entry.objectKey
      . simp [heq]
      . dsimp only
        rw [Function.update_of_ne heq]
        exact hnone

theorem invariant_of_effect (hinvariant : StoreInvariant ports strict s)
    (h : Effect ports strict operations s s')
    : StoreInvariant ports strict s' := by
  cases h with
  | unchanged => exact hinvariant
  | generated key objectKey hfresh =>
    constructor
    . dsimp only
      rw [List.map_append, List.nodup_append]
      refine ⟨hinvariant.objectKeys, by simp, ?_⟩
      intro previous hprevious new hnew
      simp only [List.map_cons, List.map_nil, List.mem_singleton] at hnew
      obtain ⟨generated, hgenerated, rfl⟩ := List.mem_map.mp hprevious
      rw [hnew]
      exact hfresh generated hgenerated
    . exact hinvariant.keyed
    . intro other stored hstored
      exact List.mem_append_left _ (hinvariant.generated other stored hstored)
    . exact hinvariant.available
    . exact hinvariant.purged
  | reserved candidate catalog hgenerated hnone hstate hartifacts =>
    have hcases {key : ArtifactKey} {stored : StoredArtifact}
        (hstored : catalog.artifacts key = some stored)
        : (key = candidate.key ∧ stored = ⟨candidate, none, none⟩)
            ∨ s.catalog.artifacts key = some stored := by
      rw [hartifacts] at hstored
      by_cases hkey : key = candidate.key
      . subst hkey
        rw [Function.update_self, Option.some.injEq] at hstored
        exact .inl ⟨rfl, hstored.symm⟩
      . rw [Function.update_of_ne hkey] at hstored
        exact .inr hstored
    constructor
    . exact hinvariant.objectKeys
    . intro key stored hstored
      cases hcases hstored with
      | inl hnew =>
        obtain ⟨rfl, rfl⟩ := hnew
        rfl
      | inr hold => exact hinvariant.keyed key stored hold
    . intro key stored hstored
      cases hcases hstored with
      | inl hnew =>
        obtain ⟨rfl, rfl⟩ := hnew
        exact hgenerated
      | inr hold => exact hinvariant.generated key stored hold
    . intro key stored hstored havailable
      cases hcases hstored with
      | inl hnew =>
        obtain ⟨rfl, rfl⟩ := hnew
        rw [hstate] at havailable
        contradiction
      | inr hold => exact hinvariant.available key stored hold havailable
    . intro hstrict key stored hstored hpurged
      cases hcases hstored with
      | inl hnew =>
        obtain ⟨rfl, rfl⟩ := hnew
        rw [hstate] at hpurged
        contradiction
      | inr hold => exact hinvariant.purged hstrict key stored hold hpurged
  | moved key stored stored' catalog hmoved hadvance =>
    constructor
    . exact hinvariant.objectKeys
    . intro other found hfound
      obtain ⟨rfl, rfl⟩ | ⟨_, hold⟩ := hmoved.artifacts_iff.mp hfound
      . rw [hmoved.sameKey]
        exact hinvariant.keyed _ stored hmoved.found
      . exact hinvariant.keyed other found hold
    . intro other found hfound
      obtain ⟨rfl, rfl⟩ | ⟨_, hold⟩ := hmoved.artifacts_iff.mp hfound
      . rw [hmoved.sameObjectKey]
        exact hinvariant.generated _ stored hmoved.found
      . exact hinvariant.generated other found hold
    . intro other found hfound havailable
      obtain ⟨rfl, rfl⟩ | ⟨_, hold⟩ := hmoved.artifacts_iff.mp hfound
      . rw [hmoved.sameObjectKey]
        cases hadvance with
        | activated hfrom hto hobject => exact hobject
        | tombstoned _ hto | purged _ hto =>
          rw [hto] at havailable
          contradiction
      . exact hinvariant.available other found hold havailable
    . intro hstrict other found hfound hpurged
      obtain ⟨rfl, rfl⟩ | ⟨_, hold⟩ := hmoved.artifacts_iff.mp hfound
      . rw [hmoved.sameObjectKey]
        cases hadvance with
        | activated _ hto | tombstoned _ hto =>
          rw [hto] at hpurged
          contradiction
        | purged hfrom hto habsent => exact habsent hstrict
      . exact hinvariant.purged hstrict other found hold hpurged
  | written key stored bytes hfound habsent htimely =>
    constructor
    . exact hinvariant.objectKeys
    . exact hinvariant.keyed
    . exact hinvariant.generated
    . intro other found hother havailable
      obtain ⟨previous, hprevious, hreceipt⟩ := hinvariant.available other found hother havailable
      refine ⟨previous, ?_, hreceipt⟩
      dsimp only
      rw [Function.update_of_ne]
      . exact hprevious
      . intro heq
        rw [heq, habsent] at hprevious
        contradiction
    . intro hstrict other found hother hpurged
      dsimp only
      rw [Function.update_of_ne]
      . exact hinvariant.purged hstrict other found hother hpurged
      . intro heq
        obtain rfl := hinvariant.key_unique hother hfound heq
        exact htimely hstrict (.inl ⟨found, hother, hpurged⟩)
  | deleted key stored hfound hretired =>
    constructor
    . exact hinvariant.objectKeys
    . exact hinvariant.keyed
    . exact hinvariant.generated
    . intro other found hother havailable
      obtain ⟨bytes, hbytes, hreceipt⟩ := hinvariant.available other found hother havailable
      refine ⟨bytes, ?_, hreceipt⟩
      dsimp only
      rw [Function.update_of_ne]
      . exact hbytes
      . intro heq
        obtain rfl := hinvariant.key_unique hother hfound heq
        rw [hfound] at hother
        cases hother
        rw [IsRetired, havailable] at hretired
        simp at hretired
    . intro hstrict other found hother hpurged
      dsimp only
      by_cases heq : found.entry.objectKey = stored.entry.objectKey
      . rw [heq, Function.update_self]
      . rw [Function.update_of_ne heq]
        exact hinvariant.purged hstrict other found hother hpurged

end Effects

section Steps

def FreshObjectKey (s : ArtifactStore) (answer : Answer) : Prop :=
  ∀ objectKey ∈ answer.objectKey, ∀ generated ∈ s.objectKeys, generated.2 ≠ objectKey

def TimelyWrite (operations : List Operation) (s : ArtifactStore) (answer : Answer)
    : Operation → Prop
  | .write scope artifactId objectKey _ =>
    answer.reachable → s.objects objectKey = none →
      ¬IsPurging operations s (artifactKey scope artifactId)
  | _ => True

def Stepped (ports : ArtifactPorts) (strict : Prop) (operations : List Operation) (s : ArtifactStore)
    (advanced : ArtifactStore × Operation) : Prop :=
  Effect ports strict operations s advanced.1 ∧ Known ports strict advanced.1 advanced.2

variable {answer : Answer} {command : ArtifactCommand} {scope : EvidenceScope} {artifactId : String}
variable {advanced : ArtifactStore × Operation}

theorem callCatalog_eq_ok {α : Type} {result : Except ArtifactError α} {value : α}
    : callCatalog answer result = .ok value ↔ answer.reachable ∧ result = .ok value := by
  unfold callCatalog
  split <;> simp_all

theorem known_next (batch : Batch) : Known ports strict s batch.next := by
  unfold Batch.next
  split <;> trivial

theorem known_purgeFailed (batch : Option Batch) (artifactId : String) (error : ArtifactError)
    : Known ports strict s (purgeFailed batch artifactId error) := by
  unfold purgeFailed
  split
  . trivial
  . apply known_next

theorem known_purgeEnded (batch : Option Batch) (metadata : ArtifactMetadata)
    : Known ports strict s (purgeEnded batch metadata) := by
  unfold purgeEnded
  split
  . trivial
  . apply known_next

theorem stepped_orElse {result : Except ArtifactError (ArtifactStore × Operation)}
    {failed : ArtifactError → Operation}
    (hresult : ∀ advanced, result = .ok advanced → Stepped ports strict operations s advanced)
    (hfailed : ∀ error, Known ports strict s (failed error))
    : Stepped ports strict operations s (orElse s result failed) := by
  cases result with
  | ok advanced => exact hresult advanced rfl
  | error error => exact ⟨.unchanged, hfailed error⟩

theorem located_of_find {entry : ArtifactCatalogEntry}
    (h : s.catalog.find scope artifactId = some entry)
    : Located s (artifactKey scope artifactId) entry.objectKey := by
  obtain ⟨stored, hstored, rfl⟩ := find_eq_some h
  exact ⟨stored, hstored, rfl⟩

theorem stepped_startReservation (hinvariant : StoreInvariant ports strict s)
    (hfresh : FreshObjectKey s answer) {request : ReserveArtifactRequest}
    (h : startReservation s command request answer = .ok advanced)
    : Stepped ports strict operations s advanced := by
  simp only [startReservation, bind_eq_ok, callCatalog_eq_ok, Except.ok.injEq] at h
  obtain ⟨_, _, _, _, createdAt, _, metadata, _, existing, ⟨_, hexisting⟩, _, _, h⟩ := h
  cases existing with
  | some existing =>
    rw [pure_eq_ok] at h
    subst h
    obtain ⟨stored, hstored, rfl⟩ := find_eq_some hexisting
    exact ⟨.unchanged, hinvariant.generated _ stored hstored⟩
  | none =>
    simp only [bind_eq_ok, found_eq_ok, pure_eq_ok] at h
    obtain ⟨plan, _, objectKey, hobjectKey, rfl⟩ := h
    constructor
    . exact .generated _ objectKey (hfresh objectKey hobjectKey)
    . exact List.mem_append_right _ (List.mem_singleton_self _)

theorem stepped_reserveStep {candidate : ArtifactCatalogEntry}
    (hknown : (candidate.key, candidate.objectKey) ∈ s.objectKeys)
    (h : reserveStep s candidate answer = .ok advanced)
    : Stepped ports strict operations s advanced := by
  simp only [reserveStep, bind_eq_ok, callCatalog_eq_ok, pure_eq_ok] at h
  obtain ⟨⟨result, catalog⟩, ⟨_, hreserve⟩, rfl⟩ := h
  refine ⟨?_, trivial⟩
  obtain hsame | ⟨hnone, hstate, hartifacts⟩ := reserve_effect hreserve
  . dsimp only
    rw [hsame]
    exact .unchanged
  . exact .reserved candidate catalog hknown hnone hstate hartifacts

theorem stepped_startUpload (h : startUpload s command artifactId answer = .ok advanced)
    : Stepped ports strict operations s advanced := by
  simp only [startUpload, bind_eq_ok, callCatalog_eq_ok, found_eq_ok, pure_eq_ok] at h
  obtain ⟨_, _, _, _, _, _, scope, _, entry, ⟨_, hentry⟩, _, _, encrypted, _, rfl⟩ := h
  exact ⟨.unchanged, located_of_find hentry⟩

theorem stepped_writeStep {objectKey : String} {encrypted : EncryptedArtifactObject}
    (hlocated : Located s (artifactKey scope artifactId) objectKey)
    (htimely : strict → answer.reachable → s.objects objectKey = none →
      ¬IsPurging operations s (artifactKey scope artifactId))
    : Stepped ports strict operations s
        (writeStep ports s scope artifactId objectKey encrypted answer) := by
  obtain ⟨stored, hstored, rfl⟩ := hlocated
  unfold writeStep
  split
  . next hreachable =>
    unfold ArtifactObjects.putIfAbsent
    dsimp only
    cases hobject : s.objects stored.entry.objectKey with
    | some existing =>
      dsimp only
      split
      . next hreceipt =>
        exact ⟨.unchanged, stored, hstored, .inr ⟨existing, hobject, hreceipt.symm⟩⟩
      . exact ⟨.unchanged, trivial⟩
    | none =>
      have hwritten : Effect ports strict operations s
          { s with objects :=
              Function.update s.objects stored.entry.objectKey (some encrypted.bytes) } :=
        .written _ stored encrypted.bytes hstored hobject (fun hstrict =>
          htimely hstrict hreachable hobject)
      dsimp only
      split
      . next hreceipt =>
        exact ⟨hwritten, stored, hstored, .inr ⟨encrypted.bytes, by simp, hreceipt.symm⟩⟩
      . exact ⟨hwritten, trivial⟩
  . exact ⟨.unchanged, trivial⟩

variable {receipt : ArtifactObjectReceipt}

theorem effect_of_activate {availableAt : PolicyEvaluationTime}
    {entry : ArtifactCatalogEntry} {catalog : ArtifactCatalog}
    (hbacked : Backed ports s (artifactKey scope artifactId) receipt)
    (h : s.catalog.activate scope artifactId receipt availableAt = .ok (entry, catalog))
    : Effect ports strict operations s { s with catalog } := by
  obtain rfl | ⟨stored, stored', hmoved, hfrom, hto, hreceipt⟩ := activate_effect h
  . exact .unchanged
  . obtain ⟨found, hfound, hbacked⟩ := hbacked
    rw [hmoved.found] at hfound
    cases hfound
    refine .moved _ stored stored' catalog hmoved (.activated hfrom hto ?_)
    cases hbacked with
    | inl hretired =>
      rw [IsRetired, hfrom] at hretired
      simp at hretired
    | inr hobject =>
      obtain ⟨bytes, hbytes, rfl⟩ := hobject
      exact ⟨bytes, hbytes, hreceipt⟩

theorem effect_of_tombstone {tombstone : ArtifactTombstone}
    {result : Bool × ArtifactCatalogEntry × ArtifactTombstone} {catalog : ArtifactCatalog}
    (h : s.catalog.tombstone scope tombstone = .ok (result, catalog))
    : Effect ports strict operations s { s with catalog } := by
  obtain rfl | ⟨stored, stored', hmoved, hfrom, hto⟩ := tombstone_effect h
  . exact .unchanged
  . exact .moved _ stored stored' catalog hmoved (.tombstoned hfrom hto)

theorem stepped_activateStep
    (hbacked : Backed ports s (artifactKey scope artifactId) receipt)
    (h : activateStep s scope artifactId receipt answer = .ok advanced)
    : Stepped ports strict operations s advanced := by
  simp only [activateStep, bind_eq_ok, callCatalog_eq_ok, pure_eq_ok] at h
  obtain ⟨availableAt, _, ⟨entry, catalog⟩, ⟨_, hactivate⟩, rfl⟩ := h
  exact ⟨effect_of_activate hbacked hactivate, trivial⟩

theorem stepped_tombstoneArtifact {reason : String}
    (h : tombstoneArtifact s command artifactId reason answer = .ok advanced)
    : Stepped ports strict operations s advanced := by
  simp only [tombstoneArtifact, bind_eq_ok, callCatalog_eq_ok, pure_eq_ok] at h
  obtain ⟨_, _, _, _, _, _, scope, _, occurredAt, _, tombstoneId, _, ⟨result, catalog⟩,
    ⟨_, htombstone⟩, rfl⟩ := h
  exact ⟨effect_of_tombstone htombstone, trivial⟩

theorem stepped_processTombstoneCandidate {job : CleanupJob} {entries : List ArtifactCatalogEntry}
    {result : ArtifactMaintenanceResult}
    (h : processTombstoneCandidate s job artifactId entries result answer = .ok advanced)
    : Stepped ports strict operations s advanced := by
  simp only [processTombstoneCandidate, bind_eq_ok, callCatalog_eq_ok, pure_eq_ok] at h
  obtain ⟨tombstoneId, _, ⟨tombstoned, catalog⟩, ⟨_, htombstone⟩, rfl⟩ := h
  exact ⟨effect_of_tombstone htombstone, trivial⟩

theorem stepped_purgeStep {batch : Option Batch}
    (h : purgeStep s command artifactId batch answer = .ok advanced)
    : Stepped ports strict operations s advanced := by
  simp only [purgeStep, bind_eq_ok, callCatalog_eq_ok, found_eq_ok] at h
  obtain ⟨_, _, _, _, _, _, scope, _, entry, ⟨_, hentry⟩, h⟩ := h
  obtain ⟨stored, hstored, rfl⟩ := find_eq_some hentry
  split at h
  . rw [pure_eq_ok] at h
    subst h
    exact ⟨.unchanged, known_purgeEnded batch _⟩
  . simp only [bind_eq_ok, failIf_eq_ok, not_not, pure_eq_ok] at h
    obtain ⟨_, hstate, rfl⟩ := h
    exact ⟨.unchanged, stored, hstored, rfl, .inl hstate⟩

theorem stepped_deleteStep {objectKey : String} {batch : Option Batch}
    (hknown : Known ports strict s (.delete scope artifactId objectKey batch))
    : Stepped ports strict operations s
        (deleteStep s scope artifactId objectKey batch answer) := by
  obtain ⟨stored, hstored, rfl, hretired⟩ := hknown
  unfold deleteStep
  split
  . exact ⟨.deleted _ stored hstored hretired, stored, hstored, hretired, fun _ => by
      simp [ArtifactObjects.delete]⟩
  . exact ⟨.unchanged, known_purgeFailed batch _ _⟩

theorem stepped_markStep {objectWasPresent : Bool} {batch : Option Batch}
    (hknown : Known ports strict s (.mark scope artifactId objectWasPresent batch))
    (h : markStep s scope artifactId objectWasPresent batch answer = .ok advanced)
    : Stepped ports strict operations s advanced := by
  simp only [markStep, bind_eq_ok, callCatalog_eq_ok, pure_eq_ok] at h
  obtain ⟨occurredAt, _, purgeId, _, ⟨entry, catalog⟩, ⟨_, hpurge⟩, rfl⟩ := h
  refine ⟨?_, known_purgeEnded batch _⟩
  obtain rfl | ⟨stored, stored', hmoved, hfrom, hto⟩ := recordPurge_effect hpurge
  . exact .unchanged
  . obtain ⟨found, hfound, _, habsent⟩ := hknown
    rw [hmoved.found] at hfound
    cases hfound
    exact .moved _ stored stored' catalog hmoved (.purged hfrom hto habsent)

theorem stepped_startReconciliation (hinvariant : StoreInvariant ports strict s)
    {abandonedBefore : PolicyEvaluationTime} {limit : Nat}
    (h : startReconciliation ports s command abandonedBefore limit answer = .ok advanced)
    : Stepped ports strict operations s advanced := by
  simp only [startReconciliation, bind_eq_ok, callCatalog_eq_ok, pure_eq_ok] at h
  obtain ⟨scope, _, occurredAt, _, threshold, _, candidates, ⟨_, hcandidates⟩, rfl⟩ := h
  refine ⟨.unchanged, ?_⟩
  intro candidate hcandidate
  obtain ⟨hscope, key, stored, hstored, rfl⟩ := mem_listAbandoned hcandidates hcandidate
  refine ⟨stored, ?_, rfl⟩
  have hkey := hinvariant.keyed key stored hstored
  rw [ArtifactCatalogEntry.key, artifactKey, hscope.1] at hkey
  rw [artifactKey, hkey]
  exact hstored

theorem known_inspectStep {occurredAt : PolicyEvaluationTime}
    {candidates : List ArtifactCatalogEntry} {result : ReconcileArtifactReservationsResult}
    (hknown : ∀ candidate ∈ candidates,
      Located s (artifactKey scope candidate.artifactId) candidate.objectKey)
    : Known ports strict s (inspectStep ports s scope occurredAt candidates result answer) := by
  unfold inspectStep
  cases candidates with
  | nil => trivial
  | cons candidate candidates =>
    rw [List.forall_mem_cons] at hknown
    dsimp only
    split
    . split
      . exact hknown.2
      . next encrypted hencrypted =>
        split
        . refine ⟨?_, hknown.2⟩
          obtain ⟨stored, hstored, hobjectKey⟩ := hknown.1
          rw [← hobjectKey] at hencrypted
          exact ⟨stored, hstored, .inr ⟨encrypted, hencrypted, rfl⟩⟩
        . exact hknown.2
    . exact hknown.2

theorem stepped_repairStep (hinvariant : StoreInvariant ports strict s)
    {occurredAt : PolicyEvaluationTime}
    {candidates : List ArtifactCatalogEntry} {result : ReconcileArtifactReservationsResult}
    (hknown : Known ports strict s (.repair scope occurredAt artifactId receipt candidates result))
    : Stepped ports strict operations s
        (repairStep s scope occurredAt artifactId receipt candidates result answer) := by
  obtain ⟨hbacked, hlocated⟩ := hknown
  unfold repairStep
  split
  . exact ⟨.unchanged, hlocated⟩
  . next entry catalog hactivate =>
    obtain ⟨_, hactivate⟩ := callCatalog_eq_ok.mp hactivate
    have heffect : Effect ports strict operations s { s with catalog } :=
      effect_of_activate hbacked hactivate
    refine ⟨heffect, ?_⟩
    intro candidate hcandidate
    exact (guarantee_of_effect hinvariant heffect).located (hlocated candidate hcandidate)

theorem stepped_processRetention {limit : Nat}
    (h : processRetention ports s command limit answer = .ok advanced)
    : Stepped ports strict operations s advanced := by
  simp only [processRetention, bind_eq_ok, callCatalog_eq_ok, pure_eq_ok] at h
  obtain ⟨scope, _, occurredAt, _, expired, _, rfl⟩ := h
  exact ⟨.unchanged, known_next _⟩

theorem stepped_processAbandoned {abandonedBefore : PolicyEvaluationTime} {limit : Nat}
    (h : processAbandoned ports s command abandonedBefore limit answer = .ok advanced)
    : Stepped ports strict operations s advanced := by
  simp only [processAbandoned, bind_eq_ok, callCatalog_eq_ok, pure_eq_ok] at h
  obtain ⟨scope, _, occurredAt, _, threshold, _, abandoned, _, rfl⟩ := h
  exact ⟨.unchanged, known_next _⟩

theorem stepped_retryPurges {limit : Nat}
    (h : retryPurges ports s command limit answer = .ok advanced)
    : Stepped ports strict operations s advanced := by
  simp only [retryPurges, bind_eq_ok, callCatalog_eq_ok, pure_eq_ok] at h
  obtain ⟨scope, _, pending, _, rfl⟩ := h
  exact ⟨.unchanged, known_next _⟩

theorem stepped_requestStep (hinvariant : StoreInvariant ports strict s)
    (hfresh : FreshObjectKey s answer) {request : ArtifactRequest}
    (h : requestStep ports s command answer request = .ok advanced)
    : Stepped ports strict operations s advanced := by
  cases request with
  | reserve request => exact stepped_startReservation hinvariant hfresh h
  | upload artifactId => exact stepped_startUpload h
  | tombstone artifactId reason => exact stepped_tombstoneArtifact h
  | purge artifactId => exact stepped_purgeStep h
  | reconcile abandonedBefore limit => exact stepped_startReconciliation hinvariant h
  | processRetention limit => exact stepped_processRetention h
  | processAbandoned abandonedBefore limit => exact stepped_processAbandoned h
  | retryPurges limit => exact stepped_retryPurges h

theorem stepped_advance (hinvariant : StoreInvariant ports strict s) {operation : Operation}
    (hknown : Known ports strict s operation) (hfresh : FreshObjectKey s answer)
    (htimely : strict → TimelyWrite operations s answer operation)
    : Stepped ports strict operations s (advance ports s answer operation) := by
  cases operation with
  | requested command request =>
    apply stepped_orElse
    . intro advanced h
      exact stepped_requestStep hinvariant hfresh h
    . intro error
      trivial
  | reserve candidate =>
    apply stepped_orElse
    . intro advanced h
      exact stepped_reserveStep hknown h
    . intro error
      trivial
  | write scope artifactId objectKey encrypted => exact stepped_writeStep hknown htimely
  | activate scope artifactId receipt =>
    apply stepped_orElse
    . intro advanced h
      exact stepped_activateStep hknown h
    . intro error
      trivial
  | tombstone job artifactId entries result =>
    apply stepped_orElse
    . intro advanced h
      exact stepped_processTombstoneCandidate h
    . intro error
      apply known_purgeFailed
  | purge command artifactId batch =>
    apply stepped_orElse
    . intro advanced h
      exact stepped_purgeStep h
    . intro error
      apply known_purgeFailed
  | delete scope artifactId objectKey batch => exact stepped_deleteStep hknown
  | mark scope artifactId objectWasPresent batch =>
    apply stepped_orElse
    . intro advanced h
      exact stepped_markStep hknown h
    . intro error
      apply known_purgeFailed
  | inspect scope occurredAt candidates result => exact ⟨.unchanged, known_inspectStep hknown⟩
  | repair scope occurredAt artifactId receipt candidates result =>
    exact stepped_repairStep hinvariant hknown
  | ended outcome => exact ⟨.unchanged, trivial⟩

end Steps

section Runs

def IsRequested (operation : Operation) : Prop :=
  ∃ command request, operation = .requested command request

def AllowedAnswer (strict : Prop) (operations : List Operation) (s : ArtifactStore)
    (operation : Operation) (answer : Answer) : Prop :=
  FreshObjectKey s answer ∧ (strict → TimelyWrite operations s answer operation)

def ArtifactSystem.Run (ports : ArtifactPorts) (timely : Prop) (system system' : ArtifactSystem)
    : Prop :=
  LaterWhen (Interleaved.Allowed IsRequested (AllowedAnswer timely)) (ArtifactSystem.step ports) system
    system'

theorem noninterfering_advance
    : Interleaved.Noninterfering (fun s operation answer => advance ports s answer operation)
        IsRequested (AllowedAnswer strict) (StoreInvariant ports strict) (Known ports strict)
        (Guarantee strict) where
  initial := by
    rintro s _ ⟨command, request, rfl⟩
    trivial
  guarantee := by
    intro operations s operation answer hinvariant _ hknown hallowed
    exact guarantee_of_effect hinvariant
      (stepped_advance hinvariant hknown hallowed.1 hallowed.2).1
  invariant := by
    intro operations s operation answer hinvariant hmem hknown hallowed
    exact invariant_of_effect hinvariant
      (stepped_advance hinvariant (hknown operation hmem) hallowed.1 hallowed.2).1
  own := by
    intro operations s operation answer hinvariant _ hknown hallowed
    exact (stepped_advance hinvariant hknown hallowed.1 hallowed.2).2
  stable := by
    intro operations s s' operation hguarantee hmem hknown
    exact hguarantee.known hmem hknown

theorem holds_initial
    : Interleaved.Holds (StoreInvariant ports strict) (Known ports strict) ArtifactSystem.initial where
  shared := by
    constructor
    . simp [ArtifactSystem.initial, ArtifactStore.empty]
    . simp [ArtifactSystem.initial, ArtifactStore.empty, ArtifactCatalog.empty]
    . simp [ArtifactSystem.initial, ArtifactStore.empty, ArtifactCatalog.empty]
    . simp [ArtifactSystem.initial, ArtifactStore.empty, ArtifactCatalog.empty]
    . simp [ArtifactSystem.initial, ArtifactStore.empty, ArtifactCatalog.empty]
  processes := by simp [ArtifactSystem.initial]

theorem holds_of_run {system : ArtifactSystem}
    (h : ArtifactSystem.Run ports strict ArtifactSystem.initial system)
    : Interleaved.Holds (StoreInvariant ports strict) (Known ports strict) system :=
  noninterfering_advance.holds h holds_initial

def Advances (system system' : ArtifactSystem) : Prop :=
  ∀ key stored, system.shared.catalog.artifacts key = some stored →
    ∃ stored', system'.shared.catalog.artifacts key = some stored'
      ∧ stored.entry.state.rank ≤ stored'.entry.state.rank

def AvailableStored (ports : ArtifactPorts) (system : ArtifactSystem) : Prop :=
  ∀ key stored, system.shared.catalog.artifacts key = some stored →
    stored.entry.state = .available →
      ∃ bytes, system.shared.objects stored.entry.objectKey = some bytes
        ∧ stored.entry.objectReceipt = some (ArtifactObjects.receipt ports.sha256 bytes)

def PurgedAbsent (system : ArtifactSystem) : Prop :=
  ∀ key stored, system.shared.catalog.artifacts key = some stored →
    stored.entry.state = .purged → system.shared.objects stored.entry.objectKey = none

theorem advances_step {system : ArtifactSystem} {action : Action Operation Answer}
    (hs : Interleaved.Holds (StoreInvariant ports strict) (Known ports strict) system)
    (hallowed : Interleaved.Allowed IsRequested (AllowedAnswer strict) system action)
    : Advances system (ArtifactSystem.step ports system action) := by
  intro key stored hstored
  cases action with
  | start operation => exact ⟨stored, hstored, le_refl _⟩
  | advance index answer =>
    unfold ArtifactSystem.step Interleaved.step
    dsimp only
    split
    . exact ⟨stored, hstored, le_refl _⟩
    . next operation hoperation =>
      have hmem := List.mem_of_getElem? hoperation
      have hanswer := hallowed operation hoperation
      have hstepped := stepped_advance hs.shared (hs.processes operation hmem) hanswer.1 hanswer.2
      obtain ⟨stored', hstored', _, hrank⟩ :=
        (guarantee_of_effect hs.shared hstepped.1).artifacts key stored hstored
      exact ⟨stored', hstored', hrank⟩

theorem advances_of_run {system system' : ArtifactSystem}
    (hs : Interleaved.Holds (StoreInvariant ports strict) (Known ports strict) system)
    (hrun : ArtifactSystem.Run ports strict system system')
    : Advances system system' := by
  have hboth : Interleaved.Holds (StoreInvariant ports strict) (Known ports strict) system'
      ∧ Advances system system' := by
    apply LaterWhen.preserves (P := fun later =>
      Interleaved.Holds (StoreInvariant ports strict) (Known ports strict) later
        ∧ Advances system later) _ hrun
    . exact ⟨hs, fun key stored hstored => ⟨stored, hstored, le_refl _⟩⟩
    . rintro later action hallowed ⟨hlater, hadvances⟩
      refine ⟨noninterfering_advance.holds_step hallowed hlater, ?_⟩
      intro key stored hstored
      obtain ⟨stored', hstored', hrank⟩ := hadvances key stored hstored
      obtain ⟨stored'', hstored'', hrank'⟩ := advances_step hlater hallowed key stored' hstored'
      exact ⟨stored'', hstored'', hrank.trans hrank'⟩
  exact hboth.2

/-- A late write is all that can leave the object of a purged artifact behind. -/
theorem artifact_lifecycle (ports : ArtifactPorts)
    : (∀ system system', ArtifactSystem.Run ports False ArtifactSystem.initial system →
          ArtifactSystem.Run ports False system system' →
            AvailableStored ports system ∧ Advances system system')
        ∧ ∀ system, ArtifactSystem.Run ports True ArtifactSystem.initial system →
            PurgedAbsent system := by
  constructor
  . intro system system' hbefore hafter
    have hs := holds_of_run hbefore
    exact ⟨hs.shared.available, advances_of_run hs hafter⟩
  . intro system hrun
    exact (holds_of_run hrun).shared.purged trivial

end Runs

section Sample

def samplePorts : ArtifactPorts where
  sha256 := fun bytes => String.ofList (List.replicate 63 'a' ++ [Char.ofNat (97 + bytes.length % 6)])
  localeLe := fun left right => left ≤ right

def sampleTime (seconds : Nat) (h : seconds ≤ 86400) : PolicyEvaluationTime where
  seconds := seconds
  digits := 3
  fraction := 0
  le_seconds := PolicyEvaluationTime.le_of_firstDay h
  seconds_le := PolicyEvaluationTime.of_firstDay_le h
  digits_le := PolicyEvaluationTime.millisecondDigits_le
  fraction_lt := PolicyEvaluationTime.wholeSecond_lt

theorem sampleMinute_le : 60 ≤ 86400 := by
  decide

def sampleCommand : ArtifactCommand where
  environmentId := "env_one"
  principal := ⟨"operator_one", "tenant_one", ["artifact:write", "artifact:delete"], .tenant⟩
  projectId := "project_one"

def sampleRequest : ReserveArtifactRequest where
  artifactId := "artifact_one"
  classification := .internal
  mediaType := "text/plain"
  redaction := .notRequired
  retention := .retain
  sha256 := String.ofList (List.replicate 64 'a')
  sizeBytes := 2

def sampleObject : EncryptedArtifactObject where
  bytes := [1, 2, 3]
  receipt := ArtifactObjects.receipt samplePorts.sha256 [1, 2, 3]

def sampleAnswer (now : PolicyEvaluationTime) (objectKey : Option String) : Answer where
  now := some now
  reachable := true
  plan := some ⟨"nonce", "ciphertext", "key_one", "nonce", "tag"⟩
  objectKey
  lifecycleId := some "lifecycle_one"
  encrypted := .ok sampleObject
  decrypted := true

def sampleReserve : List (Action Operation Answer) :=
  [.start (.requested sampleCommand (.reserve sampleRequest)),
    .advance 0 (sampleAnswer (sampleTime 0 (by decide)) (some "objects/v1/one"))]

-- The upload has read the reservation before the cleanup and writes the object after it.
def sampleCleanup : List (Action Operation Answer) :=
  let quiet := sampleAnswer (sampleTime 7200 (by decide)) none
  [.advance 0 quiet,
    .start (.requested sampleCommand (.upload "artifact_one")),
    .advance 1 quiet,
    .start (.requested sampleCommand (.processAbandoned (sampleTime 60 sampleMinute_le) 10)),
    .advance 2 quiet,
    .advance 2 quiet,
    .advance 2 quiet,
    .advance 2 quiet,
    .advance 2 quiet,
    .advance 1 quiet,
    .advance 1 quiet]

def sampleReserved : ArtifactSystem :=
  sampleReserve.foldl (ArtifactSystem.step samplePorts) ArtifactSystem.initial

def sampleEnded : ArtifactSystem :=
  sampleCleanup.foldl (ArtifactSystem.step samplePorts) sampleReserved

def Operation.isEnded : Operation → Bool
  | .ended _ => true
  | _ => false

def IsQuiet : Action Operation Answer → Prop
  | .start operation => IsRequested operation
  | .advance _ answer => answer.objectKey = none

theorem run_foldl {actions : List (Action Operation Answer)} (h : ∀ action ∈ actions, IsQuiet action)
    (system : ArtifactSystem)
    : ArtifactSystem.Run ports False system (actions.foldl (ArtifactSystem.step ports) system) := by
  induction actions generalizing system with
  | nil => exact LaterWhen.refl system
  | cons action actions ih =>
    rw [List.forall_mem_cons] at h
    have hallowed : Interleaved.Allowed IsRequested (AllowedAnswer False) system action := by
      cases action with
      | start operation => exact h.1
      | advance index answer =>
        have hquiet : answer.objectKey = none := h.1
        intro operation _
        refine ⟨?_, False.elim⟩
        intro objectKey hobjectKey
        simp [hquiet] at hobjectKey
    have hnext : ArtifactSystem.Run ports False system (ArtifactSystem.step ports system action) :=
      (LaterWhen.refl system).next hallowed
    exact Relation.ReflTransGen.trans hnext (ih h.2 _)

theorem run_sampleReserved
    : ArtifactSystem.Run samplePorts False ArtifactSystem.initial sampleReserved := by
  have hstart : ArtifactSystem.Run samplePorts False ArtifactSystem.initial
      (ArtifactSystem.step samplePorts ArtifactSystem.initial
        (.start (.requested sampleCommand (.reserve sampleRequest)))) :=
    (LaterWhen.refl _).next ⟨sampleCommand, .reserve sampleRequest, rfl⟩
  have hreserve : ArtifactSystem.Run samplePorts False ArtifactSystem.initial
      (ArtifactSystem.step samplePorts
        (ArtifactSystem.step samplePorts ArtifactSystem.initial
          (.start (.requested sampleCommand (.reserve sampleRequest))))
        (.advance 0 (sampleAnswer (sampleTime 0 (by decide)) (some "objects/v1/one")))) := by
    apply LaterWhen.next hstart
    intro operation _
    refine ⟨?_, False.elim⟩
    intro objectKey _ generated hgenerated
    cases hgenerated
  exact hreserve

/-- An upload that writes after the purge leaves the object behind when all operations have ended. -/
theorem artifact_lifecycle_sampleEnded
    : ∃ system, ArtifactSystem.Run samplePorts False ArtifactSystem.initial system
        ∧ (∀ operation ∈ system.processes, operation.isEnded)
        ∧ ∃ stored, system.shared.catalog.artifacts ("tenant_one", "artifact_one") = some stored
            ∧ stored.entry.state = .purged
            ∧ system.shared.objects stored.entry.objectKey = some [1, 2, 3] := by
  have hrun : ArtifactSystem.Run samplePorts False ArtifactSystem.initial sampleEnded := by
    apply Relation.ReflTransGen.trans run_sampleReserved
    apply run_foldl
    simp [sampleCleanup, IsQuiet, IsRequested, sampleAnswer]
  have hstored : ∃ stored,
      sampleEnded.shared.catalog.artifacts ("tenant_one", "artifact_one") = some stored
        ∧ stored.entry.state = .purged
        ∧ sampleEnded.shared.objects stored.entry.objectKey = some [1, 2, 3] := by
    have hentry : (sampleEnded.shared.catalog.artifacts ("tenant_one", "artifact_one")).map
          (fun stored => (stored.entry.state, sampleEnded.shared.objects stored.entry.objectKey))
        = some (.purged, some [1, 2, 3]) := by
      decide
    obtain ⟨stored, hstored, heq⟩ := Option.map_eq_some_iff.mp hentry
    exact ⟨stored, hstored, congrArg Prod.fst heq, congrArg Prod.snd heq⟩
  exact ⟨sampleEnded, hrun, by decide, hstored⟩

end Sample

end Artifacts
end ProofStack
