import ProofStack.Acquisition.Reads

/-!
This module contains what holds in all runs of reads that share a budget.
-/

namespace ProofStack
namespace Acquisition

open Json StateMachine AcquisitionBudget

variable {ν : Type}

theorem advanceArtifactRead_keeps (budget : AcquisitionBudget) (expectedBytes : Int) (phase : Phase)
    (answer : Answer ν)
    : Keeps budget (advanceArtifactRead budget expectedBytes phase answer).1 := by
  fun_cases advanceArtifactRead budget expectedBytes phase answer with
  | case1 live _ budget' hrun => exact (beginArtifactRead_kept expectedBytes live).ok hrun
  | case2 live _ budget' hrun => exact (beginArtifactRead_kept expectedBytes live).error hrun
  | case3 byteLength _ budget' hrun => exact (admitArtifact_kept expectedBytes byteLength).ok hrun
  | case4 byteLength _ budget' hrun => exact (admitArtifact_kept expectedBytes byteLength).error hrun
  | _ => exact Keeps.refl budget

variable [NumberText ν]

theorem advanceRecordRead_keeps (budget : AcquisitionBudget) (call : RecordCall) (phase : Phase)
    (answer : Answer ν)
    : Keeps budget (advanceRecordRead budget call phase answer).1 := by
  fun_cases advanceRecordRead budget call phase answer with
  | case1 live _ budget' hrun => exact (beginRecordRead_kept call live).ok hrun
  | case2 live _ budget' hrun => exact (beginRecordRead_kept call live).error hrun
  | case3 heap value _ budget' hrun => exact (admitRecord_kept heap call value).ok hrun
  | case4 heap value _ budget' hrun => exact (admitRecord_kept heap call value).error hrun
  | case6 ioStarted =>
    constructor
    . constructor <;> simp
      intro huncertain
      exact .inl huncertain
    . intro hwithin
      exact ⟨hwithin.reads, hwithin.records, hwithin.references, hwithin.bytes,
        hwithin.artifactReservedBytes, hwithin.artifactChargedBytes⟩
  | _ => exact Keeps.refl budget

theorem advance_keeps (budget : AcquisitionBudget) (process : Process) (answer : Answer ν)
    : Keeps budget (advance budget process answer).1 := by
  cases process with
  | addReferences count bytes => exact addReferences_kept count bytes budget
  | recordRead call phase => exact advanceRecordRead_keeps budget call phase answer
  | artifactRead expectedBytes phase => exact advanceArtifactRead_keeps budget expectedBytes phase answer
  | done => exact Keeps.refl budget

def Phase.failedRead : Phase → Bool
  | .failing ioStarted | .settled (.failed ioStarted) | .removed (.failed ioStarted) => ioStarted
  | .called | .reading | .settled .returned | .removed .returned => false

def Process.failedRecordRead : Process → Bool
  | .recordRead _ phase => phase.failedRead
  | .addReferences _ _ | .artifactRead _ _ | .done => false

def Process.failedArtifactRead : Process → Bool
  | .artifactRead _ phase => phase.failedRead
  | .addReferences _ _ | .recordRead _ _ | .done => false

def Marked (budget : AcquisitionBudget) : Process → Prop
  | .recordRead _ (.settled (.failed ioStarted)) | .recordRead _ (.removed (.failed ioStarted)) =>
    ioStarted → budget.uncertainMetadata
  | _ => True

def Process.Initial : Process → Prop
  | .addReferences _ _ => True
  | .recordRead _ phase | .artifactRead _ phase => phase = .called
  | .done => False

theorem Marked.mono {budget budget' : AcquisitionBudget} {process : Process} (h : Marked budget process)
    (hgrows : Grows budget budget')
    : Marked budget' process := by
  unfold Marked at h ⊢
  split
  . exact fun hstarted => hgrows.uncertainMetadata (h hstarted)
  . exact fun hstarted => hgrows.uncertainMetadata (h hstarted)
  . trivial

variable {budget : AcquisitionBudget}

theorem marked_advanceRecordRead {call : RecordCall} {phase : Phase}
    {answer : Answer ν} (h : Marked budget (.recordRead call phase))
    : Marked (advanceRecordRead budget call phase answer).1
        (.recordRead call (advanceRecordRead budget call phase answer).2) := by
  fun_cases advanceRecordRead budget call phase answer with
  | case6 ioStarted =>
    intro hstarted
    simp [hstarted]
  | case7 outcome => cases outcome <;> exact h
  | case8 => exact h
  | _ => trivial

theorem Marked.advance {process : Process} {answer : Answer ν}
    (h : Marked budget process)
    : Marked (advance budget process answer).1 (advance budget process answer).2 := by
  cases process with
  | recordRead call phase => exact marked_advanceRecordRead h
  | _ => trivial

def Run (ν : Type) [NumberText ν] : Reads → Reads → Prop :=
  LaterWhen (Interleaved.Allowed Process.Initial (fun _ _ _ (_ : Answer ν) => True))
    (Interleaved.step advance)

theorem noninterfering (ν : Type) [NumberText ν]
    : Interleaved.Noninterfering (advance (ν := ν)) Process.Initial (fun _ _ _ _ => True)
        (fun _ => True) Marked (fun _ => Grows) where
  initial := by
    intro budget process hinitial
    cases process with
    | recordRead call phase =>
      cases hinitial
      trivial
    | _ => trivial
  guarantee := fun _ _ _ _ => (advance_keeps _ _ _).grows
  invariant := fun _ _ _ _ => trivial
  own := fun _ _ hmarked _ => hmarked.advance
  stable := fun hgrows _ hmarked => hmarked.mono hgrows

variable {s s' : Reads}

theorem Run.marked (h : Run ν s s') (hs : ∀ process ∈ s.processes, Marked s.shared process)
    : ∀ process ∈ s'.processes, Marked s'.shared process :=
  ((noninterfering ν).holds h ⟨trivial, hs⟩).processes

theorem step_keeps (s : Reads) (action : Action Process (Answer ν))
    : Keeps s.shared (Interleaved.step advance s action).shared := by
  cases action with
  | start process => exact Keeps.refl s.shared
  | advance index answer =>
    unfold Interleaved.step
    dsimp only
    split
    . exact Keeps.refl s.shared
    . exact advance_keeps s.shared _ answer

theorem Run.keeps (h : Run ν s s') : Keeps s.shared s'.shared := by
  apply h.preserves (P := fun later => Keeps s.shared later.shared)
  . intro later action _ hkeeps
    exact hkeeps.trans (step_keeps later action)
  . exact Keeps.refl s.shared

theorem metadataUsage_some {usage : PolicyEvaluationAcquisitionUsage}
    (hmarked : ∀ process ∈ s.processes, Marked s.shared process)
    (h : metadataUsage s = .ok (some usage))
    : ∀ process ∈ s.processes, process.pending = false ∧ process.failedRecordRead = false := by
  unfold metadataUsage at h
  split at h
  . contradiction
  split at h
  . cases h
  . next hpending hcertain =>
    intro process hprocess
    have hremoved : process.pending = false := by
      simpa using List.any_eq_false.mp (by simpa using hpending) process hprocess
    refine ⟨hremoved, ?_⟩
    have hmark := hmarked process hprocess
    match process, hremoved, hmark with
    | .recordRead call .called, _, _ => rfl
    | .recordRead call (.removed .returned), _, _ => rfl
    | .recordRead call (.removed (.failed ioStarted)), _, hmark =>
      cases ioStarted with
      | false => rfl
      | true => exact (hcertain (hmark rfl)).elim
    | .addReferences count bytes, _, _ => rfl
    | .artifactRead expectedBytes phase, _, _ => rfl
    | .done, _, _ => rfl

def StartsArtifactRead (s : Reads) (index : Nat) (answer : Answer ν) : Prop :=
  ∃ expectedBytes, s.processes[index]? = some (.artifactRead expectedBytes .called)
    ∧ (Interleaved.step advance s (.advance index answer)).processes[index]?
        = some (.artifactRead expectedBytes .reading)

theorem StartsArtifactRead.charged_lt {index : Nat} {answer : Answer ν}
    (h : StartsArtifactRead s index answer)
    : s.shared.artifactChargedBytes < s.shared.limits.maxArtifactReadBytes := by
  rcases h with ⟨expectedBytes, hcalled, hreading⟩
  have hindex : index < s.processes.length := (List.getElem?_eq_some_iff.mp hcalled).1
  simp only [Interleaved.step, hcalled, List.getElem?_set_self hindex, Option.some.injEq] at hreading
  have hphase : (advanceArtifactRead s.shared expectedBytes .called answer).2 = .reading := by
    simpa [advance] using hreading
  cases answer with
  | requireLive live =>
    cases live with
    | false => contradiction
    | true =>
      have hrun := beginArtifactRead_run s.shared expectedBytes
      split at hrun
      . rw [advanceArtifactRead, hrun] at hphase
        contradiction
      . omega
  | _ => contradiction

theorem metadataLimits_of_create {limits : PolicyEvaluationExecutionLimits}
    {remaining : Option PolicyEvaluationAcquisitionLimits}
    (h : create limits remaining = .ok budget)
    : budget.limits = limits ∧ budget.metadataLimits = remaining.getD (defaultLimits limits) := by
  simp only [create, Checks.bind_eq_ok, Checks.parseWith_eq_ok] at h
  rcases h with ⟨metadataLimits, ⟨_, rfl⟩, _, _, heq⟩
  cases heq
  exact ⟨rfl, rfl⟩

theorem withinLimits_of_create {limits : PolicyEvaluationExecutionLimits}
    {remaining : Option PolicyEvaluationAcquisitionLimits}
    (h : create limits remaining = .ok budget)
    : WithinLimits budget := by
  simp only [create, Checks.bind_eq_ok] at h
  rcases h with ⟨metadataLimits, _, _, _, heq⟩
  cases heq
  constructor <;> simp

theorem acquisitionBudget_run {limits : PolicyEvaluationExecutionLimits}
    {remaining : Option PolicyEvaluationAcquisitionLimits} {budget : AcquisitionBudget}
    (hcreate : create limits remaining = .ok budget) (hrun : Run ν ⟨budget, []⟩ s)
    (hlater : Run ν s s')
    : (s.shared.limits = limits ∧ s.shared.metadataLimits = remaining.getD (defaultLimits limits)
        ∧ WithinLimits s.shared)
      ∧ Grows s.shared s'.shared
      ∧ (∀ index (answer : Answer ν), StartsArtifactRead s index answer →
          s.shared.artifactChargedBytes < limits.maxArtifactReadBytes)
      ∧ (∀ usage, metadataUsage s = .ok (some usage) →
          ∀ process ∈ s.processes, process.pending = false ∧ process.failedRecordRead = false)
      ∧ (∀ (heap : Heap ν) value json, toJson heap (maxDepth + 1) value = some json →
          s.shared.Fits (encodeUtf8 json.stringify).length →
            measure heap value s.shared
              = .ok () (s.shared.chargedBytes (encodeUtf8 json.stringify).length))
      ∧ ∀ (heap : Heap ν) value,
          IsCyclic heap value ∨ CarriesAccessor heap value ∨ CarriesForeign heap value →
            ∃ error budget', measure heap value s.shared = .error error budget' := by
  have hkeeps := hrun.keeps
  have hlimits := metadataLimits_of_create hcreate
  have hmarked : ∀ process ∈ s.processes, Marked s.shared process :=
    hrun.marked (fun process hprocess => (List.not_mem_nil hprocess).elim)
  have hshared : s.shared.limits = limits := hkeeps.grows.limits.trans hlimits.1
  refine ⟨⟨hshared, ?_, ?_⟩, hlater.keeps.grows, ?_, ?_, ?_, ?_⟩
  . exact hkeeps.grows.metadataLimits.trans hlimits.2
  . exact hkeeps.withinLimits (withinLimits_of_create hcreate)
  . intro index answer hstarts
    rw [← hshared]
    exact hstarts.charged_lt
  . intro usage husage
    exact metadataUsage_some hmarked husage
  . intro heap value json hjson hfits
    exact measure_run hjson hfits
  . rintro heap value (hcyclic | haccessor | hforeign)
    . apply measure_rejects (toJson_of_isCyclic hcyclic)
      rintro rfl
      exact not_isCyclic_undefined hcyclic
    . apply measure_rejects (toJson_of_carriesAccessor haccessor)
      rintro rfl
      exact not_carriesAccessor_undefined haccessor
    . apply measure_rejects (toJson_of_carriesForeign hforeign)
      rintro rfl
      exact not_carriesForeign_undefined hforeign

def sampleLimits : PolicyEvaluationExecutionLimits where
  heartbeatIntervalMilliseconds := 1000
  leaseDurationMilliseconds := 5000
  maxAcquisitionRecordBytes := 64
  maxAcquisitionRecords := 4
  maxArtifactReadBytes := 16
  maxAttempts := 1
  maxRuleEvaluations := 8
  perAttemptTimeoutMilliseconds := 10000
  retryBackoffMilliseconds := 0
  retryableErrors := []
  totalDeadlineMilliseconds := 20000

def sampleBudget : AcquisitionBudget where
  limits := sampleLimits
  metadataLimits := defaultLimits sampleLimits
  records := 0
  reads := 0
  bytes := 0
  references := 0
  referenceBytes := 0
  artifactReads := 0
  artifactReservedBytes := 0
  artifactReceivedBytes := 0
  artifactChargedBytes := 0
  uncertainMetadata := false

theorem create_sampleBudget : create sampleLimits none = .ok sampleBudget := by
  rfl

def sampleHeap : Heap Nat := fun _ =>
  { kind := .array 1, prototype := .otherPrototype, symbols := 0,
    properties := [⟨indexKey 0, true, .data .null⟩] }

def sampleActions : List (Action Process (Answer Nat)) :=
  [.start (.recordRead ⟨.other, none⟩ .called), .advance 0 (.requireLive true),
    .start (.artifactRead 5 .called), .advance 1 (.requireLive true),
    .advance 0 (.record sampleHeap (.object 0)), .advance 1 .rejected, .advance 0 .proceed,
    .advance 1 .proceed]

def sampleReads : Reads :=
  sampleActions.foldl (Interleaved.step advance) ⟨sampleBudget, []⟩

theorem run_sampleReads : Run Nat ⟨sampleBudget, []⟩ sampleReads := by
  apply LaterWhen.foldl
  simp [sampleActions, LaterWhen.AllowedAll, Interleaved.Allowed, Process.Initial]

theorem metadataUsage_sampleReads
    : metadataUsage sampleReads
        = .ok (some { reads := 1, records := 1, references := 0, recordBytes := 6, referenceBytes := 0 }) := by
  rfl

theorem acquisitionBudget_run_sampleReads
    : WithinLimits sampleReads.shared
      ∧ ∀ process ∈ sampleReads.processes, process.pending = false ∧ process.failedRecordRead = false := by
  have hsample := acquisitionBudget_run create_sampleBudget run_sampleReads (LaterWhen.refl sampleReads)
  exact ⟨hsample.1.2.2, hsample.2.2.2.1 _ metadataUsage_sampleReads⟩

/-- A failed artifact read leaves the metadata certain, and an array is measured whatever its prototype
is. -/
theorem metadataUsage_sampleArtifact
    : (¬∀ s : Reads, Run Nat ⟨sampleBudget, []⟩ s → ∀ usage, metadataUsage s = .ok (some usage) →
          ∀ process ∈ s.processes,
            process.failedRecordRead = false ∧ process.failedArtifactRead = false)
      ∧ (sampleHeap 0).prototype = .otherPrototype
      ∧ measure sampleHeap (.object 0) sampleBudget = .ok () (sampleBudget.chargedBytes 6) := by
  refine ⟨?_, rfl, rfl⟩
  intro h
  have hfailed := h sampleReads run_sampleReads _ metadataUsage_sampleReads
    (.artifactRead 5 (.removed (.failed true))) (by decide)
  exact absurd hfailed.2 (by decide)

end Acquisition
end ProofStack
