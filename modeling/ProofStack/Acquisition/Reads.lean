import ProofStack.Acquisition.Budget
import ProofStack.Acquisition.Measure
import ProofStack.StateMachine.Atomic

/-!
This module contains the reads on one budget.
-/

namespace ProofStack
namespace Acquisition

open Json StateMachine

inductive RecordMethod where
  | resolveExactEvents
  | listReleasePolicyLifecycleEvents
  | listCriterionSetStatuses
  | listProtocolDefinitions
  | listPolicyHistory
  | findJob
  | other
  deriving DecidableEq

structure RecordCall where
  property : RecordMethod
  thirdArgument : Option Nat
  deriving DecidableEq

def RecordCall.requestedEvents (call : RecordCall) : Nat :=
  if call.property = .resolveExactEvents then call.thirdArgument.getD 0 else 0

def RecordMethod.listsHistory : RecordMethod → Bool
  | .listReleasePolicyLifecycleEvents | .listCriterionSetStatuses | .listProtocolDefinitions
  | .listPolicyHistory => true
  | .resolveExactEvents | .findJob | .other => false

section Response

variable {ν : Type} (heap : Heap ν)

def arrayLength : JsValue ν → Option Nat
  | .object reference =>
    match (heap reference).kind with
    | .array length => some length
    | .ordinary => none
  | _ => none

def isObject : JsValue ν → Bool
  | .object _ => true
  | _ => false

def get (key : List UInt16) : JsValue ν → JsValue ν
  | .object reference =>
    match (heap reference).properties.find? (·.key = key) with
    | some { descriptor := .data value, .. } => value
    | _ => .undefined
  | _ => .undefined

def isNullish : JsValue ν → Bool
  | .undefined | .null => true
  | _ => false

def units (text : String) : List UInt16 :=
  text.toList.flatMap charUnits

def jobRowKeys : List String :=
  ["attempts", "budgetLedger", "cancellationAcknowledgements", "executionObservations",
    "usageObservations"]

def jobRows (job : JsValue ν) : Nat :=
  (if isNullish (get heap (units "cancellationRequest") job) then 0 else 1)
    + (jobRowKeys.map (fun key => (arrayLength heap (get heap (units key) job)).getD 0)).sum

end Response

def requireLive (live : Bool) : Charging Unit :=
  if live then pure () else throw .requireLive

def beginRecordRead (call : RecordCall) (live : Bool) : Charging Unit := do
  requireLive live
  let budget ← MonadState.get
  if budget.reads ≥ budget.metadataLimits.reads then
    reject .recordLimit
  else do
    reserveRecords (1 + call.requestedEvents)
    modify (fun budget => { budget with reads := budget.reads + 1 })

section Admission

variable {ν : Type} (heap : Heap ν) (call : RecordCall) (value : JsValue ν)

def reserveEvents : Charging Unit :=
  match arrayLength heap value with
  | some length =>
    if call.property = .resolveExactEvents ∧ length > call.requestedEvents then
      reserveRecords (length - call.requestedEvents)
    else
      pure ()
  | none => pure ()

def reserveHistory : Charging Unit :=
  match arrayLength heap value with
  | some length => if call.property.listsHistory then reserveRecords length else pure ()
  | none => pure ()

def reserveJobRows : Charging Unit :=
  if call.property = .findJob ∧ isObject value then
    reserveRecords (jobRows heap value)
  else
    pure ()

def admitRecord [NumberText ν] : Charging Unit := do
  reserveEvents heap call value
  measure heap value
  reserveHistory heap call value
  reserveJobRows heap call value

end Admission

def maxSafeInteger : Nat := 2 ^ 53 - 1

def beginArtifactRead (expectedBytes : Int) (live : Bool) : Charging Unit := do
  requireLive live
  let budget ← MonadState.get
  if expectedBytes.natAbs > maxSafeInteger ∨ expectedBytes < 1
      ∨ expectedBytes > budget.limits.maxArtifactReadBytes - budget.artifactChargedBytes then
    reject .artifactByteLimit
  else
    set { budget with
      artifactReads := budget.artifactReads + 1
      artifactReservedBytes := budget.artifactReservedBytes + expectedBytes.toNat
      artifactChargedBytes := budget.artifactChargedBytes + expectedBytes.toNat }

def admitArtifact (expectedBytes : Int) (byteLength : Option Nat) : Charging Unit :=
  match byteLength with
  | none => pure ()
  | some byteLength => do
    modify (fun budget => { budget with
      artifactReceivedBytes := budget.artifactReceivedBytes + byteLength
      artifactChargedBytes := budget.artifactChargedBytes + (byteLength - expectedBytes.toNat) })
    let budget ← MonadState.get
    if budget.artifactChargedBytes > budget.limits.maxArtifactReadBytes then
      reject .artifactByteLimit
    else
      pure ()

inductive Outcome where
  | returned
  | failed (ioStarted : Bool)
  deriving DecidableEq

inductive Phase where
  | called
  | reading
  | failing (ioStarted : Bool)
  | settled (outcome : Outcome)
  | removed (outcome : Outcome)
  deriving DecidableEq

inductive Process where
  | addReferences (count bytes : Nat)
  | recordRead (call : RecordCall) (phase : Phase)
  | artifactRead (expectedBytes : Int) (phase : Phase)
  | done
  deriving DecidableEq

inductive Answer (ν : Type) where
  | requireLive (live : Bool)
  | record (heap : Heap ν) (value : JsValue ν)
  | artifact (byteLength : Option Nat)
  | rejected
  | proceed

variable {ν : Type} [NumberText ν]

def advanceRecordRead (budget : AcquisitionBudget) (call : RecordCall)
    : Phase → Answer ν → AcquisitionBudget × Phase
  | .called, .requireLive live =>
    match beginRecordRead call live budget with
    | .ok _ budget => (budget, .reading)
    | .error _ budget => (budget, .failing false)
  | .reading, .record heap value =>
    match admitRecord heap call value budget with
    | .ok _ budget => (budget, .settled .returned)
    | .error _ budget => (budget, .failing true)
  | .reading, .rejected => (budget, .failing true)
  | .failing ioStarted, .proceed =>
    ({ budget with uncertainMetadata := budget.uncertainMetadata || ioStarted },
      .settled (.failed ioStarted))
  | .settled outcome, .proceed => (budget, .removed outcome)
  | phase, _ => (budget, phase)

def advanceArtifactRead (budget : AcquisitionBudget) (expectedBytes : Int)
    : Phase → Answer ν → AcquisitionBudget × Phase
  | .called, .requireLive live =>
    match beginArtifactRead expectedBytes live budget with
    | .ok _ budget => (budget, .reading)
    | .error _ budget => (budget, .settled (.failed false))
  | .reading, .artifact byteLength =>
    match admitArtifact expectedBytes byteLength budget with
    | .ok _ budget => (budget, .settled .returned)
    | .error _ budget => (budget, .settled (.failed true))
  | .reading, .rejected => (budget, .settled (.failed true))
  | .settled outcome, .proceed => (budget, .removed outcome)
  | phase, _ => (budget, phase)

def advance (budget : AcquisitionBudget) : Process → Answer ν → AcquisitionBudget × Process
  | .addReferences count bytes, _ => (after (addReferences count bytes budget), .done)
  | .recordRead call phase, answer =>
    let advanced := advanceRecordRead budget call phase answer
    (advanced.1, .recordRead call advanced.2)
  | .artifactRead expectedBytes phase, answer =>
    let advanced := advanceArtifactRead budget expectedBytes phase answer
    (advanced.1, .artifactRead expectedBytes advanced.2)
  | .done, _ => (budget, .done)

def Phase.pending : Phase → Bool
  | .reading | .failing _ | .settled _ => true
  | .called | .removed _ => false

def Process.pending : Process → Bool
  | .recordRead _ phase | .artifactRead _ phase => phase.pending
  | .addReferences _ _ | .done => false

abbrev Reads := Interleaved AcquisitionBudget Process

def metadataUsage (s : Reads) : Except ReadError (Option PolicyEvaluationAcquisitionUsage) :=
  if s.processes.any (·.pending) then
    .error (.policyRecordGraph .observationConflict)
  else if s.shared.uncertainMetadata then
    .ok none
  else
    .ok (some {
      reads := s.shared.reads
      records := s.shared.records
      references := s.shared.references
      recordBytes := s.shared.bytes
      referenceBytes := s.shared.referenceBytes })

end Acquisition
end ProofStack

/-!
This module contains the proof that all interleavings of reads on one budget stay within its limits,
and what it means that a usage is reported.
-/

namespace ProofStack
namespace Acquisition

open Json StateMachine AcquisitionBudget

/-- Consumption only grows, and uncertainty is never taken back. -/
structure Grows (earlier later : AcquisitionBudget) : Prop where
  limits : later.limits = earlier.limits
  metadataLimits : later.metadataLimits = earlier.metadataLimits
  records : earlier.records ≤ later.records
  reads : earlier.reads ≤ later.reads
  bytes : earlier.bytes ≤ later.bytes
  references : earlier.references ≤ later.references
  referenceBytes : earlier.referenceBytes ≤ later.referenceBytes
  artifactReads : earlier.artifactReads ≤ later.artifactReads
  artifactReservedBytes : earlier.artifactReservedBytes ≤ later.artifactReservedBytes
  artifactReceivedBytes : earlier.artifactReceivedBytes ≤ later.artifactReceivedBytes
  artifactChargedBytes : earlier.artifactChargedBytes ≤ later.artifactChargedBytes
  uncertainMetadata : earlier.uncertainMetadata → later.uncertainMetadata

structure WithinLimits (budget : AcquisitionBudget) : Prop where
  reads : budget.reads ≤ budget.metadataLimits.reads
  records : budget.records ≤ budget.metadataLimits.records
  references : budget.references ≤ budget.metadataLimits.references
  bytes : budget.bytes + budget.referenceBytes ≤ budget.metadataLimits.recordAndReferenceBytes
  artifactReservedBytes : budget.artifactReservedBytes ≤ budget.limits.maxArtifactReadBytes
  artifactChargedBytes : budget.artifactReservedBytes ≤ budget.artifactChargedBytes

structure Keeps (earlier later : AcquisitionBudget) : Prop where
  grows : Grows earlier later
  withinLimits : WithinLimits earlier → WithinLimits later

theorem Grows.refl (budget : AcquisitionBudget) : Grows budget budget := by
  constructor <;> simp

theorem Grows.trans {first second third : AcquisitionBudget} (h : Grows first second)
    (h' : Grows second third)
    : Grows first third where
  limits := h'.limits.trans h.limits
  metadataLimits := h'.metadataLimits.trans h.metadataLimits
  records := h.records.trans h'.records
  reads := h.reads.trans h'.reads
  bytes := h.bytes.trans h'.bytes
  references := h.references.trans h'.references
  referenceBytes := h.referenceBytes.trans h'.referenceBytes
  artifactReads := h.artifactReads.trans h'.artifactReads
  artifactReservedBytes := h.artifactReservedBytes.trans h'.artifactReservedBytes
  artifactReceivedBytes := h.artifactReceivedBytes.trans h'.artifactReceivedBytes
  artifactChargedBytes := h.artifactChargedBytes.trans h'.artifactChargedBytes
  uncertainMetadata := fun hfirst => h'.uncertainMetadata (h.uncertainMetadata hfirst)

theorem Keeps.refl (budget : AcquisitionBudget) : Keeps budget budget :=
  ⟨Grows.refl budget, id⟩

theorem Keeps.trans {first second third : AcquisitionBudget} (h : Keeps first second)
    (h' : Keeps second third)
    : Keeps first third :=
  ⟨h.grows.trans h'.grows, fun hfirst => h'.withinLimits (h.withinLimits hfirst)⟩

def Kept (computation : Charging Unit) : Prop :=
  Guarantees Keeps computation

theorem Kept.pure : Kept (pure ()) :=
  Guarantees.pure Keeps.refl ()

theorem Kept.throw (error : ReadError) : Kept (throw error) :=
  Guarantees.throw Keeps.refl error

theorem Kept.reject (reason : PolicyRecordGraphReason) : Kept (reject reason) :=
  Kept.throw _

theorem Kept.bind {first : Charging Unit} {second : Unit → Charging Unit} (h : Kept first)
    (h' : ∀ a, Kept (second a))
    : Kept (first >>= second) :=
  Guarantees.bind (R := Keeps) Keeps.trans h h'

theorem Kept.ite {condition : Prop} [Decidable condition] {first second : Charging Unit}
    (h : Kept first) (h' : Kept second)
    : Kept (if condition then first else second) := by
  split
  . exact h
  . exact h'

theorem charge_kept (cost : Nat) : Kept (charge cost) := by
  intro budget
  rw [charge_run]
  split
  . next hfits =>
    constructor
    . constructor <;> simp [after, chargedBytes]
    . intro hwithin
      unfold Fits at hfits
      constructor
      . exact hwithin.reads
      . exact hwithin.records
      . exact hwithin.references
      . simp only [after, chargedBytes]
        omega
      . exact hwithin.artifactReservedBytes
      . exact hwithin.artifactChargedBytes
  . exact Keeps.refl budget

theorem chargeString_kept (units : List UInt16) : Kept (chargeString units) := by
  intro budget
  change Keeps budget (after ((if _ then reject .byteLimit else charge _ : Charging Unit) budget))
  split
  . exact Keeps.refl budget
  . exact charge_kept _ budget

theorem reserveRecords_run (budget : AcquisitionBudget) (count : Nat)
    : reserveRecords count budget
        = if (count : Int) > budget.metadataLimits.records - budget.records then
            .error (.policyRecordGraph .recordLimit) budget
          else
            .ok () { budget with records := budget.records + count } := by
  show (if (count : Int) > budget.metadataLimits.records - budget.records then reject .recordLimit
    else set { budget with records := budget.records + count } : Charging Unit) budget = _
  split <;> rfl

theorem reserveRecords_kept (count : Nat) : Kept (reserveRecords count) := by
  intro budget
  rw [reserveRecords_run]
  split
  . exact Keeps.refl budget
  . next hfits =>
    constructor
    . constructor <;> simp [after]
    . intro hwithin
      constructor
      . exact hwithin.reads
      . simp only [after]
        omega
      . exact hwithin.references
      . exact hwithin.bytes
      . exact hwithin.artifactReservedBytes
      . exact hwithin.artifactChargedBytes

theorem after_ok {α : Type} (a : α) (budget : AcquisitionBudget)
    : after (.ok a budget : EStateM.Result ReadError AcquisitionBudget α) = budget :=
  rfl

theorem after_set (budget budget' : AcquisitionBudget) : after ((set budget' : Charging Unit) budget) = budget' :=
  rfl

theorem after_modify (f : AcquisitionBudget → AcquisitionBudget) (budget : AcquisitionBudget)
    : after ((modify f : Charging Unit) budget) = f budget :=
  rfl

theorem addReferences_kept (count bytes : Nat) : Kept (addReferences count bytes) := by
  intro budget
  change Keeps budget (after ((if _ then reject .referenceLimit
    else if _ then reject .byteLimit else set _ : Charging Unit) budget))
  split
  . exact Keeps.refl budget
  split
  . exact Keeps.refl budget
  . next hcount hbytes =>
    constructor
    . constructor <;> simp [after_set]
    . intro hwithin
      unfold remainingBytes at hbytes
      constructor
      . exact hwithin.reads
      . exact hwithin.records
      . simp only [after_set]
        omega
      . simp only [after_set]
        omega
      . exact hwithin.artifactReservedBytes
      . exact hwithin.artifactChargedBytes

section Measure

variable {ν : Type}

theorem visitProperties_kept {visit : JsValue ν → Charging Unit} (hvisit : ∀ value, Kept (visit value))
    (array : Bool) (count : Nat) (properties : List (Property ν))
    : Kept (visitProperties visit array count properties) := by
  induction properties generalizing count with
  | nil => exact Kept.pure
  | cons property properties ih =>
    have hcomma : Kept (chargeComma count) := Kept.ite (charge_kept 1) Kept.pure
    have hkey : Kept (chargeKey array property.key) :=
      Kept.ite Kept.pure ((chargeString_kept _).bind fun _ => charge_kept 1)
    have hvalue : ∀ value, Kept (visitValue visit array value) := fun value =>
      Kept.ite (charge_kept 4) (hvisit value)
    unfold visitProperties
    apply Kept.ite (Kept.reject _)
    cases property.descriptor with
    | accessor => exact Kept.reject _
    | data value =>
      apply Kept.ite (ih count)
      apply hcomma.bind
      intro _
      apply hkey.bind
      intro _
      apply (hvalue value).bind
      intro _
      exact ih (count + 1)

theorem visit_kept [NumberText ν] (heap : Heap ν) (active : List Nat) (levels : Nat) (value : JsValue ν)
    : Kept (visit heap active levels value) := by
  induction levels generalizing active value with
  | zero => exact Kept.reject _
  | succ levels ih =>
    cases value with
    | undefined => exact Kept.pure
    | other => exact Kept.reject _
    | null => exact charge_kept 4
    | bool value => exact charge_kept _
    | string units => exact chargeString_kept units
    | number value => exact Kept.ite (charge_kept _) (Kept.reject _)
    | object reference =>
      unfold visit
      apply Kept.ite (Kept.reject _)
      cases (heap reference).kind with
      | array length =>
        apply (charge_kept 2).bind
        intro _
        exact Kept.ite (Kept.reject _) (visitProperties_kept (ih _) _ _ _)
      | ordinary =>
        refine Kept.ite ((charge_kept 2).bind ?_) (Kept.reject _)
        intro _
        exact Kept.ite (Kept.reject _) (visitProperties_kept (ih _) _ _ _)

theorem admitRecord_kept [NumberText ν] (heap : Heap ν) (call : RecordCall) (value : JsValue ν)
    : Kept (admitRecord heap call value) := by
  have hevents : Kept (reserveEvents heap call value) := by
    unfold reserveEvents
    split
    . exact Kept.ite (reserveRecords_kept _) Kept.pure
    . exact Kept.pure
  have hhistory : Kept (reserveHistory heap call value) := by
    unfold reserveHistory
    split
    . exact Kept.ite (reserveRecords_kept _) Kept.pure
    . exact Kept.pure
  apply hevents.bind
  intro _
  apply (visit_kept heap [] (maxDepth + 1) value).bind
  intro _
  apply hhistory.bind
  intro _
  exact Kept.ite (reserveRecords_kept _) Kept.pure

end Measure

theorem beginRecordRead_kept (call : RecordCall) (live : Bool) : Kept (beginRecordRead call live) := by
  intro budget
  cases live with
  | false => exact Keeps.refl budget
  | true =>
    change Keeps budget (after ((if budget.reads ≥ budget.metadataLimits.reads then reject .recordLimit
      else reserveRecords (1 + call.requestedEvents) >>= fun _ => modify _ : Charging Unit) budget))
    split
    . exact Keeps.refl budget
    . next hreads =>
      have hreserved := reserveRecords_kept (1 + call.requestedEvents) budget
      have hrun := reserveRecords_run budget (1 + call.requestedEvents)
      split at hrun
      . rw [bind_run_error hrun]
        exact Keeps.refl budget
      . rw [bind_run hrun]
        rw [hrun] at hreserved
        apply Keeps.trans hreserved
        constructor
        . constructor <;> simp [after_modify, after_ok]
        . intro hwithin
          constructor
          . simp only [after_modify]
            omega
          . exact hwithin.records
          . exact hwithin.references
          . exact hwithin.bytes
          . exact hwithin.artifactReservedBytes
          . exact hwithin.artifactChargedBytes

theorem beginArtifactRead_run (budget : AcquisitionBudget) (expectedBytes : Int)
    : beginArtifactRead expectedBytes true budget
        = if expectedBytes.natAbs > maxSafeInteger ∨ expectedBytes < 1
              ∨ expectedBytes > budget.limits.maxArtifactReadBytes - budget.artifactChargedBytes then
            .error (.policyRecordGraph .artifactByteLimit) budget
          else
            .ok () { budget with
              artifactReads := budget.artifactReads + 1
              artifactReservedBytes := budget.artifactReservedBytes + expectedBytes.toNat
              artifactChargedBytes := budget.artifactChargedBytes + expectedBytes.toNat } := by
  show (if _ then reject .artifactByteLimit else set _ : Charging Unit) budget = _
  split <;> rfl

theorem beginArtifactRead_kept (expectedBytes : Int) (live : Bool)
    : Kept (beginArtifactRead expectedBytes live) := by
  intro budget
  cases live with
  | false => exact Keeps.refl budget
  | true =>
    rw [beginArtifactRead_run]
    split
    . exact Keeps.refl budget
    . next hfits =>
      constructor
      . constructor <;> simp [after]
      . intro hwithin
        have hcharged := hwithin.artifactChargedBytes
        constructor
        . exact hwithin.reads
        . exact hwithin.records
        . exact hwithin.references
        . exact hwithin.bytes
        . simp only [after]
          omega
        . simp only [after]
          omega

theorem admitArtifact_kept (expectedBytes : Int) (byteLength : Option Nat)
    : Kept (admitArtifact expectedBytes byteLength) := by
  cases byteLength with
  | none => exact Kept.pure
  | some byteLength =>
    intro budget
    let received := { budget with
      artifactReceivedBytes := budget.artifactReceivedBytes + byteLength
      artifactChargedBytes := budget.artifactChargedBytes + (byteLength - expectedBytes.toNat) }
    have hreceived : Keeps budget received := by
      constructor
      . constructor <;> simp [received]
      . intro hwithin
        constructor
        . exact hwithin.reads
        . exact hwithin.records
        . exact hwithin.references
        . exact hwithin.bytes
        . exact hwithin.artifactReservedBytes
        . exact hwithin.artifactChargedBytes.trans (Nat.le_add_right _ _)
    change Keeps budget (after ((if _ then reject .artifactByteLimit else Pure.pure () : Charging Unit)
      received))
    split
    . exact hreceived
    . exact hreceived

end Acquisition
end ProofStack
