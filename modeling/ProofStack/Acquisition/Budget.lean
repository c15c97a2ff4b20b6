import ProofStack.Checks
import ProofStack.Contracts.PolicyEvaluation.Job
import ProofStack.Json.Objects
import ProofStack.Json.Utf8
import ProofStack.StateMachine.Interleaved

/-!
This module contains the budget that the reads of a policy evaluation share.
-/

namespace ProofStack
namespace Acquisition

open Json StateMachine

inductive PolicyRecordGraphReason where
  | recordLimit
  | byteLimit
  | artifactByteLimit
  | guardLimit
  | referenceLimit
  | unmeasurableRecord
  | referenceConflict
  | observationConflict
  deriving DecidableEq

inductive ReadError where
  | policyRecordGraph (reason : PolicyRecordGraphReason)
  | requireLive
  | repository
  deriving DecidableEq

structure AcquisitionBudget where
  limits : PolicyEvaluationExecutionLimits
  metadataLimits : PolicyEvaluationAcquisitionLimits
  records : Nat
  reads : Nat
  bytes : Nat
  references : Nat
  referenceBytes : Nat
  artifactReads : Nat
  artifactReservedBytes : Nat
  artifactReceivedBytes : Nat
  artifactChargedBytes : Nat
  uncertainMetadata : Bool
  deriving DecidableEq

inductive ConstructorError where
  | acquisitionLimits
  | policyRecordGraph (reason : PolicyRecordGraphReason)
  deriving DecidableEq

def defaultLimits (limits : PolicyEvaluationExecutionLimits) : PolicyEvaluationAcquisitionLimits where
  reads := limits.maxAcquisitionRecords
  records := limits.maxAcquisitionRecords
  references := limits.maxAcquisitionRecords
  recordAndReferenceBytes := limits.maxAcquisitionRecordBytes

def create (limits : PolicyEvaluationExecutionLimits)
    (remaining : Option PolicyEvaluationAcquisitionLimits)
    : Except ConstructorError AcquisitionBudget := do
  let metadataLimits ← Checks.parseWith (remaining.getD (defaultLimits limits)).Accepted
    .acquisitionLimits (remaining.getD (defaultLimits limits))
  Checks.failIf
    (metadataLimits.reads > limits.maxAcquisitionRecords
      ∨ metadataLimits.records > limits.maxAcquisitionRecords
      ∨ metadataLimits.references > limits.maxAcquisitionRecords
      ∨ metadataLimits.recordAndReferenceBytes > limits.maxAcquisitionRecordBytes)
    (.policyRecordGraph .recordLimit)
  return {
    limits := limits
    metadataLimits := metadataLimits
    records := 0
    reads := 0
    bytes := 0
    references := 0
    referenceBytes := 0
    artifactReads := 0
    artifactReservedBytes := 0
    artifactReceivedBytes := 0
    artifactChargedBytes := 0
    uncertainMetadata := false
  }

namespace AcquisitionBudget

def remainingBytes (budget : AcquisitionBudget) : Int :=
  budget.metadataLimits.recordAndReferenceBytes - budget.bytes - budget.referenceBytes

end AcquisitionBudget

abbrev Charging := EStateM ReadError AcquisitionBudget

def reject {α : Type} (reason : PolicyRecordGraphReason) : Charging α :=
  throw (.policyRecordGraph reason)

def charge (bytes : Nat) : Charging Unit := do
  let budget ← get
  if (bytes : Int) > budget.remainingBytes then
    reject .byteLimit
  else
    set { budget with bytes := budget.bytes + bytes }

def reserveRecords (count : Nat) : Charging Unit := do
  let budget ← get
  if (count : Int) > budget.metadataLimits.records - budget.records then
    reject .recordLimit
  else
    set { budget with records := budget.records + count }

def addReferences (count bytes : Nat) : Charging Unit := do
  let budget ← get
  if (count : Int) > budget.metadataLimits.references - budget.references then
    reject .referenceLimit
  else if (bytes : Int) > budget.remainingBytes then
    reject .byteLimit
  else
    set { budget with
      references := budget.references + count
      referenceBytes := budget.referenceBytes + bytes }

section Measurement

def maxDepth : Nat := 128

def chargeString (units : List UInt16) : Charging Unit := do
  let budget ← get
  if (units.length : Int) + 2 > budget.remainingBytes then
    reject .byteLimit
  else
    charge (encodeUtf8 (quote units)).length

variable {ν : Type}

def chargeComma (count : Nat) : Charging Unit :=
  if count ≠ 0 then charge 1 else pure ()

def chargeKey (array : Bool) (key : List UInt16) : Charging Unit :=
  if array then
    pure ()
  else do
    chargeString key
    charge 1

def visitValue (visit : JsValue ν → Charging Unit) (array : Bool) (value : JsValue ν) : Charging Unit :=
  if array ∧ value.isUndefined then charge 4 else visit value

@[simp]
def visitProperties (visit : JsValue ν → Charging Unit) (array : Bool)
    : Nat → List (Property ν) → Charging Unit
  | _, [] => pure ()
  | count, property :: properties =>
    if ¬property.enumerable ∨ array ∧ property.key ≠ indexKey count then
      reject .unmeasurableRecord
    else
      match property.descriptor with
      | .accessor => reject .unmeasurableRecord
      | .data value =>
        if ¬array ∧ value.isUndefined then
          visitProperties visit array count properties
        else do
          chargeComma count
          chargeKey array property.key
          visitValue visit array value
          visitProperties visit array (count + 1) properties

variable [NumberText ν]

/-- The active objects are those that the value is held by. The levels are those that may still be
entered, so that there are none beyond the greatest depth. -/
def visit (heap : Heap ν) (active : List Nat) : Nat → JsValue ν → Charging Unit
  | 0, _ => reject .unmeasurableRecord
  | levels + 1, item =>
    match item with
    | .undefined => pure ()
    | .null => charge 4
    | .string units => chargeString units
    | .bool value => charge (if value then 4 else 5)
    | .number value =>
      if NumberText.finite value then
        charge (encodeUtf8 (NumberText.text value)).length
      else
        reject .unmeasurableRecord
    | .other => reject .unmeasurableRecord
    | .object reference =>
      if reference ∈ active then
        reject .unmeasurableRecord
      else
        match (heap reference).kind with
        | .array length => do
          charge 2
          if (heap reference).symbols > 0 ∨ (heap reference).properties.length + 1 ≠ length + 1 then
            reject .unmeasurableRecord
          else
            visitProperties (visit heap (reference :: active) levels) true 0
              (heap reference).properties
        | .ordinary =>
          if isPlainPrototype (heap reference).prototype then do
            charge 2
            if (heap reference).symbols > 0 then
              reject .unmeasurableRecord
            else
              visitProperties (visit heap (reference :: active) levels) false 0
                (heap reference).properties
          else
            reject .unmeasurableRecord

def measure (heap : Heap ν) (value : JsValue ν) : Charging Unit :=
  visit heap [] (maxDepth + 1) value

end Measurement

end Acquisition
end ProofStack
