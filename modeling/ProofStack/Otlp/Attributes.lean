import ProofStack.Host.Value
import ProofStack.StateMachine.Atomic

/-!
This module contains the trace export requests of OTLP with the limits that they are normalized with, and
the normalization of attribute values.
-/

namespace ProofStack
namespace Otlp

open Host

inductive OtlpInteger where
  | number (value : Number)
  | text (value : Text)

inductive OtlpDouble where
  | number (value : Number)
  | text (value : Text)

structure OtlpAnyValue where
  arrayValue : Option (List OtlpAnyValue)
  boolValue : Option Bool
  bytesValue : Option (List UInt8)
  doubleValue : Option OtlpDouble
  intValue : Option OtlpInteger
  kvlistValue : Option (List (Text × Option OtlpAnyValue))
  stringValue : Option Text

abbrev OtlpKeyValue := Text × Option OtlpAnyValue

structure OtlpResource where
  attributes : List OtlpKeyValue
  droppedAttributesCount : Number

structure OtlpInstrumentationScope where
  attributes : List OtlpKeyValue
  droppedAttributesCount : Number
  name : Text
  version : Text

structure OtlpSpanEvent where
  attributes : List OtlpKeyValue
  droppedAttributesCount : Number
  name : Text
  timeUnixNano : Text

structure OtlpSpanLink where
  attributes : List OtlpKeyValue
  droppedAttributesCount : Number
  flags : Number
  spanId : List UInt8
  traceId : List UInt8
  traceState : Text

structure OtlpSpanStatus where
  code : Number
  message : Text

structure OtlpSpan where
  attributes : List OtlpKeyValue
  droppedAttributesCount : Number
  droppedEventsCount : Number
  droppedLinksCount : Number
  endTimeUnixNano : Text
  events : List OtlpSpanEvent
  flags : Number
  kind : Number
  links : List OtlpSpanLink
  name : Text
  parentSpanId : List UInt8
  spanId : List UInt8
  startTimeUnixNano : Text
  status : Option OtlpSpanStatus
  traceId : List UInt8
  traceState : Text

structure OtlpScopeSpans where
  schemaUrl : Text
  scope : Option OtlpInstrumentationScope
  spans : List OtlpSpan

structure OtlpResourceSpans where
  resource : Option OtlpResource
  schemaUrl : Text
  scopeSpans : List OtlpScopeSpans

structure OtlpExportTraceServiceRequest where
  resourceSpans : List OtlpResourceSpans

def maxAcceptedOtlpSpans : Nat := 100

def maxOtlpResourceSpans : Nat := 64

def maxOtlpScopeSpans : Nat := 128

def maxOtlpSpansPerRequest : Nat := 1024

def maxOtlpAttributes : Nat := 128

def maxOtlpEventAttributes : Nat := 64

def maxOtlpEvents : Nat := 128

def maxOtlpLinkAttributes : Nat := 64

def maxOtlpLinks : Nat := 128

def maxOtlpAnyValueDepth : Nat := 10

def maxOtlpAnyValueItems : Nat := 128

def maxOtlpNormalizedValueNodes : Nat := 16384

def maxOtlpStringBytes : Nat := 64 * 1024

def maxOtlpBytesValueBytes : Nat := 64 * 1024

def maxOtlpRedactedFields : Nat := 128

inductive OtlpSpanRejectionReason where
  | attributeLimit
  | batchLimit
  | duplicateSpan
  | eventLimit
  | identifier
  | invalidReservedAttribute
  | invalidSpan
  | linkLimit
  | redactionLimit
  | resourceGroupLimit
  | scopeGroupLimit
  | sourceLimit
  | stringLimit
  | timestamp
  | valueLimit
  | wireSpanLimit
  deriving DecidableEq

def contentAttributeKeys : List Text :=
  [ text "gen_ai.completion",
    text "gen_ai.input.messages",
    text "gen_ai.output.messages",
    text "gen_ai.prompt",
    text "gen_ai.system_instructions",
    text "gen_ai.tool.call.arguments",
    text "gen_ai.tool.call.result" ]

abbrev Normalizing (α : Type) := EStateM OtlpSpanRejectionReason Int α

def reject {α : Type} (reason : OtlpSpanRejectionReason) : Normalizing α :=
  throw reason

def rejectIf (condition : Prop) [Decidable condition] (reason : OtlpSpanRejectionReason)
    : Normalizing Unit :=
  if condition then reject reason else pure ()

def boundedString (value : Text) (maximumCharacters : Nat) (reason : OtlpSpanRejectionReason)
    (allowEmpty : Bool) : Normalizing Text := do
  rejectIf ((¬allowEmpty ∧ value.length = 0) ∨ value.length > maximumCharacters
    ∨ utf8ByteLength value > maxOtlpStringBytes ∨ ¬validUnicode value) reason
  return value

def normalizedInteger (value : OtlpInteger) : Normalizing Value :=
  let parsed := match value with
    | .number value => value.integer
    | .text value => bigIntOfText value
  match parsed with
  | none => reject .valueLimit
  | some parsed =>
    if isSafeInteger parsed then return .number (.finite parsed)
    else return .string (decimalInt parsed)

def normalizedDouble : OtlpDouble → Value
  | .text value => .string value
  | .number .nan => .string (text "NaN")
  | .number (.infinity false) => .string (text "Infinity")
  | .number (.infinity true) => .string (text "-Infinity")
  | .number value => .number value

def OtlpAnyValue.members (value : OtlpAnyValue) : Nat :=
  [ value.arrayValue.isSome, value.boolValue.isSome, value.bytesValue.isSome, value.doubleValue.isSome,
    value.intValue.isSome, value.kvlistValue.isSome, value.stringValue.isSome ].count true

def spendNode : Normalizing Unit := do
  modify (· - 1)
  let remaining ← get
  rejectIf (remaining < 0) .valueLimit

def normalizeEntry (normalizeItem : Option OtlpAnyValue → Normalizing Value) (normalized : Object)
    (entry : OtlpKeyValue) : Normalizing Object := do
  let key ← boundedString entry.1 128 .valueLimit false
  rejectIf (normalized.hasOwn key) .valueLimit
  let value ← normalizeItem entry.2
  return normalized.set key value

def normalizeMember (normalizeItem : Option OtlpAnyValue → Normalizing Value) (value : OtlpAnyValue)
    : Normalizing Value :=
  match value.stringValue, value.boolValue, value.intValue, value.doubleValue, value.bytesValue,
      value.arrayValue, value.kvlistValue with
  | some stringValue, _, _, _, _, _, _ => do
    return .string (← boundedString stringValue maxOtlpStringBytes .stringLimit true)
  | none, some boolValue, _, _, _, _, _ => return .bool boolValue
  | none, none, some intValue, _, _, _, _ => normalizedInteger intValue
  | none, none, none, some doubleValue, _, _, _ => return normalizedDouble doubleValue
  | none, none, none, none, some bytesValue, _, _ => do
    rejectIf (bytesValue.length > maxOtlpBytesValueBytes) .valueLimit
    return .string (base64Text bytesValue)
  | none, none, none, none, none, some values, _ => do
    rejectIf (values.length > maxOtlpAnyValueItems) .valueLimit
    return .array (← values.mapM (fun item => normalizeItem (some item)))
  | none, none, none, none, none, none, some entries => do
    rejectIf (entries.length > maxOtlpAnyValueItems) .valueLimit
    return (← entries.foldlM (normalizeEntry normalizeItem) Object.empty).toValue
  | none, none, none, none, none, none, none => return .null

def normalizeAnyValue : Nat → Option OtlpAnyValue → Normalizing Value
  | 0, value => do
    spendNode
    match value with
    | none => return .null
    | some _ => reject .valueLimit
  | levels + 1, value => do
    spendNode
    match value with
    | none => return .null
    | some value => do
      rejectIf (value.members > 1) .valueLimit
      normalizeMember (normalizeAnyValue levels) value

structure AttributeContext where
  attributes : Object
  redactedFields : List Text

def normalizeKeyValue (path : Text) (context : AttributeContext) (entry : OtlpKeyValue)
    : Normalizing AttributeContext := do
  let key ← boundedString entry.1 128 .attributeLimit false
  rejectIf (context.attributes.hasOwn key) .attributeLimit
  if key ∈ contentAttributeKeys then
    rejectIf (context.redactedFields.length + 1 > maxOtlpRedactedFields) .redactionLimit
    return { context with redactedFields := context.redactedFields ++ [path ++ text "." ++ key] }
  else
    let value ← normalizeAnyValue (maxOtlpAnyValueDepth + 1) entry.2
    return { context with attributes := context.attributes.set key value }

def normalizeKeyValues (values : List OtlpKeyValue) (path : Text) (maximum : Nat)
    (inheritedRedactions : List Text) : Normalizing AttributeContext := do
  rejectIf (values.length > maximum)
    (if maximum = maxOtlpAttributes then .attributeLimit else .valueLimit)
  values.foldlM (normalizeKeyValue path) ⟨Object.empty, inheritedRedactions⟩

end Otlp
end ProofStack
