import ProofStack.Otlp.Attributes

/-!
This module contains the normalization of trace export requests.
-/

namespace ProofStack
namespace Otlp

open Host

inductive EvidenceKind where
  | agentRun
  | agentHandoff
  | modelGenerate
  | toolExecute
  | retrievalQuery
  | memoryAccess
  | guardrailCheck
  | policyDecision
  | evaluationScore
  | artifactChange
  | custom
  deriving DecidableEq

def EvidenceKind.text : EvidenceKind → Text
  | .agentRun => Host.text "agent.run"
  | .agentHandoff => Host.text "agent.handoff"
  | .modelGenerate => Host.text "model.generate"
  | .toolExecute => Host.text "tool.execute"
  | .retrievalQuery => Host.text "retrieval.query"
  | .memoryAccess => Host.text "memory.access"
  | .guardrailCheck => Host.text "guardrail.check"
  | .policyDecision => Host.text "policy.decision"
  | .evaluationScore => Host.text "evaluation.score"
  | .artifactChange => Host.text "artifact.change"
  | .custom => Host.text "custom"

def evidenceKinds : List EvidenceKind :=
  [.agentRun, .agentHandoff, .modelGenerate, .toolExecute, .retrievalQuery, .memoryAccess, .guardrailCheck,
    .policyDecision, .evaluationScore, .artifactChange, .custom]

def operationKinds : List (Text × EvidenceKind) :=
  [ (text "chat", .modelGenerate),
    (text "create_agent", .agentRun),
    (text "embeddings", .modelGenerate),
    (text "execute_tool", .toolExecute),
    (text "generate_content", .modelGenerate),
    (text "invoke_agent", .agentRun),
    (text "invoke_workflow", .agentRun),
    (text "retrieval", .retrievalQuery),
    (text "text_completion", .modelGenerate) ]

inductive EvidenceStatus where
  | unset
  | ok
  | error
  deriving DecidableEq

structure EvidenceSource where
  frameworkName : Option Text
  frameworkVersion : Option Text
  providerName : Option Text
  sdkName : Text
  sdkVersion : Text
  serviceName : Text
  serviceVersion : Option Text

structure EvidenceCandidate where
  attributes : Object
  endedAt : Text
  eventId : Text
  extensions : List (Text × Value)
  kind : EvidenceKind
  name : Text
  parentSpanId : Option Text
  runId : Option Text
  sequence : Option Number
  sessionId : Option Text
  source : EvidenceSource
  spanId : Text
  startedAt : Text
  status : EvidenceStatus
  traceId : Text

structure EvidenceRecord where
  attributes : List (Text × Value)
  endedAt : Text
  eventId : Text
  extensions : List (Text × Value)
  kind : EvidenceKind
  name : Text
  parentSpanId : Option Text
  runId : Option Text
  sequence : Option Number
  sessionId : Option Text
  source : EvidenceSource
  spanId : Text
  startedAt : Text
  status : EvidenceStatus
  traceId : Text

mutual

/-- The schema returns a copy, with the properties that an object has itself but for the key of the
setter. -/
def copy : Value → Value
  | .array items => .array (copyItems items)
  | .object own _ => .object (copyMembers own) .objectPrototype
  | .null => .null
  | .bool value => .bool value
  | .number value => .number value
  | .string value => .string value
  | .objectPrototype => .objectPrototype

def copyItems : List Value → List Value
  | [] => []
  | item :: items => copy item :: copyItems items

def copyMembers : List (Text × Value) → List (Text × Value)
  | [] => []
  | member :: members =>
    if member.1 = protoKey then copyMembers members
    else (member.1, copy member.2) :: copyMembers members

end

def safeParse (accepts : EvidenceCandidate → Bool) (candidate : EvidenceCandidate)
    : Option EvidenceRecord :=
  if accepts candidate then
    some {
      attributes := copyMembers candidate.attributes.own
      endedAt := candidate.endedAt
      eventId := candidate.eventId
      extensions := copyMembers candidate.extensions
      kind := candidate.kind
      name := candidate.name
      parentSpanId := candidate.parentSpanId
      runId := candidate.runId
      sequence := candidate.sequence
      sessionId := candidate.sessionId
      source := candidate.source
      spanId := candidate.spanId
      startedAt := candidate.startedAt
      status := candidate.status
      traceId := candidate.traceId
    }
  else
    none

def isZero (bytes : List UInt8) : Bool :=
  bytes.all (· = 0)

def hexIdentifier (bytes : List UInt8) (length : Nat) : Normalizing Text := do
  rejectIf (bytes.length ≠ length ∨ isZero bytes) .identifier
  return hexText bytes

def optionalHexIdentifier (bytes : List UInt8) (length : Nat) : Normalizing (Option Text) :=
  if bytes.length = 0 then pure none
  else some <$> hexIdentifier bytes length

def maxDateMilliseconds : Int := 253402300799999

def nanosecondsPerMillisecond : Int := 1000000

def timestamp (nanoseconds : Text) : Normalizing Text :=
  match bigIntOfText nanoseconds with
  | none => reject .timestamp
  | some value => do
    rejectIf (value ≤ 0 ∨ value / nanosecondsPerMillisecond > maxDateMilliseconds) .timestamp
    return isoText (value / nanosecondsPerMillisecond).toNat

def optionalAttributeString (attributes : Object) (key : Text) (maximum : Nat) (reserved : Bool)
    : Normalizing (Option Text) :=
  match attributes.get key with
  | none => return none
  | some (.string value) => do
    let normalized ← boundedString value maximum
      (if reserved then .invalidReservedAttribute else .sourceLimit) true
    rejectIf (reserved ∧ normalized.length = 0) .invalidReservedAttribute
    return some normalized
  | some _ => if reserved then reject .invalidReservedAttribute else return none

def nonEmpty (value : Option Text) : Option Text :=
  value.filter (· ≠ [])

def boundedOptionalString (value : Option Text) (maximum : Nat) : Normalizing (Option Text) :=
  match nonEmpty value with
  | none => return none
  | some value => return some (← boundedString value maximum .sourceLimit true)

def source (resourceAttributes : Object) (scope : Option OtlpInstrumentationScope)
    (spanAttributes : Object) : Normalizing EvidenceSource := do
  let serviceName ← optionalAttributeString resourceAttributes (text "service.name") 128 false
  let serviceVersion ← optionalAttributeString resourceAttributes (text "service.version") 128 false
  let resourceSdkName ← optionalAttributeString resourceAttributes (text "telemetry.sdk.name") 128 false
  let resourceSdkVersion ←
    optionalAttributeString resourceAttributes (text "telemetry.sdk.version") 64 false
  let scopeName ← boundedOptionalString (scope.map (·.name)) 128
  let scopeVersion ← boundedOptionalString (scope.map (·.version)) 64
  let frameworkName ← optionalAttributeString spanAttributes (text "proofstack.framework.name") 128 true
  let frameworkVersion ←
    optionalAttributeString spanAttributes (text "proofstack.framework.version") 64 true
  let providerName ← optionalAttributeString spanAttributes (text "gen_ai.provider.name") 128 false
  return {
    frameworkName := nonEmpty frameworkName
    frameworkVersion := nonEmpty frameworkVersion
    providerName := nonEmpty providerName
    sdkName := ((nonEmpty scopeName).or (nonEmpty resourceSdkName)).getD (text "opentelemetry")
    sdkVersion := ((nonEmpty scopeVersion).or (nonEmpty resourceSdkVersion)).getD (text "unknown")
    serviceName := (nonEmpty serviceName).getD (text "unknown_service")
    serviceVersion := nonEmpty serviceVersion
  }

def isOpaqueId (value : Text) : Bool :=
  match value with
  | [] => false
  | unit :: units =>
    isBetween 'a' 'z' unit
      && units.all (fun unit => isBetween 'a' 'z' unit || isBetween '0' '9' unit || unit == unitOf '_')
      && 2 ≤ units.length && units.length ≤ 63

def reservedOpaqueId (attributes : Object) (key : Text) : Normalizing (Option Text) :=
  match attributes.get key with
  | none => return none
  | some (.string value) => do
    rejectIf (¬isOpaqueId value) .invalidReservedAttribute
    return some value
  | some _ => reject .invalidReservedAttribute

def sequence (attributes : Object) : Normalizing (Option Number) :=
  match attributes.get (text "proofstack.sequence") with
  | none => return none
  | some (.number value) =>
    match value.integer with
    | none => reject .invalidReservedAttribute
    | some integer => do
      rejectIf (¬isSafeInteger integer ∨ integer < 0) .invalidReservedAttribute
      return some value
  | some _ => reject .invalidReservedAttribute

def evidenceKind (attributes : Object) : Normalizing EvidenceKind :=
  match attributes.get (text "proofstack.evidence.kind") with
  | some (.string explicit) =>
    match evidenceKinds.find? (fun kind => kind.text = explicit) with
    | some kind => return kind
    | none => reject .invalidReservedAttribute
  | some _ => reject .invalidReservedAttribute
  | none =>
    match attributes.get (text "gen_ai.operation.name") with
    | some (.string operation) => return (operationKinds.lookup operation).getD .custom
    | _ => return .custom

def evidenceStatus (span : OtlpSpan) : EvidenceStatus :=
  match span.status with
  | none => .unset
  | some status =>
    if status.code = .finite 1 then .ok
    else if status.code = .finite 2 then .error
    else .unset

def literal (members : List (Text × Value)) : Value :=
  .object members .objectPrototype

structure NormalizedItems where
  items : List Value
  redactedFields : List Text

def normalizeEvent (state : NormalizedItems) (event : OtlpSpanEvent × Nat)
    : Normalizing NormalizedItems := do
  let normalized ← normalizeKeyValues event.1.attributes
    (text "events." ++ decimal event.2 ++ text ".attributes") maxOtlpEventAttributes state.redactedFields
  let name ← boundedString event.1.name 256 .eventLimit false
  let timeUnixNano ← timestamp event.1.timeUnixNano
  return {
    items := state.items ++ [literal [
      (text "attributes", normalized.attributes.toValue),
      (text "droppedAttributesCount", .number event.1.droppedAttributesCount),
      (text "name", .string name),
      (text "timeUnixNano", .string timeUnixNano),
      (text "timeUnixNanoExact", .string event.1.timeUnixNano)]]
    redactedFields := normalized.redactedFields
  }

def normalizeEvents (span : OtlpSpan) (inheritedRedactions : List Text)
    : Normalizing NormalizedItems := do
  rejectIf (span.events.length > maxOtlpEvents) .eventLimit
  span.events.zipIdx.foldlM normalizeEvent ⟨[], inheritedRedactions⟩

def normalizeLink (state : NormalizedItems) (link : OtlpSpanLink × Nat)
    : Normalizing NormalizedItems := do
  let normalized ← normalizeKeyValues link.1.attributes
    (text "links." ++ decimal link.2 ++ text ".attributes") maxOtlpLinkAttributes state.redactedFields
  let spanId ← hexIdentifier link.1.spanId 8
  let traceId ← hexIdentifier link.1.traceId 16
  let traceState ← boundedString link.1.traceState 512 .linkLimit true
  return {
    items := state.items ++ [literal [
      (text "attributes", normalized.attributes.toValue),
      (text "droppedAttributesCount", .number link.1.droppedAttributesCount),
      (text "flags", .number link.1.flags),
      (text "spanId", .string spanId),
      (text "traceId", .string traceId),
      (text "traceState", .string traceState)]]
    redactedFields := normalized.redactedFields
  }

def normalizeLinks (span : OtlpSpan) (inheritedRedactions : List Text)
    : Normalizing NormalizedItems := do
  rejectIf (span.links.length > maxOtlpLinks) .linkLimit
  span.links.zipIdx.foldlM normalizeLink ⟨[], inheritedRedactions⟩

def resourceExtension (resourceSpans : OtlpResourceSpans) (resourceContext : AttributeContext)
    : Normalizing Value := do
  let schemaUrl ← boundedString resourceSpans.schemaUrl 2048 .stringLimit true
  return literal [
    (text "attributes", resourceContext.attributes.toValue),
    (text "droppedAttributesCount",
      .number ((resourceSpans.resource.map (·.droppedAttributesCount)).getD (.finite 0))),
    (text "present", .bool resourceSpans.resource.isSome),
    (text "schemaUrl", .string schemaUrl)]

def scopeExtension (scopeSpans : OtlpScopeSpans) (scopeContext : AttributeContext)
    : Normalizing Value := do
  let name ← boundedString ((scopeSpans.scope.map (·.name)).getD []) 128 .sourceLimit true
  let schemaUrl ← boundedString scopeSpans.schemaUrl 2048 .stringLimit true
  let version ← boundedString ((scopeSpans.scope.map (·.version)).getD []) 64 .sourceLimit true
  return literal [
    (text "attributes", scopeContext.attributes.toValue),
    (text "droppedAttributesCount",
      .number ((scopeSpans.scope.map (·.droppedAttributesCount)).getD (.finite 0))),
    (text "name", .string name),
    (text "present", .bool scopeSpans.scope.isSome),
    (text "schemaUrl", .string schemaUrl),
    (text "version", .string version)]

def spanExtension (span : OtlpSpan) : Normalizing Value := do
  let statusMessage ← boundedString ((span.status.map (·.message)).getD []) 2048 .stringLimit true
  let traceState ← boundedString span.traceState 512 .stringLimit true
  return literal [
    (text "droppedAttributesCount", .number span.droppedAttributesCount),
    (text "droppedEventsCount", .number span.droppedEventsCount),
    (text "droppedLinksCount", .number span.droppedLinksCount),
    (text "endTimeUnixNano", .string span.endTimeUnixNano),
    (text "flags", .number span.flags),
    (text "kind", .number span.kind),
    (text "startTimeUnixNano", .string span.startTimeUnixNano),
    (text "statusMessage", .string statusMessage),
    (text "statusPresent", .bool span.status.isSome),
    (text "traceState", .string traceState)]

def itemsExtension (key : Text) (items : List Value) : List (Text × Value) :=
  if items.length > 0 then [(key, literal [(text "items", .array items)])] else []

def redactionExtension (redactedFields : List Text) : List (Text × Value) :=
  if redactedFields.length > 0 then
    [(text "proofstack.redaction", literal [
      (text "fields", .array (redactedFields.map .string)),
      (text "ruleset", .string (text "otlp-known-content-v1")),
      (text "stage", .string (text "ingest"))])]
  else
    []

section Span

variable (sha256 : Text → Text) (accepts : EvidenceCandidate → Bool)

def eventId (traceId spanId : Text) : Text :=
  text "evt_" ++ (sha256 (traceId ++ text ":" ++ spanId)).take 32

def normalizeSpan (span : OtlpSpan) (resourceSpans : OtlpResourceSpans) (scopeSpans : OtlpScopeSpans)
    (resourceContext scopeContext : AttributeContext) : Normalizing EvidenceRecord := do
  let traceId ← hexIdentifier span.traceId 16
  let spanId ← hexIdentifier span.spanId 8
  let parentSpanId ← optionalHexIdentifier span.parentSpanId 8
  rejectIf (parentSpanId = some spanId) .identifier
  let startedAt ← timestamp span.startTimeUnixNano
  let endedAt ← timestamp span.endTimeUnixNano
  rejectIf ((bigIntOfText span.endTimeUnixNano).getD 0 < (bigIntOfText span.startTimeUnixNano).getD 0)
    .timestamp
  let spanContext ← normalizeKeyValues span.attributes (text "span.attributes") maxOtlpAttributes
    (resourceContext.redactedFields ++ scopeContext.redactedFields)
  let events ← normalizeEvents span spanContext.redactedFields
  let links ← normalizeLinks span events.redactedFields
  let resourceMembers ← resourceExtension resourceSpans resourceContext
  let scopeMembers ← scopeExtension scopeSpans scopeContext
  let spanMembers ← spanExtension span
  let runId ← reservedOpaqueId spanContext.attributes (text "proofstack.run.id")
  let sequenceNumber ← sequence spanContext.attributes
  let sessionId ← reservedOpaqueId spanContext.attributes (text "proofstack.session.id")
  let kind ← evidenceKind spanContext.attributes
  let name ← boundedString span.name 256 .stringLimit false
  let spanSource ← source resourceContext.attributes scopeSpans.scope spanContext.attributes
  let candidate := safeParse accepts {
    attributes := spanContext.attributes
    endedAt := endedAt
    eventId := eventId sha256 traceId spanId
    extensions :=
      [ (text "opentelemetry.resource", resourceMembers),
        (text "opentelemetry.scope", scopeMembers),
        (text "opentelemetry.span", spanMembers) ]
      ++ itemsExtension (text "opentelemetry.events") events.items
      ++ itemsExtension (text "opentelemetry.links") links.items
      ++ redactionExtension links.redactedFields
    kind := kind
    name := name
    parentSpanId := parentSpanId
    runId := runId
    sequence := sequenceNumber
    sessionId := sessionId
    source := spanSource
    spanId := spanId
    startedAt := startedAt
    status := evidenceStatus span
    traceId := traceId
  }
  match candidate with
  | some record => return record
  | none => reject .invalidSpan

end Span

def contextForResource (resource : Option OtlpResource) : Normalizing AttributeContext :=
  normalizeKeyValues ((resource.map (·.attributes)).getD []) (text "resource.attributes") maxOtlpAttributes []

def contextForScope (scope : Option OtlpInstrumentationScope) : Normalizing AttributeContext :=
  normalizeKeyValues ((scope.map (·.attributes)).getD []) (text "scope.attributes") maxOtlpAttributes []

structure Progress where
  records : List EvidenceRecord
  rejected : List (OtlpSpanRejectionReason × Nat)
  eventIds : List Text
  remaining : Int
  scopeGroupCount : Nat
  totalSpans : Nat

def countRejection (reason : OtlpSpanRejectionReason)
    : List (OtlpSpanRejectionReason × Nat) → List (OtlpSpanRejectionReason × Nat)
  | [] => [(reason, 1)]
  | entry :: entries =>
    if entry.1 = reason then (entry.1, entry.2 + 1) :: entries
    else entry :: countRejection reason entries

def Progress.recordRejection (progress : Progress) (reason : OtlpSpanRejectionReason) : Progress :=
  { progress with rejected := countRejection reason progress.rejected }

/-- What the computation throws is kept as a value; what it has spent is spent. -/
def attempt {α : Type} (computation : Normalizing α) (remaining : Int)
    : Except OtlpSpanRejectionReason α × Int :=
  match computation remaining with
  | .ok a remaining' => (.ok a, remaining')
  | .error reason remaining' => (.error reason, remaining')

section Request

variable (sha256 : Text → Text) (accepts : EvidenceCandidate → Bool)

def acceptSpan (progress : Progress) (normalized : EvidenceRecord) : Progress :=
  if normalized.eventId ∈ progress.eventIds then progress.recordRejection .duplicateSpan
  else { progress with
    eventIds := progress.eventIds ++ [normalized.eventId]
    records := progress.records ++ [normalized] }

structure SpanGroup where
  resourceSpans : OtlpResourceSpans
  resourceIndex : Nat
  resourceContext : Except OtlpSpanRejectionReason AttributeContext
  scopeSpans : OtlpScopeSpans
  scopeIndex : Nat
  scopeContext : Except OtlpSpanRejectionReason AttributeContext

def visitSpan (group : SpanGroup) (before : Progress) (span : OtlpSpan) : Progress :=
  let progress := { before with totalSpans := before.totalSpans + 1 }
  if group.resourceIndex ≥ maxOtlpResourceSpans then progress.recordRejection .resourceGroupLimit
  else if group.scopeIndex ≥ maxOtlpScopeSpans then progress.recordRejection .scopeGroupLimit
  else if progress.totalSpans > maxOtlpSpansPerRequest then progress.recordRejection .wireSpanLimit
  else
    match group.resourceContext, group.scopeContext with
    | .error reason, _ => progress.recordRejection reason
    | .ok _, .error reason => progress.recordRejection reason
    | .ok resourceContext, .ok scopeContext =>
      if progress.records.length ≥ maxAcceptedOtlpSpans then progress.recordRejection .batchLimit
      else
        match attempt (normalizeSpan sha256 accepts span group.resourceSpans group.scopeSpans resourceContext
            scopeContext) progress.remaining with
        | (.ok normalized, remaining) => acceptSpan { progress with remaining := remaining } normalized
        | (.error reason, remaining) =>
          Progress.recordRejection { progress with remaining := remaining } reason

def visitScopeSpans (resourceSpans : OtlpResourceSpans) (resourceIndex : Nat)
    (resourceContext : Except OtlpSpanRejectionReason AttributeContext) (progress : Progress)
    (scopeSpans : OtlpScopeSpans) : Progress :=
  let attempted : Except OtlpSpanRejectionReason AttributeContext × Int :=
    match resourceContext with
    | .error reason => (.error reason, progress.remaining)
    | .ok _ => attempt (contextForScope scopeSpans.scope) progress.remaining
  scopeSpans.spans.foldl
    (visitSpan sha256 accepts ⟨resourceSpans, resourceIndex, resourceContext, scopeSpans,
      progress.scopeGroupCount, attempted.1⟩)
    { progress with scopeGroupCount := progress.scopeGroupCount + 1, remaining := attempted.2 }

def visitResourceSpans (progress : Progress) (resourceSpans : OtlpResourceSpans × Nat) : Progress :=
  let attempted := attempt (contextForResource resourceSpans.1.resource) progress.remaining
  resourceSpans.1.scopeSpans.foldl
    (visitScopeSpans sha256 accepts resourceSpans.1 resourceSpans.2 attempted.1)
    { progress with remaining := attempted.2 }

structure OtlpTraceNormalizationResult where
  acceptedSpans : Nat
  errorMessage : Option Text
  records : List EvidenceRecord
  rejectedSpans : Nat
  rejectionCounts : List (OtlpSpanRejectionReason × Nat)
  schemaVersion : Text
  totalSpans : Nat

def reasonText : OtlpSpanRejectionReason → Text
  | .attributeLimit => text "attribute limits exceeded"
  | .batchLimit => text "canonical batch limit exceeded"
  | .duplicateSpan => text "duplicate trace and span identity"
  | .eventLimit => text "event limits exceeded"
  | .identifier => text "invalid trace or span identifier"
  | .invalidReservedAttribute => text "invalid reserved ProofStack attribute"
  | .invalidSpan => text "canonical evidence validation failed"
  | .linkLimit => text "link limits exceeded"
  | .redactionLimit => text "redaction provenance limit exceeded"
  | .resourceGroupLimit => text "resource group limit exceeded"
  | .scopeGroupLimit => text "scope group limit exceeded"
  | .sourceLimit => text "source metadata limits exceeded"
  | .stringLimit => text "string limits exceeded"
  | .timestamp => text "invalid span timestamp"
  | .valueLimit => text "attribute value limits exceeded"
  | .wireSpanLimit => text "wire span limit exceeded"

def errorMessage (rejections : List (OtlpSpanRejectionReason × Nat)) : Option Text :=
  if rejections = [] then none
  else some (text "Rejected spans: " ++ (text "; ").intercalate (rejections.map (fun rejection =>
    reasonText rejection.1 ++ text " (" ++ decimal rejection.2 ++ text ")")))

def normalizeOtlpTraceRequest (request : OtlpExportTraceServiceRequest) : OtlpTraceNormalizationResult :=
  let progress := request.resourceSpans.zipIdx.foldl (visitResourceSpans sha256 accepts)
    ⟨[], [], [], maxOtlpNormalizedValueNodes, 0, 0⟩
  { acceptedSpans := progress.records.length
    errorMessage := errorMessage progress.rejected
    records := progress.records
    rejectedSpans := (progress.rejected.map (·.2)).sum
    rejectionCounts := progress.rejected
    schemaVersion := text "0.1"
    totalSpans := progress.totalSpans }

end Request

end Otlp
end ProofStack
