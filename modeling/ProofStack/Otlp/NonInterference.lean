import ProofStack.Otlp.NormalizeRuns

/-!
This module contains the proof that no value of a content attribute has any influence on the result, and
that every content attribute is named in the record that it was removed from.
-/

namespace ProofStack
namespace Otlp

open Host StateMachine

def eraseEntry (entry : OtlpKeyValue) : OtlpKeyValue :=
  if isContent entry then (entry.1, none) else entry

def eraseEntries (entries : List OtlpKeyValue) : List OtlpKeyValue :=
  entries.map eraseEntry

def OtlpSpanEvent.eraseContent (event : OtlpSpanEvent) : OtlpSpanEvent :=
  { event with attributes := eraseEntries event.attributes }

def OtlpSpanLink.eraseContent (link : OtlpSpanLink) : OtlpSpanLink :=
  { link with attributes := eraseEntries link.attributes }

def OtlpSpan.eraseContent (span : OtlpSpan) : OtlpSpan :=
  { span with
    attributes := eraseEntries span.attributes
    events := span.events.map OtlpSpanEvent.eraseContent
    links := span.links.map OtlpSpanLink.eraseContent }

def OtlpResource.eraseContent (resource : OtlpResource) : OtlpResource :=
  { resource with attributes := eraseEntries resource.attributes }

def OtlpInstrumentationScope.eraseContent (scope : OtlpInstrumentationScope) : OtlpInstrumentationScope :=
  { scope with attributes := eraseEntries scope.attributes }

def OtlpScopeSpans.eraseContent (scopeSpans : OtlpScopeSpans) : OtlpScopeSpans :=
  { scopeSpans with
    scope := scopeSpans.scope.map OtlpInstrumentationScope.eraseContent
    spans := scopeSpans.spans.map OtlpSpan.eraseContent }

def OtlpResourceSpans.eraseContent (resourceSpans : OtlpResourceSpans) : OtlpResourceSpans :=
  { resourceSpans with
    resource := resourceSpans.resource.map OtlpResource.eraseContent
    scopeSpans := resourceSpans.scopeSpans.map OtlpScopeSpans.eraseContent }

def OtlpExportTraceServiceRequest.eraseContent (request : OtlpExportTraceServiceRequest)
    : OtlpExportTraceServiceRequest :=
  { request with resourceSpans := request.resourceSpans.map OtlpResourceSpans.eraseContent }

def DifferInContent (request request' : OtlpExportTraceServiceRequest) : Prop :=
  request.eraseContent = request'.eraseContent

theorem boundedString_bind {α : Type} (value : Text) (maximumCharacters : Nat)
    (reason : OtlpSpanRejectionReason) (allowEmpty : Bool) (continuation : Text → Normalizing α)
    : boundedString value maximumCharacters reason allowEmpty >>= continuation
        = (boundedString value maximumCharacters reason allowEmpty >>= fun _ => continuation value) := by
  simp only [boundedString, bind_assoc, pure_bind]

theorem normalizeKeyValue_of_content (path : Text) (context : AttributeContext) {entry : OtlpKeyValue}
    (h : entry.1 ∈ contentAttributeKeys)
    : normalizeKeyValue path context entry = (do
        let _ ← boundedString entry.1 128 .attributeLimit false
        rejectIf (context.attributes.hasOwn entry.1) .attributeLimit
        rejectIf (context.redactedFields.length + 1 > maxOtlpRedactedFields) .redactionLimit
        return { context with redactedFields := context.redactedFields ++ [redactedField path entry] }) := by
  unfold normalizeKeyValue
  rw [boundedString_bind]
  simp only [if_pos h]
  rfl

theorem normalizeKeyValue_eraseEntry (path : Text) (context : AttributeContext) (entry : OtlpKeyValue)
    : normalizeKeyValue path context (eraseEntry entry) = normalizeKeyValue path context entry := by
  unfold eraseEntry
  split
  . next hcontent =>
    have hkey : entry.1 ∈ contentAttributeKeys := of_decide_eq_true hcontent
    rw [normalizeKeyValue_of_content path context hkey]
    exact normalizeKeyValue_of_content path context hkey
  . rfl

theorem normalizeKeyValues_eraseEntries (values : List OtlpKeyValue) (path : Text) (maximum : Nat)
    (inherited : List Text)
    : normalizeKeyValues (eraseEntries values) path maximum inherited
        = normalizeKeyValues values path maximum inherited := by
  unfold normalizeKeyValues eraseEntries
  rw [List.length_map, List.foldlM_map]
  simp only [normalizeKeyValue_eraseEntry]

theorem normalizeEvents_eraseContent (span : OtlpSpan) (inherited : List Text)
    : normalizeEvents span.eraseContent inherited = normalizeEvents span inherited := by
  have hevent : ∀ state event, normalizeEvent state (Prod.map OtlpSpanEvent.eraseContent id event)
      = normalizeEvent state event := by
    intro state event
    unfold normalizeEvent
    simp only [Prod.map_fst, Prod.map_snd, id_eq, OtlpSpanEvent.eraseContent, normalizeKeyValues_eraseEntries]
  have hlength : span.eraseContent.events.length = span.events.length := List.length_map _
  unfold normalizeEvents
  rw [hlength]
  simp only [OtlpSpan.eraseContent, List.zipIdx_map, List.foldlM_map, hevent]

theorem normalizeLinks_eraseContent (span : OtlpSpan) (inherited : List Text)
    : normalizeLinks span.eraseContent inherited = normalizeLinks span inherited := by
  have hlink : ∀ state link, normalizeLink state (Prod.map OtlpSpanLink.eraseContent id link)
      = normalizeLink state link := by
    intro state link
    unfold normalizeLink
    simp only [Prod.map_fst, Prod.map_snd, id_eq, OtlpSpanLink.eraseContent, normalizeKeyValues_eraseEntries]
  have hlength : span.eraseContent.links.length = span.links.length := List.length_map _
  unfold normalizeLinks
  rw [hlength]
  simp only [OtlpSpan.eraseContent, List.zipIdx_map, List.foldlM_map, hlink]

theorem resourceExtension_eraseContent (resourceSpans : OtlpResourceSpans) (context : AttributeContext)
    : resourceExtension resourceSpans.eraseContent context = resourceExtension resourceSpans context := by
  unfold resourceExtension OtlpResourceSpans.eraseContent
  cases resourceSpans.resource <;> rfl

theorem scopeExtension_eraseContent (scopeSpans : OtlpScopeSpans) (context : AttributeContext)
    : scopeExtension scopeSpans.eraseContent context = scopeExtension scopeSpans context := by
  unfold scopeExtension OtlpScopeSpans.eraseContent
  cases scopeSpans.scope <;> rfl

theorem source_eraseContent (resourceAttributes : Object) (scopeSpans : OtlpScopeSpans)
    (spanAttributes : Object)
    : source resourceAttributes scopeSpans.eraseContent.scope spanAttributes
        = source resourceAttributes scopeSpans.scope spanAttributes := by
  unfold source OtlpScopeSpans.eraseContent
  cases scopeSpans.scope <;> rfl

theorem normalizeSpan_eraseContent (sha256 : Text → Text) (accepts : EvidenceCandidate → Bool)
    (span : OtlpSpan) (resourceSpans : OtlpResourceSpans) (scopeSpans : OtlpScopeSpans)
    (resourceContext scopeContext : AttributeContext)
    : normalizeSpan sha256 accepts span.eraseContent resourceSpans.eraseContent scopeSpans.eraseContent
          resourceContext scopeContext
        = normalizeSpan sha256 accepts span resourceSpans scopeSpans resourceContext scopeContext := by
  unfold normalizeSpan
  simp only [normalizeEvents_eraseContent, normalizeLinks_eraseContent, resourceExtension_eraseContent,
    scopeExtension_eraseContent, source_eraseContent]
  simp only [OtlpSpan.eraseContent, normalizeKeyValues_eraseEntries]
  rfl

theorem contextForResource_eraseContent (resource : Option OtlpResource)
    : contextForResource (resource.map OtlpResource.eraseContent) = contextForResource resource := by
  cases resource with
  | none => rfl
  | some resource => exact normalizeKeyValues_eraseEntries _ _ _ _

theorem contextForScope_eraseContent (scope : Option OtlpInstrumentationScope)
    : contextForScope (scope.map OtlpInstrumentationScope.eraseContent) = contextForScope scope := by
  cases scope with
  | none => rfl
  | some scope => exact normalizeKeyValues_eraseEntries _ _ _ _

section Request

variable (sha256 : Text → Text) (accepts : EvidenceCandidate → Bool)

theorem visitSpan_eraseContent (group : SpanGroup) (progress : Progress) (span : OtlpSpan)
    : visitSpan sha256 accepts { group with
          resourceSpans := group.resourceSpans.eraseContent
          scopeSpans := group.scopeSpans.eraseContent } progress span.eraseContent
        = visitSpan sha256 accepts group progress span := by
  unfold visitSpan
  simp only [normalizeSpan_eraseContent]

theorem visitScopeSpans_eraseContent (resourceSpans : OtlpResourceSpans) (resourceIndex : Nat)
    (resourceContext : Except OtlpSpanRejectionReason AttributeContext) (progress : Progress)
    (scopeSpans : OtlpScopeSpans)
    : visitScopeSpans sha256 accepts resourceSpans.eraseContent resourceIndex resourceContext progress
          scopeSpans.eraseContent
        = visitScopeSpans sha256 accepts resourceSpans resourceIndex resourceContext progress
          scopeSpans := by
  have hspans : ∀ scopeContext start,
      scopeSpans.eraseContent.spans.foldl (visitSpan sha256 accepts ⟨resourceSpans.eraseContent,
          resourceIndex, resourceContext, scopeSpans.eraseContent, progress.scopeGroupCount, scopeContext⟩)
        start
      = scopeSpans.spans.foldl (visitSpan sha256 accepts ⟨resourceSpans, resourceIndex, resourceContext,
          scopeSpans, progress.scopeGroupCount, scopeContext⟩) start := by
    intro scopeContext start
    have herased : scopeSpans.eraseContent.spans = scopeSpans.spans.map OtlpSpan.eraseContent := rfl
    have hvisit := visitSpan_eraseContent sha256 accepts ⟨resourceSpans, resourceIndex, resourceContext,
      scopeSpans, progress.scopeGroupCount, scopeContext⟩
    rw [herased, List.foldl_map]
    simp only [hvisit]
  have hscope : contextForScope scopeSpans.eraseContent.scope = contextForScope scopeSpans.scope :=
    contextForScope_eraseContent scopeSpans.scope
  unfold visitScopeSpans
  rw [hscope]
  dsimp only
  rw [hspans]

theorem visitResourceSpans_eraseContent (progress : Progress) (resourceSpans : OtlpResourceSpans × Nat)
    : visitResourceSpans sha256 accepts progress (resourceSpans.1.eraseContent, resourceSpans.2)
        = visitResourceSpans sha256 accepts progress resourceSpans := by
  have hresource : contextForResource resourceSpans.1.eraseContent.resource
      = contextForResource resourceSpans.1.resource :=
    contextForResource_eraseContent resourceSpans.1.resource
  have herased : resourceSpans.1.eraseContent.scopeSpans
      = resourceSpans.1.scopeSpans.map OtlpScopeSpans.eraseContent := rfl
  unfold visitResourceSpans
  rw [hresource, herased, List.foldl_map]
  simp only [visitScopeSpans_eraseContent]

theorem normalizeOtlpTraceRequest_eraseContent (request : OtlpExportTraceServiceRequest)
    : normalizeOtlpTraceRequest sha256 accepts request.eraseContent
        = normalizeOtlpTraceRequest sha256 accepts request := by
  have hvisit : ∀ progress resourceSpans,
      visitResourceSpans sha256 accepts progress (Prod.map OtlpResourceSpans.eraseContent id resourceSpans)
        = visitResourceSpans sha256 accepts progress resourceSpans :=
    visitResourceSpans_eraseContent sha256 accepts
  unfold normalizeOtlpTraceRequest
  simp only [OtlpExportTraceServiceRequest.eraseContent, List.zipIdx_map, List.foldl_map, hvisit]

end Request

/-- The names of the content attributes of a span, of its events and links, and of its resource and scope. -/
def removedFields (input : SpanInput) : List Text :=
  contentFields resourcePath ((input.resourceSpans.resource.map (·.attributes)).getD [])
    ++ contentFields scopePath ((input.scopeSpans.scope.map (·.attributes)).getD [])
    ++ contentFields spanPath input.span.attributes
    ++ eventFields input.span.events.zipIdx
    ++ linkFields input.span.links.zipIdx

theorem ResourceContext.redactedFields {resource : Option OtlpResource} {context : AttributeContext}
    (h : ResourceContext resource context)
    : context.redactedFields = contentFields resourcePath ((resource.map (·.attributes)).getD []) := by
  rcases h with ⟨remaining, remaining', hrun⟩
  exact (returns_normalizeKeyValues _ _ _ _ remaining context remaining' hrun).redacted

theorem ScopeContext.redactedFields {scope : Option OtlpInstrumentationScope} {context : AttributeContext}
    (h : ScopeContext scope context)
    : context.redactedFields = contentFields scopePath ((scope.map (·.attributes)).getD []) := by
  rcases h with ⟨remaining, remaining', hrun⟩
  exact (returns_normalizeKeyValues _ _ _ _ remaining context remaining' hrun).redacted

theorem NormalizedFrom.fieldsOf_eq {sha256 : Text → Text} {accepts : EvidenceCandidate → Bool}
    {input : SpanInput} {record : EvidenceRecord} (h : NormalizedFrom sha256 accepts input record)
    : fieldsOf record.extensions = removedFields input := by
  rcases h.spanRecord with ⟨resourceContext, scopeContext, hresource, hscope, hspan⟩
  rw [hspan.redacted, hresource.redactedFields, hscope.redactedFields]
  rfl

/-- The values of content attributes make no difference, and each accepted record names what was removed. -/
theorem normalizeOtlpTraceRequest_content (sha256 : Text → Text) (accepts : EvidenceCandidate → Bool)
    (request request' : OtlpExportTraceServiceRequest) (h : DifferInContent request request')
    : normalizeOtlpTraceRequest sha256 accepts request = normalizeOtlpTraceRequest sha256 accepts request'
        ∧ ∃ accepted, accepted.Sublist (spansOf request)
          ∧ List.Forall₂ (fun input record => NormalizedFrom sha256 accepts input record
              ∧ fieldsOf record.extensions = removedFields input)
            accepted (normalizeOtlpTraceRequest sha256 accepts request).records := by
  have hvisited : Visited sha256 accepts (spansOf request) _ := Visited.request request
  rcases hvisited.accepted with ⟨accepted, hsublist, hnormalized⟩
  constructor
  . rw [← normalizeOtlpTraceRequest_eraseContent sha256 accepts request, h]
    exact normalizeOtlpTraceRequest_eraseContent sha256 accepts request'
  . refine ⟨accepted, hsublist, hnormalized.imp ?_⟩
    intro input record hrecord
    exact ⟨hrecord, hrecord.fieldsOf_eq⟩

namespace NormalizeSample

def contentRequest (content : String) : OtlpExportTraceServiceRequest :=
  sampleRequest [(text "gen_ai.operation.name", sampleText (text "chat")),
    (text "gen_ai.prompt", sampleText (text content))]

theorem normalizeOtlpTraceRequest_content_contentRequest
    : normalizeOtlpTraceRequest id (fun _ => true) (contentRequest "one")
          = normalizeOtlpTraceRequest id (fun _ => true) (contentRequest "another")
        ∧ ∃ accepted, accepted.Sublist (spansOf (contentRequest "one"))
          ∧ List.Forall₂ (fun input record => NormalizedFrom id (fun _ => true) input record
              ∧ fieldsOf record.extensions = removedFields input)
            accepted (normalizeOtlpTraceRequest id (fun _ => true) (contentRequest "one")).records :=
  normalizeOtlpTraceRequest_content id (fun _ => true) (contentRequest "one") (contentRequest "another") rfl

end NormalizeSample

end Otlp
end ProofStack
