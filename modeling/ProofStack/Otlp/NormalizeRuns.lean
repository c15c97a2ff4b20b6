import ProofStack.Otlp.NormalizeLemmas

/-!
This module contains the proofs about whole requests.
-/

namespace ProofStack
namespace Otlp

open Host StateMachine

structure SpanInput where
  resourceSpans : OtlpResourceSpans
  scopeSpans : OtlpScopeSpans
  span : OtlpSpan

def spansOfScope (resourceSpans : OtlpResourceSpans) (scopeSpans : OtlpScopeSpans) : List SpanInput :=
  scopeSpans.spans.map (fun span => ⟨resourceSpans, scopeSpans, span⟩)

def spansOfResource (resourceSpans : OtlpResourceSpans) : List SpanInput :=
  resourceSpans.scopeSpans.flatMap (spansOfScope resourceSpans)

def spansOf (request : OtlpExportTraceServiceRequest) : List SpanInput :=
  request.resourceSpans.flatMap spansOfResource

def ResourceContext (resource : Option OtlpResource) (context : AttributeContext) : Prop :=
  ∃ remaining remaining', contextForResource resource remaining = .ok context remaining'

def ScopeContext (scope : Option OtlpInstrumentationScope) (context : AttributeContext) : Prop :=
  ∃ remaining remaining', contextForScope scope remaining = .ok context remaining'

section Request

variable (sha256 : Text → Text) (accepts : EvidenceCandidate → Bool)

def NormalizedFrom (input : SpanInput) (record : EvidenceRecord) : Prop :=
  ∃ resourceContext scopeContext, ResourceContext input.resourceSpans.resource resourceContext
    ∧ ScopeContext input.scopeSpans.scope scopeContext
    ∧ ∃ remaining remaining', normalizeSpan sha256 accepts input.span input.resourceSpans input.scopeSpans
        resourceContext scopeContext remaining = .ok record remaining'

structure Visited (inputs : List SpanInput) (progress : Progress) : Prop where
  total : progress.totalSpans = inputs.length
  counted : progress.records.length + (progress.rejected.map (·.2)).sum = inputs.length
  eventIds : progress.eventIds = progress.records.map (·.eventId)
  nodup : progress.eventIds.Nodup
  accepted : ∃ accepted, accepted.Sublist inputs
    ∧ List.Forall₂ (NormalizedFrom sha256 accepts) accepted progress.records

structure GroupContexts (group : SpanGroup) : Prop where
  resource : ∀ context, group.resourceContext = .ok context →
    ResourceContext group.resourceSpans.resource context
  scope : ∀ context, group.scopeContext = .ok context → ScopeContext group.scopeSpans.scope context

end Request

variable {sha256 : Text → Text} {accepts : EvidenceCandidate → Bool} {inputs : List SpanInput}
variable {progress : Progress}

theorem sum_countRejection (reason : OtlpSpanRejectionReason)
    (rejected : List (OtlpSpanRejectionReason × Nat))
    : ((countRejection reason rejected).map (·.2)).sum = (rejected.map (·.2)).sum + 1 := by
  induction rejected with
  | nil => rfl
  | cons entry entries ih =>
    rw [countRejection]
    split
    . simp only [List.map_cons, List.sum_cons]
      omega
    . simp only [List.map_cons, List.sum_cons, ih]
      omega

namespace Visited

theorem reject (h : Visited sha256 accepts inputs progress) (input : SpanInput) (remaining : Int)
    (reason : OtlpSpanRejectionReason)
    : Visited sha256 accepts (inputs ++ [input]) (Progress.recordRejection
        { progress with totalSpans := progress.totalSpans + 1, remaining := remaining } reason) := by
  rcases h.accepted with ⟨accepted, hsublist, hnormalized⟩
  constructor
  . simp [Progress.recordRejection, h.total]
  . have hcounted := h.counted
    simp only [Progress.recordRejection, sum_countRejection, List.length_append, List.length_singleton]
    omega
  . exact h.eventIds
  . exact h.nodup
  . exact ⟨accepted, hsublist.trans (List.sublist_append_left _ _), hnormalized⟩

theorem accept (h : Visited sha256 accepts inputs progress) {input : SpanInput} (remaining : Int)
    {record : EvidenceRecord} (hrecord : NormalizedFrom sha256 accepts input record)
    : Visited sha256 accepts (inputs ++ [input]) (acceptSpan
        { progress with totalSpans := progress.totalSpans + 1, remaining := remaining } record) := by
  unfold acceptSpan
  split
  . exact h.reject input remaining .duplicateSpan
  . next hnew =>
    rcases h.accepted with ⟨accepted, hsublist, hnormalized⟩
    constructor
    . simp [h.total]
    . have hcounted := h.counted
      simp only [List.length_append, List.length_singleton]
      omega
    . simp [h.eventIds]
    . dsimp only at hnew ⊢
      rw [List.nodup_append]
      refine ⟨h.nodup, by simp, ?_⟩
      intro id hid id' hid' heq
      rw [List.mem_singleton.mp hid'] at heq
      rw [heq] at hid
      exact hnew hid
    . refine ⟨accepted ++ [input], hsublist.append (List.Sublist.refl _), ?_⟩
      exact List.rel_append hnormalized (.cons hrecord .nil)

theorem visitSpan (h : Visited sha256 accepts inputs progress) {group : SpanGroup}
    (hgroup : GroupContexts group) (span : OtlpSpan)
    : Visited sha256 accepts (inputs ++ [⟨group.resourceSpans, group.scopeSpans, span⟩])
        (Otlp.visitSpan sha256 accepts group progress span) := by
  unfold Otlp.visitSpan
  dsimp only
  split
  . exact h.reject _ progress.remaining _
  . split
    . exact h.reject _ progress.remaining _
    . split
      . exact h.reject _ progress.remaining _
      . split
        . exact h.reject _ progress.remaining _
        . exact h.reject _ progress.remaining _
        . next resourceContext scopeContext hresource hscope =>
          split
          . exact h.reject _ progress.remaining _
          . cases hrun : normalizeSpan sha256 accepts span group.resourceSpans group.scopeSpans
              resourceContext scopeContext progress.remaining with
            | ok record remaining =>
              simp only [attempt, hrun]
              apply h.accept
              exact ⟨resourceContext, scopeContext, hgroup.resource _ hresource, hgroup.scope _ hscope,
                progress.remaining, remaining, hrun⟩
            | error reason remaining =>
              simp only [attempt, hrun]
              exact h.reject _ remaining _

theorem foldl {α : Type} {step : Progress → α → Progress} {inputsOf : α → List SpanInput}
    (hstep : ∀ inputs progress row, Visited sha256 accepts inputs progress →
      Visited sha256 accepts (inputs ++ inputsOf row) (step progress row))
    (h : Visited sha256 accepts inputs progress) (rows : List α)
    : Visited sha256 accepts (inputs ++ rows.flatMap inputsOf) (rows.foldl step progress) := by
  induction rows generalizing inputs progress with
  | nil => simpa using h
  | cons row rows ih =>
    have hrest := ih (hstep inputs progress row h)
    rwa [List.append_assoc] at hrest

theorem withRemaining (h : Visited sha256 accepts inputs progress) (remaining : Int) (groups : Nat)
    : Visited sha256 accepts inputs
        { progress with remaining := remaining, scopeGroupCount := groups } where
  total := h.total
  counted := h.counted
  eventIds := h.eventIds
  nodup := h.nodup
  accepted := h.accepted

theorem attempt_eq_ok {α : Type} {computation : Normalizing α} {remaining : Int} {a : α}
    (h : (attempt computation remaining).1 = .ok a)
    : ∃ remaining', computation remaining = .ok a remaining' := by
  unfold attempt at h
  split at h
  . next hrun =>
    cases h
    exact ⟨_, hrun⟩
  . contradiction

theorem visitGroup (h : Visited sha256 accepts inputs progress) {group : SpanGroup}
    (hgroup : GroupContexts group) (remaining : Int) (groups : Nat)
    : Visited sha256 accepts (inputs ++ spansOfScope group.resourceSpans group.scopeSpans)
        (group.scopeSpans.spans.foldl (Otlp.visitSpan sha256 accepts group)
          { progress with remaining := remaining, scopeGroupCount := groups }) := by
  have hspans := foldl (fun _ _ span hvisited => hvisited.visitSpan hgroup span)
    (h.withRemaining remaining groups) group.scopeSpans.spans
  rwa [← List.map_eq_flatMap] at hspans

theorem visitScopeSpans (h : Visited sha256 accepts inputs progress) {resourceSpans : OtlpResourceSpans}
    {resourceContext : Except OtlpSpanRejectionReason AttributeContext}
    (hresource : ∀ context, resourceContext = .ok context →
      ResourceContext resourceSpans.resource context)
    (resourceIndex : Nat) (scopeSpans : OtlpScopeSpans)
    : Visited sha256 accepts (inputs ++ spansOfScope resourceSpans scopeSpans)
        (Otlp.visitScopeSpans sha256 accepts resourceSpans resourceIndex resourceContext progress
          scopeSpans) := by
  cases resourceContext with
  | error reason =>
    have hgroup : GroupContexts ⟨resourceSpans, resourceIndex, .error reason, scopeSpans,
        progress.scopeGroupCount, .error reason⟩ :=
      ⟨fun _ hcontext => (nomatch hcontext), fun _ hcontext => (nomatch hcontext)⟩
    exact h.visitGroup hgroup _ _
  | ok resourceContext =>
    have hgroup : GroupContexts ⟨resourceSpans, resourceIndex, .ok resourceContext, scopeSpans,
        progress.scopeGroupCount, (attempt (contextForScope scopeSpans.scope) progress.remaining).1⟩ := by
      refine ⟨hresource, ?_⟩
      intro context hcontext
      rcases attempt_eq_ok hcontext with ⟨remaining', hrun⟩
      exact ⟨_, _, hrun⟩
    exact h.visitGroup hgroup _ _

theorem visitResourceSpans (h : Visited sha256 accepts inputs progress)
    (resourceSpans : OtlpResourceSpans × Nat)
    : Visited sha256 accepts (inputs ++ spansOfResource resourceSpans.1)
        (Otlp.visitResourceSpans sha256 accepts progress resourceSpans) := by
  have hresource : ∀ context,
      (attempt (contextForResource resourceSpans.1.resource) progress.remaining).1 = .ok context →
        ResourceContext resourceSpans.1.resource context := by
    intro context hcontext
    rcases attempt_eq_ok hcontext with ⟨remaining', hrun⟩
    exact ⟨_, _, hrun⟩
  exact foldl (fun _ _ scopeSpans hvisited => hvisited.visitScopeSpans hresource resourceSpans.2 scopeSpans)
    (h.withRemaining _ _) resourceSpans.1.scopeSpans

theorem start : Visited sha256 accepts [] ⟨[], [], [], maxOtlpNormalizedValueNodes, 0, 0⟩ where
  total := rfl
  counted := rfl
  eventIds := rfl
  nodup := List.nodup_nil
  accepted := ⟨[], List.Sublist.refl _, .nil⟩

theorem request (request : OtlpExportTraceServiceRequest)
    : Visited sha256 accepts (spansOf request)
        (request.resourceSpans.zipIdx.foldl (Otlp.visitResourceSpans sha256 accepts)
          ⟨[], [], [], maxOtlpNormalizedValueNodes, 0, 0⟩) := by
  have hstart : Visited sha256 accepts [] ⟨[], [], [], maxOtlpNormalizedValueNodes, 0, 0⟩ := start
  have hvisited := foldl (fun _ _ resourceSpans hvisited => hvisited.visitResourceSpans resourceSpans)
    hstart request.resourceSpans.zipIdx
  have hspans : request.resourceSpans.zipIdx.flatMap (fun resourceSpans => spansOfResource resourceSpans.1)
      = spansOf request := by
    unfold spansOf
    rw [← List.flatMap_map, List.zipIdx_map_fst]
  rwa [List.nil_append, hspans] at hvisited

end Visited

/-- The attributes of the record are those of the span that are no content, each under its own key and with
its value, and no others. -/
def KeepsAttributes (span : OtlpSpan) (record : EvidenceRecord) : Prop :=
  (record.attributes.map (·.1)).Nodup
    ∧ ∃ kept, List.Forall₂ Kept (span.attributes.filter (fun entry => !isContent entry)) kept
      ∧ record.attributes.Perm kept

def NoProto (span : OtlpSpan) : Prop :=
  ∀ entry ∈ span.attributes, entry.1 ≠ protoKey

theorem forall₂_iff_of_iff {α β : Type} {R : α → β → Prop} {P : α → Prop} {lefts : List α} {rights : List β}
    (h : List.Forall₂ (fun left right => R left right ↔ P left) lefts rights)
    : List.Forall₂ R lefts rights ↔ ∀ left ∈ lefts, P left := by
  induction h with
  | nil => simp
  | cons hfirst _ ih => rw [List.forall₂_cons, List.forall_mem_cons, hfirst, ih]

theorem NormalizedFrom.spanRecord {input : SpanInput} {record : EvidenceRecord}
    (h : NormalizedFrom sha256 accepts input record)
    : ∃ resourceContext scopeContext, ResourceContext input.resourceSpans.resource resourceContext
        ∧ ScopeContext input.scopeSpans.scope scopeContext
        ∧ SpanRecord resourceContext scopeContext input.span record := by
  rcases h with ⟨resourceContext, scopeContext, hresource, hscope, remaining, remaining', hrun⟩
  exact ⟨resourceContext, scopeContext, hresource, hscope,
    returns_normalizeSpan sha256 accepts _ _ _ _ _ remaining record remaining' hrun⟩

theorem filter_of_noProto {span : OtlpSpan} (h : NoProto span)
    : span.attributes.filter (fun entry => !isContent entry && !isProto entry)
        = span.attributes.filter (fun entry => !isContent entry) := by
  apply List.filter_congr
  intro entry hentry
  have hproto : isProto entry = false := decide_eq_false (h entry hentry)
  rw [hproto, Bool.not_false, Bool.and_true]

theorem SpanRecord.keepsAttributes_iff {resourceContext scopeContext : AttributeContext} {span : OtlpSpan}
    {record : EvidenceRecord} (h : SpanRecord resourceContext scopeContext span record)
    : KeepsAttributes span record ↔ NoProto span := by
  constructor
  . rintro ⟨_, kept, hkept, hperm⟩ entry hentry hproto
    have hlength : (span.attributes.filter (fun entry => !isContent entry)).length
        = (span.attributes.filter (fun entry => !isContent entry && !isProto entry)).length := by
      rw [h.kept.length_eq, hkept.length_eq, hperm.length_eq]
    have hfilter : span.attributes.filter (fun entry => !isContent entry && !isProto entry)
        = (span.attributes.filter (fun entry => !isContent entry)).filter (fun entry => !isProto entry) := by
      rw [List.filter_filter]
      apply List.filter_congr
      intro entry _
      rw [Bool.and_comm]
    have hcontent : isContent entry = false := by
      rw [isContent, hproto]
      decide
    have hmem : entry ∈ span.attributes.filter (fun entry => !isContent entry) :=
      List.mem_filter.mpr ⟨hentry, by rw [hcontent]; rfl⟩
    rw [hfilter, eq_comm, List.length_filter_eq_length_iff] at hlength
    have hnot := hlength entry hmem
    simp [isProto, hproto] at hnot
  . intro hspan
    refine ⟨h.nodup, record.attributes, ?_, List.Perm.refl _⟩
    rw [← filter_of_noProto hspan]
    exact h.kept

theorem normalizeOtlpTraceRequest_attributes (sha256 : Text → Text) (accepts : EvidenceCandidate → Bool)
    (request : OtlpExportTraceServiceRequest)
    : let result := normalizeOtlpTraceRequest sha256 accepts request
      result.acceptedSpans + result.rejectedSpans = (spansOf request).length
        ∧ result.totalSpans = (spansOf request).length
        ∧ result.acceptedSpans = result.records.length
        ∧ (result.records.map (·.eventId)).Nodup
        ∧ ∃ accepted, accepted.Sublist (spansOf request)
          ∧ List.Forall₂ (NormalizedFrom sha256 accepts) accepted result.records
          ∧ List.Forall₂ (fun input record => KeepsAttributes input.span record ↔ NoProto input.span)
            accepted result.records
          ∧ (List.Forall₂ (fun input record => KeepsAttributes input.span record) accepted result.records
            ↔ ∀ input ∈ accepted, NoProto input.span) := by
  intro result
  have hvisited : Visited sha256 accepts (spansOf request) _ := Visited.request request
  rcases hvisited.accepted with ⟨accepted, hsublist, hnormalized⟩
  have hiff : List.Forall₂ (fun input record => KeepsAttributes input.span record ↔ NoProto input.span)
      accepted result.records := by
    apply hnormalized.imp
    intro input record hrecord
    rcases hrecord.spanRecord with ⟨_, _, _, _, hspan⟩
    exact hspan.keepsAttributes_iff
  refine ⟨hvisited.counted, hvisited.total, rfl, ?_, accepted, hsublist, hnormalized, hiff, ?_⟩
  . have hnodup := hvisited.nodup
    rw [hvisited.eventIds] at hnodup
    exact hnodup
  . exact forall₂_iff_of_iff hiff

namespace NormalizeSample

def sampleSpan (attributes : List OtlpKeyValue) : OtlpSpan where
  attributes := attributes
  droppedAttributesCount := .finite 0
  droppedEventsCount := .finite 0
  droppedLinksCount := .finite 0
  endTimeUnixNano := text "1787930001000000000"
  events := []
  flags := .finite 0
  kind := .finite 1
  links := []
  name := text "chat"
  parentSpanId := []
  spanId := [1, 2, 3, 4, 5, 6, 7, 8]
  startTimeUnixNano := text "1787930000000000000"
  status := none
  traceId := [1, 2, 3, 4, 5, 6, 7, 8, 9, 10, 11, 12, 13, 14, 15, 16]
  traceState := []

def sampleRequest (attributes : List OtlpKeyValue) : OtlpExportTraceServiceRequest where
  resourceSpans := [⟨none, [], [⟨[], none, [sampleSpan attributes]⟩]⟩]

def sampleText (value : Text) : Option OtlpAnyValue :=
  some ⟨none, none, none, none, none, none, some value⟩

def protoRequest : OtlpExportTraceServiceRequest :=
  sampleRequest [(protoKey, sampleText (text "value"))]

theorem attributes_protoRequest
    : (normalizeOtlpTraceRequest id (fun _ => true) protoRequest).records.map (·.attributes.length) = [0] := by
  decide

theorem not_keepsAttributes_protoRequest
    : ¬∃ accepted, accepted.Sublist (spansOf protoRequest)
        ∧ List.Forall₂ (fun input record => KeepsAttributes input.span record) accepted
          (normalizeOtlpTraceRequest id (fun _ => true) protoRequest).records := by
  rintro ⟨accepted, hsublist, hkeeps⟩
  have hrecords := attributes_protoRequest
  rw [List.map_eq_singleton_iff] at hrecords
  rcases hrecords with ⟨record, hrecord, hlength⟩
  rw [hrecord] at hkeeps
  rcases List.forall₂_cons_right_iff.mp hkeeps with ⟨input, _, ⟨_, kept, hkept, hperm⟩, _, rfl⟩
  have hinput := hsublist.subset List.mem_cons_self
  rw [List.mem_singleton.mp hinput] at hkept
  have hfilter : ((sampleSpan [(protoKey, sampleText (text "value"))]).attributes.filter
      (fun entry => !isContent entry)).length = 1 := by
    decide
  rw [hkept.length_eq, ← hperm.length_eq, hlength] at hfilter
  contradiction

end NormalizeSample

end Otlp
end ProofStack
