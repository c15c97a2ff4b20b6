import ProofStack.Otlp.AttributesLemmas

/-!
This module contains the proof of what the record of one span holds.
-/

namespace ProofStack
namespace Otlp

open Host StateMachine

def contentFields (path : Text) (entries : List OtlpKeyValue) : List Text :=
  (entries.filter isContent).map (redactedField path)

def spanPath : Text :=
  text "span.attributes"

def resourcePath : Text :=
  text "resource.attributes"

def scopePath : Text :=
  text "scope.attributes"

def eventPath (index : Nat) : Text :=
  text "events." ++ decimal index ++ text ".attributes"

def linkPath (index : Nat) : Text :=
  text "links." ++ decimal index ++ text ".attributes"

def eventFields (events : List (OtlpSpanEvent × Nat)) : List Text :=
  events.flatMap (fun event => contentFields (eventPath event.2) event.1.attributes)

def linkFields (links : List (OtlpSpanLink × Nat)) : List Text :=
  links.flatMap (fun link => contentFields (linkPath link.2) link.1.attributes)

def textOf : Value → Option Text
  | .string value => some value
  | _ => none

def textsOf : Value → List Text
  | .array items => items.filterMap textOf
  | _ => []

def fieldsOf (extensions : List (Text × Value)) : List Text :=
  (((extensions.lookup (text "proofstack.redaction")).bind (·.get (text "fields"))).map textsOf).getD []

def EventsRedacted (inherited : List Text) (events : List (OtlpSpanEvent × Nat)) (state : NormalizedItems)
    : Prop :=
  state.redactedFields = inherited ++ eventFields events

def LinksRedacted (inherited : List Text) (links : List (OtlpSpanLink × Nat)) (state : NormalizedItems)
    : Prop :=
  state.redactedFields = inherited ++ linkFields links

theorem eventFields_start (inherited : List Text) : EventsRedacted inherited [] ⟨[], inherited⟩ :=
  (List.append_nil inherited).symm

theorem linkFields_start (inherited : List Text) : LinksRedacted inherited [] ⟨[], inherited⟩ :=
  (List.append_nil inherited).symm

theorem returns_normalizeEvents (span : OtlpSpan) (inherited : List Text)
    : Returns (EventsRedacted inherited span.events.zipIdx)
        (normalizeEvents span inherited) := by
  refine Returns.skip ?_
  intro _
  refine Returns.foldlM (eventFields_start inherited) ?_
  intro folded event state h
  refine Returns.bind (returns_normalizeKeyValues _ _ _ _) ?_
  intro context hcontext
  refine Returns.skip ?_
  intro _
  refine Returns.skip ?_
  intro _
  refine Returns.pure ?_
  unfold EventsRedacted at h ⊢
  rw [hcontext.redacted, h, eventFields, eventFields, List.flatMap_append, List.flatMap_singleton,
    List.append_assoc]
  rfl

theorem returns_normalizeLinks (span : OtlpSpan) (inherited : List Text)
    : Returns (LinksRedacted inherited span.links.zipIdx)
        (normalizeLinks span inherited) := by
  refine Returns.skip ?_
  intro _
  refine Returns.foldlM (linkFields_start inherited) ?_
  intro folded link state h
  refine Returns.bind (returns_normalizeKeyValues _ _ _ _) ?_
  intro context hcontext
  refine Returns.skip ?_
  intro _
  refine Returns.skip ?_
  intro _
  refine Returns.skip ?_
  intro _
  refine Returns.pure ?_
  unfold LinksRedacted at h ⊢
  rw [hcontext.redacted, h, linkFields, linkFields, List.flatMap_append, List.flatMap_singleton,
    List.append_assoc]
  rfl

theorem returns_hexIdentifier (bytes : List UInt8) (length : Nat)
    : Returns (· = hexText bytes) (hexIdentifier bytes length) :=
  Returns.skip (fun _ => Returns.pure rfl)

theorem copyItems_strings (fields : List Text)
    : copyItems (fields.map Value.string) = fields.map Value.string := by
  induction fields with
  | nil => rfl
  | cons field fields ih => rw [List.map_cons, copyItems, copy, ih]

theorem textsOf_strings (fields : List Text) : textsOf (.array (fields.map .string)) = fields := by
  change (fields.map Value.string).filterMap textOf = fields
  rw [List.filterMap_map]
  exact List.filterMap_some

theorem fieldsOf_redactionExtension (fields : List Text)
    : fieldsOf (copyMembers (redactionExtension fields)) = fields := by
  by_cases hfields : fields.length > 0
  . have hkeys : text "proofstack.redaction" ≠ protoKey ∧ text "fields" ≠ protoKey
        ∧ text "ruleset" ≠ protoKey ∧ text "stage" ≠ protoKey := by
      decide
    have hcopy : copyMembers (redactionExtension fields) = redactionExtension fields := by
      rw [redactionExtension, if_pos hfields]
      simp only [copyMembers, copy, literal, copyItems_strings, if_neg hkeys.1, if_neg hkeys.2.1,
        if_neg hkeys.2.2.1, if_neg hkeys.2.2.2]
    rw [hcopy, redactionExtension, if_pos hfields, fieldsOf, List.lookup_cons_self, Option.bind_some]
    simp only [literal, Value.get, List.lookup_cons_self, Option.some_or, Option.map_some, Option.getD_some]
    exact textsOf_strings fields
  . have hnil : fields = [] := List.eq_nil_of_length_eq_zero (by omega)
    rw [hnil]
    rfl

theorem fieldsOf_copyMembers {others : List (Text × Value)} (fields : List Text)
    (h : ∀ member ∈ others, member.1 ≠ text "proofstack.redaction")
    : fieldsOf (copyMembers (others ++ redactionExtension fields)) = fields := by
  have hothers : (copyMembers others).lookup (text "proofstack.redaction") = none := by
    rw [List.lookup_eq_none_iff]
    intro member hmember
    rw [bne_iff_ne, ne_comm]
    have hkey := (copyMembers_keys_sublist others).subset (List.mem_map_of_mem hmember)
    rcases List.mem_map.mp hkey with ⟨other, hother, heq⟩
    rw [← heq]
    exact h other hother
  have hredaction := fieldsOf_redactionExtension fields
  unfold fieldsOf at hredaction ⊢
  rwa [copyMembers_append, List.lookup_append, hothers, Option.none_or]

structure SpanRecord (resourceContext scopeContext : AttributeContext) (span : OtlpSpan)
    (record : EvidenceRecord) : Prop where
  traceId : record.traceId = hexText span.traceId
  spanId : record.spanId = hexText span.spanId
  nodup : (record.attributes.map (·.1)).Nodup
  kept : List.Forall₂ Kept (span.attributes.filter (fun entry => !isContent entry && !isProto entry))
    record.attributes
  redacted : fieldsOf record.extensions
    = resourceContext.redactedFields ++ scopeContext.redactedFields
      ++ contentFields spanPath span.attributes ++ eventFields span.events.zipIdx
      ++ linkFields span.links.zipIdx

theorem itemsExtension_key {key : Text} {items : List Value} {member : Text × Value}
    (h : member ∈ itemsExtension key items)
    : member.1 = key := by
  unfold itemsExtension at h
  split at h
  . rw [List.mem_singleton.mp h]
  . contradiction

theorem returns_normalizeSpan (sha256 : Text → Text) (accepts : EvidenceCandidate → Bool)
    (span : OtlpSpan) (resourceSpans : OtlpResourceSpans) (scopeSpans : OtlpScopeSpans)
    (resourceContext scopeContext : AttributeContext)
    : Returns (SpanRecord resourceContext scopeContext span)
        (normalizeSpan sha256 accepts span resourceSpans scopeSpans resourceContext scopeContext) := by
  refine Returns.bind (returns_hexIdentifier _ _) ?_
  rintro traceId rfl
  refine Returns.bind (returns_hexIdentifier _ _) ?_
  rintro spanId rfl
  refine Returns.skip ?_
  intro parentSpanId
  refine Returns.skip ?_
  intro _
  refine Returns.skip ?_
  intro startedAt
  refine Returns.skip ?_
  intro endedAt
  refine Returns.skip ?_
  intro _
  refine Returns.bind (returns_normalizeKeyValues _ _ _ _) ?_
  intro spanContext hspan
  refine Returns.bind (returns_normalizeEvents _ _) ?_
  intro events hevents
  refine Returns.bind (returns_normalizeLinks _ _) ?_
  intro links hlinks
  refine Returns.skip ?_
  intro resourceMembers
  refine Returns.skip ?_
  intro scopeMembers
  refine Returns.skip ?_
  intro spanMembers
  refine Returns.skip ?_
  intro runId
  refine Returns.skip ?_
  intro sequenceNumber
  refine Returns.skip ?_
  intro sessionId
  refine Returns.skip ?_
  intro kind
  refine Returns.skip ?_
  intro name
  refine Returns.skip ?_
  intro spanSource
  unfold safeParse
  split
  . refine Returns.pure ?_
    have hfields : links.redactedFields
        = resourceContext.redactedFields ++ scopeContext.redactedFields
          ++ contentFields spanPath span.attributes ++ eventFields span.events.zipIdx
          ++ linkFields span.links.zipIdx := by
      rw [hlinks, hevents, hspan.redacted]
      rfl
    constructor
    . rfl
    . rfl
    . exact hspan.nodup.sublist (copyMembers_keys_sublist _)
    . exact hspan.kept
    . rw [← hfields]
      apply fieldsOf_copyMembers
      have hkeys : text "opentelemetry.resource" ≠ text "proofstack.redaction"
          ∧ text "opentelemetry.scope" ≠ text "proofstack.redaction"
          ∧ text "opentelemetry.span" ≠ text "proofstack.redaction"
          ∧ text "opentelemetry.events" ≠ text "proofstack.redaction"
          ∧ text "opentelemetry.links" ≠ text "proofstack.redaction" := by
        decide
      intro member hmember
      rcases List.mem_append.mp hmember with hmember | hmember
      . rcases List.mem_append.mp hmember with hmember | hmember
        . simp only [List.mem_cons, List.not_mem_nil, or_false] at hmember
          rcases hmember with rfl | rfl | rfl
          . exact hkeys.1
          . exact hkeys.2.1
          . exact hkeys.2.2.1
        . rw [itemsExtension_key hmember]
          exact hkeys.2.2.2.1
      . rw [itemsExtension_key hmember]
        exact hkeys.2.2.2.2
  . exact Returns.throw _

end Otlp
end ProofStack
