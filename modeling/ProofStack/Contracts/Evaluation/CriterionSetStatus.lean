import ProofStack.Arithmetic.BinaryRounding
import ProofStack.Contracts.Evaluation.DefinitionEncoding
import ProofStack.Contracts.Evaluation.ModelAssurance
import ProofStack.Contracts.PolicyEvaluation.TimeText
import ProofStack.Contracts.Replay.Invocation
import ProofStack.Json.Utf8

/-!
This module contains the status records of criterion sets.
-/

namespace ProofStack
namespace Evaluation

open Arithmetic Assurance Host Json

variable {ν : Type}

def stringJson (value : String) : Json ν :=
  .string (text value)

def namedObject (members : List (String × Json ν)) : Json ν :=
  .object (members.map (fun member => (text member.1, member.2)))

def optionalMember (name : String) (value : Option (Json ν)) : List (String × Json ν) :=
  value.toList.map (name, ·)

inductive CriterionSetStatus where
  | approved
  | contested
  | draft
  | qualified
  | superseded
  | withdrawn
  deriving DecidableEq

def CriterionSetStatus.name : CriterionSetStatus → String
  | .approved => "approved"
  | .contested => "contested"
  | .draft => "draft"
  | .qualified => "qualified"
  | .superseded => "superseded"
  | .withdrawn => "withdrawn"

structure CriterionSetStatusReference where
  definitionSha256 : String
  statusRecordId : String
  deriving DecidableEq

structure CriterionSetStatusDefinition where
  criterionSet : CriterionSetReference
  effectiveAt : String
  expiresAt : Option String
  previousStatus : Option CriterionSetStatusReference
  rationale : String
  status : CriterionSetStatus
  statusRecordId : String
  supersededBy : Option CriterionSetReference
  deriving DecidableEq

structure CriterionSetStatusRecord extends CriterionSetStatusDefinition where
  definitionSha256 : String
  recordedAt : String
  recordedByPrincipalId : String
  schemaVersion : String
  scope : EvidenceScope
  deriving DecidableEq

def criterionSetStatusSchemaVersion : String := "0.1"

/-- The microseconds of a timestamp. The host reads the fraction and multiplies it with its own numbers, and
the database rounds the result. -/
def evidenceTimestampOrderKey (value : String) : Option Int :=
  (TimeText.readParts value.toList).map (fun parts =>
    parts.wholeMilliseconds * 1000
      + roundHalfEven (nearestBinary
          (nearestBinary (readNatural parts.fraction / 10 ^ parts.fraction.length) * 1000000)))

def CriterionSetReferenceSchema (value : CriterionSetReference) : Prop :=
  OpaqueIdSchema value.criterionSetId ∧ OpaqueIdSchema value.criterionSetVersionId
    ∧ Sha256Schema value.definitionSha256

instance (value : CriterionSetReference) : Decidable (CriterionSetReferenceSchema value) :=
  inferInstanceAs (Decidable (_ ∧ _ ∧ _))

def CriterionSetStatusReferenceSchema (value : CriterionSetStatusReference) : Prop :=
  Sha256Schema value.definitionSha256 ∧ OpaqueIdSchema value.statusRecordId

instance (value : CriterionSetStatusReference) : Decidable (CriterionSetStatusReferenceSchema value) :=
  inferInstanceAs (Decidable (_ ∧ _))

/-- Whether the first instant is not after the second one. An order key throws where it is missing. -/
def notAfter (first second : String) : Prop :=
  ∃ a ∈ evidenceTimestampOrderKey first, ∃ b ∈ evidenceTimestampOrderKey second, a ≤ b

instance (first second : String) : Decidable (notAfter first second) := by
  unfold notAfter
  infer_instance

def refineCriterionSetStatus (value : CriterionSetStatusDefinition) : List String :=
  value.expiresAt.elim [] (fun expiresAt =>
      issue (notAfter expiresAt value.effectiveAt)
        "Criterion set status expiry must be after its effective time")
    ++ issue (value.status = .superseded ∧ value.supersededBy = none)
      "A superseded criterion set status requires the exact successor"
    ++ issue (value.status = .draft ∧ value.previousStatus ≠ none)
      "The initial draft status cannot name a previous status"
    ++ issue (value.status ≠ .draft ∧ value.previousStatus = none)
      "A non-draft criterion set status requires the exact previous status"
    ++ value.previousStatus.elim [] (fun previousStatus =>
      issue (previousStatus.statusRecordId = value.statusRecordId)
        "A criterion set status cannot name itself as its previous status")
    ++ issue (value.status ≠ .superseded ∧ value.supersededBy ≠ none)
      "Only a superseded criterion set status may name a successor"
    ++ value.supersededBy.elim [] (fun supersededBy =>
      issue (supersededBy.criterionSetVersionId = value.criterionSet.criterionSetVersionId)
        "A criterion set version cannot supersede itself")
    ++ value.supersededBy.elim [] (fun supersededBy =>
      issue (supersededBy.criterionSetId ≠ value.criterionSet.criterionSetId)
        "A superseding version must retain the logical criterionSetId")

def CriterionSetStatusDefinitionSchema (isNFC : String → Bool) (value : CriterionSetStatusDefinition) : Prop :=
  CriterionSetReferenceSchema value.criterionSet
    ∧ TimeText.PostgresTimestampSchema value.effectiveAt
    ∧ (∀ expiresAt ∈ value.expiresAt, TimeText.PostgresTimestampSchema expiresAt)
    ∧ (∀ previousStatus ∈ value.previousStatus, CriterionSetStatusReferenceSchema previousStatus)
    ∧ AssuranceRationaleSchema isNFC value.rationale
    ∧ OpaqueIdSchema value.statusRecordId
    ∧ (∀ supersededBy ∈ value.supersededBy, CriterionSetReferenceSchema supersededBy)
    ∧ refineCriterionSetStatus value = []

instance (isNFC : String → Bool) (value : CriterionSetStatusDefinition)
    : Decidable (CriterionSetStatusDefinitionSchema isNFC value) := by
  unfold CriterionSetStatusDefinitionSchema
  infer_instance

def CriterionSetStatusRecordSchema (isNFC : String → Bool) (value : CriterionSetStatusRecord) : Prop :=
  CriterionSetStatusDefinitionSchema isNFC value.toCriterionSetStatusDefinition
    ∧ Sha256Schema value.definitionSha256
    ∧ Replay.Definition.UtcMillisecondTimestampSchema value.recordedAt
    ∧ OpaqueIdSchema value.recordedByPrincipalId
    ∧ value.schemaVersion = criterionSetStatusSchemaVersion
    ∧ EvidenceScopeSchema value.scope

instance (isNFC : String → Bool) (value : CriterionSetStatusRecord)
    : Decidable (CriterionSetStatusRecordSchema isNFC value) := by
  unfold CriterionSetStatusRecordSchema
  infer_instance

def criterionSetReferenceJson (value : CriterionSetReference) : Json ν :=
  namedObject [("criterionSetId", stringJson value.criterionSetId),
    ("criterionSetVersionId", stringJson value.criterionSetVersionId),
    ("definitionSha256", stringJson value.definitionSha256)]

def CriterionSetStatusReference.json (value : CriterionSetStatusReference) : Json ν :=
  namedObject [("definitionSha256", stringJson value.definitionSha256),
    ("statusRecordId", stringJson value.statusRecordId)]

def evidenceScopeJson (value : EvidenceScope) : Json ν :=
  namedObject [("environmentId", stringJson value.environmentId),
    ("projectId", stringJson value.projectId),
    ("tenantId", stringJson value.tenantId)]

namespace CriterionSetStatusDefinition

def members (value : CriterionSetStatusDefinition) : List (String × Json ν) :=
  ("criterionSet", criterionSetReferenceJson value.criterionSet)
    :: ("effectiveAt", stringJson value.effectiveAt)
    :: (optionalMember "expiresAt" (value.expiresAt.map stringJson)
      ++ (optionalMember "previousStatus" (value.previousStatus.map CriterionSetStatusReference.json)
        ++ ("rationale", stringJson value.rationale)
          :: ("status", stringJson value.status.name)
          :: ("statusRecordId", stringJson value.statusRecordId)
          :: optionalMember "supersededBy" (value.supersededBy.map criterionSetReferenceJson)))

def names : List String :=
  ["criterionSet", "effectiveAt", "expiresAt", "previousStatus", "rationale", "status", "statusRecordId",
    "supersededBy"]

end CriterionSetStatusDefinition

namespace CriterionSetStatusRecord

def json (value : CriterionSetStatusRecord) : Json ν :=
  namedObject (value.members ++
    [("definitionSha256", stringJson value.definitionSha256),
      ("recordedAt", stringJson value.recordedAt),
      ("recordedByPrincipalId", stringJson value.recordedByPrincipalId),
      ("schemaVersion", stringJson value.schemaVersion),
      ("scope", evidenceScopeJson value.scope)])

end CriterionSetStatusRecord

section Digest

variable [NumberText ν]

def encodeEvaluationCanonicalJson (value : Json ν) : Except CanonicalJsonError (List UInt8) :=
  (serializeEvaluationCanonicalJson value).map encodeUtf8

def evaluationDefinitionEncodingVersion : String := "proofstack.evaluation-definition-jcs.v1"

def criterionSetStatusDefinitionDomain : String := "proofstack.criterion-set-status.v1"

def encodeDefinition (definitionDomain schemaVersion : String) (scope : EvidenceScope) (definition : Json ν)
    : Except CanonicalJsonError (List UInt8) :=
  encodeEvaluationCanonicalJson (namedObject [("definition", definition),
    ("definitionDomain", stringJson definitionDomain),
    ("encodingVersion", stringJson evaluationDefinitionEncodingVersion),
    ("schemaVersion", stringJson schemaVersion),
    ("scope", evidenceScopeJson scope)])

end Digest

theorem validUnicode_cons {unit : UInt16} {rest : Text} (hhigh : Host.isHighSurrogate unit = false)
    (hlow : Host.isLowSurrogate unit = false)
    : validUnicode (unit :: rest) = validUnicode rest := by
  cases rest with
  | nil =>
    change (!Host.isHighSurrogate unit && !Host.isLowSurrogate unit) = true
    rw [hhigh, hlow]
    rfl
  | cons next rest =>
    rw [validUnicode, hhigh, hlow]
    rfl

theorem validUnicode_units_append (c : Char) (rest : Text)
    : validUnicode ((charUtf16Units c).map UInt16.ofNat ++ rest) = validUnicode rest := by
  have hvalid : c.toNat < 55296 ∨ 57343 < c.toNat ∧ c.toNat < 1114112 := c.valid
  unfold charUtf16Units
  split
  . next hlarge =>
    have hfirst : (UInt16.ofNat (55296 + (c.toNat - 65536) / 1024)).toNat = 55296 + (c.toNat - 65536) / 1024 :=
      UInt16.toNat_ofNat_of_lt' (show _ < 65536 by omega)
    have hsecond : (UInt16.ofNat (56320 + (c.toNat - 65536) % 1024)).toNat
        = 56320 + (c.toNat - 65536) % 1024 :=
      UInt16.toNat_ofNat_of_lt' (show _ < 65536 by omega)
    have hhigh : Host.isHighSurrogate (UInt16.ofNat (55296 + (c.toNat - 65536) / 1024)) = true := by
      simp only [Host.isHighSurrogate, UInt16.le_iff_toNat_le, hfirst, Bool.and_eq_true, decide_eq_true_eq,
        UInt16.reduceToNat]
      omega
    have hlow : Host.isLowSurrogate (UInt16.ofNat (56320 + (c.toNat - 65536) % 1024)) = true := by
      simp only [Host.isLowSurrogate, UInt16.le_iff_toNat_le, hsecond, Bool.and_eq_true, decide_eq_true_eq,
        UInt16.reduceToNat]
      omega
    rw [List.map_cons, List.map_singleton, List.cons_append, List.singleton_append, validUnicode, if_pos hhigh,
      hlow, Bool.true_and]
  . next hsmall =>
    have hunit : (UInt16.ofNat c.toNat).toNat = c.toNat :=
      UInt16.toNat_ofNat_of_lt' (show _ < 65536 by omega)
    rw [List.map_singleton, List.singleton_append]
    apply validUnicode_cons
    . simp only [Host.isHighSurrogate, UInt16.le_iff_toNat_le, hunit, Bool.and_eq_false_iff, decide_eq_false_iff_not,
        UInt16.reduceToNat]
      omega
    . simp only [Host.isLowSurrogate, UInt16.le_iff_toNat_le, hunit, Bool.and_eq_false_iff, decide_eq_false_iff_not,
        UInt16.reduceToNat]
      omega

theorem validUnicode_text (literal : String) : validUnicode (text literal) = true := by
  have hchars : ∀ chars : List Char, validUnicode ((chars.flatMap charUtf16Units).map UInt16.ofNat) = true := by
    intro chars
    induction chars with
    | nil => rfl
    | cons c chars ih => rw [List.flatMap_cons, List.map_append, validUnicode_units_append, ih]
  exact hchars literal.toList

section Encodable

variable [NumberText ν]

theorem encodable_stringJson (levels : Nat) (value : String)
    : Encodable (levels + 1) (stringJson value : Json ν) :=
  .string levels (text value) (validUnicode_text value)

theorem encodable_namedObject {levels : Nat} {members : List (String × Json ν)}
    (hnames : (members.map Prod.fst).Nodup) (hvalues : ∀ member ∈ members, Encodable levels member.2)
    : Encodable (levels + 1) (namedObject members) := by
  refine .object levels _ ?_ ?_ ?_
  . rw [List.map_map]
    have hkeys := hnames.map (fun _ _ h => Host.text_injective h)
    rw [List.map_map] at hkeys
    exact hkeys
  . intro member hmember
    obtain ⟨source, _, rfl⟩ := List.mem_map.mp hmember
    exact validUnicode_text source.1
  . intro member hmember
    obtain ⟨source, hsource, rfl⟩ := List.mem_map.mp hmember
    exact hvalues source hsource

theorem encodable_optionalMember {α : Type} {levels : Nat} {name : String} {value : Option α} {json : α → Json ν}
    (h : ∀ source, Encodable levels (json source))
    : ∀ member ∈ optionalMember name (value.map json), Encodable levels member.2 := by
  intro member hmember
  obtain ⟨_, hjson, rfl⟩ := List.mem_map.mp hmember
  obtain ⟨source, _, rfl⟩ := Option.mem_map.mp (Option.mem_toList.mp hjson)
  exact h source

omit [NumberText ν] in
theorem sublist_optionalMember (name : String) (value : Option (Json ν))
    : ((optionalMember name value).map Prod.fst).Sublist [name] := by
  cases value with
  | none => exact List.nil_sublist _
  | some json => exact List.Sublist.refl _

theorem encodable_criterionSetReferenceJson (levels : Nat) (value : CriterionSetReference)
    : Encodable (levels + 2) (criterionSetReferenceJson value : Json ν) := by
  refine encodable_namedObject (show ["criterionSetId", "criterionSetVersionId", "definitionSha256"].Nodup by decide) ?_
  simp only [List.forall_mem_cons]
  exact ⟨encodable_stringJson _ _, encodable_stringJson _ _, encodable_stringJson _ _, nofun⟩

theorem encodable_statusReferenceJson (levels : Nat) (value : CriterionSetStatusReference)
    : Encodable (levels + 2) (value.json : Json ν) := by
  refine encodable_namedObject (show ["definitionSha256", "statusRecordId"].Nodup by decide) ?_
  simp only [List.forall_mem_cons]
  exact ⟨encodable_stringJson _ _, encodable_stringJson _ _, nofun⟩

theorem encodable_evidenceScopeJson (levels : Nat) (value : EvidenceScope)
    : Encodable (levels + 2) (evidenceScopeJson value : Json ν) := by
  refine encodable_namedObject (show ["environmentId", "projectId", "tenantId"].Nodup by decide) ?_
  simp only [List.forall_mem_cons]
  exact ⟨encodable_stringJson _ _, encodable_stringJson _ _, encodable_stringJson _ _, nofun⟩

omit [NumberText ν] in
theorem sublist_names (value : CriterionSetStatusDefinition)
    : ((value.members : List (String × Json ν)).map Prod.fst).Sublist CriterionSetStatusDefinition.names := by
  simp only [CriterionSetStatusDefinition.members, List.map_cons, List.map_append]
  exact .cons_cons _ (.cons_cons _ ((sublist_optionalMember "expiresAt" _).append
    ((sublist_optionalMember "previousStatus" _).append
      (.cons_cons _ (.cons_cons _ (.cons_cons _ (sublist_optionalMember "supersededBy" _)))))))

theorem encodable_members (levels : Nat) (value : CriterionSetStatusDefinition)
    : ∀ member ∈ (value.members : List (String × Json ν)), Encodable (levels + 2) member.2 := by
  simp only [CriterionSetStatusDefinition.members, List.forall_mem_cons, List.forall_mem_append]
  exact ⟨encodable_criterionSetReferenceJson _ _, encodable_stringJson _ _,
    encodable_optionalMember (encodable_stringJson _), encodable_optionalMember (encodable_statusReferenceJson _),
    encodable_stringJson _ _, encodable_stringJson _ _, encodable_stringJson _ _,
    encodable_optionalMember (encodable_criterionSetReferenceJson _)⟩

theorem encodable_json (levels : Nat) (value : CriterionSetStatusRecord)
    : Encodable (levels + 3) (value.json : Json ν) := by
  refine encodable_namedObject ?_ ?_
  . have hnames : (CriterionSetStatusDefinition.names ++
        ["definitionSha256", "recordedAt", "recordedByPrincipalId", "schemaVersion", "scope"]).Nodup := by
      decide
    rw [List.map_append]
    exact ((sublist_names _).append (List.Sublist.refl _)).nodup hnames
  . simp only [List.forall_mem_append, List.forall_mem_cons]
    exact ⟨encodable_members _ _, encodable_stringJson _ _, encodable_stringJson _ _, encodable_stringJson _ _,
      encodable_stringJson _ _, encodable_evidenceScopeJson _ _, nofun⟩

end Encodable

end Evaluation
end ProofStack
