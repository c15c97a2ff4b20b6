import ProofStack.Checks
import ProofStack.Contracts.Evaluation.CriterionSetStatus
import ProofStack.Contracts.PolicyEvaluation.Job
import ProofStack.Json.Size

/-!
This module contains the history of the statuses of criterion sets in one scope.
-/

namespace ProofStack
namespace Evaluation

open Host Json

inductive CriterionStatusHistoryLimit where
  | records
  | bytes
  deriving DecidableEq

inductive CriterionStatusHistoryError where
  | scope
  | type (message : String)
  | contract (message : String)
  | limit (limit : CriterionStatusHistoryLimit)
  | canonical (error : CanonicalJsonError)
  deriving DecidableEq

structure CriterionStatusHistoryLimits where
  maxRecords : Nat
  maxRecordBytes : Nat
  deriving DecidableEq

def requireCriterionStatusHistoryLimits (input : CriterionStatusHistoryLimits)
    : Except CriterionStatusHistoryError CriterionStatusHistoryLimits :=
  if maxPolicyEvaluationAcquisitionRecords < input.maxRecords ∨ input.maxRecordBytes < 2
      ∨ maxPolicyEvaluationAcquisitionRecordBytes < input.maxRecordBytes then
    .error (.type "Invalid complete criterion status history limits")
  else
    .ok input

structure AdmittedRecord where
  record : CriterionSetStatusRecord
  canonical : List Char
  deriving DecidableEq

structure Admission where
  bytes : Nat
  previous : String
  records : List AdmittedRecord
  deriving DecidableEq

structure HistoryRecord where
  record : CriterionSetStatusRecord
  recordSha256 : String
  deriving DecidableEq

structure CriterionStatusHistory where
  historySha256 : String
  history : List HistoryRecord
  deriving DecidableEq

structure DigestState where
  absorbed : List UInt8
  deriving DecidableEq

namespace DigestState

def create : DigestState :=
  ⟨[]⟩

def update (digest : DigestState) (chunk : List Char) : DigestState :=
  ⟨digest.absorbed ++ encodeUtf8 chunk⟩

end DigestState

section History

variable (ν : Type) [NumberText ν] (isNFC : String → Bool) (sha256 : List UInt8 → String)

def encodeCriterionSetStatusDefinition (scope : EvidenceScope) (definition : CriterionSetStatusDefinition)
    : Except CriterionStatusHistoryError (List UInt8) :=
  if EvidenceScopeSchema scope ∧ CriterionSetStatusDefinitionSchema isNFC definition then
    (encodeDefinition criterionSetStatusDefinitionDomain criterionSetStatusSchemaVersion scope
      (namedObject definition.members : Json ν)).mapError .canonical
  else
    .error (.contract "Invalid criterion_set_status record")

def validateCriterionSetStatus (candidate : CriterionSetStatusRecord)
    : Except CriterionStatusHistoryError CriterionSetStatusRecord := do
  if CriterionSetStatusRecordSchema isNFC candidate then
    let bytes ← encodeCriterionSetStatusDefinition ν isNFC candidate.scope candidate.toCriterionSetStatusDefinition
    if sha256 bytes = candidate.definitionSha256 then .ok candidate
    else .error (.contract "Invalid canonical definition digest")
  else
    .error (.contract "Invalid criterion_set_status record")

def follows (scope : EvidenceScope) (previous : String) (record : CriterionSetStatusRecord) : Prop :=
  record.scope = scope ∧ utf16Units previous < utf16Units record.statusRecordId

instance (scope : EvidenceScope) (previous : String) (record : CriterionSetStatusRecord)
    : Decidable (follows scope previous record) :=
  inferInstanceAs (Decidable (_ ∧ _))

def checkHistoryRecord (scope : EvidenceScope) (previous : String) (raw : CriterionSetStatusRecord)
    : Except CriterionStatusHistoryError CriterionSetStatusRecord :=
  match validateCriterionSetStatus ν isNFC sha256 raw with
  | .ok record =>
    if follows scope previous record then .ok record
    else .error (.contract "Stored criterion history is invalid")
  | .error _ => .error (.contract "Stored criterion history is invalid")

def admitHistoryRecord (scope : EvidenceScope) (limits : CriterionStatusHistoryLimits) (state : Admission)
    (raw : CriterionSetStatusRecord) : Except CriterionStatusHistoryError Admission := do
  let record ← checkHistoryRecord ν isNFC sha256 scope state.previous raw
  let canonical ← (serializeEvaluationCanonicalJson (record.json : Json ν)).mapError .canonical
  let bytes := state.bytes + (byteLength canonical + if state.records = [] then 0 else 1)
  if limits.maxRecordBytes < bytes then .error (.limit .bytes)
  else .ok ⟨bytes, record.statusRecordId, state.records ++ [⟨record, canonical⟩]⟩

def admitHistoryRecords (scope : EvidenceScope) (input : List CriterionSetStatusRecord)
    (limitsInput : CriterionStatusHistoryLimits) : Except CriterionStatusHistoryError Admission := do
  let limits ← requireCriterionStatusHistoryLimits limitsInput
  if limits.maxRecords < input.length then .error (.limit .records)
  else input.foldlM (admitHistoryRecord ν isNFC sha256 scope limits) ⟨2, "", []⟩

def absorbRecord (state : DigestState × List HistoryRecord) (admitted : AdmittedRecord)
    : DigestState × List HistoryRecord :=
  let digest := if state.2 = [] then state.1 else state.1.update [',']
  (digest.update admitted.canonical,
    state.2 ++ [⟨admitted.record, sha256 (DigestState.create.update admitted.canonical).absorbed⟩])

def absorbHistory (records : List AdmittedRecord) (scopeText : List Char)
    : DigestState × List HistoryRecord :=
  let start := DigestState.create.update
    "\x7b\"format\":\"proofstack.criterion-status-history.v1\",\"records\":[".toList
  let absorbed := records.foldl (absorbRecord sha256) (start, [])
  (((absorbed.1.update "],\"scope\":".toList).update scopeText).update ['}'], absorbed.2)

def inspectCriterionStatusHistory (scope : EvidenceScope) (input : List CriterionSetStatusRecord)
    (limits : CriterionStatusHistoryLimits) : Except CriterionStatusHistoryError CriterionStatusHistory :=
  if EvidenceScopeSchema scope then do
    let admission ← admitHistoryRecords ν isNFC sha256 scope input limits
    let scopeText ← (serializeEvaluationCanonicalJson (evidenceScopeJson scope : Json ν)).mapError .canonical
    let absorbed := absorbHistory sha256 admission.records scopeText
    .ok ⟨sha256 absorbed.1.absorbed, absorbed.2⟩
  else
    .error .scope

end History

def historyJson {ν : Type} (scope : EvidenceScope) (records : List CriterionSetStatusRecord) : Json ν :=
  namedObject [("format", stringJson "proofstack.criterion-status-history.v1"),
    ("records", .array (records.map CriterionSetStatusRecord.json)),
    ("scope", evidenceScopeJson scope)]

theorem intercalate_concat {α : Type} (separator : α) {items : List (List α)} (last : List α)
    (h : items ≠ [])
    : [separator].intercalate (items ++ [last]) = [separator].intercalate items ++ separator :: last := by
  cases items with
  | nil => exact absurd rfl h
  | cons first others =>
    rw [List.cons_append, intercalate_cons, intercalate_cons, List.flatMap_append, List.flatMap_singleton,
      List.append_assoc]

theorem encodeUtf8_append (left right : List Char)
    : encodeUtf8 (left ++ right) = encodeUtf8 left ++ encodeUtf8 right :=
  List.flatMap_append

def joinedTexts (records : List AdmittedRecord) : List Char :=
  [','].intercalate (records.map AdmittedRecord.canonical)

theorem joinedTexts_nil : joinedTexts [] = [] :=
  rfl

theorem joinedTexts_concat (records : List AdmittedRecord) (last : AdmittedRecord)
    : joinedTexts (records ++ [last])
        = joinedTexts records ++ ((if records = [] then [] else [',']) ++ last.canonical) := by
  unfold joinedTexts
  split
  . next h =>
    subst h
    simp
  . next h =>
    rw [List.map_append, List.map_singleton, intercalate_concat _ _ (by simpa using h)]
    rfl

section Contract

variable {ν : Type} [NumberText ν] [PrintedNumber ν] {isNFC : String → Bool} {sha256 : List UInt8 → String}

/-- What the loop over the rows keeps true: the texts are the canonical ones, and the octets of their array
have been counted. -/
structure Admission.Counted (ν : Type) [NumberText ν] (state : Admission) : Prop where
  canonical : ∀ admitted ∈ state.records,
    admitted.canonical = (admitted.record.json : Json ν).canonical.stringify
  bytes : state.bytes = 2 + byteLength (joinedTexts state.records)

theorem serializeEvaluationCanonicalJson_record (record : CriterionSetStatusRecord)
    : serializeEvaluationCanonicalJson (record.json : Json ν)
        = .ok (record.json : Json ν).canonical.stringify :=
  serializeEvaluationCanonicalJson_eq (encodable_json 62 record)

variable {scope : EvidenceScope}

omit [PrintedNumber ν] in
theorem eq_of_checkHistoryRecord {previous : String} {raw record : CriterionSetStatusRecord}
    (h : checkHistoryRecord ν isNFC sha256 scope previous raw = .ok record)
    : record = raw := by
  unfold checkHistoryRecord at h
  split at h
  . next hvalid =>
    split at h
    . cases h
      unfold validateCriterionSetStatus at hvalid
      split at hvalid
      . obtain ⟨bytes, _, hvalid⟩ := Checks.bind_eq_ok.mp hvalid
        split at hvalid
        . cases hvalid
          rfl
        . cases hvalid
      . cases hvalid
    . cases h
  . cases h

def Admission.extend (ν : Type) [NumberText ν] (state : Admission) (record : CriterionSetStatusRecord) : Admission where
  bytes := state.bytes
    + (byteLength (record.json : Json ν).canonical.stringify + if state.records = [] then 0 else 1)
  previous := record.statusRecordId
  records := state.records ++ [⟨record, (record.json : Json ν).canonical.stringify⟩]

variable {limits : CriterionStatusHistoryLimits}

theorem admitHistoryRecord_eq_ok
    {state next : Admission} {raw : CriterionSetStatusRecord}
    : admitHistoryRecord ν isNFC sha256 scope limits state raw = .ok next
        ↔ checkHistoryRecord ν isNFC sha256 scope state.previous raw = .ok raw
            ∧ (state.extend ν raw).bytes ≤ limits.maxRecordBytes ∧ next = state.extend ν raw := by
  unfold admitHistoryRecord
  rw [Checks.bind_eq_ok]
  constructor
  . rintro ⟨record, hrecord, h⟩
    cases eq_of_checkHistoryRecord hrecord
    rw [serializeEvaluationCanonicalJson_record] at h
    change (if limits.maxRecordBytes < (state.extend ν raw).bytes then _ else _) = _ at h
    split at h
    . cases h
    . next hbytes =>
      cases h
      exact ⟨hrecord, not_lt.mp hbytes, rfl⟩
  . rintro ⟨hrecord, hbytes, rfl⟩
    refine ⟨raw, hrecord, ?_⟩
    rw [serializeEvaluationCanonicalJson_record]
    change (if limits.maxRecordBytes < (state.extend ν raw).bytes then _ else _) = _
    rw [if_neg (not_lt.mpr hbytes)]
    rfl

omit [PrintedNumber ν] in
theorem Admission.Counted.extend {state : Admission} (h : state.Counted ν) (record : CriterionSetStatusRecord)
    : (state.extend ν record).Counted ν := by
  constructor
  . intro admitted hadmitted
    rcases List.mem_append.mp hadmitted with hold | hnew
    . exact h.canonical admitted hold
    . rw [List.mem_singleton.mp hnew]
  . rw [Admission.extend, joinedTexts_concat, byteLength_append, byteLength_append, h.bytes]
    have hcomma : byteLength [','] = 1 := rfl
    split
    . simp only [byteLength_nil]
      omega
    . dsimp only
      rw [hcomma]
      omega

theorem foldlM_admitHistoryRecord
    {rows : List CriterionSetStatusRecord} {state admission : Admission} (hstate : state.Counted ν)
    (h : rows.foldlM (admitHistoryRecord ν isNFC sha256 scope limits) state = .ok admission)
    : admission.Counted ν
        ∧ admission.records.map AdmittedRecord.record = state.records.map AdmittedRecord.record ++ rows := by
  induction rows generalizing state with
  | nil =>
    cases h
    exact ⟨hstate, (List.append_nil _).symm⟩
  | cons raw rows ih =>
    rw [List.foldlM_cons, Checks.bind_eq_ok] at h
    obtain ⟨next, hnext, hrows⟩ := h
    obtain ⟨_, _, rfl⟩ := admitHistoryRecord_eq_ok.mp hnext
    obtain ⟨hcounted, hrecords⟩ := ih (hstate.extend raw) hrows
    refine ⟨hcounted, ?_⟩
    rw [hrecords, Admission.extend, List.map_append, List.append_assoc]
    rfl

theorem admitHistoryRecords_counted
    {input : List CriterionSetStatusRecord} {admission : Admission}
    (h : admitHistoryRecords ν isNFC sha256 scope input limits = .ok admission)
    : admission.Counted ν ∧ admission.records.map AdmittedRecord.record = input := by
  obtain ⟨limits', hlimits, h⟩ := Checks.bind_eq_ok.mp h
  split at h
  . cases h
  . exact foldlM_admitHistoryRecord ⟨fun _ hmem => absurd hmem List.not_mem_nil, rfl⟩ h

theorem foldl_absorbRecord (start : DigestState) (records : List AdmittedRecord)
    : (records.foldl (absorbRecord sha256) (start, [])).1.absorbed
          = start.absorbed ++ encodeUtf8 (joinedTexts records)
        ∧ (records.foldl (absorbRecord sha256) (start, [])).2.length = records.length := by
  induction records using List.reverseRecOn with
  | nil => exact ⟨by rw [joinedTexts_nil]; exact (List.append_nil _).symm, rfl⟩
  | append_singleton records last ih =>
    obtain ⟨habsorbed, hlength⟩ := ih
    rw [List.foldl_append, List.foldl_cons, List.foldl_nil]
    generalize records.foldl (absorbRecord sha256) (start, []) = state at habsorbed hlength
    have hempty : state.2 = [] ↔ records = [] := by
      rw [← List.length_eq_zero_iff, ← List.length_eq_zero_iff, hlength]
    constructor
    . rw [joinedTexts_concat, encodeUtf8_append, encodeUtf8_append, ← List.append_assoc, ← habsorbed,
        ← List.append_assoc]
      unfold absorbRecord
      by_cases h : records = []
      . rw [if_pos (hempty.mpr h), if_pos h]
        simp [DigestState.update, encodeUtf8]
      . rw [if_neg (fun hstate => h (hempty.mp hstate)), if_neg h]
        rfl
    . simp [absorbRecord, hlength]

omit [PrintedNumber ν] in
theorem joinedTexts_eq {state : Admission} (h : state.Counted ν)
    : '[' :: joinedTexts state.records ++ [']']
        = (Json.array (state.records.map (fun admitted => (admitted.record.json : Json ν)))).canonical.stringify := by
  rw [canonical_array, stringify_array, List.map_map, List.map_map, joinedTexts,
    List.map_congr_left h.canonical]
  rfl

omit [NumberText ν] [PrintedNumber ν] in
theorem sortMembers_history (format records scope : Json ν)
    : sortMembers [(text "format", format), (text "records", records), (text "scope", scope)]
        = [(text "format", format), (text "records", records), (text "scope", scope)] := by
  have hfirst : text "format" ≤ text "records" := by decide
  have hsecond : text "format" ≤ text "scope" := by decide
  have hthird : text "records" ≤ text "scope" := by decide
  apply List.mergeSort_of_pairwise
  simp [hfirst, hsecond, hthird]

omit [PrintedNumber ν] in
theorem stringify_historyJson (scope : EvidenceScope) (records : List CriterionSetStatusRecord)
    : (historyJson scope records : Json ν).canonical.stringify
        = "\x7b\"format\":\"proofstack.criterion-status-history.v1\",\"records\":".toList
          ++ (Json.array (records.map CriterionSetStatusRecord.json) : Json ν).canonical.stringify
          ++ ",\"scope\":".toList ++ (evidenceScopeJson scope : Json ν).canonical.stringify ++ ['}'] := by
  rw [historyJson, namedObject, stringify_canonical_object]
  simp only [List.map_cons, List.map_nil]
  have hformat : memberText (text "format", (stringJson "proofstack.criterion-status-history.v1" : Json ν))
      = "\"format\":\"proofstack.criterion-status-history.v1\"".toList := by
    change quote (text "format") ++ ':' :: (quote (text "proofstack.criterion-status-history.v1") ++ []) = _
    decide
  have hrecords : quote (text "records") = "\"records\"".toList := by decide
  have hscope : quote (text "scope") = "\"scope\"".toList := by decide
  rw [sortMembers_history, List.map_cons, List.map_cons, List.map_cons, List.map_nil, intercalate_cons, hformat,
    memberText, memberText, hrecords, hscope]
  simp only [List.flatMap_cons, List.flatMap_nil, List.append_nil, List.append_assoc, List.cons_append]
  rfl

/-- The digest absorbs the encoding of the whole history, and the octets that are counted are those of the
array of its records. -/
theorem historyDigest_absorbs_canonical {scope : EvidenceScope} {limits : CriterionStatusHistoryLimits}
    {input : List CriterionSetStatusRecord} {admission : Admission}
    (h : admitHistoryRecords ν isNFC sha256 scope input limits = .ok admission)
    : ∃ scopeText arrayBytes,
        serializeEvaluationCanonicalJson (evidenceScopeJson scope : Json ν) = .ok scopeText
          ∧ encodeEvaluationCanonicalJson (historyJson scope input : Json ν)
              = .ok (absorbHistory sha256 admission.records scopeText).1.absorbed
          ∧ encodeEvaluationCanonicalJson (.array (input.map CriterionSetStatusRecord.json) : Json ν)
              = .ok arrayBytes
          ∧ admission.bytes = arrayBytes.length
          ∧ (EvidenceScopeSchema scope →
              inspectCriterionStatusHistory ν isNFC sha256 scope input limits
                = .ok ⟨sha256 (absorbHistory sha256 admission.records scopeText).1.absorbed,
                    (absorbHistory sha256 admission.records scopeText).2⟩) := by
  obtain ⟨hcounted, hrecords⟩ := admitHistoryRecords_counted h
  have hscope := serializeEvaluationCanonicalJson_eq
    (encodable_evidenceScopeJson (maxCanonicalNestingDepth - 1) scope : Encodable _ (_ : Json ν))
  have harray : Encodable (maxCanonicalNestingDepth + 1)
      (.array (input.map CriterionSetStatusRecord.json) : Json ν) := by
    refine .array 64 _ (fun item hitem => ?_)
    obtain ⟨record, _, rfl⟩ := List.mem_map.mp hitem
    exact encodable_json 61 record
  have hhistory : Encodable (maxCanonicalNestingDepth + 1) (historyJson scope input : Json ν) := by
    refine encodable_namedObject (show ["format", "records", "scope"].Nodup by decide) ?_
    simp only [List.forall_mem_cons]
    refine ⟨encodable_stringJson 63 _, .array 63 _ (fun item hitem => ?_), encodable_evidenceScopeJson 62 scope, nofun⟩
    obtain ⟨record, _, rfl⟩ := List.mem_map.mp hitem
    exact encodable_json 60 record
  have htexts : (Json.array (input.map CriterionSetStatusRecord.json) : Json ν).canonical.stringify
      = '[' :: joinedTexts admission.records ++ [']'] := by
    rw [joinedTexts_eq hcounted, ← hrecords, List.map_map]
    rfl
  have habsorbed : (absorbHistory sha256 admission.records
        (evidenceScopeJson scope : Json ν).canonical.stringify).1.absorbed
      = encodeUtf8 (historyJson scope input : Json ν).canonical.stringify := by
    rw [stringify_historyJson, htexts]
    simp only [absorbHistory, DigestState.update, foldl_absorbRecord, DigestState.create]
    have hstart : "\x7b\"format\":\"proofstack.criterion-status-history.v1\",\"records\":[".toList
        = "\x7b\"format\":\"proofstack.criterion-status-history.v1\",\"records\":".toList ++ ['['] := by
      decide
    have hend : "],\"scope\":".toList = ']' :: ",\"scope\":".toList := by decide
    rw [hstart, hend, List.nil_append, ← encodeUtf8_append, ← encodeUtf8_append, ← encodeUtf8_append,
      ← encodeUtf8_append]
    simp only [List.append_assoc, List.cons_append, List.nil_append]
  have hbytes : admission.bytes = (encodeUtf8 ('[' :: joinedTexts admission.records ++ [']'])).length := by
    have hopen : byteLength ['['] = 1 := rfl
    have hclose : byteLength [']'] = 1 := rfl
    have hlength : byteLength ('[' :: joinedTexts admission.records ++ [']'])
        = byteLength ['['] + byteLength (joinedTexts admission.records) + byteLength [']'] := by
      rw [← byteLength_append, ← byteLength_append]
      rfl
    rw [hcounted.bytes]
    change _ = byteLength _
    rw [hlength, hopen, hclose]
    omega
  refine ⟨_, _, hscope, ?_, ?_, hbytes, ?_⟩
  . rw [encodeEvaluationCanonicalJson, serializeEvaluationCanonicalJson_eq hhistory, habsorbed]
    rfl
  . rw [encodeEvaluationCanonicalJson, serializeEvaluationCanonicalJson_eq harray, htexts]
    rfl
  . intro haccepted
    rw [inspectCriterionStatusHistory, if_pos haccepted, h]
    change (Except.mapError _ (serializeEvaluationCanonicalJson (evidenceScopeJson scope : Json ν)) >>= _) = _
    rw [hscope]
    rfl

theorem exists_encodeCriterionSetStatusDefinition
    {definition : CriterionSetStatusDefinition} (hscope : EvidenceScopeSchema scope)
    (hdefinition : CriterionSetStatusDefinitionSchema isNFC definition)
    : ∃ bytes, encodeCriterionSetStatusDefinition ν isNFC scope definition = .ok bytes := by
  have hobject : Encodable 64 (namedObject definition.members : Json ν) :=
    encodable_namedObject ((sublist_names definition).nodup (by decide)) (encodable_members 61 definition)
  rw [encodeCriterionSetStatusDefinition, if_pos ⟨hscope, hdefinition⟩, encodeDefinition,
    encodeEvaluationCanonicalJson, serializeEvaluationCanonicalJson_eq]
  . exact ⟨_, rfl⟩
  . refine encodable_namedObject
      (show ["definition", "definitionDomain", "encodingVersion", "schemaVersion", "scope"].Nodup by decide) ?_
    simp only [List.forall_mem_cons]
    exact ⟨hobject, encodable_stringJson 63 _, encodable_stringJson 63 _, encodable_stringJson 63 _,
      encodable_evidenceScopeJson 62 scope, nofun⟩

theorem size_canonical_json (record : CriterionSetStatusRecord)
    : byteLength (record.json : Json ν).canonical.stringify = (record.json : Json ν).size :=
  size_canonical (encodable_json 0 record).wellFormed

theorem admitHistoryRecords_singleton
    {record : CriterionSetStatusRecord}
    (hlimits : requireCriterionStatusHistoryLimits limits = .ok limits) (hlength : 1 ≤ limits.maxRecords)
    (hrecord : checkHistoryRecord ν isNFC sha256 scope "" record = .ok record)
    (hbytes : 2 + (record.json : Json ν).size ≤ limits.maxRecordBytes)
    : admitHistoryRecords ν isNFC sha256 scope [record] limits
        = .ok ((⟨2, "", []⟩ : Admission).extend ν record) := by
  have hadmitted : ((⟨2, "", []⟩ : Admission).extend ν record).bytes ≤ limits.maxRecordBytes := by
    change 2 + (byteLength (record.json : Json ν).canonical.stringify + 0) ≤ _
    rw [size_canonical_json]
    exact hbytes
  rw [admitHistoryRecords, Checks.bind_of_ok hlimits,
    if_neg (show ¬limits.maxRecords < [record].length from not_lt.mpr hlength), List.foldlM_cons,
    Checks.bind_of_ok (admitHistoryRecord_eq_ok.mpr ⟨hrecord, hadmitted, rfl⟩)]
  rfl

end Contract

namespace StatusHistorySample

open CanonicalSample

def digest : String :=
  "aaaaaaaaaaaaaaaaaaaaaaaaaaaaaaaaaaaaaaaaaaaaaaaaaaaaaaaaaaaaaaaa"

theorem sha256Schema_digest : Sha256Schema digest = true := by
  decide

def scope : EvidenceScope :=
  ⟨"env", "prj", "tnt"⟩

def record (statusRecordId : String) : CriterionSetStatusRecord where
  criterionSet := ⟨"set", "ver", digest⟩
  effectiveAt := "2024-01-01T00:00:00Z"
  expiresAt := none
  previousStatus := none
  rationale := "r"
  status := .draft
  statusRecordId
  supersededBy := none
  definitionSha256 := digest
  recordedAt := "2024-01-01T00:00:00.000Z"
  recordedByPrincipalId := "usr"
  schemaVersion := criterionSetStatusSchemaVersion
  scope

theorem recordSchema_record {id : String} (h : OpaqueIdSchema id = true)
    : CriterionSetStatusRecordSchema (fun _ => true) (record id) := by
  have hset : OpaqueIdSchema "set" = true := by decide
  have hversion : OpaqueIdSchema "ver" = true := by decide
  have heffective : TimeText.PostgresTimestampSchema "2024-01-01T00:00:00Z" := by decide
  have hrationale : AssuranceRationaleSchema (fun _ => true) "r" = true := by decide
  have hrecorded : Replay.Definition.UtcMillisecondTimestampSchema "2024-01-01T00:00:00.000Z" = true := by
    decide
  have hprincipal : OpaqueIdSchema "usr" = true := by decide
  have hscope : EvidenceScopeSchema scope := by decide
  exact ⟨⟨⟨hset, hversion, sha256Schema_digest⟩, heffective, nofun, nofun, hrationale, h, nofun, rfl⟩,
    sha256Schema_digest, hrecorded, hprincipal, rfl, hscope⟩

theorem checkHistoryRecord_record {id previous : String} (h : OpaqueIdSchema id = true)
    (hprevious : utf16Units previous < utf16Units id)
    : checkHistoryRecord SampleNumber (fun _ => true) (fun _ => digest) scope previous (record id)
        = .ok (record id) := by
  have hschema := recordSchema_record h
  obtain ⟨bytes, hbytes⟩ := exists_encodeCriterionSetStatusDefinition (ν := SampleNumber) hschema.2.2.2.2.2
    hschema.1
  have hvalid : validateCriterionSetStatus SampleNumber (fun _ => true) (fun _ => digest) (record id)
      = .ok (record id) := by
    unfold validateCriterionSetStatus
    rw [if_pos hschema, Checks.bind_of_ok hbytes]
    rfl
  unfold checkHistoryRecord
  rw [hvalid]
  exact if_pos ⟨rfl, hprevious⟩

def admission : Admission :=
  (⟨2, "", []⟩ : Admission).extend SampleNumber (record "one")

theorem admitHistoryRecords_draft
    : admitHistoryRecords SampleNumber (fun _ => true) (fun _ => digest) scope [record "one"] ⟨1, 1024⟩
        = .ok admission := by
  have hid : OpaqueIdSchema "one" = true := by decide
  have hprevious : utf16Units "" < utf16Units "one" := by decide
  have hsize : 2 + ((record "one").json : Json SampleNumber).size ≤ 1024 := by decide +kernel
  exact admitHistoryRecords_singleton rfl le_rfl (checkHistoryRecord_record hid hprevious) hsize

theorem historyDigest_absorbs_canonical_draft
    : ∃ scopeText arrayBytes,
        serializeEvaluationCanonicalJson (evidenceScopeJson scope : Json SampleNumber) = .ok scopeText
          ∧ encodeEvaluationCanonicalJson (historyJson scope [record "one"] : Json SampleNumber)
              = .ok (absorbHistory (fun _ => digest) admission.records scopeText).1.absorbed
          ∧ encodeEvaluationCanonicalJson
              (.array ([record "one"].map CriterionSetStatusRecord.json) : Json SampleNumber)
              = .ok arrayBytes
          ∧ admission.bytes = arrayBytes.length
          ∧ (EvidenceScopeSchema scope →
              inspectCriterionStatusHistory SampleNumber (fun _ => true) (fun _ => digest) scope [record "one"]
                  ⟨1, 1024⟩
                = .ok ⟨digest, (absorbHistory (fun _ => digest) admission.records scopeText).2⟩) :=
  historyDigest_absorbs_canonical admitHistoryRecords_draft

end StatusHistorySample

end Evaluation
end ProofStack
