import ProofStack.Host.Text
import ProofStack.Json.Canonical
import ProofStack.Json.RoundTrip
import ProofStack.StateMachine.Returns

/-!
This module contains the canonical JSON text that the digests of evaluation definitions are computed from.
-/

namespace ProofStack
namespace Evaluation

open Host Json

def maxCanonicalNestingDepth : Nat := 64

def maxCanonicalKeyEncodings : Nat := 256

inductive CanonicalJsonError where
  | range (message : String)
  | type (message : String)
  deriving DecidableEq

abbrev Encoding (α : Type) := EStateM CanonicalJsonError (List (List UInt16 × List Char)) α

def containsUnpairedSurrogate (value : List UInt16) : Bool :=
  !validUnicode value

def encodeKey (key : List UInt16) : Encoding (List Char) := do
  let keyEncodings ← get
  match keyEncodings.lookup key with
  | some encodedKey => return encodedKey
  | none =>
    if containsUnpairedSurrogate key then
      throw (.type "Canonical evaluation definition keys require Unicode scalars")
    else
      if keyEncodings.length < maxCanonicalKeyEncodings then set (keyEncodings ++ [(key, quote key)])
      return quote key

variable {ν : Type}

def encodeMember (encode : Json ν → Encoding (List Char)) (members : List (List UInt16 × Json ν))
    (result : List Char) (key : List UInt16 × Nat) : Encoding (List Char) := do
  let encodedKey ← encodeKey key.1
  let result := if key.2 > 0 then result ++ [','] else result
  match valueOf key.1 members with
  | none => throw (.type "Canonical evaluation definitions contain JSON values only")
  | some value =>
    let encoded ← encode value
    return result ++ (encodedKey ++ ':' :: encoded)

/-- The text of a value that may be nested in so many levels. A tree contains no circular reference, and
its arrays have all of their items. -/
def canonicalJson [NumberText ν] : Nat → Json ν → Encoding (List Char)
  | 0, _ => throw (.range "Canonical evaluation definitions cannot exceed 64 levels")
  | levels + 1, value =>
    match value with
    | .null => return "null".toList
    | .bool value => return if value then "true".toList else "false".toList
    | .number value =>
      if NumberText.finite value then return NumberText.text value
      else throw (.type "Canonical evaluation definitions require finite JSON numbers")
    | .string units =>
      if containsUnpairedSurrogate units then
        throw (.type "Canonical evaluation definitions require Unicode scalar strings")
      else
        return quote units
    | .array values => do
      let items ← values.mapM (canonicalJson levels)
      return '[' :: [','].intercalate items ++ [']']
    | .object members => do
      let keys := (members.map Prod.fst).mergeSort (fun left right => left ≤ right)
      let result ← keys.zipIdx.foldlM (encodeMember (canonicalJson levels) members) ['{']
      return result ++ ['}']

def serializeEvaluationCanonicalJson [NumberText ν] (value : Json ν)
    : Except CanonicalJsonError (List Char) :=
  match canonicalJson (maxCanonicalNestingDepth + 1) value [] with
  | .ok text _ => .ok text
  | .error error _ => .error error

end Evaluation
end ProofStack

/-!
This module contains the proof that the encoder gives the text of the canonical form of a value, whatever
key texts it remembers.
-/

namespace ProofStack
namespace Evaluation

open Host Json StateMachine

variable {ν : Type} [NumberText ν]

/-- The values that the encoder is made for: they are nested in fewer than so many levels, their numbers are
finite, their strings are well formed and their objects have each key once. -/
inductive Encodable : Nat → Json ν → Prop where
  | null (levels : Nat) : Encodable (levels + 1) .null
  | bool (levels : Nat) (value : Bool) : Encodable (levels + 1) (.bool value)
  | number (levels : Nat) (value : ν) (hfinite : NumberText.finite value)
    : Encodable (levels + 1) (.number value)
  | string (levels : Nat) (units : List UInt16) (hunits : validUnicode units)
    : Encodable (levels + 1) (.string units)
  | array (levels : Nat) (items : List (Json ν)) (hitems : ∀ item ∈ items, Encodable levels item)
    : Encodable (levels + 1) (.array items)
  | object (levels : Nat) (members : List (Member ν)) (hkeys : (members.map Prod.fst).Nodup)
    (hunits : ∀ member ∈ members, validUnicode member.1)
    (hvalues : ∀ member ∈ members, Encodable levels member.2)
    : Encodable (levels + 1) (.object members)

theorem Encodable.wellFormed {levels : Nat} {value : Json ν} (h : Encodable levels value)
    : WellFormed value := by
  induction h with
  | null => exact .null
  | bool _ value => exact .bool value
  | number _ value hfinite => exact .number value hfinite
  | string _ units => exact .string units
  | array _ items _ ih => exact .array items ih
  | object _ members hkeys _ _ ih => exact .object members hkeys ih

def KeyEncodings (keyEncodings : List (List UInt16 × List Char)) : Prop :=
  ∀ entry ∈ keyEncodings, entry.2 = quote entry.1

theorem mem_of_lookup_eq_some {keyEncodings : List (List UInt16 × List Char)} {key : List UInt16}
    {encoded : List Char} (h : keyEncodings.lookup key = some encoded)
    : (key, encoded) ∈ keyEncodings := by
  rw [List.lookup_eq_some_iff] at h
  rcases h with ⟨before, after, rfl, _⟩
  simp

theorem yields_encodeKey {key : List UInt16} (h : validUnicode key)
    : Yields KeyEncodings (encodeKey key) (quote key) := by
  intro keyEncodings hkeyEncodings
  cases hlookup : keyEncodings.lookup key with
  | some encodedKey =>
    have hquote : encodedKey = quote key := hkeyEncodings _ (mem_of_lookup_eq_some hlookup)
    refine ⟨keyEncodings, hkeyEncodings, ?_⟩
    unfold encodeKey
    rw [get_bind_run, hlookup, hquote]
    rfl
  | none =>
    have hscalars : containsUnpairedSurrogate key = false := by rw [containsUnpairedSurrogate, h]; rfl
    unfold encodeKey
    rw [get_bind_run, hlookup, hscalars]
    by_cases hsize : keyEncodings.length < maxCanonicalKeyEncodings
    . refine ⟨keyEncodings ++ [(key, quote key)], ?_, by simp [hsize]; rfl⟩
      intro entry hentry
      rcases List.mem_append.mp hentry with hentry | hentry
      . exact hkeyEncodings entry hentry
      . rw [List.mem_singleton.mp hentry]
    . exact ⟨keyEncodings, hkeyEncodings, by simp [hsize]; rfl⟩

def memberText (member : Member ν) : List Char :=
  quote member.1 ++ ':' :: member.2.canonical.stringify

omit [NumberText ν] in
theorem valueOf_of_mem_of_nodup {members : List (Member ν)} (hkeys : (members.map Prod.fst).Nodup)
    {member : Member ν} (h : member ∈ members)
    : valueOf member.1 members = some member.2 := by
  unfold valueOf
  cases hfind : members.find? (·.1 = member.1) with
  | none =>
    rw [List.find?_eq_none] at hfind
    exact absurd (decide_eq_true rfl) (hfind member h)
  | some other =>
    have hkey : other.1 = member.1 := by simpa using List.find?_some hfind
    rw [eq_of_mem_of_fst_eq hkeys (List.mem_of_find?_eq_some hfind) h hkey]
    rfl

omit [NumberText ν] in
theorem mergeSort_keys (members : List (Member ν))
    : (members.map Prod.fst).mergeSort (fun left right => left ≤ right)
        = (sortMembers members).map Prod.fst := by
  unfold sortMembers
  rw [List.map_mergeSort]
  intro left _ right _
  rfl

section Members

variable {encode : Json ν → Encoding (List Char)} {members : List (Member ν)}

theorem yields_encodeMember (hkeys : (members.map Prod.fst).Nodup) {member : Member ν}
    (hmember : member ∈ members) (hunits : validUnicode member.1)
    (hvalue : Yields KeyEncodings (encode member.2) member.2.canonical.stringify) (result : List Char)
    (index : Nat)
    : Yields KeyEncodings (encodeMember encode members result (member.1, index))
        ((if index > 0 then result ++ [','] else result) ++ memberText member) := by
  unfold encodeMember
  rw [valueOf_of_mem_of_nodup hkeys hmember]
  refine Yields.bind (yields_encodeKey hunits) ?_
  refine Yields.bind hvalue ?_
  exact Yields.pure _

theorem yields_encodeMembers (hkeys : (members.map Prod.fst).Nodup)
    (hunits : ∀ member ∈ members, validUnicode member.1)
    (hvalues : ∀ member ∈ members, Yields KeyEncodings (encode member.2) member.2.canonical.stringify)
    {rest : List (Member ν)} (hrest : ∀ member ∈ rest, member ∈ members) (result : List Char) (index : Nat)
    : Yields KeyEncodings
        (((rest.map Prod.fst).zipIdx (index + 1)).foldlM (encodeMember encode members) result)
        (result ++ rest.flatMap (fun member => ',' :: memberText member)) := by
  induction rest generalizing result index with
  | nil =>
    rw [List.flatMap_nil, List.append_nil]
    exact Yields.pure result
  | cons member rest ih =>
    have hmember := hrest member List.mem_cons_self
    have hnext := ih (fun other hother => hrest other (List.mem_cons_of_mem _ hother))
      (result ++ [','] ++ memberText member) (index + 1)
    rw [List.map_cons, List.zipIdx_cons, List.foldlM_cons]
    refine Yields.bind (yields_encodeMember hkeys hmember (hunits member hmember) (hvalues member hmember)
      result (index + 1)) ?_
    rw [if_pos (Nat.succ_pos index), List.flatMap_cons]
    simpa using hnext

theorem yields_object (hkeys : (members.map Prod.fst).Nodup)
    (hunits : ∀ member ∈ members, validUnicode member.1)
    (hvalues : ∀ member ∈ members, Yields KeyEncodings (encode member.2) member.2.canonical.stringify)
    : Yields KeyEncodings
        ((((members.map Prod.fst).mergeSort (fun left right => left ≤ right)).zipIdx).foldlM
          (encodeMember encode members) ['{'])
        ('{' :: [','].intercalate ((sortMembers members).map memberText)) := by
  have hsorted : ∀ member ∈ sortMembers members, member ∈ members :=
    fun member hmember => (sortMembers_perm members).subset hmember
  rw [mergeSort_keys]
  cases hsort : sortMembers members with
  | nil => exact Yields.pure _
  | cons member rest =>
    rw [hsort] at hsorted
    have hmember := hsorted member List.mem_cons_self
    have hrest := yields_encodeMembers hkeys hunits hvalues
      (fun other hother => hsorted other (List.mem_cons_of_mem _ hother)) ('{' :: memberText member) 0
    rw [List.map_cons, List.zipIdx_cons, List.foldlM_cons, List.map_cons, intercalate_cons,
      List.flatMap_map]
    exact Yields.bind (yields_encodeMember hkeys hmember (hunits member hmember) (hvalues member hmember)
      ['{'] 0) hrest

end Members

theorem stringify_canonical_object (members : List (Member ν))
    : (canonical (.object members)).stringify
        = '{' :: [','].intercalate ((sortMembers members).map memberText) ++ ['}'] := by
  have hsort : sortMembers (members.map (mapValue canonical))
      = (sortMembers members).map (mapValue canonical) := by
    unfold sortMembers
    rw [List.map_mergeSort]
    intro left _ right _
    rfl
  rw [canonical_object, stringify_object, hsort, List.map_map]
  rfl

section Values

variable [PrintedNumber ν]

theorem yields_canonicalJson {levels : Nat} {value : Json ν} (h : Encodable levels value)
    : Yields KeyEncodings (canonicalJson levels value) value.canonical.stringify := by
  induction h with
  | null levels => exact Yields.pure _
  | bool levels value => cases value <;> exact Yields.pure _
  | number levels value hfinite =>
    have htext : (canonical (.number value)).stringify = NumberText.text value := by
      rw [canonical, stringify, tokens, PrintedNumber.finite_read hfinite, if_pos rfl,
        List.flatMap_singleton]
      exact text_read_text hfinite
    rw [htext, canonicalJson, hfinite]
    exact Yields.pure _
  | string levels units hunits =>
    have htext : (canonical (.string units) : Json ν).stringify = quote units := by
      rw [canonical, stringify, tokens, List.flatMap_singleton]
      rfl
    have hscalars : containsUnpairedSurrogate units = false := by
      rw [containsUnpairedSurrogate, hunits]
      rfl
    rw [htext, canonicalJson, hscalars]
    exact Yields.pure _
  | array levels items _ ih =>
    rw [canonical_array, stringify_array, List.map_map]
    exact Yields.bind (Yields.mapM ih) (Yields.pure _)
  | object levels members hkeys hunits _ ih =>
    rw [stringify_canonical_object]
    exact Yields.bind (yields_object hkeys hunits ih) (Yields.pure _)

theorem serializeEvaluationCanonicalJson_eq {value : Json ν}
    (h : Encodable (maxCanonicalNestingDepth + 1) value)
    : serializeEvaluationCanonicalJson value = .ok value.canonical.stringify := by
  have hnone : KeyEncodings [] := nofun
  rcases yields_canonicalJson h [] hnone with ⟨_, _, hrun⟩
  rw [serializeEvaluationCanonicalJson, hrun]

/-- The texts of two values are equal iff the values are, and reading a text gives the value back. -/
theorem serializeEvaluationCanonicalJson_injective {left right : Json ν}
    (hleft : Encodable (maxCanonicalNestingDepth + 1) left)
    (hright : Encodable (maxCanonicalNestingDepth + 1) right)
    : (serializeEvaluationCanonicalJson left = serializeEvaluationCanonicalJson right ↔ Same left right)
        ∧ ∃ text parsed, serializeEvaluationCanonicalJson left = .ok text ∧ parse text = some parsed
          ∧ Same parsed left := by
  rcases hleft.wellFormed.parse_canonical with ⟨parsed, hparse, hsame⟩
  rw [serializeEvaluationCanonicalJson_eq hleft, serializeEvaluationCanonicalJson_eq hright,
    Except.ok.injEq]
  exact ⟨stringify_canonical_eq_iff hleft.wellFormed hright.wellFormed, _, parsed, rfl, hparse, hsame⟩

end Values

namespace CanonicalSample

inductive SampleNumber where
  | negativeZero
  | zero
  | one

instance : NumberText SampleNumber where
  finite _ := true
  text
    | .negativeZero | .zero => ['0']
    | .one => ['1']
  read text := if text = ['1'] then .one else .zero

def SampleNumber.isOne : SampleNumber → Bool
  | .one => true
  | .negativeZero | .zero => false

instance : PrintedNumber SampleNumber where
  same left right := left.isOne = right.isOne
  text_eq_text {left right} _ _ := by
    cases left <;> cases right <;> decide
  isNumber_text {value} _ := by
    cases value <;> decide
  finite_read _ := rfl
  same_read {value} _ := by
    cases value <;> decide

def left : Json SampleNumber :=
  .object [([98], .number .negativeZero), ([97], .bool true)]

def right : Json SampleNumber :=
  .object [([97], .bool true), ([98], .number .zero)]

theorem encodable_left : Encodable (maxCanonicalNestingDepth + 1) left := by
  refine .object 64 _ (by decide) (by decide) ?_
  simp only [List.mem_cons, List.not_mem_nil, or_false, forall_eq_or_imp, forall_eq]
  exact ⟨.number 63 _ rfl, .bool 63 true⟩

theorem encodable_right : Encodable (maxCanonicalNestingDepth + 1) right := by
  refine .object 64 _ (by decide) (by decide) ?_
  simp only [List.mem_cons, List.not_mem_nil, or_false, forall_eq_or_imp, forall_eq]
  exact ⟨.bool 63 true, .number 63 _ rfl⟩

theorem serializeEvaluationCanonicalJson_injective_sample
    : (serializeEvaluationCanonicalJson left = serializeEvaluationCanonicalJson right ↔ Same left right)
        ∧ ∃ text parsed, serializeEvaluationCanonicalJson left = .ok text ∧ parse text = some parsed
          ∧ Same parsed left :=
  serializeEvaluationCanonicalJson_injective encodable_left encodable_right

end CanonicalSample

end Evaluation
end ProofStack
