import ProofStack.Otlp.Normalize
import ProofStack.StateMachine.Returns

/-!
This module contains the proofs about the attributes of one list.
-/

namespace ProofStack
namespace Otlp

open Host StateMachine

def Normalizes (value : Option OtlpAnyValue) (normalized : Value) : Prop :=
  ∃ remaining remaining', normalizeAnyValue (maxOtlpAnyValueDepth + 1) value remaining
    = .ok normalized remaining'

theorem copyMembers_append (members others : List (Text × Value))
    : copyMembers (members ++ others) = copyMembers members ++ copyMembers others := by
  induction members with
  | nil => rfl
  | cons member members ih =>
    rw [List.cons_append, copyMembers, copyMembers, ih]
    split <;> rfl

theorem copyMembers_keys_sublist (members : List (Text × Value))
    : ((copyMembers members).map (·.1)).Sublist (members.map (·.1)) := by
  induction members with
  | nil => exact List.Sublist.slnil
  | cons member members ih =>
    rw [copyMembers]
    split
    . exact ih.cons _
    . exact ih.cons_cons _

def isContent (entry : OtlpKeyValue) : Bool :=
  entry.1 ∈ contentAttributeKeys

def isProto (entry : OtlpKeyValue) : Bool :=
  entry.1 = protoKey

def Kept (entry : OtlpKeyValue) (member : Text × Value) : Prop :=
  member.1 = entry.1 ∧ ∃ value, Normalizes entry.2 value ∧ member.2 = copy value

def redactedField (path : Text) (entry : OtlpKeyValue) : Text :=
  path ++ text "." ++ entry.1

structure KeyValues (path : Text) (inherited : List Text) (entries : List OtlpKeyValue)
    (context : AttributeContext) : Prop where
  nodup : (context.attributes.own.map (·.1)).Nodup
  kept : List.Forall₂ Kept (entries.filter (fun entry => !isContent entry && !isProto entry))
    (copyMembers context.attributes.own)
  redacted : context.redactedFields
    = inherited ++ (entries.filter isContent).map (redactedField path)

theorem keyValues_start (path : Text) (inherited : List Text)
    : KeyValues path inherited [] ⟨Object.empty, inherited⟩ where
  nodup := List.nodup_nil
  kept := List.Forall₂.nil
  redacted := (List.append_nil inherited).symm

theorem returns_boundedString (value : Text) (maximumCharacters : Nat)
    (reason : OtlpSpanRejectionReason) (allowEmpty : Bool)
    : Returns (· = value) (boundedString value maximumCharacters reason allowEmpty) :=
  Returns.skip (fun _ => Returns.pure rfl)

theorem returns_rejectIf (condition : Prop) [Decidable condition] (reason : OtlpSpanRejectionReason)
    : Returns (fun _ => ¬condition) (rejectIf condition reason) :=
  Returns.ite (fun _ => Returns.throw _) (fun h => Returns.pure h)

theorem nodup_append_key {own : List (Text × Value)} {key : Text} {value : Value}
    (h : (own.map (·.1)).Nodup) (hnew : ∀ member ∈ own, member.1 ≠ key)
    : ((own ++ [(key, value)]).map (·.1)).Nodup := by
  rw [List.map_append, List.nodup_append]
  refine ⟨h, by simp, ?_⟩
  intro k hk k' hk'
  rcases List.mem_map.mp hk with ⟨member, hmember, rfl⟩
  simp only [List.map_cons, List.map_nil, List.mem_singleton] at hk'
  rw [hk']
  exact hnew member hmember

theorem KeyValues.set_proto {path : Text} {inherited : List Text} {entries : List OtlpKeyValue}
    {context : AttributeContext} (h : KeyValues path inherited entries context)
    (hnew : context.attributes.hasOwn protoKey = false) (value : Value)
    : ((context.attributes.set protoKey value).own.map (·.1)).Nodup
        ∧ copyMembers (context.attributes.set protoKey value).own = copyMembers context.attributes.own := by
  by_cases hsetter : context.attributes.toValue.hasProtoSetter = true
  . rw [Object.set_proto_of_setter hsetter]
    exact ⟨h.nodup, rfl⟩
  . have hset : (context.attributes.set protoKey value).own
        = context.attributes.own ++ [(protoKey, value)] := by
      unfold Object.set Object.define
      rw [if_neg (fun hboth => hsetter hboth.2), hnew]
      rfl
    rw [hset, copyMembers_append]
    refine ⟨nodup_append_key h.nodup (Object.hasOwn_eq_false.mp hnew), ?_⟩
    simp [copyMembers]

theorem KeyValues.step {path : Text} {inherited : List Text} {entries : List OtlpKeyValue}
    {context : AttributeContext} (h : KeyValues path inherited entries context) (entry : OtlpKeyValue)
    : Returns (KeyValues path inherited (entries ++ [entry])) (normalizeKeyValue path context entry) := by
  refine Returns.bind (returns_boundedString _ _ _ _) ?_
  rintro key rfl
  refine Returns.bind (returns_rejectIf _ _) ?_
  intro _ hnew
  rw [Bool.not_eq_true] at hnew
  refine Returns.ite ?_ ?_
  . intro hcontent
    refine Returns.skip ?_
    intro _
    refine Returns.pure ?_
    have hentry : isContent entry = true := decide_eq_true hcontent
    constructor
    . exact h.nodup
    . simpa [List.filter_append, hentry] using h.kept
    . simp [h.redacted, List.filter_append, hentry, redactedField]
  . intro hcontent
    have hentry : isContent entry = false := decide_eq_false hcontent
    refine Returns.bind_of_run ?_
    intro remaining value remaining' hrun
    refine Returns.pure ?_
    have hvalue : Normalizes entry.2 value := ⟨remaining, remaining', hrun⟩
    by_cases hproto : entry.1 = protoKey
    . have hset := h.set_proto (by rwa [hproto] at hnew) value
      rw [← hproto] at hset
      have hproto' : isProto entry = true := decide_eq_true hproto
      constructor
      . exact hset.1
      . rw [hset.2]
        simpa [List.filter_append, hentry, hproto'] using h.kept
      . simp [h.redacted, List.filter_append, hentry]
    . have hproto' : isProto entry = false := decide_eq_false hproto
      rw [Object.set_of_ne hproto hnew]
      constructor
      . exact nodup_append_key h.nodup (Object.hasOwn_eq_false.mp hnew)
      . have hkept : List.Forall₂ Kept [entry] (copyMembers [(entry.1, value)]) := by
          simp only [copyMembers, if_neg hproto]
          exact .cons ⟨rfl, value, hvalue, rfl⟩ .nil
        simp only [List.filter_append, copyMembers_append]
        refine List.rel_append h.kept ?_
        simpa [hentry, hproto'] using hkept
      . simp [h.redacted, List.filter_append, hentry]

theorem returns_normalizeKeyValues (values : List OtlpKeyValue) (path : Text) (maximum : Nat)
    (inherited : List Text)
    : Returns (KeyValues path inherited values) (normalizeKeyValues values path maximum inherited) := by
  refine Returns.skip ?_
  intro _
  exact Returns.foldlM (keyValues_start path inherited) (fun _ entry _ h => h.step entry)

end Otlp
end ProofStack
