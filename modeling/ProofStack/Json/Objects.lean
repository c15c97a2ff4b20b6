import Mathlib.Logic.Relation
import ProofStack.Json.Basic

/-!
This module contains the objects of a program and the JSON values that plain ones show.
-/

namespace ProofStack
namespace Json

inductive JsValue (ν : Type) where
  | undefined
  | null
  | bool (value : Bool)
  | number (value : ν)
  | string (units : List UInt16)
  | object (reference : Nat)
  | other
  deriving DecidableEq

inductive Descriptor (ν : Type) where
  | data (value : JsValue ν)
  | accessor
  deriving DecidableEq

structure Property (ν : Type) where
  key : List UInt16
  enumerable : Bool
  descriptor : Descriptor ν
  deriving DecidableEq

inductive Prototype where
  | objectPrototype
  | nullPrototype
  | arrayPrototype
  | otherPrototype
  deriving DecidableEq

inductive ObjectKind where
  | ordinary
  | array (length : Nat)
  deriving DecidableEq

structure JsObject (ν : Type) where
  kind : ObjectKind
  prototype : Prototype
  symbols : Nat
  properties : List (Property ν)
  deriving DecidableEq

abbrev Heap (ν : Type) := Nat → JsObject ν

def indexKey (index : Nat) : List UInt16 :=
  (Nat.toDigits 10 index).map (fun c => UInt16.ofNat c.toNat)

variable {ν : Type}

def JsValue.isUndefined : JsValue ν → Bool
  | .undefined => true
  | _ => false

theorem JsValue.isUndefined_iff {value : JsValue ν} : value.isUndefined ↔ value = .undefined := by
  cases value <;> simp [isUndefined]

def Contains (heap : Heap ν) (value held : JsValue ν) : Prop :=
  ∃ reference, value = .object reference
    ∧ ∃ property ∈ (heap reference).properties, property.descriptor = .data held

def Reaches (heap : Heap ν) : JsValue ν → JsValue ν → Prop :=
  Relation.ReflTransGen (Contains heap)

def IsCyclic (heap : Heap ν) (value : JsValue ν) : Prop :=
  ∃ held, Reaches heap value held ∧ Relation.TransGen (Contains heap) held held

def CarriesAccessor (heap : Heap ν) (value : JsValue ν) : Prop :=
  ∃ reference, Reaches heap value (.object reference)
    ∧ ∃ property ∈ (heap reference).properties, property.descriptor = .accessor

theorem not_contains_undefined {heap : Heap ν} {held : JsValue ν} : ¬Contains heap .undefined held := by
  rintro ⟨reference, heq, _⟩
  contradiction

theorem eq_undefined_of_reaches {heap : Heap ν} {held : JsValue ν} (h : Reaches heap .undefined held)
    : held = .undefined := by
  cases Relation.ReflTransGen.cases_head h with
  | inl heq => exact heq.symm
  | inr hhead =>
    rcases hhead with ⟨_, hcontains, _⟩
    exact (not_contains_undefined hcontains).elim

theorem not_isCyclic_undefined {heap : Heap ν} : ¬IsCyclic heap .undefined := by
  rintro ⟨held, hreaches, hcycle⟩
  obtain rfl := eq_undefined_of_reaches hreaches
  rcases Relation.TransGen.head'_iff.mp hcycle with ⟨_, hcontains, _⟩
  exact not_contains_undefined hcontains

theorem not_carriesAccessor_undefined {heap : Heap ν} : ¬CarriesAccessor heap .undefined := by
  rintro ⟨reference, hreaches, _⟩
  cases eq_undefined_of_reaches hreaches

section ToJson

variable (element : JsValue ν → Option (Json ν))

def toItem (value : JsValue ν) : Option (Json ν) :=
  if value.isUndefined then some .null else element value

def toItems : Nat → List (Property ν) → Option (List (Json ν))
  | _, [] => some []
  | index, property :: properties =>
    if property.enumerable ∧ property.key = indexKey index then
      match property.descriptor with
      | .accessor => none
      | .data value => do
        let item ← toItem element value
        let items ← toItems (index + 1) properties
        return item :: items
    else
      none

def toMembers : List (Property ν) → Option (List (List UInt16 × Json ν))
  | [] => some []
  | property :: properties =>
    if property.enumerable then
      match property.descriptor with
      | .accessor => none
      | .data value =>
        if value.isUndefined then
          toMembers properties
        else do
          let member ← element value
          let members ← toMembers properties
          return (property.key, member) :: members
    else
      none

end ToJson

section Shown

variable {element : JsValue ν → Option (Json ν)} {properties : List (Property ν)}

def IsShown (element : JsValue ν → Option (Json ν)) (property : Property ν) : Prop :=
  property.enumerable
    ∧ ∃ value, property.descriptor = .data value
        ∧ (value = .undefined ∨ ∃ json, element value = some json)

theorem isShown_of_toItems {index : Nat} {items : List (Json ν)}
    (h : toItems element index properties = some items)
    : ∀ property ∈ properties, IsShown element property := by
  induction properties generalizing index items with
  | nil => simp
  | cons property properties ih =>
    unfold toItems at h
    split at h
    . next hkey =>
      split at h
      . contradiction
      . next value hvalue =>
        simp only [Option.bind_eq_bind, Option.bind_eq_some_iff] at h
        rcases h with ⟨item, hitem, others, hothers, _⟩
        intro other hother
        cases List.mem_cons.mp hother with
        | inl heq =>
          rw [heq]
          refine ⟨hkey.1, value, hvalue, ?_⟩
          unfold toItem at hitem
          split at hitem
          . next hundefined => exact .inl (JsValue.isUndefined_iff.mp hundefined)
          . exact .inr ⟨item, hitem⟩
        | inr hmem => exact ih hothers other hmem
    . contradiction

theorem isShown_of_toMembers {members : List (List UInt16 × Json ν)}
    (h : toMembers element properties = some members)
    : ∀ property ∈ properties, IsShown element property := by
  induction properties generalizing members with
  | nil => simp
  | cons property properties ih =>
    unfold toMembers at h
    split at h
    . next henumerable =>
      split at h
      . contradiction
      . next value hvalue =>
        intro other hother
        split at h
        . next hundefined =>
          cases List.mem_cons.mp hother with
          | inl heq =>
            rw [heq]
            exact ⟨henumerable, value, hvalue, .inl (JsValue.isUndefined_iff.mp hundefined)⟩
          | inr hmem => exact ih h other hmem
        . simp only [Option.bind_eq_bind, Option.bind_eq_some_iff] at h
          rcases h with ⟨member, hmember, others, hothers, _⟩
          cases List.mem_cons.mp hother with
          | inl heq =>
            rw [heq]
            exact ⟨henumerable, value, hvalue, .inr ⟨member, hmember⟩⟩
          | inr hmem => exact ih hothers other hmem
    . contradiction

end Shown

def isPlainPrototype : Prototype → Bool
  | .objectPrototype | .nullPrototype => true
  | .arrayPrototype | .otherPrototype => false

variable [NumberText ν]

def toJson (heap : Heap ν) : Nat → JsValue ν → Option (Json ν)
  | 0, _ => none
  | levels + 1, value =>
    match value with
    | .undefined | .other => none
    | .null => some .null
    | .bool value => some (.bool value)
    | .number value => if NumberText.finite value then some (.number value) else none
    | .string units => some (.string units)
    | .object reference =>
      if (heap reference).symbols ≠ 0 then
        none
      else
        match (heap reference).kind with
        | .array length =>
          if (heap reference).properties.length = length then
            (toItems (toJson heap levels) 0 (heap reference).properties).map .array
          else
            none
        | .ordinary =>
          if isPlainPrototype (heap reference).prototype then
            (toMembers (toJson heap levels) (heap reference).properties).map .object
          else
            none

variable {heap : Heap ν}

def IsForeign (heap : Heap ν) : JsValue ν → Prop
  | .other => True
  | .number value => NumberText.finite value = false
  | .object reference =>
    (heap reference).kind = .ordinary ∧ isPlainPrototype (heap reference).prototype = false
      ∨ (heap reference).symbols ≠ 0
      ∨ ∃ property ∈ (heap reference).properties, property.enumerable = false
  | _ => False

def CarriesForeign (heap : Heap ν) (value : JsValue ν) : Prop :=
  ∃ held, Reaches heap value held ∧ IsForeign heap held

section Plain

variable {levels : Nat} {value held : JsValue ν} {json : Json ν}

theorem isShown_of_toJson {reference : Nat}
    (h : toJson heap (levels + 1) (.object reference) = some json)
    : ∀ property ∈ (heap reference).properties, IsShown (toJson heap levels) property := by
  simp only [toJson] at h
  split at h
  . contradiction
  split at h
  . split at h
    . rcases Option.map_eq_some_iff.mp h with ⟨items, hitems, _⟩
      exact isShown_of_toItems hitems
    . contradiction
  . split at h
    . rcases Option.map_eq_some_iff.mp h with ⟨members, hmembers, _⟩
      exact isShown_of_toMembers hmembers
    . contradiction

theorem not_isForeign_of_toJson (h : toJson heap levels value = some json)
    : ¬IsForeign heap value := by
  cases levels with
  | zero => contradiction
  | succ levels =>
    intro hforeign
    cases value with
    | object reference =>
      rcases hforeign with ⟨hkind, hprototype⟩ | hsymbols | ⟨property, hproperty, henumerable⟩
      . simp [toJson, hkind, hprototype] at h
      . simp [toJson, hsymbols] at h
      . have hshown := (isShown_of_toJson h property hproperty).1
        rw [henumerable] at hshown
        contradiction
    | number value =>
      unfold IsForeign at hforeign
      simp [toJson, hforeign] at h
    | other => contradiction
    | _ => exact hforeign

theorem toJson_of_contains (h : toJson heap levels value = some json)
    (hcontains : Contains heap value held)
    : held = .undefined ∨ ∃ levels' < levels, ∃ json', toJson heap levels' held = some json' := by
  rcases hcontains with ⟨reference, rfl, property, hproperty, hdata⟩
  cases levels with
  | zero => contradiction
  | succ levels =>
    rcases (isShown_of_toJson h property hproperty).2 with ⟨value, hvalue, hshown⟩
    rw [hdata] at hvalue
    cases hvalue
    cases hshown with
    | inl hundefined => exact .inl hundefined
    | inr hjson => exact .inr ⟨levels, Nat.lt_succ_self levels, hjson⟩

theorem toJson_of_transGen (h : toJson heap levels value = some json)
    (hreaches : Relation.TransGen (Contains heap) value held)
    : held = .undefined ∨ ∃ levels' < levels, ∃ json', toJson heap levels' held = some json' := by
  induction hreaches with
  | single hcontains => exact toJson_of_contains h hcontains
  | tail _ hcontains ih =>
    rcases ih with rfl | ⟨levels', hlt, json', hjson'⟩
    . exact (not_contains_undefined hcontains).elim
    . rcases toJson_of_contains hjson' hcontains with hundefined | ⟨levels'', hlt', hjson''⟩
      . exact .inl hundefined
      . exact .inr ⟨levels'', hlt'.trans hlt, hjson''⟩

theorem toJson_of_reaches (h : toJson heap levels value = some json) (hreaches : Reaches heap value held)
    : held = .undefined ∨ ∃ levels' json', toJson heap levels' held = some json' := by
  cases Relation.reflTransGen_iff_eq_or_transGen.mp hreaches with
  | inl heq =>
    rw [heq]
    exact .inr ⟨levels, json, h⟩
  | inr htrans =>
    rcases toJson_of_transGen h htrans with hundefined | ⟨levels', _, hjson'⟩
    . exact .inl hundefined
    . exact .inr ⟨levels', hjson'⟩

theorem not_transGen_self (h : toJson heap levels value = some json)
    : ¬Relation.TransGen (Contains heap) value value := by
  intro hcycle
  induction levels using Nat.strong_induction_on generalizing json with
  | h levels ih =>
    rcases toJson_of_transGen h hcycle with rfl | ⟨levels', hlt, json', hjson'⟩
    . rcases Relation.TransGen.head'_iff.mp hcycle with ⟨_, hcontains, _⟩
      exact not_contains_undefined hcontains
    . exact ih levels' hlt hjson'

theorem toJson_of_isCyclic (h : IsCyclic heap value) : toJson heap levels value = none := by
  rcases h with ⟨held, hreaches, hcycle⟩
  cases hjson : toJson heap levels value with
  | none => rfl
  | some json =>
    rcases toJson_of_reaches hjson hreaches with rfl | ⟨levels', json', hjson'⟩
    . rcases Relation.TransGen.head'_iff.mp hcycle with ⟨_, hcontains, _⟩
      exact (not_contains_undefined hcontains).elim
    . exact (not_transGen_self hjson' hcycle).elim

theorem toJson_of_carriesAccessor (h : CarriesAccessor heap value)
    : toJson heap levels value = none := by
  rcases h with ⟨reference, hreaches, property, hproperty, haccessor⟩
  cases hjson : toJson heap levels value with
  | none => rfl
  | some json =>
    rcases toJson_of_reaches hjson hreaches with heq | ⟨levels', json', hjson'⟩
    . contradiction
    . cases levels' with
      | zero => contradiction
      | succ levels' =>
        rcases (isShown_of_toJson hjson' property hproperty).2 with ⟨value, hvalue, _⟩
        rw [haccessor] at hvalue
        contradiction

theorem toJson_of_carriesForeign (h : CarriesForeign heap value)
    : toJson heap levels value = none := by
  rcases h with ⟨held, hreaches, hforeign⟩
  cases hjson : toJson heap levels value with
  | none => rfl
  | some json =>
    rcases toJson_of_reaches hjson hreaches with rfl | ⟨levels', json', hjson'⟩
    . exact hforeign.elim
    . exact (not_isForeign_of_toJson hjson' hforeign).elim

end Plain

theorem not_carriesForeign_undefined : ¬CarriesForeign heap .undefined := by
  rintro ⟨held, hreaches, hforeign⟩
  obtain rfl := eq_undefined_of_reaches hreaches
  exact hforeign

end Json
end ProofStack
