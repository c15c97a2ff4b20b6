import ProofStack.Host.Text

/-!
This module contains the values of the host language that JSON can be made of.
-/

namespace ProofStack
namespace Host

inductive Value where
  | null
  | bool (value : Bool)
  | number (value : Number)
  | string (value : Text)
  | array (items : List Value)
  | object (own : List (Text × Value)) (prototype : Value)
  -- the prototype of the objects that are written as a literal
  | objectPrototype

def protoKey : Text :=
  text "__proto__"

namespace Value

def isPrototype : Value → Bool
  | .null | .array _ | .object _ _ | .objectPrototype => true
  | .bool _ | .number _ | .string _ => false

def hasProtoSetter : Value → Bool
  | .objectPrototype | .array _ => true
  | .object own prototype => (own.lookup protoKey).isNone && hasProtoSetter prototype
  | .null | .bool _ | .number _ | .string _ => false

def get (key : Text) : Value → Option Value
  | .object own prototype => (own.lookup key).or (prototype.get key)
  | _ => none

end Value

structure Object where
  own : List (Text × Value)
  prototype : Value

namespace Object

def empty : Object :=
  ⟨[], .objectPrototype⟩

def toValue (object : Object) : Value :=
  .object object.own object.prototype

def hasOwn (object : Object) (key : Text) : Bool :=
  (object.own.lookup key).isSome

def get (object : Object) (key : Text) : Option Value :=
  object.toValue.get key

def define (object : Object) (key : Text) (value : Value) : Object :=
  if object.hasOwn key then
    { object with own := object.own.map (fun member => if member.1 = key then (key, value) else member) }
  else
    { object with own := object.own ++ [(key, value)] }

/-- The setter takes the place of the property: it changes the prototype, or nothing. -/
def set (object : Object) (key : Text) (value : Value) : Object :=
  if key = protoKey ∧ object.toValue.hasProtoSetter = true then
    if value.isPrototype then { object with prototype := value } else object
  else
    object.define key value

theorem set_of_ne {object : Object} {key : Text} {value : Value} (hkey : key ≠ protoKey)
    (hnew : object.hasOwn key = false)
    : object.set key value = { object with own := object.own ++ [(key, value)] } := by
  unfold set define
  rw [if_neg (fun h => hkey h.1), hnew]
  rfl

theorem set_proto_of_setter {object : Object} {value : Value} (h : object.toValue.hasProtoSetter = true)
    : (object.set protoKey value).own = object.own := by
  unfold set
  rw [if_pos ⟨rfl, h⟩]
  split <;> rfl

theorem hasOwn_eq_false {object : Object} {key : Text}
    : object.hasOwn key = false ↔ ∀ member ∈ object.own, member.1 ≠ key := by
  unfold hasOwn
  rw [Option.isSome_eq_false_iff, Option.isNone_iff_eq_none, List.lookup_eq_none_iff]
  simp only [bne_iff_ne, ne_comm]

end Object

end Host
end ProofStack
