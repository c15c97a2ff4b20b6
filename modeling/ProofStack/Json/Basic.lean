import Mathlib.Data.List.Basic
import Mathlib.Data.Nat.Digits.Defs

/-!
This module contains JSON values and their texts.
-/

namespace ProofStack

inductive Json (ν : Type) where
  | null
  | bool (value : Bool)
  | number (value : ν)
  | string (units : List UInt16)
  | array (items : List (Json ν))
  | object (members : List (List UInt16 × Json ν))

namespace Json

inductive Token (ν : Type) where
  | openObject
  | closeObject
  | openArray
  | closeArray
  | colon
  | comma
  | null
  | bool (value : Bool)
  | number (value : ν)
  | string (units : List UInt16)
  deriving DecidableEq

inductive NumberState where
  | start
  | minus
  | zero
  | integer
  | point
  | fraction
  | exponent
  | sign
  | power
  deriving DecidableEq

def isDigit (c : Char) : Bool :=
  '0' ≤ c && c ≤ '9'

def NumberState.next (s : NumberState) (c : Char) : Option NumberState :=
  match s with
  | .start => if c = '-' then some .minus else integerPart
  | .minus => integerPart
  | .zero => rest
  | .integer => if isDigit c then some .integer else rest
  | .point => if isDigit c then some .fraction else none
  | .fraction => if isDigit c then some .fraction else power
  | .exponent => if c = '+' ∨ c = '-' then some .sign else digits
  | .sign | .power => digits
where
  integerPart : Option NumberState :=
    if c = '0' then some .zero else if isDigit c then some .integer else none
  power : Option NumberState :=
    if c = 'e' ∨ c = 'E' then some .exponent else none
  rest : Option NumberState :=
    if c = '.' then some .point else power
  digits : Option NumberState :=
    if isDigit c then some .power else none

def NumberState.Accepting (s : NumberState) : Bool :=
  s = .zero || s = .integer || s = .fraction || s = .power

def isNumber (text : List Char) : Bool :=
  (text.foldlM NumberState.next .start).elim false NumberState.Accepting

class NumberText (ν : Type) where
  finite : ν → Bool
  text : ν → List Char
  read : List Char → ν

class LawfulNumberText (ν : Type) [NumberText ν] : Prop where
  isNumber_text : ∀ n : ν, NumberText.finite n → isNumber (NumberText.text n)
  read_text : ∀ n : ν, NumberText.finite n → NumberText.read (NumberText.text n) = n

def isHighSurrogate (u : UInt16) : Bool :=
  0xD800 ≤ u.toNat && u.toNat ≤ 0xDBFF

def isLowSurrogate (u : UInt16) : Bool :=
  0xDC00 ≤ u.toNat && u.toNat ≤ 0xDFFF

def pairChar (high low : UInt16) : Char :=
  Char.ofNat (0x10000 + (high.toNat - 0xD800) * 0x400 + (low.toNat - 0xDC00))

def charUnits (c : Char) : List UInt16 :=
  if c.toNat < 0x10000 then
    [UInt16.ofNat c.toNat]
  else
    [UInt16.ofNat (0xD800 + (c.toNat - 0x10000) / 0x400),
      UInt16.ofNat (0xDC00 + (c.toNat - 0x10000) % 0x400)]

def hexDigits (u : UInt16) : List Nat :=
  [u.toNat / 4096, u.toNat / 256 % 16, u.toNat / 16 % 16, u.toNat % 16]

def quoteUnit (u : UInt16) : List Char :=
  if u = 0x08 then ['\\', 'b']
  else if u = 0x09 then ['\\', 't']
  else if u = 0x0A then ['\\', 'n']
  else if u = 0x0C then ['\\', 'f']
  else if u = 0x0D then ['\\', 'r']
  else if u = 0x22 then ['\\', '"']
  else if u = 0x5C then ['\\', '\\']
  else if u.toNat < 0x20 || isHighSurrogate u || isLowSurrogate u then
    '\\' :: 'u' :: (hexDigits u).map Nat.digitChar
  else [Char.ofNat u.toNat]

def quoteUnits : List UInt16 → List Char
  | [] => []
  | [u] => quoteUnit u
  | u :: v :: rest =>
    if isHighSurrogate u && isLowSurrogate v then
      pairChar u v :: quoteUnits rest
    else
      quoteUnit u ++ quoteUnits (v :: rest)

def quote (units : List UInt16) : List Char :=
  '"' :: quoteUnits units ++ ['"']

def Token.text {ν : Type} [NumberText ν] : Token ν → List Char
  | .openObject => ['{']
  | .closeObject => ['}']
  | .openArray => ['[']
  | .closeArray => [']']
  | .colon => [':']
  | .comma => [',']
  | .null => ['n', 'u', 'l', 'l']
  | .bool true => ['t', 'r', 'u', 'e']
  | .bool false => ['f', 'a', 'l', 's', 'e']
  | .number n => NumberText.text n
  | .string units => quote units

variable {ν : Type}

mutual

@[simp]
def tokens [NumberText ν] : Json ν → List (Token ν)
  | .null => [.null]
  | .bool value => [.bool value]
  | .number value => if NumberText.finite value then [.number value] else [.null]
  | .string units => [.string units]
  | .array items => .openArray :: [Token.comma].intercalate (itemTokens items) ++ [.closeArray]
  | .object members =>
    .openObject :: [Token.comma].intercalate (memberTokens members) ++ [.closeObject]

@[simp]
def itemTokens [NumberText ν] : List (Json ν) → List (List (Token ν))
  | [] => []
  | item :: items => tokens item :: itemTokens items

@[simp]
def memberTokens [NumberText ν] : List (List UInt16 × Json ν) → List (List (Token ν))
  | [] => []
  | (key, value) :: members => (.string key :: .colon :: tokens value) :: memberTokens members

end

theorem itemTokens_eq_map [NumberText ν] (items : List (Json ν))
    : itemTokens items = items.map tokens := by
  induction items with
  | nil => rfl
  | cons item items ih => rw [itemTokens, List.map_cons, ih]

theorem memberTokens_eq_map [NumberText ν] (members : List (List UInt16 × Json ν))
    : memberTokens members
        = members.map (fun member => .string member.1 :: .colon :: tokens member.2) := by
  induction members with
  | nil => rfl
  | cons member members ih => rw [memberTokens, List.map_cons, ih]

def stringify [NumberText ν] (value : Json ν) : List Char :=
  value.tokens.flatMap Token.text

def arrayIndex (key : List UInt16) : Option Nat :=
  if key.all (fun u => 0x30 ≤ u.toNat && u.toNat ≤ 0x39) && (key = [0x30] || key.head?.any (· ≠ 0x30))
      && Nat.ofDigits 10 (key.reverse.map (fun u => u.toNat - 0x30)) < 2 ^ 32 - 1 then
    some (Nat.ofDigits 10 (key.reverse.map (fun u => u.toNat - 0x30)))
  else
    none

def isIndexBelow (index : Nat) (key : List UInt16) : Bool :=
  (arrayIndex key).any (· < index)

def Precedes (left right : List UInt16) : Prop :=
  match arrayIndex right with
  | some index => isIndexBelow index left
  | none => left ≠ right

instance (left right : List UInt16) : Decidable (Precedes left right) := by
  unfold Precedes
  split <;> infer_instance

def define (members : List (List UInt16 × Json ν)) (key : List UInt16) (value : Json ν)
    : List (List UInt16 × Json ν) :=
  if members.any (·.1 = key) then
    members.map (fun member => if member.1 = key then (key, value) else member)
  else
    match arrayIndex key with
    | some index =>
      members.takeWhile (isIndexBelow index ·.1) ++ (key, value)
        :: members.dropWhile (isIndexBelow index ·.1)
    | none => members ++ [(key, value)]

inductive Serializable [NumberText ν] : Json ν → Prop where
  | null : Serializable .null
  | bool (value : Bool) : Serializable (.bool value)
  | number (value : ν) (hfinite : NumberText.finite value) : Serializable (.number value)
  | string (units : List UInt16) : Serializable (.string units)
  | array (items : List (Json ν)) (hitems : ∀ item ∈ items, Serializable item)
    : Serializable (.array items)
  | object (members : List (List UInt16 × Json ν)) (hkeys : (members.map Prod.fst).Pairwise Precedes)
    (hvalues : ∀ member ∈ members, Serializable member.2)
    : Serializable (.object members)

inductive ReadBack [NumberText ν] : Json ν → Prop where
  | null : ReadBack .null
  | bool (value : Bool) : ReadBack (.bool value)
  | number (value : ν) (hfinite : NumberText.finite value) (htext : isNumber (NumberText.text value))
    (hread : NumberText.read (NumberText.text value) = value)
    : ReadBack (.number value)
  | string (units : List UInt16) : ReadBack (.string units)
  | array (items : List (Json ν)) (hitems : ∀ item ∈ items, ReadBack item) : ReadBack (.array items)
  | object (members : List (List UInt16 × Json ν)) (hvalues : ∀ member ∈ members, ReadBack member.2)
    : ReadBack (.object members)

mutual

def inOrder : Json ν → Json ν
  | .null => .null
  | .bool value => .bool value
  | .number value => .number value
  | .string units => .string units
  | .array items => .array (itemsInOrder items)
  | .object members => .object (membersInOrder [] members)

def itemsInOrder : List (Json ν) → List (Json ν)
  | [] => []
  | item :: items => inOrder item :: itemsInOrder items

def membersInOrder (done : List (List UInt16 × Json ν))
    : List (List UInt16 × Json ν) → List (List UInt16 × Json ν)
  | [] => done
  | (key, value) :: members => membersInOrder (define done key (inOrder value)) members

end

end Json

end ProofStack
