import ProofStack.Arithmetic.BinaryRounding
import ProofStack.Arithmetic.DecimalText
import ProofStack.Host.Value
import ProofStack.Json.Reader

/-!
This module contains the 64-bit integers of requests in JSON.
-/

namespace ProofStack
namespace Otlp

open Arithmetic Host

inductive OtlpDecodeErrorCode where
  | invalidJson
  | invalidJsonMapping
  deriving DecidableEq

structure OtlpDecodeError where
  code : OtlpDecodeErrorCode
  message : String
  deriving DecidableEq

def mappingError {α : Type} (message : String) : Except OtlpDecodeError α :=
  .error ⟨.invalidJsonMapping, message⟩

structure NumberToken where
  source : List Char
  deriving DecidableEq

instance : Json.NumberText NumberToken where
  finite token := Json.isNumber token.source
  text token := token.source
  read := NumberToken.mk

structure DecimalParts where
  negative : Bool
  whole : List Char
  fraction : List Char
  exponent : List Char
  deriving DecidableEq

def unsignedPart : List Char → List Char
  | '+' :: digits => digits
  | '-' :: digits => digits
  | digits => digits

def matchExponent : List Char → Option (List Char)
  | [] => some ['0']
  | c :: exponent =>
    if (c = 'e' ∨ c = 'E') ∧ unsignedPart exponent ≠ [] ∧ (unsignedPart exponent).all Json.isDigit then
      some exponent
    else
      none

def matchFraction : List Char → Option (List Char × List Char)
  | '.' :: rest =>
    if rest.takeWhile Json.isDigit = [] then none
    else (matchExponent (rest.dropWhile Json.isDigit)).map (rest.takeWhile Json.isDigit, ·)
  | rest => (matchExponent rest).map ([], ·)

def matchUnsigned (negative : Bool) (source : List Char) : Option DecimalParts :=
  if source.takeWhile Json.isDigit = [] then none
  else
    (matchFraction (source.dropWhile Json.isDigit)).map
      (fun parts => ⟨negative, source.takeWhile Json.isDigit, parts.1, parts.2⟩)

def matchNumber : List Char → Option DecimalParts
  | '-' :: source => matchUnsigned true source
  | source => matchUnsigned false source

namespace DecimalParts

def power (parts : DecimalParts) : Int :=
  match parts.exponent with
  | '+' :: digits => readNatural digits
  | digits => readInteger digits

def digits (parts : DecimalParts) : List Char :=
  parts.whole ++ parts.fraction

def scale (parts : DecimalParts) : Int :=
  parts.power - parts.fraction.length

def magnitude (parts : DecimalParts) : ℚ :=
  (readNatural parts.whole + readNatural parts.fraction / 10 ^ parts.fraction.length) * 10 ^ parts.power

def value (parts : DecimalParts) : ℚ :=
  if parts.negative then -parts.magnitude else parts.magnitude

end DecimalParts

def nearestNumber (negative : Bool) (magnitude : ℚ) : Number :=
  if 2 ^ 1024 ≤ nearestBinary magnitude then .infinity negative
  else if nearestBinary magnitude = 0 ∧ negative then .negativeZero
  else .finite (if negative then -nearestBinary magnitude else nearestBinary magnitude)

def safeInteger (value : Number) : Option Int :=
  value.integer.filter isSafeInteger

def parseNumber (source : List Char) : Number :=
  match matchNumber source with
  | some parts => nearestNumber parts.negative parts.magnitude
  | none => .nan

def dropLeadingZeros : List Char → List Char
  | '0' :: next :: digits => dropLeadingZeros (next :: digits)
  | digits => digits

def integerDigits (parts : DecimalParts) : Except OtlpDecodeError (List Char) :=
  if safeInteger (nearestNumber (parts.power < 0) parts.power.natAbs) = none then
    mappingError "OTLP 64-bit integer exponent is outside the supported range"
  else if 0 ≤ parts.scale then
    if 21 < parts.digits.length + parts.scale then
      mappingError "OTLP 64-bit integer is outside the supported range"
    else
      .ok (parts.digits ++ List.replicate parts.scale.toNat '0')
  else
    let boundary := parts.digits.length + parts.scale
    if boundary ≤ 0 ∨ (parts.digits.drop boundary.toNat).all (· = '0') = false then
      mappingError "OTLP 64-bit integer JSON number has a fractional value"
    else
      .ok (parts.digits.take boundary.toNat)

def exactIntegerToken (source : List Char) : Except OtlpDecodeError (List Char) :=
  match matchNumber source with
  | none => mappingError "OTLP 64-bit integer is not a valid JSON integer"
  | some parts =>
    (integerDigits parts).map
      (fun digits => (if parts.negative then ['-'] else []) ++ dropLeadingZeros digits)

inductive Int64Field where
  | endTimeUnixNano
  | intValue
  | startTimeUnixNano
  | timeUnixNano
  deriving DecidableEq

namespace Int64Field

def key : Int64Field → Text
  | .endTimeUnixNano => text "endTimeUnixNano"
  | .intValue => text "intValue"
  | .startTimeUnixNano => text "startTimeUnixNano"
  | .timeUnixNano => text "timeUnixNano"

def unsigned : Int64Field → Bool
  | .intValue => false
  | .endTimeUnixNano | .startTimeUnixNano | .timeUnixNano => true

end Int64Field

def int64JsonFields : List Text :=
  [Int64Field.endTimeUnixNano, .intValue, .startTimeUnixNano, .timeUnixNano].map Int64Field.key

def asciiText (characters : List Char) : Text :=
  characters.map unitOf

def characters (units : Text) : List Char :=
  units.map scalarOf

def reviveNumber (key : Text) (token : NumberToken) : Except OtlpDecodeError Value :=
  if key ∈ int64JsonFields ∧ safeInteger (parseNumber token.source) = none then
    (exactIntegerToken token.source).map (fun exact => .string (asciiText exact))
  else
    .ok (.number (parseNumber token.source))

mutual

def revive (key : Text) : Json NumberToken → Except OtlpDecodeError Value
  | .null => .ok .null
  | .bool value => .ok (.bool value)
  | .number token => reviveNumber key token
  | .string units => .ok (.string units)
  | .array items => (reviveItems 0 items).map .array
  | .object members => (reviveMembers members).map (.object · .objectPrototype)

def reviveItems (index : Nat) : List (Json NumberToken) → Except OtlpDecodeError (List Value)
  | [] => .ok []
  | item :: items => do
    let value ← revive (decimal index) item
    let values ← reviveItems (index + 1) items
    return value :: values

def reviveMembers : List (Text × Json NumberToken) → Except OtlpDecodeError (List (Text × Value))
  | [] => .ok []
  | (key, member) :: members => do
    let value ← revive key member
    let values ← reviveMembers members
    return (key, value) :: values

end

def parseJson (source : List Char) : Except OtlpDecodeError Value :=
  match (Json.parse source : Option (Json NumberToken)) with
  | some json => revive [] json
  | none => .error ⟨.invalidJson, "OTLP/JSON body is not valid JSON"⟩

def integer64Minimum (unsigned : Bool) : Int :=
  if unsigned then 0 else -2 ^ 63

def integer64Maximum (unsigned : Bool) : Int :=
  if unsigned then 2 ^ 64 - 1 else 2 ^ 63 - 1

def candidate (value : Value) : Option Text :=
  match value with
  | .number number => (safeInteger number).map decimalInt
  | .string units => some units
  | _ => none

def integer64 (value : Option Value) (field : String) (unsigned : Bool) : Except OtlpDecodeError Text :=
  match value with
  | none | some .null => .ok (text "0")
  | some value =>
    match (candidate value).filter (fun units => isIntegerText (characters units)) with
    | none => mappingError (field ++ " must be a decimal 64-bit integer")
    | some units =>
      let parsed := readInteger (characters units)
      if parsed < integer64Minimum unsigned ∨ integer64Maximum unsigned < parsed then
        mappingError (field ++ " is outside the " ++ (if unsigned then "unsigned" else "signed")
          ++ " 64-bit range")
      else
        .ok (decimalInt parsed)

end Otlp
end ProofStack
