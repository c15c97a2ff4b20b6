import ProofStack.Contracts.Primitives
import ProofStack.Encoding.Bytes

/-!
This module contains the binary encoding that the server hashes definitions in.
-/

namespace ProofStack
namespace Replay
namespace Encoder

open Encoding

inductive EncodingError where
  | schema
  | range (message : String)
  deriving DecidableEq

def maxUnsigned32 : Nat := 0xffffffff

def concatenateBytes (parts : List Bytes) : Bytes :=
  parts.flatten

def concatenate (parts : List (Except EncodingError Bytes)) : Except EncodingError Bytes := do
  return concatenateBytes (← parts.mapM id)

def encodeBoolean (value : Bool) : Except EncodingError Bytes :=
  .ok [if value then 1 else 0]

def encodeUnsigned32 (value : Int) : Except EncodingError Bytes :=
  if value < 0 ∨ value > maxUnsigned32 then
    .error (.range "Binary encoding requires an unsigned 32-bit integer")
  else
    .ok (bigEndian 4 value.toNat)

def encodeUnsignedSafeInteger (value : Int) : Except EncodingError Bytes :=
  if value > maxSafeInteger ∨ value < 0 then
    .error (.range "Binary encoding requires a nonnegative safe integer")
  else
    .ok (bigEndian 8 value.toNat)

def encodeBytes (value : Bytes) : Except EncodingError Bytes :=
  concatenate [encodeUnsigned32 value.length, .ok value]

def encodeString (value : String) : Except EncodingError Bytes :=
  encodeBytes (utf8 value)

def encodeOptional {α : Type} (value : Option α) (encode : α → Except EncodingError Bytes)
    : Except EncodingError Bytes :=
  match value with
  | none => .ok [0]
  | some present => concatenate [.ok [1], encode present]

def encodeSequence {α : Type} (values : List α) (encode : α → Except EncodingError Bytes)
    : Except EncodingError Bytes :=
  concatenate (encodeUnsigned32 values.length :: values.map encode)

end Encoder
end Replay
end ProofStack
