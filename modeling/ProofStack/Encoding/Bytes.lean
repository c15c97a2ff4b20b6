import Mathlib.Data.List.Basic
import Mathlib.Data.List.Forall2
import ProofStack.Checks

/-!
This module contains the bytes that definitions are encoded as, and what it means that two encoders agree.
-/

namespace ProofStack
namespace Encoding

abbrev Bytes := List UInt8

def bigEndian : Nat → Nat → Bytes
  | 0, _ => []
  | width + 1, value => bigEndian width (value / 256) ++ [UInt8.ofNat value]

def utf8 (text : String) : Bytes :=
  text.toUTF8.data.toList

theorem length_bigEndian (width value : Nat) : (bigEndian width value).length = width := by
  induction width generalizing value with
  | zero => rfl
  | succ width ih => rw [bigEndian, List.length_append, ih, List.length_singleton]

theorem length_utf8 (text : String) : (utf8 text).length ≤ 4 * text.toList.length := by
  have hsize : ∀ cs : List Char, cs.utf8Encode.size ≤ 4 * cs.length := by
    intro cs
    induction cs with
    | nil => simp
    | cons c cs ih =>
      have hc := c.utf8Size_le_four
      have hone : [c].utf8Encode.size = c.utf8Size := by
        simp [List.utf8Encode]
      rw [List.utf8Encode_cons, ByteArray.size_append, List.length_cons, hone]
      omega
  have htext := hsize text.toList
  simp only [String.utf8Encode_toList, String.size_toByteArray] at htext
  simpa [utf8] using htext

def setBytes (buffer part : Bytes) (offset : Nat) : Bytes :=
  buffer.take offset ++ part ++ buffer.drop (offset + part.length)

theorem setBytes_append (written part rest : Bytes)
    : setBytes (written ++ rest) part written.length = (written ++ part) ++ rest.drop part.length := by
  unfold setBytes
  rw [List.take_left, List.drop_append, List.drop_eq_nil_of_le (Nat.le_add_right _ _), List.nil_append,
    Nat.add_sub_cancel_left]

theorem foldl_setBytes (parts : List Bytes) (written rest : Bytes) (h : rest.length = parts.flatten.length)
    : (parts.foldl (fun state part => (setBytes state.1 part state.2, state.2 + part.length))
        (written ++ rest, written.length)).1 = written ++ parts.flatten := by
  induction parts generalizing written rest with
  | nil =>
    rw [List.flatten_nil, List.length_nil, List.length_eq_zero_iff] at h
    rw [h]
    rfl
  | cons part parts ih =>
    rw [List.flatten_cons, List.length_append] at h
    rw [List.foldl_cons, setBytes_append written part rest, ← List.length_append]
    rw [ih (written ++ part) (rest.drop part.length) (by rw [List.length_drop]; omega)]
    rw [List.flatten_cons, List.append_assoc]

section Agree

variable {ε ε' α β : Type}

def Agree (left : Except ε α) (right : Except ε' α) : Prop :=
  ∀ result, left = .ok result ↔ right = .ok result

namespace Agree

variable {left : Except ε α} {right : Except ε' α}

theorem ok (a : α) : Agree (.ok a : Except ε α) (.ok a : Except ε' α) := by
  intro result
  simp

theorem throw (error : ε) (error' : ε') : Agree (.error error : Except ε α) (.error error' : Except ε' α) := by
  intro result
  simp

theorem bind (h : Agree left right) {next : α → Except ε β} {next' : α → Except ε' β}
    (hnext : ∀ a, left = .ok a → Agree (next a) (next' a))
    : Agree (left >>= next) (right >>= next') := by
  intro result
  rw [Checks.bind_eq_ok, Checks.bind_eq_ok]
  constructor
  . rintro ⟨a, ha, hrest⟩
    exact ⟨a, (h a).mp ha, (hnext a ha result).mp hrest⟩
  . rintro ⟨a, ha, hrest⟩
    exact ⟨a, (h a).mpr ha, (hnext a ((h a).mpr ha) result).mpr hrest⟩

theorem mapM {lefts : List (Except ε α)} {rights : List (Except ε' α)}
    (h : List.Forall₂ Agree lefts rights)
    : Agree (lefts.mapM id) (rights.mapM id) := by
  induction h with
  | nil => exact ok []
  | cons hfirst _ ih =>
    rw [List.mapM_cons, List.mapM_cons]
    apply bind hfirst
    intro a _
    apply bind ih
    intro others _
    exact ok (a :: others)

theorem forall₂_map {f : β → Except ε α} {f' : β → Except ε' α} {values : List β}
    (h : ∀ value ∈ values, Agree (f value) (f' value))
    : List.Forall₂ Agree (values.map f) (values.map f') := by
  rw [List.forall₂_map_left_iff, List.forall₂_map_right_iff, List.forall₂_same]
  exact h

end Agree

def Encodes (encoded : Except ε Bytes) : Prop :=
  ∃ bytes, encoded = .ok bytes

def EncodesWithin (bound : Nat) (encoded : Except ε Bytes) : Prop :=
  ∃ bytes, encoded = .ok bytes ∧ bytes.length ≤ bound

theorem EncodesWithin.encodes {bound : Nat} {encoded : Except ε Bytes} (h : EncodesWithin bound encoded)
    : Encodes encoded := by
  rcases h with ⟨bytes, hbytes, _⟩
  exact ⟨bytes, hbytes⟩

theorem mapM_encodes {parts : List (Except ε Bytes)} (h : ∀ part ∈ parts, Encodes part)
    : ∃ encoded, parts.mapM id = .ok encoded := by
  induction parts with
  | nil => exact ⟨[], rfl⟩
  | cons part parts ih =>
    rcases h part List.mem_cons_self with ⟨bytes, hbytes⟩
    rcases ih (fun other hother => h other (List.mem_cons_of_mem _ hother)) with ⟨encoded, hencoded⟩
    refine ⟨bytes :: encoded, ?_⟩
    rw [List.mapM_cons, id_eq, Checks.bind_of_ok hbytes, Checks.bind_of_ok hencoded]
    rfl

theorem mapM_encodesWithin {bound : Nat} {parts : List (Except ε Bytes)}
    (h : ∀ part ∈ parts, EncodesWithin bound part)
    : ∃ encoded, parts.mapM id = .ok encoded ∧ encoded.flatten.length ≤ parts.length * bound := by
  induction parts with
  | nil => exact ⟨[], rfl, by simp⟩
  | cons part parts ih =>
    rcases h part List.mem_cons_self with ⟨bytes, hbytes, hlength⟩
    rcases ih (fun other hother => h other (List.mem_cons_of_mem _ hother)) with
      ⟨encoded, hencoded, hlengths⟩
    refine ⟨bytes :: encoded, ?_, ?_⟩
    . rw [List.mapM_cons, id_eq, Checks.bind_of_ok hbytes, Checks.bind_of_ok hencoded]
      rfl
    . rw [List.flatten_cons, List.length_append, List.length_cons, Nat.succ_mul]
      omega

end Agree

end Encoding
end ProofStack
