import Mathlib.Data.Rat.Defs
import ProofStack.Contracts.Text

/-!
This module contains the texts and numbers of the host language.
-/

namespace ProofStack
namespace Host

abbrev Text := List UInt16

instance textLawfulBEq : LawfulBEq Text :=
  inferInstance

def text (literal : String) : Text :=
  (utf16Units literal).map UInt16.ofNat

def unitOf (c : Char) : UInt16 :=
  UInt16.ofNat c.toNat

def isBetween (first last : Char) (unit : UInt16) : Bool :=
  unitOf first ≤ unit && unit ≤ unitOf last

def isHighSurrogate (unit : UInt16) : Bool :=
  0xD800 ≤ unit && unit ≤ 0xDBFF

def isLowSurrogate (unit : UInt16) : Bool :=
  0xDC00 ≤ unit && unit ≤ 0xDFFF

/-- A text survives the way through UTF-8 iff no surrogate stands alone in it. -/
def validUnicode : Text → Bool
  | [] => true
  | [unit] => !isHighSurrogate unit && !isLowSurrogate unit
  | unit :: next :: rest =>
    if isHighSurrogate unit then isLowSurrogate next && validUnicode rest
    else !isLowSurrogate unit && validUnicode (next :: rest)

/-- A surrogate that stands alone is replaced by a character of three octets. -/
def utf8ByteLength : Text → Nat
  | [] => 0
  | [unit] => if unit < 0x80 then 1 else if unit < 0x800 then 2 else 3
  | unit :: next :: rest =>
    if isHighSurrogate unit && isLowSurrogate next then 4 + utf8ByteLength rest
    else (if unit < 0x80 then 1 else if unit < 0x800 then 2 else 3) + utf8ByteLength (next :: rest)

def scalarOf (unit : UInt16) : Char :=
  if isHighSurrogate unit || isLowSurrogate unit then Char.ofNat 0xFFFD else Char.ofNat unit.toNat

def scalarOfPair (high low : UInt16) : Char :=
  Char.ofNat (0x10000 + (high.toNat - 0xD800) * 0x400 + (low.toNat - 0xDC00))

def scalars : Text → List Char
  | [] => []
  | [unit] => [scalarOf unit]
  | unit :: next :: rest =>
    if isHighSurrogate unit && isLowSurrogate next then scalarOfPair unit next :: scalars rest
    else scalarOf unit :: scalars (next :: rest)

/-- The string that is written when a text is encoded: it has a replacement character where a surrogate
stands alone. -/
def wellFormed (units : Text) : String :=
  String.ofList (scalars units)

theorem length_scalars_le (units : Text) : (scalars units).length ≤ units.length := by
  fun_induction scalars units with
  | case1 => exact Nat.le_refl 0
  | case2 => exact Nat.le_refl 1
  | case3 unit next rest _ ih =>
    simp only [List.length_cons]
    omega
  | case4 unit next rest _ ih =>
    simp only [List.length_cons] at ih ⊢
    omega

def replaced (unit : UInt16) : UInt16 :=
  if isHighSurrogate unit || isLowSurrogate unit then 0xFFFD else unit

def toWellFormed : Text → Text
  | [] => []
  | [unit] => [replaced unit]
  | unit :: next :: rest =>
    if isHighSurrogate unit && isLowSurrogate next then unit :: next :: toWellFormed rest
    else replaced unit :: toWellFormed (next :: rest)

theorem toNat_charOfNat {value : Nat} (h : value.isValidChar) : (Char.ofNat value).toNat = value := by
  rw [Char.ofNat, dif_pos h]
  rfl

theorem units_scalarOf (unit : UInt16)
    : (charUtf16Units (scalarOf unit)).map UInt16.ofNat = [replaced unit] := by
  have hvalue : (scalarOf unit).toNat = (replaced unit).toNat := by
    unfold scalarOf replaced
    split
    . decide
    . next h =>
      apply toNat_charOfNat
      have hunit := unit.toNat_lt
      simp only [isHighSurrogate, isLowSurrogate, Bool.or_eq_true, Bool.and_eq_true, decide_eq_true_eq,
        UInt16.le_iff_toNat_le, UInt16.reduceToNat] at h
      unfold Nat.isValidChar
      omega
  have hsmall := (replaced unit).toNat_lt
  rw [charUtf16Units, if_neg (by omega), hvalue, List.map_singleton, UInt16.ofNat_toNat]

theorem units_scalarOfPair {high low : UInt16} (hhigh : isHighSurrogate high = true)
    (hlow : isLowSurrogate low = true)
    : (charUtf16Units (scalarOfPair high low)).map UInt16.ofNat = [high, low] := by
  simp only [isHighSurrogate, isLowSurrogate, Bool.and_eq_true, decide_eq_true_eq,
    UInt16.le_iff_toNat_le, UInt16.reduceToNat] at hhigh hlow
  have hvalue : (scalarOfPair high low).toNat
      = 0x10000 + (high.toNat - 0xD800) * 0x400 + (low.toNat - 0xDC00) := by
    apply toNat_charOfNat
    unfold Nat.isValidChar
    omega
  have hfirst : 55296 + ((scalarOfPair high low).toNat - 65536) / 1024 = high.toNat := by
    omega
  have hsecond : 56320 + ((scalarOfPair high low).toNat - 65536) % 1024 = low.toNat := by
    omega
  rw [charUtf16Units, if_pos (by omega), hfirst, hsecond, List.map_cons, List.map_singleton,
    UInt16.ofNat_toNat, UInt16.ofNat_toNat]

theorem text_wellFormed (units : Text) : text (wellFormed units) = toWellFormed units := by
  change (((String.ofList (scalars units)).toList.flatMap charUtf16Units).map UInt16.ofNat) = _
  rw [String.toList_ofList]
  fun_induction scalars units with
  | case1 => rfl
  | case2 unit =>
    rw [List.flatMap_singleton, units_scalarOf]
    rfl
  | case3 unit next rest h ih =>
    rw [toWellFormed, if_pos h, ← ih]
    rw [Bool.and_eq_true] at h
    rw [List.flatMap_cons, List.map_append, units_scalarOfPair h.1 h.2]
    rfl
  | case4 unit next rest h ih =>
    rw [toWellFormed, if_neg h, ← ih, List.flatMap_cons, List.map_append, units_scalarOf]
    rfl

theorem lt_of_mem_utf16Units {literal : String} {unit : Nat} (h : unit ∈ utf16Units literal)
    : unit < 65536 := by
  rcases List.mem_flatMap.mp h with ⟨c, _, hunit⟩
  have hvalid : c.toNat < 55296 ∨ 57343 < c.toNat ∧ c.toNat < 1114112 := c.valid
  split at hunit
  . simp only [List.mem_cons, List.not_mem_nil, or_false] at hunit
    omega
  . rw [List.mem_singleton] at hunit
    omega

theorem toNat_text (literal : String) : (text literal).map UInt16.toNat = utf16Units literal := by
  unfold text
  rw [List.map_map]
  conv => rhs; rw [← List.map_id (utf16Units literal)]
  apply List.map_congr_left
  intro unit hunit
  exact UInt16.toNat_ofNat_of_lt' (lt_of_mem_utf16Units hunit)

theorem text_injective {left right : String} (h : text left = text right) : left = right := by
  apply utf16Units_injective
  rw [← toNat_text, ← toNat_text, h]

theorem toWellFormed_of_validUnicode {units : Text} (h : validUnicode units = true)
    : toWellFormed units = units := by
  fun_induction toWellFormed units with
  | case1 => rfl
  | case2 unit =>
    simp only [validUnicode, Bool.and_eq_true, Bool.not_eq_true'] at h
    simp [replaced, h.1, h.2]
  | case3 unit next rest hpair ih =>
    rw [Bool.and_eq_true] at hpair
    rw [validUnicode, if_pos hpair.1, Bool.and_eq_true] at h
    rw [ih h.2]
  | case4 unit next rest hpair ih =>
    rw [validUnicode] at h
    split at h
    . next hhigh =>
      rw [Bool.and_eq_true] at h
      exact absurd (Bool.and_eq_true_iff.mpr ⟨hhigh, h.1⟩) hpair
    . next hhigh =>
      rw [Bool.and_eq_true, Bool.not_eq_true'] at h
      rw [ih h.2]
      simp [replaced, hhigh, h.1]

def digitUnit (digit : Nat) : UInt16 :=
  UInt16.ofNat ((Nat.digitChar digit).toNat)

def paddedDecimal : Nat → Nat → Text
  | 0, _ => []
  | width + 1, value => paddedDecimal width (value / 10) ++ [digitUnit (value % 10)]

def decimal (value : Nat) : Text :=
  text (toString value)

def decimalInt (value : Int) : Text :=
  if value < 0 then text "-" ++ decimal value.natAbs else decimal value.natAbs

def digitOf (base : Nat) (unit : UInt16) : Option Nat :=
  let digit :=
    if isBetween '0' '9' unit then some (unit - unitOf '0').toNat
    else if isBetween 'a' 'f' unit then some ((unit - unitOf 'a').toNat + 10)
    else if isBetween 'A' 'F' unit then some ((unit - unitOf 'A').toNat + 10)
    else none
  digit.filter (· < base)

def digitsOf (base : Nat) (units : Text) : Option Nat :=
  if units = [] then none
  else units.foldlM (fun value unit => (digitOf base unit).map (value * base + ·)) 0

def isWhiteSpace (unit : UInt16) : Bool :=
  (9 ≤ unit && unit ≤ 13) || (8192 ≤ unit && unit ≤ 8202)
    || [32, 160, 5760, 8232, 8233, 8239, 8287, 12288, 65279].contains unit

def trim (units : Text) : Text :=
  ((units.dropWhile isWhiteSpace).reverse.dropWhile isWhiteSpace).reverse

/-- The integer that a text denotes: blanks around it are ignored, and an empty text is zero. -/
def bigIntOfText (units : Text) : Option Int :=
  match trim units with
  | [] => some 0
  | [unit] => (digitsOf 10 [unit]).map Int.ofNat
  | first :: second :: rest =>
    if first = unitOf '0' ∧ (second = unitOf 'x' ∨ second = unitOf 'X') then
      (digitsOf 16 rest).map Int.ofNat
    else if first = unitOf '0' ∧ (second = unitOf 'o' ∨ second = unitOf 'O') then
      (digitsOf 8 rest).map Int.ofNat
    else if first = unitOf '0' ∧ (second = unitOf 'b' ∨ second = unitOf 'B') then
      (digitsOf 2 rest).map Int.ofNat
    else if first = unitOf '+' then (digitsOf 10 (second :: rest)).map Int.ofNat
    else if first = unitOf '-' then (digitsOf 10 (second :: rest)).map (fun value => -Int.ofNat value)
    else (digitsOf 10 (first :: second :: rest)).map Int.ofNat

inductive Number where
  | nan
  | infinity (negative : Bool)
  | negativeZero
  | finite (value : ℚ)
  deriving DecidableEq

def Number.ofNat (value : Nat) : Number :=
  .finite value

def Number.integer : Number → Option Int
  | .negativeZero => some 0
  | .finite value => if value.den = 1 then some value.num else none
  | .nan | .infinity _ => none

def isSafeInteger (value : Int) : Bool :=
  -maxSafeInteger ≤ value && value ≤ maxSafeInteger

def hexText (bytes : List UInt8) : Text :=
  bytes.flatMap (fun byte => [digitUnit (byte.toNat / 16), digitUnit (byte.toNat % 16)])

def base64Unit (value : Nat) : UInt16 :=
  ((text "ABCDEFGHIJKLMNOPQRSTUVWXYZabcdefghijklmnopqrstuvwxyz0123456789+/")[value]?).getD (unitOf '=')

def base64Text : List UInt8 → Text
  | [] => []
  | [a] => [base64Unit (a.toNat / 4), base64Unit (a.toNat % 4 * 16), unitOf '=', unitOf '=']
  | [a, b] =>
    [base64Unit (a.toNat / 4), base64Unit (a.toNat % 4 * 16 + b.toNat / 16),
      base64Unit (b.toNat % 16 * 4), unitOf '=']
  | a :: b :: c :: rest =>
    base64Unit (a.toNat / 4) :: base64Unit (a.toNat % 4 * 16 + b.toNat / 16)
      :: base64Unit (b.toNat % 16 * 4 + c.toNat / 64) :: base64Unit (c.toNat % 64) :: base64Text rest

def isoText (milliseconds : Nat) : Text :=
  let days := milliseconds / 86400000 + 719468
  let era := days / 146097
  let dayOfEra := days % 146097
  let yearOfEra := (dayOfEra - dayOfEra / 1460 + dayOfEra / 36524 - dayOfEra / 146096) / 365
  let dayOfYear := dayOfEra - (365 * yearOfEra + yearOfEra / 4 - yearOfEra / 100)
  let shiftedMonth := (5 * dayOfYear + 2) / 153
  let day := dayOfYear - (153 * shiftedMonth + 2) / 5 + 1
  let month := if shiftedMonth < 10 then shiftedMonth + 3 else shiftedMonth - 9
  let year := yearOfEra + era * 400 + if month ≤ 2 then 1 else 0
  let time := milliseconds % 86400000
  paddedDecimal 4 year ++ text "-" ++ paddedDecimal 2 month ++ text "-" ++ paddedDecimal 2 day
    ++ text "T" ++ paddedDecimal 2 (time / 3600000) ++ text ":" ++ paddedDecimal 2 (time / 60000 % 60)
    ++ text ":" ++ paddedDecimal 2 (time / 1000 % 60) ++ text "." ++ paddedDecimal 3 (time % 1000)
    ++ text "Z"

end Host
end ProofStack
