import Mathlib.Algebra.GroupWithZero.Nat
import Mathlib.Data.List.Basic
import Mathlib.Order.Basic
import ProofStack.Contracts.Primitives

/-!
This module contains the canonical UTC timestamps of a server.
-/

namespace ProofStack

@[ext]
structure UtcMillisecondTimestamp where
  value : Int
  le_value : -62135596800000 ≤ value
  value_le : value ≤ 253402300799999
  deriving DecidableEq

namespace UtcMillisecondTimestamp

-- The text of a later millisecond has a year of five digits, which the schema rejects.
def ofMilliseconds (value : Int) : Option UtcMillisecondTimestamp :=
  if h : -62135596800000 ≤ value ∧ value ≤ 253402300799999 then
    some ⟨value, h.1, h.2⟩
  else
    none

def addMilliseconds (timestamp : UtcMillisecondTimestamp) (duration : Int)
    : Option UtcMillisecondTimestamp :=
  ofMilliseconds (timestamp.value + duration)

theorem value_of_ofMilliseconds {value : Int} {timestamp : UtcMillisecondTimestamp}
    (h : ofMilliseconds value = some timestamp)
    : timestamp.value = value := by
  unfold ofMilliseconds at h
  split at h
  . cases h
    rfl
  . contradiction

end UtcMillisecondTimestamp

def utf16Length (text : String) : Nat :=
  (text.toList.map (fun c => if 65536 ≤ c.toNat then 2 else 1)).sum

def isUnsafeTextControl (c : Char) : Bool :=
  c.toNat ≤ 31 || (127 ≤ c.toNat && c.toNat ≤ 159) || c.toNat == 8232 || c.toNat == 8233

-- The white space and the line terminators that `trim` removes.
def isTrimmed (c : Char) : Bool :=
  (9 ≤ c.toNat && c.toNat ≤ 13) || (8192 ≤ c.toNat && c.toNat ≤ 8202)
    || [32, 160, 5760, 8232, 8233, 8239, 8287, 12288, 65279].contains c.toNat

def canonicalHumanText (maximumCharacters : Nat) (text : String) : Bool :=
  1 ≤ utf16Length text
    && utf16Length text ≤ maximumCharacters
    && text.toList.head?.all (fun c => !isTrimmed c)
    && text.toList.getLast?.all (fun c => !isTrimmed c)
    && text.toList.all (fun c => !isUnsafeTextControl c)

def utf16Units (text : String) : List Nat :=
  text.toList.flatMap (fun c =>
    if 65536 ≤ c.toNat then
      [55296 + (c.toNat - 65536) / 1024, 56320 + (c.toNat - 65536) % 1024]
    else
      [c.toNat])

def charUtf16Units (c : Char) : List Nat :=
  if 65536 ≤ c.toNat then
    [55296 + (c.toNat - 65536) / 1024, 56320 + (c.toNat - 65536) % 1024]
  else
    [c.toNat]

theorem charUtf16Units_ne_nil (c : Char) : charUtf16Units c ≠ [] := by
  unfold charUtf16Units
  split <;> simp

/-- A surrogate is no character, so that the first unit tells two characters apart. -/
theorem charUtf16Units_append_injective {c c' : Char} {rest rest' : List Nat}
    (h : charUtf16Units c ++ rest = charUtf16Units c' ++ rest')
    : c = c' ∧ rest = rest' := by
  have hvalid : c.toNat < 55296 ∨ 57343 < c.toNat ∧ c.toNat < 1114112 := c.valid
  have hvalid' : c'.toNat < 55296 ∨ 57343 < c'.toNat ∧ c'.toNat < 1114112 := c'.valid
  have hboth : c.toNat = c'.toNat ∧ rest = rest' := by
    unfold charUtf16Units at h
    split at h <;> split at h <;> simp only [List.cons_append, List.nil_append, List.cons.injEq] at h
    . exact ⟨by omega, h.2.2⟩
    . omega
    . omega
    . exact h
  exact ⟨Char.ext (UInt32.toNat_inj.mp hboth.1), hboth.2⟩

theorem utf16Units_injective {left right : String} (h : utf16Units left = utf16Units right)
    : left = right := by
  apply String.toList_injective
  change left.toList.flatMap charUtf16Units = right.toList.flatMap charUtf16Units at h
  generalize left.toList = lefts at h
  generalize right.toList = rights at h
  induction lefts generalizing rights with
  | nil =>
    cases rights with
    | nil => rfl
    | cons c' rest' => simp [charUtf16Units_ne_nil] at h
  | cons c rest ih =>
    cases rights with
    | nil => simp [charUtf16Units_ne_nil] at h
    | cons c' rest' =>
      rw [List.flatMap_cons, List.flatMap_cons] at h
      rcases charUtf16Units_append_injective h with ⟨rfl, hrest⟩
      rw [ih rest' hrest]

def isUnsafeDisplayControl (c : Char) : Bool :=
  c.toNat ≤ 31 || (127 ≤ c.toNat && c.toNat ≤ 159)
    || [1564, 8206, 8207].contains c.toNat
    || (8232 ≤ c.toNat && c.toNat ≤ 8238)
    || (8294 ≤ c.toNat && c.toNat ≤ 8297)

def boundedCanonicalText (isNFC : String → Bool) (maximumCharacters : Nat) (text : String) : Bool :=
  1 ≤ text.toList.length
    && text.toList.head?.all (fun c => !isTrimmed c)
    && text.toList.getLast?.all (fun c => !isTrimmed c)
    && isNFC text
    && text.toList.all (fun c => !isUnsafeDisplayControl c)
    && text.toList.length ≤ maximumCharacters

def AssuranceSummarySchema (isNFC : String → Bool) (text : String) : Bool :=
  boundedCanonicalText isNFC 512 text

def AssuranceRationaleSchema (isNFC : String → Bool) (text : String) : Bool :=
  boundedCanonicalText isNFC 4096 text

def isStrictlySortedUnique (values : List String) : Prop :=
  values.IsChain (fun left right => utf16Units left < utf16Units right)

instance (values : List String) : Decidable (isStrictlySortedUnique values) :=
  inferInstanceAs (Decidable (List.IsChain _ _))

def sortedUniqueStrings (item : String → Bool) (minimum maximum : Nat) (values : List String)
    : Prop :=
  (∀ value ∈ values, item value)
    ∧ boundedInteger minimum maximum values.length
    ∧ isStrictlySortedUnique values

instance (item : String → Bool) (minimum maximum : Nat) (values : List String)
    : Decidable (sortedUniqueStrings item minimum maximum values) :=
  inferInstanceAs (Decidable (_ ∧ _ ∧ _))

end ProofStack
