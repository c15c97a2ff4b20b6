import ProofStack.Json.Basic

/-!
This module contains the grammar of JSON texts as lists of UTF-16 code units.
-/

namespace ProofStack
namespace Json
namespace Grammar

abbrev Units := List UInt16

def isWhitespace (u : UInt16) : Bool :=
  u = 0x20 || u = 0x09 || u = 0x0A || u = 0x0D

def isDigit (u : UInt16) : Bool :=
  0x30 ≤ u && u ≤ 0x39

def hexDigitValue (u : UInt16) : Option Nat :=
  if 0x30 ≤ u && u ≤ 0x39 then some (u.toNat - 0x30)
  else if 0x61 ≤ u && u ≤ 0x66 then some (u.toNat - 0x61 + 10)
  else if 0x41 ≤ u && u ≤ 0x46 then some (u.toNat - 0x41 + 10)
  else none

def unescape (u : UInt16) : Option UInt16 :=
  if u = 0x22 then some 0x22
  else if u = 0x5C then some 0x5C
  else if u = 0x2F then some 0x2F
  else if u = 0x62 then some 0x08
  else if u = 0x66 then some 0x0C
  else if u = 0x6E then some 0x0A
  else if u = 0x72 then some 0x0D
  else if u = 0x74 then some 0x09
  else none

def hexUnit (first second third fourth : Nat) : UInt16 :=
  UInt16.ofNat (((first * 16 + second) * 16 + third) * 16 + fourth)

inductive Whitespace : Units → Units → Prop where
  | none (rest : Units) : Whitespace rest rest
  | unit {u : UInt16} {text rest : Units} (hu : isWhitespace u) (htext : Whitespace text rest)
    : Whitespace (u :: text) rest

inductive Digits : Units → Units → Prop where
  | one {u : UInt16} (rest : Units) (hu : isDigit u) : Digits (u :: rest) rest
  | more {u : UInt16} {text rest : Units} (hu : isDigit u) (htext : Digits text rest) : Digits (u :: text) rest

inductive Integer : Units → Units → Prop where
  | zero (rest : Units) : Integer (0x30 :: rest) rest
  | digits {u : UInt16} {text rest : Units} (hu : u ≠ 0x30) (htext : Digits (u :: text) rest)
    : Integer (u :: text) rest

inductive Fraction : Units → Units → Prop where
  | absent (rest : Units) : Fraction rest rest
  | present {text rest : Units} (htext : Digits text rest) : Fraction (0x2E :: text) rest

inductive Exponent : Units → Units → Prop where
  | absent (rest : Units) : Exponent rest rest
  | unsigned {u : UInt16} {text rest : Units} (hu : u = 0x65 ∨ u = 0x45) (htext : Digits text rest)
    : Exponent (u :: text) rest
  | signed {u sign : UInt16} {text rest : Units} (hu : u = 0x65 ∨ u = 0x45) (hsign : sign = 0x2B ∨ sign = 0x2D)
    (htext : Digits text rest)
    : Exponent (u :: sign :: text) rest

inductive Magnitude : Units → Units → Prop where
  | parts {text fraction exponent rest : Units} (hinteger : Integer text fraction)
    (hfraction : Fraction fraction exponent) (hexponent : Exponent exponent rest)
    : Magnitude text rest

inductive Number : Units → Units → Prop where
  | positive {text rest : Units} (h : Magnitude text rest) : Number text rest
  | negative {text rest : Units} (h : Magnitude text rest) : Number (0x2D :: text) rest

inductive Characters : Units → Units → Units → Prop where
  | done (rest : Units) : Characters [] (0x22 :: rest) rest
  | unescaped {u : UInt16} {units text rest : Units} (hquote : u ≠ 0x22) (hbackslash : u ≠ 0x5C) (hu : 0x20 ≤ u)
    (htext : Characters units text rest)
    : Characters (u :: units) (u :: text) rest
  | escape {letter u : UInt16} {units text rest : Units} (hletter : unescape letter = some u)
    (htext : Characters units text rest)
    : Characters (u :: units) (0x5C :: letter :: text) rest
  | unicode {u₁ u₂ u₃ u₄ : UInt16} {d₁ d₂ d₃ d₄ : Nat} {units text rest : Units} (hu₁ : hexDigitValue u₁ = some d₁)
    (hu₂ : hexDigitValue u₂ = some d₂) (hu₃ : hexDigitValue u₃ = some d₃) (hu₄ : hexDigitValue u₄ = some d₄)
    (htext : Characters units text rest)
    : Characters (hexUnit d₁ d₂ d₃ d₄ :: units) (0x5C :: 0x75 :: u₁ :: u₂ :: u₃ :: u₄ :: text) rest

inductive Phrase where
  | value (tree : Json Units)
  -- one item at least, up to the end of the array
  | items (trees : List (Json Units))
  -- one member at least, up to the end of the object
  | members (members : List (Units × Json Units))

inductive Derives : Phrase → Units → Units → Prop where
  | nullLiteral (rest : Units) : Derives (.value .null) (0x6E :: 0x75 :: 0x6C :: 0x6C :: rest) rest
  | trueLiteral (rest : Units) : Derives (.value (.bool true)) (0x74 :: 0x72 :: 0x75 :: 0x65 :: rest) rest
  | falseLiteral (rest : Units) : Derives (.value (.bool false)) (0x66 :: 0x61 :: 0x6C :: 0x73 :: 0x65 :: rest) rest
  | number {raw rest : Units} (h : Number (raw ++ rest) rest) : Derives (.value (.number raw)) (raw ++ rest) rest
  | string {units text rest : Units} (h : Characters units text rest)
    : Derives (.value (.string units)) (0x22 :: text) rest
  | emptyArray {text rest : Units} (h : Whitespace text (0x5D :: rest))
    : Derives (.value (.array [])) (0x5B :: text) rest
  | array {items : List (Json Units)} {text first rest : Units} (hspace : Whitespace text first)
    (hitems : Derives (.items items) first rest)
    : Derives (.value (.array items)) (0x5B :: text) rest
  | emptyObject {text rest : Units} (h : Whitespace text (0x7D :: rest))
    : Derives (.value (.object [])) (0x7B :: text) rest
  | object {members : List (Units × Json Units)} {text first rest : Units} (hspace : Whitespace text first)
    (hmembers : Derives (.members members) first rest)
    : Derives (.value (.object members)) (0x7B :: text) rest
  | lastItem {item : Json Units} {text after rest : Units} (hitem : Derives (.value item) text after)
    (hclose : Whitespace after (0x5D :: rest))
    : Derives (.items [item]) text rest
  | item {item : Json Units} {items : List (Json Units)} {text after space next rest : Units}
    (hitem : Derives (.value item) text after) (hcomma : Whitespace after (0x2C :: space))
    (hspace : Whitespace space next) (hitems : Derives (.items items) next rest)
    : Derives (.items (item :: items)) text rest
  | lastMember {key text before space first after rest : Units} {value : Json Units}
    (hkey : Characters key text before) (hcolon : Whitespace before (0x3A :: space))
    (hspace : Whitespace space first) (hvalue : Derives (.value value) first after)
    (hclose : Whitespace after (0x7D :: rest))
    : Derives (.members [(key, value)]) (0x22 :: text) rest
  | member {key text before space first after space' next rest : Units} {value : Json Units}
    {members : List (Units × Json Units)}
    (hkey : Characters key text before) (hcolon : Whitespace before (0x3A :: space))
    (hspace : Whitespace space first) (hvalue : Derives (.value value) first after)
    (hcomma : Whitespace after (0x2C :: space')) (hspace' : Whitespace space' next)
    (hmembers : Derives (.members members) next rest)
    : Derives (.members ((key, value) :: members)) (0x22 :: text) rest

inductive JsonText (tree : Json Units) (text : Units) : Prop where
  | value {first after : Units} (hbefore : Whitespace text first) (hvalue : Derives (.value tree) first after)
    (hafter : Whitespace after [])
    : JsonText tree text

def NonSpace (text : Units) : Prop :=
  ∀ u ∈ text.head?, isWhitespace u = false

theorem whitespace_dropWhile (text : Units) : Whitespace text (text.dropWhile isWhitespace) := by
  induction text with
  | nil => exact .none []
  | cons u text ih =>
    rw [List.dropWhile_cons]
    split
    . next hu => exact .unit hu ih
    . exact .none _

variable {text rest : Units}

theorem Whitespace.dropWhile_eq (h : Whitespace text rest) (hrest : NonSpace rest)
    : text.dropWhile isWhitespace = rest := by
  induction h with
  | none rest =>
    cases rest with
    | nil => rfl
    | cons u rest => exact List.dropWhile_cons_of_neg (by rw [hrest u rfl]; decide)
  | unit hu _ ih => rw [List.dropWhile_cons_of_pos hu, ih hrest]

theorem Whitespace.length_le (h : Whitespace text rest) : rest.length ≤ text.length := by
  induction h with
  | none => exact Nat.le_refl _
  | unit _ _ ih =>
    rw [List.length_cons]
    omega

def NonDigit (text : Units) : Prop :=
  ∀ u ∈ text.head?, isDigit u = false

theorem digits_dropWhile {u : UInt16} {text : Units} (hu : isDigit u)
    : Digits (u :: text) ((u :: text).dropWhile isDigit) := by
  rw [List.dropWhile_cons_of_pos hu]
  induction text generalizing u with
  | nil => exact .one [] hu
  | cons first text ih =>
    by_cases hfirst : isDigit first
    . rw [List.dropWhile_cons_of_pos hfirst]
      exact .more hu (ih hfirst)
    . rw [List.dropWhile_cons_of_neg hfirst]
      exact .one _ hu

theorem Digits.dropWhile_eq (h : Digits text rest) (hrest : NonDigit rest)
    : text.dropWhile isDigit = rest := by
  induction h with
  | one rest hu =>
    rw [List.dropWhile_cons_of_pos hu]
    cases rest with
    | nil => rfl
    | cons u rest => exact List.dropWhile_cons_of_neg (by rw [hrest u rfl]; decide)
  | more hu _ ih => rw [List.dropWhile_cons_of_pos hu, ih hrest]

theorem Digits.exists_cons (h : Digits text rest)
    : ∃ u others, text = u :: others ∧ isDigit u := by
  cases h with
  | one _ hu => exact ⟨_, _, rfl, hu⟩
  | more hu _ => exact ⟨_, _, rfl, hu⟩

theorem Digits.length_lt (h : Digits text rest) : rest.length < text.length := by
  induction h with
  | one => exact Nat.lt_succ_self _
  | more _ _ ih => exact Nat.lt_succ_of_lt ih

structure NumberEnds (text : Units) : Prop where
  digit : NonDigit text
  point : text.head? ≠ some 0x2E
  exponent : text.head? ≠ some 0x65 ∧ text.head? ≠ some 0x45

theorem numberEnds_nil : NumberEnds [] :=
  ⟨fun _ h => absurd h (by simp), by simp, by simp⟩

theorem numberEnds_cons {u : UInt16} (rest : Units) (hdigit : isDigit u = false)
    (hu : u ≠ 0x2E ∧ u ≠ 0x65 ∧ u ≠ 0x45)
    : NumberEnds (u :: rest) := by
  refine ⟨?_, ?_, ?_⟩
  . intro first hfirst
    cases hfirst
    exact hdigit
  . simpa using hu.1
  . simpa using hu.2

theorem Whitespace.numberEnds (h : Whitespace text rest) (hrest : NumberEnds rest)
    : NumberEnds text := by
  cases h with
  | none => exact hrest
  | unit hu _ =>
    simp only [isWhitespace, Bool.or_eq_true, decide_eq_true_eq] at hu
    rcases hu with ((rfl | rfl) | rfl) | rfl <;> exact numberEnds_cons _ (by decide) (by decide)

theorem Exponent.nonDigit (h : Exponent text rest) (hrest : NumberEnds rest)
    : NonDigit text ∧ text.head? ≠ some 0x2E := by
  cases h with
  | absent => exact ⟨hrest.digit, hrest.point⟩
  | unsigned hu _ | signed hu _ _ =>
    rcases hu with rfl | rfl <;> exact ⟨fun u hu => by cases hu; decide, by simp⟩

theorem Fraction.nonDigit (h : Fraction text rest) (hrest : NonDigit rest) : NonDigit text := by
  cases h with
  | absent => exact hrest
  | present _ =>
    intro u hu
    cases hu
    decide

theorem Integer.exists_cons (h : Integer text rest)
    : ∃ u others, text = u :: others ∧ isDigit u := by
  cases h with
  | zero rest => exact ⟨_, _, rfl, by decide⟩
  | digits _ htext => exact htext.exists_cons

theorem Integer.length_lt (h : Integer text rest) : rest.length < text.length := by
  cases h with
  | zero => exact Nat.lt_succ_self _
  | digits _ htext => exact htext.length_lt

theorem Digits.suffix (h : Digits text rest) : rest <:+ text := by
  induction h with
  | one => exact List.suffix_cons _ _
  | more _ _ ih => exact ih.trans (List.suffix_cons _ _)

theorem Integer.suffix (h : Integer text rest) : rest <:+ text := by
  cases h with
  | zero => exact List.suffix_cons _ _
  | digits _ htext => exact htext.suffix

theorem Fraction.suffix (h : Fraction text rest) : rest <:+ text := by
  cases h with
  | absent => exact List.suffix_rfl
  | present htext => exact htext.suffix.trans (List.suffix_cons _ _)

theorem Exponent.suffix (h : Exponent text rest) : rest <:+ text := by
  cases h with
  | absent => exact List.suffix_rfl
  | unsigned _ htext => exact htext.suffix.trans (List.suffix_cons _ _)
  | signed _ _ htext => exact htext.suffix.trans ((List.suffix_cons _ _).trans (List.suffix_cons _ _))

theorem Magnitude.length_lt (h : Magnitude text rest) : rest.length < text.length := by
  cases h with
  | parts hinteger hfraction hexponent =>
    exact Nat.lt_of_le_of_lt (hexponent.suffix.trans hfraction.suffix).length_le hinteger.length_lt

theorem Number.suffix (h : Number text rest) : rest <:+ text := by
  cases h with
  | positive h =>
    cases h with
    | parts hinteger hfraction hexponent => exact hexponent.suffix.trans (hfraction.suffix.trans hinteger.suffix)
  | negative h =>
    cases h with
    | parts hinteger hfraction hexponent =>
      exact (hexponent.suffix.trans (hfraction.suffix.trans hinteger.suffix)).trans (List.suffix_cons _ _)

theorem Number.length_lt (h : Number text rest) : rest.length < text.length := by
  cases h with
  | positive h => exact h.length_lt
  | negative h => exact Nat.lt_succ_of_lt h.length_lt

theorem Number.exists_cons (h : Number text rest)
    : ∃ u others, text = u :: others ∧ (u = 0x2D ∨ isDigit u) := by
  cases h with
  | positive h =>
    cases h with
    | parts hinteger _ _ =>
      obtain ⟨u, others, heq, hu⟩ := hinteger.exists_cons
      exact ⟨u, others, heq, .inr hu⟩
  | negative => exact ⟨_, _, rfl, .inl rfl⟩

theorem Characters.length_lt {units text rest : Units} (h : Characters units text rest)
    : rest.length < text.length := by
  induction h with
  | done => exact Nat.lt_succ_self _
  | unescaped _ _ _ _ ih | escape _ _ ih | unicode _ _ _ _ _ ih =>
    simp only [List.length_cons]
    omega

theorem Characters.append {units text : Units} (h : Characters units text []) (rest : Units)
    : Characters units (text ++ rest) rest := by
  generalize hnil : ([] : Units) = last at h
  induction h with
  | done => exact hnil ▸ .done rest
  | unescaped hquote hbackslash hu _ ih => exact .unescaped hquote hbackslash hu (ih hnil)
  | escape hletter _ ih => exact .escape hletter (ih hnil)
  | unicode hu₁ hu₂ hu₃ hu₄ _ ih => exact .unicode hu₁ hu₂ hu₃ hu₄ (ih hnil)

theorem Characters.exists_append {units text rest : Units} (h : Characters units text rest)
    : ∃ raw, text = raw ++ rest ∧ Characters units raw [] := by
  induction h with
  | done rest => exact ⟨[0x22], rfl, .done []⟩
  | unescaped hquote hbackslash hu _ ih =>
    obtain ⟨raw, rfl, hraw⟩ := ih
    exact ⟨_ :: raw, rfl, .unescaped hquote hbackslash hu hraw⟩
  | escape hletter _ ih =>
    obtain ⟨raw, rfl, hraw⟩ := ih
    exact ⟨_ :: _ :: raw, rfl, .escape hletter hraw⟩
  | unicode hu₁ hu₂ hu₃ hu₄ _ ih =>
    obtain ⟨raw, rfl, hraw⟩ := ih
    exact ⟨_ :: _ :: _ :: _ :: _ :: _ :: raw, rfl, .unicode hu₁ hu₂ hu₃ hu₄ hraw⟩

theorem Derives.length_lt {phrase : Phrase} (h : Derives phrase text rest)
    : rest.length < text.length := by
  induction h with
  | nullLiteral | trueLiteral | falseLiteral =>
    simp only [List.length_cons]
    omega
  | number h => exact h.length_lt
  | string h => exact Nat.lt_succ_of_lt h.length_lt
  | emptyArray h | emptyObject h =>
    have hle := h.length_le
    simp only [List.length_cons] at hle ⊢
    omega
  | array hspace _ ih | object hspace _ ih =>
    have hle := hspace.length_le
    rw [List.length_cons]
    omega
  | lastItem _ hclose ih =>
    have hle := hclose.length_le
    rw [List.length_cons] at hle
    omega
  | item _ hcomma hspace _ ih ih' =>
    have hle := hcomma.length_le
    have hle' := hspace.length_le
    rw [List.length_cons] at hle
    omega
  | lastMember hkey hcolon hspace _ hclose ih =>
    have hlt := hkey.length_lt
    have hle := hcolon.length_le
    have hspaceLength := hspace.length_le
    have hcloseLength := hclose.length_le
    simp only [List.length_cons] at hle hcloseLength ⊢
    omega
  | member hkey hcolon hspace _ hcomma hspace' _ ih ih' =>
    have hlt := hkey.length_lt
    have hle := hcolon.length_le
    have hspaceLength := hspace.length_le
    have hcommaLength := hcomma.length_le
    have hnextLength := hspace'.length_le
    simp only [List.length_cons] at hle hcommaLength ⊢
    omega

theorem Derives.exists_cons {phrase : Phrase} (h : Derives phrase text rest)
    : ∃ u others, text = u :: others ∧ isWhitespace u = false ∧ u ≠ 0x5D ∧ u ≠ 0x7D := by
  induction h with
  | number h =>
    obtain ⟨u, others, heq, hu⟩ := h.exists_cons
    refine ⟨u, others, heq, ?_⟩
    rcases hu with rfl | hu
    . decide
    . revert hu
      unfold isDigit isWhitespace
      grind
  | lastItem _ _ ih => exact ih
  | item _ _ _ _ ih _ => exact ih
  | _ => exact ⟨_, _, rfl, by decide⟩

theorem Derives.nonSpace {phrase : Phrase} (h : Derives phrase text rest) : NonSpace text := by
  obtain ⟨u, others, rfl, hu, _⟩ := h.exists_cons
  intro first hfirst
  cases hfirst
  exact hu

end Grammar

variable {ν : Type}

mutual

def valueCount : Json ν → Nat
  | .null | .bool _ | .number _ | .string _ => 1
  | .array items => 1 + itemsCount items
  | .object members => 1 + membersCount members

def itemsCount : List (Json ν) → Nat
  | [] => 0
  | item :: items => valueCount item + itemsCount items

def membersCount : List (List UInt16 × Json ν) → Nat
  | [] => 0
  | (_, value) :: members => valueCount value + membersCount members

end

mutual

def nesting : Json ν → Nat
  | .null | .bool _ | .number _ | .string _ => 0
  | .array items => itemsNesting items
  | .object members => membersNesting members

def itemsNesting : List (Json ν) → Nat
  | [] => 0
  | item :: items => max (nesting item + 1) (itemsNesting items)

def membersNesting : List (List UInt16 × Json ν) → Nat
  | [] => 0
  | (_, value) :: members => max (nesting value + 1) (membersNesting members)

end

end Json
end ProofStack
