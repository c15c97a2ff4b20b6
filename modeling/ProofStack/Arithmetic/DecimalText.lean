import Mathlib.Algebra.GroupWithZero.Nat
import Mathlib.Data.Int.Notation
import Mathlib.Data.List.Basic
import Mathlib.Data.List.DropRight

/-!
This module contains the texts of integers.
-/

namespace ProofStack
namespace Arithmetic

def integerText (n : Int) : List Char :=
  if n < 0 then '-' :: Nat.toDigits 10 n.natAbs else Nat.toDigits 10 n.natAbs

def readNatural (text : List Char) : Nat :=
  Nat.ofDigitChars 10 text 0

def readInteger : List Char → Int
  | '-' :: digits => -(readNatural digits : Int)
  | digits => readNatural digits

def isNaturalText : List Char → Bool
  | ['0'] => true
  | c :: digits => c.isDigit && c ≠ '0' && digits.all Char.isDigit
  | [] => false

def isIntegerText : List Char → Bool
  | '-' :: digits => isNaturalText digits
  | digits => isNaturalText digits

def isPositiveText (text : List Char) : Bool :=
  isNaturalText text && text ≠ ['0']

theorem toDigits_eq_cons (n : Nat)
    : ∃ c digits, Nat.toDigits 10 n = c :: digits ∧ (c :: digits).all Char.isDigit
        ∧ (0 < n → c ≠ '0') := by
  induction n using Nat.strongRecOn with
  | ind n ih =>
    rw [Nat.toDigits_eq_if (by decide)]
    split
    . next hlt =>
      have hall : ∀ d : Fin 10, (Nat.digitChar d).isDigit = true ∧ (0 < d.val → Nat.digitChar d ≠ '0') := by
        decide
      exact ⟨n.digitChar, [], rfl, by simpa using (hall ⟨n, hlt⟩).1, (hall ⟨n, hlt⟩).2⟩
    . next hle =>
      rcases ih (n / 10) (by omega) with ⟨c, digits, heq, hdigits, hfirst⟩
      have hall : ∀ d : Fin 10, (Nat.digitChar d).isDigit = true := by decide
      refine ⟨c, digits ++ [(n % 10).digitChar], by rw [heq, List.cons_append], ?_, ?_⟩
      . rw [← List.cons_append, List.all_append, hdigits]
        simpa using hall ⟨n % 10, Nat.mod_lt n (by decide)⟩
      . intro _
        exact hfirst (by omega)

theorem isNaturalText_toDigits (n : Nat) : isNaturalText (Nat.toDigits 10 n) = true := by
  cases Nat.eq_zero_or_pos n with
  | inl h =>
    rw [h]
    rfl
  | inr h =>
    rcases toDigits_eq_cons n with ⟨c, digits, heq, hdigits, hfirst⟩
    rw [List.all_cons, Bool.and_eq_true] at hdigits
    rw [heq]
    unfold isNaturalText
    split
    . rfl
    . next heq' =>
      cases heq'
      simp [hdigits, hfirst h]
    . contradiction

theorem isPositiveText_toDigits {n : Nat} (h : 0 < n) : isPositiveText (Nat.toDigits 10 n) = true := by
  rcases toDigits_eq_cons n with ⟨c, digits, heq, _, hfirst⟩
  have hne : Nat.toDigits 10 n ≠ ['0'] := by
    rw [heq]
    intro h'
    cases h'
    exact hfirst h rfl
  rw [isPositiveText, isNaturalText_toDigits, Bool.true_and, decide_eq_true hne]

theorem toDigits_ne_minus (n : Nat) (digits : List Char) : Nat.toDigits 10 n ≠ '-' :: digits := by
  rcases toDigits_eq_cons n with ⟨c, others, heq, hdigits, _⟩
  intro h
  rw [heq] at h
  cases h
  simp at hdigits

theorem isIntegerText_integerText (n : Int) : isIntegerText (integerText n) = true := by
  unfold integerText
  split
  . exact isNaturalText_toDigits _
  . unfold isIntegerText
    split
    . next heq => exact absurd heq (toDigits_ne_minus _ _)
    . exact isNaturalText_toDigits _

theorem isPositiveText_integerText {n : Int} (h : 0 < n) : isPositiveText (integerText n) = true := by
  rw [integerText, if_neg (by omega)]
  exact isPositiveText_toDigits (by omega)

theorem readNatural_toDigits (n : Nat) : readNatural (Nat.toDigits 10 n) = n :=
  Nat.ofDigitChars_ten_toDigits

theorem readInteger_integerText (n : Int) : readInteger (integerText n) = n := by
  unfold integerText
  split
  . rw [readInteger, readNatural_toDigits]
    omega
  . unfold readInteger
    split
    . next heq => exact absurd heq (toDigits_ne_minus _ _)
    . rw [readNatural_toDigits]
      omega

theorem readNatural_pos {c : Char} {digits : List Char} (hdigit : c.isDigit = true) (hne : c ≠ '0')
    : 0 < readNatural (c :: digits) := by
  have hvalue : 48 < c.toNat := by
    have hbounds : 48 ≤ c.toNat ∧ c.toNat ≤ 57 := by
      simpa [Char.isDigit, UInt32.le_iff_toNat_le] using hdigit
    have hzero : c.toNat ≠ 48 := by
      intro h
      exact hne (Char.toNat_inj.mp h)
    omega
  rw [readNatural, Nat.ofDigitChars_cons, Nat.ofDigitChars_eq_ofDigitChars_zero]
  have hfirst : 0 < 10 * 0 + (c.toNat - '0'.toNat) := by
    change 0 < 10 * 0 + (c.toNat - 48)
    omega
  have hpower := Nat.mul_pos (Nat.pow_pos (n := digits.length) (show 0 < 10 by decide)) hfirst
  omega

variable {text : List Char}

theorem readInteger_pos (h : isPositiveText text = true) : 0 < readInteger text := by
  simp only [isPositiveText, Bool.and_eq_true, decide_eq_true_eq] at h
  have hnatural := h.1
  unfold isNaturalText at hnatural
  split at hnatural
  . exact absurd rfl h.2
  . next c digits _ =>
    simp only [Bool.and_eq_true, decide_eq_true_eq] at hnatural
    unfold readInteger
    split
    . next heq =>
      cases heq
      exact absurd hnatural.1.1 (by decide)
    . exact Int.natCast_pos.mpr (readNatural_pos hnatural.1.1 hnatural.1.2)
  . contradiction

def padStart (width : Nat) (text : List Char) : List Char :=
  List.replicate (width - text.length) '0' ++ text

def padEnd (width : Nat) (text : List Char) : List Char :=
  text ++ List.replicate (width - text.length) '0'

def dropZeros (text : List Char) : List Char :=
  text.rdropWhile (· = '0')

theorem length_padStart {width : Nat} (h : text.length ≤ width)
    : (padStart width text).length = width := by
  rw [padStart, List.length_append, List.length_replicate, Nat.sub_add_cancel h]

theorem all_isDigit_padStart {width : Nat} (h : text.all Char.isDigit = true)
    : (padStart width text).all Char.isDigit = true := by
  rw [padStart, List.all_append, h, Bool.and_true, List.all_replicate]
  split <;> rfl

theorem readNatural_append (left right : List Char)
    : readNatural (left ++ right) = readNatural left * 10 ^ right.length + readNatural right := by
  unfold readNatural
  rw [Nat.ofDigitChars_append, Nat.ofDigitChars_eq_ofDigitChars_zero, Nat.mul_comm]

theorem readNatural_replicate (count : Nat) : readNatural (List.replicate count '0') = 0 := by
  rw [readNatural, Nat.ofDigitChars_replicate_zero, Nat.mul_zero]

theorem readNatural_padStart (width : Nat) (text : List Char)
    : readNatural (padStart width text) = readNatural text := by
  rw [padStart, readNatural_append, readNatural_replicate, Nat.zero_mul, Nat.zero_add]

theorem readNatural_padEnd (width : Nat) (text : List Char)
    : readNatural (padEnd width text) = readNatural text * 10 ^ (width - text.length) := by
  rw [padEnd, readNatural_append, readNatural_replicate, List.length_replicate, Nat.add_zero]

theorem readNatural_lt {digits : List Char} (h : digits.all Char.isDigit = true)
    : readNatural digits < 10 ^ digits.length := by
  induction digits using List.reverseRecOn with
  | nil => decide
  | append_singleton digits c ih =>
    rw [List.all_append, Bool.and_eq_true] at h
    have hdigits := ih h.1
    have hdigit : readNatural [c] < 10 := by
      have hc : c.isDigit = true := by simpa using h.2
      have hvalue : c.toNat ≤ 57 := by
        have hbounds : 48 ≤ c.toNat ∧ c.toNat ≤ 57 := by
          simpa [Char.isDigit, UInt32.le_iff_toNat_le] using hc
        exact hbounds.2
      change 10 * 0 + (c.toNat - 48) < 10
      omega
    rw [readNatural_append, List.length_append, List.length_singleton, Nat.pow_succ]
    omega

theorem length_toDigits_le {n width : Nat} (hwidth : 0 < width) (h : n < 10 ^ width)
    : (Nat.toDigits 10 n).length ≤ width :=
  (Nat.length_toDigits_le_iff (by decide) hwidth).mpr h

theorem all_isDigit_toDigits (n : Nat) : (Nat.toDigits 10 n).all Char.isDigit = true := by
  rcases toDigits_eq_cons n with ⟨c, digits, heq, hdigits, _⟩
  rw [heq]
  exact hdigits

theorem padEnd_dropZeros (text : List Char) : padEnd text.length (dropZeros text) = text := by
  have hsplit := List.rdropWhile_append_rtakeWhile (p := (· = '0')) (l := text)
  have hlength := congrArg List.length hsplit
  rw [List.length_append] at hlength
  have hzeros : text.rtakeWhile (· = '0')
      = List.replicate (text.length - (dropZeros text).length) '0' := by
    apply List.eq_replicate_iff.mpr
    refine ⟨by rw [dropZeros]; omega, ?_⟩
    intro c hmem
    have hzero := List.mem_rtakeWhile_imp hmem
    exact of_decide_eq_true hzero
  rw [padEnd, ← hzeros]
  exact hsplit

theorem length_dropZeros_le (text : List Char) : (dropZeros text).length ≤ text.length :=
  (List.rdropWhile_prefix _ text).length_le

theorem all_isDigit_dropZeros (h : text.all Char.isDigit = true)
    : (dropZeros text).all Char.isDigit = true := by
  rw [List.all_eq_true] at h ⊢
  intro c hmem
  exact h c ((List.rdropWhile_prefix _ text).subset hmem)

theorem getLast_dropZeros_ne (h : dropZeros text ≠ [])
    : (dropZeros text).getLast h ≠ '0' := by
  have hlast := List.rdropWhile_last_not _ _ h
  rw [decide_eq_true_eq] at hlast
  exact hlast

end Arithmetic
end ProofStack
