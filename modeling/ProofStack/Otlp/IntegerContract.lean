import Mathlib.Tactic.FieldSimp
import ProofStack.Otlp.JsonCodec

/-!
This module contains what the 64-bit integers of a request are decoded to.
-/

namespace ProofStack
namespace Otlp

open Arithmetic Host

theorem isDigit_eq (c : Char) : Json.isDigit c = c.isDigit := by
  simp [Json.isDigit, Char.isDigit, Char.le_def]

def Accepts (s : Json.NumberState) (source : List Char) : Prop :=
  (source.foldlM Json.NumberState.next s).elim false Json.NumberState.Accepting = true

theorem not_accepts_nil {s : Json.NumberState} (h : s.Accepting = false) : ¬Accepts s [] :=
  fun haccepts => Bool.false_ne_true (h.symm.trans haccepts)

variable {source : List Char}
variable {c : Char}

theorem Accepts.cons {s : Json.NumberState} (h : Accepts s (c :: source))
    : ∃ next, s.next c = some next ∧ Accepts next source := by
  unfold Accepts at h
  rw [List.foldlM_cons] at h
  cases hnext : s.next c with
  | none =>
    rw [hnext] at h
    cases h
  | some next =>
    rw [hnext] at h
    exact ⟨next, rfl, h⟩

theorem all_of_accepts_power (h : Accepts .power source)
    : source.all Json.isDigit = true := by
  induction source with
  | nil => rfl
  | cons c source ih =>
    obtain ⟨next, hnext, haccepts⟩ := h.cons
    simp only [Json.NumberState.next, Json.NumberState.next.digits, Option.ite_none_right_eq_some,
      Option.some.injEq] at hnext
    obtain ⟨hdigit, rfl⟩ := hnext
    rw [List.all_cons, hdigit, ih haccepts]
    rfl

theorem digits_of_accepts_sign (h : Accepts .sign source)
    : source ≠ [] ∧ source.all Json.isDigit = true := by
  cases source with
  | nil => exact absurd h (not_accepts_nil rfl)
  | cons c source =>
    obtain ⟨next, hnext, haccepts⟩ := h.cons
    simp only [Json.NumberState.next, Json.NumberState.next.digits, Option.ite_none_right_eq_some,
      Option.some.injEq] at hnext
    obtain ⟨hdigit, rfl⟩ := hnext
    refine ⟨List.cons_ne_nil _ _, ?_⟩
    rw [List.all_cons, hdigit, all_of_accepts_power haccepts]
    rfl

theorem unsignedPart_of_isDigit (h : Json.isDigit c = true)
    : unsignedPart (c :: source) = c :: source := by
  unfold unsignedPart
  split
  . next heq =>
    cases heq
    exact absurd h (by decide)
  . next heq =>
    cases heq
    exact absurd h (by decide)
  . rfl

theorem digits_of_accepts_exponent (h : Accepts .exponent source)
    : unsignedPart source ≠ [] ∧ (unsignedPart source).all Json.isDigit = true := by
  cases source with
  | nil => exact absurd h (not_accepts_nil rfl)
  | cons c source =>
    obtain ⟨next, hnext, haccepts⟩ := h.cons
    simp only [Json.NumberState.next, Json.NumberState.next.digits] at hnext
    split at hnext
    . next hsign =>
      cases hnext
      have hunsigned : unsignedPart (c :: source) = source := by
        rcases hsign with rfl | rfl <;> rfl
      rw [hunsigned]
      exact digits_of_accepts_sign haccepts
    . split at hnext
      . next hdigit =>
        cases hnext
        rw [unsignedPart_of_isDigit hdigit, List.all_cons, hdigit, all_of_accepts_power haccepts]
        exact ⟨List.cons_ne_nil _ _, rfl⟩
      . cases hnext

variable {next : Json.NumberState}

theorem matchExponent_of_power
    (hnext : Json.NumberState.next.power c = some next) (h : Accepts next source)
    : (matchExponent (c :: source)).isSome = true := by
  simp only [Json.NumberState.next.power, Option.ite_none_right_eq_some, Option.some.injEq] at hnext
  obtain ⟨hletter, rfl⟩ := hnext
  have hdigits := digits_of_accepts_exponent h
  rw [matchExponent, if_pos ⟨hletter, hdigits.1, hdigits.2⟩]
  rfl

theorem not_isDigit_of_power
    (h : Json.NumberState.next.power c = some next)
    : Json.isDigit c = false := by
  simp only [Json.NumberState.next.power, Option.ite_none_right_eq_some] at h
  rcases h.1 with rfl | rfl <;> decide

theorem matchExponent_of_fraction (h : Accepts .fraction source)
    : (matchExponent (source.dropWhile Json.isDigit)).isSome = true := by
  induction source with
  | nil => rfl
  | cons c source ih =>
    obtain ⟨next, hnext, haccepts⟩ := h.cons
    simp only [Json.NumberState.next] at hnext
    split at hnext
    . next hdigit =>
      cases hnext
      rw [List.dropWhile_cons_of_pos hdigit]
      exact ih haccepts
    . next hdigit =>
      rw [List.dropWhile_cons_of_neg hdigit]
      exact matchExponent_of_power hnext haccepts

theorem matchFraction_of_rest
    (hnext : Json.NumberState.next.rest c = some next) (h : Accepts next source)
    : (matchFraction (c :: source)).isSome = true := by
  simp only [Json.NumberState.next.rest] at hnext
  split at hnext
  . next hpoint =>
    cases hnext
    subst hpoint
    cases source with
    | nil => exact absurd h (not_accepts_nil rfl)
    | cons d source =>
      obtain ⟨next, hnext, haccepts⟩ := h.cons
      simp only [Json.NumberState.next, Option.ite_none_right_eq_some, Option.some.injEq] at hnext
      obtain ⟨hdigit, rfl⟩ := hnext
      rw [matchFraction, List.takeWhile_cons_of_pos hdigit, if_neg (List.cons_ne_nil _ _),
        List.dropWhile_cons_of_pos hdigit, Option.isSome_map]
      exact matchExponent_of_fraction haccepts
  . next hpoint =>
    have hexponent := matchExponent_of_power hnext h
    unfold matchFraction
    split
    . next heq =>
      cases heq
      exact absurd rfl hpoint
    . rw [Option.isSome_map]
      exact hexponent

theorem not_isDigit_of_rest
    (h : Json.NumberState.next.rest c = some next)
    : Json.isDigit c = false := by
  simp only [Json.NumberState.next.rest] at h
  split at h
  . next hpoint =>
    subst hpoint
    decide
  . exact not_isDigit_of_power h

theorem matchFraction_of_integer (h : Accepts .integer source)
    : (matchFraction (source.dropWhile Json.isDigit)).isSome = true := by
  induction source with
  | nil => rfl
  | cons c source ih =>
    obtain ⟨next, hnext, haccepts⟩ := h.cons
    simp only [Json.NumberState.next] at hnext
    split at hnext
    . next hdigit =>
      cases hnext
      rw [List.dropWhile_cons_of_pos hdigit]
      exact ih haccepts
    . next hdigit =>
      rw [List.dropWhile_cons_of_neg hdigit]
      exact matchFraction_of_rest hnext haccepts

theorem matchFraction_of_zero (h : Accepts .zero source)
    : (matchFraction (source.dropWhile Json.isDigit)).isSome = true := by
  cases source with
  | nil => rfl
  | cons c source =>
    obtain ⟨next, hnext, haccepts⟩ := h.cons
    rw [List.dropWhile_cons_of_neg (by rw [not_isDigit_of_rest hnext]; decide)]
    exact matchFraction_of_rest hnext haccepts

theorem matchUnsigned_isSome {negative : Bool}
    (hnext : Json.NumberState.next.integerPart c = some next) (h : Accepts next source)
    : (matchUnsigned negative (c :: source)).isSome = true := by
  have hstep : Json.isDigit c = true ∧ (matchFraction (source.dropWhile Json.isDigit)).isSome = true := by
    simp only [Json.NumberState.next.integerPart] at hnext
    split at hnext
    . next hzero =>
      cases hnext
      exact ⟨by rw [hzero]; decide, matchFraction_of_zero h⟩
    . split at hnext
      . next hdigit =>
        cases hnext
        exact ⟨hdigit, matchFraction_of_integer h⟩
      . cases hnext
  rw [matchUnsigned, List.takeWhile_cons_of_pos hstep.1, if_neg (List.cons_ne_nil _ _),
    List.dropWhile_cons_of_pos hstep.1, Option.isSome_map]
  exact hstep.2

theorem exists_matchNumber (h : Json.isNumber source = true)
    : ∃ parts, matchNumber source = some parts := by
  rw [← Option.isSome_iff_exists]
  have haccepts : Accepts .start source := h
  cases source with
  | nil => exact absurd haccepts (not_accepts_nil rfl)
  | cons c source =>
    obtain ⟨next, hnext, hrest⟩ := haccepts.cons
    simp only [Json.NumberState.next] at hnext
    unfold matchNumber
    split
    . next heq =>
      cases heq
      cases hnext
      cases source with
      | nil => exact absurd hrest (not_accepts_nil rfl)
      | cons d digits =>
        obtain ⟨next, hnext, hrest⟩ := hrest.cons
        exact matchUnsigned_isSome hnext hrest
    . next hminus =>
      split at hnext
      . next heq => exact absurd (by rw [heq]) (hminus source)
      . exact matchUnsigned_isSome hnext hrest

theorem fraction_of_matchFraction {parts : List Char × List Char}
    (h : matchFraction source = some parts)
    : parts.1.all Json.isDigit = true := by
  unfold matchFraction at h
  split at h
  . next rest =>
    rw [Option.ite_none_left_eq_some] at h
    obtain ⟨_, h⟩ := h
    obtain ⟨exponent, _, rfl⟩ := Option.map_eq_some_iff.mp h
    exact List.all_takeWhile
  . obtain ⟨exponent, _, rfl⟩ := Option.map_eq_some_iff.mp h
    rfl

variable {parts : DecimalParts}

theorem digits_of_matchNumber
    (h : matchNumber source = some parts)
    : parts.digits ≠ [] ∧ parts.digits.all Char.isDigit = true := by
  have hunsigned : ∀ {negative : Bool} {source : List Char}, matchUnsigned negative source = some parts →
      parts.digits ≠ [] ∧ parts.digits.all Json.isDigit = true := by
    intro negative source h
    rw [matchUnsigned, Option.ite_none_left_eq_some] at h
    obtain ⟨hne, h⟩ := h
    obtain ⟨rest, hrest, rfl⟩ := Option.map_eq_some_iff.mp h
    refine ⟨fun heq => hne (List.append_eq_nil_iff.mp heq).1, ?_⟩
    rw [DecimalParts.digits, List.all_append, fraction_of_matchFraction hrest, Bool.and_true]
    exact List.all_takeWhile
  have hdigits : parts.digits ≠ [] ∧ parts.digits.all Json.isDigit = true := by
    unfold matchNumber at h
    split at h
    . exact hunsigned h
    . exact hunsigned h
  rw [show Json.isDigit = Char.isDigit from funext isDigit_eq] at hdigits
  exact hdigits

theorem magnitude_eq (parts : DecimalParts)
    : parts.magnitude = readNatural parts.digits * 10 ^ parts.scale := by
  have hten : (10 : ℚ) ≠ 0 := by norm_num
  rw [DecimalParts.magnitude, DecimalParts.digits, DecimalParts.scale, readNatural_append, zpow_sub₀ hten,
    zpow_natCast]
  push_cast
  field_simp

theorem isSafeInteger_iff (n : Int) : isSafeInteger n = true ↔ n.natAbs < 2 ^ 53 := by
  rw [isSafeInteger, Bool.and_eq_true, decide_eq_true_eq, decide_eq_true_eq, maxSafeInteger]
  omega

theorem safeInteger_nearestNumber {n : Nat} (negative : Bool) (h : n < 2 ^ 53)
    : safeInteger (nearestNumber negative n) = some (if negative then -(n : Int) else n) := by
  have hfinite : ¬(2 : ℚ) ^ 1024 ≤ n := by
    have hlt : n < 2 ^ 1024 := h.trans (pow_lt_pow_right₀ one_lt_two (by decide))
    exact not_le.mpr (by exact_mod_cast hlt)
  have hinteger : (nearestNumber negative n).integer = some (if negative then -(n : Int) else n) := by
    rw [nearestNumber, nearestBinary_natCast h, if_neg hfinite]
    split
    . next hzero =>
      have hn : n = 0 := by exact_mod_cast hzero.1
      rw [hn]
      simp [Number.integer]
    . cases negative <;> simp [Number.integer]
  rw [safeInteger, hinteger, Option.filter_some, if_pos]
  rw [isSafeInteger_iff]
  split <;> omega

theorem safeInteger_nearestNumber_of_le {q : ℚ} (negative : Bool) (h : 2 ^ 53 ≤ q)
    : safeInteger (nearestNumber negative q) = none := by
  have hrounded := two_pow_le_nearestBinary h
  have hpos : (0 : ℚ) < nearestBinary q := lt_of_lt_of_le (by norm_num) hrounded
  rw [safeInteger, Option.filter_eq_none_iff]
  intro n hn
  rw [isSafeInteger_iff, not_lt]
  unfold nearestNumber at hn
  split at hn
  . cases hn
  . rw [if_neg (fun hzero => hpos.ne' hzero.1)] at hn
    simp only [Number.integer, Option.ite_none_right_eq_some, Option.some.injEq] at hn
    obtain ⟨hden, rfl⟩ := hn
    have hcast := Rat.coe_int_num_of_den_eq_one hden
    have habs : ((Int.natAbs (if negative then -nearestBinary q else nearestBinary q).num : ℕ) : ℚ)
        = nearestBinary q := by
      rw [Nat.cast_natAbs, Int.cast_abs, hcast]
      cases negative <;> simp [abs_of_pos hpos]
    have hle : ((2 ^ 53 : ℕ) : ℚ)
        ≤ (Int.natAbs (if negative then -nearestBinary q else nearestBinary q).num : ℕ) := by
      rw [habs]
      exact_mod_cast hrounded
    exact_mod_cast hle

theorem safeInteger_power (power : Int)
    : safeInteger (nearestNumber (power < 0) power.natAbs) = none ↔ isSafeInteger power = false := by
  rw [Bool.eq_false_iff, ne_eq, isSafeInteger_iff, not_lt]
  constructor
  . intro h
    by_contra hlt
    rw [safeInteger_nearestNumber _ (not_le.mp hlt)] at h
    cases h
  . intro h
    exact safeInteger_nearestNumber_of_le _ (by exact_mod_cast h)

theorem readNatural_dropLeadingZeros (digits : List Char)
    : readNatural (dropLeadingZeros digits) = readNatural digits := by
  fun_induction dropLeadingZeros digits with
  | case1 next digits ih =>
    have happend := readNatural_append ['0'] (next :: digits)
    have hzero : readNatural ['0'] = 0 := rfl
    rw [hzero, Nat.zero_mul, Nat.zero_add] at happend
    exact ih.trans happend.symm
  | case2 => rfl

variable {digits : List Char}

theorem isNaturalText_dropLeadingZeros (hne : digits ≠ [])
    (hdigits : digits.all Char.isDigit = true)
    : isNaturalText (dropLeadingZeros digits) = true := by
  fun_induction dropLeadingZeros digits with
  | case1 next digits ih =>
    rw [List.all_cons, Bool.and_eq_true] at hdigits
    exact ih (List.cons_ne_nil _ _) hdigits.2
  | case2 digits hzeros =>
    cases digits with
    | nil => exact absurd rfl hne
    | cons c digits =>
      unfold isNaturalText
      split
      . rfl
      . next hsingle heq =>
        cases heq
        rw [List.all_cons, Bool.and_eq_true] at hdigits
        have hfirst : c ≠ '0' := by
          rintro rfl
          cases digits with
          | nil => exact hsingle rfl rfl
          | cons next digits => exact hzeros next digits rfl
        simp [hdigits, hfirst]
      . next heq => cases heq

theorem eq_zero_of_readNatural (hdigits : digits.all Char.isDigit = true)
    (h : readNatural digits = 0)
    : digits.all (· = '0') = true := by
  induction digits with
  | nil => rfl
  | cons c digits ih =>
    rw [List.all_cons, Bool.and_eq_true] at hdigits
    have hfirst : c = '0' := by
      by_contra hne
      have hpos : 0 < readNatural (c :: digits) := readNatural_pos hdigits.1 hne
      omega
    subst hfirst
    have hrest := readNatural_append ['0'] digits
    rw [List.singleton_append, h] at hrest
    rw [List.all_cons, ih hdigits.2 (by omega)]
    rfl

theorem readNatural_of_zeros (h : digits.all (· = '0') = true)
    : readNatural digits = 0 := by
  have hreplicate : digits = List.replicate digits.length '0' := by
    rw [List.eq_replicate_iff]
    exact ⟨rfl, fun c hc => by simpa using List.all_eq_true.mp h c hc⟩
  rw [hreplicate]
  exact readNatural_replicate _

/-- The spellings whose exponent is no safe integer or that have more than 21 digits without it. -/
def DecimalParts.TooLong (parts : DecimalParts) : Prop :=
  isSafeInteger parts.power = false ∨ (0 ≤ parts.scale ∧ 21 < parts.digits.length + parts.scale)

instance (parts : DecimalParts) : Decidable parts.TooLong := by
  unfold DecimalParts.TooLong
  infer_instance

structure DecimalParts.Recovered (parts : DecimalParts) (digits : List Char) : Prop where
  ne_nil : digits ≠ []
  isDigit : digits.all Char.isDigit = true
  magnitude : parts.magnitude = readNatural digits

theorem integerDigits_tooLong (h : parts.TooLong)
    : ∃ e, integerDigits parts = .error e := by
  unfold integerDigits
  by_cases hpower : isSafeInteger parts.power = false
  . rw [if_pos ((safeInteger_power _).mpr hpower)]
    exact ⟨_, rfl⟩
  . have hscale := h.resolve_left hpower
    rw [if_neg (fun hnone => hpower ((safeInteger_power _).mp hnone)), if_pos hscale.1, if_pos hscale.2]
    exact ⟨_, rfl⟩

theorem readNatural_take_drop (digits : List Char) (boundary : Nat)
    : readNatural digits = readNatural (digits.take boundary) * 10 ^ (digits.length - boundary)
        + readNatural (digits.drop boundary) := by
  have happend := readNatural_append (digits.take boundary) (digits.drop boundary)
  rw [List.take_append_drop, List.length_drop] at happend
  exact happend

theorem integerDigits_eq_ok (hne : parts.digits ≠ [])
    (hdigits : parts.digits.all Char.isDigit = true) (h : integerDigits parts = .ok digits)
    : parts.Recovered digits := by
  unfold integerDigits at h
  split at h
  . cases h
  . split at h
    . next hscale =>
      split at h
      . cases h
      . cases h
        obtain ⟨zeros, hzeros⟩ := Int.eq_ofNat_of_zero_le hscale
        refine ⟨fun heq => hne (List.append_eq_nil_iff.mp heq).1, ?_, ?_⟩
        . rw [List.all_append, hdigits, Bool.true_and, List.all_replicate]
          split <;> rfl
        . rw [magnitude_eq, hzeros, Int.toNat_natCast, readNatural_append, readNatural_replicate,
            List.length_replicate, zpow_natCast]
          push_cast
          ring
    . next hscale =>
      dsimp only at h
      split at h
      . cases h
      . next hboundary =>
        cases h
        rw [not_or, not_le, Bool.not_eq_false] at hboundary
        obtain ⟨boundary, hb⟩ := Int.eq_ofNat_of_zero_le hboundary.1.le
        have hlength : boundary ≤ parts.digits.length := by omega
        rw [hb, Int.toNat_natCast] at hboundary
        rw [hb, Int.toNat_natCast]
        have hscaled : parts.scale = -((parts.digits.length - boundary : ℕ) : ℤ) := by omega
        refine ⟨?_, ?_, ?_⟩
        . intro hnil
          rcases List.take_eq_nil_iff.mp hnil with hzero | hempty
          . omega
          . exact hne hempty
        . exact List.all_eq_true.mpr (fun c hc => List.all_eq_true.mp hdigits c (List.mem_of_mem_take hc))
        . rw [magnitude_eq, readNatural_take_drop parts.digits boundary, readNatural_of_zeros hboundary.2,
            Nat.add_zero, hscaled, zpow_neg, zpow_natCast]
          push_cast
          field_simp

theorem exists_integerDigits {n : Nat}
    (hdigits : parts.digits.all Char.isDigit = true) (hvalue : parts.magnitude = n) (hpos : 0 < n)
    (hlong : ¬parts.TooLong)
    : ∃ digits, integerDigits parts = .ok digits := by
  rw [DecimalParts.TooLong, not_or, not_and, Bool.not_eq_false] at hlong
  unfold integerDigits
  rw [if_neg (fun hnone => Bool.false_ne_true (((safeInteger_power _).mp hnone).symm.trans hlong.1))]
  split
  . next hscale =>
    rw [if_neg (hlong.2 hscale)]
    exact ⟨_, rfl⟩
  . next hscale =>
    obtain ⟨k, hk⟩ := Int.eq_ofNat_of_zero_le (show 0 ≤ -parts.scale by omega)
    have hscaled : readNatural parts.digits = n * 10 ^ k := by
      have hmagnitude := magnitude_eq parts
      rw [hvalue, show parts.scale = -(k : ℤ) by omega, zpow_neg, zpow_natCast,
        eq_mul_inv_iff_mul_eq₀ (by positivity)] at hmagnitude
      exact_mod_cast hmagnitude.symm
    have hshort : k < parts.digits.length := by
      rw [← Nat.pow_lt_pow_iff_right (a := 10) (by decide)]
      calc 10 ^ k ≤ n * 10 ^ k := Nat.le_mul_of_pos_left _ hpos
        _ = readNatural parts.digits := hscaled.symm
        _ < 10 ^ parts.digits.length := readNatural_lt hdigits
    have hboundary : parts.digits.length + parts.scale = ((parts.digits.length - k : ℕ) : ℤ) := by omega
    have hrest : (parts.digits.drop (parts.digits.length - k)).all (· = '0') = true := by
      have hdrop : (parts.digits.drop (parts.digits.length - k)).all Char.isDigit = true :=
        List.all_eq_true.mpr (fun c hc => List.all_eq_true.mp hdigits c (List.mem_of_mem_drop hc))
      have hlt := readNatural_lt hdrop
      have hsplit := readNatural_take_drop parts.digits (parts.digits.length - k)
      rw [List.length_drop] at hlt
      rw [show parts.digits.length - (parts.digits.length - k) = k by omega] at hlt hsplit
      refine eq_zero_of_readNatural hdrop ?_
      rw [hscaled] at hsplit
      have hmod := congrArg (· % 10 ^ k) hsplit
      simpa [Nat.add_mod, Nat.mod_eq_of_lt hlt] using hmod.symm
    simp only [hboundary, Int.toNat_natCast]
    rw [if_neg (by rw [not_or, hrest]; exact ⟨by omega, Bool.noConfusion⟩)]
    exact ⟨_, rfl⟩

theorem scalarOf_unitOf (h : c.toNat < 128) : scalarOf (unitOf c) = c := by
  have hunit : (unitOf c).toNat = c.toNat := UInt16.toNat_ofNat_of_lt' (Nat.lt_trans h (by decide))
  have hhigh : isHighSurrogate (unitOf c) = false := by
    simp only [isHighSurrogate, UInt16.le_iff_toNat_le, hunit, Bool.and_eq_false_iff, decide_eq_false_iff_not]
    exact .inl (by simp; omega)
  have hlow : isLowSurrogate (unitOf c) = false := by
    simp only [isLowSurrogate, UInt16.le_iff_toNat_le, hunit, Bool.and_eq_false_iff, decide_eq_false_iff_not]
    exact .inl (by simp; omega)
  rw [scalarOf, hhigh, hlow, hunit]
  exact Char.ofNat_toNat c

theorem characters_asciiText {chars : List Char} (h : ∀ c ∈ chars, c.toNat < 128)
    : characters (asciiText chars) = chars := by
  rw [characters, asciiText, List.map_map]
  exact (List.map_congr_left (fun c hc => scalarOf_unitOf (h c hc))).trans (List.map_id chars)

theorem toNat_lt_of_isDigit (h : c.isDigit = true) : c.toNat < 128 := by
  have hbounds : 48 ≤ c.toNat ∧ c.toNat ≤ 57 := by
    simpa [Char.isDigit, UInt32.le_iff_toNat_le] using h
  omega

theorem text_eq_asciiText {literal : String} (h : ∀ c ∈ literal.toList, c.toNat < 128)
    : text literal = asciiText literal.toList := by
  rw [text, utf16Units, List.map_flatMap, asciiText, List.map_eq_flatMap]
  refine List.flatMap_congr (fun c hc => ?_)
  rw [if_neg (by have := h c hc; omega)]
  rfl

theorem decimalInt_eq (n : Int) : decimalInt n = asciiText (integerText n) := by
  have hdecimal : ∀ m : Nat, decimal m = asciiText (Nat.toDigits 10 m) := by
    intro m
    have hlist : (toString m).toList = Nat.toDigits 10 m := Nat.toList_repr
    rw [decimal, text_eq_asciiText, hlist]
    intro c hc
    rw [hlist] at hc
    exact toNat_lt_of_isDigit (List.all_eq_true.mp (all_isDigit_toDigits m) c hc)
  rw [decimalInt, integerText, hdecimal]
  split <;> rfl

theorem toNat_lt_of_mem_integerText {n : Int} (h : c ∈ integerText n) : c.toNat < 128 := by
  have hdigit : ∀ m : Nat, c ∈ Nat.toDigits 10 m → c.toNat < 128 := fun m hm =>
    toNat_lt_of_isDigit (List.all_eq_true.mp (all_isDigit_toDigits m) c hm)
  unfold integerText at h
  split at h
  . cases h with
    | head => decide
    | tail _ h => exact hdigit _ h
  . exact hdigit _ h

theorem characters_decimalInt (n : Int) : characters (decimalInt n) = integerText n := by
  rw [decimalInt_eq]
  exact characters_asciiText (fun c hc => toNat_lt_of_mem_integerText hc)

namespace Int64Field

def InRange (field : Int64Field) (n : Int) : Prop :=
  integer64Minimum field.unsigned ≤ n ∧ n ≤ integer64Maximum field.unsigned

instance (field : Int64Field) (n : Int) : Decidable (field.InRange n) := by
  unfold InRange
  infer_instance

end Int64Field

variable {field : Int64Field}
variable {path : String}

theorem integer64_of_candidate {value : Value} {units : Text}
    (hvalue : candidate value = some units) (hunits : isIntegerText (characters units) = true)
    (result : Text)
    : integer64 (some value) path field.unsigned = .ok result
        ↔ field.InRange (readInteger (characters units))
            ∧ result = decimalInt (readInteger (characters units)) := by
  have hnull : value ≠ .null := by
    rintro rfl
    cases hvalue
  unfold integer64
  split
  . next heq => cases heq
  . next heq => exact absurd (Option.some.inj heq) hnull
  . next heq =>
    cases heq
    rw [hvalue, Option.filter_some, if_pos hunits]
    dsimp only
    split
    . next hout =>
      constructor
      . intro h
        cases h
      . intro h
        have hrange := h.1
        unfold Int64Field.InRange at hrange
        omega
    . next hin =>
      rw [not_or, not_lt, not_lt] at hin
      rw [Except.ok.injEq, eq_comm]
      exact ⟨fun h => ⟨hin, h⟩, fun h => h.2⟩

theorem candidate_string (units : Text) : candidate (.string units) = some units :=
  rfl

theorem integer64_number {number : Number} {n : Int}
    (h : safeInteger number = some n) (result : Text)
    : integer64 (some (.number number)) path field.unsigned = .ok result
        ↔ field.InRange n ∧ result = decimalInt n := by
  have hcandidate : candidate (.number number) = some (decimalInt n) := by
    rw [candidate, h]
    rfl
  have hunits : isIntegerText (characters (decimalInt n)) = true := by
    rw [characters_decimalInt]
    exact isIntegerText_integerText n
  rw [integer64_of_candidate hcandidate hunits, characters_decimalInt, readInteger_integerText]

theorem not_minus_of_isNaturalText {digits rest : List Char} (h : isNaturalText digits = true)
    : digits ≠ '-' :: rest := by
  rintro rfl
  simp [isNaturalText] at h

theorem isIntegerText_signed (negative : Bool) (h : isNaturalText digits = true)
    : isIntegerText ((if negative then ['-'] else []) ++ digits) = true := by
  cases negative with
  | true => exact h
  | false =>
    unfold isIntegerText
    split
    . next heq => exact absurd heq (not_minus_of_isNaturalText h)
    . exact h

theorem readInteger_signed (negative : Bool) (h : isNaturalText digits = true)
    : readInteger ((if negative then ['-'] else []) ++ digits)
        = if negative then -(readNatural digits : Int) else readNatural digits := by
  cases negative with
  | true => rfl
  | false =>
    unfold readInteger
    split
    . next heq => exact absurd heq (not_minus_of_isNaturalText h)
    . rfl

theorem all_isDigit_dropLeadingZeros (h : digits.all Char.isDigit = true)
    : (dropLeadingZeros digits).all Char.isDigit = true := by
  fun_induction dropLeadingZeros digits with
  | case1 next digits ih =>
    rw [List.all_cons, Bool.and_eq_true] at h
    exact ih h.2
  | case2 => exact h

theorem exactIntegerToken_eq_ok {exact : List Char}
    (hparts : matchNumber source = some parts) (h : exactIntegerToken source = .ok exact)
    : characters (asciiText exact) = exact ∧ isIntegerText exact = true
        ∧ parts.value = readInteger exact := by
  rw [exactIntegerToken, hparts] at h
  dsimp only at h
  cases hdigits : integerDigits parts with
  | error e =>
    rw [hdigits] at h
    cases h
  | ok digits =>
    rw [hdigits] at h
    cases h
    have hsource := digits_of_matchNumber hparts
    have hrecovered := integerDigits_eq_ok hsource.1 hsource.2 hdigits
    have hnatural := isNaturalText_dropLeadingZeros hrecovered.ne_nil hrecovered.isDigit
    refine ⟨characters_asciiText ?_, isIntegerText_signed _ hnatural, ?_⟩
    . intro c hc
      rw [List.mem_append] at hc
      rcases hc with hsign | hdigit
      . split at hsign
        . rw [List.mem_singleton.mp hsign]
          decide
        . cases hsign
      . exact toNat_lt_of_isDigit
          (List.all_eq_true.mp (all_isDigit_dropLeadingZeros hrecovered.isDigit) c hdigit)
    . rw [readInteger_signed _ hnatural, readNatural_dropLeadingZeros, DecimalParts.value,
        hrecovered.magnitude]
      split
      . push_cast
        rfl
      . push_cast
        rfl

theorem exists_exactIntegerToken {n : Nat}
    (hparts : matchNumber source = some parts) (hvalue : parts.magnitude = n) (hpos : 0 < n)
    (hlong : ¬parts.TooLong)
    : ∃ exact, exactIntegerToken source = .ok exact := by
  obtain ⟨digits, hdigits⟩ := exists_integerDigits (digits_of_matchNumber hparts).2 hvalue hpos hlong
  rw [exactIntegerToken, hparts]
  dsimp only
  rw [hdigits]
  exact ⟨_, rfl⟩

theorem exactIntegerToken_tooLong
    (hparts : matchNumber source = some parts) (h : parts.TooLong)
    : ∃ e, exactIntegerToken source = .error e := by
  obtain ⟨e, he⟩ := integerDigits_tooLong h
  rw [exactIntegerToken, hparts]
  dsimp only
  rw [he]
  exact ⟨e, rfl⟩

inductive Written where
  | number (token : NumberToken) (h : Json.isNumber token.source = true)
  | decimal (units : Text) (h : isIntegerText (characters units) = true)

namespace Written

def json : Written → Json NumberToken
  | .number token _ => .number token
  | .decimal units _ => .string units

def value : Written → ℚ
  | .number token _ => (matchNumber token.source).elim 0 DecimalParts.value
  | .decimal units _ => readInteger (characters units)

/-- A fraction that the host rounds to an integer in the range of the field. -/
def LosesFraction (field : Int64Field) : Written → Prop
  | written@(.number token _) =>
    (∀ n : Int, written.value ≠ n)
      ∧ ∃ n, safeInteger (parseNumber token.source) = some n ∧ field.InRange n
  | .decimal _ _ => False

/-- An integer in the range of the field that the host rounds and that is spelled too long. -/
def OverlongSpelling (field : Int64Field) : Written → Prop
  | written@(.number token _) =>
    (∃ n : Int, written.value = n ∧ field.InRange n ∧ isSafeInteger n = false)
      ∧ ∃ parts, matchNumber token.source = some parts ∧ parts.TooLong
  | .decimal _ _ => False

end Written

def decodeField (field : Int64Field) (path : String) (written : Written) : Except OtlpDecodeError Text := do
  let value ← revive field.key written.json
  integer64 (some value) path field.unsigned

theorem key_mem (field : Int64Field) : field.key ∈ int64JsonFields :=
  List.mem_map.mpr ⟨field, by cases field <;> decide, rfl⟩

theorem decodeField_decimal {units : Text}
    (h : isIntegerText (characters units) = true) (result : Text)
    : decodeField field path (.decimal units h) = .ok result
        ↔ field.InRange (readInteger (characters units))
            ∧ result = decimalInt (readInteger (characters units)) :=
  integer64_of_candidate (candidate_string units) h result

theorem decodeField_of_some {token : NumberToken} {n : Int}
    (h : Json.isNumber token.source = true) (hsafe : safeInteger (parseNumber token.source) = some n)
    (result : Text)
    : decodeField field path (.number token h) = .ok result
        ↔ field.InRange n ∧ result = decimalInt n := by
  have hrevived : revive field.key (.number token) = .ok (.number (parseNumber token.source)) := by
    rw [revive, reviveNumber, if_neg (fun hnone => by rw [hsafe] at hnone; cases hnone.2)]
  unfold decodeField
  rw [Written.json, hrevived]
  exact integer64_number hsafe result

theorem decodeField_of_none {token : NumberToken}
    (h : Json.isNumber token.source = true) (hnone : safeInteger (parseNumber token.source) = none)
    (result : Text)
    : decodeField field path (.number token h) = .ok result
        ↔ ∃ exact, exactIntegerToken token.source = .ok exact
            ∧ integer64 (some (.string (asciiText exact))) path field.unsigned = .ok result := by
  have hrevived : revive field.key (.number token)
      = (exactIntegerToken token.source).map (fun exact => .string (asciiText exact)) := by
    rw [revive, reviveNumber, if_pos ⟨key_mem field, hnone⟩]
  unfold decodeField
  rw [Written.json, hrevived]
  cases hexact : exactIntegerToken token.source with
  | error e =>
    constructor
    . intro herror
      cases herror
    . rintro ⟨exact, hok, _⟩
      cases hok
  | ok exact =>
    constructor
    . intro hok
      exact ⟨exact, rfl, hok⟩
    . rintro ⟨exact, heq, hok⟩
      cases heq
      exact hok

theorem magnitude_nonneg (parts : DecimalParts) : 0 ≤ parts.magnitude := by
  rw [magnitude_eq]
  exact mul_nonneg (Nat.cast_nonneg _) (zpow_nonneg (by norm_num) _)

theorem magnitude_of_value {n : Int} (h : parts.value = n)
    : parts.magnitude = n.natAbs ∧ n = if parts.negative then -(n.natAbs : Int) else n.natAbs := by
  have hnonneg := magnitude_nonneg parts
  unfold DecimalParts.value at h
  split at h
  . next hnegative =>
    have hmagnitude : parts.magnitude = ((-n : ℤ) : ℚ) := by
      push_cast
      linarith
    have hn : (0 : ℤ) ≤ -n := by
      rw [hmagnitude] at hnonneg
      exact_mod_cast hnonneg
    have habs : (n.natAbs : ℤ) = -n := by omega
    rw [hmagnitude, if_pos hnegative, habs, neg_neg, ← habs]
    exact ⟨Int.cast_natCast _, rfl⟩
  . next hnegative =>
    have hn : (0 : ℤ) ≤ n := by
      rw [h] at hnonneg
      exact_mod_cast hnonneg
    have habs : (n.natAbs : ℤ) = n := by omega
    rw [h, if_neg hnegative, habs]
    exact ⟨by rw [← Int.cast_natCast, habs], rfl⟩

theorem safeInteger_of_value {n : Int}
    (hparts : matchNumber source = some parts) (h : parts.value = n)
    : safeInteger (parseNumber source) = if isSafeInteger n then some n else none := by
  obtain ⟨hmagnitude, hsign⟩ := magnitude_of_value h
  rw [parseNumber, hparts]
  dsimp only
  rw [hmagnitude]
  split
  . next hsafe =>
    rw [safeInteger_nearestNumber _ ((isSafeInteger_iff n).mp hsafe), ← hsign]
  . next hsafe =>
    rw [isSafeInteger_iff, not_lt] at hsafe
    exact safeInteger_nearestNumber_of_le _ (by exact_mod_cast hsafe)

theorem written_value_number {token : NumberToken}
    (h : Json.isNumber token.source = true) (hparts : matchNumber token.source = some parts)
    : (Written.number token h).value = parts.value := by
  rw [Written.value, hparts]
  rfl

/-- A field is decoded exactly: it is accepted iff an integer in its range is written, and as that one. -/
def DecodesExactly (field : Int64Field) (path : String) (written : Written) : Prop :=
  ∀ result, decodeField field path written = .ok result
    ↔ ∃ n : Int, written.value = n ∧ field.InRange n ∧ result = decimalInt n

theorem decodesExactly_decimal {units : Text}
    (h : isIntegerText (characters units) = true)
    : DecodesExactly field path (.decimal units h) := by
  intro result
  rw [decodeField_decimal]
  constructor
  . intro hresult
    exact ⟨_, rfl, hresult⟩
  . rintro ⟨n, hn, hresult⟩
    have heq : readInteger (characters units) = n := Int.cast_injective hn
    rw [heq]
    exact hresult

theorem decodesExactly_of_some {token : NumberToken} {n : Int}
    (h : Json.isNumber token.source = true) (hsafe : safeInteger (parseNumber token.source) = some n)
    : DecodesExactly field path (.number token h)
        ↔ ((∃ m : Int, (Written.number token h).value = m) ∨ ¬field.InRange n) := by
  obtain ⟨parts, hparts⟩ := exists_matchNumber h
  have hsame : ∀ m : Int, (Written.number token h).value = m → m = n := by
    intro m hm
    rw [written_value_number h hparts] at hm
    have hvalue := safeInteger_of_value hparts hm
    rw [hsafe] at hvalue
    split at hvalue
    . exact (Option.some.inj hvalue).symm
    . cases hvalue
  constructor
  . intro hexact
    by_contra hnot
    rw [not_or, not_not] at hnot
    obtain ⟨m, hm, _⟩ := (hexact _).mp ((decodeField_of_some h hsafe _).mpr ⟨hnot.2, rfl⟩)
    exact hnot.1 ⟨m, hm⟩
  . intro hcases result
    rw [decodeField_of_some h hsafe]
    constructor
    . rintro ⟨hrange, hresult⟩
      obtain ⟨m, hm⟩ := hcases.resolve_right (not_not.mpr hrange)
      rw [← hsame m hm] at hrange hresult
      exact ⟨m, hm, hrange, hresult⟩
    . rintro ⟨m, hm, hrange, hresult⟩
      rw [hsame m hm] at hrange hresult
      exact ⟨hrange, hresult⟩

theorem decodeField_recovered {token : NumberToken}
    (h : Json.isNumber token.source = true)
    (hparts : matchNumber token.source = some parts)
    (hnone : safeInteger (parseNumber token.source) = none) (result : Text)
    : decodeField field path (.number token h) = .ok result
        ↔ ∃ exact, exactIntegerToken token.source = .ok exact ∧ parts.value = readInteger exact
            ∧ field.InRange (readInteger exact) ∧ result = decimalInt (readInteger exact) := by
  rw [decodeField_of_none h hnone]
  refine exists_congr (fun exact => and_congr_right (fun hexact => ?_))
  obtain ⟨hcharacters, htext, hvalue⟩ := exactIntegerToken_eq_ok hparts hexact
  have hunits : isIntegerText (characters (asciiText exact)) = true := by
    rw [hcharacters]
    exact htext
  rw [integer64_of_candidate (candidate_string (asciiText exact)) hunits, hcharacters]
  exact (and_iff_right hvalue).symm

theorem decodesExactly_of_none {token : NumberToken}
    (h : Json.isNumber token.source = true)
    (hparts : matchNumber token.source = some parts)
    (hnone : safeInteger (parseNumber token.source) = none)
    : DecodesExactly field path (.number token h)
        ↔ ¬((∃ n : Int, parts.value = n ∧ field.InRange n ∧ isSafeInteger n = false) ∧ parts.TooLong) := by
  constructor
  . rintro hexact ⟨⟨n, hn, hrange, _⟩, hlong⟩
    have hok := (hexact (decimalInt n)).mpr ⟨n, by rw [written_value_number h hparts, hn], hrange, rfl⟩
    obtain ⟨exact, hrecovered, _⟩ := (decodeField_recovered h hparts hnone _).mp hok
    obtain ⟨e, he⟩ := exactIntegerToken_tooLong hparts hlong
    rw [he] at hrecovered
    cases hrecovered
  . intro hlong result
    rw [decodeField_recovered h hparts hnone, written_value_number h hparts]
    constructor
    . rintro ⟨exact, _, hvalue, hrange, hresult⟩
      exact ⟨readInteger exact, hvalue, hrange, hresult⟩
    . rintro ⟨n, hn, hrange, hresult⟩
      have hbig : isSafeInteger n = false := by
        have hvalue := safeInteger_of_value hparts hn
        rw [hnone] at hvalue
        split at hvalue
        . cases hvalue
        . next hsafe => exact Bool.eq_false_iff.mpr hsafe
      have hpos : 0 < n.natAbs := by
        rw [Bool.eq_false_iff, ne_eq, isSafeInteger_iff, not_lt] at hbig
        omega
      obtain ⟨exact, hexact⟩ := exists_exactIntegerToken hparts (magnitude_of_value hn).1 hpos
        (fun htoo => hlong ⟨⟨n, hn, hrange, hbig⟩, htoo⟩)
      have hvalue := (exactIntegerToken_eq_ok hparts hexact).2.2
      have heq : n = readInteger exact := Int.cast_injective (hn.symm.trans hvalue)
      rw [heq] at hrange hresult
      exact ⟨exact, hexact, hvalue, hrange, hresult⟩

theorem decodesExactly_iff (field : Int64Field) (path : String) (written : Written)
    : DecodesExactly field path written
        ↔ ¬written.LosesFraction field ∧ ¬written.OverlongSpelling field := by
  cases written with
  | decimal units h => exact iff_of_true (decodesExactly_decimal h) ⟨id, id⟩
  | number token h =>
    obtain ⟨parts, hparts⟩ := exists_matchNumber h
    have hnumber : (Written.number token h).value = parts.value := written_value_number h hparts
    cases hsafe : safeInteger (parseNumber token.source) with
    | some n =>
      have hsafeValue : ∀ m : Int, (Written.number token h).value = m → isSafeInteger m = true := by
        intro m hm
        have hvalue := safeInteger_of_value hparts (hnumber.symm.trans hm)
        rw [hsafe] at hvalue
        by_contra hbig
        rw [if_neg hbig] at hvalue
        cases hvalue
      have hspelling : ¬(Written.number token h).OverlongSpelling field := by
        rintro ⟨⟨m, hm, _, hbig⟩, _⟩
        rw [hsafeValue m hm] at hbig
        cases hbig
      rw [decodesExactly_of_some h hsafe, and_iff_left hspelling, Written.LosesFraction, not_and_or,
        not_forall_not]
      refine or_congr_right (not_congr ⟨fun hrange => ⟨n, hsafe, hrange⟩, ?_⟩)
      rintro ⟨m, hm, hrange⟩
      rw [hsafe] at hm
      cases hm
      exact hrange
    | none =>
      have hfraction : ¬(Written.number token h).LosesFraction field := by
        rintro ⟨_, m, hm, _⟩
        rw [hsafe] at hm
        cases hm
      rw [decodesExactly_of_none h hparts hsafe, and_iff_right hfraction, Written.OverlongSpelling, hnumber]
      refine not_congr (and_congr_right (fun _ => ⟨fun hlong => ⟨parts, hparts, hlong⟩, ?_⟩))
      rintro ⟨others, hothers, hlong⟩
      rw [hparts] at hothers
      cases hothers
      exact hlong

def decodeMember (field : Int64Field) (path : String) (members : List (Text × Json NumberToken))
    : Except OtlpDecodeError Text := do
  let object ← revive [] (.object members)
  integer64 (object.get field.key) path field.unsigned

theorem reviveMembers_cons_eq_ok {key : Text} {member : Json NumberToken}
    {members : List (Text × Json NumberToken)} {values : List (Text × Value)}
    : reviveMembers ((key, member) :: members) = .ok values
        ↔ ∃ value rest, revive key member = .ok value ∧ reviveMembers members = .ok rest
            ∧ values = (key, value) :: rest := by
  rw [reviveMembers]
  cases revive key member with
  | error e =>
    constructor
    . intro h
      cases h
    . rintro ⟨_, _, h, _⟩
      cases h
  | ok value =>
    cases reviveMembers members with
    | error e =>
      constructor
      . intro h
        cases h
      . rintro ⟨_, _, _, h, _⟩
        cases h
    | ok rest =>
      constructor
      . intro h
        cases h
        exact ⟨value, rest, rfl, rfl, rfl⟩
      . rintro ⟨_, _, hvalue, hrest, rfl⟩
        cases hvalue
        cases hrest
        rfl

theorem lookup_reviveMembers {key : Text} {member : Json NumberToken}
    {members : List (Text × Json NumberToken)} {values : List (Text × Value)}
    (h : reviveMembers members = .ok values) (hmember : members.lookup key = some member)
    : ∃ value, revive key member = .ok value ∧ values.lookup key = some value := by
  induction members generalizing values with
  | nil => cases hmember
  | cons first members ih =>
    obtain ⟨value, rest, hvalue, hrest, rfl⟩ := reviveMembers_cons_eq_ok.mp h
    by_cases hkey : key = first.1
    . subst hkey
      rw [List.lookup_cons_self, Option.some.injEq] at hmember
      subst hmember
      exact ⟨value, hvalue, List.lookup_cons_self⟩
    . have hbeq : (key == first.1) = false := beq_false_of_ne hkey
      rw [List.lookup_cons, hbeq] at hmember
      rw [List.lookup_cons, hbeq]
      exact ih hrest hmember

theorem exists_reviveMembers {members : List (Text × Json NumberToken)}
    (h : ∀ member ∈ members, ∃ value, revive member.1 member.2 = .ok value)
    : ∃ values, reviveMembers members = .ok values := by
  induction members with
  | nil => exact ⟨[], rfl⟩
  | cons first members ih =>
    obtain ⟨value, hvalue⟩ := h first List.mem_cons_self
    obtain ⟨rest, hrest⟩ := ih (fun member hmember => h member (List.mem_cons_of_mem _ hmember))
    exact ⟨_, reviveMembers_cons_eq_ok.mpr ⟨value, rest, hvalue, hrest, rfl⟩⟩

theorem decodeMember_eq_ok_iff {written : Written}
    {members : List (Text × Json NumberToken)} (hmember : members.lookup field.key = some written.json)
    (hothers : ∀ member ∈ members, member ≠ (field.key, written.json)
      → ∃ value, revive member.1 member.2 = .ok value)
    (result : Text)
    : decodeMember field path members = .ok result ↔ decodeField field path written = .ok result := by
  unfold decodeMember decodeField
  rw [revive]
  cases hvalues : reviveMembers members with
  | ok values =>
    obtain ⟨value, hvalue, hlookup⟩ := lookup_reviveMembers hvalues hmember
    have hget : (Value.object values .objectPrototype).get field.key = some value := by
      rw [Value.get, hlookup, Option.some_or]
    rw [hvalue]
    change integer64 ((Value.object values .objectPrototype).get field.key) _ _ = _ ↔ _
    rw [hget]
    rfl
  | error e =>
    cases hwritten : revive field.key written.json with
    | error e =>
      constructor
      . intro h
        cases h
      . intro h
        cases h
    | ok value =>
      have hall : ∀ member ∈ members, ∃ value, revive member.1 member.2 = .ok value := by
        intro member hmem
        by_cases heq : member = (field.key, written.json)
        . exact ⟨value, by rw [heq]; exact hwritten⟩
        . exact hothers member hmem heq
      obtain ⟨values, hok⟩ := exists_reviveMembers hall
      rw [hok] at hvalues
      cases hvalues

/-- In an object whose other members can be read a field is decoded exactly, unless a fraction is lost in the
rounding of the host or an integer is spelled too long to be recovered. -/
theorem decodeMember_exact_iff (field : Int64Field) (path : String) (written : Written)
    (members : List (Text × Json NumberToken)) (hmember : members.lookup field.key = some written.json)
    (hothers : ∀ member ∈ members, member ≠ (field.key, written.json)
      → ∃ value, revive member.1 member.2 = .ok value)
    : (∀ result, decodeMember field path members = .ok result
          ↔ ∃ n : Int, written.value = n ∧ field.InRange n ∧ result = decimalInt n)
        ↔ ¬written.LosesFraction field ∧ ¬written.OverlongSpelling field := by
  rw [← decodesExactly_iff field path written]
  exact forall_congr' (fun result => by rw [decodeMember_eq_ok_iff hmember hothers])

namespace IntegerSample

def token (source : String) : NumberToken :=
  ⟨source.toList⟩

def members (source : String) : List (Text × Json NumberToken) :=
  [(text "name", .string (text "tick")), (Int64Field.timeUnixNano.key, .number (token source))]

def last : Written :=
  .number (token "1844674407370955161.5e1") (by decide)

def fraction : Written :=
  .number (token "1.00000000000000000001") (by decide)

theorem lookup_members (source : String)
    : (members source).lookup Int64Field.timeUnixNano.key = some (.number (token source)) := by
  rw [members, List.lookup_cons, show (Int64Field.timeUnixNano.key == text "name") = false by decide]
  exact List.lookup_cons_self

theorem others_members (source : String)
    : ∀ member ∈ members source, member ≠ (Int64Field.timeUnixNano.key, .number (token source))
        → ∃ value, revive member.1 member.2 = .ok value := by
  intro member hmember hne
  rw [members, List.mem_cons, List.mem_singleton] at hmember
  rcases hmember with rfl | rfl
  . exact ⟨_, revive.eq_4 _ _⟩
  . exact absurd rfl hne

theorem decodeMember_exact_iff_last
    : (∀ result, decodeMember .timeUnixNano "event.timeUnixNano" (members "1844674407370955161.5e1") = .ok result
          ↔ ∃ n : Int, last.value = n ∧ Int64Field.timeUnixNano.InRange n ∧ result = decimalInt n)
        ↔ ¬last.LosesFraction .timeUnixNano ∧ ¬last.OverlongSpelling .timeUnixNano :=
  decodeMember_exact_iff .timeUnixNano "event.timeUnixNano" last (members "1844674407370955161.5e1")
    (lookup_members _) (others_members _)

theorem decodeMember_fraction
    : ¬∀ result, decodeMember .timeUnixNano "event.timeUnixNano" (members "1.00000000000000000001") = .ok result
        ↔ ∃ n : Int, fraction.value = n ∧ Int64Field.timeUnixNano.InRange n ∧ result = decimalInt n := by
  intro hexact
  have hsafe : safeInteger (parseNumber (token "1.00000000000000000001").source) = some 1 := by
    decide +kernel
  have hlookup : (members "1.00000000000000000001").lookup Int64Field.timeUnixNano.key = some fraction.json :=
    lookup_members _
  have hdecoded : decodeMember .timeUnixNano "event.timeUnixNano" (members "1.00000000000000000001")
      = .ok (decimalInt 1) := by
    rw [decodeMember_eq_ok_iff hlookup (others_members _), fraction, decodeField_of_some _ hsafe]
    exact ⟨by decide, rfl⟩
  obtain ⟨n, hn, _⟩ := (hexact _).mp hdecoded
  have hden : fraction.value.den ≠ 1 := by
    decide +kernel
  rw [hn] at hden
  exact hden (Rat.den_intCast n)

end IntegerSample

end Otlp
end ProofStack
