import ProofStack.Checks
import ProofStack.Contracts.PolicyEvaluation.TimeText
import ProofStack.Contracts.Primitives

/-!
This module contains the arithmetic on the texts of timestamps that leases and deadlines rest on, and the
proof that it is exact.
-/

namespace ProofStack
namespace Policy

open Arithmetic Calendar Checks PolicyEvaluationTime TimeText

inductive SchedulerTimeError where
  | range
  | zod
  deriving DecidableEq

def policyEvaluationTimestampOrderKey (value : String) : Except SchedulerTimeError Int := do
  let parts ← found (readParts value.toList) .zod
  return parts.orderKey

def wholeAndFraction (key : Int) : Int × Int :=
  let seconds := key.tdiv unitsPerSecond
  let fraction := key.tmod unitsPerSecond
  if fraction < 0 then (seconds - 1, fraction + unitsPerSecond) else (seconds, fraction)

def fractionDigits (fraction : Nat) : List Char :=
  let digits := dropZeros (naturalText maxPostgresTimestampFractionDigits fraction)
  if digits = [] then ['0', '0', '0'] else digits

def addPolicyEvaluationMilliseconds (value : String) (duration : Int)
    : Except SchedulerTimeError String := do
  Checks.failIf (maxSafeInteger < duration ∨ duration < 0) .range
  let accepted ← Checks.parseWith (PolicyEvaluationTimeSchema value) .zod value
  let start ← policyEvaluationTimestampOrderKey accepted
  let (seconds, fraction) :=
    wholeAndFraction (start + duration * policyEvaluationTimeUnitsPerMillisecond)
  let text ← found (toISOString (seconds * 1000)) .range
  let whole := text.take 19
  let result := String.ofList (whole ++ ('.' :: fractionDigits fraction.toNat ++ ['Z']))
  Checks.parseWith (PolicyEvaluationTimeSchema result) .zod result

def addPolicyEvaluationMillisecondsUpTo (value : String) (duration : Int) (ceiling : String)
    : Except SchedulerTimeError String := do
  Checks.failIf (maxSafeInteger < duration ∨ duration < 0) .range
  let limit ← Checks.parseWith (PolicyEvaluationTimeSchema ceiling) .zod ceiling
  let accepted ← Checks.parseWith (PolicyEvaluationTimeSchema value) .zod value
  let target := (← policyEvaluationTimestampOrderKey accepted)
    + duration * policyEvaluationTimeUnitsPerMillisecond
  if target ≥ (← policyEvaluationTimestampOrderKey limit) then return limit
  else addPolicyEvaluationMilliseconds value duration

theorem wholeAndFraction_eq (key : Int)
    : wholeAndFraction key = (key / unitsPerSecond, key % unitsPerSecond) := by
  have hpos := unitsPerSecond_pos
  have hmod := Int.emod_nonneg key hpos.ne'
  have hlt := Int.emod_lt_of_pos key hpos
  unfold wholeAndFraction
  dsimp only
  rw [Int.tdiv_eq_ediv, Int.tmod_eq_emod, Int.sign_eq_one_of_pos hpos]
  split
  . split
    . omega
    . rw [Prod.mk.injEq]
      omega
  . split
    . rw [Prod.mk.injEq]
      omega
    . omega

theorem policyEvaluationTimestampOrderKey_eq_ok {value : String} {key : Int}
    : policyEvaluationTimestampOrderKey value = .ok key
        ↔ ∃ parts, readParts value.toList = some parts ∧ parts.orderKey = key := by
  simp only [policyEvaluationTimestampOrderKey, Checks.bind_eq_ok, Checks.found_eq_ok, Checks.pure_eq_ok]

def CanonicalFraction (digits : List Char) : Prop :=
  digits = ['0', '0', '0'] ∨ digits ≠ [] ∧ digits.getLast? ≠ some '0'

def endOfRange : Int := dayNumber { year := 10000, month := 1, day := 1 } * 86400 * unitsPerSecond

theorem endOfRange_eq : endOfRange = 253402300800 * unitsPerSecond := by
  decide

theorem fractionDigits_spec {fraction : Nat} (h : fraction < 10 ^ maxPostgresTimestampFractionDigits)
    : (fractionDigits fraction).all Char.isDigit = true ∧ fractionDigits fraction ≠ []
        ∧ (fractionDigits fraction).length ≤ maxPostgresTimestampFractionDigits
        ∧ readNatural (padEnd maxPostgresTimestampFractionDigits (fractionDigits fraction)) = fraction
        ∧ CanonicalFraction (fractionDigits fraction) := by
  have hlength := length_naturalText (by decide) h
  have hpad := padEnd_dropZeros (naturalText maxPostgresTimestampFractionDigits fraction)
  rw [hlength] at hpad
  have hread := congrArg readNatural hpad
  rw [naturalText, readNatural_padStart, readNatural_toDigits, ← naturalText] at hread
  have hle := length_dropZeros_le (naturalText maxPostgresTimestampFractionDigits fraction)
  have hdigits : (naturalText maxPostgresTimestampFractionDigits fraction).all Char.isDigit = true :=
    all_isDigit_padStart (all_isDigit_toDigits fraction)
  unfold fractionDigits
  dsimp only
  split
  . next hnil =>
    rw [hnil] at hread
    refine ⟨by decide, by decide, by decide, ?_, .inl rfl⟩
    rw [← hread]
    decide
  . next hne =>
    refine ⟨all_isDigit_dropZeros hdigits, hne, hle.trans (Nat.le_of_eq hlength), hread, .inr ⟨hne, ?_⟩⟩
    rw [List.getLast?_eq_some_getLast hne]
    intro hlast
    exact getLast_dropZeros_ne hne (Option.some.inj hlast)

theorem addPolicyEvaluationMilliseconds_ok {value : String} {parts : Parts} {duration : Int}
    (hvalue : PolicyEvaluationTimeSchema value) (hparts : readParts value.toList = some parts)
    (hnonneg : 0 ≤ duration) (hsafe : duration ≤ maxSafeInteger)
    (hrange : parts.orderKey + duration * policyEvaluationTimeUnitsPerMillisecond < endOfRange)
    : ∃ result sum, addPolicyEvaluationMilliseconds value duration = .ok result
        ∧ PolicyEvaluationTimeSchema result ∧ readParts result.toList = some sum
        ∧ CanonicalFraction sum.fraction
        ∧ sum.orderKey = parts.orderKey + duration * policyEvaluationTimeUnitsPerMillisecond := by
  obtain ⟨key, hkey⟩ : ∃ key, parts.orderKey + duration * policyEvaluationTimeUnitsPerMillisecond = key :=
    ⟨_, rfl⟩
  rw [hkey, endOfRange_eq] at hrange
  have hbounds := wholeSeconds_bounds (readParts_eq_some hparts).1 (zone_of_utc hparts hvalue.2)
  have hkeyle : -62135596800 * unitsPerSecond ≤ key := by
    have hstart := orderKey_eq parts
    have hduration : 0 ≤ duration * policyEvaluationTimeUnitsPerMillisecond :=
      Int.mul_nonneg hnonneg (by decide)
    have hseconds := Int.mul_le_mul_of_nonneg_right hbounds.1 unitsPerSecond_pos.le
    omega
  have hseconds : -62135596800 ≤ key / unitsPerSecond := floor_key_bounds hkeyle
  have hseconds' : key / unitsPerSecond ≤ 253402300799 :=
    Int.le_of_lt_add_one (Int.ediv_lt_of_lt_mul unitsPerSecond_pos hrange)
  have hfraction := fraction_key_lt key
  rcases fractionDigits_spec hfraction with ⟨hdigits, hne, hlength, hread, hcanonical⟩
  rcases exists_toISOString hseconds hseconds' hdigits hne hlength with
    ⟨text, sum, htext, hsum, hwhole, hsumFraction⟩
  let result := String.ofList (text.take 19 ++ ('.' :: fractionDigits (key % unitsPerSecond).toNat ++ ['Z']))
  have hresultParts : readParts result.toList = some sum := by
    rw [String.toList_ofList]
    exact hsum
  have hresult : PolicyEvaluationTimeSchema result := by
    refine ⟨by rw [PostgresTimestampSchema, hresultParts]; rfl, ?_⟩
    rw [String.toList_ofList, ← List.append_assoc]
    exact List.getLast?_concat
  refine ⟨result, sum, ?_, hresult, hresultParts, ?_, ?_⟩
  . have horder := policyEvaluationTimestampOrderKey_eq_ok.mpr ⟨parts, hparts, rfl⟩
    unfold addPolicyEvaluationMilliseconds
    rw [Checks.failIf_bind_of_false (by omega),
      Checks.bind_of_ok (Checks.parseWith_eq_ok.mpr ⟨hvalue, rfl⟩), Checks.bind_of_ok horder,
      hkey, wholeAndFraction_eq]
    dsimp only
    rw [htext]
    exact Checks.parseWith_eq_ok.mpr ⟨hresult, rfl⟩
  . rw [hsumFraction]
    exact hcanonical
  . rw [orderKey_eq, hwhole, hsumFraction, hread, hkey, Int.toNat_of_nonneg (Int.emod_nonneg _ unitsPerSecond_pos.ne')]
    exact Int.ediv_mul_add_emod key unitsPerSecond

theorem orderKey_lt_endOfRange {value : String} {parts : Parts} (hvalue : PolicyEvaluationTimeSchema value)
    (hparts : readParts value.toList = some parts)
    : parts.orderKey < endOfRange := by
  have hvalid := (readParts_eq_some hparts).1
  have hbounds := wholeSeconds_bounds hvalid (zone_of_utc hparts hvalue.2)
  have hseconds := Int.mul_le_mul_of_nonneg_right hbounds.2 unitsPerSecond_pos.le
  have hfraction : (readNatural (padEnd maxPostgresTimestampFractionDigits parts.fraction) : Int)
      < unitsPerSecond := by
    have hunits : unitsPerSecond = ((10 ^ maxPostgresTimestampFractionDigits : Nat) : Int) := by decide
    rw [hunits]
    exact Int.ofNat_lt.mpr (readNatural_padEnd_lt hvalid.fraction hvalid.fraction_le)
  rw [endOfRange_eq, orderKey_eq]
  omega

theorem addPolicyEvaluationMillisecondsUpTo_ok {value ceiling : String} {parts limit : Parts} {duration : Int}
    (hvalue : PolicyEvaluationTimeSchema value) (hparts : readParts value.toList = some parts)
    (hceiling : PolicyEvaluationTimeSchema ceiling) (hlimit : readParts ceiling.toList = some limit)
    (hnonneg : 0 ≤ duration) (hsafe : duration ≤ maxSafeInteger)
    : ∃ result sum, addPolicyEvaluationMillisecondsUpTo value duration ceiling = .ok result
        ∧ PolicyEvaluationTimeSchema result ∧ readParts result.toList = some sum
        ∧ sum.orderKey
          = min (parts.orderKey + duration * policyEvaluationTimeUnitsPerMillisecond) limit.orderKey
        ∧ (limit.orderKey ≤ parts.orderKey + duration * policyEvaluationTimeUnitsPerMillisecond →
          result = ceiling)
        ∧ (parts.orderKey + duration * policyEvaluationTimeUnitsPerMillisecond < limit.orderKey →
          addPolicyEvaluationMilliseconds value duration = .ok result) := by
  have horder := policyEvaluationTimestampOrderKey_eq_ok.mpr ⟨parts, hparts, rfl⟩
  have horder' := policyEvaluationTimestampOrderKey_eq_ok.mpr ⟨limit, hlimit, rfl⟩
  unfold addPolicyEvaluationMillisecondsUpTo
  rw [Checks.failIf_bind_of_false (by omega), Checks.bind_of_ok (Checks.parseWith_eq_ok.mpr ⟨hceiling, rfl⟩),
    Checks.bind_of_ok (Checks.parseWith_eq_ok.mpr ⟨hvalue, rfl⟩), Checks.bind_of_ok horder,
    Checks.bind_of_ok horder']
  split
  . next hcapped =>
    refine ⟨ceiling, limit, rfl, hceiling, hlimit, (min_eq_right hcapped).symm, fun _ => rfl, ?_⟩
    intro hbefore
    omega
  . next hbefore =>
    have hrange := orderKey_lt_endOfRange hceiling hlimit
    rcases addPolicyEvaluationMilliseconds_ok hvalue hparts hnonneg hsafe (by omega) with
      ⟨result, sum, hresult, hschema, hsum, _, hkey⟩
    refine ⟨result, sum, hresult, hschema, hsum, ?_, ?_, fun _ => hresult⟩
    . rw [hkey, min_eq_left (by omega)]
    . intro hcapped
      omega

def instantOf (value : String) : ℚ :=
  ((readParts value.toList).map Parts.instant).getD 0

structure ExactTime : Prop where
  add : ∀ value (duration : Int) key, PolicyEvaluationTimeSchema value → 0 ≤ duration →
    duration ≤ maxSafeInteger → policyEvaluationTimestampOrderKey value = .ok key →
      key + duration * policyEvaluationTimeUnitsPerMillisecond < endOfRange →
        ∃ result, addPolicyEvaluationMilliseconds value duration = .ok result
          ∧ PolicyEvaluationTimeSchema result
          ∧ (∃ sum, readParts result.toList = some sum ∧ CanonicalFraction sum.fraction)
          ∧ policyEvaluationTimestampOrderKey result
            = .ok (key + duration * policyEvaluationTimeUnitsPerMillisecond)
          ∧ instantOf result = instantOf value + duration / 1000
  addUpTo : ∀ value (duration : Int) ceiling key limit, PolicyEvaluationTimeSchema value →
    PolicyEvaluationTimeSchema ceiling → 0 ≤ duration → duration ≤ maxSafeInteger →
      policyEvaluationTimestampOrderKey value = .ok key →
        policyEvaluationTimestampOrderKey ceiling = .ok limit →
          ∃ result, addPolicyEvaluationMillisecondsUpTo value duration ceiling = .ok result
            ∧ PolicyEvaluationTimeSchema result
            ∧ policyEvaluationTimestampOrderKey result
              = .ok (min (key + duration * policyEvaluationTimeUnitsPerMillisecond) limit)
            ∧ (limit ≤ key + duration * policyEvaluationTimeUnitsPerMillisecond → result = ceiling)
            ∧ (key + duration * policyEvaluationTimeUnitsPerMillisecond < limit →
              addPolicyEvaluationMilliseconds value duration = .ok result)
  -- also for texts with an offset
  monotone : ∀ value value', PostgresTimestampSchema value → PostgresTimestampSchema value' →
    ∃ key key', policyEvaluationTimestampOrderKey value = .ok key
      ∧ policyEvaluationTimestampOrderKey value' = .ok key'
      ∧ (key < key' ↔ instantOf value < instantOf value')

theorem instantOf_eq {value : String} {parts : Parts} (h : readParts value.toList = some parts)
    : instantOf value = parts.instant := by
  rw [instantOf, h]
  rfl

theorem instantOf_mul {value : String} {parts : Parts} (h : readParts value.toList = some parts)
    : instantOf value * 10 ^ maxPostgresTimestampFractionDigits = parts.orderKey := by
  rw [instantOf_eq h, orderKey_eq_instant (readParts_eq_some h).1]

theorem exactTime : ExactTime where
  add value duration key hvalue hnonneg hsafe hkey hrange := by
    rcases policyEvaluationTimestampOrderKey_eq_ok.mp hkey with ⟨parts, hparts, rfl⟩
    rcases addPolicyEvaluationMilliseconds_ok hvalue hparts hnonneg hsafe hrange with
      ⟨result, sum, hresult, hschema, hsum, hcanonical, hsumKey⟩
    refine ⟨result, hresult, hschema, ⟨sum, hsum, hcanonical⟩,
      policyEvaluationTimestampOrderKey_eq_ok.mpr ⟨sum, hsum, hsumKey⟩, ?_⟩
    have hpower : (10 : ℚ) ^ maxPostgresTimestampFractionDigits ≠ 0 := pow_ne_zero _ (by norm_num)
    apply mul_right_cancel₀ hpower
    rw [instantOf_mul hsum, hsumKey, add_mul, instantOf_mul hparts]
    push_cast
    congr 1
    rw [div_mul_eq_mul_div, mul_div_assoc]
    congr 1
    norm_num [policyEvaluationTimeUnitsPerMillisecond, maxPostgresTimestampFractionDigits]
  addUpTo value duration ceiling key limit hvalue hceiling hnonneg hsafe hkey hlimit := by
    rcases policyEvaluationTimestampOrderKey_eq_ok.mp hkey with ⟨parts, hparts, rfl⟩
    rcases policyEvaluationTimestampOrderKey_eq_ok.mp hlimit with ⟨limitParts, hlimitParts, rfl⟩
    rcases addPolicyEvaluationMillisecondsUpTo_ok hvalue hparts hceiling hlimitParts hnonneg hsafe with
      ⟨result, sum, hresult, hschema, hsum, hsumKey, hcapped, hbefore⟩
    exact ⟨result, hresult, hschema, policyEvaluationTimestampOrderKey_eq_ok.mpr ⟨sum, hsum, hsumKey⟩,
      hcapped, hbefore⟩
  monotone value value' hvalue hvalue' := by
    rcases Option.isSome_iff_exists.mp hvalue with ⟨parts, hparts⟩
    rcases Option.isSome_iff_exists.mp hvalue' with ⟨parts', hparts'⟩
    refine ⟨parts.orderKey, parts'.orderKey, policyEvaluationTimestampOrderKey_eq_ok.mpr ⟨parts, hparts, rfl⟩,
      policyEvaluationTimestampOrderKey_eq_ok.mpr ⟨parts', hparts', rfl⟩, ?_⟩
    rw [instantOf_eq hparts, instantOf_eq hparts']
    exact orderKey_lt_iff (readParts_eq_some hparts).1 (readParts_eq_some hparts').1

example : addPolicyEvaluationMilliseconds "1969-12-31T23:59:59.9990000001Z" 2000
    = .ok "1970-01-01T00:00:01.9990000001Z" := by
  decide

end Policy
end ProofStack
