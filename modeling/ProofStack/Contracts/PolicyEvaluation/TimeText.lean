import Mathlib.Tactic.FieldSimp
import Mathlib.Tactic.Ring
import ProofStack.Arithmetic.DecimalText
import ProofStack.Calendar.Gregorian
import ProofStack.Contracts.PolicyEvaluation.Time

/-!
This module contains the texts of timestamps.
-/

namespace ProofStack
namespace TimeText

open Arithmetic Calendar

def maxPostgresTimestampFractionDigits : Nat := 30

inductive Zone where
  | utc
  | offset (negative : Bool) (hours minutes : Nat)
  deriving DecidableEq

structure Parts where
  date : Date
  hour : Nat
  minute : Nat
  second : Nat
  fraction : List Char
  zone : Zone
  deriving DecidableEq

def readDigits (width : Nat) (text : List Char) : Option (Nat × List Char) :=
  let digits := text.take width
  if digits.length = width ∧ digits.all Char.isDigit then some (readNatural digits, text.drop width)
  else none

def readChar (c : Char) : List Char → Option (List Char)
  | c' :: rest => if c' = c then some rest else none
  | [] => none

def readFraction : List Char → Option (List Char × List Char)
  | '.' :: rest =>
    let digits := rest.takeWhile Char.isDigit
    if 1 ≤ digits.length ∧ digits.length ≤ maxPostgresTimestampFractionDigits then
      some (digits, rest.dropWhile Char.isDigit)
    else
      none
  | rest => some ([], rest)

def readZone : List Char → Option Zone
  | ['Z'] => some .utc
  | sign :: rest => do
    let (hours, rest) ← readDigits 2 rest
    let (minutes, rest) ← readDigits 2 (← readChar ':' rest)
    if (sign = '+' ∨ sign = '-') ∧ rest = [] ∧ hours ≤ 15 ∧ minutes ≤ 59 then
      some (.offset (sign = '-') hours minutes)
    else
      none
  | [] => none

def readParts (text : List Char) : Option Parts := do
  let (year, rest) ← readDigits 4 text
  let (month, rest) ← readDigits 2 (← readChar '-' rest)
  let (day, rest) ← readDigits 2 (← readChar '-' rest)
  let (hour, rest) ← readDigits 2 (← readChar 'T' rest)
  let (minute, rest) ← readDigits 2 (← readChar ':' rest)
  let (second, rest) ← readDigits 2 (← readChar ':' rest)
  let (fraction, rest) ← readFraction rest
  let zone ← readZone rest
  let date : Date := { year, month, day }
  if 1 ≤ year ∧ date.Valid ∧ hour ≤ 23 ∧ minute ≤ 59 ∧ second ≤ 59 then
    some { date, hour, minute, second, fraction, zone }
  else
    none

def PostgresTimestampSchema (value : String) : Prop :=
  (readParts value.toList).isSome

instance (value : String) : Decidable (PostgresTimestampSchema value) :=
  inferInstanceAs (Decidable (_ = _))

def PolicyEvaluationTimeSchema (value : String) : Prop :=
  PostgresTimestampSchema value ∧ value.toList.getLast? = some 'Z'

instance (value : String) : Decidable (PolicyEvaluationTimeSchema value) :=
  inferInstanceAs (Decidable (_ ∧ _))

def Zone.seconds : Zone → Int
  | .utc => 0
  | .offset negative hours minutes =>
    (if negative then -1 else 1) * ((hours * 3600 + minutes * 60 : Nat) : Int)

def Parts.wholeSeconds (parts : Parts) : Int :=
  dayNumber parts.date * 86400 + ((parts.hour * 3600 + parts.minute * 60 + parts.second : Nat) : Int)
    - parts.zone.seconds

def Parts.wholeMilliseconds (parts : Parts) : Int :=
  parts.wholeSeconds * 1000

def Parts.orderKey (parts : Parts) : Int :=
  parts.wholeMilliseconds * policyEvaluationTimeUnitsPerMillisecond
    + readNatural (padEnd maxPostgresTimestampFractionDigits parts.fraction)

def Parts.instant (parts : Parts) : ℚ :=
  parts.wholeSeconds + (readNatural parts.fraction : ℚ) / 10 ^ parts.fraction.length

def naturalText (width n : Nat) : List Char :=
  padStart width (Nat.toDigits 10 n)

def maxDateMilliseconds : Int := 8640000000000000

def yearText (year : Int) : List Char :=
  if 0 ≤ year ∧ year ≤ 9999 then naturalText 4 year.toNat
  else (if year < 0 then '-' else '+') :: naturalText 6 year.natAbs

def secondText (date : Date) (hour minute second : Nat) : List Char :=
  yearText date.year ++ '-' :: naturalText 2 date.month ++ '-' :: naturalText 2 date.day
    ++ 'T' :: naturalText 2 hour ++ ':' :: naturalText 2 minute ++ ':' :: naturalText 2 second

def toISOString (milliseconds : Int) : Option (List Char) :=
  if milliseconds < -maxDateMilliseconds ∨ maxDateMilliseconds < milliseconds then none
  else
    let date := dateFromDay (milliseconds / 86400000)
    let time := (milliseconds % 86400000).toNat
    some (secondText date (time / 3600000) (time / 60000 % 60) (time / 1000 % 60)
      ++ '.' :: naturalText 3 (time % 1000) ++ ['Z'])

end TimeText
end ProofStack

/-!
This module contains the proof that the texts of timestamps are read back, and that the order key of a text
is the instant that the text denotes.
-/

namespace ProofStack
namespace TimeText

open Arithmetic Calendar

theorem readDigits_append {digits : List Char} (hdigits : digits.all Char.isDigit = true)
    (rest : List Char)
    : readDigits digits.length (digits ++ rest) = some (readNatural digits, rest) := by
  unfold readDigits
  dsimp only
  rw [List.take_left, List.drop_left, if_pos ⟨rfl, hdigits⟩]

theorem length_naturalText {width n : Nat} (hwidth : 0 < width) (h : n < 10 ^ width)
    : (naturalText width n).length = width :=
  length_padStart (length_toDigits_le hwidth h)

theorem readDigits_naturalText {width n : Nat} (hwidth : 0 < width) (h : n < 10 ^ width)
    (rest : List Char)
    : readDigits width (naturalText width n ++ rest) = some (n, rest) := by
  have hdigits : (naturalText width n).all Char.isDigit = true :=
    all_isDigit_padStart (all_isDigit_toDigits n)
  have hvalue : readNatural (naturalText width n) = n := by
    rw [naturalText, readNatural_padStart, readNatural_toDigits]
  have hread := readDigits_append hdigits rest
  rw [length_naturalText hwidth h, hvalue] at hread
  exact hread

variable {text rest : List Char}

theorem readDigits_eq_some {width n : Nat} (h : readDigits width text = some (n, rest))
    : n < 10 ^ width ∧ rest = text.drop width ∧ ∃ digits, digits.length = width
        ∧ digits.all Char.isDigit = true ∧ text = digits ++ rest := by
  unfold readDigits at h
  dsimp only at h
  split at h
  . next hdigits =>
    cases h
    have hlt := readNatural_lt hdigits.2
    rw [hdigits.1] at hlt
    exact ⟨hlt, rfl, _, hdigits.1, hdigits.2, (List.take_append_drop width text).symm⟩
  . contradiction

theorem readChar_eq_some {c : Char} (h : readChar c text = some rest)
    : text = c :: rest := by
  unfold readChar at h
  split at h
  . split at h
    . next heq =>
      cases h
      rw [heq]
    . contradiction
  . contradiction

theorem readDigits_suffix {width n : Nat}
    (h : readDigits width text = some (n, rest))
    : rest <:+ text := by
  rw [(readDigits_eq_some h).2.1]
  exact List.drop_suffix _ _

theorem readChar_suffix {c : Char} (h : readChar c text = some rest)
    : rest <:+ text := by
  rw [readChar_eq_some h]
  exact List.suffix_cons _ _

theorem readFraction_eq_some {text digits rest : List Char} (h : readFraction text = some (digits, rest))
    : digits.all Char.isDigit = true ∧ digits.length ≤ maxPostgresTimestampFractionDigits
        ∧ rest <:+ text := by
  unfold readFraction at h
  split at h
  . dsimp only at h
    split at h
    . next rest hlength =>
      cases h
      refine ⟨List.all_takeWhile, hlength.2, ?_⟩
      exact (List.dropWhile_suffix _).trans (List.suffix_cons _ _)
    . contradiction
  . cases h
    exact ⟨rfl, Nat.zero_le _, List.suffix_refl _⟩

theorem readZone_of_utc {text : List Char} {zone : Zone} (h : readZone text = some zone)
    (hlast : text.getLast? = some 'Z')
    : zone = .utc := by
  unfold readZone at h
  split at h
  . cases h
    rfl
  . next sign rest _ =>
    simp only [Option.bind_eq_bind, Option.bind_eq_some_iff] at h
    rcases h with ⟨⟨hours, afterHours⟩, hhours, afterColon, hcolon, ⟨minutes, afterMinutes⟩, hminutes, h⟩
    dsimp only at hcolon hminutes h
    split at h
    . next hzone =>
      obtain rfl := hzone.2.1
      rcases (readDigits_eq_some hminutes).2.2 with ⟨digits, hlength, hdigits, rfl⟩
      rcases (readDigits_eq_some hhours).2.2 with ⟨hourDigits, _, _, rfl⟩
      rw [readChar_eq_some hcolon, List.append_nil] at hlast
      rcases List.eq_nil_or_concat digits with rfl | ⟨front, last, rfl⟩
      . contradiction
      . rw [List.concat_eq_append, List.all_append, Bool.and_eq_true] at hdigits
        have hdigit : last.isDigit = true := by simpa using hdigits.2
        have hsplit : sign :: (hourDigits ++ ':' :: (front ++ [last]))
            = (sign :: hourDigits ++ ':' :: front) ++ [last] := by
          simp
        rw [List.concat_eq_append, hsplit, List.getLast?_concat, Option.some.injEq] at hlast
        rw [hlast] at hdigit
        contradiction
    . contradiction
  . contradiction

structure Parts.Valid (parts : Parts) : Prop where
  one_le_year : 1 ≤ parts.date.year
  year_le : parts.date.year ≤ 9999
  date : parts.date.Valid
  hour : parts.hour ≤ 23
  minute : parts.minute ≤ 59
  second : parts.second ≤ 59
  fraction : parts.fraction.all Char.isDigit = true
  fraction_le : parts.fraction.length ≤ maxPostgresTimestampFractionDigits

theorem readParts_eq_some {text : List Char} {parts : Parts} (h : readParts text = some parts)
    : parts.Valid ∧ ∃ rest, rest <:+ text ∧ rest ≠ [] ∧ readZone rest = some parts.zone := by
  unfold readParts at h
  rcases Option.bind_eq_some_iff.mp h with ⟨⟨year, afterYear⟩, hyear, h⟩
  rcases Option.bind_eq_some_iff.mp h with ⟨rest₁, h₁, h⟩
  rcases Option.bind_eq_some_iff.mp h with ⟨⟨month, afterMonth⟩, hmonth, h⟩
  rcases Option.bind_eq_some_iff.mp h with ⟨rest₂, h₂, h⟩
  rcases Option.bind_eq_some_iff.mp h with ⟨⟨day, afterDay⟩, hday, h⟩
  rcases Option.bind_eq_some_iff.mp h with ⟨rest₃, h₃, h⟩
  rcases Option.bind_eq_some_iff.mp h with ⟨⟨hour, afterHour⟩, hhour, h⟩
  rcases Option.bind_eq_some_iff.mp h with ⟨rest₄, h₄, h⟩
  rcases Option.bind_eq_some_iff.mp h with ⟨⟨minute, afterMinute⟩, hminute, h⟩
  rcases Option.bind_eq_some_iff.mp h with ⟨rest₅, h₅, h⟩
  rcases Option.bind_eq_some_iff.mp h with ⟨⟨second, afterSecond⟩, hsecond, h⟩
  rcases Option.bind_eq_some_iff.mp h with ⟨⟨fraction, afterFraction⟩, hfraction, h⟩
  rcases Option.bind_eq_some_iff.mp h with ⟨zone, hzone, h⟩
  dsimp only at h
  split at h
  . next hvalid =>
    cases h
    have hyearlt := (readDigits_eq_some hyear).1
    rcases readFraction_eq_some hfraction with ⟨hdigits, hlength, hsuffix⟩
    refine ⟨?_, afterFraction, ?_, ?_, hzone⟩
    . exact {
        one_le_year := Int.ofNat_le.mpr hvalid.1
        year_le := Int.ofNat_le.mpr (Nat.le_of_lt_succ hyearlt)
        date := hvalid.2.1
        hour := hvalid.2.2.1
        minute := hvalid.2.2.2.1
        second := hvalid.2.2.2.2
        fraction := hdigits
        fraction_le := hlength
      }
    . refine hsuffix.trans ?_
      refine (readDigits_suffix hsecond).trans ((readChar_suffix h₅).trans ?_)
      refine (readDigits_suffix hminute).trans ((readChar_suffix h₄).trans ?_)
      refine (readDigits_suffix hhour).trans ((readChar_suffix h₃).trans ?_)
      refine (readDigits_suffix hday).trans ((readChar_suffix h₂).trans ?_)
      exact (readDigits_suffix hmonth).trans ((readChar_suffix h₁).trans (readDigits_suffix hyear))
    . rintro rfl
      contradiction
  . contradiction

theorem zone_of_utc {text : List Char} {parts : Parts} (h : readParts text = some parts)
    (hlast : text.getLast? = some 'Z')
    : parts.zone = .utc := by
  rcases readParts_eq_some h with ⟨_, rest, ⟨front, rfl⟩, hne, hzone⟩
  apply readZone_of_utc hzone
  rw [List.getLast?_append_of_ne_nil _ hne] at hlast
  exact hlast

theorem readNatural_padEnd_lt {digits : List Char} (hdigits : digits.all Char.isDigit = true)
    (hlength : digits.length ≤ maxPostgresTimestampFractionDigits)
    : readNatural (padEnd maxPostgresTimestampFractionDigits digits)
        < 10 ^ maxPostgresTimestampFractionDigits := by
  rw [readNatural_padEnd, ← Nat.sub_add_cancel hlength, Nat.pow_add, Nat.mul_comm]
  rw [Nat.sub_add_cancel hlength]
  exact Nat.mul_lt_mul_of_pos_left (readNatural_lt hdigits) (Nat.pow_pos (by decide))

theorem orderKey_eq (parts : Parts)
    : parts.orderKey = parts.wholeSeconds * unitsPerSecond
        + readNatural (padEnd maxPostgresTimestampFractionDigits parts.fraction) := by
  unfold Parts.orderKey Parts.wholeMilliseconds unitsPerSecond
  rw [Int.mul_assoc, Int.mul_comm 1000]

theorem orderKey_eq_instant {parts : Parts} (h : parts.Valid)
    : (parts.orderKey : ℚ) = parts.instant * 10 ^ maxPostgresTimestampFractionDigits := by
  have hpower : (10 : ℚ) ^ maxPostgresTimestampFractionDigits
      = 10 ^ parts.fraction.length * 10 ^ (maxPostgresTimestampFractionDigits - parts.fraction.length) := by
    rw [← pow_add, Nat.add_sub_cancel' h.fraction_le]
  have hunits : (unitsPerSecond : ℚ) = 10 ^ maxPostgresTimestampFractionDigits := by
    norm_num [unitsPerSecond, policyEvaluationTimeUnitsPerMillisecond, maxPostgresTimestampFractionDigits]
  rw [orderKey_eq, readNatural_padEnd, Parts.instant, add_mul, hpower, ← hpower, ← hunits]
  push_cast
  rw [hunits, hpower]
  field_simp

theorem orderKey_lt_iff {parts parts' : Parts} (h : parts.Valid) (h' : parts'.Valid)
    : parts.orderKey < parts'.orderKey ↔ parts.instant < parts'.instant := by
  rw [← Int.cast_lt (R := ℚ), orderKey_eq_instant h, orderKey_eq_instant h']
  exact mul_lt_mul_iff_of_pos_right (by norm_num [maxPostgresTimestampFractionDigits])

theorem yearText_eq {year : Int} (hle : 0 ≤ year) (hle' : year ≤ 9999) : yearText year = naturalText 4 year.toNat := by
  rw [yearText, if_pos ⟨hle, hle'⟩]

section Written

variable {date : Date} {hour minute second : Nat} {digits : List Char}

theorem readFraction_append (hdigits : digits.all Char.isDigit = true) (hne : digits ≠ [])
    (hlength : digits.length ≤ maxPostgresTimestampFractionDigits)
    : readFraction ('.' :: digits ++ ['Z']) = some (digits, ['Z']) := by
  have htake : (digits ++ ['Z']).takeWhile Char.isDigit = digits := by
    rw [List.takeWhile_append_of_pos (List.all_eq_true.mp hdigits)]
    exact List.append_nil _
  have hdrop : (digits ++ ['Z']).dropWhile Char.isDigit = ['Z'] := by
    rw [List.dropWhile_append_of_pos (List.all_eq_true.mp hdigits)]
    rfl
  rw [List.cons_append, readFraction, htake, hdrop]
  exact if_pos ⟨List.length_pos_iff.mpr hne, hlength⟩

theorem length_secondText (hdate : date.Valid) (hyear : 1 ≤ date.year) (hyear' : date.year ≤ 9999)
    (hhour : hour ≤ 23) (hminute : minute ≤ 59) (hsecond : second ≤ 59)
    : (secondText date hour minute second).length = 19 := by
  rcases hdate with ⟨hmonth, hmonth', _, hday⟩
  have hday' := hday.trans (daysInMonth_le _ hmonth hmonth')
  rw [secondText, yearText_eq (by omega) hyear']
  simp only [List.length_append, List.length_cons]
  rw [length_naturalText (by decide) (by omega), length_naturalText (by decide) (by omega),
    length_naturalText (by decide) (by omega), length_naturalText (by decide) (by omega),
    length_naturalText (by decide) (by omega), length_naturalText (by decide) (by omega)]

theorem take_secondText (hdate : date.Valid) (hyear : 1 ≤ date.year) (hyear' : date.year ≤ 9999)
    (hhour : hour ≤ 23) (hminute : minute ≤ 59) (hsecond : second ≤ 59) (milliseconds : Nat)
    : (secondText date hour minute second ++ '.' :: naturalText 3 milliseconds ++ ['Z']).take 19
        = secondText date hour minute second := by
  rw [List.append_assoc]
  exact List.take_left' (length_secondText hdate hyear hyear' hhour hminute hsecond)

theorem bind_of_some {α β : Type} {x : Option α} {f : α → Option β} {a : α} {b : β} (h : x = some a)
    (h' : f a = some b)
    : (x >>= f) = some b := by
  rw [h]
  exact h'

theorem readChar_cons (c : Char) (rest : List Char) : readChar c (c :: rest) = some rest :=
  if_pos rfl

theorem readParts_secondText (hdate : date.Valid) (hyear : 1 ≤ date.year) (hyear' : date.year ≤ 9999)
    (hhour : hour ≤ 23) (hminute : minute ≤ 59) (hsecond : second ≤ 59)
    (hdigits : digits.all Char.isDigit = true) (hne : digits ≠ [])
    (hlength : digits.length ≤ maxPostgresTimestampFractionDigits)
    : readParts (secondText date hour minute second ++ ('.' :: digits ++ ['Z']))
        = some { date, hour, minute, second, fraction := digits, zone := .utc } := by
  have hmonth' := hdate.2.1
  have hday' := hdate.2.2.2.trans (daysInMonth_le _ hdate.1 hmonth')
  have hcast : (date.year.toNat : Int) = date.year := Int.toNat_of_nonneg (by omega)
  have hvalid : 1 ≤ date.year.toNat
      ∧ ({ year := (date.year.toNat : Int), month := date.month, day := date.day } : Date).Valid
      ∧ hour ≤ 23 ∧ minute ≤ 59 ∧ second ≤ 59 := by
    rw [hcast]
    exact ⟨by omega, hdate, hhour, hminute, hsecond⟩
  rw [secondText, yearText_eq (by omega) hyear']
  have hfraction := readFraction_append hdigits hne hlength
  simp only [List.append_assoc, List.cons_append] at hfraction ⊢
  unfold readParts
  -- the five parts before the seconds each end in a separator
  iterate 5
    refine bind_of_some (readDigits_naturalText (by decide) (by omega) _) ?_
    refine bind_of_some (readChar_cons _ _) ?_
  refine bind_of_some (readDigits_naturalText (by decide) (by omega) _) ?_
  refine bind_of_some hfraction ?_
  refine bind_of_some rfl ?_
  dsimp only
  rw [if_pos hvalid, hcast]

theorem exists_toISOString {seconds : Int} (hle : -62135596800 ≤ seconds) (hle' : seconds ≤ 253402300799)
    (hdigits : digits.all Char.isDigit = true) (hne : digits ≠ [])
    (hlength : digits.length ≤ maxPostgresTimestampFractionDigits)
    : ∃ text parts, toISOString (seconds * 1000) = some text
        ∧ readParts (text.take 19 ++ ('.' :: digits ++ ['Z'])) = some parts
        ∧ parts.wholeSeconds = seconds ∧ parts.fraction = digits := by
  have hmilliseconds : ¬(seconds * 1000 < -maxDateMilliseconds ∨ maxDateMilliseconds < seconds * 1000) := by
    unfold maxDateMilliseconds
    omega
  have hyears : 1 ≤ yearFromDay (seconds * 1000 / 86400000)
      ∧ yearFromDay (seconds * 1000 / 86400000) ≤ 9999 := by
    apply yearFromDay_bounds
    . unfold dayFromYear
      omega
    . unfold dayFromYear
      omega
  have hday := dayNumber_dateFromDay (seconds * 1000 / 86400000)
  have hvalid := dateFromDay_valid (seconds * 1000 / 86400000)
  obtain ⟨time, heq, hcast⟩ : ∃ time : Nat, (seconds * 1000 % 86400000).toNat = time
      ∧ (time : Int) = seconds * 1000 % 86400000 :=
    ⟨_, rfl, Int.toNat_of_nonneg (Int.emod_nonneg _ (by decide))⟩
  let parts : Parts := {
    date := dateFromDay (seconds * 1000 / 86400000)
    hour := time / 3600000
    minute := time / 60000 % 60
    second := time / 1000 % 60
    fraction := digits
    zone := .utc
  }
  refine ⟨_, parts, if_neg hmilliseconds, ?_, ?_, rfl⟩
  . rw [heq, take_secondText hvalid hyears.1 hyears.2 (by omega) (by omega) (by omega)]
    exact readParts_secondText hvalid hyears.1 hyears.2 (by omega) (by omega) (by omega) hdigits hne hlength
  . have hzone : parts.zone.seconds = 0 := rfl
    unfold Parts.wholeSeconds
    rw [hday, hzone]
    dsimp only [parts]
    omega

end Written

theorem wholeSeconds_bounds {parts : Parts} (h : parts.Valid) (hzone : parts.zone = .utc)
    : -62135596800 ≤ parts.wholeSeconds ∧ parts.wholeSeconds ≤ 253402300799 := by
  have hbounds := dayNumber_bounds h.date
  have hfirst : dayFromYear 1 ≤ dayFromYear parts.date.year := dayFromYear_le h.one_le_year
  have hlast : dayFromYear (parts.date.year + 1) ≤ dayFromYear 10000 :=
    dayFromYear_le (Int.add_le_add_right h.year_le 1)
  have hfirst' : dayFromYear 1 = -719162 := by decide
  have hlast' : dayFromYear 10000 = 2932897 := by decide
  have hhour := h.hour
  have hminute := h.minute
  have hsecond := h.second
  have hzero : parts.zone.seconds = 0 := by
    rw [hzone]
    rfl
  unfold Parts.wholeSeconds
  omega

end TimeText
end ProofStack
