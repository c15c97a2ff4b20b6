import Mathlib.Data.Int.Notation
import Mathlib.Data.List.Basic

/-!
This module contains the proleptic Gregorian calendar.
-/

namespace ProofStack
namespace Calendar

structure Date where
  year : Int
  month : Nat
  day : Nat
  deriving DecidableEq

def isLeapYear (year : Int) : Bool :=
  year % 4 = 0 && (year % 100 ≠ 0 || year % 400 = 0)

def daysInYear (year : Int) : Nat :=
  if isLeapYear year then 366 else 365

def daysBeforeMonth (leap : Bool) (month : Nat) : Nat :=
  [0, 31, 59, 90, 120, 151, 181, 212, 243, 273, 304, 334, 365].getD (month - 1) 0
    + if leap && 2 < month then 1 else 0

def daysInMonth (leap : Bool) (month : Nat) : Nat :=
  daysBeforeMonth leap (month + 1) - daysBeforeMonth leap month

def Date.Valid (date : Date) : Prop :=
  1 ≤ date.month ∧ date.month ≤ 12 ∧ 1 ≤ date.day
    ∧ date.day ≤ daysInMonth (isLeapYear date.year) date.month

instance (date : Date) : Decidable date.Valid :=
  inferInstanceAs (Decidable (_ ∧ _))

def dayFromYear (year : Int) : Int :=
  365 * (year - 1970) + (year - 1969) / 4 - (year - 1901) / 100 + (year - 1601) / 400

def dayNumber (date : Date) : Int :=
  dayFromYear date.year + daysBeforeMonth (isLeapYear date.year) date.month + (date.day - 1 : Nat)

/-- The last year whose first day is not after the day. A mean year has 146097 / 400 days, so that the
quotient is wrong by one year at most. -/
def yearFromDay (number : Int) : Int :=
  let year := 1970 + number * 400 / 146097
  if number < dayFromYear year then year - 1
  else if dayFromYear (year + 1) ≤ number then year + 1
  else year

def monthFromDay (leap : Bool) (dayInYear : Nat) : Nat :=
  ((List.range 12).filter (fun month => daysBeforeMonth leap (month + 1) ≤ dayInYear)).length

def dateFromDay (number : Int) : Date :=
  let year := yearFromDay number
  let leap := isLeapYear year
  let dayInYear := (number - dayFromYear year).toNat
  let month := monthFromDay leap dayInYear
  { year, month, day := dayInYear - daysBeforeMonth leap month + 1 }

theorem dayFromYear_succ (year : Int) : dayFromYear (year + 1) = dayFromYear year + daysInYear year := by
  have h4 : (year + 1 - 1969) / 4 = (year - 1969) / 4 + if year % 4 = 0 then 1 else 0 := by
    split <;> omega
  have h100 : (year + 1 - 1901) / 100 = (year - 1901) / 100 + if year % 100 = 0 then 1 else 0 := by
    split <;> omega
  have h400 : (year + 1 - 1601) / 400 = (year - 1601) / 400 + if year % 400 = 0 then 1 else 0 := by
    split <;> omega
  unfold dayFromYear daysInYear isLeapYear
  rw [h4, h100, h400]
  by_cases hleap4 : year % 4 = 0 <;> by_cases hleap100 : year % 100 = 0 <;> by_cases hleap400 : year % 400 = 0 <;>
    simp [hleap4, hleap100, hleap400] <;> omega

theorem yearFromDay_spec (number : Int)
    : dayFromYear (yearFromDay number) ≤ number ∧ number < dayFromYear (yearFromDay number + 1) := by
  unfold yearFromDay
  dsimp only
  split
  . next h =>
    rw [Int.sub_add_cancel]
    refine ⟨?_, h⟩
    unfold dayFromYear
    omega
  . next h =>
    split
    . next h' =>
      refine ⟨h', ?_⟩
      unfold dayFromYear
      omega
    . next h' => exact ⟨by omega, by omega⟩

theorem dayFromYear_le {year year' : Int} (h : year ≤ year') : dayFromYear year ≤ dayFromYear year' := by
  unfold dayFromYear
  omega

theorem daysBeforeMonth_mono (leap : Bool) {month month' : Nat} (h : month ≤ month') (h' : month' ≤ 13)
    : daysBeforeMonth leap month ≤ daysBeforeMonth leap month' := by
  have hall : ∀ leap : Bool, ∀ month' : Fin 14, ∀ month : Fin 14, month ≤ month' →
      daysBeforeMonth leap month ≤ daysBeforeMonth leap month' := by
    decide
  exact hall leap ⟨month', by omega⟩ ⟨month, by omega⟩ h

theorem daysBeforeMonth_last (leap : Bool) : daysBeforeMonth leap 13 = if leap then 366 else 365 := by
  cases leap <;> rfl

theorem lt_length_filter_range {p : Nat → Bool} {i n : Nat} (hi : i < n)
    (hp : ∀ j j', j ≤ j' → j' < n → p j' = true → p j = true)
    : i < ((List.range n).filter p).length ↔ p i = true := by
  induction n with
  | zero => exact absurd hi (Nat.not_lt_zero i)
  | succ n ih =>
    have hlength := List.length_filter_le p (List.range n)
    rw [List.length_range] at hlength
    rw [List.range_succ, List.filter_append, List.length_append]
    have hprefix (hi : i < n) := ih hi (fun j j' hle hlt => hp j j' hle (Nat.lt_succ_of_lt hlt))
    by_cases hn : p n = true
    . have hall : (List.range n).filter p = List.range n := by
        rw [List.filter_eq_self]
        exact fun j hj => hp j n (Nat.le_of_lt (List.mem_range.mp hj)) n.lt_succ_self hn
      simp only [hall, List.length_range, List.filter_cons_of_pos hn, List.filter_nil, List.length_singleton, hi,
        true_iff]
      exact hp i n (Nat.le_of_lt_succ hi) n.lt_succ_self hn
    . simp only [List.filter_cons_of_neg hn, List.filter_nil, List.length_nil, Nat.add_zero]
      rcases Nat.lt_succ_iff_lt_or_eq.mp hi with hlt | rfl
      . exact hprefix hlt
      . simp [hn, hlength]

theorem lt_monthFromDay (leap : Bool) {month dayInYear : Nat} (h : month < 12)
    : month < monthFromDay leap dayInYear ↔ daysBeforeMonth leap (month + 1) ≤ dayInYear := by
  unfold monthFromDay
  rw [lt_length_filter_range h, decide_eq_true_eq]
  intro month month' hle hlt hday
  rw [decide_eq_true_eq] at hday ⊢
  exact Nat.le_trans (daysBeforeMonth_mono leap (Nat.succ_le_succ hle) (by omega)) hday

theorem monthFromDay_le (leap : Bool) (dayInYear : Nat) : monthFromDay leap dayInYear ≤ 12 := by
  simpa [monthFromDay] using List.length_filter_le _ (List.range 12)

theorem monthFromDay_spec (leap : Bool) {dayInYear : Nat} (h : dayInYear < if leap then 366 else 365)
    : 1 ≤ monthFromDay leap dayInYear ∧ monthFromDay leap dayInYear ≤ 12
        ∧ daysBeforeMonth leap (monthFromDay leap dayInYear) ≤ dayInYear
        ∧ dayInYear < daysBeforeMonth leap (monthFromDay leap dayInYear + 1) := by
  have hle := monthFromDay_le leap dayInYear
  have hpos : 0 < monthFromDay leap dayInYear := by
    rw [lt_monthFromDay leap (by decide)]
    cases leap <;> exact Nat.zero_le dayInYear
  refine ⟨hpos, hle, ?_, ?_⟩
  . have hbefore := (lt_monthFromDay leap (by omega)).mp (Nat.sub_one_lt_of_lt hpos)
    rwa [Nat.sub_add_cancel hpos] at hbefore
  . by_contra hge
    rw [Nat.not_lt] at hge
    rcases Nat.lt_or_eq_of_le hle with hlt | heq
    . exact absurd ((lt_monthFromDay leap hlt).mpr hge) (Nat.lt_irrefl _)
    . rw [heq, daysBeforeMonth_last] at hge
      omega

theorem daysInMonth_le (leap : Bool) {month : Nat} (hmonth : 1 ≤ month) (hmonth' : month ≤ 12)
    : daysInMonth leap month ≤ 31 := by
  have hall : ∀ leap : Bool, ∀ month : Fin 13, 1 ≤ month.val → daysInMonth leap month ≤ 31 := by
    decide
  exact hall leap ⟨month, by omega⟩ hmonth

theorem daysBeforeMonth_spec (leap : Bool) {month day : Nat} (hmonth : 1 ≤ month) (hmonth' : month ≤ 12)
    (hday : 1 ≤ day) (hday' : day ≤ daysInMonth leap month)
    : monthFromDay leap (daysBeforeMonth leap month + (day - 1)) = month
        ∧ daysBeforeMonth leap month + (day - 1) < if leap then 366 else 365 := by
  have hnext : daysBeforeMonth leap month + (day - 1) < daysBeforeMonth leap (month + 1) := by
    unfold daysInMonth at hday'
    omega
  have hyear := daysBeforeMonth_mono leap (show month + 1 ≤ 13 by omega) (Nat.le_refl 13)
  rw [daysBeforeMonth_last] at hyear
  refine ⟨?_, Nat.lt_of_lt_of_le hnext hyear⟩
  apply Nat.le_antisymm
  . by_contra hlt
    rw [Nat.not_le] at hlt
    have hle := monthFromDay_le leap (daysBeforeMonth leap month + (day - 1))
    exact absurd ((lt_monthFromDay leap (by omega)).mp hlt) (Nat.not_le.mpr hnext)
  . have hbefore := (@lt_monthFromDay leap (month - 1) (daysBeforeMonth leap month + (day - 1)) (by omega)).mpr
      (by rw [Nat.sub_add_cancel hmonth]; omega)
    omega

theorem daysInYear_eq (year : Int) : daysInYear year = if isLeapYear year then 366 else 365 :=
  rfl

theorem dayInYear_lt (number : Int)
    : (number - dayFromYear (yearFromDay number)).toNat < daysInYear (yearFromDay number) := by
  have hspec := yearFromDay_spec number
  rw [dayFromYear_succ] at hspec
  omega

theorem dateFromDay_valid (number : Int) : (dateFromDay number).Valid := by
  have hmonth := monthFromDay_spec (isLeapYear (yearFromDay number)) (dayInYear_lt number)
  dsimp only [dateFromDay, Date.Valid, daysInMonth]
  omega

theorem dayNumber_dateFromDay (number : Int) : dayNumber (dateFromDay number) = number := by
  have hmonth := monthFromDay_spec (isLeapYear (yearFromDay number)) (dayInYear_lt number)
  have hspec := yearFromDay_spec number
  dsimp only [dateFromDay, dayNumber]
  omega

theorem dayNumber_bounds {date : Date} (h : date.Valid)
    : dayFromYear date.year ≤ dayNumber date ∧ dayNumber date < dayFromYear (date.year + 1) := by
  rcases h with ⟨hmonth, hmonth', hday, hday'⟩
  have hlt := (daysBeforeMonth_spec _ hmonth hmonth' hday hday').2
  rw [dayFromYear_succ, daysInYear_eq]
  unfold dayNumber
  omega

theorem yearFromDay_bounds {first last number : Int} (hfirst : dayFromYear first ≤ number)
    (hlast : number < dayFromYear (last + 1))
    : first ≤ yearFromDay number ∧ yearFromDay number ≤ last := by
  have hspec := yearFromDay_spec number
  constructor
  . by_contra h
    have := dayFromYear_le (show yearFromDay number + 1 ≤ first by omega)
    omega
  . by_contra h
    have := dayFromYear_le (show last + 1 ≤ yearFromDay number by omega)
    omega

end Calendar
end ProofStack
