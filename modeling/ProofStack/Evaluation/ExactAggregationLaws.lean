import ProofStack.Evaluation.ExactAggregationLemmas

/-!
This module contains the laws of the exact arithmetic on samples.
-/

namespace ProofStack
namespace Evaluation

open Arithmetic Checks Comparison

variable {isNFC : String → Bool}

def invalidValue : ComparisonExactArithmeticError :=
  .arithmetic .invalidValue "The exact comparison value does not satisfy the public contract"

def parsedValue (value : Comparison.ComparisonExactValue) : ParsedExactValue :=
  ⟨exactFraction value, value.unit⟩

def unitOf (values : List Comparison.ComparisonExactValue) : String :=
  ((values.map (·.unit)).head?).getD ""

theorem schema_unit {value : Comparison.ComparisonExactValue} (h : ComparisonExactValueSchema isNFC value)
    : AssuranceSummarySchema isNFC value.unit = true := by
  cases value with
  | decimal unit value => exact h.1
  | rational denominator numerator unit => exact h.2.2.1

theorem schema_unit_ne {value : Comparison.ComparisonExactValue} (h : ComparisonExactValueSchema isNFC value)
    : value.unit ≠ "" := by
  intro hempty
  have hunit := schema_unit h
  rw [hempty] at hunit
  cases hunit

theorem parseExactValue_eq (value : Comparison.ComparisonExactValue)
    : parseExactValue isNFC value
        = if ComparisonExactValueSchema isNFC value then .ok (parsedValue value) else .error invalidValue := by
  split
  . next h => exact parseExactValue_eq_ok.mpr ⟨h, rfl⟩
  . next h =>
    unfold parseExactValue parseWith
    rw [if_neg h]
    rfl

theorem mapM_parseExactValue (values : List Comparison.ComparisonExactValue)
    : values.mapM (parseExactValue isNFC)
        = if ∀ value ∈ values, ComparisonExactValueSchema isNFC value then .ok (values.map parsedValue)
          else .error invalidValue := by
  induction values with
  | nil => rfl
  | cons value values ih =>
    rw [List.mapM_cons, ih, parseExactValue_eq]
    simp only [List.forall_mem_cons]
    by_cases hvalue : ComparisonExactValueSchema isNFC value
    . rw [if_pos hvalue, bind_of_ok rfl]
      by_cases hvalues : ∀ value ∈ values, ComparisonExactValueSchema isNFC value
      . rw [if_pos hvalues, if_pos ⟨hvalue, hvalues⟩]
        rfl
      . rw [if_neg hvalues, if_neg (fun h => hvalues h.2)]
        rfl
    . have hneither : ¬(ComparisonExactValueSchema isNFC value
          ∧ ∀ value ∈ values, ComparisonExactValueSchema isNFC value) := fun h => hvalue h.1
      rw [if_neg hvalue, if_neg hneither]
      rfl

structure Sample (isNFC : String → Bool) (values : List Comparison.ComparisonExactValue) (unit : String) : Prop where
  nonempty : 0 < values.length
  limit : values.length ≤ maxComparisonExactAggregationValues
  admitted : ∀ value ∈ values, ComparisonExactValueSchema isNFC value
  oneUnit : ∀ value ∈ values, value.unit = unit

variable {values : List Comparison.ComparisonExactValue}

theorem Sample.unitOf {unit : String} (h : Sample isNFC values unit)
    : unitOf values = unit := by
  cases values with
  | nil => cases h.nonempty
  | cons value values => exact h.oneUnit value List.mem_cons_self

theorem Sample.schema {unit : String} (h : Sample isNFC values unit)
    : AssuranceSummarySchema isNFC unit = true := by
  cases values with
  | nil => cases h.nonempty
  | cons value values =>
    rw [← h.oneUnit value List.mem_cons_self]
    exact schema_unit (h.admitted value List.mem_cons_self)

theorem unit_map_parsedValue (values : List Comparison.ComparisonExactValue)
    : (((values.map parsedValue).map (·.unit)).head?).getD "" = unitOf values := by
  rw [List.map_map]
  rfl

theorem parseSample_of_admitted (hnonempty : 0 < values.length)
    (hlimit : values.length ≤ maxComparisonExactAggregationValues)
    (hadmitted : ∀ value ∈ values, ComparisonExactValueSchema isNFC value)
    : parseSample isNFC values
        = if ∀ value ∈ values, value.unit = unitOf values then .ok (values.map parsedValue)
          else .error
            (.arithmetic .mixedUnits "Exact comparison aggregation cannot combine different units") := by
  unfold parseSample
  dsimp only
  rw [failIf_bind_of_false (Nat.ne_of_gt hnonempty), failIf_bind_of_false (Nat.not_lt.mpr hlimit),
    mapM_parseExactValue, if_pos hadmitted, bind_of_ok rfl, unit_map_parsedValue]
  have hunit : unitOf values ≠ "" := by
    cases values with
    | nil => cases hnonempty
    | cons value values => exact schema_unit_ne (hadmitted value List.mem_cons_self)
  have hany : (values.map parsedValue).any (·.unit ≠ unitOf values) = true
      ↔ ¬∀ value ∈ values, value.unit = unitOf values := by
    simp only [List.any_map, List.any_eq_true, Function.comp_apply, parsedValue, not_forall, exists_prop]
    exact exists_congr fun value => and_congr_right fun _ => decide_eq_true_iff
  split
  . next h =>
    rw [failIf_bind_of_false]
    . rfl
    . rintro (hempty | hmixed)
      . exact hunit hempty
      . exact hany.mp hmixed h
  . next h => rw [failIf_bind_of_true (.inr (hany.mpr h))]

theorem parseSample_of_not_admitted (hnonempty : 0 < values.length)
    (hlimit : values.length ≤ maxComparisonExactAggregationValues)
    (hadmitted : ¬∀ value ∈ values, ComparisonExactValueSchema isNFC value)
    : parseSample isNFC values = .error invalidValue := by
  unfold parseSample
  rw [failIf_bind_of_false (Nat.ne_of_gt hnonempty), failIf_bind_of_false (Nat.not_lt.mpr hlimit),
    mapM_parseExactValue, if_neg hadmitted]
  rfl

variable {aggregation : ComparisonExactAggregation}

theorem aggregateComparisonExactValues_of_parsed
    (haggregation : validateAggregation aggregation = .ok ())
    (hparsed : parseSample isNFC values = .ok (values.map parsedValue))
    : aggregateComparisonExactValues isNFC values aggregation
        = aggregateOrdered aggregation (order (values.map exactFraction))
            >>= (exactValue isNFC · (unitOf values)) := by
  unfold aggregateComparisonExactValues
  dsimp only
  rw [bind_of_ok haggregation, bind_of_ok hparsed, unit_map_parsedValue, List.map_map]
  rfl

theorem aggregateComparisonExactValues_eq
    {unit : String}
    (haggregation : validateAggregation aggregation = .ok ()) (hsample : Sample isNFC values unit)
    : aggregateComparisonExactValues isNFC values aggregation
        = if IntermediatesFit aggregation (values.map numberOf)
              ∧ Fits (trueAggregate aggregation (values.map numberOf)) then
            .ok (canonicalValue (trueAggregate aggregation (values.map numberOf)) unit)
          else .error outOfBounds := by
  have hunit := hsample.unitOf
  have hparsed : parseSample isNFC values = .ok (values.map parsedValue) := by
    rw [parseSample_of_admitted hsample.nonempty hsample.limit hsample.admitted, hunit,
      if_pos hsample.oneUnit]
  have hfractions : values.map exactFraction = (values.map numberOf).map canonicalFraction := by
    rw [List.map_map]
    exact List.map_congr_left fun value hvalue => exactFraction_eq (hsample.admitted value hvalue)
  rw [aggregateComparisonExactValues_of_parsed haggregation hparsed, hfractions, hunit]
  apply aggregateOrdered_exactValue haggregation _ hsample.schema
  rw [List.length_map]
  exact hsample.nonempty

structure SameNumber (isNFC : String → Bool) (value other : Comparison.ComparisonExactValue) : Prop where
  unit : value.unit = other.unit
  number : numberOf value = numberOf other
  admitted : ComparisonExactValueSchema isNFC value ↔ ComparisonExactValueSchema isNFC other

structure SameSample (isNFC : String → Bool) (values others : List Comparison.ComparisonExactValue) : Prop where
  units : (values.map (·.unit)).Perm (others.map (·.unit))
  numbers : (values.map numberOf).Perm (others.map numberOf)
  admitted : (∀ value ∈ values, ComparisonExactValueSchema isNFC value)
    ↔ ∀ value ∈ others, ComparisonExactValueSchema isNFC value

variable {values others : List Comparison.ComparisonExactValue}

theorem sameSample_of_perm (h : values.Perm others)
    : SameSample isNFC values others where
  units := h.map _
  numbers := h.map _
  admitted := forall_congr' fun _ => imp_congr_left h.mem_iff

theorem SameSample.symm (h : SameSample isNFC values others)
    : SameSample isNFC others values where
  units := h.units.symm
  numbers := h.numbers.symm
  admitted := h.admitted.symm

theorem SameSample.length_eq (h : SameSample isNFC values others)
    : values.length = others.length := by
  simpa using h.units.length_eq

theorem map_eq_of_forall₂ {α : Type} (f : Comparison.ComparisonExactValue → α)
    (h : List.Forall₂ (fun value other => f value = f other) values others)
    : values.map f = others.map f := by
  rw [← List.forall₂_eq_eq_eq, List.forall₂_map_left_iff, List.forall₂_map_right_iff]
  exact h

theorem sameSample_of_forall₂
    (h : List.Forall₂ (SameNumber isNFC) values others)
    : SameSample isNFC values others := by
  have hunits := map_eq_of_forall₂ _ (h.imp fun _ _ hsame => hsame.unit)
  have hnumbers := map_eq_of_forall₂ _ (h.imp fun _ _ hsame => hsame.number)
  refine ⟨List.Perm.of_eq hunits, List.Perm.of_eq hnumbers, ?_⟩
  clear hunits hnumbers
  induction h with
  | nil => rfl
  | cons hsame _ ih => rw [List.forall_mem_cons, List.forall_mem_cons, hsame.admitted, ih]

theorem trueAggregate_of_perm (aggregation : ComparisonExactAggregation) {qs qs' : List ℚ} (h : qs.Perm qs')
    : trueAggregate aggregation qs = trueAggregate aggregation qs' := by
  unfold trueAggregate
  rw [ascending_eq_of_perm h, h.length_eq, h.sum_eq]

theorem intermediatesFit_of_perm {qs qs' : List ℚ}
    (h : qs.Perm qs')
    : IntermediatesFit aggregation qs ↔ IntermediatesFit aggregation qs' := by
  unfold IntermediatesFit
  rw [ascending_eq_of_perm h, h.length_eq]

theorem Sample.of_sameSample {unit : String}
    (hsample : Sample isNFC values unit) (h : SameSample isNFC values others)
    : Sample isNFC others unit := by
  have hlength := h.length_eq
  refine ⟨hlength ▸ hsample.nonempty, hlength ▸ hsample.limit, h.admitted.mp hsample.admitted, ?_⟩
  intro other hother
  have hmem : other.unit ∈ values.map (·.unit) := h.units.mem_iff.mpr (List.mem_map_of_mem hother)
  rcases List.mem_map.mp hmem with ⟨value, hvalue, heq⟩
  rw [← heq]
  exact hsample.oneUnit value hvalue

theorem aggregateComparisonExactValues_of_error
    {error : ComparisonExactArithmeticError}
    (haggregation : validateAggregation aggregation = .ok ()) (h : parseSample isNFC values = .error error)
    : aggregateComparisonExactValues isNFC values aggregation = .error error := by
  unfold aggregateComparisonExactValues
  rw [bind_of_ok haggregation, h]
  rfl

theorem parseSample_of_sameSample
    (h : SameSample isNFC values others) (hnone : ∀ unit, ¬Sample isNFC values unit)
    : ∃ error, parseSample isNFC values = .error error ∧ parseSample isNFC others = .error error
        ∧ error ≠ outOfBounds := by
  have hlength := h.length_eq
  by_cases hnonempty : values.length = 0
  . have hothers : others.length = 0 := hlength ▸ hnonempty
    unfold parseSample
    exact ⟨_, failIf_bind_of_true hnonempty, failIf_bind_of_true hothers, by decide⟩
  . by_cases hlimit : values.length > maxComparisonExactAggregationValues
    . have hothers : others.length > maxComparisonExactAggregationValues := hlength ▸ hlimit
      have hothersNonempty : ¬others.length = 0 := hlength ▸ hnonempty
      unfold parseSample
      rw [failIf_bind_of_false hnonempty, failIf_bind_of_false hothersNonempty]
      exact ⟨_, failIf_bind_of_true hlimit, failIf_bind_of_true hothers, by decide⟩
    . have hpos : 0 < values.length := Nat.pos_of_ne_zero hnonempty
      have hle := Nat.not_lt.mp hlimit
      by_cases hadmitted : ∀ value ∈ values, ComparisonExactValueSchema isNFC value
      . have hmixed : ¬∀ value ∈ values, value.unit = unitOf values :=
          fun hunit => hnone _ ⟨hpos, hle, hadmitted, hunit⟩
        have hothers : ¬∀ value ∈ others, value.unit = unitOf others := by
          intro hunit
          have hsample : Sample isNFC others (unitOf others) :=
            ⟨hlength ▸ hpos, hlength ▸ hle, h.admitted.mp hadmitted, hunit⟩
          exact hnone _ (hsample.of_sameSample h.symm)
        rw [parseSample_of_admitted hpos hle hadmitted, if_neg hmixed,
          parseSample_of_admitted (hlength ▸ hpos) (hlength ▸ hle) (h.admitted.mp hadmitted), if_neg hothers]
        exact ⟨_, rfl, rfl, by decide⟩
      . have hothers := fun hall => hadmitted (h.admitted.mpr hall)
        exact ⟨_, parseSample_of_not_admitted hpos hle hadmitted,
          parseSample_of_not_admitted (hlength ▸ hpos) (hlength ▸ hle) hothers, by decide⟩

theorem aggregateComparisonExactValues_of_sameSample (aggregation : ComparisonExactAggregation)
    (h : SameSample isNFC values others)
    : aggregateComparisonExactValues isNFC values aggregation
        = aggregateComparisonExactValues isNFC others aggregation := by
  cases haggregation : validateAggregation aggregation with
  | error error =>
    unfold aggregateComparisonExactValues
    rw [haggregation]
    rfl
  | ok _ =>
    by_cases hsome : ∃ unit, Sample isNFC values unit
    . rcases hsome with ⟨unit, hsample⟩
      rw [aggregateComparisonExactValues_eq haggregation hsample,
        aggregateComparisonExactValues_eq haggregation (hsample.of_sameSample h),
        trueAggregate_of_perm aggregation h.numbers]
      simp only [intermediatesFit_of_perm h.numbers]
    . rw [not_exists] at hsome
      rcases parseSample_of_sameSample h hsome with ⟨error, hvalues, hothers, _⟩
      rw [aggregateComparisonExactValues_of_error haggregation hvalues,
        aggregateComparisonExactValues_of_error haggregation hothers]

theorem subtractComparisonExactValues_eq {baseline candidate : Comparison.ComparisonExactValue}
    (hbaseline : ComparisonExactValueSchema isNFC baseline)
    (hcandidate : ComparisonExactValueSchema isNFC candidate) (hunit : baseline.unit = candidate.unit)
    : subtractComparisonExactValues isNFC baseline candidate
        = if Fits (numberOf candidate - numberOf baseline) then
            .ok (canonicalValue (numberOf candidate - numberOf baseline) baseline.unit)
          else .error outOfBounds := by
  have hneg : (⟨-(canonicalFraction (numberOf baseline)).numerator,
      (canonicalFraction (numberOf baseline)).denominator⟩ : Fraction)
        = canonicalFraction (-numberOf baseline) := rfl
  unfold subtractComparisonExactValues
  rw [bind_of_ok (parseExactValue_eq_ok.mpr ⟨hbaseline, rfl⟩),
    bind_of_ok (parseExactValue_eq_ok.mpr ⟨hcandidate, rfl⟩), failIf_bind_of_false (not_not.mpr hunit),
    exactFraction_eq hbaseline, exactFraction_eq hcandidate, hneg, addFractions_canonicalFraction,
    ← sub_eq_add_neg, bounded]
  split
  . next hfits => rw [bind_of_ok rfl, exactValue_canonicalFraction _ (schema_unit hbaseline), if_pos hfits]
  . rfl

theorem compareComparisonExactValues_eq {left right : Comparison.ComparisonExactValue}
    (hleft : ComparisonExactValueSchema isNFC left) (hright : ComparisonExactValueSchema isNFC right)
    (hunit : left.unit = right.unit)
    : compareComparisonExactValues isNFC left right
        = .ok (if numberOf left = numberOf right then 0 else if numberOf left < numberOf right then -1 else 1) := by
  apply compareComparisonExactValues_eq_ok.mpr
  refine ⟨hleft, hright, hunit, ?_⟩
  rw [compareFractions_eq (exactFraction_reduced hleft) (exactFraction_reduced hright), value_exactFraction,
    value_exactFraction]
  simp only [sub_eq_zero, sub_neg]

theorem subtractComparisonExactValues_admitted {baseline candidate delta : Comparison.ComparisonExactValue}
    (h : subtractComparisonExactValues isNFC baseline candidate = .ok delta)
    : ComparisonExactValueSchema isNFC baseline ∧ ComparisonExactValueSchema isNFC candidate
        ∧ baseline.unit = candidate.unit := by
  simp only [subtractComparisonExactValues, bind_eq_ok, parseExactValue_eq_ok, failIf_eq_ok] at h
  rcases h with ⟨_, ⟨hbaseline, rfl⟩, _, ⟨hcandidate, rfl⟩, _, hunit, _⟩
  exact ⟨hbaseline, hcandidate, not_not.mp hunit⟩

theorem parseExactValue_of_sameNumber {value other : Comparison.ComparisonExactValue} (h : SameNumber isNFC value other)
    : parseExactValue isNFC value = parseExactValue isNFC other := by
  rw [parseExactValue_eq, parseExactValue_eq]
  by_cases hvalue : ComparisonExactValueSchema isNFC value
  . have hother := h.admitted.mp hvalue
    rw [if_pos hvalue, if_pos hother, parsedValue, parsedValue, exactFraction_eq hvalue,
      exactFraction_eq hother, h.number, h.unit]
  . rw [if_neg hvalue, if_neg (fun hother => hvalue (h.admitted.mpr hother))]

theorem numberOf_canonicalValue (q : ℚ) (unit : String) : numberOf (canonicalValue q unit) = q := by
  rw [canonicalValue, numberOf, String.toList_ofList, String.toList_ofList, readInteger_integerText,
    readInteger_integerText]
  exact Rat.num_div_den q

structure ExactArithmeticLaws (isNFC : String → Bool) : Prop where
  compare : ∀ left right ordering, compareComparisonExactValues isNFC left right = .ok ordering →
    left.unit = right.unit
      ∧ ordering = if numberOf left = numberOf right then 0 else if numberOf left < numberOf right then -1 else 1
  subtract : ∀ baseline candidate delta, subtractComparisonExactValues isNFC baseline candidate = .ok delta →
    baseline.unit = candidate.unit
      ∧ delta = canonicalValue (numberOf candidate - numberOf baseline) baseline.unit
  aggregate : ∀ values aggregation result, aggregateComparisonExactValues isNFC values aggregation = .ok result →
    ∃ unit, (∀ value ∈ values, value.unit = unit)
      ∧ result = canonicalValue (trueAggregate aggregation (values.map numberOf)) unit
  canonical : ∀ q unit, numberOf (canonicalValue q unit) = q
  compareRepresentation : ∀ left left' right right', SameNumber isNFC left left' →
    SameNumber isNFC right right' →
      compareComparisonExactValues isNFC left right = compareComparisonExactValues isNFC left' right'
  subtractRepresentation : ∀ baseline baseline' candidate candidate', SameNumber isNFC baseline baseline' →
    SameNumber isNFC candidate candidate' →
      subtractComparisonExactValues isNFC baseline candidate
        = subtractComparisonExactValues isNFC baseline' candidate'
  aggregateOrder : ∀ aggregation values others, values.Perm others →
    aggregateComparisonExactValues isNFC values aggregation
      = aggregateComparisonExactValues isNFC others aggregation
  aggregateRepresentation : ∀ aggregation values others, List.Forall₂ (SameNumber isNFC) values others →
    aggregateComparisonExactValues isNFC values aggregation
      = aggregateComparisonExactValues isNFC others aggregation

theorem validateAggregation_ne_outOfBounds (aggregation : ComparisonExactAggregation)
    : validateAggregation aggregation ≠ .error outOfBounds := by
  unfold validateAggregation failIf outOfBounds
  split <;> (try split) <;> simp

theorem aggregateComparisonExactValues_sample
    (h : (∃ result, aggregateComparisonExactValues isNFC values aggregation = .ok result)
      ∨ aggregateComparisonExactValues isNFC values aggregation = .error outOfBounds)
    : validateAggregation aggregation = .ok () ∧ ∃ unit, Sample isNFC values unit := by
  cases haggregation : validateAggregation aggregation with
  | error error =>
    have hrefused : aggregateComparisonExactValues isNFC values aggregation = .error error := by
      unfold aggregateComparisonExactValues
      rw [haggregation]
      rfl
    have hother := validateAggregation_ne_outOfBounds aggregation
    rw [haggregation, ne_eq, Except.error.injEq] at hother
    simp [hrefused, hother] at h
  | ok _ =>
    refine ⟨rfl, ?_⟩
    by_contra hnone
    rw [not_exists] at hnone
    rcases parseSample_of_sameSample (sameSample_of_perm (List.Perm.refl values)) hnone
      with ⟨error, herror, _, hother⟩
    have hrefused := aggregateComparisonExactValues_of_error haggregation herror
    simp [hrefused, hother] at h

theorem exactArithmeticLaws : ExactArithmeticLaws isNFC where
  compare := by
    intro left right ordering h
    rcases compareComparisonExactValues_eq_ok.mp h with ⟨hleft, hright, hunit, _⟩
    rw [compareComparisonExactValues_eq hleft hright hunit] at h
    cases h
    exact ⟨hunit, rfl⟩
  subtract := by
    intro baseline candidate delta h
    rcases subtractComparisonExactValues_admitted h with ⟨hbaseline, hcandidate, hunit⟩
    rw [subtractComparisonExactValues_eq hbaseline hcandidate hunit] at h
    split at h
    . cases h
      exact ⟨hunit, rfl⟩
    . cases h
  aggregate := by
    intro values aggregation result h
    rcases aggregateComparisonExactValues_sample (.inl ⟨result, h⟩) with ⟨haggregation, unit, hsample⟩
    rw [aggregateComparisonExactValues_eq haggregation hsample] at h
    split at h
    . cases h
      exact ⟨unit, hsample.oneUnit, rfl⟩
    . cases h
  canonical := numberOf_canonicalValue
  compareRepresentation := by
    intro left left' right right' hleft hright
    unfold compareComparisonExactValues
    rw [parseExactValue_of_sameNumber hleft, parseExactValue_of_sameNumber hright]
  subtractRepresentation := by
    intro baseline baseline' candidate candidate' hbaseline hcandidate
    unfold subtractComparisonExactValues
    rw [parseExactValue_of_sameNumber hbaseline, parseExactValue_of_sameNumber hcandidate]
  aggregateOrder := by
    intro aggregation values others h
    exact aggregateComparisonExactValues_of_sameSample aggregation (sameSample_of_perm h)
  aggregateRepresentation := by
    intro aggregation values others h
    exact aggregateComparisonExactValues_of_sameSample aggregation (sameSample_of_forall₂ h)

end Evaluation
end ProofStack
