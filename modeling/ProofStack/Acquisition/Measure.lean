import ProofStack.Acquisition.Budget
import ProofStack.Json.Size
import ProofStack.StateMachine.Metered

/-!
This module contains the proof that a measurement charges the bytes of the JSON text of what it
measures, and that it returns for plain values only.
-/

namespace ProofStack
namespace Acquisition

open Json StateMachine

variable {ν : Type}

namespace AcquisitionBudget

def chargedBytes (budget : AcquisitionBudget) (cost : Nat) : AcquisitionBudget :=
  { budget with bytes := budget.bytes + cost }

def Fits (budget : AcquisitionBudget) (cost : Nat) : Prop :=
  budget.bytes + budget.referenceBytes + cost ≤ budget.metadataLimits.recordAndReferenceBytes

instance (budget : AcquisitionBudget) (cost : Nat) : Decidable (budget.Fits cost) :=
  inferInstanceAs (Decidable (_ ≤ _))

theorem chargedBytes_zero (budget : AcquisitionBudget) : budget.chargedBytes 0 = budget :=
  rfl

theorem chargedBytes_add (budget : AcquisitionBudget) (first second : Nat)
    : budget.chargedBytes (first + second) = (budget.chargedBytes first).chargedBytes second := by
  simp [chargedBytes, Nat.add_assoc]

variable {budget : AcquisitionBudget}

theorem fits_chargedBytes {first second : Nat}
    : (budget.chargedBytes first).Fits second ↔ budget.Fits (first + second) := by
  simp only [Fits, chargedBytes]
  omega

theorem Fits.of_add {first second : Nat}
    (h : budget.Fits (first + second))
    : budget.Fits first := by
  unfold Fits at h ⊢
  omega

theorem fits_iff {cost : Nat}
    : budget.Fits cost ↔ ¬(cost : Int) > budget.remainingBytes := by
  unfold Fits remainingBytes
  omega

end AcquisitionBudget

open AcquisitionBudget

def bytesTariff : Tariff AcquisitionBudget Nat where
  charge cost budget := if budget.Fits cost then some (budget.chargedBytes cost) else none
  eq_of_charge_zero := by
    intro budget budget' h
    split at h
    . cases h
      exact chargedBytes_zero budget
    . contradiction
  charge_add := by
    intro first second budget
    by_cases hfits : budget.Fits (first + second)
    . rw [if_pos hfits, if_pos hfits.of_add, Option.bind_some, if_pos (fits_chargedBytes.mpr hfits),
        chargedBytes_add]
    . rw [if_neg hfits]
      split
      . rw [Option.bind_some, if_neg (mt fits_chargedBytes.mp hfits)]
      . rfl

def ChargesBytes (computation : Charging Unit) (cost : Nat) : Prop :=
  Metered bytesTariff computation cost (.ok ())

theorem chargesBytes_iff {computation : Charging Unit} {cost : Nat}
    (hspent : ∀ budget budget', computation budget = .ok () budget' →
      budget.Fits cost ∧ budget' = budget.chargedBytes cost)
    (hreturns : ∀ budget, budget.Fits cost → computation budget = .ok () (budget.chargedBytes cost))
    : ChargesBytes computation cost where
  sound := by
    intro budget budget' a _
    rfl
  spent := by
    intro budget budget' a _ hrun
    rcases hspent budget budget' hrun with ⟨hfits, rfl⟩
    exact if_pos hfits
  returns := by
    intro budget budget' a _ hcharge
    simp only [bytesTariff] at hcharge
    split at hcharge
    . next hfits =>
      cases hcharge
      exact hreturns budget hfits
    . contradiction
  throws := by
    intro budget budget' error hvalue
    contradiction

theorem ChargesBytes.run {computation : Charging Unit} {cost : Nat} (h : ChargesBytes computation cost)
    {budget : AcquisitionBudget} (hfits : budget.Fits cost)
    : computation budget = .ok () (budget.chargedBytes cost) :=
  h.returns rfl (if_pos hfits)

theorem charge_run (budget : AcquisitionBudget) (cost : Nat)
    : charge cost budget
        = if budget.Fits cost then .ok () (budget.chargedBytes cost)
          else .error (.policyRecordGraph .byteLimit) budget := by
  show (if (cost : Int) > budget.remainingBytes then reject .byteLimit
    else set (budget.chargedBytes cost) : Charging Unit) budget = _
  by_cases hfits : budget.Fits cost
  . rw [if_pos hfits, if_neg (fits_iff.mp hfits)]
    rfl
  . rw [if_neg hfits, if_pos (not_not.mp (mt fits_iff.mpr hfits))]
    rfl

theorem charge_chargesBytes (cost : Nat) : ChargesBytes (charge cost) cost := by
  apply chargesBytes_iff
  . intro budget budget' hrun
    rw [charge_run] at hrun
    split at hrun
    . next hfits =>
      cases hrun
      exact ⟨hfits, rfl⟩
    . contradiction
  . intro budget hfits
    rw [charge_run, if_pos hfits]

theorem chargeString_chargesBytes (units : List UInt16)
    : ChargesBytes (chargeString units) (byteLength (quote units)) := by
  have hlength := length_add_two_le_byteLength_quote units
  apply chargesBytes_iff
  . intro budget budget' hrun
    change (if _ then reject .byteLimit else charge _ : Charging Unit) budget = _ at hrun
    split at hrun
    . contradiction
    . change charge (byteLength (quote units)) budget = _ at hrun
      rw [charge_run] at hrun
      split at hrun
      . next hfits =>
        cases hrun
        exact ⟨hfits, rfl⟩
      . contradiction
  . intro budget hfits
    have hlong : ¬((units.length : Int) + 2 > budget.remainingBytes) := by
      have hquote := fits_iff.mp hfits
      omega
    show (if (units.length : Int) + 2 > budget.remainingBytes then reject .byteLimit
      else charge (byteLength (quote units)) : Charging Unit) budget = _
    rw [if_neg hlong, charge_run, if_pos hfits]

theorem pure_chargesBytes : ChargesBytes (pure ()) 0 :=
  Metered.pure ()

theorem ChargesBytes.andThen {first second : Charging Unit} {cost cost' : Nat}
    (h : ChargesBytes first cost) (h' : ChargesBytes second cost')
    : ChargesBytes (first >>= fun _ => second) (cost + cost') :=
  Metered.andThen h h'

theorem chargeComma_chargesBytes (count : Nat)
    : ChargesBytes (chargeComma count) (if count = 0 then 0 else 1) := by
  unfold chargeComma
  cases count with
  | zero => exact pure_chargesBytes
  | succ count => exact charge_chargesBytes 1

theorem chargeKey_chargesBytes (key : List UInt16)
    : ChargesBytes (chargeKey false key) (byteLength (quote key) + 1) :=
  (chargeString_chargesBytes key).andThen (charge_chargesBytes 1)

section Properties

variable [NumberText ν] {visit : JsValue ν → Charging Unit} {element : JsValue ν → Option (Json ν)}
variable {properties : List (Property ν)}

theorem visitValue_chargesBytes {value : JsValue ν} {item : Json ν}
    (h : toItem element value = some item)
    (hvisit : ∀ json, element value = some json → ChargesBytes (visit value) json.size)
    : ChargesBytes (visitValue visit true value) item.size := by
  unfold visitValue
  unfold toItem at h
  split at h
  . next hundefined =>
    cases h
    rw [if_pos ⟨rfl, hundefined⟩]
    exact charge_chargesBytes 4
  . next hundefined =>
    rw [if_neg (fun hboth => hundefined hboth.2)]
    exact hvisit item h

theorem visitProperties_chargesItems {index : Nat} {items : List (Json ν)}
    (h : toItems element index properties = some items)
    (hvisit : ∀ property ∈ properties, ∀ value, property.descriptor = .data value →
      ∀ json, element value = some json → ChargesBytes (visit value) json.size)
    : ChargesBytes (visitProperties visit true index properties)
        (joinedLength index (items.map size)) := by
  induction properties generalizing index items with
  | nil =>
    cases h
    exact pure_chargesBytes
  | cons property properties ih =>
    unfold toItems at h
    split at h
    . next hkey =>
      split at h
      . contradiction
      . next value hvalue =>
        simp only [Option.bind_eq_bind, Option.bind_eq_some_iff] at h
        rcases h with ⟨item, hitem, others, hothers, heq⟩
        cases heq
        have hchecked : ¬(¬property.enumerable ∨ true ∧ property.key ≠ indexKey index) := by
          simp [hkey.1, hkey.2]
        have hrest := ih hothers (fun other hmem => hvisit other (List.mem_cons_of_mem _ hmem))
        have hhead := visitValue_chargesBytes hitem
          (hvisit property List.mem_cons_self value hvalue)
        unfold visitProperties
        rw [if_neg hchecked, hvalue]
        simp only [not_true_eq_false, false_and, if_false]
        rw [List.map_cons, joinedLength, ← Nat.zero_add (item.size + _)]
        exact (chargeComma_chargesBytes index).andThen
          (pure_chargesBytes.andThen (hhead.andThen hrest))
    . contradiction

theorem visitProperties_chargesMembers {count : Nat} {members : List (List UInt16 × Json ν)}
    (h : toMembers element properties = some members)
    (hvisit : ∀ property ∈ properties, ∀ value, property.descriptor = .data value →
      ∀ json, element value = some json → ChargesBytes (visit value) json.size)
    : ChargesBytes (visitProperties visit false count properties)
        (joinedLength count (members.map memberSize)) := by
  induction properties generalizing count members with
  | nil =>
    cases h
    exact pure_chargesBytes
  | cons property properties ih =>
    have hothers := fun other hmem => hvisit other (List.mem_cons_of_mem property hmem)
    unfold toMembers at h
    split at h
    . next henumerable =>
      have hchecked
          : ¬(¬property.enumerable ∨ (false : Bool) = true ∧ property.key ≠ indexKey count) := by
        simp [henumerable]
      split at h
      . contradiction
      . next value hvalue =>
        unfold visitProperties
        rw [if_neg hchecked, hvalue]
        split at h
        . next hundefined =>
          simp only [hundefined, Bool.false_eq_true, not_false_eq_true, and_self, if_true]
          exact ih h hothers
        . next hundefined =>
          simp only [Option.bind_eq_bind, Option.bind_eq_some_iff] at h
          rcases h with ⟨member, hmember, others, hrest, heq⟩
          cases heq
          have hvalueCharges := hvisit property List.mem_cons_self value hvalue member hmember
          simp only [hundefined, if_false, Bool.false_eq_true, and_false]
          rw [List.map_cons, joinedLength, memberSize, Nat.add_assoc (byteLength _ + 1)]
          apply (chargeComma_chargesBytes count).andThen
          apply (chargeKey_chargesBytes property.key).andThen
          exact hvalueCharges.andThen (ih hrest hothers)
    . contradiction

end Properties

section Visit

variable [NumberText ν] {heap : Heap ν} {active : List Nat} {levels : Nat} {value : JsValue ν}

theorem visit_chargesBytes {json : Json ν} (h : toJson heap levels value = some json)
    (hactive : ∀ reference ∈ active, Relation.TransGen (Contains heap) (.object reference) value)
    : ChargesBytes (visit heap active levels value) json.size := by
  induction levels generalizing active value json with
  | zero => contradiction
  | succ levels ih =>
    cases value with
    | undefined => contradiction
    | other => contradiction
    | null =>
      cases h
      exact charge_chargesBytes 4
    | bool value =>
      cases h
      cases value
      . exact charge_chargesBytes 5
      . exact charge_chargesBytes 4
    | number value =>
      simp only [toJson] at h
      split at h
      . next hfinite =>
        cases h
        have htokens : (Json.number value).tokens = [.number value] := by
          rw [tokens, if_pos hfinite]
        rw [size_token htokens, visit, if_pos hfinite]
        exact charge_chargesBytes _
      . contradiction
    | string units =>
      cases h
      have htokens : (Json.string (ν := ν) units).tokens = [.string units] := rfl
      rw [size_token htokens]
      exact chargeString_chargesBytes units
    | object reference =>
      have hinactive : reference ∉ active := by
        intro hmem
        exact not_transGen_self h (hactive reference hmem)
      have hheld : ∀ property ∈ (heap reference).properties, ∀ value,
          property.descriptor = .data value → ∀ json, toJson heap levels value = some json →
            ChargesBytes (visit heap (reference :: active) levels value) json.size := by
        intro property hproperty value hvalue json hjson
        have hcontains : Contains heap (.object reference) value :=
          ⟨reference, rfl, property, hproperty, hvalue⟩
        apply ih hjson
        intro other hother
        cases List.mem_cons.mp hother with
        | inl heq =>
          rw [heq]
          exact Relation.TransGen.single hcontains
        | inr hmem => exact (hactive other hmem).tail hcontains
      simp only [toJson] at h
      split at h
      . contradiction
      next hsymbols =>
      rw [not_not] at hsymbols
      split at h
      . next length hkind =>
        split at h
        . next hlength =>
          rcases Option.map_eq_some_iff.mp h with ⟨items, hitems, rfl⟩
          rw [visit, if_neg hinactive, hkind, size_array]
          apply (charge_chargesBytes 2).andThen
          rw [if_neg (by omega)]
          exact visitProperties_chargesItems hitems hheld
        . contradiction
      . next hkind =>
        split at h
        . next hprototype =>
          rcases Option.map_eq_some_iff.mp h with ⟨members, hmembers, rfl⟩
          rw [visit, if_neg hinactive, hkind, size_object]
          dsimp only
          rw [if_pos hprototype]
          apply (charge_chargesBytes 2).andThen
          rw [if_neg (by omega)]
          exact visitProperties_chargesMembers hmembers hheld
        . contradiction

theorem measure_run {json : Json ν} (h : toJson heap (maxDepth + 1) value = some json)
    {budget : AcquisitionBudget} (hfits : budget.Fits json.size)
    : measure heap value budget = .ok () (budget.chargedBytes json.size) := by
  have hmeasure : ChargesBytes (measure heap value) json.size :=
    visit_chargesBytes h (fun reference hmem => (List.not_mem_nil hmem).elim)
  exact hmeasure.run hfits

end Visit

theorem bind_eq_ok {first : Charging Unit} {second : Unit → Charging Unit}
    {budget budget' : AcquisitionBudget} (h : (first >>= second) budget = .ok () budget')
    : ∃ budget'', second () budget'' = .ok () budget' := by
  cases hfirst : first budget with
  | ok a budget'' =>
    rw [bind_run hfirst] at h
    exact ⟨budget'', h⟩
  | error error budget'' =>
    rw [bind_run_error hfirst] at h
    contradiction

section Rejection

variable {visit : JsValue ν → Charging Unit} {element : JsValue ν → Option (Json ν)}
variable {properties : List (Property ν)} {budget budget' : AcquisitionBudget}

def VisitsShown (visit : JsValue ν → Charging Unit) (element : JsValue ν → Option (Json ν)) : Prop :=
  ∀ value budget budget', visit value budget = .ok () budget' →
    value = .undefined ∨ ∃ json, element value = some json

theorem toItems_of_visitProperties (hvisit : VisitsShown visit element) {index : Nat}
    (h : visitProperties visit true index properties budget = .ok () budget')
    : ∃ items, toItems element index properties = some items := by
  induction properties generalizing index budget with
  | nil => exact ⟨[], rfl⟩
  | cons property properties ih =>
    unfold visitProperties at h
    split at h
    . contradiction
    . next hchecked =>
      have hkey : property.enumerable ∧ property.key = indexKey index := by
        simpa using hchecked
      unfold toItems
      rw [if_pos hkey]
      cases hdescriptor : property.descriptor with
      | accessor =>
        rw [hdescriptor] at h
        contradiction
      | data value =>
        simp only [hdescriptor, not_true_eq_false, false_and, if_false] at h
        rcases bind_eq_ok h with ⟨budget1, h⟩
        rcases bind_eq_ok h with ⟨budget2, h⟩
        cases hhead : visitValue visit true value budget2 with
        | error error budget3 =>
          rw [bind_run_error hhead] at h
          contradiction
        | ok a budget3 =>
          rw [bind_run hhead] at h
          rcases ih h with ⟨items, hitems⟩
          have hitem : ∃ item, toItem element value = some item := by
            unfold toItem
            unfold visitValue at hhead
            split
            . exact ⟨_, rfl⟩
            . next hdefined =>
              rw [if_neg (fun hboth => hdefined hboth.2)] at hhead
              cases hvisit value budget2 budget3 hhead with
              | inl hundefined => exact (hdefined (JsValue.isUndefined_iff.mpr hundefined)).elim
              | inr hshown => exact hshown
          rcases hitem with ⟨item, hitem⟩
          exact ⟨item :: items, by simp [hitem, hitems]⟩

theorem toMembers_of_visitProperties (hvisit : VisitsShown visit element) {count : Nat}
    (h : visitProperties visit false count properties budget = .ok () budget')
    : ∃ members, toMembers element properties = some members := by
  induction properties generalizing count budget with
  | nil => exact ⟨[], rfl⟩
  | cons property properties ih =>
    unfold visitProperties at h
    split at h
    . contradiction
    . next hchecked =>
      have henumerable : property.enumerable := by
        simpa using hchecked
      unfold toMembers
      rw [if_pos henumerable]
      cases hdescriptor : property.descriptor with
      | accessor =>
        rw [hdescriptor] at h
        contradiction
      | data value =>
        simp only [hdescriptor] at h ⊢
        split at h
        . next hundefined =>
          rw [if_pos hundefined.2]
          exact ih h
        . next hdefined =>
          replace hdefined : ¬value.isUndefined := by
            simpa using hdefined
          rw [if_neg hdefined]
          rcases bind_eq_ok h with ⟨budget1, h⟩
          rcases bind_eq_ok h with ⟨budget2, h⟩
          cases hhead : visitValue visit false value budget2 with
          | error error budget3 =>
            rw [bind_run_error hhead] at h
            contradiction
          | ok a budget3 =>
            rw [bind_run hhead] at h
            rcases ih h with ⟨members, hmembers⟩
            rw [visitValue, if_neg (fun hboth => hdefined hboth.2)] at hhead
            cases hvisit value budget2 budget3 hhead with
            | inl hundefined => exact (hdefined (JsValue.isUndefined_iff.mpr hundefined)).elim
            | inr hshown =>
              rcases hshown with ⟨member, hmember⟩
              exact ⟨(property.key, member) :: members, by simp [hmember, hmembers]⟩

end Rejection

section Shown

variable [NumberText ν] {heap : Heap ν} {value : JsValue ν}

theorem visit_shown (active : List Nat) (levels : Nat)
    : VisitsShown (visit heap active levels) (toJson heap levels) := by
  induction levels generalizing active with
  | zero =>
    intro value budget budget' h
    contradiction
  | succ levels ih =>
    intro value budget budget' h
    cases value with
    | undefined => exact .inl rfl
    | other => contradiction
    | null => exact .inr ⟨_, rfl⟩
    | bool value => exact .inr ⟨_, rfl⟩
    | string units => exact .inr ⟨_, rfl⟩
    | number value =>
      simp only [visit] at h
      split at h
      . next hfinite => exact .inr ⟨.number value, by rw [toJson, if_pos hfinite]⟩
      . contradiction
    | object reference =>
      right
      simp only [visit] at h
      split at h
      . contradiction
      unfold toJson
      cases hkind : (heap reference).kind with
      | array length =>
        simp only [hkind] at h ⊢
        rcases bind_eq_ok h with ⟨budget1, h⟩
        split at h
        . contradiction
        . next hchecked =>
          rcases toItems_of_visitProperties (ih (reference :: active)) h with ⟨items, hitems⟩
          rw [if_neg (by omega), if_pos (by omega), hitems]
          exact ⟨.array items, rfl⟩
      | ordinary =>
        simp only [hkind] at h ⊢
        split at h
        . next hprototype =>
          rcases bind_eq_ok h with ⟨budget1, h⟩
          split at h
          . contradiction
          . next hchecked =>
            rcases toMembers_of_visitProperties (ih (reference :: active)) h with ⟨members, hmembers⟩
            rw [if_neg (by omega), if_pos hprototype, hmembers]
            exact ⟨.object members, rfl⟩
        . contradiction

theorem measure_rejects (h : toJson heap (maxDepth + 1) value = none) (hdefined : value ≠ .undefined)
    (budget : AcquisitionBudget)
    : ∃ error budget', measure heap value budget = .error error budget' := by
  cases hrun : measure heap value budget with
  | error error budget' => exact ⟨error, budget', rfl⟩
  | ok a budget' =>
    cases visit_shown [] (maxDepth + 1) value budget budget' hrun with
    | inl hundefined => exact (hdefined hundefined).elim
    | inr hshown =>
      rcases hshown with ⟨json, hjson⟩
      rw [hjson] at h
      contradiction

end Shown

end Acquisition
end ProofStack
