import Mathlib.Data.List.Nodup
import ProofStack.Json.RoundTrip

/-!
This module contains the canonical form of JSON values.
-/

namespace ProofStack
namespace Json

variable {ν : Type}

class PrintedNumber (ν : Type) [NumberText ν] where
  same : ν → ν → Prop
  text_eq_text : ∀ {n m : ν}, NumberText.finite n → NumberText.finite m →
    (NumberText.text n = NumberText.text m ↔ same n m)
  isNumber_text : ∀ {n : ν}, NumberText.finite n → isNumber (NumberText.text n)
  finite_read : ∀ {n : ν}, NumberText.finite n → NumberText.finite (NumberText.read (NumberText.text n) : ν)
  same_read : ∀ {n : ν}, NumberText.finite n → same (NumberText.read (NumberText.text n)) n

abbrev Member (ν : Type) := List UInt16 × Json ν

/-- The values whose numbers are finite and whose objects have each key once. -/
inductive WellFormed [NumberText ν] : Json ν → Prop where
  | null : WellFormed .null
  | bool (value : Bool) : WellFormed (.bool value)
  | number (value : ν) (hfinite : NumberText.finite value) : WellFormed (.number value)
  | string (units : List UInt16) : WellFormed (.string units)
  | array (items : List (Json ν)) (hitems : ∀ item ∈ items, WellFormed item) : WellFormed (.array items)
  | object (members : List (Member ν)) (hkeys : (members.map Prod.fst).Nodup)
    (hvalues : ∀ member ∈ members, WellFormed member.2)
    : WellFormed (.object members)

inductive Same [NumberText ν] [PrintedNumber ν] : Json ν → Json ν → Prop where
  | null : Same .null .null
  | bool (value : Bool) : Same (.bool value) (.bool value)
  | number (left right : ν) (h : PrintedNumber.same left right) : Same (.number left) (.number right)
  | string (units : List UInt16) : Same (.string units) (.string units)
  | array (lefts rights : List (Json ν)) (hlength : lefts.length = rights.length)
    (hitems : ∀ pair ∈ lefts.zip rights, Same pair.1 pair.2)
    : Same (.array lefts) (.array rights)
  | object (lefts rights : List (Member ν)) (hkeys : (lefts.map Prod.fst).Perm (rights.map Prod.fst))
    (hvalues : ∀ left ∈ lefts, ∀ right ∈ rights, left.1 = right.1 → Same left.2 right.2)
    : Same (.object lefts) (.object rights)

def sortMembers (members : List (Member ν)) : List (Member ν) :=
  members.mergeSort (fun left right => left.1 ≤ right.1)

theorem sortMembers_perm (members : List (Member ν)) : (sortMembers members).Perm members :=
  List.mergeSort_perm _ _

theorem pairwise_sortMembers (members : List (Member ν))
    : (sortMembers members).Pairwise (fun left right => left.1 ≤ right.1) := by
  have hsorted : (sortMembers members).Pairwise (fun left right => decide (left.1 ≤ right.1) = true) := by
    apply List.pairwise_mergeSort
    . intro first second third hfirst hsecond
      exact decide_eq_true (List.le_trans (of_decide_eq_true hfirst) (of_decide_eq_true hsecond))
    . intro left right
      simpa using List.le_total left.1 right.1
  exact hsorted.imp (fun h => of_decide_eq_true h)

variable {members : List (Member ν)}

theorem eq_of_mem_of_fst_eq (hkeys : (members.map Prod.fst).Nodup)
    {left right : Member ν} (hleft : left ∈ members) (hright : right ∈ members) (h : left.1 = right.1)
    : left = right :=
  List.inj_on_of_nodup_map hkeys hleft hright h

theorem perm_of_keys {lefts rights : List (Member ν)} (hlefts : (lefts.map Prod.fst).Nodup)
    (hrights : (rights.map Prod.fst).Nodup) (hkeys : (lefts.map Prod.fst).Perm (rights.map Prod.fst))
    (hvalues : ∀ left ∈ lefts, ∀ right ∈ rights, left.1 = right.1 → left.2 = right.2)
    : lefts.Perm rights := by
  rw [List.perm_ext_iff_of_nodup hlefts.of_map hrights.of_map]
  intro member
  constructor
  . intro hmem
    rcases List.mem_map.mp (hkeys.subset (List.mem_map_of_mem hmem)) with ⟨right, hright, hkey⟩
    rwa [Prod.ext hkey.symm (hvalues member hmem right hright hkey.symm)]
  . intro hmem
    rcases List.mem_map.mp (hkeys.symm.subset (List.mem_map_of_mem hmem)) with ⟨left, hleft, hkey⟩
    rwa [Prod.ext hkey.symm (hvalues left hleft member hmem hkey).symm]

theorem sortMembers_eq_of_perm {lefts rights : List (Member ν)} (hkeys : (rights.map Prod.fst).Nodup)
    (h : lefts.Perm rights)
    : sortMembers lefts = sortMembers rights := by
  have hperm : (sortMembers lefts).Perm (sortMembers rights) :=
    (sortMembers_perm lefts).trans (h.trans (sortMembers_perm rights).symm)
  refine List.Perm.eq_of_pairwise ?_ (pairwise_sortMembers lefts) (pairwise_sortMembers rights) hperm
  intro left right hleft hright hle hge
  have hleft' : left ∈ rights := h.subset ((sortMembers_perm lefts).subset hleft)
  exact eq_of_mem_of_fst_eq hkeys hleft' ((sortMembers_perm rights).subset hright) (List.le_antisymm hle hge)

section Canonical

variable [NumberText ν]

mutual

def canonical : Json ν → Json ν
  | .null => .null
  | .bool value => .bool value
  | .number value => .number (NumberText.read (NumberText.text value))
  | .string units => .string units
  | .array items => .array (canonicalItems items)
  | .object members => .object (sortMembers (canonicalMembers members))

def canonicalItems : List (Json ν) → List (Json ν)
  | [] => []
  | item :: items => canonical item :: canonicalItems items

def canonicalMembers : List (Member ν) → List (Member ν)
  | [] => []
  | (key, value) :: members => (key, canonical value) :: canonicalMembers members

end

attribute [simp] canonical canonicalItems canonicalMembers

def mapValue (f : Json ν → Json ν) (member : Member ν) : Member ν :=
  (member.1, f member.2)

omit [NumberText ν] in
theorem map_fst_map_mapValue (f : Json ν → Json ν) (members : List (Member ν))
    : (members.map (mapValue f)).map Prod.fst = members.map Prod.fst := by
  rw [List.map_map]
  rfl

theorem canonicalItems_eq_map (items : List (Json ν)) : canonicalItems items = items.map canonical := by
  induction items with
  | nil => rfl
  | cons item items ih => rw [canonicalItems, List.map_cons, ih]

theorem canonicalMembers_eq_map (members : List (Member ν))
    : canonicalMembers members = members.map (mapValue canonical) := by
  induction members with
  | nil => rfl
  | cons member members ih =>
    rw [canonicalMembers, List.map_cons, ih]
    rfl

theorem canonical_object (members : List (Member ν))
    : canonical (.object members) = .object (sortMembers (members.map (mapValue canonical))) := by
  rw [canonical, canonicalMembers_eq_map]

theorem canonical_array (items : List (Json ν)) : canonical (.array items) = .array (items.map canonical) := by
  rw [canonical, canonicalItems_eq_map]

theorem array_eq_of_canonical {items : List (Json ν)} {other : Json ν} (hother : WellFormed other)
    (h : canonical (.array items) = other.canonical)
    : ∃ others, other = .array others ∧ items.map canonical = others.map canonical
        ∧ ∀ item ∈ others, WellFormed item := by
  rw [canonical_array] at h
  cases hother with
  | array others hothers =>
    rw [canonical_array, Json.array.injEq] at h
    exact ⟨others, rfl, h, hothers⟩
  | object => simp [canonical] at h
  | _ => simp [canonical] at h

theorem object_eq_of_canonical {other : Json ν} (hother : WellFormed other)
    (h : canonical (.object members) = other.canonical)
    : ∃ others, other = .object others
        ∧ (members.map (mapValue canonical)).Perm (others.map (mapValue canonical))
        ∧ (others.map Prod.fst).Nodup ∧ ∀ member ∈ others, WellFormed member.2 := by
  rw [canonical_object] at h
  cases hother with
  | object others hkeys hothers =>
    rw [canonical_object, Json.object.injEq] at h
    have hperm := (sortMembers_perm (members.map (mapValue canonical))).symm.trans
      (h ▸ sortMembers_perm (others.map (mapValue canonical)))
    exact ⟨others, rfl, hperm, hkeys, hothers⟩
  | array => simp [canonical] at h
  | _ => simp [canonical] at h

variable [PrintedNumber ν]

theorem text_read_text {n : ν} (h : NumberText.finite n)
    : NumberText.text (NumberText.read (NumberText.text n) : ν) = NumberText.text n :=
  (PrintedNumber.text_eq_text (PrintedNumber.finite_read h) h).mpr (PrintedNumber.same_read h)

theorem Same.canonical_eq {left right : Json ν} (h : Same left right) (hleft : WellFormed left)
    (hright : WellFormed right)
    : left.canonical = right.canonical := by
  induction h with
  | null | bool | string => rfl
  | number left right hsame =>
    cases hleft with
    | number _ hleft =>
      cases hright with
      | number _ hright =>
        rw [canonical, canonical, (PrintedNumber.text_eq_text hleft hright).mpr hsame]
  | array lefts rights hlength _ ih =>
    cases hleft with
    | array _ hlefts =>
      cases hright with
      | array _ hrights =>
        rw [canonical_array, canonical_array]
        congr 1
        refine List.ext_getElem (by simpa using hlength) ?_
        intro index hindex hindex'
        rw [List.length_map] at hindex hindex'
        rw [List.getElem_map, List.getElem_map]
        have hmem : (lefts[index], rights[index]) ∈ lefts.zip rights := by
          rw [List.mem_iff_getElem]
          exact ⟨index, by simp [hlength, hindex'], by simp⟩
        exact ih _ hmem (hlefts _ (List.getElem_mem _)) (hrights _ (List.getElem_mem _))
  | object lefts rights hperm _ ih =>
    cases hleft with
    | object _ hleftKeys hlefts =>
      cases hright with
      | object _ hrightKeys hrights =>
        rw [canonical_object, canonical_object]
        congr 1
        apply sortMembers_eq_of_perm (by rwa [map_fst_map_mapValue])
        apply perm_of_keys
        . rwa [map_fst_map_mapValue]
        . rwa [map_fst_map_mapValue]
        . rwa [map_fst_map_mapValue, map_fst_map_mapValue]
        . intro left hleft right hright hkey
          rcases List.mem_map.mp hleft with ⟨left', hleft', rfl⟩
          rcases List.mem_map.mp hright with ⟨right', hright', rfl⟩
          exact ih left' hleft' right' hright' hkey (hlefts left' hleft') (hrights right' hright')

theorem same_of_canonical_eq {left right : Json ν} (hleft : WellFormed left) (hright : WellFormed right)
    (h : left.canonical = right.canonical)
    : Same left right := by
  induction hleft generalizing right with
  | null =>
    cases hright with
    | null => exact .null
    | _ => simp [canonical] at h
  | bool value =>
    cases hright with
    | bool other =>
      simp only [canonical, Json.bool.injEq] at h
      rw [h]
      exact .bool other
    | _ => simp [canonical] at h
  | string units =>
    cases hright with
    | string others =>
      simp only [canonical, Json.string.injEq] at h
      rw [h]
      exact .string others
    | _ => simp [canonical] at h
  | number n hn =>
    cases hright with
    | number m hm =>
      simp only [canonical, Json.number.injEq] at h
      refine .number n m ((PrintedNumber.text_eq_text hn hm).mp ?_)
      rw [← text_read_text hn, h, text_read_text hm]
    | _ => simp [canonical] at h
  | array items _ ih =>
    rcases array_eq_of_canonical hright h with ⟨others, rfl, hmap, hothers⟩
    have hlength : items.length = others.length := by simpa using congrArg List.length hmap
    refine .array items others hlength ?_
    intro pair hpair
    rcases List.mem_iff_getElem.mp hpair with ⟨index, hindex, rfl⟩
    rw [List.length_zip] at hindex
    have hitem := List.getElem_mem (l := items) (n := index) (by omega)
    have hother := List.getElem_mem (l := others) (n := index) (by omega)
    have hvalue := congrArg (·[index]?) hmap
    simp only [List.getElem?_map, List.getElem?_eq_getElem (l := items) (i := index) (by omega),
      List.getElem?_eq_getElem (l := others) (i := index) (by omega), Option.map_some,
      Option.some.injEq] at hvalue
    rw [List.getElem_zip]
    exact ih _ hitem (hothers _ hother) hvalue
  | object members hkeys _ ih =>
    rcases object_eq_of_canonical hright h with ⟨others, rfl, hperm, hotherKeys, hothers⟩
    have hfst := hperm.map Prod.fst
    rw [map_fst_map_mapValue, map_fst_map_mapValue] at hfst
    refine .object members others hfst ?_
    intro left hleft right hright hkey
    have hmem := hperm.subset (List.mem_map_of_mem hleft)
    rcases List.mem_map.mp hmem with ⟨right', hright', heq⟩
    have hsame : right' = right :=
      eq_of_mem_of_fst_eq hotherKeys hright' hright ((congrArg Prod.fst heq).trans hkey)
    rw [hsame] at heq
    exact ih left hleft (hothers right hright) (congrArg Prod.snd heq).symm

omit [NumberText ν] [PrintedNumber ν] in
theorem define_perm {key : List UInt16} (value : Json ν)
    (h : key ∉ members.map Prod.fst)
    : (define members key value).Perm (members ++ [(key, value)]) := by
  have habsent : members.any (·.1 = key) = false := by
    simp only [List.any_eq_false, decide_eq_true_eq]
    intro member hmember heq
    exact h (heq ▸ List.mem_map_of_mem hmember)
  unfold define
  rw [habsent]
  simp only [Bool.false_eq_true, if_false]
  split
  . next index _ =>
    have hsplit := List.takeWhile_append_dropWhile (p := (isIndexBelow index ·.1)) (l := members)
    refine List.perm_middle.trans ?_
    rw [hsplit]
    exact (List.perm_append_singleton _ _).symm
  . exact List.Perm.refl _

omit [NumberText ν] [PrintedNumber ν] in
theorem membersInOrder_perm {done members : List (Member ν)}
    (hkeys : ((done ++ members).map Prod.fst).Nodup)
    : (membersInOrder done members).Perm (done ++ members.map (mapValue inOrder)) := by
  induction members generalizing done with
  | nil =>
    rw [membersInOrder, List.map_nil, List.append_nil]
  | cons member members ih =>
    have hnew : member.1 ∉ done.map Prod.fst := by
      rw [List.map_append, List.map_cons, List.nodup_append] at hkeys
      intro hmem
      exact hkeys.2.2 _ hmem _ List.mem_cons_self rfl
    have hdefine := define_perm member.2.inOrder hnew
    have hkeys' : ((define done member.1 member.2.inOrder ++ members).map Prod.fst).Nodup := by
      refine (((hdefine.append_right members).map Prod.fst).nodup_iff).mpr ?_
      simpa using hkeys
    rw [membersInOrder]
    refine (ih hkeys').trans ?_
    refine (hdefine.append_right _).trans ?_
    rw [List.append_assoc]
    exact List.Perm.refl _

omit [NumberText ν] [PrintedNumber ν] in
theorem membersInOrder_nil_perm (hkeys : (members.map Prod.fst).Nodup)
    : (membersInOrder [] members).Perm (members.map (mapValue inOrder)) := by
  have hperm : (membersInOrder [] members).Perm ([] ++ members.map (mapValue inOrder)) :=
    membersInOrder_perm hkeys
  rwa [List.nil_append] at hperm

omit [PrintedNumber ν] in
theorem WellFormed.object_of_perm {members members' : List (Member ν)} {f : Json ν → Json ν}
    (hperm : members'.Perm (members.map (mapValue f))) (hkeys : (members.map Prod.fst).Nodup)
    (ih : ∀ member ∈ members, WellFormed (f member.2))
    : WellFormed (.object members') := by
  refine .object _ ?_ ?_
  . rw [(hperm.map Prod.fst).nodup_iff, map_fst_map_mapValue]
    exact hkeys
  . intro member hmember
    rcases List.mem_map.mp (hperm.subset hmember) with ⟨member, hmem, rfl⟩
    exact ih member hmem

variable {value : Json ν}

theorem WellFormed.canonical (h : WellFormed value) : WellFormed value.canonical := by
  induction h with
  | null => exact .null
  | bool value => exact .bool value
  | string units => exact .string units
  | number n hn => exact .number _ (PrintedNumber.finite_read hn)
  | array items _ ih =>
    rw [canonical_array]
    refine .array _ ?_
    intro item hitem
    rcases List.mem_map.mp hitem with ⟨item, hmem, rfl⟩
    exact ih item hmem
  | object members hkeys _ ih =>
    rw [canonical_object]
    exact .object_of_perm (sortMembers_perm _) hkeys ih

omit [PrintedNumber ν] in
theorem WellFormed.inOrder (h : WellFormed value) : WellFormed value.inOrder := by
  induction h with
  | null => exact .null
  | bool value => exact .bool value
  | string units => exact .string units
  | number n hn => exact .number n hn
  | array items _ ih =>
    rw [Json.inOrder, itemsInOrder_eq_map]
    refine .array _ ?_
    intro item hitem
    rcases List.mem_map.mp hitem with ⟨item, hmem, rfl⟩
    exact ih item hmem
  | object members hkeys _ ih =>
    rw [Json.inOrder]
    exact .object_of_perm (membersInOrder_nil_perm hkeys) hkeys ih

omit [PrintedNumber ν] in
theorem sortMembers_eq_of_perm_map {members members' : List (Member ν)} {f : Json ν → Json ν}
    (hperm : members'.Perm (members.map (mapValue f))) (hkeys : (members.map Prod.fst).Nodup)
    (ih : ∀ member ∈ members, (f member.2).canonical = member.2.canonical)
    : sortMembers (members'.map (mapValue canonical)) = sortMembers (members.map (mapValue canonical)) := by
  have hvalues : (members.map (mapValue f)).map (mapValue canonical) = members.map (mapValue canonical) := by
    rw [List.map_map]
    exact List.map_congr_left (fun member hmember => Prod.ext rfl (ih member hmember))
  exact sortMembers_eq_of_perm (by rwa [map_fst_map_mapValue]) (hvalues ▸ hperm.map (mapValue canonical))

theorem canonical_canonical (h : WellFormed value)
    : value.canonical.canonical = value.canonical := by
  induction h with
  | null | bool | string => rfl
  | number n hn => rw [canonical, canonical, text_read_text hn]
  | array items _ ih =>
    rw [canonical_array, canonical_array, List.map_map]
    congr 1
    exact List.map_congr_left ih
  | object members hkeys _ ih =>
    rw [canonical_object, canonical_object]
    congr 1
    exact sortMembers_eq_of_perm_map (sortMembers_perm _) hkeys ih

omit [PrintedNumber ν] in
theorem canonical_inOrder (h : WellFormed value)
    : value.inOrder.canonical = value.canonical := by
  induction h with
  | null | bool | string | number => rfl
  | array items _ ih =>
    rw [inOrder, itemsInOrder_eq_map, canonical_array, canonical_array, List.map_map]
    congr 1
    exact List.map_congr_left ih
  | object members hkeys _ ih =>
    rw [inOrder, canonical_object, canonical_object]
    congr 1
    exact sortMembers_eq_of_perm_map (membersInOrder_nil_perm hkeys) hkeys ih

theorem WellFormed.readBack_canonical (h : WellFormed value)
    : ReadBack value.canonical := by
  induction h with
  | null => exact .null
  | bool value => exact .bool value
  | string units => exact .string units
  | number n hn =>
    have hfinite := PrintedNumber.finite_read hn
    refine .number _ hfinite (PrintedNumber.isNumber_text hfinite) ?_
    rw [text_read_text hn]
  | array items _ ih =>
    rw [canonical_array]
    refine .array _ ?_
    intro item hitem
    rcases List.mem_map.mp hitem with ⟨item, hmem, rfl⟩
    exact ih item hmem
  | object members hkeys _ ih =>
    rw [canonical_object]
    refine .object _ ?_
    intro member hmember
    rcases List.mem_map.mp ((sortMembers_perm _).subset hmember) with ⟨member, hmem, rfl⟩
    exact ih member hmem

theorem WellFormed.parse_canonical (h : WellFormed value)
    : ∃ parsed, parse value.canonical.stringify = some parsed ∧ Same parsed value := by
  refine ⟨_, h.readBack_canonical.parse_stringify, ?_⟩
  apply same_of_canonical_eq h.canonical.inOrder h
  rw [canonical_inOrder h.canonical, canonical_canonical h]

theorem stringify_canonical_eq_iff {left right : Json ν} (hleft : WellFormed left)
    (hright : WellFormed right)
    : left.canonical.stringify = right.canonical.stringify ↔ Same left right := by
  constructor
  . intro h
    have hparse := hleft.readBack_canonical.parse_stringify
    rw [h, hright.readBack_canonical.parse_stringify, Option.some.injEq] at hparse
    apply same_of_canonical_eq hleft hright
    rw [← canonical_canonical hleft, ← canonical_inOrder hleft.canonical, ← hparse,
      canonical_inOrder hright.canonical, canonical_canonical hright]
  . intro h
    rw [h.canonical_eq hleft hright]

end Canonical

section Texts

variable [NumberText ν]

theorem flatMap_text_intercalate (parts : List (List (Token ν)))
    : ([Token.comma].intercalate parts).flatMap Token.text
        = [','].intercalate (parts.map (·.flatMap Token.text)) := by
  cases parts with
  | nil => simp [List.intercalate]
  | cons part parts =>
    rw [List.map_cons, intercalate_cons, intercalate_cons, List.flatMap_append, List.flatMap_assoc,
      List.flatMap_map]
    rfl

theorem stringify_array (items : List (Json ν))
    : (Json.array items).stringify = '[' :: [','].intercalate (items.map stringify) ++ [']'] := by
  rw [stringify, tokens, itemTokens_eq_map, List.flatMap_append, List.flatMap_cons,
    flatMap_text_intercalate, List.map_map]
  rfl

theorem stringify_object (members : List (Member ν))
    : (Json.object members).stringify
        = '{' :: [','].intercalate (members.map (fun member => quote member.1 ++ ':' :: member.2.stringify))
          ++ ['}'] := by
  have hmember : ((·.flatMap Token.text) ∘ fun member : Member ν =>
      Token.string member.1 :: .colon :: member.2.tokens)
      = fun member => quote member.1 ++ ':' :: member.2.stringify := by
    funext member
    rfl
  rw [stringify, tokens, memberTokens_eq_map, List.flatMap_append, List.flatMap_cons,
    flatMap_text_intercalate, List.map_map, hmember]
  rfl

end Texts

end Json
end ProofStack
