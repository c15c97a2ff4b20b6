import Mathlib.Algebra.Order.BigOperators.Ring.Finset
import Mathlib.Data.Finset.Card
import Mathlib.Data.List.GetD
import Mathlib.Data.Rat.Cast.Order
import Mathlib.Data.Set.Card
import Mathlib.Tactic.Linarith
import ProofStack.Assignment.HungarianLemmas
import ProofStack.Release.MatchReviewerGroups

/-!
This module contains the specification of the reviewer group assignment in terms of lists of pairs of a
principal and a group.
-/

namespace ProofStack
namespace Release

def Belongs (reviewers : List Reviewer) (principalId groupId : String) : Prop :=
  ∃ r ∈ reviewers, r.principalId = principalId ∧ groupId ∈ r.groupIds

def HumanBelongs (reviewers : List Reviewer) (principalId groupId : String) : Prop :=
  ∃ r ∈ reviewers, r.principalId = principalId ∧ groupId ∈ r.groupIds ∧ r.human = true

structure IsAssignment (groupIds : List String) (reviewers : List Reviewer)
    (pairs : List (String × String)) : Prop where
  principals : (pairs.map Prod.fst).Nodup
  groups : (pairs.map Prod.snd).Nodup
  member : ∀ p ∈ pairs, p.2 ∈ groupIds ∧ Belongs reviewers p.1 p.2

structure MeetsQuorum (reviewers : List Reviewer) (humanGroupIds : List String) (quorum : Rat)
    (pairs : List (String × String)) : Prop where
  quorum : quorum ≤ pairs.length
  human : humanGroupIds ≠ [] → ∃ p ∈ pairs, p.2 ∈ humanGroupIds ∧ HumanBelongs reviewers p.1 p.2

theorem IsAssignment.length_le {groupIds : List String} {reviewers : List Reviewer}
    {pairs : List (String × String)} (h : IsAssignment groupIds reviewers pairs)
    : pairs.length ≤ reviewers.length := by
  have hlength : reviewers.length = (reviewers.map (·.principalId)).length := by simp
  rw [hlength, ← List.length_map Prod.fst]
  apply List.Subperm.length_le
  apply h.principals.subperm
  intro p hp
  rw [List.mem_map] at hp ⊢
  rcases hp with ⟨pair, hpair, rfl⟩
  rcases (h.member pair hpair).2 with ⟨r, hr, heq, -⟩
  exact ⟨r, hr, heq⟩

def MatchedReviewer.pair (m : MatchedReviewer) : String × String := (m.principalId, m.groupId)

namespace ReviewerGroupGraph

structure WellFormed (graph : ReviewerGroupGraph) : Prop where
  groups : graph.groupIds.Nodup
  principals : (graph.reviewers.map (·.principalId)).Nodup
  quorum_pos : 1 ≤ graph.quorum
  quorum_le : graph.quorum ≤ graph.rows

variable {graph : ReviewerGroupGraph}

theorem rows_le_columns (graph : ReviewerGroupGraph) : graph.rows ≤ graph.columns := by
  unfold columns
  omega

theorem group_mem (graph : ReviewerGroupGraph) {row : Nat} (h1 : 1 ≤ row) (h2 : row ≤ graph.rows)
    : graph.group row ∈ graph.groupIds := by
  unfold rows at h2
  unfold group
  rw [List.getD_eq_getElem _ _ (by omega)]
  apply List.getElem_mem

theorem WellFormed.group_inj (hwf : graph.WellFormed) {i j : Nat} (hi1 : 1 ≤ i)
    (hi2 : i ≤ graph.rows) (hj1 : 1 ≤ j) (hj2 : j ≤ graph.rows)
    (heq : graph.group i = graph.group j)
    : i = j := by
  unfold rows at hi2 hj2
  unfold group at heq
  rw [List.getD_eq_getElem _ _ (by omega), List.getD_eq_getElem _ _ (by omega)] at heq
  have := (List.Nodup.getElem_inj_iff hwf.groups).mp heq
  omega

theorem exists_row_of_mem {g : String} (h : g ∈ graph.groupIds)
    : ∃ row, 1 ≤ row ∧ row ≤ graph.rows ∧ graph.group row = g := by
  rcases List.mem_iff_getElem.mp h with ⟨i, hi, heq⟩
  refine ⟨i + 1, by omega, ?_, ?_⟩
  . unfold rows
    omega
  . unfold group
    rw [List.getD_eq_getElem _ _ (by omega)]
    simpa using heq

theorem WellFormed.principalId_inj (hwf : graph.WellFormed) {i j : Nat} {r t : Reviewer}
    (hi : graph.reviewers[i]? = some r) (hj : graph.reviewers[j]? = some t)
    (heq : r.principalId = t.principalId)
    : i = j := by
  apply (List.getElem?_inj _ hwf.principals).mp
  . simp [hi, hj, heq]
  . rcases List.getElem?_eq_some_iff.mp hi with ⟨hi, -⟩
    simpa using hi

theorem cost_ge (row column : Nat) : -1 ≤ graph.cost row column := by
  unfold cost
  split
  . omega
  . split
    . omega
    . split <;> omega

variable {row column : Nat}

theorem cost_of_reviewers_lt (h : graph.reviewers.length < column)
    : graph.cost row column = 0 := by
  unfold cost
  rw [List.getElem?_eq_none (by omega)]

theorem cost_of_mem {r : Reviewer} (hr : graph.reviewers[column - 1]? = some r)
    (hmem : graph.group row ∈ r.groupIds)
    : graph.cost row column = if graph.humanGroup r (graph.group row) then -1 else 0 := by
  unfold cost
  rw [hr]
  simp [hmem]

theorem cost_nonpos_iff {r : Reviewer}
    (hr : graph.reviewers[column - 1]? = some r)
    : graph.cost row column ≤ 0 ↔ graph.group row ∈ r.groupIds := by
  unfold cost
  rw [hr]
  by_cases hmem : graph.group row ∈ r.groupIds
  . simp only [List.contains_eq_mem, hmem, decide_true, Bool.not_true, Bool.false_eq_true, if_false,
      iff_true]
    split <;> omega
  . simp [hmem]

theorem cost_penalty (h : 0 < graph.cost row column)
    : graph.cost row column = graph.rows + 1 := by
  unfold cost at h ⊢
  split
  . next heq => simp [heq] at h
  . next r heq =>
    rw [heq] at h
    dsimp at h
    split
    . rfl
    . next hmem =>
      simp only [hmem, Bool.false_eq_true, if_false] at h
      split at h <;> omega

theorem cost_neg (h : graph.cost row column < 0)
    : ∃ r, graph.reviewers[column - 1]? = some r
        ∧ graph.group row ∈ r.groupIds
        ∧ graph.humanGroup r (graph.group row) = true := by
  unfold cost at h
  split at h
  . omega
  . next r heq =>
    refine ⟨r, heq, ?_⟩
    split at h
    . omega
    . next hmem =>
      split at h
      . next hhuman => exact ⟨by simpa using hmem, hhuman⟩
      . omega

section Matched

variable {owner : Nat → Nat}

theorem matchedAt_eq_some_iff {column : Nat} {m : MatchedReviewer}
    : graph.matchedAt owner column = some m
        ↔ ∃ r, graph.reviewers[column - 1]? = some r
            ∧ owner column ≠ 0
            ∧ graph.group (owner column) ∈ r.groupIds
            ∧ m = ⟨r.principalId, graph.group (owner column),
                graph.humanGroup r (graph.group (owner column))⟩ := by
  unfold matchedAt
  dsimp
  cases graph.reviewers[column - 1]? with
  | none => simp
  | some r =>
    simp only [Option.some.injEq, exists_eq_left', List.contains_eq_mem]
    by_cases h0 : owner column = 0
    . simp [h0]
    . by_cases hmem : graph.group (owner column) ∈ r.groupIds
      . simp [h0, hmem, eq_comm]
      . simp [h0, hmem]

theorem matched_perm (graph : ReviewerGroupGraph) (owner : Nat → Nat)
    : List.Perm (graph.matched owner)
        ((List.range' 1 graph.reviewers.length).filterMap (graph.matchedAt owner)) := by
  unfold matched
  apply List.perm_insertionSort

theorem mem_matched {m : MatchedReviewer}
    : m ∈ graph.matched owner
        ↔ ∃ column, 1 ≤ column ∧ column ≤ graph.reviewers.length
            ∧ graph.matchedAt owner column = some m := by
  rw [(graph.matched_perm owner).mem_iff, List.mem_filterMap]
  apply exists_congr
  intro column
  rw [List.mem_range'_1, Nat.lt_one_add_iff, and_assoc]

theorem matched_map_nodup (f : MatchedReviewer → String)
    (hf : ∀ c d m n, 1 ≤ c → c ≤ graph.reviewers.length → 1 ≤ d → d ≤ graph.reviewers.length →
      graph.matchedAt owner c = some m → graph.matchedAt owner d = some n → f m = f n → c = d)
    : ((graph.matched owner).map f).Nodup := by
  rw [((graph.matched_perm owner).map f).nodup_iff]
  unfold List.Nodup
  rw [List.pairwise_map, List.pairwise_filterMap]
  apply List.Pairwise.imp_of_mem _ List.nodup_range'
  intro c d hc hd hne m hm n hn heq
  rw [List.mem_range'_1] at hc hd
  apply hne
  exact hf c d m n (by omega) (by omega) (by omega) (by omega) hm hn heq

variable (hwf : graph.WellFormed)
variable (hcov : Assignment.Hungarian.Covers graph.columns graph.rows owner 0)
include hwf hcov

theorem WellFormed.matched_isAssignment
    : IsAssignment graph.groupIds graph.reviewers ((graph.matched owner).map (·.pair)) := by
  have hle : graph.reviewers.length ≤ graph.columns := by
    unfold ReviewerGroupGraph.columns
    omega
  constructor
  . rw [List.map_map]
    apply matched_map_nodup
    intro c d m n hc1 hc2 hd1 hd2 hm hn heq
    rw [matchedAt_eq_some_iff] at hm hn
    rcases hm with ⟨r, hr, -, -, rfl⟩
    rcases hn with ⟨t, ht, -, -, rfl⟩
    have := hwf.principalId_inj hr ht heq
    omega
  . rw [List.map_map]
    apply matched_map_nodup
    intro c d m n hc1 hc2 hd1 hd2 hm hn heq
    rw [matchedAt_eq_some_iff] at hm hn
    rcases hm with ⟨r, hr, hc0, -, rfl⟩
    rcases hn with ⟨t, ht, hd0, -, rfl⟩
    have hc := hcov.1 c hc1 (by omega) (by omega)
    have hd := hcov.1 d hd1 (by omega) (by omega)
    have hrow := hwf.group_inj (by omega) hc (by omega) hd heq
    exact hcov.2.2 c d hc1 (by omega) (by omega) hd1 (by omega) (by omega) hc0 hrow
  . intro p hp
    rw [List.mem_map] at hp
    rcases hp with ⟨m, hm, rfl⟩
    rw [mem_matched] at hm
    rcases hm with ⟨c, hc1, hc2, hm⟩
    rw [matchedAt_eq_some_iff] at hm
    rcases hm with ⟨r, hr, hc0, hmem, rfl⟩
    have hc := hcov.1 c hc1 (by omega) (by omega)
    constructor
    . exact graph.group_mem (by omega) hc
    . exact ⟨r, List.mem_of_getElem? hr, rfl, hmem⟩

end Matched

section Seats

open Finset

variable {pairs : List (String × String)}

def seated (graph : ReviewerGroupGraph) (pairs : List (String × String)) : Finset Nat :=
  (Icc 1 graph.rows).filter (fun row => graph.group row ∈ pairs.map Prod.snd)

theorem length_le_seated_card (h : IsAssignment graph.groupIds graph.reviewers pairs)
    : pairs.length ≤ (graph.seated pairs).card := by
  rw [← List.length_map Prod.snd, ← List.toFinset_card_of_nodup h.groups]
  apply le_trans (card_le_card _) (card_image_le (s := graph.seated pairs) (f := graph.group))
  intro g hg
  rw [List.mem_toFinset] at hg
  rw [mem_image]
  have hmem : g ∈ graph.groupIds := by
    rw [List.mem_map] at hg
    rcases hg with ⟨p, hp, rfl⟩
    exact (h.member p hp).1
  rcases exists_row_of_mem hmem with ⟨row, h1, h2, rfl⟩
  refine ⟨row, ?_, rfl⟩
  unfold seated
  rw [mem_filter, mem_Icc]
  exact ⟨⟨h1, h2⟩, hg⟩

structure Seat (graph : ReviewerGroupGraph) (pairs : List (String × String)) (row column : Nat)
    (r : Reviewer) : Prop where
  pair : (r.principalId, graph.group row) ∈ pairs
  pos : 1 ≤ column
  reviewer : graph.reviewers[column - 1]? = some r
  member : graph.group row ∈ r.groupIds

theorem Seat.le {r : Reviewer} (h : graph.Seat pairs row column r)
    : column ≤ graph.reviewers.length := by
  rcases List.getElem?_eq_some_iff.mp h.reviewer with ⟨hlt, -⟩
  omega

theorem exists_seat (h : IsAssignment graph.groupIds graph.reviewers pairs) {row : Nat}
    (hrow : row ∈ graph.seated pairs)
    : ∃ column r, graph.Seat pairs row column r := by
  unfold seated at hrow
  rw [mem_filter, List.mem_map] at hrow
  rcases hrow with ⟨-, p, hp, heq⟩
  rcases (h.member p hp).2 with ⟨r, hr, hprincipal, hmem⟩
  rcases List.mem_iff_getElem?.mp hr with ⟨i, hi⟩
  refine ⟨i + 1, r, ?_, by omega, hi, heq ▸ hmem⟩
  rw [hprincipal, ← heq]
  exact hp

theorem Seat.row_inj {i j column : Nat} {r t : Reviewer} (hwf : graph.WellFormed)
    (h : IsAssignment graph.groupIds graph.reviewers pairs) (hi : graph.Seat pairs i column r)
    (hj : graph.Seat pairs j column t) (hirow : i ∈ Icc 1 graph.rows)
    (hjrow : j ∈ Icc 1 graph.rows)
    : i = j := by
  rw [mem_Icc] at hirow hjrow
  have hr : r = t := by
    have := hi.reviewer
    rw [hj.reviewer] at this
    exact (Option.some.inj this).symm
  subst hr
  have hpair := List.inj_on_of_nodup_map h.principals hi.pair hj.pair rfl
  apply hwf.group_inj hirow.1 hirow.2 hjrow.1 hjrow.2
  exact (Prod.mk.inj hpair).2

theorem exists_columns_of_isAssignment (hwf : graph.WellFormed)
    (h : IsAssignment graph.groupIds graph.reviewers pairs) (hq : graph.quorum ≤ pairs.length)
    : ∃ σ : Nat → Nat,
        Assignment.Assigns (Icc 1 graph.rows) (Icc 1 graph.columns) σ
          ∧ (∀ row ∈ graph.seated pairs, ∃ r, graph.Seat pairs row (σ row) r)
          ∧ (∀ row ∈ Icc 1 graph.rows \ graph.seated pairs, graph.reviewers.length < σ row) := by
  have hseat : ∀ row ∈ graph.seated pairs, ∃ column r, graph.Seat pairs row column r := by
    intro row hrow
    exact exists_seat h hrow
  choose! seat hseat using hseat
  have hsub : graph.seated pairs ⊆ Icc 1 graph.rows := filter_subset _ _
  have hcard : ((Icc 1 graph.rows \ graph.seated pairs : Finset Nat) : Set Nat).encard
      ≤ ((Icc (graph.reviewers.length + 1) graph.columns : Finset Nat) : Set Nat).encard := by
    have := length_le_seated_card h
    have := h.length_le
    rw [Set.encard_coe_eq_coe_finsetCard, Set.encard_coe_eq_coe_finsetCard, Nat.cast_le]
    rw [card_sdiff_of_subset hsub, Nat.card_Icc, Nat.card_Icc]
    unfold columns
    omega
  obtain ⟨spare, hmaps, hinj⟩ := (finite_toSet _).exists_injOn_of_encard_le hcard
  have hspare : ∀ row ∈ Icc 1 graph.rows, row ∉ graph.seated pairs →
      graph.reviewers.length < spare row ∧ spare row ≤ graph.columns := by
    intro row hrow hmem
    have := hmaps (mem_coe.mpr (mem_sdiff.mpr ⟨hrow, hmem⟩))
    rw [Set.mem_preimage, mem_coe, mem_Icc] at this
    omega
  refine ⟨fun row => if row ∈ graph.seated pairs then seat row else spare row, ⟨?_, ?_⟩, ?_, ?_⟩
  . intro row hrow
    rw [mem_Icc]
    split
    . next hmem =>
      rcases hseat row hmem with ⟨r, hr⟩
      have := hr.pos
      have := hr.le
      unfold columns
      omega
    . next hmem =>
      have := hspare row hrow hmem
      omega
  . intro i hi j hj heq
    dsimp only at heq
    split at heq
    . next hisit =>
      rcases hseat i hisit with ⟨r, hr⟩
      have := hr.le
      split at heq
      . next hjsit =>
        rcases hseat j hjsit with ⟨t, ht⟩
        rw [← heq] at ht
        exact Seat.row_inj hwf h hr ht hi hj
      . next hjsit =>
        have := hspare j hj hjsit
        omega
    . next hisit =>
      have := hspare i hi hisit
      split at heq
      . next hjsit =>
        rcases hseat j hjsit with ⟨t, ht⟩
        have := ht.le
        omega
      . next hjsit =>
        apply hinj _ _ heq
        . exact mem_coe.mpr (mem_sdiff.mpr ⟨hi, hisit⟩)
        . exact mem_coe.mpr (mem_sdiff.mpr ⟨hj, hjsit⟩)
  . intro row hrow
    simp only [if_pos hrow]
    exact hseat row hrow
  . intro row hrow
    rw [mem_sdiff] at hrow
    simp only [if_neg hrow.2]
    exact (hspare row hrow.1 hrow.2).1

theorem cost_nonpos_of_seat {σ : Nat → Nat}
    (hseat : ∀ row ∈ graph.seated pairs, ∃ r, graph.Seat pairs row (σ row) r)
    (hspare : ∀ row ∈ Icc 1 graph.rows \ graph.seated pairs, graph.reviewers.length < σ row)
    {row : Nat} (hrow : row ∈ Icc 1 graph.rows)
    : graph.cost row (σ row) ≤ 0 := by
  by_cases hmem : row ∈ graph.seated pairs
  . rcases hseat row hmem with ⟨r, hr⟩
    rw [cost_nonpos_iff hr.reviewer]
    exact hr.member
  . rw [cost_of_reviewers_lt (hspare row (mem_sdiff.mpr ⟨hrow, hmem⟩))]

theorem Seat.cost_of_human {r : Reviewer} (hwf : graph.WellFormed)
    (hr : graph.Seat pairs row column r) (hgroup : graph.group row ∈ graph.humanGroupIds)
    (hhuman : HumanBelongs graph.reviewers r.principalId (graph.group row))
    : graph.cost row column = -1 := by
  rcases hhuman with ⟨t, ht, hprincipal, -, hhuman⟩
  have heq : t = r :=
    List.inj_on_of_nodup_map hwf.principals ht (List.mem_of_getElem? hr.reviewer) hprincipal
  subst heq
  rw [cost_of_mem hr.reviewer hr.member]
  simp [humanGroup, hhuman, hgroup]

theorem exists_cost_of_meetsQuorum (hwf : graph.WellFormed)
    (h : IsAssignment graph.groupIds graph.reviewers pairs)
    (hq : MeetsQuorum graph.reviewers graph.humanGroupIds graph.quorum pairs)
    : ∃ σ : Nat → Nat,
        Assignment.Assigns (Icc 1 graph.rows) (Icc 1 graph.columns) σ
          ∧ ∑ row ∈ Icc 1 graph.rows, graph.cost row (σ row) ≤ 0
          ∧ (graph.humanGroupIds ≠ [] →
              ∑ row ∈ Icc 1 graph.rows, graph.cost row (σ row) < 0) := by
  have hquorum : graph.quorum ≤ pairs.length := by
    have := hq.quorum
    exact_mod_cast this
  obtain ⟨σ, hσ, hseat, hspare⟩ := exists_columns_of_isAssignment hwf h hquorum
  have hnonpos : ∀ row ∈ Icc 1 graph.rows, graph.cost row (σ row) ≤ 0 := by
    intro row hrow
    exact cost_nonpos_of_seat hseat hspare hrow
  refine ⟨σ, hσ, sum_nonpos hnonpos, ?_⟩
  intro hne
  rcases hq.human hne with ⟨p, hp, hgroup, hhuman⟩
  rcases exists_row_of_mem (h.member p hp).1 with ⟨row, hrow1, hrow2, hrow⟩
  have hmem : row ∈ graph.seated pairs := by
    unfold seated
    rw [mem_filter, mem_Icc, List.mem_map]
    exact ⟨⟨hrow1, hrow2⟩, p, hp, hrow.symm⟩
  rcases hseat row hmem with ⟨r, hr⟩
  have hpair : (r.principalId, graph.group row) = p :=
    List.inj_on_of_nodup_map h.groups hr.pair hp hrow
  have hcost : graph.cost row (σ row) = -1 := by
    apply hr.cost_of_human hwf
    . rw [hrow]
      exact hgroup
    . rw [hrow, show r.principalId = p.1 by rw [← hpair]]
      exact hhuman
  apply sum_neg' hnonpos
  exact ⟨row, mem_Icc.mpr ⟨hrow1, hrow2⟩, by omega⟩

theorem cost_nonpos_of_sum {τ : Nat → Nat}
    (hsum : ∑ row ∈ Icc 1 graph.rows, graph.cost row (τ row) ≤ 0) {row : Nat}
    (hrow : row ∈ Icc 1 graph.rows)
    : graph.cost row (τ row) ≤ 0 := by
  by_contra hpos
  have hpenalty := cost_penalty (not_le.mp hpos)
  have hrest : -((graph.rows - 1 : Nat) : Int)
      ≤ ∑ i ∈ (Icc 1 graph.rows).erase row, graph.cost i (τ i) := by
    have := card_nsmul_le_sum ((Icc 1 graph.rows).erase row) (fun i => graph.cost i (τ i)) (-1)
      (fun i _ => cost_ge i (τ i))
    rw [card_erase_of_mem hrow, Nat.card_Icc] at this
    simpa using this
  rw [← add_sum_erase _ _ hrow, hpenalty] at hsum
  omega

variable {owner τ : Nat → Nat}

theorem mem_matched_of_cost_nonpos (hown : ∀ row ∈ Icc 1 graph.rows, owner (τ row) = row)
    (hτ : Assignment.Assigns (Icc 1 graph.rows) (Icc 1 graph.columns) τ) {row : Nat}
    (hrow : row ∈ Icc 1 graph.rows) (hcost : graph.cost row (τ row) ≤ 0) {r : Reviewer}
    (hr : graph.reviewers[τ row - 1]? = some r)
    : ⟨r.principalId, graph.group row, graph.humanGroup r (graph.group row)⟩
        ∈ graph.matched owner := by
  have hcol := hτ.mapsTo row hrow
  rw [mem_Icc] at hcol
  rcases List.getElem?_eq_some_iff.mp hr with ⟨hlt, -⟩
  rw [mem_matched]
  refine ⟨τ row, hcol.1, by omega, ?_⟩
  rw [matchedAt_eq_some_iff, hown row hrow]
  rw [cost_nonpos_iff hr] at hcost
  rw [mem_Icc] at hrow
  exact ⟨r, hr, by omega, hcost, rfl⟩

theorem quorum_le_matched_length (hwf : graph.WellFormed)
    (hquorum : graph.quorum ≤ graph.reviewers.length)
    (hown : ∀ row ∈ Icc 1 graph.rows, owner (τ row) = row)
    (hτ : Assignment.Assigns (Icc 1 graph.rows) (Icc 1 graph.columns) τ)
    (hcost : ∀ row ∈ Icc 1 graph.rows, graph.cost row (τ row) ≤ 0)
    : graph.quorum ≤ (graph.matched owner).length := by
  let spare := (Icc 1 graph.rows).filter (fun row => graph.reviewers.length < τ row)
  let real := (Icc 1 graph.rows).filter (fun row => ¬graph.reviewers.length < τ row)
  have hsplit : spare.card + real.card = graph.rows := by
    rw [card_filter_add_card_filter_not, Nat.card_Icc]
    omega
  have hspare : spare.card ≤ graph.rows - graph.quorum := by
    have hmaps : Set.MapsTo τ spare (Icc (graph.reviewers.length + 1) graph.columns) := by
      intro row hrow
      rw [mem_coe, mem_filter] at hrow
      have := hτ.mapsTo row hrow.1
      rw [mem_Icc] at this
      rw [mem_coe, mem_Icc]
      omega
    have hinj : Set.InjOn τ spare := hτ.injOn.mono (coe_subset.mpr (filter_subset _ _))
    have := card_le_card_of_injOn τ hmaps hinj
    rw [Nat.card_Icc] at this
    unfold columns at this
    omega
  have hreal : real.card ≤ (graph.matched owner).length := by
    have hinj : Set.InjOn graph.group real := by
      intro i hi j hj heq
      rw [mem_coe, mem_filter, mem_Icc] at hi hj
      exact hwf.group_inj hi.1.1 hi.1.2 hj.1.1 hj.1.2 heq
    rw [← card_image_of_injOn hinj, ← List.length_map (·.groupId)]
    apply le_trans (card_le_card _) (List.toFinset_card_le _)
    intro g hg
    rw [mem_image] at hg
    rcases hg with ⟨row, hrow, rfl⟩
    rw [mem_filter] at hrow
    have hcol := hτ.mapsTo row hrow.1
    rw [mem_Icc] at hcol
    rw [List.mem_toFinset, List.mem_map]
    have hr := List.getElem?_eq_getElem (l := graph.reviewers) (i := τ row - 1) (by omega)
    exact ⟨_, mem_matched_of_cost_nonpos hown hτ hrow.1 (hcost row hrow.1) hr, rfl⟩
  have := hwf.quorum_le
  omega

theorem exists_human_matched (hown : ∀ row ∈ Icc 1 graph.rows, owner (τ row) = row)
    (hτ : Assignment.Assigns (Icc 1 graph.rows) (Icc 1 graph.columns) τ)
    (hsum : ∑ row ∈ Icc 1 graph.rows, graph.cost row (τ row) < 0)
    : (graph.matched owner).any (·.humanGroup) := by
  rcases exists_lt_of_sum_lt (f := fun row => graph.cost row (τ row)) (g := fun _ => 0)
    (by simpa using hsum) with ⟨row, hrow, hneg⟩
  rcases cost_neg hneg with ⟨r, hr, -, hhuman⟩
  rw [List.any_eq_true]
  exact ⟨_, mem_matched_of_cost_nonpos hown hτ hrow hneg.le hr, hhuman⟩

end Seats

section Status

variable {s : Assignment.Hungarian.State}

theorem status_eq_matched_of_meetsQuorum {pairs : List (String × String)} (hwf : graph.WellFormed)
    (hinv : s.Inv graph.cost graph.columns graph.rows)
    (h : IsAssignment graph.groupIds graph.reviewers pairs)
    (hq : MeetsQuorum graph.reviewers graph.humanGroupIds graph.quorum pairs)
    : graph.status (graph.matched s.owner) = .matched := by
  obtain ⟨τ, hτ, hown⟩ := hinv.exists_assigns
  obtain ⟨σ, hσ, hnonpos, hneg⟩ := exists_cost_of_meetsQuorum hwf h hq
  have hopt := hinv.optimal hτ hown hσ
  have hquorum : graph.quorum ≤ graph.reviewers.length := by
    have h1 := hq.quorum
    have h2 := h.length_le
    norm_cast at h1
    omega
  unfold status
  rw [if_pos]
  constructor
  . apply quorum_le_matched_length hwf hquorum hown hτ
    intro row hrow
    exact cost_nonpos_of_sum (by omega) hrow
  . rw [List.length_eq_zero_iff]
    by_cases hne : graph.humanGroupIds = []
    . exact .inl hne
    . right
      apply exists_human_matched hown hτ
      have := hneg hne
      omega

theorem meetsQuorum_of_status {owner : Nat → Nat}
    (h : graph.status (graph.matched owner) = .matched)
    : MeetsQuorum graph.reviewers graph.humanGroupIds graph.quorum
        ((graph.matched owner).map (·.pair)) := by
  unfold status at h
  split at h
  . next hstatus =>
    constructor
    . rw [List.length_map]
      exact_mod_cast hstatus.1
    . intro hne
      rcases hstatus.2 with hempty | hany
      . rw [List.length_eq_zero_iff] at hempty
        contradiction
      . rw [List.any_eq_true] at hany
        rcases hany with ⟨m, hm, hhuman⟩
        refine ⟨m.pair, List.mem_map_of_mem hm, ?_⟩
        rw [mem_matched] at hm
        rcases hm with ⟨column, -, -, hm⟩
        rw [matchedAt_eq_some_iff] at hm
        rcases hm with ⟨r, hr, -, hmem, rfl⟩
        simp only [humanGroup, List.contains_eq_mem, Bool.and_eq_true, decide_eq_true_eq] at hhuman
        exact ⟨hhuman.2, r, List.mem_of_getElem? hr, rfl, hmem, hhuman.1⟩
  . contradiction

end Status

end ReviewerGroupGraph

section Parse

theorem ids_eq_ok {value out : List String} {minimum maximum : Nat}
    (h : ids value minimum maximum = .ok out)
    : out.Perm value ∧ value.Nodup := by
  unfold ids at h
  split at h
  . contradiction
  . next hcond =>
    cases h
    constructor
    . apply List.perm_insertionSort
    . by_contra hdup
      exact hcond (.inr (.inr (.inr hdup)))

structure SameReviewer (raw out : Reviewer) : Prop where
  principalId : out.principalId = raw.principalId
  human : out.human = raw.human
  groupIds : ∀ g, g ∈ out.groupIds ↔ g ∈ raw.groupIds

theorem parseReviewer_eq_ok {raw out : Reviewer} (h : parseReviewer raw = .ok out)
    : SameReviewer raw out := by
  unfold parseReviewer at h
  split at h
  . contradiction
  . simp only [bind, Except.bind] at h
    split at h
    . contradiction
    . next groupIds hids =>
      cases h
      constructor
      . rfl
      . rfl
      . intro g
        exact (ids_eq_ok hids).1.mem_iff

theorem mapM_parseReviewer_eq_ok {raws outs : List Reviewer}
    (h : raws.mapM parseReviewer = .ok outs)
    : List.Forall₂ SameReviewer raws outs := by
  induction raws generalizing outs with
  | nil =>
    cases h
    exact .nil
  | cons raw raws ih =>
    rw [List.mapM_cons] at h
    simp only [bind, Except.bind] at h
    split at h
    . contradiction
    . next out hout =>
      split at h
      . contradiction
      . next outs houts =>
        cases h
        exact .cons (parseReviewer_eq_ok hout) (ih houts)

theorem SameReviewer.exists_iff {raws outs : List Reviewer} (h : List.Forall₂ SameReviewer raws outs)
    {P : Reviewer → Prop} (hP : ∀ raw out, SameReviewer raw out → (P out ↔ P raw))
    : (∃ r ∈ outs, P r) ↔ ∃ r ∈ raws, P r := by
  induction h with
  | nil => simp
  | cons hsame _ ih => simp [hP _ _ hsame, ih]

structure Parsed (input : ReviewerGroupAssignmentInput) (graph : ReviewerGroupGraph) : Prop where
  wf : graph.WellFormed
  groupIds : graph.groupIds.Perm input.groupIds
  humanGroupIds : graph.humanGroupIds.Perm input.humanGroupIds
  quorum : (graph.quorum : Rat) = input.quorum
  belongs : ∀ p g, Belongs graph.reviewers p g ↔ Belongs input.reviewers p g
  humanBelongs : ∀ p g, HumanBelongs graph.reviewers p g ↔ HumanBelongs input.reviewers p g

theorem natCast_num_toNat {q : Rat} (hden : q.den = 1) (hpos : 0 ≤ q)
    : ((q.num.toNat : Nat) : Rat) = q := by
  have hnum : 0 ≤ q.num := Rat.num_nonneg.mpr hpos
  rw [← Int.cast_natCast, Int.toNat_of_nonneg hnum]
  exact Rat.coe_int_num_of_den_eq_one hden

variable {input : ReviewerGroupAssignmentInput}

theorem parse_eq_ok {graph : ReviewerGroupGraph}
    (h : parse input = .ok graph)
    : Parsed input graph := by
  unfold parse at h
  simp only [bind, Except.bind] at h
  split at h
  . contradiction
  . next groupIds hgroups =>
    split at h
    . contradiction
    . next humanGroupIds hhumans =>
      split at h
      . contradiction
      . next hcond =>
        split at h
        . contradiction
        . next reviewers hreviewers =>
          split at h
          . contradiction
          . next hnodup =>
            cases h
            push Not at hcond hnodup
            have hsame := mapM_parseReviewer_eq_ok hreviewers
            have hperm := List.perm_insertionSort
              (fun left right : Reviewer => left.principalId ≤ right.principalId) reviewers
            have hquorum : ((input.quorum.num.toNat : Nat) : Rat) = input.quorum := by
              apply natCast_num_toNat hcond.2.1
              linarith [hcond.2.2.1]
            constructor
            . constructor
              . exact (ids_eq_ok hgroups).1.nodup_iff.mpr (ids_eq_ok hgroups).2
              . exact hnodup
              . have := hcond.2.2.1
                rw [← hquorum] at this
                exact_mod_cast this
              . have := hcond.2.2.2.1
                rw [← hquorum] at this
                exact_mod_cast this
            . exact (ids_eq_ok hgroups).1
            . exact (ids_eq_ok hhumans).1
            . exact hquorum
            . intro p g
              unfold Belongs
              rw [← SameReviewer.exists_iff hsame]
              . simp only [hperm.mem_iff]
              . intro raw out hsame
                rw [hsame.principalId, hsame.groupIds]
            . intro p g
              unfold HumanBelongs
              rw [← SameReviewer.exists_iff hsame]
              . simp only [hperm.mem_iff]
              . intro raw out hsame
                rw [hsame.principalId, hsame.groupIds, hsame.human]

theorem IsAssignment.congr {groupIds groupIds' : List String} {reviewers reviewers' : List Reviewer}
    (hgroups : groupIds.Perm groupIds')
    (hbelongs : ∀ p g, Belongs reviewers p g ↔ Belongs reviewers' p g)
    (pairs : List (String × String))
    : IsAssignment groupIds reviewers pairs ↔ IsAssignment groupIds' reviewers' pairs := by
  constructor
  . intro h
    refine ⟨h.principals, h.groups, ?_⟩
    intro p hp
    rw [← hgroups.mem_iff, ← hbelongs]
    exact h.member p hp
  . intro h
    refine ⟨h.principals, h.groups, ?_⟩
    intro p hp
    rw [hgroups.mem_iff, hbelongs]
    exact h.member p hp

theorem MeetsQuorum.congr {humanGroupIds humanGroupIds' : List String}
    {reviewers reviewers' : List Reviewer} (hgroups : humanGroupIds.Perm humanGroupIds')
    (hbelongs : ∀ p g, HumanBelongs reviewers p g ↔ HumanBelongs reviewers' p g) (quorum : Rat)
    (pairs : List (String × String))
    : MeetsQuorum reviewers humanGroupIds quorum pairs
        ↔ MeetsQuorum reviewers' humanGroupIds' quorum pairs := by
  have hnil : humanGroupIds = [] ↔ humanGroupIds' = [] := by
    rw [← List.length_eq_zero_iff, ← List.length_eq_zero_iff, hgroups.length_eq]
  constructor
  . intro h
    refine ⟨h.quorum, ?_⟩
    simpa only [ne_eq, hnil, hgroups.mem_iff, hbelongs] using h.human
  . intro h
    refine ⟨h.quorum, ?_⟩
    simpa only [ne_eq, hnil, hgroups.mem_iff, hbelongs] using h.human

theorem Parsed.isAssignment_iff {graph : ReviewerGroupGraph}
    (h : Parsed input graph) (pairs : List (String × String))
    : IsAssignment graph.groupIds graph.reviewers pairs
        ↔ IsAssignment input.groupIds input.reviewers pairs :=
  IsAssignment.congr h.groupIds h.belongs pairs

theorem Parsed.meetsQuorum_iff {graph : ReviewerGroupGraph}
    (h : Parsed input graph) (pairs : List (String × String))
    : MeetsQuorum graph.reviewers graph.humanGroupIds graph.quorum pairs
        ↔ MeetsQuorum input.reviewers input.humanGroupIds input.quorum pairs := by
  rw [h.quorum]
  exact MeetsQuorum.congr h.humanGroupIds h.humanBelongs input.quorum pairs

end Parse

theorem matchDistinctReviewerGroups_correct (fuel : Nat) (input : ReviewerGroupAssignmentInput)
    (graph : ReviewerGroupGraph) (hparse : parse input = .ok graph)
    (hfuel : input.groupIds.length + 1 ≤ fuel)
    : ∃ res,
        matchDistinctReviewerGroups fuel input = some (.ok res)
          ∧ (res.status = .matched
              ↔ ∃ pairs,
                  IsAssignment input.groupIds input.reviewers pairs
                    ∧ MeetsQuorum input.reviewers input.humanGroupIds input.quorum pairs)
          ∧ IsAssignment input.groupIds input.reviewers (res.matched.map (·.pair))
          ∧ (res.status = .matched →
              MeetsQuorum input.reviewers input.humanGroupIds input.quorum
                (res.matched.map (·.pair))) := by
  have hparsed := parse_eq_ok hparse
  have hrows : graph.rows + 1 ≤ fuel := by
    unfold ReviewerGroupGraph.rows
    rw [hparsed.groupIds.length_eq]
    exact hfuel
  have hrun : ∃ s, Assignment.Hungarian.run graph.cost graph.rows graph.columns fuel = some s
      ∧ s.Inv graph.cost graph.columns graph.rows :=
    Assignment.Hungarian.run_inv graph.rows graph.rows_le_columns hrows
  obtain ⟨s, hrun, hinv⟩ := hrun
  have hvalid := hparsed.wf.matched_isAssignment hinv.covers
  rw [hparsed.isAssignment_iff] at hvalid
  have hmeets : graph.status (graph.matched s.owner) = .matched →
      MeetsQuorum input.reviewers input.humanGroupIds input.quorum
        ((graph.matched s.owner).map (·.pair)) := by
    intro hstatus
    rw [← hparsed.meetsQuorum_iff]
    exact ReviewerGroupGraph.meetsQuorum_of_status hstatus
  refine ⟨⟨graph.status (graph.matched s.owner), graph.matched s.owner⟩, ?_, ⟨?_, ?_⟩, hvalid, hmeets⟩
  . unfold matchDistinctReviewerGroups
    simp only [hparse, hrun]
  . intro hstatus
    exact ⟨_, hvalid, hmeets hstatus⟩
  . intro ⟨pairs, hpairs, hquorum⟩
    rw [← hparsed.isAssignment_iff] at hpairs
    rw [← hparsed.meetsQuorum_iff] at hquorum
    exact ReviewerGroupGraph.status_eq_matched_of_meetsQuorum hparsed.wf hinv hpairs hquorum

def contestedGroup : ReviewerGroupAssignmentInput where
  groupIds := ["security", "quality"]
  reviewers := [⟨"bob", ["quality", "security"], true⟩, ⟨"ada", ["quality"], false⟩]
  quorum := 2
  humanGroupIds := ["security"]

theorem matchDistinctReviewerGroups_contestedGroup
    : ∃ res,
        matchDistinctReviewerGroups 3 contestedGroup = some (.ok res)
          ∧ res.status = .matched
          ∧ IsAssignment contestedGroup.groupIds contestedGroup.reviewers
              (res.matched.map (·.pair)) := by
  obtain ⟨res, hres, hiff, hvalid, -⟩ := matchDistinctReviewerGroups_correct 3 contestedGroup
    ⟨["quality", "security"],
      [⟨"ada", ["quality"], false⟩, ⟨"bob", ["quality", "security"], true⟩], 2, ["security"]⟩
    (by decide) (by decide)
  refine ⟨res, hres, hiff.mpr ⟨[("ada", "quality"), ("bob", "security")], ?_, ?_⟩, hvalid⟩
  . constructor
    . decide
    . decide
    . simp [Belongs, contestedGroup]
  . constructor
    . simp [contestedGroup]
    . simp [HumanBelongs, contestedGroup]

end Release
end ProofStack
