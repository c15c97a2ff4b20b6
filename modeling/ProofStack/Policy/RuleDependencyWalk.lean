import Mathlib.Data.List.Dedup
import Mathlib.Order.Bounds.Basic
import ProofStack.Logic.Closure
import ProofStack.Policy.RuleDependencies

/-!
This module contains what the walks over a captured record graph return.
-/

namespace ProofStack
namespace RuleDependencies

open Logic Sequence

section Walk

variable {Source κ : Type} [DecidableEq Source] [DecidableEq κ] {key : Source → κ} {sources roots : List Source}
  {edges : List (Edge Source)} {frontier : List Occurrence}

/-- A graph whose closure has been derived again: every source that it names is an entry, no key has two
entries and no edge has two occurrences on the frontier. -/
structure Captured (key : Source → κ) (sources roots : List Source) (edges : List (Edge Source))
    (frontier : List Occurrence) : Prop where
  keys : (sources.map key).Nodup
  roots_mem : ∀ root ∈ roots, root ∈ sources
  parents_mem : ∀ edge ∈ edges, edge.parent ∈ sources
  targets_mem : ∀ edge ∈ edges, ∀ target ∈ edge.targets, target ∈ sources
  occurrences : (frontier.map Occurrence.edgeIndex).Nodup

omit [DecidableEq Source] [DecidableEq κ] in
theorem map_key_zipIdx (sources : List Source)
    : sources.zipIdx.map (fun row => key row.1) = sources.map key := by
  rw [show (fun row : Source × Nat => key row.1) = key ∘ Prod.fst from rfl, ← List.map_map, List.zipIdx_map_fst]

theorem indexOf_eq_ok (hkeys : (sources.map key).Nodup) {source : Source} {n : Nat}
    : indexOf key sources source = .ok n ↔ sources[n]? = some source := by
  unfold indexOf
  constructor
  . intro h
    split at h
    . next row hrow =>
      split at h
      . next heq =>
        cases h
        rw [← heq]
        exact List.mem_zipIdx_iff_getElem?.mp (lookup_eq_some hrow).1
      . cases h
    . cases h
  . intro h
    have hmem : (source, n) ∈ sources.zipIdx := List.mem_zipIdx_iff_getElem?.mpr h
    have hnodup : (sources.zipIdx.map (fun row => key row.1)).Nodup := by
      rw [map_key_zipIdx]
      exact hkeys
    rw [show key source = (fun row : Source × Nat => key row.1) (source, n) from rfl, lookup_of_mem hnodup hmem]
    exact if_pos rfl

theorem index_unique (hkeys : (sources.map key).Nodup) {source : Source} {m n : Nat}
    (hm : sources[m]? = some source) (hn : sources[n]? = some source)
    : m = n := by
  rw [← indexOf_eq_ok hkeys] at hm hn
  rw [hm] at hn
  exact Except.ok.inj hn

theorem exists_indexOf (hkeys : (sources.map key).Nodup) {source : Source} (h : source ∈ sources)
    : ∃ n, indexOf key sources source = .ok n := by
  obtain ⟨n, hn⟩ := List.mem_iff_getElem?.mp h
  exact ⟨n, (indexOf_eq_ok hkeys).mpr hn⟩

structure Indexed (sources roots : List Source) (edges : List (Edge Source)) (frontier : List Occurrence)
    (indexes : Indexes Source) : Prop where
  sources_eq : indexes.sources = sources
  edges_eq : indexes.edges = edges
  frontier_eq : indexes.frontier = frontier
  nodup_roots : indexes.roots.Nodup
  mem_roots : ∀ n : Nat, n ∈ indexes.roots ↔ ∃ root ∈ roots, sources[n]? = some root
  length_parents : indexes.parents.length = edges.length
  parents_eq : ∀ i n : Nat, indexes.parents[i]? = some n
    ↔ ∃ edge : Edge Source, edges[i]? = some edge ∧ sources[n]? = some edge.parent

theorem exists_mapM_indexOf {α : Type} {rows : List α} {f : α → Source} (hkeys : (sources.map key).Nodup)
    (h : ∀ row ∈ rows, f row ∈ sources)
    : ∃ ns : List Nat, rows.mapM (fun row => indexOf key sources (f row)) = .ok ns ∧ ns.length = rows.length
        ∧ ∀ i n : Nat, ns[i]? = some n ↔ ∃ row, rows[i]? = some row ∧ sources[n]? = some (f row) := by
  induction rows with
  | nil => exact ⟨[], rfl, rfl, by simp⟩
  | cons row rows ih =>
    obtain ⟨m, hm⟩ := exists_indexOf hkeys (h row List.mem_cons_self)
    obtain ⟨ns, hns, hlength, hspec⟩ := ih (fun other hother => h other (List.mem_cons_of_mem _ hother))
    refine ⟨m :: ns, ?_, by rw [List.length_cons, List.length_cons, hlength], ?_⟩
    . rw [List.mapM_cons, Checks.bind_of_ok hm, Checks.bind_of_ok hns]
      rfl
    . intro i n
      cases i with
      | zero =>
        simp only [List.getElem?_cons_zero, Option.some.injEq, exists_eq_left']
        constructor
        . rintro rfl
          exact (indexOf_eq_ok hkeys).mp hm
        . intro hn
          exact index_unique hkeys ((indexOf_eq_ok hkeys).mp hm) hn
      | succ i =>
        simp only [List.getElem?_cons_succ]
        exact hspec i n

theorem exists_dependencyIndexes (h : Captured key sources roots edges frontier)
    : ∃ indexes, dependencyIndexes key sources roots edges frontier = .ok indexes
        ∧ Indexed sources roots edges frontier indexes := by
  obtain ⟨rootIndexes, hroots, _, hrootSpec⟩ := exists_mapM_indexOf (f := id) h.keys h.roots_mem
  obtain ⟨parents, hparents, hlength, hparentSpec⟩ := exists_mapM_indexOf (f := Edge.parent) h.keys h.parents_mem
  refine ⟨⟨sources, edges, rootIndexes.dedup, parents, frontier⟩, ?_, rfl, rfl, rfl, List.nodup_dedup _, ?_,
    hlength, hparentSpec⟩
  . unfold dependencyIndexes
    rw [Checks.bind_of_ok (show roots.mapM (indexOf key sources) = .ok rootIndexes from hroots),
      Checks.bind_of_ok hparents]
    rfl
  . intro n
    rw [List.mem_dedup, List.mem_iff_getElem?]
    constructor
    . rintro ⟨i, hi⟩
      obtain ⟨root, hroot, hn⟩ := (hrootSpec i n).mp hi
      exact ⟨root, List.mem_of_getElem? hroot, hn⟩
    . rintro ⟨root, hroot, hn⟩
      obtain ⟨i, hi⟩ := List.mem_iff_getElem?.mp hroot
      exact ⟨i, (hrootSpec i n).mpr ⟨root, hi, hn⟩⟩

theorem mem_byParent {parents : List Nat} {n i : Nat} : i ∈ byParent parents n ↔ parents[i]? = some n := by
  unfold byParent
  rw [List.mem_map]
  constructor
  . rintro ⟨row, hrow, rfl⟩
    rw [List.mem_filter, decide_eq_true_eq] at hrow
    rw [← hrow.2]
    exact List.mem_zipIdx_iff_getElem?.mp hrow.1
  . intro h
    exact ⟨(n, i), List.mem_filter.mpr ⟨List.mem_zipIdx_iff_getElem?.mpr h, decide_eq_true rfl⟩, rfl⟩

theorem length_byParent (parents : List Nat) (n : Nat) : (byParent parents n).length = parents.count n := by
  unfold byParent
  rw [List.length_map, ← List.countP_eq_length_filter, List.count]
  conv => rhs; rw [← List.zipIdx_map_fst 0 parents, List.countP_map]
  exact List.countP_congr (fun row _ => by simp)

theorem frontierByEdge_eq_some (h : (frontier.map Occurrence.edgeIndex).Nodup) {i f : Nat}
    : frontierByEdge frontier i = some f ↔ ∃ occurrence, frontier[f]? = some occurrence ∧ occurrence.edgeIndex = i := by
  have hnodup : (frontier.zipIdx.map (fun row => row.1.edgeIndex)).Nodup := by
    rw [show (fun row : Occurrence × Nat => row.1.edgeIndex) = Occurrence.edgeIndex ∘ Prod.fst from rfl,
      ← List.map_map, List.zipIdx_map_fst]
    exact h
  unfold frontierByEdge
  rw [Option.map_eq_some_iff]
  constructor
  . rintro ⟨row, hrow, rfl⟩
    obtain ⟨hmem, hkey⟩ := lookup_eq_some hrow
    exact ⟨row.1, List.mem_zipIdx_iff_getElem?.mp hmem, hkey⟩
  . rintro ⟨occurrence, hoccurrence, rfl⟩
    have hmem : (occurrence, f) ∈ frontier.zipIdx := List.mem_zipIdx_iff_getElem?.mpr hoccurrence
    exact ⟨(occurrence, f), lookup_of_mem hnodup hmem, rfl⟩

/-- An edge is followed by the edges that leave its targets, unless these are roots. -/
def Follows (roots : List Source) (edges : List (Edge Source)) (i j : Nat) : Prop :=
  ∃ edge next : Edge Source, edges[i]? = some edge ∧ edges[j]? = some next
    ∧ next.parent ∈ edge.targets ∧ next.parent ∉ roots

def EndPoint (edges : List (Edge Source)) (i : Nat) (source : Source) : Prop :=
  ∃ edge : Edge Source, edges[i]? = some edge ∧ (source = edge.parent ∨ source ∈ edge.targets)

def LeavesRoot (roots : List Source) (edges : List (Edge Source)) (i : Nat) : Prop :=
  ∃ edge : Edge Source, edges[i]? = some edge ∧ edge.parent ∈ roots

variable {parents : List Nat}

theorem length_byParent_add {visited : List Nat} {child : Nat} (h : child ∉ visited)
    : (byParent parents child).length + parents.countP (· ∉ visited.insert child)
        = parents.countP (· ∉ visited) := by
  rw [length_byParent]
  induction parents with
  | nil => rfl
  | cons parent parents ih =>
    rw [List.count_cons, List.countP_cons, List.countP_cons, ← ih]
    by_cases hchild : parent = child
    . subst hchild
      simp [h]
      omega
    . simp [hchild]
      omega

theorem foldl_visit (children : List Nat) (state : WalkState)
    : (children.foldl (visit parents) state).edges = state.edges
        ∧ (children.foldl (visit parents) state).frontier = state.frontier
        ∧ (∀ n, n ∈ (children.foldl (visit parents) state).sources ↔ n ∈ state.sources ∨ n ∈ children)
        ∧ (∀ i, i ∈ (children.foldl (visit parents) state).pending
            ↔ i ∈ state.pending ∨ ∃ child ∈ children, child ∉ state.sources ∧ parents[i]? = some child)
        ∧ (state.sources.Nodup → (children.foldl (visit parents) state).sources.Nodup)
        ∧ (children.foldl (visit parents) state).pending.length
              + parents.countP (· ∉ (children.foldl (visit parents) state).sources)
            = state.pending.length + parents.countP (· ∉ state.sources) := by
  induction children generalizing state with
  | nil =>
    refine ⟨rfl, rfl, by simp, by simp, id, rfl⟩
  | cons child children ih =>
    rw [List.foldl_cons]
    by_cases hmem : child ∈ state.sources
    . rw [show visit parents state child = state from if_pos hmem]
      obtain ⟨hedges, hfrontier, hsources, hpending, hnodup, hlength⟩ := ih state
      refine ⟨hedges, hfrontier, ?_, ?_, hnodup, hlength⟩
      . intro n
        rw [hsources, List.mem_cons]
        constructor
        . rintro (h | h)
          . exact .inl h
          . exact .inr (.inr h)
        . rintro (h | rfl | h)
          . exact .inl h
          . exact .inl hmem
          . exact .inr h
      . intro i
        rw [hpending]
        refine or_congr_right (exists_congr (fun other => ?_))
        rw [List.mem_cons]
        constructor
        . rintro ⟨h, hrest⟩
          exact ⟨.inr h, hrest⟩
        . rintro ⟨rfl | h, hrest⟩
          . exact absurd hmem hrest.1
          . exact ⟨h, hrest⟩
    . rw [show visit parents state child = { state with
          sources := state.sources.insert child, pending := state.pending ++ byParent parents child }
        from if_neg hmem]
      obtain ⟨hedges, hfrontier, hsources, hpending, hnodup, hlength⟩ := ih { state with
        sources := state.sources.insert child, pending := state.pending ++ byParent parents child }
      refine ⟨hedges, hfrontier, ?_, ?_, ?_, ?_⟩
      . intro n
        rw [hsources]
        simp only [List.mem_insert_iff, List.mem_cons]
        tauto
      . intro i
        rw [hpending]
        simp only [List.mem_append, mem_byParent, List.mem_insert_iff, List.mem_cons, not_or]
        constructor
        . rintro ((h | h) | ⟨other, hother, ⟨hne, hnot⟩, h⟩)
          . exact .inl h
          . exact .inr ⟨child, .inl rfl, hmem, h⟩
          . exact .inr ⟨other, .inr hother, hnot, h⟩
        . rintro (h | ⟨other, hother, hnot, h⟩)
          . exact .inl (.inl h)
          . by_cases heq : other = child
            . subst heq
              exact .inl (.inr h)
            . exact .inr ⟨other, hother.resolve_left heq, ⟨heq, hnot⟩, h⟩
      . intro h
        exact hnodup (h.insert)
      . rw [hlength, List.length_append, Nat.add_assoc, length_byParent_add hmem]

theorem foldlM_visitTarget (hkeys : (sources.map key).Nodup) {indexes : Indexes Source}
    (hsources : indexes.sources = sources) {targets : List Source} (h : ∀ target ∈ targets, target ∈ sources)
    (state : WalkState)
    : ∃ children : List Nat, (∀ n, n ∈ children ↔ ∃ target ∈ targets, sources[n]? = some target)
        ∧ targets.foldlM (visitTarget key indexes) state
            = .ok (children.foldl (visit indexes.parents) state) := by
  induction targets generalizing state with
  | nil => exact ⟨[], by simp, rfl⟩
  | cons target targets ih =>
    obtain ⟨child, hchild⟩ := exists_indexOf hkeys (h target List.mem_cons_self)
    obtain ⟨children, hspec, hfold⟩ := ih (fun other hother => h other (List.mem_cons_of_mem _ hother))
      (visit indexes.parents state child)
    refine ⟨child :: children, ?_, ?_⟩
    . intro n
      rw [List.mem_cons, hspec]
      simp only [List.mem_cons, exists_eq_or_imp]
      refine or_congr_left ?_
      constructor
      . rintro rfl
        exact (indexOf_eq_ok hkeys).mp hchild
      . intro hn
        exact index_unique hkeys hn ((indexOf_eq_ok hkeys).mp hchild)
    . have hvisit : visitTarget key indexes state target = .ok (visit indexes.parents state child) := by
        rw [visitTarget, hsources, Checks.bind_of_ok hchild]
        rfl
      rw [List.foldlM_cons, Checks.bind_of_ok hvisit, hfold, List.foldl_cons]

/-- What every state of a walk keeps: a source that is no root has all of its edges behind it or ahead. -/
structure WalkInv (sources roots : List Source) (edges : List (Edge Source)) (frontier : List Occurrence)
    (indexes : Indexes Source) (seeds : List Nat) (state : WalkState) : Prop where
  seeds_mem : ∀ i ∈ seeds, i ∈ state.edges ∨ i ∈ state.pending
  reached : ∀ i, i ∈ state.edges ∨ i ∈ state.pending → i ∈ reachable (Follows roots edges) {i | i ∈ seeds}
  pending_parent : ∀ i ∈ state.pending, ∃ n ∈ state.sources, indexes.parents[i]? = some n
  expanded : ∀ n ∈ state.sources, n ∉ indexes.roots → ∀ i, indexes.parents[i]? = some n →
    i ∈ state.edges ∨ i ∈ state.pending
  sources_iff : ∀ n, n ∈ state.sources ↔ ∃ source, sources[n]? = some source
    ∧ (source ∈ roots ∨ ∃ i ∈ state.edges, EndPoint edges i source)
  frontier_iff : ∀ f, f ∈ state.frontier ↔ ∃ occurrence, frontier[f]? = some occurrence
    ∧ occurrence.edgeIndex ∈ state.edges
  nodup_sources : state.sources.Nodup
  nodup_edges : state.edges.Nodup
  nodup_frontier : state.frontier.Nodup

def remaining (indexes : Indexes Source) (state : WalkState) : Nat :=
  state.pending.length + indexes.parents.countP (· ∉ state.sources)

variable {indexes : Indexes Source} {seeds : List Nat} {state : WalkState} {index : Nat} {rest : List Nat}

omit [DecidableEq Source] in
theorem WalkInv.skip (h : WalkInv sources roots edges frontier indexes seeds state)
    (hpending : state.pending = index :: rest) (hmem : index ∈ state.edges)
    : WalkInv sources roots edges frontier indexes seeds { state with pending := rest } := by
  have hrest : ∀ i, i ∈ state.edges ∨ i ∈ state.pending ↔ i ∈ state.edges ∨ i ∈ rest := by
    intro i
    rw [hpending, List.mem_cons]
    constructor
    . rintro (h | rfl | h)
      . exact .inl h
      . exact .inl hmem
      . exact .inr h
    . rintro (h | h)
      . exact .inl h
      . exact .inr (.inr h)
  exact {
    seeds_mem := fun i hi => (hrest i).mp (h.seeds_mem i hi)
    reached := fun i hi => h.reached i ((hrest i).mpr hi)
    pending_parent := fun i hi => h.pending_parent i (by rw [hpending]; exact List.mem_cons_of_mem _ hi)
    expanded := fun n hn hroot i hi => (hrest i).mp (h.expanded n hn hroot i hi)
    sources_iff := h.sources_iff
    frontier_iff := h.frontier_iff
    nodup_sources := h.nodup_sources
    nodup_edges := h.nodup_edges
    nodup_frontier := h.nodup_frontier }

omit [DecidableEq Source] [DecidableEq κ] in
theorem mem_frontier_elim (hc : Captured key sources roots edges frontier)
    (h : WalkInv sources roots edges frontier indexes seeds state) (f : Nat)
    : f ∈ (frontierByEdge frontier index).elim state.frontier state.frontier.insert
        ↔ ∃ occurrence, frontier[f]? = some occurrence ∧ occurrence.edgeIndex ∈ state.edges.insert index := by
  simp only [List.mem_insert_iff]
  cases hfound : frontierByEdge frontier index with
  | none =>
    rw [Option.elim_none, h.frontier_iff]
    refine exists_congr (fun occurrence => and_congr_right (fun hoccurrence => ?_))
    constructor
    . exact .inr
    . rintro (heq | hmem)
      . have hsome := (frontierByEdge_eq_some hc.occurrences).mpr ⟨occurrence, hoccurrence, heq⟩
        rw [hfound] at hsome
        cases hsome
      . exact hmem
  | some g =>
    obtain ⟨found, hg, hindex⟩ := (frontierByEdge_eq_some hc.occurrences).mp hfound
    rw [Option.elim_some, List.mem_insert_iff, h.frontier_iff]
    constructor
    . rintro (rfl | ⟨occurrence, hoccurrence, hmem⟩)
      . exact ⟨found, hg, .inl hindex⟩
      . exact ⟨occurrence, hoccurrence, .inr hmem⟩
    . rintro ⟨occurrence, hoccurrence, heq | hmem⟩
      . have hsome := (frontierByEdge_eq_some hc.occurrences).mpr ⟨occurrence, hoccurrence, heq⟩
        rw [hfound] at hsome
        exact .inl (Option.some.inj hsome).symm
      . exact .inr ⟨occurrence, hoccurrence, hmem⟩

omit [DecidableEq Source] in
theorem Indexed.parent (hi : Indexed sources roots edges frontier indexes) {i n : Nat}
    (h : indexes.parents[i]? = some n)
    : ∃ edge : Edge Source, edges[i]? = some edge ∧ sources[n]? = some edge.parent :=
  (hi.parents_eq i n).mp h

theorem WalkInv.extend (hc : Captured key sources roots edges frontier)
    (hi : Indexed sources roots edges frontier indexes)
    (h : WalkInv sources roots edges frontier indexes seeds state)
    (hpending : state.pending = index :: rest) {edge : Edge Source} (hedge : edges[index]? = some edge)
    {next : WalkState} {children : List Nat}
    (hchildren : ∀ n, n ∈ children ↔ ∃ target ∈ edge.targets, sources[n]? = some target)
    (hedges : next.edges = state.edges.insert index)
    (hfrontier : next.frontier = (frontierByEdge frontier index).elim state.frontier state.frontier.insert)
    (hsources : ∀ n, n ∈ next.sources ↔ n ∈ state.sources ∨ n ∈ children)
    (hnext : ∀ i, i ∈ next.pending
      ↔ i ∈ rest ∨ ∃ child ∈ children, child ∉ state.sources ∧ indexes.parents[i]? = some child)
    (hnodup : next.sources.Nodup)
    : WalkInv sources roots edges frontier indexes seeds next := by
  have hmem : ∀ i, i ∈ next.edges ↔ i = index ∨ i ∈ state.edges := by
    intro i
    rw [hedges, List.mem_insert_iff]
  have hkept : ∀ i, i ∈ state.edges ∨ i ∈ state.pending → i ∈ next.edges ∨ i ∈ next.pending := by
    intro i
    rw [hpending, List.mem_cons, hmem, hnext]
    tauto
  have hreached := h.reached index (.inr (by rw [hpending]; exact List.mem_cons_self))
  refine ⟨fun i hseed => hkept i (h.seeds_mem i hseed), ?_, ?_, ?_, ?_, ?_, hnodup, ?_, ?_⟩
  . intro i
    rw [hmem, hnext]
    rintro ((rfl | hbehind) | hrest | ⟨child, hchild, hnew, hparent⟩)
    . exact hreached
    . exact h.reached i (.inl hbehind)
    . exact h.reached i (.inr (by rw [hpending]; exact List.mem_cons_of_mem _ hrest))
    . -- an edge that leaves a target which the walk had not visited: the target is no root
      obtain ⟨target, htarget, hsource⟩ := (hchildren child).mp hchild
      obtain ⟨after, hafter, hsource'⟩ := hi.parent hparent
      have heq : after.parent = target := Option.some.inj (hsource'.symm.trans hsource)
      refine closedUnder_reachable index hreached i ⟨edge, after, hedge, hafter, ?_, ?_⟩
      . rw [heq]
        exact htarget
      . intro hroot
        exact hnew ((h.sources_iff child).mpr ⟨after.parent, hsource', .inl hroot⟩)
  . intro i
    rw [hnext]
    rintro (hrest | ⟨child, hchild, _, hparent⟩)
    . obtain ⟨n, hn, hparent⟩ := h.pending_parent i (by rw [hpending]; exact List.mem_cons_of_mem _ hrest)
      exact ⟨n, (hsources n).mpr (.inl hn), hparent⟩
    . exact ⟨child, (hsources child).mpr (.inr hchild), hparent⟩
  . intro n hn hroot i hparent
    by_cases hold : n ∈ state.sources
    . exact hkept i (h.expanded n hold hroot i hparent)
    . have hchild : n ∈ children := ((hsources n).mp hn).resolve_left hold
      exact .inr ((hnext i).mpr (.inr ⟨n, hchild, hold, hparent⟩))
  . intro n
    rw [hsources, h.sources_iff, hchildren]
    constructor
    . rintro (⟨source, hsource, hroot | ⟨i, hbehind, hend⟩⟩ | ⟨target, htarget, hsource⟩)
      . exact ⟨source, hsource, .inl hroot⟩
      . exact ⟨source, hsource, .inr ⟨i, (hmem i).mpr (.inr hbehind), hend⟩⟩
      . exact ⟨target, hsource, .inr ⟨index, (hmem index).mpr (.inl rfl), edge, hedge, .inr htarget⟩⟩
    . rintro ⟨source, hsource, hroot | ⟨i, hin, hend⟩⟩
      . exact .inl ⟨source, hsource, .inl hroot⟩
      . rcases (hmem i).mp hin with rfl | hbehind
        . obtain ⟨found, hfound, hcases⟩ := hend
          rw [hedge] at hfound
          cases hfound
          rcases hcases with rfl | htarget
          . -- the parent of the edge was visited before the edge was put in line
            obtain ⟨m, hm, hparent⟩ := h.pending_parent i (by rw [hpending]; exact List.mem_cons_self)
            obtain ⟨found, hfound, hsource'⟩ := hi.parent hparent
            rw [hedge] at hfound
            cases hfound
            rw [index_unique hc.keys hsource hsource']
            exact .inl ((h.sources_iff m).mp hm)
          . exact .inr ⟨source, htarget, hsource⟩
        . exact .inl ⟨source, hsource, .inr ⟨i, hbehind, hend⟩⟩
  . intro f
    rw [hfrontier, hedges]
    exact mem_frontier_elim hc h f
  . rw [hedges]
    exact h.nodup_edges.insert
  . rw [hfrontier]
    cases frontierByEdge frontier index with
    | none => exact h.nodup_frontier
    | some g => exact h.nodup_frontier.insert

theorem walkEdge_spec (hc : Captured key sources roots edges frontier)
    (hi : Indexed sources roots edges frontier indexes)
    (h : WalkInv sources roots edges frontier indexes seeds state) (hpending : state.pending = index :: rest)
    : ∃ next, walkEdge key indexes state index rest = .ok next
        ∧ WalkInv sources roots edges frontier indexes seeds next
        ∧ remaining indexes next + 1 = remaining indexes state := by
  by_cases hmem : index ∈ state.edges
  . refine ⟨_, if_pos hmem, h.skip hpending hmem, ?_⟩
    change rest.length + indexes.parents.countP (· ∉ state.sources) + 1 = remaining indexes state
    rw [remaining, hpending, List.length_cons]
    omega
  . obtain ⟨n, hn, hparent⟩ := h.pending_parent index (by rw [hpending]; exact List.mem_cons_self)
    obtain ⟨edge, hedge, hsource⟩ := hi.parent hparent
    have hindex : indexOf key indexes.sources edge.parent = .ok n := by
      rw [hi.sources_eq]
      exact (indexOf_eq_ok hc.keys).mpr hsource
    -- the parent of an edge that is in line has been visited
    have hstart : walkEdge key indexes state index rest = edge.targets.foldlM (visitTarget key indexes)
        { pending := rest
          sources := state.sources
          edges := state.edges.insert index
          frontier := (frontierByEdge frontier index).elim state.frontier state.frontier.insert } := by
      unfold walkEdge
      rw [if_neg hmem, show indexes.edges[index]? = some edge by rw [hi.edges_eq]; exact hedge, hi.frontier_eq]
      refine (Checks.bind_of_ok hindex).trans ?_
      rw [List.insert_of_mem hn]
    obtain ⟨children, hchildren, hfold⟩ := foldlM_visitTarget hc.keys hi.sources_eq
      (hc.targets_mem edge (List.mem_of_getElem? hedge))
      { pending := rest
        sources := state.sources
        edges := state.edges.insert index
        frontier := (frontierByEdge frontier index).elim state.frontier state.frontier.insert }
    obtain ⟨hedges, hfrontier, hsources, hnext, hnodup, hlength⟩ := @foldl_visit indexes.parents children
      { pending := rest
        sources := state.sources
        edges := state.edges.insert index
        frontier := (frontierByEdge frontier index).elim state.frontier state.frontier.insert }
    refine ⟨_, hstart.trans hfold, ?_, ?_⟩
    . exact h.extend hc hi hpending hedge hchildren hedges hfrontier hsources hnext (hnodup h.nodup_sources)
    . rw [remaining, hlength, remaining, hpending, List.length_cons]
      dsimp only
      omega

theorem walkLoop_spec (hc : Captured key sources roots edges frontier)
    (hi : Indexed sources roots edges frontier indexes) {fuel : Nat}
    (h : WalkInv sources roots edges frontier indexes seeds state) (hfuel : remaining indexes state ≤ fuel)
    : ∃ final, walkLoop key indexes fuel state = .ok final
        ∧ WalkInv sources roots edges frontier indexes seeds final ∧ final.pending = [] := by
  induction fuel generalizing state with
  | zero =>
    have hpending : state.pending = [] := by
      rw [← List.length_eq_zero_iff]
      rw [remaining] at hfuel
      omega
    exact ⟨state, by rw [walkLoop]; exact hpending, h, hpending⟩
  | succ fuel ih =>
    cases hpending : state.pending with
    | nil => exact ⟨state, by rw [walkLoop]; exact hpending, h, hpending⟩
    | cons index rest =>
      obtain ⟨next, hnext, hinv, hremaining⟩ := walkEdge_spec hc hi h hpending
      obtain ⟨final, hfinal, hrest⟩ := ih hinv (by omega)
      refine ⟨final, ?_, hrest⟩
      unfold walkLoop
      rw [hpending]
      exact (Checks.bind_of_ok hnext).trans hfinal

theorem mem_sorted {values : List Nat} {n : Nat} : n ∈ sorted values ↔ n ∈ values :=
  List.mem_insertionSort _

theorem sorted_strictly {values : List Nat} (h : values.Nodup) : (sorted values).Pairwise (· < ·) := by
  have hsorted : (sorted values).Pairwise (· ≤ ·) := List.pairwise_insertionSort _ values
  have hnodup : (sorted values).Nodup := (List.perm_insertionSort _ values).nodup_iff.mpr h
  exact (hsorted.and hnodup).imp (fun hboth => lt_of_le_of_ne hboth.1 hboth.2)

theorem eq_of_strictly {left right : List Nat} (hl : left.Pairwise (· < ·)) (hr : right.Pairwise (· < ·))
    (h : ∀ n, n ∈ left ↔ n ∈ right)
    : left = right :=
  ((List.perm_ext_iff_of_nodup hl.nodup hr.nodup).mpr h).eq_of_pairwise
    (fun _ _ _ _ hab hba => absurd hba (Nat.lt_asymm hab)) hl hr

structure IsWalk (sources roots : List Source) (edges : List (Edge Source)) (frontier : List Occurrence)
    (seeds : List Nat) (coordinates : Coordinates) : Prop where
  seeds_iff : ∀ i, i ∈ coordinates.seedEdgeIndexes ↔ i ∈ seeds
  isLeast_edges : IsLeast {S | {i | i ∈ seeds} ⊆ S ∧ ClosedUnder (Follows roots edges) S} {i | i ∈ coordinates.edgeIndexes}
  sources_iff : ∀ n, n ∈ coordinates.sourceIndexes ↔ ∃ source, sources[n]? = some source
    ∧ (source ∈ roots ∨ ∃ i ∈ coordinates.edgeIndexes, EndPoint edges i source)
  frontier_iff : ∀ f, f ∈ coordinates.frontierIndexes ↔ ∃ occurrence, frontier[f]? = some occurrence
    ∧ occurrence.edgeIndex ∈ coordinates.edgeIndexes
  seeds_sorted : coordinates.seedEdgeIndexes.Pairwise (· < ·)
  edges_sorted : coordinates.edgeIndexes.Pairwise (· < ·)
  sources_sorted : coordinates.sourceIndexes.Pairwise (· < ·)
  frontier_sorted : coordinates.frontierIndexes.Pairwise (· < ·)

omit [DecidableEq Source] [DecidableEq κ] in
theorem WalkInv.start (hc : Captured key sources roots edges frontier)
    (hi : Indexed sources roots edges frontier indexes) (h : ∀ i ∈ seeds, LeavesRoot roots edges i)
    : WalkInv sources roots edges frontier indexes seeds
        { pending := sorted seeds, sources := indexes.roots, edges := [], frontier := [] } where
  seeds_mem i hseed := .inr (mem_sorted.mpr hseed)
  reached i hmem := subset_reachable (mem_sorted.mp (hmem.resolve_left List.not_mem_nil))
  pending_parent i hmem := by
    obtain ⟨edge, hedge, hroot⟩ := h i (mem_sorted.mp hmem)
    obtain ⟨n, hn⟩ := List.mem_iff_getElem?.mp (hc.parents_mem edge (List.mem_of_getElem? hedge))
    exact ⟨n, (hi.mem_roots n).mpr ⟨edge.parent, hroot, hn⟩, (hi.parents_eq i n).mpr ⟨edge, hedge, hn⟩⟩
  expanded n hn hroot := absurd hn hroot
  sources_iff n := by
    rw [hi.mem_roots]
    constructor
    . rintro ⟨root, hroot, hn⟩
      exact ⟨root, hn, .inl hroot⟩
    . rintro ⟨source, hn, hroot | ⟨i, hmem, _⟩⟩
      . exact ⟨source, hroot, hn⟩
      . exact absurd hmem List.not_mem_nil
  frontier_iff f := by simp
  nodup_sources := hi.nodup_roots
  nodup_edges := List.nodup_nil
  nodup_frontier := List.nodup_nil

omit [DecidableEq Source] in
theorem WalkInv.edges_eq (hi : Indexed sources roots edges frontier indexes)
    (h : WalkInv sources roots edges frontier indexes seeds state) (hpending : state.pending = [])
    : {i | i ∈ state.edges} = reachable (Follows roots edges) {i | i ∈ seeds} := by
  have hbehind : ∀ i, i ∈ state.edges ∨ i ∈ state.pending → i ∈ state.edges := by
    intro i hmem
    rw [hpending] at hmem
    exact hmem.resolve_right List.not_mem_nil
  apply eq_reachable
  . exact fun i hseed => hbehind i (h.seeds_mem i hseed)
  . rintro i hmem j ⟨edge, after, hedge, hafter, htarget, hroot⟩
    obtain ⟨n, hn⟩ : ∃ n : Nat, indexes.parents[j]? = some n := by
      have hlt : j < indexes.parents.length := by
        rw [hi.length_parents]
        exact (List.getElem?_eq_some_iff.mp hafter).1
      exact ⟨_, List.getElem?_eq_getElem hlt⟩
    obtain ⟨found, hfound, hsource⟩ := hi.parent hn
    rw [hafter] at hfound
    cases hfound
    have hvisited : n ∈ state.sources :=
      (h.sources_iff n).mpr ⟨after.parent, hsource, .inr ⟨i, hmem, edge, hedge, .inr htarget⟩⟩
    refine hbehind j (h.expanded n hvisited ?_ j hn)
    rw [hi.mem_roots]
    rintro ⟨root, hmemRoot, hn'⟩
    rw [hsource] at hn'
    cases hn'
    exact hroot hmemRoot
  . exact fun i hmem => h.reached i (.inl hmem)

theorem walk_isWalk (hc : Captured key sources roots edges frontier)
    (hi : Indexed sources roots edges frontier indexes) (hnodup : seeds.Nodup)
    (h : ∀ i ∈ seeds, LeavesRoot roots edges i)
    : ∃ coordinates, walk key indexes seeds = .ok coordinates
        ∧ IsWalk sources roots edges frontier seeds coordinates := by
  have hfuel : remaining indexes { pending := sorted seeds, sources := indexes.roots, edges := [], frontier := [] }
      ≤ seeds.length + indexes.edges.length := by
    have hcount := List.countP_le_length (p := fun n => decide (n ∉ indexes.roots)) (l := indexes.parents)
    rw [hi.length_parents] at hcount
    rw [remaining, hi.edges_eq, show (sorted seeds).length = seeds.length from List.length_insertionSort _ seeds]
    dsimp only
    omega
  obtain ⟨final, hfinal, hinv, hpending⟩ := walkLoop_spec hc hi (WalkInv.start hc hi h) hfuel
  refine ⟨_, (Checks.bind_of_ok hfinal).trans rfl, ?_⟩
  have hset : {i | i ∈ sorted final.edges} = reachable (Follows roots edges) {i | i ∈ seeds} := by
    rw [← hinv.edges_eq hi hpending]
    ext i
    exact mem_sorted
  exact {
    seeds_iff := fun i => mem_sorted
    isLeast_edges := by
      rw [hset]
      exact isLeast_reachable
    sources_iff := fun n => by
      rw [mem_sorted, hinv.sources_iff]
      simp only [mem_sorted]
    frontier_iff := fun f => by
      rw [mem_sorted, hinv.frontier_iff]
      simp only [mem_sorted]
    seeds_sorted := sorted_strictly hnodup
    edges_sorted := sorted_strictly hinv.nodup_edges
    sources_sorted := sorted_strictly hinv.nodup_sources
    frontier_sorted := sorted_strictly hinv.nodup_frontier }

def Coordinates.union (left right : Coordinates) : Coordinates :=
  { seedEdgeIndexes := sorted (left.seedEdgeIndexes ∪ right.seedEdgeIndexes)
    sourceIndexes := sorted (left.sourceIndexes ∪ right.sourceIndexes)
    edgeIndexes := sorted (left.edgeIndexes ∪ right.edgeIndexes)
    frontierIndexes := sorted (left.frontierIndexes ∪ right.frontierIndexes) }

theorem eq_sorted_union {left right both : List Nat} (hr : right.Pairwise (· < ·)) (hb : both.Pairwise (· < ·))
    (h : ∀ n, n ∈ both ↔ n ∈ left ∨ n ∈ right)
    : both = sorted (left ∪ right) := by
  refine eq_of_strictly hb (sorted_strictly (hr.nodup.union left)) (fun n => ?_)
  rw [h, mem_sorted, List.mem_union_iff]

omit [DecidableEq Source] [DecidableEq κ] in
theorem IsWalk.edges_eq {coordinates : Coordinates} (h : IsWalk sources roots edges frontier seeds coordinates)
    : {i | i ∈ coordinates.edgeIndexes} = reachable (Follows roots edges) {i | i ∈ seeds} :=
  h.isLeast_edges.unique isLeast_reachable

omit [DecidableEq Source] [DecidableEq κ] in
theorem IsWalk.eq_union {left right : List Nat} {fromLeft fromRight both : Coordinates}
    (hl : IsWalk sources roots edges frontier left fromLeft)
    (hr : IsWalk sources roots edges frontier right fromRight)
    (hb : IsWalk sources roots edges frontier (left ∪ right) both)
    : both = fromLeft.union fromRight := by
  have hedges : ∀ i, i ∈ both.edgeIndexes ↔ i ∈ fromLeft.edgeIndexes ∨ i ∈ fromRight.edgeIndexes := by
    have hset : {i | i ∈ both.edgeIndexes} = {i | i ∈ fromLeft.edgeIndexes} ∪ {i | i ∈ fromRight.edgeIndexes} := by
      rw [hb.edges_eq, hl.edges_eq, hr.edges_eq, ← reachable_union]
      congr 1
      ext i
      exact List.mem_union_iff
    exact fun i => Set.ext_iff.mp hset i
  have hsources : ∀ n, n ∈ both.sourceIndexes ↔ n ∈ fromLeft.sourceIndexes ∨ n ∈ fromRight.sourceIndexes := by
    intro n
    rw [hb.sources_iff, hl.sources_iff, hr.sources_iff, ← exists_or]
    refine exists_congr (fun source => ?_)
    simp only [hedges, or_and_right, exists_or]
    rw [← and_or_left, ← or_or_distrib_left]
  have hfrontier : ∀ f, f ∈ both.frontierIndexes
      ↔ f ∈ fromLeft.frontierIndexes ∨ f ∈ fromRight.frontierIndexes := by
    intro f
    rw [hb.frontier_iff, hl.frontier_iff, hr.frontier_iff]
    simp only [hedges, and_or_left, exists_or]
  have hseeds : ∀ i, i ∈ both.seedEdgeIndexes
      ↔ i ∈ fromLeft.seedEdgeIndexes ∨ i ∈ fromRight.seedEdgeIndexes := by
    intro i
    rw [hb.seeds_iff, hl.seeds_iff, hr.seeds_iff, List.mem_union_iff]
  obtain ⟨bothSeeds, bothSources, bothEdges, bothFrontier⟩ := both
  rw [Coordinates.union, Coordinates.mk.injEq]
  exact ⟨eq_sorted_union hr.seeds_sorted hb.seeds_sorted hseeds,
    eq_sorted_union hr.sources_sorted hb.sources_sorted hsources,
    eq_sorted_union hr.edges_sorted hb.edges_sorted hedges,
    eq_sorted_union hr.frontier_sorted hb.frontier_sorted hfrontier⟩

end Walk

section Rules

variable {Source κ Observation Context : Type} [DecidableEq Source] [DecidableEq κ] [DecidableEq Observation]
  [DecidableEq Context] {key : Source → κ} {sources roots : List Source} {edges : List (Edge Source)}
  {frontier : List Occurrence} {policy candidate : Source} {indexes : Indexes Source}

omit [DecidableEq Source] in
theorem mem_seedsOf {wanted : SeedClass} {i : Nat}
    : i ∈ seedsOf key policy candidate edges wanted
        ↔ ∃ edge : Edge Source, edges[i]? = some edge ∧ seedClass key policy candidate edge = wanted := by
  unfold seedsOf
  simp only [List.mem_map, List.mem_filter, decide_eq_true_eq]
  constructor
  . rintro ⟨row, ⟨hrow, hclass⟩, rfl⟩
    exact ⟨row.1, List.mem_zipIdx_iff_getElem?.mp hrow, hclass⟩
  . rintro ⟨edge, hedge, hclass⟩
    exact ⟨(edge, i), ⟨List.mem_zipIdx_iff_getElem?.mpr hedge, hclass⟩, rfl⟩

theorem nodup_zipIdx_snd {α : Type} (rows : List α) : (rows.zipIdx.map Prod.snd).Nodup := by
  rw [List.zipIdx_map_snd]
  exact List.nodup_range'

omit [DecidableEq Source] in
theorem nodup_seedsOf {wanted : SeedClass} : (seedsOf key policy candidate edges wanted).Nodup :=
  (nodup_zipIdx_snd edges).sublist (List.filter_sublist.map Prod.snd)

omit [DecidableEq Source] in
theorem mem_ruleSeeds {ruleIndex i : Nat}
    : (ruleIndex, i) ∈ ruleSeeds key policy candidate edges
        ↔ ∃ edge : Edge Source, edges[i]? = some edge ∧ seedClass key policy candidate edge = .rule ruleIndex := by
  unfold ruleSeeds
  rw [List.mem_filterMap]
  constructor
  . rintro ⟨row, hrow, hsome⟩
    refine ⟨row.1, ?_⟩
    split at hsome
    . next found hclass =>
      cases hsome
      exact ⟨List.mem_zipIdx_iff_getElem?.mp hrow, hclass⟩
    all_goals cases hsome
  . rintro ⟨edge, hedge, hclass⟩
    refine ⟨(edge, i), List.mem_zipIdx_iff_getElem?.mpr hedge, ?_⟩
    dsimp only
    rw [hclass]

variable {edge : Edge Source}

omit [DecidableEq Source] in
theorem seedClass_eq_rule {ruleIndex : Nat}
    : seedClass key policy candidate edge = .rule ruleIndex
        ↔ key edge.parent = key policy ∧ ruleOfPath edge.path = some ruleIndex := by
  unfold seedClass
  constructor
  . intro h
    split at h
    . next hkey =>
      cases hrule : ruleOfPath edge.path with
      | none =>
        rw [hrule] at h
        cases h
      | some found =>
        rw [hrule] at h
        cases h
        exact ⟨hkey, rfl⟩
    . split at h
      . split at h
        . cases h
        . split at h <;> cases h
      . cases h
  . rintro ⟨hkey, hrule⟩
    rw [if_pos hkey, hrule]
    rfl

omit [DecidableEq Source] in
theorem key_of_seedClass (h : seedClass key policy candidate edge ≠ .other)
    : key edge.parent = key policy ∨ key edge.parent = key candidate := by
  unfold seedClass at h
  by_cases hpolicy : key edge.parent = key policy
  . exact .inl hpolicy
  . by_cases hcandidate : key edge.parent = key candidate
    . exact .inr hcandidate
    . rw [if_neg hpolicy, if_neg hcandidate] at h
      exact absurd rfl h

omit [DecidableEq Source] [DecidableEq κ] in
theorem Captured.leavesRoot (hc : Captured key sources roots edges frontier) {root : Source} (hroot : root ∈ roots)
    {i : Nat} (hedge : edges[i]? = some edge) (hkey : key edge.parent = key root)
    : LeavesRoot roots edges i := by
  have heq : edge.parent = root :=
    eq_of_key hc.keys (hc.parents_mem edge (List.mem_of_getElem? hedge)) (hc.roots_mem root hroot) hkey
  refine ⟨edge, hedge, ?_⟩
  rw [heq]
  exact hroot

omit [DecidableEq Source] in
theorem Captured.leavesRoot_of_seedClass (hc : Captured key sources roots edges frontier) (hpolicy : policy ∈ roots)
    (hcandidate : candidate ∈ roots) {i : Nat} (hedge : edges[i]? = some edge)
    (h : seedClass key policy candidate edge ≠ .other)
    : LeavesRoot roots edges i := by
  rcases key_of_seedClass h with hkey | hkey
  . exact hc.leavesRoot hpolicy hedge hkey
  . exact hc.leavesRoot hcandidate hedge hkey

def Reports.candidateEdges (reports : Reports Source) : List Nat :=
  reports.artifactMembers ++ reports.assessmentMembers.map AssessmentMember.candidateEdgeIndex

theorem bindSeeds_spec {reports : Reports Source} {comparisonSeeds own seeds : List Nat} {original : RuleInput}
    (h : bindSeeds reports comparisonSeeds own original = .ok seeds) (hcomparison : comparisonSeeds.Nodup)
    (hown : own.Nodup)
    : seeds.Nodup ∧ (∀ i ∈ own, i ∈ seeds)
        ∧ ∀ i ∈ seeds, i ∈ own ∨ i ∈ comparisonSeeds ∨ i ∈ reports.candidateEdges := by
  have hsame : seeds = own → seeds.Nodup ∧ (∀ i ∈ own, i ∈ seeds)
      ∧ ∀ i ∈ seeds, i ∈ own ∨ i ∈ comparisonSeeds ∨ i ∈ reports.candidateEdges := by
    rintro rfl
    exact ⟨hown, fun _ hi => hi, fun _ hi => .inl hi⟩
  have hmember : ∀ n ∈ reports.candidateEdges, seeds = own.insert n → seeds.Nodup ∧ (∀ i ∈ own, i ∈ seeds)
      ∧ ∀ i ∈ seeds, i ∈ own ∨ i ∈ comparisonSeeds ∨ i ∈ reports.candidateEdges := by
    rintro n hn rfl
    refine ⟨hown.insert, fun i hi => List.mem_insert_of_mem hi, fun i hi => ?_⟩
    rcases List.mem_insert_iff.mp hi with rfl | hi
    . exact .inr (.inr hn)
    . exact .inl hi
  unfold bindSeeds at h
  split at h
  . split at h
    . split at h
      . cases h
        refine ⟨hcomparison.union own, fun i hi => List.mem_union_iff.mpr (.inl hi), fun i hi => ?_⟩
        rcases List.mem_union_iff.mp hi with hi | hi
        . exact .inl hi
        . exact .inr (.inl hi)
      . cases h
    . cases h
  . split at h
    . split at h
      . split at h
        . next member hfind =>
          cases h
          refine hmember _ ?_ rfl
          exact List.mem_append_right _ (List.mem_map_of_mem (List.mem_of_find?_eq_some hfind))
        . exact hsame (Except.ok.inj h).symm
      . cases h
    . cases h
  . split at h
    . split at h
      . split at h
        . split at h
          . next hget =>
            cases h
            exact hmember _ (List.mem_append_left _ (List.mem_of_getElem? hget)) rfl
          . cases h
        . exact hsame (Except.ok.inj h).symm
      . cases h
    . cases h
  . exact hsame (Except.ok.inj h).symm

structure IsFrame (sources roots : List Source) (edges : List (Edge Source)) (frontier : List Occurrence)
    (pairs : List (Nat × Nat)) (rule : RuleInput) (frame : DependencyFrame) : Prop where
  ruleIndex_eq : frame.ruleIndex = rule.ruleIndex
  ruleId_eq : frame.ruleId = rule.ruleId
  isWalk : ∃ seeds, (∀ i ∈ seeds, LeavesRoot roots edges i)
    ∧ IsWalk sources roots edges frontier seeds frame.coordinates
  own_mem : ∀ i, (rule.ruleIndex, i) ∈ pairs → i ∈ frame.coordinates.seedEdgeIndexes

section Derivation

variable {canonicalLength : Charged Source Observation Context → Nat} {reports : Reports Source}
  {comparisonSeeds : List Nat} {limits : ReferenceLimits} {state next : RulesState}

omit [DecidableEq Observation] [DecidableEq Context] in
theorem deriveRule_spec (hc : Captured key sources roots edges frontier)
    (hi : Indexed sources roots edges frontier indexes) (hcomparison : comparisonSeeds.Nodup)
    (hcomparisonRoot : ∀ i ∈ comparisonSeeds, LeavesRoot roots edges i)
    (hmembers : ∀ i ∈ reports.candidateEdges, LeavesRoot roots edges i)
    (hnodup : (state.ruleSeeds.map Prod.snd).Nodup)
    (hroot : ∀ row ∈ state.ruleSeeds, LeavesRoot roots edges row.2) {original : RuleInput}
    (h : deriveRule key canonicalLength indexes reports comparisonSeeds limits state original = .ok next)
    : next.ruleSeeds = state.ruleSeeds.filter (fun row => row.1 ≠ original.ruleIndex)
        ∧ ∃ frame, next.rules = state.rules ++ [frame]
          ∧ IsFrame sources roots edges frontier state.ruleSeeds original frame := by
  unfold deriveRule at h
  obtain ⟨seeds, hbind, h⟩ := Checks.bind_eq_ok.mp h
  obtain ⟨coordinates, hwalk, h⟩ := Checks.bind_eq_ok.mp h
  obtain ⟨usage, _, h⟩ := Checks.bind_eq_ok.mp h
  cases h
  obtain ⟨hseeds, hown, hbound⟩ := bindSeeds_spec hbind hcomparison
    (hnodup.sublist (List.filter_sublist.map Prod.snd))
  have hleaves : ∀ i ∈ seeds, LeavesRoot roots edges i := by
    intro i hmem
    rcases hbound i hmem with hmem | hmem | hmem
    . obtain ⟨row, hrow, rfl⟩ := List.mem_map.mp hmem
      exact hroot row (List.mem_of_mem_filter hrow)
    . exact hcomparisonRoot i hmem
    . exact hmembers i hmem
  obtain ⟨found, hfound, hspec⟩ := walk_isWalk hc hi hseeds hleaves
  rw [hwalk] at hfound
  cases hfound
  refine ⟨rfl, _, rfl, rfl, rfl, ⟨seeds, hleaves, hspec⟩, fun i hmem => ?_⟩
  refine (hspec.seeds_iff i).mpr (hown i (List.mem_map.mpr ⟨_, List.mem_filter.mpr ⟨hmem, ?_⟩, rfl⟩))
  exact decide_eq_true rfl

omit [DecidableEq Observation] [DecidableEq Context] in
theorem foldlM_deriveRule (hc : Captured key sources roots edges frontier)
    (hi : Indexed sources roots edges frontier indexes) (hcomparison : comparisonSeeds.Nodup)
    (hcomparisonRoot : ∀ i ∈ comparisonSeeds, LeavesRoot roots edges i)
    (hmembers : ∀ i ∈ reports.candidateEdges, LeavesRoot roots edges i) {rules : List RuleInput}
    (hrules : (rules.map RuleInput.ruleIndex).Nodup) (hnodup : (state.ruleSeeds.map Prod.snd).Nodup)
    (hroot : ∀ row ∈ state.ruleSeeds, LeavesRoot roots edges row.2) {pairs : List (Nat × Nat)}
    (hpairs : ∀ row ∈ pairs, row.1 ∈ rules.map RuleInput.ruleIndex → row ∈ state.ruleSeeds)
    (h : rules.foldlM (deriveRule key canonicalLength indexes reports comparisonSeeds limits) state = .ok next)
    : (∃ frames, next.rules = state.rules ++ frames
          ∧ List.Forall₂ (IsFrame sources roots edges frontier pairs) rules frames)
        ∧ ∀ row ∈ state.ruleSeeds, row.1 ∉ rules.map RuleInput.ruleIndex → row ∈ next.ruleSeeds := by
  induction rules generalizing state with
  | nil =>
    cases h
    exact ⟨⟨[], (List.append_nil _).symm, .nil⟩, fun row hrow _ => hrow⟩
  | cons rule rules ih =>
    rw [List.foldlM_cons] at h
    obtain ⟨middle, hmiddle, h⟩ := Checks.bind_eq_ok.mp h
    rw [List.map_cons, List.nodup_cons] at hrules
    obtain ⟨hseeds, frame, hframe, hisFrame⟩ :=
      deriveRule_spec hc hi hcomparison hcomparisonRoot hmembers hnodup hroot hmiddle
    have hmem : ∀ row, row ∈ middle.ruleSeeds ↔ row ∈ state.ruleSeeds ∧ row.1 ≠ rule.ruleIndex := by
      intro row
      rw [hseeds, List.mem_filter, decide_eq_true_eq]
    have hsub : middle.ruleSeeds.Sublist state.ruleSeeds := by
      rw [hseeds]
      exact List.filter_sublist
    obtain ⟨⟨frames, hframes, hall⟩, hkept⟩ := ih hrules.2 (hnodup.sublist (hsub.map Prod.snd))
      (fun row hrow => hroot row (hsub.subset hrow))
      (fun row hrow hother => (hmem row).mpr
        ⟨hpairs row hrow (List.mem_cons_of_mem _ hother), fun heq => hrules.1 (heq ▸ hother)⟩) h
    refine ⟨⟨frame :: frames, by rw [hframes, hframe, List.append_assoc]; rfl, .cons ?_ hall⟩, ?_⟩
    . exact { hisFrame with own_mem := fun i hi' => hisFrame.own_mem i (hpairs _ hi' List.mem_cons_self) }
    . intro row hrow hnot
      rw [List.map_cons, List.mem_cons, not_or] at hnot
      exact hkept row ((hmem row).mpr ⟨hrow, hnot.1⟩) hnot.2

def RecordGraph.entrySources (graph : RecordGraph Source Observation Context) : List Source :=
  graph.recordClosure.entries.map ManifestEntry.source

def RecordGraph.IsCaptured (key : Source → κ) (graph : RecordGraph Source Observation Context) : Prop :=
  Captured key graph.entrySources graph.roots graph.edges graph.recordClosure.frontier

structure Bound (key : Source → κ) (graph : RecordGraph Source Observation Context) (reports : Reports Source)
    (ruleInputs : PolicyRuleInputs Source Context) : Prop where
  policy_mem : ruleInputs.policy ∈ graph.roots
  candidate_mem : ruleInputs.candidate ∈ graph.roots
  members : ∀ i ∈ reports.candidateEdges, ∃ edge : Edge Source, graph.edges[i]? = some edge
    ∧ key edge.parent = key ruleInputs.candidate

omit [DecidableEq Source] [DecidableEq κ] [DecidableEq Observation] [DecidableEq Context] in
theorem PolicyRuleInputs.nodup (ruleInputs : PolicyRuleInputs Source Context)
    : (ruleInputs.rules.map RuleInput.ruleIndex).Nodup := by
  rw [ruleInputs.ruleIndexes]
  exact List.nodup_range

theorem filterMap_snd_sublist {α : Type} {f : α × Nat → Option (Nat × Nat)}
    (h : ∀ row pair, f row = some pair → pair.2 = row.2) (rows : List (α × Nat))
    : ((rows.filterMap f).map Prod.snd).Sublist (rows.map Prod.snd) := by
  induction rows with
  | nil => exact List.Sublist.refl _
  | cons row rows ih =>
    cases hrow : f row with
    | none =>
      rw [List.filterMap_cons_none hrow]
      exact ih.cons _
    | some pair =>
      rw [List.filterMap_cons_some hrow, List.map_cons, List.map_cons, h row pair hrow]
      exact ih.cons_cons _

omit [DecidableEq Source] in
theorem nodup_ruleSeeds : ((ruleSeeds key policy candidate edges).map Prod.snd).Nodup := by
  refine (nodup_zipIdx_snd edges).sublist (filterMap_snd_sublist (fun row pair hpair => ?_) _)
  split at hpair
  . cases hpair
    rfl
  all_goals cases hpair

theorem deriveCapturedRuleDependencies_eq_ok
    {deriveCapturedRecordClosure :
      RecordGraph Source Observation Context → Except DependencyError (RecordClosure Source Observation)}
    {requestContext : Context} {graph : RecordGraph Source Observation Context}
    {ruleInputs : PolicyRuleInputs Source Context} {closure : RuleDependencyClosure Source Observation Context}
    (h : deriveCapturedRuleDependencies key canonicalLength deriveCapturedRecordClosure requestContext graph reports
      ruleInputs limits = .ok closure)
    : ∃ (indexes : Indexes Source) (usage : Usage) (final : RulesState),
        dependencyIndexes key graph.entrySources graph.roots graph.edges graph.recordClosure.frontier = .ok indexes
        ∧ walk key indexes (seedsOf key ruleInputs.policy ruleInputs.candidate graph.edges .root)
            = .ok closure.rootContext
        ∧ ruleInputs.rules.foldlM (deriveRule key canonicalLength indexes reports
            (seedsOf key ruleInputs.policy ruleInputs.candidate graph.edges .comparison) limits)
            ⟨ruleSeeds key ruleInputs.policy ruleInputs.candidate graph.edges, [], usage⟩ = .ok final
        ∧ final.ruleSeeds = [] ∧ closure.rules = final.rules := by
  unfold deriveCapturedRuleDependencies at h
  obtain ⟨_, _, h⟩ := Checks.bind_eq_ok.mp h
  obtain ⟨derived, _, h⟩ := Checks.bind_eq_ok.mp h
  obtain ⟨_, hsame, h⟩ := Checks.bind_eq_ok.mp h
  have hderived : derived = graph.recordClosure := by
    simpa using Checks.failIf_eq_ok.mp hsame
  subst hderived
  obtain ⟨_, _, h⟩ := Checks.bind_eq_ok.mp h
  obtain ⟨_, _, h⟩ := Checks.bind_eq_ok.mp h
  obtain ⟨_, _, h⟩ := Checks.bind_eq_ok.mp h
  obtain ⟨indexes, hindexes, h⟩ := Checks.bind_eq_ok.mp h
  obtain ⟨rootContext, hwalk, h⟩ := Checks.bind_eq_ok.mp h
  obtain ⟨usage, _, h⟩ := Checks.bind_eq_ok.mp h
  obtain ⟨final, hfold, h⟩ := Checks.bind_eq_ok.mp h
  obtain ⟨_, hempty, h⟩ := Checks.bind_eq_ok.mp h
  cases h
  exact ⟨indexes, usage, final, hindexes, hwalk, hfold, by simpa using Checks.failIf_eq_ok.mp hempty, rfl⟩

/-- The frame of a rule: a walk from seeds that leave a root, with every edge of the policy under the path of the
rule among the seeds. -/
structure IsDependencyFrame (key : Source → κ) (graph : RecordGraph Source Observation Context) (policy : Source)
    (rule : RuleInput) (frame : DependencyFrame) : Prop where
  ruleIndex_eq : frame.ruleIndex = rule.ruleIndex
  ruleId_eq : frame.ruleId = rule.ruleId
  isWalk : ∃ seeds, (∀ i ∈ seeds, LeavesRoot graph.roots graph.edges i)
    ∧ IsWalk graph.entrySources graph.roots graph.edges graph.recordClosure.frontier seeds frame.coordinates
  own_mem : ∀ (i : Nat) (edge : Edge Source), graph.edges[i]? = some edge → key edge.parent = key policy →
    ruleOfPath edge.path = some rule.ruleIndex → i ∈ frame.coordinates.seedEdgeIndexes

theorem frames_of_derive {deriveCapturedRecordClosure :
      RecordGraph Source Observation Context → Except DependencyError (RecordClosure Source Observation)}
    {requestContext : Context} {graph : RecordGraph Source Observation Context}
    {ruleInputs : PolicyRuleInputs Source Context} {closure : RuleDependencyClosure Source Observation Context}
    (hc : graph.IsCaptured key) (hbound : Bound key graph reports ruleInputs)
    (h : deriveCapturedRuleDependencies key canonicalLength deriveCapturedRecordClosure requestContext graph reports
      ruleInputs limits = .ok closure)
    : IsWalk graph.entrySources graph.roots graph.edges graph.recordClosure.frontier
          (seedsOf key ruleInputs.policy ruleInputs.candidate graph.edges .root) closure.rootContext
        ∧ List.Forall₂ (IsDependencyFrame key graph ruleInputs.policy) ruleInputs.rules closure.rules
        ∧ ∀ (i n : Nat) (edge : Edge Source), graph.edges[i]? = some edge → key edge.parent = key ruleInputs.policy →
          ruleOfPath edge.path = some n → n < ruleInputs.rules.length := by
  obtain ⟨indexes, usage, final, hindexes, hroot, hfold, hempty, hrules⟩ := deriveCapturedRuleDependencies_eq_ok h
  obtain ⟨found, hfound, hi⟩ := exists_dependencyIndexes hc
  rw [hindexes] at hfound
  cases hfound
  have hseeds : ∀ {wanted}, wanted ≠ .other → ∀ i ∈ seedsOf key ruleInputs.policy ruleInputs.candidate graph.edges
      wanted, LeavesRoot graph.roots graph.edges i := by
    intro wanted hwanted i hmem
    obtain ⟨edge, hedge, hclass⟩ := mem_seedsOf.mp hmem
    refine hc.leavesRoot_of_seedClass hbound.policy_mem hbound.candidate_mem hedge ?_
    rw [hclass]
    exact hwanted
  have hpairs : ∀ row ∈ ruleSeeds key ruleInputs.policy ruleInputs.candidate graph.edges,
      LeavesRoot graph.roots graph.edges row.2 := by
    rintro ⟨ruleIndex, i⟩ hmem
    obtain ⟨edge, hedge, hclass⟩ := mem_ruleSeeds.mp hmem
    refine hc.leavesRoot_of_seedClass hbound.policy_mem hbound.candidate_mem hedge ?_
    rw [hclass]
    exact SeedClass.noConfusion
  have hmembers : ∀ i ∈ reports.candidateEdges, LeavesRoot graph.roots graph.edges i := by
    intro i hmem
    obtain ⟨edge, hedge, hkey⟩ := hbound.members i hmem
    exact hc.leavesRoot hbound.candidate_mem hedge hkey
  have hown : ∀ (i n : Nat) (edge : Edge Source), graph.edges[i]? = some edge →
      key edge.parent = key ruleInputs.policy → ruleOfPath edge.path = some n →
      (n, i) ∈ ruleSeeds key ruleInputs.policy ruleInputs.candidate graph.edges :=
    fun i n edge hedge hkey hpath => mem_ruleSeeds.mpr ⟨edge, hedge, seedClass_eq_rule.mpr ⟨hkey, hpath⟩⟩
  obtain ⟨⟨frames, hframes, hall⟩, hkept⟩ := foldlM_deriveRule hc hi nodup_seedsOf
    (hseeds SeedClass.noConfusion) hmembers ruleInputs.nodup nodup_ruleSeeds hpairs (fun row hrow _ => hrow) hfold
  refine ⟨?_, ?_, ?_⟩
  . obtain ⟨coordinates, hcoordinates, hspec⟩ := walk_isWalk hc hi nodup_seedsOf
      (hseeds (show SeedClass.root ≠ .other from SeedClass.noConfusion))
    rw [hroot] at hcoordinates
    cases hcoordinates
    exact hspec
  . rw [hrules, hframes, List.nil_append]
    exact hall.imp (fun rule frame hframe => {
      ruleIndex_eq := hframe.ruleIndex_eq
      ruleId_eq := hframe.ruleId_eq
      isWalk := hframe.isWalk
      own_mem := fun i edge hedge hkey hpath => hframe.own_mem i (hown i _ edge hedge hkey hpath) })
  . -- what no rule took would be left over
    intro i n edge hedge hkey hpath
    by_contra hnot
    have hleft := hkept (n, i) (hown i n edge hedge hkey hpath) (by
      rw [ruleInputs.ruleIndexes, List.mem_range]
      exact hnot)
    rw [hempty] at hleft
    exact List.not_mem_nil hleft

/-- Each walk ends with the least closed set of edges, walks commute with unions, and each rule has its frame. -/
theorem ruleDependencies_least {graph : RecordGraph Source Observation Context} (hc : graph.IsCaptured key)
    : ∃ indexes : Indexes Source,
        dependencyIndexes key graph.entrySources graph.roots graph.edges graph.recordClosure.frontier = .ok indexes
        ∧ (∀ seeds : List Nat, seeds.Nodup → (∀ i ∈ seeds, LeavesRoot graph.roots graph.edges i) →
            ∃ coordinates, walk key indexes seeds = .ok coordinates
              ∧ IsWalk graph.entrySources graph.roots graph.edges graph.recordClosure.frontier seeds coordinates)
        ∧ (∀ left right : List Nat, left.Nodup → right.Nodup →
            (∀ i ∈ left ∪ right, LeavesRoot graph.roots graph.edges i) →
            ∃ fromLeft fromRight, walk key indexes left = .ok fromLeft ∧ walk key indexes right = .ok fromRight
              ∧ walk key indexes (left ∪ right) = .ok (fromLeft.union fromRight))
        ∧ ∀ (canonicalLength : Charged Source Observation Context → Nat)
            (deriveCapturedRecordClosure :
              RecordGraph Source Observation Context → Except DependencyError (RecordClosure Source Observation))
            (requestContext : Context) (reports : Reports Source) (ruleInputs : PolicyRuleInputs Source Context)
            (limits : ReferenceLimits) (closure : RuleDependencyClosure Source Observation Context),
            Bound key graph reports ruleInputs →
            deriveCapturedRuleDependencies key canonicalLength deriveCapturedRecordClosure requestContext graph
              reports ruleInputs limits = .ok closure →
            IsWalk graph.entrySources graph.roots graph.edges graph.recordClosure.frontier
                (seedsOf key ruleInputs.policy ruleInputs.candidate graph.edges .root) closure.rootContext
              ∧ List.Forall₂ (IsDependencyFrame key graph ruleInputs.policy) ruleInputs.rules closure.rules
              ∧ ∀ (i n : Nat) (edge : Edge Source), graph.edges[i]? = some edge →
                key edge.parent = key ruleInputs.policy → ruleOfPath edge.path = some n →
                n < ruleInputs.rules.length := by
  obtain ⟨indexes, hindexes, hi⟩ := exists_dependencyIndexes hc
  refine ⟨indexes, hindexes, fun seeds => walk_isWalk hc hi, ?_, ?_⟩
  . intro left right hleft hright h
    obtain ⟨fromLeft, hfromLeft, hl⟩ := walk_isWalk hc hi hleft
      (fun i hmem => h i (List.mem_union_iff.mpr (.inl hmem)))
    obtain ⟨fromRight, hfromRight, hr⟩ := walk_isWalk hc hi hright
      (fun i hmem => h i (List.mem_union_iff.mpr (.inr hmem)))
    obtain ⟨both, hboth, hb⟩ := walk_isWalk hc hi (hright.union left) h
    rw [hl.eq_union hr hb] at hboth
    exact ⟨fromLeft, fromRight, hfromLeft, hfromRight, hboth⟩
  . intro canonicalLength deriveClosure requestContext reports ruleInputs limits closure hbound hderive
    exact frames_of_derive hc hbound hderive

end Derivation

end Rules

namespace DependencySample

-- the candidate 0 and the policy 1 lead to 2, whose protocol is 3, which leads back to the candidate
def edges : List (Edge Nat) :=
  [⟨1, "/rules/0/predicate/comparison", some 2, []⟩, ⟨0, "/comparisons/0", some 2, []⟩,
    ⟨2, "/protocol", none, [.retained 3, .unavailable]⟩, ⟨3, "/candidate", some 0, []⟩, ⟨0, "/name", none, []⟩]

def recordClosure : RecordClosure Nat Unit :=
  { entries := [⟨0, ()⟩, ⟨1, ()⟩, ⟨2, ()⟩, ⟨3, ()⟩]
    frontier := [⟨2, .retainedDeclaration⟩, ⟨4, .artifact⟩]
    references := 5
    referenceBytes := 5 }

def graph : RecordGraph Nat Unit Unit :=
  { context := (), roots := [0, 1], edges, recordClosure }

def reports : Reports Nat :=
  { artifactMembers := [], artifactRules := [], comparisonRules := [⟨0, "rule"⟩], assessmentMembers := [],
    assessmentRules := [] }

def ruleInputs : PolicyRuleInputs Nat Unit :=
  { context := (), candidate := 0, policy := 1, rules := [⟨0, "rule", .comparison 0⟩], ruleIndexes := rfl }

def rootContext : Coordinates :=
  { seedEdgeIndexes := [4], sourceIndexes := [0, 1], edgeIndexes := [4], frontierIndexes := [1] }

def frame : DependencyFrame :=
  ⟨0, "rule",
    { seedEdgeIndexes := [0, 1], sourceIndexes := [0, 1, 2, 3], edgeIndexes := [0, 1, 2, 3],
      frontierIndexes := [0] }⟩

def closure : RuleDependencyClosure Nat Unit Unit :=
  { context := (), sources := recordClosure.entries, frontier := recordClosure.frontier, rootContext, rules := [frame],
    inspectionUsage := ⟨30, 14⟩ }

theorem graph_captured : graph.IsCaptured id where
  keys := by decide
  roots_mem := by decide
  parents_mem := by decide
  targets_mem := by decide
  occurrences := by decide

theorem graph_bound : Bound id graph reports ruleInputs where
  policy_mem := by decide
  candidate_mem := by decide
  members := by
    intro i hmem
    cases hmem

theorem graph_derived
    : deriveCapturedRuleDependencies id (fun _ => 1) (fun _ => .ok recordClosure) () graph reports ruleInputs
        ⟨100, 100⟩ = .ok closure := by
  decide

theorem ruleDependencies_least_graph
    : deriveCapturedRuleDependencies id (fun _ => 1) (fun _ => .ok recordClosure) () graph reports ruleInputs
          ⟨100, 100⟩ = .ok closure
        ∧ IsWalk [0, 1, 2, 3] graph.roots edges recordClosure.frontier [4] rootContext
        ∧ List.Forall₂ (IsDependencyFrame id graph 1) ruleInputs.rules [frame] := by
  obtain ⟨indexes, hindexes, hwalk, hunion, hderive⟩ := ruleDependencies_least graph_captured
  obtain ⟨hroot, hrules, hpaths⟩ := hderive _ _ _ _ _ _ _ graph_bound graph_derived
  exact ⟨graph_derived, hroot, hrules⟩

end DependencySample

end RuleDependencies
end ProofStack
