import Mathlib.Logic.Relation
import ProofStack.Store.Table

/-!
This module contains the versions of immutable resources.
-/

namespace ProofStack
namespace Store

variable {α κ σ δ : Type}

structure Binding (κ σ : Type) where
  rootVersionId : κ
  scope : σ
  deriving DecidableEq

structure Lineage (α κ σ δ : Type) where
  key : α → κ
  resource : α → κ
  scope : α → σ
  digest : α → δ
  predecessor : α → Option (κ × δ)

namespace Lineage

variable [DecidableEq κ] (lineage : Lineage α κ σ δ)
variable {resources : Table κ (Binding κ σ)} {versions versions' : Table κ α} {version parent root : α}

/-- The parent is the stored version of the same resource and scope that the version names exactly. -/
structure Continues (versions : Table κ α) (version parent : α) : Prop where
  named : lineage.predecessor version = some (lineage.key parent, lineage.digest parent)
  stored : versions.lookup (lineage.key parent) = some parent
  resource : lineage.resource parent = lineage.resource version
  scope : lineage.scope parent = lineage.scope version

def Reaches (versions : Table κ α) (version root : α) : Prop :=
  Relation.ReflTransGen (lineage.Continues versions) version root

structure Rooted (resources : Table κ (Binding κ σ)) (versions : Table κ α) : Prop where
  keyed : Table.Keyed lineage.key versions
  root : ∀ resource binding, resources.lookup resource = some binding →
    ∃ root, versions.lookup binding.rootVersionId = some root ∧ lineage.resource root = resource
      ∧ lineage.scope root = binding.scope ∧ lineage.predecessor root = none
  bound : ∀ k version, versions.lookup k = some version →
    ∃ binding, resources.lookup (lineage.resource version) = some binding
      ∧ binding.scope = lineage.scope version
      ∧ (lineage.predecessor version = none → k = binding.rootVersionId)
  reaches : ∀ k version, versions.lookup k = some version →
    ∃ root, versions.lookup (lineage.key root) = some root ∧ lineage.predecessor root = none
      ∧ lineage.Reaches versions version root

variable {lineage}

theorem Continues.mono (hgrows : ∀ k row, versions.lookup k = some row → versions'.lookup k = some row)
    (h : lineage.Continues versions version parent)
    : lineage.Continues versions' version parent where
  named := h.named
  stored := hgrows _ _ h.stored
  resource := h.resource
  scope := h.scope

theorem Reaches.mono (hgrows : ∀ k row, versions.lookup k = some row → versions'.lookup k = some row)
    (h : lineage.Reaches versions version root)
    : lineage.Reaches versions' version root := by
  induction h with
  | refl => exact Relation.ReflTransGen.refl
  | tail _ hlast ih => exact Relation.ReflTransGen.tail ih (hlast.mono hgrows)

theorem Reaches.same (h : lineage.Reaches versions version root)
    : lineage.resource root = lineage.resource version ∧ lineage.scope root = lineage.scope version := by
  induction h with
  | refl => exact ⟨rfl, rfl⟩
  | tail _ hlast ih => exact ⟨hlast.resource.trans ih.1, hlast.scope.trans ih.2⟩

namespace Rooted

theorem empty : lineage.Rooted (∅ : Table κ (Binding κ σ)) ∅ where
  keyed := Table.Keyed.empty
  root _ _ h := by contradiction
  bound _ _ h := by contradiction
  reaches _ _ h := by contradiction

theorem exists_root (h : lineage.Rooted resources versions) {k : κ}
    (hstored : versions.lookup k = some version)
    : ∃ binding root, resources.lookup (lineage.resource version) = some binding
        ∧ binding.scope = lineage.scope version
        ∧ versions.lookup binding.rootVersionId = some root
        ∧ lineage.predecessor root = none
        ∧ lineage.Reaches versions version root
        ∧ ∀ k' other, versions.lookup k' = some other → lineage.resource other = lineage.resource version →
            lineage.predecessor other = none → other = root := by
  rcases h.bound k version hstored with ⟨binding, hbinding, hscope, _⟩
  rcases h.reaches k version hstored with ⟨root, hroot, hnone, hreaches⟩
  -- The resource is bound to one version, and a version without predecessor is that one.
  have hbound : ∀ k' other, versions.lookup k' = some other →
      lineage.resource other = lineage.resource version → lineage.predecessor other = none →
        k' = binding.rootVersionId := by
    intro k' other hother hresource hpredecessor
    rcases h.bound k' other hother with ⟨binding', hbinding', _, himp⟩
    rw [hresource, hbinding] at hbinding'
    cases hbinding'
    exact himp hpredecessor
  have hkey := hbound _ root hroot hreaches.same.1 hnone
  rw [hkey] at hroot
  refine ⟨binding, root, hbinding, hscope, hroot, hnone, hreaches, ?_⟩
  intro k' other hother hresource hpredecessor
  rw [hbound k' other hother hresource hpredecessor, hroot] at hother
  exact (Option.some.inj hother).symm

theorem insert_root (h : lineage.Rooted resources versions)
    (hresource : resources.lookup (lineage.resource version) = none)
    (hfresh : versions.lookup (lineage.key version) = none) (hnone : lineage.predecessor version = none)
    : lineage.Rooted
        (resources.insert (lineage.resource version) ⟨lineage.key version, lineage.scope version⟩)
        (versions.insert (lineage.key version) version) := by
  have hgrows : ∀ k row, versions.lookup k = some row →
      (versions.insert (lineage.key version) version).lookup k = some row :=
    fun k row => Table.lookup_insert_of_fresh hfresh
  constructor
  . exact h.keyed.insert version
  . intro resource binding hbinding
    rcases Table.lookup_insert_eq_some hbinding with ⟨rfl, rfl⟩ | ⟨_, hbinding⟩
    . exact ⟨version, AList.lookup_insert _, rfl, rfl, hnone⟩
    . rcases h.root resource binding hbinding with ⟨root, hroot, hrest⟩
      exact ⟨root, hgrows _ _ hroot, hrest⟩
  . intro k other hother
    rcases Table.lookup_insert_eq_some hother with ⟨rfl, rfl⟩ | ⟨_, hother⟩
    . exact ⟨_, AList.lookup_insert _, rfl, fun _ => rfl⟩
    . rcases h.bound k other hother with ⟨binding, hbinding, hrest⟩
      exact ⟨binding, Table.lookup_insert_of_fresh hresource hbinding, hrest⟩
  . intro k other hother
    rcases Table.lookup_insert_eq_some hother with ⟨rfl, rfl⟩ | ⟨_, hother⟩
    . exact ⟨other, hother, hnone, Relation.ReflTransGen.refl⟩
    . rcases h.reaches k other hother with ⟨root, hroot, hpredecessor, hreaches⟩
      exact ⟨root, hgrows _ _ hroot, hpredecessor, hreaches.mono hgrows⟩

theorem insert_child (h : lineage.Rooted resources versions) {binding : Binding κ σ}
    (hresource : resources.lookup (lineage.resource version) = some binding)
    (hscope : binding.scope = lineage.scope version)
    (hfresh : versions.lookup (lineage.key version) = none)
    (hcontinues : lineage.Continues versions version parent)
    : lineage.Rooted resources (versions.insert (lineage.key version) version) := by
  have hgrows : ∀ k row, versions.lookup k = some row →
      (versions.insert (lineage.key version) version).lookup k = some row :=
    fun k row => Table.lookup_insert_of_fresh hfresh
  constructor
  . exact h.keyed.insert version
  . intro resource binding hbinding
    rcases h.root resource binding hbinding with ⟨root, hroot, hrest⟩
    exact ⟨root, hgrows _ _ hroot, hrest⟩
  . intro k other hother
    rcases Table.lookup_insert_eq_some hother with ⟨rfl, rfl⟩ | ⟨_, hother⟩
    . refine ⟨binding, hresource, hscope, ?_⟩
      intro hnone
      rw [hcontinues.named] at hnone
      contradiction
    . exact h.bound k other hother
  . intro k other hother
    rcases Table.lookup_insert_eq_some hother with ⟨rfl, rfl⟩ | ⟨_, hother⟩
    . rcases h.reaches _ parent hcontinues.stored with ⟨root, hroot, hpredecessor, hreaches⟩
      exact ⟨root, hgrows _ _ hroot, hpredecessor,
        Relation.ReflTransGen.head (hcontinues.mono hgrows) (hreaches.mono hgrows)⟩
    . rcases h.reaches k other hother with ⟨root, hroot, hpredecessor, hreaches⟩
      exact ⟨root, hgrows _ _ hroot, hpredecessor, hreaches.mono hgrows⟩

end Rooted

end Lineage

end Store
end ProofStack
