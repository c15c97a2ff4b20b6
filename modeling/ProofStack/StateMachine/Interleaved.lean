import Mathlib.Algebra.GroupWithZero.Nat
import ProofStack.StateMachine.Run

/-!
This module contains processes that share a state and whose steps are taken in any order.
-/

namespace ProofStack
namespace StateMachine

variable {σ π α : Type}

structure Interleaved (σ π : Type) where
  shared : σ
  processes : List π

inductive Action (π α : Type) where
  | start (process : π)
  | advance (index : Nat) (answer : α)

theorem sum_map_set {g : π → Nat} {processes : List π} {index : Nat} {process : π}
    (h : processes[index]? = some process) (process' : π)
    : ((processes.set index process').map g).sum + g process = (processes.map g).sum + g process' := by
  induction processes generalizing index with
  | nil => simp at h
  | cons first others ih =>
    cases index with
    | zero =>
      cases h
      simp only [List.set_cons_zero, List.map_cons, List.sum_cons]
      omega
    | succ index =>
      rw [List.getElem?_cons_succ] at h
      have hothers := ih h
      simp only [List.set_cons_succ, List.map_cons, List.sum_cons]
      omega

namespace Interleaved

variable (advance : σ → π → α → σ × π)

def step (s : Interleaved σ π) : Action π α → Interleaved σ π
  | .start process => { s with processes := s.processes ++ [process] }
  | .advance index answer =>
    match s.processes[index]? with
    | none => s
    | some process =>
      let advanced := advance s.shared process answer
      { shared := advanced.1, processes := s.processes.set index advanced.2 }

def Allowed (initial : π → Prop) (allowed : List π → σ → π → α → Prop) (s : Interleaved σ π)
    : Action π α → Prop
  | .start process => initial process
  | .advance index answer =>
    ∀ process, s.processes[index]? = some process → allowed s.processes s.shared process answer

structure Holds (I : σ → Prop) (A : σ → π → Prop) (s : Interleaved σ π) : Prop where
  shared : I s.shared
  processes : ∀ process ∈ s.processes, A s.shared process

structure Noninterfering (initial : π → Prop) (allowed : List π → σ → π → α → Prop) (I : σ → Prop)
    (A : σ → π → Prop) (G : List π → σ → σ → Prop) : Prop where
  initial : ∀ {s : σ} {process : π}, initial process → A s process
  guarantee : ∀ {processes : List π} {s : σ} {process : π} {answer : α},
    I s → process ∈ processes → A s process → allowed processes s process answer →
      G processes s (advance s process answer).1
  invariant : ∀ {processes : List π} {s : σ} {process : π} {answer : α},
    I s → process ∈ processes → (∀ other ∈ processes, A s other) →
      allowed processes s process answer → I (advance s process answer).1
  own : ∀ {processes : List π} {s : σ} {process : π} {answer : α},
    I s → process ∈ processes → A s process → allowed processes s process answer →
      A (advance s process answer).1 (advance s process answer).2
  stable : ∀ {processes : List π} {s s' : σ} {process : π},
    G processes s s' → process ∈ processes → A s process → A s' process

variable {advance} {initial : π → Prop} {allowed : List π → σ → π → α → Prop} {I : σ → Prop}
variable {A : σ → π → Prop} {G : List π → σ → σ → Prop}

theorem Noninterfering.holds_step (h : Noninterfering advance initial allowed I A G)
    {s : Interleaved σ π} {action : Action π α} (hallowed : Allowed initial allowed s action)
    (hs : Holds I A s)
    : Holds I A (step advance s action) := by
  cases action with
  | start process =>
    constructor
    . exact hs.shared
    . intro other hother
      cases List.mem_append.mp hother with
      | inl hother => exact hs.processes other hother
      | inr hother =>
        rw [List.mem_singleton.mp hother]
        exact h.initial hallowed
  | advance index answer =>
    unfold step
    dsimp only
    split
    . exact hs
    . next process hprocess =>
      have hmem := List.mem_of_getElem? hprocess
      have hprocessAllowed := hallowed process hprocess
      constructor
      . exact h.invariant hs.shared hmem hs.processes hprocessAllowed
      . intro other hother
        cases List.mem_or_eq_of_mem_set hother with
        | inl hother =>
          apply h.stable _ hother (hs.processes other hother)
          exact h.guarantee hs.shared hmem (hs.processes process hmem) hprocessAllowed
        | inr hother =>
          rw [hother]
          exact h.own hs.shared hmem (hs.processes process hmem) hprocessAllowed

theorem Noninterfering.holds (h : Noninterfering advance initial allowed I A G)
    {s s' : Interleaved σ π} (hrun : LaterWhen (Allowed initial allowed) (step advance) s s')
    (hs : Holds I A s)
    : Holds I A s' :=
  hrun.preserves (fun _ _ hallowed hs => h.holds_step hallowed hs) hs

end Interleaved

end StateMachine
end ProofStack
