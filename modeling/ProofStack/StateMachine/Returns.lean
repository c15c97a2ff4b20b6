import Mathlib.Data.List.Forall2
import ProofStack.StateMachine.Atomic

/-!
This module contains what is known of the value that a computation returns, whatever state it starts in,
and the computations whose value does not depend on the state while an invariant holds.
-/

namespace ProofStack
namespace StateMachine

variable {ε σ α β : Type}

def Returns (post : α → Prop) (computation : EStateM ε σ α) : Prop :=
  ∀ s a s', computation s = .ok a s' → post a

variable {continuation : α → EStateM ε σ β}

theorem bind_run_eq_ok {computation : EStateM ε σ α} {s s'' : σ} {b : β}
    (h : (computation >>= continuation) s = .ok b s'')
    : ∃ a s', computation s = .ok a s' ∧ continuation a s' = .ok b s'' := by
  cases hrun : computation s with
  | ok a s' =>
    rw [bind_run hrun] at h
    exact ⟨a, s', rfl, h⟩
  | error error s' =>
    rw [bind_run_error hrun] at h
    contradiction

namespace Returns

variable {post : α → Prop} {computation : EStateM ε σ α}

theorem pure {a : α} (h : post a) : Returns post (pure a : EStateM ε σ α) := by
  intro s b s' hrun
  cases hrun
  exact h

theorem throw (error : ε) : Returns post (throw error : EStateM ε σ α) := by
  intro s a s' hrun
  contradiction

theorem trivial (computation : EStateM ε σ α) : Returns (fun _ => True) computation :=
  fun _ _ _ _ => True.intro

theorem bind {next : β → Prop} (h : Returns post computation)
    (hnext : ∀ a, post a → Returns next (continuation a))
    : Returns next (computation >>= continuation) := by
  intro s b s'' hrun
  rcases bind_run_eq_ok hrun with ⟨a, s', hfirst, hrest⟩
  exact hnext a (h s a s' hfirst) s' b s'' hrest

theorem skip {next : β → Prop} (h : ∀ a, Returns next (continuation a))
    : Returns next (computation >>= continuation) :=
  Returns.bind (Returns.trivial _) (fun a _ => h a)

theorem bind_of_run {next : β → Prop}
    (hnext : ∀ s a s', computation s = .ok a s' → Returns next (continuation a))
    : Returns next (computation >>= continuation) := by
  intro s b s'' hrun
  rcases bind_run_eq_ok hrun with ⟨a, s', hfirst, hrest⟩
  exact hnext s a s' hfirst s' b s'' hrest

theorem ite {condition : Prop} [Decidable condition] {other : EStateM ε σ α}
    (h : condition → Returns post computation) (hother : ¬condition → Returns post other)
    : Returns post (if condition then computation else other) := by
  split
  . next hcondition => exact h hcondition
  . next hcondition => exact hother hcondition

theorem foldlM {rows : List β} {f : α → β → EStateM ε σ α} {invariant : List β → α → Prop} {start : α}
    (hstart : invariant [] start)
    (hstep : ∀ folded row a, invariant folded a → Returns (invariant (folded ++ [row])) (f a row))
    : Returns (invariant rows) (rows.foldlM f start) := by
  have hfrom : ∀ (rows folded : List β) (a : α), invariant folded a →
      Returns (invariant (folded ++ rows)) (rows.foldlM f a) := by
    intro rows
    induction rows with
    | nil =>
      intro folded a h
      rw [List.append_nil]
      exact pure h
    | cons row rows ih =>
      intro folded a h
      rw [List.foldlM_cons]
      refine Returns.bind (hstep folded row a h) ?_
      intro a' h'
      have hrest := ih (folded ++ [row]) a' h'
      rw [List.append_assoc] at hrest
      exact hrest
  exact hfrom rows [] start hstart

end Returns

/-- The state can make no difference to the value, as long as an invariant of the state holds. -/
def Yields (I : σ → Prop) (computation : EStateM ε σ α) (value : α) : Prop :=
  ∀ s, I s → ∃ s', I s' ∧ computation s = .ok value s'

namespace Yields

variable {I : σ → Prop} {computation : EStateM ε σ α} {a : α}

theorem pure (a : α) : Yields I (pure a : EStateM ε σ α) a :=
  fun s h => ⟨s, h, rfl⟩

theorem bind (h : Yields I computation a) {b : β}
    (hnext : Yields I (continuation a) b)
    : Yields I (computation >>= continuation) b := by
  intro s hs
  rcases h s hs with ⟨s', hs', hrun⟩
  rcases hnext s' hs' with ⟨s'', hs'', hrest⟩
  exact ⟨s'', hs'', by rw [bind_run hrun, hrest]⟩

theorem mapM {rows : List β} {f : β → EStateM ε σ α} {value : β → α}
    (h : ∀ row ∈ rows, Yields I (f row) (value row))
    : Yields I (rows.mapM f) (rows.map value) := by
  induction rows with
  | nil => exact pure []
  | cons row rows ih =>
    rw [List.mapM_cons]
    refine bind (h row List.mem_cons_self) ?_
    refine bind (ih (fun other hother => h other (List.mem_cons_of_mem _ hother))) ?_
    exact pure _

end Yields

def Attests (I : σ → Prop) (fact : Prop) (computation : EStateM ε σ α) : Prop :=
  ∀ s a s', I s → computation s = .ok a s' → I s' ∧ fact

namespace Attests

variable {I : σ → Prop} {fact other : Prop} {computation : EStateM ε σ α}

theorem pure (h : fact) (a : α) : Attests I fact (pure a : EStateM ε σ α) := by
  intro s b s' hs hrun
  cases hrun
  exact ⟨hs, h⟩

theorem throw (error : ε) : Attests I fact (throw error : EStateM ε σ α) := by
  intro s a s' _ hrun
  contradiction

theorem mono (h : Attests I fact computation) (himp : fact → other) : Attests I other computation :=
  fun s a s' hs hrun => ⟨(h s a s' hs hrun).1, himp (h s a s' hs hrun).2⟩

theorem bind (h : Attests I fact computation)
    (hnext : ∀ a, Attests I other (continuation a))
    : Attests I (fact ∧ other) (computation >>= continuation) := by
  intro s b s'' hs hrun
  rcases bind_run_eq_ok hrun with ⟨a, s', hfirst, hrest⟩
  obtain ⟨hs', hfact⟩ := h s a s' hs hfirst
  obtain ⟨hs'', hother⟩ := hnext a s' b s'' hs' hrest
  exact ⟨hs'', hfact, hother⟩

theorem mapM {rows : List β} {f : β → EStateM ε σ α} {facts : β → Prop} (h : ∀ row ∈ rows, Attests I (facts row) (f row))
    : Attests I (∀ row ∈ rows, facts row) (rows.mapM f) := by
  induction rows with
  | nil => exact pure nofun []
  | cons row rows ih =>
    rw [List.mapM_cons]
    refine mono (bind (h row List.mem_cons_self) (fun a => bind
      (ih (fun other hother => h other (List.mem_cons_of_mem _ hother))) (fun others => pure True.intro _))) ?_
    rintro ⟨hrow, hrows, _⟩
    exact List.forall_mem_cons.mpr ⟨hrow, hrows⟩

theorem foldlM {rows : List β} {f : α → β → EStateM ε σ α} {facts : β → Prop}
    (h : ∀ row ∈ rows, ∀ a, Attests I (facts row) (f a row)) (start : α)
    : Attests I (∀ row ∈ rows, facts row) (rows.foldlM f start) := by
  induction rows generalizing start with
  | nil => exact pure nofun start
  | cons row rows ih =>
    rw [List.foldlM_cons]
    refine mono (bind (h row List.mem_cons_self start)
      (fun a => ih (fun other hother => h other (List.mem_cons_of_mem _ hother)) a)) ?_
    rintro ⟨hrow, hrows⟩
    exact List.forall_mem_cons.mpr ⟨hrow, hrows⟩

end Attests

end StateMachine
end ProofStack
