

/-!
This module contains the rules for operations that either throw without having changed the state or return
with all of their writes done.
-/

namespace ProofStack
namespace StateMachine

variable {ε σ α β : Type}

def attempting (checked : Except ε α) : EStateM ε σ α :=
  match checked with
  | .ok value => pure value
  | .error error => throw error

theorem get_bind_run (continuation : σ → EStateM ε σ β) (s : σ)
    : (get >>= continuation) s = continuation s s :=
  rfl

theorem attempting_bind_run {checked : Except ε α} {value : α} (h : checked = .ok value)
    (continuation : α → EStateM ε σ β) (s : σ)
    : (attempting checked >>= continuation) s = continuation value s := by
  rw [h]
  rfl

theorem bind_run {operation : EStateM ε σ α} {value : α} {s s' : σ}
    (h : operation s = .ok value s') (continuation : α → EStateM ε σ β)
    : (operation >>= continuation) s = continuation value s' := by
  show EStateM.bind operation continuation s = _
  unfold EStateM.bind
  rw [h]

theorem bind_run_error {operation : EStateM ε σ α} {error : ε} {s s' : σ}
    (h : operation s = .error error s') (continuation : α → EStateM ε σ β)
    : (operation >>= continuation) s = .error error s' := by
  show EStateM.bind operation continuation s = _
  unfold EStateM.bind
  rw [h]

theorem discard_run {operation : EStateM ε σ α} {value : α} {s s' : σ}
    (h : operation s = .ok value s')
    : (Functor.discard operation) s = .ok () s' :=
  bind_run h _

def Atomic (operation : EStateM ε σ α) (s : σ) (post : α → σ → Prop) : Prop :=
  match operation s with
  | .ok value s' => post value s'
  | .error _ s' => s' = s

namespace Atomic

variable {operation : EStateM ε σ α} {continuation : α → EStateM ε σ β} {s : σ}
variable {post middle : α → σ → Prop} {post' : β → σ → Prop}

theorem pure {value : α} (h : post value s)
    : Atomic (pure value : EStateM ε σ α) s post :=
  h

theorem throw (error : ε) : Atomic (throw error : EStateM ε σ α) s post :=
  rfl

theorem get_bind {continuation : σ → EStateM ε σ β} (h : Atomic (continuation s) s post')
    : Atomic (get >>= continuation) s post' :=
  h

theorem attempting_bind {checked : Except ε α}
    (h : ∀ value, checked = .ok value → Atomic (continuation value) s post')
    : Atomic (attempting checked >>= continuation) s post' := by
  cases checked with
  | ok value => exact h value rfl
  | error error => rfl

theorem bind (h : Atomic operation s middle)
    (hcontinue : ∀ value s', middle value s' →
      ∃ value' s'', continuation value s' = .ok value' s'' ∧ post' value' s'')
    : Atomic (operation >>= continuation) s post' := by
  unfold Atomic at h ⊢
  show match (EStateM.bind operation continuation s) with
    | .ok value s' => post' value s'
    | .error _ s' => s' = s
  unfold EStateM.bind
  cases hrun : operation s with
  | ok value s' =>
    rw [hrun] at h
    obtain ⟨value', s'', hnext, hpost⟩ := hcontinue value s' h
    simp only [hnext]
    exact hpost
  | error error s' =>
    rw [hrun] at h
    exact h

theorem discard {post : Unit → σ → Prop} (h : Atomic operation s (fun _ s' => post () s'))
    : Atomic (Functor.discard operation) s post := by
  apply bind h
  intro value s' hpost
  exact ⟨(), s', rfl, hpost⟩

end Atomic

end StateMachine
end ProofStack

/-!
This module contains what a computation guarantees about the state it leaves, whether it returns or
throws: what it has written before it throws is kept.
-/

namespace ProofStack
namespace StateMachine

variable {ε σ α β : Type}

def after : EStateM.Result ε σ α → σ
  | .ok _ s => s
  | .error _ s => s

def Guarantees (R : σ → σ → Prop) (computation : EStateM ε σ α) : Prop :=
  ∀ s, R s (after (computation s))

namespace Guarantees

variable {R : σ → σ → Prop} {computation : EStateM ε σ α}

theorem ok (h : Guarantees R computation) {s s' : σ} {a : α} (hrun : computation s = .ok a s')
    : R s s' := by
  have hrelated := h s
  rw [hrun] at hrelated
  exact hrelated

theorem error (h : Guarantees R computation) {s s' : σ} {error : ε}
    (hrun : computation s = .error error s')
    : R s s' := by
  have hrelated := h s
  rw [hrun] at hrelated
  exact hrelated

theorem pure (hrefl : ∀ s, R s s) (a : α) : Guarantees R (pure a : EStateM ε σ α) :=
  hrefl

theorem throw (hrefl : ∀ s, R s s) (error : ε) : Guarantees R (throw error : EStateM ε σ α) :=
  hrefl

theorem bind (htrans : ∀ {s s' s''}, R s s' → R s' s'' → R s s'') (h : Guarantees R computation)
    {continuation : α → EStateM ε σ β} (hnext : ∀ a, Guarantees R (continuation a))
    : Guarantees R (computation >>= continuation) := by
  intro s
  cases hrun : computation s with
  | ok a s' =>
    rw [bind_run hrun]
    exact htrans (h.ok hrun) (hnext a s')
  | error error s' =>
    rw [bind_run_error hrun]
    exact h.error hrun

end Guarantees

end StateMachine
end ProofStack
