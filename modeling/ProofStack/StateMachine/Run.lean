import Mathlib.Logic.Relation

/-!
This module contains the runs of a machine whose step function is total.
-/

namespace ProofStack
namespace StateMachine

variable {σ κ : Type} {step : σ → κ → σ}

def Later (step : σ → κ → σ) (earlier later : σ) : Prop :=
  Relation.ReflTransGen (fun s s' => ∃ command, step s command = s') earlier later

namespace Later

theorem refl (s : σ) : Later step s s :=
  Relation.ReflTransGen.refl

theorem next {s s' : σ} (h : Later step s s') (command : κ) : Later step s (step s' command) :=
  Relation.ReflTransGen.tail h ⟨command, rfl⟩

theorem trans {s s' s'' : σ} (h : Later step s s') (h' : Later step s' s'') : Later step s s'' :=
  Relation.ReflTransGen.trans h h'

theorem preserves {P : σ → Prop} (hstep : ∀ s command, P s → P (step s command)) {s s' : σ}
    (h : Later step s s') (hs : P s)
    : P s' := by
  induction h with
  | refl => exact hs
  | tail _ hlast ih =>
    rcases hlast with ⟨command, rfl⟩
    apply hstep
    exact ih

theorem relates {P : σ → Prop} {R : σ → σ → Prop} (hstep : ∀ s command, P s → P (step s command))
    (hrefl : ∀ s, R s s) (htrans : ∀ {s s' s''}, R s s' → R s' s'' → R s s'')
    (hrel : ∀ s command, P s → R s (step s command)) {s s' : σ} (h : Later step s s') (hs : P s)
    : R s s' := by
  induction h with
  | refl => apply hrefl
  | tail hbefore hlast ih =>
    rcases hlast with ⟨command, rfl⟩
    apply htrans ih
    apply hrel
    exact preserves hstep hbefore hs

theorem foldl (commands : List κ) (s : σ) : Later step s (commands.foldl step s) := by
  induction commands generalizing s with
  | nil => exact refl s
  | cons command commands ih =>
    have hfirst : Later step s (step s command) := (refl s).next command
    exact hfirst.trans (ih (step s command))

end Later

def LaterWhen (allowed : σ → κ → Prop) (step : σ → κ → σ) (earlier later : σ) : Prop :=
  Relation.ReflTransGen (fun s s' => ∃ command, allowed s command ∧ step s command = s') earlier later

namespace LaterWhen

variable {allowed : σ → κ → Prop}

theorem refl (s : σ) : LaterWhen allowed step s s :=
  Relation.ReflTransGen.refl

theorem next {s s' : σ} (h : LaterWhen allowed step s s') {command : κ} (hallowed : allowed s' command)
    : LaterWhen allowed step s (step s' command) :=
  Relation.ReflTransGen.tail h ⟨command, hallowed, rfl⟩

theorem preserves {P : σ → Prop} (hstep : ∀ s command, allowed s command → P s → P (step s command))
    {s s' : σ} (h : LaterWhen allowed step s s') (hs : P s)
    : P s' := by
  induction h with
  | refl => exact hs
  | tail _ hlast ih =>
    rcases hlast with ⟨command, hallowed, rfl⟩
    apply hstep
    . exact hallowed
    . exact ih

def AllowedAll (allowed : σ → κ → Prop) (step : σ → κ → σ) (s : σ) : List κ → Prop
  | [] => True
  | command :: commands => allowed s command ∧ AllowedAll allowed step (step s command) commands

theorem foldl {commands : List κ} {s : σ} (h : AllowedAll allowed step s commands)
    : LaterWhen allowed step s (commands.foldl step s) := by
  induction commands generalizing s with
  | nil => exact refl s
  | cons command commands ih =>
    have hfirst : LaterWhen allowed step s (step s command) := (refl s).next h.1
    exact Relation.ReflTransGen.trans hfirst (ih h.2)

end LaterWhen

end StateMachine
end ProofStack
