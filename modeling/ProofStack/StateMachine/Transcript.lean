import Mathlib.Data.List.Induction

/-!
This module contains the transcripts of a machine that answers each command: the commands in their order,
each with its reply.
-/

namespace ProofStack
namespace StateMachine

variable {σ κ ρ : Type} (step : σ → κ → ρ × σ)

def final (s : σ) (commands : List κ) : σ :=
  commands.foldl (fun s command => (step s command).2) s

@[simp]
def transcript (s : σ) : List κ → List (κ × ρ)
  | [] => []
  | command :: commands => (command, (step s command).1) :: transcript (step s command).2 commands

variable {step} {s : σ} {commands : List κ}

theorem final_append (commands commands' : List κ)
    : final step s (commands ++ commands') = final step (final step s commands) commands' :=
  List.foldl_append

theorem transcript_append (commands commands' : List κ)
    : transcript step s (commands ++ commands')
      = transcript step s commands ++ transcript step (final step s commands) commands' := by
  induction commands generalizing s with
  | nil => rfl
  | cons command commands ih =>
    rw [List.cons_append, transcript, ih]
    rfl

theorem length_transcript (s : σ) (commands : List κ)
    : (transcript step s commands).length = commands.length := by
  induction commands generalizing s with
  | nil => rfl
  | cons command commands ih => rw [transcript, List.length_cons, List.length_cons, ih]

theorem transcript_fst (step : σ → κ → ρ × σ) (s : σ) (commands : List κ)
    : (transcript step s commands).map Prod.fst = commands := by
  induction commands generalizing s with
  | nil => rfl
  | cons command commands ih => rw [transcript, List.map_cons, ih]

theorem Transcript.holds {I : List (κ × ρ) → σ → Prop}
    (hstep : ∀ history s command, I history s →
      I (history ++ [(command, (step s command).1)]) (step s command).2)
    (hs : I [] s) (commands : List κ)
    : I (transcript step s commands) (final step s commands) := by
  induction commands using List.reverseRecOn with
  | nil => exact hs
  | append_singleton commands command ih =>
    rw [transcript_append, final_append]
    exact hstep _ _ command ih

theorem Transcript.forall {P : σ → Prop} {Q : κ → ρ → Prop}
    (hstep : ∀ s command, P s → Q command (step s command).1 ∧ P (step s command).2) (hs : P s)
    (commands : List κ)
    : ∀ entry ∈ transcript step s commands, Q entry.1 entry.2 := by
  induction commands generalizing s with
  | nil => exact List.forall_mem_nil _
  | cons command commands ih =>
    have hnext := hstep s command hs
    rw [transcript, List.forall_mem_cons]
    exact ⟨hnext.1, ih hnext.2⟩

theorem Transcript.split {before after : List (κ × ρ)} {entry : κ × ρ}
    (h : transcript step s commands = before ++ entry :: after)
    : ∃ earlier command later, commands = earlier ++ command :: later
        ∧ before = transcript step s earlier
        ∧ entry = (command, (step (final step s earlier) command).1)
        ∧ after = transcript step (step (final step s earlier) command).2 later := by
  induction before generalizing s commands with
  | nil =>
    cases commands with
    | nil => contradiction
    | cons command commands =>
      rw [transcript, List.nil_append, List.cons.injEq] at h
      exact ⟨[], command, commands, rfl, rfl, h.1.symm, h.2.symm⟩
  | cons first before ih =>
    cases commands with
    | nil => contradiction
    | cons command commands =>
      rw [transcript, List.cons_append, List.cons.injEq] at h
      rcases ih h.2 with ⟨earlier, middle, later, rfl, rfl, hentry, hafter⟩
      refine ⟨command :: earlier, middle, later, rfl, ?_, hentry, hafter⟩
      rw [transcript, h.1]

/-- A party cannot tell two states apart that are alike for it, and the commands of the others keep them alike. -/
structure Isolates (step : σ → κ → ρ × σ) (own : κ → Bool) (Alike : σ → σ → Prop) : Prop where
  agree : ∀ {s s' command}, own command = true → Alike s s' →
    (step s command).1 = (step s' command).1 ∧ Alike (step s command).2 (step s' command).2
  keep : ∀ {s s' command}, own command = false → Alike s s' → Alike (step s command).2 s'

theorem Isolates.transcript {own : κ → Bool} {Alike : σ → σ → Prop} (h : Isolates step own Alike) {s' : σ}
    (hs : Alike s s') (commands : List κ)
    : (transcript step s commands).filter (fun entry => own entry.1) = transcript step s' (commands.filter own)
        ∧ Alike (final step s commands) (final step s' (commands.filter own)) := by
  induction commands generalizing s s' with
  | nil => exact ⟨rfl, hs⟩
  | cons command commands ih =>
    rw [StateMachine.transcript, List.filter_cons, List.filter_cons]
    cases hown : own command with
    | true =>
      obtain ⟨hreply, hnext⟩ := h.agree hown hs
      obtain ⟨hrest, hfinal⟩ := ih hnext
      refine ⟨?_, hfinal⟩
      rw [if_pos rfl, if_pos rfl, StateMachine.transcript, hreply, hrest]
    | false => exact ih (h.keep hown hs)

section Beside

variable {σ' κ' ρ' : Type} {step' : σ' → κ' → ρ' × σ'}

def beside (step : σ → κ → ρ × σ) (step' : σ' → κ' → ρ' × σ') (s : σ × σ')
    : κ ⊕ κ' → (ρ ⊕ ρ') × σ × σ'
  | .inl command => (.inl (step s.1 command).1, (step s.1 command).2, s.2)
  | .inr command => (.inr (step' s.2 command).1, s.1, (step' s.2 command).2)

theorem final_beside (s : σ × σ') (commands : List (κ ⊕ κ'))
    : final (beside step step') s commands
      = (final step s.1 (commands.filterMap Sum.getLeft?),
          final step' s.2 (commands.filterMap Sum.getRight?)) := by
  induction commands generalizing s with
  | nil => rfl
  | cons command commands ih =>
    change final (beside step step') (beside step step' s command).2 commands = _
    rw [ih]
    cases command <;> rfl

def leftEntry : (κ ⊕ κ') × (ρ ⊕ ρ') → Option (κ × ρ)
  | (.inl command, .inl reply) => some (command, reply)
  | _ => none

def rightEntry : (κ ⊕ κ') × (ρ ⊕ ρ') → Option (κ' × ρ')
  | (.inr command, .inr reply) => some (command, reply)
  | _ => none

theorem filterMap_leftEntry (s : σ × σ') (commands : List (κ ⊕ κ'))
    : (transcript (beside step step') s commands).filterMap leftEntry
      = transcript step s.1 (commands.filterMap Sum.getLeft?) := by
  induction commands generalizing s with
  | nil => rfl
  | cons command commands ih =>
    cases command with
    | inl command =>
      exact congrArg ((command, (step s.1 command).1) :: ·) (ih (beside step step' s (.inl command)).2)
    | inr command => exact ih (beside step step' s (.inr command)).2

theorem filterMap_rightEntry (s : σ × σ') (commands : List (κ ⊕ κ'))
    : (transcript (beside step step') s commands).filterMap rightEntry
      = transcript step' s.2 (commands.filterMap Sum.getRight?) := by
  induction commands generalizing s with
  | nil => rfl
  | cons command commands ih =>
    cases command with
    | inl command => exact ih (beside step step' s (.inl command)).2
    | inr command =>
      exact congrArg ((command, (step' s.2 command).1) :: ·) (ih (beside step step' s (.inr command)).2)

end Beside

end StateMachine
end ProofStack
