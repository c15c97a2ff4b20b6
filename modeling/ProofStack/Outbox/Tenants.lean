import ProofStack.Outbox.Delivery

/-!
This module contains the isolation of the tenants that share the outbox.
-/

namespace ProofStack
namespace Outbox
namespace Delivery

open Checks StateMachine Store

variable {π β : Type} {payloads : PayloadSchema π} {outbox outbox' : OutboxTable π} {row : OutboxRow π}
variable {readings : Readings} {tenantId : String}

def SameRows (tenantId : String) (outbox outbox' : OutboxTable π) : Prop :=
  ∀ outboxId, outbox.lookup (tenantId, outboxId) = outbox'.lookup (tenantId, outboxId)

structure Alike (payloads : PayloadSchema π) (tenantId : String) (outbox outbox' : OutboxTable π) : Prop where
  left : Sound payloads outbox
  right : Sound payloads outbox'
  rows : SameRows tenantId outbox outbox'

theorem SameRows.insertAll (h : SameRows tenantId outbox outbox') (rows : List (OutboxRow π))
    : SameRows tenantId (Table.insertAll OutboxRow.key outbox rows) (Table.insertAll OutboxRow.key outbox' rows) := by
  induction rows generalizing outbox outbox' with
  | nil => exact h
  | cons row rows ih =>
    apply ih
    intro outboxId
    rw [Table.lookup_insert, Table.lookup_insert, h outboxId]

def Agrees (tenantId : String) : Except OutboxError (OutboxTable π × β) → Except OutboxError (OutboxTable π × β) → Prop
  | .ok (outbox, result), .ok (outbox', result') => SameRows tenantId outbox outbox' ∧ result = result'
  | .error error, .error error' => error = error'
  | _, _ => False

theorem Agrees.bind {γ : Type} (x : Except OutboxError γ) {f f' : γ → Except OutboxError (OutboxTable π × β)}
    (h : ∀ a, Agrees tenantId (f a) (f' a))
    : Agrees tenantId (x >>= f) (x >>= f') := by
  cases x with
  | error error => rfl
  | ok a => exact h a

theorem Agrees.transact {x x' : Except OutboxError (OutboxTable π × β)} (h : Agrees tenantId x x')
    (hrows : SameRows tenantId outbox outbox') (commit : Commit)
    : (transact outbox commit x).2 = (transact outbox' commit x').2
        ∧ SameRows tenantId (transact outbox commit x).1 (transact outbox' commit x').1 := by
  unfold Agrees at h
  split at h
  . obtain ⟨hnext, rfl⟩ := h
    cases commit
    . exact ⟨rfl, hnext⟩
    . exact ⟨rfl, hrows⟩
    . exact ⟨rfl, hnext⟩
  . rw [h]
    exact ⟨rfl, hrows⟩
  . contradiction

theorem Alike.mem_values (h : Alike payloads tenantId outbox outbox') (htenant : row.tenantId = tenantId)
    : row ∈ outbox.values ↔ row ∈ outbox'.values := by
  subst htenant
  have hlookup : outbox.lookup row.key = outbox'.lookup row.key := h.rows row.outboxId
  rw [Table.mem_values, Table.mem_values]
  constructor
  . rintro ⟨key, hkey⟩
    cases h.left.keyed key row hkey
    exact ⟨row.key, hlookup ▸ hkey⟩
  . rintro ⟨key, hkey⟩
    cases h.right.keyed key row hkey
    exact ⟨row.key, hlookup.symm ▸ hkey⟩

theorem nodup_rank_claimable (h : Table.Keyed OutboxRow.key outbox) (readings : Readings) (locked : Nat → Bool)
    (tenantId : String)
    : ((claimable outbox readings locked tenantId).map OutboxRow.rank).Nodup := by
  have hkeys : outbox.values.map OutboxRow.key = outbox.keys := by
    unfold Table.values AList.keys List.keys
    rw [List.map_map]
    apply List.map_congr_left
    rintro ⟨key, row⟩ hentry
    exact h key row (AList.mem_lookup_iff.mpr hentry)
  have hnodup : (outbox.values.map OutboxRow.key).Nodup := hkeys ▸ outbox.keys_nodup
  apply List.Nodup.map_on _ ((hnodup.of_map _).filter _)
  intro row hrow other hother hrank
  simp only [List.mem_filter, decide_eq_true_eq] at hrow hother
  apply List.inj_on_of_nodup_map hnodup hrow.1 hother.1
  exact Prod.ext (hrow.2.1.trans hother.2.1.symm) (Prod.mk.inj (toLex.injective hrank)).2

theorem Alike.candidates (h : Alike payloads tenantId outbox outbox') (readings : Readings) (locked : Nat → Bool)
    (limit : Nat)
    : candidates outbox readings locked tenantId limit = candidates outbox' readings locked tenantId limit := by
  have hnodup := nodup_rank_claimable h.left.keyed readings locked tenantId
  have hnodup' := nodup_rank_claimable h.right.keyed readings locked tenantId
  unfold Delivery.candidates
  rw [Sequence.sortBy_eq_of_perm hnodup]
  rw [List.perm_ext_iff_of_nodup (hnodup.of_map _) (hnodup'.of_map _)]
  intro row
  simp only [claimable, List.mem_filter, decide_eq_true_eq]
  constructor
  . rintro ⟨hmem, hrow⟩
    exact ⟨(h.mem_values hrow.1).mp hmem, hrow⟩
  . rintro ⟨hmem, hrow⟩
    exact ⟨(h.mem_values hrow.1).mpr hmem, hrow⟩

theorem Alike.enqueue (h : Alike payloads tenantId outbox outbox') (outboxId availableAt : Nat)
    (intent : OutboxIntent π)
    : Agrees tenantId (enqueue payloads outbox tenantId outboxId availableAt intent)
        (enqueue payloads outbox' tenantId outboxId availableAt intent) := by
  have hunique : (∃ other ∈ outbox.values, other.tenantId = tenantId ∧ other.intent.eventType = intent.eventType
        ∧ other.intent.aggregateType = intent.aggregateType ∧ other.intent.aggregateId = intent.aggregateId)
      ↔ ∃ other ∈ outbox'.values, other.tenantId = tenantId ∧ other.intent.eventType = intent.eventType
        ∧ other.intent.aggregateType = intent.aggregateType ∧ other.intent.aggregateId = intent.aggregateId := by
    constructor
    . rintro ⟨other, hmem, hother⟩
      exact ⟨other, (h.mem_values hother.1).mp hmem, hother⟩
    . rintro ⟨other, hmem, hother⟩
      exact ⟨other, (h.mem_values hother.1).mpr hmem, hother⟩
  unfold Delivery.enqueue
  simp only [hunique, OutboxRow.key, h.rows outboxId]
  repeat refine .bind _ (fun _ => ?_)
  exact ⟨h.rows.insertAll [⟨tenantId, outboxId, intent, availableAt, 0, none, none, none⟩], rfl⟩

variable [DecidableEq π]

theorem Alike.settle (h : Alike payloads tenantId outbox outbox') (outboxId : Nat) (token : String)
    (settled : OutboxRow π → OutboxRow π)
    : Agrees tenantId (settle payloads outbox readings tenantId outboxId token settled)
        (settle payloads outbox' readings tenantId outboxId token settled) := by
  unfold Delivery.settle
  rw [h.rows outboxId]
  split
  . exact ⟨h.rows, rfl⟩
  . split
    . refine .bind _ (fun row => ⟨?_, rfl⟩)
      intro outboxId'
      rw [Table.lookup_insert, Table.lookup_insert, h.rows outboxId']
    . exact ⟨h.rows, rfl⟩

theorem Alike.claim (h : Alike payloads tenantId outbox outbox') (locked : Nat → Bool) (token : String)
    (options : ClaimOutboxOptions)
    : Agrees tenantId (claim payloads outbox readings locked token tenantId options)
        (claim payloads outbox' readings locked token tenantId options) := by
  unfold Delivery.claim
  rw [h.candidates]
  exact .bind _ (fun _ => .bind _ (fun claimed => .bind _ (fun _ => ⟨h.rows.insertAll claimed, rfl⟩)))

theorem Alike.deliver (h : Alike payloads tenantId outbox outbox') {command : OutboxCommand π}
    (hcommand : command.tenantId = tenantId)
    : (deliver payloads outbox command).1 = (deliver payloads outbox' command).1
        ∧ SameRows tenantId (deliver payloads outbox command).2 (deliver payloads outbox' command).2 := by
  subst hcommand
  cases command with
  | enqueue tenantId outboxId availableAt intent commit =>
    exact (h.enqueue outboxId availableAt intent).transact h.rows commit |>.imp (congrArg OutboxReply.enqueued) id
  | claim readings locked token tenantId options commit =>
    exact (h.claim locked token options).transact h.rows commit |>.imp (congrArg OutboxReply.claimed) id
  | settle readings key token settlement commit =>
    cases settlement with
    | acknowledged =>
      refine (Agrees.transact ?_ h.rows commit).imp (congrArg OutboxReply.settled) id
      exact .bind _ (fun _ => .bind _ (fun _ => .bind _ (fun _ => h.settle ..)))
    | retried error retryDelayMs =>
      refine (Agrees.transact ?_ h.rows commit).imp (congrArg OutboxReply.settled) id
      exact .bind _ (fun _ => .bind _ (fun _ => .bind _ (fun _ => .bind _ (fun _ => .bind _ (fun _ => h.settle ..)))))

theorem rows_of_other (h : Sound payloads outbox) {command : OutboxCommand π} (hother : command.tenantId ≠ tenantId)
    : SameRows tenantId (deliver payloads outbox command).2 outbox := by
  intro outboxId
  have hdelivered := delivered h command
  cases hlookup : outbox.lookup (tenantId, outboxId) with
  | none => exact hdelivered.inserted _ hlookup hother
  | some row =>
    have hkey : row.tenantId = tenantId := congrArg Prod.fst (h.keyed _ row hlookup)
    obtain ⟨row', hrow', hevolves⟩ := hdelivered.evolves _ row hlookup
    rw [hrow']
    cases hevolves with
    | same => rfl
    | claimed => exact absurd hkey hother
    | settled => exact absurd hkey hother

theorem isolates_deliver (payloads : PayloadSchema π) (tenantId : String)
    : Isolates (deliver payloads) (fun command => command.tenantId = tenantId) (Alike payloads tenantId) where
  agree hown h :=
    have hdelivered := h.deliver (of_decide_eq_true hown)
    ⟨hdelivered.1, (delivered h.left _).sound, (delivered h.right _).sound, hdelivered.2⟩
  keep hown h :=
    ⟨(delivered h.left _).sound, h.right, fun outboxId =>
      (rows_of_other h.left (of_decide_eq_false hown) outboxId).trans (h.rows outboxId)⟩

/-- A tenant is answered, and finds its rows, as if there were no other tenants. -/
theorem tenants_isolated (payloads : PayloadSchema π) (tenantId : String) (commands : List (OutboxCommand π))
    : let own := commands.filter (fun command => command.tenantId = tenantId)
      (transcript (deliver payloads) ∅ commands).filter (fun entry => entry.1.tenantId = tenantId)
          = transcript (deliver payloads) ∅ own
        ∧ ∀ outboxId, (final (deliver payloads) ∅ commands).lookup (tenantId, outboxId)
            = (final (deliver payloads) ∅ own).lookup (tenantId, outboxId) := by
  have hrun := (isolates_deliver payloads tenantId).transcript ⟨sound_empty, sound_empty, fun _ => rfl⟩ commands
  exact ⟨hrun.1, hrun.2.rows⟩

end Delivery
end Outbox
end ProofStack
