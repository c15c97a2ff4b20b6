import Mathlib.Data.Prod.Lex
import ProofStack.Outbox.ConsumerReceipts
import ProofStack.Sequence.Keyed
import ProofStack.StateMachine.Transcript

/-!
This module contains the delivery of the messages of the outbox.
-/

namespace ProofStack
namespace Outbox
namespace Delivery

open Checks StateMachine Store

variable {π : Type}

structure OutboxIntent (π : Type) where
  aggregateId : String
  aggregateType : String
  createdAt : Nat
  eventType : String
  payload : π
  schemaVersion : String
  deriving DecidableEq

structure OutboxRow (π : Type) where
  tenantId : String
  outboxId : Nat
  intent : OutboxIntent π
  availableAt : Nat
  attemptCount : Nat
  lease : Option ConsumerReceiptLease
  publishedAt : Option Nat
  lastError : Option Host.Text

structure OutboxMessage (π : Type) where
  attemptCount : Nat
  intent : OutboxIntent π
  lease : ConsumerReceiptLease
  outboxId : Nat
  tenantId : String

structure ClaimOutboxOptions where
  leaseDurationMs : Nat
  limit : Nat
  workerId : String

abbrev OutboxTable (π : Type) := Table (String × Nat) (OutboxRow π)

def OutboxRow.key (row : OutboxRow π) : String × Nat :=
  (row.tenantId, row.outboxId)

def OutboxMessage.key (message : OutboxMessage π) : String × Nat :=
  (message.tenantId, message.outboxId)

/-- The database stores objects, and the repository delivers those that are canonical JSON. -/
structure PayloadSchema (π : Type) where
  isObject : π → Bool
  isCanonical : π → Bool

/-- What the clock shows when the condition of a row is checked and when the row is updated. -/
structure Readings where
  filtered : Nat → Nat
  updated : Nat → Nat
  filtered_le : ∀ outboxId, filtered outboxId ≤ updated outboxId

def isNamespacedKey (key : String) : Bool :=
  let parts := key.toList.splitOnP (fun c => c == '.' || c == '_' || c == '-')
  parts.all (fun part => !part.isEmpty && part.all (fun c => isLowerAscii c || isDigitAscii c))
    && 2 ≤ parts.length
    && key.toList.head?.any isLowerAscii

def isSchemaVersion (version : String) : Bool :=
  let parts := version.toList.splitOn '.'
  parts.length == 2 && parts.all (fun part => !part.isEmpty && part.all isDigitAscii)

def maxBigint : Nat := 9223372036854775807

def checkConstraints (payloads : PayloadSchema π) (row : OutboxRow π) : Except OutboxError Unit := do
  failIf (¬OpaqueIdSchema row.intent.aggregateId) (.constraint "proofstack_outbox_aggregate_id_format")
  failIf (¬isDottedName 63 row.intent.aggregateType)
    (.constraint "proofstack_outbox_aggregate_type_format")
  failIf (row.attemptCount > 1000000) (.constraint "proofstack_outbox_attempt_range")
  failIf (¬isNamespacedKey row.intent.eventType) (.constraint "proofstack_outbox_event_type_format")
  failIf (∃ lease ∈ row.lease, ¬OpaqueIdSchema lease.owner)
    (.constraint "proofstack_outbox_lease_owner_format")
  failIf (row.lease ≠ none ∧ row.publishedAt ≠ none) (.constraint "proofstack_outbox_lease_state")
  failIf (¬payloads.isObject row.intent.payload) (.constraint "proofstack_outbox_payload_object")
  failIf (¬isSchemaVersion row.intent.schemaVersion)
    (.constraint "proofstack_outbox_schema_version_format")
  failIf (¬OpaqueIdSchema row.tenantId) (.constraint "proofstack_outbox_tenant_id_format")

def guardMutation [DecidableEq π] (old new : OutboxRow π) : Except OutboxError Unit :=
  failIf (new.tenantId ≠ old.tenantId ∨ new.outboxId ≠ old.outboxId ∨ new.intent ≠ old.intent)
    (.guarded "ProofStack outbox publication intent is immutable")

def updateRow [DecidableEq π] (payloads : PayloadSchema π) (old new : OutboxRow π)
    : Except OutboxError (OutboxRow π) := do
  guardMutation old new
  checkConstraints payloads new
  return new

-- A sequence of positive bigints generates the identifiers.
def enqueue (payloads : PayloadSchema π) (outbox : OutboxTable π) (tenantId : String)
    (outboxId availableAt : Nat) (intent : OutboxIntent π)
    : Except OutboxError (OutboxTable π × Unit) := do
  let row : OutboxRow π := ⟨tenantId, outboxId, intent, availableAt, 0, none, none, none⟩
  failIf (¬boundedInteger 1 maxBigint outboxId) (.constraint "proofstack_outbox_outbox_id_seq")
  checkConstraints payloads row
  failIf (outbox.lookup row.key ≠ none) (.constraint "proofstack_outbox_pk")
  failIf (∃ other ∈ outbox.values, other.tenantId = tenantId
      ∧ other.intent.eventType = intent.eventType
      ∧ other.intent.aggregateType = intent.aggregateType
      ∧ other.intent.aggregateId = intent.aggregateId)
    (.constraint "proofstack_outbox_intent_unique")
  return (outbox.insert row.key row, ())

def maxOutboxClaimSize : Nat := 100

def maxOutboxLeaseDurationMs : Nat := 5 * 60 * 1000

def maxOutboxRetryDelayMs : Nat := 24 * 60 * 60 * 1000

def maxOutboxErrorLength : Nat := 2048

def requireOpaqueId (value label : String) : Except OutboxError Unit :=
  failIf (¬OpaqueIdSchema value) (.typeError (label ++ " must be a valid opaque identifier"))

def requireOutboxId (outboxId : Nat) : Except OutboxError Unit := do
  failIf (outboxId = 0) (.typeError "outboxId must be a positive integer")
  failIf (outboxId > maxBigint) (.typeError "outboxId exceeds the PostgreSQL bigint range")

def validateBaseRow (row : OutboxRow π) (expectedTenantId : String) : Except OutboxError Unit := do
  failIf (row.tenantId ≠ expectedTenantId ∨ ¬OpaqueIdSchema row.tenantId)
    (.integrity "Stored outbox tenant does not match its transaction scope")
  failIf (¬OpaqueIdSchema row.intent.aggregateId)
    (.integrity "Stored outbox aggregate identifier is invalid")
  failIf (¬isDottedName 63 row.intent.aggregateType)
    (.integrity "Stored outbox aggregate type is invalid")
  failIf (¬isNamespacedKey row.intent.eventType) (.integrity "Stored outbox event type is invalid")
  failIf (¬isSchemaVersion row.intent.schemaVersion)
    (.integrity "Stored outbox schema version is invalid")
  failIf (¬boundedInteger 1 maxBigint row.outboxId) (.integrity "Stored outbox identifier is invalid")
  failIf (¬boundedInteger 1 1000000 row.attemptCount)
    (.integrity "Stored outbox attempt count is invalid")

def messageFromRow (payloads : PayloadSchema π) (expectedTenantId : String) (row : OutboxRow π)
    : Except OutboxError (OutboxMessage π) := do
  validateBaseRow row expectedTenantId
  failIf (¬(payloads.isObject row.intent.payload ∧ payloads.isCanonical row.intent.payload))
    (.integrity "Stored outbox payload is not a canonical JSON object")
  let lease ← found row.lease (.integrity "Stored outbox lease expiry is invalid")
  failIf (¬OpaqueIdSchema lease.owner) (.integrity "Stored outbox lease owner is invalid")
  failIf (¬isUuid lease.token) (.integrity "Stored outbox lease token is invalid")
  return ⟨row.attemptCount, row.intent, lease, row.outboxId, row.tenantId⟩

def OutboxRow.Claimable (row : OutboxRow π) (clock : Nat) : Prop :=
  row.publishedAt = none ∧ row.availableAt ≤ clock ∧ ∀ lease ∈ row.lease, lease.expiresAt ≤ clock

def OutboxRow.Held (row : OutboxRow π) (token : String) (clock : Nat) : Prop :=
  row.publishedAt = none ∧ ∃ lease ∈ row.lease, lease.token = token ∧ lease.expiresAt > clock

instance decidableClaimable (row : OutboxRow π) (clock : Nat) : Decidable (row.Claimable clock) :=
  inferInstanceAs (Decidable (_ ∧ _ ∧ _))

instance decidableRowHeld (row : OutboxRow π) (token : String) (clock : Nat)
    : Decidable (row.Held token clock) :=
  inferInstanceAs (Decidable (_ ∧ _))

def OutboxRow.rank (row : OutboxRow π) : Nat ×ₗ Nat :=
  toLex (row.availableAt, row.outboxId)

-- The rows that another transaction has locked are skipped.
def claimable (outbox : OutboxTable π) (readings : Readings) (locked : Nat → Bool) (tenantId : String)
    : List (OutboxRow π) :=
  outbox.values.filter (fun row =>
    row.tenantId = tenantId ∧ row.Claimable (readings.filtered row.outboxId) ∧ ¬locked row.outboxId)

def candidates (outbox : OutboxTable π) (readings : Readings) (locked : Nat → Bool) (tenantId : String)
    (limit : Nat)
    : List (OutboxRow π) :=
  (Sequence.sortBy OutboxRow.rank (claimable outbox readings locked tenantId)).take limit

def claimedRow (readings : Readings) (token : String) (options : ClaimOutboxOptions) (row : OutboxRow π)
    : OutboxRow π :=
  { row with
    attemptCount := row.attemptCount + 1
    lease := some {
      expiresAt := readings.updated row.outboxId + milliseconds options.leaseDurationMs
      owner := options.workerId
      token } }

def validateClaim (token tenantId : String) (options : ClaimOutboxOptions) : Except OutboxError Unit := do
  requireOpaqueId tenantId "tenantId"
  requireOpaqueId options.workerId "workerId"
  requireBoundedInteger options.limit 1 maxOutboxClaimSize "limit"
  requireBoundedInteger options.leaseDurationMs 1 maxOutboxLeaseDurationMs "leaseDurationMs"
  requireLeaseToken token

def claim [DecidableEq π] (payloads : PayloadSchema π) (outbox : OutboxTable π) (readings : Readings)
    (locked : Nat → Bool) (token tenantId : String) (options : ClaimOutboxOptions)
    : Except OutboxError (OutboxTable π × List (OutboxMessage π)) := do
  validateClaim token tenantId options
  let claimed ← (candidates outbox readings locked tenantId options.limit).mapM (fun row =>
    updateRow payloads row (claimedRow readings token options row))
  let messages ← claimed.mapM (messageFromRow payloads tenantId)
  return (Table.insertAll OutboxRow.key outbox claimed, messages)

def settle [DecidableEq π] (payloads : PayloadSchema π) (outbox : OutboxTable π) (readings : Readings)
    (tenantId : String) (outboxId : Nat) (token : String) (settled : OutboxRow π → OutboxRow π)
    : Except OutboxError (OutboxTable π × Bool) :=
  match outbox.lookup (tenantId, outboxId) with
  | none => return (outbox, false)
  | some row =>
    if row.Held token (readings.filtered outboxId) then do
      let row ← updateRow payloads row (settled row)
      return (outbox.insert (tenantId, outboxId) row, true)
    else
      return (outbox, false)

def acknowledgedRow (readings : Readings) (row : OutboxRow π) : OutboxRow π :=
  { row with publishedAt := some (readings.updated row.outboxId), lease := none, lastError := none }

def acknowledge [DecidableEq π] (payloads : PayloadSchema π) (outbox : OutboxTable π) (readings : Readings)
    (tenantId : String) (outboxId : Nat) (token : String)
    : Except OutboxError (OutboxTable π × Bool) := do
  requireOpaqueId tenantId "tenantId"
  requireOutboxId outboxId
  requireLeaseToken token
  settle payloads outbox readings tenantId outboxId token (acknowledgedRow readings)

def retriedRow (readings : Readings) (error : Host.Text) (retryDelayMs : Nat) (row : OutboxRow π)
    : OutboxRow π :=
  { row with
    availableAt := readings.updated row.outboxId + milliseconds retryDelayMs
    lease := none
    lastError := some (Host.toWellFormed error) }

def retry [DecidableEq π] (payloads : PayloadSchema π) (outbox : OutboxTable π) (readings : Readings)
    (tenantId : String) (outboxId : Nat) (token : String) (error : Host.Text) (retryDelayMs : Nat)
    : Except OutboxError (OutboxTable π × Bool) := do
  requireOpaqueId tenantId "tenantId"
  requireOutboxId outboxId
  requireLeaseToken token
  requireBoundedInteger retryDelayMs 0 maxOutboxRetryDelayMs "retryDelayMs"
  failIf (¬boundedInteger 1 maxOutboxErrorLength error.length)
    (.rangeError ("error must contain between 1 and " ++ toString maxOutboxErrorLength
      ++ " characters"))
  settle payloads outbox readings tenantId outboxId token (retriedRow readings error retryDelayMs)

inductive Settlement where
  | acknowledged
  | retried (error : Host.Text) (retryDelayMs : Nat)

def Settlement.settledRow (readings : Readings) : Settlement → OutboxRow π → OutboxRow π
  | .acknowledged => acknowledgedRow readings
  | .retried error retryDelayMs => retriedRow readings error retryDelayMs

inductive OutboxCommand (π : Type) where
  | enqueue (tenantId : String) (outboxId availableAt : Nat) (intent : OutboxIntent π) (commit : Commit)
  | claim (readings : Readings) (locked : Nat → Bool) (token tenantId : String)
    (options : ClaimOutboxOptions) (commit : Commit)
  | settle (readings : Readings) (key : String × Nat) (token : String) (settlement : Settlement)
    (commit : Commit)

def OutboxCommand.tenantId : OutboxCommand π → String
  | .enqueue tenantId .. => tenantId
  | .claim _ _ _ tenantId _ _ => tenantId
  | .settle _ key .. => key.1

inductive OutboxReply (π : Type) where
  | enqueued (result : Except TransactionError Unit)
  | claimed (messages : Except TransactionError (List (OutboxMessage π)))
  | settled (changed : Except TransactionError Bool)

def deliver [DecidableEq π] (payloads : PayloadSchema π) (outbox : OutboxTable π)
    : OutboxCommand π → OutboxReply π × OutboxTable π
  | .enqueue tenantId outboxId availableAt intent commit =>
    let (outbox, result) := transact outbox commit
      (enqueue payloads outbox tenantId outboxId availableAt intent)
    (.enqueued result, outbox)
  | .claim readings locked token tenantId options commit =>
    let (outbox, messages) := transact outbox commit
      (claim payloads outbox readings locked token tenantId options)
    (.claimed messages, outbox)
  | .settle readings key token settlement commit =>
    let (outbox, changed) := transact outbox commit
      (match settlement with
      | .acknowledged => acknowledge payloads outbox readings key.1 key.2 token
      | .retried error retryDelayMs => retry payloads outbox readings key.1 key.2 token error retryDelayMs)
    (.settled changed, outbox)

variable {payloads : PayloadSchema π} {outbox : OutboxTable π} {row : OutboxRow π} {readings : Readings}
variable {locked : Nat → Bool} {token tenantId : String} {options : ClaimOutboxOptions}

inductive Evolves (row : OutboxRow π) : OutboxCommand π → OutboxRow π → Prop
  | same (command : OutboxCommand π) : Evolves row command row
  | claimed (readings : Readings) (locked : Nat → Bool) (token : String) (options : ClaimOutboxOptions)
      (commit : Commit) (h : row.Claimable (readings.filtered row.outboxId))
    : Evolves row (.claim readings locked token row.tenantId options commit)
        (claimedRow readings token options row)
  | settled (readings : Readings) (token : String) (settlement : Settlement) (commit : Commit)
      (h : row.Held token (readings.filtered row.outboxId))
    : Evolves row (.settle readings row.key token settlement commit) (settlement.settledRow readings row)

/-- The lease of a message ends when a claim finds it expired, or with an acknowledgement or a retry under it. -/
def EndsLease (message : OutboxMessage π) : OutboxCommand π → Prop
  | .enqueue .. => False
  | .claim readings _ _ tenantId _ _ =>
    tenantId = message.tenantId ∧ message.lease.expiresAt ≤ readings.filtered message.outboxId
  | .settle readings key token _ _ =>
    key = message.key ∧ token = message.lease.token
      ∧ readings.filtered message.outboxId < message.lease.expiresAt

def claimToken : OutboxCommand π → Option String
  | .claim _ _ token _ _ _ => some token
  | _ => none

def DeliveredAs (row : OutboxRow π) (message : OutboxMessage π) : Prop :=
  row.key = message.key ∧ row.intent = message.intent ∧ row.attemptCount = message.attemptCount
    ∧ row.lease = some message.lease ∧ row.publishedAt = none

variable {command : OutboxCommand π}

theorem evolves_kept {row' : OutboxRow π} (h : Evolves row command row')
    : row'.key = row.key ∧ row'.intent = row.intent ∧ row.attemptCount ≤ row'.attemptCount := by
  cases h with
  | same => exact ⟨rfl, rfl, Nat.le_refl _⟩
  | claimed => exact ⟨rfl, rfl, Nat.le_succ _⟩
  | settled _ _ settlement => cases settlement <;> exact ⟨rfl, rfl, Nat.le_refl _⟩

theorem evolves_published {row' : OutboxRow π} (h : Evolves row command row')
    (hpublished : row.publishedAt ≠ none)
    : row' = row := by
  cases h with
  | same => rfl
  | claimed _ _ _ _ _ hclaimable => exact absurd hclaimable.1 hpublished
  | settled _ _ _ _ hheld => exact absurd hheld.1 hpublished

theorem evolves_deliveredAs {message : OutboxMessage π} {row' : OutboxRow π}
    (h : Evolves row command row') (hdelivered : DeliveredAs row message)
    : DeliveredAs row' message ∨ EndsLease message command := by
  have ⟨hkey, _, _, hlease, _⟩ := hdelivered
  obtain ⟨htenant, hidentity⟩ := Prod.mk.inj hkey
  cases h with
  | same => exact .inl hdelivered
  | claimed _ _ _ _ _ hclaimable =>
    refine .inr ⟨htenant, ?_⟩
    rw [← hidentity]
    exact hclaimable.2.2 _ hlease
  | settled _ _ _ _ hheld =>
    obtain ⟨_, lease, hmem, htoken, hcurrent⟩ := hheld
    rw [hlease] at hmem
    cases hmem
    refine .inr ⟨hkey, htoken.symm, ?_⟩
    rw [← hidentity]
    exact hcurrent

def OutboxIntent.Stored (payloads : PayloadSchema π) (intent : OutboxIntent π) : Prop :=
  OpaqueIdSchema intent.aggregateId
    ∧ isDottedName 63 intent.aggregateType
    ∧ isNamespacedKey intent.eventType
    ∧ payloads.isObject intent.payload
    ∧ isSchemaVersion intent.schemaVersion

structure OutboxRow.Stored (payloads : PayloadSchema π) (row : OutboxRow π) : Prop where
  tenant : OpaqueIdSchema row.tenantId
  identity : boundedInteger 1 maxBigint row.outboxId
  intent : row.intent.Stored payloads
  attempts : row.attemptCount ≤ 1000000
  owner : ∀ lease ∈ row.lease, OpaqueIdSchema lease.owner
  unleased : row.publishedAt ≠ none → row.lease = none

structure Sound (payloads : PayloadSchema π) (outbox : OutboxTable π) : Prop where
  keyed : Table.Keyed OutboxRow.key outbox
  stored : ∀ key row, outbox.lookup key = some row → row.Stored payloads

theorem checkConstraints_eq_ok (hidentity : boundedInteger 1 maxBigint row.outboxId)
    : checkConstraints payloads row = .ok () ↔ row.Stored payloads := by
  simp only [checkConstraints, bind_eq_ok, failIf_eq_ok, not_not, not_exists, not_and, exists_and_left,
    exists_const, Nat.not_lt, gt_iff_lt]
  constructor
  . rintro ⟨haggregate, htype, hattempts, hevent, howner, hlease, hobject, hversion, htenant⟩
    exact ⟨htenant, hidentity, ⟨haggregate, htype, hevent, hobject, hversion⟩, hattempts, howner,
      fun hpublished => not_not.mp (fun hleased => hpublished (hlease hleased))⟩
  . rintro ⟨htenant, _, ⟨haggregate, htype, hevent, hobject, hversion⟩, hattempts, howner, hlease⟩
    exact ⟨haggregate, htype, hattempts, hevent, howner,
      fun hleased => not_not.mp (fun hpublished => hleased (hlease hpublished)), hobject, hversion, htenant⟩

theorem sound_empty : Sound payloads (∅ : OutboxTable π) :=
  ⟨Table.Keyed.empty, fun _ _ hlookup => by contradiction⟩

theorem Sound.insert (h : Sound payloads outbox) (hrow : row.Stored payloads)
    : Sound payloads (outbox.insert row.key row) where
  keyed := h.keyed.insert row
  stored key row' hlookup := by
    rcases Table.lookup_insert_eq_some hlookup with ⟨_, rfl⟩ | ⟨_, hlookup⟩
    . exact hrow
    . exact h.stored key row' hlookup

theorem mapM_eq_ite {ε α β : Type} {f : α → Except ε β} {g : α → β} {p : α → Prop} [DecidablePred p]
    {error : ε} {rows : List α} (h : ∀ row ∈ rows, f row = if p row then .error error else .ok (g row))
    : rows.mapM f = if ∃ row ∈ rows, p row then .error error else .ok (rows.map g) := by
  induction rows with
  | nil =>
    rw [List.mapM_nil, if_neg (by simp)]
    rfl
  | cons row rows ih =>
    rw [List.forall_mem_cons] at h
    rw [List.mapM_cons, h.1, ih h.2]
    simp only [List.exists_mem_cons_iff]
    by_cases hrow : p row
    . simp only [hrow, true_or, if_true]
      rfl
    . by_cases hrows : ∃ row ∈ rows, p row
      . rw [if_neg hrow, if_pos hrows, if_pos (.inr hrows)]
        rfl
      . rw [if_neg hrow, if_neg hrows, if_neg (not_or.mpr ⟨hrow, hrows⟩)]
        rfl

def claimedMessage (readings : Readings) (token : String) (options : ClaimOutboxOptions) (row : OutboxRow π)
    : OutboxMessage π where
  attemptCount := row.attemptCount + 1
  intent := row.intent
  lease := ⟨readings.updated row.outboxId + milliseconds options.leaseDurationMs, options.workerId, token⟩
  outboxId := row.outboxId
  tenantId := row.tenantId

theorem mem_candidates (h : Table.Keyed OutboxRow.key outbox) {limit : Nat}
    (hmem : row ∈ candidates outbox readings locked tenantId limit)
    : outbox.lookup row.key = some row
        ∧ row.tenantId = tenantId
        ∧ row.Claimable (readings.filtered row.outboxId) := by
  have hclaimable := Sequence.mem_sortBy.mp (List.mem_of_mem_take hmem)
  obtain ⟨hvalue, hcondition⟩ := List.mem_filter.mp hclaimable
  obtain ⟨htenant, hclaimable, _⟩ := of_decide_eq_true hcondition
  obtain ⟨key, hlookup⟩ := Table.mem_values.mp hvalue
  obtain rfl := h key row hlookup
  exact ⟨hlookup, htenant, hclaimable⟩

theorem OutboxRow.Stored.claimedRow (h : row.Stored payloads) (hunpublished : row.publishedAt = none)
    (hattempts : row.attemptCount ≠ 1000000) (howner : OpaqueIdSchema options.workerId)
    : (claimedRow readings token options row).Stored payloads := by
  refine ⟨h.tenant, h.identity, h.intent, ?_, ?_, fun hpublished => absurd hunpublished hpublished⟩
  . have := h.attempts
    change row.attemptCount + 1 ≤ 1000000
    omega
  . simpa [Delivery.claimedRow] using howner

theorem lookup_claimed (h : Table.Keyed OutboxRow.key outbox) {limit : Nat}
    (hmem : row ∈ candidates outbox readings locked tenantId limit)
    : (Table.insertAll OutboxRow.key outbox ((candidates outbox readings locked tenantId limit).map
          (claimedRow readings token options))).lookup row.key
        = some (claimedRow readings token options row) := by
  change AList.lookup (OutboxRow.key (claimedRow readings token options row)) _ = _
  apply Table.lookup_insertAll_of_mem ?_ (List.mem_map_of_mem hmem)
  intro claimed hclaimed other hother hkey
  obtain ⟨first, hfirst, rfl⟩ := List.mem_map.mp hclaimed
  obtain ⟨second, hsecond, rfl⟩ := List.mem_map.mp hother
  have hlookup := (mem_candidates h hfirst).1
  change first.key = second.key at hkey
  rw [hkey, (mem_candidates h hsecond).1] at hlookup
  cases hlookup
  rfl

variable [DecidableEq π]

theorem updateRow_claimedRow (h : row.Stored payloads) (hunpublished : row.publishedAt = none)
    (howner : OpaqueIdSchema options.workerId)
    : updateRow payloads row (claimedRow readings token options row)
        = if row.attemptCount = 1000000 then .error (.constraint "proofstack_outbox_attempt_range")
          else .ok (claimedRow readings token options row) := by
  have hmutation : guardMutation row (claimedRow readings token options row) = .ok () := by
    simp [guardMutation, claimedRow]
  unfold updateRow
  rw [bind_of_ok hmutation]
  split
  . next hattempts =>
    have hrefused : checkConstraints payloads (claimedRow readings token options row)
        = .error (.constraint "proofstack_outbox_attempt_range") := by
      unfold checkConstraints claimedRow
      dsimp only
      rw [failIf_bind_of_false (not_not.mpr h.intent.1), failIf_bind_of_false (not_not.mpr h.intent.2.1),
        failIf_bind_of_true (by omega)]
    rw [hrefused]
    rfl
  . next hattempts =>
    have hstored : (claimedRow readings token options row).Stored payloads :=
      h.claimedRow hunpublished hattempts howner
    rw [bind_of_ok ((checkConstraints_eq_ok hstored.identity).mpr hstored)]
    rfl

omit [DecidableEq π] in
theorem messageFromRow_claimedRow (h : row.Stored payloads) (hattempts : row.attemptCount ≠ 1000000)
    (howner : OpaqueIdSchema options.workerId) (htoken : isUuid token)
    : messageFromRow payloads row.tenantId (claimedRow readings token options row)
        = if payloads.isCanonical row.intent.payload = false then
            .error (.integrity "Stored outbox payload is not a canonical JSON object")
          else .ok (claimedMessage readings token options row) := by
  have hbounded : boundedInteger 1 1000000 (row.attemptCount + 1) := by
    have := h.attempts
    unfold boundedInteger
    omega
  have hbase : validateBaseRow (claimedRow readings token options row) row.tenantId = .ok () := by
    obtain ⟨haggregate, htype, hevent, _, hversion⟩ := h.intent
    simp [validateBaseRow, claimedRow, failIf, h.tenant, haggregate, htype, hevent, hversion, h.identity,
      hbounded, bind, Except.bind]
  have hobject := h.intent.2.2.2.1
  unfold messageFromRow
  rw [bind_of_ok hbase]
  split
  . next hcanonical => simp [claimedRow, hcanonical, failIf, bind, Except.bind]
  . next hcanonical =>
    rw [Bool.not_eq_false] at hcanonical
    simp [claimedRow, claimedMessage, found, hobject, hcanonical, howner, htoken, failIf, bind, Except.bind, pure,
      Except.pure]

theorem claim_eq (h : Sound payloads outbox) (hvalid : validateClaim token tenantId options = .ok ())
    : claim payloads outbox readings locked token tenantId options
        = if ∃ row ∈ candidates outbox readings locked tenantId options.limit, row.attemptCount = 1000000 then
            .error (.constraint "proofstack_outbox_attempt_range")
          else if ∃ row ∈ candidates outbox readings locked tenantId options.limit,
              payloads.isCanonical row.intent.payload = false then
            .error (.integrity "Stored outbox payload is not a canonical JSON object")
          else
            .ok (Table.insertAll OutboxRow.key outbox
                ((candidates outbox readings locked tenantId options.limit).map
                  (claimedRow readings token options)),
              (candidates outbox readings locked tenantId options.limit).map
                (claimedMessage readings token options)) := by
  have hchecked := hvalid
  simp only [validateClaim, requireOpaqueId, requireLeaseToken, bind_eq_ok, failIf_eq_ok, not_not] at hchecked
  obtain ⟨_, _, _, howner, _, _, _, _, htoken⟩ := hchecked
  have hcandidate : ∀ row ∈ candidates outbox readings locked tenantId options.limit,
      row.Stored payloads ∧ row.tenantId = tenantId ∧ row.publishedAt = none := by
    intro row hmem
    obtain ⟨hlookup, htenant, hclaimable⟩ := mem_candidates h.keyed hmem
    exact ⟨h.stored _ row hlookup, htenant, hclaimable.1⟩
  unfold claim
  rw [bind_of_ok hvalid, mapM_eq_ite (fun row hmem =>
    updateRow_claimedRow (hcandidate row hmem).1 (hcandidate row hmem).2.2 howner)]
  split
  . rfl
  . next hattempts =>
    have hmessages : ∀ row ∈ candidates outbox readings locked tenantId options.limit,
        (messageFromRow payloads tenantId ∘ claimedRow readings token options) row
          = if payloads.isCanonical row.intent.payload = false then
              .error (.integrity "Stored outbox payload is not a canonical JSON object")
            else .ok (claimedMessage readings token options row) := by
      intro row hmem
      obtain ⟨hstored, rfl, _⟩ := hcandidate row hmem
      exact messageFromRow_claimedRow hstored (fun hlast => hattempts ⟨row, hmem, hlast⟩) howner htoken
    rw [bind_of_ok rfl, List.mapM_map, mapM_eq_ite hmessages]
    split <;> rfl

structure Delivered (payloads : PayloadSchema π) (outbox : OutboxTable π) (command : OutboxCommand π)
    (delivered : OutboxReply π × OutboxTable π) : Prop where
  sound : Sound payloads delivered.2
  evolves : ∀ key row, outbox.lookup key = some row →
    ∃ row', delivered.2.lookup key = some row' ∧ Evolves row command row'
  inserted : ∀ key, outbox.lookup key = none → command.tenantId ≠ key.1 → delivered.2.lookup key = none
  claimed : ∀ messages, delivered.1 = .claimed (.ok messages) → ∀ message ∈ messages,
    ∃ row readings locked token options commit,
      command = .claim readings locked token row.tenantId options commit
        ∧ outbox.lookup message.key = some row
        ∧ row.Claimable (readings.filtered row.outboxId)
        ∧ message = claimedMessage readings token options row
        ∧ delivered.2.lookup message.key = some (claimedRow readings token options row)
  settled : delivered.1 = .settled (.ok true) →
    ∃ row readings token settlement commit,
      command = .settle readings row.key token settlement commit
        ∧ outbox.lookup row.key = some row
        ∧ row.Held token (readings.filtered row.outboxId)
        ∧ delivered.2.lookup row.key = some (settlement.settledRow readings row)

theorem transact_cases {σ β : Type} (s : σ) (commit : Commit) (transaction : Except OutboxError (σ × β))
    : ((transact s commit transaction).1 = s ∧ ∃ error, (transact s commit transaction).2 = .error error)
        ∨ ∃ next result, transaction = .ok (next, result)
            ∧ (transact s commit transaction).1 = next
            ∧ ∀ answer, (transact s commit transaction).2 = .ok answer → answer = result := by
  cases transaction with
  | error error => exact .inl ⟨rfl, _, rfl⟩
  | ok committed =>
    obtain ⟨next, result⟩ := committed
    cases commit with
    | rolledBack => exact .inl ⟨rfl, _, rfl⟩
    | committed =>
      refine .inr ⟨next, result, rfl, rfl, ?_⟩
      rintro _ ⟨⟩
      rfl
    | unacknowledged => exact .inr ⟨next, result, rfl, rfl, by rintro _ ⟨⟩⟩

omit [DecidableEq π] in
theorem delivered_of_unchanged (h : Sound payloads outbox) {reply : OutboxReply π}
    (hclaimed : ∀ messages, reply = .claimed (.ok messages) → messages = [])
    (hsettled : reply ≠ .settled (.ok true))
    : Delivered payloads outbox command (reply, outbox) where
  sound := h
  evolves _ row hlookup := ⟨row, hlookup, .same command⟩
  inserted _ hnone _ := hnone
  claimed messages hreply message hmem := by
    rw [hclaimed messages hreply] at hmem
    contradiction
  settled hreply := absurd hreply hsettled

theorem delivered_enqueue (h : Sound payloads outbox) (tenantId : String) (outboxId availableAt : Nat)
    (intent : OutboxIntent π) (commit : Commit)
    : Delivered payloads outbox (.enqueue tenantId outboxId availableAt intent commit)
        (deliver payloads outbox (.enqueue tenantId outboxId availableAt intent commit)) := by
  unfold deliver
  dsimp only
  rcases transact_cases outbox commit (enqueue payloads outbox tenantId outboxId availableAt intent) with
    ⟨hsame, _⟩ | ⟨next, _, henqueue, hnext, _⟩
  . rw [hsame]
    apply delivered_of_unchanged h <;> simp
  . rw [hnext]
    simp only [enqueue, bind_eq_ok, failIf_eq_ok, not_not, pure_eq_ok, Prod.mk.injEq] at henqueue
    obtain ⟨_, hidentity, _, hchecked, _, hfresh, _, _, rfl, _⟩ := henqueue
    have hstored := (checkConstraints_eq_ok hidentity).mp hchecked
    refine ⟨h.insert hstored, ?_, ?_, by simp, by simp⟩
    . intro key row hlookup
      exact ⟨row, Table.lookup_insert_of_fresh hfresh hlookup, .same _⟩
    . intro key hnone htenant
      rwa [Table.lookup_insert, if_neg (fun hkey => htenant (congrArg Prod.fst hkey).symm)]

theorem delivered_claim (h : Sound payloads outbox) (commit : Commit)
    : Delivered payloads outbox (.claim readings locked token tenantId options commit)
        (deliver payloads outbox (.claim readings locked token tenantId options commit)) := by
  unfold deliver
  dsimp only
  rcases transact_cases outbox commit (claim payloads outbox readings locked token tenantId options) with
    ⟨hsame, error, herror⟩ | ⟨next, messages, hclaim, hnext, hanswer⟩
  . rw [hsame, herror]
    apply delivered_of_unchanged h <;> simp
  . rw [hnext]
    obtain ⟨u, hvalid, _⟩ := bind_eq_ok.mp hclaim
    have hchecked := hvalid
    simp only [validateClaim, requireOpaqueId, bind_eq_ok, failIf_eq_ok, not_not] at hchecked
    obtain ⟨_, _, _, howner, _⟩ := hchecked
    rw [claim_eq h hvalid] at hclaim
    split at hclaim
    . contradiction
    split at hclaim
    . contradiction
    next hattempts _ =>
      cases hclaim
      have hstored : ∀ row ∈ candidates outbox readings locked tenantId options.limit,
          (claimedRow readings token options row).Stored payloads := by
        intro row hmem
        obtain ⟨hlookup, _, hclaimable⟩ := mem_candidates h.keyed hmem
        exact (h.stored _ row hlookup).claimedRow hclaimable.1 (fun hlast => hattempts ⟨row, hmem, hlast⟩) howner
      refine ⟨⟨?_, ?_⟩, ?_, ?_, ?_, by simp⟩
      . intro key row hlookup
        rcases Table.lookup_insertAll_eq_some hlookup with ⟨_, hkey⟩ | ⟨_, hlookup⟩
        . exact hkey
        . exact h.keyed key row hlookup
      . intro key row hlookup
        rcases Table.lookup_insertAll_eq_some hlookup with ⟨hmem, _⟩ | ⟨_, hlookup⟩
        . obtain ⟨candidate, hcandidate, rfl⟩ := List.mem_map.mp hmem
          exact hstored candidate hcandidate
        . exact h.stored key row hlookup
      . intro key row hlookup
        by_cases hmem : row ∈ candidates outbox readings locked tenantId options.limit
        . obtain ⟨_, rfl, hclaimable⟩ := mem_candidates h.keyed hmem
          obtain rfl := h.keyed key row hlookup
          exact ⟨_, lookup_claimed h.keyed hmem, .claimed readings locked token options commit hclaimable⟩
        . refine ⟨row, ?_, .same _⟩
          rw [Table.lookup_insertAll_of_ne, hlookup]
          intro claimed hclaimed hkey
          obtain ⟨candidate, hcandidate, rfl⟩ := List.mem_map.mp hclaimed
          have hcurrent := (mem_candidates h.keyed hcandidate).1
          change candidate.key = key at hkey
          rw [hkey, hlookup] at hcurrent
          cases hcurrent
          exact hmem hcandidate
      . intro key hnone _
        rw [Table.lookup_insertAll_of_ne, hnone]
        rintro claimed hclaimed rfl
        obtain ⟨candidate, hcandidate, rfl⟩ := List.mem_map.mp hclaimed
        exact Option.some_ne_none _ ((mem_candidates h.keyed hcandidate).1.symm.trans hnone)
      . rintro answered hreply message hmessage
        rw [hanswer answered (by simpa using hreply)] at hmessage
        obtain ⟨candidate, hcandidate, rfl⟩ := List.mem_map.mp hmessage
        obtain ⟨hlookup, rfl, hclaimable⟩ := mem_candidates h.keyed hcandidate
        exact ⟨candidate, readings, locked, token, options, commit, rfl, hlookup, hclaimable, rfl,
          lookup_claimed h.keyed hcandidate⟩

theorem settle_eq_ok (h : Sound payloads outbox) {key : String × Nat} {settlement : Settlement}
    {settled : OutboxTable π × Bool}
    (hsettle : settle payloads outbox readings key.1 key.2 token (settlement.settledRow readings) = .ok settled)
    : settled = (outbox, false)
        ∨ ∃ row, outbox.lookup row.key = some row
            ∧ row.key = key
            ∧ row.Held token (readings.filtered row.outboxId)
            ∧ (settlement.settledRow readings row).Stored payloads
            ∧ settled = (outbox.insert row.key (settlement.settledRow readings row), true) := by
  unfold settle at hsettle
  split at hsettle
  . exact .inl (pure_eq_ok.mp hsettle).symm
  . next row hlookup =>
    obtain rfl := h.keyed key row hlookup
    split at hsettle
    . next hheld =>
      right
      simp only [updateRow, bind_eq_ok, pure_eq_ok] at hsettle
      obtain ⟨_, ⟨_, _, _, hchecked, rfl⟩, rfl⟩ := hsettle
      have hidentity : boundedInteger 1 maxBigint (settlement.settledRow readings row).outboxId := by
        have := (h.stored _ row hlookup).identity
        cases settlement <;> exact this
      exact ⟨row, hlookup, rfl, hheld, (checkConstraints_eq_ok hidentity).mp hchecked, rfl⟩
    . exact .inl (pure_eq_ok.mp hsettle).symm

theorem delivered_settle (h : Sound payloads outbox) (key : String × Nat) (settlement : Settlement)
    (commit : Commit)
    : Delivered payloads outbox (.settle readings key token settlement commit)
        (deliver payloads outbox (.settle readings key token settlement commit)) := by
  unfold deliver
  dsimp only
  generalize htransaction : (match settlement with
    | .acknowledged => acknowledge payloads outbox readings key.1 key.2 token
    | .retried error retryDelayMs =>
      retry payloads outbox readings key.1 key.2 token error retryDelayMs) = transaction
  rcases transact_cases outbox commit transaction with
    ⟨hsame, error, herror⟩ | ⟨next, changed, hok, hnext, hanswer⟩
  . rw [hsame, herror]
    apply delivered_of_unchanged h <;> simp
  . have hsettle : settle payloads outbox readings key.1 key.2 token (settlement.settledRow readings)
        = .ok (next, changed) := by
      rw [hok] at htransaction
      cases settlement with
      | acknowledged =>
        simp only [acknowledge, bind_eq_ok] at htransaction
        obtain ⟨_, _, _, _, _, _, hsettle⟩ := htransaction
        exact hsettle
      | retried error retryDelayMs =>
        simp only [retry, bind_eq_ok] at htransaction
        obtain ⟨_, _, _, _, _, _, _, _, _, _, hsettle⟩ := htransaction
        exact hsettle
    rw [hnext]
    rcases settle_eq_ok h hsettle with hkept | ⟨row, hlookup, rfl, hheld, hstored, hsettled⟩
    . cases hkept
      apply delivered_of_unchanged h
      . simp
      . intro hreply
        have := hanswer true (by simpa using hreply)
        contradiction
    . cases hsettled
      have hkey : (settlement.settledRow readings row).key = row.key := by cases settlement <;> rfl
      refine ⟨?_, ?_, ?_, by simp, ?_⟩
      . rw [← hkey]
        exact h.insert hstored
      . intro key' row' hlookup'
        by_cases hsame : key' = row.key
        . subst hsame
          rw [hlookup] at hlookup'
          cases hlookup'
          exact ⟨_, AList.lookup_insert _, .settled readings token settlement commit hheld⟩
        . exact ⟨row', by rwa [Table.lookup_insert, if_neg hsame], .same _⟩
      . intro key' hnone _
        rwa [Table.lookup_insert, if_neg]
        rintro rfl
        exact Option.some_ne_none _ (hlookup.symm.trans hnone)
      . intro _
        exact ⟨row, readings, token, settlement, commit, rfl, hlookup, hheld, AList.lookup_insert _⟩

theorem delivered (h : Sound payloads outbox) (command : OutboxCommand π)
    : Delivered payloads outbox command (deliver payloads outbox command) := by
  cases command with
  | enqueue tenantId outboxId availableAt intent commit => exact delivered_enqueue h ..
  | claim readings locked token tenantId options commit => exact delivered_claim h commit
  | settle readings key token settlement commit => exact delivered_settle h key settlement commit

theorem sound_final (h : Sound payloads outbox) (commands : List (OutboxCommand π))
    : Sound payloads (final (deliver payloads) outbox commands) := by
  induction commands generalizing outbox with
  | nil => exact h
  | cons command commands ih => exact ih (delivered h command).sound

theorem evolves_final {P : OutboxRow π → Prop} {commands : List (OutboxCommand π)}
    (hstep : ∀ row row' command, command ∈ commands → Evolves row command row' → P row → P row')
    (h : Sound payloads outbox) {key : String × Nat} (hlookup : outbox.lookup key = some row) (hrow : P row)
    : ∃ row', (final (deliver payloads) outbox commands).lookup key = some row' ∧ P row' := by
  induction commands generalizing outbox row with
  | nil => exact ⟨row, hlookup, hrow⟩
  | cons command commands ih =>
    have hdelivered := delivered h command
    obtain ⟨row', hlookup', hevolves⟩ := hdelivered.evolves key row hlookup
    exact ih (fun row row' command hmem => hstep row row' command (List.mem_cons_of_mem _ hmem))
      hdelivered.sound hlookup' (hstep row row' command List.mem_cons_self hevolves hrow)

abbrev OutboxEntry (π : Type) := OutboxCommand π × OutboxReply π

def Delivers (entry : OutboxEntry π) (message : OutboxMessage π) : Prop :=
  ∃ messages, entry.2 = .claimed (.ok messages) ∧ message ∈ messages

def Settles (entry : OutboxEntry π) (key : String × Nat) (token : String) : Prop :=
  entry.2 = .settled (.ok true)
    ∧ ∃ readings settlement commit, entry.1 = .settle readings key token settlement commit

def Acknowledges (entry : OutboxEntry π) (key : String × Nat) : Prop :=
  entry.2 = .settled (.ok true) ∧ ∃ readings token commit, entry.1 = .settle readings key token .acknowledged commit

theorem deliveredAs_of_delivers (h : Sound payloads outbox) {message : OutboxMessage π}
    (hdelivers : Delivers (command, (deliver payloads outbox command).1) message)
    : ∃ row readings locked options commit,
        command = .claim readings locked message.lease.token message.tenantId options commit
          ∧ outbox.lookup message.key = some row
          ∧ row.Claimable (readings.filtered message.outboxId)
          ∧ row.intent = message.intent
          ∧ row.attemptCount < message.attemptCount
          ∧ ∃ row', (deliver payloads outbox command).2.lookup message.key = some row'
            ∧ DeliveredAs row' message := by
  obtain ⟨messages, hreply, hmem⟩ := hdelivers
  obtain ⟨row, readings, locked, token, options, commit, rfl, hlookup, hclaimable, rfl, hlater⟩ :=
    (delivered h command).claimed messages hreply message hmem
  exact ⟨row, readings, locked, options, commit, rfl, hlookup, hclaimable, rfl, Nat.lt_succ_self _, _, hlater,
    rfl, rfl, rfl, rfl, hclaimable.1⟩

theorem held_of_settles (h : Sound payloads outbox) {key : String × Nat} {token : String}
    (hsettles : Settles (command, (deliver payloads outbox command).1) key token)
    : ∃ row clock, outbox.lookup key = some row ∧ row.Held token clock := by
  obtain ⟨hreply, readings, settlement, commit, hcommand⟩ := hsettles
  obtain ⟨row, _, _, _, _, heq, hlookup, hheld, _⟩ := (delivered h command).settled hreply
  cases hcommand.symm.trans heq
  exact ⟨row, _, hlookup, hheld⟩

theorem published_of_acknowledges (h : Sound payloads outbox) {key : String × Nat}
    (hacknowledges : Acknowledges (command, (deliver payloads outbox command).1) key)
    : ∃ row, (deliver payloads outbox command).2.lookup key = some row ∧ row.publishedAt ≠ none := by
  obtain ⟨hreply, readings, token, commit, hcommand⟩ := hacknowledges
  obtain ⟨row, _, _, _, _, heq, _, _, hlookup⟩ := (delivered h command).settled hreply
  cases hcommand.symm.trans heq
  exact ⟨_, hlookup, Option.some_ne_none _⟩

/-- A message is delivered again only when its lease has ended, as a later attempt with the same intent. An
acknowledgement is the last that happens to it and, with new tokens, comes from its last delivery. -/
theorem deliveries {commands : List (OutboxCommand π)} {before middle after : List (OutboxEntry π)}
    {first second : OutboxEntry π}
    (h : transcript (deliver payloads) ∅ commands = before ++ first :: (middle ++ second :: after))
    : (∀ message message', Delivers first message → Delivers second message' → message'.key = message.key →
          message'.intent = message.intent
            ∧ message.attemptCount < message'.attemptCount
            ∧ ∃ entry ∈ middle ++ [second], EndsLease message entry.1)
        ∧ (∀ key, Acknowledges first key →
            (∀ message, Delivers second message → message.key ≠ key) ∧ ∀ token, ¬Settles second key token)
        ∧ ∀ message, Delivers first message → Settles second message.key message.lease.token →
            (commands.filterMap claimToken).Nodup →
              ∀ entry ∈ middle, ∀ message', Delivers entry message' → message'.key ≠ message.key := by
  obtain ⟨earlier, command, later, rfl, _, rfl, hlater⟩ := Transcript.split h
  obtain ⟨between, command', rest, rfl, rfl, rfl, _⟩ := Transcript.split hlater.symm
  have hs : Sound payloads (final (deliver payloads) ∅ earlier) := sound_final sound_empty earlier
  have hs' := (delivered hs command).sound
  have hs'' := sound_final hs' between
  refine ⟨?_, ?_, ?_⟩
  . intro message message' hfirst hsecond hkey
    obtain ⟨_, _, _, _, _, _, _, _, _, _, row, hrow, hdelivered⟩ := deliveredAs_of_delivers hs hfirst
    obtain ⟨row', readings, _, _, _, rfl, hrow', hclaimable, hintent, hattempt, _⟩ :=
      deliveredAs_of_delivers hs'' hsecond
    obtain ⟨kept, hkept, ⟨_, hsame, hle⟩, hleased⟩ := evolves_final
      (P := fun row => (row.key = message.key ∧ row.intent = message.intent
          ∧ message.attemptCount ≤ row.attemptCount)
        ∧ (DeliveredAs row message ∨ ∃ command ∈ between, EndsLease message command))
      (by
        rintro row row' command hmem hevolves ⟨⟨hkey, hintent, hle⟩, hleased⟩
        obtain ⟨hkey', hintent', hle'⟩ := evolves_kept hevolves
        refine ⟨⟨hkey'.trans hkey, hintent'.trans hintent, hle.trans hle'⟩, ?_⟩
        rcases hleased with hdelivered | hended
        . exact (evolves_deliveredAs hevolves hdelivered).imp_right (fun hends => ⟨command, hmem, hends⟩)
        . exact .inr hended)
      hs' hrow ⟨⟨hdelivered.1, hdelivered.2.1, hdelivered.2.2.1.ge⟩, .inl hdelivered⟩
    rw [hkey, hkept] at hrow'
    cases hrow'
    refine ⟨hintent.symm.trans hsame, by omega, ?_⟩
    rcases hleased with hdelivered | ⟨ending, hmem, hends⟩
    . refine ⟨_, List.mem_append_right _ List.mem_cons_self, ?_⟩
      obtain ⟨htenant, hidentity⟩ := Prod.mk.inj hkey
      refine ⟨htenant, ?_⟩
      rw [← hidentity]
      exact hclaimable.2.2 _ hdelivered.2.2.2.1
    . rw [← transcript_fst (deliver payloads) _ between] at hmem
      obtain ⟨entry, hentry, rfl⟩ := List.mem_map.mp hmem
      exact ⟨entry, List.mem_append_left _ hentry, hends⟩
  . intro key hacknowledges
    obtain ⟨row, hrow, hpublished⟩ := published_of_acknowledges hs hacknowledges
    obtain ⟨_, hkept, rfl⟩ := evolves_final (P := fun row' => row' = row)
      (by
        rintro _ row' command _ hevolves rfl
        exact evolves_published hevolves hpublished)
      hs' hrow rfl
    refine ⟨?_, ?_⟩
    . rintro message hdelivers rfl
      obtain ⟨row', _, _, _, _, _, hrow', hclaimable, _⟩ := deliveredAs_of_delivers hs'' hdelivers
      rw [hkept] at hrow'
      cases hrow'
      exact hpublished hclaimable.1
    . intro token hsettles
      obtain ⟨row', _, hrow', hheld⟩ := held_of_settles hs'' hsettles
      rw [hkept] at hrow'
      cases hrow'
      exact hpublished hheld.1
  . intro message hfirst hsettles hfresh entry hentry message' hdelivers hkey
    obtain ⟨row, _, hrow, hheld⟩ := held_of_settles hs'' hsettles
    obtain ⟨front, back, hmiddle⟩ := List.append_of_mem hentry
    obtain ⟨front, ending, back, rfl, _, rfl, _⟩ := Transcript.split hmiddle
    obtain ⟨_, _, _, _, _, hcommand, _⟩ := deliveredAs_of_delivers hs hfirst
    have hs3 := sound_final hs' front
    obtain ⟨_, _, _, _, _, hending, _, _, _, _, row', hrow', hdelivered⟩ := deliveredAs_of_delivers hs3 hdelivers
    have hlost : ∀ other ∈ front ++ ending :: back, claimToken other ≠ some message.lease.token := by
      rw [List.filterMap_append, List.filterMap_cons, hcommand] at hfresh
      have hnew := (List.nodup_cons.mp (List.nodup_append.mp hfresh).2.1).1
      intro other hother htoken
      exact hnew (List.mem_filterMap.mpr ⟨other, List.mem_append_left _ hother, htoken⟩)
    rw [final_append] at hrow
    obtain ⟨kept, hkept, hother⟩ := evolves_final
      (P := fun row => ∀ lease ∈ row.lease, lease.token ≠ message.lease.token)
      (by
        intro row row' command hmem hevolves hother
        cases hevolves with
        | same => exact hother
        | claimed _ _ token =>
          rintro lease ⟨⟩ heq
          exact hlost _ (List.mem_append_right _ (List.mem_cons_of_mem _ hmem)) (congrArg some heq)
        | settled _ _ settlement => cases settlement <;> simp [Settlement.settledRow, acknowledgedRow, retriedRow])
      (delivered hs3 ending).sound hrow' (by
        intro lease hmem heq
        rw [hdelivered.2.2.2.1] at hmem
        cases hmem
        refine hlost ending (List.mem_append_right _ List.mem_cons_self) ?_
        rw [hending, claimToken, heq])
    rw [← hkey] at hrow
    cases hkept.symm.trans hrow
    obtain ⟨_, lease, hmem, htoken, _⟩ := hheld
    exact hother lease hmem htoken

def samplePayloads : PayloadSchema Unit :=
  ⟨fun _ => true, fun _ => true⟩

def sampleReadings (clock : Nat) : Readings :=
  ⟨fun _ => clock, fun _ => clock, fun _ => Nat.le_refl clock⟩

def sampleIntent : OutboxIntent Unit :=
  ⟨"evt_1", "evidence.event", 0, "evidence.recorded", (), "0.1"⟩

def sampleOptions : ClaimOutboxOptions :=
  ⟨1, 10, "wrk_a"⟩

def sampleToken : String :=
  "00000000-0000-4000-8000-000000000001"

def sampleToken' : String :=
  "00000000-0000-4000-8000-000000000002"

def sampleEnqueue : OutboxCommand Unit :=
  .enqueue "ten_a" 1 0 sampleIntent .committed

def sampleClaim (clock : Nat) (token : String) : OutboxCommand Unit :=
  .claim (sampleReadings clock) (fun _ => false) token "ten_a" sampleOptions .committed

def sampleMessage (expiresAt attemptCount : Nat) (token : String) : OutboxMessage Unit :=
  ⟨attemptCount, sampleIntent, ⟨expiresAt, "wrk_a", token⟩, 1, "ten_a"⟩

def sampleCommands : List (OutboxCommand Unit) :=
  [sampleEnqueue, sampleClaim 0 sampleToken, sampleClaim 1000 sampleToken']

theorem deliveries_sampleCommands
    : ∃ entry ∈ [(sampleClaim 1000 sampleToken', OutboxReply.claimed (.ok [sampleMessage 2000 2 sampleToken']))],
        EndsLease (sampleMessage 1000 1 sampleToken) entry.1 := by
  have hrun : transcript (deliver samplePayloads) ∅ sampleCommands
      = [(sampleEnqueue, .enqueued (.ok ()))]
        ++ (sampleClaim 0 sampleToken, .claimed (.ok [sampleMessage 1000 1 sampleToken]))
        :: ([] ++ (sampleClaim 1000 sampleToken', .claimed (.ok [sampleMessage 2000 2 sampleToken'])) :: []) := rfl
  have hdeliveries := (deliveries hrun).1 (sampleMessage 1000 1 sampleToken) (sampleMessage 2000 2 sampleToken')
  exact (hdeliveries ⟨_, rfl, List.mem_cons_self⟩ ⟨_, rfl, List.mem_cons_self⟩ rfl).2.2

end Delivery
end Outbox
end ProofStack
