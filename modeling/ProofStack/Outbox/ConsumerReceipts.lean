import ProofStack.Checks
import ProofStack.Host.Text
import ProofStack.Store.Table

/-!
This module contains the receipts of consumed messages.
-/

namespace ProofStack
namespace Outbox

open Checks Store

inductive ConsumerReceiptState where
  | available
  | completed
  | processing
  deriving DecidableEq

structure ConsumerReceiptLease where
  expiresAt : Nat
  owner : String
  token : String
  deriving DecidableEq

structure ConsumerReceiptKey where
  tenantId : String
  consumerName : String
  messageId : String
  deriving DecidableEq

structure ConsumerReceipt where
  attemptCount : Nat
  availableAt : Nat
  completedAt : Option Nat
  createdAt : Nat
  lastError : Option Host.Text
  lease : Option ConsumerReceiptLease
  payloadSha256 : String
  state : ConsumerReceiptState
  deriving DecidableEq

structure ConsumerReceiptRow where
  payloadSha256 : String
  state : ConsumerReceiptState
  attemptCount : Nat
  createdAt : Nat
  availableAt : Nat
  leaseToken : Option String
  leaseOwner : Option String
  leaseExpiresAt : Option Nat
  completedAt : Option Nat
  lastError : Option Host.Text
  deriving DecidableEq

structure ClaimConsumerReceiptOptions where
  leaseDurationMs : Nat
  payloadSha256 : String
  workerId : String

inductive ClaimConsumerReceiptResult where
  | acquired (receipt : ConsumerReceipt)
  | busy (receipt : ConsumerReceipt)
  | completed (receipt : ConsumerReceipt)
  | deferred (receipt : ConsumerReceipt)
  deriving DecidableEq

inductive OutboxError where
  | typeError (message : String)
  | rangeError (message : String)
  | zod
  | conflict (key : ConsumerReceiptKey)
  | integrity (message : String)
  | constraint (name : String)
  | guarded (message : String)
  deriving DecidableEq

/-- What the clock of the database shows at each of its readings in a transaction. -/
structure Clock where
  reading : Nat → Nat
  monotone : Monotone reading

abbrev Receipts := Table ConsumerReceiptKey ConsumerReceiptRow

def ConsumerReceiptRow.Shaped (row : ConsumerReceiptRow) : Prop :=
  match row.state with
  | .available =>
    row.leaseToken = none ∧ row.leaseOwner = none ∧ row.leaseExpiresAt = none ∧ row.completedAt = none
      ∧ row.lastError ≠ none
  | .processing =>
    row.leaseToken ≠ none ∧ row.leaseOwner ≠ none ∧ row.leaseExpiresAt ≠ none ∧ row.completedAt = none
  | .completed =>
    row.leaseToken = none ∧ row.leaseOwner = none ∧ row.leaseExpiresAt = none ∧ row.completedAt ≠ none
      ∧ row.lastError = none

instance decidableShaped (row : ConsumerReceiptRow) : Decidable row.Shaped := by
  unfold ConsumerReceiptRow.Shaped
  cases row.state <;> infer_instance

def checkConstraints (row : ConsumerReceiptRow) : Except OutboxError Unit := do
  failIf (¬Sha256Schema row.payloadSha256) (.constraint "proofstack_consumer_receipt_sha256_format")
  failIf (¬boundedInteger 1 1000000 row.attemptCount)
    (.constraint "proofstack_consumer_receipt_attempt_range")
  failIf (∃ owner ∈ row.leaseOwner, ¬OpaqueIdSchema owner)
    (.constraint "proofstack_consumer_receipt_lease_owner_format")
  failIf (∃ error ∈ row.lastError, ¬boundedInteger 1 2048 (Host.scalars error).length)
    (.constraint "proofstack_consumer_receipt_last_error_length")
  failIf (∃ completedAt ∈ row.completedAt, completedAt < row.createdAt)
    (.constraint "proofstack_consumer_receipt_completion_time")
  failIf (¬row.Shaped) (.constraint "proofstack_consumer_receipt_state_shape")

def guardTransition (old new : ConsumerReceiptRow) (clock : Nat) : Except OutboxError Unit := do
  failIf (new.payloadSha256 ≠ old.payloadSha256 ∨ new.createdAt ≠ old.createdAt)
    (.guarded "ProofStack consumer receipt identity is immutable")
  match old.state, new.state with
  | .completed, _ => .error (.guarded "A completed ProofStack consumer receipt is terminal")
  | .available, _ =>
    failIf (new.state ≠ .processing ∨ new.attemptCount ≠ old.attemptCount + 1
        ∨ new.availableAt ≠ old.availableAt ∨ old.availableAt > clock)
      (.guarded "An available ProofStack consumer receipt can only enter processing")
  | .processing, .processing =>
    failIf ((∃ expiresAt ∈ old.leaseExpiresAt, expiresAt > clock) ∨ new.attemptCount ≠ old.attemptCount + 1
        ∨ new.availableAt ≠ old.availableAt ∨ new.leaseToken = old.leaseToken)
      (.guarded "A processing ProofStack consumer receipt can only be reclaimed after expiry")
  | .processing, _ =>
    failIf ((∃ expiresAt ∈ old.leaseExpiresAt, expiresAt ≤ clock) ∨ new.attemptCount ≠ old.attemptCount)
      (.guarded "Only a current ProofStack consumer receipt lease can finish processing")

def update (receipts : Receipts) (key : ConsumerReceiptKey) (old new : ConsumerReceiptRow) (clock : Nat)
    : Except OutboxError Receipts := do
  guardTransition old new clock
  checkConstraints new
  return receipts.insert key new

def isDottedName (maximum : Nat) (name : String) : Bool :=
  match name.toList with
  | [] => false
  | c :: cs =>
    isLowerAscii c
      && cs.all (fun c => isLowerAscii c || isDigitAscii c || c == '_' || c == '.' || c == '-')
      && 2 ≤ cs.length
      && cs.length ≤ maximum

def isConsumerName (name : String) : Bool :=
  isDottedName 127 name

def isLowerHex (c : Char) : Bool :=
  isDigitAscii c || ('a' ≤ c && c ≤ 'f')

def isUuid (token : String) : Bool :=
  match token.toList.splitOn '-' with
  | [first, second, third, fourth, fifth] =>
    [first, second, third, fourth, fifth].all (fun part => part.all isLowerHex)
      && [first, second, third, fourth, fifth].map List.length == [8, 4, 4, 4, 12]
      && third.head?.any (fun c => '1' ≤ c && c ≤ '8')
      && fourth.head?.any (fun c => c == '8' || c == '9' || c == 'a' || c == 'b')
  | _ => false

def maxConsumerReceiptLeaseDurationMs : Nat := 5 * 60 * 1000

def maxConsumerReceiptRetryDelayMs : Nat := 24 * 60 * 60 * 1000

def maxConsumerReceiptErrorLength : Nat := 2048

def requireBoundedInteger (value minimum maximum : Nat) (label : String)
    : Except OutboxError Unit :=
  failIf (¬boundedInteger minimum maximum value)
    (.rangeError (label ++ " must be between " ++ toString minimum ++ " and " ++ toString maximum))

def requireLeaseToken (token : String) : Except OutboxError Unit :=
  failIf (¬isUuid token) (.typeError "leaseToken must be a UUID")

def validateKey (key : ConsumerReceiptKey) : Except OutboxError Unit := do
  failIf (¬isConsumerName key.consumerName)
    (.typeError "consumerName must be a valid namespaced consumer identifier")
  failIf (¬boundedInteger 1 128 (Host.text key.messageId).length)
    (.rangeError "messageId must contain between 1 and 128 characters")
  failIf (¬OpaqueIdSchema key.tenantId) (.typeError "tenantId must be a valid opaque identifier")

-- The columns of the key are those that the row has been selected by.
def receiptFromRow (row : ConsumerReceiptRow) : Except OutboxError ConsumerReceipt := do
  failIf (¬Sha256Schema row.payloadSha256)
    (.integrity "Stored consumer receipt payload digest is invalid")
  failIf (¬boundedInteger 1 1000000 row.attemptCount)
    (.integrity "Stored consumer receipt attempt count is invalid")
  failIf (∃ error ∈ row.lastError, ¬boundedInteger 1 2048 error.length)
    (.integrity "Stored consumer receipt error summary is invalid")
  let lease ← match row.leaseToken, row.leaseOwner, row.leaseExpiresAt with
    | none, none, none => .ok none
    | some token, some owner, some expiresAt => .ok (some ⟨expiresAt, owner, token⟩)
    | _, _, _ => .error (.integrity "Stored consumer receipt has an incomplete lease")
  failIf (∃ current ∈ lease, ¬isUuid current.token)
    (.integrity "Stored consumer receipt lease token is invalid")
  failIf (∃ current ∈ lease, ¬OpaqueIdSchema current.owner)
    (.integrity "Stored consumer receipt lease owner is invalid")
  match row.state with
  | .available =>
    failIf (lease ≠ none ∨ row.completedAt ≠ none ∨ row.lastError = none)
      (.integrity "Stored available consumer receipt has an invalid state shape")
  | .processing =>
    failIf (lease = none ∨ row.completedAt ≠ none)
      (.integrity "Stored processing consumer receipt has an invalid state shape")
  | .completed =>
    failIf (lease ≠ none ∨ row.lastError ≠ none ∨ row.completedAt = none)
      (.integrity "Stored completed consumer receipt has an invalid state shape")
  return {
    attemptCount := row.attemptCount
    availableAt := row.availableAt
    completedAt := row.completedAt
    createdAt := row.createdAt
    lastError := row.lastError
    lease
    payloadSha256 := row.payloadSha256
    state := row.state }

def ConsumerReceiptRow.leaseCurrent (row : ConsumerReceiptRow) (clock : Nat) : Prop :=
  ∃ expiresAt ∈ row.leaseExpiresAt, expiresAt > clock

def ConsumerReceiptRow.held (row : ConsumerReceiptRow) (token : String) (clock : Nat) : Prop :=
  row.state = .processing ∧ row.leaseToken = some token ∧ row.leaseCurrent clock

instance decidableLeaseCurrent (row : ConsumerReceiptRow) (clock : Nat) : Decidable (row.leaseCurrent clock) :=
  inferInstanceAs (Decidable (∃ expiresAt ∈ row.leaseExpiresAt, expiresAt > clock))

instance decidableHeld (row : ConsumerReceiptRow) (token : String) (clock : Nat) : Decidable (row.held token clock) :=
  inferInstanceAs (Decidable (_ ∧ _ ∧ _))

def milliseconds (duration : Nat) : Nat :=
  duration * 1000

def insertedRow (clock : Clock) (token : String) (options : ClaimConsumerReceiptOptions)
    : ConsumerReceiptRow where
  payloadSha256 := options.payloadSha256
  state := .processing
  attemptCount := 1
  createdAt := clock.reading 1
  availableAt := clock.reading 2
  leaseToken := some token
  leaseOwner := some options.workerId
  leaseExpiresAt := some (clock.reading 3 + milliseconds options.leaseDurationMs)
  completedAt := none
  lastError := none

def reclaimedRow (row : ConsumerReceiptRow) (clock : Clock) (token : String)
    (options : ClaimConsumerReceiptOptions) : ConsumerReceiptRow :=
  { row with
    state := .processing
    attemptCount := row.attemptCount + 1
    leaseToken := some token
    leaseOwner := some options.workerId
    leaseExpiresAt := some (clock.reading 1 + milliseconds options.leaseDurationMs) }

def validateClaim (token : String) (key : ConsumerReceiptKey) (options : ClaimConsumerReceiptOptions)
    : Except OutboxError Unit := do
  validateKey key
  failIf (¬Sha256Schema options.payloadSha256) .zod
  failIf (¬OpaqueIdSchema options.workerId) .zod
  requireBoundedInteger options.leaseDurationMs 1 maxConsumerReceiptLeaseDurationMs "leaseDurationMs"
  requireLeaseToken token

def claimRow (receipts : Receipts) (clock : Clock) (token : String) (key : ConsumerReceiptKey)
    (options : ClaimConsumerReceiptOptions)
    : Except OutboxError (Receipts × ClaimConsumerReceiptResult) :=
  match receipts.lookup key with
  | none => do
    let inserted := insertedRow clock token options
    checkConstraints inserted
    return (receipts.insert key inserted, .acquired (← receiptFromRow inserted))
  | some row => do
    let receipt ← receiptFromRow row
    failIf (receipt.payloadSha256 ≠ options.payloadSha256) (.conflict key)
    if receipt.state = .completed then
      return (receipts, .completed receipt)
    else if receipt.state = .processing ∧ row.leaseCurrent (clock.reading 0) then
      return (receipts, .busy receipt)
    else if receipt.state = .available ∧ row.availableAt > clock.reading 0 then
      return (receipts, .deferred receipt)
    else
      let reclaimed := reclaimedRow row clock token options
      let receipts ← update receipts key row reclaimed (clock.reading 2)
      return (receipts, .acquired (← receiptFromRow reclaimed))

def claim (receipts : Receipts) (clock : Clock) (token : String) (key : ConsumerReceiptKey)
    (options : ClaimConsumerReceiptOptions)
    : Except OutboxError (Receipts × ClaimConsumerReceiptResult) := do
  validateClaim token key options
  claimRow receipts clock token key options

def get (receipts : Receipts) (key : ConsumerReceiptKey)
    : Except OutboxError (Option ConsumerReceipt) := do
  validateKey key
  match receipts.lookup key with
  | none => return none
  | some row => return some (← receiptFromRow row)

/-- An update of the row that is still held under the token. -/
def finish (receipts : Receipts) (clock : Clock) (key : ConsumerReceiptKey) (token : String)
    (finished : ConsumerReceiptRow → ConsumerReceiptRow)
    : Except OutboxError (Receipts × Bool) :=
  match receipts.lookup key with
  | none => return (receipts, false)
  | some row =>
    if row.held token (clock.reading 0) then do
      return (← update receipts key row (finished row) (clock.reading 2), true)
    else
      return (receipts, false)

def completedRow (clock : Clock) (row : ConsumerReceiptRow) : ConsumerReceiptRow :=
  { row with
    state := .completed
    completedAt := some (clock.reading 1)
    leaseToken := none
    leaseOwner := none
    leaseExpiresAt := none
    lastError := none }

def validateComplete (key : ConsumerReceiptKey) (token : String) : Except OutboxError Unit := do
  validateKey key
  requireLeaseToken token

def complete (receipts : Receipts) (clock : Clock) (key : ConsumerReceiptKey) (token : String)
    : Except OutboxError (Receipts × Bool) := do
  validateComplete key token
  finish receipts clock key token (completedRow clock)

def releasedRow (clock : Clock) (error : Host.Text) (retryDelayMs : Nat) (row : ConsumerReceiptRow)
    : ConsumerReceiptRow :=
  { row with
    state := .available
    availableAt := clock.reading 1 + milliseconds retryDelayMs
    leaseToken := none
    leaseOwner := none
    leaseExpiresAt := none
    lastError := some (Host.toWellFormed error) }

def validateRelease (key : ConsumerReceiptKey) (token : String) (error : Host.Text) (retryDelayMs : Nat)
    : Except OutboxError Unit := do
  validateKey key
  requireLeaseToken token
  requireBoundedInteger retryDelayMs 0 maxConsumerReceiptRetryDelayMs "retryDelayMs"
  failIf (¬boundedInteger 1 maxConsumerReceiptErrorLength error.length)
    (.rangeError ("error must contain between 1 and " ++ toString maxConsumerReceiptErrorLength
      ++ " characters"))

def release (receipts : Receipts) (clock : Clock) (key : ConsumerReceiptKey) (token : String)
    (error : Host.Text) (retryDelayMs : Nat)
    : Except OutboxError (Receipts × Bool) := do
  validateRelease key token error retryDelayMs
  finish receipts clock key token (releasedRow clock error retryDelayMs)

/-- A transaction fails with an error of the repository, or together with the connection. -/
inductive TransactionError where
  | repository (error : OutboxError)
  | connection
  deriving DecidableEq

/-- Whether a transaction has been committed is unknown when the connection is lost. -/
inductive Commit where
  | committed
  | rolledBack
  | unacknowledged

/-- The state that a transaction leaves, and what its caller gets to know. -/
def transact {σ β : Type} (s : σ) (commit : Commit) (transaction : Except OutboxError (σ × β))
    : σ × Except TransactionError β :=
  match transaction, commit with
  | .error error, _ => (s, .error (.repository error))
  | .ok (next, result), .committed => (next, .ok result)
  | .ok (next, _), .unacknowledged => (next, .error .connection)
  | .ok _, .rolledBack => (s, .error .connection)

theorem one_le_length_scalars {units : Host.Text} (h : units ≠ []) : 1 ≤ (Host.scalars units).length := by
  fun_cases Host.scalars units with
  | case1 => contradiction
  | case2 => exact Nat.le_refl 1
  | case3 => simp
  | case4 => simp

theorem length_toWellFormed (units : Host.Text) : (Host.toWellFormed units).length = units.length := by
  fun_induction Host.toWellFormed units with
  | case1 => rfl
  | case2 => rfl
  | case3 _ _ _ _ ih => simp [ih]
  | case4 _ _ _ _ ih => simpa using ih

namespace ConsumerReceiptRow

variable {row : ConsumerReceiptRow} {clock : Clock} {token : String} {options : ClaimConsumerReceiptOptions}

structure Stored (row : ConsumerReceiptRow) : Prop where
  payload : Sha256Schema row.payloadSha256
  attempts : boundedInteger 1 1000000 row.attemptCount
  owner : ∀ owner ∈ row.leaseOwner, OpaqueIdSchema owner
  token : ∀ token ∈ row.leaseToken, isUuid token
  error : ∀ error ∈ row.lastError, boundedInteger 1 2048 error.length
  shaped : row.Shaped

def lease (row : ConsumerReceiptRow) : Option ConsumerReceiptLease :=
  match row.leaseToken, row.leaseOwner, row.leaseExpiresAt with
  | some token, some owner, some expiresAt => some ⟨expiresAt, owner, token⟩
  | _, _, _ => none

def receipt (row : ConsumerReceiptRow) : ConsumerReceipt where
  attemptCount := row.attemptCount
  availableAt := row.availableAt
  completedAt := row.completedAt
  createdAt := row.createdAt
  lastError := row.lastError
  lease := row.lease
  payloadSha256 := row.payloadSha256
  state := row.state

theorem receiptFromRow_of_stored (h : row.Stored) : receiptFromRow row = .ok row.receipt := by
  obtain ⟨hpayload, hattempts, howner, htoken, herror, hshaped⟩ := h
  have herror' : ¬∃ error ∈ row.lastError, ¬boundedInteger 1 2048 error.length := by
    simpa using herror
  unfold receiptFromRow
  rw [failIf_bind_of_false (not_not.mpr hpayload), failIf_bind_of_false (not_not.mpr hattempts),
    failIf_bind_of_false herror']
  unfold Shaped at hshaped
  unfold receipt lease
  cases hstate : row.state with
  | available =>
    rw [hstate] at hshaped
    obtain ⟨hnone, hnoOwner, hnoExpiry, hcompleted, hsome⟩ := hshaped
    simp [hnone, hnoOwner, hnoExpiry, hcompleted, hsome, failIf, bind, Except.bind, pure, Except.pure]
  | completed =>
    rw [hstate] at hshaped
    obtain ⟨hnone, hnoOwner, hnoExpiry, hcompleted, hnoError⟩ := hshaped
    simp [hnone, hnoOwner, hnoExpiry, hcompleted, hnoError, failIf, bind, Except.bind, pure, Except.pure]
  | processing =>
    rw [hstate] at hshaped
    obtain ⟨hsome, hsomeOwner, hsomeExpiry, hcompleted⟩ := hshaped
    obtain ⟨current, hcurrent⟩ := Option.ne_none_iff_exists'.mp hsome
    obtain ⟨owner, howner'⟩ := Option.ne_none_iff_exists'.mp hsomeOwner
    obtain ⟨expiresAt, hexpiresAt⟩ := Option.ne_none_iff_exists'.mp hsomeExpiry
    have huuid := htoken current hcurrent
    have hopaque := howner owner howner'
    simp [hcurrent, howner', hexpiresAt, hcompleted, huuid, hopaque, failIf, bind, Except.bind, pure,
      Except.pure]

theorem Stored.lease_of_processing (h : row.Stored) (hstate : row.state = .processing)
    : ∃ lease, row.lease = some lease ∧ row.leaseToken = some lease.token := by
  have hshaped := h.shaped
  unfold Shaped at hshaped
  rw [hstate] at hshaped
  obtain ⟨hsome, hsomeOwner, hsomeExpiry, _⟩ := hshaped
  obtain ⟨token, htoken⟩ := Option.ne_none_iff_exists'.mp hsome
  obtain ⟨owner, howner⟩ := Option.ne_none_iff_exists'.mp hsomeOwner
  obtain ⟨expiresAt, hexpiresAt⟩ := Option.ne_none_iff_exists'.mp hsomeExpiry
  refine ⟨⟨expiresAt, owner, token⟩, ?_, htoken⟩
  rw [lease, htoken, howner, hexpiresAt]

theorem checkConstraints_of_stored (h : row.Stored)
    : checkConstraints row
        = failIf (∃ completedAt ∈ row.completedAt, completedAt < row.createdAt)
            (.constraint "proofstack_consumer_receipt_completion_time") := by
  have herror : ¬∃ error ∈ row.lastError, ¬boundedInteger 1 2048 (Host.scalars error).length := by
    rintro ⟨error, hmem, hlength⟩
    obtain ⟨hpositive, hle⟩ := h.error error hmem
    apply hlength
    refine ⟨one_le_length_scalars ?_, (Host.length_scalars_le error).trans hle⟩
    rintro rfl
    contradiction
  have howner : ¬∃ owner ∈ row.leaseOwner, ¬OpaqueIdSchema owner := by
    simpa using h.owner
  unfold checkConstraints
  rw [failIf_bind_of_false (not_not.mpr h.payload), failIf_bind_of_false (not_not.mpr h.attempts),
    failIf_bind_of_false howner, failIf_bind_of_false herror]
  by_cases htime : ∃ completedAt ∈ row.completedAt, completedAt < row.createdAt
  . rw [failIf_bind_of_true htime, failIf, if_pos htime]
  . rw [failIf_bind_of_false htime, failIf, if_neg (not_not.mpr h.shaped), failIf, if_neg htime]

theorem checkConstraints_of_open (h : row.Stored) (hopen : row.completedAt = none)
    : checkConstraints row = .ok () := by
  rw [checkConstraints_of_stored h, hopen]
  simp

theorem stored_insertedRow (clock : Clock) (htoken : isUuid token) (hpayload : Sha256Schema options.payloadSha256)
    (howner : OpaqueIdSchema options.workerId)
    : (insertedRow clock token options).Stored where
  payload := hpayload
  attempts := by simp [boundedInteger, insertedRow]
  owner := by simpa [insertedRow] using howner
  token := by simpa [insertedRow] using htoken
  error := by simp [insertedRow]
  shaped := by simp [Shaped, insertedRow]

theorem Stored.completedAt_eq_none (h : row.Stored) (hopen : row.state ≠ .completed)
    : row.completedAt = none := by
  have hshaped := h.shaped
  unfold Shaped at hshaped
  cases hstate : row.state with
  | available =>
    rw [hstate] at hshaped
    exact hshaped.2.2.2.1
  | completed => exact absurd hstate hopen
  | processing =>
    rw [hstate] at hshaped
    exact hshaped.2.2.2

theorem Stored.reclaimedRow (clock : Clock) (h : row.Stored) (hopen : row.state ≠ .completed)
    (hattempts : row.attemptCount ≠ 1000000) (htoken : isUuid token)
    (howner : OpaqueIdSchema options.workerId)
    : (reclaimedRow row clock token options).Stored where
  payload := h.payload
  attempts := by
    obtain ⟨hpositive, hle⟩ := h.attempts
    unfold boundedInteger Outbox.reclaimedRow
    dsimp only
    omega
  owner := by simpa [Outbox.reclaimedRow] using howner
  token := by simpa [Outbox.reclaimedRow] using htoken
  error := h.error
  shaped := by simpa [Shaped, Outbox.reclaimedRow] using h.completedAt_eq_none hopen

theorem guardTransition_reclaimedRow (options : ClaimConsumerReceiptOptions) (hopen : row.state ≠ .completed)
    (hlease : ¬(row.state = .processing ∧ row.leaseCurrent (clock.reading 0)))
    (hdue : ¬(row.state = .available ∧ row.availableAt > clock.reading 0))
    (hfresh : row.leaseToken ≠ some token)
    : guardTransition row (reclaimedRow row clock token options) (clock.reading 2) = .ok () := by
  have hlater : clock.reading 0 ≤ clock.reading 2 := clock.monotone (Nat.zero_le 2)
  unfold guardTransition
  rw [failIf_bind_of_false (by simp [reclaimedRow])]
  cases hstate : row.state with
  | completed => exact absurd hstate hopen
  | available =>
    rw [hstate] at hdue
    have havailable : row.availableAt ≤ clock.reading 2 := by
      simp only [true_and, not_lt, gt_iff_lt] at hdue
      omega
    simp [reclaimedRow, havailable]
  | processing =>
    have hexpired : ∀ expiresAt ∈ row.leaseExpiresAt, expiresAt ≤ clock.reading 2 := by
      intro expiresAt hmem
      by_contra hcurrent
      exact hlease ⟨hstate, expiresAt, hmem, by omega⟩
    have htoken : ¬some token = row.leaseToken := fun heq => hfresh heq.symm
    simpa [reclaimedRow, htoken] using hexpired

end ConsumerReceiptRow

variable {receipts : Receipts} {clock : Clock} {token : String} {key : ConsumerReceiptKey}
variable {options : ClaimConsumerReceiptOptions}

def Guarded (receipts : Receipts) : Prop :=
  ∀ key row, receipts.lookup key = some row → row.Stored

theorem Guarded.insert (h : Guarded receipts) {row : ConsumerReceiptRow} (hrow : row.Stored)
    : Guarded (receipts.insert key row) := by
  intro key' row' hlookup
  rcases Table.lookup_insert_eq_some hlookup with ⟨rfl, rfl⟩ | ⟨_, hlookup⟩
  . exact hrow
  . exact h key' row' hlookup

structure Acquires (old : Option ConsumerReceiptRow) (clock : Clock) (token : String)
    (options : ClaimConsumerReceiptOptions) (row : ConsumerReceiptRow) : Prop where
  stored : row.Stored
  state : row.state = .processing
  token : row.leaseToken = some token
  payload : row.payloadSha256 = options.payloadSha256
  attempt : row.attemptCount = old.elim 0 (·.attemptCount) + 1
  previous : ∀ previous ∈ old,
    previous.payloadSha256 = options.payloadSha256
      ∧ previous.state ≠ .completed
      ∧ ¬(previous.state = .processing ∧ previous.leaseCurrent (clock.reading 0))

def Refused (receipts : Receipts) (key : ConsumerReceiptKey) : OutboxError → Prop
  | .integrity _ => False
  | .guarded _ => False
  | .constraint name =>
    name = "proofstack_consumer_receipt_attempt_range"
      ∧ ∃ row, receipts.lookup key = some row ∧ row.attemptCount = 1000000
  | _ => True

inductive Claims (receipts : Receipts) (clock : Clock) (token : String) (key : ConsumerReceiptKey)
    (options : ClaimConsumerReceiptOptions)
    : Except OutboxError (Receipts × ClaimConsumerReceiptResult) → Prop
  | refused (error : OutboxError) (h : Refused receipts key error)
    : Claims receipts clock token key options (.error error)
  | unclaimed (result : ClaimConsumerReceiptResult) (h : ∀ receipt, result ≠ .acquired receipt)
    : Claims receipts clock token key options (.ok (receipts, result))
  | acquired (row : ConsumerReceiptRow) (h : Acquires (receipts.lookup key) clock token options row)
    : Claims receipts clock token key options (.ok (receipts.insert key row, .acquired row.receipt))

/-- The errors of the arguments of a call, which no transaction has looked at. -/
def OutboxError.IsInput : OutboxError → Prop
  | .typeError _ | .rangeError _ | .zod => True
  | _ => False

def RejectsInput (checked : Except OutboxError Unit) : Prop :=
  ∀ error, checked = .error error → error.IsInput

namespace RejectsInput

variable {checked : Except OutboxError Unit}

theorem failIf {condition : Prop} [Decidable condition] {error : OutboxError} (h : error.IsInput)
    : RejectsInput (failIf condition error) := by
  intro thrown hthrown
  unfold Checks.failIf at hthrown
  split at hthrown
  . cases hthrown
    exact h
  . contradiction

theorem bind (h : RejectsInput checked) {next : Unit → Except OutboxError Unit}
    (hnext : ∀ u, RejectsInput (next u))
    : RejectsInput (checked >>= next) := by
  intro thrown hthrown
  rcases bind_eq_error.mp hthrown with hfirst | ⟨u, _, hrest⟩
  . exact h thrown hfirst
  . exact hnext u thrown hrest

theorem refused (h : RejectsInput checked) {error : OutboxError} (hthrown : checked = .error error)
    : Refused receipts key error := by
  have hinput := h error hthrown
  cases error <;> trivial

end RejectsInput

theorem rejectsInput_validateKey (key : ConsumerReceiptKey) : RejectsInput (validateKey key) := by
  apply RejectsInput.bind (.failIf (by trivial))
  intro _
  apply RejectsInput.bind (.failIf (by trivial))
  intro _
  exact .failIf (by trivial)

theorem rejectsInput_validateClaim (token : String) (key : ConsumerReceiptKey)
    (options : ClaimConsumerReceiptOptions)
    : RejectsInput (validateClaim token key options) := by
  apply RejectsInput.bind (rejectsInput_validateKey key)
  intro _
  apply RejectsInput.bind (.failIf (by trivial))
  intro _
  apply RejectsInput.bind (.failIf (by trivial))
  intro _
  apply RejectsInput.bind (.failIf (by trivial))
  intro _
  exact .failIf (by trivial)

theorem claims_claimRow (h : Guarded receipts) (htoken : isUuid token)
    (hpayload : Sha256Schema options.payloadSha256) (howner : OpaqueIdSchema options.workerId)
    (hfresh : ∀ row, receipts.lookup key = some row → row.leaseToken ≠ some token)
    : Claims receipts clock token key options (claimRow receipts clock token key options) := by
  unfold claimRow
  cases hlookup : receipts.lookup key with
  | none =>
    have hstored := ConsumerReceiptRow.stored_insertedRow clock htoken hpayload howner
    dsimp only
    rw [bind_of_ok (ConsumerReceiptRow.checkConstraints_of_open hstored rfl),
      bind_of_ok (ConsumerReceiptRow.receiptFromRow_of_stored hstored)]
    refine .acquired _ ?_
    rw [hlookup]
    exact ⟨hstored, rfl, rfl, rfl, rfl, by simp⟩
  | some row =>
    have hrow := h key row hlookup
    dsimp only
    rw [bind_of_ok (ConsumerReceiptRow.receiptFromRow_of_stored hrow)]
    by_cases hsame : row.receipt.payloadSha256 = options.payloadSha256
    . rw [failIf_bind_of_false (not_not.mpr hsame)]
      split
      . exact .unclaimed _ (by simp)
      split
      . exact .unclaimed _ (by simp)
      split
      . exact .unclaimed _ (by simp)
      next hopen hlease hdue =>
        have hguard := ConsumerReceiptRow.guardTransition_reclaimedRow options hopen hlease hdue
          (hfresh row hlookup)
        by_cases hattempts : row.attemptCount = 1000000
        . have hrefused : checkConstraints (reclaimedRow row clock token options)
              = .error (.constraint "proofstack_consumer_receipt_attempt_range") := by
            have hpayload : Sha256Schema (reclaimedRow row clock token options).payloadSha256 := hrow.payload
            unfold checkConstraints
            rw [failIf_bind_of_false (not_not.mpr hpayload), failIf_bind_of_true]
            simp [reclaimedRow, hattempts, boundedInteger]
          have hupdate : update receipts key row (reclaimedRow row clock token options) (clock.reading 2)
              = .error (.constraint "proofstack_consumer_receipt_attempt_range") := by
            rw [update, bind_of_ok hguard, hrefused]
            rfl
          rw [hupdate]
          exact .refused _ ⟨rfl, row, hlookup, hattempts⟩
        . have hstored := hrow.reclaimedRow clock hopen hattempts htoken howner
          have hupdate : update receipts key row (reclaimedRow row clock token options) (clock.reading 2)
              = .ok (receipts.insert key (reclaimedRow row clock token options)) := by
            rw [update, bind_of_ok hguard, bind_of_ok (ConsumerReceiptRow.checkConstraints_of_open hstored
              (hrow.completedAt_eq_none hopen))]
            rfl
          rw [bind_of_ok hupdate, bind_of_ok (ConsumerReceiptRow.receiptFromRow_of_stored hstored)]
          refine .acquired _ ?_
          rw [hlookup]
          refine ⟨hstored, rfl, rfl, hsame, rfl, ?_⟩
          intro previous hprevious
          cases hprevious
          exact ⟨hsame, hopen, hlease⟩
    . rw [failIf_bind_of_true hsame]
      exact .refused _ trivial

theorem claims (clock : Clock) (options : ClaimConsumerReceiptOptions) (h : Guarded receipts)
    (hfresh : ∀ row, receipts.lookup key = some row → row.leaseToken ≠ some token)
    : Claims receipts clock token key options (claim receipts clock token key options) := by
  unfold claim
  cases hvalid : validateClaim token key options with
  | error error => exact .refused error ((rejectsInput_validateClaim token key options).refused hvalid)
  | ok u =>
    simp only [validateClaim, requireLeaseToken, bind_eq_ok, failIf_eq_ok, not_not] at hvalid
    rcases hvalid with ⟨_, _, _, hpayload, _, howner, _, _, htoken⟩
    exact claims_claimRow h htoken hpayload howner hfresh

structure Finisher (clock : Clock) (finished : ConsumerReceiptRow → ConsumerReceiptRow) : Prop where
  payload : ∀ row, (finished row).payloadSha256 = row.payloadSha256
  createdAt : ∀ row, (finished row).createdAt = row.createdAt
  attempts : ∀ row, (finished row).attemptCount = row.attemptCount
  token : ∀ row, (finished row).leaseToken = none
  state : ∀ row, (finished row).state ≠ .processing
  completedAt : ∀ row, row.completedAt = none →
    ∀ completedAt ∈ (finished row).completedAt, completedAt = clock.reading 1
  stored : ∀ row, row.Stored → row.state = .processing → (finished row).Stored

theorem finisher_completedRow (clock : Clock) : Finisher clock (completedRow clock) where
  payload _ := rfl
  createdAt _ := rfl
  attempts _ := rfl
  token _ := rfl
  state _ := by simp [completedRow]
  completedAt _ _ := by simp [completedRow]
  stored row h _ := by
    refine ⟨h.payload, h.attempts, ?_, ?_, ?_, ?_⟩ <;> simp [completedRow, ConsumerReceiptRow.Shaped]

theorem finisher_releasedRow (clock : Clock) {error : Host.Text} (retryDelayMs : Nat)
    (herror : boundedInteger 1 maxConsumerReceiptErrorLength error.length)
    : Finisher clock (releasedRow clock error retryDelayMs) where
  payload _ := rfl
  createdAt _ := rfl
  attempts _ := rfl
  token _ := rfl
  state _ := by simp [releasedRow]
  completedAt row hnone := by simp [releasedRow, hnone]
  stored row h hstate := by
    have hopen := h.completedAt_eq_none (by rw [hstate]; decide)
    refine ⟨h.payload, h.attempts, ?_, ?_, ?_, ?_⟩
    . simp [releasedRow]
    . simp [releasedRow]
    . intro stored hmem
      cases hmem
      rw [length_toWellFormed]
      exact herror
    . simp [releasedRow, ConsumerReceiptRow.Shaped, hopen]

def FinishRefused (receipts : Receipts) (clock : Clock) (key : ConsumerReceiptKey) (token : String)
    : OutboxError → Prop
  | .integrity _ => False
  | .guarded _ =>
    ∃ row, receipts.lookup key = some row
      ∧ row.held token (clock.reading 0)
      ∧ ¬row.leaseCurrent (clock.reading 2)
  | .constraint name =>
    name = "proofstack_consumer_receipt_completion_time"
      ∧ ∃ row, receipts.lookup key = some row ∧ clock.reading 1 < row.createdAt
  | _ => True

inductive Finishes (receipts : Receipts) (clock : Clock) (key : ConsumerReceiptKey) (token : String)
    (finished : ConsumerReceiptRow → ConsumerReceiptRow)
    : Except OutboxError (Receipts × Bool) → Prop
  | refused (error : OutboxError) (h : FinishRefused receipts clock key token error)
    : Finishes receipts clock key token finished (.error error)
  | kept : Finishes receipts clock key token finished (.ok (receipts, false))
  | finished (row : ConsumerReceiptRow) (hfinished : Finisher clock finished)
      (hlookup : receipts.lookup key = some row) (hheld : row.held token (clock.reading 0))
    : Finishes receipts clock key token finished (.ok (receipts.insert key (finished row), true))

variable {finished : ConsumerReceiptRow → ConsumerReceiptRow}

theorem guardTransition_finished
    (hfinished : Finisher clock finished) {row : ConsumerReceiptRow} (hstate : row.state = .processing)
    : guardTransition row (finished row) (clock.reading 2)
        = failIf (∃ expiresAt ∈ row.leaseExpiresAt, expiresAt ≤ clock.reading 2)
            (.guarded "Only a current ProofStack consumer receipt lease can finish processing") := by
  have hnot := hfinished.state row
  unfold guardTransition
  rw [failIf_bind_of_false (by simp [hfinished.payload, hfinished.createdAt]), hstate]
  cases hnext : (finished row).state with
  | processing => exact absurd hnext hnot
  | available => simp [hfinished.attempts]
  | completed => simp [hfinished.attempts]

theorem finishes_finish (h : Guarded receipts)
    (hfinished : Finisher clock finished)
    : Finishes receipts clock key token finished (finish receipts clock key token finished) := by
  unfold finish
  cases hlookup : receipts.lookup key with
  | none => exact .kept
  | some row =>
    have hrow := h key row hlookup
    dsimp only
    split
    . next hheld =>
      have hstate := hheld.1
      have hopen := hrow.completedAt_eq_none (by rw [hstate]; decide)
      have hguard := guardTransition_finished hfinished hstate
      have hcheck := ConsumerReceiptRow.checkConstraints_of_stored (hfinished.stored row hrow hstate)
      unfold update
      rw [hguard, hcheck]
      by_cases hexpired : ∃ expiresAt ∈ row.leaseExpiresAt, expiresAt ≤ clock.reading 2
      . rw [failIf_bind_of_true hexpired]
        refine .refused _ ⟨row, hlookup, hheld, ?_⟩
        rintro ⟨expiresAt, hmem, hlater⟩
        rcases hexpired with ⟨expiresAt', hmem', hle⟩
        rw [Option.mem_unique hmem hmem'] at hlater
        omega
      . rw [failIf_bind_of_false hexpired]
        by_cases htime : ∃ completedAt ∈ (finished row).completedAt, completedAt < (finished row).createdAt
        . rw [failIf_bind_of_true htime]
          refine .refused _ ⟨rfl, row, hlookup, ?_⟩
          rcases htime with ⟨completedAt, hmem, hlt⟩
          rw [hfinished.completedAt row hopen completedAt hmem, hfinished.createdAt] at hlt
          exact hlt
        . rw [failIf_bind_of_false htime]
          exact .finished row hfinished hlookup hheld
    . exact .kept

theorem finishes_of_validated (h : Guarded receipts) {validated : Except OutboxError Unit}
    (hvalidated : RejectsInput validated)
    (hfinished : validated = .ok () → Finisher clock finished)
    : Finishes receipts clock key token finished
        (validated >>= fun _ => finish receipts clock key token finished) := by
  cases hvalid : validated with
  | error error =>
    have hinput := hvalidated error hvalid
    refine .refused error ?_
    cases error <;> trivial
  | ok u => exact finishes_finish h (hfinished hvalid)

theorem finishes_complete (clock : Clock) (key : ConsumerReceiptKey) (token : String) (h : Guarded receipts)
    : Finishes receipts clock key token (completedRow clock) (complete receipts clock key token) := by
  have hvalidated : RejectsInput (validateComplete key token) :=
    .bind (rejectsInput_validateKey key) (fun _ => .failIf (by trivial))
  exact finishes_of_validated h hvalidated (fun _ => finisher_completedRow clock)

theorem finishes_release (clock : Clock) (key : ConsumerReceiptKey) (token : String) (h : Guarded receipts)
    (error : Host.Text) (retryDelayMs : Nat)
    : Finishes receipts clock key token (releasedRow clock error retryDelayMs)
        (release receipts clock key token error retryDelayMs) := by
  have hvalidated : RejectsInput (validateRelease key token error retryDelayMs) := by
    apply RejectsInput.bind (rejectsInput_validateKey key)
    intro _
    apply RejectsInput.bind (.failIf (by trivial))
    intro _
    apply RejectsInput.bind (.failIf (by trivial))
    intro _
    exact .failIf (by trivial)
  apply finishes_of_validated h hvalidated
  intro hvalid
  simp only [validateRelease, bind_eq_ok, failIf_eq_ok, not_not] at hvalid
  rcases hvalid with ⟨_, _, _, _, _, _, herror⟩
  exact finisher_releasedRow clock retryDelayMs herror

end Outbox
end ProofStack
