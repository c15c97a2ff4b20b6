import ProofStack.Outbox.ConsumerReceipts
import ProofStack.StateMachine.Interleaved

/-!
This module contains the processing of consumed messages by any number of workers. A worker claims the
receipt of the message, runs the handler, and then completes the receipt or releases it.
-/

namespace ProofStack
namespace Outbox

open Checks StateMachine Store

def maxConsumerErrorSummaryLength : Nat := 2048

structure ProcessConsumerMessageOptions (μ ε : Type) where
  key : ConsumerReceiptKey
  claim : ClaimConsumerReceiptOptions
  message : μ
  retryDelayMs : Nat
  -- A summary may throw as well.
  summarizeError : Option (ε → Option Host.Text)

inductive LeasePhase where
  | complete
  | release
  deriving DecidableEq

inductive ProcessConsumerMessageError (ε : Type) where
  | transaction (error : TransactionError)
  | leaseLost (key : ConsumerReceiptKey) (phase : LeasePhase)
  | completion (key : ConsumerReceiptKey) (cause : TransactionError)
  | cleanup (key : ConsumerReceiptKey) (handlerError : ε) (cleanupError : ProcessConsumerMessageError ε)
  | handler (error : ε)

inductive ProcessConsumerMessageResult (α : Type) where
  | unclaimed (result : ClaimConsumerReceiptResult)
  | processed (value : α)

inductive Phase (α ε : Type) where
  | claiming
  | handling (lease : ConsumerReceiptLease)
  | completing (lease : ConsumerReceiptLease) (value : α)
  | releasing (lease : ConsumerReceiptLease) (error : ε)
  | returned (result : ProcessConsumerMessageResult α)
  | thrown (error : ProcessConsumerMessageError ε)

/-- A call of the function with what it knows: the receipt that it has acquired stays in its scope. -/
structure Call (μ α ε : Type) where
  options : ProcessConsumerMessageOptions μ ε
  claimed : Option ConsumerReceipt
  phase : Phase α ε

inductive Answer (α ε : Type) where
  | transaction (clock : Clock) (token : String) (commit : Commit)
  | handler (outcome : Except ε α)

variable {μ α ε : Type}

def safeErrorSummary (error : ε) (summarizeError : Option (ε → Option Host.Text)) : Host.Text :=
  let fallback := Host.text "Consumer handler failed"
  match summarizeError with
  | none => fallback
  | some summarize =>
    match (summarize error).map Host.trim with
    | none => fallback
    | some summary => if summary = [] then fallback else summary.take maxConsumerErrorSummaryLength

namespace Call

def key (call : Call μ α ε) : ConsumerReceiptKey :=
  call.options.key

def token (call : Call μ α ε) : Option String :=
  call.claimed.bind (fun receipt => receipt.lease.map (·.token))

def afterClaim (call : Call μ α ε) : Except TransactionError ClaimConsumerReceiptResult → Call μ α ε
  | .error error => { call with phase := .thrown (.transaction error) }
  | .ok (.acquired receipt) =>
    match receipt.lease with
    | none => { call with phase := .thrown (.leaseLost call.key .complete) }
    | some lease => { call with claimed := some receipt, phase := .handling lease }
  | .ok result => { call with phase := .returned (.unclaimed result) }

def afterRelease (call : Call μ α ε) (handlerError : ε) : Except TransactionError Bool → Phase α ε
  | .error error => .thrown (.cleanup call.key handlerError (.transaction error))
  | .ok false => .thrown (.cleanup call.key handlerError (.leaseLost call.key .release))
  | .ok true => .thrown (.handler handlerError)

def afterComplete (call : Call μ α ε) (value : α) : Except TransactionError Bool → Phase α ε
  | .error cause => .thrown (.completion call.key cause)
  | .ok false => .thrown (.leaseLost call.key .complete)
  | .ok true => .returned (.processed value)

end Call

def processConsumerMessage (receipts : Receipts) (call : Call μ α ε) (answer : Answer α ε)
    : Receipts × Call μ α ε :=
  match call.phase, answer with
  | .claiming, .transaction clock token commit =>
    let (receipts, claimed) := transact receipts commit
      (claim receipts clock token call.key call.options.claim)
    (receipts, call.afterClaim claimed)
  | .handling lease, .handler (.error error) => (receipts, { call with phase := .releasing lease error })
  | .handling lease, .handler (.ok value) => (receipts, { call with phase := .completing lease value })
  | .releasing lease error, .transaction clock _ commit =>
    let (receipts, released) := transact receipts commit
      (release receipts clock call.key lease.token
        (safeErrorSummary error call.options.summarizeError) call.options.retryDelayMs)
    (receipts, { call with phase := call.afterRelease error released })
  | .completing lease value, .transaction clock _ commit =>
    let (receipts, completed) := transact receipts commit
      (complete receipts clock call.key lease.token)
    (receipts, { call with phase := call.afterComplete value completed })
  | _, _ => (receipts, call)

section Steps

variable {receipts receipts' : Receipts} {key : ConsumerReceiptKey} {calls : List (Call μ α ε)}
variable {call : Call μ α ε} {row : ConsumerReceiptRow}

def Phase.lease : Phase α ε → Option ConsumerReceiptLease
  | .handling lease | .completing lease _ | .releasing lease _ => some lease
  | _ => none

structure Keeps (receipts : Receipts) (call : Call μ α ε) : Prop where
  claiming : call.phase = .claiming → call.claimed = none
  leased : ∀ lease ∈ call.phase.lease, ∃ receipt ∈ call.claimed, receipt.lease = some lease
  claimed : ∀ receipt ∈ call.claimed, ∃ row, receipts.lookup call.key = some row
    ∧ row.payloadSha256 = call.options.claim.payloadSha256
    ∧ boundedInteger 1 row.attemptCount receipt.attemptCount
    ∧ ∀ lease ∈ receipt.lease, row.leaseToken = some lease.token →
        row.attemptCount = receipt.attemptCount
  processed : ∀ value, call.phase = .returned (.processed value) →
    ∃ receipt ∈ call.claimed, ∃ row, receipts.lookup call.key = some row
      ∧ row.state = .completed
      ∧ row.attemptCount = receipt.attemptCount

structure Moves (old : Option ConsumerReceiptRow) (row : ConsumerReceiptRow) : Prop where
  stored : row.Stored
  previous : ∀ previous ∈ old, previous.state ≠ .completed
    ∧ row.payloadSha256 = previous.payloadSha256
    ∧ previous.attemptCount ≤ row.attemptCount

inductive Changes (calls : List (Call μ α ε)) (receipts : Receipts) (key : ConsumerReceiptKey)
    : Receipts → Prop
  | same : Changes calls receipts key receipts
  | moved (row : ConsumerReceiptRow) (h : Moves (receipts.lookup key) row)
      (hfresh : ∀ token ∈ row.leaseToken, ∀ other ∈ calls, other.token ≠ some token)
    : Changes calls receipts key (receipts.insert key row)

theorem Keeps.changes (h : Keeps receipts call) (hmem : call ∈ calls)
    (hchanges : Changes calls receipts key receipts')
    : Keeps receipts' call := by
  cases hchanges with
  | same => exact h
  | moved row hmoves hfresh =>
    by_cases hkey : call.key = key
    . subst hkey
      refine ⟨h.claiming, h.leased, ?_, ?_⟩
      . intro receipt hreceipt
        rcases h.claimed receipt hreceipt with ⟨previous, hprevious, hpayload, hbounded, _⟩
        obtain ⟨_, hsame, hle⟩ := hmoves.previous previous hprevious
        refine ⟨row, AList.lookup_insert _, hsame.trans hpayload, ⟨hbounded.1, hbounded.2.trans hle⟩, ?_⟩
        intro lease hlease htoken
        have hheld : call.token = some lease.token := by
          rw [Call.token, Option.mem_def.mp hreceipt, Option.bind_some, Option.mem_def.mp hlease]
          rfl
        exact absurd hheld (hfresh lease.token htoken call hmem)
      . intro value hvalue
        rcases h.processed value hvalue with ⟨_, _, previous, hprevious, hcompleted, _⟩
        exact absurd hcompleted (hmoves.previous previous hprevious).1
    . have hlookup : (receipts.insert key row).lookup call.key = receipts.lookup call.key := by
        rw [Table.lookup_insert, if_neg hkey]
      refine ⟨h.claiming, h.leased, ?_, ?_⟩
      . rw [hlookup]
        exact h.claimed
      . rw [hlookup]
        exact h.processed

theorem Keeps.withPhase (h : Keeps receipts call) {phase : Phase α ε} (hclaiming : phase ≠ .claiming)
    (hlease : ∀ lease ∈ phase.lease, lease ∈ call.phase.lease)
    (hprocessed : ∀ value, phase ≠ .returned (.processed value))
    : Keeps receipts { call with phase } where
  claiming hphase := absurd hphase hclaiming
  leased lease hmem := h.leased lease (hlease lease hmem)
  claimed := h.claimed
  processed value hphase := absurd hphase (hprocessed value)

structure Advances (calls : List (Call μ α ε)) (receipts : Receipts) (call : Call μ α ε)
    (advanced : Receipts × Call μ α ε) : Prop where
  changes : Changes calls receipts call.key advanced.1
  keeps : Keeps advanced.1 advanced.2
  options : advanced.2.options = call.options
  claimed : advanced.2.claimed = call.claimed
    ∨ ∃ receipt ∈ advanced.2.claimed,
        receipt.attemptCount = (receipts.lookup call.key).elim 0 (·.attemptCount) + 1
          ∧ ∀ previous ∈ receipts.lookup call.key, previous.state ≠ .completed

theorem Advances.of_phase (hmem : call ∈ calls) (h : Keeps receipts call)
    (hchanges : Changes calls receipts call.key receipts') {phase : Phase α ε}
    (hclaiming : phase ≠ .claiming) (hlease : ∀ lease ∈ phase.lease, lease ∈ call.phase.lease)
    (hprocessed : ∀ value, phase ≠ .returned (.processed value))
    : Advances calls receipts call (receipts', { call with phase }) where
  changes := hchanges
  keeps := (h.changes hmem hchanges).withPhase hclaiming hlease hprocessed
  options := rfl
  claimed := .inl rfl

def AnswerAllowed (calls : List (Call μ α ε)) (receipts : Receipts) (call : Call μ α ε)
    : Answer α ε → Prop
  | .handler _ => True
  | .transaction _ token _ =>
    call.phase = .claiming →
      (∀ other ∈ calls, other.token ≠ some token)
        ∧ ∀ key row, receipts.lookup key = some row → row.leaseToken ≠ some token

theorem Acquires.moves {old : Option ConsumerReceiptRow} {clock : Clock} {token : String}
    {options : ClaimConsumerReceiptOptions} (h : Acquires old clock token options row)
    : Moves old row := by
  refine ⟨h.stored, ?_⟩
  rintro previous rfl
  obtain ⟨hpayload, hopen, _⟩ := h.previous previous rfl
  refine ⟨hopen, h.payload.trans hpayload.symm, ?_⟩
  rw [h.attempt]
  exact Nat.le_succ _

theorem advances_claim (h : Guarded receipts) (hmem : call ∈ calls) (hkeeps : Keeps receipts call)
    (hphase : call.phase = .claiming) {clock : Clock} {token : String} {commit : Commit}
    (hcalls : ∀ other ∈ calls, other.token ≠ some token)
    (hrows : ∀ key row, receipts.lookup key = some row → row.leaseToken ≠ some token)
    : Advances calls receipts call (processConsumerMessage receipts call (.transaction clock token commit)) := by
  have hclaims := claims clock call.options.claim h (hrows call.key)
  have hstopped {receipts' : Receipts} (error : TransactionError)
      (hchanges : Changes calls receipts call.key receipts')
      : Advances calls receipts call (receipts', { call with phase := .thrown (.transaction error) }) := by
    apply Advances.of_phase hmem hkeeps hchanges <;> simp [Phase.lease]
  unfold processConsumerMessage
  rw [hphase]
  dsimp only
  generalize claim receipts clock token call.key call.options.claim = transaction at hclaims
  cases hclaims with
  | refused error hrefused => exact hstopped (.repository error) .same
  | unclaimed result hresult =>
    cases commit with
    | rolledBack => exact hstopped .connection .same
    | unacknowledged => exact hstopped .connection .same
    | committed =>
      cases result with
      | acquired receipt => exact absurd rfl (hresult receipt)
      | _ => apply Advances.of_phase hmem hkeeps .same <;> simp [Phase.lease]
  | acquired row hacquires =>
    have hfresh : ∀ written ∈ row.leaseToken, ∀ other ∈ calls, other.token ≠ some written := by
      intro written hwritten
      rw [hacquires.token] at hwritten
      cases hwritten
      exact hcalls
    have hchanges : Changes calls receipts call.key (receipts.insert call.key row) :=
      .moved row hacquires.moves hfresh
    cases commit with
    | rolledBack => exact hstopped .connection .same
    | unacknowledged => exact hstopped .connection hchanges
    | committed =>
      obtain ⟨lease, hlease, htoken⟩ := hacquires.stored.lease_of_processing hacquires.state
      rw [hacquires.token] at htoken
      have hreceipt : row.receipt.lease = some lease := hlease
      simp only [transact, Call.afterClaim, hreceipt]
      refine ⟨hchanges, ?_, rfl, .inr ⟨row.receipt, rfl, hacquires.attempt, ?_⟩⟩
      . refine ⟨by simp, ?_, ?_, by simp⟩
        . intro held hheld
          cases hheld
          exact ⟨row.receipt, rfl, hreceipt⟩
        . intro receipt hmem
          cases hmem
          refine ⟨row, AList.lookup_insert _, hacquires.payload,
            ⟨hacquires.stored.attempts.1, Nat.le_refl _⟩, ?_⟩
          intro _ _ _
          rfl
      . intro previous hprevious
        exact (hacquires.previous previous hprevious).2.1

theorem changes_finished (calls : List (Call μ α ε)) (h : Guarded receipts) {clock : Clock}
    {finished : ConsumerReceiptRow → ConsumerReceiptRow} (hfinished : Finisher clock finished)
    (hlookup : receipts.lookup key = some row) (hstate : row.state = .processing)
    : Changes calls receipts key (receipts.insert key (finished row)) := by
  refine .moved _ ⟨hfinished.stored row (h key row hlookup) hstate, ?_⟩ ?_
  . intro previous hprevious
    rw [hlookup] at hprevious
    cases hprevious
    rw [hstate, hfinished.payload, hfinished.attempts]
    exact ⟨by decide, rfl, Nat.le_refl _⟩
  . intro token htoken
    rw [hfinished.token] at htoken
    contradiction

theorem advances_release (h : Guarded receipts) (hmem : call ∈ calls) (hkeeps : Keeps receipts call)
    {lease : ConsumerReceiptLease} {error : ε} (hphase : call.phase = .releasing lease error) (clock : Clock)
    (token : String) (commit : Commit)
    : Advances calls receipts call (processConsumerMessage receipts call (.transaction clock token commit)) := by
  have hstopped {receipts' : Receipts} (released : Except TransactionError Bool)
      (hchanges : Changes calls receipts call.key receipts')
      : Advances calls receipts call (receipts', { call with phase := call.afterRelease error released }) := by
    apply Advances.of_phase hmem hkeeps hchanges <;> unfold Call.afterRelease <;> split <;> simp [Phase.lease]
  have hfinishes := finishes_release clock call.key lease.token h
    (safeErrorSummary error call.options.summarizeError) call.options.retryDelayMs
  unfold processConsumerMessage
  rw [hphase]
  dsimp only
  generalize release receipts clock call.key lease.token _ _ = transaction at hfinishes
  cases hfinishes with
  | refused error hrefused => exact hstopped _ .same
  | kept => cases commit <;> exact hstopped _ .same
  | finished row hfinisher hlookup hheld =>
    have hchanges := changes_finished calls h hfinisher hlookup hheld.1
    cases commit with
    | rolledBack => exact hstopped _ .same
    | committed => exact hstopped _ hchanges
    | unacknowledged => exact hstopped _ hchanges

theorem advances_complete (h : Guarded receipts) (hmem : call ∈ calls) (hkeeps : Keeps receipts call)
    {lease : ConsumerReceiptLease} {value : α} (hphase : call.phase = .completing lease value) (clock : Clock)
    (token : String) (commit : Commit)
    : Advances calls receipts call (processConsumerMessage receipts call (.transaction clock token commit)) := by
  have hstopped {receipts' : Receipts} {completed : Except TransactionError Bool}
      (hfailed : completed ≠ .ok true) (hchanges : Changes calls receipts call.key receipts')
      : Advances calls receipts call (receipts', { call with phase := call.afterComplete value completed }) := by
    apply Advances.of_phase hmem hkeeps hchanges <;> unfold Call.afterComplete <;> split <;>
      simp_all [Phase.lease]
  have hfinishes := finishes_complete clock call.key lease.token h
  unfold processConsumerMessage
  rw [hphase]
  dsimp only
  generalize complete receipts clock call.key lease.token = transaction at hfinishes
  cases hfinishes with
  | refused error hrefused => exact hstopped (by simp [transact]) .same
  | kept => cases commit <;> exact hstopped (by simp [transact]) .same
  | finished row hfinisher hlookup hheld =>
    have hchanges := changes_finished calls h hfinisher hlookup hheld.1
    cases commit with
    | rolledBack => exact hstopped (by simp [transact]) .same
    | unacknowledged => exact hstopped (by simp [transact]) hchanges
    | committed =>
      -- The token of the lease is in the row, so the row is still in the attempt of this call.
      rcases hkeeps.leased lease (by rw [hphase]; rfl) with ⟨receipt, hreceipt, hlease⟩
      rcases hkeeps.claimed receipt hreceipt with ⟨current, hcurrent, _, _, hattempt⟩
      rw [hlookup] at hcurrent
      cases hcurrent
      have hlater := hkeeps.changes hmem hchanges
      simp only [transact, Call.afterComplete]
      refine ⟨hchanges, ⟨by simp, by simp [Phase.lease], hlater.claimed, ?_⟩, rfl, .inl rfl⟩
      intro _ _
      exact ⟨receipt, hreceipt, completedRow clock row, AList.lookup_insert _, rfl,
        hattempt lease hlease hheld.2.1⟩

theorem advances (h : Guarded receipts) (hmem : call ∈ calls) (hkeeps : Keeps receipts call)
    {answer : Answer α ε} (hallowed : AnswerAllowed calls receipts call answer)
    : Advances calls receipts call (processConsumerMessage receipts call answer) := by
  have hidle : Advances calls receipts call (receipts, call) := ⟨.same, hkeeps, rfl, .inl rfl⟩
  cases answer with
  | handler outcome =>
    cases hphase : call.phase with
    | handling lease =>
      unfold processConsumerMessage
      rw [hphase]
      cases outcome <;> apply Advances.of_phase hmem hkeeps .same <;> simp [Phase.lease, hphase]
    | _ =>
      unfold processConsumerMessage
      rw [hphase]
      exact hidle
  | transaction clock token commit =>
    cases hphase : call.phase with
    | claiming =>
      obtain ⟨hcalls, hrows⟩ := hallowed hphase
      exact advances_claim h hmem hkeeps hphase hcalls hrows
    | releasing lease error => exact advances_release h hmem hkeeps hphase clock token commit
    | completing lease value => exact advances_complete h hmem hkeeps hphase clock token commit
    | _ =>
      unfold processConsumerMessage
      rw [hphase]
      exact hidle

theorem Changes.guarded (h : Guarded receipts) (hchanges : Changes calls receipts key receipts')
    : Guarded receipts' := by
  cases hchanges with
  | same => exact h
  | moved row hmoves _ => exact h.insert hmoves.stored

theorem Changes.lookup_of_completed (hchanges : Changes calls receipts key receipts')
    {key' : ConsumerReceiptKey} (hlookup : receipts.lookup key' = some row) (hcompleted : row.state = .completed)
    : receipts'.lookup key' = some row := by
  cases hchanges with
  | same => exact hlookup
  | moved moved hmoves _ =>
    rw [Table.lookup_insert, if_neg]
    . exact hlookup
    . rintro rfl
      exact (hmoves.previous row hlookup).1 hcompleted

end Steps

abbrev Consumers (μ α ε : Type) := Interleaved Receipts (Call μ α ε)

def Call.Fresh (call : Call μ α ε) : Prop :=
  call.phase = .claiming ∧ call.claimed = none

/-- Any number of calls, in any order of their steps. A new token is held by no call and no row. -/
abbrev Allowed (s : Consumers μ α ε) (action : Action (Call μ α ε) (Answer α ε)) : Prop :=
  Interleaved.Allowed Call.Fresh AnswerAllowed s action

abbrev step (s : Consumers μ α ε) (action : Action (Call μ α ε) (Answer α ε)) : Consumers μ α ε :=
  Interleaved.step processConsumerMessage s action

def ClaimedAt (s : Consumers μ α ε) (key : ConsumerReceiptKey) (index : Nat) (receipt : ConsumerReceipt) : Prop :=
  ∃ call, s.processes[index]? = some call ∧ call.key = key ∧ receipt ∈ call.claimed

def ProcessedAt (s : Consumers μ α ε) (key : ConsumerReceiptKey) (index : Nat) (value : α) : Prop :=
  ∃ call, s.processes[index]? = some call ∧ call.key = key ∧ call.phase = .returned (.processed value)

structure Consistent (s : Consumers μ α ε) : Prop where
  guarded : Guarded s.shared
  keeps : ∀ call ∈ s.processes, Keeps s.shared call
  attempts : ∀ key i j receipt receipt', ClaimedAt s key i receipt → ClaimedAt s key j receipt' →
    receipt.attemptCount = receipt'.attemptCount → i = j

variable {s s' : Consumers μ α ε} {action : Action (Call μ α ε) (Answer α ε)} {key : ConsumerReceiptKey}

theorem Keeps.of_fresh {call : Call μ α ε} (h : call.Fresh) (receipts : Receipts) : Keeps receipts call := by
  obtain ⟨hphase, hclaimed⟩ := h
  refine ⟨fun _ => hclaimed, ?_, ?_, ?_⟩ <;> simp [hphase, hclaimed, Phase.lease]

theorem step_cases (h : Consistent s) (hallowed : Allowed s action)
    : (∃ call, call.Fresh ∧ step s action = { s with processes := s.processes ++ [call] })
        ∨ step s action = s
        ∨ ∃ index call, ∃ advanced : Receipts × Call μ α ε, s.processes[index]? = some call
            ∧ Advances s.processes s.shared call advanced
            ∧ step s action = ⟨advanced.1, s.processes.set index advanced.2⟩ := by
  cases action with
  | start call => exact .inl ⟨call, hallowed, rfl⟩
  | advance index answer =>
    right
    unfold step Interleaved.step
    dsimp only
    split
    . exact .inl rfl
    . next call hcall =>
      have hmem := List.mem_of_getElem? hcall
      exact .inr ⟨index, call, _, hcall, advances h.guarded hmem (h.keeps call hmem) (hallowed call hcall), rfl⟩

theorem claimedAt_step (key : ConsumerReceiptKey) (h : Consistent s) (hallowed : Allowed s action)
    : ∃ index, ∀ i receipt, ClaimedAt (step s action) key i receipt →
        ClaimedAt s key i receipt
          ∨ i = index
              ∧ receipt.attemptCount = (s.shared.lookup key).elim 0 (·.attemptCount) + 1
              ∧ ∀ previous ∈ s.shared.lookup key, previous.state ≠ .completed := by
  rcases step_cases h hallowed with
    ⟨call, hfresh, hstep⟩ | hstep | ⟨index, call, advanced, hcall, hadvances, hstep⟩
  . refine ⟨0, ?_⟩
    rw [hstep]
    rintro i receipt ⟨claimed, hi, hkey, hreceipt⟩
    rw [List.getElem?_append] at hi
    split at hi
    . exact .inl ⟨claimed, hi, hkey, hreceipt⟩
    . rw [List.mem_singleton.mp (List.mem_of_getElem? hi), hfresh.2] at hreceipt
      contradiction
  . refine ⟨0, ?_⟩
    rw [hstep]
    exact fun i receipt hclaimed => .inl hclaimed
  . refine ⟨index, ?_⟩
    rw [hstep]
    rintro i receipt ⟨claimed, hi, hkey, hreceipt⟩
    rw [List.getElem?_set] at hi
    split at hi
    . next hindex =>
      rw [if_pos (List.getElem?_eq_some_iff.mp hcall).1] at hi
      cases hi
      have hsame : call.key = key := (congrArg (·.key) hadvances.options).symm.trans hkey
      rcases hadvances.claimed with hkept | ⟨added, hadded, hnext⟩
      . exact .inl ⟨call, hindex ▸ hcall, hsame, hkept ▸ hreceipt⟩
      . rw [hsame] at hnext
        rw [Option.mem_unique hreceipt hadded]
        exact .inr ⟨hindex.symm, hnext⟩
    . exact .inl ⟨claimed, hi, hkey, hreceipt⟩

theorem ClaimedAt.row (h : Consistent s) {i : Nat} {receipt : ConsumerReceipt} (hclaimed : ClaimedAt s key i receipt)
    : ∃ row, s.shared.lookup key = some row ∧ boundedInteger 1 row.attemptCount receipt.attemptCount := by
  rcases hclaimed with ⟨call, hcall, rfl, hreceipt⟩
  rcases (h.keeps call (List.mem_of_getElem? hcall)).claimed receipt hreceipt with ⟨row, hrow, _, hbounded, _⟩
  exact ⟨row, hrow, hbounded⟩

theorem consistent_step (h : Consistent s) (hallowed : Allowed s action) : Consistent (step s action) := by
  have hattempts : ∀ key i j receipt receipt', ClaimedAt (step s action) key i receipt →
      ClaimedAt (step s action) key j receipt' → receipt.attemptCount = receipt'.attemptCount → i = j := by
    intro key i j receipt receipt' hi hj heq
    have hlater {i : Nat} {old new : ConsumerReceipt} (hold : ClaimedAt s key i old)
        (hnew : new.attemptCount = (s.shared.lookup key).elim 0 (·.attemptCount) + 1)
        : old.attemptCount ≠ new.attemptCount := by
      rcases hold.row h with ⟨row, hrow, hbounded⟩
      rw [hnew, hrow]
      exact Nat.ne_of_lt (Nat.lt_succ_of_le hbounded.2)
    rcases claimedAt_step key h hallowed with ⟨index, hstep⟩
    rcases hstep i receipt hi with hi | ⟨rfl, hnew, _⟩
    . rcases hstep j receipt' hj with hj | ⟨_, hnew, _⟩
      . exact h.attempts key i j receipt receipt' hi hj heq
      . exact absurd heq (hlater hi hnew)
    . rcases hstep j receipt' hj with hj | ⟨rfl, _, _⟩
      . exact absurd heq.symm (hlater hj hnew)
      . rfl
  rcases step_cases h hallowed with
    ⟨call, hfresh, hstep⟩ | hstep | ⟨index, call, advanced, hcall, hadvances, hstep⟩
  . rw [hstep] at hattempts ⊢
    refine ⟨h.guarded, ?_, hattempts⟩
    intro other hother
    rcases List.mem_append.mp hother with hother | hother
    . exact h.keeps other hother
    . rw [List.mem_singleton.mp hother]
      exact .of_fresh hfresh _
  . rwa [hstep]
  . rw [hstep] at hattempts ⊢
    refine ⟨hadvances.changes.guarded h.guarded, ?_, hattempts⟩
    intro other hother
    rcases List.mem_or_eq_of_mem_set hother with hother | rfl
    . exact (h.keeps other hother).changes hother hadvances.changes
    . exact hadvances.keeps

abbrev Runs (s s' : Consumers μ α ε) : Prop :=
  LaterWhen Allowed step s s'

theorem consistent_of_runs (h : Runs (⟨∅, []⟩ : Consumers μ α ε) s) : Consistent s := by
  apply h.preserves (fun _ _ hallowed hs => consistent_step hs hallowed)
  refine ⟨?_, by simp, ?_⟩
  . intro key row hlookup
    contradiction
  . rintro key i j receipt receipt' ⟨call, hcall, _⟩
    simp at hcall

theorem completed_of_runs (hs : Consistent s) (h : Runs s s') {row : ConsumerReceiptRow}
    (hlookup : s.shared.lookup key = some row) (hcompleted : row.state = .completed)
    : Consistent s' ∧ s'.shared.lookup key = some row
        ∧ ∀ i receipt, ClaimedAt s' key i receipt → ClaimedAt s key i receipt := by
  apply h.preserves (P := fun s' => Consistent s' ∧ s'.shared.lookup key = some row
    ∧ ∀ i receipt, ClaimedAt s' key i receipt → ClaimedAt s key i receipt) ?_ ⟨hs, hlookup, fun _ _ h => h⟩
  rintro later action hallowed ⟨hconsistent, hrow, hclaimed⟩
  refine ⟨consistent_step hconsistent hallowed, ?_, ?_⟩
  . rcases step_cases hconsistent hallowed with ⟨_, _, hstep⟩ | hstep | ⟨_, _, advanced, _, hadvances, hstep⟩
    . rwa [hstep]
    . rwa [hstep]
    . rw [hstep]
      exact hadvances.changes.lookup_of_completed hrow hcompleted
  . intro i receipt hi
    rcases claimedAt_step _ hconsistent hallowed with ⟨_, hstep⟩
    rcases hstep i receipt hi with hi | ⟨_, _, hopen⟩
    . exact hclaimed i receipt hi
    . exact absurd hcompleted (hopen row hrow)

/-- The attempts for a message are told apart by their numbers, and one of them at most has its value
returned as processed. No attempt starts once a receipt has been completed. -/
theorem processConsumerMessage_once (h : Runs (⟨∅, []⟩ : Consumers μ α ε) s) (key : ConsumerReceiptKey)
    : (∀ call ∈ s.processes, call.key = key → ∀ receipt ∈ call.claimed,
          ∃ row, s.shared.lookup key = some row
            ∧ row.payloadSha256 = call.options.claim.payloadSha256
            ∧ boundedInteger 1 row.attemptCount receipt.attemptCount)
        ∧ (∀ i j receipt receipt', ClaimedAt s key i receipt → ClaimedAt s key j receipt' →
            receipt.attemptCount = receipt'.attemptCount → i = j)
        ∧ (∀ i j value value', ProcessedAt s key i value → ProcessedAt s key j value' → i = j)
        ∧ ∀ s', Runs s s' → ∀ row, s.shared.lookup key = some row → row.state = .completed →
            s'.shared.lookup key = some row
              ∧ ∀ i receipt, ClaimedAt s' key i receipt → ClaimedAt s key i receipt := by
  have hs := consistent_of_runs h
  refine ⟨?_, hs.attempts key, ?_, ?_⟩
  . rintro call hcall rfl receipt hreceipt
    rcases (hs.keeps call hcall).claimed receipt hreceipt with ⟨row, hrow, hpayload, hbounded, _⟩
    exact ⟨row, hrow, hpayload, hbounded⟩
  . rintro i j value value' ⟨call, hcall, hkey, hvalue⟩ ⟨other, hother, hkey', hvalue'⟩
    rcases (hs.keeps call (List.mem_of_getElem? hcall)).processed value hvalue with
      ⟨receipt, hreceipt, row, hrow, _, hattempt⟩
    rcases (hs.keeps other (List.mem_of_getElem? hother)).processed value' hvalue' with
      ⟨receipt', hreceipt', row', hrow', _, hattempt'⟩
    rw [hkey', ← hkey, hrow] at hrow'
    cases hrow'
    exact hs.attempts key i j receipt receipt' ⟨call, hcall, hkey, hreceipt⟩ ⟨other, hother, hkey', hreceipt'⟩
      (hattempt.symm.trans hattempt')
  . intro s' hlater row hlookup hcompleted
    exact (completed_of_runs hs hlater hlookup hcompleted).2

def sampleKey : ConsumerReceiptKey :=
  ⟨"ten_a", "replay.projector", "msg_1"⟩

def sampleToken : String :=
  "00000000-0000-4000-8000-000000000001"

def sampleClock : Clock :=
  ⟨id, monotone_id⟩

def sampleClaim : ClaimConsumerReceiptOptions :=
  ⟨1000, "0123456789abcdef0123456789abcdef0123456789abcdef0123456789abcdef", "wrk_a"⟩

def sampleCall : Call Unit Nat Unit :=
  ⟨⟨sampleKey, sampleClaim, (), 1000, none⟩, none, .claiming⟩

def sampleActions : List (Action (Call Unit Nat Unit) (Answer Nat Unit)) :=
  [.start sampleCall, .advance 0 (.transaction sampleClock sampleToken .committed)]

def sampleConsumers : Consumers Unit Nat Unit :=
  sampleActions.foldl step ⟨∅, []⟩

theorem runs_sampleConsumers : Runs ⟨∅, []⟩ sampleConsumers := by
  apply LaterWhen.foldl
  refine ⟨⟨rfl, rfl⟩, ?_, trivial⟩
  intro call hcall _
  refine ⟨?_, ?_⟩
  . intro other hother
    rw [List.mem_singleton.mp hother]
    simp [sampleCall, Call.token]
  . intro key row hlookup
    contradiction

theorem sampleConsumers_once
    : ∃ row, sampleConsumers.shared.lookup sampleKey = some row
        ∧ row.payloadSha256 = sampleClaim.payloadSha256
        ∧ boundedInteger 1 row.attemptCount 1 := by
  have hrow := (processConsumerMessage_once runs_sampleConsumers sampleKey).1
  exact hrow _ List.mem_cons_self rfl (insertedRow sampleClock sampleToken sampleClaim).receipt rfl

end Outbox
end ProofStack
