import ProofStack.Worker.DispatchLoop

/-!
This module contains what becomes of the deliveries that the dispatch loop receives.
-/

namespace ProofStack
namespace Worker

open Replay StateMachine

variable {policy : DispatchPolicy} {s : LoopState} {worker : WorkerProcess} {answer : Answer}

def WorkerState.attempts : WorkerState → Option (List SettlementAttempt)
  | .claiming _ _ | .executing _ => some []
  | .settling _ attempts _ | .pausing _ attempts _ => some attempts
  | .starting | .receiving _ | .waiting _ | .returned | .threw _ => none

def WorkerProcess.counted (worker : WorkerProcess) : Nat :=
  match worker.state with
  | .settling _ _ _ | .pausing _ _ _ => worker.log.length + 1
  | _ => worker.log.length

def WorkerProcess.deliveries (worker : WorkerProcess) : List (List SettlementAttempt) :=
  worker.log ++ worker.state.attempts.toList

def DispatchLoopResult.outcomes (result : DispatchLoopResult) : Nat :=
  result.completed + result.deferred + result.discarded + result.failed

def failures (settlement : ReplayDispatchSettlement) (count : Nat) : List SettlementAttempt :=
  List.replicate count ⟨settlement, false⟩

def Settled (policy : DispatchPolicy) (attempts : List SettlementAttempt) : Prop :=
  ∃ settlement,
    (∃ count < policy.settlementAttempts, attempts = failures settlement count ++ [⟨settlement, true⟩])
      ∨ attempts = failures settlement policy.settlementAttempts

def Orderly (s : LoopState) (worker : WorkerProcess) : Answer → Prop
  | .received (.delivery candidate created) =>
    (∃ count, worker.state = .receiving count) → s.aborted = false →
      (parseCandidate candidate).isSome → ∃ ids, claimIds created = .ok ids
  | .executed (.failed error) => error ≠ .loopError .settlementFailed
  | _ => True

inductive Effect (policy : DispatchPolicy) (s : LoopState) (worker : WorkerProcess) (answer : Answer)
    : LoopState → WorkerProcess → Prop where
  | idle (s' : LoopState) (state : WorkerState) (hresult : s'.result = s.result)
      (hbefore : worker.state.attempts = none) (hafter : state.attempts = none)
      : Effect policy s worker answer s' { worker with state }
  | unchanged : Effect policy s worker answer s worker
  | claims (candidate : ReplayDispatchCandidate) (ids : ClaimIds) (s' : LoopState)
      (hreceived : s'.result.received = s.result.received + 1)
      (houtcomes : s'.result.outcomes = s.result.outcomes)
      (hbefore : worker.state.attempts = none)
      : Effect policy s worker answer s' { worker with state := .claiming candidate ids }
  | refuses (settlement : ReplayDispatchSettlement) (continues : Bool) (s' : LoopState)
      (hreceived : s'.result.received = s.result.received + 1)
      (houtcomes : s'.result.outcomes = s.result.outcomes + 1)
      (hbefore : worker.state.attempts = none)
      : Effect policy s worker answer s' (worker.settle settlement continues)
  | executes (candidate : ReplayDispatchCandidate) (ids : ClaimIds) (s' : LoopState)
      (hreceived : s'.result.received = s.result.received)
      (houtcomes : s'.result.outcomes = s.result.outcomes)
      (hbefore : worker.state = .claiming candidate ids)
      : Effect policy s worker answer s' { worker with state := .executing candidate }
  | decides (settlement : ReplayDispatchSettlement) (s' : LoopState)
      (hreceived : s'.result.received = s.result.received)
      (houtcomes : s'.result.outcomes = s.result.outcomes + 1)
      (hbefore : (∃ candidate ids, worker.state = .claiming candidate ids)
        ∨ ∃ candidate, worker.state = .executing candidate)
      : Effect policy s worker answer s' (worker.settle settlement true)
  | pauses (settlement : ReplayDispatchSettlement) (attempts : List SettlementAttempt)
      (continues : Bool) (hbefore : worker.state = .settling settlement attempts continues)
      (hlength : attempts.length + 1 < policy.settlementAttempts)
      : Effect policy s worker answer s
          { worker with state := .pausing settlement (attempts ++ [⟨settlement, false⟩]) continues }
  | retries (settlement : ReplayDispatchSettlement) (attempts : List SettlementAttempt)
      (continues : Bool) (hbefore : worker.state = .pausing settlement attempts continues)
      : Effect policy s worker answer s { worker with state := .settling settlement attempts continues }
  | ends (settlement : ReplayDispatchSettlement) (attempts : List SettlementAttempt)
      (continues succeeded : Bool) (state : WorkerState)
      (hbefore : worker.state = .settling settlement attempts continues)
      (hafter : state.attempts = none)
      (hlength : succeeded ∨ policy.settlementAttempts ≤ attempts.length + 1)
      : Effect policy s worker answer s
          { log := worker.log ++ [attempts ++ [⟨settlement, succeeded⟩]], state }
  | loses (error : Thrown) (s' : LoopState)
      (hlost : ¬Orderly s worker answer)
      : Effect policy s worker answer s' (worker.abandon [] error)

theorem loopHead_effect (s : LoopState) (worker : WorkerProcess) (consecutiveSourceFailures : Nat)
    : ∃ state : WorkerState,
        worker.loopHead s consecutiveSourceFailures = (s, { worker with state })
          ∧ state.attempts = none := by
  unfold WorkerProcess.loopHead
  split
  . exact ⟨_, rfl, rfl⟩
  . exact ⟨_, rfl, rfl⟩

theorem afterReceive_effect {count : Nat} {outcome : ReceiveOutcome}
    (hstate : worker.state = .receiving count)
    : Effect policy s worker (.received outcome) (worker.afterReceive policy s count outcome).1
        (worker.afterReceive policy s count outcome).2 := by
  have hbefore : worker.state.attempts = none := by
    rw [hstate]
    rfl
  cases outcome with
  | delivery candidate created =>
    unfold WorkerProcess.afterReceive
    dsimp only
    split
    . exact .refuses _ _ _ rfl (by simp only [DispatchLoopResult.outcomes]; omega) hbefore
    . next haborted =>
      unfold WorkerProcess.processDelivery
      dsimp only
      split
      . exact .refuses _ _ _ rfl (by simp only [DispatchLoopResult.outcomes]; omega) hbefore
      . next parsed hparsed =>
        split
        . next error hids =>
          apply Effect.loses
          intro horderly
          rcases horderly ⟨count, hstate⟩ (by simpa using haborted) (by rw [hparsed]; rfl)
            with ⟨ids, hok⟩
          rw [hids] at hok
          contradiction
        . exact .claims _ _ _ rfl rfl hbefore
  | closed => exact .idle _ .returned rfl hbefore rfl
  | malformed => exact .idle s (.threw (.loopError .invalidDelivery)) rfl hbefore rfl
  | failed error =>
    unfold WorkerProcess.afterReceive
    dsimp only
    split
    . exact .idle s (.threw error) rfl hbefore rfl
    split
    . exact .idle s .returned rfl hbefore rfl
    split
    . exact .idle s (.threw (.loopError .sourceUnavailable)) rfl hbefore rfl
    . exact .idle s (.waiting (count + 1)) rfl hbefore rfl

theorem afterClaim_effect {candidate : ReplayDispatchCandidate} {ids : ClaimIds}
    {outcome : ClaimOutcome} (hstate : worker.state = .claiming candidate ids)
    : Effect policy s worker (.claimed outcome) (worker.afterClaim policy s candidate outcome).1
        (worker.afterClaim policy s candidate outcome).2 := by
  have hbefore : (∃ candidate ids, worker.state = .claiming candidate ids)
      ∨ ∃ candidate, worker.state = .executing candidate := .inl ⟨candidate, ids, hstate⟩
  cases outcome with
  | claimed snapshot workerFence => exact .executes _ _ _ rfl rfl hstate
  | _ =>
    apply Effect.decides
    . rfl
    . simp only [WorkerProcess.afterClaim, DispatchLoopResult.outcomes]
      omega
    . exact hbefore

theorem afterExecute_effect {candidate : ReplayDispatchCandidate} {outcome : ExecuteOutcome}
    (hstate : worker.state = .executing candidate)
    : Effect policy s worker (.executed outcome) (worker.afterExecute policy s candidate outcome).1
        (worker.afterExecute policy s candidate outcome).2 := by
  have hbefore : (∃ candidate ids, worker.state = .claiming candidate ids)
      ∨ ∃ candidate, worker.state = .executing candidate := .inr ⟨candidate, hstate⟩
  have hfailed : Effect policy s worker (.executed outcome) (worker.attemptFailed policy s).1
      (worker.attemptFailed policy s).2 :=
    .decides _ _ rfl (by simp only [WorkerProcess.attemptFailed, DispatchLoopResult.outcomes]; omega)
      hbefore
  unfold WorkerProcess.afterExecute
  cases outcome with
  | finished snapshot =>
    dsimp only
    split
    . exact .decides _ _ rfl (by simp only [DispatchLoopResult.outcomes]; omega) hbefore
    . exact hfailed
  | failed error =>
    dsimp only
    split
    . next herror => exact .loses _ _ (fun horderly => horderly herror)
    . exact hfailed

variable {attempts : List SettlementAttempt}
variable {settlement : ReplayDispatchSettlement}

theorem afterSettle_effect
    {continues succeeded : Bool}
    (hstate : worker.state = .settling settlement attempts continues)
    : Effect policy s worker (.settled succeeded)
        (worker.afterSettle policy s settlement attempts continues succeeded).1
        (worker.afterSettle policy s settlement attempts continues succeeded).2 := by
  unfold WorkerProcess.afterSettle
  dsimp only
  split
  . next hsucceeded =>
    split
    . rcases loopHead_effect s { worker with log := worker.log ++ [attempts ++ [⟨settlement, succeeded⟩]] } 0
        with ⟨state, heq, hafter⟩
      rw [heq]
      exact .ends _ _ _ _ state hstate hafter (.inl hsucceeded)
    . exact .ends _ _ _ _ .returned hstate rfl (.inl hsucceeded)
  . next hfailed =>
    rw [Bool.not_eq_true] at hfailed
    rw [List.length_append, List.length_singleton]
    split
    . next hlength =>
      rw [hfailed]
      exact .pauses _ _ _ hstate hlength
    . next hlength => exact .ends _ _ _ _ (.threw _) hstate rfl (.inr (by omega))

theorem advance_effect (policy : DispatchPolicy) (s : LoopState) (worker : WorkerProcess)
    (answer : Answer)
    : Effect policy s worker answer (worker.advance policy s answer).1
        (worker.advance policy s answer).2 := by
  unfold WorkerProcess.advance
  split
  . next hstate =>
    rcases loopHead_effect s worker 0 with ⟨state, heq, hafter⟩
    rw [heq]
    exact .idle s state rfl (by rw [hstate]; rfl) hafter
  . next hstate => exact afterReceive_effect hstate
  . next failures hstate =>
    rcases loopHead_effect s worker failures with ⟨state, heq, hafter⟩
    rw [heq]
    exact .idle s state rfl (by rw [hstate]; rfl) hafter
  . next hstate => exact afterClaim_effect hstate
  . next hstate => exact afterExecute_effect hstate
  . next hstate => exact afterSettle_effect hstate
  . next hstate => exact .retries _ _ _ hstate
  . exact .unchanged

theorem counted_of_attempts_eq_none (h : worker.state.attempts = none)
    : worker.counted = worker.log.length := by
  unfold WorkerProcess.counted
  unfold WorkerState.attempts at h
  split at h <;> simp_all

theorem length_deliveries_of_none (h : worker.state.attempts = none)
    : worker.deliveries.length = worker.log.length := by
  simp [WorkerProcess.deliveries, h]

theorem length_deliveries_of_some
    (h : worker.state.attempts = some attempts)
    : worker.deliveries.length = worker.log.length + 1 := by
  simp [WorkerProcess.deliveries, h]

section Effect

variable {s' : LoopState} {worker' : WorkerProcess}

theorem Effect.received (h : Effect policy s worker answer s' worker')
    (horderly : Orderly s worker answer)
    : s'.result.received + worker.deliveries.length
        = s.result.received + worker'.deliveries.length := by
  cases h with
  | idle s' state hresult hbefore hafter =>
    rw [hresult, length_deliveries_of_none hbefore, length_deliveries_of_none hafter]
  | unchanged => rfl
  | claims candidate ids s' hreceived _ hbefore =>
    rw [hreceived, length_deliveries_of_none hbefore, length_deliveries_of_some rfl]
    dsimp only
    omega
  | refuses settlement continues s' hreceived _ hbefore =>
    rw [hreceived, length_deliveries_of_none hbefore, length_deliveries_of_some rfl]
    dsimp only [WorkerProcess.settle]
    omega
  | executes candidate ids s' hreceived _ hbefore =>
    rw [hreceived, length_deliveries_of_some (by rw [hbefore]; rfl), length_deliveries_of_some rfl]
  | decides settlement s' hreceived _ hbefore =>
    rcases hbefore with ⟨candidate, ids, hbefore⟩ | ⟨candidate, hbefore⟩
    . rw [hreceived, length_deliveries_of_some (by rw [hbefore]; rfl), length_deliveries_of_some rfl]
      rfl
    . rw [hreceived, length_deliveries_of_some (by rw [hbefore]; rfl), length_deliveries_of_some rfl]
      rfl
  | pauses _ _ _ hbefore | retries _ _ _ hbefore =>
    rw [length_deliveries_of_some (by rw [hbefore]; rfl), length_deliveries_of_some rfl]
  | ends settlement attempts continues succeeded state hbefore hafter =>
    rw [length_deliveries_of_some (by rw [hbefore]; rfl), length_deliveries_of_none (by exact hafter)]
    rw [List.length_append, List.length_singleton]
  | loses error s' hlost => exact absurd horderly hlost

theorem Effect.outcomes (h : Effect policy s worker answer s' worker')
    (horderly : Orderly s worker answer)
    : s'.result.outcomes + worker.counted = s.result.outcomes + worker'.counted := by
  cases h with
  | idle s' state hresult hbefore hafter =>
    rw [hresult, counted_of_attempts_eq_none hbefore, counted_of_attempts_eq_none hafter]
  | unchanged => rfl
  | claims candidate ids s' _ houtcomes hbefore =>
    rw [houtcomes, counted_of_attempts_eq_none hbefore]
    rfl
  | refuses settlement continues s' _ houtcomes hbefore =>
    rw [houtcomes, counted_of_attempts_eq_none hbefore]
    simp only [WorkerProcess.counted, WorkerProcess.settle]
    omega
  | executes candidate ids s' _ houtcomes hbefore =>
    rw [houtcomes]
    simp only [WorkerProcess.counted, hbefore]
  | decides settlement s' _ houtcomes hbefore =>
    rw [houtcomes]
    rcases hbefore with ⟨candidate, ids, hbefore⟩ | ⟨candidate, hbefore⟩ <;>
      simp only [WorkerProcess.counted, WorkerProcess.settle, hbefore] <;> omega
  | pauses _ _ _ hbefore | retries _ _ _ hbefore => simp only [WorkerProcess.counted, hbefore]
  | ends settlement attempts continues succeeded state hbefore hafter =>
    have hcounted : worker.counted = worker.log.length + 1 := by
      simp only [WorkerProcess.counted, hbefore]
    rw [hcounted, counted_of_attempts_eq_none (by exact hafter)]
    rw [List.length_append, List.length_singleton]
  | loses error s' hlost => exact absurd horderly hlost

def Unsettled (policy : DispatchPolicy) (settlement : ReplayDispatchSettlement)
    (attempts : List SettlementAttempt) : Prop :=
  ∃ count < policy.settlementAttempts, attempts = failures settlement count

structure WorkerInvariant (policy : DispatchPolicy) (worker : WorkerProcess) : Prop where
  log : ∀ attempts ∈ worker.log, Settled policy attempts
  settling : ∀ settlement attempts continues,
    worker.state = .settling settlement attempts continues → Unsettled policy settlement attempts
  pausing : ∀ settlement attempts continues,
    worker.state = .pausing settlement attempts continues → Unsettled policy settlement attempts

theorem unsettled_nil (policy : DispatchPolicy) (settlement : ReplayDispatchSettlement)
    : Unsettled policy settlement [] :=
  ⟨0, policy.accepted.settlementAttempts.1, rfl⟩

theorem Unsettled.next
    (h : Unsettled policy settlement attempts)
    (hlength : attempts.length + 1 < policy.settlementAttempts)
    : Unsettled policy settlement (attempts ++ [⟨settlement, false⟩]) := by
  rcases h with ⟨count, _, rfl⟩
  rw [failures, List.length_replicate] at hlength
  exact ⟨count + 1, hlength, (List.replicate_succ').symm⟩

theorem Unsettled.settled
    {succeeded : Bool} (h : Unsettled policy settlement attempts)
    (hlength : succeeded ∨ policy.settlementAttempts ≤ attempts.length + 1)
    : Settled policy (attempts ++ [⟨settlement, succeeded⟩]) := by
  rcases h with ⟨count, hcount, rfl⟩
  rw [failures, List.length_replicate] at hlength
  refine ⟨settlement, ?_⟩
  cases succeeded with
  | true => exact .inl ⟨count, hcount, rfl⟩
  | false =>
    have hlast : count + 1 = policy.settlementAttempts := by
      rcases hlength with hfalse | hlength
      . contradiction
      . omega
    rw [← hlast]
    exact .inr (List.replicate_succ').symm

theorem WorkerInvariant.idle (h : WorkerInvariant policy worker) {state : WorkerState}
    (hsettling : ∀ settlement attempts continues,
      state = .settling settlement attempts continues → Unsettled policy settlement attempts)
    (hpausing : ∀ settlement attempts continues,
      state = .pausing settlement attempts continues → Unsettled policy settlement attempts)
    : WorkerInvariant policy { worker with state } :=
  ⟨h.log, hsettling, hpausing⟩

theorem Effect.invariant (h : Effect policy s worker answer s' worker')
    (horderly : Orderly s worker answer) (hinvariant : WorkerInvariant policy worker)
    : WorkerInvariant policy worker' := by
  cases h with
  | idle s' state _ _ hafter =>
    apply hinvariant.idle
    . rintro settlement attempts continues rfl
      contradiction
    . rintro settlement attempts continues rfl
      contradiction
  | unchanged => exact hinvariant
  | claims | executes =>
    apply hinvariant.idle
    . intro settlement attempts continues hstate
      contradiction
    . intro settlement attempts continues hstate
      contradiction
  | refuses | decides =>
    apply hinvariant.idle
    . intro settlement attempts continues hstate
      cases hstate
      apply unsettled_nil
    . intro settlement attempts continues hstate
      contradiction
  | pauses settlement attempts continues hbefore hlength =>
    apply hinvariant.idle
    . intro settlement attempts continues hstate
      contradiction
    . intro settlement' attempts' continues' hstate
      cases hstate
      exact (hinvariant.settling _ _ _ hbefore).next hlength
  | retries settlement attempts continues hbefore =>
    apply hinvariant.idle
    . intro settlement' attempts' continues' hstate
      cases hstate
      exact hinvariant.pausing _ _ _ hbefore
    . intro settlement attempts continues hstate
      contradiction
  | ends settlement attempts continues succeeded state hbefore hafter hlength =>
    constructor
    . intro settled hsettled
      rcases List.mem_append.mp hsettled with hlog | hlast
      . exact hinvariant.log settled hlog
      . rw [List.mem_singleton.mp hlast]
        exact (hinvariant.settling _ _ _ hbefore).settled hlength
    . rintro settlement attempts continues rfl
      contradiction
    . rintro settlement attempts continues rfl
      contradiction
  | loses error s' hlost => exact absurd horderly hlost

end Effect

theorem advance_of_isSettled (policy : DispatchPolicy) (s : LoopState) (answer : Answer)
    (h : worker.state.isSettled)
    : worker.advance policy s answer = (s, worker) := by
  unfold WorkerProcess.advance
  split <;> simp_all [WorkerState.isSettled]

namespace Process

def isWorker : Process → Bool
  | .worker _ => true
  | _ => false

def deliveries : Process → List (List SettlementAttempt)
  | .worker worker => worker.deliveries
  | _ => []

def counted : Process → Nat
  | .worker worker => worker.counted
  | _ => 0

def isProcessing : Process → Bool
  | .worker worker => worker.state.attempts.isSome
  | _ => false

end Process

def deliveries (s : Interleaved LoopState Process) : List (List SettlementAttempt) :=
  s.processes.flatMap Process.deliveries

def inProcess (s : Interleaved LoopState Process) : Nat :=
  s.processes.countP Process.isProcessing

def MainState.hasEnded : MainState → Bool
  | .returned _ | .threw _ => true
  | .awaiting | .stopping _ => false

def hasEnded (s : Interleaved LoopState Process) : Prop :=
  ∃ state, .main state ∈ s.processes ∧ MainState.hasEnded state

def OrderlyStep (processes : List Process) (s : LoopState) (process : Process) (answer : Answer)
    : Prop :=
  Permitted processes process answer ∧ ∀ worker, process = .worker worker → Orderly s worker answer

structure LoopInvariant (policy : DispatchPolicy) (s : Interleaved LoopState Process) : Prop where
  workers : ∀ worker, .worker worker ∈ s.processes → WorkerInvariant policy worker
  count : (s.processes.map (fun process => process.isWorker.toNat)).sum = policy.maxConcurrentAttempts
  received : s.shared.result.received
    = (s.processes.map (fun process => process.deliveries.length)).sum
  outcomes : s.shared.result.outcomes = (s.processes.map Process.counted).sum
  ended : hasEnded s → ∀ worker, .worker worker ∈ s.processes → worker.state.isSettled
  result : ∀ result, .main (.returned result) ∈ s.processes → result.received = result.outcomes

section Step

variable {loop : Interleaved LoopState Process} {index : Nat} {process : Process}

theorem advance_isWorker (policy : DispatchPolicy) (s : LoopState) (process : Process)
    (answer : Answer)
    : (advance policy s process answer).2.isWorker = process.isWorker := by
  unfold advance
  split <;> rfl

theorem advance_received (policy : DispatchPolicy)
    (hworker : ∀ worker, process = .worker worker → Orderly s worker answer)
    : (advance policy s process answer).1.result.received + process.deliveries.length
        = s.result.received + (advance policy s process answer).2.deliveries.length := by
  unfold advance
  split
  . next worker => exact (advance_effect policy s worker answer).received (hworker worker rfl)
  all_goals rfl

theorem advance_outcomes (policy : DispatchPolicy)
    (hworker : ∀ worker, process = .worker worker → Orderly s worker answer)
    : (advance policy s process answer).1.result.outcomes + process.counted
        = s.result.outcomes + (advance policy s process answer).2.counted := by
  unfold advance
  split
  . next worker => exact (advance_effect policy s worker answer).outcomes (hworker worker rfl)
  all_goals rfl

theorem sum_counted {processes : List Process}
    (h : ∀ worker, .worker worker ∈ processes → worker.state.attempts = none)
    : (processes.map (fun process => process.deliveries.length)).sum
        = (processes.map Process.counted).sum := by
  congr 1
  apply List.map_congr_left
  intro process hprocess
  cases process with
  | worker worker =>
    have hnone := h worker hprocess
    exact (length_deliveries_of_none hnone).trans (counted_of_attempts_eq_none hnone).symm
  | _ => rfl

theorem attempts_of_isSettled (h : worker.state.isSettled) : worker.state.attempts = none := by
  unfold WorkerState.isSettled at h
  unfold WorkerState.attempts
  split at h <;> simp_all

theorem advance_main {processes : List Process} {state : MainState}
    (hpermitted : Permitted processes process answer)
    (h : (advance policy s process answer).2 = .main state) (hended : state.hasEnded)
    : process = .main state
        ∨ (∀ worker, .worker worker ∈ processes → worker.state.isSettled)
            ∧ ∀ result, state = .returned result →
                s.result = result
                  ∧ ∀ worker, .worker worker ∈ processes → worker.state = .returned := by
  unfold advance at h
  split at h
  . contradiction
  . cases h
    right
    constructor
    . intro worker hworker
      rw [hpermitted worker hworker]
      rfl
    . rintro result ⟨⟩
      exact ⟨rfl, hpermitted⟩
  . cases h
    contradiction
  . cases h
    right
    constructor
    . exact hpermitted
    . intro result hresult
      contradiction
  . contradiction
  . exact .inl h

theorem advance_settled_worker {worker' : WorkerProcess}
    (hsettled : ∀ worker, process = .worker worker → worker.state.isSettled)
    (h : (advance policy s process answer).2 = .worker worker')
    : worker'.state.isSettled := by
  unfold advance at h
  split at h
  . next worker =>
    cases h
    rw [advance_of_isSettled policy s answer (hsettled worker rfl)]
    exact hsettled worker rfl
  all_goals first | contradiction | exact hsettled worker' h

theorem LoopInvariant.received_eq_outcomes (h : LoopInvariant policy loop)
    (hidle : ∀ worker, .worker worker ∈ loop.processes → worker.state.attempts = none)
    : loop.shared.result.received = loop.shared.result.outcomes := by
  rw [h.received, h.outcomes, sum_counted hidle]

theorem LoopInvariant.advance_ended (h : LoopInvariant policy loop) {state : MainState}
    (hmem : process ∈ loop.processes) (hpermitted : Permitted loop.processes process answer)
    (hstate : .main state ∈ loop.processes.set index (advance policy loop.shared process answer).2)
    (hended : state.hasEnded)
    : (∀ worker, .worker worker ∈ loop.processes → worker.state.isSettled)
        ∧ ∀ result, state = .returned result → result.received = result.outcomes := by
  have hbefore (hstate : .main state ∈ loop.processes)
      : (∀ worker, .worker worker ∈ loop.processes → worker.state.isSettled)
        ∧ ∀ result, state = .returned result → result.received = result.outcomes := by
    constructor
    . exact h.ended ⟨state, hstate, hended⟩
    . rintro result rfl
      exact h.result result hstate
  rcases List.mem_or_eq_of_mem_set hstate with hold | hnew
  . exact hbefore hold
  . rcases advance_main hpermitted hnew.symm hended with rfl | ⟨hsettled, hresult⟩
    . exact hbefore hmem
    . constructor
      . exact hsettled
      . intro result hreturned
        rcases hresult result hreturned with ⟨rfl, hall⟩
        apply h.received_eq_outcomes
        intro worker hworker
        exact attempts_of_isSettled (hsettled worker hworker)

theorem LoopInvariant.advance (h : LoopInvariant policy loop)
    (hprocess : loop.processes[index]? = some process)
    (hallowed : OrderlyStep loop.processes loop.shared process answer)
    : LoopInvariant policy
        { shared := (Worker.advance policy loop.shared process answer).1
          processes :=
            loop.processes.set index (Worker.advance policy loop.shared process answer).2 } := by
  have hmem := List.mem_of_getElem? hprocess
  constructor
  . intro worker hworker
    rcases List.mem_or_eq_of_mem_set hworker with hold | hnew
    . exact h.workers worker hold
    . cases process with
      | worker before =>
        cases hnew
        have heffect := advance_effect policy loop.shared before answer
        exact heffect.invariant (hallowed.2 before rfl) (h.workers before hmem)
      | _ =>
        unfold Worker.advance at hnew
        split at hnew <;> contradiction
  . have hsum := sum_map_set (g := fun process => process.isWorker.toNat) hprocess
      (Worker.advance policy loop.shared process answer).2
    rw [advance_isWorker, h.count] at hsum
    exact Nat.add_right_cancel hsum
  . have hsum := sum_map_set (g := fun process => process.deliveries.length) hprocess
      (Worker.advance policy loop.shared process answer).2
    have hbalance := advance_received policy hallowed.2
    have hbefore := h.received
    dsimp only at hsum ⊢
    omega
  . have hsum := sum_map_set (g := Process.counted) hprocess
      (Worker.advance policy loop.shared process answer).2
    have hbalance := advance_outcomes policy hallowed.2
    have hbefore := h.outcomes
    dsimp only
    omega
  . rintro ⟨state, hstate, hended⟩ worker hworker
    have hsettled := (h.advance_ended hmem hallowed.1 hstate hended).1
    rcases List.mem_or_eq_of_mem_set hworker with hold | hnew
    . exact hsettled worker hold
    . apply advance_settled_worker _ hnew.symm
      rintro before rfl
      exact hsettled before hmem
  . intro result hresult
    exact (h.advance_ended hmem hallowed.1 hresult rfl).2 result rfl

theorem LoopInvariant.step {action : Action Process Answer}
    (hallowed : Interleaved.Allowed (fun _ => False) OrderlyStep loop action)
    (h : LoopInvariant policy loop)
    : LoopInvariant policy (Interleaved.step (Worker.advance policy) loop action) := by
  cases action with
  | start process => exact hallowed.elim
  | advance index answer =>
    unfold Interleaved.step
    dsimp only
    split
    . exact h
    . next process hprocess => exact h.advance hprocess (hallowed process hprocess)

end Step

theorem mem_start {aborted : Bool} {worker : WorkerProcess}
    (h : .worker worker ∈ (start policy aborted).processes)
    : worker = { log := [], state := .starting } := by
  simp only [start, List.mem_cons, reduceCtorEq, false_or] at h
  cases List.eq_of_mem_replicate h
  rfl

theorem loopInvariant_start (policy : DispatchPolicy) (aborted : Bool)
    : LoopInvariant policy (start policy aborted) := by
  constructor
  . intro worker hworker
    rw [mem_start hworker]
    constructor
    . simp
    . intro settlement attempts continues hstate
      contradiction
    . intro settlement attempts continues hstate
      contradiction
  . simp [start, Process.isWorker]
  . simp [start, Process.deliveries, WorkerProcess.deliveries, WorkerState.attempts]
  . simp [start, Process.counted, WorkerProcess.counted, DispatchLoopResult.outcomes]
  . rintro ⟨state, hstate, hended⟩
    simp only [start, List.mem_cons, reduceCtorEq, List.mem_replicate, and_false, or_false] at hstate
    cases hstate
    contradiction
  . intro result hresult
    simp [start, List.mem_replicate] at hresult

theorem inProcess_le {loop : Interleaved LoopState Process}
    : inProcess loop ≤ (loop.processes.map (fun process => process.isWorker.toNat)).sum := by
  unfold inProcess
  induction loop.processes with
  | nil => simp
  | cons process processes ih =>
    have hprocess : (if process.isProcessing = true then 1 else 0) ≤ process.isWorker.toNat := by
      cases process with
      | worker worker =>
        rw [Process.isWorker, Bool.toNat_true]
        split <;> omega
      | _ => exact Nat.zero_le _
    rw [List.countP_cons, List.map_cons, List.sum_cons]
    omega

/-- In runs whose claims get identities, every delivery is settled before the loop ends. -/
theorem dispatchLoop_settles (policy : DispatchPolicy) (aborted : Bool)
    (loop : Interleaved LoopState Process)
    (hrun : LaterWhen (Interleaved.Allowed (fun _ => False) OrderlyStep)
      (Interleaved.step (advance policy)) (start policy aborted) loop)
    : inProcess loop ≤ policy.maxConcurrentAttempts
        ∧ loop.shared.result.received = (deliveries loop).length
        ∧ (hasEnded loop → ∀ attempts ∈ deliveries loop, Settled policy attempts)
        ∧ ∀ result, .main (.returned result) ∈ loop.processes →
            result.received
              = result.completed + result.deferred + result.discarded + result.failed := by
  have h : LoopInvariant policy loop :=
    hrun.preserves (fun _ _ hallowed h => h.step hallowed) (loopInvariant_start policy aborted)
  refine ⟨?_, ?_, ?_, h.result⟩
  . rw [← h.count]
    exact inProcess_le
  . rw [h.received, deliveries, List.length_flatMap]
  . intro hended attempts hattempts
    rcases List.mem_flatMap.mp hattempts with ⟨process, hprocess, hmem⟩
    cases process with
    | worker worker =>
      have hnone := attempts_of_isSettled (h.ended hended worker hprocess)
      apply (h.workers worker hprocess).log
      simpa [Process.deliveries, WorkerProcess.deliveries, hnone] using hmem
    | _ => contradiction

def sampleOptions : ReplayDispatchLoopOptions where
  claimRetryDelayMilliseconds := 1
  leaseDurationMilliseconds := 2000
  maxConcurrentAttempts := 1
  settlementAttempts := 2
  settlementRetryDelayMilliseconds := 1
  sourceFailureAttempts := 2
  sourceRetryDelayMilliseconds := 1
  workerBuildSha256 := "2222222222222222222222222222222222222222222222222222222222222222"
  workerId := "wrk_sample"
  workerProtocol := ⟨"replay-worker", "1.0.0"⟩

def samplePolicy : DispatchPolicy :=
  ⟨sampleOptions, by decide⟩

def sampleDelivery (created : Option ClaimIds) : ReceiveOutcome :=
  .delivery (some ⟨["jobId", "scope"], some "job_sample", some ⟨"env_sample", "prj_sample", "ten_sample"⟩⟩)
    created

def sampleLost : List (Action Process Answer) :=
  [.advance 2 .begun, .advance 2 (.received (sampleDelivery none)),
    .advance 0 (.workerThrew (.loopError .invalidClaimIdentity)), .advance 0 .workersSettled]

def sampleRun (actions : List (Action Process Answer)) : Interleaved LoopState Process :=
  actions.foldl (Interleaved.step (advance samplePolicy)) (start samplePolicy false)

theorem deliveries_sampleLost : deliveries (sampleRun sampleLost) = [[]] := by
  decide

theorem hasEnded_sampleLost : hasEnded (sampleRun sampleLost) :=
  ⟨.threw (.loopError .invalidClaimIdentity), .head _, rfl⟩

theorem later_sampleLost
    : LaterWhen
        (Interleaved.Allowed (fun _ => False)
          (fun processes _ process answer => Permitted processes process answer))
        (Interleaved.step (advance samplePolicy)) (start samplePolicy false) (sampleRun sampleLost) := by
  apply LaterWhen.foldl
  refine ⟨?_, ?_, ?_, ?_, trivial⟩
  . rintro process ⟨⟩
    trivial
  . rintro process ⟨⟩
    trivial
  . rintro process ⟨⟩
    exact ⟨_, .tail _ (.tail _ (.head _)), rfl⟩
  . rintro process ⟨⟩
    rintro worker (_ | ⟨_, _ | ⟨_, _ | ⟨_, ⟨⟩⟩⟩⟩)
    rfl

theorem not_settled_nil : ¬Settled samplePolicy [] := by
  rintro ⟨settlement, ⟨count, _, heq⟩ | heq⟩
  . simp at heq
  . contradiction

theorem dispatchLoop_sampleLost
    : ¬∀ loop,
        LaterWhen
            (Interleaved.Allowed (fun _ => False)
              (fun processes _ process answer => Permitted processes process answer))
            (Interleaved.step (advance samplePolicy)) (start samplePolicy false) loop →
          hasEnded loop → ∀ attempts ∈ deliveries loop, Settled samplePolicy attempts := by
  intro h
  have hsettled := h _ later_sampleLost hasEnded_sampleLost
  rw [deliveries_sampleLost] at hsettled
  exact not_settled_nil (hsettled [] (.head _))

def sampleDone : List (Action Process Answer) :=
  [.advance 2 .begun, .advance 2 (.received (sampleDelivery (some ⟨"att_sample", "lease_sample"⟩))),
    .advance 2 (.claimed .notFound), .advance 2 (.settled false), .advance 2 .paused,
    .advance 2 (.settled true), .advance 2 (.received .closed), .advance 0 .workersReturned]

theorem later_sampleDone
    : LaterWhen (Interleaved.Allowed (fun _ => False) OrderlyStep)
        (Interleaved.step (advance samplePolicy)) (start samplePolicy false) (sampleRun sampleDone) := by
  apply LaterWhen.foldl
  refine ⟨?_, ?_, ?_, ?_, ?_, ?_, ?_, ?_, trivial⟩
  . rintro process ⟨⟩
    exact ⟨trivial, fun _ _ => trivial⟩
  . rintro process ⟨⟩
    exact ⟨trivial, fun _ _ _ _ _ => ⟨⟨"att_sample", "lease_sample"⟩, by rfl⟩⟩
  . rintro process ⟨⟩
    exact ⟨trivial, fun _ _ => trivial⟩
  . rintro process ⟨⟩
    exact ⟨trivial, fun _ _ => trivial⟩
  . rintro process ⟨⟩
    exact ⟨trivial, fun _ _ => trivial⟩
  . rintro process ⟨⟩
    exact ⟨trivial, fun _ _ => trivial⟩
  . rintro process ⟨⟩
    exact ⟨trivial, fun _ _ => trivial⟩
  . rintro process ⟨⟩
    constructor
    . rintro worker (_ | ⟨_, _ | ⟨_, _ | ⟨_, ⟨⟩⟩⟩⟩)
      rfl
    . intro worker hworker
      contradiction

theorem dispatchLoop_settles_sampleDone
    : deliveries (sampleRun sampleDone) ≠ []
        ∧ ∀ attempts ∈ deliveries (sampleRun sampleDone), Settled samplePolicy attempts := by
  have h := dispatchLoop_settles samplePolicy false (sampleRun sampleDone) later_sampleDone
  exact ⟨by decide, h.2.2.1 ⟨.returned _, .head _, rfl⟩⟩

end Worker
end ProofStack
