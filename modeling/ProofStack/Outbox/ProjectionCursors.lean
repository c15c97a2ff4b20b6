import ProofStack.Outbox.Delivery
import ProofStack.StateMachine.Interleaved

/-!
This module contains the cursors of the projections and their repository, which any number of workers advance.
-/

namespace ProofStack
namespace Outbox
namespace Projection

open Checks Delivery StateMachine Store

structure ProjectionCursorKey where
  tenantId : String
  consumerName : String
  generation : Nat
  deriving DecidableEq

structure ProjectionCursor where
  lastOutboxId : Nat
  updatedAt : Nat
  deriving DecidableEq

structure AdvanceProjectionCursorResult where
  advanced : Bool
  cursor : ProjectionCursor

inductive AdvanceError where
  | repository (error : OutboxError)
  | regression (currentOutboxId requestedOutboxId : Nat)
  | connection

abbrev Cursors := Table ProjectionCursorKey ProjectionCursor

def checkConstraints (key : ProjectionCursorKey) : Except OutboxError Unit := do
  failIf (¬OpaqueIdSchema key.tenantId) (.constraint "proofstack_projection_cursor_tenant_id_format")
  failIf (¬isConsumerName key.consumerName) (.constraint "proofstack_projection_cursor_consumer_format")
  failIf (¬boundedInteger 1 1000000 key.generation)
    (.constraint "proofstack_projection_cursor_generation_range")

-- The columns of the key are those that the row has been selected by.
def guardProjectionCursor (old new : ProjectionCursor) : Except OutboxError Unit :=
  failIf (new.lastOutboxId < old.lastOutboxId) (.guarded "ProofStack projection cursors are monotonic")

def maxProjectionCursorGeneration : Nat := 1000000

def validateKey (key : ProjectionCursorKey) : Except OutboxError Unit := do
  requireOpaqueId key.tenantId "tenantId"
  failIf (¬isConsumerName key.consumerName)
    (.typeError "consumerName must be a valid namespaced consumer identifier")
  requireBoundedInteger key.generation 1 maxProjectionCursorGeneration "generation"

def requirePosition (position : Nat) : Except OutboxError Unit :=
  failIf (position > maxBigint) (.typeError "lastOutboxId exceeds the PostgreSQL bigint range")

def cursorFromRow (key : ProjectionCursorKey) (row : ProjectionCursor) : Except OutboxError ProjectionCursor := do
  failIf (¬OpaqueIdSchema key.tenantId)
    (.integrity "Stored projection cursor tenant does not match its transaction scope")
  failIf (¬isConsumerName key.consumerName) (.integrity "Stored projection cursor consumer is invalid")
  failIf (row.lastOutboxId > maxBigint) (.integrity "Stored projection cursor position is invalid")
  return row

def get (cursors : Cursors) (key : ProjectionCursorKey) : Except OutboxError (Option ProjectionCursor) := do
  validateKey key
  match cursors.lookup key with
  | none => return none
  | some row => return some (← cursorFromRow key row)

def validateAdvance (key : ProjectionCursorKey) (lastOutboxId : Nat) : Except OutboxError Unit := do
  validateKey key
  requirePosition lastOutboxId

inductive Phase where
  | locking
  | inserting
  | conflicted
  | returned (result : AdvanceProjectionCursorResult)
  | thrown (error : AdvanceError)

structure Call where
  key : ProjectionCursorKey
  lastOutboxId : Nat
  phase : Phase

structure Answer where
  clock : Nat
  commit : Commit

namespace Call

variable (cursors : Cursors) (call : Call) (answer : Answer)

def row : ProjectionCursor :=
  ⟨call.lastOutboxId, answer.clock⟩

def finish : Except AdvanceError (Cursors × Phase) → Cursors × Call
  | .error error => (cursors, { call with phase := .thrown error })
  | .ok (next, phase) =>
    match answer.commit with
    | .committed => (next, { call with phase })
    | .rolledBack => (cursors, { call with phase := .thrown .connection })
    | .unacknowledged => (next, { call with phase := .thrown .connection })

def insertCursor : Except AdvanceError (Cursors × Phase) := do
  (checkConstraints call.key).mapError .repository
  let cursor ← (cursorFromRow call.key (call.row answer)).mapError .repository
  return (cursors.insert call.key (call.row answer), .returned ⟨true, cursor⟩)

def updateCursor (row : ProjectionCursor) : Except AdvanceError (Cursors × Phase) := do
  (guardProjectionCursor row (call.row answer)).mapError .repository
  insertCursor cursors call answer

-- The row stays locked, so that no other transaction writes it until this one ends.
def advanceLocked (row : ProjectionCursor) : Except AdvanceError (Cursors × Phase) := do
  let current ← (cursorFromRow call.key row).mapError .repository
  failIf (call.lastOutboxId < current.lastOutboxId) (.regression current.lastOutboxId call.lastOutboxId)
  if call.lastOutboxId = current.lastOutboxId then
    return (cursors, .returned ⟨false, current⟩)
  else
    updateCursor cursors call answer row

end Call

/-- One statement of a transaction, or all those that follow once it has locked the row. -/
def advance (cursors : Cursors) (call : Call) (answer : Answer) : Cursors × Call :=
  let row := cursors.lookup call.key
  match call.phase with
  | .locking =>
    match validateAdvance call.key call.lastOutboxId, row with
    | .error error, _ => call.finish cursors answer (.error (.repository error))
    | .ok (), none => call.finish cursors answer (.ok (cursors, .inserting))
    | .ok (), some row => call.finish cursors answer (call.advanceLocked cursors answer row)
  | .inserting =>
    match row with
    | none => call.finish cursors answer (call.insertCursor cursors answer)
    | some _ => call.finish cursors answer (.ok (cursors, .conflicted))
  | .conflicted =>
    match row with
    | none => call.finish cursors answer
        (.error (.repository (.integrity "Projection cursor disappeared after a concurrent insert")))
    | some row => call.finish cursors answer (call.advanceLocked cursors answer row)
  | _ => (cursors, call)

variable {cursors cursors' : Cursors} {call : Call} {row : ProjectionCursor} {key : ProjectionCursorKey}

def Reaches (cursors : Cursors) (key : ProjectionCursorKey) (position : Nat) : Prop :=
  ∃ row, cursors.lookup key = some row ∧ position ≤ row.lastOutboxId

def Guarded (cursors : Cursors) : Prop :=
  ∀ key row, cursors.lookup key = some row → validateAdvance key row.lastOutboxId = .ok ()

/-- What a call and its outcome say about the cursor, whatever the other calls do. -/
def Keeps (cursors : Cursors) (call : Call) : Prop :=
  match call.phase with
  | .locking => True
  | .inserting => validateAdvance call.key call.lastOutboxId = .ok ()
  | .conflicted => validateAdvance call.key call.lastOutboxId = .ok () ∧ Reaches cursors call.key 0
  | .returned result =>
    result.cursor.lastOutboxId = call.lastOutboxId ∧ Reaches cursors call.key call.lastOutboxId
  | .thrown (.repository error) => validateAdvance call.key call.lastOutboxId = .error error
  | .thrown (.regression current requested) =>
    requested = call.lastOutboxId ∧ requested < current ∧ Reaches cursors call.key current
  | .thrown .connection => True

def Phase.Open : Phase → Prop
  | .returned _ | .thrown _ => False
  | _ => True

inductive Advances (cursors : Cursors) (call : Call) : Cursors × Call → Prop
  | kept (phase : Phase) (hkeeps : Keeps cursors { call with phase })
      (hnew : ∀ cursor, phase ≠ .returned ⟨true, cursor⟩)
    : Advances cursors call (cursors, { call with phase })
  | written (row : ProjectionCursor) (phase : Phase)
      (hvalid : validateAdvance call.key call.lastOutboxId = .ok ())
      (hrow : row.lastOutboxId = call.lastOutboxId)
      (hbefore : ∀ position, Reaches cursors call.key position → position < call.lastOutboxId)
      (hphase : phase = .returned ⟨true, row⟩ ∨ phase = .thrown .connection)
    : Advances cursors call (cursors.insert call.key row, { call with phase })

theorem cursorFromRow_of_valid (h : validateAdvance key row.lastOutboxId = .ok ())
    : cursorFromRow key row = .ok row ∧ checkConstraints key = .ok () := by
  simp only [validateAdvance, validateKey, requireOpaqueId, requireBoundedInteger, requirePosition, bind_eq_ok,
    failIf_eq_ok, exists_const] at h
  obtain ⟨⟨htenant, hconsumer, hgeneration⟩, hposition⟩ := h
  refine ⟨?_, ?_⟩
  . rw [cursorFromRow, failIf_bind_of_false htenant, failIf_bind_of_false hconsumer,
      failIf_bind_of_false hposition]
    rfl
  . rw [checkConstraints, failIf_bind_of_false htenant, failIf_bind_of_false hconsumer]
    exact failIf_eq_ok.mpr hgeneration

variable {answer : Answer}

theorem advances_finish {phase : Phase} (hkeeps : Keeps cursors { call with phase })
    (hnew : ∀ cursor, phase ≠ .returned ⟨true, cursor⟩)
    : Advances cursors call (call.finish cursors answer (.ok (cursors, phase))) := by
  unfold Call.finish
  dsimp only
  split
  . exact .kept phase hkeeps hnew
  . exact .kept _ trivial (by simp)
  . exact .kept _ trivial (by simp)

theorem advances_insertCursor (hvalid : validateAdvance call.key call.lastOutboxId = .ok ())
    (hbefore : ∀ position, Reaches cursors call.key position → position < call.lastOutboxId)
    : Advances cursors call (call.finish cursors answer (call.insertCursor cursors answer)) := by
  obtain ⟨hcursor, hconstraints⟩ := @cursorFromRow_of_valid (call.row answer) call.key hvalid
  rw [Call.insertCursor, hconstraints, hcursor]
  change Advances cursors call (call.finish cursors answer (.ok (cursors.insert _ _, _)))
  unfold Call.finish
  dsimp only
  split
  . exact .written (call.row answer) _ hvalid rfl hbefore (.inl rfl)
  . exact .kept _ trivial (by simp)
  . exact .written (call.row answer) _ hvalid rfl hbefore (.inr rfl)

theorem advances_locked (h : Guarded cursors) (hvalid : validateAdvance call.key call.lastOutboxId = .ok ())
    (hlookup : cursors.lookup call.key = some row)
    : Advances cursors call (call.finish cursors answer (call.advanceLocked cursors answer row)) := by
  rw [Call.advanceLocked, (cursorFromRow_of_valid (h call.key row hlookup)).1]
  change Advances cursors call (call.finish cursors answer (failIf _ _ >>= _))
  rcases Nat.lt_trichotomy call.lastOutboxId row.lastOutboxId with hlt | heq | hgt
  . rw [failIf_bind_of_true hlt]
    exact .kept _ ⟨rfl, hlt, row, hlookup, Nat.le_refl _⟩ (by simp)
  . rw [failIf_bind_of_false (Nat.not_lt_of_ge (Nat.le_of_eq heq.symm)), if_pos heq]
    exact advances_finish ⟨heq.symm, row, hlookup, Nat.le_of_eq heq⟩ (by simp)
  . have hle : ¬call.lastOutboxId < row.lastOutboxId := Nat.not_lt_of_ge (Nat.le_of_lt hgt)
    have hguard : guardProjectionCursor row (call.row answer) = .ok () := failIf_eq_ok.mpr hle
    rw [failIf_bind_of_false hle, if_neg (Nat.ne_of_gt hgt), Call.updateCursor, hguard]
    apply advances_insertCursor hvalid
    rintro position ⟨current, hcurrent, hposition⟩
    rw [hlookup] at hcurrent
    cases hcurrent
    omega

theorem advances (h : Guarded cursors) (hkeeps : Keeps cursors call) (hopen : call.phase.Open) (answer : Answer)
    : Advances cursors call (advance cursors call answer) := by
  unfold advance
  unfold Keeps at hkeeps
  cases hphase : call.phase with
  | locking =>
    dsimp only
    split
    . next hinvalid => exact .kept _ hinvalid (by simp)
    . next hvalid _ => exact advances_finish hvalid (by simp)
    . next hvalid hlookup => exact advances_locked h hvalid hlookup
  | inserting =>
    rw [hphase] at hkeeps
    dsimp only
    split
    . next hlookup =>
      apply advances_insertCursor hkeeps
      rintro position ⟨row, hrow, _⟩
      rw [hlookup] at hrow
      contradiction
    . next row hlookup => exact advances_finish ⟨hkeeps, row, hlookup, Nat.zero_le _⟩ (by simp)
  | conflicted =>
    rw [hphase] at hkeeps
    obtain ⟨hvalid, row, hlookup, _⟩ := hkeeps
    dsimp only
    rw [hlookup]
    exact advances_locked h hvalid hlookup
  | returned => exact absurd hopen (hphase ▸ id)
  | thrown => exact absurd hopen (hphase ▸ id)

theorem advance_ended (hended : ¬call.phase.Open) : advance cursors call answer = (cursors, call) := by
  unfold advance
  split <;> simp_all [Phase.Open]

theorem reaches_insert (hbefore : ∀ position, Reaches cursors key position → position < row.lastOutboxId)
    {key' : ProjectionCursorKey} {position : Nat} (h : Reaches cursors key' position)
    : Reaches (cursors.insert key row) key' position := by
  by_cases hkey : key' = key
  . subst hkey
    exact ⟨row, AList.lookup_insert _, Nat.le_of_lt (hbefore position h)⟩
  . rw [Reaches, Table.lookup_insert, if_neg hkey]
    exact h

theorem Keeps.grows (h : Keeps cursors call)
    (hgrows : ∀ key position, Reaches cursors key position → Reaches cursors' key position)
    : Keeps cursors' call := by
  unfold Keeps at h ⊢
  split at h
  . exact h
  . exact h
  . exact ⟨h.1, hgrows _ _ h.2⟩
  . exact ⟨h.1, hgrows _ _ h.2⟩
  . exact h
  . exact ⟨h.1, h.2.1, hgrows _ _ h.2.2⟩
  . exact h

abbrev Projections := Interleaved Cursors Call

def AdvancedAt (s : Projections) (key : ProjectionCursorKey) (index : Nat) (cursor : ProjectionCursor) : Prop :=
  s.processes[index]? = some ⟨key, cursor.lastOutboxId, .returned ⟨true, cursor⟩⟩

def LostAt (s : Projections) (key : ProjectionCursorKey) (index : Nat) (cursor : ProjectionCursor) : Prop :=
  s.processes[index]? = some ⟨key, cursor.lastOutboxId, .thrown .connection⟩

structure Consistent (s : Projections) : Prop where
  guarded : Guarded s.shared
  keeps : ∀ call ∈ s.processes, Keeps s.shared call
  written : ∀ key row, s.shared.lookup key = some row → ∃ index, AdvancedAt s key index row ∨ LostAt s key index row
  once : ∀ key i j cursor cursor', AdvancedAt s key i cursor → AdvancedAt s key j cursor' →
    cursor.lastOutboxId = cursor'.lastOutboxId → i = j

abbrev Allowed (s : Projections) (action : Action Call Answer) : Prop :=
  Interleaved.Allowed (fun call => call.phase = .locking) (fun _ _ _ _ => True) s action

abbrev Runs (s s' : Projections) : Prop :=
  LaterWhen Allowed (Interleaved.step advance) s s'

variable {s s' : Projections}

theorem AdvancedAt.reaches (h : Consistent s) {index : Nat} (hadvanced : AdvancedAt s key index row)
    : Reaches s.shared key row.lastOutboxId :=
  (h.keeps _ (List.mem_of_getElem? hadvanced)).2

theorem Consistent.quiet (h : Consistent s) {calls : List Call} (hkeeps : ∀ call ∈ calls, Keeps s.shared call)
    (hended : ∀ (i : Nat) (call : Call), ¬call.phase.Open → s.processes[i]? = some call → calls[i]? = some call)
    (hnew : ∀ key i cursor, AdvancedAt ⟨s.shared, calls⟩ key i cursor → AdvancedAt s key i cursor)
    : Consistent ⟨s.shared, calls⟩ := by
  refine ⟨h.guarded, hkeeps, ?_, ?_⟩
  . intro key row hlookup
    rcases h.written key row hlookup with ⟨i, hi | hi⟩
    . exact ⟨i, .inl (hended i _ id hi)⟩
    . exact ⟨i, .inr (hended i _ id hi)⟩
  . intro key i j cursor cursor' hi hj
    exact h.once key i j cursor cursor' (hnew key i cursor hi) (hnew key j cursor' hj)

theorem Consistent.start (h : Consistent s) (hphase : call.phase = .locking)
    : Consistent ⟨s.shared, s.processes ++ [call]⟩ := by
  apply h.quiet
  . intro other hother
    rcases List.mem_append.mp hother with hother | hother
    . exact h.keeps other hother
    . rw [List.mem_singleton.mp hother, Keeps, hphase]
      trivial
  . intro i other _ hi
    rw [List.getElem?_append_left (List.getElem?_eq_some_iff.mp hi).1]
    exact hi
  . intro key i cursor hi
    rw [AdvancedAt, List.getElem?_append] at hi
    split at hi
    . exact hi
    . rw [← List.mem_singleton.mp (List.mem_of_getElem? hi)] at hphase
      contradiction

theorem Consistent.advance (h : Consistent s) {index : Nat} (hcall : s.processes[index]? = some call)
    (hopen : call.phase.Open) {advanced : Cursors × Call} (hadvances : Advances s.shared call advanced)
    : Consistent ⟨advanced.1, s.processes.set index advanced.2⟩
        ∧ ∀ key position, Reaches s.shared key position → Reaches advanced.1 key position := by
  have hended (i : Nat) (other next : Call) (hother : ¬other.phase.Open) (hi : s.processes[i]? = some other)
      : (s.processes.set index next)[i]? = some other := by
    rw [List.getElem?_set_ne]
    . exact hi
    . rintro rfl
      rw [hcall] at hi
      cases hi
      exact hother hopen
  have hset {i : Nat} {next other : Call} (hi : (s.processes.set index next)[i]? = some other)
      : i = index ∧ other = next ∨ s.processes[i]? = some other := by
    rw [List.getElem?_set] at hi
    split at hi
    . next hindex =>
      rw [if_pos (List.getElem?_eq_some_iff.mp hcall).1] at hi
      cases hi
      exact .inl ⟨hindex.symm, rfl⟩
    . exact .inr hi
  cases hadvances with
  | kept phase hkeeps hnew =>
    refine ⟨h.quiet ?_ (fun i other hother => hended i other _ hother) ?_, fun _ _ hreaches => hreaches⟩
    . intro other hother
      rcases List.mem_or_eq_of_mem_set hother with hother | rfl
      . exact h.keeps other hother
      . exact hkeeps
    . intro key i cursor hi
      rcases hset hi with ⟨_, hnext⟩ | hi
      . exact absurd (congrArg Call.phase hnext).symm (hnew cursor)
      . exact hi
  | written row phase hvalid hrow hbefore hphase =>
    have hgrows {key : ProjectionCursorKey} {position : Nat} (hreaches : Reaches s.shared key position)
        : Reaches (s.shared.insert call.key row) key position := reaches_insert (hrow ▸ hbefore) hreaches
    have hlater {i j : Nat} {key : ProjectionCursorKey} {cursor cursor' : ProjectionCursor}
        (hi : AdvancedAt ⟨s.shared, s.processes.set index { call with phase }⟩ key i cursor)
        (hj : AdvancedAt s key j cursor') (heq : cursor.lastOutboxId = cursor'.lastOutboxId)
        : i = j := by
      rcases hset hi with ⟨_, hnext⟩ | hi
      . cases (congrArg Call.key hnext : key = call.key)
        have hlt := hbefore _ (hj.reaches h)
        have hposition : cursor.lastOutboxId = call.lastOutboxId := congrArg Call.lastOutboxId hnext
        omega
      . exact h.once key i j cursor cursor' hi hj heq
    refine ⟨⟨?_, ?_, ?_, ?_⟩, fun _ _ => hgrows⟩
    . intro key other hlookup
      rcases Table.lookup_insert_eq_some hlookup with ⟨rfl, rfl⟩ | ⟨_, hlookup⟩
      . exact hrow ▸ hvalid
      . exact h.guarded key other hlookup
    . intro other hother
      rcases List.mem_or_eq_of_mem_set hother with hother | rfl
      . exact (h.keeps other hother).grows (fun _ _ => hgrows)
      . rcases hphase with rfl | rfl
        . exact ⟨hrow, row, AList.lookup_insert _, Nat.le_of_eq hrow.symm⟩
        . trivial
    . intro key other hlookup
      rcases Table.lookup_insert_eq_some hlookup with ⟨rfl, rfl⟩ | ⟨_, hlookup⟩
      . refine ⟨index, hphase.imp ?_ ?_⟩ <;>
        . rintro rfl
          exact hrow ▸ List.getElem?_set_self (List.getElem?_eq_some_iff.mp hcall).1
      . rcases h.written key other hlookup with ⟨i, hi | hi⟩
        . exact ⟨i, .inl (hended i _ _ id hi)⟩
        . exact ⟨i, .inr (hended i _ _ id hi)⟩
    . intro key i j cursor cursor' hi hj heq
      rcases hset hj with ⟨hindex, _⟩ | hold
      . rcases hset hi with ⟨rfl, _⟩ | hold
        . exact hindex.symm
        . exact (hlater hj hold heq.symm).symm
      . exact hlater hi hold heq

theorem Consistent.step (h : Consistent s) {action : Action Call Answer} (hallowed : Allowed s action)
    : Consistent (Interleaved.step Projection.advance s action)
        ∧ ∀ key position, Reaches s.shared key position →
            Reaches (Interleaved.step Projection.advance s action).shared key position := by
  cases action with
  | start call => exact ⟨h.start hallowed, fun _ _ hreaches => hreaches⟩
  | advance index answer =>
    unfold Interleaved.step
    dsimp only
    split
    . exact ⟨h, fun _ _ hreaches => hreaches⟩
    . next call hcall =>
      by_cases hopen : call.phase.Open
      . exact h.advance hcall hopen (advances h.guarded (h.keeps call (List.mem_of_getElem? hcall)) hopen answer)
      . obtain ⟨_, rfl⟩ := List.getElem?_eq_some_iff.mp hcall
        rw [advance_ended hopen, List.set_getElem_self]
        exact ⟨h, fun _ _ hreaches => hreaches⟩

theorem consistent_of_runs (h : Runs ⟨∅, []⟩ s) : Consistent s := by
  apply h.preserves (fun _ _ hallowed hs => (Consistent.step hs hallowed).1)
  exact ⟨fun _ _ hlookup => by contradiction, by simp, fun _ _ hlookup => by contradiction,
    fun _ _ _ _ _ hi => by simp [AdvancedAt] at hi⟩

/-- The cursor is where its farthest call has left it, and one call at most has advanced it to a position. -/
theorem projectionCursors (h : Runs ⟨∅, []⟩ s)
    : (∀ call ∈ s.processes, Keeps s.shared call)
        ∧ (∀ key row, s.shared.lookup key = some row →
            ∃ index, AdvancedAt s key index row ∨ LostAt s key index row)
        ∧ (∀ key i j cursor cursor', AdvancedAt s key i cursor → AdvancedAt s key j cursor' →
            cursor.lastOutboxId = cursor'.lastOutboxId → i = j)
        ∧ (∀ key error, get s.shared key = .error error → validateKey key = .error error)
        ∧ ∀ s', Runs s s' → ∀ key position, Reaches s.shared key position → Reaches s'.shared key position := by
  have hs := consistent_of_runs h
  refine ⟨hs.keeps, hs.written, hs.once, ?_, ?_⟩
  . intro key error hget
    rcases bind_eq_error.mp hget with hinvalid | ⟨_, _, hread⟩
    . exact hinvalid
    . split at hread
      . contradiction
      . next row hlookup =>
        rw [(cursorFromRow_of_valid (hs.guarded key row hlookup)).1] at hread
        contradiction
  . intro s' hlater
    apply (hlater.preserves (P := fun s' => Consistent s' ∧ ∀ key position, Reaches s.shared key position →
      Reaches s'.shared key position) ?_ ⟨hs, fun _ _ hreaches => hreaches⟩).2
    rintro later action hallowed ⟨hconsistent, hreaches⟩
    have hnext := hconsistent.step hallowed
    exact ⟨hnext.1, fun key position hreached => hnext.2 key position (hreaches key position hreached)⟩

def sampleKey : ProjectionCursorKey :=
  ⟨"ten_a", "replay.projector", 1⟩

def sampleActions : List (Action Call Answer) :=
  [.start ⟨sampleKey, 5, .locking⟩, .start ⟨sampleKey, 7, .locking⟩, .advance 0 ⟨1, .committed⟩,
    .advance 1 ⟨2, .committed⟩, .advance 0 ⟨3, .committed⟩, .advance 1 ⟨4, .committed⟩,
    .advance 1 ⟨5, .committed⟩]

def sampleProjections : Projections :=
  sampleActions.foldl (Interleaved.step advance) ⟨∅, []⟩

/-- Both calls find no row. The second one inserts after the first and advances the row that it then finds. -/
theorem projectionCursors_sample : ∃ index, AdvancedAt sampleProjections sampleKey index ⟨7, 5⟩
    ∨ LostAt sampleProjections sampleKey index ⟨7, 5⟩ := by
  have hruns : Runs ⟨∅, []⟩ sampleProjections := by
    apply LaterWhen.foldl
    exact ⟨rfl, rfl, fun _ _ => trivial, fun _ _ => trivial, fun _ _ => trivial, fun _ _ => trivial,
      fun _ _ => trivial, trivial⟩
  exact (projectionCursors hruns).2.1 sampleKey ⟨7, 5⟩ rfl

end Projection
end Outbox
end ProofStack
