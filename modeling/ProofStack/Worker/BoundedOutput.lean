import ProofStack.Checks
import ProofStack.Contracts.Primitives
import ProofStack.Host.Text
import ProofStack.Json.Utf8

/-!
This module contains the recorder of what a target process writes.
-/

namespace ProofStack
namespace Worker

inductive ReplayTargetOutputStream where
  | stderr
  | stdout
  deriving DecidableEq

def ReplayTargetOutputStream.text : ReplayTargetOutputStream → String
  | .stderr => "stderr"
  | .stdout => "stdout"

structure ReplayTargetOutputEvidence where
  capturedBytes : Nat
  contentSha256 : String
  evidenceSha256 : String
  limitBytes : Nat
  observedAtLeastBytes : Nat
  stream : ReplayTargetOutputStream
  truncated : Bool
  deriving DecidableEq

inductive ReplayTargetOutputError where
  -- Replay target output limit must be a safe nonnegative integer
  | invalidLimit
  -- Replay target output recorder is closed
  | closed
  deriving DecidableEq

def evidenceShape (capturedBytes : Nat) (contentSha256 : String) (limitBytes observedAtLeastBytes : Nat)
    (stream : ReplayTargetOutputStream) (truncated : Bool) : Json Nat :=
  .object [(Host.text "capturedBytes", .number capturedBytes),
    (Host.text "contentSha256", .string (Host.text contentSha256)),
    (Host.text "limitBytes", .number limitBytes),
    (Host.text "observedAtLeastBytes", .number observedAtLeastBytes),
    (Host.text "stream", .string (Host.text stream.text)),
    (Host.text "truncated", .bool truncated)]

-- the content hash is given by the bytes that it has absorbed
structure BoundedReplayTargetOutput where
  stream : ReplayTargetOutputStream
  limitBytes : Nat
  capturedBytes : Nat
  closed : Bool
  contentHash : List UInt8
  observedAtLeastBytes : Nat
  result : Option ReplayTargetOutputEvidence
  truncated : Bool
  deriving DecidableEq

namespace BoundedReplayTargetOutput

def create (stream : ReplayTargetOutputStream) (limitBytes : Nat)
    : Except ReplayTargetOutputError BoundedReplayTargetOutput :=
  if maxSafeInteger < limitBytes then .error .invalidLimit
  else .ok { stream, limitBytes, capturedBytes := 0, closed := false, contentHash := [], observedAtLeastBytes := 0,
             result := none, truncated := false }

def write (output : BoundedReplayTargetOutput) (chunk : List UInt8)
    : Except ReplayTargetOutputError (Bool × BoundedReplayTargetOutput) :=
  if output.closed then .error .closed
  else if chunk.length = 0 ∨ output.truncated then .ok (false, output)
  else
    let remaining : Int := (output.limitBytes : Int) - output.capturedBytes
    let accepted := chunk.take (max 0 remaining).toNat
    let capturedBytes := output.capturedBytes + accepted.length
    let overflowed := decide (remaining < chunk.length)
    .ok (overflowed, { output with
      contentHash := output.contentHash ++ accepted
      capturedBytes
      observedAtLeastBytes := if overflowed then output.limitBytes + 1 else capturedBytes
      truncated := overflowed })

section Digest

variable (sha256 : List UInt8 → String)

def digestEvidence (capturedBytes : Nat) (contentSha256 : String) (limitBytes observedAtLeastBytes : Nat)
    (stream : ReplayTargetOutputStream) (truncated : Bool) : String :=
  sha256 (Json.encodeUtf8
    (evidenceShape capturedBytes contentSha256 limitBytes observedAtLeastBytes stream truncated).stringify)

def finish (output : BoundedReplayTargetOutput) : ReplayTargetOutputEvidence × BoundedReplayTargetOutput :=
  match output.result with
  | some result => (result, output)
  | none =>
    let contentSha256 := sha256 output.contentHash
    let result : ReplayTargetOutputEvidence :=
      { capturedBytes := output.capturedBytes
        contentSha256
        evidenceSha256 := digestEvidence sha256 output.capturedBytes contentSha256 output.limitBytes
          output.observedAtLeastBytes output.stream output.truncated
        limitBytes := output.limitBytes
        observedAtLeastBytes := output.observedAtLeastBytes
        stream := output.stream
        truncated := output.truncated }
    (result, { output with closed := true, result := some result })

end Digest

def writeAll : BoundedReplayTargetOutput → List (List UInt8)
    → Except ReplayTargetOutputError (List Bool × BoundedReplayTargetOutput)
  | output, [] => .ok ([], output)
  | output, chunk :: chunks => do
    let (overflowed, output) ← output.write chunk
    let (signals, output) ← writeAll output chunks
    return (overflowed :: signals, output)

end BoundedReplayTargetOutput

inductive ReplayAttemptReportErrorCode where
  | invalidProcessResult
  deriving DecidableEq

def outputEvidence (sha256 : List UInt8 → String) (candidate : ReplayTargetOutputEvidence)
    (expectedStream : ReplayTargetOutputStream) : Except ReplayAttemptReportErrorCode ReplayTargetOutputEvidence :=
  let validNumbers := [candidate.capturedBytes, candidate.limitBytes, candidate.observedAtLeastBytes].all
    (fun value => decide (value ≤ maxSafeInteger))
  let validBounds :=
    if candidate.truncated then
      candidate.capturedBytes == candidate.limitBytes
        && candidate.observedAtLeastBytes == candidate.limitBytes + 1
    else
      candidate.capturedBytes == candidate.observedAtLeastBytes
  if !validNumbers
      || candidate.stream != expectedStream
      || !Sha256Schema candidate.contentSha256
      || !Sha256Schema candidate.evidenceSha256
      || decide (candidate.limitBytes < candidate.capturedBytes)
      || !validBounds
      || BoundedReplayTargetOutput.digestEvidence sha256 candidate.capturedBytes candidate.contentSha256
          candidate.limitBytes candidate.observedAtLeastBytes candidate.stream candidate.truncated
        != candidate.evidenceSha256 then
    .error .invalidProcessResult
  else
    .ok candidate

namespace BoundedReplayTargetOutput

variable {stream : ReplayTargetOutputStream} {limitBytes : Nat} {seen chunk : List UInt8}

def recorded (stream : ReplayTargetOutputStream) (limitBytes : Nat) (seen : List UInt8)
    : BoundedReplayTargetOutput :=
  { stream
    limitBytes
    capturedBytes := min limitBytes seen.length
    closed := false
    contentHash := seen.take limitBytes
    observedAtLeastBytes := if limitBytes < seen.length then limitBytes + 1 else seen.length
    result := none
    truncated := decide (limitBytes < seen.length) }

theorem create_eq_ok {output : BoundedReplayTargetOutput}
    : create stream limitBytes = .ok output
        ↔ limitBytes ≤ maxSafeInteger ∧ output = recorded stream limitBytes [] := by
  unfold create
  split
  . next hlimit =>
    constructor
    . intro h
      cases h
    . rintro ⟨hle, _⟩
      omega
  . next hlimit =>
    have hstart : recorded stream limitBytes [] = ⟨stream, limitBytes, 0, false, [], 0, none, false⟩ := by
      simp [recorded]
    rw [hstart, Except.ok.injEq]
    constructor
    . intro h
      exact ⟨by omega, h.symm⟩
    . rintro ⟨_, h⟩
      exact h.symm

theorem write_recorded
    : (recorded stream limitBytes seen).write chunk
        = .ok (decide (seen.length ≤ limitBytes ∧ limitBytes < (seen ++ chunk).length),
            recorded stream limitBytes (seen ++ chunk)) := by
  unfold write
  rw [show (recorded stream limitBytes seen).closed = false from rfl, if_neg Bool.false_ne_true]
  by_cases hempty : chunk.length = 0
  . rw [if_pos (.inl hempty), List.length_eq_zero_iff.mp hempty, List.append_nil]
    have hnone : ¬(seen.length ≤ limitBytes ∧ limitBytes < seen.length) := by omega
    rw [decide_eq_false hnone]
  . by_cases hover : limitBytes < seen.length
    . have htruncated : (recorded stream limitBytes seen).truncated = true := decide_eq_true hover
      have hlonger : limitBytes < (seen ++ chunk).length := by
        rw [List.length_append]
        omega
      have hnone : ¬(seen.length ≤ limitBytes ∧ limitBytes < (seen ++ chunk).length) := by omega
      have hsame : recorded stream limitBytes (seen ++ chunk) = recorded stream limitBytes seen := by
        unfold recorded
        rw [if_pos hlonger, if_pos hover, decide_eq_true hlonger, decide_eq_true hover,
          List.take_append_of_le_length (by omega), Nat.min_eq_left (by omega), Nat.min_eq_left (by omega)]
      rw [if_pos (.inr htruncated), decide_eq_false hnone, hsame]
    . have htruncated : (recorded stream limitBytes seen).truncated = false := decide_eq_false hover
      have hneither : ¬(chunk.length = 0 ∨ (recorded stream limitBytes seen).truncated = true) := by
        rw [htruncated]
        simp [hempty]
      -- the first bytes of the chunk are taken up to the limit
      have hremaining : (max 0 (((recorded stream limitBytes seen).limitBytes : Int)
          - (recorded stream limitBytes seen).capturedBytes)).toNat = limitBytes - seen.length := by
        change (max 0 ((limitBytes : Int) - (min limitBytes seen.length : Nat))).toNat = _
        omega
      have hoverflowed : decide (((recorded stream limitBytes seen).limitBytes : Int)
            - (recorded stream limitBytes seen).capturedBytes < chunk.length)
          = decide (limitBytes < (seen ++ chunk).length) := by
        change decide ((limitBytes : Int) - (min limitBytes seen.length : Nat) < chunk.length) = _
        rw [List.length_append, decide_eq_decide]
        omega
      have hsignal : decide (seen.length ≤ limitBytes ∧ limitBytes < (seen ++ chunk).length)
          = decide (limitBytes < (seen ++ chunk).length) := by
        rw [decide_eq_decide]
        omega
      rw [if_neg hneither]
      dsimp only
      rw [hremaining, hoverflowed, hsignal]
      refine congrArg (fun output => Except.ok (_, output)) ?_
      unfold recorded
      simp only [List.length_append, List.length_take, BoundedReplayTargetOutput.mk.injEq, true_and, and_true,
        decide_eq_true_eq]
      refine ⟨by omega, ?_, ?_⟩
      . rw [List.take_append]
      . split <;> omega

theorem writeAll_recorded (chunks : List (List UInt8))
    : ∃ signals, (recorded stream limitBytes seen).writeAll chunks
          = .ok (signals, recorded stream limitBytes (seen ++ chunks.flatten))
        ∧ signals.length = chunks.length
        ∧ signals.count true
            = if seen.length ≤ limitBytes ∧ limitBytes < (seen ++ chunks.flatten).length then 1 else 0 := by
  induction chunks generalizing seen with
  | nil =>
    have hnone : ¬(seen.length ≤ limitBytes ∧ limitBytes < (seen ++ []).length) := by
      rw [List.append_nil]
      omega
    refine ⟨[], ?_, rfl, ?_⟩
    . rw [List.flatten_nil, List.append_nil]
      rfl
    . rw [List.flatten_nil, if_neg hnone]
      rfl
  | cons chunk chunks ih =>
    obtain ⟨signals, hrun, hlength, hcount⟩ := @ih (seen ++ chunk)
    refine ⟨decide (seen.length ≤ limitBytes ∧ limitBytes < (seen ++ chunk).length) :: signals, ?_,
      by rw [List.length_cons, hlength, List.length_cons], ?_⟩
    . refine (Checks.bind_of_ok write_recorded).trans ((Checks.bind_of_ok hrun).trans ?_)
      rw [List.flatten_cons, List.append_assoc]
      rfl
    . rw [List.count_cons, hcount, List.flatten_cons, ← List.append_assoc]
      simp only [List.length_append, beq_true, decide_eq_true_eq]
      split <;> split <;> split <;> omega

end BoundedReplayTargetOutput

section Evidence

variable (sha256 : List UInt8 → String) (stream : ReplayTargetOutputStream) (limitBytes : Nat)

def recordOutput (chunks : List (List UInt8))
    : Except ReplayTargetOutputError (List Bool × ReplayTargetOutputEvidence) := do
  let output ← BoundedReplayTargetOutput.create stream limitBytes
  let (signals, output) ← output.writeAll chunks
  return (signals, (output.finish sha256).1)

structure IsEvidence (chunks : List (List UInt8)) (signals : List Bool) (evidence : ReplayTargetOutputEvidence)
    : Prop where
  recorded : recordOutput sha256 stream limitBytes chunks = .ok (signals, evidence)
  any_chunks : ∀ others : List (List UInt8), others.flatten = chunks.flatten →
    ∃ otherSignals, recordOutput sha256 stream limitBytes others = .ok (otherSignals, evidence)
  capturedBytes_eq : evidence.capturedBytes = min limitBytes chunks.flatten.length
  contentSha256_eq : evidence.contentSha256 = sha256 (chunks.flatten.take (min limitBytes chunks.flatten.length))
  truncated_iff : evidence.truncated = true ↔ limitBytes < chunks.flatten.length
  signals_length : signals.length = chunks.length
  signals_count : signals.count true = if evidence.truncated then 1 else 0
  accepted : outputEvidence sha256 evidence stream = .ok evidence

def evidenceOf (bytes : List UInt8) : ReplayTargetOutputEvidence :=
  ((BoundedReplayTargetOutput.recorded stream limitBytes bytes).finish sha256).1

variable {sha256 stream limitBytes}

theorem exists_recordOutput (hlimit : limitBytes ≤ maxSafeInteger) (chunks : List (List UInt8))
    : ∃ signals, recordOutput sha256 stream limitBytes chunks
          = .ok (signals, evidenceOf sha256 stream limitBytes chunks.flatten)
        ∧ signals.length = chunks.length
        ∧ signals.count true = if limitBytes < chunks.flatten.length then 1 else 0 := by
  obtain ⟨signals, hrun, hlength, hcount⟩ :=
    @BoundedReplayTargetOutput.writeAll_recorded stream limitBytes [] chunks
  refine ⟨signals, ?_, hlength, ?_⟩
  . refine (Checks.bind_of_ok (BoundedReplayTargetOutput.create_eq_ok.mpr ⟨hlimit, rfl⟩)).trans ?_
    exact (Checks.bind_of_ok hrun).trans rfl
  . rw [hcount]
    simp only [List.length_nil, Nat.zero_le, true_and, List.nil_append]

theorem outputEvidence_evidenceOf (hhex : ∀ bytes, Sha256Schema (sha256 bytes) = true)
    (hlimit : limitBytes ≤ maxSafeInteger) (bytes : List UInt8)
    : outputEvidence sha256 (evidenceOf sha256 stream limitBytes bytes) stream
          = .ok (evidenceOf sha256 stream limitBytes bytes)
        ↔ bytes.length ≤ limitBytes ∨ limitBytes < maxSafeInteger := by
  have hcontent : Sha256Schema (evidenceOf sha256 stream limitBytes bytes).contentSha256 = true := hhex _
  have hevidence : Sha256Schema (evidenceOf sha256 stream limitBytes bytes).evidenceSha256 = true := hhex _
  have hdigest : BoundedReplayTargetOutput.digestEvidence sha256
        (evidenceOf sha256 stream limitBytes bytes).capturedBytes
        (evidenceOf sha256 stream limitBytes bytes).contentSha256
        (evidenceOf sha256 stream limitBytes bytes).limitBytes
        (evidenceOf sha256 stream limitBytes bytes).observedAtLeastBytes
        (evidenceOf sha256 stream limitBytes bytes).stream
        (evidenceOf sha256 stream limitBytes bytes).truncated
      = (evidenceOf sha256 stream limitBytes bytes).evidenceSha256 := rfl
  have hstream : (evidenceOf sha256 stream limitBytes bytes).stream = stream := rfl
  have hcaptured : (evidenceOf sha256 stream limitBytes bytes).capturedBytes = min limitBytes bytes.length := rfl
  have hlimitBytes : (evidenceOf sha256 stream limitBytes bytes).limitBytes = limitBytes := rfl
  have hobserved : (evidenceOf sha256 stream limitBytes bytes).observedAtLeastBytes
      = if limitBytes < bytes.length then limitBytes + 1 else bytes.length := rfl
  have htruncated : (evidenceOf sha256 stream limitBytes bytes).truncated = decide (limitBytes < bytes.length) := rfl
  generalize evidenceOf sha256 stream limitBytes bytes = evidence at *
  have hbelow : ¬limitBytes < min limitBytes bytes.length := by omega
  unfold outputEvidence
  rw [hcontent, hevidence, hdigest, hstream, hcaptured, hlimitBytes, hobserved, htruncated]
  by_cases hover : limitBytes < bytes.length
  . have hmin : min limitBytes bytes.length = limitBytes := by omega
    rw [hmin, decide_eq_true hover, if_pos hover]
    by_cases hsafe : limitBytes < maxSafeInteger
    . have hnext : limitBytes + 1 ≤ maxSafeInteger := hsafe
      simp [hlimit, hnext, hsafe]
    . have hnext : ¬limitBytes + 1 ≤ maxSafeInteger := hsafe
      have hnot : ¬bytes.length ≤ limitBytes := by omega
      simp [hlimit, hnext, hsafe, hnot]
  . have hmin : min limitBytes bytes.length = bytes.length := by omega
    have hle : bytes.length ≤ limitBytes := by omega
    have hbytes : bytes.length ≤ maxSafeInteger := by omega
    rw [hmin, decide_eq_false hover, if_neg hover]
    simp [hlimit, hle, hbytes]

/-- The recorder keeps its promise except for a stream that exceeds the greatest limit. -/
theorem isEvidence_iff (hhex : ∀ bytes, Sha256Schema (sha256 bytes) = true) (hlimit : limitBytes ≤ maxSafeInteger)
    (chunks : List (List UInt8))
    : (∃ signals evidence, IsEvidence sha256 stream limitBytes chunks signals evidence)
        ↔ chunks.flatten.length ≤ limitBytes ∨ limitBytes < maxSafeInteger := by
  obtain ⟨signals, hrecorded, hlength, hcount⟩ := @exists_recordOutput sha256 stream limitBytes hlimit chunks
  rw [← @outputEvidence_evidenceOf sha256 stream limitBytes hhex hlimit]
  constructor
  . rintro ⟨otherSignals, evidence, h⟩
    have heq := h.recorded.symm.trans hrecorded
    rw [Except.ok.injEq, Prod.mk.injEq] at heq
    rw [← heq.2]
    exact h.accepted
  . intro haccepted
    refine ⟨signals, evidenceOf sha256 stream limitBytes chunks.flatten, {
      recorded := hrecorded
      any_chunks := ?_
      capturedBytes_eq := rfl
      contentSha256_eq := ?_
      truncated_iff := decide_eq_true_iff
      signals_length := hlength
      signals_count := ?_
      accepted := haccepted }⟩
    . intro others hothers
      obtain ⟨otherSignals, hother, _⟩ := @exists_recordOutput sha256 stream limitBytes hlimit others
      rw [hothers] at hother
      exact ⟨otherSignals, hother⟩
    . rw [← List.take_eq_take_min]
      rfl
    . rw [hcount]
      change _ = if decide (limitBytes < chunks.flatten.length) = true then 1 else 0
      simp only [decide_eq_true_eq]

end Evidence

namespace OutputSample

-- the digests of the first three bytes below and of what is recorded of them
def sha256 (bytes : List UInt8) : String :=
  if bytes = [1, 2, 3] then "039058c6f2c0cb492c533b0a4d14ef77cc0f78abccced5287d84a1a2011cfb81"
  else "926050a272a9562dbfaf67a213f4c681106c6a2dfb5fcfb43bb884e84849cb8e"

theorem sha256_hex (bytes : List UInt8) : Sha256Schema (sha256 bytes) = true := by
  have hcontent : Sha256Schema "039058c6f2c0cb492c533b0a4d14ef77cc0f78abccced5287d84a1a2011cfb81" = true := by
    decide
  have hevidence : Sha256Schema "926050a272a9562dbfaf67a213f4c681106c6a2dfb5fcfb43bb884e84849cb8e" = true := by
    decide
  unfold sha256
  split
  . exact hcontent
  . exact hevidence

theorem isEvidence_iff_three_chunks
    : (∃ signals evidence, IsEvidence sha256 .stdout 3 [[1, 2], [3, 4], [5]] signals evidence)
        ↔ [[1, 2], [3, 4], [(5 : UInt8)]].flatten.length ≤ 3 ∨ 3 < maxSafeInteger :=
  isEvidence_iff sha256_hex (by decide) _

theorem length_flatten_replicate (count size : Nat) (byte : UInt8)
    : (List.replicate count (List.replicate size byte)).flatten.length = count * size := by
  rw [List.length_flatten, List.map_replicate, List.length_replicate, List.sum_replicate_nat]

theorem not_isEvidence_greatest_limit
    : ¬∃ signals evidence, IsEvidence sha256 .stdout 9007199254740991
        (List.replicate 2097152 (List.replicate 4294967296 0)) signals evidence := by
  rintro ⟨signals, evidence, h⟩
  obtain ⟨recorded, hrecorded, _⟩ := @exists_recordOutput sha256 .stdout 9007199254740991 (by decide)
    (List.replicate 2097152 (List.replicate 4294967296 0))
  have heq := h.recorded.symm.trans hrecorded
  rw [Except.ok.injEq, Prod.mk.injEq] at heq
  have haccepted := h.accepted
  rw [heq.2, outputEvidence_evidenceOf sha256_hex (by decide), length_flatten_replicate] at haccepted
  revert haccepted
  decide

end OutputSample

end Worker
end ProofStack
