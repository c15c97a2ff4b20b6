import ProofStack.Checks
import ProofStack.Contracts.Artifact
import ProofStack.Json.Utf8

/-!
This module contains the channel between a replay worker and its target process.
-/

namespace ProofStack
namespace Worker

inductive ReplayTargetChannelErrorCode where
  | channelClosed
  | frameTooLarge
  | incompleteFrame
  | invalidFrame
  | invalidUtf8
  | invalidWorkerMessage
  deriving DecidableEq

inductive ChannelFailure where
  | rangeError
  | channelError (code : ReplayTargetChannelErrorCode)
  deriving DecidableEq

def maxReplayTargetProtocolFrameBytes : Nat :=
  maxArtifactContentBytes * 4 + 1048576

def assertFrameLimit (maxFrameBytes : Nat) : Except ChannelFailure Unit :=
  if maxFrameBytes < 1 ∨ maxFrameBytes > maxReplayTargetProtocolFrameBytes then
    .error .rangeError
  else
    .ok ()

variable {ν : Type} [NumberText : Json.NumberText ν]

def isJsonObject : Json ν → Bool
  | .object _ => true
  | _ => false

-- The decoder of the platform drops a byte order mark at the start.
def decodeText (frame : List UInt8) : Option (List Char) :=
  (Json.decodeUtf8 frame).map (fun text => if text.head? = some '\uFEFF' then text.tail else text)

def parseFrame (maxFrameBytes : Nat) (frame : List UInt8)
    : Except ReplayTargetChannelErrorCode (Json ν) :=
  if frame = [] ∨ frame.getLast? = some 0x0D then
    .error .invalidFrame
  else if frame.length > maxFrameBytes then
    .error .frameTooLarge
  else
    match decodeText frame with
    | none => .error .invalidUtf8
    | some text =>
      match Json.parse text with
      | none => .error .invalidFrame
      | some parsed => if isJsonObject parsed then .ok parsed else .error .invalidFrame

@[simp]
def parseFrames (maxFrameBytes : Nat) (frame : List UInt8)
    : List UInt8 → Except ReplayTargetChannelErrorCode (List (Json ν) × List UInt8)
  | [] => .ok ([], frame)
  | byte :: bytes =>
    if byte = 0x0A then do
      let message ← parseFrame maxFrameBytes frame
      let (messages, buffer) ← parseFrames maxFrameBytes [] bytes
      return (message :: messages, buffer)
    else
      parseFrames maxFrameBytes (frame ++ [byte]) bytes

structure ReplayTargetJsonLineDecoder where
  buffer : List UInt8
  closed : Bool
  failed : Bool
  maxFrameBytes : Nat

namespace ReplayTargetJsonLineDecoder

def new (maxFrameBytes : Nat) : Except ChannelFailure ReplayTargetJsonLineDecoder := do
  assertFrameLimit maxFrameBytes
  return { buffer := [], closed := false, failed := false, maxFrameBytes }

variable (decoder : ReplayTargetJsonLineDecoder)

def fail : ReplayTargetJsonLineDecoder :=
  { decoder with buffer := [], failed := true }

def feed (chunk : List UInt8)
    : ReplayTargetJsonLineDecoder × Except ReplayTargetChannelErrorCode (List (Json ν)) :=
  if decoder.closed || decoder.failed then
    (decoder, .error .channelClosed)
  else if chunk = [] then
    (decoder, .ok [])
  else
    match parseFrames decoder.maxFrameBytes [] (decoder.buffer ++ chunk) with
    | .error code => (decoder.fail, .error code)
    | .ok (messages, buffer) =>
      if buffer.length > decoder.maxFrameBytes then
        (decoder.fail, .error .frameTooLarge)
      else
        ({ decoder with buffer }, .ok messages)

def finish : ReplayTargetJsonLineDecoder × Except ReplayTargetChannelErrorCode Unit :=
  if decoder.closed || decoder.failed then
    (decoder, .error .channelClosed)
  else if decoder.buffer ≠ [] then
    (decoder.fail, .error .incompleteFrame)
  else
    ({ decoder with closed := true }, .ok ())

def readChunks (decoder : ReplayTargetJsonLineDecoder)
    : List (List UInt8) → Except ReplayTargetChannelErrorCode (List (Json ν))
  | [] => decoder.finish.2.map (fun _ => [])
  | chunk :: chunks => do
    let messages ← (decoder.feed chunk).2
    let others ← readChunks (decoder.feed (ν := ν) chunk).1 chunks
    return messages ++ others

end ReplayTargetJsonLineDecoder

def decodeStream (maxFrameBytes : Nat) (chunks : List (List UInt8))
    : Except ChannelFailure (List (Json ν)) := do
  let decoder ← ReplayTargetJsonLineDecoder.new maxFrameBytes
  match decoder.readChunks chunks with
  | .error code => .error (.channelError code)
  | .ok messages => .ok messages

/-- The schema of a message. It accepts objects of finite numbers only. -/
structure MessageSchema (ν : Type) [Json.NumberText ν] where
  safeParse : Json ν → Option (Json ν)
  isObject : ∀ {input message}, safeParse input = some message → isJsonObject message
  serializable : ∀ {input message}, safeParse input = some message → message.Serializable

def encodeMessage (schema : MessageSchema ν) (input : Json ν) (maxFrameBytes : Nat)
    : Except ChannelFailure (List UInt8) := do
  assertFrameLimit maxFrameBytes
  match schema.safeParse input with
  | none => .error (.channelError .invalidWorkerMessage)
  | some message =>
    let frame := Json.encodeUtf8 message.stringify
    if frame.length > maxFrameBytes then
      .error (.channelError .frameTooLarge)
    else
      return frame ++ [0x0A]

def parseEncodedMessage (schema : MessageSchema ν) (value : List UInt8) (maxFrameBytes : Nat)
    : Except ChannelFailure (Json ν) := do
  match ← decodeStream maxFrameBytes [value] with
  | [message] =>
    match schema.safeParse message with
    | none => .error (.channelError .invalidWorkerMessage)
    | some parsed => return parsed
  | _ => .error (.channelError .invalidWorkerMessage)

section Messages

variable (ReplayWorkerToTargetMessageSchema ReplayWorkerToTargetV2MessageSchema : MessageSchema ν)

def encodeReplayWorkerMessage (input : Json ν) (maxFrameBytes : Nat)
    : Except ChannelFailure (List UInt8) :=
  encodeMessage ReplayWorkerToTargetMessageSchema input maxFrameBytes

def encodeReplayWorkerV2Message (input : Json ν) (maxFrameBytes : Nat)
    : Except ChannelFailure (List UInt8) :=
  encodeMessage ReplayWorkerToTargetV2MessageSchema input maxFrameBytes

def parseEncodedReplayWorkerMessage (value : List UInt8) (maxFrameBytes : Nat)
    : Except ChannelFailure (Json ν) :=
  parseEncodedMessage ReplayWorkerToTargetMessageSchema value maxFrameBytes

def parseEncodedReplayWorkerV2Message (value : List UInt8) (maxFrameBytes : Nat)
    : Except ChannelFailure (Json ν) :=
  parseEncodedMessage ReplayWorkerToTargetV2MessageSchema value maxFrameBytes

end Messages

variable {maxFrameBytes : Nat}
variable {result : List (Json ν) × List UInt8}

theorem parseFrames_line {frame bytes : List UInt8}
    : parseFrames maxFrameBytes frame (0x0A :: bytes) = .ok result
        ↔ ∃ message messages,
            parseFrame maxFrameBytes frame = .ok message
              ∧ parseFrames maxFrameBytes [] bytes = .ok (messages, result.2)
              ∧ message :: messages = result.1 := by
  rw [parseFrames, if_pos rfl, Checks.bind_eq_ok]
  constructor
  . rintro ⟨message, hmessage, h⟩
    rcases Checks.bind_eq_ok.mp h with ⟨⟨messages, buffer⟩, hmessages, hresult⟩
    rw [Checks.pure_eq_ok] at hresult
    rw [← hresult]
    exact ⟨message, messages, hmessage, hmessages, rfl⟩
  . rintro ⟨message, messages, hmessage, hmessages, hresult⟩
    refine ⟨message, hmessage, ?_⟩
    rw [Checks.bind_of_ok hmessages, Checks.pure_eq_ok, hresult]

theorem parseFrames_append {frame bytes others : List UInt8}
    : parseFrames maxFrameBytes frame (bytes ++ others) = .ok result
        ↔ ∃ messages buffer messages',
            parseFrames maxFrameBytes frame bytes = .ok (messages, buffer)
              ∧ parseFrames maxFrameBytes buffer others = .ok (messages', result.2)
              ∧ messages ++ messages' = result.1 := by
  induction bytes generalizing frame result with
  | nil => simp [parseFrames, Prod.ext_iff]
  | cons byte bytes ih =>
    rw [List.cons_append]
    by_cases hbyte : byte = 0x0A
    . rw [hbyte, parseFrames_line]
      constructor
      . rintro ⟨message, messages, hmessage, hothers, hresult⟩
        rcases ih.mp hothers with ⟨first, buffer, second, hfirst, hsecond, heq⟩
        refine ⟨message :: first, buffer, second, ?_, hsecond, ?_⟩
        . exact parseFrames_line.mpr ⟨message, first, hmessage, hfirst, rfl⟩
        . rw [← hresult, List.cons_append]
          exact congrArg _ heq
      . rintro ⟨messages, buffer, second, hbytes, hsecond, hresult⟩
        rcases parseFrames_line.mp hbytes with ⟨message, first, hmessage, hfirst, heq⟩
        refine ⟨message, first ++ second, hmessage, ?_, ?_⟩
        . exact ih.mpr ⟨first, buffer, second, hfirst, hsecond, rfl⟩
        . rw [← hresult, ← List.cons_append]
          exact congrArg (· ++ second) heq
    . rw [parseFrames, if_neg hbyte, parseFrames, if_neg hbyte]
      exact ih

theorem parseFrames_of_not_mem {frame bytes : List UInt8} (h : 0x0A ∉ bytes)
    : parseFrames (ν := ν) maxFrameBytes frame bytes = .ok ([], frame ++ bytes) := by
  induction bytes generalizing frame with
  | nil => rw [parseFrames, List.append_nil]
  | cons byte bytes ih =>
    rw [List.mem_cons, not_or] at h
    rw [parseFrames, if_neg (Ne.symm h.1), ih h.2]
    simp

variable {messages : List (Json ν)}

theorem parseFrames_buffer {frame bytes buffer : List UInt8}
    (h : parseFrames maxFrameBytes frame bytes = .ok (messages, buffer)) (hframe : 0x0A ∉ frame)
    : 0x0A ∉ buffer := by
  induction bytes generalizing frame messages with
  | nil =>
    cases h
    exact hframe
  | cons byte bytes ih =>
    by_cases hbyte : byte = 0x0A
    . rw [hbyte] at h
      rcases parseFrames_line.mp h with ⟨_, _, _, hbytes, _⟩
      exact ih hbytes List.not_mem_nil
    . rw [parseFrames, if_neg hbyte] at h
      apply ih h
      rw [List.mem_append, not_or, List.mem_singleton]
      exact ⟨hframe, Ne.symm hbyte⟩

theorem length_le_of_parseFrame {frame : List UInt8} {message : Json ν}
    (h : parseFrame maxFrameBytes frame = .ok message)
    : frame.length ≤ maxFrameBytes := by
  unfold parseFrame at h
  split at h
  . contradiction
  split at h
  . contradiction
  . omega

theorem length_le_of_parseFrames {frame bytes : List UInt8}
    (h : parseFrames maxFrameBytes frame bytes = .ok (messages, []))
    : frame.length ≤ maxFrameBytes := by
  induction bytes generalizing frame messages with
  | nil =>
    cases h
    exact Nat.zero_le _
  | cons byte bytes ih =>
    by_cases hbyte : byte = 0x0A
    . rw [hbyte] at h
      rcases parseFrames_line.mp h with ⟨_, _, hmessage, _⟩
      exact length_le_of_parseFrame hmessage
    . rw [parseFrames, if_neg hbyte] at h
      have hle := ih h
      rw [List.length_append] at hle
      omega

namespace ReplayTargetJsonLineDecoder

structure Open (decoder : ReplayTargetJsonLineDecoder) : Prop where
  closed : decoder.closed = false
  failed : decoder.failed = false
  buffer : 0x0A ∉ decoder.buffer

variable {decoder : ReplayTargetJsonLineDecoder}

theorem Open.parseFrames_buffer_append (h : decoder.Open) {chunk : List UInt8}
    : parseFrames decoder.maxFrameBytes [] (decoder.buffer ++ chunk) = .ok result
        ↔ parseFrames decoder.maxFrameBytes decoder.buffer chunk = .ok result := by
  rw [parseFrames_append, parseFrames_of_not_mem h.buffer]
  simp

theorem Open.accepts (h : decoder.Open) : (decoder.closed || decoder.failed) = false := by
  rw [h.closed, h.failed]
  rfl

theorem Open.feed_of_ok (h : decoder.Open) {chunk buffer : List UInt8}
    (hframes : parseFrames decoder.maxFrameBytes decoder.buffer chunk = .ok (messages, buffer))
    (hbuffer : buffer.length ≤ decoder.maxFrameBytes)
    : decoder.feed chunk = ({ decoder with buffer }, .ok messages) := by
  unfold feed
  rw [h.accepts]
  by_cases hchunk : chunk = []
  . rw [hchunk, parseFrames] at hframes
    cases hframes
    simp [hchunk]
  . rw [h.parseFrames_buffer_append.mpr hframes]
    simp only [Bool.false_eq_true, if_false, if_neg hchunk, if_neg (Nat.not_lt.mpr hbuffer)]

theorem Open.of_feed (h : decoder.Open) {chunk : List UInt8}
    (hfeed : (decoder.feed chunk).2 = .ok messages)
    : ∃ buffer,
        parseFrames decoder.maxFrameBytes decoder.buffer chunk = .ok (messages, buffer)
          ∧ (decoder.feed (ν := ν) chunk).1 = { decoder with buffer } := by
  unfold feed at hfeed ⊢
  rw [h.accepts] at hfeed ⊢
  by_cases hchunk : chunk = []
  . rw [hchunk] at hfeed ⊢
    cases hfeed
    exact ⟨decoder.buffer, rfl, rfl⟩
  . simp only [Bool.false_eq_true, if_false, if_neg hchunk] at hfeed ⊢
    split at hfeed
    . contradiction
    . next result buffer hframes =>
      split at hfeed
      . contradiction
      . next hbuffer =>
        cases hfeed
        simp only [if_neg hbuffer]
        exact ⟨buffer, h.parseFrames_buffer_append.mp hframes, rfl⟩

theorem Open.next (h : decoder.Open) {chunk buffer : List UInt8}
    (hframes : parseFrames decoder.maxFrameBytes decoder.buffer chunk = .ok (messages, buffer))
    : Open { decoder with buffer } :=
  ⟨h.closed, h.failed, parseFrames_buffer hframes h.buffer⟩

theorem readChunks_eq_ok (h : decoder.Open) {chunks : List (List UInt8)}
    : decoder.readChunks chunks = .ok messages
        ↔ parseFrames decoder.maxFrameBytes decoder.buffer chunks.flatten = .ok (messages, []) := by
  induction chunks generalizing decoder messages with
  | nil =>
    rw [readChunks, List.flatten_nil, parseFrames]
    unfold finish
    simp only [h.closed, h.failed]
    by_cases hbuffer : decoder.buffer = [] <;> simp [hbuffer, Except.map, eq_comm]
  | cons chunk chunks ih =>
    rw [readChunks, List.flatten_cons, parseFrames_append, Checks.bind_eq_ok]
    constructor
    . rintro ⟨first, hfirst, hothers⟩
      rcases Checks.bind_eq_ok.mp hothers with ⟨second, hsecond, hresult⟩
      rcases h.of_feed hfirst with ⟨buffer, hframes, hdecoder⟩
      rw [hdecoder, ih (h.next hframes)] at hsecond
      exact ⟨first, buffer, second, hframes, hsecond, Checks.pure_eq_ok.mp hresult⟩
    . rintro ⟨first, buffer, second, hframes, hsecond, hresult⟩
      have hbuffer := length_le_of_parseFrames hsecond
      have hfeed := h.feed_of_ok hframes hbuffer
      rw [← ih (h.next hframes)] at hsecond
      refine ⟨first, by rw [hfeed], ?_⟩
      rw [hfeed, Checks.bind_of_ok hsecond, Checks.pure_eq_ok]
      exact hresult

end ReplayTargetJsonLineDecoder

theorem decodeStream_eq_ok {chunks : List (List UInt8)}
    : decodeStream maxFrameBytes chunks = .ok messages
        ↔ assertFrameLimit maxFrameBytes = .ok ()
            ∧ parseFrames maxFrameBytes [] chunks.flatten = .ok (messages, []) := by
  have hopen : ReplayTargetJsonLineDecoder.Open ⟨[], false, false, maxFrameBytes⟩ :=
    ⟨rfl, rfl, List.not_mem_nil⟩
  rw [← ReplayTargetJsonLineDecoder.readChunks_eq_ok hopen]
  unfold decodeStream ReplayTargetJsonLineDecoder.new
  cases assertFrameLimit maxFrameBytes with
  | error failure => simp [bind, Except.bind]
  | ok u =>
    simp only [bind, Except.bind, pure, Except.pure, true_and]
    split <;> simp_all

theorem stringify_object (members : List (List UInt16 × Json ν))
    : ∃ text, (Json.object members).stringify = '{' :: text ++ ['}'] := by
  refine ⟨([Json.Token.comma].intercalate (Json.memberTokens members)).flatMap Json.Token.text, ?_⟩
  simp [Json.stringify, Json.tokens, Json.Token.text]

theorem parseFrame_encodeUtf8 [Json.LawfulNumberText ν] {message : Json ν}
    (hobject : isJsonObject message) (hserializable : message.Serializable)
    (hlength : (Json.encodeUtf8 message.stringify).length ≤ maxFrameBytes)
    : parseFrame maxFrameBytes (Json.encodeUtf8 message.stringify) = .ok message := by
  have hparse := Json.parse_stringify hserializable
  cases message with
  | object members =>
    rcases stringify_object members with ⟨text, htext⟩
    have hbytes : Json.encodeUtf8 (Json.object members).stringify
        = Json.encodeUtf8 ('{' :: text) ++ [0x7D] := by
      rw [htext, Json.encodeUtf8, List.flatMap_append]
      rfl
    have hdecode : decodeText (Json.encodeUtf8 (Json.object members).stringify)
        = some (Json.object members).stringify := by
      rw [decodeText, Json.decodeUtf8_encodeUtf8, htext]
      rfl
    have hend : ¬(Json.encodeUtf8 (Json.object members).stringify = []
        ∨ (Json.encodeUtf8 (Json.object members).stringify).getLast? = some 0x0D) := by
      rw [hbytes, List.getLast?_concat]
      simp
    rw [parseFrame, if_neg hend, if_neg (Nat.not_lt.mpr hlength), hdecode]
    simp only [hparse]
    rfl
  | _ => contradiction

def Sent (schema schemaV2 : MessageSchema ν) (maxFrameBytes : Nat) (message : Json ν)
    (bytes : List UInt8) : Prop :=
  ∃ input,
    (schema.safeParse input = some message
        ∧ encodeReplayWorkerMessage schema input maxFrameBytes = .ok bytes)
      ∨ (schemaV2.safeParse input = some message
          ∧ encodeReplayWorkerV2Message schemaV2 input maxFrameBytes = .ok bytes)

theorem encodeMessage_eq_ok {schema : MessageSchema ν} {input message : Json ν} {bytes : List UInt8}
    (hinput : schema.safeParse input = some message)
    (h : encodeMessage schema input maxFrameBytes = .ok bytes)
    : bytes = Json.encodeUtf8 message.stringify ++ [0x0A]
        ∧ (Json.encodeUtf8 message.stringify).length ≤ maxFrameBytes := by
  rcases Checks.bind_eq_ok.mp h with ⟨_, _, hencoded⟩
  simp only [hinput] at hencoded
  split at hencoded
  . contradiction
  . next hlength => exact ⟨(Checks.pure_eq_ok.mp hencoded).symm, Nat.not_lt.mp hlength⟩

theorem Sent.line {schema schemaV2 : MessageSchema ν} {message : Json ν} {bytes : List UInt8}
    (h : Sent schema schemaV2 maxFrameBytes message bytes)
    : isJsonObject message
        ∧ message.Serializable
        ∧ bytes = Json.encodeUtf8 message.stringify ++ [0x0A]
        ∧ (Json.encodeUtf8 message.stringify).length ≤ maxFrameBytes := by
  rcases h with ⟨input, ⟨hinput, hencoded⟩ | ⟨hinput, hencoded⟩⟩
  . exact ⟨schema.isObject hinput, schema.serializable hinput, encodeMessage_eq_ok hinput hencoded⟩
  . exact ⟨schemaV2.isObject hinput, schemaV2.serializable hinput, encodeMessage_eq_ok hinput hencoded⟩

theorem parseFrames_sent [Json.LawfulNumberText ν] {schema schemaV2 : MessageSchema ν}
    {encodings : List (List UInt8)}
    (h : List.Forall₂ (Sent schema schemaV2 maxFrameBytes) messages encodings)
    : parseFrames maxFrameBytes [] encodings.flatten = .ok (messages, []) := by
  induction h with
  | nil => rfl
  | @cons message bytes messages encodings hsent _ ih =>
    rcases hsent.line with ⟨hobject, hserializable, hbytes, hlength⟩
    have hline := Json.line_feed_not_mem hserializable
    have hframe := parseFrame_encodeUtf8 hobject hserializable hlength
    rw [List.flatten_cons, hbytes, List.append_assoc, parseFrames_append]
    refine ⟨[], Json.encodeUtf8 message.stringify, message :: messages, ?_, ?_, rfl⟩
    . rw [parseFrames_of_not_mem hline, List.nil_append]
    . rw [List.singleton_append, parseFrames_line]
      exact ⟨message, messages, hframe, ih, rfl⟩

theorem parseEncodedMessage_of_encodeMessage [Json.LawfulNumberText ν] {schema : MessageSchema ν}
    {input message : Json ν} {bytes : List UInt8} (hinput : schema.safeParse input = some message)
    (hmessage : schema.safeParse message = some message)
    (h : encodeMessage schema input maxFrameBytes = .ok bytes)
    : parseEncodedMessage schema bytes maxFrameBytes = .ok message := by
  have hsent : Sent schema schema maxFrameBytes message bytes := ⟨input, .inl ⟨hinput, h⟩⟩
  have hframes := parseFrames_sent (.cons hsent .nil)
  rcases Checks.bind_eq_ok.mp h with ⟨_, hlimit, _⟩
  have hdecoded := decodeStream_eq_ok.mpr ⟨hlimit, hframes⟩
  rw [parseEncodedMessage, Checks.bind_of_ok hdecoded]
  simp only [hmessage]
  rfl

/-- The chunks of a stream do not matter, and what was sent is what is read. -/
theorem decodeStream_chunks [Json.LawfulNumberText ν] (maxFrameBytes : Nat)
    (schema schemaV2 : MessageSchema ν)
    : (∀ chunks chunks' : List (List UInt8), chunks.flatten = chunks'.flatten →
        ∀ messages : List (Json ν),
          decodeStream maxFrameBytes chunks = .ok messages
            ↔ decodeStream maxFrameBytes chunks' = .ok messages)
        ∧ (assertFrameLimit maxFrameBytes = .ok () →
            ∀ messages encodings chunks,
              List.Forall₂ (Sent schema schemaV2 maxFrameBytes) messages encodings →
              chunks.flatten = encodings.flatten →
                decodeStream maxFrameBytes chunks = .ok messages) := by
  constructor
  . intro chunks chunks' hchunks messages
    rw [decodeStream_eq_ok, decodeStream_eq_ok, hchunks]
  . intro hlimit messages encodings chunks hsent hchunks
    rw [decodeStream_eq_ok, hchunks]
    exact ⟨hlimit, parseFrames_sent hsent⟩

def sampleUnits (text : String) : List UInt16 :=
  text.toList.flatMap Json.charUnits

def sampleKeys : List (List UInt16) :=
  ["reason", "schemaVersion", "sessionId", "type"].map sampleUnits

def sampleStop (reason schemaVersion : String) : Json Nat :=
  .object (sampleKeys.zip
    ([reason, schemaVersion, "ses_sample", "stop"].map (fun text => .string (sampleUnits text))))

def sampleReasons : List String :=
  ["cancellation_requested", "deadline_reached", "lease_lost", "worker_shutdown"]

theorem serializable_sampleStop (reason schemaVersion : String)
    : (sampleStop reason schemaVersion).Serializable := by
  apply Json.Serializable.object
  . simp only [sampleKeys, List.map_cons, List.map_nil, List.zip_cons_cons, List.zip_nil_left]
    decide
  . intro member hmember
    simp only [sampleKeys, List.map_cons, List.map_nil, List.zip_cons_cons, List.zip_nil_left,
      List.mem_cons, List.not_mem_nil, or_false] at hmember
    rcases hmember with rfl | rfl | rfl | rfl <;> apply Json.Serializable.string

def sampleSchema (schemaVersion : String) : MessageSchema Nat where
  safeParse input :=
    match input with
    | .object [(reasonKey, .string reason), (versionKey, .string version),
        (sessionKey, .string session), (typeKey, .string type)] =>
      if [reasonKey, versionKey, sessionKey, typeKey] = sampleKeys
          ∧ [version, session, type] = [schemaVersion, "ses_sample", "stop"].map sampleUnits then
        (sampleReasons.find? (sampleUnits · = reason)).map (sampleStop · schemaVersion)
      else
        none
    | _ => none
  isObject h := by
    split at h
    . split at h
      . rcases Option.map_eq_some_iff.mp h with ⟨reason, _, rfl⟩
        rfl
      . contradiction
    . contradiction
  serializable h := by
    split at h
    . split at h
      . rcases Option.map_eq_some_iff.mp h with ⟨reason, _, rfl⟩
        apply serializable_sampleStop
      . contradiction
    . contradiction

def sampleBytes (reason schemaVersion : String) : List UInt8 :=
  Json.encodeUtf8 (sampleStop reason schemaVersion).stringify ++ [0x0A]

theorem sent_sampleStop
    : Sent (sampleSchema "0.1") (sampleSchema "0.2") 256 (sampleStop "lease_lost" "0.1")
        (sampleBytes "lease_lost" "0.1") :=
  ⟨sampleStop "lease_lost" "0.1", .inl ⟨rfl, rfl⟩⟩

theorem sent_sampleStopV2
    : Sent (sampleSchema "0.1") (sampleSchema "0.2") 256 (sampleStop "worker_shutdown" "0.2")
        (sampleBytes "worker_shutdown" "0.2") :=
  ⟨sampleStop "worker_shutdown" "0.2", .inr ⟨rfl, rfl⟩⟩

theorem decodeStream_chunks_sampleStop
    : decodeStream 256
        [(sampleBytes "lease_lost" "0.1").take 7,
          (sampleBytes "lease_lost" "0.1").drop 7 ++ sampleBytes "worker_shutdown" "0.2"]
        = .ok [sampleStop "lease_lost" "0.1", sampleStop "worker_shutdown" "0.2"] := by
  have h := (decodeStream_chunks 256 (sampleSchema "0.1") (sampleSchema "0.2")).2
  apply h (by rfl) _ [sampleBytes "lease_lost" "0.1", sampleBytes "worker_shutdown" "0.2"]
  . exact .cons sent_sampleStop (.cons sent_sampleStopV2 .nil)
  . simp only [List.flatten_cons, List.flatten_nil, List.append_nil]
    rw [← List.append_assoc, List.take_append_drop]

end Worker
end ProofStack
