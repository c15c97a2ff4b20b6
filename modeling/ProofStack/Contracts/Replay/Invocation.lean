import ProofStack.Contracts.Replay.Plan

/-!
This module contains the definition of the invocation that replays a recorded boundary.
-/

namespace ProofStack
namespace Replay
namespace Definition

def isLetterAscii (c : Char) : Bool :=
  isLowerAscii c || ('A' ≤ c && c ≤ 'Z')

def isAlphanumericAscii (c : Char) : Bool :=
  isLetterAscii c || isDigitAscii c

def LocaleSchema (text : String) : Bool :=
  match text.toList.splitOn '-' with
  | [] => false
  | language :: subtags =>
    language.all isLetterAscii && 2 ≤ language.length && language.length ≤ 3
      && subtags.all (fun subtag =>
        subtag.all isAlphanumericAscii && 2 ≤ subtag.length && subtag.length ≤ 8)
      && text.toList.length ≤ 64

def isTimeZonePart (c : Char) : Bool :=
  isAlphanumericAscii c || ['.', '_', '+', '-'].contains c

def TimeZoneSchema (text : String) : Bool :=
  text = "UTC"
    || match text.toList.splitOn '/' with
      | [] | [_] => false
      | area :: locations =>
        area ≠ [] && area.all (fun c => isLetterAscii c || c == '_')
          && locations.all (fun location => location ≠ [] && location.all isTimeZonePart)
          && 3 ≤ text.toList.length && text.toList.length ≤ 128

def matchesTemplate (template text : List Char) : Bool :=
  text.length == template.length
    && (template.zip text).all (fun pair =>
      if pair.1 == '9' then isDigitAscii pair.2 else pair.1 == pair.2)

def digitsAt (text : List Char) (position count : Nat) : Nat :=
  ((text.drop position).take count).foldl (fun value c => value * 10 + (c.toNat - '0'.toNat)) 0

def daysOfMonth (year month : Nat) : Nat :=
  if month = 2 then
    if year % 4 = 0 ∧ (year % 100 ≠ 0 ∨ year % 400 = 0) then 29 else 28
  else if [4, 6, 9, 11].contains month then 30
  else 31

def UtcMillisecondTimestampSchema (text : String) : Bool :=
  matchesTemplate "9999-99-99T99:99:99.999Z".toList text.toList
    && 1 ≤ digitsAt text.toList 0 4
    && 1 ≤ digitsAt text.toList 5 2 && digitsAt text.toList 5 2 ≤ 12
    && 1 ≤ digitsAt text.toList 8 2
    && digitsAt text.toList 8 2 ≤ daysOfMonth (digitsAt text.toList 0 4) (digitsAt text.toList 5 2)
    && digitsAt text.toList 11 2 ≤ 23
    && digitsAt text.toList 14 2 ≤ 59
    && digitsAt text.toList 17 2 ≤ 59

structure RecordedFixtureReplayReference where
  definitionSha256 : String
  fixtureId : String
  fixtureVersionId : String
  deriving DecidableEq

def RecordedFixtureReplayReference.Accepted (value : RecordedFixtureReplayReference) : Prop :=
  Sha256Schema value.definitionSha256
    ∧ OpaqueIdSchema value.fixtureId
    ∧ OpaqueIdSchema value.fixtureVersionId

instance (value : RecordedFixtureReplayReference) : Decidable value.Accepted :=
  inferInstanceAs (Decidable (_ ∧ _ ∧ _))

structure ReplayTargetAdapterReference where
  name : String
  version : String
  deriving DecidableEq

def ReplayTargetAdapterReference.Accepted (value : ReplayTargetAdapterReference) : Prop :=
  ProtocolTokenSchema value.name ∧ ProtocolVersionSchema value.version

instance (value : ReplayTargetAdapterReference) : Decidable value.Accepted :=
  inferInstanceAs (Decidable (_ ∧ _))

structure FixedClock where
  instant : String
  mode : String
  deriving DecidableEq

structure SeededRandom where
  algorithm : String
  mode : String
  seedHex : String
  deriving DecidableEq

structure RecordedBoundaryReplayRuntimeProfile where
  boundaryMode : String
  clock : FixedClock
  isolationMode : String
  locale : String
  networkPolicy : String
  random : SeededRandom
  timeZone : String
  deriving DecidableEq

namespace RecordedBoundaryReplayRuntimeProfile

@[mk_iff]
structure Accepted (value : RecordedBoundaryReplayRuntimeProfile) : Prop where
  boundaryMode : value.boundaryMode = "recorded_stub"
  instant : UtcMillisecondTimestampSchema value.clock.instant
  clockMode : value.clock.mode = "fixed"
  isolationMode : value.isolationMode = "cooperative_in_process"
  locale : LocaleSchema value.locale
  networkPolicy : value.networkPolicy = "deny_fallback"
  algorithm : value.random.algorithm = "hmac_sha256_counter_v1"
  randomMode : value.random.mode = "seeded"
  seedHex : Sha256Schema value.random.seedHex
  timeZone : TimeZoneSchema value.timeZone

instance (value : RecordedBoundaryReplayRuntimeProfile) : Decidable value.Accepted :=
  decidable_of_iff _ (accepted_iff value).symm

end RecordedBoundaryReplayRuntimeProfile

structure RecordedBoundaryReplayInvocationDefinition where
  fixture : RecordedFixtureReplayReference
  invocationId : String
  runtime : RecordedBoundaryReplayRuntimeProfile
  schemaVersion : String
  targetAdapter : ReplayTargetAdapterReference
  deriving DecidableEq

namespace RecordedBoundaryReplayInvocationDefinition

@[mk_iff]
structure Accepted (value : RecordedBoundaryReplayInvocationDefinition) : Prop where
  fixture : value.fixture.Accepted
  invocationId : OpaqueIdSchema value.invocationId
  runtime : value.runtime.Accepted
  schemaVersion : value.schemaVersion = "0.1"
  targetAdapter : value.targetAdapter.Accepted

instance (value : RecordedBoundaryReplayInvocationDefinition) : Decidable value.Accepted :=
  decidable_of_iff _ (accepted_iff value).symm

end RecordedBoundaryReplayInvocationDefinition

end Definition
end Replay
end ProofStack
