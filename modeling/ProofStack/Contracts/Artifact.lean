import Mathlib.Tactic.MkIffOfInductiveProp
import ProofStack.Contracts.Primitives

/-!
This module contains the reference to the content of an artifact.
-/

namespace ProofStack

def maxArtifactContentBytes : Nat := 16 * 1024 * 1024

def isMediaTypeStart (c : Char) : Bool :=
  isLowerAscii c || isDigitAscii c

def isMediaTypePart (c : Char) : Bool :=
  isMediaTypeStart c || ['!', '#', '$', '&', '^', '_', '.', '+', '-'].contains c

def mediaTypePart (part : List Char) : Bool :=
  match part with
  | [] => false
  | c :: cs => isMediaTypeStart c && cs.all isMediaTypePart && cs.length ≤ 126

def ArtifactMediaTypeSchema (mediaType : String) : Bool :=
  mediaTypePart (mediaType.toList.takeWhile (· != '/'))
    && mediaTypePart ((mediaType.toList.dropWhile (· != '/')).drop 1)
    && mediaType.toList.length ≤ 255

inductive DataClassification where
  | metadata
  | internal
  | confidential
  | restricted
  deriving DecidableEq

inductive RedactionStage where
  | source
  | ingest
  | retention
  deriving DecidableEq

structure ArtifactContentReference where
  artifactId : String
  classification : DataClassification
  mediaType : String
  redactedAt : Option RedactionStage
  sha256 : String
  sizeBytes : Nat
  deriving DecidableEq

namespace ArtifactContentReference

@[mk_iff]
structure Accepted (value : ArtifactContentReference) : Prop where
  artifactId : OpaqueIdSchema value.artifactId
  mediaType : ArtifactMediaTypeSchema value.mediaType
  sha256 : Sha256Schema value.sha256
  sizeBytes : boundedInteger 1 maxArtifactContentBytes value.sizeBytes

instance (value : ArtifactContentReference) : Decidable value.Accepted :=
  decidable_of_iff _ (accepted_iff value).symm

end ArtifactContentReference

end ProofStack
