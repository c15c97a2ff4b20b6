import ProofStack.Checks
import ProofStack.Contracts.Evaluation.DefinitionBytes
import ProofStack.Contracts.Replay.Definition
import ProofStack.Json.Size

/-!
This module contains the results of the exact oracle and of the schema oracle.
-/

namespace ProofStack
namespace Evaluation

open Host Json

/-- The integers that the host holds exactly are numbers, and they are written in decimal. -/
class HostInteger (ν : Type) [NumberText ν] where
  ofNat : Nat → ν
  finite_ofNat : ∀ n ≤ maxSafeInteger, NumberText.finite (ofNat n) = true
  text_ofNat : ∀ n ≤ maxSafeInteger, NumberText.text (ofNat n) = Nat.toDigits 10 n

section Loop

variable {ν : Type} [NumberText ν]

end Loop

structure ExactOracleUsage where
  inputBytes : Nat
  minimumWorkingSetBytes : Nat
  outputBytes : Nat
  deriving DecidableEq

structure ExactOracleResultWithoutUsage where
  actualSha256 : String
  actualSizeBytes : Nat
  expectedArtifact : ArtifactContentReference
  expectedSha256 : String
  expectedSizeBytes : Nat
  implementationSha256 : String
  matched : Bool
  definitionSha256 : String
  oracleId : String
  oracleVersionId : String
  deriving DecidableEq

structure ExactOracleExecutionResult extends ExactOracleResultWithoutUsage where
  usage : ExactOracleUsage
  deriving DecidableEq

section Json

variable {ν : Type} [NumberText ν] [HostInteger ν]

def natJson (value : Nat) : Json ν :=
  .number (HostInteger.ofNat value)

def artifactJson (value : ArtifactContentReference) : Json ν :=
  namedObject ([("artifactId", stringJson value.artifactId),
    ("classification", stringJson value.classification.text),
    ("mediaType", stringJson value.mediaType)]
    ++ optionalMember "redactedAt" (value.redactedAt.map (fun stage => stringJson stage.text))
    ++ [("sha256", stringJson value.sha256), ("sizeBytes", natJson value.sizeBytes)])

def resultJson (members usage : List (String × Json ν)) (outputBytes : Nat) : Json ν :=
  namedObject (members ++ [("usage", namedObject (usage ++ [("outputBytes", natJson outputBytes)]))])

namespace ExactOracleResultWithoutUsage

def members (result : ExactOracleResultWithoutUsage) : List (String × Json ν) :=
  [("actual", namedObject [("sha256", stringJson result.actualSha256),
      ("sizeBytes", natJson result.actualSizeBytes)]),
    ("adapterId", stringJson "proofstack.exact-bytes.v1"),
    ("expected", namedObject [("artifact", artifactJson result.expectedArtifact),
      ("sha256", stringJson result.expectedSha256), ("sizeBytes", natJson result.expectedSizeBytes)]),
    ("implementationSha256", stringJson result.implementationSha256),
    ("matched", .bool result.matched),
    ("oracle", namedObject [("definitionSha256", stringJson result.definitionSha256),
      ("oracleId", stringJson result.oracleId), ("oracleVersionId", stringJson result.oracleVersionId)]),
    ("verdict", stringJson (if result.matched then "pass" else "fail"))]

end ExactOracleResultWithoutUsage

def exactUsageMembers (inputBytes minimumWorkingSetBytes : Nat) : List (String × Json ν) :=
  [("inputBytes", natJson inputBytes), ("minimumWorkingSetBytes", natJson minimumWorkingSetBytes)]

def ExactOracleExecutionResult.json (result : ExactOracleExecutionResult) : Json ν :=
  resultJson result.members (exactUsageMembers result.usage.inputBytes result.usage.minimumWorkingSetBytes)
    result.usage.outputBytes

end Json

section Exact

variable (ν : Type) [NumberText ν] [HostInteger ν]

end Exact

structure SchemaOracleViolation (ν : Type) where
  instancePath : Text
  keyword : Text
  message : Text
  params : Json ν
  schemaPath : Text
  params_once : KeysOnce params

inductive SchemaOracleJudgement (ν : Type) where
  | malformed (characterOffset : Nat) (message : Text)
  | validated (valid : Bool) (violationCount : Nat) (violations : List (SchemaOracleViolation ν))
    (violationsTruncated : Bool)

structure SchemaOracleUsageWithoutOutput where
  documentNodes : Option Nat
  inputBytes : Nat
  minimumWorkingSetBytes : Nat
  schemaNodes : Nat
  deriving DecidableEq

structure SchemaOracleResultWithoutOutput (ν : Type) where
  documentSha256 : String
  documentSizeBytes : Nat
  implementationSha256 : String
  definitionSha256 : String
  oracleId : String
  oracleVersionId : String
  schemaArtifact : ArtifactContentReference
  schemaSha256 : String
  schemaSizeBytes : Nat
  judgement : SchemaOracleJudgement ν
  usage : SchemaOracleUsageWithoutOutput

structure SchemaOracleExecutionResult (ν : Type) extends SchemaOracleResultWithoutOutput ν where
  outputBytes : Nat

section Schema

variable {ν : Type} [NumberText ν] [HostInteger ν]

def SchemaOracleViolation.json (violation : SchemaOracleViolation ν) : Json ν :=
  namedObject [("instancePath", .string violation.instancePath), ("keyword", .string violation.keyword),
    ("message", .string violation.message), ("params", violation.params), ("schemaPath", .string violation.schemaPath)]

def SchemaOracleJudgement.members : SchemaOracleJudgement ν → List (String × Json ν)
  | .malformed characterOffset message =>
    [("error", namedObject [("characterOffset", natJson characterOffset), ("code", stringJson "document_malformed"),
        ("message", .string message)]),
      ("valid", .null), ("verdict", stringJson "error"), ("violationCount", natJson 0), ("violations", .array []),
      ("violationsTruncated", .bool false)]
  | .validated valid violationCount violations violationsTruncated =>
    [("valid", .bool valid), ("verdict", stringJson (if valid then "pass" else "fail")),
      ("violationCount", natJson violationCount),
      ("violations", .array (violations.map SchemaOracleViolation.json)),
      ("violationsTruncated", .bool violationsTruncated)]

def SchemaOracleResultWithoutOutput.members (result : SchemaOracleResultWithoutOutput ν) : List (String × Json ν) :=
  [("adapterId", stringJson "proofstack.json-schema-2020-12.v1"),
    ("document", namedObject [("sha256", stringJson result.documentSha256),
      ("sizeBytes", natJson result.documentSizeBytes)]),
    ("implementationSha256", stringJson result.implementationSha256),
    ("oracle", namedObject [("definitionSha256", stringJson result.definitionSha256),
      ("oracleId", stringJson result.oracleId), ("oracleVersionId", stringJson result.oracleVersionId)]),
    ("schema", namedObject [("artifact", artifactJson result.schemaArtifact),
      ("sha256", stringJson result.schemaSha256), ("sizeBytes", natJson result.schemaSizeBytes)])]
    ++ result.judgement.members

def SchemaOracleUsageWithoutOutput.members (usage : SchemaOracleUsageWithoutOutput) : List (String × Json ν) :=
  [("documentNodes", usage.documentNodes.elim .null natJson), ("inputBytes", natJson usage.inputBytes),
    ("minimumWorkingSetBytes", natJson usage.minimumWorkingSetBytes), ("schemaNodes", natJson usage.schemaNodes)]

def SchemaOracleExecutionResult.json (result : SchemaOracleExecutionResult ν) : Json ν :=
  resultJson result.members result.usage.members result.outputBytes

end Schema

section Termination

variable {measure : Nat → Except OracleFailure Nat} {base : Nat}

end Termination

section Length

variable {ν : Type} [NumberText ν]

variable [HostInteger ν]

variable [PrintedNumber ν]

end Length

section Results

variable {ν : Type} [NumberText ν] [HostInteger ν]

end Results

section Measured

variable {ν : Type} [NumberText ν] [HostInteger ν] [PrintedNumber ν]

end Measured

namespace OracleSample

instance : PrintedNumber Nat where
  same left right := left = right
  text_eq_text {left right} _ _ := by
    refine ⟨fun h => ?_, fun h => congrArg _ h⟩
    rw [← LawfulNumberText.read_text left rfl, h, LawfulNumberText.read_text right rfl]
  isNumber_text {value} h := LawfulNumberText.isNumber_text value h
  finite_read _ := rfl
  same_read {value} h := LawfulNumberText.read_text value h

instance : HostInteger Nat where
  ofNat := id
  finite_ofNat _ _ := rfl
  text_ofNat _ _ := rfl

def expectedArtifact : ArtifactContentReference where
  artifactId := "artifact_expected"
  classification := .internal
  mediaType := "text/plain"
  redactedAt := none
  sha256 := "2c26b46b68ffc68ff99b453c1d30413413422d706483bfa0f98a5e886266e7ae"
  sizeBytes := 3

def result : ExactOracleResultWithoutUsage where
  actualSha256 := expectedArtifact.sha256
  actualSizeBytes := 3
  expectedArtifact := expectedArtifact
  expectedSha256 := expectedArtifact.sha256
  expectedSizeBytes := 3
  implementationSha256 := "fcde2b2edba56bf408601fb721fe9b5c338d10ee429ea04fae5511b68fbf8fb9"
  matched := true
  definitionSha256 := "baa5a0964d3320fbc0c6a922140453c8513ea24ab8fd0577034804a967248096"
  oracleId := "oracle_exact"
  oracleVersionId := "oracle_version_1"

end OracleSample

end Evaluation
end ProofStack
