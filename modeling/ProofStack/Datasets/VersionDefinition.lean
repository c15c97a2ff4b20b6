import ProofStack.Datasets.DefinitionEncoding
import ProofStack.Store.Lineage

/-!
This module contains the validation of a version against the digest of its definition, and the intent that
is published with it.
-/

namespace ProofStack
namespace Datasets

open Checks Encoding Store

inductive RegressionVersionPublicationKind where
  | dataset
  | fixture
  | interactionFixture
  | interactionRevocation
  deriving DecidableEq

inductive RegressionError where
  | zod
  | encoding (error : Replay.Encoder.EncodingError)
  | invalidRegressionVersionInput (message : String)
  | regressionVersionConflict
  | regressionVersionNotFound
  | regressionVersionLineage
  | regressionArtifactBinding
  | contentRevocationConflict
  | regressionRepositoryContract (message : String)
  | injected (kind : RegressionVersionPublicationKind)
  deriving DecidableEq

structure Platform where
  isNFC : String → Bool
  sha256 : Bytes → String

inductive RegressionVersionPublishedPayload where
  | fixture (definitionSha256 environmentId fixtureId fixtureVersionId projectId : String)
  | dataset (datasetId datasetVersionId definitionSha256 environmentId projectId : String)
  deriving DecidableEq

structure RegressionVersionPublishedOutboxIntent where
  aggregateId : String
  aggregateType : String
  createdAt : PolicyEvaluationTime
  eventType : String
  payload : RegressionVersionPublishedPayload
  schemaVersion : String
  tenantId : String
  deriving DecidableEq

def regressionPublicationOutboxSchemaVersion : String := "0.1"
def regressionFixtureVersionAggregateType : String := "regression.fixture-version"
def regressionDatasetVersionAggregateType : String := "regression.dataset-version"
def regressionFixtureVersionPublishedEventType : String := "regression.fixture-version.published"
def regressionDatasetVersionPublishedEventType : String := "regression.dataset-version.published"

structure ValidatedVersion (V D : Type) where
  definition : D
  version : V

structure VersionFamily (V D : Type) where
  Accepted : (String → Bool) → V → Prop
  decidableAccepted : ∀ isNFC version, Decidable (Accepted isNFC version)
  DefinitionAccepted : (String → Bool) → D → Prop
  decidableDefinitionAccepted : ∀ isNFC definition, Decidable (DefinitionAccepted isNFC definition)
  definition : V → D
  encode : (String → Bool) → D → Encoded
  lineage : Lineage V String EvidenceScope String
  createdAt : V → PolicyEvaluationTime
  aggregateType : String
  eventType : String
  payload : V → RegressionVersionPublishedPayload
  invalid : String
  invalidDefinition : String
  digestMismatch : String
  violatesContract : String

namespace VersionFamily

variable {V D : Type} (family : VersionFamily V D)

instance (isNFC : String → Bool) (version : V) : Decidable (family.Accepted isNFC version) :=
  family.decidableAccepted isNFC version

instance (isNFC : String → Bool) (definition : D) : Decidable (family.DefinitionAccepted isNFC definition) :=
  family.decidableDefinitionAccepted isNFC definition

variable (platform : Platform)

def encoded (definition : D) : Except RegressionError Bytes :=
  (family.encode platform.isNFC definition).mapError .encoding

def validateAndProject (input : V) : Except RegressionError (ValidatedVersion V D) := do
  let version ← parseWith (family.Accepted platform.isNFC input)
    (.invalidRegressionVersionInput family.invalid) input
  let definition ← parseWith (family.DefinitionAccepted platform.isNFC (family.definition version))
    .zod (family.definition version)
  let bytes ← family.encoded platform definition
  failIf (platform.sha256 bytes ≠ family.lineage.digest version)
    (.invalidRegressionVersionInput family.digestMismatch)
  return { definition, version }

def validateStored (input : V) : Except RegressionError (ValidatedVersion V D) :=
  (family.validateAndProject platform input).mapError fun _ =>
    .regressionRepositoryContract family.violatesContract

def areDefinitionsEqual (left right : D) : Except RegressionError Bool := do
  let left ← parseWith (family.DefinitionAccepted platform.isNFC left)
    (.invalidRegressionVersionInput family.invalidDefinition) left
  let leftBytes ← family.encoded platform left
  let right ← parseWith (family.DefinitionAccepted platform.isNFC right)
    (.invalidRegressionVersionInput family.invalidDefinition) right
  let rightBytes ← family.encoded platform right
  return leftBytes == rightBytes

def intent (version : V) : RegressionVersionPublishedOutboxIntent where
  aggregateId := family.lineage.key version
  aggregateType := family.aggregateType
  createdAt := family.createdAt version
  eventType := family.eventType
  payload := family.payload version
  schemaVersion := regressionPublicationOutboxSchemaVersion
  tenantId := (family.lineage.scope version).tenantId

def buildPublishedOutboxIntent (input : V) : Except RegressionError RegressionVersionPublishedOutboxIntent := do
  let validated ← family.validateAndProject platform input
  return family.intent validated.version

structure Valid (version : V) : Prop where
  accepted : family.Accepted platform.isNFC version
  definition : family.DefinitionAccepted platform.isNFC (family.definition version)
  digest : ∃ bytes, family.encoded platform (family.definition version) = .ok bytes
    ∧ platform.sha256 bytes = family.lineage.digest version

def validated (version : V) : ValidatedVersion V D where
  definition := family.definition version
  version := version

variable {family platform} {version : V} {result : ValidatedVersion V D}

theorem validateAndProject_eq_ok
    : family.validateAndProject platform version = .ok result
        ↔ family.Valid platform version ∧ result = family.validated version := by
  unfold validateAndProject
  simp only [bind_eq_ok, parseWith_eq_ok, failIf_eq_ok, pure_eq_ok, not_not]
  constructor
  . rintro ⟨_, ⟨haccepted, rfl⟩, _, ⟨hdefinition, rfl⟩, bytes, hbytes, _, hdigest, rfl⟩
    exact ⟨⟨haccepted, hdefinition, bytes, hbytes, hdigest⟩, rfl⟩
  . rintro ⟨⟨haccepted, hdefinition, bytes, hbytes, hdigest⟩, rfl⟩
    exact ⟨version, ⟨haccepted, rfl⟩, _, ⟨hdefinition, rfl⟩, bytes, hbytes, (), hdigest, rfl⟩

theorem Valid.validateAndProject (h : family.Valid platform version)
    : family.validateAndProject platform version = .ok (family.validated version) :=
  validateAndProject_eq_ok.mpr ⟨h, rfl⟩

theorem Valid.validateStored (h : family.Valid platform version)
    : family.validateStored platform version = .ok (family.validated version) := by
  unfold VersionFamily.validateStored
  rw [h.validateAndProject]
  rfl

theorem Valid.buildPublishedOutboxIntent (h : family.Valid platform version)
    : family.buildPublishedOutboxIntent platform version = .ok (family.intent version) := by
  unfold VersionFamily.buildPublishedOutboxIntent
  rw [bind_of_ok h.validateAndProject]
  rfl

theorem Valid.areDefinitionsEqual (h : family.Valid platform version) {other : V}
    (hother : family.Valid platform other)
    : family.areDefinitionsEqual platform (family.definition version) (family.definition other)
        = .ok (decide (family.encoded platform (family.definition version)
            = family.encoded platform (family.definition other))) := by
  rcases h.digest with ⟨bytes, hbytes, _⟩
  rcases hother.digest with ⟨bytes', hbytes', _⟩
  unfold VersionFamily.areDefinitionsEqual
  rw [bind_of_ok (parseWith_eq_ok.mpr ⟨h.definition, rfl⟩), bind_of_ok hbytes,
    bind_of_ok (parseWith_eq_ok.mpr ⟨hother.definition, rfl⟩), bind_of_ok hbytes', hbytes, hbytes']
  simp only [Except.ok.injEq]
  exact congrArg Except.ok (beq_eq_decide bytes bytes')

end VersionFamily

def fixtureFamily : VersionFamily RegressionFixtureVersion RegressionFixtureVersionDefinition where
  Accepted := RegressionFixtureVersion.Accepted
  decidableAccepted _ _ := inferInstance
  DefinitionAccepted := RegressionFixtureVersionDefinition.Accepted
  decidableDefinitionAccepted _ _ := inferInstance
  definition := RegressionFixtureVersion.definition
  encode := encodeRegressionFixtureVersionDefinition
  lineage := {
    key := RegressionFixtureVersion.fixtureVersionId
    resource := RegressionFixtureVersion.fixtureId
    scope := RegressionFixtureVersion.scope
    digest := RegressionFixtureVersion.definitionSha256
    predecessor := fun version =>
      version.predecessor.map (fun predecessor =>
        (predecessor.fixtureVersionId, predecessor.definitionSha256))
  }
  createdAt := RegressionFixtureVersion.createdAt
  aggregateType := regressionFixtureVersionAggregateType
  eventType := regressionFixtureVersionPublishedEventType
  payload version := .fixture version.definitionSha256 version.scope.environmentId version.fixtureId
    version.fixtureVersionId version.scope.projectId
  invalid := "Stored regression fixture version is invalid"
  invalidDefinition := "Regression fixture version definition is invalid"
  digestMismatch := "Regression fixture version digest does not match its canonical definition bytes"
  violatesContract := "Stored regression fixture version violates the repository contract"

def recordedFamily
    : VersionFamily RecordedInteractionFixtureVersion RecordedInteractionFixtureVersionDefinition where
  Accepted := RecordedInteractionFixtureVersion.Accepted
  decidableAccepted _ _ := inferInstance
  DefinitionAccepted := RecordedInteractionFixtureVersionDefinition.Accepted
  decidableDefinitionAccepted _ _ := inferInstance
  definition := RecordedInteractionFixtureVersion.definition
  encode := encodeRecordedInteractionFixtureVersionDefinition
  lineage := {
    key := RecordedInteractionFixtureVersion.fixtureVersionId
    resource := RecordedInteractionFixtureVersion.fixtureId
    scope := RecordedInteractionFixtureVersion.scope
    digest := RecordedInteractionFixtureVersion.definitionSha256
    predecessor := fun version =>
      some (version.predecessor.fixtureVersionId, version.predecessor.definitionSha256)
  }
  createdAt := RecordedInteractionFixtureVersion.createdAt
  aggregateType := regressionFixtureVersionAggregateType
  eventType := regressionFixtureVersionPublishedEventType
  payload version := .fixture version.definitionSha256 version.scope.environmentId version.fixtureId
    version.fixtureVersionId version.scope.projectId
  invalid := "Stored recorded interaction fixture version is invalid"
  invalidDefinition := "Recorded interaction fixture version definition is invalid"
  digestMismatch :=
    "Recorded interaction fixture version digest does not match its canonical definition bytes"
  violatesContract := "Stored recorded interaction fixture version violates the repository contract"

def datasetFamily : VersionFamily RegressionDatasetVersion RegressionDatasetVersionDefinition where
  Accepted := RegressionDatasetVersion.Accepted
  decidableAccepted _ _ := inferInstance
  DefinitionAccepted := RegressionDatasetVersionDefinition.Accepted
  decidableDefinitionAccepted _ _ := inferInstance
  definition := RegressionDatasetVersion.definition
  encode := encodeRegressionDatasetVersionDefinition
  lineage := {
    key := RegressionDatasetVersion.datasetVersionId
    resource := RegressionDatasetVersion.datasetId
    scope := RegressionDatasetVersion.scope
    digest := RegressionDatasetVersion.definitionSha256
    predecessor := fun version =>
      version.predecessor.map (fun predecessor =>
        (predecessor.datasetVersionId, predecessor.definitionSha256))
  }
  createdAt := RegressionDatasetVersion.createdAt
  aggregateType := regressionDatasetVersionAggregateType
  eventType := regressionDatasetVersionPublishedEventType
  payload version := .dataset version.datasetId version.datasetVersionId version.definitionSha256
    version.scope.environmentId version.scope.projectId
  invalid := "Stored regression dataset version is invalid"
  invalidDefinition := "Regression dataset version definition is invalid"
  digestMismatch := "Regression dataset version digest does not match its canonical definition bytes"
  violatesContract := "Stored regression dataset version violates the repository contract"

section Members

variable (platform : Platform)

def validateAndProjectRegressionFixtureVersion :=
  fixtureFamily.validateAndProject platform

def validateAndProjectRecordedInteractionFixtureVersion :=
  recordedFamily.validateAndProject platform

def validateAndProjectRegressionDatasetVersion :=
  datasetFamily.validateAndProject platform

def areRegressionFixtureVersionDefinitionsEqual :=
  fixtureFamily.areDefinitionsEqual platform

def areRecordedInteractionFixtureVersionDefinitionsEqual :=
  recordedFamily.areDefinitionsEqual platform

def areRegressionDatasetVersionDefinitionsEqual :=
  datasetFamily.areDefinitionsEqual platform

def buildRegressionFixtureVersionPublishedOutboxIntent :=
  fixtureFamily.buildPublishedOutboxIntent platform

def buildRecordedInteractionFixtureVersionPublishedOutboxIntent :=
  recordedFamily.buildPublishedOutboxIntent platform

def buildRegressionDatasetVersionPublishedOutboxIntent :=
  datasetFamily.buildPublishedOutboxIntent platform

end Members

end Datasets
end ProofStack
