import ProofStack.Policy.SchedulerTime
import ProofStack.Policy.RepositoryRuns
import ProofStack.Policy.RepositoryHistory
import ProofStack.Release.MatchReviewerGroupsLemmas
import ProofStack.Release.CensusResolution
import ProofStack.Release.DispositionLemmas
import ProofStack.Replay.JobSnapshots
import ProofStack.Replay.JobResubmission
import ProofStack.Artifacts.Lifecycle
import ProofStack.Worker.JsonLineChannel
import ProofStack.Worker.BoundedOutput
import ProofStack.Contracts.JsonComplexity
import ProofStack.Worker.DispatchLoopSettlement
import ProofStack.Acquisition.ReadsRuns
import ProofStack.Evidence.RepositoryRuns
import ProofStack.Sdk.DefinitionEncodingLemmas
import ProofStack.Otlp.NonInterference
import ProofStack.Replay.DefinitionEncodingInjective
import ProofStack.Replay.BoundaryReplayRuns
import ProofStack.Replay.TargetProcessSessionRuns
import ProofStack.Evaluation.ModelAssuranceLifetime
import ProofStack.Datasets.VersionContract
import ProofStack.Evaluation.Applicability
import ProofStack.Evaluation.VerdictTransitionsContract
import ProofStack.Worker.AttemptUsageContract
import ProofStack.Evaluation.HumanReviewQuorum
import ProofStack.Replay.RetryContract
import ProofStack.Release.ExceptionControls
import ProofStack.Otlp.IntegerContract
import ProofStack.Evaluation.CriterionStatusHistory
import ProofStack.Evaluation.OracleOutput
import ProofStack.Evaluation.BoundedJson
import ProofStack.Policy.RuleDependencyWalk
import ProofStack.Outbox.ConsumerMessages
import ProofStack.Policy.ExactArithmetic
import ProofStack.Outbox.Tenants
import ProofStack.Outbox.ProjectionCursors
