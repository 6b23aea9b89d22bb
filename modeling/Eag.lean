import Eag.Approval.ManagerRuns
import Eag.Autonomous.LoopOutcome
import Eag.ChangeSets.Recorder
import Eag.Chief.RetryAllowance
import Eag.CommandExecution.Spelling
import Eag.Context.Accounting
import Eag.Events.Delivery
import Eag.Execution.PlanExecution
import Eag.ExecutionGraphs.Construction
import Eag.ExecutionGraphs.DependencySafety
import Eag.Gateway.DecisionSchema
import Eag.Gateway.TranslatedProposal
import Eag.GovernedApproval.Binding
import Eag.GovernedArtifactReadiness.Readiness
import Eag.GovernedAttestationPolicy.Assessor
import Eag.GovernedAudit.Store
import Eag.GovernedConstructionWorkOrder.Assessor
import Eag.GovernedExecution.Reconstruction
import Eag.GovernedExecution.VerificationTruth
import Eag.GovernedFileConstruction.PrefixTruth
import Eag.GovernedPresentation.SharedStore
import Eag.GovernedRuntime.Safety
import Eag.GovernedSession.ActivationIdentity
import Eag.GovernedSession.TornClaims
import Eag.GovernedTransitionControl.ExpiryAgreement
import Eag.GovernedWorkspace.Custody
import Eag.Graph.Ownership
import Eag.Graph.Search
import Eag.Mutation.Confinement
import Eag.Mutation.ReceiptTruth
import Eag.Mutation.Rollback
import Eag.Planner.ApprovalEngine
import Eag.Plugins.Health
import Eag.Plugins.WorkspaceSearch
import Eag.ProviderExecution.Fallbacks
import Eag.Safety.Rollback
import Eag.Scheduler.Completion
import Eag.Source.ReferenceCompleteness
import Eag.Transformations.Batch
import Eag.Transformations.LineApplier
import Eag.Transformations.SchedulerRuns
import Eag.Transformations.Transaction
import Eag.Vcs.GitHistory
import Eag.Vcs.GitStatus
import Eag.Vcs.RepositoryRuntime
import Eag.Workspace.Modes
