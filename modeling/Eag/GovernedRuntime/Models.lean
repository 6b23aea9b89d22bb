/-
  Eag.GovernedRuntime.Models

  The request and the result of one bounded serial execution
  (`governed_runtime/models.py`), and the planning rules a request carries
  (`adaptive/models.py`).
-/

import Eag.Gateway.Decisions
import Eag.GovernedExecution.Models

namespace Eag.GovernedRuntime

open Eag.Foundation Eag.Gateway Eag.GovernedExecution

/-- Priority levels for planning rules. -/
inductive RulePriority where
  | low
  | normal
  | high
  | critical
  deriving DecidableEq, Repr

/-- A deterministic rule that modifies a plan. The metadata may hold any object;
    an object is known here by its identity. -/
@[ext]
structure PlanningRule where
  id : String
  condition : String
  action : String
  priority : RulePriority
  confidence : FloatText
  metadata : List (String × Nat)
  /-- What `repr` returns for the rule. It shows the objects of the metadata by
      their own `__repr__`, so it need not tell two of them apart. -/
  representation : String
  condition_nonBlank : NonBlank condition
  action_nonBlank : NonBlank action

instance : DecidableEq PlanningRule := fun _ _ => decidable_of_iff _ PlanningRule.ext_iff.symm

/-- Trusted identity for one freshly assembled execution context. -/
@[ext]
structure IterationContextArtifact where
  artifactId : String
  repositorySnapshotFingerprint : String
  contextFingerprint : String
  policyVersion : String
  artifactId_nonBlank : NonBlank artifactId
  repositorySnapshotFingerprint_nonBlank : NonBlank repositorySnapshotFingerprint
  contextFingerprint_nonBlank : NonBlank contextFingerprint
  policyVersion_nonBlank : NonBlank policyVersion

instance : DecidableEq IterationContextArtifact := fun _ _ =>
  decidable_of_iff _ IterationContextArtifact.ext_iff.symm

/-- `GOVERNED_RUNTIME_CONTRACT_VERSION`. -/
def governedRuntimeContractVersion : String := "1.0"

/-- Explicit caller-controlled request for one bounded serial execution. -/
@[ext]
structure GovernedExecutionRequest where
  goal : String
  workspaceRoot : ResolvedPath
  repositoryPath : ResolvedPath
  availableCapabilityIds : List String
  mutationIntentPolicy : MutationIntentPolicy
  knownConstraints : List String
  recoveryRules : List PlanningRule
  executionId : String
  runId : String
  budget : ExecutionBudget
  gatewayPolicy : GatewayPolicy
  contractVersion : String
  goal_nonBlank : NonBlank goal
  executionId_nonBlank : NonBlank executionId
  runId_nonBlank : NonBlank runId
  sameRoot : workspaceRoot = repositoryPath
  availableCapabilityIds_nonempty : availableCapabilityIds ≠ []
  availableCapabilityIds_nonBlank : ∀ item ∈ availableCapabilityIds, NonBlank item
  availableCapabilityIds_nodup : availableCapabilityIds.Nodup
  mutationCapability_allowlisted : mutationIntentPolicy.capabilityId ∈ availableCapabilityIds
  budget_two : budget.maxIterations = 2 ∧ budget.maxMutations = 2 ∧ budget.maxVerifications = 2
  gatewayPolicy_serial : gatewayPolicy.maxAttempts = 1 ∧ gatewayPolicy.allowFallback = false ∧
    gatewayPolicy.maxSchemaRepairAttempts = 0
  contractVersion_supported : contractVersion = governedRuntimeContractVersion

instance : DecidableEq GovernedExecutionRequest := fun _ _ =>
  decidable_of_iff _ GovernedExecutionRequest.ext_iff.symm

/-- A budget of two iterations, mutations and verifications, unused. -/
def serialBudget : ExecutionBudget :=
  ⟨2, 2, 2, 0, 0, 0, by decide, by decide, by decide, by decide, by decide, by decide⟩

/-- The default gateway policy of a serial request, with a cost limit of one unit. -/
def serialGatewayPolicy : GatewayPolicy where
  maxAttempts := 1
  timeoutMs := 30000
  maxTotalTokens := 8000
  maxEstimatedCost := .int 1
  maxSchemaRepairAttempts := 0
  allowFallback := false
  redactProviderContent := true
  maxAttempts_pos := oneAttempt_pos
  timeoutMs_pos := timeout_pos
  maxTotalTokens_pos := totalTokens_pos
  maxEstimatedCost_nonneg := unitCost_nonneg
  maxSchemaRepairAttempts_nonneg := noRepairs_nonneg

/-- The default mutation intent policy. -/
def defaultMutationIntentPolicy : MutationIntentPolicy where
  capabilityId := "governed_mutation"
  allowedOperations := ["create_file", "modify_file"]
  maxContentBytes := 64000
  preservationRequirements := []
  schemaVersion := "1.0"
  capabilityId_nonBlank := mutationId_nonBlank
  allowedOperations_nonempty := fileOperations_ne_nil
  allowedOperations_nonBlank := fileOperations_nonBlank
  allowedOperations_nodup := fileOperations_nodup
  maxContentBytes_pos := contentBytes_pos
  requirementIds_nodup := by decide
  schemaVersion_supported := rfl

theorem workspaceNames_proper : ∀ p ∈ ["workspace"], p ≠ "" ∧ '/' ∉ p.toList := by decide

/-- A request with the default policies, for one goal under some constraints. -/
def plainRequest (knownConstraints : List String) : GovernedExecutionRequest where
  goal := "goal"
  workspaceRoot := ⟨["workspace"], workspaceNames_proper⟩
  repositoryPath := ⟨["workspace"], workspaceNames_proper⟩
  availableCapabilityIds := ["governed_mutation"]
  mutationIntentPolicy := defaultMutationIntentPolicy
  knownConstraints := knownConstraints
  recoveryRules := []
  executionId := "execution"
  runId := "run"
  budget := serialBudget
  gatewayPolicy := serialGatewayPolicy
  contractVersion := "1.0"
  goal_nonBlank := goal_text_nonBlank
  executionId_nonBlank := by decide
  runId_nonBlank := by decide
  sameRoot := rfl
  availableCapabilityIds_nonempty := mutationIds_ne_nil
  availableCapabilityIds_nonBlank := mutationIds_nonBlank
  availableCapabilityIds_nodup := mutationIds_nodup
  mutationCapability_allowlisted := by decide
  budget_two := by decide
  gatewayPolicy_serial := by decide
  contractVersion_supported := rfl

/-- Redacted terminal runtime output. -/
@[ext]
structure GovernedExecutionResult where
  context : GovernedExecutionContext
  iterationArtifacts : List IterationContextArtifact
  contractVersion : String
  context_terminal : context.state.isTerminal = true
  artifacts_match : iterationArtifacts.length = context.iteration
  contractVersion_supported : contractVersion = governedRuntimeContractVersion

instance : DecidableEq GovernedExecutionResult := fun _ _ =>
  decidable_of_iff _ GovernedExecutionResult.ext_iff.symm

/-- `GovernedExecutionResult.succeeded`. -/
def GovernedExecutionResult.succeeded (r : GovernedExecutionResult) : Bool :=
  r.context.state = .completed

end Eag.GovernedRuntime
