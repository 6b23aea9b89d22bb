/-
  Eag.GovernedSession.Digests

  Contracts of activation-to-runtime session admission (`governed_session/models.py`).
  Decisions and admissions are sums, so that a refusal without a reason or an approval
  without its identities cannot be written down.

  And the digests that bind a session or an approval to its inputs (`governed_session/gate.py`,
  `governed_approval/gate.py`): where the texts do not collide an equal digest means equal
  fields.
-/

import Eag.GovernedActivation.Models
import Eag.GovernedRuntime.Models

namespace Eag.GovernedSession

open Eag.Foundation Eag.Gateway Eag.GovernedActivation Eag.GovernedRuntime

/-! ## Contracts -/

/-- Typed refusal reasons emitted before any governed runtime operation begins. -/
inductive SessionRejectionReason where
  | missingActivationReceipt
  | activationNotApproved
  | activationReceiptMismatch
  | activationReceiptReplayed
  | executionIdMismatch
  | runIdMismatch
  | requestIdentityMismatch
  | providerPolicyMismatch
  | isolationBindingMismatch
  | auditBindingMismatch
  | runtimeUnavailable
  | sessionConsumed
  | sessionUnknown
  | replayLedgerUnavailable
  | replayLedgerCorrupt
  | replayLedgerConflict
  | replayLedgerIsolationMismatch
  | missingHumanApproval
  | humanApprovalDenied
  | humanApprovalUnknown
  | humanApprovalBindingMismatch
  | humanApprovalStoreUnavailable
  | humanApprovalStoreCorrupt
  | humanApprovalConflict
  | missingWorkspaceCustodyEvidence
  | workspaceCustodyBindingMismatch
  | workspaceCustodyStoreUnavailable
  | workspaceCustodyStoreCorrupt
  | missingRuntimeCompositionEvidence
  | runtimeCompositionBindingMismatch
  | runtimeCompositionStoreUnavailable
  | runtimeCompositionStoreCorrupt
  deriving DecidableEq, Repr

/-- Refusals from the readiness boundary. -/
inductive ReadinessRejectionReason where
  | missingWorkspaceCustodyEvidence
  | workspaceCustodyBindingMismatch
  | workspaceCustodyStoreUnavailable
  | workspaceCustodyStoreCorrupt
  | missingRuntimeCompositionEvidence
  | runtimeCompositionBindingMismatch
  | runtimeCompositionStoreUnavailable
  | runtimeCompositionStoreCorrupt
  deriving DecidableEq, Repr

/-- A declarative runtime-availability binding. -/
@[ext]
structure RuntimeAvailability where
  runtimeId : String
  available : Bool
  runtimeId_nonBlank : NonBlank runtimeId

instance : DecidableEq RuntimeAvailability := fun _ _ =>
  decidable_of_iff _ RuntimeAvailability.ext_iff.symm

/-- Immutable binding for one approved, future runtime start. -/
structure ControlledRuntimeSession where
  sessionId : String
  activationId : String
  activationReceiptDigest : String
  executionId : String
  runId : String
  requestDigest : String
  providerPolicyDigest : String
  isolationBindingDigest : String
  auditObserverIdentity : String
  runtimeId : String
  nonBlank : ∀ value ∈ [sessionId, activationId, activationReceiptDigest, executionId, runId,
    requestDigest, providerPolicyDigest, isolationBindingDigest, auditObserverIdentity,
    runtimeId], NonBlank value
  deriving DecidableEq

/-- Pure session-gate output. -/
inductive ControlledSessionDecision where
  | sessionCreated (sessionId executionId runId : String)
  | runtimeStartAllowed (sessionId executionId runId : String)
  | rejected (reason : SessionRejectionReason)
  deriving DecidableEq, Repr

/-- Pure result of session admission: the session with its decision, or a refusal. -/
inductive ControlledSessionAdmission where
  | created (session : ControlledRuntimeSession)
  | rejected (reason : SessionRejectionReason)
  deriving DecidableEq

/-! ## Policies -/

/-- The object both policy digests are taken of. -/
def policyJson (allowFallback : Bool) (maxAttempts : Int) (maxEstimatedCost : Cost)
    (maxSchemaRepairAttempts maxTotalTokens timeoutMs : Int) : Json :=
  .object [
    ("allow_fallback", .bool allowFallback),
    ("max_attempts", .int maxAttempts),
    ("max_estimated_cost", maxEstimatedCost.toJson),
    ("max_schema_repair_attempts", .int maxSchemaRepairAttempts),
    ("max_total_tokens", .int maxTotalTokens),
    ("timeout_ms", .int timeoutMs)]

/-- `_activation_policy_digest`. -/
def activationPolicyDigest (policy : ProviderExecutionPolicy) : String :=
  jsonDigest (policyJson policy.allowFallback policy.maxAttempts policy.maxEstimatedCost
    policy.maxSchemaRepairAttempts policy.maxTotalTokens policy.timeoutMs)

/-- The object `_runtime_policy_digest` hashes. -/
def runtimePolicyJson (policy : GatewayPolicy) : Json :=
  policyJson policy.allowFallback policy.maxAttempts policy.maxEstimatedCost
    policy.maxSchemaRepairAttempts policy.maxTotalTokens policy.timeoutMs

/-- `_runtime_policy_digest`. -/
def runtimePolicyDigest (policy : GatewayPolicy) : String :=
  jsonDigest (runtimePolicyJson policy)

theorem canonical_runtimePolicyJson (policy : GatewayPolicy) :
    (runtimePolicyJson policy).Canonical := by
  simp [runtimePolicyJson, policyJson, Json.canonical_object]

/-! ## Receipts, isolation, requests -/

/-- `_receipt_digest`. -/
def receiptDigest (receipt : GovernedActivationReceipt) : String :=
  jsonDigest (.object [
    ("activation_id", .str receipt.decision.activationId),
    ("disposition", .str receipt.decision.disposition.value),
    ("execution_id", .str receipt.decision.executionId),
    ("policy_digest", .str receipt.policyDigest),
    ("reason", .optional (receipt.decision.reason.map (·.value)))])

/-- `_isolation_digest`, of the roots its assertions extract. -/
def isolationDigest (executionId : String)
    (workspaceRoot auditRoot sourceRepositoryRoot : ResolvedPath) : String :=
  jsonDigest (.object [
    ("audit_root", .str auditRoot.text),
    ("execution_id", .str executionId),
    ("source_repository_root", .str sourceRepositoryRoot.text),
    ("workspace_root", .str workspaceRoot.text)])

/-- `"\n".join(request.known_constraints)`. -/
def joinedConstraints (request : GovernedExecutionRequest) : String :=
  "\n".intercalate request.knownConstraints

/-- The object `_runtime_request_digest` hashes. -/
def runtimeRequestJson (request : GovernedExecutionRequest) : Json :=
  .object [
    ("available_capability_ids", .array (request.availableCapabilityIds.map .str)),
    ("budget", .object [
      ("max_iterations", .int request.budget.maxIterations),
      ("max_mutations", .int request.budget.maxMutations),
      ("max_verifications", .int request.budget.maxVerifications)]),
    ("contract_version", .str request.contractVersion),
    ("execution_id", .str request.executionId),
    ("goal_digest", .str (sha256Hex request.goal)),
    ("known_constraints_digest", .str (sha256Hex (joinedConstraints request))),
    ("mutation_intent_policy", .object [
      ("allowed_operations",
        .array (request.mutationIntentPolicy.allowedOperations.map .str)),
      ("capability_id", .str request.mutationIntentPolicy.capabilityId),
      ("max_content_bytes", .int request.mutationIntentPolicy.maxContentBytes),
      ("preservation_requirements",
        .array (request.mutationIntentPolicy.preservationRequirements.map fun item =>
          .array [.str item.requirementId, .str item.fingerprint])),
      ("schema_version", .str request.mutationIntentPolicy.schemaVersion)]),
    ("provider_policy_digest", .str (runtimePolicyDigest request.gatewayPolicy)),
    ("recovery_rule_representations",
      .array (request.recoveryRules.map fun rule => .str rule.representation)),
    ("repository_path", .str request.repositoryPath.text),
    ("run_id", .str request.runId),
    ("workspace_root", .str request.workspaceRoot.text)]

/-- `_runtime_request_digest`. -/
def runtimeRequestDigest (request : GovernedExecutionRequest) : String :=
  jsonDigest (runtimeRequestJson request)

theorem canonical_runtimeRequestJson (request : GovernedExecutionRequest) :
    (runtimeRequestJson request).Canonical := by
  simp [runtimeRequestJson, Json.canonical_object]

/-! ## Sessions -/

/-- `_observer_identity`. -/
def observerIdentity (observer : AuditObserver) : String :=
  observer.moduleName ++ "." ++ observer.qualname ++ ":" ++ toString observer.id

theorem observerIdentity_nonBlank (observer : AuditObserver) :
    NonBlank (observerIdentity observer) :=
  nonBlank_of_mem (c := '.') (by simp [observerIdentity]) (by decide)

/-- The object `_session_binding_digest` hashes. -/
def sessionBindingJson (session : ControlledRuntimeSession) : Json :=
  .object [
    ("activation_id", .str session.activationId),
    ("activation_receipt_digest", .str session.activationReceiptDigest),
    ("audit_observer_identity", .str session.auditObserverIdentity),
    ("execution_id", .str session.executionId),
    ("isolation_binding_digest", .str session.isolationBindingDigest),
    ("provider_policy_digest", .str session.providerPolicyDigest),
    ("request_digest", .str session.requestDigest),
    ("run_id", .str session.runId),
    ("runtime_id", .str session.runtimeId),
    ("session_id", .str session.sessionId)]

/-- `_session_binding_digest`. -/
def sessionBindingDigest (session : ControlledRuntimeSession) : String :=
  jsonDigest (sessionBindingJson session)

theorem canonical_sessionBindingJson (session : ControlledRuntimeSession) :
    (sessionBindingJson session).Canonical := by
  simp [sessionBindingJson, Json.canonical_object]

/-- The binding object shows every field of a session. -/
theorem sessionBindingJson_injective {s t : ControlledRuntimeSession}
    (h : sessionBindingJson s = sessionBindingJson t) : s = t := by
  cases s
  cases t
  simp_all [sessionBindingJson]

end Eag.GovernedSession
