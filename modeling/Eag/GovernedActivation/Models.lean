/-
  Eag.GovernedActivation.Models

  Activation admission contracts (`governed_activation/models.py`): what the
  session and approval gates read of an activation request and its receipt.
-/

import Eag.Gateway.Decisions

namespace Eag.GovernedActivation

open Eag.Foundation Eag.Gateway

/-- Outcome of activation admission. -/
inductive ActivationDisposition where
  | approvedToStart
  | rejected
  deriving DecidableEq, Repr

def ActivationDisposition.value : ActivationDisposition → String
  | .approvedToStart => "approved_to_start"
  | .rejected => "rejected"

/-- Typed safe refusal reasons. -/
inductive ActivationRejectionReason where
  | missingCallerConfirmation
  | invalidCallerConfirmation
  | missingProviderPolicy
  | invalidProviderPolicy
  | missingIsolationRoot
  | sourceWorkspaceSelected
  | identicalWorkspaceAndAuditRoot
  | auditRootInsideWorkspace
  | auditRootInsideSourceRepository
  | auditRootUnavailable
  | emptyExecutionId
  | missingAuditObserver
  deriving DecidableEq, Repr

def ActivationRejectionReason.value : ActivationRejectionReason → String
  | .missingCallerConfirmation => "missing_caller_confirmation"
  | .invalidCallerConfirmation => "invalid_caller_confirmation"
  | .missingProviderPolicy => "missing_provider_policy"
  | .invalidProviderPolicy => "invalid_provider_policy"
  | .missingIsolationRoot => "missing_isolation_root"
  | .sourceWorkspaceSelected => "source_workspace_selected"
  | .identicalWorkspaceAndAuditRoot => "identical_workspace_and_audit_root"
  | .auditRootInsideWorkspace => "audit_root_inside_workspace"
  | .auditRootInsideSourceRepository => "audit_root_inside_source_repository"
  | .auditRootUnavailable => "audit_root_unavailable"
  | .emptyExecutionId => "empty_execution_id"
  | .missingAuditObserver => "missing_audit_observer"

/-- Explicit caller attestation bound to one execution identity. -/
@[ext]
structure CallerActivationConfirmation where
  confirmationId : String
  executionId : String
  affirmed : Bool
  confirmationId_nonBlank : NonBlank confirmationId
  executionId_nonBlank : NonBlank executionId

instance : DecidableEq CallerActivationConfirmation := fun _ _ =>
  decidable_of_iff _ CallerActivationConfirmation.ext_iff.symm

/-- Declared provider controls. -/
structure ProviderExecutionPolicy where
  maxAttempts : Int
  allowFallback : Bool
  timeoutMs : Int
  maxSchemaRepairAttempts : Int
  maxTotalTokens : Int
  maxEstimatedCost : Cost
  deriving DecidableEq

/-- Explicit paths and identity for one prospective execution. -/
structure ExecutionIsolation where
  workspaceRoot : Option ResolvedPath
  auditRoot : Option ResolvedPath
  sourceRepositoryRoot : Option ResolvedPath
  executionId : String
  deriving DecidableEq

/-- An audit observer as the gates see it: an object with a class and an
    identity. -/
structure AuditObserver where
  moduleName : String
  qualname : String
  id : Nat
  deriving DecidableEq, Repr

/-- Complete explicit admission input. -/
structure GovernedActivationRequest where
  confirmation : Option CallerActivationConfirmation
  providerPolicy : Option ProviderExecutionPolicy
  isolation : ExecutionIsolation
  auditObserver : Option AuditObserver
  deriving DecidableEq

/-- Pure admission result. -/
@[ext]
structure GovernedActivationDecision where
  disposition : ActivationDisposition
  executionId : String
  activationId : String
  reason : Option ActivationRejectionReason
  executionId_nonBlank : NonBlank executionId
  activationId_nonBlank : NonBlank activationId
  reason_of_approved : disposition = .approvedToStart → reason = none
  reason_of_rejected : disposition = .rejected → reason.isSome = true

instance : DecidableEq GovernedActivationDecision := fun _ _ =>
  decidable_of_iff _ GovernedActivationDecision.ext_iff.symm

/-- Redacted immutable activation evidence. -/
structure GovernedActivationReceipt where
  decision : GovernedActivationDecision
  policyDigest : String
  policyDigest_isDigest : IsDigest policyDigest
  deriving DecidableEq

end Eag.GovernedActivation
