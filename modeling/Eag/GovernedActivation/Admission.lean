/-
  Eag.GovernedActivation.Admission

  `GovernedActivationAdmission.admit` (`governed_activation/admission.py`): the redacted
  receipt of an activation request, under the identity that `activation_id_for` derives from
  the confirmation and the execution.
-/

import Eag.GovernedSession.Digests

namespace Eag.GovernedActivation

open Eag.Foundation Eag.Gateway Eag.GovernedSession

/-! ## The environment of an admission -/

/-- What admission asks of objects and of the file system. -/
structure AdmissionEnv where
  /-- `preflight` and `record_terminal_result` are callable. -/
  isAuditObserver : AuditObserver → Bool
  pathExists : ResolvedPath → Bool
  isDir : ResolvedPath → Bool

/-- `path.parent`. -/
def parentOf (path : ResolvedPath) : ResolvedPath where
  parts := path.parts.dropLast
  parts_wellFormed := fun p hp => path.parts_wellFormed p ((List.dropLast_sublist _).subset hp)

/-- `_is_available_audit_root`. -/
def AdmissionEnv.isAvailableAuditRoot (env : AdmissionEnv) (auditRoot : ResolvedPath) : Bool :=
  if env.pathExists auditRoot && !env.isDir auditRoot then false
  else env.pathExists (parentOf auditRoot) && env.isDir (parentOf auditRoot)

/-! ## Admission -/

/-- `activation_id_for`. -/
def activationIdFor (confirmationId executionId : String) : String :=
  sha256Hex (confirmationId ++ ":" ++ executionId)

/-- `cost > 0`. -/
def isPositiveCost : Cost → Bool
  | .int n => 0 < n
  | .float f =>
      f.text.head? ≠ some '-' && f.text ≠ ['0', '.', '0'] && f.text ≠ ['N', 'a', 'N']

/-- `_is_valid_provider_policy`. -/
def isValidProviderPolicy (policy : ProviderExecutionPolicy) : Bool :=
  policy.maxAttempts = 1 && !policy.allowFallback && policy.maxSchemaRepairAttempts = 0 &&
    0 < policy.timeoutMs && 0 < policy.maxTotalTokens && isPositiveCost policy.maxEstimatedCost

/-- `_policy_digest`. -/
def policyDigest : Option ProviderExecutionPolicy → String
  | none => jsonDigest (.object [("provider_policy", .null)])
  | some policy => activationPolicyDigest policy

/-- `_rejection_reason`: the refusal, or nothing. -/
def rejectionReason (env : AdmissionEnv) (request : GovernedActivationRequest) :
    Except ActivationRejectionReason Unit := do
  let isolation := request.isolation
  require (NonBlank isolation.executionId) .emptyExecutionId
  let some confirmation := request.confirmation | .error .missingCallerConfirmation
  require (confirmation.affirmed = true ∧ confirmation.executionId = isolation.executionId)
    .invalidCallerConfirmation
  let some policy := request.providerPolicy | .error .missingProviderPolicy
  require (isValidProviderPolicy policy = true) .invalidProviderPolicy
  let some observer := request.auditObserver | .error .missingAuditObserver
  require (env.isAuditObserver observer = true) .missingAuditObserver
  let some workspaceRoot := isolation.workspaceRoot | .error .missingIsolationRoot
  let some auditRoot := isolation.auditRoot | .error .missingIsolationRoot
  let some sourceRoot := isolation.sourceRepositoryRoot | .error .missingIsolationRoot
  require (workspaceRoot ≠ sourceRoot) .sourceWorkspaceSelected
  require (auditRoot ≠ workspaceRoot) .identicalWorkspaceAndAuditRoot
  require (¬(auditRoot = sourceRoot ∨ auditRoot.isRelativeTo sourceRoot = true))
    .auditRootInsideSourceRepository
  require (auditRoot.isRelativeTo workspaceRoot = false) .auditRootInsideWorkspace
  require (env.isAvailableAuditRoot auditRoot = true) .auditRootUnavailable

/-- `confirmation_id`, or its placeholder. -/
def confirmationIdOf (request : GovernedActivationRequest) : String :=
  match request.confirmation with
  | some confirmation => confirmation.confirmationId
  | none => "missing-confirmation"

/-- `execution_id or "missing-execution-id"`. -/
def executionIdOf (request : GovernedActivationRequest) : String :=
  if request.isolation.executionId = "" then "missing-execution-id"
  else request.isolation.executionId

theorem activationIdFor_nonBlank (confirmationId executionId : String) :
    NonBlank (activationIdFor confirmationId executionId) :=
  nonBlank_of_isDigest (isDigest_sha256Hex _)

/-- The decision on a request; a blank execution id that is not empty has none. -/
def decisionFor (env : AdmissionEnv) (request : GovernedActivationRequest)
    (hexecution : NonBlank (executionIdOf request)) : GovernedActivationDecision :=
  match rejectionReason env request with
  | .ok () =>
      { disposition := .approvedToStart
        executionId := executionIdOf request
        activationId := activationIdFor (confirmationIdOf request) (executionIdOf request)
        reason := none
        executionId_nonBlank := hexecution
        activationId_nonBlank := activationIdFor_nonBlank _ _
        reason_of_approved := fun _ => rfl
        reason_of_rejected := fun h => nomatch h }
  | .error reason =>
      { disposition := .rejected
        executionId := executionIdOf request
        activationId := activationIdFor (confirmationIdOf request) (executionIdOf request)
        reason := some reason
        executionId_nonBlank := hexecution
        activationId_nonBlank := activationIdFor_nonBlank _ _
        reason_of_approved := fun h => nomatch h
        reason_of_rejected := fun _ => rfl }

theorem isDigest_policyDigest (policy : Option ProviderExecutionPolicy) :
    IsDigest (policyDigest policy) := by
  cases policy with
  | none => exact isDigest_jsonDigest _
  | some policy => exact isDigest_jsonDigest _

/-- `GovernedActivationAdmission.admit`: the receipt, or the text of a
    `GovernedActivationError`. -/
def admitActivation (env : AdmissionEnv) (request : GovernedActivationRequest) :
    Except String GovernedActivationReceipt :=
  if hexecution : NonBlank (executionIdOf request) then
    .ok {
      decision := decisionFor env request hexecution
      policyDigest := policyDigest request.providerPolicy
      policyDigest_isDigest := isDigest_policyDigest _ }
  else .error "execution_id cannot be empty"

/-! ## What an approval says -/

/-- An admitted request was let through, or its decision is a refusal. -/
theorem decisionFor_approved {env : AdmissionEnv} {request : GovernedActivationRequest}
    {hexecution : NonBlank (executionIdOf request)}
    (h : (decisionFor env request hexecution).disposition = .approvedToStart) :
    rejectionReason env request = .ok () := by
  unfold decisionFor at h
  cases hreason : rejectionReason env request with
  | ok _ => rfl
  | error reason =>
      rw [hreason] at h
      cases h

theorem decisionFor_activationId (env : AdmissionEnv) (request : GovernedActivationRequest)
    (hexecution : NonBlank (executionIdOf request)) :
    (decisionFor env request hexecution).activationId =
      activationIdFor (confirmationIdOf request) (executionIdOf request) := by
  unfold decisionFor
  split <;> rfl

/-- A request that is let through is confirmed for its own execution. -/
theorem confirmed_of_rejectionReason {env : AdmissionEnv} {request : GovernedActivationRequest}
    (h : rejectionReason env request = .ok ()) :
    ∃ confirmation, request.confirmation = some confirmation ∧
      confirmation.executionId = request.isolation.executionId ∧
      NonBlank request.isolation.executionId := by
  simp only [rejectionReason, except_bind_eq_ok, require_eq_ok] at h
  obtain ⟨-, hexecution, h⟩ := h
  cases hconfirmation : request.confirmation with
  | none =>
      rw [hconfirmation] at h
      cases h
  | some confirmation =>
      rw [hconfirmation] at h
      simp only [except_bind_eq_ok, require_eq_ok] at h
      obtain ⟨-, ⟨-, hsame⟩, -⟩ := h
      exact ⟨confirmation, rfl, hsame, hexecution⟩

/-- **The identity of an approved activation** is that of its confirmation. -/
theorem admitActivation_activationId {env : AdmissionEnv} {request : GovernedActivationRequest}
    {receipt : GovernedActivationReceipt} (h : admitActivation env request = .ok receipt)
    (happroved : receipt.decision.disposition = .approvedToStart) :
    ∃ confirmation, request.confirmation = some confirmation ∧
      receipt.decision.activationId =
        activationIdFor confirmation.confirmationId confirmation.executionId := by
  unfold admitActivation at h
  split at h
  · rename_i hexecution
    rw [← Except.ok.inj h] at happroved ⊢
    obtain ⟨confirmation, hconfirmation, hsame, hnonBlank⟩ :=
      confirmed_of_rejectionReason (decisionFor_approved happroved)
    refine ⟨confirmation, hconfirmation, ?_⟩
    have hnonempty : request.isolation.executionId ≠ "" := by
      intro hempty
      rw [hempty] at hnonBlank
      cases hnonBlank
    have hexecutionId : executionIdOf request = confirmation.executionId := by
      rw [executionIdOf, if_neg hnonempty, hsame]
    have hconfirmationId : confirmationIdOf request = confirmation.confirmationId := by
      rw [confirmationIdOf, hconfirmation]
    show (decisionFor env request hexecution).activationId = _
    rw [decisionFor_activationId, hconfirmationId, hexecutionId]
  · cases h

end Eag.GovernedActivation
