/-
  Eag.GovernedSession.Gate

  `ControlledRuntimeSessionGate`: session creation claims the activation and then
  the session, a runtime start reads the issue record and then claims the
  consumption (`governed_session/gate.py`). Both are programs over the ledger's
  atomic operations.

  The answers of the readiness gate and of the approval gate are arguments of
  `createSession`.
-/

import Eag.GovernedApproval.Models
import Eag.GovernedSession.Ledger

namespace Eag.GovernedSession

open Eag.Foundation Eag.GovernedActivation Eag.GovernedRuntime Eag.GovernedApproval

/-! ## Refusal reasons -/

/-- `_readiness_session_rejection`. -/
def readinessSessionRejection : ReadinessRejectionReason → SessionRejectionReason
  | .missingWorkspaceCustodyEvidence => .missingWorkspaceCustodyEvidence
  | .workspaceCustodyBindingMismatch => .workspaceCustodyBindingMismatch
  | .workspaceCustodyStoreUnavailable => .workspaceCustodyStoreUnavailable
  | .workspaceCustodyStoreCorrupt => .workspaceCustodyStoreCorrupt
  | .missingRuntimeCompositionEvidence => .missingRuntimeCompositionEvidence
  | .runtimeCompositionBindingMismatch => .runtimeCompositionBindingMismatch
  | .runtimeCompositionStoreUnavailable => .runtimeCompositionStoreUnavailable
  | .runtimeCompositionStoreCorrupt => .runtimeCompositionStoreCorrupt

/-- `_approval_session_rejection`. -/
def approvalSessionRejection : GovernedApprovalRejectionReason → SessionRejectionReason
  | .missingApproval => .missingHumanApproval
  | .approvalDenied => .humanApprovalDenied
  | .approvalUnknown => .humanApprovalUnknown
  | .approvalBindingMismatch => .humanApprovalBindingMismatch
  | .approvalStoreUnavailable => .humanApprovalStoreUnavailable
  | .approvalStoreCorrupt => .humanApprovalStoreCorrupt
  | .approvalIdDuplicate => .humanApprovalConflict
  | .approvalIdConflict => .humanApprovalConflict

/-- The refusal `_claim` and `_read` give for a ledger error. -/
def ledgerRejection : WriteOnce.Failure → SessionRejectionReason
  | .corrupt => .replayLedgerCorrupt
  | .unavailable => .replayLedgerUnavailable

/-! ## Bindings -/

/-- The arguments both operations bind together. -/
structure SessionInputs where
  activationReceipt : Option GovernedActivationReceipt
  activationRequest : GovernedActivationRequest
  runtimeRequest : GovernedExecutionRequest
  auditObserver : Option AuditObserver
  runtimeAvailability : Option RuntimeAvailability

/-- What an accepted binding leaves of the optional arguments: the values the
    assertions after `_binding_rejection` extract. -/
structure SessionBinding where
  receipt : GovernedActivationReceipt
  observer : AuditObserver
  availability : RuntimeAvailability
  workspaceRoot : ResolvedPath
  auditRoot : ResolvedPath
  sourceRoot : ResolvedPath

/-- `_binding_rejection`: the refusal, or the bound values. -/
def bindingRejection (inputs : SessionInputs) :
    Except SessionRejectionReason SessionBinding := do
  let isolation := inputs.activationRequest.isolation
  let some receipt := inputs.activationReceipt | .error .missingActivationReceipt
  require (receipt.decision.disposition = .approvedToStart) .activationNotApproved
  let some availability := inputs.runtimeAvailability | .error .runtimeUnavailable
  require (availability.available = true) .runtimeUnavailable
  let some confirmation := inputs.activationRequest.confirmation
    | .error .activationReceiptMismatch
  let some providerPolicy := inputs.activationRequest.providerPolicy
    | .error .activationReceiptMismatch
  let some requestObserver := inputs.activationRequest.auditObserver
    | .error .auditBindingMismatch
  let some observer := inputs.auditObserver | .error .auditBindingMismatch
  require (requestObserver = observer) .auditBindingMismatch
  require (isolation.executionId = inputs.runtimeRequest.executionId) .executionIdMismatch
  require (receipt.decision.executionId = inputs.runtimeRequest.executionId)
    .executionIdMismatch
  require (confirmation.executionId = inputs.runtimeRequest.executionId) .executionIdMismatch
  require (receipt.policyDigest = activationPolicyDigest providerPolicy)
    .activationReceiptMismatch
  require (receipt.policyDigest = runtimePolicyDigest inputs.runtimeRequest.gatewayPolicy)
    .providerPolicyMismatch
  let some workspaceRoot := isolation.workspaceRoot | .error .isolationBindingMismatch
  let some auditRoot := isolation.auditRoot | .error .isolationBindingMismatch
  let some sourceRoot := isolation.sourceRepositoryRoot | .error .isolationBindingMismatch
  require (inputs.runtimeRequest.workspaceRoot = workspaceRoot ∧
    inputs.runtimeRequest.repositoryPath = workspaceRoot) .isolationBindingMismatch
  .ok ⟨receipt, observer, availability, workspaceRoot, auditRoot, sourceRoot⟩

/-- `_ledger_isolation_rejection`. -/
def ledgerIsolationRejection (controlRoot : ResolvedPath) (isolation : ExecutionIsolation) :
    Option SessionRejectionReason :=
  match isolation.workspaceRoot, isolation.sourceRepositoryRoot, isolation.auditRoot with
  | some workspaceRoot, some sourceRoot, some auditRoot =>
      if controlRoot ∈ [workspaceRoot, sourceRoot, auditRoot] ∨
          [workspaceRoot, sourceRoot, auditRoot].any (controlRoot.isRelativeTo ·) then
        some .replayLedgerIsolationMismatch
      else none
  | _, _, _ => some .isolationBindingMismatch

/-- The object the session identity is the digest of. -/
def sessionIdJson (binding : SessionBinding) (runtimeRequest : GovernedExecutionRequest)
    (isolation : ExecutionIsolation) : Json :=
  .object [
    ("activation_receipt_digest", .str (receiptDigest binding.receipt)),
    ("audit_observer_identity", .str (observerIdentity binding.observer)),
    ("isolation_binding_digest", .str (isolationDigest isolation.executionId
      binding.workspaceRoot binding.auditRoot binding.sourceRoot)),
    ("request_digest", .str (runtimeRequestDigest runtimeRequest)),
    ("runtime_id", .str binding.availability.runtimeId)]

/-- `_session_for`. -/
def sessionFor (binding : SessionBinding) (runtimeRequest : GovernedExecutionRequest)
    (isolation : ExecutionIsolation) : ControlledRuntimeSession where
  sessionId := jsonDigest (sessionIdJson binding runtimeRequest isolation)
  activationId := binding.receipt.decision.activationId
  activationReceiptDigest := receiptDigest binding.receipt
  executionId := runtimeRequest.executionId
  runId := runtimeRequest.runId
  requestDigest := runtimeRequestDigest runtimeRequest
  providerPolicyDigest := binding.receipt.policyDigest
  isolationBindingDigest := isolationDigest isolation.executionId binding.workspaceRoot
    binding.auditRoot binding.sourceRoot
  auditObserverIdentity := observerIdentity binding.observer
  runtimeId := binding.availability.runtimeId
  nonBlank := by
    simp only [List.forall_mem_cons, List.not_mem_nil, false_implies, implies_true, and_true]
    exact ⟨nonBlank_of_isDigest (isDigest_jsonDigest _), binding.receipt.decision.activationId_nonBlank,
      nonBlank_of_isDigest (isDigest_jsonDigest _), runtimeRequest.executionId_nonBlank,
      runtimeRequest.runId_nonBlank, nonBlank_of_isDigest (isDigest_jsonDigest _),
      nonBlank_of_isDigest binding.receipt.policyDigest_isDigest,
      nonBlank_of_isDigest (isDigest_jsonDigest _), observerIdentity_nonBlank _,
      binding.availability.runtimeId_nonBlank⟩

/-- `_session_mismatch_reason`. -/
def sessionMismatchReason (actual expected : ControlledRuntimeSession) :
    SessionRejectionReason :=
  if actual.activationReceiptDigest ≠ expected.activationReceiptDigest then
    .activationReceiptMismatch
  else if actual.executionId ≠ expected.executionId then .executionIdMismatch
  else if actual.runId ≠ expected.runId then .runIdMismatch
  else if actual.providerPolicyDigest ≠ expected.providerPolicyDigest then
    .providerPolicyMismatch
  else if actual.isolationBindingDigest ≠ expected.isolationBindingDigest then
    .isolationBindingMismatch
  else if actual.auditObserverIdentity ≠ expected.auditObserverIdentity then
    .auditBindingMismatch
  else .requestIdentityMismatch

/-! ## Records -/

/-- `_activation_record_for`. -/
def activationRecordFor (receipt : GovernedActivationReceipt) : DurableReplayLedgerRecord where
  entryKind := .activationClaimed
  identityKey := receipt.decision.activationId
  bindingDigest := receiptDigest receipt
  identityKey_nonBlank := receipt.decision.activationId_nonBlank
  bindingDigest_isDigest := isDigest_jsonDigest _

/-- The record of one session, of either kind. -/
def sessionRecordFor (kind : ReplayLedgerEntryKind) (session : ControlledRuntimeSession) :
    DurableReplayLedgerRecord where
  entryKind := kind
  identityKey := session.sessionId
  bindingDigest := sessionBindingDigest session
  identityKey_nonBlank := session.nonBlank _ (by simp)
  bindingDigest_isDigest := isDigest_jsonDigest _

/-- `_issued_record_for`. -/
def issuedRecordFor (session : ControlledRuntimeSession) : DurableReplayLedgerRecord :=
  sessionRecordFor .sessionIssued session

/-- `_consumed_record_for`. -/
def consumedRecordFor (session : ControlledRuntimeSession) : DurableReplayLedgerRecord :=
  sessionRecordFor .sessionConsumed session

/-! ## The two operations -/

/-- The arguments of one `create_session` call, with the two gates' answers. -/
structure CreateSessionCall where
  controlRoot : ResolvedPath
  inputs : SessionInputs
  readinessRejection : Option ReadinessRejectionReason
  approvalRejection : Option GovernedApprovalRejectionReason

/-- The checks of `create_session` before its first claim. -/
def CreateSessionCall.precheck (call : CreateSessionCall) :
    Except SessionRejectionReason SessionBinding := do
  let binding ← bindingRejection call.inputs
  if let some reason :=
      ledgerIsolationRejection call.controlRoot call.inputs.activationRequest.isolation then
    .error reason
  if let some reason := call.readinessRejection then
    .error (readinessSessionRejection reason)
  if let some reason := call.approvalRejection then
    .error (approvalSessionRejection reason)
  .ok binding

/-- The session a `create_session` call with this binding would issue. -/
def CreateSessionCall.session (call : CreateSessionCall) (binding : SessionBinding) :
    ControlledRuntimeSession :=
  sessionFor binding call.inputs.runtimeRequest call.inputs.activationRequest.isolation

/-- `ControlledRuntimeSessionGate.create_session`. -/
def createSession (call : CreateSessionCall) : SessionProg ControlledSessionAdmission :=
  match call.precheck with
  | .error reason => .ret (.rejected reason)
  | .ok binding => do
      match ← ledgerClaim (activationRecordFor binding.receipt) with
      | .error failure => .ret (.rejected (ledgerRejection failure))
      | .ok (.alreadyClaimed _) => .ret (.rejected .activationReceiptReplayed)
      | .ok (.conflict _) => .ret (.rejected .replayLedgerConflict)
      | .ok .claimed =>
          let session := call.session binding
          match ← ledgerClaim (issuedRecordFor session) with
          | .error failure => .ret (.rejected (ledgerRejection failure))
          | .ok .claimed => .ret (.created session)
          | .ok _ => .ret (.rejected .replayLedgerConflict)

/-- The arguments of one `consume_for_runtime_start` call. -/
structure ConsumeCall where
  controlRoot : ResolvedPath
  session : ControlledRuntimeSession
  inputs : SessionInputs

/-- The checks of `consume_for_runtime_start` before it reads the ledger. -/
def ConsumeCall.precheck (call : ConsumeCall) : Except SessionRejectionReason Unit := do
  let binding ← bindingRejection call.inputs
  if let some reason :=
      ledgerIsolationRejection call.controlRoot call.inputs.activationRequest.isolation then
    .error reason
  let expected := sessionFor binding call.inputs.runtimeRequest
    call.inputs.activationRequest.isolation
  require (expected = call.session) (sessionMismatchReason call.session expected)

/-- `ControlledRuntimeSessionGate.consume_for_runtime_start`. -/
def consumeForRuntimeStart (call : ConsumeCall) : SessionProg ControlledSessionDecision :=
  match call.precheck with
  | .error reason => .ret (.rejected reason)
  | .ok () => do
      let session := call.session
      match ← ledgerRead .sessionIssued session.sessionId with
      | .error failure => .ret (.rejected (ledgerRejection failure))
      | .ok none => .ret (.rejected .sessionUnknown)
      | .ok (some storedIssue) =>
          if storedIssue ≠ issuedRecordFor session then
            .ret (.rejected .replayLedgerConflict)
          else
            match ← ledgerClaim (consumedRecordFor session) with
            | .error failure => .ret (.rejected (ledgerRejection failure))
            | .ok (.alreadyClaimed _) => .ret (.rejected .sessionConsumed)
            | .ok (.conflict _) => .ret (.rejected .replayLedgerConflict)
            | .ok .claimed =>
                .ret (.runtimeStartAllowed session.sessionId session.executionId session.runId)

/-! ## Inputs that bind -/

theorem approved_unexplained :
    ActivationDisposition.approvedToStart = .approvedToStart →
      (none : Option ActivationRejectionReason) = none := fun _ => rfl

theorem approved_not_rejected :
    ActivationDisposition.approvedToStart = .rejected →
      (none : Option ActivationRejectionReason).isSome = true := fun h => absurd h (by decide)

/-- The receipt of an approved activation for a request, with the digest of its
    policy. -/
def approvedReceipt (request : GovernedExecutionRequest) : GovernedActivationReceipt where
  decision := {
    disposition := .approvedToStart
    executionId := request.executionId
    activationId := "activation"
    reason := none
    executionId_nonBlank := request.executionId_nonBlank
    activationId_nonBlank := by decide
    reason_of_approved := approved_unexplained
    reason_of_rejected := approved_not_rejected }
  policyDigest := runtimePolicyDigest request.gatewayPolicy
  policyDigest_isDigest := isDigest_jsonDigest _

theorem auditNames_proper : ∀ p ∈ ["audit"], p ≠ "" ∧ '/' ∉ p.toList := by decide

theorem sourceNames_proper : ∀ p ∈ ["source"], p ≠ "" ∧ '/' ∉ p.toList := by decide

theorem controlNames_proper : ∀ p ∈ ["control"], p ≠ "" ∧ '/' ∉ p.toList := by decide

theorem runtimeName_nonBlank : NonBlank "runtime" := by decide

/-- Inputs in which everything binds: one observer, the request's own execution
    identity, policy and workspace, and separate audit and source roots. -/
def boundInputs (request : GovernedExecutionRequest) : SessionInputs where
  activationReceipt := some (approvedReceipt request)
  activationRequest := {
    confirmation := some ⟨"confirmation", request.executionId, true, by decide,
      request.executionId_nonBlank⟩
    providerPolicy := some {
      maxAttempts := request.gatewayPolicy.maxAttempts
      allowFallback := request.gatewayPolicy.allowFallback
      timeoutMs := request.gatewayPolicy.timeoutMs
      maxSchemaRepairAttempts := request.gatewayPolicy.maxSchemaRepairAttempts
      maxTotalTokens := request.gatewayPolicy.maxTotalTokens
      maxEstimatedCost := request.gatewayPolicy.maxEstimatedCost }
    isolation := {
      workspaceRoot := some request.workspaceRoot
      auditRoot := some ⟨["audit"], auditNames_proper⟩
      sourceRepositoryRoot := some ⟨["source"], sourceNames_proper⟩
      executionId := request.executionId }
    auditObserver := some ⟨"eag.governed_audit.recorder", "GovernedExecutionAuditRecorder", 1⟩ }
  runtimeRequest := request
  auditObserver := some ⟨"eag.governed_audit.recorder", "GovernedExecutionAuditRecorder", 1⟩
  runtimeAvailability := some ⟨"runtime", true, runtimeName_nonBlank⟩

/-- What those inputs bind. -/
def plainBinding (request : GovernedExecutionRequest) : SessionBinding where
  receipt := approvedReceipt request
  observer := ⟨"eag.governed_audit.recorder", "GovernedExecutionAuditRecorder", 1⟩
  availability := ⟨"runtime", true, runtimeName_nonBlank⟩
  workspaceRoot := request.workspaceRoot
  auditRoot := ⟨["audit"], auditNames_proper⟩
  sourceRoot := ⟨["source"], sourceNames_proper⟩

theorem bindingRejection_boundInputs (request : GovernedExecutionRequest) :
    bindingRejection (boundInputs request) = .ok (plainBinding request) := by
  have hroot := request.sameRoot.symm
  simp only [bindingRejection, boundInputs, approvedReceipt]
  simp [hroot]
  exact ⟨rfl, rfl⟩

/-- A creation with those inputs, which both gates let through. -/
def plainCreation (request : GovernedExecutionRequest) : CreateSessionCall where
  controlRoot := ⟨["control"], controlNames_proper⟩
  inputs := boundInputs request
  readinessRejection := none
  approvalRejection := none

/-- The session that creation issues. -/
abbrev plainSession (request : GovernedExecutionRequest) : ControlledRuntimeSession :=
  (plainCreation request).session (plainBinding request)

/-- A session presented with those inputs. -/
def plainConsumption (session : ControlledRuntimeSession)
    (request : GovernedExecutionRequest) : ConsumeCall where
  controlRoot := ⟨["control"], controlNames_proper⟩
  session := session
  inputs := boundInputs request

theorem isolated_boundInputs {request : GovernedExecutionRequest}
    (hroot : request.workspaceRoot = ⟨["workspace"], by decide⟩) :
    ledgerIsolationRejection ⟨["control"], by decide⟩
      (boundInputs request).activationRequest.isolation = none := by
  simp only [boundInputs, hroot]
  rfl

theorem precheck_plainCreation {request : GovernedExecutionRequest}
    (hroot : request.workspaceRoot = ⟨["workspace"], by decide⟩) :
    (plainCreation request).precheck = .ok (plainBinding request) := by
  have hisolated := isolated_boundInputs hroot
  simp only [CreateSessionCall.precheck, plainCreation, bindingRejection_boundInputs, hisolated,
    except_ok_bind]

theorem precheck_plainConsumption {request : GovernedExecutionRequest}
    (hroot : request.workspaceRoot = ⟨["workspace"], by decide⟩)
    {session : ControlledRuntimeSession}
    (hs : plainSession request = session) :
    (plainConsumption session request).precheck = .ok () := by
  have hisolated := isolated_boundInputs hroot
  simp only [ConsumeCall.precheck, plainConsumption, bindingRejection_boundInputs, hisolated,
    except_ok_bind]
  exact require_of _ _ hs

/-! ## Undisturbed calls -/

/-- The file system does nothing to an operation. -/
def quiet : SessionEnv := ⟨none, .error "unused"⟩

/-- A creation alone, over a ledger that knows neither its activation nor its session. -/
theorem exec_createSession {call : CreateSessionCall} {binding : SessionBinding}
    (ha : call.precheck = .ok binding) (ledger : ReplayLedger)
    (h1 : ledger (activationRecordFor binding.receipt).path = none)
    (h2 : ledger (issuedRecordFor (call.session binding)).path = none) :
    Prog.exec performOp ledger [quiet, quiet] (createSession call) =
      ((ledger.put (activationRecordFor binding.receipt).path
          (.whole (activationRecordFor binding.receipt))).put
        (issuedRecordFor (call.session binding)).path
          (.whole (issuedRecordFor (call.session binding))),
        .ret (.created (call.session binding))) := by
  have hne : (issuedRecordFor (call.session binding)).path ≠
      (activationRecordFor binding.receipt).path :=
    recordPath_ne (by simp [activationRecordFor, issuedRecordFor, sessionRecordFor]) _ _
  have h2' := WriteOnce.Store.put_of_ne ledger hne (.whole (activationRecordFor binding.receipt))
  rw [h2] at h2'
  simp only [createSession, ha, ledgerClaim_bind, Prog.exec, performOp, quiet,
    claimRecord_of_free h1, claimRecord_of_free h2']

/-- A presented session alone, over a ledger that holds its issue record and no
    consumption. -/
theorem exec_consumeForRuntimeStart {call : ConsumeCall} (ha : call.precheck = .ok ())
    (ledger : ReplayLedger)
    (h1 : ledger (issuedRecordFor call.session).path =
      some (.whole (issuedRecordFor call.session)))
    (h2 : ledger (consumedRecordFor call.session).path = none) :
    (Prog.exec performOp ledger [quiet, quiet] (consumeForRuntimeStart call)).2 =
      .ret (.runtimeStartAllowed call.session.sessionId call.session.executionId
        call.session.runId) := by
  have hread : readRecord none ledger .sessionIssued call.session.sessionId =
      .ok (some (issuedRecordFor call.session)) :=
    readRecord_of_whole (issuedRecordFor call.session) h1
  simp only [consumeForRuntimeStart, ha, ledgerRead_bind, ledgerClaim_bind, Prog.exec, performOp,
    quiet, hread, ne_eq, not_true_eq_false, if_false, claimRecord_of_free h2]

end Eag.GovernedSession
