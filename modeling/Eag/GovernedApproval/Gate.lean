/-
  Eag.GovernedApproval.Gate

  `GovernedApprovalGate` over its durable store (`governed_approval/gate.py`,
  `governed_approval/store.py`). The gate's own digest functions are the session
  gate's, which are used here under their names there.
-/

import Eag.Foundation.WriteOnce
import Eag.GovernedApproval.Models
import Eag.GovernedSession.Digests

namespace Eag.GovernedApproval

open Eag.Foundation Eag.GovernedActivation Eag.GovernedRuntime Eag.GovernedSession

/-! ## The store -/

/-- The approval files under the control root. -/
abbrev ApprovalStore := WriteOnce.Store String GovernedApprovalReceipt

/-- `_record_path`, relative to the control root. -/
def approvalPath (approvalId : String) : String :=
  "approval-" ++ sha256Hex approvalId ++ ".json"

/-- `FileDurableGovernedApprovalStore.read`. -/
def readApproval (fault : Option WriteOnce.Fault) (store : ApprovalStore)
    (approvalId : String) : Except WriteOnce.Failure (Option GovernedApprovalReceipt) :=
  WriteOnce.read (fun r => r.approvalId = approvalId) fault store (approvalPath approvalId)

/-- `FileDurableGovernedApprovalStore.claim`: `none` when the receipt was written,
    else the standing receipt. -/
def claimApproval (fault : Option WriteOnce.Fault) (store : ApprovalStore)
    (receipt : GovernedApprovalReceipt) :
    ApprovalStore × Except WriteOnce.Failure (Option GovernedApprovalReceipt) :=
  WriteOnce.claim (fun r => r.approvalId = receipt.approvalId) fault store
    (approvalPath receipt.approvalId) receipt

/-! ## The gate -/

/-- The inputs one approval is bound to. -/
structure ApprovalInputs where
  activationReceipt : GovernedActivationReceipt
  activationRequest : GovernedActivationRequest
  runtimeRequest : GovernedExecutionRequest
  auditObserver : AuditObserver
  runtimeAvailability : RuntimeAvailability

/-- The roots that the assertions of `_isolation_binding_digest` extract. -/
structure IsolationRoots where
  workspaceRoot : ResolvedPath
  auditRoot : ResolvedPath
  sourceRoot : ResolvedPath

/-- `_store_isolation_rejection`: the refusal, or the roots. -/
def storeIsolationRejection (controlRoot : ResolvedPath) (isolation : ExecutionIsolation) :
    Except GovernedApprovalRejectionReason IsolationRoots :=
  match isolation.workspaceRoot, isolation.sourceRepositoryRoot, isolation.auditRoot with
  | some workspaceRoot, some sourceRoot, some auditRoot =>
      if controlRoot ∈ [workspaceRoot, sourceRoot, auditRoot] ∨
          [workspaceRoot, sourceRoot, auditRoot].any (controlRoot.isRelativeTo ·) then
        .error .approvalBindingMismatch
      else .ok ⟨workspaceRoot, auditRoot, sourceRoot⟩
  | _, _, _ => .error .approvalBindingMismatch

/-- The decision an approval records. -/
structure ApprovalDecision where
  approvalId : String
  approverIdentity : String
  occurredAt : DateTime
  disposition : GovernedApprovalDisposition

/-- The arguments `_receipt_for` gives to `issue`. -/
def receiptFields (decision : ApprovalDecision) (inputs : ApprovalInputs)
    (roots : IsolationRoots) : ApprovalFields where
  approvalId := decision.approvalId
  approverIdentity := decision.approverIdentity
  occurredAt := decision.occurredAt
  disposition := decision.disposition
  activationId := inputs.activationReceipt.decision.activationId
  activationReceiptDigest := receiptDigest inputs.activationReceipt
  executionId := inputs.runtimeRequest.executionId
  runId := inputs.runtimeRequest.runId
  runtimeRequestDigest := runtimeRequestDigest inputs.runtimeRequest
  providerPolicyDigest := inputs.activationReceipt.policyDigest
  isolationBindingDigest := isolationDigest inputs.activationRequest.isolation.executionId
    roots.workspaceRoot roots.auditRoot roots.sourceRoot
  auditObserverIdentity := observerIdentity inputs.auditObserver
  runtimeId := inputs.runtimeAvailability.runtimeId

/-- `_receipt_for`. -/
def receiptFor (decision : ApprovalDecision) (inputs : ApprovalInputs)
    (roots : IsolationRoots) : Except String GovernedApprovalReceipt :=
  GovernedApprovalReceipt.issue (receiptFields decision inputs roots)

/-- The refusal for a store error. -/
def approvalStoreRejection : WriteOnce.Failure → GovernedApprovalRejectionReason
  | .corrupt => .approvalStoreCorrupt
  | .unavailable => .approvalStoreUnavailable

/-- `GovernedApprovalGate.record`: the store after it and the admission, or the
    error of an ill-formed decision. -/
def record (controlRoot : ResolvedPath) (fault : Option WriteOnce.Fault)
    (store : ApprovalStore) (decision : ApprovalDecision) (inputs : ApprovalInputs) :
    Except String (ApprovalStore × GovernedApprovalAdmission) :=
  match storeIsolationRejection controlRoot inputs.activationRequest.isolation with
  | .error reason => .ok (store, .rejected reason)
  | .ok roots => do
      let receipt ← receiptFor decision inputs roots
      let (store', answer) := claimApproval fault store receipt
      match answer with
      | .error failure => .ok (store', .rejected (approvalStoreRejection failure))
      | .ok none => .ok (store', .recorded receipt)
      | .ok (some existing) =>
          .ok (store', .rejected
            (if existing = receipt then .approvalIdDuplicate else .approvalIdConflict))

/-- `GovernedApprovalGate.validate_for_session`: a refusal, or `none` when the
    approval is accepted. -/
def validateForSession (controlRoot : ResolvedPath) (fault : Option WriteOnce.Fault)
    (store : ApprovalStore) (approvalReceipt : Option GovernedApprovalReceipt)
    (inputs : ApprovalInputs) : Except String (Option GovernedApprovalRejectionReason) :=
  match approvalReceipt with
  | none => .ok (some .missingApproval)
  | some approvalReceipt =>
      match storeIsolationRejection controlRoot inputs.activationRequest.isolation with
      | .error reason => .ok (some reason)
      | .ok roots =>
          match readApproval fault store approvalReceipt.approvalId with
          | .error failure => .ok (some (approvalStoreRejection failure))
          | .ok none => .ok (some .approvalUnknown)
          | .ok (some stored) =>
              if stored ≠ approvalReceipt then .ok (some .approvalIdConflict)
              else do
                let expected ← receiptFor ⟨approvalReceipt.approvalId,
                  approvalReceipt.approverIdentity, approvalReceipt.occurredAt,
                  approvalReceipt.disposition⟩ inputs roots
                if expected ≠ approvalReceipt then .ok (some .approvalBindingMismatch)
                else if approvalReceipt.disposition = .denied then .ok (some .approvalDenied)
                else .ok none

/-! ## What recording and accepting say -/

/-- A recorded receipt was issued for the inputs. -/
theorem recorded_fields {controlRoot : ResolvedPath} {fault : Option WriteOnce.Fault}
    {store store' : ApprovalStore} {decision : ApprovalDecision} {inputs : ApprovalInputs}
    {receipt : GovernedApprovalReceipt}
    (h : record controlRoot fault store decision inputs = .ok (store', .recorded receipt)) :
    ∃ roots, receiptFor decision inputs roots = .ok receipt := by
  unfold record at h
  cases hr : storeIsolationRejection controlRoot inputs.activationRequest.isolation with
  | error reason => simp [hr] at h
  | ok roots =>
      simp only [hr, except_bind_eq_ok] at h
      obtain ⟨issued, hissued, hclaim⟩ := h
      refine ⟨roots, ?_⟩
      generalize claimApproval fault store issued = claimed at hclaim
      obtain ⟨s, answer⟩ := claimed
      cases answer with
      | error error => cases hclaim
      | ok reason =>
          cases reason with
          | none =>
              cases hclaim
              exact hissued
          | some reason => cases hclaim

/-- An accepted approval is the receipt the second inputs would be issued. -/
theorem accepted_fields {controlRoot : ResolvedPath} {fault : Option WriteOnce.Fault}
    {store : ApprovalStore} {receipt : GovernedApprovalReceipt} {inputs : ApprovalInputs}
    (h : validateForSession controlRoot fault store (some receipt) inputs = .ok none) :
    ∃ roots, receiptFor ⟨receipt.approvalId, receipt.approverIdentity, receipt.occurredAt,
      receipt.disposition⟩ inputs roots = .ok receipt := by
  unfold validateForSession at h
  cases hr : storeIsolationRejection controlRoot inputs.activationRequest.isolation with
  | error reason => simp [hr] at h
  | ok roots =>
      simp only [hr] at h
      cases hread : readApproval fault store receipt.approvalId with
      | error failure => simp [hread] at h
      | ok stored =>
          cases stored with
          | none => simp [hread] at h
          | some stored =>
              simp only [hread] at h
              split at h
              · cases h
              · simp only [except_bind_eq_ok] at h
                obtain ⟨expected, hexpected, h⟩ := h
                split at h
                · cases h
                · rename_i heq
                  exact ⟨roots, by rw [hexpected, not_not.mp heq]⟩

/-- Recording at a free path succeeds where the decision is well formed. -/
theorem record_of_free {controlRoot : ResolvedPath} {store : ApprovalStore}
    {decision : ApprovalDecision} {inputs : ApprovalInputs} {roots : IsolationRoots}
    {receipt : GovernedApprovalReceipt}
    (hroots : storeIsolationRejection controlRoot inputs.activationRequest.isolation = .ok roots)
    (hissue : receiptFor decision inputs roots = .ok receipt)
    (hfree : store (approvalPath receipt.approvalId) = none) :
    record controlRoot none store decision inputs =
      .ok (store.put (approvalPath receipt.approvalId) (.whole receipt), .recorded receipt) := by
  have hclaim : claimApproval none store receipt =
      (store.put (approvalPath receipt.approvalId) (.whole receipt), .ok none) := by
    simp [claimApproval, WriteOnce.claim, WriteOnce.read, WriteOnce.write, hfree]
  simp only [record, hroots, hissue, except_ok_bind, hclaim]

/-- A standing approval is accepted where the inputs would be issued it again. -/
theorem validate_of_standing {controlRoot : ResolvedPath} {store : ApprovalStore}
    {inputs : ApprovalInputs} {roots : IsolationRoots} {receipt : GovernedApprovalReceipt}
    (hroots : storeIsolationRejection controlRoot inputs.activationRequest.isolation = .ok roots)
    (hstands : store (approvalPath receipt.approvalId) = some (.whole receipt))
    (hissue : receiptFor ⟨receipt.approvalId, receipt.approverIdentity, receipt.occurredAt,
      receipt.disposition⟩ inputs roots = .ok receipt)
    (happroved : receipt.disposition = .approved) :
    validateForSession controlRoot none store (some receipt) inputs = .ok none := by
  have hread : readApproval none store receipt.approvalId = .ok (some receipt) :=
    WriteOnce.read_of_whole hstands (by simp) (by simp)
  rw [happroved] at hissue
  simp only [validateForSession, hroots, hread, happroved, hissue, except_ok_bind, ne_eq,
    not_true_eq_false, if_false, reduceCtorEq]

/-- **An approval binds the request digest.** The request an approval was recorded
    for and a request it is accepted with have the same digest. -/
theorem runtimeRequestDigest_of_accepted {root₁ root₂ : ResolvedPath}
    {fault₁ fault₂ : Option WriteOnce.Fault} {store store' later : ApprovalStore}
    {decision : ApprovalDecision} {first second : ApprovalInputs}
    {receipt : GovernedApprovalReceipt}
    (hrecord : record root₁ fault₁ store decision first = .ok (store', .recorded receipt))
    (haccept : validateForSession root₂ fault₂ later (some receipt) second = .ok none) :
    runtimeRequestDigest first.runtimeRequest = runtimeRequestDigest second.runtimeRequest := by
  obtain ⟨roots, h1⟩ := recorded_fields hrecord
  obtain ⟨roots', h2⟩ := accepted_fields haccept
  have e1 := congrArg ApprovalFields.runtimeRequestDigest
    (GovernedApprovalReceipt.issue_eq_ok h1)
  have e2 := congrArg ApprovalFields.runtimeRequestDigest
    (GovernedApprovalReceipt.issue_eq_ok h2)
  exact e1.symm.trans e2

end Eag.GovernedApproval
