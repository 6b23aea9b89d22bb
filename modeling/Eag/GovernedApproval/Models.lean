/-
  Eag.GovernedApproval.Models

  Human approval evidence (`governed_approval/models.py`): the typed outcomes of the
  boundary, and a receipt that carries its checks and the digest of everything else in it.
-/

import Eag.Foundation.Checks
import Eag.Foundation.Calendar
import Eag.Foundation.Sha256

namespace Eag.GovernedApproval

open Eag.Foundation

/-! ## Outcomes -/

/-- An operator decision recorded as evidence only. -/
inductive GovernedApprovalDisposition where
  | approved
  | denied
  deriving DecidableEq, Repr

def GovernedApprovalDisposition.value : GovernedApprovalDisposition → String
  | .approved => "approved"
  | .denied => "denied"

/-- Typed reasons for rejecting a presented approval. -/
inductive GovernedApprovalRejectionReason where
  | missingApproval
  | approvalDenied
  | approvalUnknown
  | approvalBindingMismatch
  | approvalStoreUnavailable
  | approvalStoreCorrupt
  | approvalIdDuplicate
  | approvalIdConflict
  deriving DecidableEq, Repr

/-- The arguments of `GovernedApprovalReceipt.issue`. -/
structure ApprovalFields where
  approvalId : String
  approverIdentity : String
  occurredAt : DateTime
  disposition : GovernedApprovalDisposition
  activationId : String
  activationReceiptDigest : String
  executionId : String
  runId : String
  runtimeRequestDigest : String
  providerPolicyDigest : String
  isolationBindingDigest : String
  auditObserverIdentity : String
  runtimeId : String
  deriving DecidableEq

namespace ApprovalFields

/-- The fields that may not be blank, with their names. -/
def identities (f : ApprovalFields) : List (String × String) :=
  [("approval_id", f.approvalId), ("approver_identity", f.approverIdentity),
   ("activation_id", f.activationId), ("execution_id", f.executionId), ("run_id", f.runId),
   ("audit_observer_identity", f.auditObserverIdentity), ("runtime_id", f.runtimeId)]

/-- The fields that must be digests, with their names. -/
def digests (f : ApprovalFields) : List (String × String) :=
  [("activation_receipt_digest", f.activationReceiptDigest),
   ("runtime_request_digest", f.runtimeRequestDigest),
   ("provider_policy_digest", f.providerPolicyDigest),
   ("isolation_binding_digest", f.isolationBindingDigest)]

/-- `calculate_binding_digest`. -/
def calculateBindingDigest (f : ApprovalFields) : String :=
  jsonDigest (.object [
    ("activation_id", .str f.activationId),
    ("activation_receipt_digest", .str f.activationReceiptDigest),
    ("approval_id", .str f.approvalId),
    ("approver_identity", .str f.approverIdentity),
    ("audit_observer_identity", .str f.auditObserverIdentity),
    ("disposition", .str f.disposition.value),
    ("execution_id", .str f.executionId),
    ("isolation_binding_digest", .str f.isolationBindingDigest),
    ("occurred_at", .str f.occurredAt.isoformat),
    ("provider_policy_digest", .str f.providerPolicyDigest),
    ("run_id", .str f.runId),
    ("runtime_id", .str f.runtimeId),
    ("runtime_request_digest", .str f.runtimeRequestDigest)])

end ApprovalFields

/-- Immutable human decision evidence bound to one prospective session. -/
structure GovernedApprovalReceipt extends ApprovalFields where
  bindingDigest : String
  identities_nonBlank : ∀ item ∈ toApprovalFields.identities, NonBlank item.2
  digests_isDigest : ∀ item ∈ toApprovalFields.digests, IsDigest item.2
  occurredAt_utc : toApprovalFields.occurredAt.utcOffset = some 0
  bindingDigest_canonical : bindingDigest = toApprovalFields.calculateBindingDigest
  deriving DecidableEq

/-- The name of the first field that fails its check. -/
def firstFailing (check : String → Bool) (items : List (String × String)) : String :=
  ((items.find? fun item => !check item.2).map (·.1)).getD ""

/-- `GovernedApprovalReceipt.issue`: the receipt, or the error its checks raise. -/
def GovernedApprovalReceipt.issue (f : ApprovalFields) :
    Except String GovernedApprovalReceipt :=
  match f.occurredAt.utcOffset with
  | none => .error "occurred_at must be timezone-aware"
  | some offset =>
      if hi : ∀ item ∈ f.identities, NonBlank item.2 then
        if hd : ∀ item ∈ f.digests, IsDigest item.2 then
          .ok {
            toApprovalFields := { f with occurredAt := f.occurredAt.toUtc offset }
            bindingDigest := ApprovalFields.calculateBindingDigest
              { f with occurredAt := f.occurredAt.toUtc offset }
            identities_nonBlank := hi
            digests_isDigest := hd
            occurredAt_utc := rfl
            bindingDigest_canonical := rfl }
        else .error (firstFailing (fun v => decide (IsDigest v)) f.digests ++
          " must be a lowercase SHA-256 digest")
      else .error (firstFailing (fun v => decide (NonBlank v)) f.identities ++
        " cannot be empty")

/-- An issued receipt has the fields it was issued with, its time in UTC. -/
theorem GovernedApprovalReceipt.issue_eq_ok {f : ApprovalFields}
    {receipt : GovernedApprovalReceipt} (h : issue f = .ok receipt) :
    receipt.toApprovalFields = { f with occurredAt := receipt.occurredAt } := by
  unfold issue at h
  cases ho : f.occurredAt.utcOffset with
  | none => simp [ho] at h
  | some offset =>
      simp only [ho] at h
      split at h
      · split at h
        · cases h; rfl
        · cases h
      · cases h

/-- The checks of `issue` are all of its reasons to fail. -/
theorem GovernedApprovalReceipt.issue_of_checks {f : ApprovalFields} {offset : Int}
    (ho : f.occurredAt.utcOffset = some offset)
    (hi : ∀ item ∈ f.identities, NonBlank item.2)
    (hd : ∀ item ∈ f.digests, IsDigest item.2) :
    ∃ receipt, issue f = .ok receipt ∧
      receipt.toApprovalFields = { f with occurredAt := f.occurredAt.toUtc offset } := by
  unfold issue
  simp only [ho, dif_pos hi, dif_pos hd]
  exact ⟨_, rfl, rfl⟩

/-- Result of recording one approval. -/
inductive GovernedApprovalAdmission where
  | recorded (receipt : GovernedApprovalReceipt)
  | rejected (reason : GovernedApprovalRejectionReason)

end Eag.GovernedApproval
