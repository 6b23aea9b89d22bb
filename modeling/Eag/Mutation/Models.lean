/-
  Eag.Mutation.Models

  Contracts of the governed workspace mutation (`mutation/models.py`,
  `mutation/errors.py`, `mutation/events.py`). Identities that the source draws
  from `uuid4` are arguments here.
-/

import Eag.Foundation.Sha256

namespace Eag.Mutation

open Eag.Foundation

/-- `MUTATION_CONTRACT_VERSION`. -/
def mutationContractVersion : String := "1.0"

/-! ## Vocabulary -/

/-- The file operations, and anything else a proposal may carry in their place. -/
inductive MutationOperation where
  | createFile
  | modifyFile
  | other (operation : String)
  deriving DecidableEq, Repr

def MutationOperation.value : MutationOperation → String
  | .createFile => "create_file"
  | .modifyFile => "modify_file"
  | .other operation => operation

/-- Declared risk of a proposal. -/
inductive MutationRisk where
  | low
  | medium
  | high
  deriving DecidableEq, Repr

def MutationRisk.value : MutationRisk → String
  | .low => "low"
  | .medium => "medium"
  | .high => "high"

/-- One-time authorization lifecycle states. -/
inductive MutationAuthorizationState where
  | authorized
  | reserved
  | consumed
  | rejected
  | expired
  deriving DecidableEq, Repr

/-- Terminal outcome recorded by a receipt. -/
inductive MutationResult where
  | completed
  | rejected
  | failed
  deriving DecidableEq, Repr

/-- Reasons for rejection or failure. -/
inductive MutationViolationCode where
  | malformedProposal
  | unsupportedOperation
  | absolutePath
  | pathTraversal
  | pathEscape
  | symlinkPath
  | sensitivePath
  | sensitiveContent
  | parentMissing
  | targetNotRegularFile
  | contentTooLarge
  | targetTooLarge
  | createTargetExists
  | modifyTargetMissing
  | preconditionStale
  | preconditionMismatch
  | authorizationRejected
  | authorizationMismatch
  | authorizationReused
  | postconditionMismatch
  | writeFailed
  deriving DecidableEq, Repr

def MutationViolationCode.value : MutationViolationCode → String
  | .malformedProposal => "malformed_proposal"
  | .unsupportedOperation => "unsupported_operation"
  | .absolutePath => "absolute_path"
  | .pathTraversal => "path_traversal"
  | .pathEscape => "path_escape"
  | .symlinkPath => "symlink_path"
  | .sensitivePath => "sensitive_path"
  | .sensitiveContent => "sensitive_content"
  | .parentMissing => "parent_missing"
  | .targetNotRegularFile => "target_not_regular_file"
  | .contentTooLarge => "content_too_large"
  | .targetTooLarge => "target_too_large"
  | .createTargetExists => "create_target_exists"
  | .modifyTargetMissing => "modify_target_missing"
  | .preconditionStale => "precondition_stale"
  | .preconditionMismatch => "precondition_mismatch"
  | .authorizationRejected => "authorization_rejected"
  | .authorizationMismatch => "authorization_mismatch"
  | .authorizationReused => "authorization_reused"
  | .postconditionMismatch => "postcondition_mismatch"
  | .writeFailed => "write_failed"

/-- A redacted violation. -/
structure MutationViolation where
  code : MutationViolationCode
  stage : String
  message : String
  targetPath : Option String
  policyVersion : String
  deriving DecidableEq, Repr

/-! ## Proposals -/

/-- State that must hold before a mutation. -/
structure MutationPrecondition where
  expectExists : Bool
  expectedFingerprint : Option String
  fingerprint_of_exists : expectExists = true → expectedFingerprint.getD "" ≠ ""
  fingerprint_of_absent : expectExists = false → expectedFingerprint = none
  deriving DecidableEq

/-- State that must hold after it. -/
structure MutationPostcondition where
  expectExists : Bool
  expectedFingerprint : Option String
  deriving DecidableEq, Repr

/-- Untrusted proposal for one text-file mutation. The metadata is what
    `json.dumps(…, default=str)` shows of it. -/
structure ChangeProposal where
  proposalId : String
  runId : String
  decisionId : String
  targetPath : String
  operation : MutationOperation
  content : String
  precondition : MutationPrecondition
  reason : String
  provenanceIds : List String
  risk : MutationRisk
  authorizationMetadata : List (String × Json)
  expectedPostcondition : MutationPostcondition
  contextFingerprint : String
  repositorySnapshotFingerprint : String
  workspaceFingerprint : String
  contractVersion : String
  identities_nonBlank : ∀ value ∈ [proposalId, runId, decisionId, targetPath, reason] ++
    provenanceIds, NonBlank value
  provenanceIds_nodup : provenanceIds.Nodup
  contractVersion_supported : contractVersion = mutationContractVersion

namespace ChangeProposal

variable (proposal : ChangeProposal)

/-- `content_fingerprint`. -/
def contentFingerprint : String := sha256Hex proposal.content

/-- `content_bytes`. -/
def contentBytes : Nat := proposal.content.utf8ByteSize

/-- `digest`. -/
def digest : String :=
  jsonDigest (.object [
    ("authorization_metadata", .object proposal.authorizationMetadata),
    ("content_fingerprint", .str proposal.contentFingerprint),
    ("context_fingerprint", .str proposal.contextFingerprint),
    ("contract_version", .str proposal.contractVersion),
    ("decision_id", .str proposal.decisionId),
    ("expected_postcondition", .object [
      ("expect_exists", .bool proposal.expectedPostcondition.expectExists),
      ("expected_fingerprint", .optional proposal.expectedPostcondition.expectedFingerprint)]),
    ("operation", .str proposal.operation.value),
    ("precondition", .object [
      ("expect_exists", .bool proposal.precondition.expectExists),
      ("expected_fingerprint", .optional proposal.precondition.expectedFingerprint)]),
    ("proposal_id", .str proposal.proposalId),
    ("provenance_ids", .array (proposal.provenanceIds.map .str)),
    ("reason", .str proposal.reason),
    ("repository_snapshot_fingerprint", .str proposal.repositorySnapshotFingerprint),
    ("risk", .str proposal.risk.value),
    ("run_id", .str proposal.runId),
    ("target_path", .str proposal.targetPath),
    ("workspace_fingerprint", .str proposal.workspaceFingerprint)])

end ChangeProposal

/-- Policy-approved proposal state. -/
structure ValidatedChangeProposal where
  proposal : ChangeProposal
  targetFingerprint : Option String
  targetSize : Nat
  targetExists : Bool
  workspaceFingerprint : String

/-! ## Authorizations and receipts -/

/-- Authorization for one operation, bound to the digest of its proposal. -/
structure MutationAuthorization where
  authorizationId : String
  proposalId : String
  proposalDigest : String
  targetPath : String
  operation : MutationOperation
  workspaceFingerprint : String
  repositorySnapshotFingerprint : String
  policyVersion : String
  state : MutationAuthorizationState
  authorizationMetadata : List (String × Json)
  identities_nonBlank : NonBlank proposalId ∧ NonBlank proposalDigest

/-- Redacted audit outcome of a mutation attempt. -/
structure MutationReceipt where
  mutationId : String
  proposalId : String
  runId : String
  authorizationId : Option String
  targetPath : String
  operation : MutationOperation
  result : MutationResult
  preFingerprint : Option String
  postFingerprint : Option String
  bytesBefore : Nat
  bytesAfter : Nat
  bytesChanged : Nat
  authorizationState : Option MutationAuthorizationState
  policyVersion : String
  failureCode : Option String
  failureReason : Option String
  verificationPassed : Bool
  rollbackPerformed : Bool
  contractVersion : String
  verified_of_completed : result = .completed → verificationPassed = true
  deriving DecidableEq

/-! ## Events -/

/-- Redacted lifecycle events. -/
inductive MutationEvent where
  | proposed (proposalId runId targetPath : String) (operation : MutationOperation)
      (proposalDigest : String)
  | authorized (proposalId runId authorizationId proposalDigest : String)
  | started (proposalId runId authorizationId targetPath : String)
      (operation : MutationOperation)
  | rejected (proposalId runId : String) (code : MutationViolationCode) (stage : String)
      (targetPath : Option String)
  | completed (proposalId runId receiptId targetPath : String) (operation : MutationOperation)
      (result : MutationResult)
  | failed (proposalId runId receiptId : String) (code : MutationViolationCode)
      (stage : String)
  deriving DecidableEq, Repr

end Eag.Mutation
