/-
  Eag.GovernedWorkspace.Models

  Custody evidence and the live root handoff.

  What the constructors check is carried by the types: an identifier is not blank, a
  digest is a lowercase SHA-256 digest, an occurrence is in UTC. A binding digest is a
  function of the rest of its record. An admission and a handoff are one of the two shapes
  their constructors admit.
-/

import Eag.Foundation.Checks
import Eag.Foundation.Calendar
import Eag.Foundation.JsonEncoder

namespace Eag.GovernedWorkspace

open Eag.Foundation

/-! ## Exceptions -/

/-- What can escape the custody gate. -/
inductive Raised where
  | osError
  /-- `ValueError`, of a path with a NUL or a text without an encoding. -/
  | valueError
  | overflowError
  | memoryError
  /-- `WorkspaceCustodyError`. -/
  | custody (text : String)
  | storeCorruption
  | storeUnavailable
  /-- Any other exception of the injected store or probe. -/
  | foreign
  /-- A dict without the key that is looked up. -/
  | keyError
  /-- Not an exception: a loop of the model that ran out of steps. -/
  | stuck
  deriving DecidableEq, Repr

/-- `WorkspaceCustodyRejectionReason`. -/
inductive WorkspaceCustodyRejectionReason where
  | invalidIsolation
  | unsafeRoot
  | nonemptyWorkspace
  | missingAttestation
  | attestationUnknown
  | attestationBindingMismatch
  | storeUnavailable
  | storeCorrupt
  | attestationIdDuplicate
  | attestationIdConflict
  | handoffCapabilityUnsupported
  | handleAlreadyConsumed
  | handleClosed
  | handleBindingMismatch
  | handleContextMismatch
  | custodyContinuityBroken
  deriving DecidableEq, Repr

/-! ## Fields -/

/-- What `_require_non_empty` returns. -/
abbrev Identifier := { value : PyText // value.NonBlank }

/-- What `_require_digest` returns. -/
abbrev Digest := { value : String // IsDigest value }

/-- What `_canonical_occurrence` returns. -/
abbrev Occurrence := { value : DateTime // value.utcOffset = some 0 }

/-- The digest of a payload. -/
def digestOf (payload : Payload) : Digest := ⟨payload.digest, payload.isDigest_digest⟩

/-- The microseconds from the first to the last day a `datetime` can name. -/
def datetimeEnd : Int := 3652059 * 86400000000

/-- `_canonical_occurrence`. -/
def canonicalOccurrence (value : DateTime) : Except Raised Occurrence :=
  match value.utcOffset with
  | none => .error (.custody "occurred_at must be timezone-aware")
  | some offset =>
      if 0 ≤ value.wall - offset ∧ value.wall - offset < datetimeEnd then
        .ok ⟨value.toUtc offset, value.toUtc_utcOffset offset⟩
      else .error .overflowError

/-- `root_identity`. -/
def rootIdentity (root : PyText) : Except Raised Digest :=
  match root.scalars? with
  | none => .error .valueError
  | some text => .ok ⟨sha256Hex (String.ofList text), isDigest_sha256Hex _⟩

/-! ## Requests -/

/-- `WorkspaceCustodyPolicy`. -/
structure WorkspaceCustodyPolicy where
  requireExistingRoots : Bool
  requireEmptyWorkspace : Bool
  forbidRootSymlinks : Bool
  deriving DecidableEq, Repr

namespace WorkspaceCustodyPolicy

/-- `to_payload`. -/
def toPayload (policy : WorkspaceCustodyPolicy) : Payload := .object
  [("forbid_root_symlinks", .bool policy.forbidRootSymlinks),
   ("require_empty_workspace", .bool policy.requireEmptyWorkspace),
   ("require_existing_roots", .bool policy.requireExistingRoots)]

end WorkspaceCustodyPolicy

/-- The names of the declared roots, in the order the gate opens them. -/
inductive Root where
  | workspace
  | source
  | audit
  | control
  deriving DecidableEq, Repr

/-- The roots as the gate's dictionaries list them. -/
def Root.all : List Root := [.workspace, .source, .audit, .control]

/-- `WorkspaceCustodyRequest`; a root is the text of its path. -/
structure WorkspaceCustodyRequest where
  attestationId : Identifier
  executionId : Identifier
  runId : Identifier
  workspaceId : Identifier
  workspaceRoot : PyText
  sourceRepositoryRoot : PyText
  auditRoot : PyText
  controlRoot : PyText
  policy : WorkspaceCustodyPolicy
  custodyRequestId : Identifier

namespace WorkspaceCustodyRequest

/-- The declared path of a root. -/
def root (request : WorkspaceCustodyRequest) : Root → PyText
  | .workspace => request.workspaceRoot
  | .source => request.sourceRepositoryRoot
  | .audit => request.auditRoot
  | .control => request.controlRoot

/-- `to_payload`. -/
def toPayload (request : WorkspaceCustodyRequest) : Payload := .object
  [("attestation_id", .str request.attestationId),
   ("audit_root", .str request.auditRoot),
   ("control_root", .str request.controlRoot),
   ("custody_request_id", .str request.custodyRequestId),
   ("execution_id", .str request.executionId),
   ("policy", request.policy.toPayload),
   ("run_id", .str request.runId),
   ("schema_version", .text "g2.4.10-custody-request.v2"),
   ("source_repository_root", .str request.sourceRepositoryRoot),
   ("workspace_id", .str request.workspaceId),
   ("workspace_root", .str request.workspaceRoot)]

/-- `request_digest`. -/
def requestDigest (request : WorkspaceCustodyRequest) : Digest := digestOf request.toPayload

end WorkspaceCustodyRequest

/-! ## Observed objects -/

/-- `WorkspaceCustodyFilesystemObjectIdentity`. -/
structure WorkspaceCustodyFilesystemObjectIdentity where
  deviceId : List Char
  inode : List Char
  deriving DecidableEq, Repr

namespace WorkspaceCustodyFilesystemObjectIdentity

/-- The identity of what `os.fstat` reports: `str(st_dev)` and `str(st_ino)`. -/
def observed (stat : Nat × Nat) : WorkspaceCustodyFilesystemObjectIdentity :=
  ⟨Nat.toDigits 10 stat.1, Nat.toDigits 10 stat.2⟩

theorem observed_injective : Function.Injective observed := by
  intro a b h
  have hdevice := congrArg deviceId h
  have hinode := congrArg inode h
  exact Prod.ext (toDigits_inj hdevice) (toDigits_inj hinode)

/-- `to_payload`. -/
def toPayload (identity : WorkspaceCustodyFilesystemObjectIdentity) : Payload := .object
  [("device_id", .str (identity.deviceId.map .scalar)),
   ("inode", .str (identity.inode.map .scalar)),
   ("schema_version", .text "g2.4.10-filesystem-object-identity.v1")]

/-- `digest`. -/
def digest (identity : WorkspaceCustodyFilesystemObjectIdentity) : Digest :=
  digestOf identity.toPayload

end WorkspaceCustodyFilesystemObjectIdentity

/-! ## Attestations -/

/-- `WorkspaceCustodyAttestation`. -/
structure WorkspaceCustodyAttestation where
  attestationId : Identifier
  custodyRequestId : Identifier
  custodyRequestDigest : Digest
  executionId : Identifier
  runId : Identifier
  workspaceId : Identifier
  workspaceRootIdentity : Digest
  sourceRepositoryIdentity : Digest
  auditRootIdentity : Digest
  controlRootIdentity : Digest
  workspaceObjectIdentity : WorkspaceCustodyFilesystemObjectIdentity
  sourceRepositoryObjectIdentity : WorkspaceCustodyFilesystemObjectIdentity
  auditRootObjectIdentity : WorkspaceCustodyFilesystemObjectIdentity
  controlRootObjectIdentity : WorkspaceCustodyFilesystemObjectIdentity
  custodyPolicyDigest : Digest
  isolationBindingDigest : Digest
  occurredAt : Occurrence
  deriving DecidableEq

/-- `isolation_binding_digest`. -/
def isolationBindingDigest (executionId runId workspaceId : Identifier)
    (workspaceRoot sourceRepository auditRoot controlRoot : Digest) : Digest :=
  digestOf <| .object
    [("audit_root_identity", .text auditRoot),
     ("control_root_identity", .text controlRoot),
     ("execution_id", .str executionId),
     ("run_id", .str runId),
     ("source_repository_identity", .text sourceRepository),
     ("workspace_id", .str workspaceId),
     ("workspace_root_identity", .text workspaceRoot)]

namespace WorkspaceCustodyAttestation

/-- `_payload_without_digest`. -/
def payloadWithoutDigest (attestation : WorkspaceCustodyAttestation) : Payload := .object
  [("attestation_id", .str attestation.attestationId),
   ("audit_root_identity", .text attestation.auditRootIdentity),
   ("audit_root_object_identity", attestation.auditRootObjectIdentity.toPayload),
   ("control_root_identity", .text attestation.controlRootIdentity),
   ("control_root_object_identity", attestation.controlRootObjectIdentity.toPayload),
   ("custody_policy_digest", .text attestation.custodyPolicyDigest),
   ("custody_request_digest", .text attestation.custodyRequestDigest),
   ("custody_request_id", .str attestation.custodyRequestId),
   ("execution_id", .str attestation.executionId),
   ("isolation_binding_digest", .text attestation.isolationBindingDigest),
   ("occurred_at", .text attestation.occurredAt.val.isoformat),
   ("run_id", .str attestation.runId),
   ("schema_version", .text "g2.4.10-custody-attestation.v2"),
   ("source_repository_identity", .text attestation.sourceRepositoryIdentity),
   ("source_repository_object_identity", attestation.sourceRepositoryObjectIdentity.toPayload),
   ("workspace_id", .str attestation.workspaceId),
   ("workspace_root_identity", .text attestation.workspaceRootIdentity),
   ("workspace_object_identity", attestation.workspaceObjectIdentity.toPayload)]

/-- `binding_digest`. -/
def bindingDigest (attestation : WorkspaceCustodyAttestation) : Digest :=
  digestOf attestation.payloadWithoutDigest

/-- `issue_from_observations`. -/
def issueFromObservations (request : WorkspaceCustodyRequest)
    (workspace source audit control : WorkspaceCustodyFilesystemObjectIdentity)
    (occurredAt : DateTime) : Except Raised WorkspaceCustodyAttestation := do
  let occurred ← canonicalOccurrence occurredAt
  let pathWorkspace ← rootIdentity request.workspaceRoot
  let pathSource ← rootIdentity request.sourceRepositoryRoot
  let pathAudit ← rootIdentity request.auditRoot
  let pathControl ← rootIdentity request.controlRoot
  return {
    attestationId := request.attestationId
    custodyRequestId := request.custodyRequestId
    custodyRequestDigest := request.requestDigest
    executionId := request.executionId
    runId := request.runId
    workspaceId := request.workspaceId
    workspaceRootIdentity := pathWorkspace
    sourceRepositoryIdentity := pathSource
    auditRootIdentity := pathAudit
    controlRootIdentity := pathControl
    workspaceObjectIdentity := workspace
    sourceRepositoryObjectIdentity := source
    auditRootObjectIdentity := audit
    controlRootObjectIdentity := control
    custodyPolicyDigest := digestOf request.policy.toPayload
    isolationBindingDigest := GovernedWorkspace.isolationBindingDigest request.executionId
      request.runId request.workspaceId pathWorkspace pathSource pathAudit pathControl
    occurredAt := occurred }

end WorkspaceCustodyAttestation

/-- `WorkspaceCustodyAdmission`. -/
inductive WorkspaceCustodyAdmission where
  | attested (attestation : WorkspaceCustodyAttestation)
  | rejected (reason : WorkspaceCustodyRejectionReason)

/-! ## The root handoff -/

theorem nonBlank_append {value : PyText} (h : value.NonBlank) (rest : PyText) :
    PyText.NonBlank (value ++ rest) := by
  unfold PyText.NonBlank PyText.isBlank at *
  rw [List.all_append, h, Bool.false_and]

/-- `WorkspaceCustodyRootBinding`. -/
structure WorkspaceCustodyRootBinding where
  bindingId : Identifier
  custodyRequestId : Identifier
  custodyRequestDigest : Digest
  custodyAttestationId : Identifier
  custodyAttestationBindingDigest : Digest
  workspaceObjectIdentity : WorkspaceCustodyFilesystemObjectIdentity
  containmentCapabilityDigest : Digest
  acquiredAt : Occurrence
  deriving DecidableEq

namespace WorkspaceCustodyRootBinding

/-- `binding_digest`. -/
def bindingDigest (binding : WorkspaceCustodyRootBinding) : Digest := digestOf <| .object
  [("acquired_at", .text binding.acquiredAt.val.isoformat),
   ("binding_id", .str binding.bindingId),
   ("containment_capability_digest", .text binding.containmentCapabilityDigest),
   ("containment_capability_profile", .text "g2.4.10-descriptor-handoff-posix.v1"),
   ("custody_attestation_binding_digest", .text binding.custodyAttestationBindingDigest),
   ("custody_attestation_id", .str binding.custodyAttestationId),
   ("custody_request_digest", .text binding.custodyRequestDigest),
   ("custody_request_id", .str binding.custodyRequestId),
   ("schema_version", .text "g2.4.10-custody-root-binding.v1"),
   ("workspace_object_identity", binding.workspaceObjectIdentity.toPayload)]

/-- `issue`. -/
def issue (request : WorkspaceCustodyRequest) (attestation : WorkspaceCustodyAttestation)
    (workspace : WorkspaceCustodyFilesystemObjectIdentity) (capabilityDigest : Digest)
    (acquiredAt : DateTime) : Except Raised WorkspaceCustodyRootBinding := do
  let occurred ← canonicalOccurrence acquiredAt
  return {
    bindingId := ⟨attestation.attestationId.val ++ PyText.ofString ":root-binding",
      nonBlank_append attestation.attestationId.property _⟩
    custodyRequestId := request.custodyRequestId
    custodyRequestDigest := request.requestDigest
    custodyAttestationId := attestation.attestationId
    custodyAttestationBindingDigest := attestation.bindingDigest
    workspaceObjectIdentity := workspace
    containmentCapabilityDigest := capabilityDigest
    acquiredAt := occurred }

end WorkspaceCustodyRootBinding

/-- The number of a descriptor: the count of the ones opened before it. -/
abbrev Descriptor := Nat

/-- `WorkspaceCustodyRootHandle` when it is issued: not consumed, not closed, and in the
    registry of issued handles. -/
structure WorkspaceCustodyRootHandle where
  descriptor : Descriptor
  bindingDigest : Digest
  deriving DecidableEq

/-- `WorkspaceCustodyRootHandoff`. -/
inductive WorkspaceCustodyRootHandoff where
  | acquired (attestation : WorkspaceCustodyAttestation) (binding : WorkspaceCustodyRootBinding)
      (handle : WorkspaceCustodyRootHandle)
  | rejected (reason : WorkspaceCustodyRejectionReason)

end Eag.GovernedWorkspace
