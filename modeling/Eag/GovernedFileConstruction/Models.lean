/-
  Eag.GovernedFileConstruction.Models

  The evidence of bounded file construction: actions and their plan, the authorization
  request with the upstream evidence the constructor reads, the pre-effect decision and
  the receipts.

  An action, a plan and an authorization carry what their constructors check. A decision
  and a receipt are built by checks at run time (`build`). The texts are `String`s: a
  canonical digest encodes them, which a lone surrogate does not survive.
-/

import Mathlib.Data.Fintype.Basic
import Eag.Foundation.Checks
import Eag.Foundation.Calendar
import Eag.Foundation.Evidence
import Eag.Foundation.PyText
import Eag.Foundation.Sha256

namespace Eag.GovernedFileConstruction

open Eag.Foundation

/-! ## Canonical texts -/

/-- One character of a string literal written with `ensure_ascii=False`. -/
def escapeRaw (c : Char) : List Char :=
  if c.toNat < 32 ∨ c = '"' ∨ c = '\\' then escapeChar c else [c]

/-- A string literal written with `ensure_ascii=False`. -/
def quoteRaw (s : String) : List Char := '"' :: s.toList.flatMap escapeRaw ++ ['"']

/-- Texts with commas between them. -/
def commaJoin : List (List Char) → List Char
  | [] => []
  | [text] => text
  | text :: next :: rest => text ++ ',' :: commaJoin (next :: rest)

mutual

/-- The text of a value written with `ensure_ascii=False`. -/
def renderRaw : Json → List Char
  | .null => "null".toList
  | .bool true => "true".toList
  | .bool false => "false".toList
  | .int n => integerText n
  | .float f => f.text
  | .str s => quoteRaw s
  | .arr items => '[' :: commaJoin (renderRawItems items) ++ [']']
  | .obj entries =>
      '{' :: commaJoin (((renderRawEntries entries).mergeSort keyLe).map
        fun entry => quoteRaw entry.1 ++ ':' :: entry.2) ++ ['}']

def renderRawItems : JsonItems → List (List Char)
  | .nil => []
  | .cons item rest => renderRaw item :: renderRawItems rest

def renderRawEntries : JsonEntries → List (String × List Char)
  | .nil => []
  | .cons key item rest => (key, renderRaw item) :: renderRawEntries rest

end

/-- `canonical_digest`. -/
def canonicalDigest (payload : Json) : String := sha256Hex (String.ofList (renderRaw payload))

theorem isDigest_canonicalDigest (payload : Json) : IsDigest (canonicalDigest payload) :=
  isDigest_sha256Hex _

/-- `require_identifier`. -/
def requireIdentifier (value fieldName : String) : Except String (PLift (NonBlank value)) :=
  ensure (NonBlank value) (fieldName ++ " must be a non-empty string")

/-- `require_sha256`. -/
def requireSha256 (value fieldName : String) : Except String (PLift (IsDigest value)) :=
  ensure (IsDigest value) (fieldName ++ " must be a lowercase SHA-256 digest")

/-- `canonical_timestamp`. -/
def canonicalTimestamp (value : DateTime) (fieldName : String) : Except String DateTime :=
  match value.utcOffset with
  | none => .error (fieldName ++ " must be timezone-aware")
  | some offset => .ok (value.toUtc offset)

/-- The timestamps that `canonical_timestamp` returns. -/
def IsUtc (value : DateTime) : Prop := value.utcOffset = some 0

theorem canonicalTimestamp_of_isUtc {value : DateTime} (h : IsUtc value) (fieldName : String) :
    canonicalTimestamp value fieldName = .ok value := by
  obtain ⟨wall, offset⟩ := value
  cases h
  show Except.ok (DateTime.mk (wall - 0) (some 0)) = _
  rw [Int.sub_zero]

/-! ## Relative paths -/

/-- The separator of path names. -/
abbrev slash : CodePoint := .scalar '/'

/-- What `_normalized_relative_path` accepts. -/
structure NormalizedRelativePath (value : PyText) : Prop where
  nonempty : value ≠ []
  relative : ¬(.scalar '\\' ∈ value ∨ value.head? = some slash ∨ value.getLast? = some slash)
  inside : ¬(PyText.posixIsAbsolute value = true ∨ PyText.posixParts value = [] ∨
    ∃ part ∈ PyText.posixParts value, part = [] ∨ part = PyText.ofString "." ∨
      part = PyText.ofString "..")
  canonical : PyText.posixText value = value

/-- `_normalized_relative_path`. -/
def normalizedRelativePath (value : PyText) :
    Except String (PLift (NormalizedRelativePath value)) := do
  let h1 ← ensure (value ≠ []) "relative_path must be a non-empty string"
  let h2 ← ensure
    (¬(.scalar '\\' ∈ value ∨ value.head? = some slash ∨ value.getLast? = some slash))
    "relative_path must be normalized POSIX-relative text"
  let h3 ← ensure
    (¬(PyText.posixIsAbsolute value = true ∨ PyText.posixParts value = [] ∨
      ∃ part ∈ PyText.posixParts value, part = [] ∨ part = PyText.ofString "." ∨
        part = PyText.ofString ".."))
    "relative_path must not escape the workspace root"
  let h4 ← ensure (PyText.posixText value = value)
    "relative_path must be canonical POSIX-relative text"
  return ⟨h1.down, h2.down, h3.down, h4.down⟩

theorem normalizedRelativePath_ok {value : PyText} (h : NormalizedRelativePath value) :
    normalizedRelativePath value = .ok ⟨h⟩ := by
  simp only [normalizedRelativePath, ensure_of h.nonempty, ensure_of h.relative,
    ensure_of h.inside, ensure_of h.canonical, except_ok_bind]
  rfl

/-- A name that names an entry of the directory it is looked up in. -/
def IsEntryName (name : PyText) : Prop :=
  name ≠ [] ∧ name ≠ PyText.ofString "." ∧ name ≠ PyText.ofString ".." ∧ slash ∉ name

/-- **The names of a normalized path stay inside**: none is empty, `.` or `..`. -/
theorem NormalizedRelativePath.isEntryName {value : PyText} (h : NormalizedRelativePath value)
    {name : PyText} (hname : name ∈ PyText.split slash value) : IsEntryName name := by
  obtain ⟨hroot, hparts, hnames⟩ := (by simpa only [not_or] using h.inside :
    ¬PyText.posixIsAbsolute value = true ∧ PyText.posixParts value ≠ [] ∧ _)
  have hrootless : PyText.posixRoot value = [] := by
    simpa [PyText.posixIsAbsolute] using hroot
  have hmem : name ∈ PyText.posixParts value := by
    rw [← PyText.split_of_posixText hrootless hparts h.canonical]
    exact hname
  have hgood : ¬(name = [] ∨ name = PyText.ofString "." ∨ name = PyText.ofString "..") :=
    fun hbad => hnames ⟨name, hmem, hbad⟩
  obtain ⟨h1, h2, h3⟩ := (by simpa only [not_or] using hgood :
    name ≠ [] ∧ name ≠ PyText.ofString "." ∧ name ≠ PyText.ofString "..")
  exact ⟨h1, h2, h3, PyText.not_mem_of_mem_split hname⟩

/-! ## Actions and plans -/

/-- The bytes of a text. -/
def utf8Bytes (content : String) : List UInt8 := content.toUTF8.data.toList

/-- One file to create. -/
structure ConstructionFileAction where
  sequence : Nat
  relativePath : String
  content : String
  sequence_pos : 1 ≤ sequence
  relativePath_normalized : NormalizedRelativePath (PyText.ofString relativePath)

namespace ConstructionFileAction

/-- `content_digest`, filled in by the constructor or equal to what it calculates. -/
def contentDigest (action : ConstructionFileAction) : String :=
  sha256HexBytes (utf8Bytes action.content)

/-- `byte_count`, filled in by the constructor or equal to what it calculates. -/
def byteCount (action : ConstructionFileAction) : Nat := (utf8Bytes action.content).length

def toPayload (action : ConstructionFileAction) : Json :=
  .object [("byte_count", .int action.byteCount), ("content", .str action.content),
    ("content_digest", .str action.contentDigest), ("kind", .str "create_text_file"),
    ("relative_path", .str action.relativePath), ("sequence", .int action.sequence)]

/-- `relative_path.split("/")`. -/
def parts (action : ConstructionFileAction) : List PyText :=
  PyText.split slash (PyText.ofString action.relativePath)

end ConstructionFileAction

/-- The ordered plan. -/
structure ConstructionActionPlan where
  actions : List ConstructionFileAction
  actions_ne_nil : actions ≠ []
  contiguous : actions.map (·.sequence) = List.range' 1 actions.length
  paths_unique : (actions.map (·.relativePath)).Nodup
  depth_le : ∀ action ∈ actions,
    (PyText.posixParts (PyText.ofString action.relativePath)).length ≤ 8

namespace ConstructionActionPlan

def fileCount (plan : ConstructionActionPlan) : Nat := plan.actions.length

def totalBytes (plan : ConstructionActionPlan) : Nat := (plan.actions.map (·.byteCount)).sum

def calculateDigest (plan : ConstructionActionPlan) : String :=
  canonicalDigest (.object [("actions", .array (plan.actions.map (·.toPayload))),
    ("file_count", .int plan.fileCount),
    ("profile", .str "attested_empty_workspace_create_only_v1"),
    ("schema_version", .str "g2.4.22.construction-action-plan.v1"),
    ("total_bytes", .int plan.totalBytes)])

/-- `plan_digest`, filled in by the constructor or equal to what it calculates. -/
def planDigest (plan : ConstructionActionPlan) : String := plan.calculateDigest

end ConstructionActionPlan

/-! ## Upstream evidence -/

/-- `ConstructionWorkOrderDisposition`. -/
inductive ConstructionWorkOrderDisposition where
  | constructionWorkOrderAttested
  | notAttested
  | unsupportedConstructionProfile
  deriving DecidableEq, Repr

/-- The fields of `LocalConstructionWorkOrderEvidence` that construction reads. -/
@[ext]
structure LocalConstructionWorkOrderEvidence where
  workOrderId : String
  executionId : String
  runId : String
  workspaceId : String
  workspaceRootIdentity : String
  workspaceCustodyAttestationId : String
  workspaceCustodyBindingDigest : String
  actionPlanDigest : String
  maxFileActions : Nat
  maxTotalBytes : Nat
  maxCommandActions : Nat
  expiresAt : DateTime
  expiresAt_utc : IsUtc expiresAt
  workOrderDigest : String
  workOrderDigest_isDigest : IsDigest workOrderDigest

instance : DecidableEq LocalConstructionWorkOrderEvidence := fun _ _ =>
  decidable_of_iff _ LocalConstructionWorkOrderEvidence.ext_iff.symm

/-- `WorkspaceCustodyFilesystemObjectIdentity`. -/
structure WorkspaceCustodyFilesystemObjectIdentity where
  deviceId : String
  inode : String
  deriving DecidableEq

/-- `WorkspaceCustodyAttestation`, all of it: attestations are compared as values. -/
@[ext]
structure WorkspaceCustodyAttestation where
  attestationId : String
  custodyRequestId : String
  custodyRequestDigest : String
  executionId : String
  runId : String
  workspaceId : String
  workspaceRootIdentity : String
  sourceRepositoryIdentity : String
  auditRootIdentity : String
  controlRootIdentity : String
  workspaceObjectIdentity : WorkspaceCustodyFilesystemObjectIdentity
  sourceRepositoryObjectIdentity : WorkspaceCustodyFilesystemObjectIdentity
  auditRootObjectIdentity : WorkspaceCustodyFilesystemObjectIdentity
  controlRootObjectIdentity : WorkspaceCustodyFilesystemObjectIdentity
  custodyPolicyDigest : String
  isolationBindingDigest : String
  occurredAt : DateTime
  bindingDigest : String
  bindingDigest_isDigest : IsDigest bindingDigest

instance : DecidableEq WorkspaceCustodyAttestation := fun _ _ =>
  decidable_of_iff _ WorkspaceCustodyAttestation.ext_iff.symm

/-- The fields of `ConstructionWorkOrderAssessmentRequest` that construction reads. -/
structure ConstructionWorkOrderAssessmentRequest where
  assessmentRequestId : String
  workspaceCustodyAttestation : WorkspaceCustodyAttestation
  workOrder : LocalConstructionWorkOrderEvidence
  requestDigest : String

/-- The fields of `ConstructionWorkOrderAssessment` that construction reads. -/
structure ConstructionWorkOrderAssessment where
  assessmentId : String
  assessedRequestId : String
  assessedRequestDigest : String
  workspaceId : String
  workOrderId : Option String
  disposition : ConstructionWorkOrderDisposition
  assessmentDigest : String
  assessmentDigest_isDigest : IsDigest assessmentDigest
  schemaVersion : String

/-- The fields of `WorkspaceCustodyRequest` that construction reads; the digests are
    properties of the request. -/
structure WorkspaceCustodyRequest where
  custodyRequestId : String
  executionId : String
  runId : String
  workspaceId : String
  requestDigest : String
  policyDigest : String

/-- The fields of `WorkspaceCustodyRootBinding` that construction reads. -/
structure WorkspaceCustodyRootBinding where
  bindingId : String
  custodyRequestId : String
  custodyRequestDigest : String
  custodyAttestationId : String
  custodyAttestationBindingDigest : String
  workspaceObjectIdentity : WorkspaceCustodyFilesystemObjectIdentity
  bindingDigest : String
  bindingDigest_isDigest : IsDigest bindingDigest

/-- What the `calculate_digest` methods of the upstream evidence return. -/
structure UpstreamDigests where
  assessmentRequest : ConstructionWorkOrderAssessmentRequest → String
  assessment : ConstructionWorkOrderAssessment → String
  workOrder : LocalConstructionWorkOrderEvidence → String
  custodyAttestation : WorkspaceCustodyAttestation → String
  custodyRootBinding : WorkspaceCustodyRootBinding → String

/-! ## The authorization request -/

/-- `ConstructionAuthorizationRequest`. -/
structure ConstructionAuthorizationRequest where
  authorizationId : String
  authorizationId_nonBlank : NonBlank authorizationId
  assessmentRequest : ConstructionWorkOrderAssessmentRequest
  assessment : ConstructionWorkOrderAssessment
  custodyRequest : WorkspaceCustodyRequest
  custodyAttestation : WorkspaceCustodyAttestation
  custodyRootBinding : WorkspaceCustodyRootBinding
  plan : ConstructionActionPlan
  timestamp : DateTime
  timestamp_utc : IsUtc timestamp

namespace ConstructionAuthorizationRequest

def calculateDigest (authorization : ConstructionAuthorizationRequest) : String :=
  let workOrder := authorization.assessmentRequest.workOrder
  canonicalDigest (.object [
    ("assessment_digest", .str authorization.assessment.assessmentDigest),
    ("assessment_id", .str authorization.assessment.assessmentId),
    ("assessment_request_digest", .str authorization.assessmentRequest.requestDigest),
    ("assessment_request_id", .str authorization.assessmentRequest.assessmentRequestId),
    ("authorization_id", .str authorization.authorizationId),
    ("custody_attestation_binding_digest", .str authorization.custodyAttestation.bindingDigest),
    ("custody_attestation_id", .str authorization.custodyAttestation.attestationId),
    ("custody_request_digest", .str authorization.custodyRequest.requestDigest),
    ("custody_request_id", .str authorization.custodyRequest.custodyRequestId),
    ("custody_root_binding_digest", .str authorization.custodyRootBinding.bindingDigest),
    ("custody_root_binding_id", .str authorization.custodyRootBinding.bindingId),
    ("plan_digest", .str authorization.plan.planDigest),
    ("schema_version", .str "g2.4.22.construction-authorization.v1"),
    ("timestamp", .str authorization.timestamp.isoformat),
    ("work_order_digest", .str workOrder.workOrderDigest),
    ("work_order_id", .str workOrder.workOrderId)])

/-- `authorization_digest`, filled in by the constructor or equal to what it calculates. -/
def authorizationDigest (authorization : ConstructionAuthorizationRequest) : String :=
  authorization.calculateDigest

end ConstructionAuthorizationRequest

/-! ## Findings and dispositions -/

/-- `ConstructionFindingCode`. -/
inductive ConstructionFindingCode where
  | assessmentInvalid
  | requestProvenanceMismatch
  | assessmentNotAttested
  | workOrderBindingMismatch
  | planBindingMismatch
  | planLimitExceeded
  | custodyHandoffMismatch
  | handleRejected
  | constructionCapabilityUnsupported
  | pathUnsafe
  | targetExists
  | filesystemFailure
  | postwriteVerificationFailed
  deriving DecidableEq, Repr

def ConstructionFindingCode.value : ConstructionFindingCode → String
  | .assessmentInvalid => "construction_work_order_assessment_invalid"
  | .requestProvenanceMismatch => "construction_work_order_request_provenance_mismatch"
  | .assessmentNotAttested => "construction_work_order_assessment_not_attested"
  | .workOrderBindingMismatch => "work_order_binding_mismatch"
  | .planBindingMismatch => "plan_binding_mismatch"
  | .planLimitExceeded => "plan_limit_exceeded"
  | .custodyHandoffMismatch => "custody_handoff_mismatch"
  | .handleRejected => "custody_root_handle_rejected"
  | .constructionCapabilityUnsupported => "construction_capability_unsupported"
  | .pathUnsafe => "path_unsafe"
  | .targetExists => "target_exists"
  | .filesystemFailure => "filesystem_failure"
  | .postwriteVerificationFailed => "postwrite_verification_failed"

/-- `ConstructionAuthorizationDisposition`. -/
inductive ConstructionAuthorizationDisposition where
  | attested
  | refused
  deriving DecidableEq, Repr

/-- `ConstructionBatchDisposition`. -/
inductive ConstructionBatchDisposition where
  | constructionFilesCreated
  | constructionRefused
  | partialConstructionStopped
  deriving DecidableEq, Repr

/-! ## The digests a decision and a receipt repeat -/

/-- What a decision and a batch receipt take over from the authorization. -/
structure AuthorizationBinding where
  authorizationId : String
  authorizationDigest : String
  planDigest : String
  workOrderDigest : String
  assessmentDigest : String
  custodyAttestationBindingDigest : String
  custodyRootBindingDigest : String
  deriving DecidableEq

/-- The checks both constructors make of these fields. -/
def AuthorizationBinding.check (binding : AuthorizationBinding) : Except String Unit := do
  let _ ← requireIdentifier binding.authorizationId "authorization_id"
  let _ ← requireSha256 binding.authorizationDigest "authorization_digest"
  let _ ← requireSha256 binding.planDigest "plan_digest"
  let _ ← requireSha256 binding.workOrderDigest "work_order_digest"
  let _ ← requireSha256 binding.assessmentDigest "assessment_digest"
  let _ ← requireSha256 binding.custodyAttestationBindingDigest
    "custody_attestation_binding_digest"
  let _ ← requireSha256 binding.custodyRootBindingDigest "custody_root_binding_digest"

theorem AuthorizationBinding.check_ok {binding : AuthorizationBinding}
    (hid : NonBlank binding.authorizationId) (hauthorization : IsDigest binding.authorizationDigest)
    (hplan : IsDigest binding.planDigest) (horder : IsDigest binding.workOrderDigest)
    (hassessment : IsDigest binding.assessmentDigest)
    (hattestation : IsDigest binding.custodyAttestationBindingDigest)
    (hroot : IsDigest binding.custodyRootBindingDigest) : binding.check = .ok () := by
  simp only [check, requireIdentifier, requireSha256, ensure_of hid, ensure_of hauthorization,
    ensure_of hplan, ensure_of horder, ensure_of hassessment, ensure_of hattestation,
    ensure_of hroot, except_ok_bind]
  rfl

/-- The fields as `_decision` and `_batch_receipt` take them over. -/
def ConstructionAuthorizationRequest.binding (authorization : ConstructionAuthorizationRequest) :
    AuthorizationBinding where
  authorizationId := authorization.authorizationId
  authorizationDigest := authorization.authorizationDigest
  planDigest := authorization.plan.planDigest
  workOrderDigest := authorization.assessmentRequest.workOrder.workOrderDigest
  assessmentDigest := authorization.assessment.assessmentDigest
  custodyAttestationBindingDigest := authorization.custodyAttestation.bindingDigest
  custodyRootBindingDigest := authorization.custodyRootBinding.bindingDigest

/-- **The fields of an authorization pass the checks of what repeats them.** -/
theorem ConstructionAuthorizationRequest.binding_check
    (authorization : ConstructionAuthorizationRequest) :
    authorization.binding.check = .ok () :=
  AuthorizationBinding.check_ok authorization.authorizationId_nonBlank
    (isDigest_canonicalDigest _) (isDigest_canonicalDigest _)
    authorization.assessmentRequest.workOrder.workOrderDigest_isDigest
    authorization.assessment.assessmentDigest_isDigest
    authorization.custodyAttestation.bindingDigest_isDigest
    authorization.custodyRootBinding.bindingDigest_isDigest

/-! ## The decision -/

/-- `ConstructionAuthorizationDecision`. -/
structure ConstructionAuthorizationDecision where
  disposition : ConstructionAuthorizationDisposition
  findings : List (Finding ConstructionFindingCode)
  binding : AuthorizationBinding
  findings_ordered : Finding.Ordered ConstructionFindingCode.value findings
  attested_clean : disposition = .attested → findings = []
  refused_found : disposition = .refused → findings ≠ []

namespace ConstructionAuthorizationDecision

/-- The constructor. -/
def build (disposition : ConstructionAuthorizationDisposition)
    (findings : List (Finding ConstructionFindingCode)) (binding : AuthorizationBinding) :
    Except String ConstructionAuthorizationDecision := do
  let h1 ← ensure (Finding.Ordered ConstructionFindingCode.value findings)
    "findings must be strictly ordered and unique"
  binding.check
  let h2 ← ensure (disposition = .attested → findings = [])
    "attested construction decision cannot carry findings"
  let h3 ← ensure (disposition = .refused → findings ≠ [])
    "refused construction decision requires findings"
  return ⟨disposition, findings, binding, h1.down, h2.down, h3.down⟩

end ConstructionAuthorizationDecision

/-! ## Receipts -/

/-- `ConstructionActionReceipt`. -/
structure ConstructionActionReceipt where
  sequence : Nat
  relativePath : String
  contentDigest : String
  byteCount : Nat
  occurredAt : DateTime
  deriving DecidableEq

namespace ConstructionActionReceipt

/-- The constructor. -/
def build (sequence : Nat) (relativePath contentDigest : String) (byteCount : Nat)
    (occurredAt : DateTime) : Except String ConstructionActionReceipt := do
  let _ ← ensure (1 ≤ sequence) "sequence must be a positive int"
  let _ ← normalizedRelativePath (PyText.ofString relativePath)
  let _ ← requireSha256 contentDigest "content_digest"
  let occurredAt ← canonicalTimestamp occurredAt "occurred_at"
  return ⟨sequence, relativePath, contentDigest, byteCount, occurredAt⟩

end ConstructionActionReceipt

/-- The receipt of an action. -/
def ConstructionFileAction.receipt (action : ConstructionFileAction) (occurredAt : DateTime) :
    ConstructionActionReceipt :=
  ⟨action.sequence, action.relativePath, action.contentDigest, action.byteCount, occurredAt⟩

theorem ConstructionFileAction.receipt_build (action : ConstructionFileAction)
    {occurredAt : DateTime} (h : IsUtc occurredAt) :
    ConstructionActionReceipt.build action.sequence action.relativePath action.contentDigest
      action.byteCount occurredAt = .ok (action.receipt occurredAt) := by
  have hdigest : IsDigest action.contentDigest := isDigest_sha256HexBytes _
  simp only [ConstructionActionReceipt.build, requireSha256, ensure_of action.sequence_pos,
    normalizedRelativePath_ok action.relativePath_normalized, ensure_of hdigest,
    canonicalTimestamp_of_isUtc h, except_ok_bind]
  rfl

/-- `ConstructionBatchReceipt`. -/
structure ConstructionBatchReceipt where
  disposition : ConstructionBatchDisposition
  binding : AuthorizationBinding
  actionReceipts : List ConstructionActionReceipt
  occurredAt : DateTime
  firstFailure : Option ConstructionFindingCode
  receipts_contiguous :
    actionReceipts.map (·.sequence) = List.range' 1 actionReceipts.length
  created_clean : disposition = .constructionFilesCreated → firstFailure = none
  refused_empty : disposition = .constructionRefused →
    actionReceipts = [] ∧ firstFailure ≠ none
  partial_found : disposition = .partialConstructionStopped → firstFailure ≠ none

namespace ConstructionBatchReceipt

/-- The constructor. -/
def build (disposition : ConstructionBatchDisposition) (binding : AuthorizationBinding)
    (actionReceipts : List ConstructionActionReceipt) (occurredAt : DateTime)
    (firstFailure : Option ConstructionFindingCode) : Except String ConstructionBatchReceipt := do
  binding.check
  let h1 ← ensure (actionReceipts.map (·.sequence) = List.range' 1 actionReceipts.length)
    "action receipt sequences must be a contiguous successful prefix"
  let occurredAt ← canonicalTimestamp occurredAt "occurred_at"
  let h2 ← ensure (disposition = .constructionFilesCreated → firstFailure = none)
    "completed construction receipt cannot carry a failure"
  let h3 ← ensure (disposition = .constructionRefused →
      actionReceipts = [] ∧ firstFailure ≠ none)
    "pre-effect refusal requires no action receipt and one failure"
  let h4 ← ensure (disposition = .partialConstructionStopped → firstFailure ≠ none)
    "partial construction requires a first failure"
  return ⟨disposition, binding, actionReceipts, occurredAt, firstFailure, h1.down, h2.down,
    h3.down, h4.down⟩

/-- When the constructor succeeds, and with what. -/
theorem build_ok {disposition : ConstructionBatchDisposition} {binding : AuthorizationBinding}
    {actionReceipts : List ConstructionActionReceipt} {occurredAt : DateTime}
    {firstFailure : Option ConstructionFindingCode} (hbinding : binding.check = .ok ())
    (hcontiguous : actionReceipts.map (·.sequence) = List.range' 1 actionReceipts.length)
    (hutc : IsUtc occurredAt)
    (hcreated : disposition = .constructionFilesCreated → firstFailure = none)
    (hrefused : disposition = .constructionRefused →
      actionReceipts = [] ∧ firstFailure ≠ none)
    (hpart : disposition = .partialConstructionStopped → firstFailure ≠ none) :
    build disposition binding actionReceipts occurredAt firstFailure =
      .ok ⟨disposition, binding, actionReceipts, occurredAt, firstFailure, hcontiguous, hcreated,
        hrefused, hpart⟩ := by
  simp only [build, hbinding, canonicalTimestamp_of_isUtc hutc, except_ok_bind,
    ensure_of hcontiguous, ensure_of hcreated, ensure_of hrefused, ensure_of hpart]
  rfl

end ConstructionBatchReceipt

end Eag.GovernedFileConstruction
