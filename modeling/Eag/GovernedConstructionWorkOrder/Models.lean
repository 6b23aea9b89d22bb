/-
  Eag.GovernedConstructionWorkOrder.Models

  Construction work orders, requests to assess one and the assessments
  (`governed_construction_work_order/models.py`).
-/

import Eag.GovernedComposition.Models
import Eag.GovernedOutcomePolicy.Models

namespace Eag.GovernedConstructionWorkOrder

open Eag.Foundation Eag.GovernedDestinationContract.Evidence Eag.GovernedOutcomePolicy
open Eag.GovernedComposition (RuntimeCompositionAttestation)
open Eag.GovernedWorkspace (Digest Occurrence WorkspaceCustodyAttestation digestOf)

/-- `CONSTRUCTION_WORK_ORDER_SCHEMA_VERSION`. -/
def constructionWorkOrderSchemaVersion : String :=
  "g2.4.21.local-construction-work-order.v1"

/-! ## Vocabulary -/

/-- `WorkspaceCustodyDisposition`. -/
inductive WorkspaceCustodyDisposition where
  | attested
  deriving DecidableEq, Repr

/-- `custody.disposition`: the class of the attestation admits one. -/
def custodyDisposition (_ : WorkspaceCustodyAttestation) : WorkspaceCustodyDisposition :=
  .attested

/-- `ConstructionWorkOrderDisposition`. -/
inductive ConstructionWorkOrderDisposition where
  | constructionWorkOrderAttested
  | notAttested
  | unsupportedConstructionProfile
  deriving DecidableEq, Repr

/-- `ConstructionWorkOrderFindingCode`. -/
inductive ConstructionWorkOrderFindingCode where
  | workOrderExpired
  | workspaceCustodyInvalid
  | workspaceCustodyBindingMismatch
  | runtimeCompositionInvalid
  | runtimeCompositionBindingMismatch
  | contractAssessmentInvalid
  | contractBindingMismatch
  | outcomePolicyAssessmentInvalid
  | outcomePolicyBindingMismatch
  | workspaceBindingMismatch
  | unsupportedCapabilityDeclaration
  | invalidStaticLimits
  | unsupportedConstructionProfile
  deriving DecidableEq, Repr

def ConstructionWorkOrderFindingCode.value : ConstructionWorkOrderFindingCode → String
  | .workOrderExpired => "work_order_expired"
  | .workspaceCustodyInvalid => "workspace_custody_invalid"
  | .workspaceCustodyBindingMismatch => "workspace_custody_binding_mismatch"
  | .runtimeCompositionInvalid => "runtime_composition_invalid"
  | .runtimeCompositionBindingMismatch => "runtime_composition_binding_mismatch"
  | .contractAssessmentInvalid => "contract_assessment_invalid"
  | .contractBindingMismatch => "contract_binding_mismatch"
  | .outcomePolicyAssessmentInvalid => "outcome_policy_assessment_invalid"
  | .outcomePolicyBindingMismatch => "outcome_policy_binding_mismatch"
  | .workspaceBindingMismatch => "workspace_binding_mismatch"
  | .unsupportedCapabilityDeclaration => "unsupported_capability_declaration"
  | .invalidStaticLimits => "invalid_static_limits"
  | .unsupportedConstructionProfile => "unsupported_construction_profile"

theorem ConstructionWorkOrderFindingCode.value_injective :
    Function.Injective ConstructionWorkOrderFindingCode.value := by
  intro a b h
  cases a <;> cases b <;> first | rfl | exact absurd h (by decide)

/-- `ConstructionWorkOrderFinding`. -/
abbrev ConstructionWorkOrderFinding :=
  EvidenceFinding ConstructionWorkOrderFindingCode Compact

/-! ## Work orders -/

/-- `LocalConstructionWorkOrderEvidence`, but for the digest of it, which is calculated from
    the rest; the profile is the text of the member or the text given. -/
structure LocalConstructionWorkOrderEvidence where
  workOrderId : CompactIdentifier
  executionId : CompactIdentifier
  runId : CompactIdentifier
  workspaceId : CompactIdentifier
  workspaceRootIdentity : Digest
  workspaceCustodyAttestationId : CompactIdentifier
  workspaceCustodyBindingDigest : Digest
  runtimeCompositionAttestationId : CompactIdentifier
  runtimeCompositionBindingDigest : Digest
  destinationContractId : CompactIdentifier
  destinationContractDigest : Digest
  destinationContractAssessmentId : CompactIdentifier
  destinationContractAssessmentDigest : Digest
  outcomePolicyId : CompactIdentifier
  outcomePolicyDigest : Digest
  outcomePolicyAssessmentId : CompactIdentifier
  outcomePolicyAssessmentDigest : Digest
  constructionRequirementsDigest : Digest
  architectureSpecificationDigest : Digest
  actionPlanDigest : Digest
  declaredCapabilityIds : List PyText
  maxFileActions : Nat
  maxTotalBytes : Nat
  maxCommandActions : Nat
  constructionProfile : CompactIdentifier
  issuedAt : Occurrence
  expiresAt : Occurrence
  declaredCapabilityIds_ordered :
    declaredCapabilityIds ≠ [] ∧ OrderedTexts Compact declaredCapabilityIds
  limits_positive : 0 < maxFileActions ∧ 0 < maxTotalBytes
  expires_later : issuedAt.val.instant < expiresAt.val.instant

/-- `work_order_digest`. -/
def LocalConstructionWorkOrderEvidence.workOrderDigest
    (workOrder : LocalConstructionWorkOrderEvidence) : Digest := digestOf <| .object
  [("action_plan_digest", .text workOrder.actionPlanDigest),
   ("architecture_specification_digest", .text workOrder.architectureSpecificationDigest),
   ("construction_profile", .str workOrder.constructionProfile),
   ("construction_requirements_digest", .text workOrder.constructionRequirementsDigest),
   ("declared_capability_ids", .array (workOrder.declaredCapabilityIds.map .str)),
   ("destination_contract_assessment_digest",
     .text workOrder.destinationContractAssessmentDigest),
   ("destination_contract_assessment_id", .str workOrder.destinationContractAssessmentId),
   ("destination_contract_digest", .text workOrder.destinationContractDigest),
   ("destination_contract_id", .str workOrder.destinationContractId),
   ("execution_id", .str workOrder.executionId),
   ("expires_at", .text workOrder.expiresAt.val.isoformat),
   ("issued_at", .text workOrder.issuedAt.val.isoformat),
   ("max_command_actions", .int workOrder.maxCommandActions),
   ("max_file_actions", .int workOrder.maxFileActions),
   ("max_total_bytes", .int workOrder.maxTotalBytes),
   ("outcome_policy_assessment_digest", .text workOrder.outcomePolicyAssessmentDigest),
   ("outcome_policy_assessment_id", .str workOrder.outcomePolicyAssessmentId),
   ("outcome_policy_digest", .text workOrder.outcomePolicyDigest),
   ("outcome_policy_id", .str workOrder.outcomePolicyId),
   ("run_id", .str workOrder.runId),
   ("runtime_composition_attestation_id", .str workOrder.runtimeCompositionAttestationId),
   ("runtime_composition_binding_digest", .text workOrder.runtimeCompositionBindingDigest),
   ("schema_version", .text constructionWorkOrderSchemaVersion),
   ("work_order_id", .str workOrder.workOrderId),
   ("workspace_custody_attestation_id", .str workOrder.workspaceCustodyAttestationId),
   ("workspace_custody_binding_digest", .text workOrder.workspaceCustodyBindingDigest),
   ("workspace_id", .str workOrder.workspaceId),
   ("workspace_root_identity", .text workOrder.workspaceRootIdentity)]

/-! ## Requests -/

/-- `ConstructionWorkOrderAssessmentRequest`. -/
structure ConstructionWorkOrderAssessmentRequest where
  assessmentRequestId : CompactIdentifier
  workspaceCustodyAttestation : WorkspaceCustodyAttestation
  runtimeCompositionAttestation : RuntimeCompositionAttestation
  destinationContractRequest : DestinationContractAssessmentRequest
  destinationContractAssessment : DestinationContractAssessment
  outcomePolicyRequest : OutcomeSemanticsAssessmentRequest
  outcomePolicyAssessment : OutcomeSemanticsAssessment
  workOrder : LocalConstructionWorkOrderEvidence
  timestamp : Occurrence

/-- `request_digest`. -/
def ConstructionWorkOrderAssessmentRequest.requestDigest
    (request : ConstructionWorkOrderAssessmentRequest) : Digest := digestOf <| .object
  [("assessment_request_id", .str request.assessmentRequestId),
   ("destination_contract_assessment", request.destinationContractAssessment.reference),
   ("destination_contract_request", request.destinationContractRequest.reference),
   ("outcome_policy_assessment", request.outcomePolicyAssessment.reference),
   ("outcome_policy_request", request.outcomePolicyRequest.reference),
   ("runtime_composition_attestation", .object
     [("attestation_id", .str request.runtimeCompositionAttestation.attestationId),
      ("binding_digest", .text request.runtimeCompositionAttestation.bindingDigest),
      ("manifest_digest", .text request.runtimeCompositionAttestation.manifest.digest)]),
   ("schema_version", .text constructionWorkOrderSchemaVersion),
   ("timestamp", .text request.timestamp.val.isoformat),
   ("work_order", .object
     [("work_order_digest", .text request.workOrder.workOrderDigest),
      ("work_order_id", .str request.workOrder.workOrderId)]),
   ("workspace_custody_attestation", .object
     [("attestation_id", .str request.workspaceCustodyAttestation.attestationId),
      ("binding_digest", .text request.workspaceCustodyAttestation.bindingDigest),
      ("workspace_root_identity",
        .text request.workspaceCustodyAttestation.workspaceRootIdentity)])]

/-! ## Assessments -/

/-- `ConstructionWorkOrderAssessment`, but for the digest of it, which is calculated from the
    rest when it is issued. -/
structure ConstructionWorkOrderAssessment where
  assessmentId : CompactIdentifier
  assessedRequestId : CompactIdentifier
  assessedRequestDigest : Digest
  workspaceId : CompactIdentifier
  workOrderId : Option CompactIdentifier
  disposition : ConstructionWorkOrderDisposition
  findings : List ConstructionWorkOrderFinding
  evidenceRefs : List PyText
  recommendations : List PyText
  timestamp : Occurrence
  findings_ordered : EvidenceFinding.Ordered ConstructionWorkOrderFindingCode.value findings
  evidenceRefs_ordered : OrderedTexts Compact evidenceRefs
  recommendations_ordered : OrderedTexts Compact recommendations

namespace ConstructionWorkOrderAssessment

/-- `issue`; the identities of the workspace and the work order are those of the request. -/
def issue (assessmentId : PyText) (request : ConstructionWorkOrderAssessmentRequest)
    (workspaceId workOrderId : CompactIdentifier)
    (disposition : ConstructionWorkOrderDisposition)
    (findings : List ConstructionWorkOrderFinding)
    (evidenceRefs recommendations : List PyText) (timestamp : Occurrence) :
    Except String ConstructionWorkOrderAssessment := do
  let ⟨hassessment⟩ ← ensure (Compact assessmentId)
    (identifierError "assessment_id" assessmentId)
  let ⟨hfindings⟩ ← ensure
    (EvidenceFinding.Ordered ConstructionWorkOrderFindingCode.value findings)
    "findings must be strictly ordered and unique"
  let ⟨hrefs⟩ ← ensure (OrderedTexts Compact evidenceRefs)
    (orderedTextsError Compact (identifierError "evidence_refs") "evidence_refs" evidenceRefs)
  let ⟨hrecommendations⟩ ← ensure (OrderedTexts Compact recommendations)
    (orderedTextsError Compact (identifierError "recommendations") "recommendations"
      recommendations)
  return {
    assessmentId := ⟨assessmentId, hassessment⟩
    assessedRequestId := request.assessmentRequestId
    assessedRequestDigest := request.requestDigest
    workspaceId := workspaceId
    workOrderId := some workOrderId
    disposition, findings, evidenceRefs, recommendations, timestamp
    findings_ordered := hfindings
    evidenceRefs_ordered := hrefs
    recommendations_ordered := hrecommendations }

variable {assessmentId : PyText} {request : ConstructionWorkOrderAssessmentRequest}
  {workspaceId workOrderId : CompactIdentifier}
  {disposition : ConstructionWorkOrderDisposition}
  {findings : List ConstructionWorkOrderFinding}
  {evidenceRefs recommendations : List PyText} {timestamp : Occurrence}

/-- When an assessment can be issued. -/
theorem issue_isOk_iff :
    (∃ assessment, issue assessmentId request workspaceId workOrderId disposition findings
        evidenceRefs recommendations timestamp = .ok assessment) ↔
      Compact assessmentId ∧
        EvidenceFinding.Ordered ConstructionWorkOrderFindingCode.value findings ∧
        OrderedTexts Compact evidenceRefs ∧ OrderedTexts Compact recommendations := by
  simp only [issue, except_bind_eq_ok, exists_ensure, except_pure_eq_ok]
  constructor
  · rintro ⟨_, hid, hfindings, hrefs, hrecommendations, -⟩
    exact ⟨hid, hfindings, hrefs, hrecommendations⟩
  · rintro ⟨hid, hfindings, hrefs, hrecommendations⟩
    exact ⟨_, hid, hfindings, hrefs, hrecommendations, rfl⟩

/-- What an assessment that is issued says. -/
theorem issue_says {assessment : ConstructionWorkOrderAssessment}
    (h : issue assessmentId request workspaceId workOrderId disposition findings evidenceRefs
      recommendations timestamp = .ok assessment) :
    assessment.disposition = disposition ∧ assessment.findings = findings := by
  simp only [issue, except_bind_eq_ok] at h
  obtain ⟨_, -, _, -, _, -, _, -, h⟩ := h
  cases h
  exact ⟨rfl, rfl⟩

end ConstructionWorkOrderAssessment

end Eag.GovernedConstructionWorkOrder
