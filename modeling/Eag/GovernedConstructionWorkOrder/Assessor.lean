/-
  Eag.GovernedConstructionWorkOrder.Assessor

  `ConstructionWorkOrderAssessor.assess` (`governed_construction_work_order/assessor.py`).

  The custody and composition attestations carry identities that need only not be blank; this
  stage refers to them in evidence references that must be compact. The assessment sorts its
  findings but keeps every one, and its class refuses a finding it is given twice.
-/

import Eag.GovernedConstructionWorkOrder.Models
import Eag.GovernedOutcomePolicy.Assessor

namespace Eag.GovernedConstructionWorkOrder

open Eag.Foundation Eag.GovernedDestinationContract.Evidence
open Eag.GovernedWorkspace (Digest)

/-- `_SUPPORTED_CAPABILITIES`. -/
def supportedCapabilities : List PyText :=
  ["construction_architecture_declaration", "construction_requirements_declaration",
    "construction_work_order_evidence"].map .ofString

/-! ## Checks -/

section Checks

variable (request : ConstructionWorkOrderAssessmentRequest)

/-- The work order names the workspace that is in custody. -/
def BindsWorkspace : Prop :=
  request.workspaceCustodyAttestation.workspaceRootIdentity =
      request.workOrder.workspaceRootIdentity ∧
    request.workspaceCustodyAttestation.workspaceId.val = request.workOrder.workspaceId.val

/-- The custody is for the execution and the run of the work order. -/
def BindsRun : Prop :=
  request.workspaceCustodyAttestation.executionId.val = request.workOrder.executionId.val ∧
    request.workspaceCustodyAttestation.runId.val = request.workOrder.runId.val

/-- The work order names the custody attestation. -/
def BindsCustody : Prop :=
  request.workspaceCustodyAttestation.attestationId.val =
      request.workOrder.workspaceCustodyAttestationId.val ∧
    request.workspaceCustodyAttestation.bindingDigest =
      request.workOrder.workspaceCustodyBindingDigest

/-- The work order names the composition attestation. -/
def BindsComposition : Prop :=
  request.runtimeCompositionAttestation.attestationId.val =
      request.workOrder.runtimeCompositionAttestationId.val ∧
    request.runtimeCompositionAttestation.bindingDigest =
      request.workOrder.runtimeCompositionBindingDigest

/-- The composition is for the execution and the run of the work order. -/
def BindsManifest : Prop :=
  request.runtimeCompositionAttestation.manifest.executionId.val =
      request.workOrder.executionId.val ∧
    request.runtimeCompositionAttestation.manifest.runId.val = request.workOrder.runId.val

/-- The work order names the contract and its assessment. -/
def BindsContract : Prop :=
  request.workOrder.destinationContractId.val =
      request.destinationContractRequest.contract.destinationContractId.val ∧
    request.workOrder.destinationContractDigest =
      request.destinationContractRequest.contract.contractDigest ∧
    request.workOrder.destinationContractAssessmentId.val =
      request.destinationContractAssessment.assessmentId.val ∧
    request.workOrder.destinationContractAssessmentDigest =
      request.destinationContractAssessment.assessmentDigest

/-- The work order names the outcome policy and its assessment. -/
def BindsOutcomePolicy : Prop :=
  request.workOrder.outcomePolicyId.val =
      request.outcomePolicyRequest.policy.outcomePolicyId.val ∧
    request.workOrder.outcomePolicyDigest = request.outcomePolicyRequest.policy.policyDigest ∧
    request.workOrder.outcomePolicyAssessmentId.val =
      request.outcomePolicyAssessment.assessmentId.val ∧
    request.workOrder.outcomePolicyAssessmentDigest =
      request.outcomePolicyAssessment.assessmentDigest

/-- The static limits are those of the profile. -/
def WithinLimits : Prop :=
  request.workOrder.maxFileActions ≤ 32 ∧ request.workOrder.maxTotalBytes ≤ 1000000 ∧
    request.workOrder.maxCommandActions = 0

instance : Decidable (BindsWorkspace request) := inferInstanceAs (Decidable (_ ∧ _))
instance : Decidable (BindsRun request) := inferInstanceAs (Decidable (_ ∧ _))
instance : Decidable (BindsCustody request) := inferInstanceAs (Decidable (_ ∧ _))
instance : Decidable (BindsComposition request) := inferInstanceAs (Decidable (_ ∧ _))
instance : Decidable (BindsManifest request) := inferInstanceAs (Decidable (_ ∧ _))
instance : Decidable (BindsContract request) := inferInstanceAs (Decidable (_ ∧ _))
instance : Decidable (BindsOutcomePolicy request) := inferInstanceAs (Decidable (_ ∧ _))
instance : Decidable (WithinLimits request) := inferInstanceAs (Decidable (_ ∧ _))

/-- `_validate_workspace_custody`. -/
def validateWorkspaceCustody : List (Check ConstructionWorkOrderFindingCode) :=
  let custody := request.workspaceCustodyAttestation
  let workOrder := request.workOrder
  [⟨decide (custodyDisposition custody ≠ .attested), .workspaceCustodyInvalid,
      custody.attestationId⟩,
   ⟨decide (¬BindsCustody request), .workspaceCustodyBindingMismatch, workOrder.workOrderId⟩,
   ⟨decide (¬BindsWorkspace request), .workspaceBindingMismatch, workOrder.workspaceId⟩,
   ⟨decide (¬BindsRun request), .workspaceBindingMismatch, workOrder.executionId⟩]

/-- `_validate_runtime_composition`. -/
def validateRuntimeComposition : List (Check ConstructionWorkOrderFindingCode) :=
  let composition := request.runtimeCompositionAttestation
  let workOrder := request.workOrder
  [⟨decide (composition.disposition ≠ .attested), .runtimeCompositionInvalid,
      composition.attestationId⟩,
   ⟨decide (¬BindsComposition request), .runtimeCompositionBindingMismatch,
      workOrder.workOrderId⟩,
   ⟨decide (¬BindsManifest request), .runtimeCompositionBindingMismatch,
      workOrder.executionId⟩]

/-- What `_validate_destination_contract_evidence` checks of the contract evidence alone. -/
def contractEvidenceChecks : List (Check ConstructionWorkOrderFindingCode) :=
  let contractRequest := request.destinationContractRequest
  let contractAssessment := request.destinationContractAssessment
  [⟨decide (contractAssessment.disposition ≠ .contractAttested), .contractAssessmentInvalid,
      contractAssessment.assessmentId⟩,
   ⟨decide (contractAssessment.contractId ≠ some contractRequest.contract.destinationContractId),
      .contractBindingMismatch, .ofString "contract_assessment_id"⟩,
   ⟨decide (contractAssessment.assessedRequestId ≠ contractRequest.assessmentRequestId),
      .contractBindingMismatch, .ofString "contract_assessed_request_id"⟩,
   ⟨decide (contractAssessment.assessedRequestDigest ≠ contractRequest.requestDigest),
      .contractBindingMismatch, .ofString "contract_assessed_request_digest"⟩]

/-- `_validate_destination_contract_evidence`. -/
def validateDestinationContractEvidence : List (Check ConstructionWorkOrderFindingCode) :=
  contractEvidenceChecks request ++
    [⟨decide (¬BindsContract request), .contractBindingMismatch,
      request.workOrder.workOrderId⟩]

/-- What `_validate_outcome_policy_evidence` checks of the policy evidence alone. -/
def outcomePolicyChecks : List (Check ConstructionWorkOrderFindingCode) :=
  let outcomeRequest := request.outcomePolicyRequest
  let outcomeAssessment := request.outcomePolicyAssessment
  [⟨decide (outcomeAssessment.disposition ≠ .outcomePolicyAttested),
      .outcomePolicyAssessmentInvalid, outcomeAssessment.assessmentId⟩,
   ⟨decide (outcomeAssessment.assessedRequestId ≠ outcomeRequest.assessmentRequestId),
      .outcomePolicyBindingMismatch, .ofString "outcome_policy_assessed_request_id"⟩,
   ⟨decide (outcomeAssessment.assessedRequestDigest ≠ outcomeRequest.requestDigest),
      .outcomePolicyBindingMismatch, .ofString "outcome_policy_assessed_request_digest"⟩,
   ⟨decide (outcomeRequest.destinationContractRequest.requestDigest ≠
      request.destinationContractRequest.requestDigest), .outcomePolicyBindingMismatch,
      .ofString "destination_contract_request"⟩,
   ⟨decide (outcomeRequest.destinationContractAssessment.assessmentDigest ≠
      request.destinationContractAssessment.assessmentDigest), .outcomePolicyBindingMismatch,
      .ofString "destination_contract_assessment"⟩]

/-- `_validate_outcome_policy_evidence`. -/
def validateOutcomePolicyEvidence : List (Check ConstructionWorkOrderFindingCode) :=
  outcomePolicyChecks request ++
    [⟨decide (¬BindsOutcomePolicy request), .outcomePolicyBindingMismatch,
      request.workOrder.workOrderId⟩]

/-- `_validate_work_order_policy`. -/
def validateWorkOrderPolicy : List (Check ConstructionWorkOrderFindingCode) :=
  let workOrder := request.workOrder
  [⟨decide (workOrder.expiresAt.val.instant ≤ request.timestamp.val.instant),
      .workOrderExpired, workOrder.workOrderId⟩,
   ⟨decide (workOrder.constructionProfile.val ≠
      .ofString "disposable_local_construction_work_order_v1"),
      .unsupportedConstructionProfile, workOrder.constructionProfile⟩,
   ⟨decide (workOrder.declaredCapabilityIds ≠ supportedCapabilities),
      .unsupportedCapabilityDeclaration, workOrder.workOrderId⟩,
   ⟨decide (¬WithinLimits request), .invalidStaticLimits, workOrder.workOrderId⟩]

/-- The checks in the order they are made. -/
def checks : List (Check ConstructionWorkOrderFindingCode) :=
  validateWorkspaceCustody request ++ validateRuntimeComposition request ++
    validateDestinationContractEvidence request ++ validateOutcomePolicyEvidence request ++
    validateWorkOrderPolicy request

/-- `_references`. -/
def references : List PyText :=
  [evidenceReference "workspace_custody" request.workspaceCustodyAttestation.attestationId
      request.workspaceCustodyAttestation.bindingDigest,
   evidenceReference "runtime_composition" request.runtimeCompositionAttestation.attestationId
      request.runtimeCompositionAttestation.bindingDigest,
   evidenceReference "destination_contract_request"
      request.destinationContractRequest.assessmentRequestId
      request.destinationContractRequest.requestDigest,
   evidenceReference "destination_contract_assessment"
      request.destinationContractAssessment.assessmentId
      request.destinationContractAssessment.assessmentDigest,
   evidenceReference "outcome_policy_request" request.outcomePolicyRequest.assessmentRequestId
      request.outcomePolicyRequest.requestDigest,
   evidenceReference "outcome_policy_assessment" request.outcomePolicyAssessment.assessmentId
      request.outcomePolicyAssessment.assessmentDigest,
   evidenceReference "construction_work_order" request.workOrder.workOrderId
      request.workOrder.workOrderDigest]

end Checks

/-! ## The assessor -/

/-- `_disposition_for`. -/
def dispositionFor (findings : List ConstructionWorkOrderFinding) :
    ConstructionWorkOrderDisposition :=
  if findings = [] then .constructionWorkOrderAttested
  else if ∃ finding ∈ findings, finding.code = .unsupportedConstructionProfile then
    .unsupportedConstructionProfile
  else .notAttested

/-- `_assessment`. -/
def assessment (assessmentId : PyText) (request : ConstructionWorkOrderAssessmentRequest)
    (findings : List ConstructionWorkOrderFinding) (references : List PyText) :
    Except String ConstructionWorkOrderAssessment :=
  ConstructionWorkOrderAssessment.issue assessmentId request request.workOrder.workspaceId
    request.workOrder.workOrderId (dispositionFor findings)
    (sortedBy (EvidenceFinding.key ConstructionWorkOrderFindingCode.value) findings)
    (sortedTexts references)
    [.ofString (if dispositionFor findings = .constructionWorkOrderAttested
      then "construction_work_order_evidence_only" else "stop_without_automatic_progress")]
    request.timestamp

/-- `ConstructionWorkOrderAssessor.assess`. -/
def assess (assessmentId : PyText) (request : ConstructionWorkOrderAssessmentRequest) :
    Except String ConstructionWorkOrderAssessment := do
  let findings ← report (identifierError "evidence_reference") (checks request)
  assessment assessmentId request findings (references request)

/-! ## What the checks are for -/

/-- **Every binding, digest and policy check holds.** -/
structure EvidenceHolds (request : ConstructionWorkOrderAssessmentRequest) : Prop where
  custody : BindsCustody request
  workspace : BindsWorkspace request
  run : BindsRun request
  composition : BindsComposition request
  manifest : BindsManifest request
  contractAttested : request.destinationContractAssessment.disposition = .contractAttested
  contractId : request.destinationContractAssessment.contractId =
    some request.destinationContractRequest.contract.destinationContractId
  contractRequestId : request.destinationContractAssessment.assessedRequestId =
    request.destinationContractRequest.assessmentRequestId
  contractRequestDigest : request.destinationContractAssessment.assessedRequestDigest =
    request.destinationContractRequest.requestDigest
  contract : BindsContract request
  outcomeAttested : request.outcomePolicyAssessment.disposition = .outcomePolicyAttested
  outcomeRequestId : request.outcomePolicyAssessment.assessedRequestId =
    request.outcomePolicyRequest.assessmentRequestId
  outcomeRequestDigest : request.outcomePolicyAssessment.assessedRequestDigest =
    request.outcomePolicyRequest.requestDigest
  sameContractRequest : request.outcomePolicyRequest.destinationContractRequest.requestDigest =
    request.destinationContractRequest.requestDigest
  sameContractAssessment :
    request.outcomePolicyRequest.destinationContractAssessment.assessmentDigest =
      request.destinationContractAssessment.assessmentDigest
  outcomePolicy : BindsOutcomePolicy request
  current : request.timestamp.val.instant < request.workOrder.expiresAt.val.instant
  profile : request.workOrder.constructionProfile.val =
    .ofString "disposable_local_construction_work_order_v1"
  capabilities : request.workOrder.declaredCapabilityIds = supportedCapabilities
  limits : WithinLimits request

theorem allHold_iff (request : ConstructionWorkOrderAssessmentRequest) :
    Check.AllHold (checks request) ↔ EvidenceHolds request := by
  have hcustody : custodyDisposition request.workspaceCustodyAttestation = .attested := rfl
  have hcomposition : request.runtimeCompositionAttestation.disposition = .attested := rfl
  simp only [Check.AllHold, checks, validateWorkspaceCustody, validateRuntimeComposition,
    validateDestinationContractEvidence, contractEvidenceChecks, validateOutcomePolicyEvidence,
    outcomePolicyChecks, validateWorkOrderPolicy, List.forall_mem_append, List.forall_mem_cons,
    List.not_mem_nil, IsEmpty.forall_iff, implies_true, and_true, decide_eq_false_iff_not,
    ne_eq, not_not, not_le, hcustody, hcomposition, true_and]
  constructor
  · rintro ⟨⟨⟨⟨⟨custody, workspace, run⟩, composition, manifest⟩, ⟨contractAttested, contractId,
      contractRequestId, contractRequestDigest⟩, contract⟩, ⟨outcomeAttested, outcomeRequestId,
      outcomeRequestDigest, sameContractRequest, sameContractAssessment⟩, outcomePolicy⟩,
      current, profile, capabilities, limits⟩
    exact { custody, workspace, run, composition, manifest, contractAttested, contractId,
            contractRequestId, contractRequestDigest, contract, outcomeAttested,
            outcomeRequestId, outcomeRequestDigest, sameContractRequest,
            sameContractAssessment, outcomePolicy, current, profile, capabilities, limits }
  · intro h
    exact ⟨⟨⟨⟨⟨h.custody, h.workspace, h.run⟩, h.composition, h.manifest⟩,
      ⟨h.contractAttested, h.contractId, h.contractRequestId, h.contractRequestDigest⟩,
      h.contract⟩, ⟨h.outcomeAttested, h.outcomeRequestId, h.outcomeRequestDigest,
      h.sameContractRequest, h.sameContractAssessment⟩, h.outcomePolicy⟩,
      h.current, h.profile, h.capabilities, h.limits⟩

/-- **When failures are told apart.** Four codes are reported by several checks; there the
    identity that one of them refers to is not the text that another refers to. -/
structure TellsFailuresApart (request : ConstructionWorkOrderAssessmentRequest) : Prop where
  workspace : ¬BindsWorkspace request → ¬BindsRun request →
    request.workOrder.workspaceId.val ≠ request.workOrder.executionId.val
  composition : ¬BindsComposition request → ¬BindsManifest request →
    request.workOrder.workOrderId.val ≠ request.workOrder.executionId.val
  contract : ¬BindsContract request →
    ∀ check ∈ Check.about .contractBindingMismatch (contractEvidenceChecks request),
    check.failed = true → check.reference ≠ request.workOrder.workOrderId
  outcomePolicy : ¬BindsOutcomePolicy request →
    ∀ check ∈ Check.about .outcomePolicyBindingMismatch (outcomePolicyChecks request),
    check.failed = true → check.reference ≠ request.workOrder.workOrderId

theorem distinct_iff (request : ConstructionWorkOrderAssessmentRequest) :
    Check.Distinct (checks request) ↔ TellsFailuresApart request := by
  rw [Check.distinct_iff_apart]
  have hworkspace : Check.Apart (Check.about .workspaceBindingMismatch (checks request)) ↔
      (decide (¬BindsWorkspace request) = true → decide (¬BindsRun request) = true →
        request.workOrder.workspaceId.val ≠ request.workOrder.executionId.val) :=
    Check.apart_pair
  have hcomposition : Check.Apart
      (Check.about .runtimeCompositionBindingMismatch (checks request)) ↔
      (decide (¬BindsComposition request) = true → decide (¬BindsManifest request) = true →
        request.workOrder.workOrderId.val ≠ request.workOrder.executionId.val) :=
    Check.apart_pair
  -- The names of the evidence are apart whatever fails.
  have hcontractNames : Check.Apart
      (Check.about .contractBindingMismatch (contractEvidenceChecks request)) := by
    simp [Check.Apart, Check.about, contractEvidenceChecks]
  have houtcomeNames : Check.Apart
      (Check.about .outcomePolicyBindingMismatch (outcomePolicyChecks request)) := by
    simp [Check.Apart, Check.about, outcomePolicyChecks]
  have hcontracts : Check.about .contractBindingMismatch (checks request) =
      Check.about .contractBindingMismatch (contractEvidenceChecks request) ++
        [⟨decide (¬BindsContract request), .contractBindingMismatch,
          request.workOrder.workOrderId⟩] := rfl
  have hcontract : Check.Apart (Check.about .contractBindingMismatch (checks request)) ↔
      (¬BindsContract request →
        ∀ check ∈ Check.about .contractBindingMismatch (contractEvidenceChecks request),
        check.failed = true → check.reference ≠ request.workOrder.workOrderId) := by
    rw [hcontracts, Check.apart_concat, and_iff_right hcontractNames, decide_eq_true_eq]
  have houtcomes : Check.about .outcomePolicyBindingMismatch (checks request) =
      Check.about .outcomePolicyBindingMismatch (outcomePolicyChecks request) ++
        [⟨decide (¬BindsOutcomePolicy request), .outcomePolicyBindingMismatch,
          request.workOrder.workOrderId⟩] := rfl
  have houtcome : Check.Apart (Check.about .outcomePolicyBindingMismatch (checks request)) ↔
      (¬BindsOutcomePolicy request →
        ∀ check ∈ Check.about .outcomePolicyBindingMismatch (outcomePolicyChecks request),
        check.failed = true → check.reference ≠ request.workOrder.workOrderId) := by
    rw [houtcomes, Check.apart_concat, and_iff_right houtcomeNames, decide_eq_true_eq]
  simp only [decide_eq_true_eq] at hworkspace hcomposition
  constructor
  · intro h
    exact ⟨hworkspace.mp (h _), hcomposition.mp (h _), hcontract.mp (h _), houtcome.mp (h _)⟩
  · intro h code
    cases code with
    | workspaceBindingMismatch => exact hworkspace.mpr h.workspace
    | runtimeCompositionBindingMismatch => exact hcomposition.mpr h.composition
    | contractBindingMismatch => exact hcontract.mpr h.contract
    | outcomePolicyBindingMismatch => exact houtcome.mpr h.outcomePolicy
    | _ => exact Check.apart_singleton _

/-! ## What an assessment says -/

theorem dispositionFor_eq_attested (findings : List ConstructionWorkOrderFinding) :
    dispositionFor findings = .constructionWorkOrderAttested ↔ findings = [] := by
  unfold dispositionFor
  split
  · next hnil => simp [hnil]
  · next hnil => split <;> simp [hnil]

/-- The reference of a check that fails is compact: the two attestations, whose identities
    need not be, are always attested. -/
theorem compact_reference (request : ConstructionWorkOrderAssessmentRequest) :
    ∀ check ∈ checks request, check.failed = true → Compact check.reference := by
  have hworkOrder := request.workOrder.workOrderId.property
  simp only [checks, validateWorkspaceCustody, validateRuntimeComposition,
    validateDestinationContractEvidence, contractEvidenceChecks, validateOutcomePolicyEvidence,
    outcomePolicyChecks, validateWorkOrderPolicy, List.forall_mem_append, List.forall_mem_cons,
    List.not_mem_nil, IsEmpty.forall_iff, implies_true, and_true]
  refine ⟨⟨⟨⟨⟨fun h => absurd rfl (of_decide_eq_true h), fun _ => hworkOrder, fun _ => ?_,
    fun _ => ?_⟩, fun h => absurd rfl (of_decide_eq_true h), fun _ => hworkOrder, fun _ => ?_⟩,
    ⟨fun _ => ?_, fun _ => ?_, fun _ => ?_, fun _ => ?_⟩, fun _ => hworkOrder⟩, ⟨fun _ => ?_, fun _ => ?_, fun _ => ?_, fun _ => ?_, fun _ => ?_⟩,
    fun _ => hworkOrder⟩, fun _ => hworkOrder, fun _ => ?_, fun _ => hworkOrder,
    fun _ => hworkOrder⟩
  · exact request.workOrder.workspaceId.property
  · exact request.workOrder.executionId.property
  · exact request.workOrder.executionId.property
  · exact compact_of_declares request.destinationContractAssessment.assessmentId.property
  · decide +kernel
  · decide +kernel
  · decide +kernel
  · exact request.outcomePolicyAssessment.assessmentId.property
  · decide +kernel
  · decide +kernel
  · decide +kernel
  · decide +kernel
  · exact request.workOrder.constructionProfile.property

/-- The identities of the attestations are compact, as this stage refers to them. -/
def CompactAttestations (request : ConstructionWorkOrderAssessmentRequest) : Prop :=
  Compact request.workspaceCustodyAttestation.attestationId ∧
    Compact request.runtimeCompositionAttestation.attestationId

/-- The references to evidence are compact exactly when the identities of the attestations
    are. -/
theorem compact_references_iff (request : ConstructionWorkOrderAssessmentRequest) :
    (∀ reference ∈ references request, Compact reference) ↔ CompactAttestations request := by
  -- An identity that is not blank is compact as soon as it is unbroken.
  have hcustody : Compact (evidenceReference "workspace_custody"
      request.workspaceCustodyAttestation.attestationId
      request.workspaceCustodyAttestation.bindingDigest) ↔
      Compact request.workspaceCustodyAttestation.attestationId := by
    rw [compact_evidenceReference (by decide +kernel), Compact]
    exact (and_iff_right request.workspaceCustodyAttestation.attestationId.property).symm
  have hcomposition : Compact (evidenceReference "runtime_composition"
      request.runtimeCompositionAttestation.attestationId
      request.runtimeCompositionAttestation.bindingDigest) ↔
      Compact request.runtimeCompositionAttestation.attestationId := by
    rw [compact_evidenceReference (by decide +kernel), Compact]
    exact (and_iff_right request.runtimeCompositionAttestation.attestationId.property).symm
  simp only [references, List.forall_mem_cons, List.not_mem_nil, IsEmpty.forall_iff,
    implies_true, and_true]
  rw [hcustody, hcomposition, CompactAttestations]
  constructor
  · rintro ⟨h₁, h₂, -⟩
    exact ⟨h₁, h₂⟩
  · rintro ⟨h₁, h₂⟩
    refine ⟨h₁, h₂, ?_, ?_, ?_, ?_, ?_⟩
    · exact (compact_evidenceReference (by decide +kernel) _).mpr
        (compact_of_declares
          request.destinationContractRequest.assessmentRequestId.property).2
    · exact (compact_evidenceReference (by decide +kernel) _).mpr
        (compact_of_declares request.destinationContractAssessment.assessmentId.property).2
    · exact (compact_evidenceReference (by decide +kernel) _).mpr
        request.outcomePolicyRequest.assessmentRequestId.property.2
    · exact (compact_evidenceReference (by decide +kernel) _).mpr
        request.outcomePolicyAssessment.assessmentId.property.2
    · exact (compact_evidenceReference (by decide +kernel) _).mpr
        request.workOrder.workOrderId.property.2

/-- An assessment is made of findings that are strictly ordered, if the identities it refers to
    are compact. -/
theorem finishes_assessment (assessmentId : PyText)
    (request : ConstructionWorkOrderAssessmentRequest) :
    Finishes ConstructionWorkOrderFindingCode.value
      (fun findings => assessment assessmentId request findings (references request))
      (fun result => result.disposition = .constructionWorkOrderAttested)
      (fun result => result.findings)
      (Compact assessmentId ∧ CompactAttestations request) where
  isOk_iff findings := by
    have hrecommendation : OrderedTexts Compact
        [.ofString (if dispositionFor findings = .constructionWorkOrderAttested
          then "construction_work_order_evidence_only"
          else "stop_without_automatic_progress")] := by
      refine ⟨fun value hvalue => ?_, List.pairwise_singleton _ _⟩
      rw [List.mem_singleton.mp hvalue]
      split <;> decide +kernel
    refine ConstructionWorkOrderAssessment.issue_isOk_iff.trans ⟨?_, ?_⟩
    · rintro ⟨hid, hfindings, hrefs, -⟩
      exact ⟨⟨hid, (compact_references_iff request).mp (orderedTexts_sortedTexts.mp hrefs)⟩,
        hfindings⟩
    · rintro ⟨⟨hid, hattestations⟩, hfindings⟩
      exact ⟨hid, hfindings,
        orderedTexts_sortedTexts.mpr ((compact_references_iff request).mpr hattestations),
        hrecommendation⟩
  favourable_iff findings result hresult := by
    rw [(ConstructionWorkOrderAssessment.issue_says hresult).1]
    exact dispositionFor_eq_attested findings
  listed_eq findings result hresult := (ConstructionWorkOrderAssessment.issue_says hresult).2

/-- The assessor returns an assessment that says what it should exactly when it is given compact
    identities and a request whose failures are told apart. -/
theorem assessedExactly_iff (assessmentId : PyText)
    (request : ConstructionWorkOrderAssessmentRequest) :
    (∃ assessment, assess assessmentId request = .ok assessment ∧
        AssessedExactly (checks request)
          (assessment.disposition = .constructionWorkOrderAttested) assessment.findings) ↔
      (Compact assessmentId ∧ CompactAttestations request) ∧ TellsFailuresApart request := by
  rw [← distinct_iff]
  exact (finishes_assessment assessmentId request).assessedExactly_iff
    ConstructionWorkOrderFindingCode.value_injective _ (compact_reference request)

/-- **The work order assessment is total and exact** exactly when it is given a compact identity
    and a request whose attestations have compact identities and whose failures are told
    apart. -/
theorem work_order_assessment_exact_iff (assessmentId : PyText)
    (request : ConstructionWorkOrderAssessmentRequest) :
    (∃ assessment, assess assessmentId request = .ok assessment ∧
        (assessment.disposition = .constructionWorkOrderAttested ↔ EvidenceHolds request) ∧
        Lists (checks request) assessment.findings) ↔
      (Compact assessmentId ∧ CompactAttestations request) ∧ TellsFailuresApart request := by
  rw [← assessedExactly_iff]
  constructor
  · rintro ⟨result, hresult, hdisposition, hlists⟩
    exact ⟨result, hresult, hdisposition.trans (allHold_iff request).symm, hlists⟩
  · rintro ⟨result, hresult, hassessed⟩
    exact ⟨result, hresult, hassessed.favourable_iff.trans (allHold_iff request),
      hassessed.lists⟩

/-! ## A request whose failures run together -/

open GovernedComposition GovernedOutcomePolicy GovernedWorkspace

/-- The custody of another workspace, for another run. -/
def strayCustody : WorkspaceCustodyAttestation where
  attestationId := ⟨.ofString "custody", by decide⟩
  custodyRequestId := ⟨.ofString "custody-request", by decide⟩
  custodyRequestDigest := digestNamed "custody-request"
  executionId := ⟨.ofString "stray", by decide⟩
  runId := ⟨.ofString "run", by decide⟩
  workspaceId := ⟨.ofString "stray", by decide⟩
  workspaceRootIdentity := digestNamed "workspace"
  sourceRepositoryIdentity := digestNamed "source"
  auditRootIdentity := digestNamed "audit"
  controlRootIdentity := digestNamed "control"
  workspaceObjectIdentity := .observed (0, 1)
  sourceRepositoryObjectIdentity := .observed (0, 2)
  auditRootObjectIdentity := .observed (0, 3)
  controlRootObjectIdentity := .observed (0, 4)
  custodyPolicyDigest := digestNamed "custody-policy"
  isolationBindingDigest :=
    isolationBindingDigest ⟨.ofString "stray", by decide⟩ ⟨.ofString "run", by decide⟩
      ⟨.ofString "stray", by decide⟩ (digestNamed "workspace") (digestNamed "source")
      (digestNamed "audit") (digestNamed "control")
  occurredAt := momentOf 0

/-- A composition of one component. -/
def plainComposition : RuntimeCompositionAttestation where
  attestationId := ⟨.ofString "composition", by decide⟩
  manifest := {
    compositionId := ⟨.ofString "manifest", by decide⟩
    executionId := ⟨.ofString "build", by decide⟩
    runId := ⟨.ofString "run", by decide⟩
    runtimeId := ⟨.ofString "runtime", by decide⟩
    executorIdentity := ⟨.ofString "executor", by decide⟩
    componentIdentities := [{
      role := ⟨.ofString "worker", by decide⟩
      componentId := ⟨.ofString "component", by decide⟩
      version := ⟨.ofString "1", by decide⟩
      digest := digestNamed "component" }]
    dependencyBindings := []
    compositionPolicyDigest := digestNamed "composition-policy"
    invocationBindingDigest := digestNamed "invocation"
    contractVersion := ⟨.ofString "1", by decide⟩
    componentIdentities_ne_nil := by simp
    roles_ordered := List.pairwise_singleton _ _
    bindings_ordered := .nil
    bindings_declared := by simp }
  occurredAt := momentOf 0

theorem request_text_compact : Compact (.ofString "request") := by decide +kernel

/-- A work order whose workspace is named after its execution, with the custody of another
    workspace. -/
def strayRequest : ConstructionWorkOrderAssessmentRequest where
  assessmentRequestId := ⟨.ofString "request", request_text_compact⟩
  workspaceCustodyAttestation := strayCustody
  runtimeCompositionAttestation := plainComposition
  destinationContractRequest := plainContractRequest
  destinationContractAssessment := plainContractAssessment
  outcomePolicyRequest := outcomeRequestFor ⟨.ofString "destination", destination_text_compact⟩
  outcomePolicyAssessment := outcomeAssessmentFor ⟨.ofString "destination", destination_text_compact⟩
  workOrder := {
    workOrderId := ⟨.ofString "work-order", by decide +kernel⟩
    executionId := ⟨.ofString "build", by decide +kernel⟩
    runId := ⟨.ofString "run", by decide +kernel⟩
    workspaceId := ⟨.ofString "build", by decide +kernel⟩
    workspaceRootIdentity := digestNamed "workspace"
    workspaceCustodyAttestationId := ⟨.ofString "custody", by decide +kernel⟩
    workspaceCustodyBindingDigest := strayCustody.bindingDigest
    runtimeCompositionAttestationId := ⟨.ofString "composition", by decide +kernel⟩
    runtimeCompositionBindingDigest := plainComposition.bindingDigest
    destinationContractId := ⟨.ofString "contract", contract_text_compact⟩
    destinationContractDigest := plainContract.contractDigest
    destinationContractAssessmentId :=
      ⟨.ofString "contract-assessment", contractAssessment_text_compact⟩
    destinationContractAssessmentDigest := plainContractAssessment.assessmentDigest
    outcomePolicyId := (outcomeRequestFor ⟨.ofString "destination", destination_text_compact⟩).policy.outcomePolicyId
    outcomePolicyDigest :=
      (outcomeRequestFor ⟨.ofString "destination", destination_text_compact⟩).policy.policyDigest
    outcomePolicyAssessmentId := (outcomeAssessmentFor ⟨.ofString "destination", destination_text_compact⟩).assessmentId
    outcomePolicyAssessmentDigest :=
      (outcomeAssessmentFor ⟨.ofString "destination", destination_text_compact⟩).assessmentDigest
    constructionRequirementsDigest := digestNamed "requirements"
    architectureSpecificationDigest := digestNamed "architecture"
    actionPlanDigest := digestNamed "plan"
    declaredCapabilityIds := supportedCapabilities
    maxFileActions := 1
    maxTotalBytes := 1
    maxCommandActions := 0
    constructionProfile :=
      ⟨.ofString "disposable_local_construction_work_order_v1", by decide +kernel⟩
    issuedAt := momentOf 0
    expiresAt := momentOf 1
    declaredCapabilityIds_ordered := by decide +kernel
    limits_positive := by decide
    expires_later := plainContract.expires_later }
  timestamp := momentOf 0

/-- The workspace and the run are both unbound and have one identity, so the assessor reports
    the mismatch twice and its own result class refuses the findings. -/
theorem shared_stray_identity_refused :
    ¬∀ assessmentId : PyText, Compact assessmentId →
      ∀ request : ConstructionWorkOrderAssessmentRequest,
        ∃ assessment, assess assessmentId request = .ok assessment ∧
          (assessment.disposition = .constructionWorkOrderAttested ↔ EvidenceHolds request) ∧
          Lists (checks request) assessment.findings := by
  intro hclaim
  obtain ⟨result, hresult, hdisposition, hlists⟩ :=
    hclaim (.ofString "assessment") (by decide) strayRequest
  have hapart := ((assessedExactly_iff _ _).mp ⟨result, hresult,
    ⟨hdisposition.trans (allHold_iff strayRequest).symm, hlists⟩⟩).2
  have hworkspace : ¬BindsWorkspace strayRequest := fun h => absurd h.2 (by decide)
  have hrun : ¬BindsRun strayRequest := fun h => absurd h.1 (by decide)
  exact hapart.workspace hworkspace hrun rfl

end Eag.GovernedConstructionWorkOrder
