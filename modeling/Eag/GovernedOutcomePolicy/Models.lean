/-
  Eag.GovernedOutcomePolicy.Models

  Outcome-semantics policies, requests to assess one and the assessments
  (`governed_outcome_policy/models.py`).
-/

import Eag.GovernedDestinationContract.Evidence

namespace Eag.GovernedOutcomePolicy

open Eag.Foundation Eag.GovernedDestinationContract.Evidence
open Eag.GovernedTransitionControl (TransitionControlDecision)
open Eag.GovernedWorkspace (Digest Occurrence digestOf)

/-- `OUTCOME_POLICY_SCHEMA_VERSION`. -/
def outcomePolicySchemaVersion : String := "g2.4.19.outcome-semantics-policy.v1"

/-- `OUTCOME_POLICY_ASSESSMENT_SCHEMA_VERSION`. -/
def outcomePolicyAssessmentSchemaVersion : String :=
  "g2.4.19.outcome-semantics-policy-assessment.v2"

/-! ## Vocabulary -/

/-- `OutcomePolicyDisposition`. -/
inductive OutcomePolicyDisposition where
  | outcomePolicyAttested
  | notAttested
  | unsupportedOutcomePolicy
  deriving DecidableEq, Repr

def OutcomePolicyDisposition.value : OutcomePolicyDisposition → String
  | .outcomePolicyAttested => "outcome_policy_attested"
  | .notAttested => "not_attested"
  | .unsupportedOutcomePolicy => "unsupported_outcome_policy"

/-- `OutcomePolicyFindingCode`. -/
inductive OutcomePolicyFindingCode where
  | policyEvidenceInvalid
  | policyExpired
  | contractAssessmentInvalid
  | contractBindingMismatch
  | destinationBindingMismatch
  | profileBindingMismatch
  | unsupportedOutcomeProfile
  | unsafeUnknownOutcomeSemantics
  | automaticRetryForbidden
  | automaticRollbackForbidden
  | unverifiedCompletionForbidden
  | transitionControlAmbiguous
  deriving DecidableEq, Repr

def OutcomePolicyFindingCode.value : OutcomePolicyFindingCode → String
  | .policyEvidenceInvalid => "policy_evidence_invalid"
  | .policyExpired => "policy_expired"
  | .contractAssessmentInvalid => "contract_assessment_invalid"
  | .contractBindingMismatch => "contract_binding_mismatch"
  | .destinationBindingMismatch => "destination_binding_mismatch"
  | .profileBindingMismatch => "profile_binding_mismatch"
  | .unsupportedOutcomeProfile => "unsupported_outcome_profile"
  | .unsafeUnknownOutcomeSemantics => "unsafe_unknown_outcome_semantics"
  | .automaticRetryForbidden => "automatic_retry_forbidden"
  | .automaticRollbackForbidden => "automatic_rollback_forbidden"
  | .unverifiedCompletionForbidden => "unverified_completion_forbidden"
  | .transitionControlAmbiguous => "transition_control_ambiguous"

theorem OutcomePolicyFindingCode.value_injective :
    Function.Injective OutcomePolicyFindingCode.value := by
  intro a b h
  cases a <;> cases b <;> first | rfl | exact absurd h (by decide)

/-- `OutcomeSemanticsFinding`. -/
abbrev OutcomeSemanticsFinding := EvidenceFinding OutcomePolicyFindingCode PyText.NonBlank

/-! ## Policies -/

/-- `ExternalOutcomeSemanticsPolicyEvidence`; a declared value is the text of the member or
    the text given. -/
structure ExternalOutcomeSemanticsPolicyEvidence where
  outcomePolicyId : CompactIdentifier
  destinationContractId : CompactIdentifier
  destinationContractDigest : Digest
  destinationContractAssessmentId : CompactIdentifier
  destinationContractAssessmentDigest : Digest
  destinationIdentity : CompactIdentifier
  operationProfile : CompactIdentifier
  destinationOperationProfile : CompactIdentifier
  externalReceiptSchemaId : CompactIdentifier
  destinationIdempotencyProfile : CompactIdentifier
  futureReceiptClasses : List PyText
  unknownOutcomeDisposition : CompactIdentifier
  automaticRetryDisposition : CompactIdentifier
  automaticRollbackDisposition : CompactIdentifier
  completionVerificationRequirement : CompactIdentifier
  issuedAt : Occurrence
  expiresAt : Occurrence
  futureReceiptClasses_ordered : OrderedTexts Compact futureReceiptClasses
  expires_later : issuedAt.val.instant < expiresAt.val.instant

namespace ExternalOutcomeSemanticsPolicyEvidence

variable (policy : ExternalOutcomeSemanticsPolicyEvidence)

/-- `policy_digest`. -/
def policyDigest : Digest := digestOf <| .object
  [("automatic_retry_disposition", .str policy.automaticRetryDisposition),
   ("automatic_rollback_disposition", .str policy.automaticRollbackDisposition),
   ("completion_verification_requirement", .str policy.completionVerificationRequirement),
   ("destination_contract_assessment_digest",
     .text policy.destinationContractAssessmentDigest),
   ("destination_contract_assessment_id", .str policy.destinationContractAssessmentId),
   ("destination_contract_digest", .text policy.destinationContractDigest),
   ("destination_contract_id", .str policy.destinationContractId),
   ("destination_idempotency_profile", .str policy.destinationIdempotencyProfile),
   ("destination_identity", .str policy.destinationIdentity),
   ("destination_operation_profile", .str policy.destinationOperationProfile),
   ("expires_at", .text policy.expiresAt.val.isoformat),
   ("external_receipt_schema_id", .str policy.externalReceiptSchemaId),
   ("future_receipt_classes", .array (policy.futureReceiptClasses.map .str)),
   ("issued_at", .text policy.issuedAt.val.isoformat),
   ("operation_profile", .str policy.operationProfile),
   ("outcome_policy_id", .str policy.outcomePolicyId),
   ("schema_version", .text outcomePolicySchemaVersion),
   ("unknown_outcome_disposition", .str policy.unknownOutcomeDisposition)]

end ExternalOutcomeSemanticsPolicyEvidence

/-! ## Requests -/

/-- `OutcomeSemanticsAssessmentRequest`. -/
structure OutcomeSemanticsAssessmentRequest where
  assessmentRequestId : CompactIdentifier
  destinationContractRequest : DestinationContractAssessmentRequest
  destinationContractAssessment : DestinationContractAssessment
  policy : ExternalOutcomeSemanticsPolicyEvidence
  timestamp : Occurrence
  transitionControlEvidence : Option TransitionControlDecision

namespace OutcomeSemanticsAssessmentRequest

variable (request : OutcomeSemanticsAssessmentRequest)

/-- `request_digest`. -/
def requestDigest : Digest := digestOf <| .object
  [("destination_contract_assessment", request.destinationContractAssessment.reference),
   ("destination_contract_request", request.destinationContractRequest.reference),
   ("policy", .object
     [("outcome_policy_id", .str request.policy.outcomePolicyId),
      ("policy_digest", .text request.policy.policyDigest),
      ("schema_version", .text outcomePolicySchemaVersion)]),
   ("schema_version", .text outcomePolicySchemaVersion),
   ("timestamp", .text request.timestamp.val.isoformat),
   ("transition_control_evidence", controlReference request.transitionControlEvidence)]

/-- What later requests record of the request. -/
def reference : Payload := .object
  [("request_digest", .text request.requestDigest),
   ("schema_version", .text outcomePolicySchemaVersion)]

end OutcomeSemanticsAssessmentRequest

/-! ## Assessments -/

/-- `OutcomeSemanticsAssessment`. -/
structure OutcomeSemanticsAssessment where
  assessmentId : CompactIdentifier
  assessedRequestId : CompactIdentifier
  assessedRequestDigest : Digest
  destinationIdentity : CompactIdentifier
  policyId : Option CompactIdentifier
  disposition : OutcomePolicyDisposition
  findings : List OutcomeSemanticsFinding
  evidenceRefs : List PyText
  recommendations : List PyText
  timestamp : Occurrence
  findings_ordered : EvidenceFinding.Ordered OutcomePolicyFindingCode.value findings
  evidenceRefs_ordered : OrderedTexts Compact evidenceRefs
  recommendations_ordered : OrderedTexts Compact recommendations

namespace OutcomeSemanticsAssessment

section

variable (assessment : OutcomeSemanticsAssessment)

/-- `assessment_digest`. -/
def assessmentDigest : Digest := digestOf <| .object
  [("assessed_request_digest", .text assessment.assessedRequestDigest),
   ("assessed_request_id", .str assessment.assessedRequestId),
   ("assessment_id", .str assessment.assessmentId),
   ("destination_identity", .str assessment.destinationIdentity),
   ("disposition", .text assessment.disposition.value),
   ("evidence_refs", .array (assessment.evidenceRefs.map .str)),
   ("findings", .array (assessment.findings.map
     (EvidenceFinding.toPayload OutcomePolicyFindingCode.value))),
   ("policy_id", .optional (assessment.policyId.map (·.val))),
   ("recommendations", .array (assessment.recommendations.map .str)),
   ("schema_version", .text outcomePolicyAssessmentSchemaVersion),
   ("timestamp", .text assessment.timestamp.val.isoformat)]

/-- What later requests record of the assessment. -/
def reference : Payload := .object
  [("assessment_digest", .text assessment.assessmentDigest),
   ("assessment_id", .str assessment.assessmentId),
   ("disposition", .text assessment.disposition.value),
   ("schema_version", .text outcomePolicyAssessmentSchemaVersion)]

end

/-- `issue`; the identity of the policy is the one of the request. -/
def issue (assessmentId : PyText) (request : OutcomeSemanticsAssessmentRequest)
    (destinationIdentity : PyText) (policyId : CompactIdentifier)
    (disposition : OutcomePolicyDisposition) (findings : List OutcomeSemanticsFinding)
    (evidenceRefs recommendations : List PyText) (timestamp : Occurrence) :
    Except String OutcomeSemanticsAssessment := do
  let ⟨hassessment⟩ ← ensure (Compact assessmentId)
    (identifierError "assessment_id" assessmentId)
  let ⟨hdestination⟩ ← ensure (Compact destinationIdentity)
    (identifierError "destination_identity" destinationIdentity)
  let ⟨hfindings⟩ ← ensure (EvidenceFinding.Ordered OutcomePolicyFindingCode.value findings)
    "findings must be strictly ordered and unique"
  let ⟨hrefs⟩ ← ensure (OrderedTexts Compact evidenceRefs)
    (orderedTextsError Compact (identifierError "evidence_refs") "evidence_refs" evidenceRefs)
  let ⟨hrecommendations⟩ ← ensure (OrderedTexts Compact recommendations)
    (orderedTextsError Compact (identifierError "recommendations") "recommendations"
      recommendations)
  return {
    assessmentId := ⟨assessmentId, hassessment⟩
    assessedRequestId := request.assessmentRequestId
    assessedRequestDigest := request.requestDigest
    destinationIdentity := ⟨destinationIdentity, hdestination⟩
    policyId := some policyId
    disposition, findings, evidenceRefs, recommendations, timestamp
    findings_ordered := hfindings
    evidenceRefs_ordered := hrefs
    recommendations_ordered := hrecommendations }

section

variable {assessmentId : PyText} {request : OutcomeSemanticsAssessmentRequest}
  {destinationIdentity : PyText} {policyId : CompactIdentifier}
  {disposition : OutcomePolicyDisposition} {findings : List OutcomeSemanticsFinding}
  {evidenceRefs recommendations : List PyText} {timestamp : Occurrence}

/-- When an assessment can be issued. -/
theorem issue_isOk_iff :
    (∃ assessment, issue assessmentId request destinationIdentity policyId disposition findings
        evidenceRefs recommendations timestamp = .ok assessment) ↔
      Compact assessmentId ∧ Compact destinationIdentity ∧
        EvidenceFinding.Ordered OutcomePolicyFindingCode.value findings ∧
        OrderedTexts Compact evidenceRefs ∧ OrderedTexts Compact recommendations := by
  simp only [issue, except_bind_eq_ok, exists_ensure, except_pure_eq_ok]
  constructor
  · rintro ⟨_, hid, hdestination, hfindings, hrefs, hrecommendations, -⟩
    exact ⟨hid, hdestination, hfindings, hrefs, hrecommendations⟩
  · rintro ⟨hid, hdestination, hfindings, hrefs, hrecommendations⟩
    exact ⟨_, hid, hdestination, hfindings, hrefs, hrecommendations, rfl⟩

/-- What an assessment that is issued says. -/
theorem issue_says {assessment : OutcomeSemanticsAssessment}
    (h : issue assessmentId request destinationIdentity policyId disposition findings
      evidenceRefs recommendations timestamp = .ok assessment) :
    assessment.disposition = disposition ∧ assessment.findings = findings := by
  simp only [issue, except_bind_eq_ok] at h
  obtain ⟨_, -, _, -, _, -, _, -, _, -, h⟩ := h
  cases h
  exact ⟨rfl, rfl⟩

end

end OutcomeSemanticsAssessment

end Eag.GovernedOutcomePolicy
