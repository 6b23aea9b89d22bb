/-
  Eag.GovernedAttestationPolicy.Models

  Attestation policies, requests to assess one and the assessments
  (`governed_attestation_policy/models.py`). An assessment of this stage does not name the
  request it is about.
-/

import Eag.GovernedOutcomePolicy.Models

namespace Eag.GovernedAttestationPolicy

open Eag.Foundation Eag.GovernedDestinationContract.Evidence Eag.GovernedOutcomePolicy
open Eag.GovernedWorkspace (Digest Occurrence digestOf)

/-- `ATTESTATION_POLICY_SCHEMA_VERSION`. -/
def attestationPolicySchemaVersion : String :=
  "g2.4.20.destination-contract-attestation-policy.v1"

/-! ## Vocabulary -/

/-- `AttestationPolicyDisposition`. -/
inductive AttestationPolicyDisposition where
  | attestationPolicyAttested
  | notAttested
  | unsupportedAttestationPolicy
  deriving DecidableEq, Repr

/-- `AttestationPolicyFindingCode`. -/
inductive AttestationPolicyFindingCode where
  | policyEvidenceInvalid
  | policyExpired
  | contractAssessmentInvalid
  | contractBindingMismatch
  | outcomePolicyAssessmentInvalid
  | outcomePolicyBindingMismatch
  | destinationBindingMismatch
  | attestationIssuerBindingMismatch
  | attestationReferenceBindingMismatch
  | unsupportedAttestationProfile
  deriving DecidableEq, Repr

def AttestationPolicyFindingCode.value : AttestationPolicyFindingCode → String
  | .policyEvidenceInvalid => "policy_evidence_invalid"
  | .policyExpired => "policy_expired"
  | .contractAssessmentInvalid => "contract_assessment_invalid"
  | .contractBindingMismatch => "contract_binding_mismatch"
  | .outcomePolicyAssessmentInvalid => "outcome_policy_assessment_invalid"
  | .outcomePolicyBindingMismatch => "outcome_policy_binding_mismatch"
  | .destinationBindingMismatch => "destination_binding_mismatch"
  | .attestationIssuerBindingMismatch => "attestation_issuer_binding_mismatch"
  | .attestationReferenceBindingMismatch => "attestation_reference_binding_mismatch"
  | .unsupportedAttestationProfile => "unsupported_attestation_profile"

theorem AttestationPolicyFindingCode.value_injective :
    Function.Injective AttestationPolicyFindingCode.value := by
  intro a b h
  cases a <;> cases b <;> first | rfl | exact absurd h (by decide)

/-- `AttestationPolicyFinding`. -/
abbrev AttestationPolicyFinding :=
  EvidenceFinding AttestationPolicyFindingCode PyText.NonBlank

/-! ## Policies -/

/-- `DestinationContractAttestationPolicyEvidence`; the profile is the text of the member or
    the text given. -/
structure DestinationContractAttestationPolicyEvidence where
  attestationPolicyId : CompactIdentifier
  destinationContractId : CompactIdentifier
  destinationContractDigest : Digest
  destinationContractAssessmentId : CompactIdentifier
  destinationContractAssessmentDigest : Digest
  outcomePolicyId : CompactIdentifier
  outcomePolicyDigest : Digest
  outcomePolicyAssessmentId : CompactIdentifier
  outcomePolicyAssessmentDigest : Digest
  destinationIdentity : CompactIdentifier
  declaredAttestationIssuerIdentity : CompactIdentifier
  declaredAttestationReference : CompactIdentifier
  attestationPolicyProfile : CompactIdentifier
  issuedAt : Occurrence
  expiresAt : Occurrence
  expires_later : issuedAt.val.instant < expiresAt.val.instant

/-- `policy_digest`. -/
def DestinationContractAttestationPolicyEvidence.policyDigest
    (policy : DestinationContractAttestationPolicyEvidence) : Digest := digestOf <| .object
  [("attestation_policy_id", .str policy.attestationPolicyId),
   ("attestation_policy_profile", .str policy.attestationPolicyProfile),
   ("declared_attestation_issuer_identity", .str policy.declaredAttestationIssuerIdentity),
   ("declared_attestation_reference", .str policy.declaredAttestationReference),
   ("destination_contract_assessment_digest",
     .text policy.destinationContractAssessmentDigest),
   ("destination_contract_assessment_id", .str policy.destinationContractAssessmentId),
   ("destination_contract_digest", .text policy.destinationContractDigest),
   ("destination_contract_id", .str policy.destinationContractId),
   ("destination_identity", .str policy.destinationIdentity),
   ("expires_at", .text policy.expiresAt.val.isoformat),
   ("issued_at", .text policy.issuedAt.val.isoformat),
   ("outcome_policy_assessment_digest", .text policy.outcomePolicyAssessmentDigest),
   ("outcome_policy_assessment_id", .str policy.outcomePolicyAssessmentId),
   ("outcome_policy_digest", .text policy.outcomePolicyDigest),
   ("outcome_policy_id", .str policy.outcomePolicyId),
   ("schema_version", .text attestationPolicySchemaVersion)]

/-! ## Requests and assessments -/

/-- `AttestationPolicyAssessmentRequest`, but for the digest of it, which nothing reads. -/
structure AttestationPolicyAssessmentRequest where
  assessmentRequestId : CompactIdentifier
  destinationContractRequest : DestinationContractAssessmentRequest
  destinationContractAssessment : DestinationContractAssessment
  outcomePolicyRequest : OutcomeSemanticsAssessmentRequest
  outcomePolicyAssessment : OutcomeSemanticsAssessment
  policy : DestinationContractAttestationPolicyEvidence
  timestamp : Occurrence

/-- `AttestationPolicyAssessment`, but for the digest of it, which is calculated from the rest
    when it is issued. -/
structure AttestationPolicyAssessment where
  assessmentId : CompactIdentifier
  destinationIdentity : CompactIdentifier
  policyId : Option CompactIdentifier
  disposition : AttestationPolicyDisposition
  findings : List AttestationPolicyFinding
  evidenceRefs : List PyText
  recommendations : List PyText
  timestamp : Occurrence
  findings_ordered : EvidenceFinding.Ordered AttestationPolicyFindingCode.value findings
  evidenceRefs_ordered : OrderedTexts PyText.NonBlank evidenceRefs
  recommendations_ordered : OrderedTexts PyText.NonBlank recommendations

namespace AttestationPolicyAssessment

/-- `issue`; the identity of the policy is the one of the request. -/
def issue (assessmentId destinationIdentity : PyText) (policyId : CompactIdentifier)
    (disposition : AttestationPolicyDisposition) (findings : List AttestationPolicyFinding)
    (evidenceRefs recommendations : List PyText) (timestamp : Occurrence) :
    Except String AttestationPolicyAssessment := do
  let ⟨hassessment⟩ ← ensure (Compact assessmentId)
    (identifierError "assessment_id" assessmentId)
  let ⟨hdestination⟩ ← ensure (Compact destinationIdentity)
    (identifierError "destination_identity" destinationIdentity)
  let ⟨hfindings⟩ ← ensure
    (EvidenceFinding.Ordered AttestationPolicyFindingCode.value findings)
    "findings must be strictly ordered and unique"
  let ⟨hrefs⟩ ← ensure (OrderedTexts PyText.NonBlank evidenceRefs)
    (orderedTextsError PyText.NonBlank (fun _ => nonEmptyError "evidence_refs") "evidence_refs"
      evidenceRefs)
  let ⟨hrecommendations⟩ ← ensure (OrderedTexts PyText.NonBlank recommendations)
    (orderedTextsError PyText.NonBlank (fun _ => nonEmptyError "recommendations")
      "recommendations" recommendations)
  return {
    assessmentId := ⟨assessmentId, hassessment⟩
    destinationIdentity := ⟨destinationIdentity, hdestination⟩
    policyId := some policyId
    disposition, findings, evidenceRefs, recommendations, timestamp
    findings_ordered := hfindings
    evidenceRefs_ordered := hrefs
    recommendations_ordered := hrecommendations }

variable {assessmentId destinationIdentity : PyText} {policyId : CompactIdentifier}
  {disposition : AttestationPolicyDisposition} {findings : List AttestationPolicyFinding}
  {evidenceRefs recommendations : List PyText} {timestamp : Occurrence}

/-- When an assessment can be issued. -/
theorem issue_isOk_iff :
    (∃ assessment, issue assessmentId destinationIdentity policyId disposition findings
        evidenceRefs recommendations timestamp = .ok assessment) ↔
      Compact assessmentId ∧ Compact destinationIdentity ∧
        EvidenceFinding.Ordered AttestationPolicyFindingCode.value findings ∧
        OrderedTexts PyText.NonBlank evidenceRefs ∧
        OrderedTexts PyText.NonBlank recommendations := by
  simp only [issue, except_bind_eq_ok, exists_ensure, except_pure_eq_ok]
  constructor
  · rintro ⟨_, hid, hdestination, hfindings, hrefs, hrecommendations, -⟩
    exact ⟨hid, hdestination, hfindings, hrefs, hrecommendations⟩
  · rintro ⟨hid, hdestination, hfindings, hrefs, hrecommendations⟩
    exact ⟨_, hid, hdestination, hfindings, hrefs, hrecommendations, rfl⟩

/-- What an assessment that is issued says. -/
theorem issue_says {assessment : AttestationPolicyAssessment}
    (h : issue assessmentId destinationIdentity policyId disposition findings evidenceRefs
      recommendations timestamp = .ok assessment) :
    assessment.disposition = disposition ∧ assessment.findings = findings := by
  simp only [issue, except_bind_eq_ok] at h
  obtain ⟨_, -, _, -, _, -, _, -, _, -, h⟩ := h
  cases h
  exact ⟨rfl, rfl⟩

end AttestationPolicyAssessment

end Eag.GovernedAttestationPolicy
