/-
  Eag.GovernedAttestationPolicy.Assessor

  `AttestationPolicyAssessor.assess` (`governed_attestation_policy/assessor.py`), and the two
  policy assessors together. Each `_validate_*` function is the list of its checks.
-/

import Eag.GovernedAttestationPolicy.Models
import Eag.GovernedOutcomePolicy.Assessor

namespace Eag.GovernedAttestationPolicy

open Eag.Foundation Eag.GovernedDestinationContract.Evidence
open Eag.GovernedOutcomePolicy (OutcomeSemanticsAssessmentRequest contractAssessment_text_compact
  contract_text_compact destination_text_compact momentOf outcomeAssessmentFor outcomeRequestFor
  plainContract plainContractAssessment plainContractRequest)
open Eag.GovernedWorkspace (Digest)

section Checks

variable (request : AttestationPolicyAssessmentRequest)

/-- The policy names another contract or another assessment of it. -/
def ContractUnbound : Prop :=
  request.policy.destinationContractId.val ≠
      request.destinationContractRequest.contract.destinationContractId.val ∨
    request.policy.destinationContractDigest ≠
      request.destinationContractRequest.contract.contractDigest ∨
    request.policy.destinationContractAssessmentId.val ≠
      request.destinationContractAssessment.assessmentId.val ∨
    request.policy.destinationContractAssessmentDigest ≠
      request.destinationContractAssessment.assessmentDigest

instance : Decidable (ContractUnbound request) := inferInstanceAs (Decidable (_ ∨ _))

/-- The policy names another outcome policy or another assessment of it. -/
def OutcomePolicyUnbound : Prop :=
  request.policy.outcomePolicyId.val ≠
      request.outcomePolicyRequest.policy.outcomePolicyId.val ∨
    request.policy.outcomePolicyDigest ≠ request.outcomePolicyRequest.policy.policyDigest ∨
    request.policy.outcomePolicyAssessmentId.val ≠
      request.outcomePolicyAssessment.assessmentId.val ∨
    request.policy.outcomePolicyAssessmentDigest ≠
      request.outcomePolicyAssessment.assessmentDigest

instance : Decidable (OutcomePolicyUnbound request) := inferInstanceAs (Decidable (_ ∨ _))

/-- `_validate_contract_evidence`. -/
def validateContractEvidence : List (Check AttestationPolicyFindingCode) :=
  let contractRequest := request.destinationContractRequest
  let contractAssessment := request.destinationContractAssessment
  let contract := contractRequest.contract
  [⟨decide (contractAssessment.disposition ≠ .contractAttested), .contractAssessmentInvalid,
      contractAssessment.assessmentId⟩,
   ⟨decide (contractAssessment.contractId ≠ some contract.destinationContractId),
      .contractBindingMismatch, .ofString "contract_id"⟩,
   ⟨decide (contractAssessment.assessedRequestId ≠ contractRequest.assessmentRequestId),
      .contractBindingMismatch, .ofString "contract_assessed_request_id"⟩,
   ⟨decide (contractAssessment.assessedRequestDigest ≠ contractRequest.requestDigest),
      .contractBindingMismatch, .ofString "contract_assessed_request_digest"⟩,
   ⟨decide (contractAssessment.destinationIdentity.val ≠ contract.destinationIdentity.val),
      .destinationBindingMismatch, contractAssessment.destinationIdentity⟩,
   ⟨decide (contract.expiresAt.val.instant ≤ request.timestamp.val.instant),
      .contractAssessmentInvalid, .ofString "expired_contract"⟩]

/-- `_validate_outcome_policy_evidence`. -/
def validateOutcomePolicyEvidence : List (Check AttestationPolicyFindingCode) :=
  let contractRequest := request.destinationContractRequest
  let contractAssessment := request.destinationContractAssessment
  let outcomeRequest := request.outcomePolicyRequest
  let outcomeAssessment := request.outcomePolicyAssessment
  let outcomePolicy := outcomeRequest.policy
  [⟨decide (outcomeAssessment.disposition ≠ .outcomePolicyAttested),
      .outcomePolicyAssessmentInvalid, outcomeAssessment.assessmentId⟩,
   ⟨decide (outcomeAssessment.policyId ≠ some outcomePolicy.outcomePolicyId),
      .outcomePolicyBindingMismatch, .ofString "outcome_policy_assessment_id"⟩,
   ⟨decide (outcomeAssessment.assessedRequestId ≠ outcomeRequest.assessmentRequestId),
      .outcomePolicyBindingMismatch, .ofString "outcome_policy_assessed_request_id"⟩,
   ⟨decide (outcomeAssessment.assessedRequestDigest ≠ outcomeRequest.requestDigest),
      .outcomePolicyBindingMismatch, .ofString "outcome_policy_assessed_request_digest"⟩,
   ⟨decide (outcomeRequest.destinationContractRequest.requestDigest ≠
      contractRequest.requestDigest), .outcomePolicyBindingMismatch,
      .ofString "destination_contract_request"⟩,
   ⟨decide (outcomeRequest.destinationContractAssessment.assessmentDigest ≠
      contractAssessment.assessmentDigest), .outcomePolicyBindingMismatch,
      .ofString "destination_contract_assessment"⟩,
   ⟨decide (outcomePolicy.destinationContractId.val ≠
      contractRequest.contract.destinationContractId.val), .outcomePolicyBindingMismatch,
      .ofString "destination_contract_id"⟩,
   ⟨decide (outcomePolicy.destinationContractDigest ≠
      contractRequest.contract.contractDigest), .outcomePolicyBindingMismatch,
      .ofString "destination_contract_digest"⟩,
   ⟨decide (outcomePolicy.destinationContractAssessmentId.val ≠
      contractAssessment.assessmentId.val), .outcomePolicyBindingMismatch,
      .ofString "destination_contract_assessment_id"⟩,
   ⟨decide (outcomePolicy.destinationContractAssessmentDigest ≠
      contractAssessment.assessmentDigest), .outcomePolicyBindingMismatch,
      .ofString "destination_contract_assessment_digest"⟩,
   ⟨decide (outcomePolicy.destinationIdentity.val ≠
      contractRequest.contract.destinationIdentity.val), .destinationBindingMismatch,
      outcomePolicy.destinationIdentity⟩,
   ⟨decide (outcomeAssessment.destinationIdentity.val ≠
      contractRequest.contract.destinationIdentity.val), .destinationBindingMismatch,
      outcomeAssessment.destinationIdentity⟩]

/-- `_validate_policy_binding`. -/
def validatePolicyBinding : List (Check AttestationPolicyFindingCode) :=
  let policy := request.policy
  let contract := request.destinationContractRequest.contract
  [⟨decide (policy.expiresAt.val.instant ≤ request.timestamp.val.instant), .policyExpired,
      policy.attestationPolicyId⟩,
   ⟨decide (ContractUnbound request), .contractBindingMismatch, policy.attestationPolicyId⟩,
   ⟨decide (OutcomePolicyUnbound request), .outcomePolicyBindingMismatch,
      policy.attestationPolicyId⟩,
   ⟨decide (policy.destinationIdentity.val ≠ contract.destinationIdentity.val),
      .destinationBindingMismatch, policy.destinationIdentity⟩,
   ⟨decide (policy.declaredAttestationIssuerIdentity.val ≠
      contract.attestationIssuerIdentity.val), .attestationIssuerBindingMismatch,
      policy.declaredAttestationIssuerIdentity⟩,
   ⟨decide (policy.declaredAttestationReference.val ≠ contract.attestationReference.val),
      .attestationReferenceBindingMismatch, policy.declaredAttestationReference⟩]

/-- `_validate_policy_profile`. -/
def validatePolicyProfile : List (Check AttestationPolicyFindingCode) :=
  [⟨decide (request.policy.attestationPolicyProfile.val ≠
      .ofString "declared_attestation_policy_v1"), .unsupportedAttestationProfile,
      request.policy.attestationPolicyProfile⟩]

/-- The checks in the order they are made. -/
def checks : List (Check AttestationPolicyFindingCode) :=
  validateContractEvidence request ++ validateOutcomePolicyEvidence request ++
    validatePolicyBinding request ++ validatePolicyProfile request

/-- The evidence an assessment refers to. -/
def references : List PyText :=
  [evidenceReference "destination_contract_request"
      request.destinationContractRequest.assessmentRequestId
      request.destinationContractRequest.requestDigest,
   evidenceReference "destination_contract_assessment"
      request.destinationContractAssessment.assessmentId
      request.destinationContractAssessment.assessmentDigest,
   evidenceReference "outcome_policy_request" request.outcomePolicyRequest.assessmentRequestId
      request.outcomePolicyRequest.requestDigest,
   evidenceReference "outcome_policy_assessment" request.outcomePolicyAssessment.assessmentId
      request.outcomePolicyAssessment.assessmentDigest,
   evidenceReference "attestation_policy" request.policy.attestationPolicyId
      request.policy.policyDigest]

end Checks

/-- `_disposition_for`. -/
def dispositionFor (findings : List AttestationPolicyFinding) : AttestationPolicyDisposition :=
  if findings = [] then .attestationPolicyAttested
  else if ∃ finding ∈ findings, finding.code = .unsupportedAttestationProfile then
    .unsupportedAttestationPolicy
  else .notAttested

theorem dispositionFor_eq_attested (findings : List AttestationPolicyFinding) :
    dispositionFor findings = .attestationPolicyAttested ↔ findings = [] := by
  unfold dispositionFor
  split
  · next hnil => simp [hnil]
  · next hnil => split <;> simp [hnil]

/-- `_assessment`. -/
def assessment (assessmentId : PyText) (request : AttestationPolicyAssessmentRequest)
    (disposition : AttestationPolicyDisposition) (findings : List AttestationPolicyFinding)
    (references : List PyText) : Except String AttestationPolicyAssessment :=
  AttestationPolicyAssessment.issue assessmentId
    request.destinationContractRequest.contract.destinationIdentity
    request.policy.attestationPolicyId disposition
    (sortedBy (EvidenceFinding.key AttestationPolicyFindingCode.value) findings)
    (sortedTexts references)
    [.ofString (if disposition = .attestationPolicyAttested
      then "attestation_policy_evidence_only" else "stop_without_automatic_progress")]
    request.timestamp

/-- `AttestationPolicyAssessor.assess`. -/
def assess (assessmentId : PyText) (request : AttestationPolicyAssessmentRequest) :
    Except String AttestationPolicyAssessment := do
  let findings ← report (fun _ => nonEmptyError "evidence_reference") (checks request)
  assessment assessmentId request (dispositionFor findings) findings (references request)

/-! ## What an assessment says -/

/-- No reference of a check is blank. -/
theorem nonBlank_references (request : AttestationPolicyAssessmentRequest) :
    ∀ check ∈ checks request, check.reference.NonBlank := by
  have hpolicy := request.policy.attestationPolicyId.property.1
  simp only [checks, validateContractEvidence, validateOutcomePolicyEvidence,
    validatePolicyBinding, validatePolicyProfile, List.forall_mem_append, List.forall_mem_cons,
    List.not_mem_nil, IsEmpty.forall_iff, implies_true, and_true]
  refine ⟨⟨⟨⟨?_, ?_, ?_, ?_, ?_, ?_⟩, ?_, ?_, ?_, ?_, ?_, ?_, ?_, ?_, ?_, ?_, ?_, ?_⟩,
    hpolicy, hpolicy, hpolicy, ?_, ?_, ?_⟩, ?_⟩
  · exact (compact_of_declares request.destinationContractAssessment.assessmentId.property).1
  · decide
  · decide
  · decide
  · exact (compact_of_declares
      request.destinationContractAssessment.destinationIdentity.property).1
  · decide
  · exact request.outcomePolicyAssessment.assessmentId.property.1
  · decide
  · decide
  · decide
  · decide
  · decide
  · decide
  · decide
  · decide
  · decide
  · exact request.outcomePolicyRequest.policy.destinationIdentity.property.1
  · exact request.outcomePolicyAssessment.destinationIdentity.property.1
  · exact request.policy.destinationIdentity.property.1
  · exact request.policy.declaredAttestationIssuerIdentity.property.1
  · exact request.policy.declaredAttestationReference.property.1
  · exact request.policy.attestationPolicyProfile.property.1

/-- No reference to evidence is blank. -/
theorem nonBlank_evidence (request : AttestationPolicyAssessmentRequest) :
    ∀ reference ∈ references request, reference.NonBlank := by
  have hname : ∀ name identity digest, PyText.NonBlank (.ofString name) →
      (evidenceReference name identity digest).NonBlank := fun _ _ _ h =>
    PyText.nonBlank_append_left (s := .ofString _) h _
  simp only [references, List.forall_mem_cons, List.not_mem_nil, IsEmpty.forall_iff,
    implies_true, and_true]
  refine ⟨?_, ?_, ?_, ?_, ?_⟩
  all_goals exact hname _ _ _ (by decide)

/-- The identities that are to be the destination of the contract. -/
def declaredDestinations (request : AttestationPolicyAssessmentRequest) : List PyText :=
  [request.destinationContractAssessment.destinationIdentity,
    request.outcomePolicyRequest.policy.destinationIdentity,
    request.outcomePolicyAssessment.destinationIdentity,
    request.policy.destinationIdentity]

/-- **When failures are told apart.** Four codes are reported by several checks; there the
    identity that one of them refers to is not the text that another refers to, and no two
    declared destinations are wrong in the same way. -/
structure TellsFailuresApart (request : AttestationPolicyAssessmentRequest) : Prop where
  contract : request.destinationContractAssessment.disposition ≠ .contractAttested →
    request.destinationContractRequest.contract.expiresAt.val.instant ≤
      request.timestamp.val.instant →
    request.destinationContractAssessment.assessmentId.val ≠ .ofString "expired_contract"
  contractBinding : ContractUnbound request →
    ∀ check ∈ Check.about .contractBindingMismatch (validateContractEvidence request),
    check.failed = true → check.reference ≠ request.policy.attestationPolicyId
  outcomePolicyBinding : OutcomePolicyUnbound request →
    ∀ check ∈ Check.about .outcomePolicyBindingMismatch (validateOutcomePolicyEvidence request),
    check.failed = true → check.reference ≠ request.policy.attestationPolicyId
  destinations : ((declaredDestinations request).filter fun destination => destination ≠
    request.destinationContractRequest.contract.destinationIdentity.val).Nodup

theorem distinct_iff (request : AttestationPolicyAssessmentRequest) :
    Check.Distinct (checks request) ↔ TellsFailuresApart request := by
  rw [Check.distinct_iff_apart]
  have hcontract : Check.Apart (Check.about .contractAssessmentInvalid (checks request)) ↔
      (decide (request.destinationContractAssessment.disposition ≠ .contractAttested) = true →
        decide (request.destinationContractRequest.contract.expiresAt.val.instant ≤
          request.timestamp.val.instant) = true →
        request.destinationContractAssessment.assessmentId.val ≠
          .ofString "expired_contract") := Check.apart_pair
  -- The names of the evidence are apart whatever fails.
  have hcontractNames : Check.Apart
      (Check.about .contractBindingMismatch (validateContractEvidence request)) := by
    simp [Check.Apart, Check.about, validateContractEvidence]
  have houtcomeNames : Check.Apart
      (Check.about .outcomePolicyBindingMismatch (validateOutcomePolicyEvidence request)) := by
    simp [Check.Apart, Check.about, validateOutcomePolicyEvidence]
  have hbindings : Check.about .contractBindingMismatch (checks request) =
      Check.about .contractBindingMismatch (validateContractEvidence request) ++
        [⟨decide (ContractUnbound request), .contractBindingMismatch,
          request.policy.attestationPolicyId⟩] := rfl
  have hbinding : Check.Apart (Check.about .contractBindingMismatch (checks request)) ↔
      (ContractUnbound request →
        ∀ check ∈ Check.about .contractBindingMismatch (validateContractEvidence request),
        check.failed = true → check.reference ≠ request.policy.attestationPolicyId) := by
    rw [hbindings, Check.apart_concat, and_iff_right hcontractNames, decide_eq_true_eq]
  have houtcomes : Check.about .outcomePolicyBindingMismatch (checks request) =
      Check.about .outcomePolicyBindingMismatch (validateOutcomePolicyEvidence request) ++
        [⟨decide (OutcomePolicyUnbound request), .outcomePolicyBindingMismatch,
          request.policy.attestationPolicyId⟩] := rfl
  have houtcome : Check.Apart (Check.about .outcomePolicyBindingMismatch (checks request)) ↔
      (OutcomePolicyUnbound request → ∀ check ∈ Check.about .outcomePolicyBindingMismatch
          (validateOutcomePolicyEvidence request),
        check.failed = true → check.reference ≠ request.policy.attestationPolicyId) := by
    rw [houtcomes, Check.apart_concat, and_iff_right houtcomeNames, decide_eq_true_eq]
  have hdestinations : Check.Apart
      (Check.about .destinationBindingMismatch (checks request)) ↔
      ((declaredDestinations request).filter fun destination => destination ≠
        request.destinationContractRequest.contract.destinationIdentity.val).Nodup :=
    Check.apart_expected _ _ (declaredDestinations request)
  simp only [decide_eq_true_eq] at hcontract
  constructor
  · intro h
    exact ⟨hcontract.mp (h _), hbinding.mp (h _), houtcome.mp (h _), hdestinations.mp (h _)⟩
  · intro h code
    cases code with
    | contractAssessmentInvalid => exact hcontract.mpr h.contract
    | contractBindingMismatch => exact hbinding.mpr h.contractBinding
    | outcomePolicyBindingMismatch => exact houtcome.mpr h.outcomePolicyBinding
    | destinationBindingMismatch => exact hdestinations.mpr h.destinations
    | policyEvidenceInvalid => exact Check.apart_nil
    | _ => exact Check.apart_singleton _

/-- An assessment is made of findings that are strictly ordered. -/
theorem finishes_assessment (assessmentId : PyText) (request : AttestationPolicyAssessmentRequest) :
    Finishes AttestationPolicyFindingCode.value
      (fun findings => assessment assessmentId request (dispositionFor findings) findings
        (references request))
      (fun result => result.disposition = .attestationPolicyAttested)
      (fun result => result.findings) (Compact assessmentId) where
  isOk_iff findings := by
    have hrecommendation : OrderedTexts PyText.NonBlank
        [.ofString (if dispositionFor findings = .attestationPolicyAttested
          then "attestation_policy_evidence_only" else "stop_without_automatic_progress")] := by
      refine ⟨fun value hvalue => ?_, List.pairwise_singleton _ _⟩
      rw [List.mem_singleton.mp hvalue]
      split <;> decide
    refine AttestationPolicyAssessment.issue_isOk_iff.trans ⟨?_, ?_⟩
    · rintro ⟨hid, -, hfindings, -⟩
      exact ⟨hid, hfindings⟩
    · rintro ⟨hid, hfindings⟩
      exact ⟨hid, compact_of_declares
        request.destinationContractRequest.contract.destinationIdentity.property, hfindings,
        orderedTexts_sortedTexts.mpr (nonBlank_evidence request), hrecommendation⟩
  favourable_iff findings result hresult := by
    rw [(AttestationPolicyAssessment.issue_says hresult).1]
    exact dispositionFor_eq_attested findings
  listed_eq findings result hresult := (AttestationPolicyAssessment.issue_says hresult).2

/-- **The assessor returns an assessment that says what it should** exactly when it is given a
    compact identity and tells the failures of the request apart. -/
theorem assessedExactly_iff (assessmentId : PyText) (request : AttestationPolicyAssessmentRequest) :
    (∃ assessment, assess assessmentId request = .ok assessment ∧
        AssessedExactly (checks request) (assessment.disposition = .attestationPolicyAttested)
          assessment.findings) ↔
      Compact assessmentId ∧ TellsFailuresApart request := by
  rw [← distinct_iff]
  exact (finishes_assessment assessmentId request).assessedExactly_iff
    AttestationPolicyFindingCode.value_injective _
    fun check hcheck _ => nonBlank_references request check hcheck

/-! ## Both assessors -/

/-- **The policy assessors are total and exact** on a compact identity exactly for the requests
    whose failures they tell apart. -/
theorem policy_assessors_exact_iff (assessmentId : PyText) :
    (∀ request : AttestationPolicyAssessmentRequest,
      (∃ assessment, assess assessmentId request = .ok assessment ∧
          AssessedExactly (checks request)
            (assessment.disposition = .attestationPolicyAttested) assessment.findings) ↔
        Compact assessmentId ∧ TellsFailuresApart request) ∧
    ∀ request : OutcomeSemanticsAssessmentRequest,
      (∃ assessment, GovernedOutcomePolicy.assess assessmentId request = .ok assessment ∧
          AssessedExactly (GovernedOutcomePolicy.checks request)
            (assessment.disposition = .outcomePolicyAttested) assessment.findings) ↔
        Compact assessmentId ∧ GovernedOutcomePolicy.TellsFailuresApart request :=
  ⟨assessedExactly_iff assessmentId,
    GovernedOutcomePolicy.assessedExactly_iff assessmentId⟩

/-- A request whose outcome policy was declared, and attested, for another destination. -/
def misdirectedRequest : AttestationPolicyAssessmentRequest where
  assessmentRequestId := ⟨.ofString "request", by decide⟩
  destinationContractRequest := plainContractRequest
  destinationContractAssessment := plainContractAssessment
  outcomePolicyRequest := outcomeRequestFor ⟨.ofString "elsewhere", by decide⟩
  outcomePolicyAssessment := outcomeAssessmentFor ⟨.ofString "elsewhere", by decide⟩
  policy := {
    attestationPolicyId := ⟨.ofString "attestation-policy", by decide⟩
    destinationContractId := ⟨.ofString "contract", contract_text_compact⟩
    destinationContractDigest := plainContract.contractDigest
    destinationContractAssessmentId :=
      ⟨.ofString "contract-assessment", contractAssessment_text_compact⟩
    destinationContractAssessmentDigest := plainContractAssessment.assessmentDigest
    outcomePolicyId := (outcomeRequestFor ⟨.ofString "elsewhere", by decide⟩).policy.outcomePolicyId
    outcomePolicyDigest :=
      (outcomeRequestFor ⟨.ofString "elsewhere", by decide⟩).policy.policyDigest
    outcomePolicyAssessmentId :=
      (outcomeAssessmentFor ⟨.ofString "elsewhere", by decide⟩).assessmentId
    outcomePolicyAssessmentDigest :=
      (outcomeAssessmentFor ⟨.ofString "elsewhere", by decide⟩).assessmentDigest
    destinationIdentity := ⟨.ofString "destination", destination_text_compact⟩
    declaredAttestationIssuerIdentity := ⟨.ofString "issuer", by decide⟩
    declaredAttestationReference := ⟨.ofString "reference", by decide⟩
    attestationPolicyProfile := ⟨.ofString "declared_attestation_policy_v1", by decide⟩
    issuedAt := momentOf 0
    expiresAt := momentOf 1
    expires_later := plainContract.expires_later }
  timestamp := momentOf 0

/-- The policy and its assessment name the same wrong destination, so the assessor reports the
    mismatch twice and its own result class refuses the findings. -/
theorem shared_wrong_destination_refused :
    ¬∀ assessmentId : PyText, Compact assessmentId →
      (∀ request : AttestationPolicyAssessmentRequest,
        ∃ assessment, assess assessmentId request = .ok assessment ∧
          AssessedExactly (checks request)
            (assessment.disposition = .attestationPolicyAttested) assessment.findings) ∧
      ∀ request : OutcomeSemanticsAssessmentRequest,
        ∃ assessment, GovernedOutcomePolicy.assess assessmentId request = .ok assessment ∧
          AssessedExactly (GovernedOutcomePolicy.checks request)
            (assessment.disposition = .outcomePolicyAttested) assessment.findings := by
  intro hclaim
  have hassessed := (hclaim (.ofString "assessment") (by decide)).1 misdirectedRequest
  have hapart := ((assessedExactly_iff _ _).mp hassessed).2.destinations
  have hwrong : (declaredDestinations misdirectedRequest).filter (fun destination =>
      destination ≠ misdirectedRequest.destinationContractRequest.contract.destinationIdentity.val)
        = [.ofString "elsewhere", .ofString "elsewhere"] := by decide
  rw [hwrong] at hapart
  exact absurd hapart (by decide)

end Eag.GovernedAttestationPolicy
