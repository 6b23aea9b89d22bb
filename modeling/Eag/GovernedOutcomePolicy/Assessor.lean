/-
  Eag.GovernedOutcomePolicy.Assessor

  `OutcomeSemanticsAssessor.assess` (`governed_outcome_policy/assessor.py`).

  Each `_validate_*` function is the list of its checks: a check that fails appends its
  finding. The assessment sorts the findings but keeps every one, and its class refuses a
  finding it is given twice.
-/

import Eag.GovernedOutcomePolicy.Models
import Eag.GovernedTransitionControl.ControlRuns

namespace Eag.GovernedOutcomePolicy

open Eag.Foundation Eag.GovernedDestinationContract.Evidence
open Eag.GovernedTransitionControl (TransitionControlDecision)
open Eag.GovernedWorkspace (Digest)

section Checks

variable (request : OutcomeSemanticsAssessmentRequest)

/-- The contract or its authorization has run out. -/
def UpstreamExpired : Prop :=
  request.destinationContractRequest.contract.expiresAt.val.instant ≤
      request.timestamp.val.instant ∨
    request.destinationContractRequest.authorization.expiresAt.instant ≤
      request.timestamp.val.instant

instance : Decidable (UpstreamExpired request) := inferInstanceAs (Decidable (_ ∨ _))

/-- The policy names another contract or another assessment of it. -/
def PolicyUnbound : Prop :=
  request.policy.destinationContractId.val ≠
      request.destinationContractRequest.contract.destinationContractId.val ∨
    request.policy.destinationContractDigest ≠
      request.destinationContractRequest.contract.contractDigest ∨
    request.policy.destinationContractAssessmentId.val ≠
      request.destinationContractAssessment.assessmentId.val ∨
    request.policy.destinationContractAssessmentDigest ≠
      request.destinationContractAssessment.assessmentDigest

instance : Decidable (PolicyUnbound request) := inferInstanceAs (Decidable (_ ∨ _))

/-- The policy declares other profiles than the contract. -/
def ProfilesUnbound : Prop :=
  request.policy.destinationOperationProfile.val ≠
      request.destinationContractRequest.contract.operationProfile.val ∨
    request.policy.externalReceiptSchemaId.val ≠
      request.destinationContractRequest.contract.externalReceiptSchemaId.val ∨
    request.policy.destinationIdempotencyProfile.val ≠
      request.destinationContractRequest.contract.destinationIdempotencyProfile.val

instance : Decidable (ProfilesUnbound request) := inferInstanceAs (Decidable (_ ∨ _))

/-- `_validate_contract_evidence`. -/
def validateContractEvidence : List (Check OutcomePolicyFindingCode) :=
  let contractRequest := request.destinationContractRequest
  let contractAssessment := request.destinationContractAssessment
  [⟨decide (contractAssessment.disposition ≠ .contractAttested), .contractAssessmentInvalid,
      contractAssessment.assessmentId⟩,
   ⟨decide (contractAssessment.contractId ≠ some contractRequest.contract.destinationContractId),
      .contractBindingMismatch, .ofString "contract_id"⟩,
   ⟨decide (contractAssessment.assessedRequestId ≠ contractRequest.assessmentRequestId),
      .contractBindingMismatch, .ofString "assessed_request_id"⟩,
   ⟨decide (contractAssessment.assessedRequestDigest ≠ contractRequest.requestDigest),
      .contractBindingMismatch, .ofString "assessed_request_digest"⟩,
   ⟨decide (UpstreamExpired request), .contractAssessmentInvalid,
      .ofString "expired_upstream_evidence"⟩]

/-- `_validate_policy_binding`. -/
def validatePolicyBinding : List (Check OutcomePolicyFindingCode) :=
  let policy := request.policy
  [⟨decide (policy.expiresAt.val.instant ≤ request.timestamp.val.instant), .policyExpired,
      policy.outcomePolicyId⟩,
   ⟨decide (PolicyUnbound request), .contractBindingMismatch, policy.outcomePolicyId⟩,
   ⟨decide (policy.destinationIdentity.val ≠
      request.destinationContractRequest.contract.destinationIdentity.val),
      .destinationBindingMismatch, policy.destinationIdentity⟩,
   ⟨decide (ProfilesUnbound request), .profileBindingMismatch, policy.outcomePolicyId⟩]

/-- `tuple(sorted(item.value for item in FutureReceiptClass))`. -/
def expectedClasses : List PyText :=
  ["effect_reported_unverified_v1", "effect_verified_v1", "outcome_unknown_v1",
    "rejected_before_effect_v1"].map .ofString

/-- `_validate_policy_semantics`. -/
def validatePolicySemantics : List (Check OutcomePolicyFindingCode) :=
  let policy := request.policy
  [⟨decide (policy.operationProfile.val ≠ .ofString "external_artifact_outcome_policy_v1"),
      .unsupportedOutcomeProfile, policy.operationProfile⟩,
   ⟨decide (policy.futureReceiptClasses ≠ expectedClasses), .unsupportedOutcomeProfile,
      .ofString "future_receipt_classes"⟩,
   ⟨decide (policy.unknownOutcomeDisposition.val ≠
      .ofString "stop_and_reconciliation_required"), .unsafeUnknownOutcomeSemantics,
      policy.outcomePolicyId⟩,
   ⟨decide (policy.automaticRetryDisposition.val ≠ .ofString "forbidden"),
      .automaticRetryForbidden, policy.outcomePolicyId⟩,
   ⟨decide (policy.automaticRollbackDisposition.val ≠ .ofString "forbidden"),
      .automaticRollbackForbidden, policy.outcomePolicyId⟩,
   ⟨decide (policy.completionVerificationRequirement.val ≠
      .ofString "future_receipt_verification_required"), .unverifiedCompletionForbidden,
      policy.outcomePolicyId⟩]

/-- `_validate_transition_control_evidence`: its check. -/
def validateTransitionControlEvidence : List (Check OutcomePolicyFindingCode) :=
  match request.transitionControlEvidence with
  | none => []
  | some evidence =>
      [⟨decide (evidence.disposition = .ambiguous), .transitionControlAmbiguous,
        .ofString evidence.controlKey⟩]

/-- The checks of the contract and the policy, in the order they are made. -/
def policyChecks : List (Check OutcomePolicyFindingCode) :=
  validateContractEvidence request ++ validatePolicyBinding request ++
    validatePolicySemantics request

/-- The checks in the order they are made. -/
def checks : List (Check OutcomePolicyFindingCode) :=
  policyChecks request ++ validateTransitionControlEvidence request

/-- `decision_digest`. -/
def decisionDigest (decision : TransitionControlDecision) : Digest :=
  ⟨decision.decisionDigest, by
    rw [decision.decisionDigest_canonical]
    exact isDigest_jsonDigest _⟩

/-- The evidence an assessment refers to. -/
def references : List PyText :=
  [evidenceReference "destination_contract_request"
      request.destinationContractRequest.assessmentRequestId
      request.destinationContractRequest.requestDigest,
   evidenceReference "destination_contract_assessment"
      request.destinationContractAssessment.assessmentId
      request.destinationContractAssessment.assessmentDigest,
   evidenceReference "outcome_policy" request.policy.outcomePolicyId
      request.policy.policyDigest] ++
  request.transitionControlEvidence.toList.map fun evidence =>
    evidenceReference "transition_control" (.ofString evidence.controlKey)
      (decisionDigest evidence)

end Checks

/-- `_disposition_for`. -/
def dispositionFor (findings : List OutcomeSemanticsFinding) : OutcomePolicyDisposition :=
  if findings = [] then .outcomePolicyAttested
  else if ∃ finding ∈ findings, finding.code = .unsupportedOutcomeProfile then
    .unsupportedOutcomePolicy
  else .notAttested

/-- `_assessment`. -/
def assessment (assessmentId : PyText) (request : OutcomeSemanticsAssessmentRequest)
    (disposition : OutcomePolicyDisposition) (findings : List OutcomeSemanticsFinding)
    (references : List PyText) : Except String OutcomeSemanticsAssessment :=
  OutcomeSemanticsAssessment.issue assessmentId request
    request.destinationContractRequest.contract.destinationIdentity
    request.policy.outcomePolicyId disposition
    (sortedBy (EvidenceFinding.key OutcomePolicyFindingCode.value) findings)
    (sortedTexts references)
    [.ofString (if disposition = .outcomePolicyAttested then "policy_evidence_only"
      else "stop_without_automatic_progress")]
    request.timestamp

/-- `OutcomeSemanticsAssessor.assess`. -/
def assess (assessmentId : PyText) (request : OutcomeSemanticsAssessmentRequest) :
    Except String OutcomeSemanticsAssessment := do
  let findings ← report (fun _ => nonEmptyError "evidence_reference") (checks request)
  assessment assessmentId request (dispositionFor findings) findings (references request)

/-! ## What an assessment says -/

theorem dispositionFor_eq_attested (findings : List OutcomeSemanticsFinding) :
    dispositionFor findings = .outcomePolicyAttested ↔ findings = [] := by
  unfold dispositionFor
  split
  · next hnil => simp [hnil]
  · next hnil => split <;> simp [hnil]

/-- No reference of a check is blank. -/
theorem nonBlank_references (request : OutcomeSemanticsAssessmentRequest) :
    ∀ check ∈ checks request, check.reference.NonBlank := by
  have hcontract := (compact_of_declares
    request.destinationContractAssessment.assessmentId.property).1
  have hpolicy := request.policy.outcomePolicyId.property.1
  have hcontrol : ∀ check ∈ validateTransitionControlEvidence request,
      check.reference.NonBlank := by
    unfold validateTransitionControlEvidence
    cases request.transitionControlEvidence with
    | none => exact fun check hcheck => nomatch hcheck
    | some control =>
        intro check hcheck
        rw [List.mem_singleton] at hcheck
        rw [hcheck]
        exact PyText.nonBlank_ofString.mpr (nonBlank_of_isDigest control.controlKey_isDigest)
  simp only [checks, policyChecks, validateContractEvidence, validatePolicyBinding,
    validatePolicySemantics, List.forall_mem_append, List.forall_mem_cons, List.not_mem_nil, IsEmpty.forall_iff,
    implies_true, and_true]
  refine ⟨⟨⟨⟨hcontract, ?_, ?_, ?_, ?_⟩, hpolicy, hpolicy, ?_, hpolicy⟩, ?_, ?_, hpolicy,
    hpolicy, hpolicy, hpolicy⟩, hcontrol⟩
  · decide
  · decide
  · decide
  · decide
  · exact request.policy.destinationIdentity.property.1
  · exact request.policy.operationProfile.property.1
  · decide

/-- Every reference to evidence is compact. -/
theorem compact_references (request : OutcomeSemanticsAssessmentRequest) :
    ∀ reference ∈ references request, Compact reference := by
  intro reference h
  rw [references, List.mem_append, List.mem_cons, List.mem_cons, List.mem_singleton] at h
  rcases h with (rfl | rfl | rfl) | h
  · exact (compact_evidenceReference (by decide) _).mpr
      (compact_of_declares request.destinationContractRequest.assessmentRequestId.property).2
  · exact (compact_evidenceReference (by decide) _).mpr
      (compact_of_declares request.destinationContractAssessment.assessmentId.property).2
  · exact (compact_evidenceReference (by decide) _).mpr request.policy.outcomePolicyId.property.2
  · obtain ⟨control, -, rfl⟩ := List.mem_map.mp h
    exact (compact_evidenceReference (by decide) _).mpr
      (unbroken_of_isDigest control.controlKey_isDigest)

/-- **When failures are told apart.** Three codes are reported by several checks; there the
    identity that one of them refers to is not the text that another refers to. -/
structure TellsFailuresApart (request : OutcomeSemanticsAssessmentRequest) : Prop where
  contract : request.destinationContractAssessment.disposition ≠ .contractAttested →
    UpstreamExpired request →
    request.destinationContractAssessment.assessmentId.val ≠
      .ofString "expired_upstream_evidence"
  contractBinding : PolicyUnbound request →
    ∀ check ∈ Check.about .contractBindingMismatch (validateContractEvidence request),
    check.failed = true → check.reference ≠ request.policy.outcomePolicyId
  profile : request.policy.operationProfile.val ≠
      .ofString "external_artifact_outcome_policy_v1" →
    request.policy.futureReceiptClasses ≠ expectedClasses →
    request.policy.operationProfile.val ≠ .ofString "future_receipt_classes"

/-- A transition control is reported about once at most, and nothing else is reported about
    it. -/
theorem apart_iff_policyChecks (request : OutcomeSemanticsAssessmentRequest)
    (code : OutcomePolicyFindingCode) :
    Check.Apart (Check.about code (checks request)) ↔
      Check.Apart (Check.about code (policyChecks request)) := by
  have happend : Check.about code (checks request) = Check.about code (policyChecks request) ++
      Check.about code (validateTransitionControlEvidence request) := List.filter_append ..
  rw [happend]
  unfold validateTransitionControlEvidence
  cases request.transitionControlEvidence with
  | none => rw [Check.about, Check.about, List.filter_nil, List.append_nil]
  | some control =>
      by_cases hcode : code = .transitionControlAmbiguous
      · rw [hcode]
        exact iff_of_true (Check.apart_singleton _) Check.apart_nil
      · rw [Check.about, Check.about, List.filter_cons_of_neg (by simpa using Ne.symm hcode),
          List.filter_nil, List.append_nil]

theorem distinct_iff (request : OutcomeSemanticsAssessmentRequest) :
    Check.Distinct (checks request) ↔ TellsFailuresApart request := by
  simp only [Check.distinct_iff_apart, apart_iff_policyChecks]
  have hcontract : Check.Apart (Check.about .contractAssessmentInvalid (policyChecks request)) ↔
      (decide (request.destinationContractAssessment.disposition ≠ .contractAttested) = true →
        decide (UpstreamExpired request) = true →
        request.destinationContractAssessment.assessmentId.val ≠
          .ofString "expired_upstream_evidence") := Check.apart_pair
  -- The names of the contract evidence are apart whatever fails.
  have hnames : Check.Apart
      (Check.about .contractBindingMismatch (validateContractEvidence request)) := by
    simp [Check.Apart, Check.about, validateContractEvidence]
  have hbindings : Check.about .contractBindingMismatch (policyChecks request) =
      Check.about .contractBindingMismatch (validateContractEvidence request) ++
        [⟨decide (PolicyUnbound request), .contractBindingMismatch,
          request.policy.outcomePolicyId⟩] := rfl
  have hbinding : Check.Apart (Check.about .contractBindingMismatch (policyChecks request)) ↔
      (PolicyUnbound request →
        ∀ check ∈ Check.about .contractBindingMismatch (validateContractEvidence request),
        check.failed = true → check.reference ≠ request.policy.outcomePolicyId) := by
    rw [hbindings, Check.apart_concat, and_iff_right hnames, decide_eq_true_eq]
  have hprofile : Check.Apart (Check.about .unsupportedOutcomeProfile (policyChecks request)) ↔
      (decide (request.policy.operationProfile.val ≠
          .ofString "external_artifact_outcome_policy_v1") = true →
        decide (request.policy.futureReceiptClasses ≠ expectedClasses) = true →
        request.policy.operationProfile.val ≠ .ofString "future_receipt_classes") :=
    Check.apart_pair
  simp only [decide_eq_true_eq] at hcontract hprofile
  constructor
  · intro h
    exact ⟨hcontract.mp (h _), hbinding.mp (h _), hprofile.mp (h _)⟩
  · intro h code
    cases code with
    | contractAssessmentInvalid => exact hcontract.mpr h.contract
    | contractBindingMismatch => exact hbinding.mpr h.contractBinding
    | unsupportedOutcomeProfile => exact hprofile.mpr h.profile
    | policyEvidenceInvalid => exact Check.apart_nil
    | transitionControlAmbiguous => exact Check.apart_nil
    | _ => exact Check.apart_singleton _

/-- An assessment is made of findings that are strictly ordered. -/
theorem finishes_assessment (assessmentId : PyText) (request : OutcomeSemanticsAssessmentRequest) :
    Finishes OutcomePolicyFindingCode.value
      (fun findings => assessment assessmentId request (dispositionFor findings) findings
        (references request))
      (fun result => result.disposition = .outcomePolicyAttested)
      (fun result => result.findings) (Compact assessmentId) where
  isOk_iff findings := by
    have hrecommendation : OrderedTexts Compact
        [.ofString (if dispositionFor findings = .outcomePolicyAttested
          then "policy_evidence_only" else "stop_without_automatic_progress")] := by
      refine ⟨fun value hvalue => ?_, List.pairwise_singleton _ _⟩
      rw [List.mem_singleton.mp hvalue]
      split <;> decide
    refine OutcomeSemanticsAssessment.issue_isOk_iff.trans ⟨?_, ?_⟩
    · rintro ⟨hid, -, hfindings, -⟩
      exact ⟨hid, hfindings⟩
    · rintro ⟨hid, hfindings⟩
      exact ⟨hid, compact_of_declares
        request.destinationContractRequest.contract.destinationIdentity.property, hfindings,
        orderedTexts_sortedTexts.mpr (compact_references request), hrecommendation⟩
  favourable_iff findings result hresult := by
    rw [(OutcomeSemanticsAssessment.issue_says hresult).1]
    exact dispositionFor_eq_attested findings
  listed_eq findings result hresult := (OutcomeSemanticsAssessment.issue_says hresult).2

/-- **The assessor returns an assessment that says what it should** exactly when it is given a
    compact identity and tells the failures of the request apart. -/
theorem assessedExactly_iff (assessmentId : PyText) (request : OutcomeSemanticsAssessmentRequest) :
    (∃ assessment, assess assessmentId request = .ok assessment ∧
        AssessedExactly (checks request) (assessment.disposition = .outcomePolicyAttested)
          assessment.findings) ↔
      Compact assessmentId ∧ TellsFailuresApart request := by
  rw [← distinct_iff]
  exact (finishes_assessment assessmentId request).assessedExactly_iff
    OutcomePolicyFindingCode.value_injective _
    fun check hcheck _ => nonBlank_references request check hcheck

/-! ## Evidence of one contract -/

section Evidence

open Eag.GovernedPromotion Eag.GovernedTransitionAuthorization
open Eag.GovernedTransitionControl (plainAuthorization plainAssessment)
open Eag.GovernedWorkspace (Identifier Occurrence)

/-- A microsecond of the first day. -/
def momentOf (microsecond : Int) : Occurrence := ⟨⟨microsecond, some 0⟩, rfl⟩

/-- A digest of a name. -/
def digestNamed (name : String) : Digest := ⟨sha256Hex name, isDigest_sha256Hex _⟩

/-- The contract of one authorized transition. -/
def plainContract : ExternalDestinationContractEvidence where
  destinationContractId := ⟨.ofString "contract", by decide +kernel⟩
  destinationIdentity := ⟨.ofString "destination", by decide +kernel⟩
  artifactId := ⟨.ofString "artifact", by decide +kernel⟩
  artifactFingerprint := digestNamed "artifact"
  promotionAssessmentId := ⟨.ofString "eligibility", by decide +kernel⟩
  promotionAssessmentDigest := digestNamed "eligibility"
  transitionIntentId := ⟨.ofString "intent", by decide +kernel⟩
  authorizationId := ⟨.ofString "authorization", by decide +kernel⟩
  authorizationBindingDigest := digestNamed "authorization"
  authorizationAssessmentId := ⟨.ofString "assessment", by decide +kernel⟩
  authorizationAssessmentDigest := digestNamed "assessment"
  promotionPolicyDigest := digestNamed "promotion"
  authorizationPolicyDigest := digestNamed "policy"
  executionId := none
  runId := none
  transitionProfile := ⟨.ofString "external_artifact_transition_v1", by decide +kernel⟩
  operationProfile := ⟨.ofString "external_artifact_transfer_v1", by decide +kernel⟩
  externalRequestSchemaId := ⟨.ofString "external_artifact_request_v1", by decide +kernel⟩
  externalReceiptSchemaId := ⟨.ofString "external_artifact_receipt_v1", by decide +kernel⟩
  destinationIdempotencyProfile :=
    ⟨.ofString "destination_idempotency_declaration_v1", by decide +kernel⟩
  destinationPolicyDigest := digestNamed "destination"
  attestationIssuerIdentity := ⟨.ofString "issuer", by decide +kernel⟩
  attestationReference := ⟨.ofString "reference", by decide +kernel⟩
  issuedAt := momentOf 0
  expiresAt := momentOf 1
  expires_later := by decide

/-- A request about the contract. -/
def plainContractRequest : DestinationContractAssessmentRequest where
  assessmentRequestId := ⟨.ofString "contract-request", by decide +kernel⟩
  promotionRequest := {
    intentId := ⟨.ofString "promotion-intent", by decide +kernel⟩
    artifactId := ⟨.ofString "artifact", by decide +kernel⟩
    artifactFingerprint := digestNamed "artifact"
    readinessEvidenceReference := ⟨.ofString "readiness", by decide +kernel⟩
    lineageReference := ⟨.ofString "lineage", by decide +kernel⟩
    destinationIdentity := ⟨.ofString "destination", by decide +kernel⟩
    promotionPolicyDigest := digestNamed "promotion"
    promotionProfile := ⟨.ofString "artifact_transition_eligibility_v1", by decide +kernel⟩ }
  promotionAssessment := {
    assessmentId := ⟨.ofString "eligibility", by decide +kernel⟩
    artifactIdentity := ⟨.ofString "artifact", by decide +kernel⟩
    destinationIdentity := ⟨.ofString "destination", by decide +kernel⟩
    disposition := .eligible
    findings := []
    evidenceRefs := [.ofString "readiness"]
    recommendations := []
    timestamp := momentOf 0
    findings_ordered := .nil
    evidenceRefs_ordered := ⟨nofun, by decide +kernel⟩
    recommendations_ordered := by decide }
  transitionIntent := {
    transitionIntentId := "intent"
    artifactId := "artifact"
    artifactFingerprint := sha256Hex "artifact"
    destinationIdentity := "destination"
    eligibilityAssessmentId := "eligibility"
    eligibilityAssessmentDigest := sha256Hex "eligibility"
    promotionPolicyDigest := sha256Hex "promotion"
    authorizationPolicyDigest := sha256Hex "policy"
    idempotencyKey := "key-1"
    transitionProfile := .externalArtifactTransitionV1
    executionId := none
    runId := none
    schemaVersion := "g2.4.16"
    identities_nonBlank := by decide
    digests_isDigest := GovernedTransitionControl.plainDigests_isDigest
    optional_nonBlank := GovernedTransitionControl.noRun_nonBlank
    transitionProfile_nonBlank := by decide
    schemaVersion_supported := rfl }
  authorization := plainAuthorization
  authorizationAssessment := plainAssessment
  contract := plainContract
  timestamp := momentOf 0
  transitionControlEvidence := none

/-- The assessment that attests the contract. -/
def plainContractAssessment : DestinationContractAssessment where
  assessmentId := ⟨.ofString "contract-assessment", by decide +kernel⟩
  assessedRequestId := plainContractRequest.assessmentRequestId
  assessedRequestDigest := plainContractRequest.requestDigest
  destinationIdentity := plainContract.destinationIdentity
  contractId := some plainContract.destinationContractId
  disposition := .contractAttested
  findings := []
  evidenceRefs := []
  recommendations := []
  timestamp := momentOf 0
  findings_ordered := .nil
  evidenceRefs_ordered := by decide
  recommendations_ordered := by decide

theorem contract_text_compact : Compact (.ofString "contract") := by decide +kernel

theorem contractAssessment_text_compact : Compact (.ofString "contract-assessment") := by
  decide +kernel

theorem destination_text_compact : Compact (.ofString "destination") := by decide +kernel

/-- A request about an outcome policy of the contract that declares a destination. -/
def outcomeRequestFor (destination : CompactIdentifier) : OutcomeSemanticsAssessmentRequest where
  assessmentRequestId := ⟨.ofString "outcome-request", by decide +kernel⟩
  destinationContractRequest := plainContractRequest
  destinationContractAssessment := plainContractAssessment
  policy := {
    outcomePolicyId := ⟨.ofString "outcome-policy", by decide +kernel⟩
    destinationContractId := ⟨.ofString "contract", contract_text_compact⟩
    destinationContractDigest := plainContract.contractDigest
    destinationContractAssessmentId :=
      ⟨.ofString "contract-assessment", contractAssessment_text_compact⟩
    destinationContractAssessmentDigest := plainContractAssessment.assessmentDigest
    destinationIdentity := destination
    operationProfile := ⟨.ofString "external_artifact_outcome_policy_v1", by decide +kernel⟩
    destinationOperationProfile :=
      ⟨_, compact_of_declares plainContract.operationProfile.property⟩
    externalReceiptSchemaId :=
      ⟨_, compact_of_declares plainContract.externalReceiptSchemaId.property⟩
    destinationIdempotencyProfile :=
      ⟨_, compact_of_declares plainContract.destinationIdempotencyProfile.property⟩
    futureReceiptClasses := expectedClasses
    unknownOutcomeDisposition := ⟨.ofString "stop_and_reconciliation_required", by decide +kernel⟩
    automaticRetryDisposition := ⟨.ofString "forbidden", by decide +kernel⟩
    automaticRollbackDisposition := ⟨.ofString "forbidden", by decide +kernel⟩
    completionVerificationRequirement :=
      ⟨.ofString "future_receipt_verification_required", by decide +kernel⟩
    issuedAt := momentOf 0
    expiresAt := momentOf 1
    futureReceiptClasses_ordered := by decide +kernel
    expires_later := by decide }
  timestamp := momentOf 0
  transitionControlEvidence := none

/-- An assessment of the policy that names a destination of its own. -/
def outcomeAssessmentFor (destination : CompactIdentifier) : OutcomeSemanticsAssessment where
  assessmentId := ⟨.ofString "outcome-assessment", by decide +kernel⟩
  assessedRequestId := (outcomeRequestFor destination).assessmentRequestId
  assessedRequestDigest := (outcomeRequestFor destination).requestDigest
  destinationIdentity := destination
  policyId := some (outcomeRequestFor destination).policy.outcomePolicyId
  disposition := .outcomePolicyAttested
  findings := []
  evidenceRefs := []
  recommendations := []
  timestamp := momentOf 0
  findings_ordered := .nil
  evidenceRefs_ordered := by decide
  recommendations_ordered := by decide

end Evidence

end Eag.GovernedOutcomePolicy
