/-
  Eag.GovernedDestinationContract.Evidence

  Destination contracts and the assessments of them (`governed_destination_contract/models.py`,
  `canonical.py`), as the policies of later stages receive them.

  A record's digest is checked to be the digest of the rest of the record, so it is a function
  of the rest; a schema version has one admitted value.

  Of the assessor (`governed_destination_contract/assessor.py`), its `_validate_authorization`.
-/

import Eag.GovernedPromotion.Models
import Eag.GovernedTransitionAuthorization.Assessor
import Eag.GovernedTransitionControl.Models

namespace Eag.GovernedDestinationContract

open Eag.Foundation Eag.GovernedTransitionAuthorization

/-- Typed deterministic findings. -/
inductive DestinationContractFindingCode where
  | contractMissing
  | contractEvidenceInvalid
  | contractExpired
  | contractDestinationMismatch
  | contractPolicyMismatch
  | eligibilityEvidenceInvalid
  | eligibilityBindingMismatch
  | authorizationMissing
  | authorizationEvidenceInvalid
  | authorizationDenied
  | authorizationExpired
  | authorizationBindingMismatch
  | transitionBindingMismatch
  | artifactIdentityMismatch
  | executionRunBindingMismatch
  | assessmentBindingMismatch
  | issuerReferenceInvalid
  | transitionControlAmbiguous
  | unsupportedProfile
  deriving DecidableEq, Repr

def DestinationContractFindingCode.value : DestinationContractFindingCode → String
  | .contractMissing => "contract_missing"
  | .contractEvidenceInvalid => "contract_evidence_invalid"
  | .contractExpired => "contract_expired"
  | .contractDestinationMismatch => "contract_destination_mismatch"
  | .contractPolicyMismatch => "contract_policy_mismatch"
  | .eligibilityEvidenceInvalid => "eligibility_evidence_invalid"
  | .eligibilityBindingMismatch => "eligibility_binding_mismatch"
  | .authorizationMissing => "authorization_missing"
  | .authorizationEvidenceInvalid => "authorization_evidence_invalid"
  | .authorizationDenied => "authorization_denied"
  | .authorizationExpired => "authorization_expired"
  | .authorizationBindingMismatch => "authorization_binding_mismatch"
  | .transitionBindingMismatch => "transition_binding_mismatch"
  | .artifactIdentityMismatch => "artifact_identity_mismatch"
  | .executionRunBindingMismatch => "execution_run_binding_mismatch"
  | .assessmentBindingMismatch => "assessment_binding_mismatch"
  | .issuerReferenceInvalid => "issuer_reference_invalid"
  | .transitionControlAmbiguous => "transition_control_ambiguous"
  | .unsupportedProfile => "unsupported_profile"

abbrev DestinationContractFinding := Finding DestinationContractFindingCode

/-- What the check reads of a request. -/
structure DestinationContractAssessmentRequest where
  authorization : Supplied ExternalTransitionAuthorizationReceipt
  timestamp : DateTime
  timestamp_utc : timestamp.utcOffset = some 0
  deriving DecidableEq

/-- The request about an authorization that is constructed with an aware timestamp. -/
def DestinationContractAssessmentRequest.at (authorization : ExternalTransitionAuthorizationReceipt)
    (timestamp : DateTime) (offset : Int) : DestinationContractAssessmentRequest where
  authorization := .evidence authorization
  timestamp := timestamp.toUtc offset
  timestamp_utc := timestamp.toUtc_utcOffset offset

/-- What is found about an authorization; a mismatch only where there is an intent. -/
def authorizationFindings (authorization : ExternalTransitionAuthorizationReceipt)
    (intent : Option ExternalTransitionIntentEvidence) (timestamp : DateTime) :
    List DestinationContractFinding :=
  Finding.when (authorization.decision ≠ .authorized) .authorizationDenied
      authorization.authorizationId authorization.authorizationId_nonBlank ++
    Finding.when (authorization.expiresAt.instant ≤ timestamp.instant) .authorizationExpired
      authorization.authorizationId authorization.authorizationId_nonBlank ++
    (intent.toList.flatMap fun intent =>
      Finding.when (¬authorization.Binds intent) .authorizationBindingMismatch
        authorization.authorizationId authorization.authorizationId_nonBlank)

/-- `_validate_authorization`: the findings, the references and the authorization it goes on
    with. -/
def validateAuthorization (request : DestinationContractAssessmentRequest)
    (intent : Option ExternalTransitionIntentEvidence) :
    List DestinationContractFinding × List String ×
      Option ExternalTransitionAuthorizationReceipt :=
  match request.authorization with
  | .missing => ([⟨.authorizationMissing, "authorization", authorization_text_nonBlank⟩], [], none)
  | .other => ([⟨.authorizationEvidenceInvalid, "authorization", authorization_text_nonBlank⟩], [], none)
  | .evidence authorization =>
      (authorizationFindings authorization intent request.timestamp,
        [authorizationReference authorization], some authorization)

/-- The stage counts an authorization as expired at a time: the check of a request made at
    the time finds `AUTHORIZATION_EXPIRED`. -/
def CountsAsExpired (authorization : ExternalTransitionAuthorizationReceipt)
    (intent : Option ExternalTransitionIntentEvidence) (timestamp : DateTime) : Prop :=
  ∃ offset, timestamp.utcOffset = some offset ∧
    ∃ finding ∈ (validateAuthorization (.at authorization timestamp offset) intent).1,
      finding.code = .authorizationExpired

/-- **The stage counts an authorization as expired** from its expiry on, for whatever intent. -/
theorem countsAsExpired_iff (authorization : ExternalTransitionAuthorizationReceipt)
    (intent : Option ExternalTransitionIntentEvidence) (timestamp : DateTime) :
    CountsAsExpired authorization intent timestamp ↔
      timestamp.utcOffset.isSome = true ∧
        authorization.expiresAt.instant ≤ timestamp.instant := by
  have hinstant : ∀ offset, timestamp.utcOffset = some offset →
      (timestamp.toUtc offset).instant = timestamp.instant := by
    intro offset haware
    simp only [DateTime.instant, DateTime.toUtc, haware, Option.getD_some]
    omega
  constructor
  · rintro ⟨offset, haware, finding, hmem, hcode⟩
    rw [haware]
    refine ⟨rfl, ?_⟩
    simp only [validateAuthorization, DestinationContractAssessmentRequest.at,
      authorizationFindings, List.mem_append, Finding.mem_when, List.mem_flatMap] at hmem
    rcases hmem with (⟨-, rfl⟩ | ⟨hexpired, rfl⟩) | ⟨_, -, -, rfl⟩
    · cases hcode
    · rwa [hinstant offset haware] at hexpired
    · cases hcode
  · rintro ⟨haware, hexpired⟩
    obtain ⟨offset, haware⟩ := Option.isSome_iff_exists.mp haware
    refine ⟨offset, haware, ⟨.authorizationExpired, authorization.authorizationId,
      authorization.identities_nonBlank _ (by simp)⟩, ?_, rfl⟩
    rw [← hinstant offset haware] at hexpired
    simp [validateAuthorization, DestinationContractAssessmentRequest.at, authorizationFindings,
      hexpired]

end Eag.GovernedDestinationContract

namespace Eag.GovernedDestinationContract.Evidence

open Eag.Foundation Eag.GovernedPromotion
open Eag.GovernedTransitionAuthorization Eag.GovernedTransitionControl
open Eag.GovernedWorkspace (Digest Occurrence digestOf)

/-- `DESTINATION_CONTRACT_SCHEMA_VERSION`. -/
def destinationContractSchemaVersion : String := "g2.4.18.destination-contract.v1"

/-- `DESTINATION_CONTRACT_ASSESSMENT_SCHEMA_VERSION`. -/
def destinationContractAssessmentSchemaVersion : String :=
  "g2.4.18.destination-contract-assessment.v2"

/-! ## Declaration identifiers -/

/-- `[a-z0-9]`. -/
def isDeclarationHead : CodePoint → Bool
  | .scalar c => c.isLower || c.isDigit
  | .surrogate _ => false

/-- `[a-z0-9._:-]`. -/
def isDeclarationTail : CodePoint → Bool
  | .scalar c => c.isLower || c.isDigit || c = '.' || c = '_' || c = ':' || c = '-'
  | .surrogate _ => false

/-- The markers of endpoint or secret material; an identifier is lower-case already. -/
def forbiddenMarkers : List PyText :=
  ["://", "@", "token", "secret", "password", "credential", "bearer", "header"].map .ofString

/-- `re.fullmatch(r"[a-z0-9][a-z0-9._:-]{2,159}", value)`. -/
def matchesDeclaration : PyText → Bool
  | [] => false
  | head :: tail =>
      isDeclarationHead head && 2 ≤ tail.length && tail.length ≤ 159 &&
        tail.all isDeclarationTail

/-- `require_identifier` accepts the text. -/
def Declares (t : PyText) : Prop :=
  matchesDeclaration t = true ∧ ∀ marker ∈ forbiddenMarkers, ¬marker <:+: t

instance (t : PyText) : Decidable (Declares t) := inferInstanceAs (Decidable (_ ∧ _))

/-- What `require_identifier` and `_profile_value` return. -/
abbrev DeclarationIdentifier := { value : PyText // Declares value }

/-- A declaration identifier has neither spaces nor slashes. -/
theorem compact_of_declares {t : PyText} (h : Declares t) : Compact t := by
  have hpoint : ∀ c, isDeclarationHead c = true ∨ isDeclarationTail c = true →
      PyText.isSpace c = false ∧ c ≠ .scalar '/' := by
    intro c hc
    cases c with
    | surrogate offset => exact ⟨rfl, nofun⟩
    | scalar c =>
        -- The range of the character decides both.
        have hrange : 0x2d ≤ c.toNat ∧ c.toNat < 0x7f ∧ c ≠ '/' := by
          have hclass : c.isLower = true ∨ c.isDigit = true ∨ c = '.' ∨ c = '_' ∨ c = ':' ∨
              c = '-' := by
            simp only [isDeclarationHead, isDeclarationTail, Bool.or_eq_true,
              decide_eq_true_eq] at hc
            tauto
          rcases hclass with hlower | hdigit | rfl | rfl | rfl | rfl
          · have hbounds := (Bool.and_eq_true _ _).mp hlower
            have hlow : 97 ≤ c.toNat := of_decide_eq_true hbounds.1
            have hhigh : c.toNat ≤ 122 := of_decide_eq_true hbounds.2
            refine ⟨by omega, by omega, ?_⟩
            rintro rfl
            exact absurd hlow (by decide)
          · simp only [Char.isDigit, Bool.and_eq_true, decide_eq_true_eq] at hdigit
            have hlow : 48 ≤ c.toNat := hdigit.1
            have hhigh : c.toNat ≤ 57 := hdigit.2
            refine ⟨by omega, by omega, ?_⟩
            rintro rfl
            exact absurd hlow (by decide)
          all_goals decide
        obtain ⟨hlow, hhigh, hslash⟩ := hrange
        refine ⟨?_, fun heq => hslash (CodePoint.scalar.inj heq)⟩
        simp only [PyText.isSpace, isSpace, Bool.or_eq_false_iff, Bool.and_eq_false_iff,
          decide_eq_false_iff_not, beq_eq_false_iff_ne]
        omega
  cases t with
  | nil => exact absurd h.1 (by decide)
  | cons head tail =>
      have hmatch := h.1
      simp only [matchesDeclaration, Bool.and_eq_true, List.all_eq_true] at hmatch
      obtain ⟨⟨⟨hhead, -⟩, -⟩, htail⟩ := hmatch
      have hspace := (hpoint head (Or.inl hhead)).1
      refine ⟨PyText.nonBlank_of_mem List.mem_cons_self hspace, fun c hc => ?_⟩
      rcases List.mem_cons.mp hc with rfl | hc
      · exact hpoint c (Or.inl hhead)
      · exact hpoint c (Or.inr (htail c hc))

/-! ## Contracts -/

/-- `ExternalDestinationContractEvidence`. -/
structure ExternalDestinationContractEvidence where
  destinationContractId : DeclarationIdentifier
  destinationIdentity : DeclarationIdentifier
  artifactId : DeclarationIdentifier
  artifactFingerprint : Digest
  promotionAssessmentId : DeclarationIdentifier
  promotionAssessmentDigest : Digest
  transitionIntentId : DeclarationIdentifier
  authorizationId : DeclarationIdentifier
  authorizationBindingDigest : Digest
  authorizationAssessmentId : DeclarationIdentifier
  authorizationAssessmentDigest : Digest
  promotionPolicyDigest : Digest
  authorizationPolicyDigest : Digest
  executionId : Option DeclarationIdentifier
  runId : Option DeclarationIdentifier
  transitionProfile : DeclarationIdentifier
  operationProfile : DeclarationIdentifier
  externalRequestSchemaId : DeclarationIdentifier
  externalReceiptSchemaId : DeclarationIdentifier
  destinationIdempotencyProfile : DeclarationIdentifier
  destinationPolicyDigest : Digest
  attestationIssuerIdentity : DeclarationIdentifier
  attestationReference : DeclarationIdentifier
  issuedAt : Occurrence
  expiresAt : Occurrence
  expires_later : issuedAt.val.instant < expiresAt.val.instant

namespace ExternalDestinationContractEvidence

/-- `contract_digest`. -/
def contractDigest (contract : ExternalDestinationContractEvidence) : Digest :=
  digestOf <| .object
    [("artifact_fingerprint", .text contract.artifactFingerprint),
     ("artifact_id", .str contract.artifactId),
     ("attestation_issuer_identity", .str contract.attestationIssuerIdentity),
     ("attestation_reference", .str contract.attestationReference),
     ("authorization_assessment_digest", .text contract.authorizationAssessmentDigest),
     ("authorization_assessment_id", .str contract.authorizationAssessmentId),
     ("authorization_binding_digest", .text contract.authorizationBindingDigest),
     ("authorization_id", .str contract.authorizationId),
     ("authorization_policy_digest", .text contract.authorizationPolicyDigest),
     ("destination_contract_id", .str contract.destinationContractId),
     ("destination_idempotency_profile", .str contract.destinationIdempotencyProfile),
     ("destination_identity", .str contract.destinationIdentity),
     ("destination_policy_digest", .text contract.destinationPolicyDigest),
     ("execution_id", .optional (contract.executionId.map (·.val))),
     ("expires_at", .text contract.expiresAt.val.isoformat),
     ("external_receipt_schema_id", .str contract.externalReceiptSchemaId),
     ("external_request_schema_id", .str contract.externalRequestSchemaId),
     ("issued_at", .text contract.issuedAt.val.isoformat),
     ("operation_profile", .str contract.operationProfile),
     ("promotion_assessment_digest", .text contract.promotionAssessmentDigest),
     ("promotion_assessment_id", .str contract.promotionAssessmentId),
     ("promotion_policy_digest", .text contract.promotionPolicyDigest),
     ("run_id", .optional (contract.runId.map (·.val))),
     ("schema_version", .text destinationContractSchemaVersion),
     ("transition_intent_id", .str contract.transitionIntentId),
     ("transition_profile", .str contract.transitionProfile)]

end ExternalDestinationContractEvidence

/-! ## Requests -/

/-- What a request records of the decision of a transition control. -/
def controlReference (control : Option TransitionControlDecision) : Payload :=
  match control with
  | none => .null
  | some decision => .object
      [("control_key", .text decision.controlKey),
       ("decision_digest", .text decision.decisionDigest),
       ("decision_id", .text decision.decisionId),
       ("schema_version", .text decision.schemaVersion)]

/-- `DestinationContractAssessmentRequest`. -/
structure DestinationContractAssessmentRequest where
  assessmentRequestId : DeclarationIdentifier
  promotionRequest : PromotionEligibilityRequest
  promotionAssessment : PromotionEligibilityAssessment
  transitionIntent : ExternalTransitionIntentEvidence
  authorization : ExternalTransitionAuthorizationReceipt
  authorizationAssessment : TransitionAuthorizationAssessment
  contract : ExternalDestinationContractEvidence
  timestamp : Occurrence
  transitionControlEvidence : Option TransitionControlDecision

namespace DestinationContractAssessmentRequest

variable (request : DestinationContractAssessmentRequest)

/-- What the request records of the intent to promote. -/
def promotionReference : Payload := .object
  [("artifact_fingerprint", .text request.promotionRequest.artifactFingerprint),
   ("artifact_id", .str request.promotionRequest.artifactId),
   ("destination_identity", .str request.promotionRequest.destinationIdentity),
   ("intent_id", .str request.promotionRequest.intentId),
   ("lineage_reference", .str request.promotionRequest.lineageReference),
   ("promotion_policy_digest", .text request.promotionRequest.promotionPolicyDigest),
   ("promotion_profile", .str request.promotionRequest.promotionProfile),
   ("readiness_evidence_reference",
     .str request.promotionRequest.readinessEvidenceReference),
   ("schema_version", .text promotionSchemaVersion)]

/-- What the request records of the transition intent. -/
def intentReference : Payload := .object
  [("artifact_fingerprint", .text request.transitionIntent.artifactFingerprint),
   ("artifact_id", .text request.transitionIntent.artifactId),
   ("authorization_policy_digest", .text request.transitionIntent.authorizationPolicyDigest),
   ("destination_identity", .text request.transitionIntent.destinationIdentity),
   ("eligibility_assessment_digest",
     .text request.transitionIntent.eligibilityAssessmentDigest),
   ("eligibility_assessment_id", .text request.transitionIntent.eligibilityAssessmentId),
   ("execution_id", .optional (request.transitionIntent.executionId.map .ofString)),
   ("promotion_policy_digest", .text request.transitionIntent.promotionPolicyDigest),
   ("run_id", .optional (request.transitionIntent.runId.map .ofString)),
   ("schema_version", .text request.transitionIntent.schemaVersion),
   ("transition_intent_id", .text request.transitionIntent.transitionIntentId),
   ("transition_profile", .text request.transitionIntent.transitionProfile.value)]

/-- `request_digest`. -/
def requestDigest : Digest := digestOf <| .object
  [("authorization", .object
     [("authorization_binding_digest", .text request.authorization.bindingDigest),
      ("authorization_id", .text request.authorization.authorizationId),
      ("schema_version", .text request.authorization.schemaVersion)]),
   ("authorization_assessment", .object
     [("assessment_digest", .text request.authorizationAssessment.assessmentDigest),
      ("assessment_id", .text request.authorizationAssessment.assessmentId),
      ("schema_version", .text request.authorizationAssessment.schemaVersion)]),
   ("contract", .object
     [("contract_digest", .text request.contract.contractDigest),
      ("destination_contract_id", .str request.contract.destinationContractId),
      ("schema_version", .text destinationContractSchemaVersion)]),
   ("promotion_assessment", .object
     [("assessment_digest", .text request.promotionAssessment.assessmentDigest),
      ("assessment_id", .str request.promotionAssessment.assessmentId),
      ("schema_version", .text promotionSchemaVersion)]),
   ("promotion_request", request.promotionReference),
   ("schema_version", .text destinationContractSchemaVersion),
   ("timestamp", .text request.timestamp.val.isoformat),
   ("transition_control_evidence", controlReference request.transitionControlEvidence),
   ("transition_intent", request.intentReference)]

/-- What later requests record of the request. -/
def reference : Payload := .object
  [("request_digest", .text request.requestDigest),
   ("schema_version", .text destinationContractSchemaVersion)]

end DestinationContractAssessmentRequest

/-! ## Assessments -/

/-- `DestinationContractDisposition`. -/
inductive DestinationContractDisposition where
  | contractAttested
  | notAttested
  | unsupportedDestinationContract
  deriving DecidableEq, Repr

def DestinationContractDisposition.value : DestinationContractDisposition → String
  | .contractAttested => "contract_attested"
  | .notAttested => "not_attested"
  | .unsupportedDestinationContract => "unsupported_destination_contract"

/-- `DestinationContractAssessment`. -/
structure DestinationContractAssessment where
  assessmentId : DeclarationIdentifier
  assessedRequestId : DeclarationIdentifier
  assessedRequestDigest : Digest
  destinationIdentity : DeclarationIdentifier
  contractId : Option DeclarationIdentifier
  disposition : DestinationContractDisposition
  findings : List (EvidenceFinding DestinationContractFindingCode PyText.NonBlank)
  evidenceRefs : List PyText
  recommendations : List PyText
  timestamp : Occurrence
  findings_ordered : EvidenceFinding.Ordered DestinationContractFindingCode.value findings
  evidenceRefs_ordered : OrderedTexts PyText.NonBlank evidenceRefs
  recommendations_ordered : OrderedTexts PyText.NonBlank recommendations

namespace DestinationContractAssessment

variable (assessment : DestinationContractAssessment)

/-- `assessment_digest`. -/
def assessmentDigest : Digest := digestOf <| .object
  [("assessed_request_digest", .text assessment.assessedRequestDigest),
   ("assessed_request_id", .str assessment.assessedRequestId),
   ("assessment_id", .str assessment.assessmentId),
   ("contract_id", .optional (assessment.contractId.map (·.val))),
   ("destination_identity", .str assessment.destinationIdentity),
   ("disposition", .text assessment.disposition.value),
   ("evidence_refs", .array (assessment.evidenceRefs.map .str)),
   ("findings", .array (assessment.findings.map
     (EvidenceFinding.toPayload DestinationContractFindingCode.value))),
   ("recommendations", .array (assessment.recommendations.map .str)),
   ("schema_version", .text destinationContractAssessmentSchemaVersion),
   ("timestamp", .text assessment.timestamp.val.isoformat)]

/-- What later requests record of the assessment. -/
def reference : Payload := .object
  [("assessment_digest", .text assessment.assessmentDigest),
   ("assessment_id", .str assessment.assessmentId),
   ("disposition", .text assessment.disposition.value),
   ("schema_version", .text destinationContractAssessmentSchemaVersion)]

end DestinationContractAssessment

/-- `f"{name}:{identity}:{digest}"`, as the assessors refer to evidence. -/
def evidenceReference (name : String) (identity : PyText) (digest : Digest) : PyText :=
  PyText.ofString name ++ (.scalar ':' :: identity ++ (.scalar ':' :: PyText.ofString digest))

/-- A reference is compact exactly when the identity in it is unbroken. -/
theorem compact_evidenceReference {name : String} (hname : Compact (PyText.ofString name))
    {identity : PyText} (digest : Digest) :
    Compact (evidenceReference name identity digest) ↔ Unbroken identity := by
  have hcolon : PyText.isSpace (.scalar ':') = false ∧
      CodePoint.scalar ':' ≠ CodePoint.scalar '/' := by decide
  have hdigest : Unbroken (.scalar ':' :: PyText.ofString digest.val) := by
    intro c hc
    rcases List.mem_cons.mp hc with rfl | hc
    · exact hcolon
    · exact unbroken_of_isDigest digest.property c hc
  rw [evidenceReference, compact_append_iff hname, unbroken_append]
  constructor
  · rintro ⟨h, -⟩ c hc
    exact h c (List.mem_cons_of_mem _ hc)
  · intro h
    refine ⟨fun c hc => ?_, hdigest⟩
    rcases List.mem_cons.mp hc with rfl | hc
    · exact hcolon
    · exact h c hc

end Eag.GovernedDestinationContract.Evidence
