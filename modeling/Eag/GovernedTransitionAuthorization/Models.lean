/-
  Eag.GovernedTransitionAuthorization.Models

  Evidence of an external transition authorization
  (`governed_transition_authorization/models.py`): the human decision about one
  transition intent, and the assessment of it. Both carry the digest of
  everything else in them.
-/

import Eag.Foundation.Calendar
import Eag.Foundation.Evidence
import Eag.Foundation.Sha256

namespace Eag.GovernedTransitionAuthorization

open Eag.Foundation

/-- `TRANSITION_AUTHORIZATION_SCHEMA_VERSION`. -/
def transitionAuthorizationSchemaVersion : String := "g2.4.16"

/-! ## Vocabulary -/

/-- The explicit human decision represented by a receipt. -/
inductive HumanAuthorizationDecision where
  | authorized
  | denied
  deriving DecidableEq, Repr

def HumanAuthorizationDecision.value : HumanAuthorizationDecision → String
  | .authorized => "authorized"
  | .denied => "denied"

/-- Authorization conclusions, which grant nothing. -/
inductive TransitionAuthorizationDisposition where
  | authorized
  | notAuthorized
  | unsupportedTransition
  deriving DecidableEq, Repr

def TransitionAuthorizationDisposition.value : TransitionAuthorizationDisposition → String
  | .authorized => "authorized"
  | .notAuthorized => "not_authorized"
  | .unsupportedTransition => "unsupported_transition"

/-- Typed fail-closed findings. -/
inductive TransitionAuthorizationFindingCode where
  | eligibilityEvidenceInvalid
  | transitionIntentBindingMismatch
  | artifactIdentityMismatch
  | destinationBindingMismatch
  | authorizationMissing
  | authorizationDenied
  | authorizationExpired
  | authorizationBindingMismatch
  | authorizationDuplicate
  | authorizationConflict
  | authorizationStoreUnavailable
  | authorizationStoreCorrupt
  | idempotencyKeyInvalid
  | unsupportedTransitionProfile
  deriving DecidableEq, Repr

def TransitionAuthorizationFindingCode.value : TransitionAuthorizationFindingCode → String
  | .eligibilityEvidenceInvalid => "eligibility_evidence_invalid"
  | .transitionIntentBindingMismatch => "transition_intent_binding_mismatch"
  | .artifactIdentityMismatch => "artifact_identity_mismatch"
  | .destinationBindingMismatch => "destination_binding_mismatch"
  | .authorizationMissing => "authorization_missing"
  | .authorizationDenied => "authorization_denied"
  | .authorizationExpired => "authorization_expired"
  | .authorizationBindingMismatch => "authorization_binding_mismatch"
  | .authorizationDuplicate => "authorization_duplicate"
  | .authorizationConflict => "authorization_conflict"
  | .authorizationStoreUnavailable => "authorization_store_unavailable"
  | .authorizationStoreCorrupt => "authorization_store_corrupt"
  | .idempotencyKeyInvalid => "idempotency_key_invalid"
  | .unsupportedTransitionProfile => "unsupported_transition_profile"

abbrev TransitionAuthorizationFinding := Finding TransitionAuthorizationFindingCode

/-! ## The human decision -/

/-- Everything a receipt holds but its digest. -/
structure AuthorizationFields where
  authorizationId : String
  approverIdentity : String
  decision : HumanAuthorizationDecision
  occurredAt : DateTime
  expiresAt : DateTime
  transitionIntentId : String
  artifactId : String
  artifactFingerprint : String
  destinationIdentity : String
  eligibilityAssessmentId : String
  eligibilityAssessmentDigest : String
  promotionPolicyDigest : String
  authorizationPolicyDigest : String
  executionId : Option String
  runId : Option String
  schemaVersion : String
  deriving DecidableEq

/-- `calculate_binding_digest`. -/
def AuthorizationFields.calculateBindingDigest (f : AuthorizationFields) : String :=
  jsonDigest (.object [
    ("approver_identity", .str f.approverIdentity),
    ("artifact_fingerprint", .str f.artifactFingerprint),
    ("artifact_id", .str f.artifactId),
    ("authorization_id", .str f.authorizationId),
    ("authorization_policy_digest", .str f.authorizationPolicyDigest),
    ("decision", .str f.decision.value),
    ("destination_identity", .str f.destinationIdentity),
    ("eligibility_assessment_digest", .str f.eligibilityAssessmentDigest),
    ("eligibility_assessment_id", .str f.eligibilityAssessmentId),
    ("execution_id", .optional f.executionId),
    ("expires_at", .str f.expiresAt.isoformat),
    ("occurred_at", .str f.occurredAt.isoformat),
    ("promotion_policy_digest", .str f.promotionPolicyDigest),
    ("run_id", .optional f.runId),
    ("schema_version", .str f.schemaVersion),
    ("transition_intent_id", .str f.transitionIntentId)])

/-- Self-validating human decision evidence. -/
structure ExternalTransitionAuthorizationReceipt extends AuthorizationFields where
  bindingDigest : String
  identities_nonBlank : ∀ value ∈ [authorizationId, approverIdentity, transitionIntentId,
    artifactId, destinationIdentity, eligibilityAssessmentId], NonBlank value
  digests_isDigest : ∀ value ∈ [artifactFingerprint, eligibilityAssessmentDigest,
    promotionPolicyDigest, authorizationPolicyDigest], IsDigest value
  optional_nonBlank : ∀ value ∈ executionId.toList ++ runId.toList, NonBlank value
  times_utc : occurredAt.utcOffset = some 0 ∧ expiresAt.utcOffset = some 0
  expires_later : occurredAt.instant < expiresAt.instant
  schemaVersion_supported : schemaVersion = transitionAuthorizationSchemaVersion
  bindingDigest_canonical : bindingDigest = toAuthorizationFields.calculateBindingDigest
  deriving DecidableEq

/-! ## The assessment -/

/-- Everything an assessment holds but its digest. -/
structure AssessmentFields where
  assessmentId : String
  authorizationId : Option String
  artifactId : String
  artifactFingerprint : String
  destinationIdentity : String
  disposition : TransitionAuthorizationDisposition
  findings : List TransitionAuthorizationFinding
  evidenceRefs : List String
  recommendations : List String
  timestamp : DateTime
  schemaVersion : String
  deriving DecidableEq

/-- `calculate_digest`. -/
def AssessmentFields.calculateDigest (f : AssessmentFields) : String :=
  jsonDigest (.object [
    ("artifact_fingerprint", .str f.artifactFingerprint),
    ("artifact_id", .str f.artifactId),
    ("assessment_id", .str f.assessmentId),
    ("authorization_id", .optional f.authorizationId),
    ("destination_identity", .str f.destinationIdentity),
    ("disposition", .str f.disposition.value),
    ("evidence_refs", .array (f.evidenceRefs.map .str)),
    ("findings", .array (f.findings.map
      (Finding.toPayload TransitionAuthorizationFindingCode.value))),
    ("recommendations", .array (f.recommendations.map .str)),
    ("schema_version", .str f.schemaVersion),
    ("timestamp", .str f.timestamp.isoformat)])

/-- Authorization evidence result. -/
structure TransitionAuthorizationAssessment extends AssessmentFields where
  assessmentDigest : String
  identities_nonBlank : ∀ value ∈ [assessmentId, artifactId, destinationIdentity] ++
    authorizationId.toList, NonBlank value
  artifactFingerprint_isDigest : IsDigest artifactFingerprint
  findings_ordered : Finding.Ordered TransitionAuthorizationFindingCode.value findings
  evidenceRefs_ordered : OrderedUnique evidenceRefs
  recommendations_ordered : OrderedUnique recommendations
  timestamp_utc : timestamp.utcOffset = some 0
  schemaVersion_supported : schemaVersion = transitionAuthorizationSchemaVersion
  assessmentDigest_canonical : assessmentDigest = toAssessmentFields.calculateDigest
  deriving DecidableEq

end Eag.GovernedTransitionAuthorization
