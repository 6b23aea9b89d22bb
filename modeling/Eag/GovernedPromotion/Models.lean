/-
  Eag.GovernedPromotion.Models

  Evidence of promotion eligibility (`governed_promotion/models.py`), as the destination
  contracts bind it: the intent to promote an artifact and the assessment of it.
-/

import Eag.Foundation.Identifiers
import Eag.GovernedWorkspace.Models

namespace Eag.GovernedPromotion

open Eag.Foundation
open Eag.GovernedWorkspace (Identifier Digest Occurrence digestOf)

/-- `PROMOTION_SCHEMA_VERSION`. -/
def promotionSchemaVersion : String := "g2.4.15"

/-- `PromotionEligibilityDisposition`. -/
inductive PromotionEligibilityDisposition where
  | eligible
  | notEligible
  | unsupportedDestination
  deriving DecidableEq, Repr

def PromotionEligibilityDisposition.value : PromotionEligibilityDisposition → String
  | .eligible => "eligible"
  | .notEligible => "not_eligible"
  | .unsupportedDestination => "unsupported_destination"

/-- `PromotionFindingCode`. -/
inductive PromotionFindingCode where
  | artifactIdentityMismatch
  | notReadyArtifact
  | readinessEvidenceInvalid
  | lineageBindingMismatch
  | unsupportedDestination
  | destinationIdentityInvalid
  | unsupportedProfile
  deriving DecidableEq, Repr

def PromotionFindingCode.value : PromotionFindingCode → String
  | .artifactIdentityMismatch => "artifact_identity_mismatch"
  | .notReadyArtifact => "not_ready_artifact"
  | .readinessEvidenceInvalid => "readiness_evidence_invalid"
  | .lineageBindingMismatch => "lineage_binding_mismatch"
  | .unsupportedDestination => "unsupported_destination"
  | .destinationIdentityInvalid => "destination_identity_invalid"
  | .unsupportedProfile => "unsupported_profile"

/-- `PromotionEligibilityRequest`; the profile is the text of the member or the text given. -/
structure PromotionEligibilityRequest where
  intentId : Identifier
  artifactId : Identifier
  artifactFingerprint : Digest
  readinessEvidenceReference : Identifier
  lineageReference : Identifier
  destinationIdentity : Identifier
  promotionPolicyDigest : Digest
  promotionProfile : Identifier
  deriving DecidableEq

/-- `PromotionEligibilityAssessment`. -/
structure PromotionEligibilityAssessment where
  assessmentId : Identifier
  artifactIdentity : Identifier
  destinationIdentity : Identifier
  disposition : PromotionEligibilityDisposition
  findings : List (EvidenceFinding PromotionFindingCode PyText.NonBlank)
  evidenceRefs : List PyText
  recommendations : List PyText
  timestamp : Occurrence
  findings_ordered : EvidenceFinding.Ordered PromotionFindingCode.value findings
  evidenceRefs_ordered : evidenceRefs ≠ [] ∧ OrderedTexts PyText.NonBlank evidenceRefs
  recommendations_ordered : OrderedTexts PyText.NonBlank recommendations

/-- `assessment_digest`. -/
def PromotionEligibilityAssessment.assessmentDigest
    (assessment : PromotionEligibilityAssessment) : Digest := digestOf <| .object
  [("artifact_identity", .str assessment.artifactIdentity),
   ("assessment_id", .str assessment.assessmentId),
   ("destination_identity", .str assessment.destinationIdentity),
   ("disposition", .text assessment.disposition.value),
   ("evidence_refs", .array (assessment.evidenceRefs.map .str)),
   ("findings", .array (assessment.findings.map
     (EvidenceFinding.toPayload PromotionFindingCode.value))),
   ("recommendations", .array (assessment.recommendations.map .str)),
   ("schema_version", .text promotionSchemaVersion),
   ("timestamp", .text assessment.timestamp.val.isoformat)]

end Eag.GovernedPromotion
