/-
  Eag.GovernedTransitionControl.Models

  Contracts of external transition control (`governed_transition_control/models.py`,
  `canonical.py`). The control key of a request is the digest of the authorized
  transition; the caller's idempotency key and the time are in the binding digest
  only, and the request identity in neither.
-/

import Eag.Foundation.Calendar
import Eag.Foundation.Evidence
import Eag.Foundation.Sha256

namespace Eag.GovernedTransitionControl

open Eag.Foundation

/-- `TRANSITION_CONTROL_SCHEMA_VERSION`. -/
def transitionControlSchemaVersion : String := "g2.4.17.transition-control.v1"

/-! ## Vocabulary -/

/-- The profile of a request: the enumeration member, or some other text. The text
    may spell the member's value and is still not the member. -/
inductive TransitionProfile where
  | externalArtifactTransitionControlV1
  | text (profile : String)
  deriving DecidableEq, Repr

def TransitionProfile.value : TransitionProfile → String
  | .externalArtifactTransitionControlV1 => "external_artifact_transition_control_v1"
  | .text profile => profile

/-- Control evidence outcomes. -/
inductive TransitionControlDisposition where
  | claimed
  | duplicate
  | conflict
  | ambiguous
  | notControllable
  | unsupportedProfile
  deriving DecidableEq, Repr

def TransitionControlDisposition.value : TransitionControlDisposition → String
  | .claimed => "claimed"
  | .duplicate => "duplicate"
  | .conflict => "conflict"
  | .ambiguous => "ambiguous"
  | .notControllable => "not_controllable"
  | .unsupportedProfile => "unsupported_profile"

/-- Persisted control states. -/
inductive TransitionControlRecordState where
  | claimed
  | ambiguous
  deriving DecidableEq, Repr

def TransitionControlRecordState.value : TransitionControlRecordState → String
  | .claimed => "claimed"
  | .ambiguous => "ambiguous"

/-- Typed fail-closed findings. -/
inductive TransitionControlFindingCode where
  | authorizationEvidenceInvalid
  | authorizationBindingMismatch
  | transitionBindingMismatch
  | artifactIdentityMismatch
  | destinationBindingMismatch
  | policyBindingMismatch
  | idempotencyKeyInvalid
  | duplicateControl
  | conflictingControl
  | ambiguousControl
  | controlStoreUnavailable
  | controlStoreCorrupt
  | unsupportedProfile
  deriving DecidableEq, Repr

def TransitionControlFindingCode.value : TransitionControlFindingCode → String
  | .authorizationEvidenceInvalid => "authorization_evidence_invalid"
  | .authorizationBindingMismatch => "authorization_binding_mismatch"
  | .transitionBindingMismatch => "transition_binding_mismatch"
  | .artifactIdentityMismatch => "artifact_identity_mismatch"
  | .destinationBindingMismatch => "destination_binding_mismatch"
  | .policyBindingMismatch => "policy_binding_mismatch"
  | .idempotencyKeyInvalid => "idempotency_key_invalid"
  | .duplicateControl => "duplicate_control"
  | .conflictingControl => "conflicting_control"
  | .ambiguousControl => "ambiguous_control"
  | .controlStoreUnavailable => "control_store_unavailable"
  | .controlStoreCorrupt => "control_store_corrupt"
  | .unsupportedProfile => "unsupported_profile"

theorem TransitionControlFindingCode.value_injective :
    Function.Injective TransitionControlFindingCode.value := by
  intro a b h
  cases a <;> cases b <;> first | rfl | exact absurd h (by decide)

abbrev TransitionControlFinding := Finding TransitionControlFindingCode

/-! ## Requests -/

/-- Exact pre-execution control evidence. -/
@[ext]
structure ExternalTransitionControlRequest where
  controlRequestId : String
  authorizationId : String
  authorizationBindingDigest : String
  authorizationAssessmentId : String
  authorizationAssessmentDigest : String
  transitionIntentId : String
  artifactId : String
  artifactFingerprint : String
  destinationIdentity : String
  promotionPolicyDigest : String
  authorizationPolicyDigest : String
  idempotencyKey : String
  transitionProfile : TransitionProfile
  occurredAt : DateTime
  executionId : Option String
  runId : Option String
  schemaVersion : String
  identities_nonBlank : ∀ value ∈ [controlRequestId, authorizationId,
    authorizationAssessmentId, transitionIntentId, artifactId, destinationIdentity,
    idempotencyKey], NonBlank value
  digests_isDigest : ∀ value ∈ [authorizationBindingDigest, authorizationAssessmentDigest,
    artifactFingerprint, promotionPolicyDigest, authorizationPolicyDigest], IsDigest value
  optional_nonBlank : ∀ value ∈ executionId.toList ++ runId.toList, NonBlank value
  transitionProfile_nonBlank : NonBlank transitionProfile.value
  occurredAt_utc : occurredAt.utcOffset = some 0
  schemaVersion_supported : schemaVersion = transitionControlSchemaVersion

instance : DecidableEq ExternalTransitionControlRequest := fun _ _ =>
  decidable_of_iff _ ExternalTransitionControlRequest.ext_iff.symm

namespace ExternalTransitionControlRequest

variable (request : ExternalTransitionControlRequest)

/-- `to_control_identity_payload`. -/
def toControlIdentityPayload : Json :=
  .object [
    ("artifact_fingerprint", .str request.artifactFingerprint),
    ("artifact_id", .str request.artifactId),
    ("authorization_assessment_digest", .str request.authorizationAssessmentDigest),
    ("authorization_assessment_id", .str request.authorizationAssessmentId),
    ("authorization_binding_digest", .str request.authorizationBindingDigest),
    ("authorization_id", .str request.authorizationId),
    ("authorization_policy_digest", .str request.authorizationPolicyDigest),
    ("destination_identity", .str request.destinationIdentity),
    ("execution_id", .optional request.executionId),
    ("promotion_policy_digest", .str request.promotionPolicyDigest),
    ("run_id", .optional request.runId),
    ("schema_version", .str request.schemaVersion),
    ("transition_intent_id", .str request.transitionIntentId),
    ("transition_profile", .str request.transitionProfile.value)]

/-- The object `control_key_digest` hashes. -/
def controlIdentity : Json :=
  .object [
    ("schema_version", .str transitionControlSchemaVersion),
    ("transition_identity", request.toControlIdentityPayload)]

/-- `control_key`. -/
def controlKey : String := jsonDigest request.controlIdentity

/-- `to_binding_payload`. -/
def toBindingPayload : Json :=
  .object [
    ("artifact_fingerprint", .str request.artifactFingerprint),
    ("artifact_id", .str request.artifactId),
    ("authorization_assessment_digest", .str request.authorizationAssessmentDigest),
    ("authorization_assessment_id", .str request.authorizationAssessmentId),
    ("authorization_binding_digest", .str request.authorizationBindingDigest),
    ("authorization_id", .str request.authorizationId),
    ("authorization_policy_digest", .str request.authorizationPolicyDigest),
    ("destination_identity", .str request.destinationIdentity),
    ("execution_id", .optional request.executionId),
    ("idempotency_key", .str request.idempotencyKey),
    ("occurred_at", .str request.occurredAt.isoformat),
    ("promotion_policy_digest", .str request.promotionPolicyDigest),
    ("run_id", .optional request.runId),
    ("schema_version", .str request.schemaVersion),
    ("transition_intent_id", .str request.transitionIntentId),
    ("transition_profile", .str request.transitionProfile.value)]

/-- `binding_digest`. -/
def bindingDigest : String := jsonDigest request.toBindingPayload

end ExternalTransitionControlRequest

/-! ## Records -/

/-- Everything a record holds but its digest. -/
structure ControlRecordFields where
  controlId : String
  controlKey : String
  bindingDigest : String
  requestDigest : String
  state : TransitionControlRecordState
  occurredAt : DateTime
  schemaVersion : String
  deriving DecidableEq

/-- `calculate_digest`. -/
def ControlRecordFields.calculateDigest (f : ControlRecordFields) : String :=
  jsonDigest (.object [
    ("binding_digest", .str f.bindingDigest),
    ("control_id", .str f.controlId),
    ("control_key", .str f.controlKey),
    ("occurred_at", .str f.occurredAt.isoformat),
    ("request_digest", .str f.requestDigest),
    ("schema_version", .str f.schemaVersion),
    ("state", .str f.state.value)])

/-- One immutable durable control record. -/
structure TransitionControlRecord extends ControlRecordFields where
  recordDigest : String
  controlId_nonBlank : NonBlank controlId
  digests_isDigest : ∀ value ∈ [controlKey, bindingDigest, requestDigest], IsDigest value
  occurredAt_utc : occurredAt.utcOffset = some 0
  schemaVersion_supported : schemaVersion = transitionControlSchemaVersion
  recordDigest_canonical : recordDigest = toControlRecordFields.calculateDigest
  deriving DecidableEq

/-- `TransitionControlRecord.create`, of a control identity that is not blank and
    an aware time. -/
def TransitionControlRecord.create (controlId : String)
    (request : ExternalTransitionControlRequest) (state : TransitionControlRecordState)
    (occurredAt : DateTime) (offset : Int) (controlId_nonBlank : NonBlank controlId) :
    TransitionControlRecord where
  controlId := controlId
  controlKey := request.controlKey
  bindingDigest := request.bindingDigest
  requestDigest := jsonDigest request.toBindingPayload
  state := state
  occurredAt := occurredAt.toUtc offset
  schemaVersion := transitionControlSchemaVersion
  recordDigest := ControlRecordFields.calculateDigest {
    controlId := controlId
    controlKey := request.controlKey
    bindingDigest := request.bindingDigest
    requestDigest := jsonDigest request.toBindingPayload
    state := state
    occurredAt := occurredAt.toUtc offset
    schemaVersion := transitionControlSchemaVersion }
  controlId_nonBlank := controlId_nonBlank
  digests_isDigest := by
    simp only [List.forall_mem_cons, List.not_mem_nil, false_implies, implies_true, and_true]
    exact ⟨isDigest_jsonDigest _, isDigest_jsonDigest _, isDigest_jsonDigest _⟩
  occurredAt_utc := occurredAt.toUtc_utcOffset offset
  schemaVersion_supported := rfl
  recordDigest_canonical := rfl

/-! ## Decisions -/

/-- Everything a decision holds but its digest. -/
structure DecisionFields where
  decisionId : String
  controlId : Option String
  controlKey : String
  disposition : TransitionControlDisposition
  findings : List TransitionControlFinding
  evidenceRefs : List String
  recommendations : List String
  timestamp : DateTime
  schemaVersion : String
  deriving DecidableEq

/-- `calculate_digest`. -/
def DecisionFields.calculateDigest (f : DecisionFields) : String :=
  jsonDigest (.object [
    ("control_id", .optional f.controlId),
    ("control_key", .str f.controlKey),
    ("decision_id", .str f.decisionId),
    ("disposition", .str f.disposition.value),
    ("evidence_refs", .array (f.evidenceRefs.map .str)),
    ("findings", .array (f.findings.map (Finding.toPayload TransitionControlFindingCode.value))),
    ("recommendations", .array (f.recommendations.map .str)),
    ("schema_version", .str f.schemaVersion),
    ("timestamp", .str f.timestamp.isoformat)])

/-- Immutable control evidence. -/
structure TransitionControlDecision extends DecisionFields where
  decisionDigest : String
  decisionId_nonBlank : NonBlank decisionId
  controlId_nonBlank : ∀ value ∈ controlId.toList, NonBlank value
  controlKey_isDigest : IsDigest controlKey
  findings_ordered : Finding.Ordered TransitionControlFindingCode.value findings
  evidenceRefs_ordered : OrderedUnique evidenceRefs
  recommendations_ordered : OrderedUnique recommendations
  timestamp_utc : timestamp.utcOffset = some 0
  schemaVersion_supported : schemaVersion = transitionControlSchemaVersion
  decisionDigest_canonical : decisionDigest = toDecisionFields.calculateDigest
  deriving DecidableEq

/-- The error text of a sequence that `_ordered_unique_strings` rejects. -/
def orderedUniqueError (fieldName : String) (values : List String) : String :=
  if ∀ value ∈ values, NonBlank value then fieldName ++ " must be strictly ordered and unique"
  else fieldName ++ " must be a non-empty string"

/-- `TransitionControlDecision.issue`, of an aware time. -/
def TransitionControlDecision.issue (decisionId : String)
    (request : ExternalTransitionControlRequest) (controlId : Option String)
    (disposition : TransitionControlDisposition) (findings : List TransitionControlFinding)
    (evidenceRefs recommendations : List String) (timestamp : DateTime) (offset : Int) :
    Except String TransitionControlDecision :=
  let fields : DecisionFields := {
    decisionId, controlId, controlKey := request.controlKey, disposition, findings,
    evidenceRefs, recommendations, timestamp := timestamp.toUtc offset,
    schemaVersion := transitionControlSchemaVersion }
  if hdecision : NonBlank decisionId then
    if hcontrol : ∀ value ∈ controlId.toList, NonBlank value then
      if hfindings : Finding.Ordered TransitionControlFindingCode.value findings then
        if hrefs : OrderedUnique evidenceRefs then
          if hrecommendations : OrderedUnique recommendations then
            .ok { fields with
              decisionDigest := fields.calculateDigest
              decisionId_nonBlank := hdecision
              controlId_nonBlank := hcontrol
              controlKey_isDigest := isDigest_jsonDigest _
              findings_ordered := hfindings
              evidenceRefs_ordered := hrefs
              recommendations_ordered := hrecommendations
              timestamp_utc := rfl
              schemaVersion_supported := rfl
              decisionDigest_canonical := rfl }
          else .error (orderedUniqueError "recommendations" recommendations)
        else .error (orderedUniqueError "evidence_refs" evidenceRefs)
      else .error "findings must be strictly ordered and unique"
    else .error "control_id must be a non-empty string"
  else .error "decision_id must be a non-empty string"

end Eag.GovernedTransitionControl
