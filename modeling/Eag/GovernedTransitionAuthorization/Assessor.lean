/-
  Eag.GovernedTransitionAuthorization.Assessor

  `_validate_authorization` of the transition authorization assessor
  (`governed_transition_authorization/assessor.py`): what it finds about a human decision and
  the intent it is to authorize, at an instant.
-/

import Eag.GovernedTransitionAuthorization.Models

namespace Eag.GovernedTransitionAuthorization

open Eag.Foundation

/-! ## Intents -/

/-- The profile of an intent: the enumeration member, or some other text. -/
inductive ExternalTransitionProfile where
  | externalArtifactTransitionV1
  | text (profile : String)
  deriving DecidableEq, Repr

def ExternalTransitionProfile.value : ExternalTransitionProfile → String
  | .externalArtifactTransitionV1 => "external_artifact_transition_v1"
  | .text profile => profile

/-- Immutable transition intent. -/
structure ExternalTransitionIntentEvidence where
  transitionIntentId : String
  artifactId : String
  artifactFingerprint : String
  destinationIdentity : String
  eligibilityAssessmentId : String
  eligibilityAssessmentDigest : String
  promotionPolicyDigest : String
  authorizationPolicyDigest : String
  idempotencyKey : String
  transitionProfile : ExternalTransitionProfile
  executionId : Option String
  runId : Option String
  schemaVersion : String
  identities_nonBlank : ∀ value ∈ [transitionIntentId, artifactId, destinationIdentity,
    eligibilityAssessmentId, idempotencyKey], NonBlank value
  digests_isDigest : ∀ value ∈ [artifactFingerprint, eligibilityAssessmentDigest,
    promotionPolicyDigest, authorizationPolicyDigest], IsDigest value
  optional_nonBlank : ∀ value ∈ executionId.toList ++ runId.toList, NonBlank value
  transitionProfile_nonBlank : NonBlank transitionProfile.value
  schemaVersion_supported : schemaVersion = transitionAuthorizationSchemaVersion
  deriving DecidableEq

/-- No field that `expected` names differs between an authorization and an intent. -/
def ExternalTransitionAuthorizationReceipt.Binds
    (authorization : ExternalTransitionAuthorizationReceipt)
    (intent : ExternalTransitionIntentEvidence) : Prop :=
  authorization.transitionIntentId = intent.transitionIntentId ∧
  authorization.artifactId = intent.artifactId ∧
  authorization.artifactFingerprint = intent.artifactFingerprint ∧
  authorization.destinationIdentity = intent.destinationIdentity ∧
  authorization.eligibilityAssessmentId = intent.eligibilityAssessmentId ∧
  authorization.eligibilityAssessmentDigest = intent.eligibilityAssessmentDigest ∧
  authorization.promotionPolicyDigest = intent.promotionPolicyDigest ∧
  authorization.authorizationPolicyDigest = intent.authorizationPolicyDigest ∧
  authorization.executionId = intent.executionId ∧
  authorization.runId = intent.runId

instance (authorization : ExternalTransitionAuthorizationReceipt)
    (intent : ExternalTransitionIntentEvidence) : Decidable (authorization.Binds intent) :=
  inferInstanceAs (Decidable (_ ∧ _))

/-- `f"authorization:{authorization_id}:{binding_digest}"`. -/
def authorizationReference (authorization : ExternalTransitionAuthorizationReceipt) : String :=
  "authorization:" ++ authorization.authorizationId ++ ":" ++ authorization.bindingDigest

/-! ## The check of an authorization -/

/-- An argument that should be some evidence: `None`, an object of another class, or the
    evidence. -/
inductive Supplied (α : Type) where
  | missing
  | other
  | evidence (value : α)
  deriving DecidableEq

/-- The text of the `TypeError` of `naive >= aware`. -/
def naiveComparison : String := "can't compare offset-naive and offset-aware datetimes"

/-- `timestamp.astimezone(UTC)` of an aware time, and a naive time itself. -/
def canonicalTime (timestamp : DateTime) : DateTime :=
  match timestamp.utcOffset with
  | some offset => timestamp.toUtc offset
  | none => timestamp

theorem ExternalTransitionAuthorizationReceipt.authorizationId_nonBlank
    (authorization : ExternalTransitionAuthorizationReceipt) :
    NonBlank authorization.authorizationId :=
  authorization.identities_nonBlank _ (by simp)

theorem authorization_text_nonBlank : NonBlank "authorization" := by decide

/-- What is found about an authorization that is expired or not. -/
def authorizationFindings (authorization : ExternalTransitionAuthorizationReceipt)
    (intent : ExternalTransitionIntentEvidence) (expired : Bool) :
    List TransitionAuthorizationFinding :=
  Finding.when (authorization.decision ≠ .authorized) .authorizationDenied
      authorization.authorizationId authorization.authorizationId_nonBlank ++
    Finding.when (expired = true) .authorizationExpired authorization.authorizationId
      authorization.authorizationId_nonBlank ++
    Finding.when (¬authorization.Binds intent) .authorizationBindingMismatch
      authorization.authorizationId authorization.authorizationId_nonBlank

/-- `_validate_authorization`: the findings and the references, or a `TypeError`. -/
def validateAuthorization (intent : ExternalTransitionIntentEvidence)
    (authorization : Supplied ExternalTransitionAuthorizationReceipt) (timestamp : DateTime) :
    Except String (List TransitionAuthorizationFinding × List String) :=
  match authorization with
  | .missing => .ok ([⟨.authorizationMissing, "authorization", authorization_text_nonBlank⟩], [])
  | .other => .ok ([⟨.authorizationBindingMismatch, "authorization", authorization_text_nonBlank⟩], [])
  | .evidence authorization =>
      match (canonicalTime timestamp).ge? authorization.expiresAt with
      | none => .error naiveComparison
      | some expired =>
          .ok (authorizationFindings authorization intent expired,
            if authorization.Binds intent then [authorizationReference authorization] else [])

/-- Only an expired authorization is found expired. -/
theorem expired_of_found {authorization : ExternalTransitionAuthorizationReceipt}
    {intent : ExternalTransitionIntentEvidence} {expired : Bool} :
    (∃ finding ∈ authorizationFindings authorization intent expired,
      finding.code = .authorizationExpired) ↔ expired = true := by
  constructor
  · rintro ⟨finding, hmem, hcode⟩
    simp only [authorizationFindings, List.mem_append, Finding.mem_when] at hmem
    rcases hmem with (⟨-, rfl⟩ | ⟨hexpired, rfl⟩) | ⟨-, rfl⟩
    · cases hcode
    · exact hexpired
    · cases hcode
  · rintro rfl
    refine ⟨⟨.authorizationExpired, authorization.authorizationId,
      authorization.identities_nonBlank _ (by simp)⟩, ?_, rfl⟩
    simp [authorizationFindings]

/-- The stage counts an authorization as expired at a time: checking it for the intent finds
    `AUTHORIZATION_EXPIRED`. -/
def CountsAsExpired (authorization : ExternalTransitionAuthorizationReceipt)
    (intent : ExternalTransitionIntentEvidence) (timestamp : DateTime) : Prop :=
  ∃ findings references,
    validateAuthorization intent (.evidence authorization) timestamp =
      .ok (findings, references) ∧ ∃ finding ∈ findings, finding.code = .authorizationExpired

/-- An aware time is compared by its instant. -/
theorem ge?_expiresAt {authorization : ExternalTransitionAuthorizationReceipt}
    {timestamp : DateTime} {offset : Int} (haware : timestamp.utcOffset = some offset) :
    (canonicalTime timestamp).ge? authorization.expiresAt =
      some (decide (authorization.expiresAt.instant ≤ timestamp.instant)) := by
  have hinstant : (timestamp.toUtc offset).instant = timestamp.instant := by
    simp only [DateTime.instant, DateTime.toUtc, haware, Option.getD_some]
    omega
  simp only [canonicalTime, haware, DateTime.ge?, authorization.times_utc.2, hinstant]
  rfl

/-- A naive time cannot be compared with an expiry. -/
theorem ge?_naive {authorization : ExternalTransitionAuthorizationReceipt}
    {timestamp : DateTime} (hnaive : timestamp.utcOffset = none) :
    (canonicalTime timestamp).ge? authorization.expiresAt = none := by
  simp only [canonicalTime, hnaive, DateTime.ge?, authorization.times_utc.2]

/-- **The stage counts an authorization as expired** from its expiry on, for whatever intent
    it is checked. -/
theorem countsAsExpired_iff (authorization : ExternalTransitionAuthorizationReceipt)
    (timestamp : DateTime) (intent : ExternalTransitionIntentEvidence) :
    CountsAsExpired authorization intent timestamp ↔
      timestamp.utcOffset.isSome = true ∧
        authorization.expiresAt.instant ≤ timestamp.instant := by
  cases haware : timestamp.utcOffset with
  | none =>
      have hraises : validateAuthorization intent (.evidence authorization) timestamp =
          .error naiveComparison := by
        simp only [validateAuthorization, ge?_naive haware]
      constructor
      · rintro ⟨findings, references, hvalidate, -⟩
        rw [hraises] at hvalidate
        cases hvalidate
      · rintro ⟨h, -⟩
        cases h
  | some offset =>
      have hfound : ∃ references, validateAuthorization intent (.evidence authorization)
          timestamp = .ok (authorizationFindings authorization intent
            (decide (authorization.expiresAt.instant ≤ timestamp.instant)), references) := by
        simp only [validateAuthorization, ge?_expiresAt haware]
        exact ⟨_, rfl⟩
      obtain ⟨references, hfound⟩ := hfound
      rw [Option.isSome_some, eq_self, true_and, ← @decide_eq_true_eq
        (authorization.expiresAt.instant ≤ timestamp.instant), ← @expired_of_found authorization intent]
      constructor
      · rintro ⟨findings, _, hvalidate, hexpired⟩
        rw [hfound] at hvalidate
        obtain ⟨rfl, -⟩ := Prod.mk.inj (Except.ok.inj hvalidate)
        exact hexpired
      · exact fun hexpired => ⟨_, references, hfound, hexpired⟩

end Eag.GovernedTransitionAuthorization
