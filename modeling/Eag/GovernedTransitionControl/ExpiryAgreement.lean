/-
  Eag.GovernedTransitionControl.ExpiryAgreement

  **Three stages look at one expiry.** The transition authorization and the destination
  contract assessor count an authorization as expired from its expiry on; transition control
  refuses it only after its expiry. They disagree at the expiry itself (`expiry_agrees_iff`).
-/

import Eag.GovernedDestinationContract.Evidence
import Eag.GovernedTransitionControl.ControlRuns

namespace Eag.GovernedTransitionControl

open Eag.Foundation Eag.GovernedTransitionAuthorization

variable {authorization : ExternalTransitionAuthorizationReceipt} {timestamp : DateTime}

/-! ## What the stages say -/

/-- The transition authorization assessor, for some intent, or the destination contract
    assessor counts the authorization as expired at the time. -/
def ExpiredBefore (authorization : ExternalTransitionAuthorizationReceipt)
    (timestamp : DateTime) : Prop :=
  (∃ intent, GovernedTransitionAuthorization.CountsAsExpired authorization intent timestamp) ∨
    ∃ intent, GovernedDestinationContract.CountsAsExpired authorization intent timestamp

/-- Transition control refuses the authorization at the time: no call with it, whatever its
    request and assessment, comes to claim a control key. -/
def RefusesToClaim (authorization : ExternalTransitionAuthorizationReceipt)
    (timestamp : DateTime) : Prop :=
  ∀ call : AssessCall, call.authorization = some authorization → call.timestamp = timestamp →
    ∃ result, assess call = .ret result

theorem expiredBefore_iff :
    ExpiredBefore authorization timestamp ↔
      timestamp.utcOffset.isSome = true ∧
        authorization.expiresAt.instant ≤ timestamp.instant := by
  constructor
  · rintro (⟨intent, h⟩ | ⟨intent, h⟩)
    · exact (GovernedTransitionAuthorization.countsAsExpired_iff _ _ _).mp h
    · exact (GovernedDestinationContract.countsAsExpired_iff _ _ _).mp h
  · intro h
    exact Or.inr ⟨none, (GovernedDestinationContract.countsAsExpired_iff _ _ _).mpr h⟩

/-- A call whose evidence passes has an authorization that has not expired before its time. -/
theorem not_expired_of_passes {call : AssessCall} (h : call.Passes)
    (hcall : call.authorization = some authorization) :
    authorization.decision = .authorized ∧
      call.timestamp.instant ≤ authorization.expiresAt.instant := by
  obtain ⟨offset, haware, hfindings⟩ := h
  simp only [AssessCall.findings, hcall, validateAuthorizationReceipt, List.append_eq_nil_iff,
    findingWhen_eq_nil, not_or, not_not, not_lt] at hfindings
  obtain ⟨-, ⟨⟨⟨⟨⟨⟨hdecision, htime⟩, -⟩, -⟩, -⟩, -⟩, -⟩, -⟩ := hfindings
  refine ⟨hdecision, ?_⟩
  have hinstant : (call.timestamp.toUtc offset).instant = call.timestamp.instant := by
    simp only [DateTime.instant, DateTime.toUtc, haware, Option.getD_some]
    omega
  rwa [hinstant] at htime

/-! ## A call that binds everything to an authorization -/

section Matched

variable (authorization : ExternalTransitionAuthorizationReceipt)

/-- The assessment of an authorization as `AUTHORIZED`. -/
def matchedAssessment : TransitionAuthorizationAssessment where
  assessmentId := "assessment"
  authorizationId := some authorization.authorizationId
  artifactId := authorization.artifactId
  artifactFingerprint := authorization.artifactFingerprint
  destinationIdentity := authorization.destinationIdentity
  disposition := .authorized
  findings := []
  evidenceRefs := []
  recommendations := []
  timestamp := ⟨0, some 0⟩
  schemaVersion := transitionAuthorizationSchemaVersion
  assessmentDigest := _
  identities_nonBlank := by
    have hidentities := authorization.identities_nonBlank
    simp only [List.forall_mem_cons, List.not_mem_nil, false_implies, implies_true, and_true]
      at hidentities
    obtain ⟨hid, -, -, hartifact, hdestination, -⟩ := hidentities
    simp only [Option.toList_some, List.cons_append, List.nil_append, List.forall_mem_cons,
      List.not_mem_nil, false_implies, implies_true, and_true]
    exact ⟨by decide, hartifact, hdestination, hid⟩
  artifactFingerprint_isDigest := authorization.digests_isDigest _ (by simp)
  findings_ordered := noFindings_ordered
  evidenceRefs_ordered := noTexts_ordered
  recommendations_ordered := noTexts_ordered
  timestamp_utc := DateTime.epoch_utc
  schemaVersion_supported := rfl
  assessmentDigest_canonical := rfl

/-- The control request of that authorization and assessment. -/
def matchedRequest : ExternalTransitionControlRequest where
  controlRequestId := "request"
  authorizationId := authorization.authorizationId
  authorizationBindingDigest := authorization.bindingDigest
  authorizationAssessmentId := "assessment"
  authorizationAssessmentDigest := (matchedAssessment authorization).assessmentDigest
  transitionIntentId := authorization.transitionIntentId
  artifactId := authorization.artifactId
  artifactFingerprint := authorization.artifactFingerprint
  destinationIdentity := authorization.destinationIdentity
  promotionPolicyDigest := authorization.promotionPolicyDigest
  authorizationPolicyDigest := authorization.authorizationPolicyDigest
  idempotencyKey := "key-1"
  transitionProfile := .externalArtifactTransitionControlV1
  occurredAt := ⟨0, some 0⟩
  executionId := authorization.executionId
  runId := authorization.runId
  schemaVersion := transitionControlSchemaVersion
  identities_nonBlank := by
    have hidentities := authorization.identities_nonBlank
    simp only [List.forall_mem_cons, List.not_mem_nil, false_implies, implies_true, and_true]
      at hidentities ⊢
    obtain ⟨hid, -, hintent, hartifact, hdestination, -⟩ := hidentities
    exact ⟨by decide, hid, by decide, hintent, hartifact, hdestination, by decide⟩
  digests_isDigest := by
    have hdigests := authorization.digests_isDigest
    simp only [List.forall_mem_cons, List.not_mem_nil, false_implies, implies_true, and_true]
      at hdigests ⊢
    obtain ⟨hfingerprint, -, hpromotion, hpolicy⟩ := hdigests
    refine ⟨?_, isDigest_jsonDigest _, hfingerprint, hpromotion, hpolicy⟩
    rw [authorization.bindingDigest_canonical]
    exact isDigest_jsonDigest _
  optional_nonBlank := authorization.optional_nonBlank
  transitionProfile_nonBlank := controlProfile_nonBlank
  occurredAt_utc := DateTime.epoch_utc
  schemaVersion_supported := rfl

/-- The call with all of it. -/
def matchedCall (timestamp : DateTime) : AssessCall where
  decisionId := "decision"
  request := matchedRequest authorization
  authorization := some authorization
  authorizationAssessment := some (matchedAssessment authorization)
  timestamp := timestamp

/-- It passes every check up to and at the expiry. -/
theorem matchedCall_passes {offset : Int} (haware : timestamp.utcOffset = some offset)
    (hdecision : authorization.decision = .authorized)
    (htime : timestamp.instant ≤ authorization.expiresAt.instant) :
    (matchedCall authorization timestamp).Passes := by
  have hprofile : validateProfile (matchedRequest authorization) = [] := by
    simp [validateProfile, matchedRequest]
  have hkey : validateIdempotency (matchedRequest authorization) = [] :=
    findingWhen_eq_nil.mpr (by simp [matchedRequest]; decide)
  have hassessment : (validateAuthorizationAssessment (matchedRequest authorization)
      (some (matchedAssessment authorization))).1 = [] := by
    simp [validateAuthorizationAssessment, matchedRequest, matchedAssessment]
  have hinstant : (timestamp.toUtc offset).instant = timestamp.instant := by
    simp only [DateTime.instant, DateTime.toUtc, haware, Option.getD_some]
    omega
  have hreceipt : (validateAuthorizationReceipt (matchedRequest authorization)
      (timestamp.toUtc offset) (some authorization)).1 = [] := by
    have hnot : ¬authorization.expiresAt.instant < timestamp.instant := not_lt.mpr htime
    simp [validateAuthorizationReceipt, matchedRequest, hdecision, hinstant, hnot]
  refine ⟨offset, haware, ?_⟩
  simp only [AssessCall.findings, matchedCall, hprofile, hkey, hassessment, hreceipt,
    List.append_nil]

end Matched

/-! ## Agreement -/

/-- What is expired in an earlier stage is not claimed by transition control. -/
def ExpiryAgrees (authorization : ExternalTransitionAuthorizationReceipt)
    (timestamp : DateTime) : Prop :=
  ExpiredBefore authorization timestamp → RefusesToClaim authorization timestamp

/-- **The stages agree about an expiry** at every time but one: an `AUTHORIZED` decision is
    expired at its expiry for the earlier stages and is claimed there by transition control. -/
theorem expiry_agrees_iff (authorization : ExternalTransitionAuthorizationReceipt)
    (timestamp : DateTime) :
    ExpiryAgrees authorization timestamp ↔
      ¬(authorization.decision = .authorized ∧ timestamp.utcOffset.isSome = true ∧
        timestamp.instant = authorization.expiresAt.instant) := by
  constructor
  · rintro hagrees ⟨hdecision, haware, hinstant⟩
    have hexpired : ExpiredBefore authorization timestamp :=
      expiredBefore_iff.mpr ⟨haware, by rw [hinstant]⟩
    obtain ⟨offset, hoffset⟩ := Option.isSome_iff_exists.mp haware
    have hpasses := matchedCall_passes authorization hoffset hdecision (by rw [hinstant])
    obtain ⟨result, hresult⟩ := hagrees hexpired (matchedCall authorization timestamp) rfl rfl
    rw [assess_of_passes hpasses] at hresult
    cases hresult
  · intro hboundary hexpired call hauthorization htimestamp
    obtain ⟨haware, hafter⟩ := expiredBefore_iff.mp hexpired
    have hrefused : ¬call.Passes := by
      intro hpasses
      obtain ⟨hdecision, hbefore⟩ := not_expired_of_passes hpasses hauthorization
      rw [htimestamp] at hbefore
      exact hboundary ⟨hdecision, haware, by omega⟩
    obtain ⟨result, hresult, -⟩ := assess_of_not_passes hrefused
    exact ⟨result, hresult⟩

/-- An authorization that expires one microsecond after it was given. -/
def briefAuthorization : ExternalTransitionAuthorizationReceipt := plainAuthorization

/-- At its expiry the earlier stages count it as expired and transition control claims it. -/
theorem expired_and_claimed :
    ExpiredBefore briefAuthorization ⟨1, some 0⟩ ∧
    ¬RefusesToClaim briefAuthorization ⟨1, some 0⟩ ∧
    assess (matchedCall briefAuthorization ⟨1, some 0⟩) =
      .call (.claim (matchedRequest briefAuthorization)) fun answer =>
        .ret ((matchedCall briefAuthorization ⟨1, some 0⟩).settle answer) := by
  have hpasses : (matchedCall briefAuthorization ⟨1, some 0⟩).Passes :=
    matchedCall_passes briefAuthorization rfl rfl (by decide)
  have hclaims := assess_of_passes hpasses
  refine ⟨expiredBefore_iff.mpr (by decide), fun hrefuses => ?_, hclaims⟩
  obtain ⟨result, hresult⟩ := hrefuses (matchedCall briefAuthorization ⟨1, some 0⟩) rfl rfl
  rw [hclaims] at hresult
  cases hresult

end Eag.GovernedTransitionControl
