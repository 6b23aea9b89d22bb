/-
  Eag.GovernedTransitionControl.Assessor

  `TransitionControlAssessor.assess` (`governed_transition_control/assessor.py`).
  An assessment is a program whose only shared effect is one claim of the ledger,
  which it makes after every check of the evidence has passed.
-/

import Eag.GovernedTransitionAuthorization.Models
import Eag.GovernedTransitionControl.Ledger

namespace Eag.GovernedTransitionControl

open Eag.Foundation Eag.GovernedTransitionAuthorization

/-! ## Checks -/

/-- A finding of `code` about `reference` where `failed` holds. -/
def findingWhen (failed : Prop) [Decidable failed] (code : TransitionControlFindingCode)
    (reference : String) (nonBlank : NonBlank reference) : List TransitionControlFinding :=
  if failed then [⟨code, reference, nonBlank⟩] else []

@[simp] theorem findingWhen_eq_nil {failed : Prop} [Decidable failed]
    {code : TransitionControlFindingCode} {reference : String} {nonBlank : NonBlank reference} :
    findingWhen failed code reference nonBlank = [] ↔ ¬ failed := by
  simp [findingWhen]

section

variable (request : ExternalTransitionControlRequest)

/-- `_validate_profile`. -/
def validateProfile : List TransitionControlFinding :=
  findingWhen (request.transitionProfile ≠ .externalArtifactTransitionControlV1)
    .unsupportedProfile request.transitionProfile.value request.transitionProfile_nonBlank

/-- `re.fullmatch(r"[a-z0-9][a-z0-9._-]{2,127}", key)`. -/
def matchesIdempotencyKey (key : String) : Bool :=
  match key.toList with
  | [] => false
  | first :: rest =>
      (first.isLower || first.isDigit) && 2 ≤ rest.length && rest.length ≤ 127 &&
        rest.all fun c => c.isLower || c.isDigit || c = '.' || c = '_' || c = '-'

/-- `_validate_idempotency`. -/
def validateIdempotency : List TransitionControlFinding :=
  findingWhen (matchesIdempotencyKey request.idempotencyKey = false) .idempotencyKeyInvalid
    request.idempotencyKey (request.identities_nonBlank _ (by simp))

/-- `_validate_authorization_assessment`: the findings and the references. The
    assessment is `none` where the argument is some other object. -/
def validateAuthorizationAssessment :
    Option TransitionAuthorizationAssessment → List TransitionControlFinding × List String
  | none =>
      ([⟨.authorizationEvidenceInvalid, request.authorizationAssessmentId,
        request.identities_nonBlank _ (by simp)⟩], [])
  | some assessment =>
      (findingWhen (assessment.disposition ≠ .authorized) .authorizationEvidenceInvalid
          assessment.assessmentId (assessment.identities_nonBlank _ (by simp)) ++
        findingWhen (assessment.assessmentId ≠ request.authorizationAssessmentId ∨
            assessment.assessmentDigest ≠ request.authorizationAssessmentDigest)
          .authorizationBindingMismatch request.authorizationAssessmentId
          (request.identities_nonBlank _ (by simp)) ++
        findingWhen (assessment.authorizationId ≠ some request.authorizationId)
          .authorizationBindingMismatch request.authorizationId
          (request.identities_nonBlank _ (by simp)) ++
        findingWhen (assessment.artifactId ≠ request.artifactId ∨
            assessment.artifactFingerprint ≠ request.artifactFingerprint)
          .artifactIdentityMismatch request.artifactId
          (request.identities_nonBlank _ (by simp)) ++
        findingWhen (assessment.destinationIdentity ≠ request.destinationIdentity)
          .destinationBindingMismatch request.destinationIdentity
          (request.identities_nonBlank _ (by simp)),
       [assessment.assessmentDigest])

/-- `_validate_authorization_receipt`, at an instant. -/
def validateAuthorizationReceipt (timestamp : DateTime) :
    Option ExternalTransitionAuthorizationReceipt → List TransitionControlFinding × List String
  | none =>
      ([⟨.authorizationEvidenceInvalid, request.authorizationId,
        request.identities_nonBlank _ (by simp)⟩], [])
  | some authorization =>
      (findingWhen (authorization.decision ≠ .authorized ∨
            authorization.expiresAt.instant < timestamp.instant)
          .authorizationEvidenceInvalid authorization.authorizationId
          (authorization.identities_nonBlank _ (by simp)) ++
        findingWhen (authorization.authorizationId ≠ request.authorizationId ∨
            authorization.bindingDigest ≠ request.authorizationBindingDigest)
          .authorizationBindingMismatch request.authorizationId
          (request.identities_nonBlank _ (by simp)) ++
        findingWhen (authorization.transitionIntentId ≠ request.transitionIntentId)
          .transitionBindingMismatch request.transitionIntentId
          (request.identities_nonBlank _ (by simp)) ++
        findingWhen (authorization.artifactId ≠ request.artifactId ∨
            authorization.artifactFingerprint ≠ request.artifactFingerprint)
          .artifactIdentityMismatch request.artifactId
          (request.identities_nonBlank _ (by simp)) ++
        findingWhen (authorization.destinationIdentity ≠ request.destinationIdentity)
          .destinationBindingMismatch request.destinationIdentity
          (request.identities_nonBlank _ (by simp)) ++
        findingWhen (authorization.promotionPolicyDigest ≠ request.promotionPolicyDigest ∨
            authorization.authorizationPolicyDigest ≠ request.authorizationPolicyDigest)
          .policyBindingMismatch request.transitionIntentId
          (request.identities_nonBlank _ (by simp)) ++
        findingWhen (authorization.executionId ≠ request.executionId ∨
            authorization.runId ≠ request.runId)
          .transitionBindingMismatch request.transitionIntentId
          (request.identities_nonBlank _ (by simp)),
       [authorization.bindingDigest])

end

/-! ## Decisions -/

/-- `_recommendation`. -/
def recommendation : TransitionControlFindingCode → String
  | .authorizationEvidenceInvalid => "supply exact current G2.4.16 AUTHORIZED evidence"
  | .authorizationBindingMismatch => "align request with exact authorization evidence"
  | .transitionBindingMismatch => "align request with exact authorized transition intent"
  | .artifactIdentityMismatch => "align request with the authorized artifact identity"
  | .destinationBindingMismatch => "align request with the authorized logical destination"
  | .policyBindingMismatch => "align request with exact authorized policy digests"
  | .idempotencyKeyInvalid => "supply a canonical idempotency key"
  | .duplicateControl => "treat the existing control record as already claimed"
  | .conflictingControl =>
      "do not reuse an idempotency key across incompatible transition evidence"
  | .ambiguousControl =>
      "stop; ambiguous control state requires a future reconciliation authority"
  | .controlStoreUnavailable => "restore a safe durable control store before proceeding"
  | .controlStoreCorrupt => "treat control state as unsafe; do not repair or retry automatically"
  | .unsupportedProfile => "use an explicitly supported transition-control profile"

theorem recommendation_nonBlank :
    (code : TransitionControlFindingCode) → NonBlank (recommendation code)
  | .authorizationEvidenceInvalid => nonBlank_of_head 's' _ (by decide)
  | .authorizationBindingMismatch => nonBlank_of_head 'a' _ (by decide)
  | .transitionBindingMismatch => nonBlank_of_head 'a' _ (by decide)
  | .artifactIdentityMismatch => nonBlank_of_head 'a' _ (by decide)
  | .destinationBindingMismatch => nonBlank_of_head 'a' _ (by decide)
  | .policyBindingMismatch => nonBlank_of_head 'a' _ (by decide)
  | .idempotencyKeyInvalid => nonBlank_of_head 's' _ (by decide)
  | .duplicateControl => nonBlank_of_head 't' _ (by decide)
  | .conflictingControl => nonBlank_of_head 'd' _ (by decide)
  | .ambiguousControl => nonBlank_of_head 's' _ (by decide)
  | .controlStoreUnavailable => nonBlank_of_head 'r' _ (by decide)
  | .controlStoreCorrupt => nonBlank_of_head 't' _ (by decide)
  | .unsupportedProfile => nonBlank_of_head 'u' _ (by decide)

/-- The arguments of one `assess` call but the ledger. -/
structure AssessCall where
  decisionId : String
  request : ExternalTransitionControlRequest
  authorization : Option ExternalTransitionAuthorizationReceipt
  authorizationAssessment : Option TransitionAuthorizationAssessment
  timestamp : DateTime

namespace AssessCall

variable (call : AssessCall)

/-- The findings of the checks, in the order they are made. -/
def findings (canonicalTime : DateTime) : List TransitionControlFinding :=
  validateProfile call.request ++ validateIdempotency call.request ++
    (validateAuthorizationAssessment call.request call.authorizationAssessment).1 ++
    (validateAuthorizationReceipt call.request canonicalTime call.authorization).1

/-- The evidence the checks refer to. -/
def references (canonicalTime : DateTime) : List String :=
  (validateAuthorizationAssessment call.request call.authorizationAssessment).2 ++
    (validateAuthorizationReceipt call.request canonicalTime call.authorization).2

/-- The evidence of the call passes every check. -/
def Passes : Prop :=
  ∃ offset, call.timestamp.utcOffset = some offset ∧
    call.findings (call.timestamp.toUtc offset) = []

/-- `_decision`. -/
def decision (controlId : Option String) (disposition : TransitionControlDisposition)
    (findings : List TransitionControlFinding) (references : List String) (offset : Int) :
    Except String TransitionControlDecision :=
  let normalized := sortedSet (Finding.key TransitionControlFindingCode.value) findings
  TransitionControlDecision.issue call.decisionId call.request controlId disposition normalized (sortedSet id references)
    (sortedSet id (normalized.map fun finding => recommendation finding.code)) call.timestamp
    offset

end AssessCall

/-! ## The assessment -/

/-- The shared operation of an assessment. -/
inductive ControlOp where
  | claim (request : ExternalTransitionControlRequest)

abbrev ControlOp.Reply : ControlOp → Type
  | .claim _ => Except WriteOnce.Failure TransitionControlClaim

abbrev ControlProg (α : Type) := Prog ControlOp ControlOp.Reply α

/-- `ledger.claim(request)`. -/
def controlClaim (request : ExternalTransitionControlRequest) :
    ControlProg (Except WriteOnce.Failure TransitionControlClaim) :=
  Prog.perform (ControlOp.claim request)

/-- One atomic operation on the ledger. -/
def performControl (ledger : ControlLedger) (fault : Option WriteOnce.Fault) :
    (op : ControlOp) → ControlLedger × op.Reply
  | .claim request => claimControl fault ledger request

/-- The finding for a ledger error. -/
def storeFindingCode : WriteOnce.Failure → TransitionControlFindingCode
  | .unavailable => .controlStoreUnavailable
  | .corrupt => .controlStoreCorrupt

/-- The disposition for a claim, with the finding it adds. -/
def claimOutcome : TransitionControlClaimDisposition →
    TransitionControlDisposition × Option TransitionControlFindingCode
  | .claimed => (.claimed, none)
  | .duplicate => (.duplicate, some .duplicateControl)
  | .conflict => (.conflict, some .conflictingControl)
  | .ambiguous => (.ambiguous, some .ambiguousControl)

/-- The finding about the control key of the request. -/
def keyFinding (request : ExternalTransitionControlRequest)
    (code : TransitionControlFindingCode) : TransitionControlFinding :=
  ⟨code, request.controlKey, nonBlank_of_isDigest (isDigest_jsonDigest _)⟩

/-- What `assess` returns for an answer of the ledger. -/
def AssessCall.decisionFor (call : AssessCall) (offset : Int)
    (findings : List TransitionControlFinding) (references : List String) :
    Except WriteOnce.Failure TransitionControlClaim → Except String TransitionControlDecision
  | .error failure =>
      call.decision none .notControllable
        (findings ++ [keyFinding call.request (storeFindingCode failure)]) references offset
  | .ok claim =>
      let (disposition, code) := claimOutcome claim.disposition
      call.decision (some claim.record.controlId) disposition
        (findings ++ code.toList.map (keyFinding call.request))
        (references ++ [claim.record.recordDigest]) offset

/-- `TransitionControlAssessor.assess`. -/
def assess (call : AssessCall) : ControlProg (Except String TransitionControlDecision) :=
  match call.timestamp.utcOffset with
  | none => .ret (.error "timestamp must be timezone-aware")
  | some offset =>
      let canonicalTime := call.timestamp.toUtc offset
      let findings := call.findings canonicalTime
      let references := call.references canonicalTime
      if validateProfile call.request ≠ [] then
        .ret (call.decision none .unsupportedProfile findings references offset)
      else if findings ≠ [] then
        .ret (call.decision none .notControllable findings references offset)
      else do
        let answer ← controlClaim call.request
        .ret (call.decisionFor offset findings references answer)

/-! ## What an assessment returns -/

theorem findings_nonBlank (findings : List TransitionControlFinding) :
    ∀ value ∈ findings.map fun finding => recommendation finding.code, NonBlank value := by
  intro value hm
  obtain ⟨finding, -, rfl⟩ := List.mem_map.mp hm
  exact recommendation_nonBlank _

theorem references_nonBlank (call : AssessCall) (canonicalTime : DateTime) :
    ∀ value ∈ call.references canonicalTime, NonBlank value := by
  intro value hm
  rcases List.mem_append.mp hm with hm | hm
  · cases ha : call.authorizationAssessment with
    | none => simp [ha, validateAuthorizationAssessment] at hm
    | some assessment =>
        simp only [ha, validateAuthorizationAssessment, List.mem_singleton] at hm
        rw [hm, assessment.assessmentDigest_canonical]
        exact nonBlank_of_isDigest (isDigest_jsonDigest _)
  · cases ha : call.authorization with
    | none => simp [ha, validateAuthorizationReceipt] at hm
    | some authorization =>
        simp only [ha, validateAuthorizationReceipt, List.mem_singleton] at hm
        rw [hm, authorization.bindingDigest_canonical]
        exact nonBlank_of_isDigest (isDigest_jsonDigest _)

/-- **A decision is issued unless its own identity is blank.** The normalized
    findings, references and recommendations always pass their checks. -/
theorem decision_eq_ok {call : AssessCall} {controlId : Option String}
    {disposition : TransitionControlDisposition} {findings : List TransitionControlFinding}
    {references : List String} {offset : Int} (hid : NonBlank call.decisionId)
    (hcontrol : ∀ value ∈ controlId.toList, NonBlank value)
    (hrefs : ∀ value ∈ references, NonBlank value) :
    ∃ d, call.decision controlId disposition findings references offset = .ok d := by
  unfold AssessCall.decision TransitionControlDecision.issue
  rw [dif_pos hid, dif_pos hcontrol,
    dif_pos (sortedSet_strict _
      (Finding.key_injective _ TransitionControlFindingCode.value_injective) _),
    dif_pos (orderedUnique_sortedSet hrefs),
    dif_pos (orderedUnique_sortedSet (findings_nonBlank _))]
  exact ⟨_, rfl⟩

/-- A decision has the disposition it was made with. -/
theorem disposition_of_decision {call : AssessCall} {controlId : Option String}
    {disposition : TransitionControlDisposition} {findings : List TransitionControlFinding}
    {references : List String} {offset : Int} {d : TransitionControlDecision}
    (h : call.decision controlId disposition findings references offset = .ok d) :
    d.disposition = disposition := by
  unfold AssessCall.decision TransitionControlDecision.issue at h
  simp only at h
  repeat (split at h; rotate_left; cases h)
  cases h
  rfl

/-- What a call whose claim was answered returns. -/
def AssessCall.settle (call : AssessCall)
    (answer : Except WriteOnce.Failure TransitionControlClaim) :
    Except String TransitionControlDecision :=
  let offset := call.timestamp.utcOffset.getD 0
  call.decisionFor offset [] (call.references (call.timestamp.toUtc offset)) answer

/-- **A call whose evidence passes claims its control key once** and returns what
    the answer says. -/
theorem assess_of_passes {call : AssessCall} (h : call.Passes) :
    assess call = .call (.claim call.request) fun answer => .ret (call.settle answer) := by
  obtain ⟨offset, ho, hf⟩ := h
  have hprofile : validateProfile call.request = [] := by
    simp only [AssessCall.findings, List.append_eq_nil_iff] at hf
    exact hf.1.1.1
  simp only [assess, AssessCall.settle, ho, hf, hprofile, ne_eq, not_true_eq_false, if_false,
    Option.getD_some]
  rfl

/-- **A call whose evidence does not pass leaves the ledger alone** and claims
    nothing. -/
theorem assess_of_not_passes {call : AssessCall} (h : ¬ call.Passes) :
    ∃ r, assess call = .ret r ∧ ∀ d, r = .ok d →
      d.disposition = .notControllable ∨ d.disposition = .unsupportedProfile := by
  cases ho : call.timestamp.utcOffset with
  | none =>
      refine ⟨.error "timestamp must be timezone-aware", by simp only [assess, ho], ?_⟩
      rintro d ⟨⟩
  | some offset =>
      have hf : call.findings (call.timestamp.toUtc offset) ≠ [] := fun hf => h ⟨offset, ho, hf⟩
      have hrefuse : ∀ disposition, assess call = .ret (call.decision none disposition
          (call.findings (call.timestamp.toUtc offset))
          (call.references (call.timestamp.toUtc offset)) offset) →
          disposition = .notControllable ∨ disposition = .unsupportedProfile →
          ∃ r, assess call = .ret r ∧ ∀ d, r = .ok d →
            d.disposition = .notControllable ∨ d.disposition = .unsupportedProfile :=
        fun disposition heq hd => ⟨_, heq, fun d hr => disposition_of_decision hr ▸ hd⟩
      by_cases hprofile : validateProfile call.request = []
      · refine hrefuse .notControllable ?_ (Or.inl rfl)
        simp only [assess, ho, hprofile, ne_eq, not_true_eq_false, if_false, hf,
          not_false_eq_true, if_true]
      · refine hrefuse .unsupportedProfile ?_ (Or.inr rfl)
        simp only [assess, ho, ne_eq, hprofile, not_false_eq_true, if_true]

/-- The disposition an answer leads to. -/
def settledDisposition :
    Except WriteOnce.Failure TransitionControlClaim → TransitionControlDisposition
  | .error _ => .notControllable
  | .ok claim => (claimOutcome claim.disposition).1

theorem settledDisposition_eq_claimed
    {answer : Except WriteOnce.Failure TransitionControlClaim} :
    settledDisposition answer = .claimed ↔
      ∃ claim, answer = .ok claim ∧ claim.disposition = .claimed := by
  cases answer with
  | error failure => simp [settledDisposition]
  | ok claim => cases h : claim.disposition <;> simp [settledDisposition, claimOutcome, h]

/-- The disposition of what a settled call returns. -/
theorem disposition_of_settle {call : AssessCall}
    {answer : Except WriteOnce.Failure TransitionControlClaim} {d : TransitionControlDecision}
    (h : call.settle answer = .ok d) :
    d.disposition = settledDisposition answer := by
  cases answer with
  | error failure => exact disposition_of_decision h
  | ok claim => exact disposition_of_decision h

/-- A settled call with an identity returns a decision. -/
theorem settle_eq_ok {call : AssessCall} (hid : NonBlank call.decisionId)
    (answer : Except WriteOnce.Failure TransitionControlClaim) :
    ∃ d, call.settle answer = .ok d := by
  cases answer with
  | error failure =>
      exact decision_eq_ok hid (by simp) (references_nonBlank call _)
  | ok claim =>
      refine decision_eq_ok hid ?_ ?_
      · simpa using claim.record.controlId_nonBlank
      · intro value hm
        rcases List.mem_append.mp hm with hm | hm
        · exact references_nonBlank call _ value hm
        · rw [List.mem_singleton.mp hm, claim.record.recordDigest_canonical]
          exact nonBlank_of_isDigest (isDigest_jsonDigest _)

end Eag.GovernedTransitionControl
