/-
  Eag.GovernedExecution.Replanning

  What a second iteration has to show: the completion policy (`governed_execution/verification.py`,
  `ObjectiveCompletionPolicy`), the executable authority of an iteration
  (`governed_execution/authority.py`) and the bounded replanning policy
  (`governed_execution/replanning.py`).

  The metadata of a ledger reference holds texts without surrogates; a lone surrogate of a
  reflection's identity is shown there as the replacement character.
-/

import Eag.Foundation.Identifiers
import Eag.GovernedExecution.Reflection

namespace Eag.GovernedExecution

open Eag.Foundation Eag.Mutation
open Eag.Foundation.PyText (ofString)

/-! ## The completion policy -/

theorem verification_id_nonBlank (verification : VerificationResult) :
    (ofString verification.verificationId).NonBlank :=
  PyText.nonBlank_ofString.mpr (verification.identities_nonBlank _ List.mem_cons_self)

theorem verification_receipt_nonBlank (verification : VerificationResult) :
    (ofString verification.receiptId).NonBlank :=
  PyText.nonBlank_ofString.mpr (verification.identities_nonBlank _ (List.mem_cons_of_mem _
    (List.mem_cons_of_mem _ (List.mem_cons_of_mem _ List.mem_cons_self))))

/-- Why the objective is not satisfied, if it is not. -/
def objectiveFailure (receipt : MutationReceipt) (verification : VerificationResult) :
    Option ObjectiveFailureCode :=
  if ¬MutationSucceeded receipt then some .mutationNotSuccessful
  else if verification.status ≠ .passed then some .verificationNotPassed
  else none

theorem notSatisfied_ne : ObjectiveStatus.notSatisfied ≠ .satisfied := by
  intro h
  cases h

/-- The assessment that carries a failure, or none. -/
def ObjectiveAssessment.of (verification : VerificationResult) :
    Option ObjectiveFailureCode → ObjectiveAssessment
  | none => ⟨.satisfied, ofString verification.verificationId, ofString verification.receiptId,
      none, ⟨verification_id_nonBlank _, verification_receipt_nonBlank _⟩,
      iff_of_true rfl rfl⟩
  | some code => ⟨.notSatisfied, ofString verification.verificationId,
      ofString verification.receiptId, some code,
      ⟨verification_id_nonBlank _, verification_receipt_nonBlank _⟩,
      iff_of_false notSatisfied_ne (Option.some_ne_none code)⟩

theorem ObjectiveAssessment.of_satisfied {verification : VerificationResult}
    {failure : Option ObjectiveFailureCode} :
    (ObjectiveAssessment.of verification failure).status = .satisfied ↔ failure = none := by
  cases failure with
  | none => exact iff_of_true rfl rfl
  | some code => exact iff_of_false notSatisfied_ne (Option.some_ne_none code)

/-- `ObjectiveCompletionPolicy.assess`. -/
def assessObjective (receipt : MutationReceipt) (verification : VerificationResult) :
    Except String ObjectiveAssessment := do
  require (receipt.mutationId = verification.receiptId)
    "verification receipt_id must match supplied receipt"
  .ok (.of verification (objectiveFailure receipt verification))

/-- **The objective is satisfied** by a mutation that succeeded, with a verification of it that
    passed, and by nothing else. -/
theorem assessObjective_satisfied {receipt : MutationReceipt} {verification : VerificationResult}
    {objective : ObjectiveAssessment} (h : assessObjective receipt verification = .ok objective) :
    receipt.mutationId = verification.receiptId ∧ (objective.status = .satisfied ↔
      MutationSucceeded receipt ∧ verification.status = .passed) := by
  unfold assessObjective at h
  rw [except_bind_eq_ok] at h
  obtain ⟨_, hreceipt, h⟩ := h
  obtain rfl := Except.ok.inj h
  refine ⟨(require_eq_ok _ _ _).mp hreceipt, ?_⟩
  rw [ObjectiveAssessment.of_satisfied, objectiveFailure]
  by_cases hsucceeded : MutationSucceeded receipt
  · rw [if_neg (not_not.mpr hsucceeded)]
    by_cases hpassed : verification.status = .passed
    · rw [if_neg (not_not.mpr hpassed)]
      exact iff_of_true rfl ⟨hsucceeded, hpassed⟩
    · rw [if_pos hpassed]
      exact iff_of_false (Option.some_ne_none _) fun h => hpassed h.2
  · rw [if_pos hsucceeded]
    exact iff_of_false (Option.some_ne_none _) fun h => hsucceeded h.1

/-! ## Executable authority -/

/-- The identities that a fresh iteration may not reuse. -/
structure IterationIdentities where
  contextArtifactId : PyText
  contextFingerprint : PyText
  decisionRequestId : PyText
  decisionId : PyText
  proposalId : PyText
  authorizationId : PyText
  deriving DecidableEq, Repr

/-- Two identities of one field, with its name. -/
structure IdentityPair where
  name : String
  previous : PyText
  candidate : PyText
  deriving DecidableEq, Repr

/-- The identities of two iterations, field by field, in the order they are compared. -/
def IterationIdentities.pairs (previous candidate : IterationIdentities) : List IdentityPair :=
  [⟨"context_artifact_id", previous.contextArtifactId, candidate.contextArtifactId⟩,
    ⟨"context_fingerprint", previous.contextFingerprint, candidate.contextFingerprint⟩,
    ⟨"decision_request_id", previous.decisionRequestId, candidate.decisionRequestId⟩,
    ⟨"decision_id", previous.decisionId, candidate.decisionId⟩,
    ⟨"proposal_id", previous.proposalId, candidate.proposalId⟩,
    ⟨"authorization_id", previous.authorizationId, candidate.authorizationId⟩]

/-- No identity of the one is that of the other. -/
structure Fresh (previous candidate : IterationIdentities) : Prop where
  contextArtifactId : candidate.contextArtifactId ≠ previous.contextArtifactId
  contextFingerprint : candidate.contextFingerprint ≠ previous.contextFingerprint
  decisionRequestId : candidate.decisionRequestId ≠ previous.decisionRequestId
  decisionId : candidate.decisionId ≠ previous.decisionId
  proposalId : candidate.proposalId ≠ previous.proposalId
  authorizationId : candidate.authorizationId ≠ previous.authorizationId

theorem fresh_iff_pairs {previous candidate : IterationIdentities} :
    Fresh previous candidate ↔
      ∀ pair ∈ previous.pairs candidate, pair.candidate ≠ pair.previous := by
  simp only [IterationIdentities.pairs, List.forall_mem_cons, List.not_mem_nil,
    IsEmpty.forall_iff, implies_true, and_true]
  constructor
  · intro h
    exact ⟨h.contextArtifactId, h.contextFingerprint, h.decisionRequestId, h.decisionId,
      h.proposalId, h.authorizationId⟩
  · rintro ⟨artifact, fingerprint, request, decision, proposal, authorization⟩
    exact ⟨artifact, fingerprint, request, decision, proposal, authorization⟩

/-- `FreshIterationAuthority`. -/
structure FreshIterationAuthority extends IterationIdentities where
  executionId : PyText
  iteration : Nat
  deriving DecidableEq, Repr

/-- Its `__post_init__`, with the message of a `FreshIterationAuthorityError`. -/
def FreshIterationAuthority.postInit (authority : FreshIterationAuthority) :
    Except String Unit := do
  require authority.executionId.NonBlank "execution_id cannot be empty"
  require authority.contextArtifactId.NonBlank "context_artifact_id cannot be empty"
  require authority.contextFingerprint.NonBlank "context_fingerprint cannot be empty"
  require authority.decisionRequestId.NonBlank "decision_request_id cannot be empty"
  require authority.decisionId.NonBlank "decision_id cannot be empty"
  require authority.proposalId.NonBlank "proposal_id cannot be empty"
  require authority.authorizationId.NonBlank "authorization_id cannot be empty"
  require (1 ≤ authority.iteration) "iteration must be a positive integer"

/-- The loop of `validate_fresh_authority`. -/
def checkFresh (pairs : List IdentityPair) : Except String Unit :=
  pairs.forM fun pair =>
    require (pair.candidate ≠ pair.previous) ("fresh authority reuses stale " ++ pair.name)

/-- `validate_fresh_authority`. -/
def validateFreshAuthority (previous candidate : FreshIterationAuthority) : Except String Unit := do
  require (candidate.executionId = previous.executionId)
    "candidate authority belongs to another execution"
  require (candidate.iteration = previous.iteration + 1)
    "candidate authority must be for the next serial iteration"
  checkFresh (previous.pairs candidate.toIterationIdentities)

/-- **What passes**: the next iteration of one execution, with no identity of the previous. -/
theorem validateFreshAuthority_eq_ok {previous candidate : FreshIterationAuthority} :
    validateFreshAuthority previous candidate = .ok () ↔
      candidate.executionId = previous.executionId ∧
        candidate.iteration = previous.iteration + 1 ∧
        Fresh previous.toIterationIdentities candidate.toIterationIdentities := by
  unfold validateFreshAuthority checkFresh
  simp only [except_bind_eq_ok, require_eq_ok, exists_const, forM_eq_ok, fresh_iff_pairs]

/-! ## Replanning -/

/-- `ReplanningAction`. -/
inductive ReplanningAction where
  | continueWithFreshDecision
  | fail
  | abort
  deriving DecidableEq, Repr

def ReplanningAction.value : ReplanningAction → String
  | .continueWithFreshDecision => "continue_with_fresh_decision"
  | .fail => "fail"
  | .abort => "abort"

/-- The members of `ReplanningReasonCode` that the policy gives. -/
inductive ReplanningReasonCode where
  | eligibleVerificationFailure
  | secondIterationVerificationFailure
  | iterationLimit
  | mutationCapacity
  | verificationCapacity
  | terminalContext
  | ineligibleVerification
  deriving DecidableEq, Repr

def ReplanningReasonCode.value : ReplanningReasonCode → String
  | .eligibleVerificationFailure => "eligible_verification_failure"
  | .secondIterationVerificationFailure => "second_iteration_verification_failure"
  | .iterationLimit => "iteration_limit"
  | .mutationCapacity => "mutation_capacity"
  | .verificationCapacity => "verification_capacity"
  | .terminalContext => "terminal_context"
  | .ineligibleVerification => "ineligible_verification"

/-- `ReplanningInput`. -/
structure ReplanningInput where
  executionContext : GovernedExecutionContext
  reflection : GovernedReflectionOutcome
  memory : GovernedMemoryEvidence
  previousDecisionId : PyText
  previousProposalId : PyText
  previousAuthorizationId : PyText
  previousContextArtifactId : PyText

/-- Its `__post_init__`, with the message of a `ReplanningError`. -/
def ReplanningInput.postInit (input : ReplanningInput) : Except String Unit := do
  require (input.executionContext.state = .replanning)
    "replanning input requires the replanning state"
  require input.previousDecisionId.NonBlank "previous_decision_id cannot be empty"
  require input.previousProposalId.NonBlank "previous_proposal_id cannot be empty"
  require input.previousAuthorizationId.NonBlank "previous_authorization_id cannot be empty"
  require input.previousContextArtifactId.NonBlank "previous_context_artifact_id cannot be empty"
  require (input.reflection.provenance.executionId = input.executionContext.executionId)
    "reflection belongs to another execution"
  require (input.reflection.provenance.runId = input.executionContext.runId)
    "reflection belongs to another run"
  require (input.reflection.provenance.iteration = input.executionContext.iteration)
    "reflection belongs to an incompatible iteration"
  require (input.memory.provenance = input.reflection.provenance)
    "memory provenance must exactly match reflection provenance"
  require (input.memory.reflectionId = input.reflection.report.id)
    "memory evidence must bind the reflection report"
  require (input.previousDecisionId = input.reflection.input.decisionId)
    "previous decision identity does not match reflection evidence"
  require (input.previousProposalId = input.reflection.input.proposalId)
    "previous proposal identity does not match reflection evidence"
  require (input.previousAuthorizationId = input.reflection.input.authorizationId)
    "previous authorization identity does not match reflection evidence"
  require (input.previousContextArtifactId = input.reflection.provenance.contextArtifactId)
    "previous context artifact does not match reflection provenance"

/-- `FreshIterationArtifacts`: the authority of an iteration with its receipt and verification. -/
structure FreshIterationArtifacts extends IterationIdentities where
  receiptId : PyText
  verificationId : PyText
  deriving DecidableEq, Repr

/-- Its `__post_init__`. -/
def FreshIterationArtifacts.postInit (artifacts : FreshIterationArtifacts) :
    Except String Unit := do
  require artifacts.contextArtifactId.NonBlank "context_artifact_id cannot be empty"
  require artifacts.decisionRequestId.NonBlank "decision_request_id cannot be empty"
  require artifacts.decisionId.NonBlank "decision_id cannot be empty"
  require artifacts.proposalId.NonBlank "proposal_id cannot be empty"
  require artifacts.authorizationId.NonBlank "authorization_id cannot be empty"
  require artifacts.receiptId.NonBlank "receipt_id cannot be empty"
  require artifacts.verificationId.NonBlank "verification_id cannot be empty"
  require artifacts.contextFingerprint.NonBlank "context_fingerprint cannot be empty"

/-- `ReplanningOutcome`. -/
structure ReplanningOutcome where
  action : ReplanningAction
  reasonCode : ReplanningReasonCode
  executionId : PyText
  iteration : Nat
  reflectionId : PyText
  planningDecisionId : String
  deriving DecidableEq, Repr

/-- Its `__post_init__`. -/
def ReplanningOutcome.postInit (outcome : ReplanningOutcome) : Except String Unit := do
  require outcome.executionId.NonBlank "execution_id cannot be empty"
  require outcome.reflectionId.NonBlank "reflection_id cannot be empty"
  require (1 ≤ outcome.iteration) "iteration must be a positive integer"

namespace ReplanningPolicy

/-- The reason that `decide` gives; only an eligible failure goes on. -/
def reasonOf (input : ReplanningInput) : ReplanningReasonCode :=
  let context := input.executionContext
  let governed := input.reflection.input
  if context.state.isTerminal then .terminalContext
  else if governed.verification.status ≠ .failed ∨ governed.objective.status ≠ .notSatisfied then
    .ineligibleVerification
  else if 2 ≤ context.iteration then .secondIterationVerificationFailure
  else if context.budget.iterationsRemaining < 1 then .iterationLimit
  else if context.budget.mutationsRemaining < 1 then .mutationCapacity
  else if context.budget.verificationsRemaining < 1 then .verificationCapacity
  else .eligibleVerificationFailure

/-- `decide`. -/
def decide (input : ReplanningInput) (planningDecisionId : String) :
    Except String ReplanningOutcome := do
  let reasonCode := reasonOf input
  let outcome : ReplanningOutcome :=
    { action := if reasonCode = .eligibleVerificationFailure then .continueWithFreshDecision
        else .fail
      reasonCode
      executionId := input.executionContext.executionId
      iteration := input.executionContext.iteration
      reflectionId := input.reflection.report.id
      planningDecisionId }
  outcome.postInit
  .ok outcome

/-- The artifacts of an iteration beside those of the one before it, in the order they are
    compared; the decision request is not among them. -/
def stalePairs (input : ReplanningInput) (artifacts : FreshIterationArtifacts) :
    List IdentityPair :=
  let provenance := input.reflection.provenance
  [⟨"context_artifact_id", input.previousContextArtifactId, artifacts.contextArtifactId⟩,
    ⟨"decision_id", input.previousDecisionId, artifacts.decisionId⟩,
    ⟨"proposal_id", input.previousProposalId, artifacts.proposalId⟩,
    ⟨"authorization_id", input.previousAuthorizationId, artifacts.authorizationId⟩,
    ⟨"receipt_id", provenance.receiptId, artifacts.receiptId⟩,
    ⟨"verification_id", provenance.verificationId, artifacts.verificationId⟩,
    ⟨"context_fingerprint", provenance.contextFingerprint, artifacts.contextFingerprint⟩]

/-- `validate_fresh_iteration`. -/
def validateFreshIteration (input : ReplanningInput) (artifacts : FreshIterationArtifacts) :
    Except String Unit :=
  (stalePairs input artifacts).forM fun pair =>
    require (pair.candidate ≠ pair.previous) ("fresh iteration reuses stale " ++ pair.name)

end ReplanningPolicy

/-! ## Ledger references -/

/-- A text without surrogates. -/
def shownText (t : PyText) : String :=
  String.ofList (t.map fun
    | .scalar c => c
    | .surrogate _ => '\ufffd')

/-- `ExecutionEvidenceRef(...)`, or the `ValueError` of an empty reference. -/
def evidenceRef (kind : ExecutionEvidenceKind) (referenceId digest : PyText)
    (metadata : MetadataEntries) : Except String ExecutionEvidenceRef := do
  let ⟨hblank⟩ ← ensure referenceId.NonBlank "reference_id cannot be empty"
  .ok ⟨kind, referenceId, digest, metadata, hblank⟩

/-- The values of the members of `VerificationStatus`. -/
def VerificationStatus.value : VerificationStatus → String
  | .passed => "passed"
  | .failed => "failed"
  | .notRun => "not_run"

def VerificationFailureCode.value : VerificationFailureCode → String
  | .mutationNotSuccessful => "mutation_not_successful"
  | .targetPathMismatch => "target_path_mismatch"
  | .targetOutsideWorkspace => "target_outside_workspace"
  | .targetSymlink => "target_symlink"
  | .targetTooLarge => "target_too_large"
  | .targetReadFailed => "target_read_failed"
  | .assertionFailed => "assertion_failed"

/-- `VerificationResult.evidence_ref`. -/
def VerificationResult.evidenceRef (verification : VerificationResult) : ExecutionEvidenceRef where
  kind := .verification
  referenceId := ofString verification.verificationId
  digest := ofString ((verification.evidence.bind (·.observedFingerprint)).getD "")
  metadata := .cons "status" (.str verification.status.value)
    (match verification.failureCode with
      | none => .nil
      | some code => .cons "failure_code" (.str code.value) .nil)
  referenceId_nonBlank := verification_id_nonBlank verification

/-- `GovernedReflectionOutcome.evidence_ref`. -/
def GovernedReflectionOutcome.evidenceRef (outcome : GovernedReflectionOutcome) :
    Except String ExecutionEvidenceRef :=
  GovernedExecution.evidenceRef .reflection outcome.report.id []
    (.cons "iteration" (.int outcome.provenance.iteration)
      (.cons "verification_id" (.str (shownText outcome.provenance.verificationId)) .nil))

/-- `ReplanningOutcome.evidence_ref`. -/
def ReplanningOutcome.evidenceRef (outcome : ReplanningOutcome) :
    Except String ExecutionEvidenceRef :=
  GovernedExecution.evidenceRef .replanning
    (outcome.executionId ++ ofString s!":{outcome.iteration}:{outcome.action.value}") []
    (.cons "action" (.str outcome.action.value)
      (.cons "reason_code" (.str outcome.reasonCode.value)
        (.cons "reflection_id" (.str (shownText outcome.reflectionId))
          (.cons "planning_decision_id" (.str outcome.planningDecisionId) .nil))))

end Eag.GovernedExecution
