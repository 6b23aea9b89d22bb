/-
  Eag.GovernedExecution.Reflection

  Governed reflection (`governed_execution/reflection.py`): the input that binds a failed
  verification to its execution, the context it is reflected in, the outcome and the memory
  evidence, with the experience that is built of a report (`memory/experience.py`).

  The engine is any function from a context to a report.  Of a report what an experience
  reads is kept; events and fresh identities are left out.
-/

import Eag.Foundation.Dict
import Eag.Foundation.DottedNames
import Eag.GovernedExecution.Models
import Eag.GovernedExecution.Verification

namespace Eag.GovernedExecution

open Eag.Foundation
open Eag.Foundation.PyText (ofString)

/-- `GOVERNED_REFLECTION_CONTRACT_VERSION`. -/
def governedReflectionContractVersion : PyText := ofString "1.0"

/-! ## Trusted evidence -/

/-- `ObjectiveStatus`. -/
inductive ObjectiveStatus where
  | satisfied
  | notSatisfied
  deriving DecidableEq, Repr

/-- `status.value`. -/
def ObjectiveStatus.value : ObjectiveStatus → PyText
  | .satisfied => ofString "satisfied"
  | .notSatisfied => ofString "not_satisfied"

/-- `ObjectiveFailureCode`. -/
inductive ObjectiveFailureCode where
  | mutationNotSuccessful
  | verificationNotPassed
  deriving DecidableEq, Repr

/-- `ObjectiveAssessment`. -/
structure ObjectiveAssessment where
  status : ObjectiveStatus
  verificationId : PyText
  receiptId : PyText
  failureCode : Option ObjectiveFailureCode
  identities_nonBlank : verificationId.NonBlank ∧ receiptId.NonBlank
  satisfied_iff : status = .satisfied ↔ failureCode = none
  deriving DecidableEq, Repr

/-- The surface of a receipt that is read; `result` is the value of its result. -/
structure ReceiptEvidence where
  mutationId : PyText
  proposalId : PyText
  runId : PyText
  authorizationId : PyText
  result : PyText
  verificationPassed : Bool
  deriving DecidableEq, Repr

/-- `_receipt_completed`. -/
def ReceiptEvidence.Completed (receipt : ReceiptEvidence) : Prop :=
  receipt.result = ofString "completed" ∧ receipt.verificationPassed = true

instance (receipt : ReceiptEvidence) : Decidable receipt.Completed :=
  inferInstanceAs (Decidable (_ ∧ _))

/-- The values of redacted metadata. -/
inductive RedactedValue where
  | none
  | bool (b : Bool)
  | int (n : Int)
  | float (repr : String)
  | str (t : PyText)
  deriving DecidableEq, Repr

/-- Metadata, by key. -/
abbrev RedactedMetadata := Dict PyText RedactedValue

/-- `GovernedReflectionError`, with its message, and what an engine raises. -/
inductive ReflectionFault where
  | governed (message : String)
  | value (message : String)
  | engine (message : String)
  deriving DecidableEq, Repr

/-- `_non_empty`, of a field. -/
def nonEmpty (value : PyText) (fieldName : String) : Except ReflectionFault Unit :=
  if value.NonBlank then .ok () else .error (.governed (fieldName ++ " cannot be empty"))

/-- A check that raises a message. -/
def governedCheck (condition : Prop) [Decidable condition] (message : String) :
    Except ReflectionFault Unit :=
  if condition then .ok () else .error (.governed message)

/-! ## The input -/

/-- The arguments of an input. -/
structure ReflectionFields where
  executionContext : GovernedExecutionContext
  receipt : ReceiptEvidence
  verification : VerificationResult
  objective : ObjectiveAssessment
  contextArtifactId : PyText
  contextFingerprint : PyText
  decisionId : PyText
  proposalId : PyText
  authorizationId : PyText
  policyVersion : PyText
  redactedMetadata : RedactedMetadata
  contractVersion : PyText

namespace ReflectionFields

variable (fields : ReflectionFields)

/-- The ledger of the execution refers to an artifact. -/
def HasEvidence (kind : ExecutionEvidenceKind) (referenceId : PyText) : Prop :=
  ∃ evidence ∈ fields.executionContext.evidence,
    evidence.kind = kind ∧ evidence.referenceId = referenceId

instance (kind : ExecutionEvidenceKind) (referenceId : PyText) :
    Decidable (fields.HasEvidence kind referenceId) :=
  inferInstanceAs (Decidable (∃ _ ∈ _, _))

/-- `__post_init__`. -/
def postInit : Except ReflectionFault Unit := do
  governedCheck (fields.executionContext.state = .reflecting)
    "governed reflection requires the reflecting state"
  governedCheck (1 ≤ fields.executionContext.iteration)
    "governed reflection requires an active iteration"
  governedCheck (fields.receipt.runId = fields.executionContext.runId)
    "receipt run_id must match execution context"
  governedCheck (ofString fields.verification.runId = fields.executionContext.runId)
    "verification run_id must match execution context"
  governedCheck (ofString fields.verification.receiptId = fields.receipt.mutationId)
    "verification must bind the same receipt"
  governedCheck (fields.objective.receiptId = fields.receipt.mutationId)
    "objective must bind the same receipt"
  governedCheck (fields.objective.verificationId = ofString fields.verification.verificationId)
    "objective must bind the same verification"
  governedCheck fields.receipt.Completed "governed reflection requires a completed mutation receipt"
  governedCheck (fields.verification.status = .failed)
    "governed reflection requires a failed trusted verification"
  governedCheck (fields.objective.status = .notSatisfied)
    "governed reflection requires an unsatisfied objective"
  governedCheck (fields.proposalId = fields.receipt.proposalId) "proposal_id must match the receipt"
  governedCheck (fields.authorizationId = fields.receipt.authorizationId)
    "authorization_id must match the receipt"
  nonEmpty fields.contextArtifactId "context_artifact_id"
  nonEmpty fields.contextFingerprint "context_fingerprint"
  nonEmpty fields.decisionId "decision_id"
  nonEmpty fields.proposalId "proposal_id"
  nonEmpty fields.authorizationId "authorization_id"
  nonEmpty fields.policyVersion "policy_version"
  governedCheck (fields.contractVersion = governedReflectionContractVersion)
    "unsupported governed reflection contract version"
  governedCheck (fields.HasEvidence .mutationReceipt fields.receipt.mutationId ∧
      fields.HasEvidence .verification (ofString fields.verification.verificationId))
    "execution ledger must contain matching receipt and verification evidence"

end ReflectionFields

/-- `GovernedReflectionInput`: arguments that its constructor accepts. -/
structure GovernedReflectionInput extends ReflectionFields where
  accepted : toReflectionFields.postInit = .ok ()

/-! ## Provenance -/

/-- `GovernedMemoryProvenance`. -/
structure GovernedMemoryProvenance where
  executionId : PyText
  runId : PyText
  iteration : Nat
  receiptId : PyText
  verificationId : PyText
  reflectionId : PyText
  contextArtifactId : PyText
  contextFingerprint : PyText
  policyVersion : PyText
  contractVersion : PyText := governedReflectionContractVersion
  deriving DecidableEq, Repr

/-- Its `__post_init__`. -/
def GovernedMemoryProvenance.postInit (provenance : GovernedMemoryProvenance) :
    Except ReflectionFault Unit := do
  nonEmpty provenance.executionId "execution_id"
  nonEmpty provenance.runId "run_id"
  nonEmpty provenance.receiptId "receipt_id"
  nonEmpty provenance.verificationId "verification_id"
  nonEmpty provenance.reflectionId "reflection_id"
  nonEmpty provenance.contextArtifactId "context_artifact_id"
  nonEmpty provenance.contextFingerprint "context_fingerprint"
  nonEmpty provenance.policyVersion "policy_version"
  governedCheck (1 ≤ provenance.iteration) "iteration must be a positive integer"
  governedCheck (provenance.contractVersion = governedReflectionContractVersion)
    "unsupported governed reflection contract version"

/-- The provenance that `reflect` binds to a report of an input. -/
def provenanceOf (input : GovernedReflectionInput) (reflectionId : PyText) :
    GovernedMemoryProvenance where
  executionId := input.executionContext.executionId
  runId := input.executionContext.runId
  iteration := input.executionContext.iteration
  receiptId := input.receipt.mutationId
  verificationId := ofString input.verification.verificationId
  reflectionId := reflectionId
  contextArtifactId := input.contextArtifactId
  contextFingerprint := input.contextFingerprint
  policyVersion := input.policyVersion

/-! ## Reflection -/

/-- `_BoundedReflectionRunResult`. -/
structure BoundedReflectionRunResult where
  runId : PyText
  outcome : PyText := ofString "failure"
  summary : PyText :=
    ofString "Objective verification failed after a completed governed mutation."
  deriving DecidableEq, Repr

/-- `ReflectionContext`. -/
structure ReflectionContext where
  runId : PyText
  runResult : BoundedReflectionRunResult
  metadata : RedactedMetadata

/-- `FindingCategory`. -/
inductive FindingCategory where
  | planning
  | execution
  | worker
  | scheduler
  | review
  | benchmark
  | architecture
  | testing
  deriving DecidableEq, Repr

/-- `RecommendationPriority`. -/
inductive RecommendationPriority where
  | low
  | normal
  | high
  | urgent
  deriving DecidableEq, Repr

/-- `ReflectionFinding`. -/
structure ReflectionFinding where
  category : FindingCategory
  description : PyText
  evidence : PyText
  confidence : Rat
  deriving DecidableEq, Repr

/-- `ReflectionRecommendation`. -/
structure ReflectionRecommendation where
  priority : RecommendationPriority
  action : PyText
  deriving DecidableEq, Repr

/-- `ReflectionReport`. -/
structure ReflectionReport where
  id : PyText
  runId : PyText
  findings : List ReflectionFinding
  recommendations : List ReflectionRecommendation
  overallScore : Nat
  deriving DecidableEq, Repr

/-- The engine of a `ReflectionRuntime`. -/
abbrev ReflectionEngine := ReflectionContext → Except String ReflectionReport

/-- `ReflectionRuntime.reflect`. -/
def reflectWith (engine : ReflectionEngine) (context : ReflectionContext) :
    Except ReflectionFault ReflectionReport :=
  match engine context with
  | .ok report => .ok report
  | .error message => .error (.engine ("Reflection failed: " ++ message))

/-- `GovernedReflectionOutcome`. -/
structure GovernedReflectionOutcome where
  input : GovernedReflectionInput
  reflectionContext : ReflectionContext
  report : ReflectionReport
  provenance : GovernedMemoryProvenance

/-- Its `__post_init__`. -/
def GovernedReflectionOutcome.postInit (outcome : GovernedReflectionOutcome) :
    Except ReflectionFault Unit := do
  governedCheck (outcome.report.runId = outcome.input.executionContext.runId)
    "reflection report run_id must match governed execution"
  governedCheck (outcome.provenance.executionId = outcome.input.executionContext.executionId)
    "reflection provenance execution_id mismatch"
  governedCheck (outcome.provenance.iteration = outcome.input.executionContext.iteration)
    "reflection provenance iteration mismatch"
  governedCheck (outcome.provenance.receiptId = outcome.input.receipt.mutationId)
    "reflection provenance receipt mismatch"
  governedCheck (outcome.provenance.verificationId
      = ofString outcome.input.verification.verificationId)
    "reflection provenance verification mismatch"
  governedCheck (outcome.provenance.reflectionId = outcome.report.id)
    "reflection provenance report mismatch"

/-! ## Experience -/

/-- `MemoryCategory`. -/
inductive MemoryCategory where
  | planning
  | execution
  | testing
  | architecture
  | review
  | benchmark
  | worker
  | capability
  deriving DecidableEq, Repr

/-- `MemoryCategory(category.value)`: the scheduler has no category of memory. -/
def memoryCategory : FindingCategory → Except ReflectionFault MemoryCategory
  | .planning => .ok .planning
  | .execution => .ok .execution
  | .worker => .ok .worker
  | .scheduler => .error (.value "'scheduler' is not a valid MemoryCategory")
  | .review => .ok .review
  | .benchmark => .ok .benchmark
  | .architecture => .ok .architecture
  | .testing => .ok .testing

/-- `LessonLearned`. -/
structure LessonLearned where
  category : MemoryCategory
  description : PyText
  evidence : PyText
  confidence : Rat
  recommendation : PyText
  deriving DecidableEq, Repr

/-- `EngineeringExperience`. -/
structure EngineeringExperience where
  projectType : PyText
  outcome : PyText
  benchmarkScore : Rat
  confidence : Rat
  lessons : List LessonLearned
  sourceEntries : List PyText
  deriving DecidableEq, Repr

/-- The lesson of a finding: its description must not be blank, and is stripped. -/
def lessonOf (report : ReflectionReport) (finding : ReflectionFinding) :
    Except ReflectionFault LessonLearned := do
  let category ← memoryCategory finding.category
  if finding.description.NonBlank then
    .ok {
      category
      description := finding.description.strip
      evidence := finding.evidence
      confidence := finding.confidence
      recommendation := (report.recommendations.find? (·.priority = .high)).elim [] (·.action) }
  else .error (.value "description cannot be empty or whitespace")

/-- `project_type`, of the summary of a run. -/
def projectType (summary : PyText) : PyText :=
  match ["fastapi", "flask", "calculator"].find? fun word =>
      ofString word <:+: PyText.asciiLower summary with
  | some word => ofString word
  | none => ofString "unknown"

/-- `ExperienceBuilder.build_from_reflection`. -/
def buildFromReflection (context : ReflectionContext) (report : ReflectionReport) :
    Except ReflectionFault EngineeringExperience := do
  let lessons ← report.findings.mapM (lessonOf report)
  .ok {
    projectType := projectType context.runResult.summary
    outcome := ofString (if report.overallScore > 50 then "success" else "failure")
    benchmarkScore := report.overallScore
    confidence := 9 / 10
    lessons
    sourceEntries := [context.runId] }

/-- `GovernedMemoryEvidence`. -/
structure GovernedMemoryEvidence where
  experience : EngineeringExperience
  provenance : GovernedMemoryProvenance
  reflectionId : PyText

/-- Its `__post_init__`. -/
def GovernedMemoryEvidence.postInit (evidence : GovernedMemoryEvidence) :
    Except ReflectionFault Unit := do
  nonEmpty evidence.reflectionId "reflection_id"
  governedCheck (evidence.provenance.reflectionId = evidence.reflectionId)
    "memory evidence reflection_id must match provenance"

/-! ## The adapter -/

namespace GovernedReflectionAdapter

/-- The trusted entries of the metadata of a context. -/
def trustedEntries (input : GovernedReflectionInput) : List (PyText × RedactedValue) :=
  [(ofString "governed_execution_id", .str input.executionContext.executionId),
    (ofString "iteration", .int input.executionContext.iteration),
    (ofString "receipt_id", .str input.receipt.mutationId),
    (ofString "verification_id", .str (ofString input.verification.verificationId)),
    (ofString "objective_status", .str input.objective.status.value),
    (ofString "context_artifact_id", .str input.contextArtifactId),
    (ofString "context_fingerprint", .str input.contextFingerprint),
    (ofString "policy_version", .str input.policyVersion)]

/-- `build_context`: the redacted metadata is unpacked after the trusted entries. -/
def buildContext (input : GovernedReflectionInput) : ReflectionContext where
  runId := input.executionContext.runId.strip
  runResult := { runId := input.executionContext.runId }
  metadata := Dict.empty.update (trustedEntries input ++ input.redactedMetadata.items)

/-- `reflect`. -/
def reflect (engine : ReflectionEngine) (input : GovernedReflectionInput) :
    Except ReflectionFault GovernedReflectionOutcome := do
  let reflectionContext := buildContext input
  let report ← reflectWith engine reflectionContext
  let provenance := provenanceOf input report.id
  provenance.postInit
  let outcome : GovernedReflectionOutcome := { input, reflectionContext, report, provenance }
  outcome.postInit
  .ok outcome

/-- `memory_evidence`. -/
def memoryEvidence (outcome : GovernedReflectionOutcome) :
    Except ReflectionFault GovernedMemoryEvidence := do
  let experience ← buildFromReflection outcome.reflectionContext outcome.report
  let evidence : GovernedMemoryEvidence :=
    ⟨experience, outcome.provenance, outcome.report.id⟩
  evidence.postInit
  .ok evidence

/-! ## What the results carry -/

variable {input : GovernedReflectionInput} {engine : ReflectionEngine}

/-- A context has the trusted entries in its metadata. -/
def ContextBound (input : GovernedReflectionInput) (context : ReflectionContext) : Prop :=
  ∀ entry ∈ trustedEntries input, context.metadata.get? entry.1 = some entry.2

/-- A provenance has the trusted identities. -/
structure ProvenanceBound (input : GovernedReflectionInput)
    (provenance : GovernedMemoryProvenance) : Prop where
  executionId : provenance.executionId = input.executionContext.executionId
  iteration : provenance.iteration = input.executionContext.iteration
  receiptId : provenance.receiptId = input.receipt.mutationId
  verificationId : provenance.verificationId = ofString input.verification.verificationId
  contextArtifactId : provenance.contextArtifactId = input.contextArtifactId
  contextFingerprint : provenance.contextFingerprint = input.contextFingerprint
  policyVersion : provenance.policyVersion = input.policyVersion

/-- No entry of the redacted metadata has another value under a trusted key. -/
def Agrees (input : GovernedReflectionInput) : Prop :=
  ∀ entry ∈ trustedEntries input, ∀ value,
    input.redactedMetadata.get? entry.1 = some value → value = entry.2

theorem trustedKeys_nodup : ((trustedEntries input).map Prod.fst).Nodup := by
  show ([ofString "governed_execution_id", ofString "iteration", ofString "receipt_id",
    ofString "verification_id", ofString "objective_status", ofString "context_artifact_id",
    ofString "context_fingerprint", ofString "policy_version"]).Nodup
  decide +kernel

theorem metadata_buildContext : (buildContext input).metadata
    = Dict.empty.update (trustedEntries input ++ input.redactedMetadata.items) := by
  simp only [buildContext]

/-- Under a trusted key the context has what the redacted metadata has there, and the trusted
    value only when it has nothing. -/
theorem get?_buildContext {entry : PyText × RedactedValue} (hentry : entry ∈ trustedEntries input) :
    (buildContext input).metadata.get? entry.1
      = (input.redactedMetadata.get? entry.1).or (some entry.2) := by
  have htrusted : (Dict.empty.update (trustedEntries input)).get? entry.1 = some entry.2 := by
    rw [Dict.get?_eq_some, Dict.items_update_empty trustedKeys_nodup]
    exact hentry
  rw [metadata_buildContext, Dict.update_append, Dict.get?_update_items, htrusted]

/-- **The context is bound exactly when the redacted metadata agrees.** -/
theorem contextBound_iff : ContextBound input (buildContext input) ↔ Agrees input := by
  constructor
  · intro hbound entry hentry value hvalue
    have hget := hbound entry hentry
    rw [get?_buildContext hentry, hvalue, Option.some_or] at hget
    exact Option.some.inj hget
  · intro hagrees entry hentry
    rw [get?_buildContext hentry]
    cases hvalue : input.redactedMetadata.get? entry.1 with
    | none => rfl
    | some value => rw [hagrees entry hentry value hvalue, Option.some_or]

/-- An outcome has the context of its input and the provenance of its report. -/
theorem reflect_eq_ok {outcome : GovernedReflectionOutcome}
    (h : reflect engine input = .ok outcome) :
    outcome.input = input ∧ outcome.reflectionContext = buildContext input ∧
      outcome.provenance = provenanceOf input outcome.report.id := by
  unfold reflect at h
  simp only [except_bind_eq_ok] at h
  obtain ⟨report, -, _, -, _, -, h⟩ := h
  obtain rfl := Except.ok.inj h
  exact ⟨rfl, rfl, rfl⟩

/-- Memory evidence has the provenance of its outcome. -/
theorem memoryEvidence_eq_ok {outcome : GovernedReflectionOutcome}
    {evidence : GovernedMemoryEvidence} (h : memoryEvidence outcome = .ok evidence) :
    evidence.provenance = outcome.provenance := by
  unfold memoryEvidence at h
  simp only [except_bind_eq_ok] at h
  obtain ⟨experience, -, _, -, h⟩ := h
  obtain rfl := Except.ok.inj h
  rfl

theorem provenanceBound_provenanceOf (reflectionId : PyText) :
    ProvenanceBound input (provenanceOf input reflectionId) :=
  ⟨rfl, rfl, rfl, rfl, rfl, rfl, rfl⟩

/-- What is asked of an input and an engine: the context, the outcome and the memory evidence
    carry the trusted identities, and the input that they are bound to is the one that was
    given. -/
structure Unrelabelled (input : GovernedReflectionInput) (engine : ReflectionEngine) : Prop where
  context : ContextBound input (buildContext input)
  outcome : ∀ outcome, reflect engine input = .ok outcome →
    outcome.input = input ∧ ContextBound input outcome.reflectionContext ∧
      ProvenanceBound input outcome.provenance
  memory : ∀ outcome evidence, reflect engine input = .ok outcome →
    memoryEvidence outcome = .ok evidence → ProvenanceBound input evidence.provenance

/-- **Reflection evidence is not relabelled exactly when** the redacted metadata has no other
    value under a trusted key. The provenance is never relabelled; the metadata of the context
    is, by every such entry. -/
theorem unrelabelled_iff (input : GovernedReflectionInput) (engine : ReflectionEngine) :
    Unrelabelled input engine ↔ Agrees input := by
  constructor
  · exact fun h => contextBound_iff.mp h.context
  · intro hagrees
    have hcontext := contextBound_iff.mpr hagrees
    refine ⟨hcontext, fun outcome h => ?_, fun outcome evidence h hmemory => ?_⟩
    · obtain ⟨hinput, hreflected, hprovenance⟩ := reflect_eq_ok h
      rw [hreflected, hprovenance]
      exact ⟨hinput, hcontext, provenanceBound_provenanceOf _⟩
    · obtain ⟨-, -, hprovenance⟩ := reflect_eq_ok h
      rw [memoryEvidence_eq_ok hmemory, hprovenance]
      exact provenanceBound_provenanceOf _

/-! ## A relabelled verification -/

/-- A reference of a ledger. -/
def reference (kind : ExecutionEvidenceKind) (id : String) (h : (ofString id).NonBlank) :
    ExecutionEvidenceRef :=
  ⟨kind, ofString id, ofString "", .nil, h⟩

/-- A record of the first iteration. -/
def record (sequence : Nat) (fromState toState : GovernedExecutionState)
    (evidence : List ExecutionEvidenceRef) (h : 1 ≤ sequence) : ExecutionTransitionRecord :=
  ⟨sequence, 1, fromState, toState, ⟨0, some 0⟩, none, evidence, h⟩

/-- The receipt and the verification in a ledger. -/
def receiptReference : ExecutionEvidenceRef := reference .mutationReceipt "mutation" (by decide)

def verificationReference : ExecutionEvidenceRef :=
  reference .verification "verification" (by decide)

/-- An execution whose first verification failed. -/
def reflectingContext : GovernedExecutionContext where
  executionId := ofString "execution"
  runId := ofString "run"
  goal := ofString "goal"
  state := .reflecting
  iteration := 1
  budget := ⟨1, 1, 1, 1, 1, 1, Nat.one_pos, Nat.one_pos, Nat.one_pos, Nat.one_pos, Nat.one_pos,
    Nat.one_pos⟩
  history := [
    record 1 .created .contextAssembling [] (Nat.succ_pos _),
    record 2 .contextAssembling .planning [] (Nat.succ_pos _),
    record 3 .planning .deciding [] (Nat.succ_pos _),
    record 4 .deciding .proposing [] (Nat.succ_pos _),
    record 5 .proposing .authorizing [] (Nat.succ_pos _),
    record 6 .authorizing .mutating [] (Nat.succ_pos _),
    record 7 .mutating .verifying [receiptReference] (Nat.succ_pos _),
    record 8 .verifying .reflecting [verificationReference] (Nat.succ_pos _)]
  evidence := [receiptReference, verificationReference]
  stopReason := none
  metadata := .nil
  validated := by decide +kernel

/-- Its failed verification. -/
def failedVerification : VerificationResult where
  verificationId := "verification"
  requestId := "request"
  runId := "run"
  receiptId := "mutation"
  specificationId := "specification"
  status := .failed
  evidence := none
  failureCode := some .assertionFailed
  version := verificationContractVersion
  identities_nonBlank := by decide
  passed_iff := by decide
  version_supported := rfl

/-- An input whose redacted metadata names another verification. -/
def relabellingInput : GovernedReflectionInput where
  executionContext := reflectingContext
  receipt := ⟨ofString "mutation", ofString "proposal", ofString "run", ofString "authorization",
    ofString "completed", true⟩
  verification := failedVerification
  objective := ⟨.notSatisfied, ofString "verification", ofString "mutation",
    some .verificationNotPassed, by decide, by decide⟩
  contextArtifactId := ofString "artifact"
  contextFingerprint := ofString "fingerprint"
  decisionId := ofString "decision"
  proposalId := ofString "proposal"
  authorizationId := ofString "authorization"
  policyVersion := ofString "policy"
  redactedMetadata := Dict.empty.set (ofString "verification_id") (.str (ofString "other"))
  contractVersion := governedReflectionContractVersion
  accepted := by decide +kernel

/-- The input is accepted, and the context it is reflected in names another verification. -/
theorem relabelled_verification :
    (buildContext relabellingInput).metadata.get? (ofString "verification_id")
      = some (.str (ofString "other")) ∧
    ¬ ∀ (input : GovernedReflectionInput) (engine : ReflectionEngine),
      Unrelabelled input engine := by
  have hother : (buildContext relabellingInput).metadata.get? (ofString "verification_id")
      = some (.str (ofString "other")) := by decide +kernel
  refine ⟨hother, fun hclaim => ?_⟩
  have hbound := (hclaim relabellingInput fun _ => .error "").context
    (ofString "verification_id", .str (ofString "verification")) (by decide +kernel)
  rw [hother] at hbound
  cases hbound

end GovernedReflectionAdapter

end Eag.GovernedExecution
