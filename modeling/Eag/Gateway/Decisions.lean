/-
  Eag.Gateway.Decisions

  The caller-controlled policies a governed request carries, what a governed decision request
  asks and what an engineering decision says (`chief/intelligence/gateway/models.py`). The
  texts of a decision come from a provider, so they may hold lone surrogates; the texts of a
  request do not.

  Each type carries what its constructor checks, and `new` makes the checks in the
  constructor's order, with the messages of its errors.
-/

import Eag.Foundation.Checks
import Eag.Foundation.JsonDecoder
import Eag.Foundation.Sha256

namespace Eag.Gateway

open Eag.Foundation

/-! ## Costs -/

/-- A Python number used as a cost: `1` and `1.0` are equal numbers with
    different JSON texts. -/
inductive Cost where
  | int (n : Int)
  | float (f : FloatText)
  deriving DecidableEq

namespace Cost

/-- `cost < 0`. -/
def isNegative : Cost → Bool
  | .int n => n < 0
  | .float f => f.text.head? = some '-' && f.text ≠ ['-', '0', '.', '0']

def toJson : Cost → Json
  | .int n => .int n
  | .float f => .float f

theorem toJson_injective {a b : Cost} (h : a.toJson = b.toJson) : a = b := by
  cases a <;> cases b <;> simp_all [toJson]

@[simp] theorem canonical_toJson (c : Cost) : c.toJson.Canonical := by
  cases c <;> trivial

end Cost

/-! ## Policies -/

/-- Non-model-controlled limits for a single governed request. -/
structure GatewayPolicy where
  maxAttempts : Int
  timeoutMs : Int
  maxTotalTokens : Int
  maxEstimatedCost : Cost
  maxSchemaRepairAttempts : Int
  allowFallback : Bool
  redactProviderContent : Bool
  maxAttempts_pos : 1 ≤ maxAttempts
  timeoutMs_pos : 1 ≤ timeoutMs
  maxTotalTokens_pos : 1 ≤ maxTotalTokens
  maxEstimatedCost_nonneg : maxEstimatedCost.isNegative = false
  maxSchemaRepairAttempts_nonneg : 0 ≤ maxSchemaRepairAttempts
  deriving DecidableEq

/-- Leading content a controlled replacement must retain. -/
@[ext]
structure PreservationRequirement where
  requirementId : String
  requiredPrefix : String
  requirementId_nonBlank : NonBlank requirementId
  requiredPrefix_nonempty : requiredPrefix ≠ ""

instance : DecidableEq PreservationRequirement := fun _ _ =>
  decidable_of_iff _ PreservationRequirement.ext_iff.symm

/-- `PreservationRequirement.fingerprint`. -/
def PreservationRequirement.fingerprint (r : PreservationRequirement) : String :=
  sha256Hex r.requiredPrefix

/-- `MUTATION_INTENT_SCHEMA_VERSION`. -/
def mutationIntentSchemaVersion : String := "1.0"

/-- Trusted bounds for one provider-declared mutation intent. -/
@[ext]
structure MutationIntentPolicy where
  capabilityId : String
  allowedOperations : List String
  maxContentBytes : Int
  preservationRequirements : List PreservationRequirement
  schemaVersion : String
  capabilityId_nonBlank : NonBlank capabilityId
  allowedOperations_nonempty : allowedOperations ≠ []
  allowedOperations_nonBlank : ∀ operation ∈ allowedOperations, NonBlank operation
  allowedOperations_nodup : allowedOperations.Nodup
  maxContentBytes_pos : 0 < maxContentBytes
  requirementIds_nodup : (preservationRequirements.map (·.requirementId)).Nodup
  schemaVersion_supported : schemaVersion = mutationIntentSchemaVersion

instance : DecidableEq MutationIntentPolicy := fun _ _ =>
  decidable_of_iff _ MutationIntentPolicy.ext_iff.symm

/-! ## What the default policies and requests meet -/

theorem goal_text_nonBlank : NonBlank "goal" := by decide

theorem mutationId_nonBlank : NonBlank "governed_mutation" := by decide

theorem mutationIds_ne_nil : ["governed_mutation"] ≠ [] := by decide

theorem mutationIds_nonBlank : ∀ id ∈ ["governed_mutation"], NonBlank id := by decide

theorem mutationIds_nodup : ["governed_mutation"].Nodup := by decide

theorem fileOperations_ne_nil : ["create_file", "modify_file"] ≠ [] := by decide

theorem fileOperations_nonBlank :
    ∀ operation ∈ ["create_file", "modify_file"], NonBlank operation := by decide

theorem fileOperations_nodup : ["create_file", "modify_file"].Nodup := by decide

theorem contentBytes_pos : (0 : Int) < 64000 := by decide

theorem oneAttempt_pos : (1 : Int) ≤ 1 := by decide

theorem timeout_pos : (1 : Int) ≤ 30000 := by decide

theorem totalTokens_pos : (1 : Int) ≤ 8000 := by decide

theorem unitCost_nonneg : (Cost.int 1).isNegative = false := by decide

theorem noRepairs_nonneg : (0 : Int) ≤ 0 := by decide

/-! ## Requests -/

/-- `ENGINEERING_DECISION_SCHEMA_VERSION`. -/
def engineeringDecisionSchemaVersion : String := "1.0"

/-- The part of the factual context the decision checks read. -/
structure EngineeringContext where
  provenance : List (String × String)
  truncationMetadata : List (String × Json)

/-- A policy-bounded request for an advisory engineering decision. -/
structure EngineeringDecisionRequest where
  goal : String
  context : EngineeringContext
  allowedCapabilityIds : List String
  policy : GatewayPolicy
  mutationIntentPolicy : Option MutationIntentPolicy
  schemaVersion : String
  requestId : String
  goal_nonBlank : NonBlank goal
  allowedCapabilityIds_nonempty : allowedCapabilityIds ≠ []
  allowedCapabilityIds_nonBlank : ∀ id ∈ allowedCapabilityIds, NonBlank id
  allowedCapabilityIds_nodup : allowedCapabilityIds.Nodup
  mutationCapability_allowlisted :
    ∀ policy ∈ mutationIntentPolicy, policy.capabilityId ∈ allowedCapabilityIds
  schemaVersion_supported : schemaVersion = engineeringDecisionSchemaVersion

/-- A request for the governed mutation capability, with or without a mutation policy. -/
def openRequest (policy : Option MutationIntentPolicy)
    (hcapability : ∀ p ∈ policy, p.capabilityId = "governed_mutation") :
    EngineeringDecisionRequest where
  goal := "goal"
  context := ⟨[("finding", "source")], []⟩
  allowedCapabilityIds := ["governed_mutation"]
  policy :=
    { maxAttempts := 1
      timeoutMs := 30000
      maxTotalTokens := 8000
      maxEstimatedCost := .int 1
      maxSchemaRepairAttempts := 0
      allowFallback := false
      redactProviderContent := true
      maxAttempts_pos := oneAttempt_pos
      timeoutMs_pos := timeout_pos
      maxTotalTokens_pos := totalTokens_pos
      maxEstimatedCost_nonneg := unitCost_nonneg
      maxSchemaRepairAttempts_nonneg := noRepairs_nonneg }
  mutationIntentPolicy := policy
  schemaVersion := "1.0"
  requestId := "request"
  goal_nonBlank := goal_text_nonBlank
  allowedCapabilityIds_nonempty := mutationIds_ne_nil
  allowedCapabilityIds_nonBlank := mutationIds_nonBlank
  allowedCapabilityIds_nodup := mutationIds_nodup
  mutationCapability_allowlisted := by
    intro p hp
    rw [hcapability p hp]
    exact List.mem_singleton_self _
  schemaVersion_supported := rfl

/-! ## Numbers -/

/-- The least integer that rounds to 2^1024, which no double reaches. -/
def floatOverflow : Nat := 2 ^ 1024 - 2 ^ 970

/-- `float(n)`; `none` stands for its `OverflowError`. -/
def floatOfInt? (n : Int) : Option PyFloat :=
  if n.natAbs < floatOverflow then some (.decimal (n < 0) n.natAbs 0) else none

/-- `0.0 <= x <= 1.0` for the double nearest to the literal: a negative one passes when
    it rounds to zero, and one above 1 when it rounds to 1. -/
def inUnitInterval : PyFloat → Bool
  | .nan | .infinity _ => false
  | .decimal true digits power =>
      digits * 10 ^ power.toNat * 2 ^ 1075 ≤ 10 ^ (-power).toNat
  | .decimal false digits power =>
      digits * 10 ^ power.toNat * 2 ^ 53 ≤ (2 ^ 53 + 1) * 10 ^ (-power).toNat

/-! ## Decisions -/

/-- Severity of a disclosed risk. -/
inductive RiskSeverity where
  | low
  | medium
  | high
  | critical
  deriving DecidableEq, Repr

def RiskSeverity.value : RiskSeverity → String
  | .low => "low"
  | .medium => "medium"
  | .high => "high"
  | .critical => "critical"

/-- `RiskSeverity(value)`. -/
def RiskSeverity.ofValue? (t : PyText) : Option RiskSeverity :=
  [RiskSeverity.low, .medium, .high, .critical].find? fun severity =>
    t = .ofString severity.value

/-- A non-executable proposed step. -/
structure ProposedPlanStep where
  stepId : PyText
  title : PyText
  capabilityId : PyText
  dependencies : List PyText
  parameters : PyEntries
  expectedEvidence : List PyText
  stepId_nonBlank : stepId.NonBlank
  title_nonBlank : title.NonBlank
  capabilityId_nonBlank : capabilityId.NonBlank

/-- `ProposedPlanStep(...)`. -/
def ProposedPlanStep.new (stepId title capabilityId : PyText) (dependencies : List PyText)
    (parameters : PyEntries) (expectedEvidence : List PyText) :
    Except String ProposedPlanStep := do
  let ⟨hstep⟩ ← ensure stepId.NonBlank "step_id cannot be empty"
  let ⟨htitle⟩ ← ensure title.NonBlank "title cannot be empty"
  let ⟨hcapability⟩ ← ensure capabilityId.NonBlank "capability_id cannot be empty"
  return ⟨stepId, title, capabilityId, dependencies, parameters, expectedEvidence, hstep,
    htitle, hcapability⟩

/-- An untrusted declaration of one bounded file mutation. -/
structure MutationIntent where
  intentId : PyText
  stepId : PyText
  targetPath : PyText
  operation : PyText
  proposedContent : PyText
  rationale : PyText
  groundingReferences : List PyText
  dependencies : List PyText
  preservationRequirementIds : List PyText
  schemaVersion : PyText
  ids_nonBlank : intentId.NonBlank ∧ stepId.NonBlank
  target_nonBlank : targetPath.NonBlank ∧ operation.NonBlank
  rationale_nonBlank : rationale.NonBlank
  groundingReferences_nonBlank :
    groundingReferences ≠ [] ∧ ∀ reference ∈ groundingReferences, reference.NonBlank
  groundingReferences_nodup : groundingReferences.Nodup
  dependencies_nonBlank : ∀ dependency ∈ dependencies, dependency.NonBlank
  preservationRequirementIds_nonBlank : ∀ id ∈ preservationRequirementIds, id.NonBlank
  preservationRequirementIds_nodup : preservationRequirementIds.Nodup
  schemaVersion_supported : schemaVersion = .ofString mutationIntentSchemaVersion

namespace MutationIntent

/-- `MutationIntent(...)`. -/
def new (intentId stepId targetPath operation proposedContent rationale : PyText)
    (groundingReferences dependencies preservationRequirementIds : List PyText)
    (schemaVersion : PyText) : Except String MutationIntent := do
  let ⟨hids⟩ ← ensure (intentId.NonBlank ∧ stepId.NonBlank)
    "intent_id and step_id cannot be empty"
  let ⟨htarget⟩ ← ensure (targetPath.NonBlank ∧ operation.NonBlank)
    "target_path and operation cannot be empty"
  let ⟨hrationale⟩ ← ensure rationale.NonBlank "rationale cannot be empty"
  let ⟨hgrounding⟩ ← ensure
    (groundingReferences ≠ [] ∧ ∀ reference ∈ groundingReferences, reference.NonBlank)
    "grounding_references cannot be empty"
  let ⟨hgroundingNodup⟩ ← ensure groundingReferences.Nodup "grounding_references must be unique"
  let ⟨hdependencies⟩ ← ensure (∀ dependency ∈ dependencies, dependency.NonBlank)
    "dependencies cannot contain empty values"
  let ⟨hpreservation⟩ ← ensure (∀ id ∈ preservationRequirementIds, id.NonBlank)
    "preservation_requirement_ids cannot contain empty values"
  let ⟨hpreservationNodup⟩ ← ensure preservationRequirementIds.Nodup
    "preservation_requirement_ids must be unique"
  let ⟨hversion⟩ ← ensure (schemaVersion = .ofString mutationIntentSchemaVersion)
    "unsupported mutation-intent schema version"
  return ⟨intentId, stepId, targetPath, operation, proposedContent, rationale,
    groundingReferences, dependencies, preservationRequirementIds, schemaVersion, hids, htarget,
    hrationale, hgrounding, hgroundingNodup, hdependencies, hpreservation, hpreservationNodup,
    hversion⟩

/-- `intent.content_bytes`; `none` stands for the `UnicodeEncodeError` of a content
    with a lone surrogate. -/
def contentBytes? (intent : MutationIntent) : Option Nat := intent.proposedContent.utf8Length

end MutationIntent

/-- A risk and its mitigation. -/
structure EngineeringRisk where
  description : PyText
  severity : RiskSeverity
  mitigation : PyText
  description_nonBlank : description.NonBlank
  mitigation_nonBlank : mitigation.NonBlank

/-- `EngineeringRisk(...)`. -/
def EngineeringRisk.new (description : PyText) (severity : RiskSeverity)
    (mitigation : PyText) : Except String EngineeringRisk := do
  let ⟨hdescription⟩ ← ensure description.NonBlank "risk description cannot be empty"
  let ⟨hmitigation⟩ ← ensure mitigation.NonBlank "risk mitigation cannot be empty"
  return ⟨description, severity, mitigation, hdescription, hmitigation⟩

/-- A validated advisory decision. -/
structure EngineeringDecision where
  interpretedGoal : PyText
  assumptions : List PyText
  proposedApproach : PyText
  orderedPlan : List ProposedPlanStep
  requiredCapabilities : List PyText
  risks : List EngineeringRisk
  confidence : PyFloat
  groundingReferences : List PyText
  mutationIntents : List MutationIntent
  schemaVersion : PyText
  interpretedGoal_nonBlank : interpretedGoal.NonBlank
  proposedApproach_nonBlank : proposedApproach.NonBlank
  orderedPlan_nonempty : orderedPlan ≠ []
  requiredCapabilities_nonempty : requiredCapabilities ≠ []
  risks_nonempty : risks ≠ []
  confidence_unit : inUnitInterval confidence = true
  groundingReferences_nonBlank : ∀ reference ∈ groundingReferences, reference.NonBlank
  groundingReferences_nodup : groundingReferences.Nodup
  intentIds_nodup : (mutationIntents.map (·.intentId)).Nodup
  schemaVersion_supported : schemaVersion = .ofString engineeringDecisionSchemaVersion

/-- `EngineeringDecision(...)`. -/
def EngineeringDecision.new (interpretedGoal : PyText) (assumptions : List PyText)
    (proposedApproach : PyText) (orderedPlan : List ProposedPlanStep)
    (requiredCapabilities : List PyText) (risks : List EngineeringRisk) (confidence : PyFloat)
    (groundingReferences : List PyText) (mutationIntents : List MutationIntent)
    (schemaVersion : PyText) : Except String EngineeringDecision := do
  let ⟨hgoal⟩ ← ensure interpretedGoal.NonBlank "interpreted_goal cannot be empty"
  let ⟨happroach⟩ ← ensure proposedApproach.NonBlank "proposed_approach cannot be empty"
  let ⟨hplan⟩ ← ensure (orderedPlan.isEmpty = false) "ordered_plan cannot be empty"
  let ⟨hrequired⟩ ← ensure (requiredCapabilities ≠ []) "required_capabilities cannot be empty"
  let ⟨hrisks⟩ ← ensure (risks.isEmpty = false) "risks cannot be empty"
  let ⟨hconfidence⟩ ← ensure (inUnitInterval confidence = true)
    "confidence must be between 0.0 and 1.0"
  let ⟨hgrounding⟩ ← ensure (∀ reference ∈ groundingReferences, reference.NonBlank)
    "grounding_references cannot contain empty values"
  let ⟨hgroundingNodup⟩ ← ensure groundingReferences.Nodup "grounding_references must be unique"
  let ⟨hintents⟩ ← ensure (mutationIntents.map (·.intentId)).Nodup
    "mutation intent IDs must be unique"
  let ⟨hversion⟩ ← ensure (schemaVersion = .ofString engineeringDecisionSchemaVersion)
    "unsupported engineering-decision schema version"
  return ⟨interpretedGoal, assumptions, proposedApproach, orderedPlan, requiredCapabilities,
    risks, confidence, groundingReferences, mutationIntents, schemaVersion, hgoal, happroach,
    List.isEmpty_eq_false_iff.mp hplan, hrequired, List.isEmpty_eq_false_iff.mp hrisks,
    hconfidence, hgrounding, hgroundingNodup, hintents, hversion⟩

end Eag.Gateway
