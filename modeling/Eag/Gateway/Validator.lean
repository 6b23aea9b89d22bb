/-
  Eag.Gateway.Validator

  The deterministic policy on decisions
  (`chief/intelligence/gateway/validator.py`, `validate_decision_policy`).

  Two things can leave it besides a `PolicyValidationError`: the check of nested step
  parameters calls itself once for every level, so it can use up the stack, and the
  size of a proposed content is the length of an encoding that can fail.
-/

import Eag.Gateway.Decisions

namespace Eag.Gateway

open Eag.Foundation

/-! ## Violations -/

/-- Content-safe policy rejection categories. -/
inductive PolicyViolationCode where
  | decisionSchemaVersionUnaccepted
  | requiredCapabilityOutsideAllowlist
  | duplicateStepId
  | stepCapabilityOutsideAllowlist
  | dependencyNotEarlierStep
  | executableParameterForbidden
  | requiredCapabilitiesMismatch
  | groundingReferencesRequired
  | groundingReferenceUnknown
  | mutationIntentCapabilityMismatch
  | mutationIntentCountInvalid
  | mutationIntentStepUnknown
  | mutationIntentStepDependenciesForbidden
  | mutationIntentOperationUnsupported
  | mutationIntentTargetInvalid
  | mutationIntentContentTooLarge
  | mutationIntentGroundingUnknown
  | mutationIntentPreservationBindingInvalid
  | mutationIntentPreservationBindingMissing
  deriving DecidableEq, Repr

/-- Structured metadata of a policy rejection. -/
structure PolicyViolation where
  code : PolicyViolationCode
  stage : String := "policy_validation"
  message : String
  stepId : Option PyText := none
  dependencyStepId : Option PyText := none
  stepIndex : Option Nat := none
  dependencyIndex : Option Nat := none
  contractVersion : String := "1.0"
  schemaVersion : Option PyText
  deriving DecidableEq, Repr

/-- What `validate_decision_policy` raises. -/
inductive PolicyFailure where
  /-- A `PolicyValidationError`. -/
  | violation (violation : PolicyViolation)
  /-- A `RecursionError`. -/
  | recursion
  /-- The `UnicodeEncodeError` of a content with a lone surrogate. -/
  | encode
  deriving DecidableEq, Repr

/-- `_policy_error`. -/
def policyError (decision : EngineeringDecision) (code : PolicyViolationCode)
    (message : String) (stepId : Option PyText) (stepIndex : Option Nat) :
    PolicyFailure :=
  .violation { code, message, stepId, stepIndex, schemaVersion := some decision.schemaVersion }

/-! ## Parameters -/

/-- `_FORBIDDEN_PARAMETER_KEYS`. -/
def forbiddenParameterKeys : List String :=
  ["command", "shell", "code", "script", "tool_call", "tool_calls"]

/-- `key.lower() in _FORBIDDEN_PARAMETER_KEYS`. Lowering a letter outside ASCII gives none
    of the letters of these words. -/
def isForbiddenKey (key : PyText) : Bool :=
  decide (key.asciiLower ∈ forbiddenParameterKeys.map PyText.ofString)

section Parameters

variable (failure : PolicyFailure) (nested : PyEntries → Except PolicyFailure Unit)

/-- The objects among the items of an array. -/
def validateItems : PyItems → Except PolicyFailure Unit
  | .nil => .ok ()
  | .cons (.dict inner) rest => do
      nested inner
      validateItems rest
  | .cons _ rest => validateItems rest

/-- The loop of `_validate_parameters`, where `nested` checks the objects inside. -/
def validateEntries : PyEntries → Except PolicyFailure Unit
  | .nil => .ok ()
  | .cons key value rest => do
      require (isForbiddenKey key = false) failure
      match value with
      | .dict inner => nested inner
      | .list items => validateItems nested items
      | _ => .ok ()
      validateEntries rest

end Parameters

/-- `_validate_parameters`, with a stack that has room for `frames` nested calls. -/
def validateParameters (failure : PolicyFailure) : Nat → PyEntries → Except PolicyFailure Unit
  | 0, _ => .error .recursion
  | frames + 1, entries => validateEntries failure (validateParameters failure frames) entries

/-! ## The plan -/

/-- The sets the plan loop builds. -/
structure PlanState where
  stepIds : List PyText
  seenBefore : List PyText
  stepCapabilities : List PyText

/-- The loop's state before the first step. -/
def PlanState.empty : PlanState := ⟨[], [], []⟩

/-- The state after a step. -/
def PlanState.add (s : PlanState) (step : ProposedPlanStep) : PlanState :=
  ⟨step.stepId :: s.stepIds, step.stepId :: s.seenBefore,
    step.capabilityId :: s.stepCapabilities⟩

section

variable (decision : EngineeringDecision) (request : EngineeringDecisionRequest)

/-- `set(request.allowed_capability_ids)`. -/
def allowedCapabilities : List PyText := request.allowedCapabilityIds.map .ofString

/-- The checks of one step before its parameters. -/
def validateStep (s : PlanState) (index : Nat) (step : ProposedPlanStep) :
    Except PolicyFailure Unit := do
  require (step.stepId ∉ s.stepIds)
    (policyError decision .duplicateStepId "decision contains duplicate plan step IDs"
      step.stepId index)
  require (step.capabilityId ∈ allowedCapabilities request)
    (policyError decision .stepCapabilityOutsideAllowlist
      "decision proposes a capability outside the allowlist" step.stepId index)
  match step.dependencies.find? (· ∉ s.seenBefore) with
  | none => .ok ()
  | some dependency =>
      .error (.violation {
        code := .dependencyNotEarlierStep
        message := "plan dependency must reference an earlier proposed step"
        stepId := step.stepId
        dependencyStepId := dependency
        stepIndex := index
        dependencyIndex := decision.orderedPlan.findIdx? (·.stepId = dependency)
        schemaVersion := some decision.schemaVersion })

/-- What a step with a forbidden parameter raises. -/
def parameterFailure (step : ProposedPlanStep) (index : Nat) : PolicyFailure :=
  policyError decision .executableParameterForbidden
    "proposed step contains executable parameter semantics" step.stepId index

/-- The loop over the plan. -/
def validatePlan (stack : Nat) :
    PlanState → Nat → List ProposedPlanStep → Except PolicyFailure PlanState
  | s, _, [] => .ok s
  | s, index, step :: rest => do
      validateStep decision request s index step
      validateParameters (parameterFailure decision step index) stack step.parameters
      validatePlan stack (s.add step) (index + 1) rest

/-- The checks before the plan. -/
def validateHeader : Except PolicyFailure Unit := do
  require (decision.schemaVersion = .ofString engineeringDecisionSchemaVersion)
    (policyError decision .decisionSchemaVersionUnaccepted
      "decision schema version is not accepted" none none)
  require (∀ id ∈ decision.requiredCapabilities, id ∈ allowedCapabilities request)
    (policyError decision .requiredCapabilityOutsideAllowlist
      "decision requires a capability outside the allowlist" none none)

/-- `set(request.context.provenance)`. -/
def knownProvenance : List PyText := request.context.provenance.map fun entry => .ofString entry.1

/-- The checks between the plan and the mutation intents. -/
def validateGrounding (s : PlanState) : Except PolicyFailure Unit := do
  require ((∀ id ∈ s.stepCapabilities, id ∈ decision.requiredCapabilities) ∧
      ∀ id ∈ decision.requiredCapabilities, id ∈ s.stepCapabilities)
    (policyError decision .requiredCapabilitiesMismatch
      "required capabilities must exactly match proposed step capabilities" none none)
  require (request.context.truncationMetadata.lookup "snapshot_fingerprint" = none ∨
      decision.groundingReferences ≠ [])
    (policyError decision .groundingReferencesRequired
      "repository-aware decision requires grounding references" none none)
  require (∀ reference ∈ decision.groundingReferences, reference ∈ knownProvenance request)
    (policyError decision .groundingReferenceUnknown
      "decision grounding reference is absent from supplied context provenance" none none)

/-! ## Mutation intents -/

/-- `steps.get(step_id)` in the dict of the plan's steps: the last step of that id. -/
def stepOf? (stepId : PyText) : Option ProposedPlanStep :=
  decision.orderedPlan.reverse.find? (·.stepId = stepId)

/-- The paths both boundaries refuse: absolute, empty, with a parent name, a NUL or a
    backslash. -/
def isUnsafeRelativePath (raw : PyText) : Bool :=
  raw.posixIsAbsolute || raw.posixParts.isEmpty ||
    raw.posixParts.any (fun part => part = [] ∨ part = .ofString "." ∨ part = .ofString "..") ||
    raw.contains (.scalar '\x00') ||
    raw.posixParts.any (fun part => part.contains (.scalar '\\'))

/-- `_validate_mutation_target`. -/
def validateMutationTarget (intent : MutationIntent) : Except PolicyFailure Unit :=
  require (isUnsafeRelativePath intent.targetPath = false)
    (policyError decision .mutationIntentTargetInvalid
      "mutation intent target path is invalid" intent.stepId none)

/-- The ids of the preservation requirements. -/
def requirementIds (requirements : List PreservationRequirement) : List PyText :=
  requirements.map fun r => .ofString r.requirementId

/-- `_validate_preservation_bindings`. -/
def validatePreservationBindings (intent : MutationIntent) (policy : MutationIntentPolicy) :
    Except PolicyFailure Unit := do
  let required := requirementIds policy.preservationRequirements
  require (∀ id ∈ intent.preservationRequirementIds, id ∈ required)
    (policyError decision .mutationIntentPreservationBindingInvalid
      "mutation intent declares an unknown preservation requirement" intent.stepId none)
  require (∀ id ∈ required, id ∈ intent.preservationRequirementIds)
    (policyError decision .mutationIntentPreservationBindingMissing
      "mutation intent must declare every configured preservation requirement" intent.stepId none)

/-- The checks of the one mutation intent up to its bindings. -/
def validateIntentBindings (policy : MutationIntentPolicy) (intent : MutationIntent) :
    Except PolicyFailure Unit := do
  match stepOf? decision intent.stepId with
  | none =>
      .error (policyError decision .mutationIntentStepUnknown
        "mutation intent must reference an existing proposed step" intent.stepId none)
  | some step =>
      require (step.capabilityId = .ofString policy.capabilityId)
        (policyError decision .mutationIntentCapabilityMismatch
          "mutation intent step must use the configured mutation capability" intent.stepId none)
      require (step.dependencies = [] ∧ intent.dependencies = [])
        (policyError decision .mutationIntentStepDependenciesForbidden
          "mutation intent dependencies are not supported in the first slice" intent.stepId none)
  require (intent.operation ∈ policy.allowedOperations.map PyText.ofString)
    (policyError decision .mutationIntentOperationUnsupported
      "mutation intent operation is not allowed" intent.stepId none)
  validateMutationTarget decision intent
  validatePreservationBindings decision intent policy

/-- The checks after the size of the content is known. -/
def validateIntentContent (policy : MutationIntentPolicy) (intent : MutationIntent)
    (bytes : Nat) : Except PolicyFailure Unit := do
  require (bytes ≤ policy.maxContentBytes)
    (policyError decision .mutationIntentContentTooLarge
      "mutation intent proposed content exceeds the configured limit" intent.stepId none)
  require (∀ reference ∈ intent.groundingReferences, reference ∈ knownProvenance request)
    (policyError decision .mutationIntentGroundingUnknown
      "mutation intent grounding reference is absent from supplied context provenance"
      intent.stepId none)

/-- `_validate_mutation_intents`. -/
def validateMutationIntents : Except PolicyFailure Unit :=
  match request.mutationIntentPolicy with
  | none =>
      require (decision.mutationIntents.isEmpty = true)
        (policyError decision .mutationIntentCapabilityMismatch
          "mutation intent mode is not enabled for this request" none none)
  | some policy =>
      match decision.mutationIntents with
      | [intent] => do
          validateIntentBindings decision policy intent
          match intent.contentBytes? with
          | none => .error .encode
          | some bytes => validateIntentContent decision request policy intent bytes
      | _ =>
          .error (policyError decision .mutationIntentCountInvalid
            "mutation intent mode requires exactly one mutation intent" none none)

/-- `validate_decision_policy`, with a stack that has room for `stack` nested calls. -/
def validateDecisionPolicy (stack : Nat) : Except PolicyFailure Unit := do
  validateHeader decision request
  let s ← validatePlan decision request stack .empty 0 decision.orderedPlan
  validateGrounding decision request s
  validateMutationIntents decision request

end

end Eag.Gateway
