/-
  Eag.Gateway.Runtime

  `GatewayRuntime.decide`: one governed request from model selection to a result
  (`chief/intelligence/gateway/runtime.py`). Model selection and provider execution
  are collaborators that answer or fail. The published events and the rendered
  prompt are left out; nothing in them is read back.
-/

import Eag.Gateway.Parser
import Eag.Gateway.Validator

namespace Eag.Gateway

open Eag.Foundation

/-! ## Results -/

/-- Categories of expected gateway failures that `decide` uses. -/
inductive GatewayErrorKind where
  | routingUnavailable
  | providerTimeout
  | providerTransientFailure
  | schemaInvalid
  | policyRejected
  | budgetExceeded
  | allAttemptsFailed
  deriving DecidableEq, Repr

/-- A provider-neutral failure. -/
structure GatewayError where
  kind : GatewayErrorKind
  message : String
  retryable : Bool
  providerId : Option String
  modelId : Option String
  attempts : Int
  traceId : String
  deriving DecidableEq, Repr

/-- The provider and the model that were selected. -/
structure SelectionDecision where
  providerId : String
  modelId : String
  deriving DecidableEq, Repr

/-- Redacted usage and cost. -/
structure GatewayUsage where
  promptTokens : Int
  completionTokens : Int
  totalTokens : Int
  estimatedCost : FloatText
  durationMs : FloatText

/-- A redacted summary of the attempts. -/
structure GatewayTrace where
  traceId : String
  requestId : String
  attempts : Int
  fallbackUsed : Bool
  eventTypes : List String

/-- A validated decision or a safe failure. -/
structure EngineeringDecisionResult where
  success : Bool
  trace : GatewayTrace
  decision : Option EngineeringDecision
  error : Option GatewayError
  selection : Option SelectionDecision
  usage : Option GatewayUsage
  policyViolation : Option PolicyViolation
  success_decision : success = true → decision.isSome = true
  success_error : success = true → error = none
  failure_error : success = false → error.isSome = true
  success_violation : success = true → policyViolation = none

/-! ## Collaborators -/

/-- What a provider execution returns. -/
structure ExecutionResult where
  success : Bool
  content : PyText
  usage : GatewayUsage
  modelId : String
  isSuccessState : Bool
  eventTypes : List String
  error : Option String
  attempts : Int
  fallbackUsed : Bool

/-- The collaborators of the gateway and the interpreter's limits: how many nested
    containers the decoder enters, and how many nested calls of the parameter check the
    stack has room for. -/
structure GatewayRuntime where
  select : EngineeringDecisionRequest → Except String SelectionDecision
  execute : EngineeringDecisionRequest → SelectionDecision → Except String ExecutionResult
  /-- `estimated_cost > max_estimated_cost`, a comparison of floats. -/
  costExceeds : FloatText → Cost → Bool
  decoderLimit : Nat
  stack : Nat

/-- What leaves `decide` in place of a result. -/
inductive Escaped where
  | parse (error : ParseError)
  | policy (failure : PolicyFailure)
  deriving DecidableEq, Repr

/-! ## The runtime -/

/-- `_trace_id`. -/
def traceIdOf (requestId : String) : String := "gateway-" ++ requestId

/-- `"timeout" in text.lower()`. -/
def mentionsTimeout (text : String) : Bool :=
  decide ("timeout".toList <:+: text.toList.map Char.toLower)

/-- `_classify_provider_error`. -/
def classifyProviderError (error : String) : GatewayErrorKind :=
  if mentionsTimeout error then .providerTimeout else .providerTransientFailure

/-- `_classify_execution_failure`. -/
def classifyExecutionFailure : Option String → GatewayErrorKind
  | none => .allAttemptsFailed
  | some error => if mentionsTimeout error then .providerTimeout else .allAttemptsFailed

section

variable (gateway : GatewayRuntime) (request : EngineeringDecisionRequest)

/-- `_failure`. -/
def failure (kind : GatewayErrorKind) (message : String)
    (selection : Option SelectionDecision) (usage : Option GatewayUsage)
    (trace : Option GatewayTrace) (policyViolation : Option PolicyViolation) :
    EngineeringDecisionResult :=
  let failureTrace := trace.getD ⟨traceIdOf request.requestId, request.requestId, 0, false, []⟩
  { success := false
    trace := failureTrace
    decision := none
    error := some {
      kind
      message
      retryable := decide (kind = .providerTimeout ∨ kind = .providerTransientFailure)
      providerId := selection.map (·.providerId)
      modelId := selection.map (·.modelId)
      attempts := failureTrace.attempts
      traceId := traceIdOf request.requestId }
    selection
    usage
    policyViolation
    success_decision := nofun
    success_error := nofun
    failure_error := fun _ => rfl
    success_violation := nofun }

/-- A successful result. -/
def accepted (decision : EngineeringDecision) (selection : SelectionDecision)
    (usage : GatewayUsage) (trace : GatewayTrace) : EngineeringDecisionResult :=
  { success := true
    trace
    decision := some decision
    error := none
    selection := some selection
    usage := some usage
    policyViolation := none
    success_decision := fun _ => rfl
    success_error := fun _ => rfl
    failure_error := nofun
    success_violation := fun _ => rfl }

/-- The end of `decide`: the parser and the policy on the content of the provider. -/
def GatewayRuntime.decideContent (content : PyText) (selection : SelectionDecision) (usage : GatewayUsage)
    (trace : GatewayTrace) : Except Escaped EngineeringDecisionResult :=
  match parseEngineeringDecision gateway.decoderLimit content with
  | .error (.schema _) =>
      .ok (failure request .schemaInvalid
        "Provider response did not satisfy the engineering-decision schema."
        selection usage trace none)
  | .error error => .error (.parse error)
  | .ok decision =>
      match validateDecisionPolicy decision request gateway.stack with
      | .error (.violation violation) =>
          .ok (failure request .policyRejected
            "Validated provider response was rejected by deterministic decision policy."
            selection usage trace violation)
      | .error error => .error (.policy error)
      | .ok () => .ok (accepted decision selection usage trace)

/-- `GatewayRuntime.decide`. -/
def GatewayRuntime.decide : Except Escaped EngineeringDecisionResult :=
  match gateway.select request with
  | .error _ =>
      .ok (failure request .routingUnavailable
        "No compatible routed model is available for a governed structured decision."
        none none none none)
  | .ok selection =>
      match gateway.execute request selection with
      | .error error =>
          .ok (failure request (classifyProviderError error)
            "Provider execution could not produce a governed decision."
            selection none none none)
      | .ok execution =>
          let usage := execution.usage
          let trace : GatewayTrace :=
            { traceId := traceIdOf request.requestId
              requestId := request.requestId
              attempts := max execution.attempts 1
              fallbackUsed := execution.fallbackUsed || execution.modelId ≠ selection.modelId
              eventTypes := execution.eventTypes }
          if execution.success = false ∨ execution.isSuccessState = false then
            .ok (failure request (classifyExecutionFailure execution.error)
              "Provider execution did not return a successful governed response."
              selection usage trace none)
          else if request.policy.maxTotalTokens < usage.totalTokens then
            .ok (failure request .budgetExceeded "Gateway token budget was exceeded."
              selection usage trace none)
          else if gateway.costExceeds usage.estimatedCost request.policy.maxEstimatedCost then
            .ok (failure request .budgetExceeded "Gateway estimated-cost budget was exceeded."
              selection usage trace none)
          else gateway.decideContent request execution.content selection usage trace

end

end Eag.Gateway
