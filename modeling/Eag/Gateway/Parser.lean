/-
  Eag.Gateway.Parser

  The strict parser of provider responses
  (`chief/intelligence/gateway/validator.py`, `parse_engineering_decision`).

  The readers of the nested parts fail with a `SchemaError` and with nothing else,
  which their type says. What else the parser can raise comes from the decoder and
  from the conversion of the confidence to a float (`ParseError`).
-/

import Eag.Gateway.Decisions

namespace Eag.Gateway

open Eag.Foundation

/-! ## Errors -/

/-- The text of a `SchemaValidationError`; the message about the fields of an object
    is kept as its parts. -/
inductive SchemaError where
  | text (message : String)
  | fields (name : String) (missing unknown : List PyText)
  deriving DecidableEq, Repr

/-- What `parse_engineering_decision` raises. -/
inductive ParseError where
  /-- A `SchemaValidationError`. -/
  | schema (error : SchemaError)
  /-- An error of the decoder other than `JSONDecodeError`. -/
  | decoder (error : LoadsError)
  /-- The `OverflowError` of `float`. -/
  | overflow
  deriving DecidableEq, Repr

/-- The `ValueError` of a constructor, raised again as a schema error. -/
def constructed {α : Type} (x : Except String α) : Except SchemaError α :=
  x.mapError .text

/-! ## Fields -/

/-- `_DECISION_FIELDS`. -/
def decisionFields : List String :=
  ["interpreted_goal", "assumptions", "proposed_approach", "ordered_plan",
   "required_capabilities", "risks", "confidence", "grounding_references", "schema_version",
   "mutation_intents"]

/-- `_STEP_FIELDS`. -/
def stepFields : List String :=
  ["step_id", "title", "capability_id", "dependencies", "parameters", "expected_evidence"]

/-- `_RISK_FIELDS`. -/
def riskFields : List String := ["description", "severity", "mitigation"]

/-- `_MUTATION_INTENT_FIELDS`. -/
def mutationIntentFields : List String :=
  ["intent_id", "step_id", "target_path", "operation", "proposed_content", "rationale",
   "grounding_references", "dependencies", "preservation_requirement_ids", "schema_version"]

/-- `_require_fields`. -/
def requireFields (value : PyEntries) (required allowed : List String) (name : String) :
    Except SchemaError Unit :=
  let missing := (required.map PyText.ofString).filter (· ∉ value.keys)
  let unknown := value.keys.filter (· ∉ allowed.map PyText.ofString)
  require (missing = [] ∧ unknown = [])
    (.fields name (PyText.sorted missing) (PyText.sorted unknown))

/-- `_require_exact_fields`. -/
def requireExactFields (value : PyEntries) (expected : List String) (name : String) :
    Except SchemaError Unit :=
  requireFields value expected expected name

/-- `value[key]`, whose `KeyError` becomes a schema error. -/
def item (value : PyEntries) (key : String) : Except SchemaError PyValue :=
  match value.get? (.ofString key) with
  | some found => .ok found
  | none => .error (.text ("'" ++ key ++ "'"))

/-- `_as_list`. -/
def asList (value : PyValue) (fieldName : String) : Except SchemaError (List PyValue) :=
  match value with
  | .list items => .ok items.toList
  | _ => .error (.text (fieldName ++ " must be an array"))

/-- `_as_string`. -/
def asString (value : PyValue) (fieldName : String) : Except SchemaError PyText :=
  match value with
  | .str text =>
      if text.NonBlank then .ok text
      else .error (.text (fieldName ++ " must be a non-empty string"))
  | _ => .error (.text (fieldName ++ " must be a non-empty string"))

/-- A string field. -/
def stringItem (value : PyEntries) (key fieldName : String) : Except SchemaError PyText := do
  asString (← item value key) fieldName

/-- A field with an array of strings. -/
def stringsItem (value : PyEntries) (key listName itemName : String) :
    Except SchemaError (List PyText) := do
  (← asList (← item value key) listName).mapM (asString · itemName)

/-! ## Parts of a decision -/

/-- `_parse_step`. -/
def parseStep : PyValue → Except SchemaError ProposedPlanStep
  | .dict value => do
      requireFields value (stepFields.filter (· ≠ "parameters")) stepFields "proposed plan step"
      let parameters ←
        match value.get? (.ofString "parameters") with
        | none => .ok .nil
        | some (.dict parameters) => .ok parameters
        | some _ => .error (.text "step parameters must be a JSON object")
      let stepId ← stringItem value "step_id" "step_id"
      let title ← stringItem value "title" "title"
      let capabilityId ← stringItem value "capability_id" "capability_id"
      let dependencies ← stringsItem value "dependencies" "dependencies" "dependency"
      let expectedEvidence ←
        stringsItem value "expected_evidence" "expected_evidence" "expected evidence"
      constructed
        (ProposedPlanStep.new stepId title capabilityId dependencies parameters expectedEvidence)
  | _ => .error (.text "ordered_plan items must be JSON objects")

/-- `_parse_mutation_intent`. -/
def parseMutationIntent : PyValue → Except SchemaError MutationIntent
  | .dict value => do
      requireExactFields value mutationIntentFields "mutation intent"
      let intentId ← stringItem value "intent_id" "mutation intent id"
      let stepId ← stringItem value "step_id" "mutation intent step id"
      let targetPath ← stringItem value "target_path" "mutation intent target path"
      let operation ← stringItem value "operation" "mutation intent operation"
      let proposedContent ←
        stringItem value "proposed_content" "mutation intent proposed content"
      let rationale ← stringItem value "rationale" "mutation intent rationale"
      let groundingReferences ← stringsItem value "grounding_references"
        "mutation intent grounding references" "mutation intent grounding reference"
      let dependencies ← stringsItem value "dependencies" "mutation intent dependencies"
        "mutation intent dependency"
      let preservationRequirementIds ← stringsItem value "preservation_requirement_ids"
        "mutation intent preservation requirements" "mutation intent preservation requirement"
      let schemaVersion ← stringItem value "schema_version" "mutation intent schema version"
      constructed (MutationIntent.new intentId stepId targetPath operation proposedContent
        rationale groundingReferences dependencies preservationRequirementIds schemaVersion)
  | _ => .error (.text "mutation intent must be a JSON object")

/-- `_parse_risk`. The handler around the severity also catches the error of a severity
    that is no string. -/
def parseRisk : PyValue → Except SchemaError EngineeringRisk
  | .dict value => do
      requireExactFields value riskFields "risk"
      let severity ←
        match asString (← item value "severity") "risk severity" with
        | .error _ => .error (.text "risk severity is invalid")
        | .ok text =>
            match RiskSeverity.ofValue? text with
            | none => .error (.text "risk severity is invalid")
            | some severity => .ok severity
      let description ← stringItem value "description" "risk description"
      let mitigation ← stringItem value "mitigation" "risk mitigation"
      constructed (EngineeringRisk.new description severity mitigation)
  | _ => .error (.text "risk items must be JSON objects")

/-! ## The decision -/

/-- A confidence before its conversion. -/
inductive Confidence where
  | int (n : Int)
  | float (x : PyFloat)

/-- The numeric check of the confidence; a `bool` is no number here. -/
def asConfidence : PyValue → Except SchemaError Confidence
  | .int n => .ok (.int n)
  | .float x => .ok (.float x)
  | _ => .error (.text "confidence must be a numeric value")

/-- `float(confidence)`; `none` stands for its `OverflowError`. -/
def Confidence.toFloat? : Confidence → Option PyFloat
  | .int n => floatOfInt? n
  | .float x => some x

/-- The array of a key that may be missing. -/
def optionalList (value : PyEntries) (key : String) : Except SchemaError (List PyValue) :=
  asList ((value.get? (.ofString key)).getD (.list .nil)) key

/-- What the parser has read when it calls the constructor, up to the conversion of the
    confidence. -/
structure DecisionParts where
  orderedPlan : List ProposedPlanStep
  risks : List EngineeringRisk
  mutationIntents : List MutationIntent
  assumptions : List PyText
  requiredCapabilities : List PyText
  groundingReferences : List PyText
  confidence : Confidence
  interpretedGoal : PyText
  proposedApproach : PyText

/-- The readers before the conversion of the confidence, in their order. -/
def readParts (payload : PyEntries) : Except SchemaError DecisionParts := do
  requireFields payload
    (decisionFields.filter fun f => f ≠ "grounding_references" ∧ f ≠ "mutation_intents")
    decisionFields "decision"
  let steps ← (← asList (← item payload "ordered_plan") "ordered_plan").mapM parseStep
  let risks ← (← asList (← item payload "risks") "risks").mapM parseRisk
  let mutationIntents ← (← optionalList payload "mutation_intents").mapM parseMutationIntent
  let assumptions ← stringsItem payload "assumptions" "assumptions" "assumptions item"
  let requiredCapabilities ← stringsItem payload "required_capabilities"
    "required_capabilities" "required_capabilities item"
  let groundingReferences ← (← optionalList payload "grounding_references").mapM
    (asString · "grounding_references item")
  let confidence ← asConfidence (← item payload "confidence")
  let interpretedGoal ← stringItem payload "interpreted_goal" "interpreted_goal"
  let proposedApproach ← stringItem payload "proposed_approach" "proposed_approach"
  return ⟨steps, risks, mutationIntents, assumptions, requiredCapabilities,
    groundingReferences, confidence, interpretedGoal, proposedApproach⟩

/-- The rest: the schema version and the constructor. -/
def buildDecision (payload : PyEntries) (parts : DecisionParts) (confidence : PyFloat) :
    Except SchemaError EngineeringDecision := do
  let schemaVersion ← stringItem payload "schema_version" "schema_version"
  constructed (EngineeringDecision.new parts.interpretedGoal parts.assumptions
    parts.proposedApproach parts.orderedPlan parts.requiredCapabilities parts.risks confidence
    parts.groundingReferences parts.mutationIntents schemaVersion)

/-- The parser after the decoder. -/
def parsePayload : PyValue → Except ParseError EngineeringDecision
  | .dict payload =>
      match readParts payload with
      | .error error => .error (.schema error)
      | .ok parts =>
          match parts.confidence.toFloat? with
          | none => .error .overflow
          | some confidence => (buildDecision payload parts confidence).mapError .schema
  | _ => .error (.schema (.text "decision response must be a JSON object"))

/-- `parse_engineering_decision`, with a decoder that enters at most `limit` nested
    containers. -/
def parseEngineeringDecision (limit : Nat) (content : PyText) :
    Except ParseError EngineeringDecision :=
  match loads limit content with
  | .error .decode => .error (.schema (.text "provider response is not valid JSON"))
  | .error error => .error (.decoder error)
  | .ok payload => parsePayload payload

end Eag.Gateway
