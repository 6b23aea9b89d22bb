/-
  Eag.Gateway.Readers

  What the readers of the strict parser accept, one lemma for each: a reader succeeds
  exactly when its object has the fields it asks for, with the values that the part it
  returns has (`parseStep_eq_ok`, `parseRisk_eq_ok`, `parseMutationIntent_eq_ok` and
  `parsePayload_eq_ok`).
-/

import Mathlib.Data.Fintype.Basic
import Eag.Foundation.JsonObjects
import Eag.Gateway.Parser

namespace Eag.Gateway

open Eag.Foundation

/-! ## Fields -/

/-- The object has every required field and no other than the allowed ones. -/
def HasFields (value : PyEntries) (required allowed : List String) : Prop :=
  (∀ field ∈ required, PyText.ofString field ∈ value.keys) ∧
    ∀ key ∈ value.keys, key ∈ allowed.map PyText.ofString

/-- The array of a field is these texts, none of them blank. -/
def ReadsTexts (value : PyEntries) (key : String) (texts : List PyText) : Prop :=
  ∃ items, value.get? (.ofString key) = some (.list items) ∧ items.toList = texts.map .str ∧
    ∀ text ∈ texts, text.NonBlank

section Fields

variable {value : PyEntries} {key name listName itemName : String}

theorem requireFields_eq_ok {required allowed : List String} {u : Unit} :
    requireFields value required allowed name = .ok u ↔ HasFields value required allowed := by
  unfold requireFields HasFields
  simp only [require_eq_ok, List.filter_eq_nil_iff, List.forall_mem_map, decide_not,
    Bool.not_eq_true', decide_eq_false_iff_not, not_not]

theorem item_eq_ok {found : PyValue} :
    item value key = .ok found ↔ value.get? (.ofString key) = some found := by
  unfold item
  cases value.get? (.ofString key) <;> simp

theorem asList_eq_ok {v : PyValue} {list : List PyValue} :
    asList v name = .ok list ↔ ∃ items, v = .list items ∧ items.toList = list := by
  unfold asList
  cases v <;> simp

theorem asString_eq_ok {v : PyValue} {text : PyText} :
    asString v name = .ok text ↔ v = .str text ∧ text.NonBlank := by
  unfold asString
  cases v with
  | str s =>
      by_cases hs : s.NonBlank
      · simp only [if_pos hs, Except.ok.injEq, PyValue.str.injEq]
        constructor
        · rintro rfl
          exact ⟨rfl, hs⟩
        · exact And.left
      · simp only [if_neg hs, reduceCtorEq, PyValue.str.injEq, false_iff, not_and]
        rintro rfl
        exact hs
  | _ => simp

theorem stringItem_eq_ok {text : PyText} :
    stringItem value key name = .ok text ↔
      value.get? (.ofString key) = some (.str text) ∧ text.NonBlank := by
  simp [stringItem, item_eq_ok, asString_eq_ok]

theorem mapM_asString_eq_ok {items : List PyValue} {texts : List PyText} :
    items.mapM (asString · itemName) = .ok texts ↔
      items = texts.map .str ∧ ∀ text ∈ texts, text.NonBlank := by
  rw [mapM_eq_ok_forall₂]
  induction items generalizing texts with
  | nil => cases texts <;> simp
  | cons first rest ih =>
      cases texts with
      | nil => simp
      | cons text others =>
          rw [List.forall₂_cons, ih, asString_eq_ok]
          simp only [List.map_cons, List.cons.injEq, List.forall_mem_cons]
          tauto

theorem stringsItem_eq_ok {texts : List PyText} :
    stringsItem value key listName itemName = .ok texts ↔ ReadsTexts value key texts := by
  unfold stringsItem ReadsTexts
  simp only [except_bind_eq_ok, item_eq_ok, asList_eq_ok, mapM_asString_eq_ok]
  constructor
  · rintro ⟨_, hget, _, ⟨items, rfl, hlist⟩, rfl, htexts⟩
    exact ⟨items, hget, hlist, htexts⟩
  · rintro ⟨items, hget, hlist, htexts⟩
    exact ⟨_, hget, _, ⟨items, rfl, hlist⟩, rfl, htexts⟩

theorem constructed_eq_ok {α : Type} {x : Except String α} {a : α} :
    constructed x = .ok a ↔ x = .ok a := by
  cases x <;> simp [constructed, Except.mapError]

end Fields

/-! ## Parts of a decision -/

theorem ProposedPlanStep.new_eq_ok {stepId title capabilityId : PyText}
    {dependencies : List PyText} {parameters : PyEntries} {expectedEvidence : List PyText}
    {step : ProposedPlanStep} :
    ProposedPlanStep.new stepId title capabilityId dependencies parameters expectedEvidence =
        .ok step ↔
      step.stepId = stepId ∧ step.title = title ∧ step.capabilityId = capabilityId ∧
        step.dependencies = dependencies ∧ step.parameters = parameters ∧
        step.expectedEvidence = expectedEvidence := by
  unfold ProposedPlanStep.new
  constructor
  · intro h
    simp only [except_bind_eq_ok, except_pure_eq_ok] at h
    obtain ⟨_, -, _, -, _, -, rfl⟩ := h
    exact ⟨rfl, rfl, rfl, rfl, rfl, rfl⟩
  · rintro ⟨rfl, rfl, rfl, rfl, rfl, rfl⟩
    simp only [ensure_of step.stepId_nonBlank, ensure_of step.title_nonBlank,
      ensure_of step.capabilityId_nonBlank, except_ok_bind]
    rfl

/-- The reader of the parameters inside `parseStep`. -/
def readParameters (value : PyEntries) : Except SchemaError PyEntries :=
  match value.get? (.ofString "parameters") with
  | none => .ok .nil
  | some (.dict parameters) => .ok parameters
  | some _ => .error (.text "step parameters must be a JSON object")

/-- The parameters of a step object: a missing key stands for the empty object. -/
def ReadsParameters (value : PyEntries) (parameters : PyEntries) : Prop :=
  (value.get? (.ofString "parameters") = none ∧ parameters = .nil) ∨
    value.get? (.ofString "parameters") = some (.dict parameters)

theorem readParameters_eq_ok {value parameters : PyEntries} :
    readParameters value = .ok parameters ↔ ReadsParameters value parameters := by
  unfold readParameters ReadsParameters
  rcases value.get? (.ofString "parameters") with - | v
  · simp [eq_comm]
  · cases v <;> simp

theorem parseStep_dict (value : PyEntries) :
    parseStep (.dict value) = (do
      requireFields value (stepFields.filter (· ≠ "parameters")) stepFields "proposed plan step"
      let parameters ← readParameters value
      let stepId ← stringItem value "step_id" "step_id"
      let title ← stringItem value "title" "title"
      let capabilityId ← stringItem value "capability_id" "capability_id"
      let dependencies ← stringsItem value "dependencies" "dependencies" "dependency"
      let expectedEvidence ←
        stringsItem value "expected_evidence" "expected_evidence" "expected evidence"
      constructed (ProposedPlanStep.new stepId title capabilityId dependencies parameters
        expectedEvidence)) := by
  unfold parseStep readParameters
  dsimp only
  rcases value.get? (.ofString "parameters") with - | v
  · rfl
  · cases v <;> rfl

/-- The object is the one a step was read from. -/
structure ReadsStep (value : PyEntries) (step : ProposedPlanStep) : Prop where
  fields : HasFields value (stepFields.filter (· ≠ "parameters")) stepFields
  parameters : ReadsParameters value step.parameters
  stepId : value.get? (.ofString "step_id") = some (.str step.stepId)
  title : value.get? (.ofString "title") = some (.str step.title)
  capabilityId : value.get? (.ofString "capability_id") = some (.str step.capabilityId)
  dependencies : ReadsTexts value "dependencies" step.dependencies
  expectedEvidence : ReadsTexts value "expected_evidence" step.expectedEvidence

/-- **A step is read from the objects that have its fields.** -/
theorem parseStep_eq_ok {v : PyValue} {step : ProposedPlanStep} :
    parseStep v = .ok step ↔ ∃ value, v = .dict value ∧ ReadsStep value step := by
  cases v with
  | dict value =>
      rw [parseStep_dict]
      simp only [except_bind_eq_ok, requireFields_eq_ok, readParameters_eq_ok,
        stringItem_eq_ok, stringsItem_eq_ok, constructed_eq_ok, ProposedPlanStep.new_eq_ok, PyValue.dict.injEq,
        exists_eq_left', exists_const]
      constructor
      · rintro ⟨hfields, _, hparams, _, ⟨hid, -⟩, _, ⟨htitle, -⟩, _, ⟨hcapability, -⟩, _, hdeps,
          _, hevidence, rfl, rfl, rfl, rfl, rfl, rfl⟩
        exact ⟨hfields, hparams, hid, htitle, hcapability, hdeps, hevidence⟩
      · intro h
        exact ⟨h.fields, _, h.parameters, _, ⟨h.stepId, step.stepId_nonBlank⟩, _,
          ⟨h.title, step.title_nonBlank⟩, _, ⟨h.capabilityId, step.capabilityId_nonBlank⟩, _,
          h.dependencies, _, h.expectedEvidence, rfl, rfl, rfl, rfl, rfl, rfl⟩
  | _ => simp [parseStep]

theorem EngineeringRisk.new_eq_ok {description mitigation : PyText} {severity : RiskSeverity}
    {risk : EngineeringRisk} :
    EngineeringRisk.new description severity mitigation = .ok risk ↔
      risk.description = description ∧ risk.severity = severity ∧
        risk.mitigation = mitigation := by
  unfold EngineeringRisk.new
  constructor
  · intro h
    simp only [except_bind_eq_ok, except_pure_eq_ok] at h
    obtain ⟨_, -, _, -, rfl⟩ := h
    exact ⟨rfl, rfl, rfl⟩
  · rintro ⟨rfl, rfl, rfl⟩
    simp only [ensure_of risk.description_nonBlank, ensure_of risk.mitigation_nonBlank,
      except_ok_bind]
    rfl

theorem RiskSeverity.ofValue?_eq_some {t : PyText} {severity : RiskSeverity} :
    RiskSeverity.ofValue? t = some severity ↔ t = .ofString severity.value := by
  constructor
  · intro h
    simpa using List.find?_some h
  · rintro rfl
    cases severity <;> decide

theorem RiskSeverity.value_nonBlank (severity : RiskSeverity) :
    (PyText.ofString severity.value).NonBlank := by
  cases severity <;> decide

/-- The reader of the severity inside `parseRisk`. -/
def readSeverity (v : PyValue) : Except SchemaError RiskSeverity :=
  match asString v "risk severity" with
  | .error _ => .error (.text "risk severity is invalid")
  | .ok text =>
      match RiskSeverity.ofValue? text with
      | none => .error (.text "risk severity is invalid")
      | some severity => .ok severity

theorem readSeverity_eq_ok {v : PyValue} {severity : RiskSeverity} :
    readSeverity v = .ok severity ↔ v = .str (.ofString severity.value) := by
  unfold readSeverity
  cases hv : asString v "risk severity" with
  | error e =>
      simp only [reduceCtorEq, false_iff]
      rintro rfl
      rw [asString_eq_ok.mpr ⟨rfl, severity.value_nonBlank⟩] at hv
      cases hv
  | ok text =>
      obtain ⟨rfl, -⟩ := asString_eq_ok.mp hv
      dsimp only
      rw [PyValue.str.injEq, ← RiskSeverity.ofValue?_eq_some]
      cases RiskSeverity.ofValue? text <;> simp

theorem parseRisk_dict (value : PyEntries) :
    parseRisk (.dict value) = (do
      requireExactFields value riskFields "risk"
      let severity ← readSeverity (← item value "severity")
      let description ← stringItem value "description" "risk description"
      let mitigation ← stringItem value "mitigation" "risk mitigation"
      constructed (EngineeringRisk.new description severity mitigation)) := by
  unfold parseRisk readSeverity
  dsimp only
  cases requireExactFields value riskFields "risk" with
  | error e => rfl
  | ok u =>
      cases item value "severity" with
      | error e => rfl
      | ok v =>
          simp only [except_ok_bind]
          cases asString v "risk severity" with
          | error e => rfl
          | ok text => cases hseverity : RiskSeverity.ofValue? text <;> simp [hseverity]

/-- The object is the one a risk was read from. -/
structure ReadsRisk (value : PyEntries) (risk : EngineeringRisk) : Prop where
  fields : HasFields value riskFields riskFields
  severity : value.get? (.ofString "severity") = some (.str (.ofString risk.severity.value))
  description : value.get? (.ofString "description") = some (.str risk.description)
  mitigation : value.get? (.ofString "mitigation") = some (.str risk.mitigation)

/-- **A risk is read from the objects that have its fields.** -/
theorem parseRisk_eq_ok {v : PyValue} {risk : EngineeringRisk} :
    parseRisk v = .ok risk ↔ ∃ value, v = .dict value ∧ ReadsRisk value risk := by
  cases v with
  | dict value =>
      rw [parseRisk_dict]
      simp only [except_bind_eq_ok, requireExactFields, requireFields_eq_ok,
        readSeverity_eq_ok, item_eq_ok, stringItem_eq_ok, constructed_eq_ok, EngineeringRisk.new_eq_ok,
        PyValue.dict.injEq, exists_eq_left', exists_const]
      constructor
      · rintro ⟨hfields, _, hget, _, rfl, _, ⟨hdescription, -⟩, _, ⟨hmitigation, -⟩, rfl, rfl, rfl⟩
        exact ⟨hfields, hget, hdescription, hmitigation⟩
      · intro h
        exact ⟨h.fields, _, h.severity, _, rfl, _, ⟨h.description, risk.description_nonBlank⟩, _,
          ⟨h.mitigation, risk.mitigation_nonBlank⟩, rfl, rfl, rfl⟩
  | _ => simp [parseRisk]

theorem MutationIntent.new_eq_ok {intentId stepId targetPath operation proposedContent
    rationale : PyText} {groundingReferences dependencies ids : List PyText}
    {schemaVersion : PyText} {intent : MutationIntent} :
    MutationIntent.new intentId stepId targetPath operation proposedContent rationale
        groundingReferences dependencies ids schemaVersion = .ok intent ↔
      intent.intentId = intentId ∧ intent.stepId = stepId ∧ intent.targetPath = targetPath ∧
        intent.operation = operation ∧ intent.proposedContent = proposedContent ∧
        intent.rationale = rationale ∧ intent.groundingReferences = groundingReferences ∧
        intent.dependencies = dependencies ∧ intent.preservationRequirementIds = ids ∧
        intent.schemaVersion = schemaVersion := by
  unfold MutationIntent.new
  constructor
  · intro h
    simp only [except_bind_eq_ok, except_pure_eq_ok] at h
    obtain ⟨_, -, _, -, _, -, _, -, _, -, _, -, _, -, _, -, _, -, rfl⟩ := h
    exact ⟨rfl, rfl, rfl, rfl, rfl, rfl, rfl, rfl, rfl, rfl⟩
  · rintro ⟨rfl, rfl, rfl, rfl, rfl, rfl, rfl, rfl, rfl, rfl⟩
    simp only [ensure_of intent.ids_nonBlank, ensure_of intent.target_nonBlank,
      ensure_of intent.rationale_nonBlank, ensure_of intent.groundingReferences_nonBlank,
      ensure_of intent.groundingReferences_nodup, ensure_of intent.dependencies_nonBlank,
      ensure_of intent.preservationRequirementIds_nonBlank,
      ensure_of intent.preservationRequirementIds_nodup,
      ensure_of intent.schemaVersion_supported, except_ok_bind]
    rfl

/-- The object is the one a mutation intent was read from. The reader refuses a blank
    content, which the constructor takes. -/
structure ReadsIntent (value : PyEntries) (intent : MutationIntent) : Prop where
  fields : HasFields value mutationIntentFields mutationIntentFields
  intentId : value.get? (.ofString "intent_id") = some (.str intent.intentId)
  stepId : value.get? (.ofString "step_id") = some (.str intent.stepId)
  targetPath : value.get? (.ofString "target_path") = some (.str intent.targetPath)
  operation : value.get? (.ofString "operation") = some (.str intent.operation)
  proposedContent : value.get? (.ofString "proposed_content") = some (.str intent.proposedContent)
  proposedContent_nonBlank : intent.proposedContent.NonBlank
  rationale : value.get? (.ofString "rationale") = some (.str intent.rationale)
  groundingReferences : ReadsTexts value "grounding_references" intent.groundingReferences
  dependencies : ReadsTexts value "dependencies" intent.dependencies
  preservationRequirementIds :
    ReadsTexts value "preservation_requirement_ids" intent.preservationRequirementIds
  schemaVersion : value.get? (.ofString "schema_version") = some (.str intent.schemaVersion)

/-- **A mutation intent is read from the objects that have its fields.** -/
theorem parseMutationIntent_eq_ok {v : PyValue} {intent : MutationIntent} :
    parseMutationIntent v = .ok intent ↔ ∃ value, v = .dict value ∧ ReadsIntent value intent := by
  cases v with
  | dict value =>
      unfold parseMutationIntent
      simp only [except_bind_eq_ok, requireExactFields, requireFields_eq_ok, stringItem_eq_ok,
        stringsItem_eq_ok, constructed_eq_ok, MutationIntent.new_eq_ok, PyValue.dict.injEq,
        exists_eq_left', exists_const]
      constructor
      · rintro ⟨hfields, _, ⟨hid, -⟩, _, ⟨hstep, -⟩, _, ⟨htarget, -⟩, _, ⟨hoperation, -⟩, _,
          ⟨hcontent, hcontentBlank⟩, _, ⟨hrationale, -⟩, _, hgrounding, _, hdeps, _, hids, _,
          ⟨hversion, -⟩, rfl, rfl, rfl, rfl, rfl, rfl, rfl, rfl, rfl, rfl⟩
        exact ⟨hfields, hid, hstep, htarget, hoperation, hcontent, hcontentBlank, hrationale,
          hgrounding, hdeps, hids, hversion⟩
      · intro h
        have hversion : intent.schemaVersion.NonBlank := by
          rw [intent.schemaVersion_supported]
          decide
        exact ⟨h.fields, _, ⟨h.intentId, intent.ids_nonBlank.1⟩, _,
          ⟨h.stepId, intent.ids_nonBlank.2⟩, _, ⟨h.targetPath, intent.target_nonBlank.1⟩, _,
          ⟨h.operation, intent.target_nonBlank.2⟩, _,
          ⟨h.proposedContent, h.proposedContent_nonBlank⟩, _,
          ⟨h.rationale, intent.rationale_nonBlank⟩, _, h.groundingReferences, _,
          h.dependencies, _, h.preservationRequirementIds, _, ⟨h.schemaVersion, hversion⟩,
          rfl, rfl, rfl, rfl, rfl, rfl, rfl, rfl, rfl, rfl⟩
  | _ => simp [parseMutationIntent]

/-! ## The decision -/

theorem EngineeringDecision.new_eq_ok {interpretedGoal proposedApproach : PyText}
    {assumptions requiredCapabilities groundingReferences : List PyText}
    {orderedPlan : List ProposedPlanStep} {risks : List EngineeringRisk} {confidence : PyFloat}
    {mutationIntents : List MutationIntent} {schemaVersion : PyText}
    {decision : EngineeringDecision} :
    EngineeringDecision.new interpretedGoal assumptions proposedApproach orderedPlan
        requiredCapabilities risks confidence groundingReferences mutationIntents schemaVersion =
        .ok decision ↔
      decision.interpretedGoal = interpretedGoal ∧ decision.assumptions = assumptions ∧
        decision.proposedApproach = proposedApproach ∧ decision.orderedPlan = orderedPlan ∧
        decision.requiredCapabilities = requiredCapabilities ∧ decision.risks = risks ∧
        decision.confidence = confidence ∧
        decision.groundingReferences = groundingReferences ∧
        decision.mutationIntents = mutationIntents ∧
        decision.schemaVersion = schemaVersion := by
  unfold EngineeringDecision.new
  constructor
  · intro h
    simp only [except_bind_eq_ok, except_pure_eq_ok] at h
    obtain ⟨_, -, _, -, _, -, _, -, _, -, _, -, _, -, _, -, _, -, _, -, rfl⟩ := h
    exact ⟨rfl, rfl, rfl, rfl, rfl, rfl, rfl, rfl, rfl, rfl⟩
  · rintro ⟨rfl, rfl, rfl, rfl, rfl, rfl, rfl, rfl, rfl, rfl⟩
    have hplan := List.isEmpty_eq_false_iff.mpr decision.orderedPlan_nonempty
    have hrisks := List.isEmpty_eq_false_iff.mpr decision.risks_nonempty
    simp only [ensure_of decision.interpretedGoal_nonBlank,
      ensure_of decision.proposedApproach_nonBlank, ensure_of hplan, ensure_of hrisks,
      ensure_of decision.requiredCapabilities_nonempty, ensure_of decision.confidence_unit,
      ensure_of decision.groundingReferences_nonBlank,
      ensure_of decision.groundingReferences_nodup, ensure_of decision.intentIds_nodup,
      ensure_of decision.schemaVersion_supported, except_ok_bind]
    rfl

/-- The array of a field has one item for each of `parts`, which `parse` reads from it. -/
def ReadsArray {α : Type} (parse : PyValue → Except SchemaError α) (payload : PyEntries)
    (key : String) (parts : List α) : Prop :=
  ∃ items, payload.get? (.ofString key) = some (.list items) ∧
    List.Forall₂ (fun v part => parse v = .ok part) items.toList parts

/-- The same for an array that may be missing. -/
def ReadsOptionalArray {α : Type} (parse : PyValue → Except SchemaError α) (payload : PyEntries)
    (key : String) (parts : List α) : Prop :=
  (payload.get? (.ofString key) = none ∧ parts = []) ∨ ReadsArray parse payload key parts

/-- The object is the one a decision was read from. -/
structure ReadsDecision (payload : PyEntries) (decision : EngineeringDecision) : Prop where
  fields : HasFields payload
    (decisionFields.filter fun f => f ≠ "grounding_references" ∧ f ≠ "mutation_intents")
    decisionFields
  orderedPlan : ReadsArray parseStep payload "ordered_plan" decision.orderedPlan
  risks : ReadsArray parseRisk payload "risks" decision.risks
  mutationIntents : ReadsOptionalArray parseMutationIntent payload "mutation_intents"
    decision.mutationIntents
  assumptions : ReadsTexts payload "assumptions" decision.assumptions
  requiredCapabilities : ReadsTexts payload "required_capabilities" decision.requiredCapabilities
  groundingReferences : ReadsOptionalArray (asString · "grounding_references item") payload
    "grounding_references" decision.groundingReferences
  confidence : ∃ v c, payload.get? (.ofString "confidence") = some v ∧ asConfidence v = .ok c ∧
    c.toFloat? = some decision.confidence
  interpretedGoal :
    payload.get? (.ofString "interpreted_goal") = some (.str decision.interpretedGoal)
  proposedApproach :
    payload.get? (.ofString "proposed_approach") = some (.str decision.proposedApproach)
  schemaVersion : payload.get? (.ofString "schema_version") = some (.str decision.schemaVersion)

section Decision

variable {α : Type} {parse : PyValue → Except SchemaError α} {payload : PyEntries}
  {key name : String} {parts : List α}

variable (name) in
theorem readsArray_iff :
    ReadsArray parse payload key parts ↔
      ∃ v, payload.get? (.ofString key) = some v ∧ ∃ list, asList v name = .ok list ∧
        List.Forall₂ (fun v part => parse v = .ok part) list parts := by
  unfold ReadsArray
  simp only [asList_eq_ok]
  constructor
  · rintro ⟨items, hget, hparts⟩
    exact ⟨_, hget, _, ⟨items, rfl, rfl⟩, hparts⟩
  · rintro ⟨_, hget, _, ⟨items, rfl, rfl⟩, hparts⟩
    exact ⟨items, hget, hparts⟩

theorem readsOptionalArray_iff :
    ReadsOptionalArray parse payload key parts ↔
      ∃ list, optionalList payload key = .ok list ∧
        List.Forall₂ (fun v part => parse v = .ok part) list parts := by
  unfold ReadsOptionalArray optionalList
  rw [readsArray_iff key]
  cases payload.get? (.ofString key) with
  | none => simp [asList, PyItems.toList]
  | some v => simp

theorem readParts_eq_ok {parts : DecisionParts} :
    readParts payload = .ok parts ↔
      HasFields payload
          (decisionFields.filter fun f => f ≠ "grounding_references" ∧ f ≠ "mutation_intents")
          decisionFields ∧
        ReadsArray parseStep payload "ordered_plan" parts.orderedPlan ∧
        ReadsArray parseRisk payload "risks" parts.risks ∧
        ReadsOptionalArray parseMutationIntent payload "mutation_intents"
          parts.mutationIntents ∧
        ReadsTexts payload "assumptions" parts.assumptions ∧
        ReadsTexts payload "required_capabilities" parts.requiredCapabilities ∧
        ReadsOptionalArray (asString · "grounding_references item") payload
          "grounding_references" parts.groundingReferences ∧
        (∃ v, payload.get? (.ofString "confidence") = some v ∧
          asConfidence v = .ok parts.confidence) ∧
        (payload.get? (.ofString "interpreted_goal") = some (.str parts.interpretedGoal) ∧
          parts.interpretedGoal.NonBlank) ∧
        payload.get? (.ofString "proposed_approach") = some (.str parts.proposedApproach) ∧
          parts.proposedApproach.NonBlank := by
  rw [readsArray_iff "ordered_plan", readsArray_iff "risks",
    readsOptionalArray_iff, readsOptionalArray_iff]
  unfold readParts
  simp only [except_bind_eq_ok, requireFields_eq_ok, item_eq_ok, mapM_eq_ok_forall₂,
    stringsItem_eq_ok, stringItem_eq_ok, except_pure_eq_ok, exists_const]
  constructor
  · rintro ⟨hfields, v, hv, l, hl, _, hplan, w, hw, k, hk, _, hrisks, m, hm, _, hintents, _,
      hassumptions, _, hrequired, g, hg, _, hgrounding, c, hc, _, hconfidence, _, hgoal, _,
      happroach, rfl⟩
    exact ⟨hfields, ⟨v, hv, l, hl, hplan⟩, ⟨w, hw, k, hk, hrisks⟩, ⟨m, hm, hintents⟩,
      hassumptions, hrequired, ⟨g, hg, hgrounding⟩, ⟨c, hc, hconfidence⟩, hgoal, happroach⟩
  · rintro ⟨hfields, ⟨v, hv, l, hl, hplan⟩, ⟨w, hw, k, hk, hrisks⟩, ⟨m, hm, hintents⟩,
      hassumptions, hrequired, ⟨g, hg, hgrounding⟩, ⟨c, hc, hconfidence⟩, hgoal, happroach⟩
    exact ⟨hfields, v, hv, l, hl, _, hplan, w, hw, k, hk, _, hrisks, m, hm, _, hintents, _,
      hassumptions, _, hrequired, g, hg, _, hgrounding, c, hc, _, hconfidence, _, hgoal, _,
      happroach, rfl⟩

/-- **A decision is read from the objects that have its fields.** -/
theorem parsePayload_eq_ok {v : PyValue} {decision : EngineeringDecision} :
    parsePayload v = .ok decision ↔
      ∃ payload, v = .dict payload ∧ ReadsDecision payload decision := by
  have hmap : ∀ x : Except SchemaError EngineeringDecision,
      x.mapError ParseError.schema = .ok decision ↔ x = .ok decision := by
    intro x
    cases x <;> simp [Except.mapError]
  cases v with
  | dict payload =>
      have hparse : parsePayload (.dict payload) = .ok decision ↔
          ∃ parts, readParts payload = .ok parts ∧ ∃ confidence,
            parts.confidence.toFloat? = some confidence ∧
              buildDecision payload parts confidence = .ok decision := by
        unfold parsePayload
        dsimp only
        cases readParts payload with
        | error error => simp
        | ok parts => cases hfloat : parts.confidence.toFloat? <;> simp [hfloat, hmap]
      rw [hparse]
      simp only [readParts_eq_ok, buildDecision, except_bind_eq_ok, stringItem_eq_ok,
        constructed_eq_ok, EngineeringDecision.new_eq_ok, PyValue.dict.injEq, exists_eq_left']
      constructor
      · rintro ⟨parts, ⟨hfields, hplan, hrisks, hintents, hassumptions, hrequired, hgrounding,
          ⟨c, hc, hconfidence⟩, ⟨hgoal, -⟩, happroach, -⟩, f, hfloat, _, ⟨hversion, -⟩,
          hgoalEq, hassumptionsEq, happroachEq, hplanEq, hrequiredEq, hrisksEq, rfl,
          hgroundingEq, hintentsEq, rfl⟩
        exact ⟨hfields, hplanEq ▸ hplan, hrisksEq ▸ hrisks, hintentsEq ▸ hintents,
          hassumptionsEq ▸ hassumptions, hrequiredEq ▸ hrequired, hgroundingEq ▸ hgrounding,
          ⟨c, _, hc, hconfidence, hfloat⟩, hgoalEq ▸ hgoal, happroachEq ▸ happroach, hversion⟩
      · intro h
        obtain ⟨v, c, hv, hc, hfloat⟩ := h.confidence
        have hversion : decision.schemaVersion.NonBlank := by
          rw [decision.schemaVersion_supported]
          decide
        exact ⟨⟨decision.orderedPlan, decision.risks, decision.mutationIntents,
            decision.assumptions, decision.requiredCapabilities, decision.groundingReferences, c,
            decision.interpretedGoal, decision.proposedApproach⟩,
          ⟨h.fields, h.orderedPlan, h.risks, h.mutationIntents, h.assumptions,
            h.requiredCapabilities, h.groundingReferences, ⟨v, hv, hc⟩,
            ⟨h.interpretedGoal, decision.interpretedGoal_nonBlank⟩, h.proposedApproach,
            decision.proposedApproach_nonBlank⟩,
          decision.confidence, hfloat, decision.schemaVersion, ⟨h.schemaVersion, hversion⟩,
          rfl, rfl, rfl, rfl, rfl, rfl, rfl, rfl, rfl, rfl⟩
  | _ => simp [parsePayload]

theorem parseEngineeringDecision_eq_ok {limit : Nat} {content : PyText}
    {decision : EngineeringDecision} :
    parseEngineeringDecision limit content = .ok decision ↔
      ∃ payload, loads limit content = .ok (.dict payload) ∧ ReadsDecision payload decision := by
  unfold parseEngineeringDecision
  cases loads limit content with
  | error error => cases error <;> simp
  | ok v => simp [parsePayload_eq_ok]

end Decision

/-! ## Properties of the values that were read -/

/-- The value of a field, when it is there, has the property. -/
def FieldHolds (P : PyValue → Prop) (value : PyEntries) (key : String) : Prop :=
  ∀ v, value.get? (.ofString key) = some v → P v

section FieldHolds

variable {P : PyValue → Prop} {value : PyEntries} {key : String}

theorem fieldHolds_of_none (h : value.get? (.ofString key) = none) : FieldHolds P value key :=
  fun _ hv => nomatch h.symm.trans hv

theorem fieldHolds_of_some {v : PyValue} (h : value.get? (.ofString key) = some v) (hP : P v) :
    FieldHolds P value key := by
  intro w hw
  cases h.symm.trans hw
  exact hP

/-- An object without other fields than the allowed ones has the properties in all its
    members when it has them in these fields. -/
theorem members_hold {Q : String → PyValue → Prop} {allowed : List String}
    (hnodup : value.keys.Nodup)
    (hkeys : ∀ key ∈ value.keys, key ∈ allowed.map PyText.ofString)
    (hfields : ∀ field ∈ allowed, FieldHolds (Q field) value field) :
    ∀ member ∈ value.toList, ∃ field ∈ allowed, member.1 = .ofString field ∧
      Q field member.2 := by
  rintro ⟨key, v⟩ hmember
  have hget := (PyEntries.mem_toList value hnodup).mp hmember
  have hkey : key ∈ value.keys := (PyEntries.mem_keys value).mpr (by rw [hget]; nofun)
  obtain ⟨field, hfield, rfl⟩ := List.mem_map.mp (hkeys key hkey)
  exact ⟨field, hfield, rfl, hfields field hfield v hget⟩

variable (hlist : ∀ items : PyItems, (∀ item ∈ items.toList, P item) → P (.list items))
include hlist

theorem fieldHolds_of_texts {texts : List PyText} (h : ReadsTexts value key texts)
    (hstr : ∀ text : PyText, text.NonBlank → P (.str text)) : FieldHolds P value key := by
  obtain ⟨items, hget, hitems, htexts⟩ := h
  refine fieldHolds_of_some hget (hlist items fun item hitem => ?_)
  obtain ⟨text, htext, rfl⟩ := List.mem_map.mp (hitems ▸ hitem)
  exact hstr text (htexts text htext)

/-- The items of an array that was read part by part, when each of them has the property. -/
theorem fieldHolds_of_array {α : Type} {parse : PyValue → Except SchemaError α}
    {parts : List α} (hkeyed : value.WellKeyed) (h : ReadsArray parse value key parts)
    (hparts : ∀ part ∈ parts, ∀ item : PyValue, item.WellKeyed → parse item = .ok part →
      P item) : FieldHolds P value key := by
  obtain ⟨items, hget, hread⟩ := h
  have hitems : items.WellKeyed := hkeyed.get? value hget
  refine fieldHolds_of_some hget (hlist items fun item hitem => ?_)
  have hitemKeyed := (PyItems.wellKeyed_iff items).mp hitems item hitem
  obtain ⟨part, hpart, hparse⟩ := exists_mem_of_forall₂ hread hitem
  exact hparts part hpart item hitemKeyed hparse

theorem fieldHolds_of_optionalArray {α : Type} {parse : PyValue → Except SchemaError α}
    {parts : List α} (hkeyed : value.WellKeyed) (h : ReadsOptionalArray parse value key parts)
    (hparts : ∀ part ∈ parts, ∀ item : PyValue, item.WellKeyed → parse item = .ok part →
      P item) : FieldHolds P value key := by
  rcases h with ⟨hnone, -⟩ | hsome
  · exact fieldHolds_of_none hnone
  · exact fieldHolds_of_array hlist hkeyed hsome hparts

end FieldHolds

end Eag.Gateway
