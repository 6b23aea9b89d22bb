/-
  Eag.Gateway.ExecutablePayload

  Where an accepted decision document can still hold an executable key. Outside the
  step parameters the readers leave no room for one, and the parameter check looks into
  every object and into the objects of every array. It does not look into an array that
  stands directly inside an array (`no_executable_key_iff`).
-/

import Eag.Gateway.Containment
import Eag.Gateway.Readers

namespace Eag.Gateway

open Eag.Foundation

/-! ## What the check passes over -/

mutual

/-- **The check and the keys**: a forbidden key is one the check meets or one inside a
    nested array. -/
theorem holdsKey_entries : (entries : PyEntries) →
    entries.holdsKey isForbiddenKey =
      (entriesRefused entries || entries.nestedArrays.any (·.holdsKey isForbiddenKey))
  | .nil => rfl
  | .cons key value rest => by
      rw [PyEntries.holdsKey, entriesRefused, PyEntries.nestedArrays, List.any_append,
        holdsKey_value value, holdsKey_entries rest]
      simp only [Bool.or_assoc, Bool.or_left_comm]

/-- The same for one value. -/
theorem holdsKey_value : (value : PyValue) →
    value.holdsKey isForbiddenKey =
      (valueRefused value || value.nestedArrays.any (·.holdsKey isForbiddenKey))
  | .dict entries => holdsKey_entries entries
  | .list items => holdsKey_items items
  | .none => rfl
  | .bool _ => rfl
  | .int _ => rfl
  | .float _ => rfl
  | .str _ => rfl

/-- The same for the items of an array. -/
theorem holdsKey_items : (items : PyItems) →
    items.holdsKey isForbiddenKey =
      (itemsRefused items || items.nestedArrays.any (·.holdsKey isForbiddenKey))
  | .nil => rfl
  | .cons (.dict inner) rest => by
      rw [PyItems.holdsKey, PyValue.holdsKey, itemsRefused, PyItems.nestedArrays,
        List.any_append, holdsKey_entries inner, holdsKey_items rest]
      simp only [Bool.or_assoc, Bool.or_left_comm]
  | .cons (.list inner) rest => by
      -- The check goes on to the next item.
      have hskip : itemsRefused (.cons (.list inner) rest) = itemsRefused rest := rfl
      rw [PyItems.holdsKey, PyValue.holdsKey, hskip, PyItems.nestedArrays, List.any_cons,
        holdsKey_items rest]
      simp only [Bool.or_left_comm]
  | .cons .none rest => holdsKey_items rest
  | .cons (.bool _) rest => holdsKey_items rest
  | .cons (.int _) rest => holdsKey_items rest
  | .cons (.float _) rest => holdsKey_items rest
  | .cons (.str _) rest => holdsKey_items rest

end

/-! ## The fields of an accepted document -/

/-- The check finds nothing inside the value. -/
def Clean (value : PyValue) : Prop := valueRefused value = false

theorem entriesRefused_eq_any : (entries : PyEntries) →
    entriesRefused entries =
      entries.toList.any fun member => isForbiddenKey member.1 || valueRefused member.2
  | .nil => rfl
  | .cons key value rest => by
      rw [entriesRefused, PyEntries.toList, List.any_cons, entriesRefused_eq_any rest]

theorem clean_list : (items : PyItems) → (∀ item ∈ items.toList, Clean item) →
    Clean (.list items)
  | .nil, _ => rfl
  | .cons first rest, h => by
      obtain ⟨hfirst, hrest⟩ := List.forall_mem_cons.mp h
      have ih : itemsRefused rest = false := clean_list rest hrest
      cases first with
      | dict inner =>
          have hinner : entriesRefused inner = false := hfirst
          show (entriesRefused inner || itemsRefused rest) = false
          rw [hinner, ih]
          rfl
      | _ => exact ih

/-- An object with plain field names and clean fields passes the check. -/
theorem not_entriesRefused {value : PyEntries} {allowed : List String}
    (hnodup : value.keys.Nodup)
    (hkeys : ∀ key ∈ value.keys, key ∈ allowed.map PyText.ofString)
    (hplain : ∀ field ∈ allowed, isForbiddenKey (.ofString field) = false)
    (hclean : ∀ field ∈ allowed, FieldHolds Clean value field) :
    entriesRefused value = false := by
  rw [entriesRefused_eq_any, List.any_eq_false]
  rintro ⟨key, v⟩ hmember
  obtain ⟨field, hfield, rfl, hv⟩ := members_hold hnodup hkeys hclean _ hmember
  have hv : valueRefused v = false := hv
  simp [hplain field hfield, hv]

section Fields

variable {value : PyEntries} {key : String}

theorem clean_of_str {text : PyText} (h : value.get? (.ofString key) = some (.str text)) :
    FieldHolds Clean value key :=
  fieldHolds_of_some h rfl

theorem clean_of_texts {texts : List PyText} (h : ReadsTexts value key texts) :
    FieldHolds Clean value key :=
  fieldHolds_of_texts clean_list h fun _ _ => rfl

end Fields

/-! ## Accepted documents -/

section Accepted

variable {decision : EngineeringDecision} {request : EngineeringDecisionRequest} {stack : Nat}

/-- The parameters of every step of a plan that the policy takes passed the check. -/
theorem parameters_pass {s s' : PlanState} {index : Nat} {steps : List ProposedPlanStep}
    (h : validatePlan decision request stack s index steps = .ok s') :
    ∀ step ∈ steps, entriesRefused step.parameters = false := by
  induction steps generalizing s index with
  | nil => exact fun _ hstep => nomatch hstep
  | cons first rest ih =>
      unfold validatePlan at h
      rw [validateParameters_eq] at h
      simp only [except_bind_eq_ok] at h
      obtain ⟨_, -, _, hfirst, hrest⟩ := h
      refine List.forall_mem_cons.mpr ⟨?_, ih hrest⟩
      unfold checkOutcome at hfirst
      cases hrefused : entriesRefused first.parameters with
      | false => rfl
      | true =>
          rw [hrefused] at hfirst
          split at hfirst <;> cases hfirst

theorem plan_of_validated (h : validateDecisionPolicy decision request stack = .ok ()) :
    ∃ s, validatePlan decision request stack .empty 0 decision.orderedPlan = .ok s := by
  simp only [validateDecisionPolicy, except_bind_eq_ok] at h
  obtain ⟨_, -, s, hplan, -⟩ := h
  exact ⟨s, hplan⟩

/-- A step object is clean when its parameters are. -/
theorem stepObject_clean {v : PyValue} {step : ProposedPlanStep} (hkeyed : v.WellKeyed)
    (hparse : parseStep v = .ok step) (hparameters : entriesRefused step.parameters = false) :
    Clean v := by
  obtain ⟨value, rfl, h⟩ := parseStep_eq_ok.mp hparse
  have hclean : FieldHolds Clean value "parameters" := by
    rcases h.parameters with ⟨hnone, -⟩ | hsome
    · exact fieldHolds_of_none hnone
    · exact fieldHolds_of_some hsome hparameters
  refine not_entriesRefused hkeyed.1 h.fields.2 (by decide) ?_
  simp only [stepFields, List.forall_mem_cons, List.not_mem_nil, false_implies, implies_true,
    and_true]
  exact ⟨clean_of_str h.stepId, clean_of_str h.title, clean_of_str h.capabilityId,
    clean_of_texts h.dependencies, hclean, clean_of_texts h.expectedEvidence⟩

theorem riskObject_clean {v : PyValue} {risk : EngineeringRisk} (hkeyed : v.WellKeyed)
    (hparse : parseRisk v = .ok risk) : Clean v := by
  obtain ⟨value, rfl, h⟩ := parseRisk_eq_ok.mp hparse
  refine not_entriesRefused hkeyed.1 h.fields.2 (by decide) ?_
  simp only [riskFields, List.forall_mem_cons, List.not_mem_nil, false_implies, implies_true,
    and_true]
  exact ⟨clean_of_str h.description, clean_of_str h.severity,
    clean_of_str h.mitigation⟩

theorem intentObject_clean {v : PyValue} {intent : MutationIntent} (hkeyed : v.WellKeyed)
    (hparse : parseMutationIntent v = .ok intent) : Clean v := by
  obtain ⟨value, rfl, h⟩ := parseMutationIntent_eq_ok.mp hparse
  refine not_entriesRefused hkeyed.1 h.fields.2 (by decide) ?_
  simp only [mutationIntentFields, List.forall_mem_cons, List.not_mem_nil, false_implies,
    implies_true, and_true]
  exact ⟨clean_of_str h.intentId, clean_of_str h.stepId,
    clean_of_str h.targetPath, clean_of_str h.operation,
    clean_of_str h.proposedContent, clean_of_str h.rationale,
    clean_of_texts h.groundingReferences, clean_of_texts h.dependencies,
    clean_of_texts h.preservationRequirementIds, clean_of_str h.schemaVersion⟩

/-- Run on the whole of an accepted document, the check would find nothing. -/
theorem document_clean {payload : PyEntries} (hkeyed : (PyValue.dict payload).WellKeyed)
    (h : ReadsDecision payload decision)
    (hsteps : ∀ step ∈ decision.orderedPlan, entriesRefused step.parameters = false) :
    entriesRefused payload = false := by
  have hplan : FieldHolds Clean payload "ordered_plan" :=
    fieldHolds_of_array clean_list hkeyed.2 h.orderedPlan fun step hstep _ hitem hparse =>
      stepObject_clean hitem hparse (hsteps step hstep)
  have hrisks : FieldHolds Clean payload "risks" :=
    fieldHolds_of_array clean_list hkeyed.2 h.risks fun _ _ _ hitem hparse =>
      riskObject_clean hitem hparse
  have hintents : FieldHolds Clean payload "mutation_intents" :=
    fieldHolds_of_optionalArray clean_list hkeyed.2 h.mutationIntents fun _ _ _ hitem hparse =>
      intentObject_clean hitem hparse
  have hgrounding : FieldHolds Clean payload "grounding_references" := by
    refine fieldHolds_of_optionalArray clean_list hkeyed.2 h.groundingReferences
      fun _ _ _ _ hparse => ?_
    obtain ⟨rfl, -⟩ := asString_eq_ok.mp hparse
    rfl
  have hconfidence : FieldHolds Clean payload "confidence" := by
    obtain ⟨v, c, hget, hc, -⟩ := h.confidence
    refine fieldHolds_of_some hget ?_
    cases v <;> first | rfl | cases hc
  refine not_entriesRefused hkeyed.1 h.fields.2 (by decide) ?_
  simp only [decisionFields, List.forall_mem_cons, List.not_mem_nil, false_implies,
    implies_true, and_true]
  exact ⟨clean_of_str h.interpretedGoal, clean_of_texts h.assumptions,
    clean_of_str h.proposedApproach, hplan, clean_of_texts h.requiredCapabilities,
    hrisks, hconfidence, hgrounding, clean_of_str h.schemaVersion, hintents⟩

/-- **Executable keys in accepted documents**: a document that the parser and the policy
    take has no forbidden key in any object at any depth exactly when it has none inside
    an array that stands directly inside another array. -/
theorem no_executable_key_iff {limit : Nat} {content : PyText} {document : PyValue}
    (hdocument : loads limit content = .ok document)
    (hparsed : parseEngineeringDecision limit content = .ok decision)
    (hvalidated : validateDecisionPolicy decision request stack = .ok ()) :
    document.holdsKey isForbiddenKey = false ↔
      ∀ inner ∈ document.nestedArrays, inner.holdsKey isForbiddenKey = false := by
  obtain ⟨payload, hpayload, h⟩ := parseEngineeringDecision_eq_ok.mp hparsed
  cases hdocument.symm.trans hpayload
  obtain ⟨s, hplan⟩ := plan_of_validated hvalidated
  have hclean : entriesRefused payload = false :=
    document_clean (wellKeyed_of_loads hdocument) h (parameters_pass hplan)
  rw [PyValue.holdsKey, holdsKey_entries, hclean, Bool.false_or, PyValue.nestedArrays,
    List.any_eq_false]
  simp only [Bool.not_eq_true]

end Accepted

/-- A decision document whose one step has these parameters. -/
def stepDocument (parameters : String) : PyText :=
  .ofString "\x7b\"interpreted_goal\":\"g\",\"assumptions\":[]," ++
    .ofString "\"proposed_approach\":\"a\",\"ordered_plan\":[\x7b\"step_id\":\"s\"," ++
    .ofString "\"title\":\"t\",\"capability_id\":\"governed_mutation\"," ++
    .ofString "\"dependencies\":[],\"parameters\":" ++ .ofString parameters ++
    .ofString ",\"expected_evidence\":[]\x7d]," ++
    .ofString "\"required_capabilities\":[\"governed_mutation\"]," ++
    .ofString "\"risks\":[\x7b\"description\":\"d\",\"severity\":\"low\"," ++
    .ofString "\"mitigation\":\"m\"\x7d],\"confidence\":0.5,\"schema_version\":\"1.0\"\x7d"

/-- The decision the gateway takes from a content, when it takes one. -/
def acceptedDecision? (limit stack : Nat) (request : EngineeringDecisionRequest)
    (content : PyText) : Option EngineeringDecision :=
  match parseEngineeringDecision limit content with
  | .error _ => none
  | .ok decision =>
      match validateDecisionPolicy decision request stack with
      | .error _ => none
      | .ok () => some decision

theorem acceptedDecision?_eq_some {limit stack : Nat} {request : EngineeringDecisionRequest}
    {content : PyText} {decision : EngineeringDecision} :
    acceptedDecision? limit stack request content = some decision ↔
      parseEngineeringDecision limit content = .ok decision ∧
        validateDecisionPolicy decision request stack = .ok () := by
  unfold acceptedDecision?
  cases parseEngineeringDecision limit content with
  | error error => simp
  | ok parsed =>
      dsimp only
      cases hpolicy : validateDecisionPolicy parsed request stack with
      | error failure =>
          simp only [reduceCtorEq, Except.ok.injEq, false_iff, not_and]
          rintro rfl
          simp [hpolicy]
      | ok u =>
          simp only [Option.some.injEq, Except.ok.injEq]
          constructor
          · rintro rfl
            exact ⟨rfl, hpolicy⟩
          · exact And.left

/-- A request without a mutation policy. -/
def steppedRequest : EngineeringDecisionRequest := openRequest none nofun

theorem no_executable_key_iff_emptyParameters :
    ∃ (decision : EngineeringDecision) (document : PyValue),
      loads 10 (stepDocument "\x7b\x7d") = .ok document ∧
        parseEngineeringDecision 10 (stepDocument "\x7b\x7d") = .ok decision ∧
        (document.holdsKey isForbiddenKey = false ↔
          ∀ inner ∈ document.nestedArrays, inner.holdsKey isForbiddenKey = false) := by
  have haccepted : (acceptedDecision? 10 10 steppedRequest (stepDocument "\x7b\x7d")).isSome = true := by
    unfold stepDocument PyText.ofString
    repeat rewrite [String.toList_ofList]
    decide +kernel
  obtain ⟨decision, hdecision⟩ := Option.isSome_iff_exists.mp haccepted
  obtain ⟨hparsed, hvalidated⟩ := acceptedDecision?_eq_some.mp hdecision
  obtain ⟨payload, hpayload, -⟩ := parseEngineeringDecision_eq_ok.mp hparsed
  exact ⟨decision, _, hpayload, hparsed, no_executable_key_iff hpayload hparsed hvalidated⟩

/-- Step parameters with a command in an array of arrays. -/
def commandParameters : String := "\x7b\"batches\":[[\x7b\"command\":\"rm -rf .\"\x7d]]\x7d"

/-- A command in an object inside an array inside an array is not met by the check. -/
theorem nested_array_holds_command :
    ¬ ∀ (limit stack : Nat) (request : EngineeringDecisionRequest) (content : PyText)
        (decision : EngineeringDecision) (document : PyValue),
      loads limit content = .ok document →
        parseEngineeringDecision limit content = .ok decision →
        validateDecisionPolicy decision request stack = .ok () →
        document.holdsKey isForbiddenKey = false := by
  intro hclaim
  have haccepted : (acceptedDecision? 10 10 steppedRequest (stepDocument commandParameters)).isSome =
      true := by
    unfold stepDocument commandParameters PyText.ofString
    repeat rewrite [String.toList_ofList]
    decide +kernel
  have hheld : (loads 10 (stepDocument commandParameters)).toOption.any
      (·.holdsKey isForbiddenKey) = true := by
    unfold stepDocument commandParameters PyText.ofString
    repeat rewrite [String.toList_ofList]
    decide +kernel
  obtain ⟨decision, hdecision⟩ := Option.isSome_iff_exists.mp haccepted
  obtain ⟨hparsed, hvalidated⟩ := acceptedDecision?_eq_some.mp hdecision
  obtain ⟨payload, hpayload, -⟩ := parseEngineeringDecision_eq_ok.mp hparsed
  rw [hpayload] at hheld
  have hfree := hclaim 10 10 steppedRequest _ decision _ hpayload hparsed hvalidated
  exact Bool.false_ne_true (hfree.symm.trans hheld)

end Eag.Gateway
