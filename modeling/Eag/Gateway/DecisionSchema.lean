/-
  Eag.Gateway.DecisionSchema

  The schema of decision documents that the gateway sends to providers
  (`chief/intelligence/gateway/validator.py`, `engineering_decision_json_schema`) and
  the strict parser, which is written by hand. The parser takes a document that
  satisfies the schema exactly when none of its strings is blank and none of its lists
  of references repeats an item (`schema_parser_agree_iff`): the schema asks for
  neither.
-/

import Mathlib.Data.List.Nodup
import Eag.Foundation.JsonSchema
import Eag.Gateway.ExecutablePayload

namespace Eag.Gateway

open Eag.Foundation

/-! ## The schema -/

/-- `{"type": "string"}`. -/
def anyText : JsonSchema := .string 0 none none

/-- `{"type": "string", "minLength": 1}`. -/
def nonEmptyText : JsonSchema := .string 1 none none

/-- `{"type": "array", "items": {"type": "string"}}`. -/
def textArray : JsonSchema := .array 0 none anyText

/-- The properties of a plan step, all of them required. -/
def stepProperties : List (String × JsonSchema) :=
  [("step_id", nonEmptyText), ("title", nonEmptyText), ("capability_id", nonEmptyText),
   ("dependencies", textArray), ("expected_evidence", textArray)]

/-- The properties of a risk, all of them required. -/
def riskProperties : List (String × JsonSchema) :=
  [("description", nonEmptyText),
   ("severity", .string 0 (some ["low", "medium", "high", "critical"]) none),
   ("mitigation", nonEmptyText)]

/-- The properties of a mutation intent, all of them required. -/
def intentProperties (policy : MutationIntentPolicy) : List (String × JsonSchema) :=
  [("intent_id", nonEmptyText), ("step_id", nonEmptyText), ("target_path", nonEmptyText),
   ("operation", .string 0 (some policy.allowedOperations) none),
   ("proposed_content", anyText), ("rationale", nonEmptyText),
   ("grounding_references", .array 1 none nonEmptyText),
   ("dependencies", .array 0 (some 0) anyText),
   ("preservation_requirement_ids",
     .array 0 none
       (.string 0 (some (policy.preservationRequirements.map (·.requirementId))) none)),
   ("schema_version", .string 0 none (some policy.schemaVersion))]

/-- A closed object whose properties are all required. -/
def closedObject (properties : List (String × JsonSchema)) : JsonSchema :=
  .object (.ofList properties) (properties.map (·.1))

/-- The properties every decision document has. -/
def commonProperties : List (String × JsonSchema) :=
  [("interpreted_goal", nonEmptyText), ("assumptions", textArray),
   ("proposed_approach", nonEmptyText),
   ("ordered_plan", .array 1 none (closedObject stepProperties)),
   ("required_capabilities", .array 1 none anyText),
   ("risks", .array 1 none (closedObject riskProperties)),
   ("confidence", .number 0 1),
   ("schema_version", .string 0 none (some engineeringDecisionSchemaVersion))]

/-- The properties of a decision document under these options, all of them required. -/
def decisionProperties (requireGroundingReferences : Bool)
    (mutationIntentPolicy : Option MutationIntentPolicy) : List (String × JsonSchema) :=
  commonProperties ++
    (if requireGroundingReferences then
      [("grounding_references", .array 0 none nonEmptyText)] else []) ++
    match mutationIntentPolicy with
    | none => []
    | some policy =>
        [("mutation_intents", .array 1 (some 1) (closedObject (intentProperties policy)))]

/-- `engineering_decision_json_schema`. -/
def engineeringDecisionJsonSchema (requireGroundingReferences : Bool)
    (mutationIntentPolicy : Option MutationIntentPolicy) : JsonSchema :=
  closedObject (decisionProperties requireGroundingReferences mutationIntentPolicy)

/-! ## What the schema leaves out -/

/-- The fields whose lists the constructors want without repeated items. -/
def referenceFields : List String := ["grounding_references", "preservation_requirement_ids"]

/-- A list of references has each item once. -/
def DistinctReferences (key : PyText) (value : PyValue) : Prop :=
  key ∈ referenceFields.map PyText.ofString →
    ∀ items, value = .list items → items.toList.Nodup

/-- No string inside the document is blank, and no list of references repeats an item. -/
structure Readable (value : PyValue) : Prop where
  texts : value.AllTexts PyText.NonBlank
  references : value.EachMember DistinctReferences

theorem readable_str {text : PyText} (h : text.NonBlank) : Readable (.str text) := ⟨h, trivial⟩

theorem readable_list (items : PyItems) (h : ∀ item ∈ items.toList, Readable item) :
    Readable (.list items) :=
  ⟨(PyItems.allTexts_iff items).mpr fun item hitem => (h item hitem).texts,
    (PyItems.eachMember_iff items).mpr fun item hitem => (h item hitem).references⟩

theorem Readable.item {items : PyItems} (h : Readable (.list items)) {item : PyValue}
    (hitem : item ∈ items.toList) : Readable item :=
  ⟨(PyItems.allTexts_iff items).mp h.texts item hitem,
    (PyItems.eachMember_iff items).mp h.references item hitem⟩

theorem readable_dict {value : PyEntries}
    (h : ∀ member ∈ value.toList, DistinctReferences member.1 member.2 ∧ Readable member.2) :
    Readable (.dict value) :=
  ⟨(PyEntries.allTexts_iff value).mpr fun member hmember => (h member hmember).2.texts,
    (PyEntries.eachMember_iff value).mpr fun member hmember =>
      ⟨(h member hmember).1, (h member hmember).2.references⟩⟩

section Fields

variable {value : PyEntries} {key : String} {v : PyValue}

theorem Readable.get? (h : Readable (.dict value)) (hget : value.get? (.ofString key) = some v) :
    DistinctReferences (.ofString key) v ∧ Readable v := by
  have hmember := PyEntries.mem_toList_of_get? value hget
  obtain ⟨hdistinct, heach⟩ := (PyEntries.eachMember_iff value).mp h.references _ hmember
  exact ⟨hdistinct, (PyEntries.allTexts_iff value).mp h.texts _ hmember, heach⟩

/-- What the object must have in a field to be readable. -/
def FieldReadable (value : PyEntries) (key : String) : Prop :=
  FieldHolds (fun v => DistinctReferences (.ofString key) v ∧ Readable v) value key

/-- An object is readable when its fields are. -/
theorem readable_of_fields {allowed : List String} (hnodup : value.keys.Nodup)
    (hkeys : ∀ key ∈ value.keys, key ∈ allowed.map PyText.ofString)
    (hfields : ∀ field ∈ allowed, FieldReadable value field) : Readable (.dict value) := by
  refine readable_dict fun member hmember => ?_
  obtain ⟨field, -, hkey, hfield⟩ := members_hold (Q := fun field v =>
    DistinctReferences (.ofString field) v ∧ Readable v) hnodup hkeys hfields member hmember
  exact ⟨hkey ▸ hfield.1, hfield.2⟩

theorem readable_of_str {text : PyText} (h : value.get? (.ofString key) = some (.str text))
    (htext : text.NonBlank) : FieldReadable value key :=
  fieldHolds_of_some h ⟨nofun, readable_str htext⟩

/-- A field that holds no references is readable when its value is. -/
theorem fieldReadable_of_holds (hkey : key ∉ referenceFields)
    (h : FieldHolds Readable value key) : FieldReadable value key := by
  intro v hv
  refine ⟨fun hmem => absurd hmem ?_, h v hv⟩
  rw [List.mem_map]
  rintro ⟨field, hfield, heq⟩
  exact hkey (PyText.ofString_injective heq ▸ hfield)

theorem readable_of_texts {texts : List PyText} (h : ReadsTexts value key texts)
    (hkey : key ∉ referenceFields) : FieldReadable value key :=
  fieldReadable_of_holds hkey
    (fieldHolds_of_texts readable_list h fun _ htext => readable_str htext)

theorem nodup_map_str {texts : List PyText} : (texts.map PyValue.str).Nodup ↔ texts.Nodup :=
  List.nodup_map_iff (fun _ _ h => PyValue.str.inj h)

theorem readable_of_references {texts : List PyText} (h : ReadsTexts value key texts)
    (hnodup : texts.Nodup) : FieldReadable value key := by
  have hholds : FieldHolds Readable value key :=
    fieldHolds_of_texts readable_list h fun _ htext => readable_str htext
  obtain ⟨items, hget, hitems, -⟩ := h
  refine fieldHolds_of_some hget ⟨fun _ list hlist => ?_, hholds _ hget⟩
  cases hlist
  rw [hitems, nodup_map_str]
  exact hnodup

end Fields

/-! ## Parsed parts are readable -/

/-- The object satisfies a closed object schema. -/
structure Conforms (properties : List (String × JsonSchema)) (value : PyEntries) : Prop where
  required : ∀ property ∈ properties, PyText.ofString property.1 ∈ value.keys
  keys : ∀ key ∈ value.keys, key ∈ (properties.map (·.1)).map PyText.ofString
  properties : ∀ property ∈ properties,
    FieldHolds (fun v => property.2.accepts v = true) value property.1

theorem closedObject_accepts {properties : List (String × JsonSchema)} {v : PyValue} :
    (closedObject properties).accepts v = true ↔
      ∃ value, v = .dict value ∧ Conforms properties value := by
  unfold closedObject
  rw [JsonSchema.accepts_object]
  simp only [List.forall_mem_map]
  constructor
  · rintro ⟨value, rfl, hrequired, hkeys, hproperties⟩
    exact ⟨value, rfl, hrequired, hkeys, hproperties⟩
  · rintro ⟨value, rfl, h⟩
    exact ⟨value, rfl, h.required, h.keys, h.properties⟩

/-- A parsed step without parameters is readable. -/
theorem readable_of_parsedStep {v : PyValue} {step : ProposedPlanStep} (hkeyed : v.WellKeyed)
    (haccepted : (closedObject stepProperties).accepts v = true)
    (hparse : parseStep v = .ok step) : Readable v := by
  obtain ⟨value, rfl, h⟩ := parseStep_eq_ok.mp hparse
  obtain ⟨_, ⟨⟩, hconforms⟩ := closedObject_accepts.mp haccepted
  refine readable_of_fields hkeyed.1 hconforms.keys ?_
  simp only [stepProperties, List.map_cons, List.map_nil, List.forall_mem_cons,
    List.not_mem_nil, false_implies, implies_true, and_true]
  exact ⟨readable_of_str h.stepId step.stepId_nonBlank,
    readable_of_str h.title step.title_nonBlank,
    readable_of_str h.capabilityId step.capabilityId_nonBlank,
    readable_of_texts h.dependencies (by decide),
    readable_of_texts h.expectedEvidence (by decide)⟩

theorem readable_of_parsedRisk {v : PyValue} {risk : EngineeringRisk} (hkeyed : v.WellKeyed)
    (hparse : parseRisk v = .ok risk) : Readable v := by
  obtain ⟨value, rfl, h⟩ := parseRisk_eq_ok.mp hparse
  refine readable_of_fields hkeyed.1 h.fields.2 ?_
  simp only [riskFields, List.forall_mem_cons, List.not_mem_nil, false_implies, implies_true,
    and_true]
  exact ⟨readable_of_str h.description risk.description_nonBlank,
    readable_of_str h.severity risk.severity.value_nonBlank,
    readable_of_str h.mitigation risk.mitigation_nonBlank⟩

theorem readable_of_parsedIntent {v : PyValue} {intent : MutationIntent}
    (hkeyed : v.WellKeyed) (hparse : parseMutationIntent v = .ok intent) : Readable v := by
  obtain ⟨value, rfl, h⟩ := parseMutationIntent_eq_ok.mp hparse
  have hversion : intent.schemaVersion.NonBlank := by
    rw [intent.schemaVersion_supported]
    decide
  refine readable_of_fields hkeyed.1 h.fields.2 ?_
  simp only [mutationIntentFields, List.forall_mem_cons, List.not_mem_nil, false_implies,
    implies_true, and_true]
  exact ⟨readable_of_str h.intentId intent.ids_nonBlank.1,
    readable_of_str h.stepId intent.ids_nonBlank.2,
    readable_of_str h.targetPath intent.target_nonBlank.1,
    readable_of_str h.operation intent.target_nonBlank.2,
    readable_of_str h.proposedContent h.proposedContent_nonBlank,
    readable_of_str h.rationale intent.rationale_nonBlank,
    readable_of_references h.groundingReferences intent.groundingReferences_nodup,
    readable_of_texts h.dependencies (by decide),
    readable_of_references h.preservationRequirementIds intent.preservationRequirementIds_nodup,
    readable_of_str h.schemaVersion hversion⟩

section Parsed

variable {requireGrounding : Bool} {policy : Option MutationIntentPolicy}
  {payload : PyEntries} {decision : EngineeringDecision}

theorem readable_plan (hkeyed : payload.WellKeyed)
    (hconforms : Conforms (decisionProperties requireGrounding policy) payload)
    (h : ReadsArray parseStep payload "ordered_plan" decision.orderedPlan) :
    FieldHolds Readable payload "ordered_plan" := by
  have hproperty : ("ordered_plan", JsonSchema.array 1 none (closedObject stepProperties)) ∈
      decisionProperties requireGrounding policy := by
    simp [decisionProperties, commonProperties]
  obtain ⟨items, hget, hread⟩ := h
  obtain ⟨_, ⟨⟩, -, -, haccepted⟩ :=
    JsonSchema.accepts_array.mp (hconforms.properties _ hproperty _ hget)
  have hitems : items.WellKeyed := hkeyed.get? payload hget
  refine fieldHolds_of_some hget (readable_list items fun item hitem => ?_)
  obtain ⟨step, -, hparse⟩ := exists_mem_of_forall₂ hread hitem
  exact readable_of_parsedStep ((PyItems.wellKeyed_iff items).mp hitems item hitem)
    (haccepted item hitem) hparse

theorem readable_grounding (hkeyed : payload.WellKeyed)
    (h : ReadsOptionalArray (asString · "grounding_references item") payload
      "grounding_references" decision.groundingReferences) :
    FieldReadable payload "grounding_references" := by
  have hholds : FieldHolds Readable payload "grounding_references" := by
    refine fieldHolds_of_optionalArray readable_list hkeyed h fun _ _ _ _ hparse => ?_
    obtain ⟨rfl, htext⟩ := asString_eq_ok.mp hparse
    exact readable_str htext
  rcases h with ⟨hnone, -⟩ | ⟨items, hget, hread⟩
  · exact fieldHolds_of_none hnone
  · refine fieldHolds_of_some hget ⟨fun _ list hlist => ?_, hholds _ hget⟩
    cases hlist
    have htexts := mapM_asString_eq_ok.mp (mapM_eq_ok_forall₂.mpr hread)
    rw [htexts.1, nodup_map_str]
    exact decision.groundingReferences_nodup

/-- **A parsed document is readable.** -/
theorem readable_of_parsed (hkeyed : (PyValue.dict payload).WellKeyed)
    (hconforms : Conforms (decisionProperties requireGrounding policy) payload)
    (h : ReadsDecision payload decision) : Readable (.dict payload) := by
  have hrisks : FieldHolds Readable payload "risks" :=
    fieldHolds_of_array readable_list hkeyed.2 h.risks fun _ _ _ hitem hparse =>
      readable_of_parsedRisk hitem hparse
  have hintents : FieldHolds Readable payload "mutation_intents" :=
    fieldHolds_of_optionalArray readable_list hkeyed.2 h.mutationIntents
      fun _ _ _ hitem hparse => readable_of_parsedIntent hitem hparse
  have hconfidence : FieldHolds Readable payload "confidence" := by
    obtain ⟨v, c, hget, hc, -⟩ := h.confidence
    refine fieldHolds_of_some hget ?_
    cases v <;> first | exact ⟨trivial, trivial⟩ | cases hc
  have hversion : decision.schemaVersion.NonBlank := by
    rw [decision.schemaVersion_supported]
    decide
  refine readable_of_fields hkeyed.1 h.fields.2 ?_
  simp only [decisionFields, List.forall_mem_cons, List.not_mem_nil, false_implies,
    implies_true, and_true]
  exact ⟨readable_of_str h.interpretedGoal decision.interpretedGoal_nonBlank,
    readable_of_texts h.assumptions (by decide),
    readable_of_str h.proposedApproach decision.proposedApproach_nonBlank,
    fieldReadable_of_holds (by decide) (readable_plan hkeyed.2 hconforms h.orderedPlan),
    readable_of_texts h.requiredCapabilities (by decide),
    fieldReadable_of_holds (by decide) hrisks,
    fieldReadable_of_holds (by decide) hconfidence,
    readable_grounding hkeyed.2 h.groundingReferences,
    readable_of_str h.schemaVersion hversion,
    fieldReadable_of_holds (by decide) hintents⟩

end Parsed

/-! ## Readable parts are parsed -/

section Readers

variable {properties : List (String × JsonSchema)} {value : PyEntries} {name : String}

/-- A required property is there and satisfies its schema. -/
theorem Conforms.found (h : Conforms properties value) {schema : JsonSchema}
    (hproperty : (name, schema) ∈ properties) :
    ∃ v, value.get? (.ofString name) = some v ∧ schema.accepts v = true := by
  obtain ⟨v, hv⟩ := Option.ne_none_iff_exists'.mp
    ((PyEntries.mem_keys value).mp (h.required _ hproperty))
  exact ⟨v, hv, h.properties _ hproperty v hv⟩

/-- A property that the schema does not list is not there. -/
theorem Conforms.missing (h : Conforms properties value)
    (hname : name ∉ properties.map (·.1)) : value.get? (.ofString name) = none := by
  by_contra hfound
  obtain ⟨other, hother, heq⟩ :=
    List.mem_map.mp (h.keys _ ((PyEntries.mem_keys value).mpr hfound))
  exact hname (PyText.ofString_injective heq ▸ hother)

/-- The fields a reader asks for, from the schema's names. -/
theorem Conforms.hasFields (h : Conforms properties value) {required allowed : List String}
    (hrequired : ∀ field ∈ required, field ∈ properties.map (·.1))
    (hallowed : ∀ name ∈ properties.map (·.1), name ∈ allowed) :
    HasFields value required allowed := by
  refine ⟨fun field hfield => ?_, fun key hkey => ?_⟩
  · obtain ⟨property, hproperty, rfl⟩ := List.mem_map.mp (hrequired field hfield)
    exact h.required property hproperty
  · obtain ⟨name, hname, rfl⟩ := List.mem_map.mp (h.keys key hkey)
    exact List.mem_map_of_mem (hallowed name hname)

variable (h : Conforms properties value) (hreadable : Readable (.dict value))
include h hreadable

/-- A required string, with what its schema says of it. -/
theorem Conforms.text {minLength : Nat} {enum : Option (List String)} {const : Option String}
    (hproperty : (name, .string minLength enum const) ∈ properties) :
    ∃ text, value.get? (.ofString name) = some (.str text) ∧ text.NonBlank ∧
      (∀ options, enum = some options → text ∈ options.map PyText.ofString) ∧
      ∀ v, const = some v → text = .ofString v := by
  obtain ⟨v, hget, haccepted⟩ := h.found hproperty
  obtain ⟨text, rfl, -, henum, hconst⟩ := JsonSchema.accepts_string.mp haccepted
  exact ⟨text, hget, (hreadable.get? hget).2.texts, henum, hconst⟩

/-- A required array of strings. -/
theorem Conforms.textsOf {minItems : Nat} {maxItems : Option Nat} {minLength : Nat}
    {enum : Option (List String)} {const : Option String}
    (hproperty : (name, .array minItems maxItems (.string minLength enum const)) ∈ properties) :
    ∃ texts, ReadsTexts value name texts ∧ minItems ≤ texts.length ∧
      (name ∈ referenceFields → texts.Nodup) := by
  obtain ⟨v, hget, haccepted⟩ := h.found hproperty
  obtain ⟨items, rfl, hmin, -, hitems⟩ := JsonSchema.accepts_array.mp haccepted
  obtain ⟨hdistinct, hholds⟩ := hreadable.get? hget
  have htext : ∀ item ∈ items.toList, ∃ text, item = .str text ∧ text.NonBlank := by
    intro item hitem
    obtain ⟨text, rfl, -⟩ := JsonSchema.accepts_string.mp (hitems item hitem)
    exact ⟨text, rfl, (hholds.item hitem).texts⟩
  obtain ⟨texts, htexts⟩ := exists_forall₂ htext
  have hread : items.toList.mapM (asString · name) = .ok texts :=
    mapM_eq_ok_forall₂.mpr (htexts.imp fun _ _ hitem => asString_eq_ok.mpr hitem)
  have hmap := mapM_asString_eq_ok.mp hread
  refine ⟨texts, ⟨items, hget, hmap.1, hmap.2⟩, ?_, fun hname => ?_⟩
  · rwa [hmap.1, List.length_map] at hmin
  · have hnodup := hdistinct (List.mem_map_of_mem hname) items rfl
    rwa [hmap.1, nodup_map_str] at hnodup

/-- A required array whose items are read part by part. -/
theorem Conforms.array {α : Type} (parse : PyValue → Except SchemaError α) {minItems : Nat}
    {maxItems : Option Nat} {schema : JsonSchema}
    (hproperty : (name, .array minItems maxItems schema) ∈ properties)
    (hparse : ∀ item, schema.accepts item = true → Readable item →
      ∃ part, parse item = .ok part) :
    ∃ parts, ReadsArray parse value name parts ∧ minItems ≤ parts.length ∧
      ∀ bound, maxItems = some bound → parts.length ≤ bound := by
  obtain ⟨v, hget, haccepted⟩ := h.found hproperty
  obtain ⟨items, rfl, hmin, hmax, hitems⟩ := JsonSchema.accepts_array.mp haccepted
  obtain ⟨parts, hparts⟩ := exists_forall₂ fun item hitem =>
    hparse item (hitems item hitem) ((hreadable.get? hget).2.item hitem)
  rw [hparts.length_eq] at hmin hmax
  exact ⟨parts, ⟨items, hget, hparts⟩, hmin, hmax⟩

end Readers

section Parts

variable {v : PyValue} (hreadable : Readable v)
include hreadable

theorem step_of_accepted (haccepted : (closedObject stepProperties).accepts v = true) :
    ∃ step, parseStep v = .ok step := by
  obtain ⟨value, rfl, h⟩ := closedObject_accepts.mp haccepted
  have hproperty {i property} (hi : stepProperties[i]? = some property) :
      property ∈ stepProperties := List.mem_of_getElem? hi
  obtain ⟨stepId, hid, hidBlank, -⟩ := h.text hreadable (hproperty (i := 0) rfl)
  obtain ⟨title, htitle, htitleBlank, -⟩ := h.text hreadable (hproperty (i := 1) rfl)
  obtain ⟨capabilityId, hcapability, hcapabilityBlank, -⟩ :=
    h.text hreadable (hproperty (i := 2) rfl)
  obtain ⟨dependencies, hdependencies, -⟩ := h.textsOf hreadable (hproperty (i := 3) rfl)
  obtain ⟨evidence, hevidence, -⟩ := h.textsOf hreadable (hproperty (i := 4) rfl)
  exact ⟨⟨stepId, title, capabilityId, dependencies, .nil, evidence, hidBlank, htitleBlank,
      hcapabilityBlank⟩,
    parseStep_eq_ok.mpr ⟨value, rfl, h.hasFields (by decide) (by decide),
      Or.inl ⟨h.missing (by decide), rfl⟩, hid, htitle, hcapability, hdependencies, hevidence⟩⟩

theorem risk_of_accepted (haccepted : (closedObject riskProperties).accepts v = true) :
    ∃ risk, parseRisk v = .ok risk := by
  obtain ⟨value, rfl, h⟩ := closedObject_accepts.mp haccepted
  have hproperty {i property} (hi : riskProperties[i]? = some property) :
      property ∈ riskProperties := List.mem_of_getElem? hi
  obtain ⟨description, hdescription, hdescriptionBlank, -⟩ :=
    h.text hreadable (hproperty (i := 0) rfl)
  obtain ⟨text, hseverity, -, henum, -⟩ := h.text hreadable (hproperty (i := 1) rfl)
  obtain ⟨mitigation, hmitigation, hmitigationBlank, -⟩ :=
    h.text hreadable (hproperty (i := 2) rfl)
  -- The options of the schema are the values of the enumeration.
  have hvalue : ∃ severity : RiskSeverity, text = .ofString severity.value := by
    have hoption := henum _ rfl
    simp only [List.map_cons, List.map_nil, List.mem_cons, List.not_mem_nil, or_false] at hoption
    obtain rfl | rfl | rfl | rfl := hoption
    · exact ⟨.low, rfl⟩
    · exact ⟨.medium, rfl⟩
    · exact ⟨.high, rfl⟩
    · exact ⟨.critical, rfl⟩
  obtain ⟨severity, rfl⟩ := hvalue
  exact ⟨⟨description, severity, mitigation, hdescriptionBlank, hmitigationBlank⟩,
    parseRisk_eq_ok.mpr ⟨value, rfl, h.hasFields (by decide) (by decide), hseverity,
      hdescription, hmitigation⟩⟩

theorem intent_of_accepted {policy : MutationIntentPolicy}
    (haccepted : (closedObject (intentProperties policy)).accepts v = true) :
    ∃ intent, parseMutationIntent v = .ok intent := by
  obtain ⟨value, rfl, h⟩ := closedObject_accepts.mp haccepted
  have hproperty {i property} (hi : (intentProperties policy)[i]? = some property) :
      property ∈ intentProperties policy := List.mem_of_getElem? hi
  obtain ⟨intentId, hid, hidBlank, -⟩ := h.text hreadable (hproperty (i := 0) rfl)
  obtain ⟨stepId, hstep, hstepBlank, -⟩ := h.text hreadable (hproperty (i := 1) rfl)
  obtain ⟨targetPath, htarget, htargetBlank, -⟩ := h.text hreadable (hproperty (i := 2) rfl)
  obtain ⟨operation, hoperation, hoperationBlank, -⟩ :=
    h.text hreadable (hproperty (i := 3) rfl)
  obtain ⟨content, hcontent, hcontentBlank, -⟩ := h.text hreadable (hproperty (i := 4) rfl)
  obtain ⟨rationale, hrationale, hrationaleBlank, -⟩ :=
    h.text hreadable (hproperty (i := 5) rfl)
  obtain ⟨grounding, hgrounding, hgroundingMin, hgroundingNodup⟩ :=
    h.textsOf hreadable (hproperty (i := 6) rfl)
  obtain ⟨dependencies, hdependencies, -⟩ := h.textsOf hreadable (hproperty (i := 7) rfl)
  obtain ⟨ids, hids, -, hidsNodup⟩ := h.textsOf hreadable (hproperty (i := 8) rfl)
  obtain ⟨version, hversion, -, -, hconst⟩ := h.text hreadable (hproperty (i := 9) rfl)
  have hsupported : version = .ofString mutationIntentSchemaVersion := by
    rw [hconst _ rfl, policy.schemaVersion_supported]
  have hnonempty : grounding ≠ [] := List.ne_nil_of_length_pos hgroundingMin
  have hnonBlank : ∀ {key texts}, ReadsTexts value key texts → ∀ text ∈ texts, text.NonBlank :=
    fun ⟨_, _, _, htexts⟩ => htexts
  exact ⟨⟨intentId, stepId, targetPath, operation, content, rationale, grounding, dependencies,
      ids, version, ⟨hidBlank, hstepBlank⟩, ⟨htargetBlank, hoperationBlank⟩, hrationaleBlank,
      ⟨hnonempty, hnonBlank hgrounding⟩, hgroundingNodup (by decide), hnonBlank hdependencies,
      hnonBlank hids, hidsNodup (by decide), hsupported⟩,
    parseMutationIntent_eq_ok.mpr ⟨value, rfl, h.hasFields (by simp [mutationIntentFields,
      intentProperties]) (by simp [mutationIntentFields, intentProperties]), hid, hstep, htarget,
      hoperation, hcontent, hcontentBlank, hrationale, hgrounding, hdependencies, hids,
      hversion⟩⟩

end Parts

/-! ## The confidence -/

/-- A number between 0 and 1 converts to a float between 0 and 1. -/
theorem confidence_of_accepted {v : PyValue} (h : (JsonSchema.number 0 1).accepts v = true) :
    ∃ c f, asConfidence v = .ok c ∧ c.toFloat? = some f ∧ inUnitInterval f = true := by
  cases v with
  | int n =>
      simp only [JsonSchema.accepts, Bool.and_eq_true, decide_eq_true_eq] at h
      have hn : n = 0 ∨ n = 1 := by omega
      have hsmall : 1 < floatOverflow := by decide +kernel
      have hfits : n.natAbs < floatOverflow := by omega
      have hfloat : (Confidence.int n).toFloat? = some (.decimal (n < 0) n.natAbs 0) := by
        simp only [Confidence.toFloat?, floatOfInt?, if_pos hfits]
      refine ⟨.int n, _, rfl, hfloat, ?_⟩
      rcases hn with rfl | rfl <;> decide
  | float x =>
      refine ⟨.float x, x, rfl, rfl, ?_⟩
      simp only [JsonSchema.accepts, Bool.and_eq_true] at h
      obtain ⟨hlow, hhigh⟩ := h
      cases x with
      | nan => cases hlow
      | infinity negative => cases hlow
      | decimal negative digits power =>
          simp only [PyFloat.atLeast, PyFloat.atMost, decide_eq_true_eq, zero_mul, one_mul]
            at hlow hhigh
          cases negative with
          | true =>
              -- Only a zero is at least 0 with a minus sign.
              have hzero : digits * 10 ^ power.toNat = 0 := by
                simp only [if_true, neg_mul, one_mul] at hlow
                omega
              simp only [inUnitInterval]
              rw [hzero, Nat.zero_mul]
              exact decide_eq_true (Nat.zero_le _)
          | false =>
              have hle : digits * 10 ^ power.toNat ≤ 10 ^ (-power).toNat := by
                simp only [Bool.false_eq_true, if_false, one_mul] at hhigh
                exact_mod_cast hhigh
              have hscaled := Nat.mul_le_mul hle (Nat.le_succ (2 ^ 53))
              simp only [inUnitInterval, decide_eq_true_eq]
              rwa [Nat.mul_comm (2 ^ 53 + 1)]
  | _ => cases h

/-! ## Documents -/

section Documents

variable {requireGrounding : Bool} {policy : Option MutationIntentPolicy}

theorem mem_decisionProperties_of_common {property : String × JsonSchema}
    (h : property ∈ commonProperties) : property ∈ decisionProperties requireGrounding policy :=
  List.mem_append_left _ (List.mem_append_left _ h)

/-- The names of a decision schema: the common ones and those of the two options. -/
theorem names_decisionProperties :
    (∀ property ∈ decisionProperties requireGrounding policy, property.1 ∈ decisionFields) ∧
      (requireGrounding = false →
        "grounding_references" ∉ (decisionProperties requireGrounding policy).map (·.1)) ∧
      (policy = none →
        "mutation_intents" ∉ (decisionProperties requireGrounding policy).map (·.1)) := by
  cases requireGrounding <;> cases policy <;>
    simp [decisionProperties, commonProperties, decisionFields]

variable {payload : PyEntries}
  (h : Conforms (decisionProperties requireGrounding policy) payload)
  (hreadable : Readable (.dict payload))
include h hreadable

theorem grounding_of_accepted :
    ∃ references, ReadsOptionalArray (asString · "grounding_references item") payload
      "grounding_references" references ∧ (∀ r ∈ references, r.NonBlank) ∧
      references.Nodup := by
  cases requireGrounding with
  | false =>
      have hmissing := h.missing (names_decisionProperties.2.1 rfl)
      exact ⟨[], Or.inl ⟨hmissing, rfl⟩, nofun, List.nodup_nil⟩
  | true =>
      have hproperty : ("grounding_references", JsonSchema.array 0 none nonEmptyText) ∈
          decisionProperties true policy := by
        simp [decisionProperties]
      obtain ⟨texts, ⟨items, hget, hitems, htexts⟩, -, hnodup⟩ := h.textsOf hreadable hproperty
      have hread : items.toList.mapM (asString · "grounding_references item") = .ok texts :=
        mapM_asString_eq_ok.mpr ⟨hitems, htexts⟩
      exact ⟨texts, Or.inr ⟨items, hget, mapM_eq_ok_forall₂.mp hread⟩, htexts,
        hnodup (by decide)⟩

theorem intents_of_accepted :
    ∃ intents, ReadsOptionalArray parseMutationIntent payload "mutation_intents" intents ∧
      intents.length ≤ 1 := by
  cases policy with
  | none =>
      have hmissing := h.missing (names_decisionProperties.2.2 rfl)
      exact ⟨[], Or.inl ⟨hmissing, rfl⟩, Nat.zero_le 1⟩
  | some policy =>
      have hproperty : ("mutation_intents",
          JsonSchema.array 1 (some 1) (closedObject (intentProperties policy))) ∈
            decisionProperties requireGrounding (some policy) := by
        simp [decisionProperties]
      obtain ⟨intents, hread, -, hmax⟩ := h.array hreadable parseMutationIntent
        hproperty fun _ haccepted hitem => intent_of_accepted hitem haccepted
      exact ⟨intents, Or.inr hread, hmax 1 rfl⟩

/-- **A readable document that satisfies the schema is parsed.** -/
theorem decision_of_accepted : ∃ decision, ReadsDecision payload decision := by
  have hproperty {i property} (hi : commonProperties[i]? = some property) :
      property ∈ decisionProperties requireGrounding policy :=
    mem_decisionProperties_of_common (List.mem_of_getElem? hi)
  obtain ⟨goal, hgoal, hgoalBlank, -⟩ := h.text hreadable (hproperty (i := 0) rfl)
  obtain ⟨assumptions, hassumptions, -⟩ := h.textsOf hreadable (hproperty (i := 1) rfl)
  obtain ⟨approach, happroach, happroachBlank, -⟩ := h.text hreadable (hproperty (i := 2) rfl)
  obtain ⟨plan, hplan, hplanMin, -⟩ := h.array hreadable parseStep
    (hproperty (i := 3) rfl) fun _ haccepted hitem => step_of_accepted hitem haccepted
  obtain ⟨required, hrequired, hrequiredMin, -⟩ :=
    h.textsOf hreadable (hproperty (i := 4) rfl)
  obtain ⟨risks, hrisks, hrisksMin, -⟩ := h.array hreadable parseRisk
    (hproperty (i := 5) rfl) fun _ haccepted hitem => risk_of_accepted hitem haccepted
  obtain ⟨v, hv, hnumber⟩ := h.found (hproperty (i := 6) rfl)
  obtain ⟨c, confidence, hc, hfloat, hunit⟩ := confidence_of_accepted hnumber
  obtain ⟨version, hversion, -, -, hconst⟩ := h.text hreadable (hproperty (i := 7) rfl)
  obtain ⟨references, hreferences, hreferencesBlank, hreferencesNodup⟩ :=
    grounding_of_accepted h hreadable
  obtain ⟨intents, hintents, hcount⟩ := intents_of_accepted h hreadable
  have hids : (intents.map (·.intentId)).Nodup := by
    match intents, hcount with
    | [], _ => exact List.nodup_nil
    | [intent], _ => simp
  -- The names the reader requires are the common ones.
  have hfields : HasFields payload
      (decisionFields.filter fun f => f ≠ "grounding_references" ∧ f ≠ "mutation_intents")
      decisionFields := by
    refine h.hasFields (fun field hfield => ?_) fun name hname => ?_
    · have hcommon : field ∈ commonProperties.map (·.1) := by
        revert field
        decide
      obtain ⟨property, hmem, rfl⟩ := List.mem_map.mp hcommon
      exact List.mem_map_of_mem (mem_decisionProperties_of_common hmem)
    · obtain ⟨property, hmem, rfl⟩ := List.mem_map.mp hname
      exact names_decisionProperties.1 property hmem
  exact ⟨⟨goal, assumptions, approach, plan, required, risks, confidence, references, intents,
      version, hgoalBlank, happroachBlank, List.ne_nil_of_length_pos hplanMin,
      List.ne_nil_of_length_pos hrequiredMin, List.ne_nil_of_length_pos hrisksMin, hunit,
      hreferencesBlank, hreferencesNodup, hids, hconst _ rfl⟩,
    hfields, hplan, hrisks, hintents, hassumptions, hrequired, hreferences,
    ⟨v, c, hv, hc, hfloat⟩, hgoal, happroach, hversion⟩

end Documents

/-- **The schema and the parser**: the parser takes a document that satisfies the schema
    exactly when no string inside it is blank and no list of references repeats an item. -/
theorem schema_parser_agree_iff (requireGrounding : Bool)
    (policy : Option MutationIntentPolicy) {limit : Nat} {content : PyText}
    {document : PyValue} (hdocument : loads limit content = .ok document)
    (hschema : (engineeringDecisionJsonSchema requireGrounding policy).accepts document = true) :
    (∃ decision, parseEngineeringDecision limit content = .ok decision) ↔
      document.AllTexts PyText.NonBlank ∧ document.EachMember DistinctReferences := by
  obtain ⟨payload, rfl, hconforms⟩ := closedObject_accepts.mp hschema
  simp only [parseEngineeringDecision_eq_ok, hdocument, Except.ok.injEq, PyValue.dict.injEq,
    exists_eq_left']
  constructor
  · rintro ⟨decision, h⟩
    have hreadable := readable_of_parsed (wellKeyed_of_loads hdocument) hconforms h
    exact ⟨hreadable.texts, hreadable.references⟩
  · rintro ⟨htexts, hreferences⟩
    exact decision_of_accepted hconforms ⟨htexts, hreferences⟩

/-- A decision document with one assumption. -/
def assumingDocument (assumption : String) : PyText :=
  .ofString "\x7b\"interpreted_goal\":\"g\",\"assumptions\":[\"" ++ .ofString assumption ++
    .ofString "\"],\"proposed_approach\":\"a\",\"ordered_plan\":[\x7b\"step_id\":\"s\"," ++
    .ofString "\"title\":\"t\",\"capability_id\":\"c\",\"dependencies\":[]," ++
    .ofString "\"expected_evidence\":[]\x7d],\"required_capabilities\":[\"c\"]," ++
    .ofString "\"risks\":[\x7b\"description\":\"d\",\"severity\":\"low\"," ++
    .ofString "\"mitigation\":\"m\"\x7d],\"confidence\":0.5,\"schema_version\":\"1.0\"\x7d"

theorem schema_parser_agree_iff_assuming :
    ∃ document, loads 10 (assumingDocument "x") = .ok document ∧
      ((∃ decision, parseEngineeringDecision 10 (assumingDocument "x") = .ok decision) ↔
        document.AllTexts PyText.NonBlank ∧ document.EachMember DistinctReferences) := by
  have haccepted : (loads 10 (assumingDocument "x")).toOption.any
      ((engineeringDecisionJsonSchema false none).accepts ·) = true := by
    unfold assumingDocument PyText.ofString
    repeat rewrite [String.toList_ofList]
    decide +kernel
  cases hdocument : loads 10 (assumingDocument "x") with
  | error error =>
      rw [hdocument] at haccepted
      cases haccepted
  | ok document =>
      rw [hdocument] at haccepted
      exact ⟨document, rfl, schema_parser_agree_iff false none hdocument haccepted⟩

/-- An empty assumption satisfies the schema, and the parser refuses it. -/
theorem empty_assumption_refused :
    ¬ ∀ (requireGrounding : Bool) (policy : Option MutationIntentPolicy) (limit : Nat)
        (content : PyText) (document : PyValue), loads limit content = .ok document →
      (engineeringDecisionJsonSchema requireGrounding policy).accepts document = true →
        ∃ decision, parseEngineeringDecision limit content = .ok decision := by
  intro hclaim
  have haccepted : (loads 10 (assumingDocument "")).toOption.any
      ((engineeringDecisionJsonSchema false none).accepts ·) = true := by
    unfold assumingDocument PyText.ofString
    repeat rewrite [String.toList_ofList]
    decide +kernel
  have hrefused : (parseEngineeringDecision 10 (assumingDocument "")).toOption.isNone = true := by
    unfold assumingDocument PyText.ofString
    repeat rewrite [String.toList_ofList]
    decide +kernel
  cases hdocument : loads 10 (assumingDocument "") with
  | error error =>
      rw [hdocument] at haccepted
      cases haccepted
  | ok document =>
      rw [hdocument] at haccepted
      obtain ⟨decision, hdecision⟩ := hclaim false none 10 _ document hdocument haccepted
      rw [hdecision] at hrefused
      cases hrefused

end Eag.Gateway
