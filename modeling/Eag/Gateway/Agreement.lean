/-
  Eag.Gateway.Agreement

  The policy of the gateway and the checks of the translator read one mutation
  intent independently. What both ask of it is `Bound`: the gateway admits bound
  intents only (`bound_of_validated`), and the shape check, the target path check
  and the binding check of the translator pass on every bound intent.

  The translator asks for two things more: an operation of the mutation boundary, and
  a content that keeps the required leading text.
-/

import Eag.Gateway.MutationTranslation

namespace Eag.Gateway

open Eag.Foundation Eag.Mutation

/-! ## What both boundaries ask -/

/-- The intent belongs to a plan step of the mutation capability, has no dependency, an
    allowed operation and a safe target, and declares the trusted requirements. -/
structure Bound (decision : EngineeringDecision) (policy : MutationIntentPolicy)
    (intent : MutationIntent) : Prop where
  step : ∃ step, stepOf? decision intent.stepId = some step ∧
    step.capabilityId = .ofString policy.capabilityId ∧ step.dependencies = []
  dependencies : intent.dependencies = []
  operation : intent.operation ∈ policy.allowedOperations.map PyText.ofString
  target : isUnsafeRelativePath intent.targetPath = false
  declared : ∀ id ∈ intent.preservationRequirementIds,
    id ∈ requirementIds policy.preservationRequirements
  required : ∀ id ∈ requirementIds policy.preservationRequirements,
    id ∈ intent.preservationRequirementIds

section

variable {decision : EngineeringDecision} {request : EngineeringDecisionRequest}
  {policy : MutationIntentPolicy} {intent : MutationIntent}

theorem validateIntentBindings_eq_ok :
    validateIntentBindings decision policy intent = .ok () ↔ Bound decision policy intent := by
  unfold validateIntentBindings
  cases hstep : stepOf? decision intent.stepId with
  | none =>
      constructor
      · intro h
        simp at h
      · intro h
        obtain ⟨step, hs, -⟩ := h.step
        rw [hstep] at hs
        cases hs
  | some step =>
      simp only [except_bind_eq_ok, require_eq_ok, validateMutationTarget,
        validatePreservationBindings, exists_const]
      constructor
      · rintro ⟨hcapability, ⟨hsteps, hintent⟩, hoperation, htarget, hdeclared, hrequired⟩
        exact ⟨⟨step, hstep, hcapability, hsteps⟩, hintent, hoperation, htarget, hdeclared,
          hrequired⟩
      · intro h
        obtain ⟨_, hs, hcapability, hsteps⟩ := h.step
        cases hstep.symm.trans hs
        exact ⟨hcapability, ⟨hsteps, h.dependencies⟩, h.operation, h.target, h.declared,
          h.required⟩

theorem safeRelativePath_eq_ok {value : PyText} {parts : List PyText} :
    safeRelativePath value = .ok parts ↔
      isUnsafeRelativePath value = false ∧ value.posixParts = parts := by
  unfold safeRelativePath
  split
  · next h => simp [reject, h]
  · next h => simp [h]

/-- The shape check passes on every bound intent. -/
theorem Bound.shape (h : Bound decision policy intent) :
    validateIntentShape intent decision policy.capabilityId policy.allowedOperations =
      .ok () := by
  obtain ⟨step, hstep, hcapability, hsteps⟩ := h.step
  have hpath : safeRelativePath intent.targetPath = .ok intent.targetPath.posixParts :=
    safeRelativePath_eq_ok.mpr ⟨h.target, rfl⟩
  unfold validateIntentShape
  rw [hstep, hpath]
  simp [require, hcapability, hsteps, h.dependencies, h.operation]

/-! ## The required leading text -/

/-- The file has every required prefix. -/
def FileKeeps (requirements : List PreservationRequirement) (content : String) : Prop :=
  ∀ r ∈ requirements, r.requiredPrefix.toList <+: content.toList

/-- The proposed content keeps every required prefix. -/
def ProposalKeeps (intent : MutationIntent) (requirements : List PreservationRequirement) :
    Prop :=
  ∀ r ∈ requirements, intent.proposedContent.startsWith (.ofString r.requiredPrefix) = true

theorem validatePrefixes_eq_ok {content : String} {requirements : List PreservationRequirement} :
    validatePrefixes intent content requirements = .ok () ↔
      FileKeeps requirements content ∧ ProposalKeeps intent requirements := by
  induction requirements with
  | nil => simp [validatePrefixes, FileKeeps, ProposalKeeps]
  | cons r rest ih =>
      simp only [validatePrefixes, except_bind_eq_ok, require_eq_ok, ih, exists_const,
        FileKeeps, ProposalKeeps, List.forall_mem_cons]
      tauto

theorem validateLeadingContent_eq_ok {requirements : List PreservationRequirement}
    {target : TargetState} :
    validateLeadingContent intent requirements target = .ok () ↔
      requirements = [] ∨ ∃ content, target = some content ∧
        FileKeeps requirements content ∧ ProposalKeeps intent requirements := by
  cases requirements with
  | nil => simp [validateLeadingContent]
  | cons r rest =>
      cases target with
      | none => simp [validateLeadingContent, reject]
      | some content => simp [validateLeadingContent, validatePrefixes_eq_ok]

/-- The preservation check on a bound intent: only the texts are left to it. -/
theorem Bound.preservation (h : Bound decision policy intent) (target : TargetState) :
    validatePreservation intent policy.preservationRequirements target = .ok () ↔
      policy.preservationRequirements = [] ∨
        ∃ content, target = some content ∧
          FileKeeps policy.preservationRequirements content ∧
          ProposalKeeps intent policy.preservationRequirements := by
  have hids : (∀ id ∈ intent.preservationRequirementIds,
        id ∈ requirementIds policy.preservationRequirements) ∧
      ∀ id ∈ requirementIds policy.preservationRequirements,
        id ∈ intent.preservationRequirementIds := ⟨h.declared, h.required⟩
  unfold validatePreservation
  rw [← validateLeadingContent_eq_ok]
  simp only [require_of _ _ hids, except_ok_bind]

/-! ## The operation -/

/-- The operations of the mutation boundary. -/
def boundaryOperations : List PyText := ["create_file", "modify_file"].map .ofString

theorem mutationOperation?_isSome {value : PyText} :
    (mutationOperation? value).isSome = true ↔ value ∈ boundaryOperations := by
  simp only [mutationOperation?, boundaryOperations, List.find?_isSome, List.mem_cons,
    List.not_mem_nil, or_false, exists_eq_or_imp, exists_eq_left, List.map_cons, List.map_nil,
    decide_eq_true_iff]
  exact Iff.rfl

theorem operationOf_ok :
    (∃ operation, operationOf intent = .ok operation) ↔
      intent.operation ∈ boundaryOperations := by
  rw [← mutationOperation?_isSome]
  unfold operationOf
  cases mutationOperation? intent.operation <;> simp [reject]

end

/-! ## Agreement -/

section

variable {decision : EngineeringDecision} {request : EngineeringDecisionRequest} {stack : Nat}

theorem validateMutationIntents_of_validated
    (h : validateDecisionPolicy decision request stack = .ok ()) :
    validateMutationIntents decision request = .ok () := by
  unfold validateDecisionPolicy at h
  simp only [except_bind_eq_ok] at h
  obtain ⟨-, -, -, -, -, -, hintents⟩ := h
  exact hintents

/-- The gateway admits one intent under a mutation policy, and only a bound one. -/
theorem bound_of_validated (h : validateDecisionPolicy decision request stack = .ok ())
    {policy : MutationIntentPolicy} (hpolicy : request.mutationIntentPolicy = some policy) :
    ∃ intent, decision.mutationIntents = [intent] ∧ Bound decision policy intent := by
  have hintents := validateMutationIntents_of_validated h
  unfold validateMutationIntents at hintents
  rw [hpolicy] at hintents
  dsimp only at hintents
  split at hintents
  · next intent hone =>
      obtain ⟨_, hbindings, -⟩ := (except_bind_eq_ok _ _ _).mp hintents
      exact ⟨intent, hone, validateIntentBindings_eq_ok.mp hbindings⟩
  · cases hintents

/-- Without a mutation policy the gateway admits no intent. -/
theorem no_intent_of_validated (h : validateDecisionPolicy decision request stack = .ok ())
    (hpolicy : request.mutationIntentPolicy = none) : decision.mutationIntents = [] := by
  have hintents := validateMutationIntents_of_validated h
  unfold validateMutationIntents at hintents
  rw [hpolicy] at hintents
  exact List.isEmpty_iff.mp ((require_eq_ok _ _ _).mp hintents)

/-- The texts leave nothing for the translator to refuse. -/
def Preserved (policy : MutationIntentPolicy) (intent : MutationIntent) (target : TargetState) :
    Prop :=
  policy.preservationRequirements = [] ∨
    ∃ content, target = some content ∧ FileKeeps policy.preservationRequirements content ∧
      ProposalKeeps intent policy.preservationRequirements

/-- The whole translation of an admitted decision. -/
theorem translate_of_validated (h : validateDecisionPolicy decision request stack = .ok ())
    {policy : MutationIntentPolicy} (hpolicy : request.mutationIntentPolicy = some policy)
    {intent : MutationIntent} (hintent : decision.mutationIntents = [intent])
    {result : EngineeringDecisionResult} (hsuccess : result.success = true)
    (hdecision : result.decision = some decision) (runId : String)
    (state : TrustedWorkspaceState) :
    (∃ t, translate result request runId state = .ok t) ↔
      NonBlank runId ∧ validateTrustedBindings request state = .ok () ∧
        intent.operation ∈ boundaryOperations ∧
        ∃ target, state.readTargetState intent.targetPath = .ok target ∧
          Preserved policy intent target := by
  obtain ⟨bound, hone, hbound⟩ := bound_of_validated h hpolicy
  obtain rfl : bound = intent := by simpa [hintent] using hone.symm
  unfold translate
  rw [hsuccess, hdecision, result.success_error hsuccess]
  dsimp only
  rw [hpolicy]
  dsimp only
  rw [hintent]
  dsimp only
  rw [hbound.shape, ← operationOf_ok]
  simp only [except_bind_eq_ok, except_ok_bind, require_eq_ok, except_pure_eq_ok,
    hbound.preservation]
  constructor
  · rintro ⟨_, _, hrun, _, hbindings, target, hread, operation, hoperation, _, hkeeps, _⟩
    exact ⟨hrun, hbindings, ⟨operation, hoperation⟩, target, hread, hkeeps⟩
  · rintro ⟨hrun, hbindings, ⟨operation, hoperation⟩, target, hread, hkeeps⟩
    exact ⟨_, (), hrun, (), hbindings, target, hread, operation, hoperation, (), hkeeps, rfl⟩

/-- **The gateway and the translator agree** on the shape of an admitted intent, on its
    target path and on the requirements it declares. The translator refuses it, apart
    from the file that stands at the target, exactly for an operation the mutation
    boundary does not have and for a content that drops a required prefix. -/
theorem translator_agrees (h : validateDecisionPolicy decision request stack = .ok ()) :
    (request.mutationIntentPolicy = none → decision.mutationIntents = []) ∧
    ∀ policy ∈ request.mutationIntentPolicy, ∃ intent, decision.mutationIntents = [intent] ∧
      validateIntentShape intent decision policy.capabilityId policy.allowedOperations = .ok () ∧
      safeRelativePath intent.targetPath = .ok intent.targetPath.posixParts ∧
      ((∃ operation, operationOf intent = .ok operation) ↔
        intent.operation ∈ boundaryOperations) ∧
      (∀ target, validatePreservation intent policy.preservationRequirements target = .ok () ↔
        Preserved policy intent target) ∧
      ∀ (result : EngineeringDecisionResult) (runId : String) (state : TrustedWorkspaceState),
        result.success = true → result.decision = some decision →
          ((∃ t, translate result request runId state = .ok t) ↔
            NonBlank runId ∧ validateTrustedBindings request state = .ok () ∧
              intent.operation ∈ boundaryOperations ∧
              ∃ target, state.readTargetState intent.targetPath = .ok target ∧
                Preserved policy intent target) := by
  refine ⟨no_intent_of_validated h, fun policy hpolicy => ?_⟩
  obtain ⟨intent, hone, hbound⟩ := bound_of_validated h hpolicy
  refine ⟨intent, hone, hbound.shape, safeRelativePath_eq_ok.mpr ⟨hbound.target, rfl⟩,
    operationOf_ok, hbound.preservation, fun result runId state hsuccess hdecision => ?_⟩
  exact translate_of_validated h hpolicy hone hsuccess hdecision runId state

end

/-! ## A replacement that drops the required text -/

/-- A policy that binds the leading line `# kept`. -/
def keepingPolicy : MutationIntentPolicy where
  capabilityId := "governed_mutation"
  allowedOperations := ["create_file", "modify_file"]
  maxContentBytes := 64000
  preservationRequirements := [⟨"header", "# kept\n", by decide, by decide⟩]
  schemaVersion := "1.0"
  capabilityId_nonBlank := mutationId_nonBlank
  allowedOperations_nonempty := fileOperations_ne_nil
  allowedOperations_nonBlank := fileOperations_nonBlank
  allowedOperations_nodup := fileOperations_nodup
  maxContentBytes_pos := contentBytes_pos
  requirementIds_nodup := by decide
  schemaVersion_supported := rfl

/-- A request under that policy. -/
def keepingRequest : EngineeringDecisionRequest :=
  openRequest (some keepingPolicy) (by rintro _ ⟨⟩; rfl)

/-- A decision with one step and one intent that modifies `notes` to `content`. -/
def modifyDecision (content : PyText) : EngineeringDecision where
  interpretedGoal := .ofString "goal"
  assumptions := []
  proposedApproach := .ofString "approach"
  orderedPlan :=
    [⟨.ofString "s1", .ofString "title", .ofString "governed_mutation", [], .nil, [],
      by decide, by decide, by decide⟩]
  requiredCapabilities := [.ofString "governed_mutation"]
  risks := [⟨.ofString "risk", .low, .ofString "mitigation", by decide, by decide⟩]
  confidence := .decimal false 5 (-1)
  groundingReferences := [.ofString "finding"]
  mutationIntents :=
    [{ intentId := .ofString "i1"
       stepId := .ofString "s1"
       targetPath := .ofString "notes"
       operation := .ofString "modify_file"
       proposedContent := content
       rationale := .ofString "rationale"
       groundingReferences := [.ofString "finding"]
       dependencies := []
       preservationRequirementIds := [.ofString "header"]
       schemaVersion := .ofString "1.0"
       ids_nonBlank := by decide
       target_nonBlank := by decide
       rationale_nonBlank := by decide
       groundingReferences_nonBlank := by decide
       groundingReferences_nodup := by decide
       dependencies_nonBlank := by decide
       preservationRequirementIds_nonBlank := by decide
       preservationRequirementIds_nodup := by decide
       schemaVersion_supported := rfl }]
  schemaVersion := .ofString "1.0"
  interpretedGoal_nonBlank := by decide
  proposedApproach_nonBlank := by decide
  orderedPlan_nonempty := by simp
  requiredCapabilities_nonempty := by simp
  risks_nonempty := by simp
  confidence_unit := by decide
  groundingReferences_nonBlank := by decide
  groundingReferences_nodup := by decide
  intentIds_nodup := by simp
  schemaVersion_supported := rfl

/-- The agreement at a decision that keeps the required line. -/
theorem translator_agrees_keptLine :
    validateDecisionPolicy (modifyDecision (.ofString "# kept\nnew"))
        keepingRequest 10 = .ok () ∧
      ∃ intent, (modifyDecision (.ofString "# kept\nnew")).mutationIntents = [intent] ∧
        ∀ target, validatePreservation intent keepingPolicy.preservationRequirements target =
          .ok () ↔ Preserved keepingPolicy intent target := by
  have h : validateDecisionPolicy (modifyDecision (.ofString "# kept\nnew"))
      keepingRequest 10 = .ok () := rfl
  obtain ⟨intent, hone, -, -, -, hpreservation, -⟩ :=
    (translator_agrees h).2 keepingPolicy rfl
  exact ⟨h, intent, hone, hpreservation⟩

/-- What full agreement would say of a decision: the checks of the translator accept its
    intents over every file that keeps the required text. -/
def TranslatorAccepts (decision : EngineeringDecision) (request : EngineeringDecisionRequest) :
    Prop :=
  ∀ policy ∈ request.mutationIntentPolicy, ∀ intent ∈ decision.mutationIntents,
    validateIntentShape intent decision policy.capabilityId policy.allowedOperations = .ok () ∧
    (∃ parts, safeRelativePath intent.targetPath = .ok parts) ∧
    (∃ operation, operationOf intent = .ok operation) ∧
    ∀ content, FileKeeps policy.preservationRequirements content →
      validatePreservation intent policy.preservationRequirements (some content) = .ok ()

/-- The gateway admits a replacement without the required line; the translator refuses
    it over a file that has the line. -/
theorem not_translatorAccepts_droppedLine :
    validateDecisionPolicy (modifyDecision (.ofString "new"))
        keepingRequest 10 = .ok () ∧
      ¬ TranslatorAccepts (modifyDecision (.ofString "new"))
        keepingRequest := by
  refine ⟨rfl, fun h => ?_⟩
  obtain ⟨-, -, -, hpreservation⟩ := h keepingPolicy rfl _ (List.mem_singleton_self _)
  have hfile : FileKeeps keepingPolicy.preservationRequirements "# kept\nold" := by
    intro r hr
    obtain rfl := List.mem_singleton.mp hr
    decide
  have hrefused := hpreservation "# kept\nold" hfile
  cases hrefused

end Eag.Gateway
