/-
  Eag.Gateway.Containment

  What can leave the gateway in place of a result. The parser lets through the
  decoder's error for an overlong integer literal and the overflow of an integer
  confidence; the policy lets through the exhausted stack of deeply nested parameters
  and the failed encoding of a content. Nothing else leaves it (`contained_iff`).
-/

import Eag.Gateway.Runtime

namespace Eag.Gateway

open Eag.Foundation

/-! ## Nested parameters -/

mutual

/-- The parameter check meets a forbidden key in the entries. -/
def entriesRefused : PyEntries → Bool
  | .nil => false
  | .cons key value rest => isForbiddenKey key || valueRefused value || entriesRefused rest

/-- It meets one inside a value. -/
def valueRefused : PyValue → Bool
  | .dict inner => entriesRefused inner
  | .list items => itemsRefused items
  | _ => false

/-- It meets one inside the objects of an array. -/
def itemsRefused : PyItems → Bool
  | .nil => false
  | .cons (.dict inner) rest => entriesRefused inner || itemsRefused rest
  | .cons _ rest => itemsRefused rest

end

mutual

/-- How deep the nested calls go that the loop over the entries makes before it ends. -/
def entriesFrames : PyEntries → Nat
  | .nil => 0
  | .cons key value rest =>
      if isForbiddenKey key then 0
      else if valueRefused value then valueFrames value
      else max (valueFrames value) (entriesFrames rest)

/-- The same for the check of one value. -/
def valueFrames : PyValue → Nat
  | .dict inner => entriesFrames inner + 1
  | .list items => itemsFrames items
  | _ => 0

/-- The same for the loop over the items of an array. -/
def itemsFrames : PyItems → Nat
  | .nil => 0
  | .cons (.dict inner) rest =>
      if entriesRefused inner then entriesFrames inner + 1
      else max (entriesFrames inner + 1) (itemsFrames rest)
  | .cons _ rest => itemsFrames rest

end

/-- The outcome of a check that needs `frames` nested calls and finds a forbidden key or
    not, on a stack with room for `stack` of them. -/
def checkOutcome (failure : PolicyFailure) (stack frames : Nat) (refused : Bool) :
    Except PolicyFailure Unit :=
  if stack < frames then .error .recursion else if refused then .error failure else .ok ()

section Parameters

/-- Two checks in sequence: the second runs when the first finds nothing. -/
theorem checkOutcome_bind (failure : PolicyFailure) (stack a b : Nat) (p q : Bool) :
    (checkOutcome failure stack a p >>= fun _ => checkOutcome failure stack b q) =
      checkOutcome failure stack (if p then a else max a b) (p || q) := by
  unfold checkOutcome
  by_cases ha : stack < a
  · cases p <;> simp [ha, bind, Except.bind]
  · cases p <;> cases q <;> by_cases hb : stack < b <;> simp [ha, hb, bind, Except.bind]

variable {failure : PolicyFailure} {stack : Nat}
  {nested : PyEntries → Except PolicyFailure Unit}

variable (hnested : ∀ inner, nested inner =
  checkOutcome failure stack (entriesFrames inner + 1) (entriesRefused inner))
include hnested

theorem validateItems_eq : (items : PyItems) →
    validateItems nested items = checkOutcome failure stack (itemsFrames items) (itemsRefused items)
  | .nil => by simp [validateItems, itemsFrames, itemsRefused, checkOutcome]
  | .cons (.dict inner) rest => by
      rw [validateItems, itemsFrames, itemsRefused, hnested inner, validateItems_eq rest]
      exact checkOutcome_bind _ _ _ _ _ _
  | .cons .none rest => validateItems_eq rest
  | .cons (.bool _) rest => validateItems_eq rest
  | .cons (.int _) rest => validateItems_eq rest
  | .cons (.float _) rest => validateItems_eq rest
  | .cons (.str _) rest => validateItems_eq rest
  | .cons (.list _) rest => validateItems_eq rest

/-- The check of one value. -/
theorem validateValue_eq (value : PyValue) :
    (match value with
      | .dict inner => nested inner
      | .list items => validateItems nested items
      | _ => .ok ()) = checkOutcome failure stack (valueFrames value) (valueRefused value) := by
  cases value with
  | dict inner => exact hnested inner
  | list items => exact validateItems_eq hnested items
  | _ => simp [valueFrames, valueRefused, checkOutcome]

theorem validateEntries_eq : (entries : PyEntries) →
    validateEntries failure nested entries =
      checkOutcome failure stack (entriesFrames entries) (entriesRefused entries)
  | .nil => by simp [validateEntries, entriesFrames, entriesRefused, checkOutcome]
  | .cons key value rest => by
      have hrest := validateEntries_eq rest
      have hvalue := validateValue_eq hnested value
      rw [entriesFrames, entriesRefused]
      unfold validateEntries
      cases hkey : isForbiddenKey key with
      | true => simp [require, checkOutcome, bind, Except.bind]
      | false =>
          have hbind := checkOutcome_bind failure stack (valueFrames value) (entriesFrames rest)
            (valueRefused value) (entriesRefused rest)
          rw [← hvalue, ← hrest] at hbind
          simp only [require, if_true, except_ok_bind, Bool.false_or, Bool.false_eq_true,
            if_false]
          rw [← hbind]
          cases value <;> rfl

end Parameters

/-- **The parameter check**, in closed form. -/
theorem validateParameters_eq (failure : PolicyFailure) (stack : Nat) (entries : PyEntries) :
    validateParameters failure stack entries =
      checkOutcome failure stack (entriesFrames entries + 1) (entriesRefused entries) := by
  induction stack generalizing entries with
  | zero => simp [validateParameters, checkOutcome]
  | succ stack ih =>
      rw [validateParameters, validateEntries_eq ih]
      simp [checkOutcome]

/-! ## Refusals of the policy -/

/-- A check that fails with a policy violation or not at all. -/
def Refuses {α : Type} (x : Except PolicyFailure α) : Prop :=
  ∀ e, x = .error e → ∃ violation, e = .violation violation

theorem refuses_ok {α : Type} (a : α) : Refuses (.ok a : Except PolicyFailure α) :=
  fun _ h => nomatch h

theorem refuses_require {p : Prop} [Decidable p] (violation : PolicyViolation) :
    Refuses (require p (.violation violation)) := by
  intro e h
  unfold require at h
  split at h
  · cases h
  · exact ⟨violation, (Except.error.inj h).symm⟩

theorem Refuses.bind {α β : Type} {x : Except PolicyFailure α} {f : α → Except PolicyFailure β}
    (hx : Refuses x) (hf : ∀ a, Refuses (f a)) : Refuses (x >>= f) := by
  intro e h
  cases x with
  | error error =>
      have herror : (Except.error error : Except PolicyFailure β) = .error e := h
      cases herror
      exact hx _ rfl
  | ok a => exact hf a e h

section Policy

variable (decision : EngineeringDecision) (request : EngineeringDecisionRequest)

theorem refuses_validateHeader : Refuses (validateHeader decision request) :=
  (refuses_require _).bind fun _ => refuses_require _

theorem refuses_validateStep (s : PlanState) (index : Nat) (step : ProposedPlanStep) :
    Refuses (validateStep decision request s index step) := by
  refine (refuses_require _).bind fun _ => (refuses_require _).bind fun _ => ?_
  split
  · exact refuses_ok ()
  · intro e h
    exact ⟨_, (Except.error.inj h).symm⟩

theorem refuses_validateGrounding (s : PlanState) :
    Refuses (validateGrounding decision request s) :=
  (refuses_require _).bind fun _ => (refuses_require _).bind fun _ => refuses_require _

theorem refuses_validateIntentBindings (policy : MutationIntentPolicy)
    (intent : MutationIntent) : Refuses (validateIntentBindings decision policy intent) := by
  have hlast : Refuses (do
      require (intent.operation ∈ policy.allowedOperations.map PyText.ofString)
        (policyError decision .mutationIntentOperationUnsupported
          "mutation intent operation is not allowed" intent.stepId none)
      validateMutationTarget decision intent
      validatePreservationBindings decision intent policy) :=
    (refuses_require _).bind fun _ => (refuses_require _).bind fun _ =>
      (refuses_require _).bind fun _ => refuses_require _
  unfold validateIntentBindings
  split
  · intro e h
    exact ⟨_, (Except.error.inj h).symm⟩
  · exact (refuses_require _).bind fun _ => (refuses_require _).bind fun _ => hlast

theorem refuses_validateIntentContent (policy : MutationIntentPolicy)
    (intent : MutationIntent) (bytes : Nat) :
    Refuses (validateIntentContent decision request policy intent bytes) :=
  (refuses_require _).bind fun _ => refuses_require _

/-! ## The stack of a decision -/

/-- The nested calls the loop over the plan needs. -/
def planFrames : PlanState → Nat → List ProposedPlanStep → Nat
  | _, _, [] => 0
  | s, index, step :: rest =>
      match validateStep decision request s index step with
      | .error _ => 0
      | .ok () =>
          if entriesRefused step.parameters then entriesFrames step.parameters + 1
          else max (entriesFrames step.parameters + 1) (planFrames (s.add step) (index + 1) rest)

/-- The nested calls the policy needs for a decision. -/
def decisionFrames : Nat :=
  match validateHeader decision request with
  | .error _ => 0
  | .ok () => planFrames decision request .empty 0 decision.orderedPlan

/-- The plan loop runs out of stack exactly when it needs more than there is, and never
    meets a failed encoding. -/
theorem validatePlan_escapes (stack : Nat) (s : PlanState) (index : Nat)
    (steps : List ProposedPlanStep) :
    (validatePlan decision request stack s index steps = .error .recursion ↔
      stack < planFrames decision request s index steps) ∧
    validatePlan decision request stack s index steps ≠ .error .encode := by
  induction steps generalizing s index with
  | nil => simp [validatePlan, planFrames]
  | cons step rest ih =>
      have hstep := refuses_validateStep decision request s index step
      unfold validatePlan planFrames
      rw [validateParameters_eq]
      cases hs : validateStep decision request s index step with
      | error e =>
          obtain ⟨violation, rfl⟩ := hstep e hs
          simp [bind, Except.bind]
      | ok u =>
          obtain ⟨hrecursion, hencode⟩ := ih (s.add step) (index + 1)
          simp only [except_ok_bind]
          unfold checkOutcome
          by_cases hstack : stack < entriesFrames step.parameters + 1
          · cases hrefused : entriesRefused step.parameters <;>
              simp [bind, Except.bind, hstack]
          · cases hrefused : entriesRefused step.parameters with
            | true => simp [bind, Except.bind, hstack, parameterFailure, policyError]
            | false => simpa [bind, Except.bind, hstack] using ⟨hrecursion, hencode⟩

/-! ## The policy -/

/-- The checks before the size of the content pass. -/
def ContentReached (stack : Nat) (policy : MutationIntentPolicy) (intent : MutationIntent) :
    Prop :=
  validateHeader decision request = .ok () ∧
    (∃ s, validatePlan decision request stack .empty 0 decision.orderedPlan = .ok s ∧
      validateGrounding decision request s = .ok ()) ∧
    validateIntentBindings decision policy intent = .ok ()

/-- The stack has room for the decision, and its content has a UTF-8 form when the policy
    gets to its size. -/
def PolicyFits (stack : Nat) : Prop :=
  decisionFrames decision request ≤ stack ∧
    ∀ policy ∈ request.mutationIntentPolicy, ∀ intent, decision.mutationIntents = [intent] →
      ContentReached decision request stack policy intent → intent.proposedContent.Encodable

theorem validateMutationIntents_ne_recursion :
    validateMutationIntents decision request ≠ .error .recursion := by
  intro h
  unfold validateMutationIntents at h
  split at h
  · obtain ⟨violation, hv⟩ := refuses_require _ _ h
    cases hv
  · next policy hpolicy =>
      split at h
      · next intent hintent =>
          cases hb : validateIntentBindings decision policy intent with
          | error e =>
              obtain ⟨violation, rfl⟩ := refuses_validateIntentBindings decision policy intent e hb
              rw [hb] at h
              cases h
          | ok u =>
              rw [hb, except_ok_bind] at h
              split at h
              · cases h
              · next bytes hbytes =>
                  obtain ⟨violation, hv⟩ :=
                    refuses_validateIntentContent decision request policy intent bytes _ h
                  cases hv
      · cases h

theorem validateMutationIntents_encode :
    validateMutationIntents decision request = .error .encode ↔
      ∃ policy intent, request.mutationIntentPolicy = some policy ∧
        decision.mutationIntents = [intent] ∧
        validateIntentBindings decision policy intent = .ok () ∧
        ¬ intent.proposedContent.Encodable := by
  unfold validateMutationIntents
  constructor
  · intro h
    split at h
    · obtain ⟨violation, hv⟩ := refuses_require _ _ h
      cases hv
    · next policy hpolicy =>
        split at h
        · next intent hintent =>
            cases hb : validateIntentBindings decision policy intent with
            | error e =>
                obtain ⟨violation, rfl⟩ :=
                  refuses_validateIntentBindings decision policy intent e hb
                rw [hb] at h
                cases h
            | ok u =>
                rw [hb, except_ok_bind] at h
                split at h
                · next hbytes =>
                    refine ⟨policy, intent, hpolicy, hintent, hb, fun hencodable => ?_⟩
                    rw [← PyText.utf8Length_isSome] at hencodable
                    unfold MutationIntent.contentBytes? at hbytes
                    rw [hbytes] at hencodable
                    cases hencodable
                · next bytes hbytes =>
                    obtain ⟨violation, hv⟩ :=
                      refuses_validateIntentContent decision request policy intent bytes _ h
                    cases hv
        · cases h
  · rintro ⟨policy, intent, hpolicy, hintent, hb, hencodable⟩
    have hbytes : intent.contentBytes? = none := by
      rw [← PyText.utf8Length_isSome] at hencodable
      exact Option.not_isSome_iff_eq_none.mp hencodable
    rw [hpolicy]
    dsimp only
    rw [hintent]
    dsimp only
    rw [hb, except_ok_bind, hbytes]

/-- **What escapes the policy**: nothing but violations exactly when the decision fits. -/
theorem validateDecisionPolicy_refuses_iff (stack : Nat) :
    Refuses (validateDecisionPolicy decision request stack) ↔
      PolicyFits decision request stack := by
  have hheader := refuses_validateHeader decision request
  obtain ⟨hrecursion, hencode⟩ :=
    validatePlan_escapes decision request stack .empty 0 decision.orderedPlan
  unfold validateDecisionPolicy PolicyFits decisionFrames ContentReached
  cases hh : validateHeader decision request with
  | error e =>
      obtain ⟨violation, rfl⟩ := hheader e hh
      simp [Refuses, bind, Except.bind]
  | ok u =>
      simp only [except_ok_bind]
      cases hp : validatePlan decision request stack .empty 0 decision.orderedPlan with
      | error e =>
          rw [hp] at hrecursion hencode
          cases e with
          | violation violation =>
              have hroom : planFrames decision request .empty 0 decision.orderedPlan ≤ stack :=
                Nat.le_of_not_lt fun hlt => nomatch hrecursion.mpr hlt
              simp [Refuses, bind, Except.bind, hroom]
          | recursion =>
              have hroom := hrecursion.mp rfl
              simp [Refuses, bind, Except.bind, Nat.not_le_of_lt hroom]
          | encode => exact absurd rfl hencode
      | ok s =>
          have hroom : planFrames decision request .empty 0 decision.orderedPlan ≤ stack :=
            Nat.le_of_not_lt fun hlt => by
              have hrec := hrecursion.mpr hlt
              rw [hp] at hrec
              cases hrec
          have hgrounding := refuses_validateGrounding decision request s
          simp only [except_ok_bind]
          cases hg : validateGrounding decision request s with
          | error e =>
              obtain ⟨violation, rfl⟩ := hgrounding e hg
              simp [Refuses, bind, Except.bind, hroom, hg]
          | ok u =>
              simp only [except_ok_bind, hroom, true_and, Except.ok.injEq, exists_eq_left', hg]
              constructor
              · intro hrefuses policy hpolicy intent hintent hbindings
                by_contra hencodable
                have hescape := (validateMutationIntents_encode decision request).mpr
                  ⟨policy, intent, hpolicy, hintent, hbindings, hencodable⟩
                obtain ⟨violation, hv⟩ := hrefuses _ hescape
                cases hv
              · intro hfits e he
                cases e with
                | violation violation => exact ⟨violation, rfl⟩
                | recursion =>
                    exact absurd he (validateMutationIntents_ne_recursion decision request)
                | encode =>
                    obtain ⟨policy, intent, hpolicy, hintent, hbindings, hencodable⟩ :=
                      (validateMutationIntents_encode decision request).mp he
                    exact absurd (hfits policy hpolicy intent hintent hbindings) hencodable

end Policy

/-! ## The parser -/

/-- The content has no overlong integer literal where the decoder reads, and an integer
    confidence that the parser gets to convert fits a float. -/
def NumbersFit (limit : Nat) (content : PyText) : Prop :=
  loads limit content ≠ .error .digits ∧
    ∀ payload parts n, loads limit content = .ok (.dict payload) →
      readParts payload = .ok parts → parts.confidence = .int n →
        n.natAbs < floatOverflow

/-- A parser result that is a decision or a `SchemaValidationError`. -/
def DecidesOrRejects (x : Except ParseError EngineeringDecision) : Prop :=
  ∀ e, x = .error e → ∃ error, e = .schema error

theorem toFloat?_eq_none {confidence : Confidence} :
    confidence.toFloat? = none ↔
      ∃ n, confidence = .int n ∧ ¬ n.natAbs < floatOverflow := by
  cases confidence with
  | float x => simp only [Confidence.toFloat?, reduceCtorEq, false_and, exists_false]
  | int n =>
      simp only [Confidence.toFloat?, floatOfInt?, ite_eq_right_iff, reduceCtorEq, imp_false,
        Confidence.int.injEq, exists_eq_left']

theorem decidesOrRejects_schema (error : SchemaError) :
    DecidesOrRejects (.error (.schema error)) :=
  fun _ he => ⟨error, (Except.error.inj he).symm⟩

theorem decidesOrRejects_mapError (x : Except SchemaError EngineeringDecision) :
    DecidesOrRejects (x.mapError .schema) := by
  cases x with
  | error error => exact decidesOrRejects_schema error
  | ok decision => exact fun _ he => nomatch he

theorem parsePayload_dict (payload : PyEntries) :
    DecidesOrRejects (parsePayload (.dict payload)) ↔
      ∀ parts, readParts payload = .ok parts → parts.confidence.toFloat? ≠ none := by
  unfold parsePayload
  dsimp only
  cases hparts : readParts payload with
  | error error =>
      exact iff_of_true (decidesOrRejects_schema error) fun _ h => nomatch h
  | ok parts =>
      dsimp only
      cases hfloat : parts.confidence.toFloat? with
      | none =>
          refine iff_of_false (fun h => ?_) fun h => h parts rfl hfloat
          obtain ⟨error, herror⟩ := h _ rfl
          cases herror
      | some confidence =>
          refine iff_of_true (decidesOrRejects_mapError _) fun _ hsame => ?_
          cases hsame
          rw [hfloat]
          nofun

/-- **What escapes the parser**: nothing but schema errors exactly when the numbers
    fit. -/
theorem parse_decidesOrRejects_iff {limit : Nat} {content : PyText}
    (hnesting : loads limit content ≠ .error .recursion) :
    DecidesOrRejects (parseEngineeringDecision limit content) ↔ NumbersFit limit content := by
  have hends := loads_ne_stuck limit content
  unfold parseEngineeringDecision NumbersFit
  cases hloads : loads limit content with
  | error error =>
      cases error with
      | decode => simp [DecidesOrRejects]
      | digits => simp [DecidesOrRejects]
      | recursion => exact absurd hloads hnesting
      | stuck => exact absurd hloads hends
  | ok value =>
      dsimp only
      cases value with
      | dict payload =>
          rw [parsePayload_dict]
          constructor
          · intro h
            refine ⟨nofun, fun _ parts n hsame hparts hint => ?_⟩
            cases hsame
            by_contra hlarge
            exact h parts hparts (toFloat?_eq_none.mpr ⟨n, hint, hlarge⟩)
          · rintro ⟨-, h⟩ parts hparts hnone
            obtain ⟨n, hint, hlarge⟩ := toFloat?_eq_none.mp hnone
            exact hlarge (h payload parts n rfl hparts hint)
      | _ => simp [DecidesOrRejects, parsePayload]

/-! ## The gateway -/

/-- A gateway with these limits whose provider answers the request with this content. -/
structure Answers (gateway : GatewayRuntime) (request : EngineeringDecisionRequest)
    (limit stack : Nat) (content : PyText) : Prop where
  limit : gateway.decoderLimit = limit
  stack : gateway.stack = stack
  content : ∀ selection execution, gateway.select request = .ok selection →
    gateway.execute request selection = .ok execution → execution.content = content

/-- The provider content never crashes the gateway: the parser returns a decision or raises
    its schema error, and `decide` returns a result whatever its collaborators do
    besides. -/
def Contained (limit stack : Nat) (request : EngineeringDecisionRequest) (content : PyText) :
    Prop :=
  DecidesOrRejects (parseEngineeringDecision limit content) ∧
    ∀ gateway, Answers gateway request limit stack content →
      ∃ result, gateway.decide request = .ok result

section

variable {limit stack : Nat} {request : EngineeringDecisionRequest} {content : PyText}

/-- The end of `decide` returns when neither the parser nor the policy is escaped. -/
theorem decideContent_returns {gateway : GatewayRuntime}
    (hparse : DecidesOrRejects (parseEngineeringDecision gateway.decoderLimit content))
    (hpolicy : ∀ decision, parseEngineeringDecision gateway.decoderLimit content = .ok decision →
      Refuses (validateDecisionPolicy decision request gateway.stack))
    (selection : SelectionDecision) (usage : GatewayUsage) (trace : GatewayTrace) :
    ∃ result, gateway.decideContent request content selection usage trace = .ok result := by
  unfold GatewayRuntime.decideContent
  cases hp : parseEngineeringDecision gateway.decoderLimit content with
  | error e =>
      obtain ⟨error, rfl⟩ := hparse e hp
      exact ⟨_, rfl⟩
  | ok decision =>
      have hrefuses := hpolicy decision hp
      dsimp only
      cases hv : validateDecisionPolicy decision request gateway.stack with
      | error e =>
          obtain ⟨violation, rfl⟩ := hrefuses e hv
          exact ⟨_, rfl⟩
      | ok u => exact ⟨_, rfl⟩

/-- `decide` returns unless its end does not. -/
theorem decide_returns {gateway : GatewayRuntime}
    (hend : ∀ selection execution, gateway.select request = .ok selection →
      gateway.execute request selection = .ok execution → ∀ trace,
        ∃ result, gateway.decideContent request execution.content selection execution.usage
          trace = .ok result) :
    ∃ result, gateway.decide request = .ok result := by
  unfold GatewayRuntime.decide
  cases hselect : gateway.select request with
  | error e => exact ⟨_, rfl⟩
  | ok selection =>
      dsimp only
      cases hexecute : gateway.execute request selection with
      | error e => exact ⟨_, rfl⟩
      | ok execution =>
          dsimp only
          split
          · exact ⟨_, rfl⟩
          split
          · exact ⟨_, rfl⟩
          split
          · exact ⟨_, rfl⟩
          exact hend selection execution hselect hexecute _

/-- The text `0.0`. -/
def zeroCost : FloatText :=
  ⟨['0', '.', '0'], by simp [isDelimiter], ⟨'.', by simp, by decide⟩,
    ⟨'0', ['.', '0'], rfl, Or.inl rfl⟩⟩

/-- A gateway whose provider succeeds at no cost with this content. -/
def answering (limit stack : Nat) (content : PyText) : GatewayRuntime where
  select _ := .ok ⟨"provider", "model"⟩
  execute _ _ := .ok {
    success := true
    content
    usage := ⟨0, 0, 0, zeroCost, zeroCost⟩
    modelId := "model"
    isSuccessState := true
    eventTypes := []
    error := none
    attempts := 1
    fallbackUsed := false }
  costExceeds _ _ := false
  decoderLimit := limit
  stack := stack

theorem answers_answering (limit stack : Nat) (request : EngineeringDecisionRequest)
    (content : PyText) : Answers (answering limit stack content) request limit stack content where
  limit := rfl
  stack := rfl
  content := fun _ _ _ h => by cases h; rfl

/-- Such a gateway gets to the end of `decide`. -/
theorem decide_answering (limit stack : Nat) (request : EngineeringDecisionRequest)
    (content : PyText) : ∃ trace, (answering limit stack content).decide request =
    (answering limit stack content).decideContent request content ⟨"provider", "model"⟩
      ⟨0, 0, 0, zeroCost, zeroCost⟩ trace := by
  have htokens : ¬ request.policy.maxTotalTokens < 0 := by
    have hpositive := request.policy.maxTotalTokens_pos
    omega
  refine ⟨⟨traceIdOf request.requestId, request.requestId, 1, false, []⟩, ?_⟩
  unfold GatewayRuntime.decide
  simp only [answering, htokens, Bool.true_eq_false, or_self, if_false, Bool.false_eq_true]
  rfl

theorem refuses_of_decide {decision : EngineeringDecision} (gateway : GatewayRuntime)
    (hparse : parseEngineeringDecision gateway.decoderLimit content = .ok decision)
    {selection : SelectionDecision} {usage : GatewayUsage} {trace : GatewayTrace}
    {result : EngineeringDecisionResult}
    (hresult : gateway.decideContent request content selection usage trace = .ok result) :
    Refuses (validateDecisionPolicy decision request gateway.stack) := by
  intro e he
  unfold GatewayRuntime.decideContent at hresult
  rw [hparse] at hresult
  dsimp only at hresult
  rw [he] at hresult
  cases e with
  | violation violation => exact ⟨violation, rfl⟩
  | recursion => cases hresult
  | encode => cases hresult

/-- **Provider content is contained** exactly when its numbers fit and, where it parses,
    the decision fits the stack and the encoding of its content. -/
theorem contained_iff (limit stack : Nat) (request : EngineeringDecisionRequest)
    (content : PyText) (hnesting : loads limit content ≠ .error .recursion) :
    Contained limit stack request content ↔
      NumbersFit limit content ∧
        ∀ decision, parseEngineeringDecision limit content = .ok decision →
          PolicyFits decision request stack := by
  constructor
  · rintro ⟨hparse, hdecide⟩
    refine ⟨(parse_decidesOrRejects_iff hnesting).mp hparse, fun decision hdecision => ?_⟩
    obtain ⟨result, hresult⟩ := hdecide _ (answers_answering limit stack request content)
    obtain ⟨trace, hend⟩ := decide_answering limit stack request content
    have hrefuses := refuses_of_decide (answering limit stack content) hdecision
      (hend.symm.trans hresult)
    exact (validateDecisionPolicy_refuses_iff decision request stack).mp hrefuses
  · rintro ⟨hnumbers, hpolicy⟩
    have hparse := (parse_decidesOrRejects_iff hnesting).mpr hnumbers
    refine ⟨hparse, fun gateway hanswers => decide_returns fun selection execution hs he trace => ?_⟩
    obtain ⟨rfl, rfl, hcontent⟩ := hanswers
    rw [hcontent selection execution hs he]
    exact decideContent_returns hparse
      (fun decision hdecision =>
        (validateDecisionPolicy_refuses_iff decision request _).mpr (hpolicy decision hdecision))
      selection execution.usage trace

end

/-- The empty object is contained: it is refused for its fields. -/
theorem contained_emptyObject :
    Contained 10 10 (openRequest none nofun) (.ofString "{}") := by
  have hloads : loads 10 (.ofString "{}") = .ok (.dict .nil) := rfl
  have hparts : ∀ parts, readParts .nil ≠ .ok parts := fun _ h => nomatch h
  have hparse : ∀ decision, parseEngineeringDecision 10 (.ofString "{}") ≠ .ok decision :=
    fun _ h => nomatch h
  refine (contained_iff _ _ _ _ (by rw [hloads]; nofun)).mpr
    ⟨⟨by rw [hloads]; nofun, fun payload parts n hpayload hread _ => ?_⟩,
      fun decision hdecision => absurd hdecision (hparse decision)⟩
  rw [hloads] at hpayload
  cases hpayload
  exact absurd hread (hparts parts)

/-! ## A long number -/

theorem digitsRun_replicate (n : Nat) :
    digitsRun (List.replicate n (.scalar '1')) = (List.replicate n '1', []) := by
  induction n with
  | zero => rfl
  | succ n ih =>
      rw [List.replicate_succ, digitsRun, ih]
      rfl

/-- The decoder stops at a row of ones that is too long. -/
theorem loads_ones (limit n : Nat) (hn : intMaxStrDigits ≤ n) :
    loads limit (List.replicate (n + 1) (.scalar '1')) = .error .digits := by
  have hnumber : scanNumber (List.replicate (n + 1) (.scalar '1')) = .error .digits := by
    have hrun := digitsRun_replicate (n + 1)
    rw [List.replicate_succ] at hrun ⊢
    unfold scanNumber
    have hsign : signOf (.scalar '1' :: List.replicate n (.scalar '1')) =
        (false, .scalar '1' :: List.replicate n (.scalar '1')) := rfl
    have hpart : integerPart? (.scalar '1' :: List.replicate n (.scalar '1')) =
        some (List.replicate (n + 1) '1', []) := by
      rw [← hrun]
      rfl
    rw [hsign]
    dsimp only
    rw [hpart]
    have hlong : intMaxStrDigits < (List.replicate (n + 1) '1').length := by
      rw [List.length_replicate]
      omega
    simp only [fraction, exponent, and_self, if_true, hlong]
  have hscan : scanOnce limit (List.replicate (n + 1) (.scalar '1')) = .error .digits := by
    rw [← hnumber, List.replicate_succ]
    cases limit <;> rfl
  have hspace : skipSpace (List.replicate (n + 1) (.scalar '1')) =
      List.replicate (n + 1) (.scalar '1') := by
    rw [List.replicate_succ]
    rfl
  unfold loads
  rw [hspace, hscan, List.replicate_succ]
  rfl

/-- A provider that answers with 4301 ones crashes the parser and the gateway. -/
theorem not_contained_longNumber :
    ¬ Contained 1000 1000 (openRequest none nofun) (List.replicate 4301 (.scalar '1')) := by
  have hloads := loads_ones 1000 4300 (Nat.le_refl _)
  rw [contained_iff _ _ _ _ (by rw [hloads]; nofun)]
  exact fun h => h.1.1 hloads

end Eag.Gateway
