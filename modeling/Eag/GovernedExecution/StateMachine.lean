/-
  Eag.GovernedExecution.StateMachine

  The transition controller: a request is refused, accepted as asked, or — when
  it would exceed a budget — accepted as a forced failure
  (`governed_execution/state_machine.py`).

  The clock reading of the appended record is an argument of the request. The
  lifecycle events are observations made after the state is decided and are left
  out.
-/

import Eag.GovernedExecution.Models

namespace Eag.GovernedExecution

open Eag.Foundation

/-- The arguments of one `transition` call, with the clock reading its record
    will carry. -/
structure TransitionRequest where
  target : GovernedExecutionState
  evidence : List ExecutionEvidenceRef
  stopReason : Option GovernedExecutionStopReason
  now : DateTime
  deriving DecidableEq, Repr

/-- Typed outcome of a transition request. -/
structure TransitionResult where
  accepted : Bool
  context : GovernedExecutionContext
  errorCode : Option String
  errorCode_of_accepted : accepted = true → errorCode = none
  errorCode_of_rejected : accepted = false → errorCode.isSome = true

def TransitionResult.ofAccepted (context : GovernedExecutionContext) : TransitionResult where
  accepted := true
  context := context
  errorCode := none
  errorCode_of_accepted := fun _ => rfl
  errorCode_of_rejected := fun h => absurd h (by decide)

def TransitionResult.ofRejected (context : GovernedExecutionContext) (code : String) :
    TransitionResult where
  accepted := false
  context := context
  errorCode := some code
  errorCode_of_accepted := fun h => absurd h (by decide)
  errorCode_of_rejected := fun _ => rfl

/-- What metering a request leaves: the state really entered, its iteration and
    budget, and the exhaustion that forced it. -/
structure Metered where
  target : GovernedExecutionState
  iteration : Nat
  budget : ExecutionBudget
  exhaustedReason : Option GovernedExecutionStopReason
  deriving DecidableEq, Repr

/-- The budget part of `_advance`. -/
def meter (context : GovernedExecutionContext) (target : GovernedExecutionState) : Metered :=
  match target with
  | .contextAssembling =>
      match context.budget.consumeIteration with
      | .ok budget => ⟨target, budget.iterationsUsed, budget, none⟩
      | .error _ =>
          ⟨.failed, context.iteration, context.budget, some .iterationBudgetExhausted⟩
  | .mutating =>
      match context.budget.consumeMutation with
      | .ok budget => ⟨target, context.iteration, budget, none⟩
      | .error _ =>
          ⟨.failed, context.iteration, context.budget, some .mutationBudgetExhausted⟩
  | .verifying =>
      match context.budget.consumeVerification with
      | .ok budget => ⟨target, context.iteration, budget, none⟩
      | .error _ =>
          ⟨.failed, context.iteration, context.budget, some .verificationBudgetExhausted⟩
  | _ => ⟨target, context.iteration, context.budget, none⟩

/-- `exhausted_reason or stop_reason`. -/
def resolvedStopReason (context : GovernedExecutionContext) (request : TransitionRequest) :
    Option GovernedExecutionStopReason :=
  (meter context request.target).exhaustedReason.or request.stopReason

/-- The record `_advance` appends. -/
def nextRecord (context : GovernedExecutionContext) (request : TransitionRequest) :
    ExecutionTransitionRecord where
  sequence := context.history.length + 1
  iteration := (meter context request.target).iteration
  fromState := context.state
  toState := (meter context request.target).target
  occurredAt := request.now
  reason := resolvedStopReason context request
  evidence := request.evidence
  sequence_pos := Nat.le_add_left 1 _

/-- The arguments `_advance` gives to `replace`. -/
def nextFields (context : GovernedExecutionContext) (request : TransitionRequest) :
    ContextFields :=
  { context.toContextFields with
    state := (meter context request.target).target
    iteration := (meter context request.target).iteration
    budget := (meter context request.target).budget
    history := context.history ++ [nextRecord context request]
    evidence := context.evidence ++ request.evidence
    stopReason := resolvedStopReason context request }

/-- `_advance`. -/
def advance (context : GovernedExecutionContext) (request : TransitionRequest) :
    Except String GovernedExecutionContext := do
  validateTerminalStopReason (meter context request.target).target
    (resolvedStopReason context request)
  GovernedExecutionContext.construct (nextFields context request)

/-- `part in message`. -/
def mentions (part message : String) : Bool :=
  decide (part.toList <:+: message.toList)

/-- `_budget_or_validation_code`. -/
def budgetOrValidationCode (message : String) : String :=
  if mentions "budget" message then "budget_exhausted"
  else if mentions "stop_reason" message || mentions "stop reason" message then
    "invalid_stop_reason"
  else "invalid_transition_input"

/-- `GovernedExecutionStateMachine.transition`. -/
def transition (context : GovernedExecutionContext) (request : TransitionRequest) :
    TransitionResult :=
  if isLegal context.state request.target then
    match advance context request with
    | .ok next => .ofAccepted next
    | .error message => .ofRejected context (budgetOrValidationCode message)
  else .ofRejected context "illegal_transition"

/-- `transition_or_raise`: the next context, or the error code raised. -/
def transitionOrRaise (context : GovernedExecutionContext) (request : TransitionRequest) :
    Except String GovernedExecutionContext :=
  let result := transition context request
  match result.accepted, result.errorCode with
  | true, _ => .ok result.context
  | false, some code => .error code
  | false, none => .error "illegal_transition"

/-! ## Metering -/

theorem consumeIteration_eq (b : ExecutionBudget) :
    (b.iterationsUsed = b.maxIterations ∧
      b.consumeIteration = .error "iteration budget is exhausted") ∨
    ∃ b' : ExecutionBudget, b.consumeIteration = .ok b' ∧ b'.SameMax b ∧
      b'.iterationsUsed = b.iterationsUsed + 1 ∧ b'.mutationsUsed = b.mutationsUsed ∧
      b'.verificationsUsed = b.verificationsUsed := by
  have hle := b.iterationsUsed_le
  unfold ExecutionBudget.consumeIteration
  split
  · rename_i h
    exact Or.inl ⟨by unfold ExecutionBudget.iterationsRemaining at h; omega, rfl⟩
  · exact Or.inr ⟨_, rfl, ⟨rfl, rfl, rfl⟩, rfl, rfl, rfl⟩

theorem consumeMutation_eq (b : ExecutionBudget) :
    (b.mutationsUsed = b.maxMutations ∧
      b.consumeMutation = .error "mutation budget is exhausted") ∨
    ∃ b' : ExecutionBudget, b.consumeMutation = .ok b' ∧ b'.SameMax b ∧
      b'.iterationsUsed = b.iterationsUsed ∧ b'.mutationsUsed = b.mutationsUsed + 1 ∧
      b'.verificationsUsed = b.verificationsUsed := by
  have hle := b.mutationsUsed_le
  unfold ExecutionBudget.consumeMutation
  split
  · rename_i h
    exact Or.inl ⟨by unfold ExecutionBudget.mutationsRemaining at h; omega, rfl⟩
  · exact Or.inr ⟨_, rfl, ⟨rfl, rfl, rfl⟩, rfl, rfl, rfl⟩

theorem consumeVerification_eq (b : ExecutionBudget) :
    (b.verificationsUsed = b.maxVerifications ∧
      b.consumeVerification = .error "verification budget is exhausted") ∨
    ∃ b' : ExecutionBudget, b.consumeVerification = .ok b' ∧ b'.SameMax b ∧
      b'.iterationsUsed = b.iterationsUsed ∧ b'.mutationsUsed = b.mutationsUsed ∧
      b'.verificationsUsed = b.verificationsUsed + 1 := by
  have hle := b.verificationsUsed_le
  unfold ExecutionBudget.consumeVerification
  split
  · rename_i h
    exact Or.inl ⟨by unfold ExecutionBudget.verificationsRemaining at h; omega, rfl⟩
  · exact Or.inr ⟨_, rfl, ⟨rfl, rfl, rfl⟩, rfl, rfl, rfl⟩

/-- `1` when the record enters `state`. -/
def entryCount (state target : GovernedExecutionState) : Nat :=
  if target = state then 1 else 0

/-- The counter and the limit a state draws on, if its entry is metered. -/
def spent (b : ExecutionBudget) : GovernedExecutionState → Option (Nat × Nat)
  | .contextAssembling => some (b.iterationsUsed, b.maxIterations)
  | .mutating => some (b.mutationsUsed, b.maxMutations)
  | .verifying => some (b.verificationsUsed, b.maxVerifications)
  | _ => none

/-- The stop reason of an exhausted budget. -/
def exhaustionReason : GovernedExecutionState → Option GovernedExecutionStopReason
  | .contextAssembling => some .iterationBudgetExhausted
  | .mutating => some .mutationBudgetExhausted
  | .verifying => some .verificationBudgetExhausted
  | _ => none

/-- The request would exceed the budget its target draws on. -/
def Exhausts (b : ExecutionBudget) (target : GovernedExecutionState) : Prop :=
  ∃ limit, spent b target = some (limit, limit)

/-- **What metering does.** Either the target's budget is exhausted and the
    request becomes a failure with the matching reason and an unchanged budget,
    or the target is kept and exactly its own counter moves. -/
theorem meter_cases (c : GovernedExecutionContext) (hc : c.iteration = c.budget.iterationsUsed)
    (target : GovernedExecutionState) :
    (Exhausts c.budget target ∧
      meter c target = ⟨.failed, c.iteration, c.budget, exhaustionReason target⟩) ∨
    (¬ Exhausts c.budget target ∧ (meter c target).target = target ∧
      (meter c target).exhaustedReason = none ∧
      (meter c target).iteration = (meter c target).budget.iterationsUsed ∧
      (meter c target).budget.SameMax c.budget ∧
      (meter c target).budget.iterationsUsed =
        c.budget.iterationsUsed + entryCount .contextAssembling target ∧
      (meter c target).budget.mutationsUsed =
        c.budget.mutationsUsed + entryCount .mutating target ∧
      (meter c target).budget.verificationsUsed =
        c.budget.verificationsUsed + entryCount .verifying target) := by
  have hi := c.budget.iterationsUsed_le
  have hm := c.budget.mutationsUsed_le
  have hv := c.budget.verificationsUsed_le
  cases target with
  | contextAssembling =>
      rcases consumeIteration_eq c.budget with ⟨he, hx⟩ | ⟨b', hx, hmax, h1, h2, h3⟩
      · exact Or.inl ⟨⟨_, by simp [spent, he]; rfl⟩, by simp [meter, hx, exhaustionReason]⟩
      · have hlt := b'.iterationsUsed_le
        refine Or.inr ⟨?_, ?_⟩
        · rintro ⟨n, hn⟩
          simp only [spent, Option.some.injEq, Prod.mk.injEq] at hn
          have := hmax.iterations
          omega
        · simp [meter, hx, hmax, h1, h2, h3, entryCount]
  | mutating =>
      rcases consumeMutation_eq c.budget with ⟨he, hx⟩ | ⟨b', hx, hmax, h1, h2, h3⟩
      · exact Or.inl ⟨⟨_, by simp [spent, he]; rfl⟩, by simp [meter, hx, exhaustionReason]⟩
      · have hlt := b'.mutationsUsed_le
        refine Or.inr ⟨?_, ?_⟩
        · rintro ⟨n, hn⟩
          simp only [spent, Option.some.injEq, Prod.mk.injEq] at hn
          have := hmax.mutations
          omega
        · simp [meter, hx, hmax, h1, h2, h3, entryCount, hc]
  | verifying =>
      rcases consumeVerification_eq c.budget with ⟨he, hx⟩ | ⟨b', hx, hmax, h1, h2, h3⟩
      · exact Or.inl ⟨⟨_, by simp [spent, he]; rfl⟩, by simp [meter, hx, exhaustionReason]⟩
      · have hlt := b'.verificationsUsed_le
        refine Or.inr ⟨?_, ?_⟩
        · rintro ⟨n, hn⟩
          simp only [spent, Option.some.injEq, Prod.mk.injEq] at hn
          have := hmax.verifications
          omega
        · simp [meter, hx, hmax, h1, h2, h3, entryCount, hc]
  | _ =>
      refine Or.inr ⟨?_, rfl, rfl, hc, .refl _, rfl, rfl, rfl⟩
      rintro ⟨n, hn⟩
      exact absurd hn (by simp [spent])

end Eag.GovernedExecution
