/-
  Eag.Chief.Coordinator

  The coordinator of the Chief runtime: its scheduler (`chief/runtime/scheduler.py`),
  the default validator (`validator.py`) and `Coordinator.run` (`coordinator.py`).

  The planners are injected. The calls that the loop makes to the capability runtime are
  kept beside what the source accumulates, in `executions`.
-/

import Mathlib.Data.Finset.Insert
import Eag.Chief.Models
import Eag.Foundation.Loop

namespace Eag.Chief

open Eag.Foundation

/-! ## Scheduler -/

/-- `is_complete`. -/
def isComplete (plan : Plan) (completed : Finset String) : Bool :=
  plan.steps.all fun step => step.stepId ∈ completed

/-- A step that `schedule` finds ready. -/
def isReady (completed : Finset String) (step : PlanStep) : Bool :=
  step.stepId ∉ completed && step.state = .pending &&
    step.dependencies.all fun dependency => dependency ∈ completed

/-- `schedule`. -/
def schedule (plan : Plan) (completed : Finset String) : Except String (List PlanStep) :=
  let ready := plan.steps.filter (isReady completed)
  if ready.isEmpty && !isComplete plan completed then
    .error "Deadlock: no steps ready but plan not complete."
  else .ok ready

/-- `get_next_step`. -/
def getNextStep (plan : Plan) (completed : Finset String) : Except String (Option PlanStep) :=
  (schedule plan completed).map (·.head?)

/-! ## Validator -/

/-- The retries a `DefaultValidator` has granted, by step. -/
abbrev RetryCounts := String → Option Nat

/-- `DefaultValidator.validate`: the decision and the counts after it. -/
def validate (maxRetries : Int) (counts : RetryCounts) (result : StepResult) :
    ValidationDecision × RetryCounts :=
  if result.success then (.continueRun, Function.update counts result.stepId none)
  else
    let retries := (counts result.stepId).getD 0
    if (retries : Int) < maxRetries then
      (.retry, Function.update counts result.stepId (some (retries + 1)))
    else (.abort, counts)

/-! ## Runs of a plan -/

/-- One call of the capability runtime: the step it was made for and what it gave. -/
structure Execution where
  step : PlanStep
  result : StepResult

/-- What `_execute_plan` has accumulated, and the exception that left it, if one did. -/
structure PlanProgress where
  results : List StepResult
  completed : Finset String
  retryCounts : RetryCounts
  executions : List Execution
  events : List RuntimeEvent
  raised : Option String

/-- A coordinator: its planners, its capabilities, and the `max_retries` of its validator.
    `adapt` is there when both a memory and an adaptive planner are; it gives no plan when
    there is no relevant experience. -/
structure Coordinator where
  createPlan : RunContext → Except String Plan
  adapt : Option (RunContext → Plan → Except String (Option Plan))
  capabilities : CapabilityRegistry
  maxRetries : Int

namespace Coordinator

variable (coordinator : Coordinator)

/-- The result of executing a step after so many executions. -/
def stepResult (earlier : Nat) (step : PlanStep) (context : CapabilityContext) : StepResult :=
  let capResult := coordinator.capabilities.execute earlier
    ⟨step.capabilityId, step.name, step.metadata⟩ context
  ⟨step.stepId, capResult.success, capResult.output, capResult.error, capResult.metadata⟩

/-- The body of the loop up to the decision of the validator. -/
def executeStep (run : ChiefRun) (context : CapabilityContext) (step : PlanStep)
    (progress : PlanProgress) : ValidationDecision × StepResult × PlanProgress :=
  let result := coordinator.stepResult progress.executions.length step context
  let (decision, counts) := validate coordinator.maxRetries progress.retryCounts result
  (decision, result, { progress with
    retryCounts := counts
    executions := progress.executions ++ [⟨step, result⟩]
    events := progress.events ++
      [.executionStarted run.runId step.stepId,
        .executionCompleted run.runId step.stepId result.success,
        .validationStarted run.runId step.stepId,
        .validationCompleted run.runId step.stepId decision.value] })

/-- One turn of the loop of `_execute_plan`. What raises leaves the loop with `raised` set. -/
def turn (run : ChiefRun) (plan : Plan) (context : CapabilityContext) (progress : PlanProgress) :
    Except Empty (Turn PlanProgress) :=
  if isComplete plan progress.completed then .ok (.leave progress)
  else
    match getNextStep plan progress.completed with
    | .error text => .ok (.leave { progress with raised := some text })
    | .ok none => .ok (.leave progress)
    | .ok (some step) =>
        match coordinator.executeStep run context step progress with
        | (.continueRun, result, after) => .ok (.again { after with
            results := after.results ++ [result]
            completed := insert step.stepId after.completed })
        | (.retry, _, after) => .ok (.again after)
        | (_, result, after) => .ok (.leave { after with results := after.results ++ [result] })

/-! ## Run -/

/-- `_transition`. -/
def transition (run : ChiefRun) (target : RunState) (phase : RunPhase) : Except String ChiefRun :=
  if run.state.canTransitionTo target then .ok { run with state := target, phase := phase }
  else .error ("Cannot transition from " ++ run.state.value ++ " to " ++ target.value)

/-- The plan a run executes. -/
def finalPlan (context : RunContext) : Except String Plan := do
  let basePlan ← coordinator.createPlan context
  match coordinator.adapt with
  | none => .ok basePlan
  | some adapt =>
      let adapted ← adapt context basePlan
      .ok (adapted.getD basePlan)

/-- What a call of `run` leaves behind: the result, the last state of its history, the calls of
    the capability runtime, the published events and the counts of the validator. -/
structure RunReport where
  result : RunResult
  run : ChiefRun
  executions : List Execution
  events : List RuntimeEvent
  retryCounts : RetryCounts

/-- The `except Exception` of `run`. -/
def runFailure (run : ChiefRun) (progress : PlanProgress) (text : String) : RunReport where
  result := ⟨run.runId, .failure, none, [], "Run failed: " ++ text⟩
  run := { run with state := .failed, error := some text }
  executions := progress.executions
  events := progress.events ++ [.runFailed run.runId text]
  retryCounts := progress.retryCounts

/-- The completion of a run whose loop returned. -/
def complete (run : ChiefRun) (plan : Plan) (progress : PlanProgress) : RunReport :=
  let run := { run with stepResults := progress.results }
  let outcome : RunOutcome := if progress.results.all (·.success) then .success else .failure
  let target : RunState := if outcome = .success then .completed else .failed
  let event : RuntimeEvent :=
    if outcome = .success then .runFinished run.runId outcome.value
    else .runFailed run.runId "One or more steps failed validation"
  match transition run target .completion with
  | .error text => runFailure run progress text
  | .ok run =>
      { result := ⟨run.runId, outcome, some plan, progress.results,
          "Completed " ++ toString progress.results.length ++ " steps. Outcome: "
            ++ outcome.value⟩
        run := { run with outcome := some outcome }
        executions := progress.executions
        events := progress.events ++ [event]
        retryCounts := progress.retryCounts }

/-- The progress a loop starts from. -/
def startProgress (counts : RetryCounts) (events : List RuntimeEvent) : PlanProgress where
  results := []
  completed := ∅
  retryCounts := counts
  executions := []
  events := events
  raised := none

/-- Execution and completion of a run that has its plan; no report when the turns do not
    suffice. -/
def executeAndComplete (counts : RetryCounts) (fuel : Nat) (run : ChiefRun) (plan : Plan)
    (events : List RuntimeEvent) : Option RunReport :=
  let metadata := run.context.metadata
  let capContext : CapabilityContext :=
    ⟨metadata.get? (.ofString "workspace_path"), metadata.get? (.ofString "repository_path"),
      metadata⟩
  match runLoop (coordinator.turn run plan capContext) fuel (startProgress counts events) with
  | .error e => nomatch e
  | .ok none => none
  | .ok (some progress) =>
      match progress.raised with
      | some text => some (runFailure run progress text)
      | none => some (complete run plan progress)

/-- `run`, with the counts its validator has from earlier runs and a bound on the turns of the
    loop. -/
def run (counts : RetryCounts) (fuel : Nat) (context : RunContext) : Option RunReport :=
  let received : ChiefRun := ⟨context, .received, .initialization, none, [], none, none⟩
  match transition received .planning .planning with
  | .error text => some (runFailure received (startProgress counts []) text)
  | .ok run =>
      let events : List RuntimeEvent := [.planningStarted run.runId]
      match coordinator.finalPlan context with
      | .error text => some (runFailure run (startProgress counts events) text)
      | .ok plan =>
          let run := { run with plan := some plan, state := .ready }
          let events := events ++ [.planningCompleted run.runId plan.planId plan.steps.length]
          match transition run .executing .execution with
          | .error text => some (runFailure run (startProgress counts events) text)
          | .ok run => coordinator.executeAndComplete counts fuel run plan events

end Coordinator

end Eag.Chief
