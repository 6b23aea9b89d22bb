/-
  Eag.Execution.Runtime

  The execution runtime (`execution/runtime/runtime.py`) with its lifecycle
  (`lifecycle.py`, `enums.py`), its pass-through scheduler (`scheduler.py`) and its
  metrics, up to the durations.

  The dispatcher is a parameter: while it dispatches a task it may pause, resume or cancel
  the session, and it returns a result or raises. The session keeps, besides what the
  source has, the calls of the dispatcher (`dispatches`). A step is numbered where the
  source draws an identifier.
-/

import Eag.Planner.DependencyResolver

namespace Eag.Execution

open Eag.Planner

/-! ## Lifecycle -/

/-- `ExecutionState`. -/
inductive ExecutionState where
  | created
  | ready
  | validating
  | waitingApproval
  | running
  | paused
  | checkpointing
  | rollingBack
  | completed
  | failed
  | rolledBack
  | cancelled
  deriving DecidableEq, Repr

namespace ExecutionState

def value : ExecutionState → String
  | .created => "created"
  | .ready => "ready"
  | .validating => "validating"
  | .waitingApproval => "waiting_approval"
  | .running => "running"
  | .paused => "paused"
  | .checkpointing => "checkpointing"
  | .rollingBack => "rolling_back"
  | .completed => "completed"
  | .failed => "failed"
  | .rolledBack => "rolled_back"
  | .cancelled => "cancelled"

/-- `is_terminal`. -/
def isTerminal : ExecutionState → Bool
  | .completed | .rolledBack | .cancelled => true
  | _ => false

/-- The table `allowed` of `can_transition_to`. -/
def allowed : ExecutionState → List ExecutionState
  | .created => [.ready, .cancelled]
  | .ready => [.validating, .running, .cancelled]
  | .validating => [.waitingApproval, .failed, .cancelled]
  | .waitingApproval => [.running, .cancelled]
  | .running => [.checkpointing, .paused, .failed, .completed, .cancelled]
  | .paused => [.running, .cancelled]
  | .checkpointing => [.running, .failed]
  | .failed => [.rollingBack]
  | .rollingBack => [.rolledBack, .failed]
  | _ => []

/-- `can_transition_to`. -/
def canTransitionTo (state target : ExecutionState) : Bool :=
  if state.isTerminal then false
  else if state = target then true
  else target ∈ state.allowed

end ExecutionState

/-- `LifecycleManager.transition_to`. -/
def transitionTo (state target : ExecutionState) : Except String ExecutionState :=
  if state.canTransitionTo target then .ok target
  else .error ("Cannot transition from " ++ state.value ++ " to " ++ target.value)

/-- The calls that change a session from outside. -/
inductive Control where
  | pause
  | resume
  | cancel
  deriving DecidableEq, Repr

/-- `pause`, `resume` and `cancel`: the state afterwards. A transition that is not allowed raises
    in the caller and leaves the state. -/
def Control.apply (state : ExecutionState) : Control → ExecutionState
  | .pause => if state = .running then .paused else state
  | .resume => if state = .paused then .running else state
  | .cancel =>
      if state ∈ [ExecutionState.completed, .failed, .cancelled] then state
      else (transitionTo state .cancelled).toOption.getD state

/-! ## Dispatcher and scheduler -/

/-- `ExecutionResult`, as far as the runtime reads it. -/
structure ExecutionResult where
  success : Bool
  summary : String
  deriving DecidableEq, Repr

/-- What happens while a task is dispatched: the calls that change the session, and the result or
    the text of what is raised. -/
structure Behaviour where
  controls : List Control
  outcome : Except String ExecutionResult

/-- A dispatcher: how it behaves on a task after it has dispatched others. -/
abbrev Dispatcher := List EngineeringTask → EngineeringTask → Behaviour

/-- `Scheduler.schedule`. -/
def schedule (tasks : List EngineeringTask) : List EngineeringTask := tasks

/-! ## Sessions -/

/-- The events that the runtime publishes. -/
inductive ExecutionEvent where
  | executionStarted (executionId : String)
  | stepStarted (executionId : String) (step : Nat)
  | stepCompleted (executionId : String) (step : Nat) (success : Bool)
  | executionCompleted (executionId : String) (success : Bool)
  | executionFailed (executionId error : String)
  | executionCancelled (executionId reason : String)
  deriving DecidableEq, Repr

/-- `ExecutionMetrics`, as far as the runtime counts. -/
structure ExecutionMetrics where
  stepsTotal : Nat
  stepsCompleted : Nat
  stepsFailed : Nat
  deriving DecidableEq, Repr

/-- `ExecutionStep`. -/
structure ExecutionStep where
  step : Nat
  task : EngineeringTask
  success : Bool
  deriving DecidableEq, Repr

/-- A call of the dispatcher: the task, what came of it, and the state it left the session in. -/
structure Dispatch where
  task : EngineeringTask
  outcome : Except String ExecutionResult
  state : ExecutionState

/-- A session of the runtime. -/
structure Session where
  lifecycle : ExecutionState
  metrics : ExecutionMetrics
  events : List ExecutionEvent
  steps : List ExecutionStep
  dispatches : List Dispatch

/-- A session that has not executed anything. -/
def Session.new : Session := ⟨.created, ⟨0, 0, 0⟩, [], [], []⟩

/-- `ExecutionReport`. -/
structure ExecutionReport where
  state : ExecutionState
  steps : List ExecutionStep
  metrics : ExecutionMetrics
  success : Bool
  summary : String
  deriving DecidableEq, Repr

/-- How the loop over the tasks ends: it is left, something is raised, or it waits for a session
    that was paused to be resumed. -/
inductive LoopEnd where
  | left
  | raised (text : String)
  | waits
  deriving DecidableEq, Repr

/-- How `execute` ends. -/
inductive Ending where
  | returned (report : ExecutionReport)
  | raised (text : String)
  | waits
  deriving DecidableEq, Repr

namespace Session

variable (dispatcher : Dispatcher) (executionId : String)

/-- The session after the dispatcher was called with a task. -/
def dispatched (session : Session) (task : EngineeringTask) (behaviour : Behaviour) : Session :=
  let state := behaviour.controls.foldl Control.apply session.lifecycle
  { session with
    lifecycle := state
    events := session.events ++ [.stepStarted executionId session.steps.length]
    dispatches := session.dispatches ++ [⟨task, behaviour.outcome, state⟩] }

/-- The step, the metrics and the event of a result. -/
def recorded (session : Session) (task : EngineeringTask) (result : ExecutionResult) : Session :=
  { session with
    steps := session.steps ++ [⟨session.steps.length, task, result.success⟩]
    metrics :=
      if result.success then
        { session.metrics with stepsCompleted := session.metrics.stepsCompleted + 1 }
      else { session.metrics with stepsFailed := session.metrics.stepsFailed + 1 }
    events := session.events ++
      [.stepCompleted executionId session.steps.length result.success] }

/-- The loop of `execute`. -/
def runTasks (session : Session) : List EngineeringTask → LoopEnd × Session
  | [] => (.left, session)
  | task :: tasks =>
      if session.lifecycle = .cancelled then (.left, session)
      else if session.lifecycle = .paused then (.waits, session)
      else
        let behaviour := dispatcher (session.dispatches.map Dispatch.task) task
        let session := session.dispatched executionId task behaviour
        match behaviour.outcome with
        | .error text => (.raised text, session)
        | .ok result =>
            let session := session.recorded executionId task result
            if result.success then session.runTasks tasks
            else
              match transitionTo session.lifecycle .failed with
              | .error text => (.raised text, session)
              | .ok state =>
                  let error :=
                    if result.summary = "" then "Step execution failed." else result.summary
                  (.left, { session with
                    lifecycle := state
                    events := session.events ++ [.executionFailed executionId error] })

/-- What follows the loop. -/
def conclude (session : Session) : ExecutionReport × Session :=
  let state := if session.lifecycle = .running then .completed else session.lifecycle
  let summary := "Execution finished with state: " ++ state.value
  let success := decide (state = .completed)
  (⟨state, session.steps, session.metrics, success, summary⟩,
    { session with
      lifecycle := state
      events :=
        if success then session.events ++ [.executionCompleted executionId true]
        else session.events })

/-- `execute`. -/
def execute (session : Session) (tasks : List EngineeringTask) : Ending × Session :=
  match transitionTo session.lifecycle .ready with
  | .error text => (.raised text, session)
  | .ok first =>
      match transitionTo first .running with
      | .error text => (.raised text, { session with lifecycle := first })
      | .ok second =>
          let tasks := schedule tasks
          let started : Session := { session with
            lifecycle := second
            events := session.events ++ [ExecutionEvent.executionStarted executionId]
            metrics := { session.metrics with stepsTotal := tasks.length }
            steps := [] }
          match started.runTasks dispatcher executionId tasks with
          | (.raised text, session) => (.raised text, session)
          | (.waits, session) => (.waits, session)
          | (.left, session) =>
              let (report, session) := session.conclude executionId
              (.returned report, session)

end Session

end Eag.Execution
