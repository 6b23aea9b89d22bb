/-
  Eag.Chief.Models

  Vocabulary and contracts of the Chief runtime (`chief/runtime/enums.py`,
  `chief/runtime/models.py`, `chief/runtime/events.py`) and of the capabilities it
  calls (`capability/`).

  Identities drawn at random, timestamps, durations, metrics, checkpoints (always
  empty), artifacts and the descriptions of steps decide nothing in a run and are
  left out.
-/

import Eag.Foundation.JsonDecoder

namespace Eag.Chief

open Eag.Foundation

/-! ## Vocabulary -/

/-- Lifecycle state of a run. -/
inductive RunState where
  | created
  | received
  | analyzing
  | planning
  | ready
  | executing
  | validating
  | completed
  | failed
  | paused
  | cancelled
  | rollingBack
  deriving DecidableEq, Repr

namespace RunState

def value : RunState → String
  | created => "created"
  | received => "received"
  | analyzing => "analyzing"
  | planning => "planning"
  | ready => "ready"
  | executing => "executing"
  | validating => "validating"
  | completed => "completed"
  | failed => "failed"
  | paused => "paused"
  | cancelled => "cancelled"
  | rollingBack => "rolling_back"

def isTerminal (state : RunState) : Bool :=
  state = completed || state = failed || state = cancelled

/-- The states that `can_transition_to` lists for a state. -/
def allowed : RunState → List RunState
  | created => [received, cancelled]
  | received => [analyzing, planning, cancelled]
  | analyzing => [planning, failed, cancelled]
  | planning => [ready, failed, cancelled]
  | ready => [executing, cancelled]
  | executing => [validating, completed, failed, paused, cancelled, rollingBack]
  | validating => [executing, completed, failed, rollingBack, cancelled]
  | paused => [executing, cancelled]
  | rollingBack => [failed, completed]
  | completed | failed | cancelled => []

def canTransitionTo (state target : RunState) : Bool :=
  !state.isTerminal && (state = target || target ∈ state.allowed)

end RunState

inductive RunPhase where
  | initialization
  | analysis
  | planning
  | execution
  | validation
  | completion
  deriving DecidableEq, Repr

inductive RunOutcome where
  | success
  | failure
  | cancelled
  | partialOutcome
  deriving DecidableEq, Repr

def RunOutcome.value : RunOutcome → String
  | .success => "success"
  | .failure => "failure"
  | .cancelled => "cancelled"
  | .partialOutcome => "partial"

/-- What a validator decides after an execution. -/
inductive ValidationDecision where
  | continueRun
  | retry
  | rollback
  | abort
  | escalate
  deriving DecidableEq, Repr

def ValidationDecision.value : ValidationDecision → String
  | .continueRun => "continue"
  | .retry => "retry"
  | .rollback => "rollback"
  | .abort => "abort"
  | .escalate => "escalate"

/-- Lifecycle state of a plan step. -/
inductive StepState where
  | pending
  | running
  | success
  | failed
  | skipped
  | rolledBack
  deriving DecidableEq, Repr

inductive CapabilityOutcome where
  | success
  | failure
  | skipped
  | partialOutcome
  deriving DecidableEq, Repr

/-! ## Plans and runs -/

/-- Context of a run. -/
structure RunContext where
  runId : String
  goalText : String
  metadata : PyEntries
  goalText_nonBlank : NonBlank goalText

/-- A step of a plan. -/
structure PlanStep where
  stepId : String
  name : String
  capabilityId : String
  dependencies : List String
  state : StepState
  metadata : PyEntries
  name_nonBlank : NonBlank name

structure Plan where
  planId : String
  steps : List PlanStep

/-- The identities of the steps of a plan. -/
def Plan.stepIds (plan : Plan) : List String := plan.steps.map (·.stepId)

/-- The result of one execution of a step. -/
structure StepResult where
  stepId : String
  success : Bool
  output : String
  error : Option String
  metadata : PyEntries

/-- The result of a run. -/
structure RunResult where
  runId : String
  outcome : RunOutcome
  plan : Option Plan
  stepResults : List StepResult
  summary : String

/-- The history of a run. -/
structure ChiefRun where
  context : RunContext
  state : RunState
  phase : RunPhase
  plan : Option Plan
  stepResults : List StepResult
  outcome : Option RunOutcome
  error : Option String

/-- `run_id`. -/
def ChiefRun.runId (run : ChiefRun) : String := run.context.runId

/-- What the coordinator publishes; every event carries the identity of its run. -/
inductive RuntimeEvent where
  | planningStarted (runId : String)
  | planningCompleted (runId planId : String) (stepCount : Nat)
  | executionStarted (runId stepId : String)
  | executionCompleted (runId stepId : String) (success : Bool)
  | validationStarted (runId stepId : String)
  | validationCompleted (runId stepId decision : String)
  | runFinished (runId outcome : String)
  | runFailed (runId error : String)
  deriving DecidableEq, Repr

/-! ## Capabilities -/

structure CapabilityRequest where
  capabilityId : String
  goalText : String
  parameters : PyEntries

/-- Context given to a capability. -/
structure CapabilityContext where
  workspacePath : Option PyValue
  repositoryPath : Option PyValue
  metadata : PyEntries

structure CapabilityResult where
  outcome : CapabilityOutcome
  output : String
  error : Option String
  metadata : PyEntries

/-- `success`. -/
def CapabilityResult.success (result : CapabilityResult) : Bool := result.outcome = .success

/-- A capability: what it returns, or the text of what it raises, when it is executed after so
    many executions. -/
structure Capability where
  execute : Nat → CapabilityRequest → CapabilityContext → Except String CapabilityResult

/-- The registered capabilities, by identity. -/
abbrev CapabilityRegistry := String → Option Capability

/-- `CapabilityRegistry.find`. -/
def CapabilityRegistry.find (registry : CapabilityRegistry) (capabilityId : String) :
    Except String Capability :=
  match registry capabilityId with
  | none => .error ("Capability '" ++ capabilityId ++ "' not found.")
  | some capability => .ok capability

/-- `CapabilityRuntime.execute`: whatever is raised becomes a failed result. -/
def CapabilityRegistry.execute (registry : CapabilityRegistry) (earlier : Nat)
    (request : CapabilityRequest) (context : CapabilityContext) : CapabilityResult :=
  match registry.find request.capabilityId >>= (·.execute earlier request context) with
  | .ok result => result
  | .error text => ⟨.failure, "", some text, .nil⟩

end Eag.Chief
