/-
  Eag.Autonomous.Runtime

  The autonomous loop: its contracts (`autonomous/models.py`, `enums.py`), its approvals
  (`approval.py`), its completion and recovery engines (`completion.py`, `recovery.py`),
  and `execute` and `resume` (`runtime.py`).

  Timestamps, durations, confidences and metadata decide nothing in the loop and
  are left out.

  The engines are injected, with `completionEngine` and `recoveryEngine` as defaults.
  What the Chief, the reflection and the memory give in an iteration, and the
  identity a new approval request draws, are inputs.
-/

import Mathlib.Data.List.Sort
import Mathlib.Data.String.Basic
import Eag.Foundation.Text

namespace Eag.Autonomous

open Eag.Foundation

/-! ## Vocabulary -/

inductive LoopState where
  | created
  | running
  | reflecting
  | replanning
  | waitingApproval
  | completed
  | failed
  | aborted
  deriving DecidableEq, Repr

inductive LoopOutcome where
  | continueLoop
  | finished
  | failed
  | paused
  | waitingApproval
  deriving DecidableEq, Repr

def LoopOutcome.value : LoopOutcome → String
  | .continueLoop => "continue"
  | .finished => "finished"
  | .failed => "failed"
  | .paused => "paused"
  | .waitingApproval => "waiting_approval"

/-- What the completion engine can recommend. -/
inductive CompletionAction where
  | continueLoop
  | stop
  | replan
  | escalate
  deriving DecidableEq, Repr

inductive RecoveryPolicy where
  | retry
  | differentWorker
  | differentCapability
  | differentStrategy
  | abort
  deriving DecidableEq, Repr

inductive RecoveryActionType where
  | retry
  | excludeWorker
  | changeCapability
  | changeStrategy
  | abort
  deriving DecidableEq, Repr

inductive ApprovalState where
  | pending
  | approved
  | rejected
  | timeout
  deriving DecidableEq, Repr

inductive RunOutcome where
  | success
  | failure
  | cancelled
  | partialOutcome
  deriving DecidableEq, Repr

inductive Severity where
  | info
  | low
  | medium
  | high
  | critical
  deriving DecidableEq, Repr

/-! ## Runs and reports -/

/-- A plan: its identity and the capabilities of its steps. -/
structure Plan where
  planId : String
  capabilityIds : List String
  deriving DecidableEq, Repr

/-- The result of a Chief run. -/
structure RunResult where
  runId : String
  outcome : RunOutcome
  plan : Option Plan
  planningDecisionId : Option String
  deriving DecidableEq, Repr

/-- A reflection report. -/
structure ReflectionReport where
  id : String
  reviewScore : Int
  findings : List Severity
  deriving DecidableEq, Repr

/-! ## Loop -/

/-- A request for human approval. -/
structure ApprovalRequest where
  id : String
  loopId : String
  iteration : Nat
  reason : String
  state : ApprovalState
  reviewedBy : Option String
  comments : String
  deriving DecidableEq, Repr

/-- One pass of the loop. -/
structure LoopIteration where
  iterationNumber : Nat
  runId : String
  planId : String
  reflectionId : String
  memoryId : String
  planningDecisionId : Option String
  success : Bool
  deriving DecidableEq, Repr

/-- The decision made between iterations. -/
structure LoopDecision where
  continueLoop : Bool
  reason : String
  action : CompletionAction
  requiresHuman : Bool
  recoveryPolicy : RecoveryPolicy
  deriving DecidableEq, Repr

structure LoopMetrics where
  totalIterations : Nat
  successfulIterations : Nat
  failedIterations : Nat
  replansTriggered : Nat
  deriving DecidableEq, Repr

/-- What a loop is asked to do. -/
structure LoopContext where
  loopId : String
  goal : String
  maxIterations : Nat
  goal_nonBlank : NonBlank goal
  maxIterations_pos : 1 ≤ maxIterations

/-- The result of a loop. -/
structure LoopResult where
  loopId : String
  state : LoopState
  outcome : LoopOutcome
  iterations : List LoopIteration
  finalDecision : Option LoopDecision
  metrics : LoopMetrics
  summary : String
  pendingApprovalId : Option String
  deriving DecidableEq, Repr

/-! ## Approvals -/

/-- The requests of an `ApprovalRuntime`, by identity. -/
abbrev Approvals := String → Option ApprovalRequest

namespace Approvals

variable (approvals : Approvals)

/-- The approvals with a request stored under its identity. -/
def store (request : ApprovalRequest) : Approvals :=
  Function.update approvals request.id (some request)

/-- `request_approval`. -/
def requestApproval (id loopId : String) (iteration : Nat) (reason : String) : Approvals :=
  approvals.store ⟨id, loopId, iteration, reason, .pending, none, ""⟩

/-- `approve` and `reject`: the request is replaced, whatever its state was. -/
def resolve (requestId : String) (state : ApprovalState) (reviewer : String)
    (comments : ApprovalRequest → String) : Except String Approvals :=
  match approvals requestId with
  | none => .error ("Approval request '" ++ requestId ++ "' not found.")
  | some request => .ok (approvals.store { request with
      state := state
      reviewedBy := some reviewer
      comments := comments request })

/-- `approve`. -/
def approve (requestId reviewer : String) : Except String Approvals :=
  approvals.resolve requestId .approved reviewer (·.comments)

/-- `reject`. -/
def reject (requestId reviewer comments : String) : Except String Approvals :=
  approvals.resolve requestId .rejected reviewer fun _ => comments

/-- `record_decision`. -/
def recordDecision (approvalId : String) (approved : Bool) (reviewer : String) :
    Except String Approvals :=
  if approved then approvals.approve approvalId reviewer
  else approvals.reject approvalId reviewer ""

/-- The state of a request. -/
def stateOf (id : String) : Option ApprovalState := (approvals id).map (·.state)

end Approvals

/-! ## Engines -/

/-- What a completion engine answers for the results of an iteration, its number and the
    maximum. -/
abbrev CompletionEngine := RunResult → ReflectionReport → Nat → Nat → LoopDecision

abbrev RecoveryEngine := RunResult → LoopDecision → RecoveryActionType

/-- `CompletionEngine.evaluate`. -/
def completionEngine : CompletionEngine := fun run report iteration maxIterations =>
  if run.outcome = .failure then
    if iteration ≥ maxIterations then
      ⟨false, "Max iterations reached after failure.", .escalate, false, .abort⟩
    else ⟨true, "Execution failed. Attempting recovery.", .replan, false, .retry⟩
  else if report.reviewScore < 80 then
    if iteration ≥ maxIterations then
      ⟨false, "Max iterations reached. Review score still below threshold.", .escalate, false,
        .retry⟩
    else
      ⟨true, "Review score " ++ toString report.reviewScore ++ " is below 80. Needs improvement.",
        .continueLoop, false, .differentStrategy⟩
  else if .critical ∈ report.findings then
    ⟨false, "Critical issues detected in reflection.", .escalate, false, .abort⟩
  else
    ⟨false, "Engineering objective satisfied. Review score is acceptable.", .stop, false, .retry⟩

/-- `RecoveryEngine.evaluate`, as far as the loop reads it. -/
def recoveryEngine : RecoveryEngine := fun _ decision =>
  match decision.recoveryPolicy with
  | .abort => .abort
  | .retry => .retry
  | .differentWorker => .excludeWorker
  | .differentCapability => .changeCapability
  | .differentStrategy => .changeStrategy

/-! ## Plan signatures -/

/-- `_get_plan_signature`. -/
def planSignature : Option Plan → String
  | none => "no_plan"
  | some plan => String.intercalate "|" (plan.capabilityIds.insertionSort (· ≤ ·))

/-- `_is_oscillating`, from the newest signature back. -/
def isOscillating (planHistory : List String) : Bool :=
  match planHistory.reverse with
  | a :: b :: c :: d :: _ => a ≠ b && a = c && b = d
  | _ => false

/-! ## Execute -/

/-- What an iteration is given: the Chief's run, the reflection on it, the memory entry, and
    the identity of an approval request if one is made. -/
structure IterationInput where
  run : RunResult
  report : ReflectionReport
  memoryId : String
  approvalId : String

/-- `_create_iteration`. -/
def createIteration (number : Nat) (input : IterationInput) : LoopIteration where
  iterationNumber := number
  runId := input.run.runId
  planId := (input.run.plan.map (·.planId)).getD ""
  reflectionId := input.report.id
  memoryId := input.memoryId
  planningDecisionId := input.run.planningDecisionId
  success := input.run.outcome = .success

/-- `_calculate_metrics`. -/
def calculateMetrics (iterations : List LoopIteration) : LoopMetrics where
  totalIterations := iterations.length
  successfulIterations := iterations.countP (·.success)
  failedIterations := iterations.countP (!·.success)
  replansTriggered := iterations.countP (·.planningDecisionId.isSome)

/-- Which statement of the loop ended it. -/
inductive LoopExit where
  | oscillation
  | approval
  | recovery
  | decision
  | exhausted
  deriving DecidableEq, Repr

/-- What a call of `execute` has accumulated; `decisions` are those the completion engine
    made. -/
structure LoopProgress where
  iterations : List LoopIteration
  planHistory : List String
  decisions : List LoopDecision

/-- A call of `execute` that returned: the result, the approvals after it, the completion
    decisions it asked for and what ended it. -/
structure LoopRun where
  result : LoopResult
  approvals : Approvals
  decisions : List LoopDecision
  exit : LoopExit

/-- The decision on an oscillation. -/
def oscillationDecision : LoopDecision where
  continueLoop := false
  reason :=
    "Oscillation detected: The planner is cycling between the same plans without progress."
  action := .escalate
  requiresHuman := false
  recoveryPolicy := .abort

/-- The decision when the iterations are used up. -/
def exhaustionDecision : LoopDecision where
  continueLoop := false
  reason := "Max iterations reached without completion."
  action := .escalate
  requiresHuman := false
  recoveryPolicy := .retry

/-- The result after the loop. -/
def loopFinished (loopId : String) (state : LoopState) (outcome : LoopOutcome)
    (iterations : List LoopIteration) (decision : LoopDecision) : LoopResult where
  loopId := loopId
  state := state
  outcome := outcome
  iterations := iterations
  finalDecision := some decision
  metrics := calculateMetrics iterations
  summary := "Loop finished with outcome: " ++ outcome.value
  pendingApprovalId := none

/-- The result of a loop that waits for a human. -/
def loopPaused (loopId : String) (iterations : List LoopIteration) (decision : LoopDecision)
    (approvalId : String) : LoopResult where
  loopId := loopId
  state := .waitingApproval
  outcome := .waitingApproval
  iterations := iterations
  finalDecision := some decision
  metrics := calculateMetrics iterations
  summary := "Loop paused for human approval: " ++ decision.reason
  pendingApprovalId := some approvalId

section

variable (completion : CompletionEngine) (recovery : RecoveryEngine) (context : LoopContext)
  (inputs : Nat → IterationInput) (approvals : Approvals)

/-- The loop of `execute`, from an iteration with so many still to go. -/
def iterate : Nat → Nat → LoopProgress → LoopRun
  | 0, _, progress =>
      ⟨loopFinished context.loopId .failed .failed progress.iterations exhaustionDecision,
        approvals, progress.decisions, .exhausted⟩
  | remaining + 1, number, progress =>
      let input := inputs number
      let planHistory := progress.planHistory ++ [planSignature input.run.plan]
      let iterations := progress.iterations ++ [createIteration number input]
      if isOscillating planHistory then
        ⟨loopFinished context.loopId .aborted .failed iterations oscillationDecision,
          approvals, progress.decisions, .oscillation⟩
      else
        let decision := completion input.run input.report number context.maxIterations
        let decisions := progress.decisions ++ [decision]
        if decision.requiresHuman then
          ⟨loopPaused context.loopId iterations decision input.approvalId,
            approvals.requestApproval input.approvalId context.loopId number decision.reason,
            decisions, .approval⟩
        else if decision.action = .replan ∧ recovery input.run decision = .abort then
          ⟨loopFinished context.loopId .aborted .failed iterations decision,
            approvals, decisions, .recovery⟩
        else if decision.continueLoop = false then
          if decision.action = .stop then
            ⟨loopFinished context.loopId .completed .finished iterations decision,
              approvals, decisions, .decision⟩
          else
            ⟨loopFinished context.loopId .failed .failed iterations decision,
              approvals, decisions, .decision⟩
        else iterate remaining (number + 1) ⟨iterations, planHistory, decisions⟩

/-- `execute`. -/
def execute : LoopRun :=
  iterate completion recovery context inputs approvals context.maxIterations 1 ⟨[], [], []⟩

end

/-! ## Resume -/

/-- `resume`: the approvals after it and the result. -/
def resume (approvals : Approvals) (loopResult : LoopResult) (approved : Bool)
    (reviewer : String) : Except String (Approvals × LoopResult) :=
  if loopResult.state ≠ .waitingApproval then
    .error "Can only resume a loop waiting for approval."
  else
    match loopResult.pendingApprovalId with
    | none => .error "Paused loop result is missing an approval identifier."
    | some approvalId => do
        let approvals ← approvals.recordDecision approvalId approved reviewer
        .ok (approvals, { loopResult with
          state := if approved then .completed else .aborted
          outcome := if approved then .finished else .failed
          summary := if approved then "Loop resumed and approved."
            else "Loop aborted due to rejection."
          pendingApprovalId := none })

end Eag.Autonomous
