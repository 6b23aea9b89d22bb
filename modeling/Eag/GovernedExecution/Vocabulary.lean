/-
  Eag.GovernedExecution.Vocabulary

  The typed vocabulary of the execution ledger: lifecycle states, stop reasons,
  evidence kinds, the table of legal transitions, and the rule that says which
  stop reason a state may carry (`governed_execution/enums.py` and the head of
  `governed_execution/models.py`).
-/

import Eag.Foundation.Checks
import Eag.Foundation.Text

namespace Eag.GovernedExecution

open Eag.Foundation

/-! ## Enumerations -/

/-- Lifecycle states of the ledger. -/
inductive GovernedExecutionState where
  | created
  | contextAssembling
  | planning
  | deciding
  | proposing
  | approvalPending
  | authorizing
  | mutating
  | verifying
  | reflecting
  | replanning
  | completed
  | failed
  | aborted
  deriving DecidableEq, Repr

/-- No further transition is legal from this state. -/
def GovernedExecutionState.isTerminal : GovernedExecutionState → Bool
  | .completed | .failed | .aborted => true
  | _ => false

/-- Safe terminal causes. -/
inductive GovernedExecutionStopReason where
  | success
  | iterationBudgetExhausted
  | mutationBudgetExhausted
  | verificationBudgetExhausted
  | policyRejected
  | authorizationFailed
  | providerFailed
  | verificationFailed
  | unrecoverable
  | userAborted
  deriving DecidableEq, Repr

/-- What an evidence reference points at. -/
inductive ExecutionEvidenceKind where
  | plan
  | decision
  | proposal
  | authorization
  | mutationReceipt
  | verification
  | reflection
  | memory
  | replanning
  deriving DecidableEq, Repr

/-! ## Texts -/

def GovernedExecutionState.value : GovernedExecutionState → String
  | .created => "created"
  | .contextAssembling => "context_assembling"
  | .planning => "planning"
  | .deciding => "deciding"
  | .proposing => "proposing"
  | .approvalPending => "approval_pending"
  | .authorizing => "authorizing"
  | .mutating => "mutating"
  | .verifying => "verifying"
  | .reflecting => "reflecting"
  | .replanning => "replanning"
  | .completed => "completed"
  | .failed => "failed"
  | .aborted => "aborted"

/-- The members in the order of the source. -/
def GovernedExecutionState.all : List GovernedExecutionState :=
  [.created, .contextAssembling, .planning, .deciding, .proposing, .approvalPending, .authorizing,
    .mutating, .verifying, .reflecting, .replanning, .completed, .failed, .aborted]

def GovernedExecutionStopReason.value : GovernedExecutionStopReason → String
  | .success => "success"
  | .iterationBudgetExhausted => "iteration_budget_exhausted"
  | .mutationBudgetExhausted => "mutation_budget_exhausted"
  | .verificationBudgetExhausted => "verification_budget_exhausted"
  | .policyRejected => "policy_rejected"
  | .authorizationFailed => "authorization_failed"
  | .providerFailed => "provider_failed"
  | .verificationFailed => "verification_failed"
  | .unrecoverable => "unrecoverable"
  | .userAborted => "user_aborted"

/-- The members in the order of the source. -/
def GovernedExecutionStopReason.all : List GovernedExecutionStopReason :=
  [.success, .iterationBudgetExhausted, .mutationBudgetExhausted, .verificationBudgetExhausted,
    .policyRejected, .authorizationFailed, .providerFailed, .verificationFailed, .unrecoverable,
    .userAborted]

def ExecutionEvidenceKind.value : ExecutionEvidenceKind → String
  | .plan => "plan"
  | .decision => "decision"
  | .proposal => "proposal"
  | .authorization => "authorization"
  | .mutationReceipt => "mutation_receipt"
  | .verification => "verification"
  | .reflection => "reflection"
  | .memory => "memory"
  | .replanning => "replanning"

/-- The members in the order of the source. -/
def ExecutionEvidenceKind.all : List ExecutionEvidenceKind :=
  [.plan, .decision, .proposal, .authorization, .mutationReceipt, .verification, .reflection,
    .memory, .replanning]

/-! ## Transition table -/

/-- `LEGAL_TRANSITIONS`. -/
def legalTransitions : GovernedExecutionState → List GovernedExecutionState
  | .created => [.contextAssembling, .aborted]
  | .contextAssembling => [.planning, .failed]
  | .planning => [.deciding, .failed, .aborted]
  | .deciding => [.proposing, .failed]
  | .proposing => [.approvalPending, .authorizing, .failed]
  | .approvalPending => [.authorizing, .aborted]
  | .authorizing => [.mutating, .failed]
  | .mutating => [.verifying, .failed]
  | .verifying => [.completed, .reflecting, .failed]
  | .reflecting => [.replanning, .failed]
  | .replanning => [.contextAssembling, .failed]
  | .completed => []
  | .failed => []
  | .aborted => []

/-- `is_legal`. -/
def isLegal (fromState toState : GovernedExecutionState) : Bool :=
  toState ∈ legalTransitions fromState

theorem isLegal_of_isTerminal {s : GovernedExecutionState} (h : s.isTerminal = true)
    (t : GovernedExecutionState) : isLegal s t = false := by
  cases s <;> first | exact absurd h (by decide) | rfl

theorem not_isTerminal_of_isLegal {s t : GovernedExecutionState} (h : isLegal s t = true) :
    s.isTerminal = false := by
  cases hs : s.isTerminal with
  | false => rfl
  | true => rw [isLegal_of_isTerminal hs t] at h; exact absurd h (by decide)

/-- The three states whose entry is metered are entered from states that may
    also fail, except that the first iteration starts from `created`. -/
theorem isLegal_failed_of_metered {s t : GovernedExecutionState} (h : isLegal s t = true)
    (hs : s ≠ .created) (ht : t = .contextAssembling ∨ t = .mutating ∨ t = .verifying) :
    isLegal s .failed = true := by
  rcases ht with rfl | rfl | rfl <;> revert h hs <;> cases s <;> decide

/-! ## Stop reasons -/

/-- `_validate_terminal_stop_reason`. -/
def validateTerminalStopReason (target : GovernedExecutionState)
    (stopReason : Option GovernedExecutionStopReason) : Except String Unit :=
  if target.isTerminal then
    match stopReason with
    | none => .error "terminal transition requires a stop_reason"
    | some r => do
        require (target = .completed → r = .success)
          "completed state requires success stop reason"
        require (target = .aborted → r = .userAborted)
          "aborted state requires user_aborted stop reason"
        require (target = .failed → r ≠ .success ∧ r ≠ .userAborted)
          "failed state requires a failure stop reason"
  else require (stopReason = none) "stop_reason is only legal for a terminal state"

/-- The stop reasons a state accepts. -/
def Admissible : GovernedExecutionState → Option GovernedExecutionStopReason → Prop
  | .completed, r => r = some .success
  | .aborted, r => r = some .userAborted
  | .failed, r => ∃ x, r = some x ∧ x ≠ .success ∧ x ≠ .userAborted
  | _, r => r = none

theorem validateTerminalStopReason_eq_ok (target : GovernedExecutionState)
    (r : Option GovernedExecutionStopReason) (u : Unit) :
    validateTerminalStopReason target r = .ok u ↔ Admissible target r := by
  cases target <;> cases r <;>
    simp [validateTerminalStopReason, Admissible, GovernedExecutionState.isTerminal]

theorem Admissible.eq_none {s : GovernedExecutionState}
    {r : Option GovernedExecutionStopReason} (h : Admissible s r)
    (hs : s.isTerminal = false) : r = none := by
  cases s <;> first | exact h | exact absurd hs (by decide)

end Eag.GovernedExecution
