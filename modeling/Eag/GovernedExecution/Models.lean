/-
  Eag.GovernedExecution.Models

  The execution ledger: budget, evidence references, transition records and the
  context that holds them (`governed_execution/models.py`).

  Values whose constructor checks something carry the check as a field. A
  context carries the result of its whole history validation, so a
  `GovernedExecutionContext` is by construction one that `__post_init__` would
  accept; `ContextFields` are the arguments before that check.
-/

import Eag.Foundation.Calendar
import Eag.Foundation.PyText
import Eag.GovernedExecution.Vocabulary

namespace Eag.GovernedExecution

open Eag.Foundation

/-! ## Budget -/

/-- Bounded limits and monotonic counters for one execution. -/
structure ExecutionBudget where
  maxIterations : Nat
  maxMutations : Nat
  maxVerifications : Nat
  iterationsUsed : Nat
  mutationsUsed : Nat
  verificationsUsed : Nat
  maxIterations_pos : 1 ≤ maxIterations
  maxMutations_pos : 1 ≤ maxMutations
  maxVerifications_pos : 1 ≤ maxVerifications
  iterationsUsed_le : iterationsUsed ≤ maxIterations
  mutationsUsed_le : mutationsUsed ≤ maxMutations
  verificationsUsed_le : verificationsUsed ≤ maxVerifications
  deriving DecidableEq, Repr

namespace ExecutionBudget

def iterationsRemaining (b : ExecutionBudget) : Nat := b.maxIterations - b.iterationsUsed

def mutationsRemaining (b : ExecutionBudget) : Nat := b.maxMutations - b.mutationsUsed

def verificationsRemaining (b : ExecutionBudget) : Nat :=
  b.maxVerifications - b.verificationsUsed

def consumeIteration (b : ExecutionBudget) : Except String ExecutionBudget :=
  if h : b.iterationsRemaining = 0 then .error "iteration budget is exhausted"
  else .ok { b with
    iterationsUsed := b.iterationsUsed + 1
    iterationsUsed_le := by have := b.iterationsUsed_le; unfold iterationsRemaining at h; omega }

def consumeMutation (b : ExecutionBudget) : Except String ExecutionBudget :=
  if h : b.mutationsRemaining = 0 then .error "mutation budget is exhausted"
  else .ok { b with
    mutationsUsed := b.mutationsUsed + 1
    mutationsUsed_le := by have := b.mutationsUsed_le; unfold mutationsRemaining at h; omega }

def consumeVerification (b : ExecutionBudget) : Except String ExecutionBudget :=
  if h : b.verificationsRemaining = 0 then .error "verification budget is exhausted"
  else .ok { b with
    verificationsUsed := b.verificationsUsed + 1
    verificationsUsed_le := by
      have := b.verificationsUsed_le; unfold verificationsRemaining at h; omega }

/-- The same maximum budgets with nothing consumed. -/
def fresh (b : ExecutionBudget) : ExecutionBudget :=
  { b with
    iterationsUsed := 0
    mutationsUsed := 0
    verificationsUsed := 0
    iterationsUsed_le := Nat.zero_le _
    mutationsUsed_le := Nat.zero_le _
    verificationsUsed_le := Nat.zero_le _ }

/-- The two budgets have the same maxima. -/
structure SameMax (b c : ExecutionBudget) : Prop where
  iterations : b.maxIterations = c.maxIterations
  mutations : b.maxMutations = c.maxMutations
  verifications : b.maxVerifications = c.maxVerifications

theorem SameMax.refl (b : ExecutionBudget) : SameMax b b := ⟨rfl, rfl, rfl⟩

theorem SameMax.trans {a b c : ExecutionBudget} (h : SameMax a b) (k : SameMax b c) :
    SameMax a c :=
  ⟨h.1.trans k.1, h.2.trans k.2, h.3.trans k.3⟩

/-- A budget is its maxima and its counters. -/
theorem ext_counters {b c : ExecutionBudget} (hm : SameMax b c)
    (hi : b.iterationsUsed = c.iterationsUsed) (hu : b.mutationsUsed = c.mutationsUsed)
    (hv : b.verificationsUsed = c.verificationsUsed) : b = c := by
  obtain ⟨h1, h2, h3⟩ := hm
  cases b
  cases c
  simp_all

end ExecutionBudget

/-! ## Evidence -/

mutual

/-- The redacted metadata shapes the ledger freezes. -/
inductive MetadataValue where
  | none
  | bool (b : Bool)
  | int (n : Int)
  | float (repr : String)
  | str (s : String)
  | bytes (data : List UInt8)
  | datetime (t : DateTime)
  | enum (value : String)
  | tuple (items : MetadataItems)
  | frozenset (items : MetadataItems)
  | mapping (entries : MetadataEntries)
  deriving DecidableEq, Repr

/-- The items of a frozen sequence or set. -/
inductive MetadataItems where
  | nil
  | cons (item : MetadataValue) (rest : MetadataItems)
  deriving DecidableEq, Repr

/-- The entries of a frozen mapping. -/
inductive MetadataEntries where
  | nil
  | cons (key : String) (item : MetadataValue) (rest : MetadataEntries)
  deriving DecidableEq, Repr

end

/-- One redacted reference to an execution artifact. -/
structure ExecutionEvidenceRef where
  kind : ExecutionEvidenceKind
  referenceId : PyText
  digest : PyText
  metadata : MetadataEntries
  referenceId_nonBlank : referenceId.NonBlank
  deriving DecidableEq, Repr

/-! ## Transition records -/

/-- Evidence of one accepted transition. -/
structure ExecutionTransitionRecord where
  sequence : Nat
  iteration : Nat
  fromState : GovernedExecutionState
  toState : GovernedExecutionState
  occurredAt : DateTime
  reason : Option GovernedExecutionStopReason
  evidence : List ExecutionEvidenceRef
  sequence_pos : 1 ≤ sequence
  deriving DecidableEq, Repr

/-! ## Context -/

/-- The arguments of a context, before its history is validated. -/
structure ContextFields where
  executionId : PyText
  runId : PyText
  goal : PyText
  state : GovernedExecutionState
  iteration : Nat
  budget : ExecutionBudget
  history : List ExecutionTransitionRecord
  evidence : List ExecutionEvidenceRef
  stopReason : Option GovernedExecutionStopReason
  metadata : MetadataEntries
  deriving DecidableEq, Repr

/-- The accumulators of the loop in `_validate_history`. -/
structure Replay where
  expectedSequence : Nat
  expectedState : GovernedExecutionState
  expectedIteration : Nat
  mutationEntries : Nat
  verificationEntries : Nat
  ledgerEvidence : List ExecutionEvidenceRef
  deriving DecidableEq, Repr

def Replay.init : Replay where
  expectedSequence := 1
  expectedState := .created
  expectedIteration := 0
  mutationEntries := 0
  verificationEntries := 0
  ledgerEvidence := []

/-- One turn of the loop in `_validate_history`. -/
def Replay.step (r : Replay) (record : ExecutionTransitionRecord) : Except String Replay := do
  require (record.sequence = r.expectedSequence)
    "history sequence must be contiguous and start at one"
  require (record.fromState = r.expectedState)
    "history transitions must originate at created and remain contiguous"
  require (record.toState ∈ legalTransitions record.fromState)
    "history contains an illegal transition"
  require (r.expectedState.isTerminal = false)
    "terminal history state cannot have additional transitions"
  let expectedIteration :=
    if record.toState = .contextAssembling then r.expectedIteration + 1
    else r.expectedIteration
  require (record.iteration = expectedIteration)
    "history iteration must match the recorded lifecycle"
  validateTerminalStopReason record.toState record.reason
  .ok {
    expectedSequence := r.expectedSequence + 1
    expectedState := record.toState
    expectedIteration := expectedIteration
    mutationEntries :=
      if record.toState = .mutating then r.mutationEntries + 1 else r.mutationEntries
    verificationEntries :=
      if record.toState = .verifying then r.verificationEntries + 1
      else r.verificationEntries
    ledgerEvidence := r.ledgerEvidence ++ record.evidence }

namespace ContextFields

/-- `_validate_initial_context`. -/
def validateInitialContext (c : ContextFields) : Except String Unit := do
  require (c.state = .created) "non-created context requires a valid transition history"
  require (c.iteration = 0 ∧ c.budget.iterationsUsed = 0)
    "created context cannot consume iteration budget"
  require (c.budget.mutationsUsed = 0) "created context cannot consume mutation budget"
  require (c.budget.verificationsUsed = 0)
    "created context cannot consume verification budget"
  require (c.evidence = []) "created context cannot contain ledger evidence"
  require (c.stopReason = none) "created context cannot have a stop_reason"

/-- The comparisons of `_validate_history` after its loop. -/
def checkReplay (c : ContextFields) (r : Replay) : Except String Unit := do
  require (r.expectedState = c.state) "history terminal state must equal current state"
  require (r.expectedIteration = c.iteration)
    "history iteration must equal current iteration"
  require (c.iteration = c.budget.iterationsUsed)
    "iteration must equal the consumed iteration budget"
  require (r.mutationEntries = c.budget.mutationsUsed)
    "mutation budget must equal legitimate mutating entries"
  require (r.verificationEntries = c.budget.verificationsUsed)
    "verification budget must equal legitimate verifying entries"
  require (r.ledgerEvidence = c.evidence)
    "context evidence must exactly equal flattened ledger evidence"
  if c.state.isTerminal then
    require (c.stopReason = c.history.getLast?.bind (·.reason))
      "terminal context stop_reason must match the final ledger record"
  else require (c.stopReason = none) "stop_reason requires a terminal state"

/-- `_validate_history`. -/
def validateHistory (c : ContextFields) : Except String Unit :=
  if c.history = [] then c.validateInitialContext
  else do
    let r ← c.history.foldlM Replay.step Replay.init
    c.checkReplay r

/-- `GovernedExecutionContext.__post_init__`. -/
def validate (c : ContextFields) : Except String Unit := do
  require c.executionId.NonBlank "execution_id cannot be empty"
  require c.runId.NonBlank "run_id cannot be empty"
  require c.goal.NonBlank "goal cannot be empty"
  c.validateHistory

end ContextFields

/-- An execution context, with its accepted validation. -/
structure GovernedExecutionContext extends ContextFields where
  validated : toContextFields.validate = .ok ()
  deriving DecidableEq, Repr

/-- The constructor: the context, or the error its validation raises. -/
def GovernedExecutionContext.construct (c : ContextFields) :
    Except String GovernedExecutionContext :=
  match h : c.validate with
  | .ok () => .ok ⟨c, h⟩
  | .error message => .error message

theorem GovernedExecutionContext.construct_eq_ok (c : ContextFields)
    (ctx : GovernedExecutionContext) :
    construct c = .ok ctx ↔ c = ctx.toContextFields := by
  unfold construct
  split
  · rename_i h
    constructor
    · rintro ⟨⟩; rfl
    · rintro rfl; rfl
  · rename_i message h
    constructor
    · intro h'; exact absurd h' (by simp)
    · rintro rfl; rw [ctx.validated] at h; exact absurd h (by simp)

end Eag.GovernedExecution
