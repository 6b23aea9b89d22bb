/-
  Eag.GovernedExecution.Runs

  Runs of `transition` calls. The results here are about every sequence of
  requests, accepted or refused: what the ledger, the counters and the terminal
  states do along a run, and how many transitions a run can accept at all.

  The bound comes from the shape of the transition table: every legal transition moves
  forward along one cycle of ten states, and only `replanning → contextAssembling` starts
  it again, which costs one iteration, one mutation and one verification (`Phase`).
-/

import Eag.Foundation.Runs
import Eag.GovernedExecution.Ledger

namespace Eag.GovernedExecution

open Eag.Foundation

/-- The context after a list of `transition` calls, each on the context the one
    before it returned. -/
def run (context : GovernedExecutionContext) (requests : List TransitionRequest) :
    GovernedExecutionContext :=
  runFrom (fun c q => (transition c q).context) context requests

/-- How many of the calls were accepted. -/
def acceptedCount (context : GovernedExecutionContext) : List TransitionRequest → Nat
  | [] => 0
  | q :: qs =>
      (if (transition context q).accepted then 1 else 0) +
        acceptedCount (transition context q).context qs

theorem run_append (c : GovernedExecutionContext) (qs rs : List TransitionRequest) :
    run c (qs ++ rs) = run (run c qs) rs :=
  runFrom_append _ c qs rs

/-! ## What one call preserves -/

/-- A refused call returns the context it was given. -/
theorem transition_context_of_rejected (c : GovernedExecutionContext) (q : TransitionRequest)
    (h : (transition c q).accepted = false) : (transition c q).context = c := by
  rcases transition_cases c q with ⟨code, ht, -⟩ | ⟨c', ht, -⟩
  · rw [ht]; rfl
  · rw [ht] at h; cases h

theorem transition_history (c : GovernedExecutionContext) (q : TransitionRequest) :
    ∃ added, (transition c q).context.history = c.history ++ added ∧
      added.length = if (transition c q).accepted then 1 else 0 := by
  rcases transition_cases c q with ⟨code, ht, -⟩ | ⟨c', ht, -, -, hf⟩
  · exact ⟨[], by simp [ht, TransitionResult.ofRejected], by
      simp [ht, TransitionResult.ofRejected]⟩
  · exact ⟨[nextRecord c q], by simp [ht, TransitionResult.ofAccepted, hf, nextFields], by
      simp [ht, TransitionResult.ofAccepted]⟩

theorem transition_sameMax (c : GovernedExecutionContext) (q : TransitionRequest) :
    (transition c q).context.budget.SameMax c.budget := by
  rcases transition_cases c q with ⟨code, ht, -⟩ | ⟨c', ht, -, -, hf⟩
  · rw [ht]; exact .refl _
  · rw [ht]
    show c'.budget.SameMax c.budget
    rw [hf]
    exact (meter_counters c q.target).1

/-- No call leaves a terminal state. -/
theorem transition_of_isTerminal (c : GovernedExecutionContext)
    (h : c.state.isTerminal = true) (q : TransitionRequest) : (transition c q).context = c := by
  refine transition_context_of_rejected c q ?_
  have hl : isLegal c.state q.target = false := isLegal_of_isTerminal h _
  simp [transition, hl, TransitionResult.ofRejected]

/-- **A legal request over budget is accepted as a failure**, with the stop
    reason of the budget it would exceed, whatever reason was asked for. -/
theorem transition_of_exhausts (c : GovernedExecutionContext) (q : TransitionRequest)
    (hl : isLegal c.state q.target = true) (he : Exhausts c.budget q.target) :
    (transition c q).accepted = true ∧ isLegal c.state .failed = true ∧
      (transition c q).context.state = .failed ∧
      (transition c q).context.stopReason = exhaustionReason q.target ∧
      (transition c q).context.budget = c.budget := by
  have hm : meter c q.target = ⟨.failed, c.iteration, c.budget, exhaustionReason q.target⟩ := by
    rcases meter_cases' c q.target with ⟨-, hm⟩ | ⟨hn, -⟩
    · exact hm
    · exact absurd he hn
  obtain ⟨limit, hspent⟩ := he
  have hreason : resolvedStopReason c q = exhaustionReason q.target ∧
      Admissible .failed (exhaustionReason q.target) := by
    rw [resolvedStopReason, hm]
    cases hq : q.target <;> rw [hq] at hspent <;>
      simp [spent, exhaustionReason, Admissible] at hspent ⊢
  have hadm : Admissible (meter c q.target).target (resolvedStopReason c q) := by
    rw [hm, hreason.1]; exact hreason.2
  rcases transition_cases c q with ⟨code, -, hn | hn⟩ | ⟨c', ht, -, -, hf⟩
  · rw [hl] at hn; cases hn
  · exact absurd hadm hn
  · rw [ht]
    refine ⟨rfl, isLegal_failed_of_exhausts c hl ⟨limit, hspent⟩, ?_⟩
    simp only [TransitionResult.ofAccepted, hf, nextFields, hm, hreason.1, and_self]

/-! ## The run-length bound -/

/-- Where a running state stands in the cycle. -/
def position : GovernedExecutionState → Nat
  | .contextAssembling => 1
  | .planning => 2
  | .deciding => 3
  | .proposing => 4
  | .approvalPending => 5
  | .authorizing => 6
  | .mutating => 7
  | .verifying => 8
  | .reflecting => 9
  | .replanning => 10
  | _ => 0

/-- How long a ledger can be, against the entries its counters count. -/
inductive Phase (h : List ExecutionTransitionRecord) : Prop where
  /-- Nothing happened yet. -/
  | created (empty : h = [])
  /-- The cycle is running: its position bounds the records of this iteration. -/
  | running (notTerminal : (lastState h).isTerminal = false) (started : 1 ≤ position (lastState h))
      (length : h.length + 10 ≤ 10 * entries .contextAssembling h + position (lastState h))
      (mutations : entries .contextAssembling h =
        entries .mutating h + if position (lastState h) < 7 then 1 else 0)
      (verifications : entries .contextAssembling h =
        entries .verifying h + if position (lastState h) < 8 then 1 else 0)
  /-- The run has stopped. -/
  | stopped (terminal : (lastState h).isTerminal = true)
      (iterations : h.length ≤ 10 * entries .contextAssembling h + 1)
      (mutations : h.length ≤ 10 * entries .mutating h + 7)
      (verifications : h.length ≤ 10 * entries .verifying h + 8)

/-- A legal transition moves forward in the cycle, starts it again, or stops. -/
theorem position_of_isLegal {s t : GovernedExecutionState} (h : isLegal s t = true) :
    t.isTerminal = true ∨ (t = .contextAssembling ∧ (s = .created ∨ s = .replanning)) ∨
      (t.isTerminal = false ∧ position s < position t ∧ 1 ≤ position s ∧
        (t = .mutating ↔ position s < 7 ∧ 7 ≤ position t) ∧
        (t = .verifying ↔ position s < 8 ∧ 8 ≤ position t) ∧ t ≠ .contextAssembling) := by
  revert h; cases s <;> cases t <;> decide

/-- A run that stops adds one record and enters no counted state. -/
theorem entryCount_of_isTerminal {t : GovernedExecutionState} (h : t.isTerminal = true) :
    entryCount .contextAssembling t = 0 ∧ entryCount .mutating t = 0 ∧
      entryCount .verifying t = 0 := by
  revert h; cases t <;> decide

theorem Phase.snoc {h : List ExecutionTransitionRecord} {record : ExecutionTransitionRecord}
    (hp : Phase h) (hl : isLegal (lastState h) record.toState = true) :
    Phase (h ++ [record]) := by
  have hs : lastState (h ++ [record]) = record.toState := lastState_append_singleton h record
  have hlen : (h ++ [record]).length = h.length + 1 := by simp
  have hent : ∀ s, entries s (h ++ [record]) = entries s h + entryCount s record.toState := by
    simp
  rcases position_of_isLegal hl with ht | ⟨ht, hfrom⟩ | ⟨ht, hlt, hpos, hm, hv, hc⟩
  · -- the run stops: the new record is the only one past the cycle's count
    obtain ⟨h1, h2, h3⟩ := entryCount_of_isTerminal ht
    refine .stopped (hs ▸ ht) ?_ ?_ ?_ <;> rw [hlen, hent] <;>
      cases hp with
      | created empty => subst empty; simp
      | running _ _ length mutations verifications =>
          have hle : position (lastState h) ≤ 10 := by cases lastState h <;> decide
          split at mutations <;> split at verifications <;> omega
      | stopped terminal _ _ _ =>
          rw [isLegal_of_isTerminal terminal] at hl; cases hl
  · -- the cycle starts, or starts again
    have hpos : position (lastState (h ++ [record])) = 1 := by rw [hs, ht]; rfl
    have hc : entries .contextAssembling (h ++ [record]) =
        entries .contextAssembling h + 1 := by rw [hent, ht]; rfl
    have hm : entries .mutating (h ++ [record]) = entries .mutating h := by rw [hent, ht]; rfl
    have hv : entries .verifying (h ++ [record]) = entries .verifying h := by
      rw [hent, ht]; rfl
    have hnt : (lastState (h ++ [record])).isTerminal = false := by rw [hs, ht]; rfl
    cases hp with
    | created empty =>
        subst empty
        refine .running hnt (by omega) ?_ ?_ ?_ <;> rw [hpos, hc]
        · simp
        · rw [hm]; rfl
        · rw [hv]; rfl
    | running _ started length mutations verifications =>
        rcases hfrom with hfrom | hfrom
        · rw [hfrom] at started; exact absurd started (by decide)
        · rw [hfrom] at length mutations verifications
          simp only [position, Nat.reduceLT, if_false] at length mutations verifications
          refine .running hnt (by omega) ?_ ?_ ?_ <;> rw [hpos, hc]
          · omega
          · rw [hm, mutations]; rfl
          · rw [hv, verifications]; rfl
    | stopped terminal _ _ _ => rw [isLegal_of_isTerminal terminal] at hl; cases hl
  · -- one step forward within the iteration
    cases hp with
    | created empty => subst empty; exact absurd hpos (by decide)
    | running _ _ length mutations verifications =>
        refine .running (hs ▸ ht) (by rw [hs]; omega) ?_ ?_ ?_ <;> rw [hent, hs]
        · rw [hlen, entryCount, if_neg hc]; omega
        · rw [hent]
          simp only [entryCount, if_neg hc, hm]
          split at mutations <;> split <;> split <;> omega
        · rw [hent]
          simp only [entryCount, if_neg hc, hv]
          split at verifications <;> split <;> split <;> omega
    | stopped terminal _ _ _ => rw [isLegal_of_isTerminal terminal] at hl; cases hl

theorem LegalLedger.phase {h : List ExecutionTransitionRecord} (hl : LegalLedger h) :
    Phase h := by
  induction hl with
  | nil => exact .created rfl
  | snoc _ fits ih => exact ih.snoc fits.legal

/-- **A legal ledger is at most about ten records for each unit of any budget.** -/
theorem LegalLedger.length_le {h : List ExecutionTransitionRecord} (hl : LegalLedger h) :
    h.length ≤ 10 * entries .contextAssembling h + 1 ∧
      h.length ≤ 10 * entries .mutating h + 7 ∧ h.length ≤ 10 * entries .verifying h + 8 := by
  cases hl.phase with
  | created empty => subst empty; simp
  | running _ _ length mutations verifications =>
      have hle : position (lastState h) ≤ 10 := by cases lastState h <;> decide
      split at mutations <;> split at verifications <;> omega
  | stopped _ iterations mutations verifications =>
      exact ⟨iterations, mutations, verifications⟩

/-- The most transitions any run can accept under these maxima. -/
def maxTransitions (b : ExecutionBudget) : Nat :=
  min (10 * b.maxIterations + 1) (min (10 * b.maxMutations + 7) (10 * b.maxVerifications + 8))

theorem GovernedExecutionContext.history_length_le (c : GovernedExecutionContext) :
    c.history.length ≤ maxTransitions c.budget := by
  obtain ⟨hi, hm, hv⟩ := c.consistent.ledger.length_le
  have h1 := c.budget.iterationsUsed_le
  have h2 := c.budget.mutationsUsed_le
  have h3 := c.budget.verificationsUsed_le
  rw [c.consistent.iterationsUsed] at h1
  rw [c.consistent.mutationsUsed] at h2
  rw [c.consistent.verificationsUsed] at h3
  unfold maxTransitions
  omega

/-! ## Runs -/

/-- The ledger only grows, and by one record for each accepted call. -/
theorem run_history (c : GovernedExecutionContext) (qs : List TransitionRequest) :
    ∃ added, (run c qs).history = c.history ++ added ∧ added.length = acceptedCount c qs := by
  induction qs generalizing c with
  | nil => exact ⟨[], by simp [run], rfl⟩
  | cons q qs ih =>
      obtain ⟨first, hfirst, hflen⟩ := transition_history c q
      obtain ⟨rest, hrest, hrlen⟩ := ih (transition c q).context
      refine ⟨first ++ rest, ?_, ?_⟩
      · show (run (transition c q).context qs).history = _
        rw [hrest, hfirst, List.append_assoc]
      · rw [List.length_append, hflen, hrlen]; rfl

theorem run_sameMax (c : GovernedExecutionContext) (qs : List TransitionRequest) :
    (run c qs).budget.SameMax c.budget :=
  runFrom_relates (R := fun a b => b.budget.SameMax a.budget) _ (fun _ => .refl _)
    (fun h k => k.trans h) transition_sameMax qs c

theorem maxTransitions_of_sameMax {b b' : ExecutionBudget} (h : b'.SameMax b) :
    maxTransitions b' = maxTransitions b := by
  simp only [maxTransitions, h.iterations, h.mutations, h.verifications]

/-- **Run invariants.** Along every run from a fresh context, at every point
    `run c qs` of it: whatever follows only appends to the ledger; a terminal
    context is never left; a refused request changes nothing; every counter is
    the number of records that enter its state and stays within its maximum; a
    legal request over budget ends in a legal failure with the matching reason;
    and the calls accepted so far are bounded by the maxima alone. -/
theorem run_invariants (c : GovernedExecutionContext) (hfresh : c.history = [])
    (qs : List TransitionRequest) :
    (∀ rs, ∃ added, (run c (qs ++ rs)).history = (run c qs).history ++ added) ∧
    ((run c qs).state.isTerminal = true → ∀ rs, run c (qs ++ rs) = run c qs) ∧
    (∀ q, (transition (run c qs) q).accepted = false →
      (transition (run c qs) q).context = run c qs) ∧
    ((run c qs).budget.iterationsUsed = entries .contextAssembling (run c qs).history ∧
      (run c qs).budget.mutationsUsed = entries .mutating (run c qs).history ∧
      (run c qs).budget.verificationsUsed = entries .verifying (run c qs).history) ∧
    ((run c qs).budget.iterationsUsed ≤ c.budget.maxIterations ∧
      (run c qs).budget.mutationsUsed ≤ c.budget.maxMutations ∧
      (run c qs).budget.verificationsUsed ≤ c.budget.maxVerifications) ∧
    (∀ q, isLegal (run c qs).state q.target = true → Exhausts (run c qs).budget q.target →
      (transition (run c qs) q).accepted = true ∧ isLegal (run c qs).state .failed = true ∧
      (transition (run c qs) q).context.state = .failed ∧
      (transition (run c qs) q).context.stopReason = exhaustionReason q.target) ∧
    acceptedCount c qs ≤ maxTransitions c.budget := by
  have hcons := (run c qs).consistent
  have hmax := run_sameMax c qs
  refine ⟨fun rs => ?_, fun ht rs => ?_, fun q => transition_context_of_rejected _ q,
    ⟨hcons.iterationsUsed, hcons.mutationsUsed, hcons.verificationsUsed⟩,
    ⟨hmax.iterations ▸ (run c qs).budget.iterationsUsed_le,
      hmax.mutations ▸ (run c qs).budget.mutationsUsed_le,
      hmax.verifications ▸ (run c qs).budget.verificationsUsed_le⟩,
    fun q hl he => ?_, ?_⟩
  · obtain ⟨added, h, -⟩ := run_history (run c qs) rs
    exact ⟨added, by rw [run_append, h]⟩
  · rw [run_append]
    exact runFrom_of_fixed _ (transition_of_isTerminal _ ht) rs
  · obtain ⟨h1, h2, h3, h4, -⟩ := transition_of_exhausts _ q hl he
    exact ⟨h1, h2, h3, h4⟩
  · obtain ⟨added, h, hlen⟩ := run_history c qs
    rw [hfresh, List.nil_append] at h
    have hle := (run c qs).history_length_le
    rw [maxTransitions_of_sameMax hmax, h, hlen] at hle
    exact hle

/-- A fresh context with one unit of every budget. -/
def oneShotContext : GovernedExecutionContext where
  executionId := .ofString "execution"
  runId := .ofString "run"
  goal := .ofString "goal"
  state := .created
  iteration := 0
  budget := ⟨1, 1, 1, 0, 0, 0, by decide, by decide, by decide, by decide, by decide, by decide⟩
  history := []
  evidence := []
  stopReason := none
  metadata := .nil
  validated := by decide

theorem run_invariants_oneShot :
    oneShotContext.history = [] ∧ acceptedCount oneShotContext [⟨.aborted, [], some .userAborted, ⟨0, none⟩⟩] ≤ 11 :=
  ⟨rfl, (run_invariants oneShotContext rfl _).2.2.2.2.2.2⟩

end Eag.GovernedExecution
