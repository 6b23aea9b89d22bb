/-
  Eag.GovernedExecution.Reconstruction

  The two descriptions of a valid ledger agree: the fields the constructor
  accepts when a context is rebuilt from storage are exactly the fields some run
  of accepted transitions produces from a freshly created context with the same
  maxima.

  The run is rebuilt from the history, last record first: a consistent context without
  its last record is consistent (`previous_consistent`), and the request read off that
  record leads from the one to the other (`transition_previous`).
-/

import Mathlib.Logic.Relation
import Eag.GovernedExecution.Runs

namespace Eag.GovernedExecution

open Eag.Foundation

/-- `context'` is reached from `context` by accepted `transition` calls. -/
def Reaches : GovernedExecutionContext → GovernedExecutionContext → Prop :=
  Relation.ReflTransGen fun context context' =>
    ∃ request, transition context request = .ofAccepted context'

/-- The arguments of a freshly created context with the identifiers, the goal,
    the metadata and the maximum budgets of `f`. -/
def ContextFields.created (f : ContextFields) : ContextFields :=
  { f with
    state := .created
    iteration := 0
    budget := f.budget.fresh
    history := []
    evidence := []
    stopReason := none }

theorem ContextFields.created_consistent {f : ContextFields} (h1 : f.executionId.NonBlank)
    (h2 : f.runId.NonBlank) (h3 : f.goal.NonBlank) : f.created.Consistent where
  executionId := h1
  runId := h2
  goal := h3
  ledger := .nil
  state := rfl
  iteration := rfl
  iterationsUsed := rfl
  mutationsUsed := rfl
  verificationsUsed := rfl
  evidence := rfl
  stopReason := rfl

/-- A consistent context with an empty history is freshly created. -/
theorem ContextFields.Consistent.eq_created {f : ContextFields} (hf : f.Consistent)
    (hh : f.history = []) : f = f.created := by
  have hs := hf.state
  have hi := hf.iteration
  have hu := hf.iterationsUsed
  have hm := hf.mutationsUsed
  have hv := hf.verificationsUsed
  have he := hf.evidence
  have hr := hf.stopReason
  rw [hh] at hs hi hu hm hv he hr
  rw [hs] at hr
  have hb : f.budget = f.budget.fresh := ExecutionBudget.ext_counters ⟨rfl, rfl, rfl⟩ hu hm hv
  obtain ⟨_, _, _, _, _, _, _, _, _, _⟩ := f
  simp only [ContextFields.created, ContextFields.mk.injEq, true_and, and_true]
  exact ⟨hs, hi, hb, hh, he, hr⟩

/-! ## One record back -/

theorem entries_le_append (s : GovernedExecutionState)
    (h k : List ExecutionTransitionRecord) : entries s h ≤ entries s (h ++ k) := by
  rw [entries_append]; exact Nat.le_add_right _ _

/-- The budget a consistent context had when its history was the prefix `h`. -/
def budgetAt (b : ExecutionBudget) (h : List ExecutionTransitionRecord)
    (hi : entries .contextAssembling h ≤ b.maxIterations)
    (hm : entries .mutating h ≤ b.maxMutations)
    (hv : entries .verifying h ≤ b.maxVerifications) : ExecutionBudget :=
  { b with
    iterationsUsed := entries .contextAssembling h
    mutationsUsed := entries .mutating h
    verificationsUsed := entries .verifying h
    iterationsUsed_le := hi
    mutationsUsed_le := hm
    verificationsUsed_le := hv }

/-- The fields before the last record was appended: a running context has no
    stop reason. -/
def ContextFields.previous (f : ContextFields) (h : List ExecutionTransitionRecord)
    (budget : ExecutionBudget) : ContextFields :=
  { f with
    state := lastState h
    iteration := entries .contextAssembling h
    budget := budget
    history := h
    evidence := h.flatMap (·.evidence)
    stopReason := none }

/-- The request that appends `record`. -/
def requestOf (record : ExecutionTransitionRecord) : TransitionRequest where
  target := record.toState
  evidence := record.evidence
  stopReason := record.reason
  now := record.occurredAt

section Previous

variable {f : ContextFields} {h : List ExecutionTransitionRecord}
  {record : ExecutionTransitionRecord}

/-- Every prefix of a consistent history is within the maxima. -/
theorem ContextFields.Consistent.entries_le (hf : f.Consistent)
    (hh : f.history = h ++ [record]) :
    entries .contextAssembling h ≤ f.budget.maxIterations ∧
      entries .mutating h ≤ f.budget.maxMutations ∧
      entries .verifying h ≤ f.budget.maxVerifications := by
  have h1 := f.budget.iterationsUsed_le
  have h2 := f.budget.mutationsUsed_le
  have h3 := f.budget.verificationsUsed_le
  rw [hf.iterationsUsed, hh] at h1
  rw [hf.mutationsUsed, hh] at h2
  rw [hf.verificationsUsed, hh] at h3
  exact ⟨Nat.le_trans (entries_le_append _ _ _) h1, Nat.le_trans (entries_le_append _ _ _) h2,
    Nat.le_trans (entries_le_append _ _ _) h3⟩

theorem previous_consistent (hf : f.Consistent) (hh : f.history = h ++ [record])
    (hi : entries .contextAssembling h ≤ f.budget.maxIterations)
    (hm : entries .mutating h ≤ f.budget.maxMutations)
    (hv : entries .verifying h ≤ f.budget.maxVerifications) :
    (f.previous h (budgetAt f.budget h hi hm hv)).Consistent := by
  obtain ⟨hl, fits⟩ := legalLedger_append_singleton.mp (hh ▸ hf.ledger)
  exact {
    executionId := hf.executionId
    runId := hf.runId
    goal := hf.goal
    ledger := hl
    state := rfl
    iteration := rfl
    iterationsUsed := rfl
    mutationsUsed := rfl
    verificationsUsed := rfl
    evidence := rfl
    stopReason := by
      have hnt : (lastState h).isTerminal = false := not_isTerminal_of_isLegal fits.legal
      simp [ContextFields.previous, hnt] }

/-- The record's own counter was still below its maximum before the record. -/
theorem not_exhausts_previous (hf : f.Consistent) (hh : f.history = h ++ [record])
    (hi : entries .contextAssembling h ≤ f.budget.maxIterations)
    (hm : entries .mutating h ≤ f.budget.maxMutations)
    (hv : entries .verifying h ≤ f.budget.maxVerifications) :
    ¬ Exhausts (budgetAt f.budget h hi hm hv) record.toState := by
  have h1 := f.budget.iterationsUsed_le
  have h2 := f.budget.mutationsUsed_le
  have h3 := f.budget.verificationsUsed_le
  rw [hf.iterationsUsed, hh, entries_append, entries_singleton] at h1
  rw [hf.mutationsUsed, hh, entries_append, entries_singleton] at h2
  rw [hf.verificationsUsed, hh, entries_append, entries_singleton] at h3
  rintro ⟨limit, hspent⟩
  cases ht : record.toState <;> rw [ht] at hspent <;>
    simp only [spent, budgetAt, Option.some.injEq, Prod.mk.injEq, reduceCtorEq] at hspent <;>
    simp only [ht, entryCount, if_true] at h1 h2 h3 <;> omega

/-- **The request read off the last record rebuilds it.** -/
theorem transition_previous (hf : f.Consistent) (hh : f.history = h ++ [record])
    (c : GovernedExecutionContext)
    (hi : entries .contextAssembling h ≤ f.budget.maxIterations)
    (hm : entries .mutating h ≤ f.budget.maxMutations)
    (hv : entries .verifying h ≤ f.budget.maxVerifications)
    (hc : c.toContextFields = f.previous h (budgetAt f.budget h hi hm hv)) :
    ∃ c', transition c (requestOf record) = .ofAccepted c' ∧ c'.toContextFields = f := by
  obtain ⟨-, fits⟩ := legalLedger_append_singleton.mp (hh ▸ hf.ledger)
  have hstate : c.state = lastState h := by rw [hc]; rfl
  have hbudget : c.budget = budgetAt f.budget h hi hm hv := by rw [hc]; rfl
  have hhist : c.history = h := by rw [hc]; rfl
  have hlegal : isLegal c.state (requestOf record).target = true := by
    rw [hstate]; exact fits.legal
  obtain ⟨ht, hx, hit, hmax, h1, h2, h3⟩ :
      (meter c record.toState).target = record.toState ∧
      (meter c record.toState).exhaustedReason = none ∧
      (meter c record.toState).iteration = (meter c record.toState).budget.iterationsUsed ∧
      (meter c record.toState).budget.SameMax c.budget ∧
      (meter c record.toState).budget.iterationsUsed =
        c.budget.iterationsUsed + entryCount .contextAssembling record.toState ∧
      (meter c record.toState).budget.mutationsUsed =
        c.budget.mutationsUsed + entryCount .mutating record.toState ∧
      (meter c record.toState).budget.verificationsUsed =
        c.budget.verificationsUsed + entryCount .verifying record.toState := by
    rcases meter_cases' c record.toState with ⟨he, -⟩ | ⟨-, hrest⟩
    · exact absurd (hbudget ▸ he) (not_exhausts_previous hf hh hi hm hv)
    · exact hrest
  have hreason : resolvedStopReason c (requestOf record) = record.reason := by
    simp [resolvedStopReason, requestOf, hx]
  have hadm : Admissible (meter c (requestOf record).target).target
      (resolvedStopReason c (requestOf record)) := by
    rw [hreason]
    show Admissible (meter c record.toState).target record.reason
    rw [ht]; exact fits.reason
  rcases transition_cases c (requestOf record) with ⟨code, -, hn | hn⟩ | ⟨c', htr, -, -, hf'⟩
  · rw [hlegal] at hn; cases hn
  · exact absurd hadm hn
  · refine ⟨c', htr, hf'.trans ?_⟩
    have hcount : ∀ s, entries s f.history = entries s h + entryCount s record.toState := by
      intro s; rw [hh, entries_append, entries_singleton]
    have hb : (meter c record.toState).budget = f.budget := by
      have hmax' : (meter c record.toState).budget.SameMax f.budget := by
        rw [hbudget] at hmax
        exact ⟨hmax.iterations, hmax.mutations, hmax.verifications⟩
      refine ExecutionBudget.ext_counters hmax' ?_ ?_ ?_
      · rw [h1, hf.iterationsUsed, hcount, hbudget]; rfl
      · rw [h2, hf.mutationsUsed, hcount, hbudget]; rfl
      · rw [h3, hf.verificationsUsed, hcount, hbudget]; rfl
    have hrec : nextRecord c (requestOf record) = record := by
      have hseq := fits.sequence
      have hfrom := fits.fromState
      have hiter := fits.iteration
      obtain ⟨seq, iter, fromS, toS, at', reason, evidence, hpos⟩ := record
      simp only [nextRecord, ExecutionTransitionRecord.mk.injEq, hreason]
      simp only [requestOf, Replay.of] at *
      refine ⟨by rw [hhist, hseq], ?_, by rw [hstate, hfrom], ht, trivial, trivial, trivial⟩
      rw [hit, h1, hbudget, hiter]
      rfl
    have hstop : record.reason = f.stopReason := by
      have hst : f.state = record.toState := by rw [hf.state, hh, lastState_append_singleton]
      have hr := hf.stopReason
      rw [hh, hst] at hr
      simp only [List.getLast?_append, List.getLast?_singleton, Option.some_or,
        Option.bind_some] at hr
      rw [hr]
      split
      · rfl
      · rename_i hterm
        exact fits.reason.eq_none (by simpa using hterm)
    have hiter : (meter c record.toState).iteration = f.iteration := by
      rw [hit, hb, hf.iterationsUsed, hf.iteration]
    have hev : c.evidence ++ record.evidence = f.evidence := by
      rw [hf.evidence, hh, hc]
      simp [ContextFields.previous]
    have hst : (meter c record.toState).target = f.state := by
      rw [ht, hf.state, hh, lastState_append_singleton]
    simp only [nextFields, hrec, hreason, hhist]
    simp only [requestOf, hst, hiter, hb, hev, hstop, ← hh]
    rw [hc]
    rfl

end Previous

/-! ## Both directions -/

/-- Every consistent context is reached from its created one. -/
theorem reaches_of_consistent (h : List ExecutionTransitionRecord) (f : ContextFields)
    (hf : f.Consistent) (hh : f.history = h) (c₀ : GovernedExecutionContext)
    (hc₀ : c₀.toContextFields = f.created) :
    ∃ c, Reaches c₀ c ∧ c.toContextFields = f := by
  induction h using List.reverseRecOn generalizing f with
  | nil => exact ⟨c₀, .refl, hc₀.trans (hf.eq_created hh).symm⟩
  | append_singleton h record ih =>
      obtain ⟨hi, hm, hv⟩ := hf.entries_le hh
      obtain ⟨c, hreach, hc⟩ := ih _ (previous_consistent hf hh hi hm hv) rfl hc₀
      obtain ⟨c', htr, hc'⟩ := transition_previous hf hh c hi hm hv hc
      exact ⟨c', hreach.tail ⟨_, htr⟩, hc'⟩

/-- **The validator is sound and complete for runs.** Fields can be constructed
    exactly when they are the fields of a context that accepted transitions reach
    from a freshly created context with the same identifiers, goal, metadata and
    maximum budgets. -/
theorem construct_iff_reaches (f : ContextFields) :
    (∃ c, GovernedExecutionContext.construct f = .ok c) ↔
      ∃ c₀ c, GovernedExecutionContext.construct f.created = .ok c₀ ∧ Reaches c₀ c ∧
        c.toContextFields = f := by
  constructor
  · rintro ⟨c, hc⟩
    have hf : f.Consistent := by
      rw [(GovernedExecutionContext.construct_eq_ok f c).mp hc]; exact c.consistent
    have hcreated := ContextFields.created_consistent hf.executionId hf.runId hf.goal
    let c₀ : GovernedExecutionContext :=
      ⟨f.created, (ContextFields.validate_eq_ok _).mpr hcreated⟩
    obtain ⟨c', hreach, hc'⟩ := reaches_of_consistent f.history f hf rfl c₀ rfl
    exact ⟨c₀, c', (GovernedExecutionContext.construct_eq_ok _ _).mpr rfl, hreach, hc'⟩
  · rintro ⟨-, c, -, -, hc⟩
    exact ⟨c, (GovernedExecutionContext.construct_eq_ok f c).mpr hc.symm⟩

end Eag.GovernedExecution
