/-
  Eag.GovernedExecution.Ledger

  The replay validator in closed form. The accumulators of `_validate_history` are
  functions of the history read so far (`Replay.of`), a history is legal when each record
  fits the replay of those before it (`LegalLedger`), and a context validates when its
  fields are what its legal history says (`validate_eq_ok`). `advance_eq_ok`: on a validated
  context a legal request with an admissible stop reason is never refused.
-/

import Eag.GovernedExecution.StateMachine
import Mathlib.Data.List.Induction

namespace Eag.GovernedExecution

open Eag.Foundation

/-! ## Replay in closed form -/

/-- How many records of the history enter `state`. -/
def entries (state : GovernedExecutionState) (h : List ExecutionTransitionRecord) : Nat :=
  h.countP (fun record => record.toState = state)

@[simp] theorem entries_nil (state : GovernedExecutionState) : entries state [] = 0 := rfl

@[simp] theorem entries_append (state : GovernedExecutionState)
    (h k : List ExecutionTransitionRecord) :
    entries state (h ++ k) = entries state h + entries state k :=
  List.countP_append

@[simp] theorem entries_singleton (state : GovernedExecutionState)
    (record : ExecutionTransitionRecord) :
    entries state [record] = entryCount state record.toState := by
  simp [entries, entryCount, List.countP_cons]

/-- The state the history ends in. -/
def lastState (h : List ExecutionTransitionRecord) : GovernedExecutionState :=
  (h.getLast?.map (·.toState)).getD .created

@[simp] theorem lastState_nil : lastState [] = .created := rfl

@[simp] theorem lastState_append_singleton (h : List ExecutionTransitionRecord)
    (record : ExecutionTransitionRecord) : lastState (h ++ [record]) = record.toState := by
  simp [lastState]

/-- The accumulators after reading the whole history. -/
def Replay.of (h : List ExecutionTransitionRecord) : Replay where
  expectedSequence := h.length + 1
  expectedState := lastState h
  expectedIteration := entries .contextAssembling h
  mutationEntries := entries .mutating h
  verificationEntries := entries .verifying h
  ledgerEvidence := h.flatMap (·.evidence)

/-- What one turn of the validator's loop asks of a record. -/
structure RecordFits (r : Replay) (record : ExecutionTransitionRecord) : Prop where
  sequence : record.sequence = r.expectedSequence
  fromState : record.fromState = r.expectedState
  legal : isLegal r.expectedState record.toState = true
  iteration : record.iteration =
    r.expectedIteration + entryCount .contextAssembling record.toState
  reason : Admissible record.toState record.reason

theorem Replay.step_of_eq_ok (h : List ExecutionTransitionRecord)
    (record : ExecutionTransitionRecord) (r' : Replay) :
    (Replay.of h).step record = .ok r' ↔
      RecordFits (Replay.of h) record ∧ r' = Replay.of (h ++ [record]) := by
  have hit : (if record.toState = .contextAssembling then
        (Replay.of h).expectedIteration + 1 else (Replay.of h).expectedIteration) =
      (Replay.of h).expectedIteration + entryCount .contextAssembling record.toState := by
    unfold entryCount; split <;> rfl
  have hnext : ({
        expectedSequence := (Replay.of h).expectedSequence + 1
        expectedState := record.toState
        expectedIteration :=
          (Replay.of h).expectedIteration + entryCount .contextAssembling record.toState
        mutationEntries := if record.toState = .mutating then
          (Replay.of h).mutationEntries + 1 else (Replay.of h).mutationEntries
        verificationEntries := if record.toState = .verifying then
          (Replay.of h).verificationEntries + 1 else (Replay.of h).verificationEntries
        ledgerEvidence := (Replay.of h).ledgerEvidence ++ record.evidence } : Replay) =
      Replay.of (h ++ [record]) := by
    simp only [Replay.of, List.length_append, List.length_singleton,
      lastState_append_singleton, entries_append, entries_singleton, entryCount,
      List.flatMap_append, List.flatMap_cons, List.flatMap_nil, List.append_nil]
    congr 1 <;> split <;> rfl
  unfold Replay.step
  simp only [except_bind_eq_ok, require_eq_ok, exists_const, hit, hnext,
    validateTerminalStopReason_eq_ok, Except.ok.injEq]
  constructor
  · rintro ⟨hseq, hfrom, hlegal, -, hiter, hreason, hr⟩
    exact ⟨⟨hseq, hfrom, by rw [← hfrom]; simpa [isLegal] using hlegal, hiter, hreason⟩,
      hr.symm⟩
  · rintro ⟨fits, hr⟩
    refine ⟨fits.sequence, fits.fromState, ?_, not_isTerminal_of_isLegal fits.legal,
      fits.iteration, fits.reason, hr.symm⟩
    rw [fits.fromState]
    simpa [isLegal] using fits.legal

/-- A history every record of which fits the records before it. -/
inductive LegalLedger : List ExecutionTransitionRecord → Prop where
  | nil : LegalLedger []
  | snoc {h : List ExecutionTransitionRecord} {record : ExecutionTransitionRecord} :
      LegalLedger h → RecordFits (Replay.of h) record → LegalLedger (h ++ [record])

theorem legalLedger_append_singleton {h : List ExecutionTransitionRecord}
    {record : ExecutionTransitionRecord} :
    LegalLedger (h ++ [record]) ↔ LegalLedger h ∧ RecordFits (Replay.of h) record := by
  constructor
  · generalize hk : h ++ [record] = k
    intro hl
    cases hl with
    | nil => exact absurd hk (by simp)
    | snoc hl' fits =>
        obtain ⟨rfl, hr⟩ := List.append_inj' hk rfl
        cases hr
        exact ⟨hl', fits⟩
  · rintro ⟨hl, fits⟩
    exact .snoc hl fits

/-- The loop of `_validate_history` accepts exactly the legal ledgers, and ends
    with the accumulators of the whole history. -/
theorem foldlM_step_eq_ok (h : List ExecutionTransitionRecord) (r : Replay) :
    h.foldlM Replay.step Replay.init = .ok r ↔ LegalLedger h ∧ r = Replay.of h := by
  induction h using List.reverseRecOn generalizing r with
  | nil =>
      have hinit : Replay.init = Replay.of [] := rfl
      rw [List.foldlM_nil, except_pure_eq_ok, hinit]
      exact ⟨fun h => ⟨.nil, h.symm⟩, fun h => h.2.symm⟩
  | append_singleton h record ih =>
      rw [List.foldlM_append, except_bind_eq_ok, legalLedger_append_singleton]
      constructor
      · rintro ⟨r0, h0, h1⟩
        obtain ⟨hl, rfl⟩ := (ih r0).mp h0
        have h2 : (Replay.of h).step record = .ok r := by simpa using h1
        obtain ⟨fits, hr⟩ := (Replay.step_of_eq_ok h record r).mp h2
        exact ⟨⟨hl, fits⟩, hr⟩
      · rintro ⟨⟨hl, fits⟩, rfl⟩
        refine ⟨Replay.of h, (ih _).mpr ⟨hl, rfl⟩, ?_⟩
        have h2 := (Replay.step_of_eq_ok h record _).mpr ⟨fits, rfl⟩
        simpa using h2

/-! ## What a context's validation says -/

/-- The fields of a context are what its legal history says they are. -/
structure ContextFields.Consistent (c : ContextFields) : Prop where
  executionId : c.executionId.NonBlank
  runId : c.runId.NonBlank
  goal : c.goal.NonBlank
  ledger : LegalLedger c.history
  state : c.state = lastState c.history
  iteration : c.iteration = entries .contextAssembling c.history
  iterationsUsed : c.budget.iterationsUsed = entries .contextAssembling c.history
  mutationsUsed : c.budget.mutationsUsed = entries .mutating c.history
  verificationsUsed : c.budget.verificationsUsed = entries .verifying c.history
  evidence : c.evidence = c.history.flatMap (·.evidence)
  stopReason : c.stopReason =
    if c.state.isTerminal then c.history.getLast?.bind (·.reason) else none

theorem ContextFields.validateInitialContext_eq_ok (c : ContextFields) :
    c.validateInitialContext = .ok () ↔
      c.state = .created ∧ (c.iteration = 0 ∧ c.budget.iterationsUsed = 0) ∧
        c.budget.mutationsUsed = 0 ∧ c.budget.verificationsUsed = 0 ∧ c.evidence = [] ∧
        c.stopReason = none := by
  simp only [validateInitialContext, except_bind_eq_ok, require_eq_ok, exists_const]

theorem ContextFields.checkReplay_eq_ok (c : ContextFields) (r : Replay) :
    c.checkReplay r = .ok () ↔
      r.expectedState = c.state ∧ r.expectedIteration = c.iteration ∧
        c.iteration = c.budget.iterationsUsed ∧ r.mutationEntries = c.budget.mutationsUsed ∧
        r.verificationEntries = c.budget.verificationsUsed ∧ r.ledgerEvidence = c.evidence ∧
        c.stopReason =
          if c.state.isTerminal then c.history.getLast?.bind (·.reason) else none := by
  simp only [checkReplay, except_bind_eq_ok, require_eq_ok, exists_const]
  cases c.state.isTerminal <;> simp

/-- **The validator in closed form.** -/
theorem ContextFields.validate_eq_ok (c : ContextFields) :
    c.validate = .ok () ↔ c.Consistent := by
  simp only [validate, except_bind_eq_ok, require_eq_ok, exists_const]
  unfold validateHistory
  by_cases hh : c.history = []
  · rw [if_pos hh, c.validateInitialContext_eq_ok]
    constructor
    · rintro ⟨h1, h2, h3, hs, ⟨hi, hu⟩, hm, hv, he, hr⟩
      exact ⟨h1, h2, h3, hh ▸ .nil, by simp [hh, hs], by simp [hh, hi], by simp [hh, hu],
        by simp [hh, hm], by simp [hh, hv], by simp [hh, he],
        by simp [hs, hr, GovernedExecutionState.isTerminal]⟩
    · rintro ⟨h1, h2, h3, -, hs, hi, hu, hm, hv, he, hr⟩
      simp only [hh, lastState_nil, entries_nil, List.flatMap_nil] at hs hi hu hm hv he
      rw [hs] at hr
      exact ⟨h1, h2, h3, hs, ⟨hi, hu⟩, hm, hv, he, hr⟩
  · rw [if_neg hh]
    simp only [except_bind_eq_ok, foldlM_step_eq_ok, checkReplay_eq_ok]
    constructor
    · rintro ⟨h1, h2, h3, r, ⟨hl, rfl⟩, hs, hi, hu, hm, hv, he, hr⟩
      exact ⟨h1, h2, h3, hl, hs.symm, hi.symm, (hi.trans hu).symm, hm.symm, hv.symm,
        he.symm, hr⟩
    · rintro ⟨h1, h2, h3, hl, hs, hi, hu, hm, hv, he, hr⟩
      exact ⟨h1, h2, h3, _, ⟨hl, rfl⟩, hs.symm, hi.symm, hi.trans hu.symm, hm.symm, hv.symm,
        he.symm, hr⟩

theorem GovernedExecutionContext.consistent (c : GovernedExecutionContext) :
    c.toContextFields.Consistent :=
  (ContextFields.validate_eq_ok _).mp c.validated

/-- A running state is not reached with no history, and `created` only with none. -/
theorem LegalLedger.lastState_eq_created {h : List ExecutionTransitionRecord}
    (hl : LegalLedger h) : lastState h = .created ↔ h = [] := by
  constructor
  · intro hs
    cases hl with
    | nil => rfl
    | snoc _ fits =>
        rw [lastState_append_singleton] at hs
        have hleg := fits.legal
        rw [hs] at hleg
        exact absurd hleg (by generalize Replay.expectedState _ = s; cases s <;> decide)
  · rintro rfl; rfl

/-! ## The step in closed form -/

theorem meter_cases' (c : GovernedExecutionContext) (target : GovernedExecutionState) :
    (Exhausts c.budget target ∧
      meter c target = ⟨.failed, c.iteration, c.budget, exhaustionReason target⟩) ∨
    (¬ Exhausts c.budget target ∧ (meter c target).target = target ∧
      (meter c target).exhaustedReason = none ∧
      (meter c target).iteration = (meter c target).budget.iterationsUsed ∧
      (meter c target).budget.SameMax c.budget ∧
      (meter c target).budget.iterationsUsed =
        c.budget.iterationsUsed + entryCount .contextAssembling target ∧
      (meter c target).budget.mutationsUsed =
        c.budget.mutationsUsed + entryCount .mutating target ∧
      (meter c target).budget.verificationsUsed =
        c.budget.verificationsUsed + entryCount .verifying target) :=
  meter_cases c (c.consistent.iteration.trans c.consistent.iterationsUsed.symm) target

/-- The first iteration is always within budget. -/
theorem not_exhausts_of_created (c : GovernedExecutionContext) (hs : c.state = .created)
    {target : GovernedExecutionState} (hl : isLegal c.state target = true) :
    ¬ Exhausts c.budget target := by
  have hc := c.consistent
  have hnil : c.history = [] := hc.ledger.lastState_eq_created.mp (hc.state ▸ hs)
  have hu : c.budget.iterationsUsed = 0 := by rw [hc.iterationsUsed, hnil]; rfl
  have hpos := c.budget.maxIterations_pos
  rw [hs] at hl
  rintro ⟨n, hn⟩
  cases target with
  | contextAssembling =>
      simp only [spent, Option.some.injEq, Prod.mk.injEq] at hn
      omega
  | mutating => exact absurd hl (by decide)
  | verifying => exact absurd hl (by decide)
  | _ => exact absurd hn (by simp [spent])

/-- An exhausted target is metered, and its source state may fail. -/
theorem isLegal_failed_of_exhausts (c : GovernedExecutionContext)
    {target : GovernedExecutionState} (hl : isLegal c.state target = true)
    (he : Exhausts c.budget target) : isLegal c.state .failed = true := by
  refine isLegal_failed_of_metered hl
    (fun hs => not_exhausts_of_created c hs hl he) ?_
  obtain ⟨n, hn⟩ := he
  cases target <;> simp [spent] at hn <;> simp

/-- The state a legal request really enters is legal from the current one. -/
theorem isLegal_meter (c : GovernedExecutionContext) {target : GovernedExecutionState}
    (hl : isLegal c.state target = true) : isLegal c.state (meter c target).target = true := by
  rcases meter_cases' c target with ⟨he, hm⟩ | ⟨-, hm, -⟩
  · rw [hm]; exact isLegal_failed_of_exhausts c hl he
  · rw [hm]; exact hl

/-- The counters after the step are the old ones plus the new record's entry. -/
theorem meter_counters (c : GovernedExecutionContext) (target : GovernedExecutionState) :
    (meter c target).budget.SameMax c.budget ∧
    (meter c target).iteration = (meter c target).budget.iterationsUsed ∧
    (meter c target).budget.iterationsUsed =
      c.budget.iterationsUsed + entryCount .contextAssembling (meter c target).target ∧
    (meter c target).budget.mutationsUsed =
      c.budget.mutationsUsed + entryCount .mutating (meter c target).target ∧
    (meter c target).budget.verificationsUsed =
      c.budget.verificationsUsed + entryCount .verifying (meter c target).target := by
  rcases meter_cases' c target with ⟨-, hm⟩ | ⟨-, ht, -, hi, hmax, h1, h2, h3⟩
  · rw [hm]
    exact ⟨.refl _, c.consistent.iteration.trans c.consistent.iterationsUsed.symm,
      rfl, rfl, rfl⟩
  · rw [ht]
    exact ⟨hmax, hi, h1, h2, h3⟩

/-- The record of a legal request with an admissible reason fits the ledger. -/
theorem nextRecord_fits (c : GovernedExecutionContext) (q : TransitionRequest)
    (hl : isLegal c.state q.target = true)
    (hr : Admissible (meter c q.target).target (resolvedStopReason c q)) :
    RecordFits (Replay.of c.history) (nextRecord c q) where
  sequence := rfl
  fromState := c.consistent.state
  legal := by
    have h := isLegal_meter c hl
    rw [c.consistent.state] at h
    exact h
  iteration := by
    obtain ⟨-, hi, h1, -⟩ := meter_counters c q.target
    have hu := c.consistent.iterationsUsed
    simp only [nextRecord, Replay.of]
    omega
  reason := hr

theorem nextFields_consistent (c : GovernedExecutionContext) (q : TransitionRequest)
    (hl : isLegal c.state q.target = true)
    (hr : Admissible (meter c q.target).target (resolvedStopReason c q)) :
    (nextFields c q).Consistent := by
  have hc := c.consistent
  obtain ⟨-, hi, h1, h2, h3⟩ := meter_counters c q.target
  exact {
    executionId := hc.executionId
    runId := hc.runId
    goal := hc.goal
    ledger := .snoc hc.ledger (nextRecord_fits c q hl hr)
    state := by simp [nextFields, nextRecord]
    iteration := by simp [nextFields, nextRecord, hi, h1, hc.iterationsUsed]
    iterationsUsed := by simp [nextFields, nextRecord, h1, hc.iterationsUsed]
    mutationsUsed := by simp [nextFields, nextRecord, h2, hc.mutationsUsed]
    verificationsUsed := by simp [nextFields, nextRecord, h3, hc.verificationsUsed]
    evidence := by simp [nextFields, nextRecord, hc.evidence]
    stopReason := by
      simp only [nextFields, nextRecord, List.getLast?_append, List.getLast?_singleton,
        Option.some_or, Option.bind_some]
      split
      · rfl
      · rename_i ht
        exact hr.eq_none (by simpa using ht) }

/-- **The step in closed form.** `_advance` returns the fields it assembled when
    their reason is admissible and their validation accepts them. -/
theorem advance_eq_ok (c : GovernedExecutionContext) (q : TransitionRequest)
    (c' : GovernedExecutionContext) :
    advance c q = .ok c' ↔
      Admissible (meter c q.target).target (resolvedStopReason c q) ∧
        c'.toContextFields = nextFields c q := by
  simp only [advance, except_bind_eq_ok, validateTerminalStopReason_eq_ok, exists_const,
    GovernedExecutionContext.construct_eq_ok]
  exact and_congr_right fun _ => eq_comm

/-- A legal request with an admissible reason is accepted. -/
theorem exists_advance (c : GovernedExecutionContext) (q : TransitionRequest)
    (hl : isLegal c.state q.target = true)
    (hr : Admissible (meter c q.target).target (resolvedStopReason c q)) :
    ∃ c', advance c q = .ok c' ∧ c'.toContextFields = nextFields c q :=
  ⟨⟨nextFields c q, (ContextFields.validate_eq_ok _).mpr (nextFields_consistent c q hl hr)⟩,
    (advance_eq_ok c q _).mpr ⟨hr, rfl⟩, rfl⟩

/-- **What a `transition` call does**: it refuses and returns the context it was
    given, or it accepts a legal request and appends one record. -/
theorem transition_cases (c : GovernedExecutionContext) (q : TransitionRequest) :
    (∃ code, transition c q = .ofRejected c code ∧
      (isLegal c.state q.target = false ∨
        ¬ Admissible (meter c q.target).target (resolvedStopReason c q))) ∨
    ∃ c', transition c q = .ofAccepted c' ∧ isLegal c.state q.target = true ∧
      Admissible (meter c q.target).target (resolvedStopReason c q) ∧
      c'.toContextFields = nextFields c q := by
  unfold transition
  by_cases hl : isLegal c.state q.target = true
  · rw [if_pos hl]
    cases ha : advance c q with
    | ok c' =>
        obtain ⟨hr, hf⟩ := (advance_eq_ok c q c').mp ha
        exact Or.inr ⟨c', rfl, hl, hr, hf⟩
    | error message =>
        refine Or.inl ⟨_, rfl, Or.inr fun hr => ?_⟩
        obtain ⟨c', hc', -⟩ := exists_advance c q hl hr
        rw [ha] at hc'
        cases hc'
  · rw [if_neg hl]
    exact Or.inl ⟨_, rfl, Or.inl (by simpa using hl)⟩

end Eag.GovernedExecution
