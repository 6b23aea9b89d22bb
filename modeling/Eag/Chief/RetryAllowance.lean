/-
  Eag.Chief.RetryAllowance

  The validator of a coordinator outlives its runs (`chief/runtime/validator.py`): a
  success takes the counter of a step away, an abort leaves it where it is. What earlier
  runs leave is therefore nothing or, for a step that they aborted at, a spent allowance.

  Two runs of one plan that differ in what earlier runs left go in lockstep
  (`Lockstep`), and part at the first failure of a step whose allowance is spent in
  one of the two (`attempts_own_iff`).
-/

import Eag.Chief.Coordination

namespace Eag.Chief

open Eag.Foundation

namespace Coordinator

/-! ## Runs on a shared validator -/

/-- `run` gives the report, on the counts that its validator has. -/
def Reports (coordinator : Coordinator) (counts : RetryCounts) (context : RunContext)
    (report : RunReport) : Prop :=
  ∃ fuel, coordinator.run counts fuel context = some report

/-- The counts that some sequence of earlier runs on a validator leaves. The capabilities may
    have answered each of these runs differently, and the runs may have ended in any way. -/
inductive LeftBy (maxRetries : Int) : RetryCounts → Prop
  | fresh : LeftBy maxRetries fun _ => none
  | after {counts : RetryCounts} (hcounts : LeftBy maxRetries counts) (coordinator : Coordinator)
      (hmax : coordinator.maxRetries = maxRetries) (context : RunContext) (report : RunReport)
      (hreport : coordinator.Reports counts context report) :
      LeftBy maxRetries report.retryCounts

/-- Each step was attempted as often in the one run as in the other. -/
def SameAttempts (first second : RunReport) : Prop :=
  ∀ stepId, timesExecuted first.executions stepId = timesExecuted second.executions stepId

/-- The run that executes a plan. -/
def executing (context : RunContext) (plan : Plan) : ChiefRun :=
  ⟨context, .executing, .execution, some plan, [], none, none⟩

/-- The context that the capabilities of a run are given. -/
def capabilityContext (context : RunContext) : CapabilityContext :=
  ⟨context.metadata.get? (.ofString "workspace_path"),
    context.metadata.get? (.ofString "repository_path"), context.metadata⟩

/-- The progress that the loop over a plan starts from. -/
def planned (counts : RetryCounts) (context : RunContext) (plan : Plan) : PlanProgress :=
  startProgress counts
    [.planningStarted context.runId,
      .planningCompleted context.runId plan.planId plan.steps.length]

/-- The loop is about to execute the step. -/
def Attempts (plan : Plan) (progress : PlanProgress) (step : PlanStep) : Prop :=
  isComplete plan progress.completed = false ∧
    getNextStep plan progress.completed = .ok (some step)

/-- If the loop is about to attempt a step for the first time and the attempt fails, then the
    validator had granted the step as many retries in `counts` as in `others`. -/
def AgreesAt (coordinator : Coordinator) (plan : Plan) (context : CapabilityContext)
    (counts others : RetryCounts) (progress : PlanProgress) : Prop :=
  ∀ step, Attempts plan progress step →
    timesExecuted progress.executions step.stepId = 0 →
    (coordinator.stepResult progress.executions.length step context).success = false →
    granted counts step.stepId = granted others step.stepId

/-- Wherever the run on `counts` comes to a first attempt that fails, earlier runs left the step
    the same allowance in `counts` and in `others`. -/
def AllowancesAgree (coordinator : Coordinator) (context : RunContext)
    (counts others : RetryCounts) : Prop :=
  ∀ plan, coordinator.finalPlan context = .ok plan →
    ∀ progress,
      Reaches (coordinator.turn (executing context plan) plan (capabilityContext context))
        (planned counts context plan) progress →
      coordinator.AgreesAt plan (capabilityContext context) counts others progress

/-! ## Turns that execute a step -/

variable {coordinator : Coordinator} {run : ChiefRun} {plan : Plan} {context : CapabilityContext}
variable {progress other : PlanProgress} {step : PlanStep}

theorem Attempts.unique {step' : PlanStep} (h : Attempts plan progress step)
    (h' : Attempts plan progress step') : step = step' :=
  Option.some.inj (Except.ok.inj (h.2.symm.trans h'.2))

/-- What a turn makes of the step it executes: a success is recorded, a failure is retried as long
    as the validator grants it. -/
def verdict (coordinator : Coordinator) (progress : PlanProgress) (step : PlanStep)
    (result : StepResult) (events : List RuntimeEvent) : Turn PlanProgress :=
  if result.success = true then
    .again
      { results := progress.results ++ [result]
        completed := insert step.stepId progress.completed
        retryCounts := Function.update progress.retryCounts step.stepId none
        executions := progress.executions ++ [⟨step, result⟩]
        events := events
        raised := progress.raised }
  else if (granted progress.retryCounts step.stepId : Int) < coordinator.maxRetries then
    .again
      { results := progress.results
        completed := progress.completed
        retryCounts := Function.update progress.retryCounts step.stepId
          (some (granted progress.retryCounts step.stepId + 1))
        executions := progress.executions ++ [⟨step, result⟩]
        events := events
        raised := progress.raised }
  else
    .leave
      { results := progress.results ++ [result]
        completed := progress.completed
        retryCounts := progress.retryCounts
        executions := progress.executions ++ [⟨step, result⟩]
        events := events
        raised := progress.raised }

variable (coordinator) in
/-- **A turn that has a next step executes it.** -/
theorem turn_of_attempts (run : ChiefRun) (context : CapabilityContext)
    (h : Attempts plan progress step) :
    ∃ events, coordinator.turn run plan context progress = .ok
      (coordinator.verdict progress step
        (coordinator.stepResult progress.executions.length step context) events) := by
  unfold turn
  rw [h.1, if_neg Bool.false_ne_true, h.2]
  dsimp only [executeStep]
  generalize hresult : coordinator.stepResult progress.executions.length step context = result
  have hid : result.stepId = step.stepId := by rw [← hresult]; rfl
  unfold validate verdict
  rw [hid]
  cases hsuccess : result.success with
  | true => exact ⟨_, rfl⟩
  | false =>
      by_cases hgranted :
          (granted progress.retryCounts step.stepId : Int) < coordinator.maxRetries
      · have hif : ((progress.retryCounts step.stepId).getD 0 : Int) < coordinator.maxRetries :=
          hgranted
        simp only [Bool.false_eq_true, if_false, if_pos hif, if_pos hgranted]
        exact ⟨_, rfl⟩
      · have hif : ¬ ((progress.retryCounts step.stepId).getD 0 : Int)
            < coordinator.maxRetries := hgranted
        simp only [Bool.false_eq_true, if_false, if_neg hif, if_neg hgranted]
        exact ⟨_, rfl⟩

/-- A turn without a next step leaves, and executes nothing. -/
theorem turn_of_idle (coordinator : Coordinator) (run : ChiefRun) (context : CapabilityContext)
    (h : ∀ step, ¬ Attempts plan progress step) :
    ∃ after, coordinator.turn run plan context progress = .ok (.leave after) ∧
      after.executions = progress.executions ∧ after.retryCounts = progress.retryCounts := by
  unfold turn
  cases hcomplete : isComplete plan progress.completed with
  | true => exact ⟨_, rfl, rfl, rfl⟩
  | false =>
      rw [if_neg Bool.false_ne_true]
      cases hnext : getNextStep plan progress.completed with
      | error text => exact ⟨_, rfl, rfl, rfl⟩
      | ok next =>
          cases next with
          | none => exact absurd hnext (getNextStep_ne_none hcomplete)
          | some step => exact absurd ⟨hcomplete, hnext⟩ (h step)

/-! ## Executions only grow -/

theorem verdict_executions {result : StepResult} {events : List RuntimeEvent} {after : PlanProgress}
    (h : coordinator.verdict progress step result events = .again after ∨
      coordinator.verdict progress step result events = .leave after) :
    after.executions = progress.executions ++ [⟨step, result⟩] := by
  unfold verdict at h
  by_cases hsuccess : result.success = true
  · simp only [if_pos hsuccess, Turn.again.injEq, reduceCtorEq, or_false] at h
    rw [← h]
  · by_cases hgranted : (granted progress.retryCounts step.stepId : Int) < coordinator.maxRetries
    · simp only [if_neg hsuccess, if_pos hgranted, Turn.again.injEq, reduceCtorEq, or_false] at h
      rw [← h]
    · simp only [if_neg hsuccess, if_neg hgranted, Turn.leave.injEq, reduceCtorEq, false_or] at h
      rw [← h]

/-- A turn takes no execution away. -/
theorem turn_timesExecuted_le {before after : PlanProgress}
    (hturn : coordinator.turn run plan context before = .ok (.again after) ∨
      coordinator.turn run plan context before = .ok (.leave after)) (stepId : String) :
    timesExecuted before.executions stepId ≤ timesExecuted after.executions stepId := by
  by_cases hidle : ∀ step, ¬ Attempts plan before step
  · obtain ⟨left, heq, hexecutions, -⟩ := turn_of_idle coordinator run context hidle
    rw [heq] at hturn
    simp only [Except.ok.injEq, reduceCtorEq, false_or, Turn.leave.injEq] at hturn
    rw [← hturn, hexecutions]
  · push Not at hidle
    obtain ⟨step, hattempts⟩ := hidle
    obtain ⟨events, heq⟩ := turn_of_attempts coordinator run context hattempts
    rw [heq] at hturn
    simp only [Except.ok.injEq] at hturn
    rw [verdict_executions hturn, timesExecuted_snoc]
    exact Nat.le_add_right _ _

/-- What a loop returns has the executions it started from. -/
theorem returns_timesExecuted_le {result : PlanProgress}
    (h : Returns (coordinator.turn run plan context) progress result) (stepId : String) :
    timesExecuted progress.executions stepId ≤ timesExecuted result.executions stepId := by
  refine h.induct (motive := fun p => timesExecuted p.executions stepId
    ≤ timesExecuted result.executions stepId) ?_ ?_
  · intro last hleave
    exact turn_timesExecuted_le (.inr hleave) stepId
  · intro before after hagain ih
    exact (turn_timesExecuted_le (.inl hagain) stepId).trans ih

/-- ... and one more of the step that it is about to execute. -/
theorem returns_timesExecuted_lt {result : PlanProgress}
    (h : Returns (coordinator.turn run plan context) progress result)
    (hattempts : Attempts plan progress step) :
    timesExecuted progress.executions step.stepId
      < timesExecuted result.executions step.stepId := by
  obtain ⟨events, heq⟩ := turn_of_attempts coordinator run context hattempts
  have hone : ∀ {after : PlanProgress}, after.executions = progress.executions ++ [⟨step,
      coordinator.stepResult progress.executions.length step context⟩] →
      timesExecuted after.executions step.stepId
        = timesExecuted progress.executions step.stepId + 1 := by
    intro after hexecutions
    rw [hexecutions, timesExecuted_snoc, if_pos rfl]
  rcases h.turn with hleave | ⟨after, hagain, hreturns⟩
  · have hverdict := Except.ok.inj (heq.symm.trans hleave)
    have hafter := hone (verdict_executions (.inr hverdict))
    omega
  · have hverdict := Except.ok.inj (heq.symm.trans hagain)
    have hafter := hone (verdict_executions (.inl hverdict))
    have hle := returns_timesExecuted_le hreturns step.stepId
    omega

/-! ## What a run leaves -/

/-- Of every allowance nothing is used, or everything. -/
def Spent (maxRetries : Int) (counts : RetryCounts) : Prop :=
  ∀ stepId, granted counts stepId = 0 ∨ (granted counts stepId : Int) = maxRetries

/-- Only the step that the loop is about to execute can have an allowance in use. -/
def Settled (maxRetries : Int) (plan : Plan) (progress : PlanProgress) : Prop :=
  ∀ stepId, granted progress.retryCounts stepId = 0 ∨
    (granted progress.retryCounts stepId : Int) = maxRetries ∨
    ((granted progress.retryCounts stepId : Int) ≤ maxRetries ∧
      ∃ step, Attempts plan progress step ∧ step.stepId = stepId)

/-- **Step lemma**: a turn that goes round again. -/
theorem Settled.again (h : Settled coordinator.maxRetries plan progress) {after : PlanProgress}
    (hagain : coordinator.turn run plan context progress = .ok (.again after)) :
    Settled coordinator.maxRetries plan after := by
  by_cases hidle : ∀ step, ¬ Attempts plan progress step
  · obtain ⟨left, heq, -⟩ := turn_of_idle coordinator run context hidle
    cases heq.symm.trans hagain
  push Not at hidle
  obtain ⟨step, hattempts⟩ := hidle
  obtain ⟨events, heq⟩ := turn_of_attempts coordinator run context hattempts
  have hverdict := Except.ok.inj (heq.symm.trans hagain)
  unfold verdict at hverdict
  -- the allowances of the other steps are as before
  have hothers : ∀ stepId ≠ step.stepId, ∀ count,
      granted (Function.update progress.retryCounts step.stepId count) stepId = 0 ∨
      (granted (Function.update progress.retryCounts step.stepId count) stepId : Int)
        = coordinator.maxRetries := by
    intro stepId hne count
    rw [granted_update_of_ne _ hne]
    rcases h stepId with hzero | hspent | ⟨-, next, hnext, rfl⟩
    · exact .inl hzero
    · exact .inr hspent
    · exact absurd (congrArg PlanStep.stepId (hnext.unique hattempts)) hne
  split at hverdict
  · obtain rfl := Turn.again.inj hverdict
    intro stepId
    by_cases hid : stepId = step.stepId
    · subst hid
      exact .inl (granted_update_self _ _ _)
    · exact (hothers stepId hid none).imp_right .inl
  · split at hverdict
    · next hgranted =>
        obtain rfl := Turn.again.inj hverdict
        intro stepId
        by_cases hid : stepId = step.stepId
        · subst hid
          refine .inr (.inr ⟨?_, step, hattempts, rfl⟩)
          dsimp only
          rw [granted_update_self, Option.getD_some]
          omega
        · exact (hothers stepId hid _).imp_right .inl
    · cases hverdict

/-- **Step lemma**: a turn that leaves. -/
theorem Settled.leave (h : Settled coordinator.maxRetries plan progress) {after : PlanProgress}
    (hleave : coordinator.turn run plan context progress = .ok (.leave after)) :
    Spent coordinator.maxRetries after.retryCounts := by
  by_cases hidle : ∀ step, ¬ Attempts plan progress step
  · obtain ⟨left, heq, -, hcounts⟩ := turn_of_idle coordinator run context hidle
    obtain rfl := Turn.leave.inj (Except.ok.inj (heq.symm.trans hleave))
    rw [hcounts]
    intro stepId
    rcases h stepId with hzero | hspent | ⟨-, step, hattempts, -⟩
    · exact .inl hzero
    · exact .inr hspent
    · exact absurd hattempts (hidle step)
  push Not at hidle
  obtain ⟨step, hattempts⟩ := hidle
  obtain ⟨events, heq⟩ := turn_of_attempts coordinator run context hattempts
  have hverdict := Except.ok.inj (heq.symm.trans hleave)
  unfold verdict at hverdict
  split at hverdict
  · cases hverdict
  · split at hverdict
    · cases hverdict
    · next hgranted =>
        obtain rfl := Turn.leave.inj hverdict
        intro stepId
        rcases h stepId with hzero | hspent | ⟨hle, next, hnext, rfl⟩
        · exact .inl hzero
        · exact .inr hspent
        · -- an abort is the end of an allowance
          obtain rfl := hnext.unique hattempts
          exact .inr (by dsimp only; omega)

/-- The loop leaves every allowance unused or spent, when it found them so. -/
theorem Spent.loop (h : Spent coordinator.maxRetries progress.retryCounts) {result : PlanProgress}
    (hreturns : Returns (coordinator.turn run plan context) progress result) :
    Spent coordinator.maxRetries result.retryCounts := by
  obtain ⟨last, hreach, hleave⟩ := hreturns.leave
  have hlast : Settled coordinator.maxRetries plan last :=
    hreach.invariant (P := Settled coordinator.maxRetries plan)
      (fun _ _ hbefore hagain => hbefore.again hagain)
      (fun stepId => (h stepId).imp_right .inl)
  exact hlast.leave hleave

/-! ## Two runs in lockstep -/

/-- Two runs of one plan that have made the same executions. A step that was not executed still
    has the allowance that earlier runs left in either; of the other steps the allowances are the
    same. -/
structure Lockstep (counts others : RetryCounts) (progress other : PlanProgress) : Prop where
  completed : other.completed = progress.completed
  executions : other.executions = progress.executions
  untouched : ∀ stepId, timesExecuted progress.executions stepId = 0 →
    granted progress.retryCounts stepId = granted counts stepId ∧
    granted other.retryCounts stepId = granted others stepId
  touched : ∀ stepId, timesExecuted progress.executions stepId ≠ 0 →
    granted progress.retryCounts stepId = granted other.retryCounts stepId

variable {counts others : RetryCounts}

theorem lockstep_planned (counts others : RetryCounts) (context : RunContext) (plan : Plan) :
    Lockstep counts others (planned counts context plan) (planned others context plan) where
  completed := rfl
  executions := rfl
  untouched := fun _ _ => ⟨rfl, rfl⟩
  touched := fun _ h => absurd rfl h

theorem Lockstep.symm (h : Lockstep counts others progress other) :
    Lockstep others counts other progress where
  completed := h.completed.symm
  executions := h.executions.symm
  untouched := by
    intro stepId hzero
    rw [h.executions] at hzero
    exact (h.untouched stepId hzero).symm
  touched := by
    intro stepId hne
    rw [h.executions] at hne
    exact (h.touched stepId hne).symm

theorem Lockstep.attempts (h : Lockstep counts others progress other)
    (hattempts : Attempts plan progress step) : Attempts plan other step := by
  unfold Attempts
  rw [h.completed]
  exact hattempts

/-- An execution in both runs, after which the counter of the step is the same in both. -/
theorem Lockstep.execute (h : Lockstep counts others progress other) {after after' : PlanProgress}
    {result : StepResult} {count : Option Nat} (hcompleted : after'.completed = after.completed)
    (hexecutions : after.executions = progress.executions ++ [⟨step, result⟩])
    (hexecutions' : after'.executions = other.executions ++ [⟨step, result⟩])
    (hcounts : after.retryCounts = Function.update progress.retryCounts step.stepId count)
    (hcounts' : after'.retryCounts = Function.update other.retryCounts step.stepId count) :
    Lockstep counts others after after' where
  completed := hcompleted
  executions := by rw [hexecutions, hexecutions', h.executions]
  untouched := by
    intro stepId hzero
    rw [hexecutions, timesExecuted_snoc] at hzero
    have hne : stepId ≠ step.stepId := by
      rintro rfl
      rw [if_pos rfl] at hzero
      omega
    rw [hcounts, hcounts', granted_update_of_ne _ hne, granted_update_of_ne _ hne]
    exact h.untouched stepId (by omega)
  touched := by
    intro stepId hnonzero
    rw [hexecutions, timesExecuted_snoc] at hnonzero
    rw [hcounts, hcounts']
    by_cases hid : stepId = step.stepId
    · rw [hid, granted_update_self, granted_update_self]
    · rw [granted_update_of_ne _ hid, granted_update_of_ne _ hid]
      rw [if_neg (Ne.symm hid)] at hnonzero
      exact h.touched stepId hnonzero

/-- Where the allowances agree, the step that is about to be executed succeeds or has the same
    allowance in both runs. -/
theorem Lockstep.same_verdict (h : Lockstep counts others progress other)
    (hagrees : coordinator.AgreesAt plan context counts others progress)
    (hattempts : Attempts plan progress step) :
    (coordinator.stepResult progress.executions.length step context).success = true ∨
      granted progress.retryCounts step.stepId = granted other.retryCounts step.stepId := by
  by_cases hfirst : timesExecuted progress.executions step.stepId = 0
  · refine or_iff_not_imp_left.mpr fun hfailed => ?_
    obtain ⟨hcounts, hothers⟩ := h.untouched step.stepId hfirst
    rw [hcounts, hothers]
    exact hagrees step hattempts hfirst (Bool.eq_false_iff.mpr hfailed)
  · exact .inr (h.touched step.stepId hfirst)

/-- **Step lemma.** Where the allowances agree, two runs in lockstep take the same turn. -/
theorem Lockstep.turn (h : Lockstep counts others progress other) (run : ChiefRun)
    (hagrees : coordinator.AgreesAt plan context counts others progress) :
    (∃ after after', coordinator.turn run plan context progress = .ok (.again after) ∧
      coordinator.turn run plan context other = .ok (.again after') ∧
      Lockstep counts others after after') ∨
    ∃ after after', coordinator.turn run plan context progress = .ok (.leave after) ∧
      coordinator.turn run plan context other = .ok (.leave after') ∧
      after'.executions = after.executions := by
  by_cases hidle : ∀ step, ¬ Attempts plan progress step
  · obtain ⟨after, heq, hexecutions, -⟩ := turn_of_idle coordinator run context hidle
    have hidle' : ∀ step, ¬ Attempts plan other step :=
      fun step hattempts => hidle step (h.symm.attempts hattempts)
    obtain ⟨after', heq', hexecutions', -⟩ := turn_of_idle coordinator run context hidle'
    exact .inr ⟨after, after', heq, heq', by rw [hexecutions, hexecutions', h.executions]⟩
  push Not at hidle
  obtain ⟨step, hattempts⟩ := hidle
  have hverdict := h.same_verdict hagrees hattempts
  obtain ⟨events, heq⟩ := turn_of_attempts coordinator run context hattempts
  obtain ⟨events', heq'⟩ := turn_of_attempts coordinator run context
    (h.attempts hattempts)
  rw [heq, heq', h.executions]
  generalize coordinator.stepResult progress.executions.length step context = result at hverdict ⊢
  unfold verdict
  by_cases hsuccess : result.success = true
  · rw [if_pos hsuccess, if_pos hsuccess]
    exact .inl ⟨_, _, rfl, rfl, h.execute (congrArg (insert step.stepId) h.completed) rfl rfl rfl
      rfl⟩
  · rw [if_neg hsuccess, if_neg hsuccess, ← hverdict.resolve_left hsuccess]
    split
    · exact .inl ⟨_, _, rfl, rfl, h.execute h.completed rfl rfl rfl rfl⟩
    · exact .inr ⟨_, _, rfl, rfl, congrArg (· ++ [⟨step, result⟩]) h.executions⟩

/-- A first attempt that fails is followed by another one in the run that has an allowance for the
    step, and is the last one in the run that has none. -/
theorem Lockstep.part (h : Lockstep counts others progress other) {first second : PlanProgress}
    (hattempts : Attempts plan progress step)
    (hzero : timesExecuted progress.executions step.stepId = 0)
    (hfailed : (coordinator.stepResult progress.executions.length step context).success = false)
    (hallowed : (granted counts step.stepId : Int) < coordinator.maxRetries)
    (hspent : ¬ (granted others step.stepId : Int) < coordinator.maxRetries)
    (hfirst : Returns (coordinator.turn run plan context) progress first)
    (hsecond : Returns (coordinator.turn run plan context) other second) :
    timesExecuted second.executions step.stepId < timesExecuted first.executions step.stepId := by
  obtain ⟨hcounts, hothers⟩ := h.untouched step.stepId hzero
  obtain ⟨events, heq⟩ := turn_of_attempts coordinator run context hattempts
  obtain ⟨events', heq'⟩ := turn_of_attempts coordinator run context
    (h.attempts hattempts)
  rw [← h.executions] at hfailed
  have habort := heq'
  unfold verdict at habort
  rw [if_neg (Bool.eq_false_iff.mp hfailed), hothers, if_neg hspent] at habort
  rw [h.executions] at hfailed
  have hretry := heq
  unfold verdict at hretry
  rw [if_neg (Bool.eq_false_iff.mp hfailed), hcounts, if_pos hallowed] at hretry
  -- the run that aborts has made one attempt
  have hone : timesExecuted second.executions step.stepId = 1 := by
    rcases hsecond.turn with hleave | ⟨after, hagain, -⟩
    · obtain rfl := Turn.leave.inj (Except.ok.inj (habort.symm.trans hleave))
      dsimp only
      rw [timesExecuted_snoc, if_pos rfl, h.executions, hzero]
    · cases habort.symm.trans hagain
  -- the other one makes at least two
  rw [hone]
  have hafter := (returns_of_again hretry).mp hfirst
  have hmore : _ < timesExecuted _ step.stepId := returns_timesExecuted_lt hafter hattempts
  refine lt_of_le_of_lt ?_ hmore
  dsimp only
  rw [timesExecuted_snoc, if_pos rfl, hzero]

/-- **Two loops in lockstep** make the same attempts if and only if the allowances agree wherever
    the first one passes. -/
theorem Lockstep.sameAttempts_iff (hcounts : Spent coordinator.maxRetries counts)
    (hothers : Spent coordinator.maxRetries others) {first second : PlanProgress}
    (h : Lockstep counts others progress other)
    (hfirst : Returns (coordinator.turn run plan context) progress first)
    (hsecond : Returns (coordinator.turn run plan context) other second) :
    (∀ stepId, timesExecuted first.executions stepId = timesExecuted second.executions stepId) ↔
      ∀ p, Reaches (coordinator.turn run plan context) progress p →
        coordinator.AgreesAt plan context counts others p := by
  -- where the allowances disagree, one is unused and the other spent
  have hpart : ∀ {progress other : PlanProgress}, Lockstep counts others progress other →
      Returns (coordinator.turn run plan context) progress first →
      Returns (coordinator.turn run plan context) other second →
      (∀ stepId, timesExecuted first.executions stepId
        = timesExecuted second.executions stepId) →
      coordinator.AgreesAt plan context counts others progress := by
    intro progress other h hfirst hsecond hsame step hattempts hzero hfailed
    by_contra hne
    rcases hcounts step.stepId with hunused | hspent
    · have hlt := h.part hattempts hzero hfailed
        (by rcases hothers step.stepId with h0 | hmax <;> omega)
        (by rcases hothers step.stepId with h0 | hmax <;> omega) hfirst hsecond
      exact absurd (hsame step.stepId) (Nat.ne_of_gt hlt)
    · have hlt := h.symm.part (h.attempts hattempts) (by rw [h.executions]; exact hzero)
        (by rw [h.executions]; exact hfailed)
        (by rcases hothers step.stepId with h0 | hmax <;> omega) (by omega) hsecond hfirst
      exact absurd (hsame step.stepId) (Nat.ne_of_lt hlt)
  refine hfirst.induct (motive := fun progress => ∀ {other : PlanProgress},
    Lockstep counts others progress other →
    Returns (coordinator.turn run plan context) progress first →
    Returns (coordinator.turn run plan context) other second →
    ((∀ stepId, timesExecuted first.executions stepId
      = timesExecuted second.executions stepId) ↔
      ∀ p, Reaches (coordinator.turn run plan context) progress p →
        coordinator.AgreesAt plan context counts others p)) ?_ ?_ h hfirst hsecond
  · intro last hleave other h hfirst hsecond
    simp only [reaches_iff_of_leave hleave, forall_eq]
    refine ⟨hpart h hfirst hsecond, fun hagrees stepId => ?_⟩
    rcases h.turn run hagrees with ⟨after, _, heq, -⟩ | ⟨after, after', heq, heq', hexecutions⟩
    · cases heq.symm.trans hleave
    · obtain rfl := Turn.leave.inj (Except.ok.inj (heq.symm.trans hleave))
      rcases hsecond.turn with hleave' | ⟨_, hagain, -⟩
      · obtain rfl := Turn.leave.inj (Except.ok.inj (heq'.symm.trans hleave'))
        rw [hexecutions]
      · cases heq'.symm.trans hagain
  · intro before next hagain ih other h hfirst hsecond
    simp only [reaches_iff_of_again hagain, forall_eq_or_imp]
    -- the turn is the same in both runs, or one of them has parted
    by_cases hagrees : coordinator.AgreesAt plan context counts others before
    · rw [iff_true_intro hagrees, true_and]
      rcases h.turn run hagrees with ⟨after, after', heq, heq', hnext⟩ | ⟨_, _, heq, -⟩
      · obtain rfl := Turn.again.inj (Except.ok.inj (heq.symm.trans hagain))
        exact ih hnext ((returns_of_again hagain).mp hfirst) ((returns_of_again heq').mp hsecond)
      · cases heq.symm.trans hagain
    · exact iff_of_false (fun hsame => hagrees (hpart h hfirst hsecond hsame))
        (fun hall => hagrees hall.1)

/-! ## Runs -/

variable {goal : RunContext}

/-- A run without a plan executes nothing and leaves the counts as they are. -/
theorem reports_of_unplanned {text : String} (hplan : coordinator.finalPlan goal = .error text)
    (counts : RetryCounts) :
    ∃ unplanned : RunReport, unplanned.executions = [] ∧ unplanned.retryCounts = counts ∧
      ∀ report, coordinator.Reports counts goal report ↔ report = unplanned := by
  have hrun : ∀ fuel, coordinator.run counts fuel goal = some (runFailure
      ⟨goal, .planning, .planning, none, [], none, none⟩
      (startProgress counts [.planningStarted goal.runId]) text) := by
    intro fuel
    unfold Coordinator.run
    rw [hplan]
    rfl
  refine ⟨runFailure ⟨goal, .planning, .planning, none, [], none, none⟩
    (startProgress counts [.planningStarted goal.runId]) text, rfl, rfl, fun report => ⟨?_, ?_⟩⟩
  · rintro ⟨fuel, hreport⟩
    exact (Option.some.inj ((hrun fuel).symm.trans hreport)).symm
  · rintro rfl
    exact ⟨0, hrun 0⟩

/-- What a loop that has returned is reported as. -/
def closing (goal : RunContext) (plan : Plan) (result : PlanProgress) : RunReport :=
  match result.raised with
  | some text => runFailure (executing goal plan) result text
  | none => complete (executing goal plan) plan result

theorem closing_spec (goal : RunContext) (plan : Plan) (result : PlanProgress) :
    (closing goal plan result).executions = result.executions ∧
      (closing goal plan result).retryCounts = result.retryCounts := by
  unfold closing complete
  split
  · exact ⟨rfl, rfl⟩
  · dsimp only
    split
    · exact ⟨rfl, rfl⟩
    · exact ⟨rfl, rfl⟩

/-- The reports of a run that has a plan are those of what its loop returns. -/
theorem reports_iff (hplan : coordinator.finalPlan goal = .ok plan) (counts : RetryCounts)
    (report : RunReport) :
    coordinator.Reports counts goal report ↔ ∃ result,
      Returns (coordinator.turn (executing goal plan) plan (capabilityContext goal))
        (planned counts goal plan) result ∧ report = closing goal plan result := by
  have hrun : ∀ fuel result,
      runLoop (coordinator.turn (executing goal plan) plan (capabilityContext goal)) fuel
        (planned counts goal plan) = .ok result →
      coordinator.run counts fuel goal = result.map (closing goal plan) := by
    intro fuel result hresult
    rw [run_eq coordinator counts fuel goal hplan]
    unfold executeAndComplete
    dsimp only
    split
    · next e _ => cases e
    · next hloop =>
        obtain rfl := Except.ok.inj (hloop.symm.trans hresult)
        rfl
    · next progress hloop =>
        obtain rfl := Except.ok.inj (hloop.symm.trans hresult)
        rw [Option.map_some, closing]
        cases hraised : progress.raised with
        | none => rfl
        | some text => rfl
  constructor
  · rintro ⟨fuel, hreport⟩
    cases hresult : runLoop (coordinator.turn (executing goal plan) plan (capabilityContext goal))
        fuel (planned counts goal plan) with
    | error e => cases e
    | ok result =>
        rw [hrun fuel result hresult] at hreport
        obtain ⟨progress, rfl, hclosing⟩ := Option.map_eq_some_iff.mp hreport
        exact ⟨progress, ⟨fuel, hresult⟩, hclosing.symm⟩
  · rintro ⟨result, ⟨fuel, hresult⟩, rfl⟩
    exact ⟨fuel, hrun fuel (some result) hresult⟩

/-- A run gives one report. -/
theorem Reports.unique {first second : RunReport} (h : coordinator.Reports counts goal first)
    (h' : coordinator.Reports counts goal second) : first = second := by
  cases hplan : coordinator.finalPlan goal with
  | error text =>
      obtain ⟨unplanned, -, -, hiff⟩ := reports_of_unplanned hplan counts
      rw [(hiff first).mp h, (hiff second).mp h']
  | ok plan =>
      obtain ⟨result, hreturns, rfl⟩ := (reports_iff hplan _ _).mp h
      obtain ⟨result', hreturns', rfl⟩ := (reports_iff hplan _ _).mp h'
      rw [hreturns.unique hreturns']

/-- **What earlier runs leave** is unused or spent, whatever they did. -/
theorem LeftBy.spent {maxRetries : Int} {counts : RetryCounts} (h : LeftBy maxRetries counts) :
    Spent maxRetries counts := by
  induction h with
  | fresh => exact fun _ => .inl rfl
  | after hcounts coordinator hmax goal report hreport ih =>
      subst hmax
      cases hplan : coordinator.finalPlan goal with
      | error text =>
          obtain ⟨unplanned, -, hleft, hiff⟩ := reports_of_unplanned hplan _
          rw [(hiff report).mp hreport, hleft]
          exact ih
      | ok plan =>
          obtain ⟨result, hreturns, rfl⟩ := (reports_iff hplan _ _).mp hreport
          rw [(closing_spec goal plan result).2]
          have hplanned : Spent coordinator.maxRetries (planned _ goal plan).retryCounts := ih
          exact hplanned.loop hreturns

end Coordinator

/-! ## A step that an earlier run aborted at -/

/-- A coordinator of a fixed plan, with one capability that always fails. -/
def failingCoordinator (plan : Plan) (maxRetries : Int) : Coordinator where
  createPlan := fun _ => .ok plan
  adapt := none
  capabilities := fun _ => some { execute := fun _ _ _ => .error "never" }
  maxRetries := maxRetries

/-- A plan of one step. -/
def oneStep : Plan := ⟨"plan", [pendingStep "step-1" []]⟩

end Eag.Chief
