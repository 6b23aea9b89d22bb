/-
  Eag.Chief.Coordination

  What a coordinated run guarantees, whatever its plan, its step states and the outcomes
  of its capabilities: it returns, a step is executed only once its dependencies have
  succeeded and never again once it has itself, the validator's retries bound its
  executions, and SUCCESS is reported exactly when every step succeeded
  (`run_coordinated`).

  A turn of the loop ends in one of five ways (`TurnSpec`). Every turn that goes
  round again lowers what is left (`remaining`), and an invariant (`Ongoing`) relates
  the completed steps and the counters to the executions made.
-/

import Mathlib.Algebra.Order.BigOperators.Group.List
import Mathlib.Algebra.Order.Group.Nat
import Eag.Chief.Coordinator
import Eag.Foundation.Interleaving
import Eag.Foundation.Dict

namespace Eag.Chief

open Eag.Foundation

/-! ## Executions -/

/-- How often a step was executed. -/
def timesExecuted (executions : List Execution) (stepId : String) : Nat :=
  executions.countP (·.step.stepId = stepId)

/-- The step was executed with success. -/
def Succeeded (executions : List Execution) (stepId : String) : Prop :=
  ∃ execution ∈ executions, execution.step.stepId = stepId ∧ execution.result.success = true

theorem timesExecuted_snoc (executions : List Execution) (execution : Execution)
    (stepId : String) :
    timesExecuted (executions ++ [execution]) stepId
      = timesExecuted executions stepId + if execution.step.stepId = stepId then 1 else 0 := by
  unfold timesExecuted
  rw [List.countP_append]
  by_cases h : execution.step.stepId = stepId <;> simp [h]

theorem succeeded_snoc {executions : List Execution} {execution : Execution} {stepId : String} :
    Succeeded (executions ++ [execution]) stepId ↔ Succeeded executions stepId ∨
      (execution.step.stepId = stepId ∧ execution.result.success = true) := by
  unfold Succeeded
  simp only [List.mem_append, List.mem_singleton, or_and_right, exists_or, exists_eq_left]

/-- **A run is bounded and truthful** for a plan: which steps it executes, when, how often, and
    what it reports. -/
structure Coordinated (plan : Plan) (maxRetries : Int) (report : Coordinator.RunReport) :
    Prop where
  of_plan : ∀ execution ∈ report.executions, execution.step ∈ plan.steps
  dependencies_first : AtEach
    (fun earlier execution => ∀ dependency ∈ execution.step.dependencies,
      Succeeded earlier dependency) report.executions
  completed_final : AtEach
    (fun earlier execution => ¬ Succeeded earlier execution.step.stepId) report.executions
  bounded : ∀ stepId,
    (timesExecuted report.executions stepId : Int) ≤ max maxRetries 0 + 1
  success_iff : report.result.outcome = .success ↔
    ∀ step ∈ plan.steps, ∃ execution ∈ report.executions,
      execution.step = step ∧ execution.result.success = true

/-! ## Scheduler and validator -/

section

variable {plan : Plan} {completed : Finset String}

theorem isComplete_iff :
    isComplete plan completed = true ↔ ∀ step ∈ plan.steps, step.stepId ∈ completed := by
  simp [isComplete]

theorem isReady_iff {step : PlanStep} :
    isReady completed step = true ↔ step.stepId ∉ completed ∧ step.state = .pending ∧
      ∀ dependency ∈ step.dependencies, dependency ∈ completed := by
  simp [isReady, and_assoc]

/-- The next step is a ready step of the plan. -/
theorem getNextStep_some {step : PlanStep}
    (h : getNextStep plan completed = .ok (some step)) :
    step ∈ plan.steps ∧ isReady completed step = true := by
  unfold getNextStep schedule at h
  dsimp only at h
  split at h
  · cases h
  · have hhead : (plan.steps.filter (isReady completed)).head? = some step :=
      Except.ok.inj h
    exact List.mem_filter.mp (List.mem_of_head? hhead)

/-- As long as the plan is not complete, the scheduler raises or gives a step. -/
theorem getNextStep_ne_none (h : isComplete plan completed = false) :
    getNextStep plan completed ≠ .ok none := by
  intro hnone
  unfold getNextStep schedule at hnone
  dsimp only at hnone
  split at hnone
  · cases hnone
  · rename_i hready
    have hhead : (plan.steps.filter (isReady completed)).head? = none := Except.ok.inj hnone
    exact hready (by rw [List.head?_eq_none_iff.mp hhead, h]; rfl)

end

/-- The retries that the validator has granted a step. -/
def granted (counts : RetryCounts) (stepId : String) : Nat := (counts stepId).getD 0

theorem granted_update_self (counts : RetryCounts) (stepId : String) (count : Option Nat) :
    granted (Function.update counts stepId count) stepId = count.getD 0 := by
  rw [granted, Function.update_self]

theorem granted_update_of_ne (counts : RetryCounts) {stepId other : String}
    (h : other ≠ stepId) (count : Option Nat) :
    granted (Function.update counts stepId count) other = granted counts other := by
  rw [granted, Function.update_of_ne h, granted]

/-! ## Turns -/

namespace Coordinator

/-- **The five ways a turn ends.** -/
inductive TurnSpec (plan : Plan) (maxRetries : Int) (progress : PlanProgress) :
    Turn PlanProgress → Prop where
  | finished (hcomplete : isComplete plan progress.completed = true) :
      TurnSpec plan maxRetries progress (.leave progress)
  | deadlocked (text : String) (hcomplete : isComplete plan progress.completed = false) :
      TurnSpec plan maxRetries progress (.leave { progress with raised := some text })
  | succeeded (step : PlanStep) (result : StepResult) (events : List RuntimeEvent)
      (hmem : step ∈ plan.steps) (hready : isReady progress.completed step = true)
      (hsuccess : result.success = true) :
      TurnSpec plan maxRetries progress (.again
        { results := progress.results ++ [result]
          completed := insert step.stepId progress.completed
          retryCounts := Function.update progress.retryCounts step.stepId none
          executions := progress.executions ++ [⟨step, result⟩]
          events := events
          raised := progress.raised })
  | retried (step : PlanStep) (result : StepResult) (events : List RuntimeEvent)
      (hmem : step ∈ plan.steps) (hready : isReady progress.completed step = true)
      (hfailed : result.success = false)
      (hgranted : (granted progress.retryCounts step.stepId : Int) < maxRetries) :
      TurnSpec plan maxRetries progress (.again
        { results := progress.results
          completed := progress.completed
          retryCounts := Function.update progress.retryCounts step.stepId
            (some (granted progress.retryCounts step.stepId + 1))
          executions := progress.executions ++ [⟨step, result⟩]
          events := events
          raised := progress.raised })
  | aborted (step : PlanStep) (result : StepResult) (events : List RuntimeEvent)
      (hmem : step ∈ plan.steps) (hready : isReady progress.completed step = true)
      (hfailed : result.success = false) :
      TurnSpec plan maxRetries progress (.leave
        { results := progress.results ++ [result]
          completed := progress.completed
          retryCounts := progress.retryCounts
          executions := progress.executions ++ [⟨step, result⟩]
          events := events
          raised := progress.raised })

variable {coordinator : Coordinator} {run : ChiefRun} {plan : Plan} {context : CapabilityContext}

/-- No turn fails, and each is one of the five. -/
theorem turn_spec (coordinator : Coordinator) (run : ChiefRun) (plan : Plan)
    (context : CapabilityContext) (progress : PlanProgress) :
    ∃ ending, coordinator.turn run plan context progress = .ok ending ∧
      TurnSpec plan coordinator.maxRetries progress ending := by
  unfold turn
  cases hcomplete : isComplete plan progress.completed with
  | true => exact ⟨_, rfl, .finished hcomplete⟩
  | false =>
      rw [if_neg Bool.false_ne_true]
      cases hnext : getNextStep plan progress.completed with
      | error text => exact ⟨_, rfl, .deadlocked text hcomplete⟩
      | ok next =>
          cases next with
          | none => exact absurd hnext (getNextStep_ne_none hcomplete)
          | some step =>
              obtain ⟨hmem, hready⟩ := getNextStep_some hnext
              dsimp only [executeStep]
              generalize hresult :
                coordinator.stepResult progress.executions.length step context = result
              have hid : result.stepId = step.stepId := by rw [← hresult]; rfl
              unfold validate
              rw [hid]
              cases hsuccess : result.success with
              | true => exact ⟨_, rfl, .succeeded step result _ hmem hready hsuccess⟩
              | false =>
                  by_cases hgranted :
                      (granted progress.retryCounts step.stepId : Int) < coordinator.maxRetries
                  · have hif : ((progress.retryCounts step.stepId).getD 0 : Int)
                        < coordinator.maxRetries := hgranted
                    simp only [Bool.false_eq_true, if_false, if_pos hif]
                    exact ⟨_, rfl, .retried step result _ hmem hready hsuccess hgranted⟩
                  · have hif : ¬ ((progress.retryCounts step.stepId).getD 0 : Int)
                        < coordinator.maxRetries := hgranted
                    simp only [Bool.false_eq_true, if_false, if_neg hif]
                    exact ⟨_, rfl, .aborted step result _ hmem hready hsuccess⟩

/-! ## The invariant of the loop -/

/-- What holds of the executions made, at every turn and when the loop leaves. -/
structure Sound (plan : Plan) (maxRetries : Int) (progress : PlanProgress) : Prop where
  of_plan : ∀ execution ∈ progress.executions, execution.step ∈ plan.steps
  completed_iff : ∀ stepId,
    stepId ∈ progress.completed ↔ Succeeded progress.executions stepId
  dependencies_first : AtEach
    (fun earlier execution => ∀ dependency ∈ execution.step.dependencies,
      Succeeded earlier dependency) progress.executions
  completed_final : AtEach
    (fun earlier execution => ¬ Succeeded earlier execution.step.stepId) progress.executions
  bounded : ∀ stepId,
    (timesExecuted progress.executions stepId : Int) ≤ max maxRetries 0 + 1

/-- The invariant of the turns: of a step that is not completed, every execution was answered by
    a retry that the validator granted. -/
structure Ongoing (plan : Plan) (maxRetries : Int) (progress : PlanProgress) : Prop
    extends Sound plan maxRetries progress where
  results_succeed : ∀ result ∈ progress.results, result.success = true
  not_raised : progress.raised = none
  retried : ∀ stepId ∉ progress.completed,
    timesExecuted progress.executions stepId ≤ granted progress.retryCounts stepId ∧
    (timesExecuted progress.executions stepId : Int) ≤ max maxRetries 0

/-- How the loop leaves: with the plan complete and every result a success, or with neither. -/
structure Left (plan : Plan) (maxRetries : Int) (progress : PlanProgress) : Prop
    extends Sound plan maxRetries progress where
  completes : (progress.raised = none ∧ isComplete plan progress.completed = true ∧
      ∀ result ∈ progress.results, result.success = true) ∨
    (isComplete plan progress.completed = false ∧
      (progress.raised = none → ∃ result ∈ progress.results, result.success = false))

theorem ongoing_start (plan : Plan) (maxRetries : Int) (counts : RetryCounts)
    (events : List RuntimeEvent) : Ongoing plan maxRetries (startProgress counts events) where
  of_plan := by
    intro execution h
    cases h
  completed_iff := by
    intro stepId
    simp [startProgress, Succeeded]
  dependencies_first := atEach_nil _
  completed_final := atEach_nil _
  bounded := by
    intro stepId
    show ((0 : Nat) : Int) ≤ _
    omega
  results_succeed := by
    intro result h
    cases h
  not_raised := rfl
  retried := by
    intro stepId _
    show 0 ≤ _ ∧ ((0 : Nat) : Int) ≤ _
    omega

section Step

variable {maxRetries : Int} {progress : PlanProgress} {step : PlanStep} {result : StepResult}

/-- An execution of a ready step keeps what holds of the executions, when the completed set
    follows its success. -/
theorem Ongoing.execute (h : Ongoing plan maxRetries progress) (hmem : step ∈ plan.steps)
    (hready : isReady progress.completed step = true) {after : PlanProgress}
    (hexecutions : after.executions = progress.executions ++ [⟨step, result⟩])
    (hcompleted : ∀ stepId, stepId ∈ after.completed ↔
      stepId ∈ progress.completed ∨ (step.stepId = stepId ∧ result.success = true)) :
    Sound plan maxRetries after := by
  obtain ⟨hnew, -, hdependencies⟩ := isReady_iff.mp hready
  refine ⟨?_, ?_, ?_, ?_, ?_⟩
  · intro execution hexecution
    rw [hexecutions, List.mem_append, List.mem_singleton] at hexecution
    rcases hexecution with hearlier | rfl
    · exact h.of_plan execution hearlier
    · exact hmem
  · intro stepId
    rw [hcompleted, h.completed_iff, hexecutions, succeeded_snoc]
  · rw [hexecutions]
    exact h.dependencies_first.snoc fun dependency hdependency =>
      (h.completed_iff dependency).mp (hdependencies dependency hdependency)
  · rw [hexecutions]
    exact h.completed_final.snoc fun hsucceeded => hnew ((h.completed_iff _).mpr hsucceeded)
  · intro stepId
    rw [hexecutions, timesExecuted_snoc]
    split
    · next heq =>
        have hle := (h.retried step.stepId hnew).2
        dsimp only at heq
        rw [heq] at hle
        omega
    · exact h.bounded stepId

/-- **Step lemma.** A turn that goes round again keeps the invariant. -/
theorem Ongoing.again (h : Ongoing plan maxRetries progress) {after : PlanProgress}
    (hturn : TurnSpec plan maxRetries progress (.again after)) :
    Ongoing plan maxRetries after := by
  cases hturn with
  | succeeded step result events hmem hready hsuccess =>
      refine ⟨h.execute hmem hready rfl ?_, ?_, h.not_raised, ?_⟩
      · intro stepId
        rw [Finset.mem_insert, eq_comm, or_comm]
        simp only [hsuccess, and_true]
      · intro other hother
        rw [List.mem_append, List.mem_singleton] at hother
        rcases hother with hearlier | rfl
        · exact h.results_succeed other hearlier
        · exact hsuccess
      · intro stepId hstepId
        dsimp only at hstepId ⊢
        rw [Finset.mem_insert, not_or] at hstepId
        obtain ⟨hne, hearlier⟩ := hstepId
        rw [timesExecuted_snoc, if_neg (Ne.symm hne), granted_update_of_ne _ hne]
        exact h.retried stepId hearlier
  | retried step result events hmem hready hfailed hgranted =>
      refine ⟨h.execute hmem hready rfl ?_, h.results_succeed, h.not_raised, ?_⟩
      · intro stepId
        rw [hfailed]
        simp
      · intro stepId hstepId
        have hearlier := h.retried stepId hstepId
        dsimp only
        rw [timesExecuted_snoc]
        by_cases hid : step.stepId = stepId
        · subst hid
          rw [if_pos rfl, granted_update_self]
          -- the retry was granted below the bound, so there is room for this execution
          have hroom : (timesExecuted progress.executions step.stepId : Int) < maxRetries := by
            omega
          simp only [Option.getD_some]
          omega
        · rw [if_neg hid, granted_update_of_ne _ (Ne.symm hid)]
          exact hearlier

/-- A turn that leaves does so with the plan complete or with something that shows it is not. -/
theorem Ongoing.leave (h : Ongoing plan maxRetries progress) {after : PlanProgress}
    (hturn : TurnSpec plan maxRetries progress (.leave after)) :
    Left plan maxRetries after := by
  cases hturn with
  | finished hcomplete =>
      exact ⟨h.toSound, .inl ⟨h.not_raised, hcomplete, h.results_succeed⟩⟩
  | deadlocked text hcomplete =>
      refine ⟨?_, .inr ⟨hcomplete, fun hnone => nomatch hnone⟩⟩
      exact ⟨h.of_plan, h.completed_iff, h.dependencies_first, h.completed_final, h.bounded⟩
  | aborted step result events hmem hready hfailed =>
      refine ⟨h.execute hmem hready rfl ?_, .inr ⟨?_, fun _ => ⟨result, ?_, hfailed⟩⟩⟩
      · intro stepId
        rw [hfailed]
        simp
      · rw [Bool.eq_false_iff, Ne, isComplete_iff]
        exact fun hall => (isReady_iff.mp hready).1 (hall step hmem)
      · exact List.mem_append_right _ (List.mem_singleton_self _)

end Step

/-! ## The measure of the loop -/

/-- The executions that a step can still have. -/
def left (maxRetries : Int) (progress : PlanProgress) (step : PlanStep) : Nat :=
  if step.stepId ∈ progress.completed then 0
  else (maxRetries - granted progress.retryCounts step.stepId).toNat + 1

/-- The executions that the steps of a plan can still have. -/
def remaining (plan : Plan) (maxRetries : Int) (progress : PlanProgress) : Nat :=
  (plan.steps.map (left maxRetries progress)).sum

/-- A turn that goes round again leaves fewer executions. -/
theorem remaining_again {maxRetries : Int} {progress after : PlanProgress}
    (hturn : TurnSpec plan maxRetries progress (.again after)) :
    remaining plan maxRetries after < remaining plan maxRetries progress := by
  cases hturn with
  | succeeded step result events hmem hready hsuccess =>
      have hnew := (isReady_iff.mp hready).1
      refine List.sum_lt_sum _ _ (fun other _ => ?_) ⟨step, hmem, ?_⟩
      · unfold left
        dsimp only
        by_cases hid : other.stepId = step.stepId
        · rw [hid, if_pos (Finset.mem_insert_self _ _)]
          exact Nat.zero_le _
        · rw [granted_update_of_ne _ hid]
          simp only [Finset.mem_insert, hid, false_or, le_refl]
      · unfold left
        dsimp only
        rw [if_pos (Finset.mem_insert_self _ _), if_neg hnew]
        exact Nat.succ_pos _
  | retried step result events hmem hready hfailed hgranted =>
      have hnew := (isReady_iff.mp hready).1
      refine List.sum_lt_sum _ _ (fun other _ => ?_) ⟨step, hmem, ?_⟩
      · unfold left
        dsimp only
        by_cases hid : other.stepId = step.stepId
        · rw [hid, granted_update_self, if_neg hnew, if_neg hnew, Option.getD_some]
          omega
        · rw [granted_update_of_ne _ hid]
      · unfold left
        dsimp only
        rw [if_neg hnew, if_neg hnew, granted_update_self, Option.getD_some]
        omega

/-! ## Whole runs -/

/-- However the loop returns from where the invariant holds, it does as `Left` says. -/
theorem executePlan_left {progress after : PlanProgress}
    (h : Ongoing plan coordinator.maxRetries progress)
    (hreturns : Returns (coordinator.turn run plan context) progress after) :
    Left plan coordinator.maxRetries after := by
  obtain ⟨last, hreach, hleave⟩ := hreturns.leave
  have hlast : Ongoing plan coordinator.maxRetries last := by
    refine hreach.invariant (P := Ongoing plan coordinator.maxRetries) ?_ h
    intro before next hbefore hagain
    obtain ⟨ending, heq, hspec⟩ := turn_spec coordinator run plan context before
    obtain rfl := Except.ok.inj (hagain.symm.trans heq)
    exact hbefore.again hspec
  obtain ⟨ending, heq, hspec⟩ := turn_spec coordinator run plan context last
  obtain rfl := Except.ok.inj (hleave.symm.trans heq)
  exact hlast.leave hspec

/-- **The loop returns**, from wherever the invariant holds. -/
theorem executePlan_returns {progress : PlanProgress}
    (h : Ongoing plan coordinator.maxRetries progress) :
    ∃ after, Returns (coordinator.turn run plan context) progress after := by
  have hturn : ∀ progress, Ongoing plan coordinator.maxRetries progress →
      (∃ after, coordinator.turn run plan context progress = .ok (.leave after) ∧ True) ∨
      ∃ after, coordinator.turn run plan context progress = .ok (.again after) ∧
        Ongoing plan coordinator.maxRetries after ∧
        remaining plan coordinator.maxRetries after
          < remaining plan coordinator.maxRetries progress := by
    intro progress hongoing
    obtain ⟨ending, heq, hspec⟩ := turn_spec coordinator run plan context progress
    cases ending with
    | again after => exact .inr ⟨after, heq, hongoing.again hspec, remaining_again hspec⟩
    | leave after => exact .inl ⟨after, heq, trivial⟩
  obtain ⟨after, hreturns, -⟩ := returns_of_measure Nat.lt_wfRel.wf _ hturn h
  exact ⟨after, hreturns⟩

/-- A run that has its plan is executing when it gets to the loop. -/
theorem run_eq (coordinator : Coordinator) (counts : RetryCounts) (fuel : Nat)
    (context : RunContext) {plan : Plan} (hplan : coordinator.finalPlan context = .ok plan) :
    coordinator.run counts fuel context
      = coordinator.executeAndComplete counts fuel
          ⟨context, .executing, .execution, some plan, [], none, none⟩ plan
          [.planningStarted context.runId,
            .planningCompleted context.runId plan.planId plan.steps.length] := by
  unfold run
  rw [hplan]
  rfl

/-- What the completion of an executing run reports. -/
theorem complete_spec {executing : ChiefRun} (hstate : executing.state = .executing)
    (plan : Plan) (progress : PlanProgress) :
    (complete executing plan progress).executions = progress.executions ∧
    ((complete executing plan progress).result.outcome = .success ↔
      ∀ result ∈ progress.results, result.success = true) := by
  have htransition : ∀ target, target = .completed ∨ target = .failed →
      RunState.canTransitionTo .executing target = true := by
    rintro target (rfl | rfl) <;> rfl
  unfold complete transition
  by_cases hall : ∀ result ∈ progress.results, result.success = true
  · rw [if_pos (List.all_eq_true.mpr hall)]
    simp only [hstate, htransition _ (.inl rfl), if_true, true_and, iff_true_intro hall]
  · rw [if_neg (mt List.all_eq_true.mp hall)]
    simp only [hstate, reduceCtorEq, htransition _ (.inr rfl), if_true, if_false, true_and,
      iff_false_intro hall]

/-- In a plan with distinct identities, the plan is complete when every step succeeded. -/
theorem Sound.isComplete_iff {maxRetries : Int} {progress : PlanProgress}
    (h : Sound plan maxRetries progress) (hdistinct : plan.stepIds.Nodup) :
    isComplete plan progress.completed = true ↔
      ∀ step ∈ plan.steps, ∃ execution ∈ progress.executions,
        execution.step = step ∧ execution.result.success = true := by
  rw [Chief.isComplete_iff]
  refine forall₂_congr fun step hstep => ?_
  rw [h.completed_iff]
  constructor
  · rintro ⟨execution, hmem, hid, hsuccess⟩
    exact ⟨execution, hmem,
      eq_of_key_eq hdistinct (h.of_plan execution hmem) hstep hid, hsuccess⟩
  · rintro ⟨execution, hmem, rfl, hsuccess⟩
    exact ⟨execution, hmem, rfl, hsuccess⟩

/-- The report on a loop that left is bounded and truthful. -/
theorem Left.coordinated {maxRetries : Int} {progress : PlanProgress}
    (h : Left plan maxRetries progress) (hdistinct : plan.stepIds.Nodup) {report : RunReport}
    (hexecutions : report.executions = progress.executions)
    (houtcome : report.result.outcome = .success ↔
      progress.raised = none ∧ ∀ result ∈ progress.results, result.success = true) :
    Coordinated plan maxRetries report where
  of_plan := by rw [hexecutions]; exact h.of_plan
  dependencies_first := by rw [hexecutions]; exact h.dependencies_first
  completed_final := by rw [hexecutions]; exact h.completed_final
  bounded := by rw [hexecutions]; exact h.bounded
  success_iff := by
    rw [hexecutions, ← h.isComplete_iff hdistinct, houtcome]
    rcases h.completes with ⟨hraised, hcomplete, hsucceed⟩ | ⟨hcomplete, hfailed⟩
    · exact iff_of_true ⟨hraised, hsucceed⟩ hcomplete
    · refine iff_of_false ?_ (by rw [hcomplete]; exact Bool.false_ne_true)
      rintro ⟨hraised, hsucceed⟩
      obtain ⟨result, hmem, hresult⟩ := hfailed hraised
      rw [hsucceed result hmem] at hresult
      exact absurd hresult Bool.noConfusion

/-- **Coordination is bounded and truthful**: a run of a plan with distinct step identities
    returns, and what it reports is `Coordinated`. -/
theorem run_coordinated (coordinator : Coordinator) (counts : RetryCounts)
    (context : RunContext) (plan : Plan) (hplan : coordinator.finalPlan context = .ok plan)
    (hdistinct : plan.stepIds.Nodup) :
    (∃ fuel report, coordinator.run counts fuel context = some report) ∧
    ∀ fuel report, coordinator.run counts fuel context = some report →
      Coordinated plan coordinator.maxRetries report := by
  simp only [run_eq coordinator counts _ context hplan]
  unfold executeAndComplete
  dsimp only
  generalize (CapabilityContext.mk _ _ _) = capContext
  generalize hexecuting : (⟨context, .executing, .execution, some plan, [], none, none⟩ :
    ChiefRun) = executing
  have hstate : executing.state = .executing := by rw [← hexecuting]
  have hstart := ongoing_start plan coordinator.maxRetries counts
    [.planningStarted context.runId,
      .planningCompleted context.runId plan.planId plan.steps.length]
  constructor
  · obtain ⟨after, fuel, hrun⟩ :=
      @executePlan_returns coordinator executing plan capContext _ hstart
    refine ⟨fuel, ?_⟩
    rw [hrun]
    dsimp only
    cases after.raised with
    | none => exact ⟨_, rfl⟩
    | some text => exact ⟨_, rfl⟩
  · intro fuel report hreport
    split at hreport
    · next e _ => exact nomatch e
    · cases hreport
    · next after hrun =>
        have hleft := executePlan_left hstart ⟨fuel, hrun⟩
        split at hreport <;> rename_i hraised <;> obtain rfl := Option.some.inj hreport
        · refine hleft.coordinated hdistinct rfl (iff_of_false (fun h => nomatch h) ?_)
          rw [hraised]
          exact fun h => nomatch h.1
        · obtain ⟨hexecutions, houtcome⟩ := complete_spec hstate plan after
          refine hleft.coordinated hdistinct hexecutions (houtcome.trans ?_)
          rw [hraised, eq_self_iff_true, true_and]

end Coordinator

/-! ## Runs of two small plans -/

/-- A context that names a goal and nothing else. -/
def goalContext : RunContext := ⟨"run", "goal", .nil, by decide⟩

/-- A pending step for a capability of its own name. -/
def pendingStep (stepId : String) (dependencies : List String) : PlanStep :=
  ⟨stepId, "step", "capability", dependencies, .pending, .nil, by decide⟩

/-- A coordinator of a fixed plan, with one capability that fails when it is first executed. -/
def flakyCoordinator (plan : Plan) (maxRetries : Int) : Coordinator where
  createPlan := fun _ => .ok plan
  adapt := none
  capabilities := fun _ => some
    { execute := fun earlier _ _ =>
        if earlier = 0 then .error "not yet" else .ok ⟨.success, "", none, .nil⟩ }
  maxRetries := maxRetries

/-- Two steps, the first of which waits for the second. -/
def twoSteps : Plan := ⟨"plan", [pendingStep "b" ["a"], pendingStep "a" []]⟩

theorem run_coordinated_twoSteps :
    (∃ fuel report, (flakyCoordinator twoSteps 1).run (fun _ => none) fuel goalContext
      = some report) ∧
    ∀ fuel report, (flakyCoordinator twoSteps 1).run (fun _ => none) fuel goalContext
      = some report → Coordinated twoSteps 1 report :=
  Coordinator.run_coordinated (flakyCoordinator twoSteps 1) (fun _ => none) goalContext twoSteps
    rfl (by decide)

/-- With a negative `max_retries`, a step is still executed once. -/
theorem executed_despite_negative_retries :
    ¬ ∀ (coordinator : Coordinator) (counts : RetryCounts) (context : RunContext) (plan : Plan),
      coordinator.finalPlan context = .ok plan → plan.stepIds.Nodup →
      ∀ fuel report, coordinator.run counts fuel context = some report →
      ∀ stepId, (timesExecuted report.executions stepId : Int) ≤ coordinator.maxRetries + 1 := by
  intro hclaim
  have hall := hclaim (flakyCoordinator twoSteps (-1)) (fun _ => none) goalContext twoSteps rfl
    (by decide) 1
  have hrun : ((flakyCoordinator twoSteps (-1)).run (fun _ => none) 1 goalContext).map
      (fun report => timesExecuted report.executions "a") = some 1 := by decide
  cases hreport : (flakyCoordinator twoSteps (-1)).run (fun _ => none) 1 goalContext with
  | none => rw [hreport] at hrun; cases hrun
  | some report =>
      rw [hreport] at hrun
      have hcount : timesExecuted report.executions "a" = 1 := Option.some.inj hrun
      have hle := hall report hreport "a"
      rw [hcount] at hle
      exact absurd hle (by decide)

end Eag.Chief
