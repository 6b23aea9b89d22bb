/-
  Eag.Execution.PlanExecution

  What the execution of a plan guarantees. The scheduler passes the tasks through, so a
  task follows those that it depends on when the plan lists them in that order
  (`PreSorted`). Then, whatever the dispatcher does, nothing is dispatched before its
  dependencies have succeeded and nothing twice; and the session ends completed or
  failed, with the event that says so (`execute_preSorted`).
-/

import Eag.Execution.Runtime

namespace Eag.Execution

open Eag.Foundation Eag.Planner

/-! ## What is promised -/

/-- The dispatch returned a success. -/
def Dispatch.Succeeded (dispatch : Dispatch) : Prop :=
  ∃ result, dispatch.outcome = .ok result ∧ result.success = true

/-- Nothing is dispatched before the tasks of the plan that it depends on have succeeded, and
    nothing twice. -/
structure FollowsDependencies (tasks : List EngineeringTask) (dispatches : List Dispatch) :
    Prop where
  dependencies_first : AtEach
    (fun earlier dispatch => ∀ other ∈ tasks, other.id ∈ dispatch.task.dependencies →
      ∃ before ∈ earlier, before.task = other ∧ before.Succeeded) dispatches
  once : (dispatches.map fun dispatch => dispatch.task.id).Nodup

/-- The session is in a state that ends an execution, and has published the event that says so. -/
def Session.Concluded (session : Session) : Prop :=
  (session.lifecycle = .completed ∧
    ∃ executionId, session.events.getLast? = some (.executionCompleted executionId true)) ∨
  (session.lifecycle = .failed ∧
    ∃ executionId error, session.events.getLast? = some (.executionFailed executionId error)) ∨
  (session.lifecycle = .cancelled ∧
    ∃ executionId reason, session.events.getLast? = some (.executionCancelled executionId reason))

/-- The dispatcher returned, and the session was running when it did. -/
def Dispatch.Undisturbed (dispatch : Dispatch) : Prop :=
  (∃ result, dispatch.outcome = .ok result) ∧ dispatch.state = .running

/-! ## The loop -/

namespace Session

variable {dispatcher : Dispatcher} {executionId : String} {session : Session}
  {task : EngineeringTask} {tasks rest : List EngineeringTask}

@[simp] theorem dispatched_dispatches (behaviour : Behaviour) :
    (session.dispatched executionId task behaviour).dispatches = session.dispatches ++
      [⟨task, behaviour.outcome, behaviour.controls.foldl Control.apply session.lifecycle⟩] := rfl

@[simp] theorem dispatched_lifecycle (behaviour : Behaviour) :
    (session.dispatched executionId task behaviour).lifecycle
      = behaviour.controls.foldl Control.apply session.lifecycle := rfl

@[simp] theorem recorded_dispatches (result : ExecutionResult) :
    (session.recorded executionId task result).dispatches = session.dispatches := rfl

@[simp] theorem recorded_lifecycle (result : ExecutionResult) :
    (session.recorded executionId task result).lifecycle = session.lifecycle := rfl

/-- The call of the dispatcher with the next task. -/
def nextDispatch (dispatcher : Dispatcher) (session : Session) (task : EngineeringTask) :
    Dispatch :=
  let behaviour := dispatcher (session.dispatches.map Dispatch.task) task
  ⟨task, behaviour.outcome, behaviour.controls.foldl Control.apply session.lifecycle⟩

/-- **The ways a turn of the loop ends**: nothing is dispatched; or the next task is, and the loop
    goes on after a success, or ends. -/
theorem runTasks_cons (dispatcher : Dispatcher) (executionId : String) (session : Session)
    (task : EngineeringTask) (rest : List EngineeringTask) :
    (session.lifecycle ≠ .running ∧
      (session.runTasks dispatcher executionId (task :: rest)).2 = session) ∨
    (∃ next : Session, next.dispatches = session.dispatches ++ [nextDispatch dispatcher session task] ∧
      next.lifecycle = (nextDispatch dispatcher session task).state ∧
      (nextDispatch dispatcher session task).Succeeded ∧
      session.runTasks dispatcher executionId (task :: rest)
        = next.runTasks dispatcher executionId rest) ∨
    ∃ ending next, session.runTasks dispatcher executionId (task :: rest) = (ending, next) ∧
      next.dispatches = session.dispatches ++ [nextDispatch dispatcher session task] ∧
      ((nextDispatch dispatcher session task).Undisturbed →
        ending = .left ∧ next.lifecycle = .failed ∧
          ∃ error, next.events.getLast? = some (.executionFailed executionId error)) := by
  by_cases hcancelled : session.lifecycle = .cancelled
  · refine .inl ⟨by rw [hcancelled]; exact nofun, ?_⟩
    rw [runTasks, if_pos hcancelled]
  by_cases hpaused : session.lifecycle = .paused
  · refine .inl ⟨by rw [hpaused]; exact nofun, ?_⟩
    rw [runTasks, if_neg hcancelled, if_pos hpaused]
  refine .inr ?_
  rw [runTasks, if_neg hcancelled, if_neg hpaused]
  unfold nextDispatch
  dsimp only
  generalize dispatcher (session.dispatches.map Dispatch.task) task = behaviour
  cases houtcome : behaviour.outcome with
  | error text =>
      refine .inr ⟨_, _, rfl, by rw [dispatched_dispatches, houtcome], ?_⟩
      rintro ⟨⟨result, hresult⟩, -⟩
      cases hresult
  | ok result =>
      dsimp only
      by_cases hsuccess : result.success = true
      · rw [if_pos hsuccess]
        exact .inl ⟨_, by rw [recorded_dispatches, dispatched_dispatches, houtcome], rfl,
          ⟨result, rfl, hsuccess⟩, rfl⟩
      · rw [if_neg hsuccess, recorded_lifecycle, dispatched_lifecycle]
        refine .inr ?_
        -- only a session that can still fail is left failed
        cases htransition : transitionTo (behaviour.controls.foldl Control.apply session.lifecycle)
            .failed with
        | error text =>
            refine ⟨_, _, rfl, by rw [recorded_dispatches, dispatched_dispatches, houtcome], ?_⟩
            rintro ⟨-, hstate⟩
            rw [show behaviour.controls.foldl Control.apply session.lifecycle = .running
              from hstate] at htransition
            cases htransition
        | ok state =>
            refine ⟨_, _, rfl, ?_, ?_⟩
            · show (session.dispatched executionId task behaviour).dispatches = _
              rw [dispatched_dispatches, houtcome]
            · rintro ⟨-, hstate⟩
              rw [show behaviour.controls.foldl Control.apply session.lifecycle = .running
                from hstate] at htransition
              cases htransition
              exact ⟨rfl, rfl, _, List.getLast?_concat⟩

/-- The loop adds to the dispatches. -/
theorem runTasks_dispatches (dispatcher : Dispatcher) (executionId : String)
    (rest : List EngineeringTask) (session : Session) :
    session.dispatches <+: (session.runTasks dispatcher executionId rest).2.dispatches := by
  induction rest generalizing session with
  | nil => exact List.prefix_refl _
  | cons task rest ih =>
      rcases runTasks_cons dispatcher executionId session task rest with
        ⟨-, heq⟩ | ⟨next, hdispatches, -, -, heq⟩ | ⟨ending, next, heq, hdispatches, -⟩
      · rw [heq]
      · rw [heq]
        exact (hdispatches ▸ List.prefix_append _ _).trans (ih next)
      · rw [heq, hdispatches]
        exact List.prefix_append _ _

end Session

/-! ## Plans in the order of their dependencies -/

section PreSorted

variable {tasks rest : List EngineeringTask} {task : EngineeringTask} {dispatches : List Dispatch}

theorem followsDependencies_nil (tasks : List EngineeringTask) : FollowsDependencies tasks [] :=
  ⟨atEach_nil _, List.nodup_nil⟩

/-- The next task of the order, after the ones before it have succeeded. -/
theorem FollowsDependencies.snoc (hsorted : PreSorted tasks)
    (h : FollowsDependencies tasks dispatches)
    (htasks : tasks = dispatches.map Dispatch.task ++ task :: rest)
    (hsucceeded : ∀ dispatch ∈ dispatches, dispatch.Succeeded) (dispatch : Dispatch)
    (htask : dispatch.task = task) : FollowsDependencies tasks (dispatches ++ [dispatch]) where
  dependencies_first := by
    refine h.dependencies_first.snoc fun other hother hdependency => ?_
    have hlisted := hsorted.dependencies_first _ task rest htasks other.id (htask ▸ hdependency)
      (List.mem_map_of_mem hother)
    obtain ⟨earlier, hearlier, hid⟩ := List.mem_map.mp hlisted
    have hmem : earlier ∈ tasks := by
      rw [htasks]
      exact List.mem_append_left _ hearlier
    obtain ⟨before, hbefore, rfl⟩ := List.mem_map.mp hearlier
    exact ⟨before, hbefore, eq_of_key_eq hsorted.distinct hmem hother hid,
      hsucceeded before hbefore⟩
  once := by
    have hdistinct := hsorted.distinct
    rw [taskIds, htasks, List.map_append, List.map_map, List.map_cons] at hdistinct
    rw [List.map_append, List.map_singleton, htask]
    exact hdistinct.sublist (List.Sublist.append_left (.cons_cons _ (List.nil_sublist _)) _)

variable {session : Session}

/-- **The loop follows the dependencies** of a plan in their order, whatever the dispatcher
    does. -/
theorem Session.runTasks_follows (hsorted : PreSorted tasks) (dispatcher : Dispatcher)
    (executionId : String) (htasks : tasks = session.dispatches.map Dispatch.task ++ rest)
    (hsucceeded : ∀ dispatch ∈ session.dispatches, dispatch.Succeeded)
    (h : FollowsDependencies tasks session.dispatches) :
    FollowsDependencies tasks (session.runTasks dispatcher executionId rest).2.dispatches := by
  induction rest generalizing session with
  | nil => exact h
  | cons task rest ih =>
      have hnext := h.snoc hsorted htasks hsucceeded (nextDispatch dispatcher session task) rfl
      rcases runTasks_cons dispatcher executionId session task rest with
        ⟨-, heq⟩ | ⟨next, hdispatches, -, hsuccess, heq⟩ | ⟨ending, next, heq, hdispatches, -⟩
      · rw [heq]
        exact h
      · rw [heq]
        refine ih ?_ ?_ (hdispatches ▸ hnext)
        · rw [hdispatches, htasks, List.map_append, List.append_assoc]
          rfl
        · rw [hdispatches]
          intro dispatch hdispatch
          rcases List.mem_append.mp hdispatch with hearlier | hlast
          · exact hsucceeded dispatch hearlier
          · rw [List.mem_singleton.mp hlast]
            exact hsuccess
      · rw [heq, hdispatches]
        exact hnext

/-- **The loop is left**, with the session running or failed, when every dispatch returns into a
    running session. -/
theorem Session.runTasks_undisturbed (dispatcher : Dispatcher) (executionId : String)
    (rest : List EngineeringTask) (hrunning : session.lifecycle = .running)
    (hundisturbed : ∀ dispatch ∈ (session.runTasks dispatcher executionId rest).2.dispatches,
      dispatch.Undisturbed) :
    ∃ final, session.runTasks dispatcher executionId rest = (.left, final) ∧
      (final.lifecycle = .running ∨ final.lifecycle = .failed ∧
        ∃ error, final.events.getLast? = some (.executionFailed executionId error)) := by
  induction rest generalizing session with
  | nil => exact ⟨session, rfl, .inl hrunning⟩
  | cons task rest ih =>
      rcases runTasks_cons dispatcher executionId session task rest with
        ⟨hnot, -⟩ | ⟨next, hdispatches, hstate, -, heq⟩ | ⟨ending, next, heq, hdispatches, hends⟩
      · exact absurd hrunning hnot
      · rw [heq] at hundisturbed ⊢
        have hlast : nextDispatch dispatcher session task ∈ next.dispatches := by
          rw [hdispatches]
          exact List.mem_append_right _ (List.mem_singleton_self _)
        refine ih ?_ hundisturbed
        rw [hstate]
        exact (hundisturbed _ ((runTasks_dispatches dispatcher executionId rest next).subset
          hlast)).2
      · rw [heq, hdispatches] at hundisturbed
        obtain ⟨rfl, hfailed, hevent⟩ := hends (hundisturbed _
          (List.mem_append_right _ (List.mem_singleton_self _)))
        exact ⟨next, heq, .inr ⟨hfailed, hevent⟩⟩

end PreSorted

/-! ## Executions -/

/-- The session that the loop of an execution starts from. -/
def Session.started (executionId : String) (tasks : List EngineeringTask) : Session where
  lifecycle := .running
  metrics := ⟨tasks.length, 0, 0⟩
  events := [.executionStarted executionId]
  steps := []
  dispatches := []

/-- What `execute` does to a new session. -/
theorem Session.execute_new (dispatcher : Dispatcher) (executionId : String)
    (tasks : List EngineeringTask) :
    (Session.new.execute dispatcher executionId tasks).2 =
      match (started executionId tasks).runTasks dispatcher executionId tasks with
      | (.left, session) => (session.conclude executionId).2
      | (_, session) => session := by
  have hready : transitionTo .created .ready = .ok .ready := rfl
  have hrunning : transitionTo .ready .running = .ok .running := rfl
  simp only [execute, new, hready, hrunning, schedule, List.nil_append]
  rw [started]
  split
  · next heq => rw [heq]
  · next heq => rw [heq]
  · next heq => rw [heq]

theorem Session.conclude_dispatches (executionId : String) (session : Session) :
    (session.conclude executionId).2.dispatches = session.dispatches := rfl

theorem Session.execute_dispatches (dispatcher : Dispatcher) (executionId : String)
    (tasks : List EngineeringTask) :
    (Session.new.execute dispatcher executionId tasks).2.dispatches
      = ((started executionId tasks).runTasks dispatcher executionId tasks).2.dispatches := by
  rw [execute_new]
  cases (started executionId tasks).runTasks dispatcher executionId tasks with
  | mk ending session => cases ending <;> rfl

/-- **Execution follows the order of a plan**: of tasks that are listed once each and after those
    that they depend on, none is dispatched before these have succeeded and none twice, whatever
    the dispatcher does; and when every dispatch returns into a running session, the session
    ends with the event of its state. -/
theorem execute_preSorted (tasks : List EngineeringTask) (hsorted : PreSorted tasks)
    (dispatcher : Dispatcher) (executionId : String) :
    FollowsDependencies tasks (Session.new.execute dispatcher executionId tasks).2.dispatches ∧
      ((∀ dispatch ∈ (Session.new.execute dispatcher executionId tasks).2.dispatches,
          dispatch.Undisturbed) →
        (Session.new.execute dispatcher executionId tasks).2.Concluded) := by
  constructor
  · rw [Session.execute_dispatches]
    exact Session.runTasks_follows hsorted dispatcher executionId rfl
      (fun dispatch hdispatch => nomatch hdispatch) (followsDependencies_nil tasks)
  · intro hundisturbed
    rw [Session.execute_dispatches] at hundisturbed
    obtain ⟨final, hfinal, hends⟩ := Session.runTasks_undisturbed dispatcher executionId tasks rfl
      hundisturbed
    rw [Session.execute_new, hfinal]
    unfold Session.conclude Session.Concluded
    rcases hends with hrunning | ⟨hfailed, error, hevent⟩
    · refine .inl ⟨if_pos hrunning, executionId, ?_⟩
      simp [hrunning]
    · refine .inr (.inl ⟨?_, executionId, error, ?_⟩)
      · simp [hfailed]
      · simp [hfailed, hevent]

/-! ## A plan in another order -/

/-- A dispatcher that succeeds at everything. -/
def succeeding : Dispatcher := fun _ _ => ⟨[], .ok ⟨true, ""⟩⟩

/-- A task that depends on the one listed after it. -/
def dependentFirst : List EngineeringTask :=
  [{ id := "second", dependencies := ["first"] }, { id := "first", dependencies := [] }]

theorem acyclic_dependentFirst : Acyclic (dependencyEdges dependentFirst) := by
  refine acyclic_of_rank (fun id => if id = "first" then 0 else 1) ?_
  decide

/-- Two tasks in the order of their dependencies. -/
def dependentLast : List EngineeringTask :=
  [{ id := "first", dependencies := [] }, { id := "second", dependencies := ["first"] }]

theorem preSorted_dependentLast : PreSorted dependentLast where
  distinct := by decide
  dependencies_first := by
    intro before task after h dependency hdependency _
    rcases before with _ | ⟨first, _ | ⟨second, before⟩⟩
    · obtain ⟨rfl, -⟩ := List.cons.inj h
      cases hdependency
    · obtain ⟨rfl, htail⟩ := List.cons.inj h
      obtain ⟨rfl, -⟩ := List.cons.inj htail
      exact hdependency
    · obtain ⟨-, htail⟩ := List.cons.inj h
      obtain ⟨-, hnil⟩ := List.cons.inj htail
      cases before <;> cases hnil

/-- A dispatcher that raises at everything. -/
def raising : Dispatcher := fun _ _ => ⟨[], .error "No executor supports operation: rename"⟩

/-- A plan with acyclic dependencies can list a task before the one that it depends on, which is
    the order in which they are dispatched; and what a dispatch raises leaves the session of a
    plan in the right order running. -/
theorem dependent_dispatched_first :
    (¬ ∀ (tasks : List EngineeringTask), Acyclic (dependencyEdges tasks) →
      ∀ (dispatcher : Dispatcher) (executionId : String),
        FollowsDependencies tasks
            (Session.new.execute dispatcher executionId tasks).2.dispatches ∧
          (Session.new.execute dispatcher executionId tasks).2.Concluded) ∧
    PreSorted dependentLast ∧
    (Session.new.execute raising "execution" dependentLast).2.lifecycle = .running ∧
    ¬ (Session.new.execute raising "execution" dependentLast).2.Concluded := by
  refine ⟨fun hclaim => ?_, preSorted_dependentLast, rfl, ?_⟩
  · obtain ⟨hfollows, -⟩ := hclaim dependentFirst acyclic_dependentFirst succeeding "execution"
    obtain ⟨before, hbefore, -⟩ := hfollows.dependencies_first []
      ⟨{ id := "second", dependencies := ["first"] }, .ok ⟨true, ""⟩, .running⟩
      [⟨{ id := "first", dependencies := [] }, .ok ⟨true, ""⟩, .running⟩] rfl
      { id := "first", dependencies := [] } (by decide) (by decide)
    cases hbefore
  · rintro (⟨hstate, -⟩ | ⟨hstate, -⟩ | ⟨hstate, -⟩) <;> cases hstate

theorem execute_preSorted_dependentLast :
    FollowsDependencies dependentLast
        (Session.new.execute succeeding "execution" dependentLast).2.dispatches ∧
      ((∀ dispatch ∈ (Session.new.execute succeeding "execution" dependentLast).2.dispatches,
          dispatch.Undisturbed) →
        (Session.new.execute succeeding "execution" dependentLast).2.Concluded) :=
  execute_preSorted dependentLast preSorted_dependentLast succeeding "execution"

end Eag.Execution
