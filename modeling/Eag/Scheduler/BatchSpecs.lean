/-
  Eag.Scheduler.BatchSpecs

  The scheduler of task graphs: the ready queue (`scheduler/queue.py`), the
  dispatcher (`scheduler/dispatcher.py`) and the loop of `execute_graph`
  (`scheduler/runtime.py`); and what the steps of a cycle do: which tasks join the
  queue, which leave it in a batch, and what a batch adds to the runtime.

  The queue and the two sets belong to the runtime and outlive a call. The
  metrics of a call are left out: nothing reads them.
-/

import Eag.Foundation.Loop
import Eag.TaskGraphs.Construction
import Eag.Workers.Manager

namespace Eag.Scheduler

open Eag.Foundation Eag.TaskGraphs Eag.Workers

/-- What can leave `execute_graph` in place of a result. -/
inductive SchedulerError where
  | queue (message : String)
  | worker (error : WorkerError)
  | stopIteration
  deriving DecidableEq, Repr

/-! ## Ready queue -/

/-- `contains`. -/
def contains (queue : List TaskNode) (taskId : String) : Bool :=
  queue.any (·.id = taskId)

/-- `push`. -/
def push (queue : List TaskNode) (task : TaskNode) : Except SchedulerError (List TaskNode) := do
  require (contains queue task.id = false)
    (.queue ("Task '" ++ task.id ++ "' is already in the queue"))
  .ok (sortNodes (queue ++ [task]))

/-! ## Dispatcher -/

/-- The worker a task goes to. -/
structure WorkerAssignment where
  workerId : String
  taskId : String
  deriving DecidableEq, Repr

/-- The constructor of an assignment: both identities are checked and stripped. -/
def WorkerAssignment.make (workerId taskId : String) :
    Except SchedulerError WorkerAssignment :=
  match validateNonEmptyStr workerId "worker_id", validateNonEmptyStr taskId "task_id" with
  | .ok workerId, .ok taskId => .ok ⟨workerId, taskId⟩
  | .error error, _ => .error (.worker error)
  | _, .error error => .error (.worker error)

/-- `dispatch`. -/
def dispatch (pool : WorkerPool) (task : TaskNode) :
    Except SchedulerError (Option (WorkerAssignment × WorkerPool)) :=
  match pool.findBestWorker task.requiredCapability with
  | none => .ok none
  | some worker =>
      match pool.assign worker.id task.id with
      | none => .ok none
      | some pool => do
          let assignment ← WorkerAssignment.make worker.id task.id
          .ok (some (assignment, pool))

/-! ## Runtime -/

/-- What a `SchedulerRuntime` keeps between calls, and the pool behind it. -/
structure SchedulerRuntime where
  queue : List TaskNode
  completed : Finset String
  failed : Finset String
  pool : WorkerPool

/-- A runtime that was just constructed. -/
def SchedulerRuntime.fresh (pool : WorkerPool) : SchedulerRuntime := ⟨[], ∅, ∅, pool⟩

/-- A call in progress: the runtime and what the call dispatched so far. -/
structure SchedulerRun extends SchedulerRuntime where
  dispatches : List Dispatch

/-- The first step of a cycle: the ready tasks join the queue. -/
def collect : List TaskNode → List TaskNode → Except SchedulerError (List TaskNode)
  | queue, [] => .ok queue
  | queue, task :: ready =>
      if contains queue task.id then collect queue ready
      else do
        let queue ← push queue task
        collect queue ready

/-- The third step: tasks leave the queue until one finds no worker. The assignments, what
    is left of the queue, and the pool. -/
def takeBatch : WorkerPool → List TaskNode →
    Except SchedulerError (List WorkerAssignment × List TaskNode × WorkerPool)
  | pool, [] => .ok ([], [], pool)
  | pool, task :: queue => do
      match ← dispatch pool task with
      | some (assignment, pool) =>
          let (batch, queue, pool) ← takeBatch pool queue
          .ok (assignment :: batch, queue, pool)
      | none =>
          -- put back for the next cycle
          let queue ← push queue task
          .ok ([], queue, pool)

section

variable (graph : TaskGraph) (outcomes : Nat → WorkerOutcome)

/-- One assignment of `_execute_batch`. The n-th task that is handed to a worker has the
    n-th outcome. -/
def executeAssignment (run : SchedulerRun) (assignment : WorkerAssignment) :
    Except SchedulerError SchedulerRun :=
  match run.pool.registry.find assignment.workerId,
      graph.nodes.find? (fun node => node.id = assignment.taskId) with
  | .error error, _ => .error (.worker error)
  | .ok _, none => .error .stopIteration
  | .ok worker, some task =>
      match run.pool.execute worker task.id (outcomes run.dispatches.length) with
      | .error error => .error (.worker error)
      | .ok (success, pool) => .ok { run with
          pool := pool
          completed := if success then insert task.id run.completed else run.completed
          failed := if success then run.failed else insert task.id run.failed
          dispatches := run.dispatches ++ [⟨task.id, worker.id, success⟩] }

/-- `_execute_batch`. -/
def executeBatch : SchedulerRun → List WorkerAssignment → Except SchedulerError SchedulerRun
  | run, [] => .ok run
  | run, assignment :: batch => do
      let run ← executeAssignment graph outcomes run assignment
      executeBatch run batch

/-- One cycle of the loop of `execute_graph`. -/
def cycle (run : SchedulerRun) : Except SchedulerError (Turn SchedulerRun) := do
  let queue ← collect run.queue (graph.ready run.completed)
  if queue = [] then
    .ok (.leave { run with queue := queue })
  else
    let (batch, queue, pool) ← takeBatch run.pool queue
    let run := { run with queue := queue, pool := pool }
    if batch = [] then
      .ok (.leave run)
    else
      let run ← executeBatch graph outcomes run batch
      .ok (.again run)

/-- `execute_graph` on a runtime returns, and leaves `run`. -/
def ExecuteGraph (runtime : SchedulerRuntime) (run : SchedulerRun) : Prop :=
  Returns (cycle graph outcomes) ⟨runtime, []⟩ run

end

/-! ## Collecting -/

theorem contains_eq_false {queue : List TaskNode} {taskId : String} :
    contains queue taskId = false ↔ taskId ∉ queue.map TaskNode.id := by
  simp [contains]

theorem push_of_not_mem {queue : List TaskNode} {task : TaskNode}
    (h : task.id ∉ queue.map TaskNode.id) :
    push queue task = .ok (sortNodes (queue ++ [task])) := by
  simp only [push, require_of _ _ (contains_eq_false.mpr h), except_ok_bind]

theorem nodup_sortNodes_append {queue : List TaskNode} {task : TaskNode}
    (hnodup : (queue.map TaskNode.id).Nodup) (h : task.id ∉ queue.map TaskNode.id) :
    ((sortNodes (queue ++ [task])).map TaskNode.id).Nodup := by
  rw [((perm_sortNodes _).map _).nodup_iff, List.map_append]
  exact hnodup.append (List.nodup_singleton _) (by simpa using h)

/-- What is collected was queued before or is ready now. -/
theorem collect_spec (ready : List TaskNode) :
    ∀ {queue : List TaskNode}, (queue.map TaskNode.id).Nodup →
      ∃ queue', collect queue ready = .ok queue' ∧ (queue'.map TaskNode.id).Nodup ∧
        ∀ task ∈ queue', task ∈ queue ∨ task ∈ ready := by
  -- the queue is generalized: it grows as the ready tasks are looked at
  induction ready with
  | nil => intro queue hnodup; exact ⟨queue, rfl, hnodup, fun _ h => Or.inl h⟩
  | cons task ready ih =>
      intro queue hnodup
      cases hcontains : contains queue task.id with
      | true =>
          obtain ⟨queue', hcollect, hnodup', hmem⟩ := ih hnodup
          refine ⟨queue', by rw [collect, if_pos hcontains, hcollect], hnodup', ?_⟩
          intro other hother
          exact (hmem other hother).imp_right (List.mem_cons_of_mem _)
      | false =>
          have hfresh := contains_eq_false.mp hcontains
          obtain ⟨queue', hcollect, hnodup', hmem⟩ := ih (nodup_sortNodes_append hnodup hfresh)
          refine ⟨queue', ?_, hnodup', fun other hother => ?_⟩
          · rw [collect, if_neg (by simp [hcontains]), push_of_not_mem hfresh]
            exact hcollect
          · rcases hmem other hother with hqueued | hready
            · rw [mem_sortNodes, List.mem_append, List.mem_singleton] at hqueued
              rcases hqueued with hqueued | rfl
              · exact Or.inl hqueued
              · exact Or.inr (List.mem_cons_self)
            · exact Or.inr (List.mem_cons_of_mem _ hready)

/-! ## Taking a batch -/

/-- Every task that finds a worker, as the queue is worked off, satisfies `Q` with it. -/
def Dispatches (Q : TaskNode → WorkerProfile → Prop) : WorkerPool → List TaskNode → Prop
  | _, [] => True
  | pool, task :: queue =>
      ∀ worker, pool.findBestWorker task.requiredCapability = some worker →
        Q task worker ∧
        Dispatches Q (pool.setInstance worker.id ⟨.assigned, some task.id⟩) queue

theorem Dispatches.imp {Q R : TaskNode → WorkerProfile → Prop} {queue : List TaskNode}
    (h : ∀ task ∈ queue, ∀ worker, Q task worker → R task worker) :
    ∀ {pool : WorkerPool}, Dispatches Q pool queue → Dispatches R pool queue := by
  induction queue with
  | nil => intros; trivial
  | cons task queue ih =>
      intro pool hQ worker hfound
      obtain ⟨htask, hrest⟩ := hQ worker hfound
      exact ⟨h task List.mem_cons_self worker htask,
        ih (fun other hother => h other (List.mem_cons_of_mem _ hother)) hrest⟩

theorem Dispatches.and {Q R : TaskNode → WorkerProfile → Prop} {queue : List TaskNode} :
    ∀ {pool : WorkerPool}, Dispatches Q pool queue → Dispatches R pool queue →
      Dispatches (fun task worker => Q task worker ∧ R task worker) pool queue := by
  induction queue with
  | nil => intros; trivial
  | cons task queue ih =>
      intro pool hQ hR worker hfound
      exact ⟨⟨(hQ worker hfound).1, (hR worker hfound).1⟩,
        ih (hQ worker hfound).2 (hR worker hfound).2⟩

/-- Stripping leaves both identities alone. -/
def TrimmedIds (task : TaskNode) (worker : WorkerProfile) : Prop :=
  Trimmed task.id ∧ Trimmed worker.id

theorem make_of_trimmed {workerId taskId : String} (hworker : Trimmed workerId)
    (htask : Trimmed taskId) : WorkerAssignment.make workerId taskId = .ok ⟨workerId, taskId⟩ := by
  simp only [WorkerAssignment.make, validateNonEmptyStr_of_trimmed hworker,
    validateNonEmptyStr_of_trimmed htask]

/-- A worker of the registry that an assignment names. -/
def Assigned (registry : WorkerRegistry) (assignment : WorkerAssignment) : Prop :=
  ∃ worker ∈ registry.workers, worker.id = assignment.workerId ∧
    NonBlank assignment.workerId ∧ NonBlank assignment.taskId

/-- A batch: the tasks `front` left the queue, each with a worker, and the others stay. -/
structure Batch (pool : WorkerPool) (queue front : List TaskNode)
    (batch : List WorkerAssignment) (left : List TaskNode) (pool' : WorkerPool) : Prop where
  taken : takeBatch pool queue = .ok (batch, left, pool')
  split : ∃ back, queue = front ++ back ∧ left.Perm back
  taskIds : batch.map WorkerAssignment.taskId = front.map TaskNode.id
  assigned : ∀ assignment ∈ batch, Assigned pool.registry assignment
  registry : pool'.registry = pool.registry
  dispatches : ∀ R : TaskNode → Prop,
    Dispatches (fun task _ => R task) pool queue ↔ ∀ task ∈ front, R task

theorem takeBatch_spec {queue : List TaskNode} (hnodup : (queue.map TaskNode.id).Nodup) :
    ∀ {pool : WorkerPool}, Dispatches TrimmedIds pool queue →
      ∃ front batch left pool', Batch pool queue front batch left pool' := by
  induction queue with
  | nil =>
      intro pool _
      exact ⟨[], [], [], pool, {
        taken := rfl
        split := ⟨[], rfl, List.Perm.refl _⟩
        taskIds := rfl
        assigned := by simp
        registry := rfl
        dispatches := by simp [Dispatches] }⟩
  | cons task queue ih =>
      intro pool htrimmed
      rw [List.map_cons, List.nodup_cons] at hnodup
      cases hfound : pool.findBestWorker task.requiredCapability with
      | none =>
          -- nobody can take the task: it goes back, and the batch is complete
          refine ⟨[], [], sortNodes (queue ++ [task]), pool, {
            taken := ?_
            split := ⟨task :: queue, rfl, ?_⟩
            taskIds := rfl
            assigned := by simp
            registry := rfl
            dispatches := by simp [Dispatches, hfound] }⟩
          · simp only [takeBatch, dispatch, hfound, except_ok_bind, push_of_not_mem hnodup.1]
          · exact (perm_sortNodes _).trans (List.perm_append_singleton _ _)
      | some worker =>
          obtain ⟨⟨htask, hworker⟩, hrest⟩ := htrimmed worker hfound
          obtain ⟨front, batch, left, pool', hbatch⟩ := ih hnodup.2 hrest
          obtain ⟨back, hsplit, hperm⟩ := hbatch.split
          refine ⟨task :: front, ⟨worker.id, task.id⟩ :: batch, left, pool', {
            taken := ?_
            split := ⟨back, by rw [hsplit]; rfl, hperm⟩
            taskIds := by rw [List.map_cons, List.map_cons, hbatch.taskIds]
            assigned := ?_
            registry := hbatch.registry
            dispatches := fun R => ?_ }⟩
          · simp only [takeBatch, dispatch, hfound, pool.assign_of_found hfound,
              make_of_trimmed hworker htask, except_ok_bind, hbatch.taken]
          · intro assignment hmem
            rcases List.mem_cons.mp hmem with rfl | hmem
            · exact ⟨worker, (pool.findBestWorker_eq_some hfound).1, rfl, hworker.1, htask.1⟩
            · exact hbatch.assigned assignment hmem
          · simp only [Dispatches, hfound, Option.some.injEq, forall_eq', List.mem_cons,
              forall_eq_or_imp, hbatch.dispatches R]

/-! ## Executing a batch -/

/-- The run after more dispatches. -/
structure Executed (run : SchedulerRun) (taskIds : List String) (entries : List Dispatch)
    (run' : SchedulerRun) : Prop where
  taskIds : entries.map Dispatch.taskId = taskIds
  dispatches : run'.dispatches = run.dispatches ++ entries
  completed : run'.completed = run.completed ∪ tasksWith true entries
  failed : run'.failed = run.failed ∪ tasksWith false entries
  queue : run'.queue = run.queue
  registry : run'.pool.registry = run.pool.registry

section

variable {graph : TaskGraph} {outcomes : Nat → WorkerOutcome}

theorem executeAssignment_spec {run run' : SchedulerRun} {assignment : WorkerAssignment}
    (h : executeAssignment graph outcomes run assignment = .ok run') :
    ∃ entry, Executed run [assignment.taskId] [entry] run' := by
  unfold executeAssignment at h
  split at h
  · cases h
  · cases h
  · next worker task hworker htask =>
      have hid : task.id = assignment.taskId := by simpa using List.find?_some htask
      split at h
      · cases h
      · next success pool hexecute =>
          obtain rfl := Except.ok.inj h
          obtain ⟨-, rfl⟩ := run.pool.execute_eq_ok hexecute
          refine ⟨⟨task.id, worker.id, success⟩, ⟨by simp [hid], rfl, ?_, ?_, rfl, rfl⟩⟩
          · cases success <;> simp [tasksWith]
          · cases success <;> simp [tasksWith]

/-- What an executed batch adds. -/
theorem executeBatch_spec {batch : List WorkerAssignment} :
    ∀ {run run' : SchedulerRun}, executeBatch graph outcomes run batch = .ok run' →
      ∃ entries, Executed run (batch.map WorkerAssignment.taskId) entries run' := by
  induction batch with
  | nil =>
      intro run run' h
      obtain rfl := Except.ok.inj h
      exact ⟨[], ⟨rfl, by simp, by simp [tasksWith], by simp [tasksWith], rfl, rfl⟩⟩
  | cons assignment batch ih =>
      intro run run' h
      simp only [executeBatch, except_bind_eq_ok] at h
      obtain ⟨next, hnext, h⟩ := h
      obtain ⟨entry, hentry⟩ := executeAssignment_spec hnext
      obtain ⟨entries, hentries⟩ := ih h
      refine ⟨entry :: entries, {
        taskIds := ?_, dispatches := ?_, completed := ?_, failed := ?_
        queue := hentries.queue.trans hentry.queue
        registry := hentries.registry.trans hentry.registry }⟩
      · rw [List.map_cons, List.map_cons, hentries.taskIds]
        exact congrArg (· :: _) (List.cons.inj hentry.taskIds).1
      · rw [hentries.dispatches, hentry.dispatches, List.append_assoc]
        rfl
      · rw [hentries.completed, hentry.completed, Finset.union_assoc, ← tasksWith_append]
        rfl
      · rw [hentries.failed, hentry.failed, Finset.union_assoc, ← tasksWith_append]
        rfl

variable (outcomes) in
/-- A batch whose assignments name registered workers and tasks of the graph is executed. -/
theorem executeBatch_isOk {batch : List WorkerAssignment} :
    ∀ run : SchedulerRun,
      (∀ assignment ∈ batch, Assigned run.pool.registry assignment ∧
        ∃ task ∈ graph.nodes, task.id = assignment.taskId) →
      ∃ run', executeBatch graph outcomes run batch = .ok run' := by
  induction batch with
  | nil => intro run _; exact ⟨run, rfl⟩
  | cons assignment batch ih =>
      intro run h
      obtain ⟨⟨worker, hworker, hworkerId, hworkerNonBlank, htaskNonBlank⟩, task, htask, hid⟩ :=
        h assignment List.mem_cons_self
      have hfind := run.pool.registry.find_of_mem hworker
      have hnode := graph.find?_id htask
      rw [hworkerId] at hfind
      rw [hid] at hnode
      have hexecute := run.pool.execute_of_nonBlank
        (outcomes run.dispatches.length) (hworkerId ▸ hworkerNonBlank)
        (show NonBlank task.id from hid ▸ htaskNonBlank)
      have hnext : ∃ next, executeAssignment graph outcomes run assignment = .ok next := by
        simp only [executeAssignment, hfind, hnode, hexecute]
        exact ⟨_, rfl⟩
      obtain ⟨next, hnext⟩ := hnext
      obtain ⟨entry, hentry⟩ := executeAssignment_spec hnext
      obtain ⟨run', hrun'⟩ := ih next fun other hother => by
        rw [hentry.registry]
        exact h other (List.mem_cons_of_mem _ hother)
      exact ⟨run', by simp only [executeBatch, hnext, except_ok_bind, hrun']⟩

end

end Eag.Scheduler
