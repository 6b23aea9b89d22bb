/-
  Eag.Scheduler.Completion

  When `execute_graph` runs a graph to completion: it returns, having dispatched
  every task at most once and after its parents, with disjoint sets of completed
  and failed tasks of the graph.

  `ready` leaves out the completed tasks only. A task that failed stays ready, so
  the guarantee rests on the workers running out before it is taken again.
-/

import Eag.Scheduler.BatchSpecs

namespace Eag.Scheduler

open Eag.Foundation Eag.TaskGraphs Eag.Workers

/-! ## The guarantee -/

/-- `execute_graph` on a runtime returns; no task is dispatched twice, nor before its
    parents completed successfully; the two sets are disjoint and hold tasks of the graph. -/
def RunsToCompletion (graph : TaskGraph) (outcomes : Nat → WorkerOutcome)
    (runtime : SchedulerRuntime) : Prop :=
  ∃ run, ExecuteGraph graph outcomes runtime run ∧
    (run.dispatches.map Dispatch.taskId).Nodup ∧
    AfterParents graph.parents runtime.completed run.dispatches ∧
    Disjoint run.completed run.failed ∧ run.completed ⊆ graph.ids ∧ run.failed ⊆ graph.ids

/-- Wherever the loop comes: a task that is taken off the queue and finds a worker is not
    in the failed set, and stripping leaves its identity and the worker's alone. -/
def DispatchesNew (graph : TaskGraph) (outcomes : Nat → WorkerOutcome)
    (runtime : SchedulerRuntime) : Prop :=
  ∀ run, Reaches (cycle graph outcomes) ⟨runtime, []⟩ run →
    ∀ queue, collect run.queue (graph.ready run.completed) = .ok queue →
      Dispatches (fun task worker => task.id ∉ run.failed ∧ TrimmedIds task worker)
        run.pool queue

/-- The queue holds tasks of the graph that are ready, each once. -/
structure QueueReady (graph : TaskGraph) (completed : Finset String) (queue : List TaskNode) :
    Prop where
  nodup : (queue.map TaskNode.id).Nodup
  ready : ∀ task ∈ queue, task ∈ graph.ready completed

/-- A runtime whose sets are disjoint and about the graph, and whose queue is. A new
    runtime is one. -/
structure Clean (graph : TaskGraph) (runtime : SchedulerRuntime) : Prop where
  completed_sub : runtime.completed ⊆ graph.ids
  failed_sub : runtime.failed ⊆ graph.ids
  disjoint : Disjoint runtime.completed runtime.failed
  queue : QueueReady graph runtime.completed runtime.queue

theorem clean_fresh (graph : TaskGraph) (pool : WorkerPool) :
    Clean graph (SchedulerRuntime.fresh pool) where
  completed_sub := Finset.empty_subset _
  failed_sub := Finset.empty_subset _
  disjoint := Finset.disjoint_empty_left _
  queue := ⟨List.nodup_nil, by simp [SchedulerRuntime.fresh]⟩

/-! ## Cycles -/

section

variable {graph : TaskGraph} {outcomes : Nat → WorkerOutcome}

theorem QueueReady.collect {completed : Finset String} {queue : List TaskNode}
    (h : QueueReady graph completed queue) :
    ∃ queue', Scheduler.collect queue (graph.ready completed) = .ok queue' ∧
      QueueReady graph completed queue' := by
  obtain ⟨queue', hcollect, hnodup, hmem⟩ := collect_spec (graph.ready completed) h.nodup
  refine ⟨queue', hcollect, hnodup, fun task htask => ?_⟩
  exact (hmem task htask).elim (h.ready task) id

/-- What a call has come to: an invariant of its cycles. -/
structure Sound (graph : TaskGraph) (start : SchedulerRuntime) (run : SchedulerRun) : Prop where
  clean : Clean graph run.toSchedulerRuntime
  done : ∀ entry ∈ run.dispatches, entry.taskId ∈ run.completed ∪ run.failed
  once : (run.dispatches.map Dispatch.taskId).Nodup
  succeeded : ∀ id ∈ run.completed, id ∈ start.completed ∨ id ∈ tasksWith true run.dispatches
  ordered : AfterParents graph.parents start.completed run.dispatches

theorem sound_start {start : SchedulerRuntime} (h : Clean graph start) :
    Sound graph start ⟨start, []⟩ where
  clean := h
  done := by simp
  once := List.nodup_nil
  succeeded := fun _ hid => Or.inl hid
  ordered := fun before entry after heq => by simp at heq

/-- The tasks of a batch are ready tasks of the graph, and those that stay in the queue
    were not taken. -/
theorem Batch.tasks {pool pool' : WorkerPool} {queue front left : List TaskNode}
    {batch : List WorkerAssignment} {completed : Finset String}
    (hbatch : Batch pool queue front batch left pool') (hqueue : QueueReady graph completed queue) :
    (∀ task ∈ front, task ∈ graph.ready completed) ∧ (front.map TaskNode.id).Nodup ∧
      QueueReady graph completed left ∧ ∀ task ∈ left, task.id ∉ front.map TaskNode.id := by
  obtain ⟨back, rfl, hperm⟩ := hbatch.split
  have hnodup := hqueue.nodup
  rw [List.map_append, List.nodup_append'] at hnodup
  refine ⟨fun task htask => hqueue.ready task (List.mem_append_left _ htask), hnodup.1,
    ⟨(hperm.map _).nodup_iff.mpr hnodup.2.1, fun task htask => ?_⟩, fun task htask hmem => ?_⟩
  · exact hqueue.ready task (List.mem_append_right _ (hperm.mem_iff.mp htask))
  · exact hnodup.2.2 hmem (List.mem_map_of_mem (hperm.mem_iff.mp htask))

/-- What stays in the queue stays ready while a batch is executed. -/
theorem QueueReady.executed {run run' : SchedulerRun} {pool' : WorkerPool}
    {left : List TaskNode} {taskIds : List String} {entries : List Dispatch}
    (hleft : QueueReady graph run.completed left)
    (hexecuted : Executed { run with queue := left, pool := pool' } taskIds entries run')
    (hout : ∀ task ∈ left, task.id ∉ taskIds) :
    QueueReady graph run'.completed run'.queue := by
  have hcompleted := hexecuted.completed
  simp only at hcompleted
  rw [hexecuted.queue]
  refine ⟨hleft.nodup, fun task htask => ?_⟩
  obtain ⟨hnode, hopen, hparents⟩ := graph.mem_ready.mp (hleft.ready task htask)
  rw [graph.mem_ready, hcompleted]
  refine ⟨hnode, ?_, fun p hp => Finset.mem_union_left _ (hparents p hp)⟩
  rw [Finset.mem_union, not_or]
  refine ⟨hopen, fun hmem => hout task htask ?_⟩
  rw [← hexecuted.taskIds, taskId_mem_tasksWith]
  exact Or.inl hmem

/-- **Step lemma.** Executing a batch of ready tasks that were neither completed nor
    failed keeps the invariant. -/
theorem Sound.execute {start : SchedulerRuntime} {run run' : SchedulerRun}
    {pool' : WorkerPool} {left : List TaskNode} {taskIds : List String}
    {entries : List Dispatch} (hsound : Sound graph start run)
    (hexecuted : Executed { run with queue := left, pool := pool' } taskIds entries run')
    (hnodup : taskIds.Nodup)
    (htasks : ∀ id ∈ taskIds, id ∈ graph.ids ∧ id ∉ run.completed ∧ id ∉ run.failed ∧
      ∀ p ∈ graph.parents id, p ∈ run.completed)
    (hleft : QueueReady graph run.completed left) (hout : ∀ task ∈ left, task.id ∉ taskIds) :
    Sound graph start run' := by
  have hids := hexecuted.taskIds
  have htaken : ∀ success, ∀ id ∈ tasksWith success entries, id ∈ taskIds := by
    intro success id hid
    rw [← hids, taskId_mem_tasksWith]
    cases success with
    | true => exact Or.inl hid
    | false => exact Or.inr hid
  have hdispatches := hexecuted.dispatches
  have hcompleted := hexecuted.completed
  have hfailed := hexecuted.failed
  simp only at hdispatches hcompleted hfailed
  refine { clean := ?_, done := ?_, once := ?_, succeeded := ?_, ordered := ?_ }
  · refine { completed_sub := ?_, failed_sub := ?_, disjoint := ?_, queue := ?_ }
    · rw [hcompleted]
      exact Finset.union_subset hsound.clean.completed_sub
        fun id hid => (htasks id (htaken true id hid)).1
    · rw [hfailed]
      exact Finset.union_subset hsound.clean.failed_sub
        fun id hid => (htasks id (htaken false id hid)).1
    · rw [hcompleted, hfailed, Finset.disjoint_union_left, Finset.disjoint_union_right,
        Finset.disjoint_union_right]
      refine ⟨⟨hsound.clean.disjoint, ?_⟩, ?_, disjoint_tasksWith (hids ▸ hnodup)⟩
      · rw [Finset.disjoint_right]
        exact fun id hid => (htasks id (htaken false id hid)).2.1
      · rw [Finset.disjoint_left]
        exact fun id hid => (htasks id (htaken true id hid)).2.2.1
    · exact hleft.executed hexecuted hout
  · intro entry hentry
    rw [hdispatches, List.mem_append] at hentry
    rw [hcompleted, hfailed]
    rcases hentry with hold | hnew
    · have := hsound.done entry hold
      simp only [Finset.mem_union] at this ⊢
      tauto
    · have := taskId_mem_tasksWith.mp (List.mem_map_of_mem (f := Dispatch.taskId) hnew)
      simp only [Finset.mem_union]
      tauto
  · rw [hdispatches, List.map_append, hids]
    refine hsound.once.append hnodup fun id hold hnew => ?_
    obtain ⟨entry, hentry, rfl⟩ := List.mem_map.mp hold
    have hdone := hsound.done entry hentry
    obtain ⟨-, hopen, hunfailed, -⟩ := htasks _ hnew
    exact (Finset.mem_union.mp hdone).elim hopen hunfailed
  · intro id hid
    rw [hcompleted, Finset.mem_union] at hid
    rw [hdispatches, tasksWith_append, Finset.mem_union]
    rcases hid with hold | hnew
    · exact (hsound.succeeded id hold).imp_right Or.inl
    · exact Or.inr (Or.inr hnew)
  · rw [hdispatches]
    refine hsound.ordered.append hsound.succeeded fun entry hentry p hp => ?_
    have hmem : entry.taskId ∈ taskIds := hids ▸ List.mem_map_of_mem hentry
    exact (htasks _ hmem).2.2.2 p hp

/-- What one cycle does when stripping leaves the identities alone: the tasks `front` are
    taken off the collected queue and executed; without any, the loop is left. -/
structure CycleTakes (graph : TaskGraph) (outcomes : Nat → WorkerOutcome) (run : SchedulerRun)
    (queue front left : List TaskNode) (pool' : WorkerPool) : Prop where
  collected : collect run.queue (graph.ready run.completed) = .ok queue
  ready : ∀ task ∈ front, task ∈ graph.ready run.completed
  nodup : (front.map TaskNode.id).Nodup
  left_ready : QueueReady graph run.completed left
  out : ∀ task ∈ left, task.id ∉ front.map TaskNode.id
  registry : pool'.registry = run.pool.registry
  dispatches : ∀ R : TaskNode → Prop,
    Dispatches (fun task _ => R task) run.pool queue ↔ ∀ task ∈ front, R task
  leaves : front = [] →
    cycle graph outcomes run = .ok (.leave { run with queue := left, pool := pool' })
  again : front ≠ [] → ∃ entries run', cycle graph outcomes run = .ok (.again run') ∧
    Executed { run with queue := left, pool := pool' } (front.map TaskNode.id) entries run'

variable (outcomes) in
theorem cycleTakes {run : SchedulerRun} (hqueue : QueueReady graph run.completed run.queue)
    (htrimmed : ∀ queue, collect run.queue (graph.ready run.completed) = .ok queue →
      Dispatches TrimmedIds run.pool queue) :
    ∃ queue front left pool', CycleTakes graph outcomes run queue front left pool' := by
  obtain ⟨queue, hcollect, hready⟩ := hqueue.collect
  obtain ⟨front, batch, left, pool', hbatch⟩ := takeBatch_spec hready.nodup (htrimmed queue hcollect)
  obtain ⟨hfront, hnodup, hleft, hout⟩ := hbatch.tasks hready
  have hids := hbatch.taskIds
  refine ⟨queue, front, left, pool', {
    collected := hcollect, ready := hfront, nodup := hnodup, left_ready := hleft, out := hout
    registry := hbatch.registry, dispatches := hbatch.dispatches, leaves := ?_, again := ?_ }⟩
  · rintro rfl
    obtain rfl : batch = [] := by simpa using hids
    by_cases hempty : queue = []
    · -- nothing was ready: the queue stays empty and no worker was touched
      subst hempty
      have htaken := hbatch.taken
      simp only [takeBatch, Except.ok.injEq, Prod.mk.injEq, true_and] at htaken
      obtain ⟨rfl, rfl⟩ := htaken
      simp only [cycle, hcollect, except_ok_bind, if_true]
    · simp only [cycle, hcollect, except_ok_bind, if_neg hempty, hbatch.taken, if_true]
  · intro hne
    have hqueueNe : queue ≠ [] := by
      obtain ⟨back, rfl, -⟩ := hbatch.split
      exact fun h => hne (List.append_eq_nil_iff.mp h).1
    have hbatchNe : batch ≠ [] := by
      rintro rfl
      exact hne (by simpa using hids.symm)
    have hresolved : ∀ assignment ∈ batch, Assigned pool'.registry assignment ∧
        ∃ task ∈ graph.nodes, task.id = assignment.taskId := by
      intro assignment hmem
      refine ⟨hbatch.registry ▸ hbatch.assigned assignment hmem, ?_⟩
      have hid := List.mem_map_of_mem (f := WorkerAssignment.taskId) hmem
      rw [hids] at hid
      obtain ⟨task, htask, hid⟩ := List.mem_map.mp hid
      exact ⟨task, (graph.mem_ready.mp (hfront task htask)).1, hid⟩
    obtain ⟨run', hrun'⟩ := executeBatch_isOk outcomes
      { run with queue := left, pool := pool' } hresolved
    obtain ⟨entries, hexecuted⟩ := executeBatch_spec hrun'
    refine ⟨entries, run', ?_, hids ▸ hexecuted⟩
    simp only [cycle, hcollect, except_ok_bind, if_neg hqueueNe, hbatch.taken, if_neg hbatchNe,
      hrun']

/-- The tasks of the graph that were not dispatched yet. -/
def openTasks (graph : TaskGraph) (run : SchedulerRun) : Nat :=
  (graph.ids \ (run.completed ∪ run.failed)).card

variable (outcomes) in
/-- **Cycle lemma.** A cycle that takes no failed task keeps the invariant, and leaves
    fewer open tasks when it goes round again. -/
theorem Sound.cycle {start : SchedulerRuntime} {run : SchedulerRun}
    (hsound : Sound graph start run)
    (hnew : ∀ queue, collect run.queue (graph.ready run.completed) = .ok queue →
      Dispatches (fun task worker => task.id ∉ run.failed ∧ TrimmedIds task worker)
        run.pool queue) :
    (∃ r, Scheduler.cycle graph outcomes run = .ok (.leave r) ∧ Sound graph start r) ∨
      ∃ run', Scheduler.cycle graph outcomes run = .ok (.again run') ∧ Sound graph start run' ∧
        openTasks graph run' < openTasks graph run := by
  obtain ⟨queue, front, left, pool', htakes⟩ := cycleTakes outcomes
    hsound.clean.queue fun queue hcollect =>
      (hnew queue hcollect).imp fun _ _ _ h => h.2
  have hunfailed : ∀ task ∈ front, task.id ∉ run.failed := by
    rw [← htakes.dispatches fun task : TaskNode => task.id ∉ run.failed]
    exact (hnew queue htakes.collected).imp fun _ _ _ h => h.1
  by_cases hempty : front = []
  · refine Or.inl ⟨_, htakes.leaves hempty, { hsound with clean := { hsound.clean with
      queue := htakes.left_ready } }⟩
  · obtain ⟨entries, run', hcycle, hexecuted⟩ := htakes.again hempty
    have htasks : ∀ id ∈ front.map TaskNode.id, id ∈ graph.ids ∧ id ∉ run.completed ∧
        id ∉ run.failed ∧ ∀ p ∈ graph.parents id, p ∈ run.completed := by
      intro id hid
      obtain ⟨task, htask, rfl⟩ := List.mem_map.mp hid
      obtain ⟨hnode, hopen, hparents⟩ := graph.mem_ready.mp (htakes.ready task htask)
      exact ⟨graph.mem_ids.mpr ⟨task, hnode, rfl⟩, hopen, hunfailed task htask, hparents⟩
    refine Or.inr ⟨run', hcycle, hsound.execute hexecuted htakes.nodup htasks htakes.left_ready
      htakes.out, ?_⟩
    -- the first task of the batch is open before the cycle and done after it
    obtain ⟨task, htask⟩ := List.exists_mem_of_ne_nil front hempty
    obtain ⟨hid, hopen, hfailed, -⟩ := htasks task.id (List.mem_map_of_mem htask)
    have hdone : task.id ∈ run'.completed ∪ run'.failed := by
      have hentry : task.id ∈ entries.map Dispatch.taskId :=
        hexecuted.taskIds ▸ List.mem_map_of_mem htask
      rw [hexecuted.completed, hexecuted.failed]
      have := taskId_mem_tasksWith.mp hentry
      simp only [Finset.mem_union]
      tauto
    refine Finset.card_lt_card ((Finset.ssubset_iff_of_subset ?_).mpr ⟨task.id, ?_, ?_⟩)
    · refine Finset.sdiff_subset_sdiff (Finset.Subset.refl _) ?_
      rw [hexecuted.completed, hexecuted.failed]
      exact Finset.union_subset_union Finset.subset_union_left Finset.subset_union_left
    · rw [Finset.mem_sdiff, Finset.mem_union, not_or]
      exact ⟨hid, hopen, hfailed⟩
    · rw [Finset.mem_sdiff]
      exact fun h => h.2 hdone

/-! ## The condition is enough -/

/-- **Run lemma.** The invariant holds wherever the loop comes, and the loop returns. -/
theorem runsToCompletion_of_new {runtime : SchedulerRuntime} (hclean : Clean graph runtime)
    (hnew : DispatchesNew graph outcomes runtime) : RunsToCompletion graph outcomes runtime := by
  have hturn : ∀ run, Reaches (Scheduler.cycle graph outcomes) ⟨runtime, []⟩ run ∧
      Sound graph runtime run →
      (∃ r, Scheduler.cycle graph outcomes run = .ok (.leave r) ∧ Sound graph runtime r) ∨
      ∃ run', Scheduler.cycle graph outcomes run = .ok (.again run') ∧
        (Reaches (Scheduler.cycle graph outcomes) ⟨runtime, []⟩ run' ∧ Sound graph runtime run') ∧
        openTasks graph run' < openTasks graph run := by
    rintro run ⟨hreach, hsound⟩
    rcases hsound.cycle outcomes (hnew run hreach) with
      hleave | ⟨run', hagain, hsound', hlt⟩
    · exact Or.inl hleave
    · exact Or.inr ⟨run', hagain, ⟨hreach.again hagain, hsound'⟩, hlt⟩
  obtain ⟨r, hreturns, hsoundR⟩ := returns_of_measure Nat.lt_wfRel.wf (openTasks graph) hturn
    ⟨Relation.ReflTransGen.refl, sound_start hclean⟩
  exact ⟨r, hreturns, hsoundR.once, hsoundR.ordered, hsoundR.clean.disjoint,
    hsoundR.clean.completed_sub, hsoundR.clean.failed_sub⟩


/-! ## The condition is needed -/

theorem dispatches_of_forall {Q : TaskNode → WorkerProfile → Prop} {queue : List TaskNode} :
    ∀ {pool : WorkerPool},
      (∀ task ∈ queue, ∀ worker ∈ pool.registry.workers, Q task worker) →
      Dispatches Q pool queue := by
  induction queue with
  | nil => intros; trivial
  | cons task queue ih =>
      intro pool h worker hfound
      refine ⟨h task List.mem_cons_self worker (pool.findBestWorker_eq_some hfound).1, ih ?_⟩
      exact fun other hother => h other (List.mem_cons_of_mem _ hother)

/-- A cycle only adds dispatches. -/
theorem cycle_dispatches {run : SchedulerRun} {turn : Turn SchedulerRun}
    (h : Scheduler.cycle graph outcomes run = .ok turn) :
    ∃ run', (turn = .leave run' ∨ turn = .again run') ∧
      run.dispatches <+: run'.dispatches := by
  unfold Scheduler.cycle at h
  simp only [except_bind_eq_ok] at h
  obtain ⟨queue, -, h⟩ := h
  split at h
  · exact ⟨_, Or.inl (Except.ok.inj h).symm, List.prefix_refl _⟩
  · simp only [except_bind_eq_ok] at h
    obtain ⟨⟨batch, left, pool'⟩, -, h⟩ := h
    split at h
    · exact ⟨_, Or.inl (Except.ok.inj h).symm, List.prefix_refl _⟩
    · simp only [except_bind_eq_ok] at h
      obtain ⟨run', hrun', h⟩ := h
      obtain ⟨entries, hexecuted⟩ := executeBatch_spec hrun'
      refine ⟨run', Or.inr (Except.ok.inj h).symm, ?_⟩
      rw [hexecuted.dispatches]
      exact List.prefix_append _ _

theorem returns_dispatches {run r : SchedulerRun}
    (h : Returns (Scheduler.cycle graph outcomes) run r) : run.dispatches <+: r.dispatches := by
  obtain ⟨last, hreach, hleave⟩ := h.leave
  have hlast : run.dispatches <+: last.dispatches := by
    refine hreach.invariant (P := fun other => run.dispatches <+: other.dispatches) ?_
      (List.prefix_refl _)
    intro a b hbefore hagain
    obtain ⟨run', hturn, hmore⟩ := cycle_dispatches hagain
    obtain rfl := Turn.again.inj (hturn.resolve_left (by simp))
    exact hbefore.trans hmore
  obtain ⟨run', hturn, hmore⟩ := cycle_dispatches hleave
  obtain rfl := Turn.leave.inj (hturn.resolve_right (by simp))
  exact hlast.trans hmore

/-- What every call on a new runtime keeps when no identity changes by stripping: the
    failed tasks are among the dispatched ones. -/
structure Tracked (graph : TaskGraph) (pool : WorkerPool) (run : SchedulerRun) : Prop where
  queue : QueueReady graph run.completed run.queue
  failed : ∀ id ∈ run.failed, id ∈ run.dispatches.map Dispatch.taskId
  registry : run.pool.registry = pool.registry

variable (outcomes) in
theorem Tracked.takes {pool : WorkerPool} {run : SchedulerRun} (h : Tracked graph pool run)
    (hgraph : ∀ task ∈ graph.nodes, Trimmed task.id)
    (hpool : ∀ worker ∈ pool.registry.workers, Trimmed worker.id) :
    ∃ queue front left pool', CycleTakes graph outcomes run queue front left pool' ∧
      Dispatches TrimmedIds run.pool queue := by
  have htrimmed : ∀ queue, collect run.queue (graph.ready run.completed) = .ok queue →
      Dispatches TrimmedIds run.pool queue := by
    intro queue hcollect
    obtain ⟨queue', hcollect', hready⟩ := h.queue.collect
    rw [hcollect'] at hcollect
    obtain rfl := Except.ok.inj hcollect
    refine dispatches_of_forall fun task htask worker hworker => ⟨?_, ?_⟩
    · exact hgraph task (graph.mem_ready.mp (hready.ready task htask)).1
    · exact hpool worker (h.registry ▸ hworker)
  obtain ⟨queue, front, left, pool', htakes⟩ := cycleTakes outcomes h.queue htrimmed
  exact ⟨queue, front, left, pool', htakes, htrimmed queue htakes.collected⟩

theorem Tracked.executed {pool pool' : WorkerPool} {run run' : SchedulerRun}
    {queue front left : List TaskNode} {entries : List Dispatch} (h : Tracked graph pool run)
    (htakes : CycleTakes graph outcomes run queue front left pool')
    (hexecuted : Executed { run with queue := left, pool := pool' } (front.map TaskNode.id)
      entries run') : Tracked graph pool run' where
  queue := htakes.left_ready.executed hexecuted htakes.out
  failed := by
    intro id hid
    rw [hexecuted.failed, Finset.mem_union] at hid
    rw [hexecuted.dispatches, List.map_append, List.mem_append]
    exact hid.imp (h.failed id) fun hfailed => taskId_mem_tasksWith.mpr (Or.inr hfailed)
  registry := (hexecuted.registry.trans htakes.registry).trans h.registry

/-- On a new runtime, and where stripping changes no identity, a task that failed and finds
    a worker again is dispatched twice. -/
theorem new_of_runsToCompletion {pool : WorkerPool}
    (hgraph : ∀ task ∈ graph.nodes, Trimmed task.id)
    (hpool : ∀ worker ∈ pool.registry.workers, Trimmed worker.id)
    (h : RunsToCompletion graph outcomes (SchedulerRuntime.fresh pool)) :
    DispatchesNew graph outcomes (SchedulerRuntime.fresh pool) := by
  obtain ⟨r, hreturns, honce, -⟩ := h
  intro run hreach queue hcollect
  have htracked : Tracked graph pool run := by
    refine hreach.invariant (P := Tracked graph pool) ?_
      ⟨(clean_fresh graph pool).queue, by simp [SchedulerRuntime.fresh], rfl⟩
    intro a b ha hagain
    obtain ⟨queue, front, left, pool', htakes, -⟩ := ha.takes outcomes hgraph hpool
    by_cases hempty : front = []
    · rw [htakes.leaves hempty] at hagain
      cases hagain
    · obtain ⟨entries, run', hcycle, hexecuted⟩ := htakes.again hempty
      rw [hcycle] at hagain
      obtain rfl := Turn.again.inj (Except.ok.inj hagain)
      exact ha.executed htakes hexecuted
  obtain ⟨queue', front, left, pool', htakes, htrimmed⟩ :=
    htracked.takes outcomes hgraph hpool
  rw [htakes.collected] at hcollect
  obtain rfl := Except.ok.inj hcollect
  refine Dispatches.and ((htakes.dispatches fun task : TaskNode => task.id ∉ run.failed).mpr ?_)
    htrimmed
  intro task htask hfailed
  -- the cycle dispatches the task once more, and the result keeps both dispatches
  obtain ⟨entries, run', hcycle, hexecuted⟩ := htakes.again (List.ne_nil_of_mem htask)
  have hreturns' := (returns_of_again hcycle).mp (hreturns.of_reaches hreach)
  have hnodup : (run'.dispatches.map Dispatch.taskId).Nodup :=
    honce.sublist ((returns_dispatches hreturns').map _).sublist
  rw [hexecuted.dispatches, List.map_append, hexecuted.taskIds] at hnodup
  exact (List.nodup_append'.mp hnodup).2.2 (htracked.failed _ hfailed)
    (List.mem_map_of_mem htask)

/-- **When the scheduler runs a graph to completion.** For every graph, every pool and every
    outcome of each dispatch: from a clean runtime it does whenever no cycle takes a failed
    task (or an identity that stripping changes); and on a new runtime, where stripping
    changes no identity, only then. -/
theorem runs_to_completion_iff (graph : TaskGraph) (outcomes : Nat → WorkerOutcome) :
    (∀ runtime, Clean graph runtime → DispatchesNew graph outcomes runtime →
      RunsToCompletion graph outcomes runtime) ∧
    (∀ pool : WorkerPool, (∀ task ∈ graph.nodes, Trimmed task.id) →
      (∀ worker ∈ pool.registry.workers, Trimmed worker.id) →
      (RunsToCompletion graph outcomes (SchedulerRuntime.fresh pool) ↔
        DispatchesNew graph outcomes (SchedulerRuntime.fresh pool))) := by
  refine ⟨fun runtime hclean hnew => runsToCompletion_of_new hclean hnew, ?_⟩
  intro pool hgraph hpool
  exact ⟨new_of_runsToCompletion hgraph hpool,
    runsToCompletion_of_new (clean_fresh graph pool)⟩

end

/-! ## A failed task is dispatched again -/

/-- One task without a parent. -/
def soloGraph : TaskGraph where
  nodes := [⟨"n1", "", .normal⟩]
  edges := []
  ids_nodup := by simp
  ends_mem := by simp
  edges_nodup := by simp
  acyclic := acyclic_nil

/-- One idle and healthy worker. -/
def soloPool : WorkerPool where
  registry := { workers := [⟨"w1", [], []⟩], ids_nodup := by simp }
  healthManager := {
    health := fun _ => .healthy, failureCounts := fun _ => 0
    degradeThreshold := 1, unavailableThreshold := 3 }
  instances := fun _ => ⟨.idle, none⟩

/-- The first dispatch fails, the later ones succeed. -/
def failsFirst (n : Nat) : WorkerOutcome := .returned (n != 0)

/-- The call after its first cycle. -/
def afterFailure : SchedulerRun where
  queue := []
  completed := ∅
  failed := {"n1"}
  pool := (soloPool.setInstance "w1" ⟨.assigned, some "n1"⟩).settle "w1" false
  dispatches := [⟨"n1", "w1", false⟩]

theorem cycle_failsFirst :
    cycle soloGraph failsFirst ⟨SchedulerRuntime.fresh soloPool, []⟩ =
      .ok (.again afterFailure) := by
  rfl

/-- **A failed task is dispatched again**: it stays ready, and its worker is free. -/
theorem not_runsToCompletion_failsFirst :
    ¬ RunsToCompletion soloGraph failsFirst (SchedulerRuntime.fresh soloPool) := by
  rw [(runs_to_completion_iff soloGraph failsFirst).2 soloPool (by decide) (by decide)]
  intro hnew
  have hcondition := hnew afterFailure
    (Relation.ReflTransGen.single cycle_failsFirst) [⟨"n1", "", .normal⟩] rfl
  have hdispatch := hcondition ⟨"w1", [], []⟩ rfl
  exact hdispatch.1.1 (by simp [afterFailure])

end Eag.Scheduler
