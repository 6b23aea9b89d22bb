/-
  Eag.ExecutionGraphs.Runtime

  Execution graphs and the runtime that runs them in batches
  (`execution_graph/models.py`, `graph.py`, `executor.py`, `runtime.py`).

  The executor asks for a worker by the task's identity, which makes the manager
  look for the capability `python`. The artifact graph and the metadata of nodes
  are left out.
-/

import Eag.Foundation.Dag
import Eag.Foundation.Loop
import Eag.Workers.Manager

namespace Eag.ExecutionGraphs

open Eag.Foundation Eag.Workers

/-! ## Graphs -/

/-- Policies for failures during a run. -/
inductive FailurePolicy where
  | failFast
  | continueOn
  | retry
  | fallback
  deriving DecidableEq, Repr

/-- A task in an execution graph. The task's identity was stripped, the title was not. -/
structure ExecutionNode where
  id : String
  taskId : String
  title : String
  taskId_trimmed : Trimmed taskId
  deriving DecidableEq

/-- A dependency between two nodes. -/
structure ExecutionEdge where
  source : String
  target : String
  source_ne_target : source ≠ target

/-- The two ends of an edge. -/
def ExecutionEdge.ends (edge : ExecutionEdge) : String × String := (edge.source, edge.target)

/-- A validated graph. -/
structure ExecutionGraph where
  nodes : List ExecutionNode
  edges : List ExecutionEdge
  ids_nodup : (nodes.map ExecutionNode.id).Nodup
  ends_mem : ∀ edge ∈ edges, edge.source ∈ nodes.map ExecutionNode.id ∧
    edge.target ∈ nodes.map ExecutionNode.id
  acyclic : Acyclic (edges.map ExecutionEdge.ends)

namespace ExecutionGraph

variable (graph : ExecutionGraph)

/-- The identities of the nodes. -/
def ids : Finset String := (graph.nodes.map ExecutionNode.id).toFinset

theorem mem_ids {id : String} : id ∈ graph.ids ↔ ∃ node ∈ graph.nodes, node.id = id := by
  simp [ids]

/-- `_parents_map.get(node_id, [])`. -/
def parents (id : String) : List String := parentsOf (graph.edges.map ExecutionEdge.ends) id

/-- `ready`. -/
def ready (completed : Finset String) : List ExecutionNode :=
  List.insertionSort (fun a b => a.id ≤ b.id) (graph.nodes.filter fun node =>
    node.id ∉ completed ∧ ∀ p ∈ graph.parents node.id, p ∈ completed)

/-- `is_complete`. -/
def isComplete (completed : Finset String) : Bool :=
  graph.nodes.all fun node => node.id ∈ completed

theorem mem_ready {completed : Finset String} {node : ExecutionNode} :
    node ∈ graph.ready completed ↔ node ∈ graph.nodes ∧ node.id ∉ completed ∧
      ∀ p ∈ graph.parents node.id, p ∈ completed := by
  simp [ready]

theorem nodup_ready (completed : Finset String) :
    ((graph.ready completed).map ExecutionNode.id).Nodup := by
  rw [ready, ((List.perm_insertionSort _ _).map _).nodup_iff]
  exact graph.ids_nodup.sublist (List.filter_sublist.map _)

theorem isComplete_iff {completed : Finset String} :
    graph.isComplete completed = true ↔ graph.ids ⊆ completed := by
  simp [isComplete, ids, Finset.subset_iff]

/-- As long as something is left, something is ready. -/
theorem ready_ne_nil {completed : Finset String} (h : graph.isComplete completed = false) :
    graph.ready completed ≠ [] := by
  have hopen : ∃ id ∈ graph.ids, id ∉ completed := by
    by_contra hall
    push Not at hall
    rw [graph.isComplete_iff.mpr hall] at h
    cases h
  obtain ⟨id, hid, hdone⟩ := hopen
  have hstarts : ∀ ends ∈ graph.edges.map ExecutionEdge.ends, ends.1 ∈ graph.ids := by
    intro ends hends
    obtain ⟨edge, hedge, rfl⟩ := List.mem_map.mp hends
    exact List.mem_toFinset.mpr (graph.ends_mem edge hedge).1
  obtain ⟨next, hnext, hready⟩ := exists_ready graph.acyclic hstarts hid hdone
  obtain ⟨node, hnode, rfl⟩ := graph.mem_ids.mp hnext
  exact List.ne_nil_of_mem (graph.mem_ready.mpr ⟨hnode, hready⟩)

end ExecutionGraph

/-! ## Executor -/

/-- The outcome of a batch: the nodes that completed and the ones that failed. -/
structure BatchResult where
  completed : Finset String
  failed : Finset String

/-- The workers, and which nodes they ran. -/
structure ExecutorState where
  pool : WorkerPool
  executions : List Dispatch

section

variable (policy : FailurePolicy) (outcomes : Nat → WorkerOutcome)

/-- The outcome of the next node that is handed to a worker. -/
def ExecutorState.outcome (state : ExecutorState) : WorkerOutcome :=
  outcomes state.executions.length

/-- The pool with a worker assigned; `assign` is called for its effect only. -/
def ExecutorState.assigned (state : ExecutorState) (worker : WorkerProfile)
    (node : ExecutionNode) : WorkerPool :=
  (state.pool.assign worker.id node.id).getD state.pool

/-- The state once a worker has run a node. -/
def ExecutorState.ran (state : ExecutorState) (worker : WorkerProfile) (node : ExecutionNode) :
    ExecutorState where
  pool := (state.assigned worker node).settle worker.id (state.outcome outcomes).success
  executions := state.executions ++
    [⟨node.id, worker.id, (state.outcome outcomes).success⟩]

/-- `execute_batch`, from the result so far. -/
def executeBatch : ExecutorState → BatchResult → List ExecutionNode →
    Except WorkerError (ExecutorState × BatchResult)
  | state, result, [] => .ok (state, result)
  | state, result, node :: batch =>
      match state.pool.findBestWorker "python" with
      | none => executeBatch state { result with failed := insert node.id result.failed } batch
      | some worker =>
          let pool := state.assigned worker node
          -- the constructor of the task for the worker runtime checks the title
          match validateNonEmptyStr node.title "title" with
          | .error error => .error error
          | .ok _ =>
              match pool.execute worker node.taskId (state.outcome outcomes) with
              | .error error => .error error
              | .ok (success, pool) =>
                  let state : ExecutorState := { pool := pool
                                                 executions := state.executions ++
                                                   [⟨node.id, worker.id, success⟩] }
                  if success then
                    executeBatch state
                      { result with completed := insert node.id result.completed } batch
                  else
                    let result := { result with failed := insert node.id result.failed }
                    if policy = .failFast then .ok (state, result)
                    else executeBatch state result batch

/-! ## Runtime -/

/-- A call of `execute` in progress. -/
structure GraphRun where
  completed : Finset String
  failed : Finset String
  state : ExecutorState

/-- The nodes that are over, one way or the other. -/
def GraphRun.finished (run : GraphRun) : Finset String := run.completed ∪ run.failed

/-- A call before its first batch. -/
def GraphRun.start (pool : WorkerPool) : GraphRun := ⟨∅, ∅, ⟨pool, []⟩⟩

/-- One turn of the loop of `execute`. -/
def turn (graph : ExecutionGraph) (run : GraphRun) : Except WorkerError (Turn GraphRun) := do
  if graph.isComplete run.finished then .ok (.leave run)
  else if graph.ready run.finished = [] then .ok (.leave run)
  else
    let (state, result) ← executeBatch policy outcomes run.state ⟨∅, ∅⟩
      (graph.ready run.finished)
    let run : GraphRun := { completed := run.completed ∪ result.completed
                            failed := run.failed ∪ result.failed
                            state := state }
    if policy = .failFast ∧ result.failed ≠ ∅ then .ok (.leave run) else .ok (.again run)

end

end Eag.ExecutionGraphs
