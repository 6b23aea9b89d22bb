/-
  Eag.Planner.DependencyResolver

  The tasks of the planner (`planner/models.py`), as far as they are read; the resolver of
  their dependencies (`planner/intelligence/dependency_resolver.py`) and the graph it builds
  (`models.py`): the checks of the tasks, the nodes, the search for a cycle, the statistics,
  and the order of the tasks. Durations are taken as exact rationals.

  The nested functions that call themselves have room for as many calls as there are tasks;
  `stuck` stands for a call beyond that.
-/

import Eag.Foundation.DepthFirst
import Eag.Foundation.Kahn
import Eag.Foundation.LongestChains

namespace Eag.Planner

open Eag.Foundation

/-- `EngineeringTask`. -/
structure EngineeringTask where
  id : String
  dependencies : List String
  title : PyText := []
  estimatedDuration : Rat := 0
  estimatedValidation : Rat := 0
  estimatedReview : Rat := 0
  parallelizable : Bool := false
  blocking : Bool := false
  deriving DecidableEq, Repr

/-- The identities of tasks. -/
def taskIds (tasks : List EngineeringTask) : List String := tasks.map EngineeringTask.id

/-- The dependencies of tasks, each as the identity that comes first and the one that follows. -/
def dependencyEdges (tasks : List EngineeringTask) : List (String × String) :=
  tasks.flatMap fun task => task.dependencies.map fun dependency => (dependency, task.id)

theorem mem_dependencyEdges {tasks : List EngineeringTask} {dependency id : String} :
    (dependency, id) ∈ dependencyEdges tasks ↔
      ∃ task ∈ tasks, task.id = id ∧ dependency ∈ task.dependencies := by
  simp only [dependencyEdges, List.mem_flatMap, List.mem_map, Prod.mk.injEq]
  constructor
  · rintro ⟨task, htask, _, hdependency, rfl, rfl⟩
    exact ⟨task, htask, rfl, hdependency⟩
  · rintro ⟨task, htask, rfl, hdependency⟩
    exact ⟨task, htask, dependency, hdependency, rfl, rfl⟩

/-- Tasks in the order of their dependencies: each is listed once, after every task that it
    depends on. -/
structure PreSorted (tasks : List EngineeringTask) : Prop where
  distinct : (taskIds tasks).Nodup
  dependencies_first : ∀ before task after, tasks = before ++ task :: after →
    ∀ dependency ∈ task.dependencies, dependency ∈ taskIds tasks → dependency ∈ taskIds before

/-! ## Models -/

/-- `TaskDependencyNode`: a task, those that depend on it, and those it depends on. -/
structure TaskDependencyNode where
  task : EngineeringTask
  incoming : List String
  outgoing : List String
  deriving DecidableEq, Repr

/-- `TaskDependencyStatistics`. -/
structure TaskDependencyStatistics where
  taskCount : Nat
  edgeCount : Nat
  rootCount : Nat
  leafCount : Nat
  maximumDepth : Nat
  independentTasks : Nat
  cyclic : Bool
  deriving DecidableEq, Repr

/-- The nodes by the identities of their tasks. -/
abbrev Nodes := Dict String TaskDependencyNode

/-- `TaskDependencyGraph`. -/
structure TaskDependencyGraph where
  nodes : Nodes
  statistics : TaskDependencyStatistics

/-- The errors of the resolver, with their messages. -/
inductive PlannerError where
  | duplicateTask (message : String)
  | unknownDependency (message : String)
  | dependencyCycle (message : String)
  | stuck
  deriving DecidableEq, Repr

/-! ## Checks -/

/-- The first check that fails, of the dependencies of a task. -/
def validateTask (ids : List String) (task : EngineeringTask) : Except PlannerError Unit :=
  if task.id ∈ task.dependencies then
    .error (.unknownDependency ("Task " ++ task.id ++ " cannot depend on itself."))
  else
    match task.dependencies.find? (· ∉ ids) with
    | some dependency =>
        .error (.unknownDependency
          ("Task " ++ task.id ++ " depends on unknown task " ++ dependency ++ "."))
    | none => .ok ()

/-- `_validate`. -/
def validate (tasks : List EngineeringTask) : Except PlannerError Unit :=
  if ¬ (taskIds tasks).Nodup then .error (.duplicateTask "Duplicate task IDs detected.")
  else tasks.forM (validateTask (taskIds tasks))

/-! ## Nodes -/

/-- `incoming_map`: for every task, the ones that depend on it, once for each time they name it. -/
def incomingMap (tasks : List EngineeringTask) : String → List String :=
  tasks.foldl (fun map task =>
    task.dependencies.foldl
      (fun map dependency => Function.update map dependency (map dependency ++ [task.id])) map)
    fun _ => []

/-- `outgoing_map`, of which the last task with an identity counts. -/
def outgoingMap (tasks : List EngineeringTask) (id : String) : List String :=
  (tasks.reverse.find? (·.id = id)).elim [] (·.dependencies)

/-- `sorted(ids)`. -/
def sortedAscending (ids : List String) : List String := ids.insertionSort (· ≤ ·)

/-- The node of a task. -/
def nodeFor (tasks : List EngineeringTask) (task : EngineeringTask) : TaskDependencyNode where
  task := task
  incoming := sortedAscending (incomingMap tasks task.id)
  outgoing := sortedAscending (outgoingMap tasks task.id)

/-- `_build_nodes`. -/
def buildNodes (tasks : List EngineeringTask) : Nodes :=
  Dict.empty.update (tasks.map fun task => (task.id, nodeFor tasks task))

namespace Nodes

variable (nodes : Nodes)

/-- `nodes[id].outgoing`, of a task. -/
def outgoing (id : String) : List String := (nodes.get? id).elim [] (·.outgoing)

/-- `nodes[id].incoming`, of a task. -/
def incoming (id : String) : List String := (nodes.get? id).elim [] (·.incoming)

/-! ## Cycles -/

/-- The colours of the search. -/
inductive Color where
  | white
  | gray
  | black
  deriving DecidableEq, Repr

/-- The colour of every task. -/
abbrev Colors := String → Color

/-- The loop of `dfs` over the dependencies of a task. -/
def dfsOutgoing (dfs : Colors → String → Except PlannerError Colors) (id : String) :
    Colors → List String → Except PlannerError Colors
  | color, [] => .ok color
  | color, dependency :: rest =>
      match color dependency with
      | .gray =>
          .error (.dependencyCycle ("Cycle detected involving " ++ id ++ " and " ++ dependency))
      | .white =>
          match dfs color dependency with
          | .error e => .error e
          | .ok color => dfsOutgoing dfs id color rest
      | .black => dfsOutgoing dfs id color rest

/-- `dfs`, with room for `fuel` nested calls. -/
def dfs : Nat → Colors → String → Except PlannerError Colors
  | 0, _, _ => .error .stuck
  | fuel + 1, color, id =>
      match dfsOutgoing (dfs fuel) id (Function.update color id .gray) (nodes.outgoing id) with
      | .error e => .error e
      | .ok color => .ok (Function.update color id .black)

/-- The loop of `_detect_cycles` over the tasks. -/
def dfsRoots : Colors → List String → Except PlannerError Colors
  | color, [] => .ok color
  | color, id :: rest =>
      if color id = .white then
        match nodes.dfs nodes.keys.length color id with
        | .error e => .error e
        | .ok color => dfsRoots color rest
      else dfsRoots color rest

/-- `_detect_cycles`. -/
def detectCycles : Except PlannerError Unit :=
  match nodes.dfsRoots (fun _ => .white) nodes.keys with
  | .error e => .error e
  | .ok _ => .ok ()

/-! ## Statistics -/

/-- `_compute_statistics`. -/
def computeStatistics : Except PlannerError TaskDependencyStatistics :=
  match longest nodes.outgoing (nodes.keys.length + 1) nodes.keys with
  | none => .error .stuck
  | some maximumDepth => .ok {
      taskCount := nodes.values.length
      edgeCount := (nodes.values.map fun node => node.outgoing.length).sum
      rootCount := nodes.values.countP fun node => node.outgoing = []
      leafCount := nodes.values.countP fun node => node.incoming = []
      maximumDepth
      independentTasks := nodes.values.countP fun node => node.incoming = [] ∧ node.outgoing = []
      cyclic := false }

end Nodes

/-- `TaskDependencyResolver.build`. -/
def build (tasks : List EngineeringTask) : Except PlannerError TaskDependencyGraph := do
  validate tasks
  let nodes := buildNodes tasks
  nodes.detectCycles
  let statistics ← nodes.computeStatistics
  pure { nodes, statistics }

/-! ## The order -/

namespace TaskDependencyGraph

variable (graph : TaskDependencyGraph)

/-- `in_degree`, of a task. -/
def inDegree (id : String) : Int := (graph.nodes.outgoing id).length

/-- The nodes of the identities, one after another. -/
def tasksOf (ids : List String) : Option (List EngineeringTask) :=
  ids.mapM fun id => (graph.nodes.get? id).map TaskDependencyNode.task

/-- `ordered_tasks`: the heap gives the least identity in it. -/
def orderedTasks : Except PlannerError (List EngineeringTask) :=
  let queue := graph.nodes.keys.filter fun id => graph.inDegree id = 0
  match Kahn.run graph.nodes.incoming (graph.nodes.keys.length + 1) ⟨graph.inDegree, queue, []⟩ with
  | none => .error .stuck
  | some s =>
      if s.order.length ≠ graph.nodes.keys.length then
        .error (.dependencyCycle "Cycle detected during topological sort")
      else
        match graph.tasksOf s.order with
        | none => .error .stuck
        | some tasks => .ok tasks

end TaskDependencyGraph

end Eag.Planner
