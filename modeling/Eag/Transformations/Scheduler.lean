/-
  Eag.Transformations.Scheduler

  The transformation scheduler (`source/scheduler/scheduler.py`). Submitted tasks wait in a heap;
  a turn of `execute` takes the first entry of the heap's array whose dependencies are completed,
  applies its transformation to the content held for its path and restores the heap.

  What a transformation does, the parser and the rest of a context are parameters.
-/

import Eag.Foundation.BinaryHeap
import Eag.Foundation.Ranking

namespace Eag.Transformations

open Eag.Foundation

/-! ## Tasks -/

/-- `TransformationContext`: the document, its content, and the rest of the context. -/
structure TransformationContext (Document Content Options : Type) where
  document : Document
  content : Content
  options : Options

/-- `TransformationResult`: whether it succeeded, and the new contents of its edits. -/
structure TransformationResult (Content : Type) where
  success : Bool
  edits : List Content

/-- `ScheduledTask`. -/
structure ScheduledTask (Document Content Options Id : Type) where
  priority : Int
  seq : Nat
  transformation : TransformationContext Document Content Options → TransformationResult Content
  context : TransformationContext Document Content Options
  taskId : Id
  dependencies : List Id

section Scheduler

variable {Path Document Content Options Id : Type} [DecidableEq Path] [DecidableEq Id]
  (pathOf : Document → Path) (parse : Path → Content → Document)

namespace ScheduledTask

/-- What tasks are ordered by. -/
def key (task : ScheduledTask Document Content Options Id) : Int ×ₗ Nat :=
  toLex (task.priority, task.seq)

/-- `task < other`. -/
def less (task other : ScheduledTask Document Content Options Id) : Bool := task.key < other.key

/-- The path of the document that the task was submitted for. -/
def path (task : ScheduledTask Document Content Options Id) : Path := pathOf task.context.document

end ScheduledTask

/-! ## The scheduler -/

/-- `TransformationScheduler`, and while it executes the results so far, each with its task. -/
structure TransformationScheduler (Path Document Content Options Id : Type)
    [DecidableEq Path] where
  queue : Array (ScheduledTask Document Content Options Id)
  completed : List Id
  state : Dict Path (Content × Document)
  seq : Nat
  results : List (ScheduledTask Document Content Options Id × TransformationResult Content)

/-- The arguments of `submit`, and the identity that the task is given. -/
structure Submission (Document Content Options Id : Type) where
  transformation : TransformationContext Document Content Options → TransformationResult Content
  context : TransformationContext Document Content Options
  priority : Int := 0
  dependencies : List Id := []
  taskId : Id

namespace TransformationScheduler

/-- `__init__`. -/
def init : TransformationScheduler Path Document Content Options Id := ⟨#[], [], .empty, 0, []⟩

/-- `submit`. -/
def submit (s : TransformationScheduler Path Document Content Options Id)
    (given : Submission Document Content Options Id) :
    TransformationScheduler Path Document Content Options Id :=
  let path := pathOf given.context.document
  let task : ScheduledTask Document Content Options Id := {
    priority := given.priority
    seq := s.seq + 1
    transformation := given.transformation
    context := given.context
    taskId := given.taskId
    dependencies := given.dependencies }
  { s with
    state := if path ∈ s.state.keys then s.state
      else s.state.set path (given.context.content, given.context.document)
    seq := s.seq + 1
    queue := heappush ScheduledTask.less s.queue task }

/-- The scheduler after the submissions. -/
def submitAll (given : List (Submission Document Content Options Id)) :
    TransformationScheduler Path Document Content Options Id :=
  given.foldl (submit pathOf) init

/-- `all(dep in self._completed for dep in task.dependencies)`. -/
def unblocked (s : TransformationScheduler Path Document Content Options Id)
    (task : ScheduledTask Document Content Options Id) : Bool :=
  task.dependencies.all fun dep => dep ∈ s.completed

/-- What a task finds for its path. -/
def heldFor (s : TransformationScheduler Path Document Content Options Id)
    (task : ScheduledTask Document Content Options Id) : Content × Document :=
  (s.state.get? (task.path pathOf)).getD (task.context.content, task.context.document)

/-- The result of a task on what is held for its path. -/
def resultOn (task : ScheduledTask Document Content Options Id) (held : Content × Document) :
    TransformationResult Content :=
  task.transformation { task.context with document := held.2, content := held.1 }

/-- What is held for the path after a result. -/
def heldAfter (path : Path) (held : Content × Document) (result : TransformationResult Content) :
    Content × Document :=
  match result.success, result.edits with
  | true, newContent :: _ => (newContent, parse path newContent)
  | _, _ => held

/-- The turn of a task that is at a position of the queue. -/
def runTask (s : TransformationScheduler Path Document Content Options Id) (position : Nat)
    (task : ScheduledTask Document Content Options Id) :
    TransformationScheduler Path Document Content Options Id :=
  let path := task.path pathOf
  let held := s.heldFor pathOf task
  let result := resultOn task held
  { s with
    queue := heapify ScheduledTask.less (s.queue.eraseIdxIfInBounds position)
    results := s.results ++ [(task, result)]
    completed := task.taskId :: s.completed
    state := match result.success, result.edits with
      | true, _ :: _ => s.state.set path (heldAfter parse path held result)
      | _, _ => s.state }

/-- The first entry of the queue's array whose dependencies are completed. -/
def firstReady (s : TransformationScheduler Path Document Content Options Id) :
    Option (Nat × ScheduledTask Document Content Options Id) :=
  (s.queue.findIdx? s.unblocked).bind fun position => (s.queue[position]?).map (Prod.mk position)

/-- A turn of the loop; no turn when nothing is ready. -/
def turn (s : TransformationScheduler Path Document Content Options Id) :
    Option (TransformationScheduler Path Document Content Options Id) :=
  s.firstReady.map fun found => s.runTask pathOf parse found.1 found.2

/-- At most so many turns. -/
def loop : Nat → TransformationScheduler Path Document Content Options Id →
    TransformationScheduler Path Document Content Options Id
  | 0, s => s
  | turns + 1, s =>
      match s.turn pathOf parse with
      | none => s
      | some next => loop turns next

/-- `execute`: every turn takes one task, so there are no more turns than tasks. -/
def execute (s : TransformationScheduler Path Document Content Options Id) :
    TransformationScheduler Path Document Content Options Id :=
  loop pathOf parse s.queue.size { s with results := [] }

end TransformationScheduler

end Scheduler

end Eag.Transformations
