/-
  Eag.Transformations.SchedulerRuns

  Runs of the transformation scheduler. Every run ends, runs no task twice and holds for each path
  what its successful transformations make of it (`execute_composed`). It runs the least ready
  task of each turn, after all that it depends on has succeeded, exactly when in each state the
  first entry whose dependencies are completed is that task (`execute_respects_iff`).
-/

import Eag.Transformations.Scheduler

namespace Eag.Transformations

open Eag.Foundation

namespace TransformationScheduler

section Runs

variable {Path Document Content Options Id : Type} [DecidableEq Path] [DecidableEq Id]
  {pathOf : Document → Path} {parse : Path → Content → Document}
  {s next start : TransformationScheduler Path Document Content Options Id}
  {task other : ScheduledTask Document Content Options Id}

/-! ## Ready tasks -/

/-- The identities of the tasks that succeeded. -/
def succeeded (s : TransformationScheduler Path Document Content Options Id) : List Id :=
  (s.results.filter fun entry => entry.2.success).map fun entry => entry.1.taskId

/-- Everything that the task depends on has succeeded. -/
def Ready (s : TransformationScheduler Path Document Content Options Id)
    (task : ScheduledTask Document Content Options Id) : Prop :=
  ∀ dep ∈ task.dependencies, dep ∈ s.succeeded

variable (pathOf parse) in
/-- A turn is taken when a task is ready, and it runs the least of those that are. -/
structure RunsLeastReady (s : TransformationScheduler Path Document Content Options Id) :
    Prop where
  runs : ∀ task ∈ s.queue, Ready s task → ∃ next, s.turn pathOf parse = some next
  least : ∀ next, s.turn pathOf parse = some next → ∃ task result,
    next.results = s.results ++ [(task, result)] ∧ task ∈ s.queue ∧ Ready s task ∧
      ∀ other ∈ s.queue, Ready s other → task.key ≤ other.key

/-- The first entry of the queue whose dependencies are completed has none that failed, and no
    ready entry behind it is less. -/
def Straight (s : TransformationScheduler Path Document Content Options Id) : Prop :=
  ∀ position task, s.firstReady = some (position, task) → Ready s task ∧
    ∀ behind other, position < behind → s.queue[behind]? = some other → Ready s other →
      task.key ≤ other.key

/-! ## The turn -/

theorem firstReady_eq_some {position : Nat} (h : s.firstReady = some (position, task)) :
    s.queue[position]? = some task ∧ s.unblocked task ∧
      ∀ before < position, ∀ other, s.queue[before]? = some other → s.unblocked other = false := by
  obtain ⟨found, hfound, hentry⟩ := Option.bind_eq_some_iff.mp h
  obtain ⟨entry, hget, hpair⟩ := Option.map_eq_some_iff.mp hentry
  cases hpair
  obtain ⟨hbound, hready, hbefore⟩ := Array.findIdx?_eq_some_iff_getElem.mp hfound
  have hentry : s.queue[position] = task :=
    Option.some.inj ((Array.getElem?_eq_getElem hbound).symm.trans hget)
  refine ⟨hget, hentry ▸ hready, fun before hlt other hother => ?_⟩
  have hlater := hbefore before hlt
  have heq : s.queue[before] = other :=
    Option.some.inj ((Array.getElem?_eq_getElem (hlt.trans hbound)).symm.trans hother)
  rw [heq] at hlater
  exact Bool.eq_false_iff.mpr hlater

theorem firstReady_eq_none (h : s.firstReady = none) : ∀ task ∈ s.queue,
    s.unblocked task = false := by
  intro task htask
  cases hfound : s.queue.findIdx? s.unblocked with
  | none => exact Array.findIdx?_eq_none_iff.mp hfound task htask
  | some position =>
      obtain ⟨hbound, -⟩ := Array.findIdx?_eq_some_iff_getElem.mp hfound
      rw [firstReady, hfound, Option.bind_some, Array.getElem?_eq_getElem hbound] at h
      cases h

/-- A turn runs the first entry whose dependencies are completed. -/
theorem turn_eq_some (h : s.turn pathOf parse = some next) : ∃ position task,
    s.firstReady = some (position, task) ∧ next = s.runTask pathOf parse position task := by
  obtain ⟨⟨position, task⟩, hfirst, rfl⟩ := Option.map_eq_some_iff.mp h
  exact ⟨position, task, hfirst, rfl⟩

variable (pathOf parse) in
omit [DecidableEq Id] in
/-- The entry that is run is taken out of the queue. -/
theorem queue_runTask {position : Nat} (hget : s.queue[position]? = some task) :
    (task :: (s.runTask pathOf parse position task).queue.toList).Perm s.queue.toList := by
  obtain ⟨hbound, rfl⟩ := Array.getElem?_eq_some_iff.mp hget
  have hheap : (heapify ScheduledTask.less (s.queue.eraseIdxIfInBounds position)).toList.Perm
      (s.queue.toList.eraseIdx position) := by
    have hperm := (heapify_perm ScheduledTask.less (s.queue.eraseIdxIfInBounds position)).toList
    rwa [Array.toList_eraseIdxIfInBounds] at hperm
  refine (List.Perm.cons _ hheap).trans ?_
  have hbound' : position < s.queue.toList.length := hbound
  exact List.getElem_cons_eraseIdx_perm hbound'

/-! ## What holds along a run -/

/-- What every turn keeps holds after any number of turns. -/
theorem loop_invariant {P : TransformationScheduler Path Document Content Options Id → Prop}
    (hturn : ∀ s position task, P s → s.firstReady = some (position, task) →
      P (s.runTask pathOf parse position task)) (turns : Nat) (h : P s) :
    P (loop pathOf parse turns s) := by
  induction turns generalizing s with
  | zero => exact h
  | succ turns ih =>
      rw [loop]
      split
      · exact h
      · next next hnext =>
          obtain ⟨position, task, hfirst, rfl⟩ := turn_eq_some hnext
          exact ih (hturn s position task h hfirst)

variable (pathOf parse) in
omit [DecidableEq Id] in
/-- Each turn leaves one task less. -/
theorem size_runTask {position : Nat} (hget : s.queue[position]? = some task) :
    (s.runTask pathOf parse position task).queue.size + 1 = s.queue.size := by
  have hlength := (queue_runTask pathOf parse hget).length_eq
  rw [List.length_cons] at hlength
  exact hlength

/-- **The loop ends**: after as many turns as there are tasks no turn is left. -/
theorem turn_loop_eq_none {turns : Nat} (h : s.queue.size ≤ turns) :
    (loop pathOf parse turns s).turn pathOf parse = none := by
  induction turns generalizing s with
  | zero =>
      have hempty : s.queue = #[] := Array.eq_empty_of_size_eq_zero (Nat.le_zero.mp h)
      rw [loop, turn, firstReady, hempty, Array.findIdx?_empty]
      rfl
  | succ turns ih =>
      rw [loop]
      split
      · next hnone => exact hnone
      · next next hnext =>
          obtain ⟨position, task, hfirst, rfl⟩ := turn_eq_some hnext
          have hsize := size_runTask pathOf parse (firstReady_eq_some hfirst).1
          exact ih (by omega)

/-- Completed are the tasks that have a result. -/
def Completes (s : TransformationScheduler Path Document Content Options Id) : Prop :=
  ∀ id, id ∈ s.completed ↔ id ∈ s.results.map fun entry => entry.1.taskId

omit [DecidableEq Id] in
theorem completes_runTask {position : Nat} (h : Completes s) :
    Completes (s.runTask pathOf parse position task) := by
  intro id
  have hcompleted : id ∈ (s.runTask pathOf parse position task).completed ↔
      id = task.taskId ∨ id ∈ s.completed := List.mem_cons
  rw [hcompleted, h id]
  simp only [runTask, List.map_append, List.map_singleton, List.mem_append, List.mem_singleton,
    or_comm]

omit [DecidableEq Id] in
theorem completes_of_fresh (hcompleted : s.completed = []) (hresults : s.results = []) :
    Completes s := by
  intro id
  rw [hcompleted, hresults]
  exact Iff.rfl

/-- A task that is ready has its dependencies completed. -/
theorem unblocked_of_ready (h : Completes s) (hready : Ready s task) : s.unblocked task := by
  refine List.all_eq_true.mpr fun dep hdep => decide_eq_true ((h dep).mpr ?_)
  obtain ⟨entry, hentry, hid⟩ := List.mem_map.mp (hready dep hdep)
  exact List.mem_map.mpr ⟨entry, List.mem_of_mem_filter hentry, hid⟩

/-- **One turn runs the least ready task** exactly when the state is straight. -/
theorem runsLeastReady_iff (h : Completes s) :
    RunsLeastReady pathOf parse s ↔ Straight s := by
  constructor
  · intro hruns position task hfirst
    have hturn : s.turn pathOf parse = some (s.runTask pathOf parse position task) := by
      rw [turn, hfirst]
      rfl
    obtain ⟨ran, result, hresults, -, hready, hleast⟩ := hruns.least _ hturn
    -- The task that ran is the one that was found.
    have hsame : ran = task := by
      have happend := List.append_cancel_left hresults
      exact (congrArg Prod.fst (List.cons.inj happend).1).symm
    subst hsame
    refine ⟨hready, fun behind other _ hother hotherReady => ?_⟩
    exact hleast other (Array.mem_of_getElem? hother) hotherReady
  · intro hstraight
    refine ⟨fun task htask hready => ?_, fun next hnext => ?_⟩
    · cases hfirst : s.firstReady with
      | none =>
          have hblocked := firstReady_eq_none hfirst task htask
          rw [unblocked_of_ready h hready] at hblocked
          cases hblocked
      | some found => exact ⟨_, by rw [turn, hfirst]; rfl⟩
    · obtain ⟨position, task, hfirst, rfl⟩ := turn_eq_some hnext
      obtain ⟨hget, -, hbefore⟩ := firstReady_eq_some hfirst
      obtain ⟨hready, hbehind⟩ := hstraight position task hfirst
      refine ⟨task, _, rfl, Array.mem_of_getElem? hget, hready, fun other hother hotherReady => ?_⟩
      obtain ⟨place, hplace⟩ := Array.getElem?_of_mem hother
      rcases Nat.lt_trichotomy place position with hlt | rfl | hgt
      · -- What stands before it is not ready.
        have hblocked := hbefore place hlt other hplace
        rw [unblocked_of_ready h hotherReady] at hblocked
        cases hblocked
      · rw [Option.some.inj (hplace.symm.trans hget)]
      · exact hbehind place other hgt hplace hotherReady

/-! ## No task runs twice -/

/-- The tasks that wait and those that ran are told apart by their numbers. -/
def Distinct (s : TransformationScheduler Path Document Content Options Id) : Prop :=
  (s.queue.toList.map ScheduledTask.seq ++ s.results.map fun entry => entry.1.seq).Nodup

omit [DecidableEq Id] in
theorem distinct_runTask {position : Nat} (h : Distinct s)
    (hget : s.queue[position]? = some task) :
    Distinct (s.runTask pathOf parse position task) := by
  have hqueue := (queue_runTask pathOf parse hget).map ScheduledTask.seq
  have hresults : (s.runTask pathOf parse position task).results.map (fun entry => entry.1.seq) =
      s.results.map (fun entry => entry.1.seq) ++ [task.seq] := by
    simp only [runTask, List.map_append, List.map_singleton]
  unfold Distinct
  rw [hresults]
  -- The number of the task moves from the one side to the other.
  refine (List.Perm.nodup_iff ?_).mp h
  refine (hqueue.symm.append_right _).trans ?_
  rw [List.map_cons, ← List.append_assoc]
  exact (List.perm_append_singleton _ _).symm

/-! ## The contents -/

/-- The tasks on a path that succeeded, in the order in which they ran. -/
def successfulOn (pathOf : Document → Path) (path : Path)
    (results : List (ScheduledTask Document Content Options Id × TransformationResult Content)) :
    List (ScheduledTask Document Content Options Id) :=
  (results.filter fun entry => entry.2.success ∧ entry.1.path pathOf = path).map Prod.fst

/-- What a task makes of the content and the document of a path. -/
def transform (parse : Path → Content → Document) (path : Path) (held : Content × Document)
    (task : ScheduledTask Document Content Options Id) : Content × Document :=
  heldAfter parse path held (resultOn task held)

/-- What is held for each path is what its successful tasks have made of what was held at the
    start, and something is held for every task that waits. -/
structure Composed (pathOf : Document → Path) (parse : Path → Content → Document)
    (start s : TransformationScheduler Path Document Content Options Id) : Prop where
  known : ∀ task ∈ s.queue, ∃ held, s.state.get? (task.path pathOf) = some held
  state : ∀ path, s.state.get? path = (start.state.get? path).map fun held =>
    (successfulOn pathOf path s.results).foldl (transform parse path) held

omit [DecidableEq Id] in
/-- What is filed after a turn: for the path of the task what it makes of what was held. -/
theorem get?_state_runTask {position : Nat} {held : Content × Document}
    (hheld : s.state.get? (task.path pathOf) = some held) (path : Path) :
    (s.runTask pathOf parse position task).state.get? path =
      if path = task.path pathOf then some (transform parse path held task)
      else s.state.get? path := by
  have hfound : s.heldFor pathOf task = held := by
    rw [heldFor, hheld, Option.getD_some]
  unfold runTask
  rw [hfound]
  dsimp only
  split
  · next hsuccess hedits =>
      rw [Dict.get?_set]
      split
      · next hpath => rw [hpath, transform]
      · rfl
  · next hnone =>
      -- Without a success or an edit what was held stays.
      split
      · next hpath =>
          rw [hpath, hheld, transform, heldAfter]
          split
          · next hsuccess hedits => exact absurd hedits (hnone _ _ hsuccess)
          · rfl
      · rfl

omit [DecidableEq Id] in
/-- The result of the task that is run is that of its transformation on what was held. -/
theorem results_runTask {position : Nat} {held : Content × Document}
    (hheld : s.state.get? (task.path pathOf) = some held) :
    (s.runTask pathOf parse position task).results = s.results ++ [(task, resultOn task held)] := by
  unfold runTask
  rw [heldFor, hheld, Option.getD_some]

omit [DecidableEq Path] [DecidableEq Id] in
/-- A task without success makes nothing of what is held. -/
theorem transform_of_failure {path : Path} {held : Content × Document}
    (h : (resultOn task held).success = false) : transform parse path held task = held := by
  rw [transform, heldAfter, h]

omit [DecidableEq Id] in
theorem composed_runTask {position : Nat} (h : Composed pathOf parse start s)
    (hget : s.queue[position]? = some task) :
    Composed pathOf parse start (s.runTask pathOf parse position task) := by
  obtain ⟨held, hheld⟩ := h.known task (Array.mem_of_getElem? hget)
  refine ⟨fun waiting hwaiting => ?_, fun path => ?_⟩
  · have hmem : waiting ∈ s.queue := by
      rw [← Array.mem_toList_iff] at hwaiting ⊢
      exact (queue_runTask pathOf parse hget).mem_iff.mp (List.mem_cons_of_mem _ hwaiting)
    rw [get?_state_runTask hheld]
    split
    · exact ⟨_, rfl⟩
    · exact h.known waiting hmem
  · rw [get?_state_runTask hheld, results_runTask hheld]
    unfold successfulOn
    rw [List.filter_append, List.map_append, List.filter_cons, List.filter_nil]
    by_cases hpath : path = task.path pathOf
    · subst hpath
      have hstate := h.state (task.path pathOf)
      rw [hheld] at hstate
      obtain ⟨first, hfirst, hsofar⟩ := Option.map_eq_some_iff.mp hstate.symm
      rw [if_pos rfl, hfirst, Option.map_some]
      unfold successfulOn at hsofar
      cases hsuccess : (resultOn task held).success with
      | true =>
          simp only [decide_true, and_self, if_true, List.map_singleton,
            List.foldl_append, hsofar, List.foldl_cons, List.foldl_nil]
      | false =>
          simp only [Bool.false_eq_true, false_and, decide_false, if_false,
            List.map_nil, List.append_nil, hsofar, transform_of_failure hsuccess]
    · have hother : ¬task.path pathOf = path := fun heq => hpath heq.symm
      rw [if_neg hpath, h.state path]
      simp only [hother, and_false, decide_false, Bool.false_eq_true, if_false, List.map_nil,
        List.append_nil, successfulOn]

/-! ## Submissions -/

/-- What holds after submissions: the numbers are those given so far, and something is held for
    every task. -/
structure Submitted (pathOf : Document → Path)
    (s : TransformationScheduler Path Document Content Options Id) : Prop where
  fresh : s.completed = [] ∧ s.results = []
  numbered : ∀ task ∈ s.queue, task.seq ≤ s.seq
  distinct : (s.queue.toList.map ScheduledTask.seq).Nodup
  known : ∀ task ∈ s.queue, ∃ held, s.state.get? (task.path pathOf) = some held

omit [DecidableEq Id] in
theorem submitted_submit (h : Submitted pathOf s) (given : Submission Document Content Options Id) :
    Submitted pathOf (submit pathOf s given) := by
  have hqueue : ∃ task : ScheduledTask Document Content Options Id,
      (submit pathOf s given).queue.toList.Perm (s.queue.toList ++ [task]) ∧
        task.seq = s.seq + 1 ∧ task.context = given.context := by
    refine ⟨⟨given.priority, s.seq + 1, given.transformation, given.context, given.taskId,
      given.dependencies⟩, ?_, rfl, rfl⟩
    have hpush := (heappush_perm ScheduledTask.less s.queue ⟨given.priority, s.seq + 1,
      given.transformation, given.context, given.taskId, given.dependencies⟩).toList
    rwa [Array.toList_push] at hpush
  obtain ⟨task, hperm, hseq, hcontext⟩ := hqueue
  have hmem : ∀ waiting ∈ (submit pathOf s given).queue, waiting ∈ s.queue ∨ waiting = task := by
    intro waiting hwaiting
    rw [← Array.mem_toList_iff] at hwaiting
    have hsplit := List.mem_append.mp (hperm.mem_iff.mp hwaiting)
    exact hsplit.imp Array.mem_toList_iff.mp List.mem_singleton.mp
  refine ⟨h.fresh, fun waiting hwaiting => ?_, ?_, fun waiting hwaiting => ?_⟩
  · show waiting.seq ≤ s.seq + 1
    rcases hmem waiting hwaiting with hold | rfl
    · exact Nat.le_succ_of_le (h.numbered waiting hold)
    · exact Nat.le_of_eq hseq
  · refine ((hperm.map ScheduledTask.seq).nodup_iff).mpr ?_
    rw [List.map_append, List.map_singleton]
    refine List.nodup_append.mpr ⟨h.distinct, List.nodup_singleton _, fun a ha b hb => ?_⟩
    obtain ⟨waiting, hwaiting, rfl⟩ := List.mem_map.mp ha
    have hle := h.numbered waiting (Array.mem_toList_iff.mp hwaiting)
    rw [List.mem_singleton.mp hb, hseq]
    omega
  · -- The first submission for a path files what is held for it.
    have hfiled : ∀ path, (∃ held, s.state.get? path = some held) ∨
        path = pathOf given.context.document →
        ∃ held, (submit pathOf s given).state.get? path = some held := by
      intro path hpath
      show ∃ held, (if pathOf given.context.document ∈ s.state.keys then s.state
        else s.state.set (pathOf given.context.document)
          (given.context.content, given.context.document)).get? path = some held
      split
      · next hknown =>
          rcases hpath with hpath | rfl
          · exact hpath
          · obtain ⟨held, hitem⟩ := Dict.mem_keys.mp hknown
            exact ⟨held, Dict.get?_eq_some.mpr hitem⟩
      · rw [Dict.get?_set]
        split
        · exact ⟨_, rfl⟩
        · next hne => exact hpath.resolve_right hne
    rcases hmem waiting hwaiting with hold | rfl
    · exact hfiled _ (.inl (h.known waiting hold))
    · exact hfiled _ (.inr (by rw [ScheduledTask.path, hcontext]))

omit [DecidableEq Id] in
theorem submitted_submitAll (given : List (Submission Document Content Options Id)) :
    Submitted pathOf
      (submitAll pathOf given : TransformationScheduler Path Document Content Options Id) := by
  have hloop : ∀ (given : List (Submission Document Content Options Id))
      (s : TransformationScheduler Path Document Content Options Id), Submitted pathOf s →
      Submitted pathOf (given.foldl (submit pathOf) s) := by
    intro given
    induction given with
    | nil => exact fun _ h => h
    | cons first rest ih => exact fun s h => ih _ (submitted_submit h first)
  exact hloop given init ⟨⟨rfl, rfl⟩, nofun, List.nodup_nil, nofun⟩

/-! ## Runs from submissions -/

variable (pathOf parse) in
/-- The scheduler respects priority and dependencies after submissions: `execute` ends, every turn
    runs the least ready task, none runs twice, and what is held at the end is what the successful
    tasks make of what was held. -/
structure Respects (start : TransformationScheduler Path Document Content Options Id) : Prop where
  ends : (execute pathOf parse start).turn pathOf parse = none
  leastReady : ∀ turns, RunsLeastReady pathOf parse (loop pathOf parse turns start)
  once : ((execute pathOf parse start).results.map fun entry => entry.1.seq).Nodup
  composed : ∀ path, (execute pathOf parse start).state.get? path =
    (start.state.get? path).map fun held =>
      (successfulOn pathOf path (execute pathOf parse start).results).foldl
        (transform parse path) held

/-- Without earlier results `execute` is the loop. -/
theorem execute_of_fresh (h : s.results = []) :
    execute pathOf parse s = loop pathOf parse s.queue.size s := by
  have hsame : { s with results := [] } = s := by
    rw [← h]
  rw [execute, hsame]

/-- **Scheduling respects priority and dependencies** exactly when every state of the run is
    straight. -/
theorem execute_respects_iff (pathOf : Document → Path) (parse : Path → Content → Document)
    (given : List (Submission Document Content Options Id)) :
    Respects pathOf parse (submitAll pathOf given) ↔
      ∀ turns, Straight (loop pathOf parse turns (submitAll pathOf given)) := by
  have hsubmitted : Submitted pathOf (submitAll pathOf given) := submitted_submitAll given
  generalize submitAll pathOf given = start at hsubmitted
  have hexecute : execute pathOf parse start = loop pathOf parse start.queue.size start :=
    execute_of_fresh hsubmitted.fresh.2
  have hcompletes : ∀ turns, Completes (loop pathOf parse turns start) := by
    intro turns
    exact loop_invariant (fun s position task h _ => completes_runTask h) turns
      (completes_of_fresh hsubmitted.fresh.1 hsubmitted.fresh.2)
  have hdistinct : ∀ turns, Distinct (loop pathOf parse turns start) := by
    intro turns
    refine loop_invariant (fun s position task h hfirst =>
      distinct_runTask h (firstReady_eq_some hfirst).1) turns ?_
    unfold Distinct
    rw [hsubmitted.fresh.2, List.map_nil, List.append_nil]
    exact hsubmitted.distinct
  have hcomposed : ∀ turns, Composed pathOf parse start (loop pathOf parse turns start) := by
    intro turns
    refine loop_invariant (fun s position task h hfirst =>
      composed_runTask h (firstReady_eq_some hfirst).1) turns ⟨hsubmitted.known, fun path => ?_⟩
    rw [hsubmitted.fresh.2]
    exact Option.map_id'.symm
  constructor
  · exact fun h turns => (runsLeastReady_iff (hcompletes turns)).mp (h.leastReady turns)
  · intro h
    refine ⟨?_, fun turns => (runsLeastReady_iff (hcompletes turns)).mpr (h turns), ?_, ?_⟩
    · rw [hexecute]
      exact turn_loop_eq_none (Nat.le_refl _)
    · rw [hexecute]
      exact (List.nodup_append.mp (hdistinct _)).2.1
    · rw [hexecute]
      exact (hcomposed _).state

end Runs

/-! ## A task that overtakes a lesser one -/

/-- A transformation that appends a letter. -/
def appendLetter (letter : String) (context : TransformationContext String String Unit) :
    TransformationResult String := ⟨true, [context.content ++ letter]⟩

/-- Three tasks on one file: the least one waits for the second, which is less than the third.
    The heap's array then holds the third before the second. -/
def overtaking : List (Submission String String Unit Nat) :=
  [{ transformation := appendLetter "c", context := ⟨"a.py", "", ()⟩, priority := 2, taskId := 7 },
    { transformation := appendLetter "b", context := ⟨"a.py", "", ()⟩, priority := 1, taskId := 8 },
    { transformation := appendLetter "a", context := ⟨"a.py", "", ()⟩, priority := 0,
      taskId := 9, dependencies := [8] }]

/-- The third task is found first, although the second is ready and less. -/
theorem overtaking_not_respected :
    ¬Respects id (fun path _ => path) (submitAll id overtaking) := by
  intro h
  generalize hstart : (submitAll id overtaking :
    TransformationScheduler String String String Unit Nat) = start at h
  have hfresh : start.completed = [] ∧ start.results = [] := by
    rw [← hstart]
    exact ⟨rfl, rfl⟩
  have hstraight : Straight start := (runsLeastReady_iff
    (completes_of_fresh hfresh.1 hfresh.2)).mp (h.leastReady 0)
  have hfirst : start.firstReady.map (fun found => (found.1, found.2.key)) =
      some (1, toLex (2, 1)) := by
    rw [← hstart]
    decide +kernel
  have hbehind : (start.queue[2]?).map (fun task => (task.key, task.dependencies)) =
      some (toLex (1, 2), []) := by
    rw [← hstart]
    decide +kernel
  obtain ⟨⟨position, task⟩, hfound, hentry⟩ := Option.map_eq_some_iff.mp hfirst
  obtain ⟨hposition, hkey⟩ := Prod.mk.inj hentry
  obtain ⟨other, hother, hpair⟩ := Option.map_eq_some_iff.mp hbehind
  obtain ⟨hotherKey, hdependencies⟩ := Prod.mk.inj hpair
  have hready : Ready start other := by
    intro dep hdep
    rw [hdependencies] at hdep
    cases hdep
  have hlt : position < 2 := by
    show position < 1 + 1
    exact Nat.lt_succ_of_le (Nat.le_of_eq hposition)
  have hle := (hstraight position task hfound).2 2 other hlt hother hready
  rw [hotherKey, show task.key = toLex (2, 1) from hkey] at hle
  exact absurd hle (by decide)

end TransformationScheduler

end Eag.Transformations
