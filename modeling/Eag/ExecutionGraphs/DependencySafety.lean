/-
  Eag.ExecutionGraphs.DependencySafety

  When the parallel runtime respects the dependencies of a graph: it returns, runs every
  node at most once and only after its parents completed, and accounts for every node,
  unless the fail-fast policy stopped it.

  The loop asks for the nodes that are ready once the completed *and the failed*
  ones are over, so under any policy but fail-fast the children of a failed node come
  up like those of a completed one.
-/

import Eag.ExecutionGraphs.BatchSpecs

namespace Eag.ExecutionGraphs

open Eag.Foundation Eag.Workers

/-! ## The guarantee -/

/-- `execute` returns; no node is run twice, nor before its parents were run with success;
    and every node of the graph is either completed or failed, unless a failure stopped a
    fail-fast run. -/
def DependencySafe (graph : ExecutionGraph) (policy : FailurePolicy)
    (outcomes : Nat → WorkerOutcome) (pool : WorkerPool) : Prop :=
  ∃ run, Returns (turn policy outcomes graph) (GraphRun.start pool) run ∧
    (run.state.executions.map Dispatch.taskId).Nodup ∧
    AfterParents graph.parents ∅ run.state.executions ∧
    ((policy = .failFast ∧ run.failed ≠ ∅) ∨
      (Disjoint run.completed run.failed ∧ run.completed ∪ run.failed = graph.ids))

/-- Wherever the loop comes: a node of the next batch that finds a worker has no failed
    parent and a title that is not blank, and a worker that raises has an identity that is
    not blank. -/
def RunsUnfailed (graph : ExecutionGraph) (policy : FailurePolicy)
    (outcomes : Nat → WorkerOutcome) (pool : WorkerPool) : Prop :=
  ∀ run, Reaches (turn policy outcomes graph) (GraphRun.start pool) run →
    Runs policy outcomes (fun node worker outcome =>
      (∀ p ∈ graph.parents node.id, p ∉ run.failed) ∧ Executable node worker outcome)
      run.state (graph.ready run.finished)

/-! ## Turns -/

section

variable {graph : ExecutionGraph} {policy : FailurePolicy} {outcomes : Nat → WorkerOutcome}

/-- What every turn keeps, whatever fails: the completed nodes are the ones a worker ran
    with success, and no node is finished twice. -/
structure Sound (graph : ExecutionGraph) (run : GraphRun) : Prop where
  completed : run.completed = tasksWith true run.state.executions
  finished : ∀ entry ∈ run.state.executions, entry.taskId ∈ run.finished
  once : (run.state.executions.map Dispatch.taskId).Nodup
  ids : run.finished ⊆ graph.ids
  disjoint : Disjoint run.completed run.failed

theorem sound_start (graph : ExecutionGraph) (pool : WorkerPool) :
    Sound graph (GraphRun.start pool) where
  completed := by simp [GraphRun.start, tasksWith]
  finished := by simp [GraphRun.start]
  once := by simp [GraphRun.start]
  ids := by simp [GraphRun.start, GraphRun.finished]
  disjoint := by simp [GraphRun.start]

/-- The run after a batch. -/
def GraphRun.after (run : GraphRun) (state : ExecutorState) (result : BatchResult) : GraphRun where
  completed := run.completed ∪ result.completed
  failed := run.failed ∪ result.failed
  state := state

/-- A turn with a batch of ready nodes. -/
structure TurnRuns (graph : ExecutionGraph) (policy : FailurePolicy)
    (outcomes : Nat → WorkerOutcome) (run run' : GraphRun) (front : List ExecutionNode)
    (entries : List Dispatch) (failed : Finset String) : Prop where
  prefix_ready : front <+: graph.ready run.finished
  stops : front = graph.ready run.finished ∨ (policy = .failFast ∧ failed ≠ ∅)
  executions : run'.state.executions = run.state.executions ++ entries
  sublist : (entries.map Dispatch.taskId).Sublist (front.map ExecutionNode.id)
  completed : run'.completed = run.completed ∪ tasksWith true entries
  failed_eq : run'.failed = run.failed ∪ failed
  covers : tasksWith true entries ∪ failed = (front.map ExecutionNode.id).toFinset
  disjoint : Disjoint (tasksWith true entries) failed
  runs_iff : ∀ R : String → Prop,
    Runs policy outcomes (fun node _ _ => R node.id) run.state (graph.ready run.finished) ↔
      ∀ entry ∈ entries, R entry.taskId

/-- The three ways a turn ends without an error. -/
theorem turn_spec {run : GraphRun} {next : Turn GraphRun}
    (h : turn policy outcomes graph run = .ok next) :
    (graph.isComplete run.finished = true ∧ next = .leave run) ∨
    (graph.isComplete run.finished = false ∧
      Runs policy outcomes Executable run.state (graph.ready run.finished) ∧
      ∃ run' front entries failed,
        TurnRuns graph policy outcomes run run' front entries failed ∧
        ((policy = .failFast ∧ failed ≠ ∅ ∧ next = .leave run') ∨
          (¬ (policy = .failFast ∧ failed ≠ ∅) ∧ next = .again run'))) := by
  unfold turn at h
  split at h
  · next hcomplete => exact Or.inl ⟨hcomplete, (Except.ok.inj h).symm⟩
  · next hopen =>
      rw [Bool.not_eq_true] at hopen
      rw [if_neg (graph.ready_ne_nil hopen)] at h
      simp only [except_bind_eq_ok] at h
      obtain ⟨⟨state, result⟩, hbatch, h⟩ := h
      obtain ⟨front, entries, failed, hruns⟩ := executeBatch_spec hbatch
      have hfailed : result.failed = failed := by
        rw [hruns.failed_eq, Finset.empty_union]
      have hcompleted : result.completed = tasksWith true entries := by
        rw [hruns.completed, Finset.empty_union]
      have hnodup : (front.map ExecutionNode.id).Nodup :=
        (graph.nodup_ready run.finished).sublist (hruns.prefix_batch.map _).sublist
      refine Or.inr ⟨hopen, hruns.runs, run.after state result, front, entries, failed, {
        prefix_ready := hruns.prefix_batch, stops := hruns.stops
        executions := hruns.executions, sublist := hruns.sublist
        completed := by rw [GraphRun.after, hcompleted]
        failed_eq := by rw [GraphRun.after, hfailed]
        covers := hruns.covers, disjoint := hruns.disjoint hnodup
        runs_iff := hruns.runs_iff }, ?_⟩
      split at h
      · next hstop => exact Or.inl ⟨hstop.1, hfailed ▸ hstop.2, (Except.ok.inj h).symm⟩
      · next hgoes => exact Or.inr ⟨hfailed ▸ hgoes, (Except.ok.inj h).symm⟩

theorem TurnRuns.finished {run run' : GraphRun} {front : List ExecutionNode}
    {entries : List Dispatch} {failed : Finset String}
    (h : TurnRuns graph policy outcomes run run' front entries failed) :
    run'.finished = run.finished ∪ (front.map ExecutionNode.id).toFinset := by
  unfold GraphRun.finished
  rw [h.completed, h.failed_eq, ← h.covers, Finset.union_union_union_comm]

/-- The nodes of a batch are nodes of the graph that were not finished. -/
theorem TurnRuns.front_open {run run' : GraphRun} {front : List ExecutionNode}
    {entries : List Dispatch} {failed : Finset String}
    (h : TurnRuns graph policy outcomes run run' front entries failed) :
    ∀ id ∈ front.map ExecutionNode.id, id ∈ graph.ids ∧ id ∉ run.finished ∧
      ∀ p ∈ graph.parents id, p ∈ run.finished := by
  intro id hid
  obtain ⟨node, hnode, rfl⟩ := List.mem_map.mp hid
  obtain ⟨hmem, hopen, hparents⟩ := graph.mem_ready.mp (h.prefix_ready.subset hnode)
  exact ⟨graph.mem_ids.mpr ⟨node, hmem, rfl⟩, hopen, hparents⟩

/-- **Step lemma.** A turn keeps the invariant. -/
theorem Sound.turn {run run' : GraphRun} {front : List ExecutionNode}
    {entries : List Dispatch} {failed : Finset String} (hsound : Sound graph run)
    (h : TurnRuns graph policy outcomes run run' front entries failed) : Sound graph run' := by
  have hfront := h.front_open
  have hentries : ∀ entry ∈ entries, entry.taskId ∈ front.map ExecutionNode.id :=
    fun entry hentry => h.sublist.subset (List.mem_map_of_mem hentry)
  have hopen : ∀ id ∈ tasksWith true entries ∪ failed, id ∉ run.finished := by
    intro id hid
    rw [h.covers, List.mem_toFinset] at hid
    exact (hfront id hid).2.1
  refine { completed := ?_, finished := ?_, once := ?_, ids := ?_, disjoint := ?_ }
  · rw [h.completed, h.executions, tasksWith_append, hsound.completed]
  · intro entry hentry
    rw [h.executions, List.mem_append] at hentry
    rw [h.finished, Finset.mem_union, List.mem_toFinset]
    exact hentry.imp (hsound.finished entry) (hentries entry)
  · rw [h.executions, List.map_append]
    have hnodup : (entries.map Dispatch.taskId).Nodup :=
      ((graph.nodup_ready run.finished).sublist (h.prefix_ready.map _).sublist).sublist h.sublist
    refine hsound.once.append hnodup fun id hold hnew => ?_
    obtain ⟨entry, hentry, rfl⟩ := List.mem_map.mp hold
    exact (hfront _ (h.sublist.subset hnew)).2.1 (hsound.finished entry hentry)
  · rw [h.finished]
    exact Finset.union_subset hsound.ids fun id hid => (hfront id (List.mem_toFinset.mp hid)).1
  · rw [h.completed, h.failed_eq, Finset.disjoint_union_left, Finset.disjoint_union_right,
      Finset.disjoint_union_right]
    refine ⟨⟨hsound.disjoint, ?_⟩, ?_, h.disjoint⟩
    · rw [Finset.disjoint_right]
      exact fun id hid hmem => hopen id (Finset.mem_union_right _ hid)
        (Finset.mem_union_left _ hmem)
    · rw [Finset.disjoint_left]
      exact fun id hid hmem => hopen id (Finset.mem_union_left _ hid)
        (Finset.mem_union_right _ hmem)

/-- The nodes that are not finished yet. -/
def openNodes (graph : ExecutionGraph) (run : GraphRun) : Nat := (graph.ids \ run.finished).card

/-- A turn with a batch finishes a node. -/
theorem TurnRuns.openNodes_lt {run run' : GraphRun} {front : List ExecutionNode}
    {entries : List Dispatch} {failed : Finset String}
    (h : TurnRuns graph policy outcomes run run' front entries failed)
    (hopen : graph.isComplete run.finished = false) :
    openNodes graph run' < openNodes graph run := by
  have hne : front ≠ [] := by
    rintro rfl
    -- an empty batch is not the ready one, and it has no failure to stop at
    have hcovers := h.covers
    rw [List.map_nil, List.toFinset_nil, Finset.union_eq_empty] at hcovers
    rcases h.stops with hall | ⟨-, hfailed⟩
    · exact graph.ready_ne_nil hopen hall.symm
    · exact hfailed hcovers.2
  obtain ⟨node, hnode⟩ := List.exists_mem_of_ne_nil front hne
  obtain ⟨hid, hunfinished, -⟩ := h.front_open node.id (List.mem_map_of_mem hnode)
  refine Finset.card_lt_card ((Finset.ssubset_iff_of_subset ?_).mpr ⟨node.id, ?_, ?_⟩)
  · rw [h.finished]
    exact Finset.sdiff_subset_sdiff (Finset.Subset.refl _) Finset.subset_union_left
  · exact Finset.mem_sdiff.mpr ⟨hid, hunfinished⟩
  · rw [Finset.mem_sdiff, h.finished, not_and_not_right]
    exact fun _ => Finset.mem_union_right _
      (List.mem_toFinset.mpr (List.mem_map_of_mem hnode))

/-! ## The condition is enough -/

/-- A run in order: sound, and every node was run after its parents. -/
def InOrder (graph : ExecutionGraph) (run : GraphRun) : Prop :=
  Sound graph run ∧ AfterParents graph.parents ∅ run.state.executions

theorem InOrder.turn {run run' : GraphRun} {front : List ExecutionNode}
    {entries : List Dispatch} {failed : Finset String} (h : InOrder graph run)
    (hturn : TurnRuns graph policy outcomes run run' front entries failed)
    (hunfailed : ∀ entry ∈ entries, ∀ p ∈ graph.parents entry.taskId, p ∉ run.failed) :
    InOrder graph run' := by
  refine ⟨h.1.turn hturn, ?_⟩
  rw [hturn.executions]
  have hcompleted : ∀ id ∈ run.completed, id ∈ (∅ : Finset String) ∨
      id ∈ tasksWith true run.state.executions := fun id hid => Or.inr (h.1.completed ▸ hid)
  refine h.2.append hcompleted ?_
  intro entry hentry p hp
  have hmem := hturn.sublist.subset (List.mem_map_of_mem (f := Dispatch.taskId) hentry)
  have hfinished := (hturn.front_open _ hmem).2.2 p hp
  exact (Finset.mem_union.mp hfinished).resolve_right (hunfailed entry hentry p hp)

theorem turn_isOk {run : GraphRun}
    (h : Runs policy outcomes Executable run.state (graph.ready run.finished)) :
    ∃ next, turn policy outcomes graph run = .ok next := by
  unfold turn
  split
  · exact ⟨_, rfl⟩
  · split
    · exact ⟨_, rfl⟩
    · obtain ⟨⟨state, result⟩, hbatch⟩ := executeBatch_isOk ⟨∅, ∅⟩ h
      simp only [hbatch, except_ok_bind]
      split <;> exact ⟨_, rfl⟩

/-- **Run lemma.** -/
theorem dependencySafe_of_runsUnfailed {pool : WorkerPool}
    (h : RunsUnfailed graph policy outcomes pool) :
    DependencySafe graph policy outcomes pool := by
  have hturn : ∀ run, Reaches (turn policy outcomes graph) (GraphRun.start pool) run ∧
      InOrder graph run →
      (∃ r, turn policy outcomes graph run = .ok (.leave r) ∧ InOrder graph r ∧
        ((policy = .failFast ∧ r.failed ≠ ∅) ∨ graph.ids ⊆ r.finished)) ∨
      ∃ run', turn policy outcomes graph run = .ok (.again run') ∧
        (Reaches (turn policy outcomes graph) (GraphRun.start pool) run' ∧
          InOrder graph run') ∧ openNodes graph run' < openNodes graph run := by
    rintro run ⟨hreach, horder⟩
    have hcondition := h run hreach
    obtain ⟨next, hnext⟩ := turn_isOk (hcondition.imp fun _ _ _ hQ => hQ.2)
    rcases turn_spec hnext with ⟨hcomplete, rfl⟩ |
      ⟨hopen, -, run', front, entries, failed, hruns, hends⟩
    · exact Or.inl ⟨run, hnext, horder, Or.inr (graph.isComplete_iff.mp hcomplete)⟩
    · have hunfailed := (hruns.runs_iff fun id => ∀ p ∈ graph.parents id, p ∉ run.failed).mp
        (hcondition.imp fun _ _ _ hQ => hQ.1)
      have horder' := horder.turn hruns hunfailed
      rcases hends with ⟨hpolicy, hfailed, rfl⟩ | ⟨-, rfl⟩
      · refine Or.inl ⟨run', hnext, horder', Or.inl ⟨hpolicy, fun hempty => hfailed ?_⟩⟩
        rw [hruns.failed_eq, Finset.union_eq_empty] at hempty
        exact hempty.2
      · exact Or.inr ⟨run', hnext, ⟨hreach.again hnext, horder'⟩, hruns.openNodes_lt hopen⟩
  obtain ⟨r, hreturns, ⟨hsound, horder⟩, hends⟩ :=
    returns_of_measure Nat.lt_wfRel.wf (openNodes graph) hturn
      ⟨Relation.ReflTransGen.refl, sound_start graph pool, fun _ _ _ heq => by
        simp [GraphRun.start] at heq⟩
  refine ⟨r, hreturns, hsound.once, horder, hends.imp_right fun hall => ?_⟩
  exact ⟨hsound.disjoint, Finset.Subset.antisymm hsound.ids hall⟩

/-! ## The condition is needed -/

theorem AfterParents_of_prefix {parents : String → List String} {done : Finset String}
    {xs ys : List Dispatch} (hbefore : xs <+: ys) (h : AfterParents parents done ys) :
    AfterParents parents done xs := by
  obtain ⟨rest, rfl⟩ := hbefore
  intro before entry after heq
  exact h before entry (after ++ rest) (by rw [heq]; simp)

/-- What stays true of a run until it returns. -/
theorem sound_of_reaches {pool : WorkerPool} {run : GraphRun}
    (hreach : Reaches (turn policy outcomes graph) (GraphRun.start pool) run) :
    Sound graph run := by
  refine hreach.invariant (P := Sound graph) ?_ (sound_start graph pool)
  intro a b ha hagain
  rcases turn_spec hagain with ⟨-, hleave⟩ | ⟨-, -, run', _, _, _, hruns, ⟨-, -, hleave⟩ | ⟨-, hnext⟩⟩
  · cases hleave
  · cases hleave
  · obtain rfl := Turn.again.inj hnext
    exact ha.turn hruns

/-- Executions are only added. -/
theorem returns_executions {run r : GraphRun}
    (h : Returns (turn policy outcomes graph) run r) :
    run.state.executions <+: r.state.executions := by
  obtain ⟨last, hreach, hleave⟩ := h.leave
  have hlast : run.state.executions <+: last.state.executions := by
    refine hreach.invariant
      (P := fun other => run.state.executions <+: other.state.executions) ?_ (List.prefix_refl _)
    intro a b hbefore hagain
    rcases turn_spec hagain with
      ⟨-, hleave⟩ | ⟨-, -, run', _, _, _, hruns, ⟨-, -, hleave⟩ | ⟨-, hnext⟩⟩
    · cases hleave
    · cases hleave
    · obtain rfl := Turn.again.inj hnext
      exact hbefore.trans (hruns.executions ▸ List.prefix_append _ _)
  rcases turn_spec hleave with
    ⟨-, hleave⟩ | ⟨-, -, run', _, _, _, hruns, ⟨-, -, hleave⟩ | ⟨-, hnext⟩⟩
  · obtain rfl := Turn.leave.inj hleave
    exact hlast
  · obtain rfl := Turn.leave.inj hleave
    exact hlast.trans (hruns.executions ▸ List.prefix_append _ _)
  · cases hnext

theorem runsUnfailed_of_dependencySafe {pool : WorkerPool}
    (h : DependencySafe graph policy outcomes pool) :
    RunsUnfailed graph policy outcomes pool := by
  obtain ⟨r, hreturns, -, horder, -⟩ := h
  intro run hreach
  have hreturns' := hreturns.of_reaches hreach
  have hok : ∃ next, turn policy outcomes graph run = .ok next := by
    rcases hreturns'.turn with hleave | ⟨run', hagain, -⟩
    · exact ⟨_, hleave⟩
    · exact ⟨_, hagain⟩
  obtain ⟨next, hnext⟩ := hok
  rcases turn_spec hnext with ⟨hcomplete, -⟩ |
    ⟨hopen, hexecutable, run', front, entries, failed, hruns, hends⟩
  · -- everything is finished, so the next batch is empty
    have hempty : graph.ready run.finished = [] := by
      rw [List.eq_nil_iff_forall_not_mem]
      intro node hnode
      obtain ⟨hmem, hunfinished, -⟩ := graph.mem_ready.mp hnode
      exact hunfinished (graph.isComplete_iff.mp hcomplete (graph.mem_ids.mpr ⟨node, hmem, rfl⟩))
    rw [hempty]
    trivial
  · refine Runs.and ((hruns.runs_iff fun id => ∀ p ∈ graph.parents id, p ∉ run.failed).mpr ?_)
      hexecutable
    intro entry hentry p hp hfailed
    have hsound' := (sound_of_reaches hreach).turn hruns
    have hbefore : run'.state.executions <+: r.state.executions := by
      rcases hends with ⟨-, -, rfl⟩ | ⟨-, rfl⟩
      · rcases hreturns'.turn with hleave | ⟨other, hagain, -⟩
        · rw [hnext] at hleave
          rw [Turn.leave.inj (Except.ok.inj hleave)]
        · rw [hnext] at hagain
          cases hagain
      · exact returns_executions ((returns_of_again hnext).mp hreturns')
    -- the parent failed, so it was never run with success
    have horder' := AfterParents_of_prefix hbefore horder
    obtain ⟨before, after, hsplit⟩ := List.append_of_mem hentry
    have hrun := horder' (run.state.executions ++ before) entry after
      (by rw [hruns.executions, hsplit, List.append_assoc]) p hp
    obtain ⟨earlier, hearlier, hid, hsuccess⟩ := hrun.resolve_left (Finset.notMem_empty p)
    have hcompleted : p ∈ run'.completed := by
      rw [hsound'.completed, mem_tasksWith]
      refine ⟨earlier, ?_, hid, hsuccess⟩
      rw [hruns.executions, hsplit]
      simp only [List.mem_append] at hearlier ⊢
      tauto
    refine Finset.disjoint_left.mp hsound'.disjoint hcompleted ?_
    rw [hruns.failed_eq]
    exact Finset.mem_union_left _ hfailed

/-- **Exactly when the parallel runtime is dependency safe**, for every graph, every policy,
    every pool and every outcome of each node: no batch runs a node whose parent failed (or
    that cannot be made a task for its worker). -/
theorem dependency_safe_iff (graph : ExecutionGraph) (policy : FailurePolicy)
    (outcomes : Nat → WorkerOutcome) (pool : WorkerPool) :
    DependencySafe graph policy outcomes pool ↔ RunsUnfailed graph policy outcomes pool :=
  ⟨runsUnfailed_of_dependencySafe, dependencySafe_of_runsUnfailed⟩

end

/-! ## A child of a failed node is run -/

/-- Two nodes, the second after the first. -/
def chainGraph : ExecutionGraph where
  nodes := [⟨"n1", "t1", "First", by decide⟩, ⟨"n2", "t2", "Second", by decide⟩]
  edges := [⟨"n1", "n2", by decide⟩]
  ids_nodup := by decide
  ends_mem := by simp
  acyclic := acyclic_of_rank (fun id => if id = "n1" then 0 else 1) (by simp [ExecutionEdge.ends])

/-- One idle and healthy worker with the capability the executor asks for. -/
def pythonPool : WorkerPool where
  registry := { workers := [⟨"w1", ["python"], []⟩], ids_nodup := by simp }
  healthManager := {
    health := fun _ => .healthy, failureCounts := fun _ => 0
    degradeThreshold := 1, unavailableThreshold := 3 }
  instances := fun _ => ⟨.idle, none⟩

/-- The first node fails, the second succeeds. -/
def firstFails (n : Nat) : WorkerOutcome := .returned (n != 0)

/-- The call after its first batch. -/
def afterFirst : GraphRun where
  completed := ∅
  failed := {"n1"}
  state := {
    pool := (pythonPool.setInstance "w1" ⟨.assigned, some "n1"⟩).settle "w1" false
    executions := [⟨"n1", "w1", false⟩] }

theorem turn_firstFails :
    turn .continueOn firstFails chainGraph (GraphRun.start pythonPool) =
      .ok (.again afterFirst) := by
  rfl

/-- **The child of a failed node is run** under the continue policy. -/
theorem not_dependencySafe_firstFails :
    ¬ DependencySafe chainGraph .continueOn firstFails pythonPool := by
  rw [dependency_safe_iff]
  intro hruns
  have hcondition := hruns afterFirst (Relation.ReflTransGen.single turn_firstFails)
  have hready : chainGraph.ready afterFirst.finished = [⟨"n2", "t2", "Second", by decide⟩] := by
    rfl
  rw [hready] at hcondition
  have hfound : afterFirst.state.pool.findBestWorker "python" = some ⟨"w1", ["python"], []⟩ := by
    rfl
  simp only [Runs, hfound] at hcondition
  exact hcondition.1.1 "n1" (by decide) (by simp [afterFirst])

end Eag.ExecutionGraphs
