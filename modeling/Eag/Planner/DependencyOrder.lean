/-
  Eag.Planner.DependencyOrder

  The graph that the resolver of dependencies builds, and the order of its tasks.

  Each part of the resolver is tied to a general one: its nodes to the parents and the
  children in the graph of dependencies, its coloured search to the search that detects
  cycles (`matches_dfs`), its depth to a longest chain, and its order to Kahn's algorithm.
  Together they make it exact (`build_exact`).
-/

import Eag.Planner.DependencyResolver

namespace Eag.Planner

open Eag.Foundation

variable {tasks tasks' : List EngineeringTask} {graph : TaskDependencyGraph}

/-! ## Checks -/

/-- What the tasks are checked for. -/
structure ValidTasks (tasks : List EngineeringTask) : Prop where
  distinct : (taskIds tasks).Nodup
  notSelf : ∀ task ∈ tasks, task.id ∉ task.dependencies
  known : ∀ task ∈ tasks, ∀ dependency ∈ task.dependencies, dependency ∈ taskIds tasks

theorem validateTask_eq_ok {ids : List String} {task : EngineeringTask} :
    validateTask ids task = .ok () ↔
      task.id ∉ task.dependencies ∧ ∀ dependency ∈ task.dependencies, dependency ∈ ids := by
  unfold validateTask
  by_cases hself : task.id ∈ task.dependencies
  · rw [if_pos hself]
    exact iff_of_false nofun fun h => h.1 hself
  · rw [if_neg hself]
    cases hfind : task.dependencies.find? (· ∉ ids) with
    | none =>
        rw [List.find?_eq_none] at hfind
        exact iff_of_true rfl ⟨hself, by simpa using hfind⟩
    | some dependency =>
        have hmem := List.mem_of_find?_eq_some hfind
        have hunknown : dependency ∉ ids := by simpa using List.find?_some hfind
        exact iff_of_false nofun fun h => hunknown (h.2 dependency hmem)

theorem validate_eq_ok : validate tasks = .ok () ↔ ValidTasks tasks := by
  unfold validate
  by_cases hdistinct : (taskIds tasks).Nodup
  · rw [if_neg (not_not.mpr hdistinct), forM_eq_ok]
    simp only [validateTask_eq_ok]
    exact ⟨fun h => ⟨hdistinct, fun task htask => (h task htask).1, fun task htask =>
      (h task htask).2⟩, fun h task htask => ⟨h.notSelf task htask, h.known task htask⟩⟩
  · rw [if_pos hdistinct]
    exact iff_of_false nofun fun h => hdistinct h.distinct

/-- Both ends of a dependency are tasks. -/
theorem ValidTasks.ends_mem (h : ValidTasks tasks) {edge : String × String}
    (hedge : edge ∈ dependencyEdges tasks) : edge.1 ∈ taskIds tasks ∧ edge.2 ∈ taskIds tasks := by
  obtain ⟨task, htask, hid, hdependency⟩ := mem_dependencyEdges.mp hedge
  exact ⟨h.known task htask _ hdependency, hid ▸ List.mem_map_of_mem htask⟩

/-! ## Nodes -/

theorem perm_sortedAscending (ids : List String) : (sortedAscending ids).Perm ids :=
  List.perm_insertionSort _ ids

/-- File the target of an edge under its source. -/
def fileEdge (map : String → List String) (edge : String × String) : String → List String :=
  Function.update map edge.1 (map edge.1 ++ [edge.2])

/-- What is filed under a key is what the edges lead to from it. -/
theorem foldl_fileEdge (edges : List (String × String)) (map : String → List String)
    (id : String) : edges.foldl fileEdge map id = map id ++ childrenOf edges id := by
  induction edges generalizing map with
  | nil => exact (List.append_nil _).symm
  | cons edge rest ih =>
      rw [List.foldl_cons, ih]
      unfold childrenOf fileEdge
      by_cases hid : id = edge.1
      · subst hid
        rw [Function.update_self, List.filter_cons_of_pos (by simp), List.map_cons,
          List.append_assoc, List.singleton_append]
      · rw [Function.update_of_ne hid, List.filter_cons_of_neg (by simpa using Ne.symm hid)]

theorem incomingMap_eq (tasks : List EngineeringTask) (id : String) :
    incomingMap tasks id = childrenOf (dependencyEdges tasks) id := by
  have hfold : incomingMap tasks = (dependencyEdges tasks).foldl fileEdge fun _ => [] := by
    unfold incomingMap dependencyEdges fileEdge
    simp only [List.foldl_flatMap, List.foldl_map]
  rw [hfold, foldl_fileEdge, List.nil_append]

theorem outgoingMap_eq (h : (taskIds tasks).Nodup) {task : EngineeringTask} (htask : task ∈ tasks) :
    outgoingMap tasks task.id = task.dependencies := by
  have hreverse : (tasks.reverse.map EngineeringTask.id).Nodup := by
    rw [List.map_reverse, List.nodup_reverse]
    exact h
  unfold outgoingMap
  rw [find?_key hreverse (List.mem_reverse.mpr htask)]
  rfl

/-- The edges into a task are its dependencies. -/
theorem parentsOf_dependencyEdges (h : (taskIds tasks).Nodup) {task : EngineeringTask}
    (htask : task ∈ tasks) : parentsOf (dependencyEdges tasks) task.id = task.dependencies := by
  have hown : ∀ other : EngineeringTask,
      ((other.dependencies.map fun dependency => (dependency, other.id)).filter
          fun edge => edge.2 = task.id).map Prod.fst
        = if other.id = task.id then other.dependencies else [] := by
    intro other
    rw [List.filter_map, List.map_map]
    split
    · next hid =>
        rw [List.filter_eq_self.mpr (by simp [hid])]
        exact List.map_id _
    · next hid =>
        rw [List.filter_eq_nil_iff.mpr (by simp [hid])]
        rfl
  have hnone : ∀ others : List EngineeringTask, task.id ∉ taskIds others →
      (others.flatMap fun other => if other.id = task.id then other.dependencies else []) = [] := by
    intro others hothers
    rw [List.flatMap_eq_nil_iff]
    intro other hother
    exact if_neg fun hid : other.id = task.id => hothers (hid ▸ List.mem_map_of_mem hother)
  obtain ⟨before, after, rfl⟩ := List.append_of_mem htask
  unfold taskIds at h
  rw [List.map_append, List.map_cons, List.nodup_middle, List.nodup_cons, List.mem_append,
    not_or] at h
  unfold parentsOf dependencyEdges
  rw [List.filter_flatMap, List.map_flatMap]
  simp only [hown]
  rw [List.flatMap_append, List.flatMap_cons, hnone before h.1.1, hnone after h.1.2, if_pos rfl,
    List.append_nil, List.nil_append]

/-- The nodes are those of the tasks, in their order. -/
theorem items_buildNodes (h : (taskIds tasks).Nodup) :
    (buildNodes tasks).items = tasks.map fun task => (task.id, nodeFor tasks task) := by
  refine Dict.items_update_empty ?_
  rw [List.map_map]
  exact h

theorem keys_buildNodes (h : (taskIds tasks).Nodup) : (buildNodes tasks).keys = taskIds tasks := by
  unfold Dict.keys
  rw [items_buildNodes h, List.map_map]
  rfl

theorem get?_buildNodes (h : (taskIds tasks).Nodup) {task : EngineeringTask} (htask : task ∈ tasks) :
    (buildNodes tasks).get? task.id = some (nodeFor tasks task) := by
  rw [Dict.get?_eq_some, items_buildNodes h]
  exact List.mem_map_of_mem htask

theorem get?_buildNodes_none (h : (taskIds tasks).Nodup) {id : String} (hid : id ∉ taskIds tasks) :
    (buildNodes tasks).get? id = none := by
  rw [Dict.get?_eq_none, keys_buildNodes h]
  exact hid

/-- **The nodes have the graph of dependencies**: what a node has as outgoing are the sources of
    the edges into its task, and as incoming the targets of the edges out of it. -/
theorem outgoing_perm (h : ValidTasks tasks) (id : String) :
    ((buildNodes tasks).outgoing id).Perm (parentsOf (dependencyEdges tasks) id) := by
  unfold Nodes.outgoing
  by_cases hid : id ∈ taskIds tasks
  · obtain ⟨task, htask, rfl⟩ := List.mem_map.mp hid
    rw [get?_buildNodes h.distinct htask, parentsOf_dependencyEdges h.distinct htask]
    show (sortedAscending (outgoingMap tasks task.id)).Perm task.dependencies
    rw [outgoingMap_eq h.distinct htask]
    exact perm_sortedAscending task.dependencies
  · have hnone : parentsOf (dependencyEdges tasks) id = [] := by
      refine List.eq_nil_iff_forall_not_mem.mpr fun p hp => hid ?_
      exact (h.ends_mem (mem_parentsOf.mp hp)).2
    rw [get?_buildNodes_none h.distinct hid, hnone]
    exact List.Perm.refl []

theorem incoming_perm (h : ValidTasks tasks) (id : String) :
    ((buildNodes tasks).incoming id).Perm (childrenOf (dependencyEdges tasks) id) := by
  unfold Nodes.incoming
  by_cases hid : id ∈ taskIds tasks
  · obtain ⟨task, htask, rfl⟩ := List.mem_map.mp hid
    rw [get?_buildNodes h.distinct htask, ← incomingMap_eq]
    exact perm_sortedAscending (incomingMap tasks task.id)
  · have hnone : childrenOf (dependencyEdges tasks) id = [] := by
      refine List.eq_nil_iff_forall_not_mem.mpr fun c hc => hid ?_
      exact (h.ends_mem (mem_childrenOf.mp hc)).1
    rw [get?_buildNodes_none h.distinct hid, hnone]
    exact List.Perm.refl []

theorem mem_outgoing (h : ValidTasks tasks) {dependency id : String} :
    dependency ∈ (buildNodes tasks).outgoing id ↔ (dependency, id) ∈ dependencyEdges tasks :=
  (outgoing_perm h id).mem_iff.trans mem_parentsOf

/-! ## The search for a cycle -/

namespace Nodes

/-- The colours tell what the search has visited, and what is on the path to where it is. -/
structure Coloured (path : List String) (s : Visits String) (color : Colors) : Prop where
  white : ∀ id, color id = .white ↔ id ∉ s.visited
  gray : ∀ id, color id = .gray ↔ id ∈ path

/-- The two searches end in the same way. -/
def Matches (path : List String) :
    Except VisitEnd (Visits String) → Except PlannerError Colors → Prop
  | .ok s, .ok color => Coloured path s color
  | .error _, .error _ => True
  | _, _ => False

/-- Searches that match both fail, or end with what the colours tell. -/
theorem Matches.ends {path : List String} {r : Except VisitEnd (Visits String)}
    {r' : Except PlannerError Colors} (h : Matches path r r') :
    (∃ e e', r = .error e ∧ r' = .error e') ∨
      ∃ s color, r = .ok s ∧ r' = .ok color ∧ Coloured path s color := by
  cases r with
  | error e =>
      cases r' with
      | error e' => exact .inl ⟨e, e', rfl, rfl⟩
      | ok color => exact h.elim
  | ok s =>
      cases r' with
      | error e' => exact h.elim
      | ok color => exact .inr ⟨s, color, rfl, rfl, h⟩

/-- The two searches of a task that was not visited match. -/
def MatchesVisit (path : List String)
    (visit : Visits String → String → Except VisitEnd (Visits String))
    (dfs : Colors → String → Except PlannerError Colors) : Prop :=
  ∀ s color id, Coloured path s color → id ∉ s.visited → Matches path (visit s id) (dfs color id)

theorem matches_dfsOutgoing {path : List String}
    {visit : Visits String → String → Except VisitEnd (Visits String)}
    {dfs : Colors → String → Except PlannerError Colors} (hvisit : MatchesVisit path visit dfs)
    (id : String) (ids : List String) (s : Visits String) (color : Colors)
    (h : Coloured path s color) :
    Matches path (visitChildren true visit path s ids) (dfsOutgoing dfs id color ids) := by
  induction ids generalizing s color with
  | nil => exact h
  | cons dependency rest ih =>
      unfold visitChildren dfsOutgoing
      by_cases hnew : dependency ∉ s.visited
      · have hmatch := hvisit s color dependency h hnew
        rw [if_pos hnew, (h.white dependency).mpr hnew]
        rcases hmatch.ends with ⟨e, e', hs, hc⟩ | ⟨s', color', hs, hc, hcoloured⟩
        · rw [hs, hc]
          exact trivial
        · rw [hs, hc]
          exact ih s' color' hcoloured
      · have hwhite : color dependency ≠ .white := mt (h.white dependency).mp hnew
        rw [if_neg hnew]
        by_cases hpath : dependency ∈ path
        · rw [if_pos ⟨rfl, hpath⟩, (h.gray dependency).mpr hpath]
          exact trivial
        · have hgray : color dependency ≠ .gray := mt (h.gray dependency).mp hpath
          rw [if_neg fun hclose => hpath hclose.2]
          cases hcolor : color dependency with
          | white => exact absurd hcolor hwhite
          | gray => exact absurd hcolor hgray
          | black => exact ih s color h

/-- **The coloured search matches the one that keeps its path.** -/
theorem matches_dfs (nodes : Nodes) (fuel : Nat) (path : List String) :
    MatchesVisit path (visit nodes.outgoing true fuel path) (nodes.dfs fuel) := by
  induction fuel generalizing path with
  | zero => exact fun _ _ _ _ _ => trivial
  | succ fuel ih =>
      intro s color id h hnew
      have hpath : id ∉ path := fun hmem => by
        have hgray := (h.gray id).mpr hmem
        rw [(h.white id).mpr hnew] at hgray
        cases hgray
      have hentered : Coloured (id :: path) ⟨id :: s.visited, s.finished⟩
          (Function.update color id .gray) := by
        constructor
        · intro other
          rw [Function.update_apply, List.mem_cons, not_or]
          split
          · next heq => exact iff_of_false (fun h => by cases h) fun hnot => hnot.1 heq
          · next hne => rw [h.white other, and_iff_right hne]
        · intro other
          rw [Function.update_apply, List.mem_cons]
          split
          · next heq => exact iff_of_true rfl (.inl heq)
          · next hne => rw [h.gray other, or_iff_right hne]
      have hloop := matches_dfsOutgoing (ih (id :: path)) id (nodes.outgoing id) _ _ hentered
      unfold visit dfs
      rcases hloop.ends with ⟨e, e', hs, hc⟩ | ⟨s', color', hs, hc, hcoloured⟩
      · rw [hs, hc]
        exact trivial
      · rw [hs, hc]
        refine ⟨fun other => ?_, fun other => ?_⟩
        · show Function.update color' id .black other = .white ↔ other ∉ s'.visited
          rw [Function.update_apply, ← hcoloured.white other]
          split
          · next heq =>
              subst heq
              rw [(hcoloured.gray other).mpr List.mem_cons_self]
              exact iff_of_false (fun h => by cases h) fun h => by cases h
          · exact Iff.rfl
        · show Function.update color' id .black other = .gray ↔ other ∈ path
          rw [Function.update_apply]
          split
          · next heq => exact iff_of_false (fun h => by cases h) (heq ▸ hpath)
          · next hne => rw [hcoloured.gray other, List.mem_cons, or_iff_right hne]

theorem matches_dfsRoots (nodes : Nodes) (ids : List String) (s : Visits String) (color : Colors)
    (h : Coloured [] s color) :
    Matches [] (visitChildren true (visit nodes.outgoing true nodes.keys.length []) [] s ids)
      (nodes.dfsRoots color ids) := by
  induction ids generalizing s color with
  | nil => exact h
  | cons id rest ih =>
      unfold visitChildren dfsRoots
      by_cases hnew : id ∉ s.visited
      · have hmatch := matches_dfs nodes nodes.keys.length [] s color id h hnew
        rw [if_pos hnew, if_pos ((h.white id).mpr hnew)]
        rcases hmatch.ends with ⟨e, e', hs, hc⟩ | ⟨s', color', hs, hc, hcoloured⟩
        · rw [hs, hc]
          exact trivial
        · rw [hs, hc]
          exact ih s' color' hcoloured
      · rw [if_neg hnew, if_neg fun hwhite => hnew ((h.white id).mp hwhite),
          if_neg fun hclose => List.not_mem_nil hclose.2]
        exact ih s color h

/-- The search for a cycle ends well exactly when the general one does. -/
theorem detectCycles_eq_ok (nodes : Nodes) :
    nodes.detectCycles = .ok () ↔ ∃ s, search nodes.outgoing true nodes.keys = .ok s := by
  have hstart : Coloured [] ⟨[], []⟩ fun _ => .white :=
    ⟨fun id => iff_of_true rfl List.not_mem_nil, fun id => iff_of_false nofun List.not_mem_nil⟩
  unfold detectCycles search
  rcases (matches_dfsRoots nodes nodes.keys _ _ hstart).ends with
    ⟨e, e', hs, hc⟩ | ⟨s, color, hs, hc, -⟩
  · rw [hs, hc]
    exact iff_of_false nofun nofun
  · rw [hs, hc]
    exact iff_of_true rfl ⟨s, rfl⟩

end Nodes

/-- Cycle detection is exact. -/
theorem detectCycles_iff (h : ValidTasks tasks) :
    (buildNodes tasks).detectCycles = .ok () ↔ Acyclic (dependencyEdges tasks) := by
  have hmem : ∀ id dependency, (id, dependency) ∈ (dependencyEdges tasks).map Prod.swap ↔
      (dependency, id) ∈ dependencyEdges tasks := by
    intro id dependency
    rw [← Prod.swap_prod_mk, List.mem_map_of_injective Prod.swap_injective]
  rw [Nodes.detectCycles_eq_ok, ← acyclic_map_swap]
  refine search_isOk_iff (fun id dependency => (mem_outgoing h).trans (hmem id dependency).symm) ?_
  rintro ⟨id, dependency⟩ hedge
  obtain ⟨hdependency, hid⟩ := h.ends_mem ((hmem id dependency).mp hedge)
  rw [keys_buildNodes h.distinct]
  exact ⟨hid, hdependency⟩

/-! ## Depth -/

/-- A dependency chain: every task is followed by one that it depends on. -/
structure DependencyChain (tasks : List EngineeringTask) (chain : List String) : Prop where
  known : ∀ id ∈ chain, id ∈ taskIds tasks
  follows : chain.IsChain fun id dependency => (dependency, id) ∈ dependencyEdges tasks

/-- The lengths of the dependency chains, in steps from a task to one that it depends on. -/
def chainLengths (tasks : List EngineeringTask) : Set Nat :=
  {n | ∃ chain, DependencyChain tasks chain ∧ chain.length - 1 = n}

/-- What follows a task in a chain are tasks. -/
theorem ValidTasks.chain_tasks (h : ValidTasks tasks) {id : String} (hid : id ∈ taskIds tasks)
    {chain : List String}
    (hchain : (id :: chain).IsChain fun id dependency => (dependency, id) ∈ dependencyEdges tasks) :
    ∀ other ∈ id :: chain, other ∈ taskIds tasks := by
  induction chain generalizing id with
  | nil =>
      intro other hother
      rw [List.mem_singleton.mp hother]
      exact hid
  | cons dependency rest ih =>
      obtain ⟨hedge, hrest⟩ := List.isChain_cons_cons.mp hchain
      exact List.forall_mem_cons.mpr ⟨hid, ih (h.ends_mem hedge).1 hrest⟩

/-- The chains from the tasks are the dependency chains. -/
theorem chainLengths_eq (h : ValidTasks tasks) (hne : taskIds tasks ≠ []) :
    chainLengths tasks
      = {n | ∃ id ∈ taskIds tasks, n ∈ lengthsFrom (buildNodes tasks).outgoing id} := by
  have hfollows : ∀ chain, Follows (buildNodes tasks).outgoing chain ↔
      chain.IsChain fun id dependency => (dependency, id) ∈ dependencyEdges tasks := by
    intro chain
    unfold Follows
    simp only [mem_outgoing h]
  ext n
  constructor
  · rintro ⟨chain, hchain, rfl⟩
    cases chain with
    | nil =>
        obtain ⟨id, hid⟩ := List.exists_mem_of_ne_nil _ hne
        exact ⟨id, hid, [], .singleton id, rfl⟩
    | cons id chain =>
        refine ⟨id, hchain.known id List.mem_cons_self, chain, ?_, rfl⟩
        exact (hfollows (id :: chain)).mpr hchain.follows
  · rintro ⟨id, hid, chain, hchain, rfl⟩
    have hedges := (hfollows (id :: chain)).mp hchain
    exact ⟨id :: chain, ⟨h.chain_tasks hid hedges, hedges⟩, rfl⟩

/-- A rank that every step to a dependency lowers, and that no task exceeds. -/
theorem ValidTasks.exists_rank (h : ValidTasks tasks) (hacyclic : Acyclic (dependencyEdges tasks)) :
    ∃ rank : String → Nat, (∀ id, ∀ dependency ∈ (buildNodes tasks).outgoing id,
      rank dependency < rank id) ∧ ∀ id, rank id < (taskIds tasks).length + 1 := by
  have hchildren : ∀ p c, c ∈ childrenOf (dependencyEdges tasks) p ↔
      (p, c) ∈ dependencyEdges tasks := fun _ _ => mem_childrenOf
  obtain ⟨s, -, hperm, hbefore⟩ :=
    search_order hchildren (fun edge hedge => h.ends_mem hedge) hacyclic h.distinct
  refine ⟨s.finished.idxOf, fun id dependency hdependency => ?_, fun id => ?_⟩
  · exact hbefore (dependency, id) ((mem_outgoing h).mp hdependency)
  · exact Nat.lt_succ_of_le (hperm.length_eq ▸ List.idxOf_le_length)

/-- **The statistics** have the length of a longest dependency chain. -/
theorem computeStatistics_spec (h : ValidTasks tasks)
    (hacyclic : Acyclic (dependencyEdges tasks)) :
    ∃ statistics, (buildNodes tasks).computeStatistics = .ok statistics ∧
      IsGreatest (chainLengths tasks) statistics.maximumDepth := by
  obtain ⟨rank, hrank, hbound⟩ := h.exists_rank hacyclic
  have hfuel : ∀ id ∈ taskIds tasks, rank id < (taskIds tasks).length + 1 := fun id _ => hbound id
  obtain ⟨ds, hlongest, hdepths⟩ := longest_spec hrank hfuel
  unfold Nodes.computeStatistics
  rw [keys_buildNodes h.distinct, hlongest]
  refine ⟨_, rfl, ?_⟩
  show IsGreatest (chainLengths tasks) (greatest ds)
  by_cases hne : taskIds tasks = []
  · have hds : ds = [] := by
      refine List.eq_nil_iff_forall_not_mem.mpr fun d hd => ?_
      obtain ⟨id, hid, -⟩ := hdepths.of_depth d hd
      rw [hne] at hid
      cases hid
    subst hds
    refine ⟨⟨[], ⟨nofun, .nil⟩, rfl⟩, ?_⟩
    rintro n ⟨chain, hchain, rfl⟩
    have hnil : chain = [] := by
      refine List.eq_nil_iff_forall_not_mem.mpr fun id hid => ?_
      have hmem := hchain.known id hid
      rw [hne] at hmem
      cases hmem
    rw [hnil]
    exact Nat.le_refl 0
  · rw [chainLengths_eq h hne]
    exact hdepths.isGreatest hne

/-! ## Order -/

/-- Counting what the edges lead to counts the edges. -/
theorem count_childrenOf (edges : List (String × String)) (p k : String) :
    (childrenOf edges p).count k = edges.count (p, k) := by
  induction edges with
  | nil => rfl
  | cons edge rest ih =>
      obtain ⟨source, target⟩ := edge
      unfold childrenOf at ih ⊢
      rw [List.count_cons, ← ih]
      by_cases hsource : source = p
      · rw [List.filter_cons_of_pos (by simpa using hsource), List.map_cons, List.count_cons]
        simp [hsource]
      · rw [List.filter_cons_of_neg (by simpa using hsource)]
        simp [hsource]

/-- The same count, from the other end. -/
theorem count_parentsOf (edges : List (String × String)) (p k : String) :
    (parentsOf edges k).count p = edges.count (p, k) := by
  induction edges with
  | nil => rfl
  | cons edge rest ih =>
      obtain ⟨source, target⟩ := edge
      unfold parentsOf at ih ⊢
      rw [List.count_cons, ← ih]
      by_cases htarget : target = k
      · rw [List.filter_cons_of_pos (by simpa using htarget), List.map_cons, List.count_cons]
        simp [htarget]
      · rw [List.filter_cons_of_neg (by simpa using htarget)]
        simp [htarget]

/-- **The order of the tasks**: a permutation of them, always with the least identity of those
    whose dependencies are done. -/
theorem orderedTasks_spec (h : ValidTasks tasks) (hacyclic : Acyclic (dependencyEdges tasks))
    (hnodes : graph.nodes = buildNodes tasks) :
    ∃ order, graph.orderedTasks = .ok order ∧ order.Perm tasks ∧
      LeastFirst (dependencyEdges tasks) (taskIds tasks) (taskIds order) := by
  have hkeys : graph.nodes.keys = taskIds tasks := by rw [hnodes, keys_buildNodes h.distinct]
  have hdegree : ∀ id, graph.inDegree id = openEdges (dependencyEdges tasks) [] id := by
    intro id
    unfold TaskDependencyGraph.inDegree
    rw [hnodes, (outgoing_perm h id).length_eq]
    unfold parentsOf openEdges
    rw [List.length_map, ← List.countP_eq_length_filter]
    simp
  have hstart : Sorting (dependencyEdges tasks) (taskIds tasks)
      ⟨graph.inDegree, (taskIds tasks).filter fun id => graph.inDegree id = 0, []⟩ := by
    refine Kahn.sorting_start (fun id _ => hdegree id) (h.distinct.filter _) fun id => ?_
    rw [List.mem_filter, decide_eq_true_eq]
  have hsuccessors : ∀ p k, (graph.nodes.incoming p).count k
      = (dependencyEdges tasks).count (p, k) := by
    intro p k
    rw [hnodes, (incoming_perm h p).count_eq, count_childrenOf]
  obtain ⟨s, hrun, hperm, hleast⟩ := Kahn.run_spec hsuccessors (fun edge hedge => h.ends_mem hedge)
    hstart rfl hacyclic h.distinct
  have hlookup : ∀ task ∈ tasks,
      (graph.nodes.get? task.id).map TaskDependencyNode.task = some task := by
    intro task htask
    rw [hnodes, get?_buildNodes h.distinct htask]
    rfl
  obtain ⟨order, horder, hids, hmem⟩ := @mapM_lookup _ _ EngineeringTask.id tasks
    (fun id => (graph.nodes.get? id).map TaskDependencyNode.task) hlookup s.order
    fun id hid => hperm.mem_iff.mp hid
  refine ⟨order, ?_, perm_of_map_key h.distinct hmem (hids ▸ hperm), ?_⟩
  · unfold TaskDependencyGraph.orderedTasks TaskDependencyGraph.tasksOf
    dsimp only
    rw [hkeys, hrun]
    dsimp only
    rw [if_neg (not_not.mpr hperm.length_eq), horder]
  · exact (show taskIds order = s.order from hids) ▸ hleast

/-- Every task comes after those that it depends on. -/
theorem preSorted_of_leastFirst {order : List EngineeringTask} (hperm : order.Perm tasks)
    (h : LeastFirst (dependencyEdges tasks) (taskIds tasks) (taskIds order)) : PreSorted order := by
  refine ⟨h.nodup, ?_⟩
  rintro before task after rfl dependency hdependency -
  have hedge : (dependency, task.id) ∈ dependencyEdges tasks :=
    mem_dependencyEdges.mpr ⟨task, hperm.mem_iff.mp (by simp), rfl, hdependency⟩
  have hids : taskIds (before ++ task :: after) = taskIds before ++ task.id :: taskIds after := by
    unfold taskIds
    rw [List.map_append, List.map_cons]
  exact h.parents_before hids hedge

/-! ## The resolver -/

/-- What a resolved list of tasks is. -/
structure Resolvable (tasks : List EngineeringTask) : Prop extends ValidTasks tasks where
  acyclic : Acyclic (dependencyEdges tasks)

/-- A build that succeeds has the nodes of the tasks, and the statistics of the nodes. -/
theorem build_eq_ok : build tasks = .ok graph ↔
    Resolvable tasks ∧ graph.nodes = buildNodes tasks ∧
      (buildNodes tasks).computeStatistics = .ok graph.statistics := by
  unfold build
  simp only [except_bind_eq_ok, except_pure_eq_ok]
  constructor
  · rintro ⟨⟨⟩, hchecked, ⟨⟩, hcycles, statistics, hstatistics, rfl⟩
    have hvalid := validate_eq_ok.mp hchecked
    exact ⟨⟨hvalid, (detectCycles_iff hvalid).mp hcycles⟩, rfl, hstatistics⟩
  · rintro ⟨h, hnodes, hstatistics⟩
    refine ⟨(), validate_eq_ok.mpr h.toValidTasks, (),
      (detectCycles_iff h.toValidTasks).mpr h.acyclic, graph.statistics, hstatistics, ?_⟩
    rw [← hnodes]

/-- The order of the tasks changes nothing about that. -/
theorem mem_dependencyEdges_congr (hperm : tasks.Perm tasks') (edge : String × String) :
    edge ∈ dependencyEdges tasks ↔ edge ∈ dependencyEdges tasks' := by
  obtain ⟨dependency, id⟩ := edge
  simp only [mem_dependencyEdges, hperm.mem_iff]

theorem Resolvable.congr (h : Resolvable tasks) (hperm : tasks.Perm tasks') :
    Resolvable tasks' := by
  have hids : (taskIds tasks).Perm (taskIds tasks') := hperm.map _
  have hprecedes : Precedes (dependencyEdges tasks') = Precedes (dependencyEdges tasks) := by
    funext p k
    exact propext (mem_dependencyEdges_congr hperm (p, k)).symm
  refine ⟨⟨hids.nodup_iff.mp h.distinct, fun task htask => ?_, fun task htask => ?_⟩, ?_⟩
  · exact h.notSelf task (hperm.mem_iff.mpr htask)
  · intro dependency hdependency
    exact hids.mem_iff.mp (h.known task (hperm.mem_iff.mpr htask) dependency hdependency)
  · unfold Acyclic
    rw [hprecedes]
    exact h.acyclic

/-- The incoming and the outgoing map are converse, and have the dependencies of the tasks. -/
structure Converse (tasks : List EngineeringTask) (graph : TaskDependencyGraph) : Prop where
  nodes : graph.nodes.items.map (fun item => (item.1, item.2.task))
    = tasks.map fun task => (task.id, task)
  dependencies : ∀ item ∈ graph.nodes.items, item.2.outgoing.Perm item.2.task.dependencies
  converse : ∀ item ∈ graph.nodes.items, ∀ other ∈ graph.nodes.items,
    item.2.outgoing.count other.1 = other.2.incoming.count item.1
  closed : ∀ item ∈ graph.nodes.items,
    ∀ id ∈ item.2.outgoing ++ item.2.incoming, id ∈ graph.nodes.keys

theorem converse_of_nodes (h : ValidTasks tasks) (hnodes : graph.nodes = buildNodes tasks) :
    Converse tasks graph := by
  have hitems := items_buildNodes h.distinct
  have hitem : ∀ item ∈ graph.nodes.items,
      item.2.outgoing = graph.nodes.outgoing item.1 ∧
        item.2.incoming = graph.nodes.incoming item.1 := by
    intro item hmem
    have hget : graph.nodes.get? item.1 = some item.2 := Dict.get?_eq_some.mpr hmem
    unfold Nodes.outgoing Nodes.incoming
    rw [hget]
    exact ⟨rfl, rfl⟩
  refine ⟨?_, fun item hmem => ?_, fun item hmem other hother => ?_, fun item hmem id hid => ?_⟩
  · rw [hnodes, hitems, List.map_map]
    rfl
  · rw [hnodes, hitems] at hmem
    obtain ⟨task, htask, rfl⟩ := List.mem_map.mp hmem
    show (sortedAscending (outgoingMap tasks task.id)).Perm task.dependencies
    rw [outgoingMap_eq h.distinct htask]
    exact perm_sortedAscending task.dependencies
  · rw [(hitem item hmem).1, (hitem other hother).2, hnodes, (outgoing_perm h _).count_eq,
      (incoming_perm h _).count_eq, count_childrenOf, count_parentsOf]
  · rw [(hitem item hmem).1, (hitem item hmem).2, hnodes, List.mem_append,
      (outgoing_perm h _).mem_iff, (incoming_perm h _).mem_iff, mem_parentsOf, mem_childrenOf] at hid
    rw [hnodes, keys_buildNodes h.distinct]
    rcases hid with hedge | hedge
    · exact (h.ends_mem hedge).1
    · exact (h.ends_mem hedge).2

/-- Every resolvable list of tasks is resolved. -/
theorem Resolvable.build (h : Resolvable tasks) : ∃ graph, build tasks = .ok graph := by
  obtain ⟨statistics, hstatistics, -⟩ := computeStatistics_spec h.toValidTasks h.acyclic
  exact ⟨⟨buildNodes tasks, statistics⟩, build_eq_ok.mpr ⟨h, rfl, hstatistics⟩⟩

/-- **The resolver is exact**: it succeeds exactly on tasks with unique identities, whose
    dependencies are other tasks and have no cycle. Then its two maps are converse, its depth is
    the length of a longest dependency chain, and its order is a permutation of the tasks, with
    every dependency before its dependents, that does not depend on the order of the input. -/
theorem build_exact (tasks : List EngineeringTask) :
    ((∃ graph, build tasks = .ok graph) ↔
      (taskIds tasks).Nodup ∧
      (∀ task ∈ tasks, ∀ dependency ∈ task.dependencies, dependency ∈ taskIds tasks) ∧
      (∀ task ∈ tasks, task.id ∉ task.dependencies) ∧
      Acyclic (dependencyEdges tasks)) ∧
    ∀ graph, build tasks = .ok graph →
      Converse tasks graph ∧
      IsGreatest (chainLengths tasks) graph.statistics.maximumDepth ∧
      ∃ order, graph.orderedTasks = .ok order ∧ order.Perm tasks ∧ PreSorted order ∧
        ∀ tasks' : List EngineeringTask, tasks'.Perm tasks →
          ∃ graph', build tasks' = .ok graph' ∧ graph'.orderedTasks = .ok order := by
  refine ⟨⟨?_, ?_⟩, ?_⟩
  · rintro ⟨graph, hbuild⟩
    obtain ⟨h, -, -⟩ := build_eq_ok.mp hbuild
    exact ⟨h.distinct, h.known, h.notSelf, h.acyclic⟩
  · rintro ⟨hdistinct, hknown, hnotSelf, hacyclic⟩
    exact Resolvable.build ⟨⟨hdistinct, hnotSelf, hknown⟩, hacyclic⟩
  · intro graph hbuild
    obtain ⟨h, hnodes, hstatistics⟩ := build_eq_ok.mp hbuild
    obtain ⟨statistics, hcomputed, hdepth⟩ := computeStatistics_spec h.toValidTasks h.acyclic
    obtain rfl := Except.ok.inj (hstatistics.symm.trans hcomputed)
    obtain ⟨order, horder, hperm, hleast⟩ :=
      orderedTasks_spec h.toValidTasks h.acyclic hnodes
    refine ⟨converse_of_nodes h.toValidTasks hnodes, hdepth, order, horder, hperm,
      preSorted_of_leastFirst hperm hleast, fun tasks' hperm' => ?_⟩
    -- The order of the other list is a least one of the same keys and edges.
    have h' := h.congr hperm'.symm
    obtain ⟨graph', hbuild'⟩ := h'.build
    obtain ⟨order', horder', hpermOrder, hleast'⟩ :=
      orderedTasks_spec h'.toValidTasks h'.acyclic (build_eq_ok.mp hbuild').2.1
    have hboth := hpermOrder.trans hperm'
    have hids : taskIds order' = taskIds order :=
      leastFirst_unique (fun id => (hperm'.map _).mem_iff)
        (mem_dependencyEdges_congr hperm') hleast' hleast
        ((hboth.trans hperm.symm).map EngineeringTask.id).length_eq
    have hsame : order' = order :=
      eq_of_map_key_eq h.distinct (fun task htask => hboth.mem_iff.mp htask)
        (fun task htask => hperm.mem_iff.mp htask) hids
    exact ⟨graph', hbuild', hsame ▸ horder'⟩

/-- The order of three tasks of which one depends on both others. -/
example : ((build [{ id := "c", dependencies := ["b", "a"] },
    { id := "b", dependencies := ["a"] }, { id := "a", dependencies := [] }]).toOption.bind fun graph =>
    graph.orderedTasks.toOption).map taskIds = some ["a", "b", "c"] := by
  decide +kernel

end Eag.Planner
