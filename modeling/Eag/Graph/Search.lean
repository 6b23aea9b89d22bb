/-
  Eag.Graph.Search

  The searches of a graph: `TraversalEngine.bfs`, `dfs` and `reverse_reachable`
  (`algorithms/traversal.py`), and `PathFinder.path` (`algorithms/path.py`).

  They work on identities; what they promise is about the nodes that have them. In a graph
  whose nodes have distinct identities the two are the same (`withinSteps_id_iff`,
  `isPath_ids_iff`), so each search is exact (`search_exact`).
-/

import Eag.Foundation.PreorderWalk
import Eag.Foundation.ShortestPaths
import Eag.Graph.Impact

namespace Eag.Graph

open Eag.Foundation
open Relation (ReflTransGen)

/-! ## Traversals -/

/-- `TraversalResult`. -/
structure TraversalResult where
  nodes : List GraphNode

namespace TraversalEngine

variable (engine : TraversalEngine)

/-- `tuple(self._node_map[n] for n in ids if n in self._node_map)`. -/
def result (ids : List PyText) : TraversalResult :=
  ⟨ImpactAnalyzer.nodesNamed engine.nodeMap ids⟩

/-- `bfs`. -/
def bfsFrom (start : PyText) : TraversalResult := engine.result (engine.bfs start .outward [])

/-- `reverse_reachable`. -/
def reverseReachable (start : PyText) : TraversalResult :=
  engine.result (engine.bfs start .inward [])

/-- `self._outgoing.get(node, [])`. -/
def neighboursOut (node : PyText) : List PyText := (engine.outgoing.get? node).getD []

/-- `dfs`. Every edge puts at most one entry on the stack, besides the start. -/
def dfs (start : PyText) : TraversalResult :=
  engine.result (stackSearch engine.neighboursOut (engine.graph.edges.length + 1) [start] [])

end TraversalEngine

/-! ## Paths -/

/-- `PathReport`. -/
structure PathReport where
  start : GraphNode
  end_ : GraphNode
  path : List GraphNode
  distance : Int

/-- `PathFinder.path`, with the engine of the finder. -/
def PathFinder.path (engine : TraversalEngine) (startId endId : PyText) :
    Except String PathReport :=
  match engine.nodeMap.get? startId, engine.nodeMap.get? endId with
  | some start, some end_ =>
      match pathSearch engine.neighboursOut endId (engine.graph.edges.length + 1)
          [(startId, [startId])] [startId] with
      | some path => do
          let nodes ← path.mapM fun id =>
            match engine.nodeMap.get? id with
            | some node => .ok node
            | none => .error "KeyError"
          return ⟨start, end_, nodes, path.length - 1⟩
      | none => .ok ⟨start, end_, [], -1⟩
  | _, _ => .error "KeyError"

/-! ## What the searches promise -/

namespace EngineeringGraph

variable (graph : EngineeringGraph)

/-- An edge of the graph leads from one of its nodes to another. -/
def Joins (direction : Direction) (a b : GraphNode) : Prop :=
  a ∈ graph.nodes ∧ b ∈ graph.nodes ∧
    ∃ edge ∈ graph.edges, direction.near edge = a.id ∧ direction.far edge = b.id

/-- The neighbours of an identity, in the order of the edges. -/
def neighbours (direction : Direction) (id : PyText) : List PyText :=
  (graph.edges.filter fun edge => direction.near edge = id).map direction.far

end EngineeringGraph

/-- The nodes are those that can be reached from the start, each once. -/
structure Visits (graph : EngineeringGraph) (direction : Direction) (start : GraphNode)
    (nodes : List GraphNode) : Prop where
  nodup : nodes.Nodup
  mem_iff : ∀ node, node ∈ nodes ↔
    node ∈ graph.nodes ∧ ReflTransGen (graph.Joins direction) start node

/-- The report names a shortest path between its ends, or says truthfully that there is none. -/
structure PathExact (graph : EngineeringGraph) (start target : GraphNode) (report : PathReport) :
    Prop where
  start_eq : report.start = start
  end_eq : report.end_ = target
  shortest : (∃ nodes, IsPath (graph.Joins .outward) start target nodes) →
    IsShortest (graph.Joins .outward) start target report.path ∧
      report.distance = report.path.length - 1
  unreachable_iff : report.path = [] ∧ report.distance = -1 ↔
    ¬ ∃ nodes, IsPath (graph.Joins .outward) start target nodes

/-- What the searches from a node promise. -/
structure SearchExact (graph : EngineeringGraph) (engine : TraversalEngine) (start : GraphNode) :
    Prop where
  path : ∀ target ∈ graph.nodes, ∃ report,
    PathFinder.path engine start.id target.id = .ok report ∧ PathExact graph start target report
  bfs : Visits graph .outward start (engine.bfsFrom start.id).nodes
  bfs_sorted : (engine.bfsFrom start.id).nodes.Pairwise fun a b =>
    distance (graph.Joins .outward) start a ≤ distance (graph.Joins .outward) start b
  dfs : Visits graph .outward start (engine.dfs start.id).nodes
  dfs_preorder : Walk (graph.neighbours .outward) [] [start.id]
    ((engine.dfs start.id).nodes.map GraphNode.id)
  reverse_reachable : Visits graph .inward start (engine.reverseReachable start.id).nodes

/-! ## Identities and nodes -/

section Identities

variable {graph : EngineeringGraph} {direction : Direction}

theorem mem_neighbours_iff {a b : PyText} : b ∈ graph.neighbours direction a ↔
    ∃ edge ∈ graph.edges, direction.near edge = a ∧ direction.far edge = b := by
  unfold EngineeringGraph.neighbours
  simp only [List.mem_map, List.mem_filter, decide_eq_true_eq, and_assoc]

/-- An edge leads to the identity of a node. -/
theorem far_mem_nodeIds (hjoin : graph.EdgesJoinNodes) {edge : GraphEdge}
    (hedge : edge ∈ graph.edges) : direction.far edge ∈ graph.nodeIds := by
  cases direction with
  | outward => exact (hjoin edge hedge).2
  | inward => exact (hjoin edge hedge).1

theorem near_mem_nodeIds (hjoin : graph.EdgesJoinNodes) {edge : GraphEdge}
    (hedge : edge ∈ graph.edges) : direction.near edge ∈ graph.nodeIds := by
  cases direction with
  | outward => exact (hjoin edge hedge).1
  | inward => exact (hjoin edge hedge).2

variable (hdistinct : graph.nodeIds.Nodup)

include hdistinct

theorem node_ext {a b : GraphNode} (ha : a ∈ graph.nodes) (hb : b ∈ graph.nodes)
    (h : a.id = b.id) : a = b := eq_of_key_eq hdistinct ha hb h

/-- Steps between nodes are steps between their identities. -/
theorem withinSteps_id_iff (hjoin : graph.EdgesJoinNodes) {start node : GraphNode}
    (hstart : start ∈ graph.nodes) (hnode : node ∈ graph.nodes) (n : Nat) :
    WithinSteps (· = start) (graph.Joins direction) n node ↔
      WithinSteps (· = start.id) (Around (graph.neighbours direction)) n node.id := by
  constructor
  · intro h
    clear hnode
    induction h with
    | start heq => exact .start (congrArg GraphNode.id heq)
    | step _ hjoins ih =>
        obtain ⟨-, -, edge, hedge, hnear, hfar⟩ := hjoins
        exact .step ih (mem_neighbours_iff.mpr ⟨edge, hedge, hnear, hfar⟩)
  · intro h
    generalize hid : node.id = id at h
    induction h generalizing node with
    | start heq => exact .start (node_ext hdistinct hnode hstart (hid.trans heq))
    | step hbefore hadjacent ih =>
        obtain ⟨edge, hedge, hnear, hfar⟩ := mem_neighbours_iff.mp hadjacent
        obtain ⟨before, hmem, hbeforeId⟩ :=
          List.mem_map.mp (@near_mem_nodeIds _ direction hjoin edge hedge)
        refine .step (ih hmem (hbeforeId.trans hnear)) ⟨hmem, hnode, edge, hedge, ?_, ?_⟩
        · exact hbeforeId.symm
        · exact hfar.trans hid.symm

theorem reachable_id_iff (hjoin : graph.EdgesJoinNodes) {start node : GraphNode}
    (hstart : start ∈ graph.nodes) (hnode : node ∈ graph.nodes) :
    ReflTransGen (graph.Joins direction) start node ↔
      ReflTransGen (Around (graph.neighbours direction)) start.id node.id := by
  rw [← exists_withinSteps_iff, ← exists_withinSteps_iff]
  exact exists_congr fun n => withinSteps_id_iff hdistinct hjoin hstart hnode n

theorem distance_id (hjoin : graph.EdgesJoinNodes) {start node : GraphNode}
    (hstart : start ∈ graph.nodes) (hnode : node ∈ graph.nodes) :
    distance (graph.Joins direction) start node
      = distance (Around (graph.neighbours direction)) start.id node.id := by
  unfold distance
  simp only [withinSteps_id_iff hdistinct hjoin hstart hnode]

/-- Paths of nodes are paths of their identities. -/
theorem isPath_ids_iff {start target : GraphNode} (hstart : start ∈ graph.nodes)
    (htarget : target ∈ graph.nodes) {nodes : List GraphNode}
    (hnodes : ∀ node ∈ nodes, node ∈ graph.nodes) :
    IsPath (graph.Joins direction) start target nodes ↔
      IsPath (Around (graph.neighbours direction)) start.id target.id
        (nodes.map GraphNode.id) := by
  have hends : ∀ {found : Option GraphNode} {node : GraphNode}, node ∈ graph.nodes →
      (∀ other ∈ found, other ∈ graph.nodes) →
      (found = some node ↔ found.map GraphNode.id = some node.id) := by
    intro found node hnode hfound
    cases found with
    | none => simp
    | some other =>
        simp only [Option.some.injEq, Option.map_some]
        exact ⟨congrArg _, node_ext hdistinct (hfound other rfl) hnode⟩
  have hchain : nodes.IsChain (graph.Joins direction) ↔
      (nodes.map GraphNode.id).IsChain (Around (graph.neighbours direction)) := by
    rw [List.isChain_map]
    refine List.IsChain.iff_of_mem_imp fun a b ha hb => ?_
    rw [Around, mem_neighbours_iff]
    exact ⟨fun h => h.2.2, fun h => ⟨hnodes a ha, hnodes b hb, h⟩⟩
  constructor
  · rintro ⟨h, hhead, hlast⟩
    refine ⟨hchain.mp h, ?_, ?_⟩
    · rw [List.head?_map, hhead]
      rfl
    · rw [List.getLast?_map, hlast]
      rfl
  · rintro ⟨h, hhead, hlast⟩
    rw [List.head?_map] at hhead
    rw [List.getLast?_map] at hlast
    exact ⟨hchain.mpr h,
      (hends hstart fun other hmem => hnodes other (List.mem_of_head? hmem)).mpr hhead,
      (hends htarget fun other hmem => hnodes other (List.mem_of_getLast? hmem)).mpr hlast⟩

end Identities

/-! ## The engine of a graph -/

section Engine

variable {graph : EngineeringGraph} {engine : TraversalEngine}

/-- The neighbours that an engine has on file. -/
theorem adjacency_eq (h : TraversalEngine.make graph = .ok engine) (direction : Direction)
    (id : PyText) :
    ((engine.adjacency direction).get? id).getD [] = graph.neighbours direction id := by
  obtain ⟨-, -, hfiled⟩ := TraversalEngine.make_eq_ok direction h
  rw [hfiled.get?_eq]
  split
  · rfl
  · next hnot =>
      symm
      rw [Option.getD_none, List.eq_nil_iff_forall_not_mem]
      intro other hother
      obtain ⟨edge, hedge, hnear, -⟩ := mem_neighbours_iff.mp hother
      exact hnot (hnear ▸ hfiled.joined edge hedge)

/-- Without types, no neighbour is passed over. -/
theorem bfs_eq (h : TraversalEngine.make graph = .ok engine) (direction : Direction)
    (start : PyText) :
    engine.bfs start direction [] = queueSearch (graph.neighbours direction)
      (graph.edges.length + 1) [start] [start] := by
  have haround : (fun node => (((engine.adjacency direction).get? node).getD []).filter
      (engine.joins direction [] node)) = graph.neighbours direction := by
    funext node
    rw [adjacency_eq h]
    exact List.filter_eq_self.mpr fun other _ => rfl
  unfold TraversalEngine.bfs
  rw [haround, (TraversalEngine.make_eq_ok direction h).1]

theorem neighboursOut_eq (h : TraversalEngine.make graph = .ok engine) :
    engine.neighboursOut = graph.neighbours .outward := by
  funext id
  exact adjacency_eq h .outward id

/-- Every identity that a search comes to, besides its start, is the far end of an edge. -/
theorem mem_far_of_around {direction : Direction} {start : PyText} (x : PyText) :
    ∀ y ∈ graph.neighbours direction x, y ∈ start :: graph.edges.map direction.far := by
  intro y hy
  obtain ⟨edge, hedge, -, rfl⟩ := mem_neighbours_iff.mp hy
  exact List.mem_cons_of_mem _ (List.mem_map_of_mem hedge)

/-- What a search finds, by identity. -/
theorem mem_bfs_iff (h : TraversalEngine.make graph = .ok engine) (direction : Direction)
    (start id : PyText) : id ∈ engine.bfs start direction [] ↔
      ReflTransGen (Around (graph.neighbours direction)) start id := by
  rw [bfs_eq h]
  refine mem_queueSearch (start :: graph.edges.map direction.far) List.mem_cons_self
    mem_far_of_around (found_start _ start) (Nat.le_refl _) ?_ id
  rw [List.length_cons, List.length_map]
  exact Nat.le_add_right _ _

/-- What can be reached from the identity of a node is the identity of a node. -/
theorem mem_nodeIds_of_reachable (hjoin : graph.EdgesJoinNodes) {direction : Direction}
    {start id : PyText} (hstart : start ∈ graph.nodeIds)
    (h : ReflTransGen (Around (graph.neighbours direction)) start id) : id ∈ graph.nodeIds := by
  rcases Relation.ReflTransGen.cases_tail h with rfl | ⟨before, -, hadjacent⟩
  · exact hstart
  · obtain ⟨edge, hedge, -, rfl⟩ := mem_neighbours_iff.mp hadjacent
    exact far_mem_nodeIds hjoin hedge

variable (hdistinct : graph.nodeIds.Nodup) (hjoin : graph.EdgesJoinNodes)

include hdistinct in
theorem get?_nodeMap_iff (h : TraversalEngine.make graph = .ok engine) {id : PyText}
    {node : GraphNode} : engine.nodeMap.get? id = some node ↔ node ∈ graph.nodes ∧ node.id = id := by
  rw [(TraversalEngine.make_eq_ok .outward h).2.1]
  have hfiled : ∀ {found}, (nodeMapOf graph).get? id = some found →
      found ∈ graph.nodes ∧ found.id = id := fun hget =>
    ⟨(Dict.keyed_item (Dict.get?_eq_some.mp hget)).1, get?_nodeMapOf hget⟩
  constructor
  · exact hfiled
  · rintro ⟨hnode, rfl⟩
    obtain ⟨found, hfound⟩ := exists_get?_nodeMapOf (List.mem_map_of_mem hnode)
    obtain ⟨hmem, hid⟩ := hfiled hfound
    rw [hfound, node_ext hdistinct hmem hnode hid]

include hdistinct in
/-- The nodes of a result have the identities that were found. -/
theorem result_spec (h : TraversalEngine.make graph = .ok engine) {ids : List PyText}
    (hids : ∀ id ∈ ids, id ∈ graph.nodeIds) :
    (engine.result ids).nodes.map GraphNode.id = ids ∧
      ∀ node ∈ (engine.result ids).nodes, node ∈ graph.nodes := by
  have hmap := (TraversalEngine.make_eq_ok .outward h).2.1
  constructor
  · unfold TraversalEngine.result
    rw [hmap]
    exact map_id_nodesNamed hids
  · intro node hnode
    obtain ⟨id, -, hget⟩ := List.mem_filterMap.mp hnode
    exact ((get?_nodeMap_iff hdistinct h).mp hget).1

include hdistinct hjoin in
/-- A search that finds the identities that can be reached, each once, visits the nodes that can
    be. -/
theorem visits_of_ids (h : TraversalEngine.make graph = .ok engine) {direction : Direction}
    {start : GraphNode} (hstart : start ∈ graph.nodes) {ids : List PyText} (hnodup : ids.Nodup)
    (hmem : ∀ id, id ∈ ids ↔
      ReflTransGen (Around (graph.neighbours direction)) start.id id) :
    Visits graph direction start (engine.result ids).nodes := by
  have hknown : ∀ id ∈ ids, id ∈ graph.nodeIds := fun id hid =>
    mem_nodeIds_of_reachable hjoin (List.mem_map_of_mem hstart) ((hmem id).mp hid)
  obtain ⟨hnames, hnodes⟩ := result_spec hdistinct h hknown
  refine ⟨.of_map GraphNode.id (by rw [hnames]; exact hnodup), fun node => ?_⟩
  constructor
  · intro hnode
    refine ⟨hnodes node hnode, ?_⟩
    rw [reachable_id_iff hdistinct hjoin hstart (hnodes node hnode), ← hmem, ← hnames]
    exact List.mem_map_of_mem hnode
  · rintro ⟨hnode, hreach⟩
    rw [reachable_id_iff hdistinct hjoin hstart hnode, ← hmem, ← hnames] at hreach
    obtain ⟨other, hother, hid⟩ := List.mem_map.mp hreach
    rwa [← node_ext hdistinct (hnodes other hother) hnode hid]

include hjoin in
/-- The identities that a search gives a path of are those of nodes. -/
theorem mem_nodeIds_of_isPath {start target : PyText} (hstart : start ∈ graph.nodeIds)
    {path : List PyText}
    (h : IsPath (Around (graph.neighbours .outward)) start target path) :
    ∀ id ∈ path, id ∈ graph.nodeIds := by
  refine h.forall_mem hstart fun a b hadjacent => ?_
  obtain ⟨edge, hedge, -, rfl⟩ := mem_neighbours_iff.mp hadjacent
  exact far_mem_nodeIds hjoin hedge

/-- Edges filed under distinct keys are no more than the edges. -/
theorem sum_filed_le {κ : Type} [DecidableEq κ] (key : GraphEdge → κ) {keys : List κ}
    (hkeys : keys.Nodup) (edges : List GraphEdge) :
    (keys.map fun k => (edges.filter fun edge => key edge = k).length).sum ≤ edges.length := by
  induction keys generalizing edges with
  | nil => exact Nat.zero_le _
  | cons first keys ih =>
      obtain ⟨hfirst, hkeys⟩ := List.nodup_cons.mp hkeys
      have hrest := ih hkeys (edges.filter fun edge => ¬ key edge = first)
      have hsame : (keys.map fun k =>
          ((edges.filter fun edge => ¬ key edge = first).filter fun edge => key edge = k).length)
          = keys.map fun k => (edges.filter fun edge => key edge = k).length := by
        refine List.map_congr_left fun k hk => ?_
        rw [List.filter_filter]
        refine congrArg _ (List.filter_congr fun edge _ => ?_)
        by_cases hkey : key edge = k
        · have hne : ¬ key edge = first := fun heq => hfirst (heq ▸ hkey ▸ hk)
          simp [hkey, show ¬ k = first from hkey ▸ hne]
        · simp [hkey]
      rw [hsame] at hrest
      have hsplit := List.length_eq_length_filter_add (l := edges)
        fun edge => decide (key edge = first)
      have hneg : (edges.filter fun edge => ¬ key edge = first)
          = edges.filter fun edge => !decide (key edge = first) :=
        List.filter_congr fun edge _ => decide_not
      rw [hneg] at hrest
      rw [List.map_cons, List.sum_cons]
      omega

include hdistinct hjoin in
/-- `dfs` visits in the order of the recursive walk. -/
theorem walk_dfs (h : TraversalEngine.make graph = .ok engine) {start : PyText}
    (hstart : start ∈ graph.nodeIds) :
    Walk (graph.neighbours .outward) [] [start]
      (stackSearch engine.neighboursOut (engine.graph.edges.length + 1) [start] []) := by
  rw [neighboursOut_eq h, (TraversalEngine.make_eq_ok .outward h).1]
  have hstack : [start] ⊆ graph.nodeIds := List.cons_subset.mpr ⟨hstart, List.nil_subset _⟩
  refine stackSearch_walk (fun x _ y hy => ?_) hstack ?_
  · obtain ⟨edge, hedge, -, rfl⟩ := mem_neighbours_iff.mp hy
    exact far_mem_nodeIds hjoin hedge
  · have hle := sum_filed_le (Direction.near .outward) hdistinct graph.edges
    have hnone : neighboursLeft (graph.neighbours .outward) graph.nodeIds []
        = (graph.nodeIds.map fun id =>
            (graph.edges.filter fun edge => Direction.near .outward edge = id).length).sum := by
      unfold neighboursLeft EngineeringGraph.neighbours
      simp
    rw [List.length_singleton, hnone]
    omega

include hdistinct hjoin in
/-- `path` reports a shortest path, or that there is none. -/
theorem path_exact (h : TraversalEngine.make graph = .ok engine) {start target : GraphNode}
    (hstart : start ∈ graph.nodes) (htarget : target ∈ graph.nodes) :
    ∃ report, PathFinder.path engine start.id target.id = .ok report ∧
      PathExact graph start target report := by
  have hget : ∀ {node : GraphNode}, node ∈ graph.nodes →
      engine.nodeMap.get? node.id = some node := fun hnode =>
    (get?_nodeMap_iff hdistinct h).mpr ⟨hnode, rfl⟩
  have hids : ∀ {nodes}, IsPath (graph.Joins .outward) start target nodes →
      IsPath (Around (graph.neighbours .outward)) start.id target.id
        (nodes.map GraphNode.id) := fun hpath =>
    (isPath_ids_iff hdistinct hstart htarget
      (hpath.forall_mem hstart fun _ _ hjoins => hjoins.2.1)).mp hpath
  unfold PathFinder.path
  rw [hget hstart, hget htarget, neighboursOut_eq h, (TraversalEngine.make_eq_ok .outward h).1]
  dsimp only
  have hfuel : (start.id :: graph.edges.map (Direction.far .outward)).length
      ≤ graph.edges.length + 1 + ([start.id].length - [(start.id, [start.id])].length) := by
    rw [List.length_cons, List.length_map]
    exact Nat.le_add_right _ _
  rcases pathSearch_spec (start.id :: graph.edges.map (Direction.far .outward))
      List.mem_cons_self mem_far_of_around
      (carried_start (graph.neighbours .outward) start.id target.id) (Nat.le_refl _) hfuel with
    ⟨path, hpath, hshortest⟩ | ⟨hnone, hunreachable⟩
  · rw [hpath]
    have hnamed : ∀ id ∈ path, ∃ node ∈ graph.nodes, node.id = id := fun id hid =>
      List.mem_map.mp (mem_nodeIds_of_isPath hjoin (List.mem_map_of_mem hstart) hshortest.1 id hid)
    -- every identity of the path has a node on file
    have hfile : ∀ id ∈ path, ∃ node, engine.nodeMap.get? id = some node ∧
        (engine.nodeMap.get? id).getD start = node ∧ node ∈ graph.nodes ∧ node.id = id := by
      intro id hid
      obtain ⟨node, hnode, rfl⟩ := hnamed id hid
      exact ⟨node, hget hnode, by rw [hget hnode]; rfl, hnode, rfl⟩
    have hmapM : (path.mapM fun id =>
        match engine.nodeMap.get? id with
        | some node => (.ok node : Except String GraphNode)
        | none => .error "KeyError")
        = .ok (path.map fun id => (engine.nodeMap.get? id).getD start) := by
      refine mapM_ok fun id hid => ?_
      obtain ⟨node, hsome, -⟩ := hfile id hid
      rw [hsome]
      rfl
    have hback : (path.map fun id => (engine.nodeMap.get? id).getD start).map GraphNode.id
        = path := by
      rw [List.map_map]
      refine Eq.trans (List.map_congr_left fun id hid => ?_) (List.map_id path)
      obtain ⟨node, -, hgetD, -, hid⟩ := hfile id hid
      rw [Function.comp_apply, hgetD, hid]
      rfl
    have hnodes : ∀ node ∈ path.map fun id => (engine.nodeMap.get? id).getD start,
        node ∈ graph.nodes := by
      intro node hnode
      obtain ⟨id, hid, rfl⟩ := List.mem_map.mp hnode
      obtain ⟨node, -, hgetD, hmem, -⟩ := hfile id hid
      rw [hgetD]
      exact hmem
    dsimp only
    rw [hmapM]
    generalize path.map (fun id => (engine.nodeMap.get? id).getD start) = nodes at hback hnodes
    have hlength : path.length = nodes.length := by rw [← hback, List.length_map]
    have hnodePath : IsPath (graph.Joins .outward) start target nodes :=
      (isPath_ids_iff hdistinct hstart htarget hnodes).mpr (hback.symm ▸ hshortest.1)
    refine ⟨_, rfl, rfl, rfl, fun _ => ⟨⟨hnodePath, fun others hothers => ?_⟩, ?_⟩, ?_⟩
    · have hle := hshortest.2 _ (hids hothers)
      rw [List.length_map, hlength] at hle
      exact hle
    · show (path.length : Int) - 1 = nodes.length - 1
      rw [hlength]
    · refine iff_of_false ?_ (not_not.mpr ⟨nodes, hnodePath⟩)
      rintro ⟨hempty, -⟩
      have hhead := hnodePath.head
      rw [show nodes = [] from hempty] at hhead
      cases hhead
  · rw [hnone]
    have hnoPath : ¬ ∃ nodes, IsPath (graph.Joins .outward) start target nodes := by
      rintro ⟨nodes, hpath⟩
      exact hunreachable (exists_isPath_iff.mp ⟨_, hids hpath⟩)
    exact ⟨_, rfl, rfl, rfl, fun hsome => absurd hsome hnoPath, iff_of_true ⟨rfl, rfl⟩ hnoPath⟩

/-- **Graph search is exact**: paths are shortest and are found whenever there are any, and the
    traversals visit what can be reached, in the order of the distances and of the recursive
    walk. -/
theorem search_exact (graph : EngineeringGraph) (hdistinct : graph.nodeIds.Nodup)
    (hjoin : graph.EdgesJoinNodes) :
    ∃ engine, TraversalEngine.make graph = .ok engine ∧
      ∀ start ∈ graph.nodes, SearchExact graph engine start := by
  obtain ⟨engine, h⟩ := TraversalEngine.make_ok_iff.mpr hjoin
  refine ⟨engine, h, fun start hstart => ?_⟩
  have hstartId : start.id ∈ graph.nodeIds := List.mem_map_of_mem hstart
  have hnodup : ∀ direction, (engine.bfs start.id direction []).Nodup := fun direction => by
    rw [bfs_eq h]
    exact (found_start _ start.id).nodup_queueSearch _
  have hwalk := walk_dfs hdistinct hjoin h hstartId
  have hdfsIds : ∀ id ∈ stackSearch engine.neighboursOut (engine.graph.edges.length + 1)
      [start.id] [], id ∈ graph.nodeIds := fun id hid =>
    mem_nodeIds_of_reachable hjoin hstartId ((mem_walk hwalk id).mp hid)
  have hbfsIds : ∀ id ∈ engine.bfs start.id .outward [], id ∈ graph.nodeIds := fun id hid =>
    mem_nodeIds_of_reachable hjoin hstartId ((mem_bfs_iff h .outward start.id id).mp hid)
  refine ⟨?_, ?_, ?_, ?_, ?_, ?_⟩
  · exact fun target htarget => path_exact hdistinct hjoin h hstart htarget
  · exact visits_of_ids hdistinct hjoin h hstart (hnodup .outward) (mem_bfs_iff h .outward start.id)
  · -- the order is that of the identities, whose distances are those of their nodes
    obtain ⟨hnames, hnodes⟩ := result_spec hdistinct h hbfsIds
    have hsorted := (levelled_start (graph.neighbours .outward) start.id).queueSearch_sorted
      (graph.edges.length + 1)
    rw [← bfs_eq h, ← hnames, List.pairwise_map] at hsorted
    refine hsorted.imp_of_mem fun {a b} ha hb hle => ?_
    rw [distance_id hdistinct hjoin hstart (hnodes a ha),
      distance_id hdistinct hjoin hstart (hnodes b hb)]
    exact hle
  · exact visits_of_ids hdistinct hjoin h hstart (hwalk.nodup List.nodup_nil) (mem_walk hwalk)
  · rw [show (engine.dfs start.id).nodes.map GraphNode.id = _ from
      (result_spec hdistinct h hdfsIds).1]
    exact hwalk
  · exact visits_of_ids hdistinct hjoin h hstart (hnodup .inward) (mem_bfs_iff h .inward start.id)

end Engine

/-! ## Two functions that call each other -/

/-- Two functions, each of which calls the other. -/
def mutualRecursion : EngineeringGraph where
  repository := .ofString "demo"
  state := .ready
  nodes := [⟨.ofString "function:f", .function, .ofString "f", .ofString "f", []⟩,
    ⟨.ofString "function:g", .function, .ofString "g", .ofString "g", []⟩]
  edges := [⟨.ofString "function:f", .ofString "function:g", .calls⟩,
    ⟨.ofString "function:g", .ofString "function:f", .calls⟩]
  statistics := ⟨2, 2, Dict.empty⟩

theorem search_exact_mutualRecursion :
    ∃ engine, TraversalEngine.make mutualRecursion = .ok engine ∧
      ∀ start ∈ mutualRecursion.nodes, SearchExact mutualRecursion engine start :=
  search_exact mutualRecursion (by decide) (by unfold EngineeringGraph.EdgesJoinNodes; decide)

end Eag.Graph
