/-
  Eag.Graph.Impact

  Impact analysis (`algorithms/impact.py`): the nodes that depend on a node directly and
  indirectly, how many there are and how far they are away.

  `impact_exact_iff`: the report is exact unless the node depends on itself by an edge of its own;
  such a node is listed among its direct dependents.
-/

import Mathlib.Data.Finset.Card
import Eag.Foundation.BreadthFirst
import Eag.Graph.Traversal

namespace Eag.Graph

open Eag.Foundation
open Relation (ReflTransGen TransGen)

/-! ## The report -/

/-- The relationships that make one node depend on another. -/
def dependencyTypes : List RelationshipType :=
  [.imports, .dependsOn, .uses, .calls, .inherits, .publishesEvent, .subscribesEvent]

/-- `ImpactReport`. -/
structure ImpactReport where
  changedNode : GraphNode
  direct : List GraphNode
  indirect : List GraphNode
  depth : Nat
  total : Nat

namespace ImpactAnalyzer

variable (graph : EngineeringGraph)

/-- The edges by which something depends on a node. -/
def dependentEdges (nodeId : PyText) : List GraphEdge :=
  graph.edges.filter fun edge =>
    edge.target = nodeId ∧ edge.relationship ∈ dependencyTypes

/-- The sources of the dependency edges into a level. -/
def dependentsOf (level : List PyText) : List PyText :=
  ((graph.edges.filter fun edge =>
    edge.target ∈ level ∧ edge.relationship ∈ dependencyTypes).map GraphEdge.source).dedup

/-- `tuple(self._node_map[n] for n in ids if n in self._node_map)`; the order of a set is not
    specified, here it is that of the list. -/
def nodesNamed (nodeMap : Dict PyText GraphNode) (ids : List PyText) : List GraphNode :=
  ids.filterMap nodeMap.get?

/-- `impact`, of the analyzer of a graph. -/
def impact (nodeId : PyText) : Except String ImpactReport := do
  let engine ← TraversalEngine.make graph
  let affectedIds := (engine.bfs nodeId .inward dependencyTypes).dedup.filter (· ≠ nodeId)
  let directIds := ((dependentEdges graph nodeId).map GraphEdge.source).dedup
  let indirectIds := affectedIds.filter (· ∉ directIds)
  let depth := levels (dependentsOf graph) (graph.edges.length + 1) [nodeId] [nodeId]
  match (nodeMapOf graph).get? nodeId with
  | none => .error "KeyError"
  | some changedNode => .ok {
      changedNode
      direct := nodesNamed (nodeMapOf graph) directIds
      indirect := nodesNamed (nodeMapOf graph) indirectIds
      depth
      total := affectedIds.length }

end ImpactAnalyzer

/-! ## What an exact report says -/

/-- One node depends on another by an edge of the graph. -/
def DependsOn (graph : EngineeringGraph) (a b : PyText) : Prop :=
  ∃ edge ∈ graph.edges, edge.source = a ∧ edge.target = b ∧
    edge.relationship ∈ dependencyTypes

/-- The other nodes from which the node can be reached along a dependency path. -/
def Affected (graph : EngineeringGraph) (nodeId id : PyText) : Prop :=
  id ≠ nodeId ∧ TransGen (DependsOn graph) id nodeId

/-- The length of the shortest dependency path to the node. -/
def Distant (graph : EngineeringGraph) (nodeId id : PyText) (distance : Nat) : Prop :=
  AtDistance (· = nodeId) (fun a b => DependsOn graph b a) id distance

/-- An exact report of the impact of a node. -/
structure Exact (graph : EngineeringGraph) (nodeId : PyText) (report : ImpactReport) : Prop where
  changed : report.changedNode.id = nodeId
  disjoint : List.Disjoint (report.direct.map GraphNode.id) (report.indirect.map GraphNode.id)
  union : ∀ id, id ∈ report.direct.map GraphNode.id ∨ id ∈ report.indirect.map GraphNode.id ↔
    Affected graph nodeId id
  total : report.total =
    (report.direct.map GraphNode.id ++ report.indirect.map GraphNode.id).toFinset.card
  farthest : ∀ id, Affected graph nodeId id → ∃ distance ≤ report.depth,
    Distant graph nodeId id distance
  depth : report.depth = 0 ∧ (∀ id, ¬Affected graph nodeId id) ∨
    ∃ id, Affected graph nodeId id ∧ Distant graph nodeId id report.depth

/-! ## The parts of the report -/

section Parts

variable {graph : EngineeringGraph} {nodeId id : PyText}

theorem get?_nodeMapOf {node : GraphNode} (h : (nodeMapOf graph).get? id = some node) :
    node.id = id :=
  ((Dict.keyed_item (Dict.get?_eq_some.mp h)).2).symm

theorem exists_get?_nodeMapOf (h : id ∈ graph.nodeIds) :
    ∃ node, (nodeMapOf graph).get? id = some node := by
  obtain ⟨node, hnode, rfl⟩ := List.mem_map.mp h
  have hkeyed : ∃ filed ∈ (nodeMapOf graph).values, GraphNode.id filed = GraphNode.id node :=
    Dict.exists_mem_values_keyed hnode
  obtain ⟨filed, hfiled, hid⟩ := hkeyed
  obtain ⟨key, hitem⟩ := Dict.mem_values.mp hfiled
  have hkey : key = filed.id := (Dict.keyed_item hitem).2
  refine ⟨filed, Dict.get?_eq_some.mpr ?_⟩
  rw [← hid, ← hkey]
  exact hitem

/-- The nodes that are named are those of the names. -/
theorem map_id_nodesNamed {ids : List PyText} (h : ∀ id ∈ ids, id ∈ graph.nodeIds) :
    (ImpactAnalyzer.nodesNamed (nodeMapOf graph) ids).map GraphNode.id = ids := by
  induction ids with
  | nil => rfl
  | cons first rest ih =>
      obtain ⟨hfirst, hrest⟩ := List.forall_mem_cons.mp h
      obtain ⟨node, hnode⟩ := exists_get?_nodeMapOf hfirst
      unfold ImpactAnalyzer.nodesNamed at ih ⊢
      rw [List.filterMap_cons, hnode, List.map_cons, get?_nodeMapOf hnode, ih hrest]

theorem mem_direct : id ∈ ((ImpactAnalyzer.dependentEdges graph nodeId).map
    GraphEdge.source).dedup ↔ DependsOn graph id nodeId := by
  simp only [ImpactAnalyzer.dependentEdges, List.mem_dedup, List.mem_map, List.mem_filter,
    decide_eq_true_eq, DependsOn]
  constructor
  · rintro ⟨edge, ⟨hedge, htarget, htype⟩, hsource⟩
    exact ⟨edge, hedge, hsource, htarget, htype⟩
  · rintro ⟨edge, hedge, hsource, htarget, htype⟩
    exact ⟨edge, ⟨hedge, htarget, htype⟩, hsource⟩

theorem mem_dependentsOf (level : List PyText) (y : PyText) :
    y ∈ ImpactAnalyzer.dependentsOf graph level ↔ ∃ x ∈ level, DependsOn graph y x := by
  simp only [ImpactAnalyzer.dependentsOf, List.mem_dedup, List.mem_map, List.mem_filter,
    decide_eq_true_eq, DependsOn]
  constructor
  · rintro ⟨edge, ⟨hedge, htarget, htype⟩, hsource⟩
    exact ⟨edge.target, htarget, edge, hedge, hsource, rfl, htype⟩
  · rintro ⟨x, hx, edge, hedge, hsource, rfl, htype⟩
    exact ⟨edge, ⟨hedge, hx, htype⟩, hsource⟩

/-- The search against the edges finds what the node can be reached from. -/
theorem mem_affected {engine : TraversalEngine} (h : TraversalEngine.make graph = .ok engine) :
    id ∈ (engine.bfs nodeId .inward dependencyTypes).dedup.filter (· ≠ nodeId) ↔
      Affected graph nodeId id := by
  have hleads : TraversalEngine.Leads graph .inward dependencyTypes =
      Function.swap (DependsOn graph) := by
    funext a b
    refine propext (exists_congr fun edge => and_congr_right fun _ => ?_)
    exact and_left_comm
  have hsearch : id ∈ engine.bfs nodeId .inward dependencyTypes ↔
      ReflTransGen (TraversalEngine.Leads graph .inward dependencyTypes) nodeId id :=
    TraversalEngine.mem_bfs h nodeId id (List.cons_ne_nil _ _)
  rw [List.mem_filter, List.mem_dedup, hsearch, hleads, Relation.reflTransGen_swap, decide_eq_true_eq, and_comm, Affected]
  refine and_congr_right fun hne => ?_
  rw [Relation.reflTransGen_iff_eq_or_transGen]
  exact or_iff_right fun heq => hne heq.symm

/-- The depth is that of the farthest node. -/
theorem depth_spec (graph : EngineeringGraph) (nodeId : PyText) :
    Deepest (· = nodeId) (fun a b => DependsOn graph b a) 0
      (levels (ImpactAnalyzer.dependentsOf graph) (graph.edges.length + 1) [nodeId] [nodeId]) := by
  have hstart : Expanded (· = nodeId) (fun a b => DependsOn graph b a) 0 [nodeId] [nodeId] :=
    expanded_start fun _ => List.mem_singleton
  have hsources : ∀ level, ImpactAnalyzer.dependentsOf graph level ⊆
      graph.edges.map GraphEdge.source := by
    intro level y hy
    obtain ⟨x, -, edge, hedge, rfl, -⟩ := (mem_dependentsOf level y).mp hy
    exact List.mem_map_of_mem hedge
  refine hstart.levels_spec mem_dependentsOf hsources ((List.length_filter_le _ _).trans ?_)
  rw [List.length_map]
  exact Nat.le_succ _

theorem affected_of_distant {distance : Nat} (h : Distant graph nodeId id (distance + 1)) :
    Affected graph nodeId id := by
  have hne : id ≠ nodeId := fun heq => h.2 0 (Nat.succ_pos _) (.start heq)
  have hreach := exists_withinSteps_iff.mp ⟨_, h.1⟩
  have hswap : ReflTransGen (DependsOn graph) id nodeId := Relation.reflTransGen_swap.mp hreach
  exact ⟨hne, ((Relation.reflTransGen_iff_eq_or_transGen).mp hswap).resolve_left
    fun heq => hne heq.symm⟩

theorem within_of_affected (h : Affected graph nodeId id) :
    ∃ n, WithinSteps (· = nodeId) (fun a b => DependsOn graph b a) n id :=
  exists_withinSteps_iff.mpr (Relation.reflTransGen_swap.mpr h.2.to_reflTransGen)

end Parts

/-! ## The report is exact -/

section Report

variable {graph : EngineeringGraph} {nodeId : PyText} {report : ImpactReport}

/-- What a report is made of. -/
theorem impact_eq_ok (h : ImpactAnalyzer.impact graph nodeId = .ok report) :
    ∃ affectedIds : List PyText, affectedIds.Nodup ∧
      (∀ id, id ∈ affectedIds ↔ Affected graph nodeId id) ∧
      report.changedNode.id = nodeId ∧
      report.direct.map GraphNode.id =
        ((ImpactAnalyzer.dependentEdges graph nodeId).map GraphEdge.source).dedup ∧
      report.indirect.map GraphNode.id = affectedIds.filter (· ∉
        ((ImpactAnalyzer.dependentEdges graph nodeId).map GraphEdge.source).dedup) ∧
      report.depth = levels (ImpactAnalyzer.dependentsOf graph) (graph.edges.length + 1)
        [nodeId] [nodeId] ∧
      report.total = affectedIds.length := by
  simp only [ImpactAnalyzer.impact, except_bind_eq_ok] at h
  obtain ⟨engine, hengine, h⟩ := h
  split at h
  · cases h
  · next changedNode hchanged =>
      have hjoin : graph.EdgesJoinNodes := TraversalEngine.make_ok_iff.mp ⟨engine, hengine⟩
      have haffected : ∀ id, id ∈ (engine.bfs nodeId .inward dependencyTypes).dedup.filter
          (· ≠ nodeId) ↔ Affected graph nodeId id := fun id => mem_affected hengine
      cases h
      refine ⟨_, (List.nodup_dedup _).filter _, haffected, get?_nodeMapOf hchanged,
        map_id_nodesNamed fun id hid => ?_, map_id_nodesNamed fun id hid => ?_, rfl, rfl⟩
      · obtain ⟨edge, hedge, rfl, -⟩ := mem_direct.mp hid
        exact (hjoin edge hedge).1
      · -- A node from which another can be reached is the source of an edge.
        have hreach := ((haffected id).mp (List.mem_of_mem_filter hid)).2
        obtain ⟨_, ⟨edge, hedge, rfl, -⟩, -⟩ := Relation.TransGen.head'_iff.mp hreach
        exact (hjoin edge hedge).1

/-- **A report is exact** unless the node depends on itself by one edge. -/
theorem exact_iff (h : ImpactAnalyzer.impact graph nodeId = .ok report) :
    Exact graph nodeId report ↔ ¬DependsOn graph nodeId nodeId := by
  obtain ⟨affectedIds, hnodup, haffected, hchanged, hdirect, hindirect, hdepth, htotal⟩ :=
    impact_eq_ok h
  constructor
  · intro hexact hself
    have hmem : nodeId ∈ report.direct.map GraphNode.id := by
      rw [hdirect]
      exact mem_direct.mpr hself
    exact ((hexact.union nodeId).mp (.inl hmem)).1 rfl
  · intro hself
    have hdeepest := depth_spec graph nodeId
    rw [← hdepth] at hdeepest
    have hunion : ∀ id, id ∈ report.direct.map GraphNode.id ∨
        id ∈ report.indirect.map GraphNode.id ↔ Affected graph nodeId id := by
      intro id
      rw [hdirect, hindirect, List.mem_filter, haffected, decide_eq_true_eq, mem_direct]
      constructor
      · rintro (hdepends | ⟨hid, -⟩)
        · exact ⟨fun heq => hself (heq ▸ hdepends), .single hdepends⟩
        · exact hid
      · intro hid
        by_cases hdepends : DependsOn graph id nodeId
        · exact .inl hdepends
        · exact .inr ⟨hid, hdepends⟩
    refine {
      changed := hchanged
      disjoint := ?_
      union := hunion
      total := ?_
      farthest := ?_
      depth := ?_ }
    · intro id hdirectId hindirectId
      rw [hdirect] at hdirectId
      rw [hindirect] at hindirectId
      exact of_decide_eq_true (List.mem_filter.mp hindirectId).2 hdirectId
    · rw [htotal, ← List.toFinset_card_of_nodup hnodup]
      congr 1
      ext id
      rw [List.mem_toFinset, List.mem_toFinset, List.mem_append, hunion, haffected]
    · intro id hid
      obtain ⟨n, hn⟩ := within_of_affected hid
      have hwithin := hdeepest.within n id hn
      rw [Nat.zero_add] at hwithin
      exact hwithin.atDistance
    · cases hzero : report.depth with
      | zero =>
          refine .inl ⟨rfl, fun id hid => ?_⟩
          obtain ⟨n, hn⟩ := within_of_affected hid
          have hwithin := hdeepest.within n id hn
          rw [hzero, Nat.add_zero, WithinSteps.zero_iff] at hwithin
          exact hid.1 hwithin
      | succ depth =>
          obtain ⟨id, hid⟩ := hdeepest.reached depth (hzero ▸ Nat.lt_succ_self depth)
          rw [Nat.zero_add] at hid
          exact .inr ⟨id, affected_of_distant hid, hid⟩

/-- **Impact analysis returns an exact report** for a node exactly when the edges join nodes and
    the node does not depend on itself by one edge. -/
theorem impact_exact_iff (hnode : nodeId ∈ graph.nodeIds) :
    (∃ report, ImpactAnalyzer.impact graph nodeId = .ok report ∧ Exact graph nodeId report) ↔
      graph.EdgesJoinNodes ∧ ¬DependsOn graph nodeId nodeId := by
  constructor
  · rintro ⟨report, h, hexact⟩
    refine ⟨?_, (exact_iff h).mp hexact⟩
    simp only [ImpactAnalyzer.impact, except_bind_eq_ok] at h
    obtain ⟨engine, hengine, -⟩ := h
    exact TraversalEngine.make_ok_iff.mp ⟨engine, hengine⟩
  · rintro ⟨hjoin, hself⟩
    obtain ⟨engine, hengine⟩ := TraversalEngine.make_ok_iff.mpr hjoin
    obtain ⟨changedNode, hchanged⟩ := exists_get?_nodeMapOf hnode
    have hreturns : ∃ report, ImpactAnalyzer.impact graph nodeId = .ok report := by
      simp only [ImpactAnalyzer.impact, hengine, hchanged]
      exact ⟨_, rfl⟩
    obtain ⟨report, h⟩ := hreturns
    exact ⟨report, h, (exact_iff h).mpr hself⟩

end Report

/-! ## A function that calls itself -/

/-- One function that calls itself. -/
def recursiveFunction : EngineeringGraph where
  repository := .ofString "demo"
  state := .ready
  nodes := [⟨.ofString "function:f", .function, .ofString "f", .ofString "f", []⟩]
  edges := [⟨.ofString "function:f", .ofString "function:f", .calls⟩]
  statistics := ⟨1, 1, Dict.empty⟩

theorem impact_exact_recursiveFunction :
    (∃ report, ImpactAnalyzer.impact recursiveFunction (.ofString "function:f") = .ok report ∧
      Exact recursiveFunction (.ofString "function:f") report) ↔
    recursiveFunction.EdgesJoinNodes ∧
      ¬DependsOn recursiveFunction (.ofString "function:f") (.ofString "function:f") :=
  impact_exact_iff List.mem_cons_self

/-- The function is listed among its own direct dependents, and not counted. -/
theorem recursive_function_impacts_itself : ∃ report,
    ImpactAnalyzer.impact recursiveFunction (.ofString "function:f") = .ok report ∧
      report.direct.map GraphNode.id = [.ofString "function:f"] ∧ report.total = 0 ∧
      ¬Exact recursiveFunction (.ofString "function:f") report := by
  have hreport : ∃ report,
      ImpactAnalyzer.impact recursiveFunction (.ofString "function:f") = .ok report ∧
        report.direct.map GraphNode.id = [.ofString "function:f"] ∧ report.total = 0 :=
    ⟨_, rfl, by decide, by decide⟩
  obtain ⟨report, h, hdirect, htotal⟩ := hreport
  refine ⟨report, h, hdirect, htotal, fun hexact => ?_⟩
  have hmem : PyText.ofString "function:f" ∈ report.direct.map GraphNode.id := by
    rw [hdirect]
    exact List.mem_cons_self
  exact ((hexact.union _).mp (.inl hmem)).1 rfl

end Eag.Graph
