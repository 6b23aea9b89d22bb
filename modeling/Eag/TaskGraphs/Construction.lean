/-
  Eag.TaskGraphs.Construction

  Task graphs (`task_graph/models.py`, `task_graph/graph.py`): nodes with distinct
  identities and edges between them without a cycle, the nodes that are ready once some
  are completed, the constructor (`TaskGraph.__init__`), and `TaskGraph.topological_sort`.

  The sort is a search from the nodes in descending order of identity, which takes the
  children in descending order too. The finished nodes, newest first, are the result
  (`topologicalSort_order`).

  The check for a second edge compares edge objects by identity, so the edges are given as
  references to objects. The nested calls of the cycle search are taken without the limit an
  interpreter puts on them. What nobody who schedules a node reads of it is left out.
-/

import Mathlib.Data.List.Sort
import Mathlib.Data.Prod.Lex
import Mathlib.Data.String.Basic
import Eag.Foundation.Checks
import Eag.Foundation.DepthFirst
import Eag.Foundation.Dict
import Eag.Foundation.Text

namespace Eag.TaskGraphs

open Eag.Foundation

/-- Priority levels. -/
inductive TaskPriority where
  | low
  | normal
  | high
  | critical
  deriving DecidableEq, Repr

/-- `priority_order`. -/
def TaskPriority.order : TaskPriority → Nat
  | .critical => 0
  | .high => 1
  | .normal => 2
  | .low => 3

/-- One engineering activity. -/
structure TaskNode where
  id : String
  requiredCapability : String
  priority : TaskPriority
  deriving DecidableEq, Repr

/-- `(priority_order.get(n.priority.value, 2), n.id)`. -/
def TaskNode.key (node : TaskNode) : Nat ×ₗ String := toLex (node.priority.order, node.id)

/-- `nodes.sort(key=…)`. -/
def sortNodes (nodes : List TaskNode) : List TaskNode :=
  nodes.insertionSort fun a b => a.key ≤ b.key

theorem perm_sortNodes (nodes : List TaskNode) : (sortNodes nodes).Perm nodes :=
  List.perm_insertionSort _ nodes

@[simp] theorem mem_sortNodes {nodes : List TaskNode} {node : TaskNode} :
    node ∈ sortNodes nodes ↔ node ∈ nodes := List.mem_insertionSort _

/-- A dependency between two tasks; its ends were stripped. -/
structure TaskEdge where
  source : String
  target : String
  source_trimmed : Trimmed source
  target_trimmed : Trimmed target

/-- The two ends of an edge. -/
def TaskEdge.ends (edge : TaskEdge) : String × String := (edge.source, edge.target)

/-- A validated graph. -/
structure TaskGraph where
  nodes : List TaskNode
  edges : List TaskEdge
  ids_nodup : (nodes.map TaskNode.id).Nodup
  ends_mem : ∀ edge ∈ edges, edge.source ∈ nodes.map TaskNode.id ∧
    edge.target ∈ nodes.map TaskNode.id
  edges_nodup : (edges.map TaskEdge.ends).Nodup
  acyclic : Acyclic (edges.map TaskEdge.ends)

namespace TaskGraph

variable (graph : TaskGraph)

/-- The identities of the nodes. -/
def ids : Finset String := (graph.nodes.map TaskNode.id).toFinset

theorem mem_ids {id : String} : id ∈ graph.ids ↔ ∃ node ∈ graph.nodes, node.id = id := by
  simp [ids]

/-- `_parents_map.get(node_id, [])`. -/
def parents (id : String) : List String := parentsOf (graph.edges.map TaskEdge.ends) id

/-- `ready`. -/
def ready (completed : Finset String) : List TaskNode :=
  sortNodes (graph.nodes.filter fun node =>
    node.id ∉ completed ∧ ∀ p ∈ graph.parents node.id, p ∈ completed)

theorem mem_ready {completed : Finset String} {node : TaskNode} :
    node ∈ graph.ready completed ↔ node ∈ graph.nodes ∧ node.id ∉ completed ∧
      ∀ p ∈ graph.parents node.id, p ∈ completed := by
  simp [ready]

/-- `next(n for n in graph.nodes if n.id == id)` finds the node with the identity. -/
theorem find?_id {node : TaskNode} (h : node ∈ graph.nodes) :
    graph.nodes.find? (fun other => other.id = node.id) = some node :=
  find?_key graph.ids_nodup h

end TaskGraph

/-! ## Well-formed graphs -/

/-- The well-formed graphs: distinct node identities, edges between nodes, no edge from a
    node to itself, no two edges between the same ordered pair, and no cycle. -/
structure WellFormed (ids : List String) (edges : List (String × String)) : Prop where
  ids_nodup : ids.Nodup
  ends_mem : ∀ edge ∈ edges, edge.1 ∈ ids ∧ edge.2 ∈ ids
  noLoop : ∀ edge ∈ edges, edge.1 ≠ edge.2
  edges_nodup : edges.Nodup
  acyclic : Acyclic edges

/-- A constructor takes exactly the well-formed graphs. -/
def AdmitsDags (taken : Prop) (ids : List String) (edges : List (String × String)) : Prop :=
  taken ↔ WellFormed ids edges

/-! ## Construction -/

/-- What the constructors of graphs raise; `stuck` stands for a search of the model that
    ran out of steps. -/
inductive GraphError where
  | duplicateNode (message : String)
  | missingNode (message : String)
  | selfDependency (message : String)
  | duplicateEdge (message : String)
  | cycle (message : String)
  | stuck
  deriving DecidableEq, Repr

/-- `_check_cycles`: a search from every node. -/
def checkCycles (ids : List String) (edges : List (String × String)) (message : String) :
    Except GraphError Unit :=
  match search (childrenOf edges) true ids with
  | .ok _ => .ok ()
  | .error .cycle => .error (.cycle message)
  | .error .stuck => .error .stuck

theorem checkCycles_eq_ok {ids : List String} {edges : List (String × String)}
    {message : String} (hends : ∀ edge ∈ edges, edge.1 ∈ ids ∧ edge.2 ∈ ids) :
    checkCycles ids edges message = .ok () ↔ Acyclic edges := by
  rw [← search_isOk_iff (fun _ _ => mem_childrenOf) hends]
  unfold checkCycles
  cases search (childrenOf edges) true ids with
  | ok s => simp
  | error e => cases e <;> simp

section

variable (objects : Nat → TaskEdge) (nodes : List TaskNode) (refs : List Nat)

/-- The identities of the nodes. -/
def nodeIds : List String := nodes.map TaskNode.id

/-- The ends of the edges. -/
def edgeEnds : List (String × String) := refs.map fun ref => (objects ref).ends

/-- The checks of one edge. -/
def checkEdge (ref : Nat) : Except GraphError Unit := do
  let edge := objects ref
  require (edge.source ∈ nodeIds nodes)
    (.missingNode ("Edge source '" ++ edge.source ++ "' not found in nodes"))
  require (edge.target ∈ nodeIds nodes)
    (.missingNode ("Edge target '" ++ edge.target ++ "' not found in nodes"))
  require (edge.source ≠ edge.target)
    (.selfDependency ("Node '" ++ edge.source ++ "' cannot depend on itself"))
  require (∀ other ∈ refs, other ≠ ref → (objects other).ends ≠ edge.ends)
    (.duplicateEdge
      ("Duplicate edge from '" ++ edge.source ++ "' to '" ++ edge.target ++ "'"))

/-- `TaskGraph(nodes, edges)`. -/
def newTaskGraph : Except GraphError Unit := do
  require (nodeIds nodes).Nodup (.duplicateNode "Duplicate node IDs detected")
  refs.forM (checkEdge objects nodes refs)
  checkCycles (nodeIds nodes) (edgeEnds objects refs) "Cycle detected in task graph"

variable {objects nodes refs}

theorem mem_edgeEnds {ends : String × String} :
    ends ∈ edgeEnds objects refs ↔ ∃ ref ∈ refs, (objects ref).ends = ends := List.mem_map

/-- What a task graph was checked for. -/
structure Checked (objects : Nat → TaskEdge) (nodes : List TaskNode) (refs : List Nat) :
    Prop where
  ids_nodup : (nodeIds nodes).Nodup
  ends_mem : ∀ edge ∈ edgeEnds objects refs,
    edge.1 ∈ nodeIds nodes ∧ edge.2 ∈ nodeIds nodes
  noLoop : ∀ edge ∈ edgeEnds objects refs, edge.1 ≠ edge.2
  distinct : ∀ ref ∈ refs, ∀ other ∈ refs, other ≠ ref →
    (objects other).ends ≠ (objects ref).ends
  acyclic : Acyclic (edgeEnds objects refs)

theorem newTaskGraph_eq_ok : newTaskGraph objects nodes refs = .ok () ↔
    Checked objects nodes refs := by
  have hedge : ∀ ref, checkEdge objects nodes refs ref = .ok () ↔
      (objects ref).source ∈ nodeIds nodes ∧ (objects ref).target ∈ nodeIds nodes ∧
        (objects ref).source ≠ (objects ref).target ∧
        ∀ other ∈ refs, other ≠ ref → (objects other).ends ≠ (objects ref).ends := by
    intro ref
    unfold checkEdge
    simp only [except_bind_eq_ok, require_eq_ok, exists_const]
  unfold newTaskGraph
  simp only [except_bind_eq_ok, require_eq_ok, forM_eq_ok, hedge, exists_const]
  constructor
  · rintro ⟨hnodup, hedges, hcycles⟩
    have hends : ∀ edge ∈ edgeEnds objects refs,
        edge.1 ∈ nodeIds nodes ∧ edge.2 ∈ nodeIds nodes := by
      intro edge hmem
      obtain ⟨ref, href, rfl⟩ := mem_edgeEnds.mp hmem
      exact ⟨(hedges ref href).1, (hedges ref href).2.1⟩
    refine ⟨hnodup, hends, fun edge hmem => ?_, fun ref href => (hedges ref href).2.2.2,
      (checkCycles_eq_ok hends).mp hcycles⟩
    obtain ⟨ref, href, rfl⟩ := mem_edgeEnds.mp hmem
    exact (hedges ref href).2.2.1
  · intro h
    refine ⟨h.ids_nodup, fun ref href => ?_, (checkCycles_eq_ok h.ends_mem).mpr h.acyclic⟩
    have hmem : (objects ref).ends ∈ edgeEnds objects refs := mem_edgeEnds.mpr ⟨ref, href, rfl⟩
    exact ⟨(h.ends_mem _ hmem).1, (h.ends_mem _ hmem).2, h.noLoop _ hmem, h.distinct ref href⟩

/-- Listing an object again changes nothing about the checks. -/
theorem checked_iff_dedup : Checked objects nodes refs ↔
    WellFormed (nodeIds nodes) (edgeEnds objects refs.dedup) := by
  have hends : ∀ edge, edge ∈ edgeEnds objects refs.dedup ↔ edge ∈ edgeEnds objects refs := by
    intro edge
    simp only [mem_edgeEnds, List.mem_dedup]
  have hprecedes : Precedes (edgeEnds objects refs.dedup) = Precedes (edgeEnds objects refs) := by
    funext p k
    exact propext (hends (p, k))
  have hacyclic : Acyclic (edgeEnds objects refs.dedup) ↔ Acyclic (edgeEnds objects refs) := by
    unfold Acyclic
    rw [hprecedes]
  have hnodup : (edgeEnds objects refs.dedup).Nodup ↔ ∀ ref ∈ refs, ∀ other ∈ refs,
      other ≠ ref → (objects other).ends ≠ (objects ref).ends := by
    unfold edgeEnds
    rw [List.nodup_map_iff_inj_on refs.nodup_dedup]
    simp only [List.mem_dedup]
    constructor
    · intro h ref href other hother hne heq
      exact hne (h other hother ref href heq)
    · intro h ref href other hother heq
      by_contra hne
      exact h other hother ref href hne heq
  constructor
  · intro h
    exact ⟨h.ids_nodup, fun edge hmem => h.ends_mem edge ((hends edge).mp hmem),
      fun edge hmem => h.noLoop edge ((hends edge).mp hmem), hnodup.mpr h.distinct,
      hacyclic.mpr h.acyclic⟩
  · intro h
    exact ⟨h.ids_nodup, fun edge hmem => h.ends_mem edge ((hends edge).mpr hmem),
      fun edge hmem => h.noLoop edge ((hends edge).mpr hmem), hnodup.mp h.edges_nodup,
      hacyclic.mp h.acyclic⟩

/-- **Task graphs**: the constructor takes exactly the well-formed graphs unless an edge
    object is listed twice in a graph that is well formed without the repetition. -/
theorem taskGraph_admitsDags_iff :
    AdmitsDags (newTaskGraph objects nodes refs = .ok ()) (nodeIds nodes)
        (edgeEnds objects refs) ↔
      (WellFormed (nodeIds nodes) (edgeEnds objects refs.dedup) → refs.Nodup) := by
  unfold AdmitsDags
  rw [newTaskGraph_eq_ok, checked_iff_dedup]
  constructor
  · intro h hformed
    exact List.Nodup.of_map _ (h.mp hformed).edges_nodup
  · intro h
    constructor
    · intro hformed
      rwa [← (h hformed).dedup]
    · intro hformed
      have hrefs : refs.Nodup := List.Nodup.of_map _ hformed.edges_nodup
      rwa [hrefs.dedup]

end

/-! ## The sort -/

/-- `sorted(ids, reverse=True)`. -/
def sortedDescending (ids : List String) : List String := ids.insertionSort (· ≥ ·)

/-- `self._node_map[node_id]`: the last node with the identity. -/
def nodeOf? (nodes : List TaskNode) (id : String) : Option TaskNode :=
  nodes.reverse.find? (·.id = id)

/-- `topological_sort`; `none` stands for a `KeyError` or a search that did not end. -/
def topologicalSort (nodes : List TaskNode) (edges : List (String × String)) :
    Option (List TaskNode) :=
  match search (fun id => sortedDescending (childrenOf edges id)) false
      (sortedDescending (nodeIds nodes)) with
  | .error _ => none
  | .ok s => s.finished.mapM (nodeOf? nodes)

/-! ## Its parts -/

theorem perm_sortedDescending (ids : List String) : (sortedDescending ids).Perm ids :=
  List.perm_insertionSort _ ids

/-- The order of the input leaves no trace. -/
theorem sortedDescending_congr {ids ids' : List String} (h : ids.Perm ids') :
    sortedDescending ids = sortedDescending ids' := by
  refine List.Perm.eq_of_sortedGE ?_ ?_
    ((perm_sortedDescending ids).trans (h.trans (perm_sortedDescending ids').symm))
  · exact (List.pairwise_insertionSort (· ≥ ·) ids).sortedGE
  · exact (List.pairwise_insertionSort (· ≥ ·) ids').sortedGE

theorem childrenOf_congr {edges edges' : List (String × String)} (h : edges.Perm edges')
    (id : String) : (childrenOf edges id).Perm (childrenOf edges' id) :=
  (h.filter _).map _

/-- The node map finds every node. -/
theorem nodeOf?_eq_some {nodes : List TaskNode} (hnodup : (nodeIds nodes).Nodup)
    {node : TaskNode} (hnode : node ∈ nodes) : nodeOf? nodes node.id = some node := by
  have hreverse : (nodes.reverse.map TaskNode.id).Nodup := by
    rw [List.map_reverse, List.nodup_reverse]
    exact hnodup
  exact find?_key hreverse (List.mem_reverse.mpr hnode)

theorem nodeOf?_congr {nodes nodes' : List TaskNode} (hnodup : (nodeIds nodes).Nodup)
    (h : nodes.Perm nodes') (id : String) : nodeOf? nodes id = nodeOf? nodes' id := by
  have hnodup' : (nodeIds nodes').Nodup := ((h.map TaskNode.id).nodup_iff).mp hnodup
  by_cases hid : id ∈ nodeIds nodes
  · obtain ⟨node, hnode, rfl⟩ := List.mem_map.mp hid
    rw [nodeOf?_eq_some hnodup hnode, nodeOf?_eq_some hnodup' (h.mem_iff.mp hnode)]
  · have hnone : ∀ others : List TaskNode, others.Perm nodes → nodeOf? others id = none := by
      intro others hothers
      rw [nodeOf?, List.find?_eq_none]
      intro node hnode hkey
      have hmem : node ∈ nodes := hothers.mem_iff.mp (List.mem_reverse.mp hnode)
      exact hid (List.mem_map.mpr ⟨node, hmem, by simpa using hkey⟩)
    rw [hnone nodes (List.Perm.refl _), hnone nodes' h.symm]

/-! ## The order -/

section

variable {objects : Nat → TaskEdge} {nodes nodes' : List TaskNode} {refs refs' : List Nat}

theorem topologicalSort_spec (h : Checked objects nodes refs) :
    ∃ order, topologicalSort nodes (edgeEnds objects refs) = some order ∧ order.Perm nodes ∧
      ∀ edge ∈ edgeEnds objects refs,
        (order.map TaskNode.id).idxOf edge.1 < (order.map TaskNode.id).idxOf edge.2 := by
  have hroots := perm_sortedDescending (nodeIds nodes)
  have hchildren : ∀ p c, c ∈ sortedDescending (childrenOf (edgeEnds objects refs) p) ↔
      (p, c) ∈ edgeEnds objects refs := fun p c =>
    (perm_sortedDescending _).mem_iff.trans mem_childrenOf
  have hends : ∀ edge ∈ edgeEnds objects refs, edge.1 ∈ sortedDescending (nodeIds nodes) ∧
      edge.2 ∈ sortedDescending (nodeIds nodes) := fun edge hedge =>
    ⟨hroots.mem_iff.mpr (h.ends_mem edge hedge).1, hroots.mem_iff.mpr (h.ends_mem edge hedge).2⟩
  obtain ⟨s, hs, hperm, hbefore⟩ :=
    search_order hchildren hends h.acyclic (hroots.nodup_iff.mpr h.ids_nodup)
  have hids := hperm.trans hroots
  obtain ⟨order, horder, hmap, hmem⟩ :=
    mapM_lookup (fun node hnode => nodeOf?_eq_some h.ids_nodup hnode)
      fun id hid => hids.mem_iff.mp hid
  refine ⟨order, ?_, perm_of_map_key h.ids_nodup hmem (hmap ▸ hids), hmap ▸ hbefore⟩
  unfold topologicalSort
  rw [hs]
  exact horder

/-- The sort does not see the order of the nodes and of the edges. -/
theorem topologicalSort_congr {edges edges' : List (String × String)}
    (hnodup : (nodeIds nodes).Nodup) (hnodes : nodes.Perm nodes') (hedges : edges.Perm edges') :
    topologicalSort nodes edges = topologicalSort nodes' edges' := by
  have hchildren : (fun id => sortedDescending (childrenOf edges id)) =
      fun id => sortedDescending (childrenOf edges' id) :=
    funext fun id => sortedDescending_congr (childrenOf_congr hedges id)
  have hlookup : nodeOf? nodes = nodeOf? nodes' := funext (nodeOf?_congr hnodup hnodes)
  have hroots : sortedDescending (nodeIds nodes) = sortedDescending (nodeIds nodes') :=
    sortedDescending_congr (hnodes.map TaskNode.id)
  unfold topologicalSort
  rw [hchildren, hlookup, hroots]

/-- The checks do not see it either. -/
theorem checked_congr (h : Checked objects nodes refs) (hnodes : nodes.Perm nodes')
    (hrefs : refs.Perm refs') : Checked objects nodes' refs' := by
  have hids : (nodeIds nodes).Perm (nodeIds nodes') := hnodes.map _
  have hends : ∀ edge, edge ∈ edgeEnds objects refs' ↔ edge ∈ edgeEnds objects refs :=
    fun edge => (hrefs.map _).mem_iff.symm
  have hprecedes : Precedes (edgeEnds objects refs') = Precedes (edgeEnds objects refs) := by
    funext p k
    exact propext (hends (p, k))
  refine ⟨hids.nodup_iff.mp h.ids_nodup, fun edge hedge => ?_,
    fun edge hedge => h.noLoop edge ((hends edge).mp hedge), fun ref href other hother => ?_, ?_⟩
  · obtain ⟨hsource, htarget⟩ := h.ends_mem edge ((hends edge).mp hedge)
    exact ⟨hids.mem_iff.mp hsource, hids.mem_iff.mp htarget⟩
  · exact h.distinct ref (hrefs.mem_iff.mpr href) other (hrefs.mem_iff.mpr hother)
  · have hacyclic := h.acyclic
    unfold Acyclic at hacyclic ⊢
    rwa [hprecedes]

end

/-- A task of normal priority. -/
def plainTask (id : String) : TaskNode := ⟨id, "", .normal⟩

/-- An edge object from the first task to the second. -/
def firstToSecond (_ : Nat) : TaskEdge := ⟨"n1", "n2", by decide, by decide⟩

end Eag.TaskGraphs
